import Sm7225.Lib.Run

/-!
# Two programs side by side

Two programs run alike under a relation of their states when, started in related
states, both end normally with related results, or both abort for the same
reason, and in related states again.  The module has a rule for each construct
of a program, and the rule for runs.
-/

namespace Sm7225
namespace Lib

variable {ε σ α α' β β' : Type}

def EndsAlike (R : σ -> σ -> Prop) (Q : α -> α' -> Prop) :
    EStateM.Result ε σ α -> EStateM.Result ε σ α' -> Prop
  | .ok a s, .ok a' s' => Q a a' ∧ R s s'
  | .error e s, .error e' s' => e = e' ∧ R s s'
  | _, _ => False

def Alike (R : σ -> σ -> Prop) (Q : α -> α' -> Prop) (m : EStateM ε σ α)
    (m' : EStateM ε σ α') : Prop :=
  forall s s', R s s' -> EndsAlike R Q (m s) (m' s')

section Rules

variable {R : σ -> σ -> Prop} {Q : α -> α' -> Prop} {P : β -> β' -> Prop}
variable {m n : EStateM ε σ α} {m' n' : EStateM ε σ α'}
variable {f : α -> EStateM ε σ β} {f' : α' -> EStateM ε σ β'}

theorem alike_pure {a : α} {a' : α'} (h : Q a a') :
    Alike R Q (pure a : EStateM ε σ α) (pure a') :=
  fun _ _ hs => ⟨h, hs⟩

theorem alike_throw {e : ε} :
    Alike R Q (throw e : EStateM ε σ α) (throw e) :=
  fun _ _ hs => ⟨rfl, hs⟩

theorem alike_modify {g g' : σ -> σ} (h : forall s s', R s s' -> R (g s) (g' s')) :
    Alike R (fun _ _ => True) (modify g : EStateM ε σ PUnit) (modify g') :=
  fun s s' hs => ⟨trivial, h s s' hs⟩

theorem Alike.bind (h : Alike R Q m m')
    (hf : forall a a', Q a a' -> Alike R P (f a) (f' a')) :
    Alike R P (m >>= f) (m' >>= f') := by
  intro s s' hs
  have hm := h s s' hs
  show EndsAlike R P (EStateM.bind m f s) (EStateM.bind m' f' s')
  unfold EStateM.bind
  cases hms : m s with
  | ok a t =>
      rw [hms] at hm
      cases hms' : m' s' with
      | ok a' t' =>
          rw [hms'] at hm
          exact hf a a' hm.1 t t' hm.2
      | error e' t' =>
          rw [hms'] at hm
          exact hm.elim
  | error e t =>
      rw [hms] at hm
      cases hms' : m' s' with
      | ok a' t' =>
          rw [hms'] at hm
          exact hm.elim
      | error e' t' =>
          rw [hms'] at hm
          exact hm

theorem alike_get {g : σ -> EStateM ε σ β} {g' : σ -> EStateM ε σ β'}
    (h : forall s s', R s s' -> Alike R P (g s) (g' s')) :
    Alike R P (get >>= g) (get >>= g') :=
  fun s s' hs => h s s' hs s s' hs

theorem alike_ite {c c' : Prop} [Decidable c] [Decidable c'] (hc : c <-> c')
    (hm : Alike R Q m m') (hn : Alike R Q n n') :
    Alike R Q (if c then m else n) (if c' then m' else n') := by
  by_cases h : c
  · rw [if_pos h, if_pos (hc.mp h)]
    exact hm
  · rw [if_neg h, if_neg (fun h' => h (hc.mpr h'))]
    exact hn

theorem Alike.seq {k : EStateM ε σ β} {k' : EStateM ε σ β'}
    (h : Alike R Q m m') (hk : Alike R P k k') :
    Alike R P (m >>= fun _ => k) (m' >>= fun _ => k') :=
  h.bind (fun _ _ _ => hk)

end Rules

theorem alike_run {ι ρ : Type} {R : σ -> σ -> Prop}
    {exec : ι -> EStateM ε σ ρ} {is : List ι}
    (h : forall i, i ∈ is -> Alike R (fun r r' => r = r') (exec i) (exec i)) :
    Alike R (fun rs rs' => rs = rs') (run exec is) (run exec is) := by
  induction is with
  | nil => exact alike_pure rfl
  | cons i is ih =>
      apply (h i List.mem_cons_self).bind
      intro r r' hr
      have hrest := ih (fun j hj => h j (List.mem_cons_of_mem i hj))
      apply hrest.bind
      intro rs rs' hrs
      apply alike_pure
      rw [hr, hrs]

end Lib
end Sm7225
