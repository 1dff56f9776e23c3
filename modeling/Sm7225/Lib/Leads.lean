import Mathlib.Order.Defs.Unbundled
import Sm7225.Lib.Run

/-!
# How far a program moves the state

A program leads along a relation when, however it ends, its last state is in the
relation with its first.  For a relation that is reflexive and transitive there
is a rule for each construct of a program.
-/

namespace Sm7225
namespace Lib

variable {ε σ α β : Type}

/-- The program only moves the state along {lit}`R`. -/
def Leads (R : σ -> σ -> Prop) (m : EStateM ε σ α) : Prop :=
  forall s, Sat m (fun _ t => R s t) (fun _ t => R s t) s

section Rules

variable {R R' : σ -> σ -> Prop} {m n : EStateM ε σ α}
variable {f : α -> EStateM ε σ β}

theorem Leads.mono (h : Leads R m) (hR : forall s t, R s t -> R' s t) :
    Leads R' m :=
  fun s => (h s).mono (fun _ t ht => hR s t ht) (fun _ t ht => hR s t ht)

theorem leads_modify {g : σ -> σ} (h : forall s, R s (g s)) :
    Leads R (modify g : EStateM ε σ Unit) :=
  fun s => h s

theorem leads_pure [Std.Refl R] {a : α} : Leads R (pure a : EStateM ε σ α) :=
  fun s => Std.Refl.refl s

theorem leads_throw [Std.Refl R] {e : ε} : Leads R (throw e : EStateM ε σ α) :=
  fun s => Std.Refl.refl s

theorem Sat.after [IsTrans σ R] {s t : σ} (hst : R s t)
    (h : Sat m (fun _ u => R t u) (fun _ u => R t u) t) :
    Sat m (fun _ u => R s u) (fun _ u => R s u) t := by
  apply h.mono
  · intro _ u hu
    exact IsTrans.trans s t u hst hu
  · intro _ u hu
    exact IsTrans.trans s t u hst hu

theorem Sat.leads_bind [IsTrans σ R] {s : σ}
    (h : Sat m (fun _ t => R s t) (fun _ t => R s t) s)
    (hf : forall a, Leads R (f a)) :
    Sat (m >>= f) (fun _ t => R s t) (fun _ t => R s t) s := by
  apply h.bind
  intro a t ht
  exact (hf a t).after ht

theorem Leads.bind [IsTrans σ R] (h : Leads R m) (hf : forall a, Leads R (f a)) :
    Leads R (m >>= f) :=
  fun s => (h s).leads_bind hf

theorem leads_get {g : σ -> EStateM ε σ β} (h : forall s, Leads R (g s)) :
    Leads R (get >>= g) :=
  fun s => h s s

theorem leads_ite {c : Prop} [Decidable c] (hm : c -> Leads R m)
    (hn : ¬c -> Leads R n) : Leads R (if c then m else n) := by
  by_cases hc : c
  · rw [if_pos hc]
    exact hm hc
  · rw [if_neg hc]
    exact hn hc

theorem leads_run {ι ρ : Type} [Std.Refl R] [IsTrans σ R] {exec : ι -> EStateM ε σ ρ}
    {is : List ι} (h : forall i, i ∈ is -> Leads R (exec i)) : Leads R (run exec is) := by
  induction is with
  | nil => exact leads_pure
  | cons i is ih =>
      apply (h i List.mem_cons_self).bind
      intro r
      apply (ih fun j hj => h j (List.mem_cons_of_mem i hj)).bind
      intro rs
      exact leads_pure

end Rules

end Lib
end Sm7225
