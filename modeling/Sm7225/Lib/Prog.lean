/-!
# Programs with state that may abort

A program is a Lean state monad with an exception, {lit}`EStateM`: it ends
normally with a value and a state, or it aborts and keeps the state it was in.
This module collects the rules for pre- and postconditions of such programs.
-/

namespace Sm7225
namespace Lib

variable {ε σ α β : Type}

/-- Every way the program {lit}`m` can end from {lit}`s`: normally in
{lit}`Q`, or by an abort in {lit}`E`. -/
def Sat (m : EStateM ε σ α) (Q : α -> σ -> Prop) (E : ε -> σ -> Prop)
    (s : σ) : Prop :=
  match m s with
  | .ok a t => Q a t
  | .error e t => E e t

section Rules

variable {m : EStateM ε σ α} {f : α -> EStateM ε σ β}
variable {Q Q' : α -> σ -> Prop} {E E' : ε -> σ -> Prop} {s : σ}

@[simp] theorem sat_pure {a : α} :
    Sat (pure a : EStateM ε σ α) Q E s <-> Q a s := Iff.rfl

@[simp] theorem sat_throw {e : ε} :
    Sat (throw e : EStateM ε σ α) Q E s <-> E e s := Iff.rfl

@[simp] theorem sat_get {P : σ -> σ -> Prop} :
    Sat (get : EStateM ε σ σ) P E s <-> P s s := Iff.rfl

@[simp] theorem sat_modify {g : σ -> σ} {P : Unit -> σ -> Prop} :
    Sat (modify g : EStateM ε σ Unit) P E s <-> P () (g s) := Iff.rfl

@[simp] theorem sat_bind {P : β -> σ -> Prop} :
    Sat (m >>= f) P E s <-> Sat m (fun a t => Sat (f a) P E t) E s := by
  unfold Sat
  show (match EStateM.bind m f s with
    | .ok a t => P a t
    | .error e t => E e t) <-> _
  unfold EStateM.bind
  cases m s <;> rfl

theorem sat_ite {c : Prop} [Decidable c] {n : EStateM ε σ α} :
    Sat (if c then m else n) Q E s <->
      (c -> Sat m Q E s) ∧ (¬c -> Sat n Q E s) := by
  by_cases hc : c
  · simp [hc]
  · simp [hc]

theorem get_bind_apply {f : σ -> EStateM ε σ α} : (get >>= f) s = f s s := rfl

theorem sat_of_ok {a : α} {t : σ} (hm : m s = .ok a t) :
    Sat m Q E s <-> Q a t := by
  unfold Sat
  rw [hm]

theorem sat_of_error {e : ε} {t : σ} (hm : m s = .error e t) :
    Sat m Q E s <-> E e t := by
  unfold Sat
  rw [hm]

instance Sat.decidable [forall a t, Decidable (Q a t)]
    [forall e t, Decidable (E e t)] : Decidable (Sat m Q E s) :=
  match h : m s with
  | .ok _ _ => decidable_of_iff _ (sat_of_ok h).symm
  | .error _ _ => decidable_of_iff _ (sat_of_error h).symm

theorem Sat.mono (h : Sat m Q E s) (hQ : forall a t, Q a t -> Q' a t)
    (hE : forall e t, E e t -> E' e t) : Sat m Q' E' s := by
  cases hm : m s with
  | ok a t => exact (sat_of_ok hm).mpr (hQ a t ((sat_of_ok hm).mp h))
  | error e t => exact (sat_of_error hm).mpr (hE e t ((sat_of_error hm).mp h))

theorem Sat.imp (h : Sat m Q E s) (hQ : forall a t, Q a t -> Q' a t) :
    Sat m Q' E s :=
  h.mono hQ (fun _ _ he => he)

theorem Sat.bind {P : β -> σ -> Prop} (h : Sat m Q E s)
    (hf : forall a t, Q a t -> Sat (f a) P E t) : Sat (m >>= f) P E s :=
  sat_bind.mpr (h.imp hf)

theorem Sat.and (h : Sat m Q E s) (h' : Sat m Q' E' s) :
    Sat m (fun a t => Q a t ∧ Q' a t) (fun e t => E e t ∧ E' e t) s := by
  cases hm : m s with
  | ok a t =>
      exact (sat_of_ok hm).mpr ⟨(sat_of_ok hm).mp h, (sat_of_ok hm).mp h'⟩
  | error e t =>
      exact (sat_of_error hm).mpr
        ⟨(sat_of_error hm).mp h, (sat_of_error hm).mp h'⟩

theorem Sat.elim {p : Prop} (h : Sat m (fun _ _ => p) (fun _ _ => p) s) : p := by
  cases hm : m s with
  | ok a t => exact (sat_of_ok hm).mp h
  | error e t => exact (sat_of_error hm).mp h

theorem Sat.total (h : Sat m Q (fun _ _ => False) s) (hQ : forall a t, Q a t -> Q' a t) :
    Sat m Q' E s :=
  h.mono hQ (fun _ _ hfalse => hfalse.elim)

theorem Sat.returns (h : Sat m Q (fun _ _ => False) s) :
    exists a t, m s = .ok a t ∧ Q a t := by
  cases hm : m s with
  | ok a t => exact ⟨a, t, rfl, (sat_of_ok hm).mp h⟩
  | error e t => exact ((sat_of_error hm).mp h).elim

theorem sat_true : Sat m (fun _ _ => True) (fun _ _ => True) s := by
  unfold Sat
  cases m s <;> trivial

end Rules

end Lib
end Sm7225
