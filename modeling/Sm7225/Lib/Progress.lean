import Sm7225.Lib.Run

/-!
# Progress in a run

Several parties take their steps in any order.  If each step of one party lowers a
rank and no step raises it, then the rank is used up after as many steps of this party,
whatever the others do in between.
-/

namespace Sm7225
namespace Lib

variable {ε σ ι ρ : Type}
variable {exec : ι -> EStateM ε σ ρ} {I : σ -> Prop} {P : σ -> ι -> Prop}
variable {E : ε -> σ -> Prop}

/-- The turns of one party in a run. -/
def turns (mine : ι -> Bool) (is : List ι) : Nat :=
  is.countP mine

theorem turns_cons (mine : ι -> Bool) (i : ι) (is : List ι) :
    turns mine (i :: is) = turns mine is + (mine i).toNat := by
  unfold turns
  rw [List.countP_cons]
  cases mine i with
  | true => rfl
  | false => rfl

theorem run_sat_rank {rank : σ -> Nat} {mine : ι -> Bool}
    (hstep : forall s i, I s -> P s i ->
      Sat (exec i) (fun _ t => I t ∧ rank t <= rank s - (mine i).toNat) E s) :
    forall (is : List ι) (s : σ), I s -> Along exec P is s ->
      Sat (run exec is) (fun _ t => I t ∧ rank t <= rank s - turns mine is) E s := by
  apply run_sat_since (fun s _ => Nat.le_refl (rank s))
  intro s i hs hi
  apply (hstep s i hs hi).imp
  intro _ t ht
  refine ⟨ht.1, ?_⟩
  intro is u hrest
  have hfirst := ht.2
  rw [turns_cons]
  lia

theorem run_sat_rank_zero {rank : σ -> Nat} {mine : ι -> Bool}
    (hstep : forall s i, I s -> P s i ->
      Sat (exec i) (fun _ t => I t ∧ rank t <= rank s - (mine i).toNat) E s)
    {is : List ι} {s : σ} (hs : I s) (halong : Along exec P is s)
    (hturns : rank s <= turns mine is) :
    Sat (run exec is) (fun _ t => I t ∧ rank t = 0) E s := by
  apply (run_sat_rank hstep is s hs halong).imp
  intro _ t ht
  refine ⟨ht.1, ?_⟩
  have hrank := ht.2
  lia

theorem run_sat_potential {rank : σ -> Nat} {pays adds : ι -> Bool}
    (hstep : forall s i, I s -> P s i ->
      Sat (exec i)
        (fun _ t => I t ∧ (rank t = 0 ∨ rank s ≠ 0 ∧
          rank t + (pays i).toNat <= rank s + (adds i).toNat)) E s) :
    forall (is : List ι) (s : σ), I s -> Along exec P is s ->
      Sat (run exec is)
        (fun _ t => I t ∧ (rank t = 0 ∨ rank s ≠ 0 ∧
          rank t + turns pays is <= rank s + turns adds is)) E s := by
  apply run_sat_since
  · intro s _
    by_cases hzero : rank s = 0
    · exact Or.inl hzero
    · exact Or.inr ⟨hzero, Nat.le_refl _⟩
  · intro s i hs hi
    apply (hstep s i hs hi).imp
    intro _ t ht
    refine ⟨ht.1, ?_⟩
    intro is u hu
    rcases hu with hpaid | ⟨hdue, hrest⟩
    · exact Or.inl hpaid
    · rcases ht.2 with hpaid | ⟨hdue', hfirst⟩
      · exact absurd hpaid hdue
      · right
        rw [turns_cons, turns_cons]
        exact ⟨hdue', by lia⟩

theorem run_sat_paid {rank : σ -> Nat} {pays adds : ι -> Bool}
    (hstep : forall s i, I s -> P s i ->
      Sat (exec i)
        (fun _ t => I t ∧ (rank t = 0 ∨ rank s ≠ 0 ∧
          rank t + (pays i).toNat <= rank s + (adds i).toNat)) E s)
    {is : List ι} {s : σ} (hs : I s) (halong : Along exec P is s)
    (hturns : rank s + turns adds is <= turns pays is) :
    Sat (run exec is) (fun _ t => I t ∧ rank t = 0) E s := by
  apply (run_sat_potential hstep is s hs halong).imp
  intro _ t ht
  refine ⟨ht.1, ?_⟩
  rcases ht.2 with hpaid | ⟨_, hdue⟩
  · exact hpaid
  · lia

end Lib
end Sm7225
