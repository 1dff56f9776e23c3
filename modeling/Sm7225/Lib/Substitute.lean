import Sm7225.Lib.Splice

/-!
# Replacing every place of a pattern

A scan from the left replaces each place of a pattern that starts after the place
before it.  No two places of an unbordered pattern overlap.  Then the scan overwrites
all places, and what it writes is given by the data alone.
-/

namespace Sm7225
namespace Lib

variable {α : Type} {old new pattern data out : List α}

/-!
# Places of a pattern that is replaced
-/

def Unbordered (p : List α) : Prop :=
  forall shift, shift < p.length -> shift ≠ 0 ->
    exists i, i < p.length ∧ shift + i < p.length ∧ p[i]? ≠ p[shift + i]?

instance Unbordered.decidable [DecidableEq α] (p : List α) : Decidable (Unbordered p) :=
  inferInstanceAs (Decidable (forall shift, shift < p.length -> _))

theorem Unbordered.places (h : Unbordered pattern) {i j : Nat}
    (hi : OccursAt pattern data i) (hj : OccursAt pattern data j) (hlt : i < j) :
    i + pattern.length <= j := by
  by_contra hover
  rcases h (j - i) (by lia) (by lia) with ⟨k, hk, hshift, hne⟩
  rw [occursAt_iff] at hi hj
  have hplace : i + (j - i + k) = j + k := by lia
  have hbyte := hi (j - i + k) hshift
  rw [hplace, hj k hk] at hbyte
  exact hne hbyte

theorem occursAt_succ_iff {a : α} {i : Nat} :
    OccursAt pattern (a :: data) (i + 1) <-> OccursAt pattern data i := by
  unfold OccursAt slice
  rw [List.drop_succ_cons]

def CoveredAt (pattern data : List α) (i : Nat) : Prop :=
  exists off, OccursAt pattern data off ∧ off <= i ∧ i < off + pattern.length

structure Overwritten (old new data out : List α) : Prop where
  length : out.length = data.length
  inside : forall off, OccursAt old data off -> OccursAt new out off
  outside : forall i, ¬ CoveredAt old data i -> out[i]? = data[i]?

theorem Overwritten.eq_of_gone (h : Overwritten old new data out)
    (hgone : forall i, ¬ OccursAt old data i) : out = data := by
  apply List.ext_getElem?
  intro i
  apply h.outside
  intro hcovered
  rcases hcovered with ⟨off, hoff, _⟩
  exact hgone off hoff

/-!
# The scan
-/

variable [DecidableEq α]

def substituteFrom (old new : List α) : List α -> Nat -> List α
  | [], _ => []
  | _ :: data, covered + 1 => substituteFrom old new data covered
  | a :: data, 0 =>
      if old.isPrefixOf (a :: data) then
        new ++ substituteFrom old new data (old.length - 1)
      else
        a :: substituteFrom old new data 0

def substitute (old new data : List α) : List α :=
  substituteFrom old new data 0

section Scan

variable (hlength : new.length = old.length) (hold : old ≠ [])
include hlength hold

theorem length_substituteFrom (covered : Nat) :
    (substituteFrom old new data covered).length = data.length - covered := by
  induction data generalizing covered with
  | nil => simp [substituteFrom]
  | cons a data ih =>
      cases covered with
      | succ covered =>
          rw [substituteFrom, ih covered, List.length_cons]
          lia
      | zero =>
          have hpos : 0 < old.length := List.length_pos_iff.mpr hold
          rw [substituteFrom]
          by_cases hprefix : old.isPrefixOf (a :: data)
          · have hfits := (occursAt_zero_iff.mpr hprefix).fits hold
            rw [List.length_cons] at hfits
            rw [if_pos hprefix, List.length_append, ih, List.length_cons]
            lia
          · rw [if_neg hprefix, List.length_cons, ih, List.length_cons]
            lia

theorem substituteFrom_inside (hunbordered : Unbordered old) {covered j k : Nat}
    (hplace : OccursAt old data (covered + j)) (hk : k < new.length) :
    (substituteFrom old new data covered)[j + k]? = new[k]? := by
  induction data generalizing covered j with
  | nil =>
      have hfits := hplace.fits hold
      have hpos : 0 < old.length := List.length_pos_iff.mpr hold
      rw [List.length_nil] at hfits
      lia
  | cons a data ih =>
      cases covered with
      | succ covered =>
          rw [substituteFrom]
          apply ih
          have hnext : covered + 1 + j = covered + j + 1 := by lia
          rw [hnext, occursAt_succ_iff] at hplace
          exact hplace
      | zero =>
          rw [Nat.zero_add] at hplace
          rw [substituteFrom]
          by_cases hprefix : old.isPrefixOf (a :: data)
          · have hfirst : OccursAt old (a :: data) 0 := occursAt_zero_iff.mpr hprefix
            rw [if_pos hprefix]
            cases j with
            | zero =>
                rw [Nat.zero_add, List.getElem?_append_left hk]
            | succ j =>
                -- the next place begins behind the first
                have hapart := hunbordered.places hfirst hplace (Nat.succ_pos j)
                have hpos : 0 < old.length := List.length_pos_iff.mpr hold
                rw [List.getElem?_append_right (by lia)]
                have hindex : j + 1 + k - new.length = (j + 1 - old.length) + k := by lia
                rw [hindex]
                apply ih
                have hnext : old.length - 1 + (j + 1 - old.length) = j := by lia
                rw [hnext]
                exact occursAt_succ_iff.mp hplace
          · rw [if_neg hprefix]
            cases j with
            | zero => exact absurd (occursAt_zero_iff.mp hplace) hprefix
            | succ j =>
                have hindex : j + 1 + k = j + k + 1 := by lia
                rw [hindex, List.getElem?_cons_succ]
                apply ih
                rw [Nat.zero_add]
                exact occursAt_succ_iff.mp hplace

theorem substituteFrom_outside {covered i : Nat}
    (hi : ¬ CoveredAt old data (covered + i)) :
    (substituteFrom old new data covered)[i]? = data[covered + i]? := by
  induction data generalizing covered i with
  | nil => simp [substituteFrom]
  | cons a data ih =>
      have htail : forall j, ¬ CoveredAt old (a :: data) (j + 1) -> ¬ CoveredAt old data j := by
        intro j hj hcovered
        rcases hcovered with ⟨off, hoff, hle, hlt⟩
        exact hj ⟨off + 1, occursAt_succ_iff.mpr hoff, by lia, by lia⟩
      cases covered with
      | succ covered =>
          have hnext : covered + 1 + i = covered + i + 1 := by lia
          rw [hnext] at hi ⊢
          rw [substituteFrom, List.getElem?_cons_succ]
          exact ih (htail _ hi)
      | zero =>
          have hpos : 0 < old.length := List.length_pos_iff.mpr hold
          rw [Nat.zero_add] at hi ⊢
          rw [substituteFrom]
          by_cases hprefix : old.isPrefixOf (a :: data)
          · have hbehind : old.length <= i := by
              by_contra hinside
              exact hi ⟨0, occursAt_zero_iff.mpr hprefix, Nat.zero_le i, by lia⟩
            have hnext : old.length - 1 + (i - new.length) + 1 = i := by lia
            rw [if_pos hprefix, List.getElem?_append_right (by lia), ih, ← hnext,
              List.getElem?_cons_succ]
            · congr 1
              lia
            · apply htail
              rw [hnext]
              exact hi
          · rw [if_neg hprefix]
            cases i with
            | zero => rfl
            | succ i =>
                rw [List.getElem?_cons_succ, List.getElem?_cons_succ, ih]
                · rw [Nat.zero_add]
                · rw [Nat.zero_add]
                  exact htail i hi

theorem substitute_overwritten (hunbordered : Unbordered old) (data : List α) :
    Overwritten old new data (substitute old new data) where
  length := length_substituteFrom hlength hold 0
  inside := by
    intro off hoff
    rw [occursAt_iff]
    intro k hk
    exact substituteFrom_inside hlength hold hunbordered
      (by rw [Nat.zero_add]; exact hoff) hk
  outside := by
    intro i hi
    rw [← Nat.zero_add i] at hi ⊢
    rw [← substituteFrom_outside hlength hold hi, Nat.zero_add]
    rfl

end Scan

/-!
# Places after the scan
-/

theorem Overwritten.occursAt_iff (h : Overwritten old new data out)
    (hlength : new.length = old.length) (hold : Apart pattern old)
    (hnew : Apart pattern new) (i : Nat) :
    OccursAt pattern out i <-> OccursAt pattern data i := by
  have hsame : forall k, k < pattern.length ->
      (OccursAt pattern out i ∨ OccursAt pattern data i) -> out[i + k]? = data[i + k]? := by
    intro k hk hplace
    apply h.outside
    intro hcovered
    rcases hcovered with ⟨off, hoff, hle, hlt⟩
    rcases hplace with hout | hdata
    · have hapart := hnew.places hout (h.inside off hoff)
      lia
    · have hapart := hold.places hdata hoff
      lia
  constructor
  · intro hout
    rw [Lib.occursAt_iff]
    intro k hk
    rw [← hsame k hk (Or.inl hout)]
    exact Lib.occursAt_iff.mp hout k hk
  · intro hdata
    rw [Lib.occursAt_iff]
    intro k hk
    rw [hsame k hk (Or.inr hdata)]
    exact Lib.occursAt_iff.mp hdata k hk

theorem Overwritten.gone (h : Overwritten old new data out)
    (hlength : new.length = old.length) (hold : old ≠ []) (hapart : Apart old new) (i : Nat) :
    ¬ OccursAt old out i := by
  intro hout
  have hpos : 0 < old.length := List.length_pos_iff.mpr hold
  have hdata : OccursAt old data i := by
    rw [Lib.occursAt_iff]
    intro k hk
    rw [← Lib.occursAt_iff.mp hout k hk]
    symm
    apply h.outside
    intro hcovered
    rcases hcovered with ⟨off, hoff, hle, hlt⟩
    have hplaces := hapart.places hout (h.inside off hoff)
    lia
  have hself := hapart.places hout (h.inside i hdata)
  lia

/-!
# Search in a part of the data
-/

theorem findFrom_start (pattern data : List α) (pos : Nat) :
    findFrom pattern data pos = (findFrom pattern data 0).map (pos + ·) := by
  induction data generalizing pos with
  | nil =>
      unfold findFrom
      split
      · rfl
      · rfl
  | cons a data ih =>
      rw [findFrom, findFrom]
      split
      · rfl
      · rw [ih (pos + 1), ih (0 + 1), Option.map_map]
        congr 1
        funext i
        simp only [Function.comp_apply]
        lia

end Lib
end Sm7225
