import Mathlib.Data.List.Basic
import Mathlib.Data.List.Infix

/-!
# Slices of a list

Reading and overwriting a slice, the places where a pattern occurs, and the search
for the first of them.  Two patterns are apart if no place of the one can share an
element with a place of the other; writing the one pattern then leaves the places
of the other alone.
-/

namespace Sm7225
namespace Lib

variable {α : Type}

/-!
# Reading and writing
-/

def slice (data : List α) (off len : Nat) : List α :=
  (data.drop off).take len

def setSlice (data : List α) (off : Nat) (new : List α) : List α :=
  data.take off ++ new ++ data.drop (off + new.length)

theorem getElem?_slice (data : List α) (off len i : Nat) (hi : i < len) :
    (slice data off len)[i]? = data[off + i]? := by
  unfold slice
  rw [List.getElem?_take_of_lt hi, List.getElem?_drop]

theorem length_setSlice {data new : List α} {off : Nat}
    (hfits : off + new.length <= data.length) :
    (setSlice data off new).length = data.length := by
  simp only [setSlice, List.length_append, List.length_take, List.length_drop]
  lia

theorem getElem?_setSlice_outside {data new : List α} {off : Nat}
    (hfits : off + new.length <= data.length) {i : Nat}
    (hi : ¬ (off <= i ∧ i < off + new.length)) :
    (setSlice data off new)[i]? = data[i]? := by
  have hoff : off <= data.length := by lia
  have hhead : (data.take off).length = off := List.length_take_of_le hoff
  unfold setSlice
  by_cases hlt : i < off
  · rw [List.append_assoc, List.getElem?_append_left (by lia),
      List.getElem?_take_of_lt hlt]
  · have hfront : (data.take off ++ new).length = off + new.length := by
      rw [List.length_append, hhead]
    rw [List.getElem?_append_right (by lia), List.getElem?_drop, hfront]
    congr 1
    lia

theorem getElem?_setSlice_inside {data new : List α} {off : Nat}
    (hfits : off + new.length <= data.length) {i : Nat} (hi : i < new.length) :
    (setSlice data off new)[off + i]? = new[i]? := by
  have hoff : off <= data.length := by lia
  have hhead : (data.take off).length = off := List.length_take_of_le hoff
  unfold setSlice
  rw [List.append_assoc, List.getElem?_append_right (by lia), hhead,
    List.getElem?_append_left (by lia)]
  congr 1
  lia

/-!
# Places of a pattern
-/

def OccursAt (pattern data : List α) (off : Nat) : Prop :=
  slice data off pattern.length = pattern

instance OccursAt.decidable [DecidableEq α] (pattern data : List α) (off : Nat) :
    Decidable (OccursAt pattern data off) :=
  inferInstanceAs (Decidable (slice data off pattern.length = pattern))

theorem occursAt_iff {pattern data : List α} {off : Nat} :
    OccursAt pattern data off <->
      forall i, i < pattern.length -> data[off + i]? = pattern[i]? := by
  constructor
  · intro hoccurs i hi
    rw [← getElem?_slice data off pattern.length i hi, hoccurs]
  · intro hbytes
    apply List.ext_getElem?
    intro i
    by_cases hi : i < pattern.length
    · rw [getElem?_slice data off pattern.length i hi]
      exact hbytes i hi
    · have hlength : (slice data off pattern.length).length <= pattern.length :=
        List.length_take_le _ _
      rw [List.getElem?_eq_none (by lia), List.getElem?_eq_none (by lia)]

theorem occursAt_drop_iff {pattern data : List α} {start i : Nat} :
    OccursAt pattern (data.drop start) i <-> OccursAt pattern data (start + i) := by
  unfold OccursAt slice
  rw [List.drop_drop]

theorem OccursAt.fits {pattern data : List α} {off : Nat}
    (h : OccursAt pattern data off) (hpattern : pattern ≠ []) :
    off + pattern.length <= data.length := by
  have hpos : 0 < pattern.length := List.length_pos_iff.mpr hpattern
  have hlength := congrArg List.length h
  rw [slice, List.length_take, List.length_drop] at hlength
  lia

theorem occursAt_setSlice {data new : List α} {off : Nat}
    (hfits : off + new.length <= data.length) :
    OccursAt new (setSlice data off new) off :=
  occursAt_iff.mpr fun _ hi => getElem?_setSlice_inside hfits hi

theorem occursAt_setSlice_iff {pattern data new : List α} {off i : Nat}
    (hfits : off + new.length <= data.length)
    (houtside : i + pattern.length <= off ∨ off + new.length <= i) :
    OccursAt pattern (setSlice data off new) i <-> OccursAt pattern data i := by
  rw [occursAt_iff, occursAt_iff]
  constructor
  · intro hbytes j hj
    rw [← hbytes j hj, getElem?_setSlice_outside hfits (by lia)]
  · intro hbytes j hj
    rw [← hbytes j hj, getElem?_setSlice_outside hfits (by lia)]

/-!
# Patterns that are apart
-/

def Apart [DecidableEq α] (p q : List α) : Prop :=
  (forall shift, shift < q.length -> exists i, i < p.length ∧
    shift + i < q.length ∧ p[i]? ≠ q[shift + i]?) ∧
  (forall shift, shift < p.length -> exists i, i < q.length ∧
    shift + i < p.length ∧ q[i]? ≠ p[shift + i]?)

instance Apart.decidable [DecidableEq α] (p q : List α) : Decidable (Apart p q) :=
  inferInstanceAs (Decidable (_ ∧ _))

theorem Apart.places [DecidableEq α] {p q data : List α} (h : Apart p q)
    {i j : Nat} (hp : OccursAt p data i) (hq : OccursAt q data j) :
    i + p.length <= j ∨ j + q.length <= i := by
  rw [occursAt_iff] at hp hq
  by_cases hover : i + p.length <= j ∨ j + q.length <= i
  · exact hover
  · exfalso
    by_cases hle : j <= i
    · rcases h.1 (i - j) (by lia) with ⟨k, hk, hshift, hne⟩
      have hplace : j + (i - j + k) = i + k := by lia
      have hbyte := hq (i - j + k) hshift
      rw [hplace, hp k hk] at hbyte
      exact hne hbyte
    · rcases h.2 (j - i) (by lia) with ⟨k, hk, hshift, hne⟩
      have hplace : i + (j - i + k) = j + k := by lia
      have hbyte := hp (j - i + k) hshift
      rw [hplace, hq k hk] at hbyte
      exact hne hbyte

theorem occursAt_setSlice_of_apart [DecidableEq α] {pattern data old new : List α}
    {off i : Nat} (hlength : new.length = old.length)
    (hfits : off + new.length <= data.length) (hold : OccursAt old data off)
    (hpattern_old : Apart pattern old) (hpattern_new : Apart pattern new) :
    OccursAt pattern (setSlice data off new) i <-> OccursAt pattern data i := by
  constructor
  · intro hoccurs
    have houtside := hpattern_new.places hoccurs (occursAt_setSlice hfits)
    exact (occursAt_setSlice_iff hfits houtside).mp hoccurs
  · intro hoccurs
    have houtside := hpattern_old.places hoccurs hold
    rw [← hlength] at houtside
    exact (occursAt_setSlice_iff hfits houtside).mpr hoccurs

/-!
# Search
-/

section Search

variable [DecidableEq α]

def findFrom (pattern : List α) : List α -> Nat -> Option Nat
  | [], pos => if pattern = [] then some pos else none
  | a :: data, pos =>
      if pattern.isPrefixOf (a :: data) then
        some pos
      else
        findFrom pattern data (pos + 1)

def find (data pattern : List α) (start : Nat) : Option Nat :=
  findFrom pattern (data.drop start) start

theorem occursAt_zero_iff {pattern data : List α} :
    OccursAt pattern data 0 <-> pattern.isPrefixOf data := by
  rw [List.isPrefixOf_iff_prefix, List.prefix_iff_eq_take]
  constructor
  · exact Eq.symm
  · exact Eq.symm

theorem findFrom_eq_none {pattern : List α} (hpattern : pattern ≠ [])
    {data : List α} {pos : Nat} (h : findFrom pattern data pos = none) :
    forall i, ¬ OccursAt pattern data i := by
  induction data generalizing pos with
  | nil =>
      intro i hoccurs
      have hfits := hoccurs.fits hpattern
      have hpos : 0 < pattern.length := List.length_pos_iff.mpr hpattern
      rw [List.length_nil] at hfits
      lia
  | cons a data ih =>
      intro i hoccurs
      rw [findFrom] at h
      by_cases hprefix : pattern.isPrefixOf (a :: data)
      · rw [if_pos hprefix] at h
        cases h
      · rw [if_neg hprefix] at h
        cases i with
        | zero => exact hprefix (occursAt_zero_iff.mp hoccurs)
        | succ i => exact ih h i hoccurs

theorem findFrom_eq_some {pattern : List α} (hpattern : pattern ≠ [])
    {data : List α} {pos off : Nat} (h : findFrom pattern data pos = some off) :
    exists i, off = pos + i ∧ OccursAt pattern data i ∧
      forall j, j < i -> ¬ OccursAt pattern data j := by
  induction data generalizing pos with
  | nil =>
      rw [findFrom, if_neg hpattern] at h
      cases h
  | cons a data ih =>
      rw [findFrom] at h
      by_cases hprefix : pattern.isPrefixOf (a :: data)
      · rw [if_pos hprefix] at h
        cases h
        exists 0
        exact ⟨rfl, occursAt_zero_iff.mpr hprefix, nofun⟩
      · rw [if_neg hprefix] at h
        rcases ih h with ⟨i, hoff, hoccurs, hfirst⟩
        exists i + 1
        refine ⟨by lia, hoccurs, ?_⟩
        intro j hj
        cases j with
        | zero => exact fun hzero => hprefix (occursAt_zero_iff.mp hzero)
        | succ j => exact hfirst j (by lia)

theorem find_eq_none {pattern data : List α} (hpattern : pattern ≠ [])
    {start : Nat} (h : find data pattern start = none) {i : Nat}
    (hi : start <= i) : ¬ OccursAt pattern data i := by
  intro hoccurs
  apply findFrom_eq_none hpattern h (i - start)
  rw [occursAt_drop_iff]
  have hplace : start + (i - start) = i := by lia
  rw [hplace]
  exact hoccurs

theorem find_eq_some {pattern data : List α} (hpattern : pattern ≠ [])
    {start off : Nat} (h : find data pattern start = some off) :
    start <= off ∧ OccursAt pattern data off ∧
      forall i, start <= i -> i < off -> ¬ OccursAt pattern data i := by
  rcases findFrom_eq_some hpattern h with ⟨place, hoff, hoccurs, hfirst⟩
  rw [hoff]
  refine ⟨by lia, occursAt_drop_iff.mp hoccurs, ?_⟩
  intro i hi hlt
  have hplace : start + (i - start) = i := by lia
  rw [← hplace, ← occursAt_drop_iff]
  exact hfirst (i - start) (by lia)

theorem find_congr {pattern data other : List α} (hpattern : pattern ≠ [])
    (h : forall i, OccursAt pattern data i <-> OccursAt pattern other i) :
    find data pattern 0 = find other pattern 0 := by
  cases hdata : find data pattern 0 with
  | none =>
      cases hother : find other pattern 0 with
      | none => rfl
      | some j =>
          have hj := (h j).mpr (find_eq_some hpattern hother).2.1
          exact absurd hj (find_eq_none hpattern hdata (Nat.zero_le j))
  | some i =>
      have hi := find_eq_some hpattern hdata
      cases hother : find other pattern 0 with
      | none =>
          have hplace := (h i).mp hi.2.1
          exact absurd hplace (find_eq_none hpattern hother (Nat.zero_le i))
      | some j =>
          have hj := find_eq_some hpattern hother
          by_cases hlt : i < j
          · exact absurd ((h i).mp hi.2.1) (hj.2.2 i (Nat.zero_le i) hlt)
          · by_cases hgt : j < i
            · exact absurd ((h j).mpr hj.2.1) (hi.2.2 j (Nat.zero_le j) hgt)
            · congr 1
              lia

theorem existsUnique_occursAt_iff {pattern data : List α}
    (hpattern : pattern ≠ []) :
    (exists off, find data pattern 0 = some off ∧
      find data pattern (off + 1) = none) <->
      ∃! off, OccursAt pattern data off := by
  constructor
  · intro hfound
    rcases hfound with ⟨off, hfirst, hnext⟩
    rcases find_eq_some hpattern hfirst with ⟨_, hoccurs, hbefore⟩
    exists off
    refine ⟨hoccurs, ?_⟩
    intro i hi
    by_cases hlt : i < off
    · exact absurd hi (hbefore i (Nat.zero_le i) hlt)
    · by_cases hgt : off < i
      · exact absurd hi (find_eq_none hpattern hnext hgt)
      · lia
  · intro hunique
    rcases hunique with ⟨place, hplace, honly⟩
    cases hfirst : find data pattern 0 with
    | none =>
        exact absurd hplace (find_eq_none hpattern hfirst (Nat.zero_le place))
    | some off =>
        have hoff := honly off (find_eq_some hpattern hfirst).2.1
        exists off
        refine ⟨rfl, ?_⟩
        cases hnext : find data pattern (off + 1) with
        | none => rfl
        | some next =>
            have hsome := find_eq_some hpattern hnext
            have hnext_place := honly next hsome.2.1
            have hle := hsome.1
            lia

end Search

end Lib
end Sm7225
