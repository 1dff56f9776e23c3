import Mathlib.Data.List.Basic
import Mathlib.Data.List.TakeWhile

/-!
# Pairs in a delimited text

Pairs of a key and a value can be written as one text, with a sign between key and
value and a separator between the pairs.  Reading splits at each separator and then at
the first sign.  It gets the pairs back exactly if the delimiters stand in no place
where they delimit.
-/

namespace Sm7225
namespace Lib

variable {α : Type} [DecidableEq α]

def writePair (sign : α) (pair : List α × List α) : List α :=
  pair.1 ++ sign :: pair.2

def writePairs (sep sign : α) (pairs : List (List α × List α)) : List α :=
  [sep].intercalate (pairs.map (writePair sign))

def readPair (sign : α) (segment : List α) : List α × List α :=
  (segment.takeWhile (· ≠ sign), (segment.dropWhile (· ≠ sign)).tail)

def readPairs (sep sign : α) (text : List α) : List (List α × List α) :=
  ((text.splitOn sep).filter (· ≠ [])).map (readPair sign)

structure Legible (sep sign : α) (pair : List α × List α) : Prop where
  key_sep : sep ∉ pair.1
  key_sign : sign ∉ pair.1
  value_sep : sep ∉ pair.2

variable {sep sign : α}

/-!
# Segments
-/

theorem not_mem_of_mem_splitOn {text segment : List α} (h : segment ∈ text.splitOn sep) :
    sep ∉ segment := by
  induction text generalizing segment with
  | nil =>
      rw [List.splitOn_nil, List.mem_singleton] at h
      rw [h]
      exact List.not_mem_nil
  | cons a rest ih =>
      rw [List.splitOn_cons_eq_if_modifyHead] at h
      split at h
      · rcases List.mem_cons.mp h with hfirst | hrest
        · rw [hfirst]
          exact List.not_mem_nil
        · exact ih hrest
      · next hne =>
          cases hsplit : rest.splitOn sep with
          | nil => exact absurd hsplit (List.splitOn_ne_nil sep rest)
          | cons first others =>
              rw [hsplit] at h ih
              rcases List.mem_cons.mp h with hfirst | hother
              · rw [hfirst]
                intro hmem
                rcases List.mem_cons.mp hmem with hhead | htail
                · apply hne
                  rw [hhead]
                  exact beq_self_eq_true a
                · exact ih List.mem_cons_self htail
              · exact ih (List.mem_cons_of_mem first hother)

theorem readPairs_nil : readPairs sep sign [] = [] := by
  simp [readPairs]

theorem readPairs_append_cons (first second : List α) :
    readPairs sep sign (first ++ sep :: second) =
      readPairs sep sign first ++ readPairs sep sign second := by
  unfold readPairs
  rw [List.splitOn_append_cons_self, List.filter_append, List.map_append]

theorem readPairs_writePairs (pairs : List (List α × List α)) :
    readPairs sep sign (writePairs sep sign pairs) =
      pairs.flatMap fun pair => readPairs sep sign (writePair sign pair) := by
  induction pairs with
  | nil => exact readPairs_nil
  | cons pair rest ih =>
      cases rest with
      | nil => simp [writePairs]
      | cons next others =>
          have hwrite : writePairs sep sign (pair :: next :: others) =
              writePair sign pair ++ sep :: writePairs sep sign (next :: others) := by
            simp [writePairs, List.intercalate_cons_cons]
          rw [hwrite, readPairs_append_cons, ih]
          rfl

/-!
# Legible pairs
-/

theorem readPair_writePair {pair : List α × List α} (h : sign ∉ pair.1) :
    readPair sign (writePair sign pair) = pair := by
  have hkey : forall a, a ∈ pair.1 -> decide (a ≠ sign) = true := by
    intro a ha
    rw [decide_eq_true_eq]
    intro heq
    exact h (heq ▸ ha)
  unfold readPair writePair
  rw [List.takeWhile_append_of_pos hkey, List.dropWhile_append_of_pos hkey]
  simp

theorem Legible.readPairs_eq (hdelimiters : sep ≠ sign) {pair : List α × List α}
    (h : Legible sep sign pair) : readPairs sep sign (writePair sign pair) = [pair] := by
  have hsep : sep ∉ writePair sign pair := by
    intro hmem
    rcases List.mem_append.mp hmem with hkey | hrest
    · exact h.key_sep hkey
    · rcases List.mem_cons.mp hrest with hsign | hvalue
      · exact hdelimiters hsign
      · exact h.value_sep hvalue
  have hne : writePair sign pair ≠ [] := by
    simp [writePair]
  unfold readPairs
  rw [List.splitOn_eq_singleton hsep, List.filter_cons_of_pos (by simpa using hne),
    List.filter_nil, List.map_singleton, readPair_writePair h.key_sign]

theorem legible_of_mem_readPairs {text : List α} {pair : List α × List α}
    (h : pair ∈ readPairs sep sign text) : Legible sep sign pair := by
  rcases List.mem_map.mp h with ⟨segment, hsegment, hpair⟩
  have hsep := not_mem_of_mem_splitOn (List.mem_filter.mp hsegment).1
  rw [← hpair]
  constructor
  · intro hmem
    exact hsep ((List.takeWhile_sublist _).mem hmem)
  · intro hmem
    simpa using List.mem_takeWhile_imp hmem
  · intro hmem
    exact hsep ((List.dropWhile_sublist _).mem (List.mem_of_mem_tail hmem))

theorem readPairs_of_legible (hdelimiters : sep ≠ sign) {pairs : List (List α × List α)}
    (h : forall pair, pair ∈ pairs -> Legible sep sign pair) :
    readPairs sep sign (writePairs sep sign pairs) = pairs := by
  rw [readPairs_writePairs]
  induction pairs with
  | nil => rfl
  | cons pair rest ih =>
      rw [List.flatMap_cons, (h pair List.mem_cons_self).readPairs_eq hdelimiters,
        ih fun other hother => h other (List.mem_cons_of_mem pair hother)]
      rfl

theorem mem_readPairs_iff_legible (hdelimiters : sep ≠ sign)
    (pairs : List (List α × List α)) :
    (forall pair, pair ∈ readPairs sep sign (writePairs sep sign pairs) <-> pair ∈ pairs) <->
      forall pair, pair ∈ pairs -> Legible sep sign pair := by
  constructor
  · intro h pair hpair
    exact legible_of_mem_readPairs ((h pair).mpr hpair)
  · intro h pair
    rw [readPairs_of_legible hdelimiters h]

end Lib
end Sm7225
