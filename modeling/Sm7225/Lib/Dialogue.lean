import Mathlib.Data.List.Basic
import Mathlib.Data.List.Sublists

/-!
# Questions and answers

One side asks and another answers, each through a queue.  An answer for which the
second queue has no room is lost.  The answers are in the order of the questions, and
each question has one at most.  If nothing is asked before all earlier answers are
taken, each question has exactly one.
-/

namespace Sm7225
namespace Lib

variable {α : Type}

structure Dialogue (α : Type) where
  asked : List α
  -- taken from the first queue or still in it
  unanswered : List α
  -- in the second queue
  ready : List α
  taken : List α

namespace Dialogue

inductive Step (d : Dialogue α) : Dialogue α -> Prop where
  | stay : Step d d
  | ask (a : α) :
      Step d { d with asked := d.asked ++ [a], unanswered := d.unanswered ++ [a] }
  | answer (a : α) (rest : List α) (hhead : d.unanswered = a :: rest) (hroom : d.ready = []) :
      Step d { d with unanswered := rest, ready := [a] }
  | lose (a : α) (rest : List α) (hhead : d.unanswered = a :: rest) (hroom : d.ready ≠ []) :
      Step d { d with unanswered := rest }
  | take (a : α) (rest : List α) (hready : d.ready = a :: rest) :
      Step d { d with ready := rest, taken := d.taken ++ [a] }

def InOrder (d : Dialogue α) : Prop :=
  (d.taken ++ d.ready ++ d.unanswered).Sublist d.asked

def Patient (d d' : Dialogue α) : Prop :=
  d'.asked ≠ d.asked -> d.taken.length = d.asked.length

/-- Each question is answered or open, and at most one is not yet taken. -/
structure Exact (d : Dialogue α) : Prop where
  complete : d.taken ++ d.ready ++ d.unanswered = d.asked
  single : d.ready.length + d.unanswered.length <= 1

variable {d d' : Dialogue α}

theorem Step.inOrder (h : Step d d') (hd : d.InOrder) : d'.InOrder := by
  unfold InOrder at hd ⊢
  cases h with
  | stay => exact hd
  | ask a =>
      rw [← List.append_assoc]
      exact hd.append (List.Sublist.refl [a])
  | answer a rest hhead hroom =>
      rw [hhead, hroom, List.append_nil] at hd
      rw [List.append_assoc]
      exact hd
  | lose a rest hhead hroom =>
      rw [hhead] at hd
      exact ((List.Sublist.refl _).append (List.sublist_cons_self a rest)).trans hd
  | take a rest hready =>
      rw [hready] at hd
      rw [List.append_assoc d.taken]
      exact hd

theorem Exact.idle (hd : d.Exact) (htaken : d.taken.length = d.asked.length) :
    d.ready = [] ∧ d.unanswered = [] := by
  have hlength := congrArg List.length hd.complete
  rw [List.length_append, List.length_append] at hlength
  constructor
  · exact List.eq_nil_of_length_eq_zero (by lia)
  · exact List.eq_nil_of_length_eq_zero (by lia)

theorem Step.exact (h : Step d d') (hpatient : Patient d d') (hd : d.Exact) :
    d'.Exact := by
  cases h with
  | stay => exact hd
  | ask a =>
      have hnew : d.asked ++ [a] ≠ d.asked := by
        intro heq
        have hlength := congrArg List.length heq
        rw [List.length_append, List.length_singleton] at hlength
        lia
      rcases hd.idle (hpatient hnew) with ⟨hready, hhead⟩
      constructor
      · show d.taken ++ d.ready ++ (d.unanswered ++ [a]) = d.asked ++ [a]
        rw [← List.append_assoc, hd.complete]
      · show d.ready.length + (d.unanswered ++ [a]).length <= 1
        rw [hready, hhead]
        exact Nat.le_refl 1
  | answer a rest hhead hroom =>
      have hcomplete := hd.complete
      have hsingle := hd.single
      rw [hhead, hroom] at hcomplete hsingle
      constructor
      · show d.taken ++ [a] ++ rest = d.asked
        rw [← hcomplete, List.append_nil, List.append_assoc]
        rfl
      · show [a].length + rest.length <= 1
        rw [List.length_cons, List.length_nil] at hsingle
        rw [List.length_singleton]
        lia
  | lose a rest hhead hroom =>
      have hsingle := hd.single
      have hpos := List.length_pos_iff.mpr hroom
      rw [hhead, List.length_cons] at hsingle
      lia
  | take a rest hready =>
      have hcomplete := hd.complete
      have hsingle := hd.single
      rw [hready] at hcomplete hsingle
      constructor
      · show d.taken ++ [a] ++ rest ++ d.unanswered = d.asked
        rw [← hcomplete, List.append_assoc d.taken]
        rfl
      · show rest.length + d.unanswered.length <= 1
        rw [List.length_cons] at hsingle
        lia

end Dialogue

end Lib
end Sm7225
