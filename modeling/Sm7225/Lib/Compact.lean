import Mathlib.Data.List.Basic

/-!
# Compacting a vector

The elements that are kept are copied, in order, to the front of a vector that is long
enough, and the vector is then cut to their number.
-/

namespace Sm7225
namespace Lib

variable {α : Type}

def resize [Inhabited α] (xs : List α) (size : Nat) : List α :=
  xs.take size ++ List.replicate (size - xs.length) default

def compact (keeps : α -> Bool) : List α -> List α -> Nat -> List α × Nat
  | [], out, n => (out, n)
  | x :: xs, out, n =>
      if keeps x then
        compact keeps xs (out.set n x) (n + 1)
      else
        compact keeps xs out n

section Rules

variable {keeps : α -> Bool} {xs out : List α}

theorem resize_of_le [Inhabited α] {size : Nat} (h : size <= xs.length) :
    resize xs size = xs.take size := by
  unfold resize
  rw [Nat.sub_eq_zero_of_le h, List.replicate_zero, List.append_nil]

theorem compact_take (xs : List α) {out : List α} {n : Nat}
    (hroom : n + xs.length <= out.length) :
    (compact keeps xs out n).1.length = out.length ∧
      (compact keeps xs out n).2 = n + (xs.filter keeps).length ∧
        (compact keeps xs out n).1.take (compact keeps xs out n).2 =
          out.take n ++ xs.filter keeps := by
  induction xs generalizing out n with
  | nil => exact ⟨rfl, rfl, (List.append_nil _).symm⟩
  | cons x xs ih =>
      rw [List.length_cons] at hroom
      unfold compact
      by_cases hx : keeps x = true
      · have hn : n < out.length := by
          lia
        have hroom' : n + 1 + xs.length <= (out.set n x).length := by
          rw [List.length_set]
          lia
        rcases ih hroom' with ⟨hlength, hindex, htake⟩
        rw [if_pos hx, List.filter_cons_of_pos hx]
        refine ⟨?_, ?_, ?_⟩
        · rw [hlength, List.length_set]
        · rw [hindex, List.length_cons]
          lia
        · have hset : (out.set n x).take (n + 1) = out.take n ++ [x] := by
            rw [List.take_succ_eq_append_getElem (by rw [List.length_set]; exact hn),
              List.take_set_of_le (Nat.le_refl n), List.getElem_set_self]
          rw [htake, hset, List.append_assoc]
          rfl
      · rw [if_neg hx, List.filter_cons_of_neg hx]
        exact ih (by lia)

theorem resize_compact [Inhabited α] (hroom : xs.length <= out.length) :
    resize (compact keeps xs out 0).1 (compact keeps xs out 0).2 = xs.filter keeps := by
  have hroom' : 0 + xs.length <= out.length := by
    lia
  have htaken := @compact_take α keeps xs out 0 hroom'
  rcases htaken with ⟨hlength, hindex, htake⟩
  have hfilter := List.length_filter_le keeps xs
  rw [resize_of_le (by lia), htake]
  rfl

end Rules

end Lib
end Sm7225
