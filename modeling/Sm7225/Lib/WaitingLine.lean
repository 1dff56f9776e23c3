import Mathlib.Data.List.Nodup
import Mathlib.Data.List.Basic

/-!
# Waiting lines

Those who have arrived are served in the order of their arrival, or sent away.  How
many of the first arrivals have still to be served is a rank: nothing raises it, and
serving one lowers it.
-/

namespace Sm7225
namespace Lib

variable {α : Type}

/-- Everyone who has arrived, and those who wait, both in the order of arrival. -/
structure Line (α : Type) where
  arrived : List α
  waiting : List α

namespace Line

variable {l l' l'' : Line α}

structure Orderly (l : Line α) : Prop where
  order : l.waiting.Sublist l.arrived
  once : l.arrived.Nodup

def Moves (l l' : Line α) : Prop :=
  exists new, l'.arrived = l.arrived ++ new ∧ l'.waiting.Sublist (l.waiting ++ new)

def Serves (l l' : Line α) : Prop :=
  (exists x, l.waiting = x :: l'.waiting ∧ l'.arrived = l.arrived) ∨
    l.waiting = [] ∧ exists x, l'.arrived = l.arrived ++ [x] ∧ l'.waiting = []

theorem Moves.refl (l : Line α) : Moves l l := by
  refine ⟨[], (List.append_nil _).symm, ?_⟩
  rw [List.append_nil]

theorem Moves.trans (h : Moves l l') (h' : Moves l' l'') : Moves l l'' := by
  rcases h with ⟨new, harrived, hwaiting⟩
  rcases h' with ⟨new', harrived', hwaiting'⟩
  refine ⟨new ++ new', by rw [harrived', harrived, List.append_assoc], ?_⟩
  rw [← List.append_assoc]
  exact hwaiting'.trans (hwaiting.append_right new')

theorem Serves.orderly (h : Serves l l') (hl : Orderly l) (honce : l'.arrived.Nodup) :
    Orderly l' := by
  refine ⟨?_, honce⟩
  rcases h with ⟨x, hwaiting, harrived⟩ | ⟨_, x, _, hnone⟩
  · rw [harrived]
    have horder := hl.order
    rw [hwaiting] at horder
    exact (List.sublist_cons_self _ _).trans horder
  · rw [hnone]
    exact List.nil_sublist _

section Overdue

variable [DecidableEq α]

/-!
# The rank

The rank counts those of the first {lit}`n` arrivals who still wait, and those who have
yet to come.
-/

def early (l : Line α) (n : Nat) (xs : List α) : List α :=
  xs.filter fun x => decide (x ∈ l.arrived.take n)

def overdue (n : Nat) (l : Line α) : Nat :=
  (l.early n l.waiting).length + (n - l.arrived.length)

theorem overdue_eq_zero {n : Nat} (h : l.overdue n = 0) :
    n <= l.arrived.length ∧ forall x, x ∈ l.arrived.take n -> x ∉ l.waiting := by
  unfold overdue at h
  constructor
  · lia
  · intro x hx hwaiting
    have hnone : l.early n l.waiting = [] := List.eq_nil_of_length_eq_zero (by lia)
    have hearly : x ∈ l.early n l.waiting :=
      List.mem_filter.mpr ⟨hwaiting, decide_eq_true hx⟩
    rw [hnone] at hearly
    cases hearly

theorem overdue_le (n : Nat) (l : Line α) :
    l.overdue n <= l.waiting.length + (n - l.arrived.length) :=
  Nat.add_le_add_right (List.length_filter_le _ _) _

theorem overdue_of_none {n : Nat} (h : l.waiting = []) :
    l.overdue n = n - l.arrived.length := by
  unfold overdue early
  rw [h]
  exact Nat.zero_add _

theorem early_of_arrived {n : Nat} {xs new : List α}
    (harrived : l'.arrived = l.arrived ++ new) (honce : l'.arrived.Nodup)
    (hxs : forall x, x ∈ xs -> x ∈ l.arrived) : l'.early n xs = l.early n xs := by
  apply List.filter_congr
  intro x hx
  have hnotnew : x ∉ new := by
    rw [harrived] at honce
    exact List.disjoint_of_nodup_append honce (hxs x hx)
  rw [harrived, List.take_append, decide_eq_decide, List.mem_append]
  constructor
  · intro hearly
    rcases hearly with hearly | hearly
    · exact hearly
    · exact absurd (List.mem_of_mem_take hearly) hnotnew
  · exact Or.inl

theorem length_early_new {n : Nat} {new : List α}
    (harrived : l'.arrived = l.arrived ++ new) (honce : l'.arrived.Nodup) :
    (l'.early n new).length + (n - l'.arrived.length) <= n - l.arrived.length := by
  rw [harrived] at honce
  have hnew : new.Nodup := (List.nodup_append.mp honce).2.1
  have hsplit := List.take_append_drop (n - l.arrived.length) new
  have hlate : l'.early n (new.drop (n - l.arrived.length)) = [] := by
    apply List.filter_eq_nil_iff.mpr
    intro x hx
    rw [decide_eq_true_iff, harrived, List.take_append, List.mem_append]
    intro hearly
    rcases hearly with hearly | hearly
    · exact List.disjoint_of_nodup_append honce (List.mem_of_mem_take hearly)
        (List.mem_of_mem_drop hx)
    · rw [← hsplit] at hnew
      exact List.disjoint_of_nodup_append hnew hearly hx
  have hsome : (l'.early n (new.take (n - l.arrived.length))).length <=
      (new.take (n - l.arrived.length)).length := List.length_filter_le _ _
  have hearly : l'.early n new = l'.early n (new.take (n - l.arrived.length)) ++
      l'.early n (new.drop (n - l.arrived.length)) := by
    unfold early
    rw [← List.filter_append, hsplit]
  rw [hearly, hlate, List.append_nil]
  rw [List.length_take] at hsome
  rw [harrived, List.length_append]
  lia

theorem Moves.overdue_le {n : Nat} (h : Moves l l') (hl : Orderly l)
    (honce : l'.arrived.Nodup) : l'.overdue n <= l.overdue n := by
  rcases h with ⟨new, harrived, hwaiting⟩
  have hsublist : (l'.early n l'.waiting).length <=
      (l'.early n (l.waiting ++ new)).length := (hwaiting.filter _).length_le
  have hsplit : l'.early n (l.waiting ++ new) =
      l'.early n l.waiting ++ l'.early n new := List.filter_append _ _
  have hold : l'.early n l.waiting = l.early n l.waiting :=
    early_of_arrived harrived honce fun _ hx => hl.order.subset hx
  have hnew := length_early_new (n := n) harrived honce
  rw [hsplit, List.length_append, hold] at hsublist
  unfold overdue
  lia

theorem early_eq_nil_of_late {n : Nat} {x : α} {rest : List α} (hl : Orderly l)
    (hwaiting : l.waiting = x :: rest) (hlate : x ∉ l.arrived.take n) :
    l.early n rest = [] := by
  have horder := hl.order
  have honce := hl.once
  rw [hwaiting, ← List.take_append_drop n l.arrived] at horder
  rw [← List.take_append_drop n l.arrived] at honce
  rcases List.sublist_append_iff.mp horder with ⟨front, back, hsplit, hfront, hback⟩
  cases front with
  | nil =>
      apply List.filter_eq_nil_iff.mpr
      intro y hy
      rw [decide_eq_true_iff]
      intro hearly
      have hback' : x :: rest = back := hsplit
      have hmem : y ∈ back := by
        rw [← hback']
        exact List.mem_cons_of_mem x hy
      exact List.disjoint_of_nodup_append honce hearly (hback.subset hmem)
  | cons y front =>
      have hhead : x = y := (List.cons.inj hsplit).1
      apply absurd _ hlate
      rw [hhead]
      exact hfront.subset List.mem_cons_self

theorem Serves.overdue_le {n : Nat} (h : Serves l l') (hl : Orderly l) :
    l'.overdue n <= l.overdue n - 1 := by
  rcases h with ⟨x, hwaiting, harrived⟩ | ⟨hnone, x, harrived, hnone'⟩
  · have hearly : l'.early n l'.waiting = l.early n l'.waiting := by
      unfold early
      rw [harrived]
    unfold overdue
    rw [hearly, harrived, hwaiting]
    by_cases hfirst : x ∈ l.arrived.take n
    · have hcons : l.early n (x :: l'.waiting) = x :: l.early n l'.waiting :=
        List.filter_cons_of_pos (decide_eq_true hfirst)
      rw [hcons, List.length_cons]
      lia
    · have hcons : l.early n (x :: l'.waiting) = l.early n l'.waiting :=
        List.filter_cons_of_neg (by rwa [decide_eq_true_iff])
      have hlate := early_eq_nil_of_late hl hwaiting hfirst
      have hlong : n <= l.arrived.length := by
        by_contra hshort
        apply hfirst
        rw [List.take_of_length_le (by lia)]
        apply hl.order.subset
        rw [hwaiting]
        exact List.mem_cons_self
      rw [hcons, hlate, Nat.sub_eq_zero_of_le hlong]
      exact Nat.zero_le _
  · rw [overdue_of_none hnone, overdue_of_none hnone', harrived, List.length_append]
    exact Nat.le_of_eq (Nat.sub_add_eq n _ 1)

end Overdue

end Line
end Lib
end Sm7225
