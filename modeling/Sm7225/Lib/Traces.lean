import Mathlib.Data.List.Basic
import Mathlib.Order.Defs.PartialOrder
import Mathlib.Tactic.Ring

/-!
# Traces of a labelled system

A step of the system emits a label, or is quiet.  What an observer sees are the labels
alone.  A measure that no step decreases bounds the labels from both sides, so their
order and their distances follow from single steps.
-/

namespace Sm7225
namespace Lib

structure Lts (σ α : Type) where
  Emits : σ -> α -> σ -> Prop
  Quiet : σ -> σ -> Prop

namespace Lts

variable {σ α β : Type} {L : Lts σ α} {s t u : σ} {as bs : List α}

inductive Trace (L : Lts σ α) : σ -> List α -> σ -> Prop where
  | nil (s : σ) : L.Trace s [] s
  | quiet {s t u : σ} {as : List α} (step : L.Quiet s t) (rest : L.Trace t as u) :
      L.Trace s as u
  | emits {s t u : σ} {a : α} {as : List α} (step : L.Emits s a t)
      (rest : L.Trace t as u) : L.Trace s (a :: as) u

theorem Trace.append (h : L.Trace s as t) (h' : L.Trace t bs u) :
    L.Trace s (as ++ bs) u := by
  induction h with
  | nil s => exact h'
  | quiet step _ ih => exact .quiet step (ih h')
  | emits step _ ih => exact .emits step (ih h')

theorem Trace.of_quiet (h : L.Quiet s t) : L.Trace s [] t :=
  .quiet h (.nil t)

theorem Trace.of_emits {a : α} (h : L.Emits s a t) : L.Trace s [a] t :=
  .emits h (.nil t)

def hide (L : Lts σ α) (shown : α -> Option β) : Lts σ β where
  Emits s b t := exists a, shown a = some b ∧ L.Emits s a t
  Quiet s t := L.Quiet s t ∨ exists a, shown a = none ∧ L.Emits s a t

theorem Trace.hide (h : L.Trace s as t) (shown : α -> Option β) :
    (L.hide shown).Trace s (as.filterMap shown) t := by
  induction h with
  | nil s => exact .nil s
  | quiet step _ ih => exact .quiet (Or.inl step) ih
  | @emits s t u a as step _ ih =>
      cases hshown : shown a with
      | none =>
          rw [List.filterMap_cons_none hshown]
          exact .quiet (Or.inr ⟨a, hshown, step⟩) ih
      | some b =>
          rw [List.filterMap_cons_some hshown]
          exact .emits ⟨a, hshown, step⟩ ih

/-!
# The order of the labels
-/

theorem Trace.rising [Preorder β] {I : σ -> Prop} {R : β -> β -> Prop} (level : σ -> β)
    (value : α -> β) (hbelow : forall {a b c}, a <= b -> R b c -> R a c)
    (habove : forall {a b}, R a b -> a <= b)
    (hquiet : forall {s t}, I s -> L.Quiet s t -> I t ∧ level s <= level t)
    (hemits : forall {s a t}, I s -> L.Emits s a t ->
      I t ∧ R (level s) (value a) ∧ value a <= level t)
    (h : L.Trace s as t) (hs : I s) :
    (as.map value).Pairwise R ∧ (forall a, a ∈ as -> R (level s) (value a)) ∧
      level s <= level t := by
  induction h with
  | nil s => exact ⟨List.Pairwise.nil, fun _ ha => (List.not_mem_nil ha).elim, le_rfl⟩
  | quiet step _ ih =>
      rcases hquiet hs step with ⟨ht, hlevel⟩
      rcases ih ht with ⟨hordered, hfirst, hlast⟩
      exact ⟨hordered, fun a ha => hbelow hlevel (hfirst a ha), hlevel.trans hlast⟩
  | emits step _ ih =>
      rcases hemits hs step with ⟨ht, hvalue, hlevel⟩
      rcases ih ht with ⟨hordered, hfirst, hlast⟩
      have hbefore := habove hvalue
      refine ⟨List.pairwise_cons.mpr ⟨?_, hordered⟩, ?_, ?_⟩
      · intro b hb
        rcases List.mem_map.mp hb with ⟨a, ha, rfl⟩
        exact hbelow hlevel (hfirst a ha)
      · intro a ha
        rcases List.mem_cons.mp ha with rfl | ha
        · exact hvalue
        · exact hbelow (hbefore.trans hlevel) (hfirst a ha)
      · exact (hbefore.trans hlevel).trans hlast

/-!
# Labels at a distance
-/

section Spaced

variable {I : σ -> Prop} {level : σ -> Int} {value : α -> Int} {interval slack : Int}

structure Spaces (L : Lts σ α) (I : σ -> Prop) (level : σ -> Int) (value : α -> Int)
    (interval slack : Int) : Prop where
  quiet : forall {s t}, I s -> L.Quiet s t -> I t ∧ level s <= level t
  keeps : forall {s a t}, I s -> L.Emits s a t -> I t
  late : forall {s a t}, I s -> L.Emits s a t -> level s <= value a + slack
  after : forall {s a t}, I s -> L.Emits s a t -> value a + slack < level t
  grid : forall {s a t}, I s -> L.Emits s a t -> level s + interval <= level t

variable (hspaces : L.Spaces I level value interval slack)
include hspaces

theorem Trace.level_le (h : L.Trace s as t) (hs : I s) (k : Nat) (a : α)
    (hk : as[k]? = some a) : level s + k * interval <= value a + slack := by
  induction h generalizing k with
  | nil s => cases hk
  | quiet step _ ih =>
      rcases hspaces.quiet hs step with ⟨ht, hlevel⟩
      have hrest := ih ht k hk
      lia
  | emits step _ ih =>
      cases k with
      | zero =>
          cases hk
          have hlate := hspaces.late hs step
          push_cast
          lia
      | succ k =>
          have hrest := ih (hspaces.keeps hs step) k hk
          have hgrid := hspaces.grid hs step
          have hnext : ((k + 1 : Nat) : Int) * interval = k * interval + interval := by
            push_cast
            ring
          rw [hnext]
          lia

theorem Trace.spacing (h : L.Trace s as t) (hs : I s) (i j : Nat) (a b : α)
    (hij : i < j) (hi : as[i]? = some a) (hj : as[j]? = some b) :
    (j - i - 1) * interval < value b - value a := by
  induction h generalizing i j with
  | nil s => cases hi
  | quiet step _ ih => exact ih (hspaces.quiet hs step).1 i j hij hi hj
  | emits step rest ih =>
      have ht := hspaces.keeps hs step
      cases j with
      | zero => exact absurd hij (Nat.not_lt_zero i)
      | succ j =>
          cases i with
          | zero =>
              cases hi
              have hafter := hspaces.after hs step
              have hrest := rest.level_le hspaces ht j b hj
              push_cast
              ring_nf at hrest ⊢
              lia
          | succ i =>
              have hrest := ih ht i j (Nat.lt_of_succ_lt_succ hij) hi hj
              push_cast
              ring_nf at hrest ⊢
              lia

end Spaced

end Lts

end Lib
end Sm7225
