import Sm7225.Lib.History

/-!
# Values that are announced

A speaker uses values one after another.  Before it uses a value that differs from the
last one it announces it, if it can.  A listener hears both, and knows the value that
was announced last.
-/

namespace Sm7225
namespace Lib

variable {α β : Type} [DecidableEq α]

inductive Notice (β : Type) where
  | told (use : β)
  | used (use : β)
  deriving DecidableEq, Repr

def announced (value : β -> α) (can : α -> Bool) : α -> List β -> List (Notice β)
  | _, [] => []
  | cur, use :: uses =>
      if value use ≠ cur ∧ can (value use) then
        .told use :: .used use :: announced value can (value use) uses
      else
        .used use :: announced value can (value use) uses

def lastUsed (value : β -> α) (cur : α) (uses : List β) : α :=
  uses.foldl (fun _ use => value use) cur

variable {value : β -> α} {can : α -> Bool} {cur : α}

omit [DecidableEq α] in
theorem lastUsed_append (uses more : List β) :
    lastUsed value cur (uses ++ more) =
      lastUsed value (lastUsed value cur uses) more := by
  unfold lastUsed
  rw [List.foldl_append]

theorem announced_append (uses more : List β) :
    announced value can cur (uses ++ more) =
      announced value can cur uses ++
        announced value can (lastUsed value cur uses) more := by
  induction uses generalizing cur with
  | nil => rfl
  | cons use uses ih =>
      rw [List.cons_append, announced, announced, ih]
      split
      · rfl
      · rfl

/-!
# The listener
-/

def hears (value : β -> α) (known : α) : Notice β -> α
  | .told use => value use
  | .used _ => known

def speaks (value : β -> α) (last : α) : Notice β -> α
  | .told _ => last
  | .used use => value use

def KnowsUse (value : β -> α) (can : α -> Bool) (cur : α) (past : List (Notice β))
    (notice : Notice β) : Prop :=
  match notice with
  | .told _ => True
  | .used use => can (value use) = true -> replay (hears value) cur past = value use

def IsChange (value : β -> α) (can : α -> Bool) (cur : α) (past : List (Notice β))
    (notice : Notice β) : Prop :=
  match notice with
  | .told use =>
      can (value use) = true ∧ replay (speaks value) cur past ≠ value use
  | .used _ => True

section Listener

variable {known last : α} {past : List (Notice β)}

theorem everywhereFrom_announced (uses : List β)
    (hknown : can cur = true -> replay (hears value) known past = cur)
    (hlast : replay (speaks value) last past = cur) :
    EverywhereFrom (fun past notice => KnowsUse value can known past notice ∧
      IsChange value can last past notice) past (announced value can cur uses) := by
  induction uses generalizing cur past with
  | nil => trivial
  | cons use uses ih =>
      rw [announced]
      split
      next hnews =>
        have htold : replay (hears value) known (past ++ [.told use]) = value use := by
          rw [replay_snoc]
          rfl
        have hused : replay (hears value) known (past ++ [.told use] ++ [.used use]) =
            value use := by
          rw [replay_snoc, htold]
          rfl
        have hspoken : replay (speaks value) last (past ++ [.told use] ++ [.used use]) =
            value use := by
          rw [replay_snoc]
          rfl
        refine ⟨⟨trivial, hnews.2, ?_⟩, ⟨fun _ => htold, trivial⟩,
          ih (fun _ => hused) hspoken⟩
        rw [hlast]
        exact fun heq => hnews.1 heq.symm
      next hsilent =>
        have hup : can (value use) = true ->
            replay (hears value) known past = value use := by
          intro hcan
          have heq : value use = cur := by
            by_contra hne
            exact hsilent ⟨hne, hcan⟩
          rw [heq]
          exact hknown (heq ▸ hcan)
        have hspoken : replay (speaks value) last (past ++ [.used use]) = value use := by
          rw [replay_snoc]
          rfl
        refine ⟨⟨hup, trivial⟩, ih ?_ hspoken⟩
        rw [replay_snoc]
        exact hup

end Listener

end Lib
end Sm7225
