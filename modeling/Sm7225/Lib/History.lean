import Mathlib.Data.List.Basic

/-!
# Histories

A history is a list of events, oldest first, that only grows at its end.  This
module has the two readings of a history that invariants are stated with: a
projection, which keeps the events of one kind, and a property that holds of
every event together with the past it happened in.
-/

namespace Sm7225
namespace Lib

variable {ε γ : Type}

/-!
# Projections
-/

theorem filterMap_snoc_of_none {f : ε -> Option γ} {e : ε} (h : f e = none)
    (log : List ε) : (log ++ [e]).filterMap f = log.filterMap f := by
  simp [h]

theorem filterMap_snoc_of_some {f : ε -> Option γ} {e : ε} {x : γ}
    (h : f e = some x) (log : List ε) :
    (log ++ [e]).filterMap f = log.filterMap f ++ [x] := by
  simp [h]

theorem filterMap_append_of_silent {f : ε -> Option γ} {tail : List ε}
    (h : forall e, e ∈ tail -> f e = none) (log : List ε) :
    (log ++ tail).filterMap f = log.filterMap f := by
  have hnil : tail.filterMap f = [] := List.filterMap_eq_nil_iff.mpr h
  rw [List.filterMap_append, hnil, List.append_nil]

/-!
# Splits
-/

theorem split_append {log tail past future : List ε} {e : ε}
    (h : log ++ tail = past ++ e :: future) :
    (exists rest, log = past ++ e :: rest ∧ future = rest ++ tail) ∨
    exists front, past = log ++ front ∧ tail = front ++ e :: future := by
  rcases List.append_eq_append_iff.mp h with
    ⟨front, hpast, htail⟩ | ⟨rest, hlog, hfuture⟩
  · exact Or.inr ⟨front, hpast, htail⟩
  · cases rest with
    | nil =>
        right
        refine ⟨[], ?_, ?_⟩
        · rw [hlog, List.append_nil, List.append_nil]
        · exact hfuture.symm
    | cons e' rest =>
        left
        injection hfuture with he hrest
        rw [he]
        exact ⟨rest, hlog, hrest⟩

/-!
# Replays

An abstract state that is computed from the history alone.
-/

section Replay

variable {σ : Type}

def replay (next : σ -> ε -> σ) (init : σ) (log : List ε) : σ :=
  log.foldl next init

theorem replay_snoc (next : σ -> ε -> σ) (init : σ) (log : List ε) (e : ε) :
    replay next init (log ++ [e]) = next (replay next init log) e := by
  unfold replay
  rw [List.foldl_append]
  rfl

theorem replay_append_of_silent {next : σ -> ε -> σ} {tail : List ε}
    (h : forall e, e ∈ tail -> forall c, next c e = c) (init : σ)
    (log : List ε) : replay next init (log ++ tail) = replay next init log := by
  induction tail generalizing log with
  | nil => rw [List.append_nil]
  | cons e tail ih =>
      have hsplit : log ++ e :: tail = (log ++ [e]) ++ tail := by simp
      rw [hsplit, ih (fun e' he' => h e' (List.mem_cons_of_mem e he')),
        replay_snoc, h e List.mem_cons_self]

end Replay

/-!
# Events in their past
-/

def EverywhereFrom (P : List ε -> ε -> Prop) : List ε -> List ε -> Prop
  | _, [] => True
  | past, e :: log => P past e ∧ EverywhereFrom P (past ++ [e]) log

/-- {lit}`P` holds of every event of the history and the events before it. -/
def Everywhere (P : List ε -> ε -> Prop) (log : List ε) : Prop :=
  EverywhereFrom P [] log

section Rules

variable {P Q : List ε -> ε -> Prop} {past log tail : List ε} {e : ε}

instance EverywhereFrom.decidable [forall past e, Decidable (P past e)]
    (past log : List ε) : Decidable (EverywhereFrom P past log) :=
  match log with
  | [] => isTrue trivial
  | e :: log =>
      have := EverywhereFrom.decidable (past ++ [e]) log
      inferInstanceAs (Decidable (P past e ∧ EverywhereFrom P (past ++ [e]) log))

instance [forall past e, Decidable (P past e)] :
    Decidable (Everywhere P log) :=
  EverywhereFrom.decidable [] log

theorem everywhereFrom_append :
    EverywhereFrom P past (log ++ tail) <->
      EverywhereFrom P past log ∧ EverywhereFrom P (past ++ log) tail := by
  induction log generalizing past with
  | nil => simp [EverywhereFrom]
  | cons e log ih =>
      rw [List.cons_append, EverywhereFrom, EverywhereFrom, ih, and_assoc,
        List.append_assoc]
      rfl

theorem everywhere_nil : Everywhere P [] := trivial

theorem everywhere_append :
    Everywhere P (log ++ tail) <-> Everywhere P log ∧ EverywhereFrom P log tail := by
  unfold Everywhere
  rw [everywhereFrom_append, List.nil_append]

theorem everywhere_snoc :
    Everywhere P (log ++ [e]) <-> Everywhere P log ∧ P log e := by
  rw [everywhere_append]
  simp [EverywhereFrom]

theorem Everywhere.of_append (h : Everywhere P (log ++ tail)) :
    Everywhere P log :=
  (everywhere_append.mp h).1

theorem Everywhere.of_prefix (h : Everywhere P log) (hpast : past <+: log) :
    Everywhere P past := by
  rcases hpast with ⟨tail, hlog⟩
  rw [← hlog] at h
  exact h.of_append

theorem everywhereFrom_of_silent
    (h : forall e, e ∈ tail -> forall past, P past e) :
    EverywhereFrom P past tail := by
  induction tail generalizing past with
  | nil => trivial
  | cons e tail ih =>
      constructor
      · exact h e List.mem_cons_self past
      · apply ih
        intro e' he'
        exact h e' (List.mem_cons_of_mem e he')

theorem Everywhere.append_silent (h : Everywhere P log)
    (htail : forall e, e ∈ tail -> forall past, P past e) :
    Everywhere P (log ++ tail) :=
  everywhere_append.mpr ⟨h, everywhereFrom_of_silent htail⟩

theorem Everywhere.snoc (h : Everywhere P log) (he : P log e) :
    Everywhere P (log ++ [e]) :=
  everywhere_snoc.mpr ⟨h, he⟩

theorem everywhereFrom_of_forall
    (h : forall past' e future, log = past' ++ e :: future ->
      P (past ++ past') e) : EverywhereFrom P past log := by
  induction log generalizing past with
  | nil => trivial
  | cons e log ih =>
      constructor
      · have hhead := h [] e log rfl
        rwa [List.append_nil] at hhead
      · apply ih
        intro past' e' future hlog
        have htail := h (e :: past') e' future (by rw [hlog]; rfl)
        rwa [List.append_assoc, List.singleton_append]

end Rules

end Lib
end Sm7225
