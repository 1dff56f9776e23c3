import Sm7225.Bqhelper.Memory

/-!
# The end of the stream in the log

Once the component has taken the end of the stream, and until the next
configuration, nothing more is submitted, and a frame that is acquired is given
back at once.
-/

namespace Sm7225
namespace Bqhelper

open Lib

/-!
# After the end of the stream
-/

def eosNext (sent : Bool) : Event -> Bool
  | .submitEos _ .ok => true
  | .configured => false
  | _ => sent

/-- The component has taken the end of the stream and no configuration has
succeeded since. -/
def eosSubmitted (log : List Event) : Bool :=
  replay eosNext false log

/-- Nothing is submitted after the end of the stream. -/
def NothingAfterEos (past : List Event) : Event -> Prop
  | .submitBuffer _ _ _ _ _ _ => eosSubmitted past = false
  | .submitEos _ _ => eosSubmitted past = false
  | _ => True

instance (past : List Event) (e : Event) : Decidable (NothingAfterEos past e) := by
  unfold NothingAfterEos
  split
  · exact inferInstance
  · exact inferInstance
  · exact inferInstance

/-- A frame that is acquired after the end of the stream goes back at once, with
the fence it came with. -/
def ReleasedUnused (log : List Event) : Prop :=
  forall past bi a future, log = past ++ .acquired bi a :: future ->
    eosSubmitted past = true ->
    exists rest, future = .destroyed a ::
      .releaseBuffer a bi.mSlot bi.mFrameNumber bi.mFence :: rest

def Event.ofEos : Event -> Bool
  | .submitBuffer _ _ _ _ _ _ => true
  | .submitEos _ _ => true
  | .acquired _ _ => true
  | .configured => true
  | _ => false

theorem ofEos_endsLife (e : Event) (h : e.endsLife = true) : e.ofEos = false := by
  cases e <;> first | rfl | cases h

structure EosLog (log : List Event) (sent : Bool) : Prop where
  nothing : Everywhere NothingAfterEos log
  unused : ReleasedUnused log
  flag : eosSubmitted log = true -> sent = true

namespace EosLog

variable {log tail : List Event} {sent : Bool}

theorem eosSubmitted_silent (h : forall e, e ∈ tail -> e.ofEos = false)
    (log : List Event) : eosSubmitted (log ++ tail) = eosSubmitted log := by
  apply replay_append_of_silent
  intro e he c
  have hsilent := h e he
  cases e <;> first | rfl | cases hsilent

theorem unused_append (h : ReleasedUnused log)
    (htail : forall front bi a future, tail = front ++ .acquired bi a :: future ->
      eosSubmitted (log ++ front) = false) : ReleasedUnused (log ++ tail) := by
  intro past bi a future hsplit hsent
  rcases split_append hsplit with ⟨rest, hlog, hfuture⟩ | ⟨front, hpast, hnew⟩
  · rcases h past bi a rest hlog hsent with ⟨rest', hrest⟩
    rw [hfuture, hrest]
    exact ⟨_, rfl⟩
  · rw [hpast, htail front bi a future hnew] at hsent
    cases hsent

theorem silent (h : EosLog log sent)
    (htail : forall e, e ∈ tail -> e.ofEos = false) :
    EosLog (log ++ tail) sent := by
  refine ⟨?_, ?_, ?_⟩
  · apply h.nothing.append_silent
    intro e he past
    have hsilent := htail e he
    cases e <;> trivial
  · apply unused_append h.unused
    intro front bi a future hsplit
    have hmem : .acquired bi a ∈ tail := by
      rw [hsplit]
      exact List.mem_append_right front List.mem_cons_self
    cases htail _ hmem
  · intro hsubmitted
    rw [eosSubmitted_silent htail] at hsubmitted
    exact h.flag hsubmitted

theorem not_submitted (h : EosLog log false) : eosSubmitted log = false := by
  rw [← Bool.not_eq_true]
  intro hsubmitted
  cases h.flag hsubmitted

theorem snoc_open (h : EosLog log false) {e : Event}
    (hflag : eosNext false e = true -> sent = true) :
    EosLog (log ++ [e]) sent := by
  have hopen := h.not_submitted
  refine ⟨?_, ?_, ?_⟩
  · apply h.nothing.snoc
    cases e <;> first | exact hopen | trivial
  · apply unused_append h.unused
    intro front bi a future hsplit
    cases front with
    | nil =>
        rw [List.append_nil]
        exact hopen
    | cons e' front =>
        injection hsplit with _ hrest
        cases front <;> cases hrest
  · intro hsubmitted
    unfold eosSubmitted at hsubmitted hopen
    rw [replay_snoc, hopen] at hsubmitted
    exact hflag hsubmitted

theorem configured (h : EosLog log sent) : EosLog (log ++ [.configured]) false := by
  refine ⟨h.nothing.snoc trivial, ?_, ?_⟩
  · apply unused_append h.unused
    intro front bi a future hsplit
    cases front with
    | nil => cases hsplit
    | cons e' front =>
        injection hsplit with _ hrest
        cases front <;> cases hrest
  · intro hsubmitted
    unfold eosSubmitted at hsubmitted
    rw [replay_snoc] at hsubmitted
    cases hsubmitted

theorem acquired_released (h : EosLog log sent) (bi : BufferItem)
    (a : AcquiredBuffer) :
    EosLog (log ++ [.acquired bi a, .destroyed a,
      .releaseBuffer a bi.mSlot bi.mFrameNumber bi.mFence]) sent := by
  refine ⟨?_, ?_, ?_⟩
  · apply h.nothing.append_silent
    intro e he past
    simp only [List.mem_cons, List.not_mem_nil, or_false] at he
    rcases he with he | he | he
    · rw [he]
      trivial
    · rw [he]
      trivial
    · rw [he]
      trivial
  · intro past bi' a' future hsplit hsent
    rcases split_append hsplit with ⟨rest, hlog, hfuture⟩ | ⟨front, hpast, hnew⟩
    · rcases h.unused past bi' a' rest hlog hsent with ⟨rest', hrest⟩
      rw [hfuture, hrest]
      exact ⟨_, rfl⟩
    · cases front with
      | nil =>
          injection hnew with hevent hrest
          injection hevent with hbi ha
          rw [← hbi, ← ha, ← hrest]
          exact ⟨[], rfl⟩
      | cons e front =>
          injection hnew with _ hnew
          cases front with
          | nil => cases hnew
          | cons e front =>
              injection hnew with _ hnew
              cases front with
              | nil => cases hnew
              | cons e front =>
                  injection hnew with _ hnew
                  cases front <;> cases hnew
  · intro hsubmitted
    apply h.flag
    unfold eosSubmitted replay at *
    rw [List.foldl_append] at hsubmitted
    exact hsubmitted

theorem initial : EosLog [] false := by
  refine ⟨everywhere_nil, ?_, ?_⟩
  · intro past bi a future hsplit
    cases past <;> cases hsplit
  · intro hsubmitted
    cases hsubmitted

end EosLog

end Bqhelper
end Sm7225
