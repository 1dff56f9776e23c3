import Sm7225.Audio.CommandReplies
import Sm7225.Audio.Transfers

/-!
# What the client is told

The reply to a transfer of data has a count, if the transfer does not fail.  For a
client that takes each reply before its next command, these counts and the one in the
reply that is still on its way add up to what the vendor has moved.
-/

namespace Sm7225
namespace Audio

open Lib

variable {C : Type}

/-!
# Tallies
-/

/-- The exchange, and how many bytes the vendor has moved since its beginning. -/
structure Tally (C : Type) where
  exchange : Exchange C
  total : Nat

namespace Tally

def initial (capacity : Nat) : Tally C where
  exchange := Exchange.initial capacity
  total := 0

def movedNow (answers : Answers) : WorkerAt C -> Nat
  | .callHal _ function => if function.bytes.isSome then answers.halResult.toNat else 0
  | _ => 0

def next (worker : Worker C) (majorVersion : Nat) (hal : HalStream) (t : Tally C)
    (step : StreamStep C) : Tally C where
  exchange := t.exchange.next worker majorVersion hal step
  total :=
    match step with
    | .worker answers => t.total + movedNow answers t.exchange.system.worker
    | _ => t.total

end Tally

def Status.told (counts : C -> Bool) (status : Status C) : Nat :=
  match status.replyTo with
  | some command =>
      if counts command && status.retval = .ok then status.reply.toNat else 0
  | none => 0

def Exchange.told (counts : C -> Bool) (x : Exchange C) : Nat :=
  (x.replies.map (Status.told counts)).sum

def StreamSystem.unreported (counts : C -> Bool) (s : StreamSystem C) : Nat :=
  match s.worker with
  | .writeStatus => s.desk.mStatus.told counts
  | _ => 0

def StreamSystem.untold (counts : C -> Bool) (s : StreamSystem C) : Nat :=
  (s.statusMQ.map (Status.told counts)).sum + s.unreported counts

def Tally.Balanced (counts : C -> Bool) (t : Tally C) : Prop :=
  t.total = t.exchange.told counts + t.exchange.system.untold counts

theorem unreported_of_at (counts : C -> Bool) {s : StreamSystem C} {phase : WorkerAt C}
    (hat : s.worker = phase) :
    s.unreported counts = { s with worker := phase }.unreported counts := by
  rw [← hat]

/-!
# What a thread tells
-/

structure Worker.Tells (worker : Worker C) (counts : C -> Bool)
    (Ready : C -> HalFunction -> Status C -> Prop) : Prop where
  keepsReplyTo : worker.KeepsReplyTo
  begin_call : forall {hal command answers desk function desk'},
    worker.begin hal command answers desk = (some function, desk') ->
      Ready command function desk'.mStatus
  begin_skip : forall {hal command answers desk desk'},
    worker.begin hal command answers desk = (none, desk') ->
      desk.mStatus.replyTo = some command -> desk'.mStatus.told counts = 0
  finish : forall {command function desk} (answers : Answers),
    Ready command function desk.mStatus -> desk.mStatus.replyTo = some command ->
      (worker.finish command answers desk).mStatus.told counts =
        if function.bytes.isSome then answers.halResult.toNat else 0

theorem told_of_ok {counts : C -> Bool} {status : Status C} {command : C}
    (hreply : status.replyTo = some command) (hcounts : counts command = true)
    (hok : status.retval = .ok) : status.told counts = status.reply.toNat := by
  unfold Status.told
  rw [hreply]
  simp only [hcounts, hok, decide_true, Bool.and_self, if_true]

theorem told_of_failed {counts : C -> Bool} {status : Status C}
    (hfailed : status.retval ≠ .ok) : status.told counts = 0 := by
  unfold Status.told
  cases status.replyTo with
  | none => rfl
  | some command =>
      simp only [hfailed, decide_false, Bool.and_false, Bool.false_eq_true, if_false]

theorem told_of_other {counts : C -> Bool} {status : Status C} {command : C}
    (hreply : status.replyTo = some command) (hcounts : counts command = false) :
    status.told counts = 0 := by
  unfold Status.told
  rw [hreply]
  simp only [hcounts, Bool.false_and, Bool.false_eq_true, if_false]

def WriteThread.Ready (command : WriteCommand) (function : HalFunction)
    (status : Status WriteCommand) : Prop :=
  match command with
  | .write => (exists bytes, function = .write bytes) ∧ status.retval = .ok
  | _ => function.bytes = none

def ReadThread.Ready (command : ReadCommand) (function : HalFunction)
    (_ : Status ReadCommand) : Prop :=
  match command with
  | .read _ => exists bytes, function = .read bytes
  | _ => function.bytes = none

theorem WriteThread.tells :
    WriteThread.worker.Tells writing.counts WriteThread.Ready where
  keepsReplyTo := WriteThread.keepsReplyTo
  begin_call := by
    intro hal command answers desk function desk' h
    cases command with
    | write =>
        cases hread : answers.dataRead with
        | false => simp [WriteThread.worker, WriteThread.begin, hread] at h
        | true =>
            simp only [WriteThread.worker, WriteThread.begin, hread, if_true] at h
            cases h
            exact ⟨⟨desk.dataMQ, rfl⟩, rfl⟩
    | getPresentationPosition =>
        rcases askPosition_call h with ⟨hfunction, _⟩
        rw [hfunction]
        rfl
    | getLatency =>
        cases h
        rfl
    | unknown code => cases h
  begin_skip := by
    intro hal command answers desk desk' h hreply
    have hkept := WriteThread.keepsReplyTo.begin hal command answers desk
    rw [h, hreply] at hkept
    cases command with
    | write =>
        cases hread : answers.dataRead with
        | false =>
            simp only [WriteThread.worker, WriteThread.begin, hread, Bool.false_eq_true,
              if_false] at h
            cases h
            exact told_of_ok hkept rfl rfl
        | true => simp [WriteThread.worker, WriteThread.begin, hread] at h
    | _ => exact told_of_other hkept rfl
  finish := by
    intro command function desk answers hready hreply
    have hkept := WriteThread.keepsReplyTo.finish command answers desk
    rw [hreply] at hkept
    cases command with
    | write =>
        rcases hready with ⟨⟨bytes, hfunction⟩, hready⟩
        have hbytes : function.bytes.isSome = true := by
          rw [hfunction]
          rfl
        rw [if_pos hbytes]
        by_cases hresult : 0 <= answers.halResult
        · have hok : (WriteThread.worker.finish .write answers desk).mStatus.retval = .ok := by
            simp only [WriteThread.worker, WriteThread.finish, if_pos hresult]
            exact hready
          rw [told_of_ok hkept rfl hok]
          simp only [WriteThread.worker, WriteThread.finish, if_pos hresult]
          rfl
        · have hfailed : (WriteThread.worker.finish .write answers desk).mStatus.retval ≠
              .ok := by
            simp only [WriteThread.worker, WriteThread.finish, if_neg hresult]
            exact analyzeStatus_ne_ok (by lia)
          rw [told_of_failed hfailed, Int.toNat_of_nonpos (by lia)]
    | _ =>
        have hnone : function.bytes = none := hready
        rw [hnone]
        exact told_of_other hkept rfl

theorem ReadThread.tells : ReadThread.worker.Tells reading.counts ReadThread.Ready where
  keepsReplyTo := ReadThread.keepsReplyTo
  begin_call := by
    intro hal command answers desk function desk' h
    cases command with
    | read requestedToRead =>
        cases h
        exact ⟨_, rfl⟩
    | getCapturePosition =>
        rcases askPosition_call h with ⟨hfunction, _⟩
        rw [hfunction]
        rfl
    | unknown code => cases h
  begin_skip := by
    intro hal command answers desk desk' h hreply
    have hkept := ReadThread.keepsReplyTo.begin hal command answers desk
    rw [h, hreply] at hkept
    cases command with
    | read requestedToRead => cases h
    | _ => exact told_of_other hkept rfl
  finish := by
    intro command function desk answers hready hreply
    have hkept := ReadThread.keepsReplyTo.finish command answers desk
    rw [hreply] at hkept
    cases command with
    | read requestedToRead =>
        rcases hready with ⟨bytes, hfunction⟩
        have hbytes : function.bytes.isSome = true := by
          rw [hfunction]
          rfl
        rw [if_pos hbytes]
        by_cases hresult : 0 <= answers.halResult
        · have hstatus : (ReadThread.worker.finish (.read requestedToRead) answers desk).mStatus =
              (desk.setStatus .ok answers.halResult).mStatus := by
            simp only [ReadThread.worker, ReadThread.finish, if_pos hresult]
            split
            · rfl
            · rfl
          rw [hstatus] at hkept ⊢
          exact told_of_ok hkept rfl rfl
        · have hfailed : (ReadThread.worker.finish (.read requestedToRead) answers
              desk).mStatus.retval ≠ .ok := by
            simp only [ReadThread.worker, ReadThread.finish, if_neg hresult]
            exact analyzeStatus_ne_ok (by lia)
          rw [told_of_failed hfailed, Int.toNat_of_nonpos (by lia)]
    | _ =>
        have hnone : function.bytes = none := hready
        rw [hnone]
        exact told_of_other hkept rfl

/-!
# Each step
-/

structure Tally.Follows (counts : C -> Bool)
    (Ready : C -> HalFunction -> Status C -> Prop) (t : Tally C) : Prop where
  named : t.exchange.system.Named
  exact : t.exchange.dialogue.Exact
  ready : forall command function, t.exchange.system.worker = .callHal command function ->
    Ready command function t.exchange.system.desk.mStatus
  balanced : t.Balanced counts

theorem follows_initial (counts : C -> Bool)
    (Ready : C -> HalFunction -> Status C -> Prop) (capacity : Nat) :
    (Tally.initial capacity : Tally C).Follows counts Ready where
  named := named_initial capacity
  exact := ⟨rfl, Nat.zero_le 1⟩
  ready := fun _ _ h => by cases h
  balanced := rfl

section Steps

variable {worker : Worker C} {counts : C -> Bool}
variable {Ready : C -> HalFunction -> Status C -> Prop}
variable {majorVersion : Nat} {hal : HalStream} {answers : Answers}
variable {s u : StreamSystem C} {t : Tally C}

theorem Tally.Follows.statusMQ_nil (ht : t.Follows counts Ready)
    (hat : t.exchange.system.worker = .writeStatus) : t.exchange.system.statusMQ = [] := by
  have hsingle := ht.exact.single
  have hhand : t.exchange.system.inHand = [t.exchange.system.desk.mStatus.replyTo] := by
    rw [inHand_of_at hat]
    rfl
  unfold Exchange.dialogue at hsingle
  dsimp only at hsingle
  rw [hhand, List.length_map, List.length_append, List.length_singleton] at hsingle
  exact List.eq_nil_of_length_eq_zero (by lia)

theorem Tally.Follows.idle (ht : t.Follows counts Ready)
    (htaken : t.exchange.replies.length = t.exchange.sent.length) :
    t.exchange.system.statusMQ = [] ∧ t.exchange.system.inHand = [] := by
  have hlengths : t.exchange.dialogue.taken.length = t.exchange.dialogue.asked.length := by
    show (t.exchange.replies.map Status.replyTo).length =
      (t.exchange.sent.map some).length
    rw [List.length_map, List.length_map]
    exact htaken
  rcases ht.exact.idle hlengths with ⟨hready, hunanswered⟩
  exact ⟨List.map_eq_nil_iff.mp hready, (List.append_eq_nil_iff.mp hunanswered).1⟩

theorem Tally.Follows.told_all (ht : t.Follows counts Ready)
    (htaken : t.exchange.replies.length = t.exchange.sent.length) :
    t.total = t.exchange.told counts := by
  rcases ht.idle htaken with ⟨hstatus, hhand⟩
  have hunreported : t.exchange.system.unreported counts = 0 := by
    unfold StreamSystem.unreported
    cases hat : t.exchange.system.worker with
    | writeStatus =>
        rw [inHand_of_at hat] at hhand
        cases hhand
    | _ => rfl
  have hbalanced := ht.balanced
  unfold Tally.Balanced StreamSystem.untold at hbalanced
  rw [hstatus, hunreported] at hbalanced
  exact hbalanced

theorem Moves.untold (hworker : worker.Tells counts Ready)
    (h : Moves worker hal answers s u) (hnamed : s.Named)
    (hready : forall command function, s.worker = .callHal command function ->
      Ready command function s.desk.mStatus)
    (hroom : s.worker = .writeStatus -> s.statusMQ = []) :
    u.untold counts = s.untold counts + Tally.movedNow answers s.worker := by
  have hquiet : forall {phase : WorkerAt C}, s.worker = phase ->
      s.untold counts = (s.statusMQ.map (Status.told counts)).sum +
        { s with worker := phase }.unreported counts := by
    intro phase hat
    unfold StreamSystem.untold
    rw [unreported_of_at counts hat]
  cases h with
  | rests hat =>
      rcases hat with hat | hat
      · rw [hat]
        rfl
      · rw [hat]
        rfl
  | exits hat hstop =>
      rw [hquiet hat, hat]
      rfl
  | waits hat hstop =>
      rw [hquiet hat, hat]
      rfl
  | wakes hat hflag hstate =>
      rw [hquiet hat, hat]
      rfl
  | continues hat hflag =>
      rw [hquiet hat, hat]
      rfl
  | finds hat hqueue =>
      rw [hquiet hat, hat]
      rfl
  | reads command rest hat hqueue =>
      rw [hquiet hat, hat]
      rfl
  | skips command desk hat hbegin =>
      have hzero := hworker.begin_skip hbegin
        (hnamed command (by rw [inHand_of_at hat]; rfl))
      rw [hquiet hat, hat]
      show _ + desk.mStatus.told counts = _
      rw [hzero]
      rfl
  | calls command function desk hat hbegin =>
      rw [hquiet hat, hat]
      rfl
  | returns command function hat =>
      have hmoved := hworker.finish answers (hready command function hat)
        (hnamed command (by rw [inHand_of_at hat]; rfl))
      rw [hquiet hat, hat]
      show _ + (worker.finish command answers s.desk).mStatus.told counts = _
      rw [hmoved]
      rfl
  | reports hat hempty =>
      rw [hquiet hat, hat, hempty]
      show (s.desk.mStatus.told counts + 0) + 0 = (0 + s.desk.mStatus.told counts) + 0
      lia
  | loses hat hfull => exact absurd (hroom hat) hfull
  | signals hat =>
      rw [hquiet hat, hat]
      rfl

theorem Moves.ready (hworker : worker.Tells counts Ready)
    (h : Moves worker hal answers s u)
    (hready : forall command function, s.worker = .callHal command function ->
      Ready command function s.desk.mStatus) :
    forall command function, u.worker = .callHal command function ->
      Ready command function u.desk.mStatus := by
  intro command function hcall
  cases h with
  | rests hat => exact hready command function hcall
  | calls first asked desk hat hbegin =>
      cases hcall
      exact hworker.begin_call hbegin
  | _ => cases hcall

theorem Leaves.untold (h : Leaves s u) : u.untold counts = s.untold counts := by
  unfold StreamSystem.untold StreamSystem.unreported
  rw [h.worker, h.statusMQ, h.desk]

theorem Leaves.ready (h : Leaves s u)
    (hready : forall command function, s.worker = .callHal command function ->
      Ready command function s.desk.mStatus) :
    forall command function, u.worker = .callHal command function ->
      Ready command function u.desk.mStatus := by
  rw [h.worker, h.desk]
  exact hready

theorem told_append (counts : C -> Bool) (replies taken : List (Status C)) :
    ((replies ++ taken).map (Status.told counts)).sum =
      (replies.map (Status.told counts)).sum + (taken.map (Status.told counts)).sum := by
  rw [List.map_append, List.sum_append]

theorem Tally.Follows.balanced_next (hworker : worker.Tells counts Ready)
    (ht : t.Follows counts Ready) (step : StreamStep C) :
    (t.next worker majorVersion hal step).Balanced counts := by
  have hbalanced := ht.balanced
  have hleaves : forall {u : StreamSystem C}, Leaves t.exchange.system u ->
      t.total = t.exchange.told counts + u.untold counts := by
    intro u hu
    rw [hu.untold]
    exact hbalanced
  cases step with
  | prepare =>
      rcases prepare_cases worker majorVersion hal t.exchange.system with hsame | ⟨hat, hstarts⟩
      · show t.total = t.exchange.told counts +
          (t.exchange.system.step worker majorVersion hal .prepare).untold counts
        rw [hsame]
        exact hbalanced
      · show t.total = t.exchange.told counts +
          (t.exchange.system.step worker majorVersion hal .prepare).untold counts
        rw [hstarts]
        unfold Tally.Balanced StreamSystem.untold at hbalanced
        rw [unreported_of_at counts hat] at hbalanced
        exact hbalanced
  | send command => exact hbalanced
  | data bytes => exact hbalanced
  | takeStatus =>
      have hsplit := told_append counts (t.exchange.system.statusMQ.take 1)
        t.exchange.system.statusMQ.tail
      rw [← List.drop_one, List.take_append_drop] at hsplit
      show t.total = ((t.exchange.replies ++ t.exchange.system.statusMQ.take 1).map
        (Status.told counts)).sum +
          ((t.exchange.system.statusMQ.tail.map (Status.told counts)).sum +
            t.exchange.system.unreported counts)
      unfold Tally.Balanced Exchange.told StreamSystem.untold at hbalanced
      rw [told_append, hbalanced, hsplit, List.drop_one]
      lia
  | wakeWorker => exact hbalanced
  | worker answers =>
      have hmoves := (workerStep_moves worker hal answers t.exchange.system).untold hworker
        ht.named ht.ready ht.statusMQ_nil
      show t.total + Tally.movedNow answers t.exchange.system.worker =
        t.exchange.told counts +
          (t.exchange.system.workerStep worker hal answers).untold counts
      rw [hmoves, hbalanced]
      lia
  | close => exact hleaves (enters_leaves false t.exchange.system)
  | destroy => exact hleaves (enters_leaves true t.exchange.system)
  | closer => exact hleaves (closerStep_leaves majorVersion hal t.exchange.system)

theorem Tally.ready_next (hworker : worker.Tells counts Ready)
    (hready : forall command function, t.exchange.system.worker = .callHal command function ->
      Ready command function t.exchange.system.desk.mStatus) (step : StreamStep C) :
    forall command function,
      (t.next worker majorVersion hal step).exchange.system.worker =
          .callHal command function ->
        Ready command function
          (t.next worker majorVersion hal step).exchange.system.desk.mStatus := by
  cases step with
  | prepare =>
      show forall command function,
        (t.exchange.system.step worker majorVersion hal .prepare).worker = _ -> _
      intro command function hcall
      rcases prepare_cases worker majorVersion hal t.exchange.system with hsame | ⟨hat, hstarts⟩
      · rw [hsame] at hcall
        show Ready command function
          (t.exchange.system.step worker majorVersion hal .prepare).desk.mStatus
        rw [hsame]
        exact hready command function hcall
      · rw [hstarts] at hcall
        cases hcall
  | worker answers =>
      exact (workerStep_moves worker hal answers t.exchange.system).ready hworker hready
  | close => exact (enters_leaves false t.exchange.system).ready hready
  | destroy => exact (enters_leaves true t.exchange.system).ready hready
  | closer => exact (closerStep_leaves majorVersion hal t.exchange.system).ready hready
  | _ => exact hready

theorem Tally.Follows.next (hworker : worker.Tells counts Ready)
    (ht : t.Follows counts Ready) {step : StreamStep C} (hpatient : t.exchange.Patient step) :
    (t.next worker majorVersion hal step).Follows counts Ready where
  named := next_named majorVersion hal hworker.keepsReplyTo step ht.named
  exact := (next_dialogue majorVersion hal hworker.keepsReplyTo step ht.named).exact
    hpatient.dialogue ht.exact
  ready := t.ready_next hworker ht.ready step
  balanced := ht.balanced_next hworker step

end Steps

end Audio
end Sm7225
