import Sm7225.Lib.Progress
import Sm7225.Audio.CommandReplies

/-!
# Commands get their replies

The client wakes the thread after it has put a command into the queue.  The flag it sets
for this is never lost before the thread has read the command, so the thread answers
after at most seven of its own steps, whatever the client and the closing thread do in
between.
-/

namespace Sm7225
namespace Audio

open Lib

variable {C : Type}

/-!
# No lost wake-up
-/

structure Awake (x : Exchange C) : Prop where
  room : x.system.commandMQ.length <= 1
  flagged : x.system.commandMQ ≠ [] -> x.woken = true ->
    x.system.efWorker = true ∨ x.system.worker = .readCommand

section Steps

variable {worker : Worker C} {majorVersion : Nat} {hal : HalStream} {answers : Answers}
variable {x : Exchange C} {t : StreamSystem C}

theorem Awake.efWorker (hx : Awake x) {phase : WorkerAt C} (hat : x.system.worker = phase)
    (hphase : phase ≠ .readCommand) (hqueue : x.system.commandMQ ≠ [])
    (hwoken : x.woken = true) : x.system.efWorker = true := by
  rcases hx.flagged hqueue hwoken with hflag | hread
  · exact hflag
  · rw [hat] at hread
    exact absurd hread hphase

theorem Awake.move (hx : Awake x) {phase : WorkerAt C} (hat : x.system.worker = phase)
    (hphase : phase ≠ .readCommand) (hqueue : t.commandMQ = x.system.commandMQ)
    (hflag : t.efWorker = x.system.efWorker) : Awake { x with system := t } where
  room := by
    show t.commandMQ.length <= 1
    rw [hqueue]
    exact hx.room
  flagged := by
    intro hnonempty hwoken
    apply Or.inl
    show t.efWorker = true
    rw [hflag]
    apply hx.efWorker hat hphase _ hwoken
    rw [← hqueue]
    exact hnonempty

theorem Moves.awake (h : Moves worker hal answers x.system t) (hx : Awake x) :
    Awake { x with system := t } := by
  cases h with
  | rests hat => exact hx
  | exits hat hstop => exact hx.move hat (by simp) rfl rfl
  | waits hat hstop => exact hx.move hat (by simp) rfl rfl
  | wakes hat hflag hstate => exact ⟨hx.room, fun _ _ => Or.inr rfl⟩
  | continues hat hflag => exact hx.move hat (by simp) rfl rfl
  | finds hat hqueue => exact ⟨hx.room, fun hnonempty => absurd hqueue hnonempty⟩
  | reads command rest hat hqueue =>
      have hroom := hx.room
      rw [hqueue, List.length_cons] at hroom
      have hrest : rest = [] := List.eq_nil_of_length_eq_zero (by lia)
      constructor
      · show rest.length <= 1
        lia
      · intro hnonempty
        exact absurd hrest hnonempty
  | skips command desk hat hbegin => exact hx.move hat (by simp) rfl rfl
  | calls command function desk hat hbegin => exact hx.move hat (by simp) rfl rfl
  | returns command function hat => exact hx.move hat (by simp) rfl rfl
  | reports hat hroom => exact hx.move hat (by simp) rfl rfl
  | loses hat hroom => exact hx.move hat (by simp) rfl rfl
  | signals hat => exact hx.move hat (by simp) rfl rfl

theorem Leaves.awake (h : Leaves x.system t) (hx : Awake x) : Awake { x with system := t } where
  room := by
    show t.commandMQ.length <= 1
    rw [h.commandMQ]
    exact hx.room
  flagged := by
    show t.commandMQ ≠ [] -> x.woken = true -> t.efWorker = true ∨ t.worker = .readCommand
    rw [h.commandMQ, h.worker]
    intro hnonempty hwoken
    rcases hx.flagged hnonempty hwoken with hflag | hread
    · exact Or.inl (h.efWorker hflag)
    · exact Or.inr hread

theorem next_awake (majorVersion : Nat) (hal : HalStream) (step : StreamStep C)
    (hx : Awake x) : Awake (x.next worker majorVersion hal step) := by
  cases step with
  | prepare =>
      show Awake { x with system := x.system.step worker majorVersion hal .prepare }
      rcases prepare_cases worker majorVersion hal x.system with hsame | ⟨hat, hstarts⟩
      · rw [hsame]
        exact hx
      · rw [hstarts]
        exact hx.move hat (by simp) rfl rfl
  | send command =>
      cases hqueue : x.system.commandMQ with
      | nil =>
          constructor
          · show (if x.system.commandMQ.isEmpty then [command]
              else x.system.commandMQ).length <= 1
            rw [hqueue]
            exact Nat.le_refl 1
          · intro _ hwoken
            have hasleep : (if x.system.commandMQ.isEmpty then false else x.woken) = true :=
              hwoken
            rw [hqueue] at hasleep
            cases hasleep
      | cons first rest =>
          have hsystem : x.next worker majorVersion hal (.send command) =
              { x with system := { x.system with commandMQ := x.system.commandMQ } } := by
            unfold Exchange.next StreamSystem.step
            simp [hqueue]
          rw [hsystem]
          exact hx
  | data bytes => exact ⟨hx.room, hx.flagged⟩
  | takeStatus => exact ⟨hx.room, hx.flagged⟩
  | wakeWorker => exact ⟨hx.room, fun _ _ => Or.inl rfl⟩
  | worker answers => exact (workerStep_moves worker hal answers x.system).awake hx
  | close => exact (enters_leaves false x.system).awake hx
  | destroy => exact (enters_leaves true x.system).awake hx
  | closer => exact (closerStep_leaves majorVersion hal x.system).awake hx

end Steps

/-!
# The way to the next status
-/

def WorkerAt.stepsToStatus : WorkerAt C -> Nat
  | .writeStatus => 1
  | .callHal _ _ => 2
  | .switch _ => 3
  | .readCommand => 4
  | .wait => 5
  | .testStop => 6
  | .wake => 7
  | .notStarted => 0
  | .exited => 0

def WorkerAt.running (phase : WorkerAt C) : Prop :=
  phase ≠ .notStarted ∧ phase ≠ .exited

def Exchange.answered (x : Exchange C) : Nat :=
  x.dialogue.taken.length + x.dialogue.ready.length

def Exchange.stepsToReply (n : Nat) (x : Exchange C) : Nat :=
  if n <= x.answered then 0 else x.system.worker.stepsToStatus

structure Answering (n : Nat) (x : Exchange C) : Prop where
  named : x.system.Named
  exact : x.dialogue.Exact
  awake : Awake x
  sent : n <= x.sent.length
  running : x.system.worker.running
  woken : x.answered < n -> x.woken = true

def StreamStep.seesFlag : StreamStep C -> Bool
  | .worker answers => answers.efState
  | _ => true

def Exchange.Prompt (x : Exchange C) (step : StreamStep C) : Prop :=
  x.Patient step ∧ x.system.mStop = false ∧ step.seesFlag = true

instance Exchange.Prompt.decidable (x : Exchange C) (step : StreamStep C) :
    Decidable (x.Prompt step) :=
  inferInstanceAs (Decidable (_ ∧ _))

section Ranks

variable {worker : Worker C} {majorVersion : Nat} {hal : HalStream} {answers : Answers}
variable {x : Exchange C} {t : StreamSystem C} {n : Nat}

theorem answered_le_of_step {d d' : Dialogue (Option C)} (h : Dialogue.Step d d') :
    d.taken.length + d.ready.length <= d'.taken.length + d'.ready.length := by
  cases h with
  | stay => exact Nat.le_refl _
  | ask a => exact Nat.le_refl _
  | answer a rest hhead hroom =>
      show d.taken.length + d.ready.length <= d.taken.length + [a].length
      rw [hroom]
      exact Nat.le_succ _
  | lose a rest hhead hroom => exact Nat.le_refl _
  | take a rest hready =>
      show d.taken.length + d.ready.length <= (d.taken ++ [a]).length + rest.length
      rw [hready, List.length_cons, List.length_append, List.length_singleton]
      lia

theorem Answering.open (hx : Answering n x) (hbefore : x.answered < n) :
    x.system.statusMQ = [] ∧ x.system.inHand ++ x.system.commandMQ.map some ≠ [] := by
  have hlength := congrArg List.length hx.exact.complete
  rw [List.length_append, List.length_append] at hlength
  have hasked : x.dialogue.asked.length = x.sent.length := List.length_map _
  have hsent := hx.sent
  have hsingle := hx.exact.single
  unfold Exchange.answered at hbefore
  have hopen : 0 < x.dialogue.unanswered.length := by lia
  constructor
  · have hready : x.dialogue.ready.length = 0 := by lia
    exact List.map_eq_nil_iff.mp (List.eq_nil_of_length_eq_zero hready)
  · exact List.length_pos_iff.mp hopen

theorem Answering.queued (hx : Answering n x) (hbefore : x.answered < n)
    (hhand : x.system.inHand = []) : x.system.commandMQ ≠ [] := by
  intro hqueue
  apply (hx.open hbefore).2
  rw [hhand, hqueue]
  rfl

theorem stepsToReply_of_lt (h : x.answered < n) :
    x.stepsToReply n = x.system.worker.stepsToStatus := if_neg (by lia)

theorem nearer_to_reply {phase : WorkerAt C} (hat : x.system.worker = phase)
    (hnearer : t.worker.stepsToStatus < phase.stepsToStatus) :
    { x with system := t }.stepsToReply n < x.system.worker.stepsToStatus := by
  rw [hat]
  unfold Exchange.stepsToReply
  split
  · exact Nat.zero_lt_of_lt hnearer
  · exact hnearer

theorem Moves.stepsToReply_lt (h : Moves worker hal answers x.system t) (hx : Answering n x)
    (hbefore : x.answered < n) (hstop : x.system.mStop = false)
    (hstate : answers.efState = true) :
    { x with system := t }.stepsToReply n < x.system.worker.stepsToStatus := by
  have hopen := hx.open hbefore
  cases h with
  | rests hat =>
      rcases hat with hat | hat
      · exact absurd hat hx.running.1
      · exact absurd hat hx.running.2
  | exits hat hstopped =>
      rw [hstop] at hstopped
      cases hstopped
  | waits hat _ => exact nearer_to_reply hat (Nat.lt_succ_self 5)
  | wakes hat hflag _ => exact nearer_to_reply hat (Nat.lt_succ_self 4)
  | continues hat hflag =>
      have hqueue := hx.queued hbefore (inHand_of_at hat)
      have hset := hx.awake.efWorker hat (by simp) hqueue (hx.woken hbefore)
      rw [hflag hset] at hstate
      cases hstate
  | finds hat hqueue => exact absurd hqueue (hx.queued hbefore (inHand_of_at hat))
  | reads command rest hat hqueue => exact nearer_to_reply hat (Nat.lt_succ_self 3)
  | skips command desk hat hbegin =>
      exact nearer_to_reply hat (Nat.lt_of_succ_lt (Nat.lt_succ_self 2))
  | calls command function desk hat hbegin =>
      exact nearer_to_reply hat (Nat.lt_succ_self 2)
  | returns command function hat => exact nearer_to_reply hat (Nat.lt_succ_self 1)
  | reports hat hroom =>
      -- the status is there, and it is for the last command that was sent
      have hlength := congrArg List.length hx.exact.complete
      rw [List.length_append, List.length_append] at hlength
      have hasked : x.dialogue.asked.length = x.sent.length := List.length_map _
      have hsingle := hx.exact.single
      have hsent := hx.sent
      have hreply : n <= x.dialogue.taken.length + 1 := by lia
      rw [hat]
      exact Nat.lt_of_le_of_lt (Nat.le_of_eq (if_pos hreply)) Nat.one_pos
  | loses hat hroom => exact absurd hopen.1 hroom
  | signals hat => exact nearer_to_reply hat (Nat.lt_succ_self 6)

theorem Moves.running (h : Moves worker hal answers s t) (hs : s.worker.running)
    (hstop : s.mStop = false) : t.worker.running := by
  cases h with
  | rests hat => exact hs
  | exits hat hstopped =>
      rw [hstop] at hstopped
      cases hstopped
  | _ => exact ⟨by simp, by simp⟩

theorem next_worker (hrunning : x.system.worker.running) {step : StreamStep C}
    (hstep : step.isWorker = false) :
    (x.next worker majorVersion hal step).system.worker = x.system.worker := by
  cases step with
  | prepare =>
      show (x.system.step worker majorVersion hal .prepare).worker = _
      rcases prepare_cases worker majorVersion hal x.system with hsame | ⟨hat, _⟩
      · rw [hsame]
      · exact absurd hat hrunning.1
  | worker answers => cases hstep
  | close => exact (enters_leaves false x.system).worker
  | destroy => exact (enters_leaves true x.system).worker
  | closer => exact (closerStep_leaves majorVersion hal x.system).worker
  | _ => rfl

theorem Answering.woken_next (hx : Answering n x) {step : StreamStep C}
    (hpatient : x.Patient step) (hbefore : x.answered < n) :
    (x.next worker majorVersion hal step).woken = true := by
  have hwoken := hx.woken hbefore
  cases step with
  | send command =>
      have hsent := hx.sent
      have htaken : x.dialogue.taken.length = x.replies.length := List.length_map _
      have hreplies : x.replies.length = x.sent.length := hpatient
      unfold Exchange.answered at hbefore
      lia
  | wakeWorker => rfl
  | _ => exact hwoken

theorem sent_le_next (step : StreamStep C) :
    x.sent.length <= (x.next worker majorVersion hal step).sent.length := by
  cases step with
  | send command =>
      show _ <= (if x.system.commandMQ.isEmpty then x.sent ++ [command] else x.sent).length
      split
      · rw [List.length_append]
        exact Nat.le_add_right _ _
      · exact Nat.le_refl _
  | _ => exact Nat.le_refl _

theorem Answering.next (hworker : worker.KeepsReplyTo) (hx : Answering n x)
    {step : StreamStep C} (hprompt : x.Prompt step) :
    Answering n (x.next worker majorVersion hal step) ∧
      (x.next worker majorVersion hal step).stepsToReply n <=
        x.stepsToReply n - step.isWorker.toNat := by
  rcases hprompt with ⟨hpatient, hstop, hstate⟩
  have hdialogue := next_dialogue majorVersion hal hworker step hx.named
  have hmore : x.answered <= (x.next worker majorVersion hal step).answered :=
    answered_le_of_step hdialogue
  have hrunning : (x.next worker majorVersion hal step).system.worker.running := by
    cases step with
    | worker answers =>
        exact (workerStep_moves worker hal answers x.system).running hx.running hstop
    | _ =>
        rw [next_worker hx.running rfl]
        exact hx.running
  constructor
  · exact {
      named := next_named majorVersion hal hworker step hx.named
      exact := hdialogue.exact hpatient.dialogue hx.exact
      awake := next_awake majorVersion hal step hx.awake
      sent := Nat.le_trans hx.sent (sent_le_next step)
      running := hrunning
      woken := fun hbefore => hx.woken_next hpatient (Nat.lt_of_le_of_lt hmore hbefore) }
  · by_cases hbefore : x.answered < n
    · rw [stepsToReply_of_lt hbefore]
      cases step with
      | worker answers =>
          exact Nat.le_pred_of_lt ((workerStep_moves worker hal answers x.system).stepsToReply_lt
            hx hbefore hstop hstate)
      | _ =>
          unfold Exchange.stepsToReply
          split
          · exact Nat.zero_le _
          · rw [next_worker hx.running rfl]
            exact Nat.le_refl _
    · have hreplied : n <= (x.next worker majorVersion hal step).answered := by lia
      unfold Exchange.stepsToReply
      rw [if_pos hreplied]
      exact Nat.zero_le _

end Ranks

/-!
# Runs
-/

theorem WorkerAt.stepsToStatus_le (phase : WorkerAt C) : phase.stepsToStatus <= 7 := by
  cases phase with
  | wake => exact Nat.le_refl 7
  | _ => exact Nat.le_of_ble_eq_true rfl

/-- After a run of a patient client whose last command is sent and who has woken the
thread, any run with seven steps of the thread brings the reply. -/
def Replies (worker : Worker C) (majorVersion : Nat) (hal : HalStream) (capacity : Nat)
    (before after : List (StreamStep C)) : Prop :=
  Along (Exchange.exec worker majorVersion hal) Exchange.Patient before
      (Exchange.initial capacity) ->
    Sat (run (Exchange.exec worker majorVersion hal) before)
      (fun _ x => x.system.worker.running -> x.woken = true ->
        Along (Exchange.exec worker majorVersion hal) Exchange.Prompt after x ->
          7 <= turns StreamStep.isWorker after ->
            Sat (run (Exchange.exec worker majorVersion hal) after)
              (fun _ y => y.dialogue.Exact ∧ x.sent.length <= y.answered)
              (fun _ _ => False) x)
      (fun _ _ => False) (Exchange.initial capacity)

theorem Worker.KeepsReplyTo.replies {worker : Worker C} (hworker : worker.KeepsReplyTo)
    (majorVersion : Nat) (hal : HalStream) (capacity : Nat)
    (before after : List (StreamStep C)) :
    Replies worker majorVersion hal capacity before after := by
  intro hpatient
  have hbefore : Sat (run (Exchange.exec worker majorVersion hal) before)
      (fun _ x => x.system.Named ∧ x.dialogue.Exact ∧ Awake x) (fun _ _ => False)
      (Exchange.initial capacity) := by
    refine run_sat ?_ before (Exchange.initial capacity)
      ⟨named_initial capacity, ⟨rfl, Nat.zero_le 1⟩,
        ⟨Nat.zero_le 1, fun h => absurd rfl h⟩⟩
      hpatient
    intro x step hx hstep
    exact ⟨next_named majorVersion hal hworker step hx.1,
      (next_dialogue majorVersion hal hworker step hx.1).exact hstep.dialogue hx.2.1,
      next_awake majorVersion hal step hx.2.2⟩
  apply hbefore.imp
  intro _ x hx hrunning hwoken hprompt hturns
  have hanswering : Answering x.sent.length x :=
    ⟨hx.1, hx.2.1, hx.2.2, Nat.le_refl _, hrunning, fun _ => hwoken⟩
  have hrank : x.stepsToReply x.sent.length <= turns StreamStep.isWorker after := by
    refine Nat.le_trans ?_ hturns
    unfold Exchange.stepsToReply
    split
    · exact Nat.zero_le 7
    · exact x.system.worker.stepsToStatus_le
  have hafter : Sat (run (Exchange.exec worker majorVersion hal) after)
      (fun _ y => Answering x.sent.length y ∧ y.stepsToReply x.sent.length = 0)
      (fun _ _ => False) x := run_sat_rank_zero
    (fun y step hy hstep => hy.next hworker hstep) hanswering hprompt hrank
  apply hafter.imp
  intro _ y hy
  refine ⟨hy.1.exact, ?_⟩
  by_contra hmissing
  have hzero := hy.2
  rw [stepsToReply_of_lt (by lia)] at hzero
  have hphase := hy.1.running
  cases hat : y.system.worker with
  | notStarted => exact hphase.1 hat
  | exited => exact hphase.2 hat
  | _ =>
      rw [hat] at hzero
      cases hzero

/-- No command of a patient client that wakes the thread stays without its reply: seven
steps of the thread bring it, in every order with the steps of the others. -/
theorem commands_get_replies (majorVersion : Nat) (hal : HalStream) (capacity : Nat) :
    (forall before after, Replies WriteThread.worker majorVersion hal capacity before after) ∧
      (forall before after, Replies ReadThread.worker majorVersion hal capacity before after) := by
  constructor
  · intro before after
    exact WriteThread.keepsReplyTo.replies majorVersion hal capacity before after
  · intro before after
    exact ReadThread.keepsReplyTo.replies majorVersion hal capacity before after

/-- The latency is asked for, and the thread alone brings the reply. -/
theorem commands_get_replies_latency :
    Sat (run (Exchange.exec WriteThread.worker 6 { closing := .free, hasPosition := true })
        askLatency)
      (fun _ x => Sat
        (run (Exchange.exec WriteThread.worker 6 { closing := .free, hasPosition := true })
          sevenSteps)
        (fun _ y => y.dialogue.Exact ∧ 1 <= y.answered) (fun _ _ => False) x)
      (fun _ _ => False) (Exchange.initial 4) :=
  (commands_get_replies 6 { closing := .free, hasPosition := true } 4).1 askLatency
    sevenSteps (by decide) ⟨by decide, by decide⟩ rfl (by decide) (by decide)

end Audio
end Sm7225
