import Sm7225.Audio.WorkerThread

/-!
# Use after close

Since version 6 {lit}`close` gives the stream back to the vendor before the
worker thread is joined.  No call of the vendor follows exactly as long as the
thread is not on its way to a call at that time, and finds no command later that
leads to one.  Older versions close the stream after the join.
-/

namespace Sm7225
namespace Audio

open Lib

variable {C : Type}

/-!
# Calls of an open stream
-/

def HalUse.closes : HalUse -> Bool
  | .call _ => false
  | .close _ => true

def CalledOpen (past : List HalUse) : HalUse -> Prop
  | .call _ => past.any HalUse.closes = false
  | .close _ => True

instance CalledOpen.decidable (past : List HalUse) :
    forall use, Decidable (CalledOpen past use)
  | .call _ => inferInstanceAs (Decidable (_ = _))
  | .close _ => isTrue trivial

def StreamSystem.halClosed (s : StreamSystem C) : Bool :=
  s.uses.any HalUse.closes

def WorkerAt.commits (worker : Worker C) (hal : HalStream) : WorkerAt C -> Bool
  | .switch command => worker.callsHal hal command
  | .callHal _ _ => true
  | _ => false

def WorkerAt.reads : WorkerAt C -> Bool
  | .readCommand => true
  | _ => false

def WorkerAt.done : WorkerAt C -> Bool
  | .notStarted => true
  | .exited => true
  | _ => false

/-- The next step of {lit}`close` closes the stream. -/
def CloserAt.closing : CloserAt -> Bool
  | .closeStream _ => true
  | _ => false

def CloserAt.joined : CloserAt -> Bool
  | .deleteEventFlag => true
  | .closeAfterJoin => true
  | .gone => true
  | _ => false

def StreamSystem.callQueued (worker : Worker C) (hal : HalStream)
    (s : StreamSystem C) : Bool :=
  s.commandMQ.head?.any (worker.callsHal hal)

def Settled (worker : Worker C) (hal : HalStream) (s : StreamSystem C) :
    StreamStep C -> Prop
  | .closer =>
      s.closer.closing = true -> s.worker.commits worker hal = false
  | .worker _ =>
      s.halClosed = true -> s.worker.reads = true ->
        s.callQueued worker hal = false
  | _ => True

instance Settled.decidable (worker : Worker C) (hal : HalStream)
    (s : StreamSystem C) : forall step, Decidable (Settled worker hal s step)
  | .closer => inferInstanceAs (Decidable (_ -> _))
  | .worker _ => inferInstanceAs (Decidable (_ -> _ -> _))
  | .prepare => isTrue trivial
  | .send _ => isTrue trivial
  | .data _ => isTrue trivial
  | .takeStatus => isTrue trivial
  | .wakeWorker => isTrue trivial
  | .close => isTrue trivial
  | .destroy => isTrue trivial

/-!
# The invariant
-/

structure CalledInTime (worker : Worker C) (hal : HalStream) (s : StreamSystem C) :
    Prop where
  history : Everywhere CalledOpen s.uses
  settled : s.halClosed = true -> s.worker.commits worker hal = false
  joined : s.closer.joined = true -> s.worker.done = true

section Steps

variable {worker : Worker C} {hal : HalStream} {s : StreamSystem C}

theorem commits_of_done {phase : WorkerAt C} (h : phase.done = true) :
    phase.commits worker hal = false := by
  cases phase with
  | notStarted => rfl
  | exited => rfl
  | _ => cases h

theorem calledInTime_initial (capacity : Nat) :
    CalledInTime worker hal (StreamSystem.initial capacity) where
  history := everywhere_nil
  settled := fun hclosed => by cases hclosed
  joined := fun hjoined => by cases hjoined

theorem halClosed_of_uses {t : StreamSystem C} (h : t.uses = s.uses) :
    t.halClosed = s.halClosed := by
  unfold StreamSystem.halClosed
  rw [h]

theorem CalledInTime.move (h : CalledInTime worker hal s) {t : StreamSystem C}
    (huses : t.uses = s.uses)
    (hsettled : s.halClosed = true -> t.worker.commits worker hal = false)
    (hjoined : t.closer.joined = true -> t.worker.done = true) :
    CalledInTime worker hal t where
  history := by
    rw [huses]
    exact h.history
  settled := by
    rw [halClosed_of_uses huses]
    exact hsettled
  joined := hjoined

theorem CalledInTime.frame (h : CalledInTime worker hal s) {t : StreamSystem C}
    (huses : t.uses = s.uses) (hworker : t.worker = s.worker)
    (hjoined : t.closer.joined = true -> s.worker.done = true) :
    CalledInTime worker hal t := by
  apply h.move huses
  · rw [hworker]
    exact h.settled
  · rw [hworker]
    exact hjoined

theorem CalledInTime.close (h : CalledInTime worker hal s) {t : StreamSystem C}
    (huses : t.uses = s.uses ++ [.close hal.closing])
    (hworker : t.worker = s.worker)
    (hcommits : s.worker.commits worker hal = false)
    (hjoined : t.closer.joined = true -> s.worker.done = true) :
    CalledInTime worker hal t where
  history := by
    rw [huses]
    exact h.history.snoc trivial
  settled := by
    intro _
    rw [hworker]
    exact hcommits
  joined := by
    rw [hworker]
    exact hjoined

theorem CalledInTime.loop (h : CalledInTime worker hal s)
    (hrunning : s.worker.done = false) {t : StreamSystem C}
    (huses : t.uses = s.uses) (hcloser : t.closer = s.closer)
    (hsettled : s.halClosed = true -> t.worker.commits worker hal = false) :
    CalledInTime worker hal t := by
  apply h.move huses hsettled
  intro hjoined
  rw [hcloser] at hjoined
  rw [h.joined hjoined] at hrunning
  cases hrunning

theorem workerStep_inTime (h : CalledInTime worker hal s) (answers : Answers)
    (hsettled : Settled worker hal s (.worker answers)) :
    CalledInTime worker hal (s.workerStep worker hal answers) := by
  unfold StreamSystem.workerStep
  cases hat : s.worker with
  | notStarted => exact h
  | testStop =>
      have hrunning : s.worker.done = false := by rw [hat]; rfl
      show CalledInTime worker hal (if s.mStop then _ else _)
      split
      · exact h.loop hrunning rfl rfl fun _ => rfl
      · exact h.loop hrunning rfl rfl fun _ => rfl
  | wait =>
      have hrunning : s.worker.done = false := by rw [hat]; rfl
      show CalledInTime worker hal (if s.efWorker && answers.efState then _ else _)
      split
      · exact h.loop hrunning rfl rfl fun _ => rfl
      · exact h.loop hrunning rfl rfl fun _ => rfl
  | readCommand =>
      have hrunning : s.worker.done = false := by rw [hat]; rfl
      cases hqueue : s.commandMQ with
      | nil => exact h.loop hrunning rfl rfl fun _ => rfl
      | cons command rest =>
          refine h.loop hrunning rfl rfl ?_
          intro hclosed
          have hqueued := hsettled hclosed (by rw [hat]; rfl)
          unfold StreamSystem.callQueued at hqueued
          rw [hqueue] at hqueued
          exact hqueued
  | switch command =>
      have hrunning : s.worker.done = false := by rw [hat]; rfl
      have hcommits : s.halClosed = true -> worker.callsHal hal command = false := by
        have hsettled := h.settled
        rw [hat] at hsettled
        exact hsettled
      dsimp only
      rcases hbegin : worker.begin hal command answers s.desk with ⟨call, desk⟩
      cases call with
      | none => exact h.loop hrunning rfl rfl fun _ => rfl
      | some function =>
          refine h.loop hrunning rfl rfl ?_
          intro hclosed
          have hnone := worker.begin_none hal command answers s.desk
            (hcommits hclosed)
          rw [hbegin] at hnone
          cases hnone
  | callHal command function =>
      have hopen : s.halClosed = false := by
        cases hclosed : s.halClosed with
        | false => rfl
        | true =>
            have hcommits := h.settled hclosed
            rw [hat] at hcommits
            cases hcommits
      constructor
      · exact h.history.snoc hopen
      · intro _
        rfl
      · intro hjoined
        have hdone := h.joined hjoined
        rw [hat] at hdone
        cases hdone
  | writeStatus =>
      have hrunning : s.worker.done = false := by rw [hat]; rfl
      exact h.loop hrunning rfl rfl fun _ => rfl
  | wake =>
      have hrunning : s.worker.done = false := by rw [hat]; rfl
      exact h.loop hrunning rfl rfl fun _ => rfl
  | exited => exact h

theorem closed_joined (destructor : Bool) :
    (s.closed destructor).closer.joined = false := by
  cases destructor with
  | false => rfl
  | true => rfl

theorem CalledInTime.closed (h : CalledInTime worker hal s) (destructor : Bool) :
    CalledInTime worker hal (s.closed destructor) := by
  refine h.frame rfl rfl ?_
  intro hjoined
  rw [closed_joined] at hjoined
  cases hjoined

theorem closerStep_inTime (h : CalledInTime worker hal s) (majorVersion : Nat)
    (hsettled : Settled worker hal s .closer) :
    CalledInTime worker hal (s.closerStep majorVersion hal) := by
  unfold StreamSystem.closerStep
  cases hat : s.closer with
  | idle => exact h
  | testStop destructor =>
      show CalledInTime worker hal (if s.mStop then _ else _)
      split
      · exact h.closed destructor
      · exact h.frame rfl rfl fun hjoined => by cases hjoined
  | storeStop destructor =>
      exact h.frame rfl rfl fun hjoined => by cases hjoined
  | wake destructor =>
      have hwoken : CalledInTime worker hal { s with efWorker := true } :=
        h.frame rfl rfl h.joined
      show CalledInTime worker hal (if 6 <= majorVersion then _ else _)
      split
      · exact hwoken.frame rfl rfl fun hjoined => by cases hjoined
      · exact hwoken.closed destructor
  | closeStream destructor =>
      have hcommits : s.worker.commits worker hal = false :=
        hsettled (by rw [hat]; rfl)
      refine h.close rfl rfl hcommits ?_
      intro hjoined
      rw [closed_joined] at hjoined
      cases hjoined
  | join =>
      cases hworker : s.worker with
      | notStarted => exact h.frame rfl hworker.symm fun _ => by rw [hworker]; rfl
      | exited => exact h.frame rfl hworker.symm fun _ => by rw [hworker]; rfl
      | _ => exact h
  | deleteEventFlag =>
      have hdone : s.worker.done = true := h.joined (by rw [hat]; rfl)
      show CalledInTime worker hal (if majorVersion <= 5 then _ else _)
      split
      · exact h.frame rfl rfl fun _ => hdone
      · exact h.frame rfl rfl fun _ => hdone
  | closeAfterJoin =>
      have hdone : s.worker.done = true := h.joined (by rw [hat]; rfl)
      exact h.close rfl rfl (commits_of_done hdone) fun _ => hdone
  | gone => exact h

theorem step_inTime (h : CalledInTime worker hal s) (majorVersion : Nat)
    (step : StreamStep C) (hsettled : Settled worker hal s step) :
    CalledInTime worker hal (s.step worker majorVersion hal step) := by
  unfold StreamSystem.step
  cases step with
  | prepare =>
      dsimp only
      split
      · rename_i hcloser
        refine h.move rfl (fun _ => rfl) ?_
        intro hjoined
        rw [show s.closer = .idle from hcloser] at hjoined
        cases hjoined
      · exact h
  | send command => exact h.frame rfl rfl h.joined
  | data bytes => exact h.frame rfl rfl h.joined
  | takeStatus => exact h.frame rfl rfl h.joined
  | wakeWorker => exact h.frame rfl rfl h.joined
  | worker answers => exact workerStep_inTime h answers hsettled
  | close =>
      dsimp only
      split
      · exact h.frame rfl rfl fun hjoined => by cases hjoined
      · exact h
  | destroy =>
      dsimp only
      split
      · exact h.frame rfl rfl fun hjoined => by cases hjoined
      · exact h
  | closer => exact closerStep_inTime h majorVersion hsettled

end Steps

/-!
# Runs
-/

/-- No call of the vendor in this run is on a closed stream. -/
def NeverUsedClosed (worker : Worker C) (majorVersion : Nat) (hal : HalStream)
    (steps : List (StreamStep C)) (s : StreamSystem C) : Prop :=
  Sat (run (execThreads worker majorVersion hal) steps)
    (fun _ t => Everywhere CalledOpen t.uses) (fun _ _ => False) s

section Runs

variable {worker : Worker C} {majorVersion : Nat} {hal : HalStream}
variable {s : StreamSystem C}

theorem neverUsedClosed_cons (step : StreamStep C) (steps : List (StreamStep C)) :
    NeverUsedClosed worker majorVersion hal (step :: steps) s <->
      NeverUsedClosed worker majorVersion hal steps
        (s.step worker majorVersion hal step) := by
  unfold NeverUsedClosed
  rw [run, execThreads, sat_bind, sat_modify, sat_bind]
  rfl

theorem neverUsedClosed_of_settled (steps : List (StreamStep C))
    (h : CalledInTime worker hal s)
    (hsettled : Along (execThreads worker majorVersion hal)
      (Settled worker hal) steps s) :
    NeverUsedClosed worker majorVersion hal steps s := by
  have hstep : forall s step, CalledInTime worker hal s ->
      Settled worker hal s step ->
      Sat (execThreads worker majorVersion hal step)
        (fun _ t => CalledInTime worker hal t) (fun _ _ => False) s := by
    intro s step h hstep
    exact step_inTime h majorVersion step hstep
  exact (run_sat hstep steps s h hsettled).imp fun _ _ ht => ht.history

/-- An answer to the thread that finds its bit and the data of the client. -/
def Answers.ready : Answers where
  efState := true
  dataRead := true
  halResult := 0
  position := 0

theorem used_of_commits (hclosed : s.halClosed = true)
    (hcommits : s.worker.commits worker hal = true) :
    exists steps, ¬NeverUsedClosed worker majorVersion hal steps s := by
  have hcall : forall (t : StreamSystem C) command function,
      t.halClosed = true -> t.worker = .callHal command function ->
      ¬NeverUsedClosed worker majorVersion hal [.worker .ready] t := by
    intro t command function hclosed hat hnever
    rw [neverUsedClosed_cons] at hnever
    have hhistory : Everywhere CalledOpen
        (t.workerStep worker hal .ready).uses := hnever
    unfold StreamSystem.workerStep at hhistory
    rw [hat] at hhistory
    have hopen : t.halClosed = false := (everywhere_snoc.mp hhistory).2
    rw [hclosed] at hopen
    cases hopen
  cases hat : s.worker with
  | callHal command function =>
      exact ⟨[.worker .ready], hcall s command function hclosed hat⟩
  | switch command =>
      exists [.worker .ready, .worker .ready]
      rw [neverUsedClosed_cons]
      rw [hat] at hcommits
      rcases worker.begin_some hal command .ready s.desk hcommits rfl with
        ⟨function, hbegin⟩
      have hstep : s.step worker majorVersion hal (.worker .ready) =
          { s with
            desk := (worker.begin hal command .ready s.desk).2
            worker := .callHal command function } := by
        show s.workerStep worker hal .ready = _
        unfold StreamSystem.workerStep
        rw [hat]
        dsimp only
        rcases hpair : worker.begin hal command .ready s.desk with ⟨call, desk⟩
        rw [hpair] at hbegin
        rw [show call = some function from hbegin]
      rw [hstep]
      exact hcall _ command function hclosed rfl
  | _ =>
      rw [hat] at hcommits
      cases hcommits

theorem used_of_not_settled (step : StreamStep C) (h : ¬Settled worker hal s step) :
    exists steps, ¬NeverUsedClosed worker majorVersion hal (step :: steps) s := by
  cases step with
  | closer =>
      have hboth : s.closer.closing = true ∧
          ¬s.worker.commits worker hal = false := Classical.not_imp.mp h
      rcases hboth with ⟨hclosing, hcommits⟩
      cases hat : s.closer with
      | closeStream destructor =>
          have hclosed : ((s.closeHalStream hal).closed destructor).halClosed =
              true := by
            show (s.uses ++ [HalUse.close hal.closing]).any HalUse.closes = true
            rw [List.any_append]
            exact Bool.or_true _
          have hstep : s.step worker majorVersion hal .closer =
              (s.closeHalStream hal).closed destructor := by
            show s.closerStep majorVersion hal = _
            unfold StreamSystem.closerStep
            rw [hat]
          have hlater : exists steps, ¬NeverUsedClosed worker majorVersion hal steps
              ((s.closeHalStream hal).closed destructor) :=
            used_of_commits hclosed (eq_true_of_ne_false hcommits)
          rcases hlater with ⟨steps, hused⟩
          exists steps
          rw [neverUsedClosed_cons, hstep]
          exact hused
      | _ =>
          rw [hat] at hclosing
          cases hclosing
  | worker answers =>
      have hall : s.halClosed = true ∧ s.worker.reads = true ∧
          ¬s.callQueued worker hal = false := by
        rcases Classical.not_imp.mp h with ⟨hclosed, hrest⟩
        exact ⟨hclosed, Classical.not_imp.mp hrest⟩
      rcases hall with ⟨hclosed, hreads, hqueued⟩
      cases hat : s.worker with
      | readCommand =>
          cases hqueue : s.commandMQ with
          | nil =>
              unfold StreamSystem.callQueued at hqueued
              rw [hqueue] at hqueued
              exact absurd rfl hqueued
          | cons command rest =>
              have hcalls : worker.callsHal hal command = true := by
                unfold StreamSystem.callQueued at hqueued
                rw [hqueue] at hqueued
                exact eq_true_of_ne_false hqueued
              have hworker : (s.workerStep worker hal answers).worker =
                  .switch command := by
                unfold StreamSystem.workerStep
                rw [hat, hqueue]
              have huses : (s.workerStep worker hal answers).uses = s.uses := by
                unfold StreamSystem.workerStep
                rw [hat, hqueue]
              have hcommits : (s.workerStep worker hal answers).worker.commits
                  worker hal = true := by
                rw [hworker]
                exact hcalls
              have hlater : exists steps, ¬NeverUsedClosed worker majorVersion hal
                  steps (s.workerStep worker hal answers) :=
                used_of_commits ((halClosed_of_uses huses).trans hclosed) hcommits
              rcases hlater with ⟨steps, hused⟩
              exists steps
              rw [neverUsedClosed_cons]
              exact hused
      | _ =>
          rw [hat] at hreads
          cases hreads
  | _ => exact absurd trivial h

end Runs

/-- Runs that meet the condition never use the closed stream, and the condition
is needed at every step. -/
structure SafeWhenSettled (worker : Worker C) (majorVersion : Nat)
    (hal : HalStream) (capacity : Nat) : Prop where
  safe : forall steps,
    Along (execThreads worker majorVersion hal) (Settled worker hal) steps
        (StreamSystem.initial capacity) ->
      NeverUsedClosed worker majorVersion hal steps (StreamSystem.initial capacity)
  needed : forall s step, ¬Settled worker hal s step ->
    exists steps, ¬NeverUsedClosed worker majorVersion hal (step :: steps) s

theorem Worker.safe_when_settled (worker : Worker C) (majorVersion : Nat)
    (hal : HalStream) (capacity : Nat) :
    SafeWhenSettled worker majorVersion hal capacity where
  safe := fun steps hsettled =>
    neverUsedClosed_of_settled steps (calledInTime_initial capacity) hsettled
  needed := fun _ step hunsettled => used_of_not_settled step hunsettled

/-- The threads of {lit}`StreamOut` and {lit}`StreamIn`. -/
theorem threads_safe_when_settled (majorVersion : Nat) (hal : HalStream)
    (capacity : Nat) :
    SafeWhenSettled WriteThread.worker majorVersion hal capacity ∧
      SafeWhenSettled ReadThread.worker majorVersion hal capacity :=
  ⟨WriteThread.worker.safe_when_settled majorVersion hal capacity,
    ReadThread.worker.safe_when_settled majorVersion hal capacity⟩

/-- A thread that has been given a command passes the test of the stop flag and
reads its command after these steps. -/
def commandRead (command : C) : List (StreamStep C) :=
  [.prepare, .data 4, .send command, .wakeWorker, .worker .ready, .worker .ready,
    .worker .ready]

def closeSteps : List (StreamStep C) :=
  [.close, .closer, .closer, .closer, .closer]

/-- The stream is closed or freed between the command and the call. -/
theorem closed_during_command :
    ¬NeverUsedClosed WriteThread.worker 6 ⟨.close_output_stream, true⟩
        (commandRead .write ++ closeSteps ++ [.worker .ready, .worker .ready])
        (StreamSystem.initial 8) ∧
      ¬NeverUsedClosed WriteThread.worker 6 ⟨.free, true⟩
        (commandRead .getLatency ++ closeSteps ++ [.worker .ready, .worker .ready])
        (StreamSystem.initial 8) ∧
      ¬NeverUsedClosed ReadThread.worker 6 ⟨.close_input_stream, true⟩
        (commandRead .getCapturePosition ++ closeSteps ++
          [.worker .ready, .worker .ready])
        (StreamSystem.initial 8) := by
  refine ⟨?_, ?_, ?_⟩
  · intro h
    have hhistory : Everywhere CalledOpen
        [HalUse.close .close_output_stream, .call (.write 4)] := h
    exact absurd hhistory (by decide)
  · intro h
    have hhistory : Everywhere CalledOpen
        [HalUse.close .free, .call .get_latency] := h
    exact absurd hhistory (by decide)
  · intro h
    have hhistory : Everywhere CalledOpen
        [HalUse.close .close_input_stream, .call .get_capture_position] := h
    exact absurd hhistory (by decide)

/-- {lit}`close` while the thread waits, and the destructor after it. -/
def closedWhileWaiting : List (StreamStep WriteCommand) :=
  [.prepare, .data 4, .send .write, .wakeWorker] ++
    List.replicate 8 (.worker .ready) ++ closeSteps ++
      List.replicate 3 (.worker .ready) ++
        [.destroy, .closer, .closer, .closer, .closer]

theorem threads_safe_closedWhileWaiting :
    NeverUsedClosed WriteThread.worker 6 ⟨.free, true⟩ closedWhileWaiting
      (StreamSystem.initial 8) :=
  (threads_safe_when_settled 6 ⟨.free, true⟩ 8).1.safe closedWhileWaiting
    (by decide +kernel)

example : Sat (run (execThreads WriteThread.worker 6 ⟨.free, true⟩)
      closedWhileWaiting)
    (fun _ t => t.uses = [.call (.write 4), .close .free] ∧ t.closer = .gone)
    (fun _ _ => False) (StreamSystem.initial 8) := ⟨rfl, rfl⟩

/-!
# Older versions
-/

section Older

variable {worker : Worker C} {majorVersion : Nat} {hal : HalStream}
variable {s : StreamSystem C}

structure ClosedAfterJoin (worker : Worker C) (hal : HalStream)
    (s : StreamSystem C) : Prop extends CalledInTime worker hal s where
  notClosing : s.closer.closing = false
  after : s.halClosed = true -> s.closer.joined = true

theorem closed_notClosing (destructor : Bool) :
    (s.closed destructor).closer.closing = false := by
  cases destructor with
  | false => rfl
  | true => rfl

theorem ClosedAfterJoin.settled_step (h : ClosedAfterJoin worker hal s)
    (step : StreamStep C) : Settled worker hal s step := by
  cases step with
  | closer =>
      intro hclosing
      rw [h.notClosing] at hclosing
      cases hclosing
  | worker answers =>
      intro hclosed hreads
      have hdone := h.joined (h.after hclosed)
      cases hat : s.worker with
      | readCommand =>
          rw [hat] at hdone
          cases hdone
      | _ =>
          rw [hat] at hreads
          cases hreads
  | _ => trivial

theorem workerStep_frame (answers : Answers) :
    (s.workerStep worker hal answers).closer = s.closer ∧
      (s.workerStep worker hal answers).halClosed = s.halClosed := by
  unfold StreamSystem.workerStep
  cases hat : s.worker with
  | testStop =>
      show (if s.mStop then _ else _ : StreamSystem C).closer = _ ∧ _
      split
      · exact ⟨rfl, rfl⟩
      · exact ⟨rfl, rfl⟩
  | wait =>
      dsimp only
      split
      · exact ⟨rfl, rfl⟩
      · exact ⟨rfl, rfl⟩
  | readCommand =>
      dsimp only
      split
      · exact ⟨rfl, rfl⟩
      · exact ⟨rfl, rfl⟩
  | switch command =>
      dsimp only
      split
      · exact ⟨rfl, rfl⟩
      · exact ⟨rfl, rfl⟩
  | callHal command function =>
      constructor
      · rfl
      · show (s.uses ++ [HalUse.call function]).any HalUse.closes = _
        rw [List.any_append]
        exact Bool.or_false _
  | _ => exact ⟨rfl, rfl⟩

theorem afterJoin_of_open {t : StreamSystem C} (huses : t.uses = s.uses)
    (hopen : s.halClosed = false) (hclosing : t.closer.closing = false) :
    t.closer.closing = false ∧
      (t.halClosed = true -> t.closer.joined = true) := by
  constructor
  · exact hclosing
  · intro hclosed
    rw [halClosed_of_uses huses, hopen] at hclosed
    cases hclosed

theorem closerStep_afterJoin (hversion : majorVersion <= 5)
    (h : ClosedAfterJoin worker hal s) :
    (s.closerStep majorVersion hal).closer.closing = false ∧
      ((s.closerStep majorVersion hal).halClosed = true ->
        (s.closerStep majorVersion hal).closer.joined = true) := by
  have hopen : s.closer.joined = false -> s.halClosed = false := by
    intro hjoined
    cases hclosed : s.halClosed with
    | false => rfl
    | true =>
        rw [h.after hclosed] at hjoined
        cases hjoined
  unfold StreamSystem.closerStep
  cases hat : s.closer with
  | idle => exact ⟨h.notClosing, h.after⟩
  | testStop destructor =>
      have hopen := hopen (by rw [hat]; rfl)
      dsimp only
      split
      · exact afterJoin_of_open rfl hopen (closed_notClosing destructor)
      · exact afterJoin_of_open rfl hopen rfl
  | storeStop destructor =>
      have hopen := hopen (by rw [hat]; rfl)
      exact afterJoin_of_open rfl hopen rfl
  | wake destructor =>
      have hopen := hopen (by rw [hat]; rfl)
      have holder : ¬6 <= majorVersion := by lia
      dsimp only
      rw [if_neg holder]
      exact afterJoin_of_open rfl hopen (closed_notClosing destructor)
  | closeStream destructor =>
      have hclosing := h.notClosing
      rw [hat] at hclosing
      cases hclosing
  | join =>
      have hopen := hopen (by rw [hat]; rfl)
      dsimp only
      split
      · exact ⟨rfl, fun _ => rfl⟩
      · exact ⟨rfl, fun _ => rfl⟩
      · exact ⟨h.notClosing, h.after⟩
  | deleteEventFlag =>
      dsimp only
      split
      · exact ⟨rfl, fun _ => rfl⟩
      · exact ⟨rfl, fun _ => rfl⟩
  | closeAfterJoin => exact ⟨rfl, fun _ => rfl⟩
  | gone => exact ⟨h.notClosing, h.after⟩

theorem step_afterJoin (hversion : majorVersion <= 5)
    (h : ClosedAfterJoin worker hal s) (step : StreamStep C) :
    ClosedAfterJoin worker hal (s.step worker majorVersion hal step) := by
  have hkept := step_inTime h.toCalledInTime majorVersion step (h.settled_step step)
  have hopen : s.closer = .idle -> ¬s.halClosed = true := by
    intro hidle hclosed
    have hjoined := h.after hclosed
    rw [hidle] at hjoined
    cases hjoined
  have hboth : (s.step worker majorVersion hal step).closer.closing = false ∧
      ((s.step worker majorVersion hal step).halClosed = true ->
        (s.step worker majorVersion hal step).closer.joined = true) := by
    cases step with
    | closer => exact closerStep_afterJoin hversion h
    | worker answers =>
        have hframe : (s.workerStep worker hal answers).closer = s.closer ∧
          (s.workerStep worker hal answers).halClosed = s.halClosed :=
          workerStep_frame answers
        show (s.workerStep worker hal answers).closer.closing = false ∧
          ((s.workerStep worker hal answers).halClosed = true ->
            (s.workerStep worker hal answers).closer.joined = true)
        rw [hframe.1, hframe.2]
        exact ⟨h.notClosing, h.after⟩
    | prepare =>
        unfold StreamSystem.step
        dsimp only
        split
        · exact ⟨h.notClosing, h.after⟩
        · exact ⟨h.notClosing, h.after⟩
    | close =>
        unfold StreamSystem.step
        dsimp only
        split
        · next hidle => exact ⟨rfl, fun hclosed => absurd hclosed (hopen hidle)⟩
        · exact ⟨h.notClosing, h.after⟩
    | destroy =>
        unfold StreamSystem.step
        dsimp only
        split
        · next hidle => exact ⟨rfl, fun hclosed => absurd hclosed (hopen hidle)⟩
        · exact ⟨h.notClosing, h.after⟩
    | _ => exact ⟨h.notClosing, h.after⟩
  exact ⟨hkept, hboth.1, hboth.2⟩

end Older

theorem neverUsedClosed_older (worker : Worker C) (majorVersion : Nat)
    (hal : HalStream) (capacity : Nat) (hversion : majorVersion <= 5)
    (steps : List (StreamStep C)) :
    NeverUsedClosed worker majorVersion hal steps
      (StreamSystem.initial capacity) := by
  have hinitial : ClosedAfterJoin worker hal (StreamSystem.initial capacity) :=
    ⟨calledInTime_initial capacity, rfl, fun hclosed => by cases hclosed⟩
  have hstep : forall s step, ClosedAfterJoin worker hal s ->
      Sat (execThreads worker majorVersion hal step)
        (fun _ t => ClosedAfterJoin worker hal t) (fun _ _ => False) s := by
    intro s step h
    exact step_afterJoin hversion h step
  exact (run_sat_always hstep steps _ hinitial).imp fun _ _ ht => ht.history

end Audio
end Sm7225
