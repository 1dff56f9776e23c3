import Sm7225.Lib.Progress
import Sm7225.Audio.CommandReplies
import Sm7225.Audio.UseAfterClose

/-!
# The end of a stream

Once the destructor of a stream has begun, nothing can keep it: the other threads may
take their steps in any order and the wait of the worker thread may return as it likes.
The worker thread exits after at most one more command, the destructor comes to its end,
and by then the stream of the vendor has been closed exactly once.
-/

namespace Sm7225
namespace Audio

open Lib

variable {C : Type}

/-!
# Closing once
-/

def StreamSystem.closes (s : StreamSystem C) : Nat :=
  s.uses.countP HalUse.closes

def OrderlyAt (majorVersion : Nat) (mStop : Bool) (closes : Nat) : CloserAt -> Prop
  | .idle => closes = if 6 <= majorVersion ∧ mStop = true then 1 else 0
  | .testStop _ => closes = if 6 <= majorVersion ∧ mStop = true then 1 else 0
  | .storeStop _ => mStop = false ∧ closes = 0
  | .wake _ => mStop = true ∧ closes = 0
  | .closeStream _ => mStop = true ∧ closes = 0 ∧ 6 <= majorVersion
  | .join => mStop = true ∧ closes = if 6 <= majorVersion then 1 else 0
  | .deleteEventFlag => mStop = true ∧ closes = if 6 <= majorVersion then 1 else 0
  | .closeAfterJoin => mStop = true ∧ closes = 0
  | .gone => mStop = true ∧ closes = 1

def Orderly (majorVersion : Nat) (s : StreamSystem C) : Prop :=
  OrderlyAt majorVersion s.mStop s.closes s.closer

section Steps

variable {worker : Worker C} {majorVersion : Nat} {hal : HalStream} {answers : Answers}
variable {s t : StreamSystem C}

theorem Moves.mStop (h : Moves worker hal answers s t) : t.mStop = s.mStop := by
  cases h with
  | _ => rfl

theorem Moves.closer (h : Moves worker hal answers s t) : t.closer = s.closer := by
  cases h with
  | _ => rfl

theorem Moves.closes (h : Moves worker hal answers s t) : t.closes = s.closes := by
  cases h with
  | returns command function hat =>
      show (s.uses ++ [HalUse.call function]).countP HalUse.closes = _
      rw [List.countP_append]
      rfl
  | _ => rfl

theorem Orderly.frame (h : Orderly majorVersion s) (hstop : t.mStop = s.mStop)
    (hcloser : t.closer = s.closer) (hcloses : t.closes = s.closes) :
    Orderly majorVersion t := by
  unfold Orderly
  rw [hstop, hcloser, hcloses]
  exact h

theorem closes_closeHalStream (s : StreamSystem C) :
    (s.closeHalStream hal).closes = s.closes + 1 := by
  show (s.uses ++ [HalUse.close hal.closing]).countP HalUse.closes = _
  rw [List.countP_append]
  rfl

theorem orderly_closed (destructor : Bool) (hstop : s.mStop = true)
    (hcloses : s.closes = if 6 <= majorVersion then 1 else 0) :
    Orderly majorVersion (s.closed destructor) := by
  cases destructor with
  | true => exact ⟨hstop, hcloses⟩
  | false =>
      show s.closes = if 6 <= majorVersion ∧ s.mStop = true then 1 else 0
      rw [hcloses]
      simp [hstop]

theorem closerStep_orderly (h : Orderly majorVersion s) :
    Orderly majorVersion (s.closerStep majorVersion hal) := by
  have hplace := h
  unfold Orderly at hplace
  unfold StreamSystem.closerStep
  cases hat : s.closer with
  | idle => exact h
  | testStop destructor =>
      rw [hat] at hplace
      have hcloses : s.closes = if 6 <= majorVersion ∧ s.mStop = true then 1 else 0 := hplace
      dsimp only
      split
      · next hstop =>
          apply orderly_closed destructor hstop
          rw [hcloses]
          simp [hstop]
      · next hstop =>
          rw [if_neg fun hboth => hstop hboth.2] at hcloses
          exact ⟨Bool.eq_false_iff.mpr hstop, hcloses⟩
  | storeStop destructor =>
      rw [hat] at hplace
      exact ⟨rfl, hplace.2⟩
  | wake destructor =>
      rw [hat] at hplace
      dsimp only
      split
      · next hversion => exact ⟨hplace.1, hplace.2, hversion⟩
      · next hversion =>
          apply orderly_closed destructor hplace.1
          rw [if_neg hversion]
          exact hplace.2
  | closeStream destructor =>
      rw [hat] at hplace
      show Orderly majorVersion ((s.closeHalStream hal).closed destructor)
      apply orderly_closed (s := s.closeHalStream hal) destructor hplace.1
      rw [closes_closeHalStream, hplace.2.1, if_pos hplace.2.2]
  | join =>
      rw [hat] at hplace
      dsimp only
      split
      · exact hplace
      · exact hplace
      · exact h
  | deleteEventFlag =>
      rw [hat] at hplace
      have hcloses := hplace.2
      dsimp only
      split
      · next hversion =>
          rw [if_neg (by lia)] at hcloses
          exact ⟨hplace.1, hcloses⟩
      · next hversion =>
          rw [if_pos (by lia)] at hcloses
          exact ⟨hplace.1, hcloses⟩
  | closeAfterJoin =>
      rw [hat] at hplace
      refine ⟨hplace.1, ?_⟩
      show (s.closeHalStream hal).closes = 1
      rw [closes_closeHalStream, hplace.2]
  | gone => exact h

theorem Orderly.enters (h : Orderly majorVersion s) (destructor : Bool) :
    Orderly majorVersion
      (if s.closer = .idle then { s with closer := .testStop destructor } else s) := by
  split
  · next hidle =>
      unfold Orderly at h
      rw [hidle] at h
      exact h
  · exact h

theorem step_orderly (h : Orderly majorVersion s) (step : StreamStep C) :
    Orderly majorVersion (s.step worker majorVersion hal step) := by
  cases step with
  | prepare =>
      rcases prepare_cases worker majorVersion hal s with hsame | ⟨_, hstarts⟩
      · rw [hsame]
        exact h
      · rw [hstarts]
        exact h.frame rfl rfl rfl
  | worker answers =>
      have hmoves := workerStep_moves worker hal answers s
      exact h.frame hmoves.mStop hmoves.closer hmoves.closes
  | close => exact h.enters false
  | destroy => exact h.enters true
  | closer => exact closerStep_orderly h
  | _ => exact h.frame rfl rfl rfl

theorem orderly_initial (majorVersion capacity : Nat) :
    Orderly majorVersion (StreamSystem.initial capacity : StreamSystem C) :=
  (if_neg fun hboth => by cases hboth.2).symm

/-!
# The way to the end
-/

def WorkerAt.stepsToExit : WorkerAt C -> Nat
  | .notStarted => 0
  | .exited => 0
  | .testStop => 1
  | .wake => 2
  | .writeStatus => 3
  | .callHal _ _ => 4
  | .switch _ => 5
  | .readCommand => 6
  | .wait => 7

def CloserAt.stepsToJoin : CloserAt -> Nat
  | .testStop _ => 4
  | .storeStop _ => 3
  | .wake _ => 2
  | .closeStream _ => 1
  | _ => 0

def CloserAt.stepsToGone : CloserAt -> Nat
  | .join => 3
  | .deleteEventFlag => 2
  | .closeAfterJoin => 1
  | _ => 0

def CloserAt.destroying : CloserAt -> Bool
  | .idle => false
  | .testStop destructor => destructor
  | .storeStop destructor => destructor
  | .wake destructor => destructor
  | .closeStream destructor => destructor
  | _ => true

def CloserAt.joins : CloserAt -> Bool
  | .join => true
  | .deleteEventFlag => true
  | .closeAfterJoin => true
  | .gone => true
  | _ => false

def StreamStep.isCloser : StreamStep C -> Bool
  | .closer => true
  | _ => false

theorem step_closer (hbusy : s.closer ≠ .idle) {step : StreamStep C}
    (hstep : step.isCloser = false) :
    (s.step worker majorVersion hal step).closer = s.closer := by
  cases step with
  | prepare =>
      rcases prepare_cases worker majorVersion hal s with hsame | ⟨_, hstarts⟩
      · rw [hsame]
      · rw [hstarts]
  | worker answers => exact (workerStep_moves worker hal answers s).closer
  | close => exact congrArg StreamSystem.closer (if_neg hbusy)
  | destroy => exact congrArg StreamSystem.closer (if_neg hbusy)
  | closer => cases hstep
  | _ => rfl

theorem step_worker (hbusy : s.closer ≠ .idle) {step : StreamStep C}
    (hstep : step.isWorker = false) :
    (s.step worker majorVersion hal step).worker = s.worker := by
  cases step with
  | prepare =>
      unfold StreamSystem.step
      dsimp only
      split
      · next hidle => exact absurd hidle hbusy
      · rfl
  | worker answers => cases hstep
  | close => exact (enters_leaves false s).worker
  | destroy => exact (enters_leaves true s).worker
  | closer => exact (closerStep_leaves majorVersion hal s).worker
  | _ => rfl

theorem busy_of_destroying {place : CloserAt} (h : place.destroying = true) :
    place ≠ .idle := by
  intro hidle
  rw [hidle] at h
  cases h

theorem busy_of_joins {place : CloserAt} (h : place.joins = true) : place ≠ .idle := by
  intro hidle
  rw [hidle] at h
  cases h

theorem closerStep_destroying (h : s.closer.destroying = true) :
    (s.closerStep majorVersion hal).closer.destroying = true ∧
      (s.closerStep majorVersion hal).closer.stepsToJoin <= s.closer.stepsToJoin - 1 := by
  unfold StreamSystem.closerStep
  cases hat : s.closer with
  | idle => exact absurd hat (busy_of_destroying h)
  | testStop destructor =>
      rw [hat] at h
      cases h
      dsimp only
      split
      · exact ⟨rfl, Nat.zero_le 3⟩
      · exact ⟨rfl, Nat.le_refl 3⟩
  | storeStop destructor =>
      rw [hat] at h
      exact ⟨h, Nat.le_refl 2⟩
  | wake destructor =>
      rw [hat] at h
      cases h
      dsimp only
      split
      · exact ⟨rfl, Nat.le_refl 1⟩
      · exact ⟨rfl, Nat.zero_le 1⟩
  | closeStream destructor =>
      rw [hat] at h
      cases h
      exact ⟨rfl, Nat.le_refl 0⟩
  | join =>
      dsimp only
      split
      · exact ⟨rfl, Nat.le_refl 0⟩
      · exact ⟨rfl, Nat.le_refl 0⟩
      · rw [hat]
        exact ⟨rfl, Nat.le_refl 0⟩
  | deleteEventFlag =>
      dsimp only
      split
      · exact ⟨rfl, Nat.le_refl 0⟩
      · exact ⟨rfl, Nat.le_refl 0⟩
  | closeAfterJoin => exact ⟨rfl, Nat.le_refl 0⟩
  | gone =>
      dsimp only
      rw [hat]
      exact ⟨rfl, Nat.le_refl 0⟩

theorem closerStep_joins (h : s.closer.joins = true) :
    (s.closerStep majorVersion hal).closer.joins = true ∧
      (s.worker.done = true ->
        (s.closerStep majorVersion hal).closer.stepsToGone <= s.closer.stepsToGone - 1) := by
  unfold StreamSystem.closerStep
  cases hat : s.closer with
  | join =>
      dsimp only
      split
      · exact ⟨rfl, fun _ => Nat.le_refl 2⟩
      · exact ⟨rfl, fun _ => Nat.le_refl 2⟩
      · next hnew hexited =>
          refine ⟨h, fun hdone => ?_⟩
          cases hworker : s.worker with
          | notStarted => exact absurd hworker hnew
          | exited => exact absurd hworker hexited
          | _ =>
              rw [hworker] at hdone
              cases hdone
  | deleteEventFlag =>
      dsimp only
      split
      · exact ⟨rfl, fun _ => Nat.le_refl 1⟩
      · exact ⟨rfl, fun _ => Nat.zero_le 1⟩
  | closeAfterJoin => exact ⟨rfl, fun _ => Nat.le_refl 0⟩
  | gone =>
      dsimp only
      rw [hat]
      exact ⟨rfl, fun _ => Nat.le_refl 0⟩
  | _ =>
      rw [hat] at h
      cases h

theorem Moves.stepsToExit (h : Moves worker hal answers s t) (hstop : s.mStop = true) :
    t.worker.stepsToExit <= s.worker.stepsToExit - 1 := by
  cases h with
  | rests hat =>
      rcases hat with hat | hat
      · rw [hat]
        exact Nat.le_refl 0
      · rw [hat]
        exact Nat.le_refl 0
  | exits hat _ => exact Nat.zero_le _
  | waits hat hrunning =>
      rw [hstop] at hrunning
      cases hrunning
  | wakes hat hflag hstate =>
      rw [hat]
      exact Nat.le_refl 6
  | continues hat hflag =>
      rw [hat]
      exact Nat.le_of_ble_eq_true rfl
  | finds hat hqueue =>
      rw [hat]
      exact Nat.le_of_ble_eq_true rfl
  | reads command rest hat hqueue =>
      rw [hat]
      exact Nat.le_refl 5
  | skips command desk hat hbegin =>
      rw [hat]
      exact Nat.le_succ 3
  | calls command function desk hat hbegin =>
      rw [hat]
      exact Nat.le_refl 4
  | returns command function hat =>
      rw [hat]
      exact Nat.le_refl 3
  | reports hat hroom =>
      rw [hat]
      exact Nat.le_refl 2
  | loses hat hroom =>
      rw [hat]
      exact Nat.le_refl 2
  | signals hat =>
      rw [hat]
      exact Nat.le_refl 1

theorem Orderly.mStop (h : Orderly majorVersion s) (hjoins : s.closer.joins = true) :
    s.mStop = true := by
  unfold Orderly at h
  cases hat : s.closer with
  | join =>
      rw [hat] at h
      exact h.1
  | deleteEventFlag =>
      rw [hat] at h
      exact h.1
  | closeAfterJoin =>
      rw [hat] at h
      exact h.1
  | gone =>
      rw [hat] at h
      exact h.1
  | _ =>
      rw [hat] at hjoins
      cases hjoins

theorem done_iff_stepsToExit (phase : WorkerAt C) :
    phase.done = true <-> phase.stepsToExit = 0 := by
  cases phase with
  | notStarted => exact iff_of_true rfl rfl
  | exited => exact iff_of_true rfl rfl
  | _ => exact iff_of_false (fun h => by cases h) (fun h => by cases h)

/-!
# Each step
-/

theorem step_destroying (h : s.closer.destroying = true) (step : StreamStep C) :
    (s.step worker majorVersion hal step).closer.destroying = true ∧
      (s.step worker majorVersion hal step).closer.stepsToJoin <=
        s.closer.stepsToJoin - step.isCloser.toNat := by
  cases hmine : step.isCloser with
  | true =>
      cases step with
      | closer => exact closerStep_destroying h
      | _ => cases hmine
  | false =>
      rw [step_closer (busy_of_destroying h) hmine]
      exact ⟨h, Nat.le_refl _⟩

theorem step_joins (h : s.closer.joins = true) (step : StreamStep C) :
    (s.step worker majorVersion hal step).closer.joins = true := by
  cases hmine : step.isCloser with
  | true =>
      cases step with
      | closer => exact (closerStep_joins h).1
      | _ => cases hmine
  | false =>
      rw [step_closer (busy_of_joins h) hmine]
      exact h

theorem step_stepsToExit (worker : Worker C) (hal : HalStream)
    (horderly : Orderly majorVersion s) (h : s.closer.joins = true)
    (step : StreamStep C) :
    (s.step worker majorVersion hal step).worker.stepsToExit <=
      s.worker.stepsToExit - step.isWorker.toNat := by
  cases hmine : step.isWorker with
  | true =>
      cases step with
      | worker answers =>
          exact (workerStep_moves worker hal answers s).stepsToExit (horderly.mStop h)
      | _ => cases hmine
  | false =>
      rw [step_worker (busy_of_joins h) hmine]
      exact Nat.le_refl _

theorem step_stepsToGone (horderly : Orderly majorVersion s) (h : s.closer.joins = true)
    (hdone : s.worker.done = true) (step : StreamStep C) :
    (s.step worker majorVersion hal step).worker.done = true ∧
      (s.step worker majorVersion hal step).closer.stepsToGone <=
        s.closer.stepsToGone - step.isCloser.toNat := by
  constructor
  · have hexit := step_stepsToExit worker hal horderly h step
    rw [(done_iff_stepsToExit s.worker).mp hdone, Nat.zero_sub] at hexit
    exact (done_iff_stepsToExit _).mpr (Nat.le_zero.mp hexit)
  · cases hmine : step.isCloser with
    | true =>
        cases step with
        | closer => exact (closerStep_joins h).2 hdone
        | _ => cases hmine
    | false =>
        rw [step_closer (busy_of_joins h) hmine]
        exact Nat.le_refl _

end Steps

/-!
# Runs
-/

section Runs

variable {worker : Worker C} {majorVersion : Nat} {hal : HalStream} {s : StreamSystem C}
variable {steps : List (StreamStep C)}

theorem exec_sat (step : StreamStep C) {Q : StreamSystem C -> Prop}
    (h : Q (s.step worker majorVersion hal step)) :
    Sat (execThreads worker majorVersion hal step) (fun _ t => Q t) (fun _ _ => False) s := h

theorem run_to_join (hs : Orderly majorVersion s) (hdestroying : s.closer.destroying = true)
    (hturns : 4 <= turns StreamStep.isCloser steps) :
    Sat (run (execThreads worker majorVersion hal) steps)
      (fun _ t => Orderly majorVersion t ∧ t.closer.joins = true) (fun _ _ => False) s := by
  have hrank : s.closer.stepsToJoin <= turns StreamStep.isCloser steps := by
    refine Nat.le_trans ?_ hturns
    cases s.closer with
    | testStop destructor => exact Nat.le_refl 4
    | _ => exact Nat.le_of_ble_eq_true rfl
  have hrun : Sat (run (execThreads worker majorVersion hal) steps)
      (fun _ t => (Orderly majorVersion t ∧ t.closer.destroying = true) ∧
        t.closer.stepsToJoin = 0) (fun _ _ => False) s := run_sat_rank_zero
    (fun t step ht _ =>
      have hnext := step_destroying ht.2 step
      exec_sat step ⟨⟨step_orderly ht.1 step, hnext.1⟩, hnext.2⟩)
    ⟨hs, hdestroying⟩ (along_true steps s) hrank
  apply hrun.imp
  rintro _ t ⟨⟨horderly, hdestroying⟩, hzero⟩
  refine ⟨horderly, ?_⟩
  cases hat : t.closer with
  | idle => exact absurd hat (busy_of_destroying hdestroying)
  | join => rfl
  | deleteEventFlag => rfl
  | closeAfterJoin => rfl
  | gone => rfl
  | _ =>
      rw [hat] at hzero
      cases hzero

theorem run_to_exit (hs : Orderly majorVersion s) (hjoins : s.closer.joins = true)
    (hturns : 7 <= turns StreamStep.isWorker steps) :
    Sat (run (execThreads worker majorVersion hal) steps)
      (fun _ t => (Orderly majorVersion t ∧ t.closer.joins = true) ∧ t.worker.done = true)
      (fun _ _ => False) s := by
  have hrank : s.worker.stepsToExit <= turns StreamStep.isWorker steps := by
    refine Nat.le_trans ?_ hturns
    cases s.worker with
    | wait => exact Nat.le_refl 7
    | _ => exact Nat.le_of_ble_eq_true rfl
  have hrun : Sat (run (execThreads worker majorVersion hal) steps)
      (fun _ t => (Orderly majorVersion t ∧ t.closer.joins = true) ∧
        t.worker.stepsToExit = 0) (fun _ _ => False) s := run_sat_rank_zero
    (fun t step ht _ => exec_sat step
      ⟨⟨step_orderly ht.1 step, step_joins ht.2 step⟩,
        step_stepsToExit worker hal ht.1 ht.2 step⟩)
    ⟨hs, hjoins⟩ (along_true steps s) hrank
  apply hrun.imp
  rintro _ t ⟨hkept, hzero⟩
  exact ⟨hkept, (done_iff_stepsToExit t.worker).mpr hzero⟩

theorem run_to_end (hs : Orderly majorVersion s) (hjoins : s.closer.joins = true)
    (hdone : s.worker.done = true) (hturns : 3 <= turns StreamStep.isCloser steps) :
    Sat (run (execThreads worker majorVersion hal) steps)
      (fun _ t => t.closer = .gone ∧ t.worker.done = true ∧ t.closes = 1)
      (fun _ _ => False) s := by
  have hrank : s.closer.stepsToGone <= turns StreamStep.isCloser steps := by
    refine Nat.le_trans ?_ hturns
    cases s.closer with
    | join => exact Nat.le_refl 3
    | _ => exact Nat.le_of_ble_eq_true rfl
  have hrun : Sat (run (execThreads worker majorVersion hal) steps)
      (fun _ t =>
        (Orderly majorVersion t ∧ t.closer.joins = true ∧ t.worker.done = true) ∧
          t.closer.stepsToGone = 0) (fun _ _ => False) s := run_sat_rank_zero
    (fun t step ht _ =>
      have hnext := step_stepsToGone ht.1 ht.2.1 ht.2.2 step
      exec_sat step
        ⟨⟨step_orderly ht.1 step, step_joins ht.2.1 step, hnext.1⟩, hnext.2⟩)
    ⟨hs, hjoins, hdone⟩ (along_true steps s) hrank
  apply hrun.imp
  rintro _ t ⟨⟨horderly, hjoins, hdone⟩, hzero⟩
  have hgone : t.closer = .gone := by
    cases hat : t.closer with
    | gone => rfl
    | join =>
        rw [hat] at hzero
        cases hzero
    | deleteEventFlag =>
        rw [hat] at hzero
        cases hzero
    | closeAfterJoin =>
        rw [hat] at hzero
        cases hzero
    | _ =>
        rw [hat] at hjoins
        cases hjoins
  unfold Orderly at horderly
  rw [hgone] at horderly
  exact ⟨hgone, hdone, horderly.2⟩

end Runs

/-- From every state in which the destructor has begun, enough steps of the two threads
bring it to its end. -/
def Finishes (worker : Worker C) (majorVersion : Nat) (hal : HalStream) (capacity : Nat)
    (before toJoin toExit toEnd : List (StreamStep C)) : Prop :=
  Sat (run (execThreads worker majorVersion hal) before)
    (fun _ s => s.closer.destroying = true ->
      4 <= turns StreamStep.isCloser toJoin -> 7 <= turns StreamStep.isWorker toExit ->
        3 <= turns StreamStep.isCloser toEnd ->
          Sat (run (execThreads worker majorVersion hal) (toJoin ++ (toExit ++ toEnd)))
            (fun _ t => t.closer = .gone ∧ t.worker.done = true ∧ t.closes = 1)
            (fun _ _ => False) s)
    (fun _ _ => False) (StreamSystem.initial capacity)

/-- The destructor of a stream always comes to its end, for every order of the steps of
the client, the thread and the destructor: the thread has exited, and the stream of the
vendor has been closed exactly once. -/
theorem destructor_finishes (worker : Worker C) (majorVersion : Nat) (hal : HalStream)
    (capacity : Nat) (before toJoin toExit toEnd : List (StreamStep C)) :
    Finishes worker majorVersion hal capacity before toJoin toExit toEnd := by
  have hbefore : Sat (run (execThreads worker majorVersion hal) before)
      (fun _ s => Orderly majorVersion s) (fun _ _ => False)
      (StreamSystem.initial capacity) := by
    apply run_sat_always
    · intro s step hs
      exact exec_sat step (step_orderly hs step)
    · exact orderly_initial majorVersion capacity
  apply hbefore.imp
  intro _ s hs hdestroying hjoin hexit hend
  rw [sat_run_append]
  apply (run_to_join hs hdestroying hjoin).imp
  intro _ t ht
  rw [sat_run_append]
  apply (run_to_exit ht.1 ht.2 hexit).imp
  intro _ u hu
  exact run_to_end hu.1.1 hu.1.2 hu.2 hend

def destroyedWhileWaiting : List (StreamStep WriteCommand) :=
  [.prepare, .worker .prompt, .destroy]

theorem destructor_finishes_waiting :
    Sat (run (execThreads WriteThread.worker 6 { closing := .free, hasPosition := true })
        destroyedWhileWaiting)
      (fun _ s => Sat
        (run (execThreads WriteThread.worker 6 { closing := .free, hasPosition := true })
          (List.replicate 4 .closer ++ (sevenSteps ++ List.replicate 3 .closer)))
        (fun _ t => t.closer = .gone ∧ t.worker.done = true ∧ t.closes = 1)
        (fun _ _ => False) s)
      (fun _ _ => False) (StreamSystem.initial 4) :=
  destructor_finishes WriteThread.worker 6 { closing := .free, hasPosition := true } 4
    destroyedWhileWaiting (List.replicate 4 .closer) sevenSteps (List.replicate 3 .closer)
    rfl (by decide) (by decide) (by decide)

end Audio
end Sm7225
