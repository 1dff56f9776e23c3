import Sm7225.Bqhelper.Serving

/-!
# The end of the stream is final

Once the component has taken the end of the stream, the source submits nothing
until it is configured again, and no assertion fails.  Both rest on the
invariant that no frame waits after the end of the stream, which needs that late
frames can be acquired, and so can the frames that a STOP action drops.
-/

namespace Sm7225
namespace Bqhelper

open Lib

/-!
# No assertion fails
-/

/-- {lit}`start` is only called while the source does not execute. -/
def StartsStopped (s : GraphicBufferSource) : Request -> Prop
  | .call .start _ => s.mExecuting = false
  | _ => True

instance (s : GraphicBufferSource) (r : Request) :
    Decidable (StartsStopped s r) := by
  unfold StartsStopped
  split
  · exact inferInstance
  · exact inferInstance

instance (s : GraphicBufferSource) : Decidable (DrainsOk s) :=
  decidable_of_iff
    ((forall st, st ∈ s.answers.drainAcquireBuffer -> st = .ok) ∧
      s.mNumAvailableUnacquiredBuffers <= s.queue.length)
    ⟨fun h => ⟨h.1, h.2⟩, fun h => ⟨h.answers, h.queued⟩⟩

instance (s : GraphicBufferSource) : Decidable (StopsClean s) := by
  unfold StopsClean StopsLater EndsClean
  exact inferInstance

instance (s : GraphicBufferSource) : Decidable (AcquiresLate s) := by
  unfold AcquiresLate
  exact inferInstance

instance (s : GraphicBufferSource) (r : Request) : Decidable (CleanFor s r) := by
  unfold CleanFor Clean
  split
  · exact inferInstance
  · split
    · exact inferInstance
    · exact inferInstance
    · exact inferInstance
    · exact inferInstance

theorem run_calm (requests : List Request)
    (hstarts : Along exec StartsStopped requests .initial)
    (hclean : Along exec CleanFor requests .initial) :
    Sat (run exec requests) (fun _ t => Calm t)
      (fun e _ => forall c, e ≠ .check c) .initial := by
  apply run_sat (P := fun s r => StartsStopped s r ∧ CleanFor s r) ?_ requests
    .initial calm_initial (hstarts.and hclean)
  intro s r h hcond
  apply (exec_calm r h hcond.2).mono (fun _ _ ht => ht)
  intro e t ht c hc
  rcases ht.1 c hc with ⟨answers, hr, hexec⟩
  have hstopped := hcond.1
  rw [hr] at hstopped
  have hnot : s.mExecuting = false := hstopped
  rw [hexec] at hnot
  cases hnot

theorem no_check_fails (requests : List Request)
    (hstarts : Along exec StartsStopped requests .initial)
    (hclean : Along exec CleanFor requests .initial) (c : Check)
    (s : GraphicBufferSource) :
    run exec requests .initial ≠ .error (.check c) s := by
  intro hrun
  exact (sat_of_error hrun).mp (run_calm requests hstarts hclean) c rfl

/-- Why the run ends the process, if it does. -/
def failure (requests : List Request) : Option Abort :=
  match run exec requests .initial with
  | .ok _ _ => none
  | .error e _ => some e

/-- A STOP action that takes effect, a frame after the end of the stream, and
the return of a frame that was submitted before. -/
def stoppedAndLate : List Request :=
  session 0 [1, 2] ++ deliver (newFrame 0 1 100) ++
    [.call (.setStopTimeUs 200) { systemTimeNs := 1000000 }] ++
    deliver (newFrame 1 2 300) ++ deliver (newFrame 2 3 400) ++
    [(Op.onInputBufferEmptied 1 (-1)).now]

theorem no_check_fails_stoppedAndLate :
    (forall c s, run exec stoppedAndLate .initial ≠ .error (.check c) s) ∧
      (final stoppedAndLate).mEndOfStreamSent = true := by
  constructor
  · exact no_check_fails stoppedAndLate (by decide +kernel) (by decide +kernel)
  · decide +kernel

/-- A frame arrives after the end of the stream and cannot be acquired.  Then a
frame that was submitted before comes back. -/
def lateFrameUnacquired : List Request :=
  session 0 [1, 2] ++ deliver (newFrame 0 1 100) ++
    [Op.signalEndOfInputStream.now, .queueFrame (newFrame 1 2 200),
      .call .onFrameAvailable { acquireBuffer := [.noBufferAvailable] },
      (Op.onInputBufferEmptied 1 (-1)).now]

/-- {lit}`start` is called on a stopped source that has a component. -/
def StartsConfigured (s : GraphicBufferSource) : Request -> Prop
  | .call .start _ => s.mExecuting = false ∧ s.mComponent.isSome = true
  | _ => True

instance (s : GraphicBufferSource) (r : Request) :
    Decidable (StartsConfigured s r) := by
  unfold StartsConfigured
  split
  · exact inferInstance
  · exact inferInstance

theorem lateFrameUnacquired_fails_check :
    Along exec StartsConfigured lateFrameUnacquired .initial ∧
      failure lateFrameUnacquired = some (.check .emptiedBeforeEosSent) := by
  constructor
  · decide +kernel
  · decide +kernel

/-!
# Nothing is submitted after the end of the stream
-/

instance (r : Request) : Decidable (AcquiresOk r) := by
  unfold AcquiresOk
  split
  · exact inferInstance
  · exact inferInstance

theorem run_steady (requests : List Request)
    (hannounced : Along exec Announced requests .initial)
    (hok : Along exec (fun _ r => AcquiresOk r) requests .initial) :
    Sat (run exec requests) (fun _ t => Steady t)
      (fun _ t => Everywhere NothingAfterEos t.log ∧ ReleasedUnused t.log)
      .initial := by
  apply run_sat (P := fun s r => Announced s r ∧ AcquiresOk r) ?_ requests
    .initial steady_initial (hannounced.and hok)
  intro s r h hcond
  apply (exec_steady r h hcond.1 hcond.2).mono
  · intro _ t ht
    exact ht.1
  · intro e t ht
    exact ht.2

theorem eos_is_final (requests : List Request) (s : GraphicBufferSource)
    (hannounced : Along exec Announced requests .initial)
    (hok : Along exec (fun _ r => AcquiresOk r) requests .initial)
    (hs : Ends requests s) :
    Everywhere NothingAfterEos s.log ∧ ReleasedUnused s.log := by
  have hrun := run_steady requests hannounced hok
  rcases hs with ⟨replies, hs⟩ | ⟨e, hs⟩
  · have hlog := ((sat_of_ok hs).mp hrun).calm.quiet.log
    exact ⟨hlog.nothing, hlog.unused⟩
  · exact (sat_of_error hs).mp hrun

/-- After the end of the stream: a late frame, a frame that comes back, a stop
and a start, a late repeat message, and another end of the stream. -/
def lateRequests : List Request :=
  [configureFor 0, (Op.setRepeatPreviousFrameDelayUs 50000).now,
    (Op.onInputBufferAdded 1).now, (Op.onInputBufferAdded 2).now,
    (Op.onInputBufferAdded 3).now, Op.start.now] ++
    deliver (newFrame 0 1 100) ++ [Op.signalEndOfInputStream.now] ++
    deliver (newFrame 1 2 200) ++
    [(Op.onInputBufferEmptied 1 (-1)).now, (Op.setSuspend true (-1)).now,
      (Op.setSuspend false (-1)).now, (Op.onMessageReceived 2).now, Op.stop.now,
      Op.start.now, Op.signalEndOfInputStream.now]

theorem eos_is_final_lateRequests :
    (Everywhere NothingAfterEos (final lateRequests).log ∧
      ReleasedUnused (final lateRequests).log) ∧
      eosSubmitted (final lateRequests).log = true ∧
      (acquiredFrames (final lateRequests).log).length = 2 := by
  refine ⟨?_, by decide +kernel, by decide +kernel⟩
  exact eos_is_final lateRequests (final lateRequests) (by decide +kernel)
    (by decide +kernel) (ends_final lateRequests)

end Bqhelper
end Sm7225
