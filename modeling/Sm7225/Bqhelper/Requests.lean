import Sm7225.Lib.Run
import Sm7225.Bqhelper.Source

/-!
# Requests and runs

The requests that can reach a source, in any order: a producer queues a frame,
the BufferQueue calls its listener, the component or the client calls a public
function, or the looper delivers a message.  Each request carries the answers of
the environment to the calls made while it is served.
-/

namespace Sm7225
namespace Bqhelper

open Lib

inductive Op where
  | start
  | stop
  | release
  | onInputBufferAdded (bufferId : CodecBufferId)
  | onInputBufferEmptied (bufferId : CodecBufferId) (fenceFd : Int)
  | onFrameAvailable
  | onBuffersReleased
  | configure (args : ConfigureArgs)
  | setSuspend (suspend : Bool) (suspendStartTimeUs : Int)
  | setRepeatPreviousFrameDelayUs (repeatAfterUs : Int)
  | setTimeOffsetUs (timeOffsetUs : Int)
  | setMaxFps (maxFps : Binary32)
  | setStartTimeUs (skipFramesBeforeUs : Int)
  | setStopTimeUs (stopTimeUs : Int)
  | getStopTimeOffsetUs
  | setTimeLapseConfig (fps captureFps : Rat)
  | setColorAspects (aspectsPacked : Int)
  | signalEndOfInputStream
  | onMessageReceived (generation : Int)
  deriving DecidableEq, Repr

/-- What the caller of a request gets back. -/
inductive Reply where
  | done
  | status (status : Status)
  | stopTimeOffset (status : Status) (stopTimeOffsetUs : Option Int)
  deriving DecidableEq, Repr

inductive Request where
  | queueFrame (item : BufferItem)
  | call (op : Op) (answers : Answers)

/-- The codec buffer that comes back. -/
def Op.returned? : Op -> Option CodecBufferId
  | .onInputBufferEmptied bufferId _ => some bufferId
  | _ => none

def Request.returned? : Request -> Option (CodecBufferId × Answers)
  | .queueFrame _ => none
  | .call op answers => op.returned?.map fun bufferId => (bufferId, answers)

def Op.isMessage : Op -> Bool
  | .onMessageReceived _ => true
  | _ => false

def Request.isMessage : Request -> Bool
  | .queueFrame _ => false
  | .call op _ => op.isMessage

def perform : Op -> Gbs Reply
  | .start => do return .status (← start)
  | .stop => do return .status (← stop)
  | .release => do return .status (← release)
  | .onInputBufferAdded bufferId => do
      return .status (← onInputBufferAdded bufferId)
  | .onInputBufferEmptied bufferId fenceFd => do
      return .status (← onInputBufferEmptied bufferId fenceFd)
  | .onFrameAvailable => do
      onFrameAvailable
      return .done
  | .onBuffersReleased => do
      onBuffersReleased
      return .done
  | .configure args => do return .status (← configure args)
  | .setSuspend suspend suspendStartTimeUs => do
      return .status (← setSuspend suspend suspendStartTimeUs)
  | .setRepeatPreviousFrameDelayUs repeatAfterUs => do
      return .status (← setRepeatPreviousFrameDelayUs repeatAfterUs)
  | .setTimeOffsetUs timeOffsetUs => do
      return .status (← setTimeOffsetUs timeOffsetUs)
  | .setMaxFps maxFps => do return .status (← setMaxFps maxFps)
  | .setStartTimeUs skipFramesBeforeUs => do
      return .status (← setStartTimeUs skipFramesBeforeUs)
  | .setStopTimeUs stopTimeUs => do
      return .status (← setStopTimeUs stopTimeUs)
  | .getStopTimeOffsetUs => do
      let r ← getStopTimeOffsetUs
      return .stopTimeOffset r.1 r.2
  | .setTimeLapseConfig fps captureFps => do
      return .status (← setTimeLapseConfig fps captureFps)
  | .setColorAspects aspectsPacked => do
      return .status (← setColorAspects aspectsPacked)
  | .signalEndOfInputStream => do
      return .status (← signalEndOfInputStream)
  | .onMessageReceived generation => do
      onMessageReceived generation
      return .done

def exec : Request -> Gbs Reply
  | .queueFrame item => do
      modifyBuffers fun b => b.queueFrame item
      return .done
  | .call op answers => do
      modifyControl fun c => { c with answers := answers }
      perform op

/-- The requests lead from the constructed source to the state {lit}`s`, and
none of them ends the process. -/
def Reaches (requests : List Request) (s : GraphicBufferSource) : Prop :=
  exists replies, run exec requests .initial = .ok replies s

/-- The requests lead to {lit}`s`, where the last one may have ended the
process. -/
def Ends (requests : List Request) (s : GraphicBufferSource) : Prop :=
  Reaches requests s ∨ exists e, run exec requests .initial = .error e s

/-!
# Executing a run
-/

/-- The state in which the run of the requests ends. -/
def final (requests : List Request) : GraphicBufferSource :=
  match run exec requests .initial with
  | .ok _ s => s
  | .error _ s => s

/-- No request of the run ends the process. -/
def completes (requests : List Request) : Bool :=
  match run exec requests .initial with
  | .ok _ _ => true
  | .error _ _ => false

theorem ends_final (requests : List Request) :
    Ends requests (final requests) := by
  unfold Ends Reaches final
  cases run exec requests .initial with
  | ok replies s => exact Or.inl ⟨replies, rfl⟩
  | error e s => exact Or.inr ⟨e, rfl⟩

theorem reaches_final {requests : List Request}
    (h : completes requests = true) : Reaches requests (final requests) := by
  unfold completes at h
  unfold Reaches final
  cases hrun : run exec requests .initial with
  | ok replies s => exact ⟨replies, rfl⟩
  | error e s =>
      rw [hrun] at h
      cases h

/-!
# A recording

The requests from which concrete runs are put together.
-/

/-- The call is made and every call it makes succeeds. -/
def Op.now (op : Op) : Request := .call op {}

/-- A frame with a graphic buffer of its own. -/
def newFrame (slot : SlotId) (frameNumber timeUs : Int) : BufferItem where
  mSlot := slot
  mGraphicBuffer := some { handle := slot.toNat, format := 1 }
  mFrameNumber := frameNumber
  mTimestamp := timeUs * 1000
  mDataSpace := 0
  mFence := some (.producer frameNumber.toNat)

/-- The producer queues a frame and the source is told about it. -/
def deliver (bi : BufferItem) : List Request :=
  [.queueFrame bi, Op.onFrameAvailable.now]

def configureFor (component : ComponentId) : Request :=
  (Op.configure {
    component := some component
    dataSpace := 0
    bufferCount := 4
    frameWidth := 64
    frameHeight := 64
    consumerUsage := 0 }).now

/-- A configured source with codec buffers, executing. -/
def session (component : ComponentId) (codecBuffers : List CodecBufferId) :
    List Request :=
  configureFor component ::
    codecBuffers.map (fun id => (Op.onInputBufferAdded id).now) ++
      [Op.start.now]

end Bqhelper
end Sm7225
