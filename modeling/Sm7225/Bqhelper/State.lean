import Sm7225.Lib.Prog
import Sm7225.Bqhelper.CodecTimestamp

/-!
# The state of the graphic buffer source

The fields of the class, in three groups: the lists of frames and codec buffers,
the memory with the shared objects behind them, and the control fields.  Two
parts are not fields of the class: the frames that wait in the BufferQueue, and
the answers that the environment gives to the calls of the current request.
-/

namespace Sm7225
namespace Bqhelper

open Lib

/-!
# Frames and codec buffers
-/

structure Frames where
  mAvailableBuffers : List VideoBuffer
  mNumAvailableUnacquiredBuffers : Int
  mFreeCodecBuffers : List CodecBufferId
  mSubmittedCodecBuffers : KeyedVector CodecBufferId (Option AcquiredBuffer)
  -- the timestamp and data space of mLatestBuffer are only read while its
  -- mBuffer is not null
  mLatestBuffer : Option VideoBuffer
  -- queued in the BufferQueue and not acquired yet
  queue : List BufferItem

def Frames.haveAvailableBuffers_l (f : Frames) : Bool :=
  !f.mAvailableBuffers.isEmpty || decide (0 < f.mNumAvailableUnacquiredBuffers)

/-!
# Shared objects

An acquired buffer is alive while a list, the latest frame or a local variable
of a running function refers to it.  The memory keeps the changing fields of the
live ones.  A cached buffer is cached until it is dropped from its slot.
-/

/-- The changing fields of a live {lit}`AcquiredBuffer`. -/
structure LiveBuffer where
  ptr : AcquiredBuffer
  mReleaseFenceFds : List Int
  mGotReleaseFences : Bool
  deriving DecidableEq, Repr

structure Memory where
  mBufferSlots : KeyedVector SlotId CachedBuffer
  mNumOutstandingAcquires : Int
  nextId : Nat
  live : List LiveBuffer
  -- identities of the cached buffers whose mIsCached is false
  droppedFromCache : List Nat
  -- references held by local variables of running functions
  locals : List AcquiredBuffer
  log : List Event

structure Buffers extends Frames, Memory

/-!
# Control fields
-/

/-- The answers of the environment to the calls made while one request is
served.  A list of answers is used from its head, and an exhausted list answers
{lit}`OK`.  The acquires made by {lit}`releaseAllAvailableBuffers_l` have a list
of their own. -/
structure Answers where
  acquireBuffer : List Status := []
  drainAcquireBuffer : List Status := []
  submitBuffer : List Status := []
  submitEos : List Status := []
  -- none when getReleasedBuffers fails
  releasedBuffers : Option (BitVec 64) := none
  setMaxAcquiredBufferCount : Status := .ok
  -- whether the new count releases buffers
  countReleasesBuffers : Bool := false
  setDefaultBufferSize : Status := .ok
  setDefaultBufferFormat : Status := .ok
  systemTimeNs : Int := 0
  snapTimestampsProperty : Int := 0
  convertDataSpaceToV0 : Int -> Bool := fun _ => true

structure Control where
  mEndOfStream : Bool
  mEndOfStreamSent : Bool
  mLastDataspace : Int
  mDefaultColorAspectsPacked : Int
  mComponent : Option ComponentId
  mExecuting : Bool
  mSuspended : Bool
  mLastFrameTimestampUs : Int
  mStopTimeUs : Int
  mLastActionTimeUs : Int
  mActionQueue : List ActionItem
  mSkipFramesBeforeNs : Int
  mFrameDropper : Option FrameDropper
  -- whether these two pointers are set
  mLooper : Bool
  mReflector : Bool
  mFrameRepeatIntervalUs : Int
  mRepeatLastFrameGeneration : Int
  mOutstandingFrameRepeatCount : Int
  mFrameRepeatBlockedOnCodecBuffer : Bool
  clock : CodecClock
  answers : Answers

structure GraphicBufferSource extends Buffers, Control

def halDataspaceUnknown : Int := 0

/-- The state after the constructor has connected to the BufferQueue. -/
def GraphicBufferSource.initial : GraphicBufferSource where
  mAvailableBuffers := []
  mNumAvailableUnacquiredBuffers := 0
  mFreeCodecBuffers := []
  mSubmittedCodecBuffers := KeyedVector.empty
  mLatestBuffer := none
  queue := []
  mBufferSlots := KeyedVector.empty
  mNumOutstandingAcquires := 0
  nextId := 0
  live := []
  droppedFromCache := []
  locals := []
  log := []
  mEndOfStream := false
  mEndOfStreamSent := false
  mLastDataspace := halDataspaceUnknown
  mDefaultColorAspectsPacked := 0
  mComponent := none
  mExecuting := false
  mSuspended := false
  mLastFrameTimestampUs := -1
  mStopTimeUs := -1
  mLastActionTimeUs := -1
  mActionQueue := []
  mSkipFramesBeforeNs := -1
  mFrameDropper := none
  mLooper := false
  mReflector := false
  mFrameRepeatIntervalUs := -1
  mRepeatLastFrameGeneration := 0
  mOutstandingFrameRepeatCount := 0
  mFrameRepeatBlockedOnCodecBuffer := false
  clock := CodecClock.initial
  answers := {}

/-- A function of the class: it reads and writes the state, and may abort. -/
abbrev Gbs (α : Type) : Type := EStateM Abort GraphicBufferSource α

/-- Change the frames and the memory, and no control field. -/
def modifyBuffers (f : Buffers -> Buffers) : Gbs Unit :=
  modify fun s => { s with toBuffers := f s.toBuffers }

def modifyControl (f : Control -> Control) : Gbs Unit :=
  modify fun s => { s with toControl := f s.toControl }

def check (c : Check) (holds : Bool) : Gbs Unit :=
  if holds then pure () else throw (.check c)

section Rules

variable {s : GraphicBufferSource} {E : Abort -> GraphicBufferSource -> Prop}
variable {P : Unit -> GraphicBufferSource -> Prop}

@[simp] theorem sat_modifyBuffers {f : Buffers -> Buffers} :
    Sat (modifyBuffers f) P E s <-> P () { s with toBuffers := f s.toBuffers } :=
  Iff.rfl

@[simp] theorem sat_modifyControl {f : Control -> Control} :
    Sat (modifyControl f) P E s <-> P () { s with toControl := f s.toControl } :=
  Iff.rfl

@[simp] theorem sat_check {c : Check} {holds : Bool} :
    Sat (check c holds) P E s <->
      (holds = true -> P () s) ∧ (holds = false -> E (.check c) s) := by
  unfold check
  cases holds with
  | true => simp
  | false => simp

end Rules

end Bqhelper
end Sm7225
