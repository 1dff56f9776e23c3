import Sm7225.Lib.KeyedVector

/-!
# Data of the graphic buffer source

The values that pass between the source, the BufferQueue and the codec
component: status codes, fences, queued frames, the buffer cache entries, and
the record of every call that crosses the border of the source.

A pointer to a shared object is modelled by the identity of the object together
with the fields that never change after construction.  The fields that change
are kept in the memory part of the state.
-/

namespace Sm7225
namespace Bqhelper

/-- {lit}`status_t`, with the codes the source itself returns. -/
inductive Status where
  | ok
  | unknownError
  | badValue
  | invalidOperation
  | noBufferAvailable
  | other (code : Int)
  deriving DecidableEq, Repr

/-- {lit}`slot_id`: a slot of the BufferQueue. -/
abbrev SlotId := Int

/-- {lit}`codec_buffer_id`: an input buffer of the codec. -/
abbrev CodecBufferId := Int

abbrev ComponentId := Nat

def numBufferSlots : Nat := 64

/-!
# Fences
-/

/-- A {lit}`Fence`: none, the one a producer queued with a frame, one that
owns a file descriptor given back by the codec, or a merge. -/
inductive Fence where
  | noFence
  | producer (fd : Nat)
  | ofFd (fd : Int)
  | merge (left right : Fence)
  deriving DecidableEq, Repr

/-- The descriptors owned by the parts of a fence, left to right. -/
def Fence.fds : Fence -> List Int
  | .noFence => []
  | .producer _ => []
  | .ofFd fd => [fd]
  | .merge left right => left.fds ++ right.fds

def Fence.isValid : Fence -> Bool
  | .noFence => false
  | .producer _ => true
  | .ofFd fd => decide (0 <= fd)
  | .merge left right => left.isValid || right.isValid

/-!
# Frames
-/

/-- A {lit}`GraphicBuffer`: its handle and its pixel format. -/
structure GraphicBuffer where
  handle : Nat
  format : Int
  deriving DecidableEq, Repr

/-- What {lit}`IGraphicBufferConsumer::acquireBuffer` hands out.  The graphic
buffer is null when the slot already had it. -/
structure BufferItem where
  mSlot : SlotId
  mGraphicBuffer : Option GraphicBuffer
  mFrameNumber : Int
  mTimestamp : Int
  mDataSpace : Int
  mFence : Option Fence
  deriving DecidableEq, Repr

/-- A pointer to a {lit}`CachedBuffer`.  Its flag {lit}`mIsCached` is in the
memory. -/
structure CachedBuffer where
  id : Nat
  mSlot : SlotId
  mGraphicBuffer : GraphicBuffer
  deriving DecidableEq, Repr

/-- A pointer to an {lit}`AcquiredBuffer`, with the frame number its release
callback has captured.  Its list of release fences is in the memory. -/
structure AcquiredBuffer where
  id : Nat
  mBuffer : CachedBuffer
  mAcquireFence : Option Fence
  frameNum : Int
  deriving DecidableEq, Repr

/-- {lit}`AcquiredBuffer::getAcquireFenceFd`: the fence that is duplicated for
the codec, or none for the descriptor -1. -/
def AcquiredBuffer.getAcquireFenceFd (a : AcquiredBuffer) : Option Fence :=
  match a.mAcquireFence with
  | none => none
  | some fence => if fence.isValid then some fence else none

/-- {lit}`VideoBuffer`: an acquired frame with its time and data space. -/
structure VideoBuffer where
  mBuffer : AcquiredBuffer
  mTimestampNs : Int
  mDataspace : Int
  deriving DecidableEq, Repr

/-!
# Actions
-/

inductive ActionType where
  | pause
  | resume
  | stop
  deriving DecidableEq, Repr

structure ActionItem where
  mAction : ActionType
  mActionTimeUs : Int
  deriving DecidableEq, Repr

/-!
# The record of calls

The source talks to the BufferQueue, to the component and to its looper.  Each
call is appended to a log.  The entries {lit}`destroyed` and {lit}`discarded`
note the end of a life: the last reference to an acquired buffer went away, or
a cached buffer left its slot.
-/

/-- Which of its two callers handed a frame to {lit}`submitBuffer_l`. -/
inductive Origin where
  | fresh
  | repeated
  deriving DecidableEq, Repr

inductive Event where
  -- requests that reach the source
  | queued (item : BufferItem)
  | frameAvailable
  | codecBufferAdded (id : CodecBufferId)
  | emptied (id : CodecBufferId) (fenceFd : Int)
      (held : Option (Option AcquiredBuffer)) (kept : Bool)
  | configured
  | released
  -- calls to the consumer side of the BufferQueue
  | acquireFailed (err : Status) (frameWaiting : Bool)
  | acquired (item : BufferItem) (buffer : AcquiredBuffer)
  | releaseBuffer (buffer : AcquiredBuffer) (slot : SlotId) (frameNum : Int)
      (fence : Option Fence)
  | setMaxAcquiredBufferCount (bufferCount : Int)
  | setDefaultBufferSize (width height : Nat)
  | setConsumerUsageBits (usage : UInt64)
  | setDefaultBufferFormat (format : Int)
  | setDefaultBufferDataSpace (dataSpace : Int)
  -- calls to the component
  | submitBuffer (id : CodecBufferId) (item : VideoBuffer) (origin : Origin)
      (codecTimeUs : Int) (acquireFence : Option Fence) (err : Status)
  | submitEos (id : CodecBufferId) (err : Status)
  | dispatchDataSpaceChanged (dataSpace aspects pixelFormat : Int)
  -- a frame that the frame dropper drops
  | dropped (item : VideoBuffer)
  -- messages posted to the looper
  | repeatPosted (generation : Int) (delayUs : Int)
  -- ends of life
  | discarded (buffer : CachedBuffer)
  | destroyed (buffer : AcquiredBuffer)
  | newFence (fd : Int)
  | closed (fd : Int)
  deriving DecidableEq, Repr

/-- Why the process ends in the middle of a request. -/
inductive Check where
  | startNotExecuting
  | emptiedBeforeEosSent
  | fillExecutingWithFrame
  | fillActionTimeReached
  | repeatExecutingWithoutFrame
  | submitFreeCodecBuffer
  | eosEndOfStream
  deriving DecidableEq, Repr

/-- A failed {lit}`CHECK`, a call through a null component, or a read of a
slot that is not in the cache. -/
inductive Abort where
  | check (c : Check)
  | nullComponent
  | unknownSlot
  deriving DecidableEq, Repr

end Bqhelper
end Sm7225
