import Sm7225.Bqhelper.State

/-!
# References to acquired buffers

The effects on frames and memory that the functions of the class are built
from.  A shared pointer that is copied, moved or dropped becomes a change of a
list of references.  A reference that is about to be dropped is first moved to
the local variables, and {lit}`unhold` drops it there.  Dropping the last
reference runs the destructor of the acquired buffer and its release callback.
-/

namespace Sm7225
namespace Bqhelper

open Lib

/-!
# Release fences
-/

def mergeReleaseFences (fds : List Int) (start num : Nat) : Fence :=
  if num = 0 then
    .noFence
  else if num = 1 then
    .ofFd (fds.getD start (-1))
  else
    .merge (mergeReleaseFences fds start (num / 2))
      (mergeReleaseFences fds (start + num / 2) (num - num / 2))
termination_by num

def LiveBuffer.getReleaseFence (l : LiveBuffer) : Option Fence :=
  if l.mGotReleaseFences then
    some (mergeReleaseFences l.mReleaseFenceFds 0 l.mReleaseFenceFds.length)
  else
    l.ptr.mAcquireFence

def LiveBuffer.addReleaseFenceFd (l : LiveBuffer) (fenceFd : Int) :
    LiveBuffer :=
  { l with
    mReleaseFenceFds :=
      if 0 <= fenceFd then l.mReleaseFenceFds ++ [fenceFd]
      else l.mReleaseFenceFds
    mGotReleaseFences := true }

namespace Buffers

def note (b : Buffers) (e : Event) : Buffers :=
  { b with log := b.log ++ [e] }

/-!
# Holders
-/

/-- The acquired buffers that the submitted codec buffers refer to. -/
def submitted (b : Buffers) : List AcquiredBuffer :=
  b.mSubmittedCodecBuffers.values.filterMap id

def holders (b : Buffers) : List AcquiredBuffer :=
  b.locals ++ (b.mAvailableBuffers.map VideoBuffer.mBuffer ++
    (b.submitted ++ (b.mLatestBuffer.map VideoBuffer.mBuffer).toList))

def isCached (b : Buffers) (c : CachedBuffer) : Bool :=
  decide (c.id ∉ b.droppedFromCache)

def isAcquired (b : Buffers) (c : CachedBuffer) : Bool :=
  b.live.any (fun l => decide (l.ptr.mBuffer = c))

def lastCalls (b : Buffers) (l : LiveBuffer) : List Event :=
  if b.isCached l.ptr.mBuffer then
    if l.mGotReleaseFences then
      l.mReleaseFenceFds.map .newFence ++
        [.releaseBuffer l.ptr l.ptr.mBuffer.mSlot l.ptr.frameNum
          l.getReleaseFence]
    else
      .releaseBuffer l.ptr l.ptr.mBuffer.mSlot l.ptr.frameNum
        l.getReleaseFence :: l.mReleaseFenceFds.map .closed
  else
    l.mReleaseFenceFds.map .closed

def destroy (b : Buffers) (l : LiveBuffer) : Buffers :=
  { b with
    mNumOutstandingAcquires :=
      if b.isCached l.ptr.mBuffer then b.mNumOutstandingAcquires - 1
      else b.mNumOutstandingAcquires
    live := b.live.erase l
    log := b.log ++ (.destroyed l.ptr :: b.lastCalls l) }

def forget (b : Buffers) (a : AcquiredBuffer) : Buffers :=
  { b with locals := b.locals.erase a }

def unhold (b : Buffers) (a : AcquiredBuffer) : Buffers :=
  if a ∈ (b.forget a).holders then
    b.forget a
  else
    match b.live.find? (fun l => l.ptr = a) with
    | some l => (b.forget a).destroy l
    | none => b.forget a

def unholdAll (b : Buffers) (as : List AcquiredBuffer) : Buffers :=
  as.foldl unhold b

/-!
# Moves of references
-/

def takeAvailable (b : Buffers) : Buffers :=
  match b.mAvailableBuffers with
  | [] => b
  | item :: rest =>
      { b with mAvailableBuffers := rest, locals := item.mBuffer :: b.locals }

theorem takeAvailable_eq {b : Buffers} {item : VideoBuffer} {rest : List VideoBuffer}
    (h : b.mAvailableBuffers = item :: rest) :
    b.takeAvailable =
      { b with mAvailableBuffers := rest, locals := item.mBuffer :: b.locals } := by
  unfold takeAvailable
  rw [h]

def pushAvailable (b : Buffers) (item : VideoBuffer) : Buffers :=
  { b with mAvailableBuffers := b.mAvailableBuffers ++ [item] }

def clearAvailable (b : Buffers) : Buffers :=
  { b with
    mAvailableBuffers := []
    locals := b.mAvailableBuffers.map VideoBuffer.mBuffer ++ b.locals }

/-- The reference of the latest frame, if there is one. -/
def latest (b : Buffers) : List AcquiredBuffer :=
  (b.mLatestBuffer.map VideoBuffer.mBuffer).toList

def setLatest (b : Buffers) (item : Option VideoBuffer) : Buffers :=
  { b with mLatestBuffer := item, locals := b.latest ++ b.locals }

def retimeLatest (b : Buffers) (deltaNs : Int) : Buffers :=
  { b with
    mLatestBuffer := b.mLatestBuffer.map (fun item =>
      { item with mTimestampNs := item.mTimestampNs + deltaNs }) }

def submittedAt (b : Buffers) (id : CodecBufferId) : List AcquiredBuffer :=
  (b.mSubmittedCodecBuffers.find? id).join.toList

def addCodecBuffer (b : Buffers) (id : CodecBufferId) : Buffers :=
  { b with
    mFreeCodecBuffers := b.mFreeCodecBuffers ++ [id]
    log := b.log ++ [.codecBufferAdded id] }

def submit (b : Buffers) (id : CodecBufferId) (entry : Option AcquiredBuffer) :
    Buffers :=
  { b with
    mFreeCodecBuffers := b.mFreeCodecBuffers.tail
    mSubmittedCodecBuffers := b.mSubmittedCodecBuffers.add id entry
    locals := b.submittedAt id ++ b.locals }

def takeBack (b : Buffers) (id : CodecBufferId) : Buffers :=
  { b with
    mFreeCodecBuffers := b.mFreeCodecBuffers ++ [id]
    mSubmittedCodecBuffers := b.mSubmittedCodecBuffers.remove id
    locals := b.submittedAt id ++ b.locals }

def clearCodecBuffers (b : Buffers) : Buffers :=
  { b with
    mFreeCodecBuffers := []
    mSubmittedCodecBuffers := KeyedVector.empty
    locals := b.submitted ++ b.locals }

def addReleaseFenceFd (b : Buffers) (a : AcquiredBuffer) (fenceFd : Int) :
    Buffers :=
  { b with
    live := b.live.map (fun l =>
      if l.ptr = a then l.addReleaseFenceFd fenceFd else l) }

def autoclose (b : Buffers) (fd : Int) : Buffers :=
  if 0 <= fd then b.note (.closed fd) else b

/-!
# Slots and new objects
-/

def dropFromCache (b : Buffers) (c : CachedBuffer) : Buffers :=
  { b with
    droppedFromCache := c.id :: b.droppedFromCache
    mNumOutstandingAcquires :=
      if b.isAcquired c then b.mNumOutstandingAcquires - 1
      else b.mNumOutstandingAcquires
    log := b.log ++ [.discarded c] }

def removeSlot (b : Buffers) (slot : SlotId) : Buffers :=
  { b with mBufferSlots := b.mBufferSlots.remove slot }

def cache (b : Buffers) (slot : SlotId) (gb : GraphicBuffer) : Buffers :=
  { b with
    nextId := b.nextId + 1
    mBufferSlots := b.mBufferSlots.add slot
      { id := b.nextId, mSlot := slot, mGraphicBuffer := gb } }

def newAcquired (b : Buffers) (c : CachedBuffer) (bi : BufferItem) :
    AcquiredBuffer where
  id := b.nextId
  mBuffer := c
  mAcquireFence := bi.mFence
  frameNum := bi.mFrameNumber

def acquire (b : Buffers) (c : CachedBuffer) (bi : BufferItem) : Buffers :=
  { b with
    nextId := b.nextId + 1
    live := b.live ++
      [{ ptr := b.newAcquired c bi, mReleaseFenceFds := [],
         mGotReleaseFences := false }]
    locals := b.newAcquired c bi :: b.locals
    mNumOutstandingAcquires := b.mNumOutstandingAcquires + 1
    log := b.log ++ [.acquired bi (b.newAcquired c bi)] }

def dequeue (b : Buffers) : Buffers :=
  { b with
    queue := b.queue.tail
    mNumAvailableUnacquiredBuffers := b.mNumAvailableUnacquiredBuffers - 1 }

def countAvailable (b : Buffers) : Buffers :=
  { b with
    mNumAvailableUnacquiredBuffers := b.mNumAvailableUnacquiredBuffers + 1
    log := b.log ++ [.frameAvailable] }

def queueFrame (b : Buffers) (bi : BufferItem) : Buffers :=
  { b with queue := b.queue ++ [bi], log := b.log ++ [.queued bi] }

end Buffers

end Bqhelper
end Sm7225
