import Sm7225.Lib.Relational
import Sm7225.Bqhelper.Steps

/-!
# What a client can see

The identities of buffers, the descriptors that wait at a frame and the debug
counters never decide what the source does.  The view of a source leaves them
out.  Two sources with the same view are twins, and stay twins.
-/

namespace Sm7225
namespace Bqhelper

open Lib

/-!
# Without identities
-/

def CachedBuffer.anonymous (c : CachedBuffer) : CachedBuffer :=
  { c with id := 0 }

def AcquiredBuffer.anonymous (a : AcquiredBuffer) : AcquiredBuffer :=
  { a with id := 0, mBuffer := a.mBuffer.anonymous }

def VideoBuffer.anonymous (v : VideoBuffer) : VideoBuffer :=
  { v with mBuffer := v.mBuffer.anonymous }

def Event.handover? : Event -> Option Event
  | .submitBuffer id item origin codecTimeUs fence err =>
      some (.submitBuffer id item.anonymous origin codecTimeUs fence err)
  | .submitEos id err => some (.submitEos id err)
  | _ => none

def handovers (log : List Event) : List Event :=
  log.filterMap Event.handover?

theorem handover_endsLife (e : Event) (h : e.endsLife = true) :
    e.handover? = none := by
  cases e <;> first | rfl | cases h

/-!
# The view
-/

structure View where
  available : List VideoBuffer
  unacquired : Int
  free : List CodecBufferId
  -- whether the entry of a codec buffer holds a frame
  submitted : CodecBufferId -> Option Bool
  latest : Option VideoBuffer
  queue : List BufferItem
  slots : SlotId -> Option CachedBuffer

namespace Buffers

def view (b : Buffers) : View where
  available := b.mAvailableBuffers.map VideoBuffer.anonymous
  unacquired := b.mNumAvailableUnacquiredBuffers
  free := b.mFreeCodecBuffers
  submitted := fun id => (b.mSubmittedCodecBuffers.find? id).map Option.isSome
  latest := b.mLatestBuffer.map VideoBuffer.anonymous
  queue := b.queue
  slots := fun slot => (b.mBufferSlots.find? slot).map CachedBuffer.anonymous

variable (b : Buffers)

@[simp] theorem view_note (e : Event) : (b.note e).view = b.view := rfl

theorem view_of_frames {b b' : Buffers} (hframes : b'.toFrames = b.toFrames)
    (hslots : b'.mBufferSlots = b.mBufferSlots) : b'.view = b.view := by
  unfold view
  rw [hframes, hslots]

@[simp] theorem view_unhold (a : AcquiredBuffer) : (b.unhold a).view = b.view :=
  view_of_frames (unhold_toFrames b a) (unhold_slots b a)

@[simp] theorem view_takeAvailable :
    b.takeAvailable.view = { b.view with available := b.view.available.tail } := by
  unfold takeAvailable view
  split
  next hlist => simp [hlist]
  next item rest hlist => simp [hlist]

@[simp] theorem view_pushAvailable (item : VideoBuffer) :
    (b.pushAvailable item).view =
      { b.view with available := b.view.available ++ [item.anonymous] } := by
  simp [pushAvailable, view]

@[simp] theorem view_clearAvailable :
    b.clearAvailable.view = { b.view with available := [] } := rfl

@[simp] theorem view_setLatest (item : Option VideoBuffer) :
    (b.setLatest item).view =
      { b.view with latest := item.map VideoBuffer.anonymous } := rfl

@[simp] theorem view_retimeLatest (deltaNs : Int) :
    (b.retimeLatest deltaNs).view =
      { b.view with latest := b.view.latest.map (fun item =>
        { item with mTimestampNs := item.mTimestampNs + deltaNs }) } := by
  unfold retimeLatest view
  cases b.mLatestBuffer with
  | none => rfl
  | some item => rfl

@[simp] theorem view_addCodecBuffer (id : CodecBufferId) :
    (b.addCodecBuffer id).view =
      { b.view with free := b.view.free ++ [id] } := rfl

@[simp] theorem view_submit (id : CodecBufferId) (entry : Option AcquiredBuffer) :
    (b.submit id entry).view =
      { b.view with
        free := b.view.free.tail
        submitted := fun j =>
          if j = id then some entry.isSome else b.view.submitted j } := by
  unfold submit view
  congr 1
  funext j
  rw [KeyedVector.find_add]
  split
  · rfl
  · rfl

@[simp] theorem view_takeBack (id : CodecBufferId) :
    (b.takeBack id).view =
      { b.view with
        free := b.view.free ++ [id]
        submitted := fun j => if j = id then none else b.view.submitted j } := by
  unfold takeBack view
  congr 1
  funext j
  rw [KeyedVector.find_remove]
  split
  · rfl
  · rfl

@[simp] theorem view_clearCodecBuffers :
    b.clearCodecBuffers.view =
      { b.view with free := [], submitted := fun _ => none } := rfl

@[simp] theorem view_addReleaseFenceFd (a : AcquiredBuffer) (fenceFd : Int) :
    (b.addReleaseFenceFd a fenceFd).view = b.view := rfl

@[simp] theorem view_autoclose (fd : Int) : (b.autoclose fd).view = b.view := by
  unfold autoclose
  split
  · rfl
  · rfl

@[simp] theorem view_dropFromCache (c : CachedBuffer) :
    (b.dropFromCache c).view = b.view := rfl

@[simp] theorem view_removeSlot (slot : SlotId) :
    (b.removeSlot slot).view =
      { b.view with slots := fun j =>
        if j = slot then none else b.view.slots j } := by
  unfold removeSlot view
  congr 1
  funext j
  rw [KeyedVector.find_remove]
  split
  · rfl
  · rfl

@[simp] theorem view_cache (slot : SlotId) (gb : GraphicBuffer) :
    (b.cache slot gb).view =
      { b.view with slots := fun j =>
        if j = slot then some { id := 0, mSlot := slot, mGraphicBuffer := gb }
        else b.view.slots j } := by
  unfold cache view
  congr 1
  funext j
  rw [KeyedVector.find_add]
  split
  · rfl
  · rfl

@[simp] theorem view_acquire (c : CachedBuffer) (bi : BufferItem) :
    (b.acquire c bi).view = b.view := rfl

@[simp] theorem view_dequeue :
    b.dequeue.view =
      { b.view with
        queue := b.view.queue.tail
        unacquired := b.view.unacquired - 1 } := rfl

@[simp] theorem view_countAvailable :
    b.countAvailable.view =
      { b.view with unacquired := b.view.unacquired + 1 } := rfl

@[simp] theorem view_queueFrame (bi : BufferItem) :
    (b.queueFrame bi).view = { b.view with queue := b.view.queue ++ [bi] } := rfl

end Buffers

/-!
# What configure leaves behind
-/

/-- The fields of the clock that matter: the snap flag only does while a capture
rate is set. -/
def CodecClock.session (c : CodecClock) : CodecClock :=
  { c with mSnapTimestamps := c.mSnapTimestamps && decide (0 < c.mCaptureFps) }

/-- The fields that matter.  The default color aspects are only passed on to the
component when the data space changes.  The looper and the generation of its
messages only matter if {lit}`messages` are delivered. -/
def Control.session (messages : Bool) (c : Control) : Control :=
  { c with
    mDefaultColorAspectsPacked := 0
    mLooper := messages && c.mLooper
    mReflector := messages && c.mReflector
    mRepeatLastFrameGeneration :=
      if messages then c.mRepeatLastFrameGeneration else 0
    clock := c.clock.session }

/-!
# Twins
-/

/-- Two sources that look the same, and have handed over the same codec buffers
since their earlier hand-overs. -/
structure Twins (messages : Bool) (old old' : List Event)
    (s s' : GraphicBufferSource) : Prop where
  view : s.toBuffers.view = s'.toBuffers.view
  control : s.toControl.session messages = s'.toControl.session messages
  unblocked : messages = false -> s.mFrameRepeatBlockedOnCodecBuffer = false
  handed : exists new, handovers s.log = old ++ new ∧
    handovers s'.log = old' ++ new

end Bqhelper
end Sm7225
