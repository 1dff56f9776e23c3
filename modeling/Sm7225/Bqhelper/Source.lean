import Sm7225.Bqhelper.References

/-!
# The functions of the graphic buffer source

Each function of the class under its own name.  A public function is atomic:
it runs with the mutex of the source held.
-/

namespace Sm7225
namespace Bqhelper

open Lib

def note (e : Event) : Gbs Unit :=
  modifyBuffers fun b => b.note e

def unhold (a : AcquiredBuffer) : Gbs Unit :=
  modifyBuffers fun b => b.unhold a

def unholdAll (as : List AcquiredBuffer) : Gbs Unit :=
  modifyBuffers fun b => b.unholdAll as

section Rules

variable {s : GraphicBufferSource} {E : Abort -> GraphicBufferSource -> Prop}
variable {P : Unit -> GraphicBufferSource -> Prop}

@[simp] theorem sat_note {e : Event} :
    Sat (note e) P E s <-> P () { s with toBuffers := s.toBuffers.note e } :=
  Iff.rfl

@[simp] theorem sat_unhold {a : AcquiredBuffer} :
    Sat (unhold a) P E s <-> P () { s with toBuffers := s.toBuffers.unhold a } :=
  Iff.rfl

@[simp] theorem sat_unholdAll {as : List AcquiredBuffer} :
    Sat (unholdAll as) P E s <->
      P () { s with toBuffers := s.toBuffers.unholdAll as } :=
  Iff.rfl

end Rules

/-!
# Calls to the BufferQueue and to the component
-/

/-- The two callers of {lit}`acquireBuffer_l` that have answers of their own. -/
inductive AcquireSite where
  | oneFrame
  | drain
  deriving DecidableEq, Repr

/-- The status of the next {lit}`mConsumer->acquireBuffer` call. -/
def Answers.nextAcquire (ans : Answers) : AcquireSite -> Status
  | .oneFrame => ans.acquireBuffer.headD .ok
  | .drain => ans.drainAcquireBuffer.headD .ok

def Answers.popAcquire (ans : Answers) : AcquireSite -> Answers
  | .oneFrame => { ans with acquireBuffer := ans.acquireBuffer.tail }
  | .drain => { ans with drainAcquireBuffer := ans.drainAcquireBuffer.tail }

/-- {lit}`mConsumer->acquireBuffer`: the oldest queued frame, or a failure. -/
def consumerAcquireBuffer (site : AcquireSite) :
    Gbs (Except Status BufferItem) := do
  let s ← get
  modifyControl fun c => { c with answers := c.answers.popAcquire site }
  if s.answers.nextAcquire site ≠ .ok then
    note (.acquireFailed (s.answers.nextAcquire site) (!s.queue.isEmpty))
    return .error (s.answers.nextAcquire site)
  else
    match s.queue with
    | [] =>
        note (.acquireFailed .noBufferAvailable false)
        return .error .noBufferAvailable
    | bi :: _ => return .ok bi

def componentSubmitBuffer (id : CodecBufferId) (item : VideoBuffer)
    (origin : Origin) (codecTimeUs : Int) : Gbs Status := do
  let s ← get
  if s.mComponent = none then
    throw .nullComponent
  else
    let err := s.answers.submitBuffer.headD .ok
    modifyControl fun c =>
      { c with answers.submitBuffer := c.answers.submitBuffer.tail }
    note (.submitBuffer id item origin codecTimeUs
      item.mBuffer.getAcquireFenceFd err)
    return err

def componentSubmitEos (id : CodecBufferId) : Gbs Status := do
  let s ← get
  if s.mComponent = none then
    throw .nullComponent
  else
    let err := s.answers.submitEos.headD .ok
    modifyControl fun c =>
      { c with answers.submitEos := c.answers.submitEos.tail }
    note (.submitEos id err)
    return err

/-!
# Slots
-/

/-- {lit}`discardBufferAtSlotIndex_l`.  The entry itself is replaced or removed
by the caller. -/
def discardBufferAtSlotIndex_l (buffer : CachedBuffer) : Gbs Unit :=
  modifyBuffers fun b => b.dropFromCache buffer

def discardBufferInSlot_l (slot : SlotId) : Gbs Bool := do
  let s ← get
  match s.mBufferSlots.find? slot with
  | none => return false
  | some buffer =>
      discardBufferAtSlotIndex_l buffer
      modifyBuffers fun b => b.removeSlot slot
      return true

/-- The slot part of {lit}`acquireBuffer_l`: the cached buffer of the item. -/
def cacheBuffer (bi : BufferItem) : Gbs CachedBuffer := do
  let s ← get
  match bi.mGraphicBuffer, s.mBufferSlots.find? bi.mSlot with
  | some gb, some old =>
      discardBufferAtSlotIndex_l old
      modifyBuffers fun b => b.cache bi.mSlot gb
      return { id := s.nextId, mSlot := bi.mSlot, mGraphicBuffer := gb }
  | some gb, none =>
      modifyBuffers fun b => b.cache bi.mSlot gb
      return { id := s.nextId, mSlot := bi.mSlot, mGraphicBuffer := gb }
  | none, some buffer => return buffer
  | none, none => throw .unknownSlot

/-- The part of {lit}`acquireBuffer_l` after the consumer has handed out an
item.  The frame is held by a local variable of the caller. -/
def adoptItem (bi : BufferItem) : Gbs VideoBuffer := do
  modifyBuffers Buffers.dequeue
  let buffer ← cacheBuffer bi
  let s ← get
  modifyBuffers fun b => b.acquire buffer bi
  return {
    mBuffer := s.newAcquired buffer bi
    mTimestampNs := bi.mTimestamp
    mDataspace := bi.mDataSpace }

def acquireBuffer_l (site : AcquireSite) : Gbs (Except Status VideoBuffer) := do
  match ← consumerAcquireBuffer site with
  | .error err => return .error err
  | .ok bi => return .ok (← adoptItem bi)

/-!
# Submission
-/

def onDataspaceChanged_l (dataspace pixelFormat : Int) : Gbs Unit := do
  modifyControl fun c => { c with mLastDataspace := dataspace }
  let s ← get
  if s.answers.convertDataSpaceToV0 dataspace then
    if s.mComponent = none then
      throw .nullComponent
    else
      note (.dispatchDataSpaceChanged s.mLastDataspace
        s.mDefaultColorAspectsPacked pixelFormat)
  else
    pure ()

/-- The data space part of {lit}`submitBuffer_l`. -/
def updateDataspace (item : VideoBuffer) : Gbs Unit := do
  let s ← get
  if item.mDataspace ≠ s.mLastDataspace then
    onDataspaceChanged_l item.mDataspace
      item.mBuffer.mBuffer.mGraphicBuffer.format
  else
    pure ()

/-- {lit}`mSubmittedCodecBuffers.add` of the first free codec buffer, which
leaves the free list.  An overwritten entry lets go of its frame. -/
def moveToSubmitted (id : CodecBufferId) (entry : Option AcquiredBuffer) :
    Gbs Unit := do
  let s ← get
  modifyBuffers fun b => b.submit id entry
  unholdAll (s.submittedAt id)

def submitBuffer_l (item : VideoBuffer) (origin : Origin) : Gbs Status := do
  let s ← get
  match s.mFreeCodecBuffers with
  | [] => throw (.check .submitFreeCodecBuffer)
  | codecBufferId :: _ =>
      match s.clock.calculateCodecTimestamp_l s.mFrameDropper
          item.mTimestampNs with
      | none => return .unknownError
      | some (codecTimeUs, clock) =>
          modifyControl fun c => { c with clock := clock }
          updateDataspace item
          let err ← componentSubmitBuffer codecBufferId item origin codecTimeUs
          if err ≠ .ok then
            return err
          else
            moveToSubmitted codecBufferId (some item.mBuffer)
            return .ok

/-- Assign the latest frame, or reset it.  The old one is let go. -/
def assignLatest (item : Option VideoBuffer) : Gbs Unit := do
  let s ← get
  modifyBuffers fun b => b.setLatest item
  unholdAll s.latest

def submitEndOfInputStream_l : Gbs Unit := do
  let s ← get
  check .eosEndOfStream s.mEndOfStream
  if s.mEndOfStreamSent then
    return ()
  else
    match s.mFreeCodecBuffers with
    | [] => return ()
    | codecBufferId :: _ =>
        let err ← componentSubmitEos codecBufferId
        if err ≠ .ok then
          return ()
        else
          moveToSubmitted codecBufferId none
          modifyControl fun c =>
            { c with
              mEndOfStreamSent := true
              mRepeatLastFrameGeneration := c.mRepeatLastFrameGeneration + 1 }
          assignLatest none

/-!
# Repeating the latest frame
-/

def kRepeatLastFrameCount : Int := 10

def queueFrameRepeat_l : Gbs Unit := do
  modifyControl fun c => { c with mFrameRepeatBlockedOnCodecBuffer := false }
  let s ← get
  if s.mReflector then
    modifyControl fun c =>
      { c with mRepeatLastFrameGeneration := c.mRepeatLastFrameGeneration + 1 }
    note (.repeatPosted (s.mRepeatLastFrameGeneration + 1)
      s.mFrameRepeatIntervalUs)
  else
    pure ()

def setLatestBuffer_l (item : VideoBuffer) : Gbs Unit := do
  assignLatest (some item)
  modifyControl fun c =>
    { c with mOutstandingFrameRepeatCount := kRepeatLastFrameCount }
  let s ← get
  modifyBuffers fun b => b.retimeLatest (s.mFrameRepeatIntervalUs * 1000)
  queueFrameRepeat_l

/-- The end of {lit}`repeatLatestBuffer_l`: set up the next repeat. -/
def countRepeat : Gbs Unit := do
  modifyControl fun c =>
    { c with
      mOutstandingFrameRepeatCount := c.mOutstandingFrameRepeatCount - 1 }
  let s ← get
  if 0 < s.mOutstandingFrameRepeatCount then
    modifyBuffers fun b => b.retimeLatest (s.mFrameRepeatIntervalUs * 1000)
    queueFrameRepeat_l
  else
    pure ()

def repeatLatestBuffer_l : Gbs Bool := do
  let s ← get
  check .repeatExecutingWithoutFrame
    (s.mExecuting && !s.haveAvailableBuffers_l)
  match s.mLatestBuffer with
  | none => return false
  | some latest =>
      if s.mSuspended then
        return false
      else if s.mFreeCodecBuffers.isEmpty then
        return false
      else
        let err ← submitBuffer_l latest .repeated
        if err ≠ .ok then
          return false
        else
          countRepeat
          return true

/-!
# Available frames
-/

/-- The loop of {lit}`releaseAllAvailableBuffers_l`, which runs at most once for
each unacquired frame. -/
def drainUnacquired : Nat -> Gbs Unit
  | 0 => pure ()
  | n + 1 => do
      let s ← get
      if 0 < s.mNumAvailableUnacquiredBuffers then
        match ← acquireBuffer_l .drain with
        | .error _ => return ()
        | .ok item =>
            unhold item.mBuffer
            drainUnacquired n
      else
        return ()

def releaseAllAvailableBuffers_l : Gbs Unit := do
  let s ← get
  modifyBuffers Buffers.clearAvailable
  unholdAll (s.mAvailableBuffers.map VideoBuffer.mBuffer)
  drainUnacquired s.mNumAvailableUnacquiredBuffers.toNat

/-- The start of {lit}`fillCodecBuffer_l`: the next frame, now held by a local
variable, or none when it cannot be acquired. -/
def takeFrame : Gbs (Option VideoBuffer) := do
  let s ← get
  match s.mAvailableBuffers with
  | [] =>
      match ← acquireBuffer_l .oneFrame with
      | .error _ => return none
      | .ok item => return some item
  | item :: _ =>
      modifyBuffers Buffers.takeAvailable
      return some item

/-- The traversal of the action queue in {lit}`fillCodecBuffer_l`, from the
iterator on: the newest due action and the rest of the queue. -/
def newestDueAction (itemTimeUs : Int) (nextAction : ActionItem) :
    List ActionItem -> ActionItem × List ActionItem
  | [] => (nextAction, [])
  | action :: rest =>
      if action.mActionTimeUs <= itemTimeUs ∧ nextAction.mAction ≠ .stop then
        newestDueAction itemTimeUs action rest
      else
        (nextAction, action :: rest)

/-- The action part of {lit}`fillCodecBuffer_l`.  The result is
{lit}`seeStopAction`. -/
def performActions (itemTimeUs : Int) : Gbs Bool := do
  let s ← get
  match s.mActionQueue with
  | [] => return false
  | first :: rest =>
      if itemTimeUs < first.mActionTimeUs then
        return false
      else
        let nextAction := (newestDueAction itemTimeUs first (first :: rest)).1
        let remaining := (newestDueAction itemTimeUs first (first :: rest)).2
        modifyControl fun c => { c with mActionQueue := remaining }
        check .fillActionTimeReached
          (decide (nextAction.mActionTimeUs <= itemTimeUs))
        match nextAction.mAction with
        | .pause =>
            modifyControl fun c => { c with mSuspended := true }
            return false
        | .resume =>
            modifyControl fun c => { c with mSuspended := false }
            return false
        | .stop =>
            modifyControl fun c => { c with mActionQueue := [] }
            return true

/-- {lit}`mFrameDropper->shouldDrop`, when there is a frame dropper. -/
def frameDropperDrops (timeUs : Int) : Gbs Bool := do
  let s ← get
  match s.mFrameDropper with
  | none => return false
  | some dropper =>
      modifyControl fun c =>
        { c with mFrameDropper := some (dropper.shouldDrop timeUs).2 }
      return (dropper.shouldDrop timeUs).1

/-- The time of a frame when a start time is set. -/
def Control.offsetByStartTime (c : Control) (item : VideoBuffer) :
    VideoBuffer :=
  if 0 < c.mSkipFramesBeforeNs then
    { item with mTimestampNs := item.mTimestampNs - c.mSkipFramesBeforeNs }
  else
    item

/-- The middle of {lit}`fillCodecBuffer_l`: skip, drop or submit the frame.
The result is {lit}`err`. -/
def skipDropOrSubmit (item : VideoBuffer) : Gbs Status := do
  let s ← get
  if s.mSkipFramesBeforeNs < 0 ∨ s.mSkipFramesBeforeNs <= item.mTimestampNs then
    let drops ← frameDropperDrops
      (Int.tdiv (s.offsetByStartTime item).mTimestampNs 1000)
    if drops then
      note (.dropped (s.offsetByStartTime item))
      return .ok
    else
      submitBuffer_l (s.offsetByStartTime item) .fresh
  else
    return .unknownError

/-- The end of {lit}`fillCodecBuffer_l`: keep the frame for repeating. -/
def recordFrame (item : VideoBuffer) (itemTimeUs : Int) : Gbs Unit := do
  let s ← get
  if 0 < s.mFrameRepeatIntervalUs then
    setLatestBuffer_l (s.offsetByStartTime item)
    modifyControl fun c => { c with mLastFrameTimestampUs := itemTimeUs }
  else
    modifyControl fun c => { c with mLastFrameTimestampUs := itemTimeUs }

/-- {lit}`fillCodecBuffer_l` once it has its frame. -/
def processFrame (item : VideoBuffer) : Gbs Unit := do
  let itemTimeUs := Int.tdiv item.mTimestampNs 1000
  let seeStopAction ← performActions itemTimeUs
  if seeStopAction then
    releaseAllAvailableBuffers_l
    modifyControl fun c => { c with mEndOfStream := true }
    submitEndOfInputStream_l
  else
    let s ← get
    if s.mSuspended then
      return ()
    else
      let err ← skipDropOrSubmit item
      if err ≠ .ok then
        return ()
      else
        recordFrame item itemTimeUs

def fillCodecBuffer_l : Gbs Bool := do
  let s ← get
  check .fillExecutingWithFrame (s.mExecuting && s.haveAvailableBuffers_l)
  if s.mFreeCodecBuffers.isEmpty then
    return false
  else
    match ← takeFrame with
    | none => return false
    | some item =>
        processFrame item
        unhold item.mBuffer
        return true

def Control.areWeDiscardingAvailableBuffers_l (c : Control) : Bool :=
  c.mEndOfStreamSent || c.mComponent.isNone ||
    (c.mSuspended && c.mActionQueue.isEmpty) || !c.mExecuting

def onBufferAcquired_l (buffer : VideoBuffer) : Gbs Unit := do
  let s ← get
  if s.mEndOfStreamSent then
    return ()
  else if s.mComponent.isNone || (s.mSuspended && s.mActionQueue.isEmpty) then
    return ()
  else
    modifyControl fun c =>
      { c with mRepeatLastFrameGeneration := c.mRepeatLastFrameGeneration + 1 }
    modifyBuffers fun b => b.pushAvailable buffer
    if s.mExecuting then
      let _ ← fillCodecBuffer_l
      return ()
    else
      return ()

/-!
# Component interface
-/

def loadAvailable : Nat -> Gbs Unit
  | 0 => pure ()
  | n + 1 => do
      let s ← get
      if s.haveAvailableBuffers_l then
        let filled ← fillCodecBuffer_l
        if filled then
          loadAvailable n
        else
          return ()
      else
        return ()

/-- The end-of-stream part of {lit}`start`. -/
def sendPendingEos : Gbs Unit := do
  let s ← get
  if s.mStopTimeUs = -1 ∧ s.mEndOfStream ∧ !s.haveAvailableBuffers_l then
    submitEndOfInputStream_l
  else
    pure ()

def startLooper : Gbs Unit := do
  let s ← get
  if 0 < s.mFrameRepeatIntervalUs ∧ !s.mLooper then
    modifyControl fun c => { c with mReflector := true, mLooper := true }
    if s.mLatestBuffer.isSome then
      queueFrameRepeat_l
    else
      pure ()
  else
    pure ()

def start : Gbs Status := do
  let s ← get
  check .startNotExecuting (!s.mExecuting)
  modifyControl fun c =>
    { c with mExecuting := true, mLastDataspace := halDataspaceUnknown }
  loadAvailable
    (s.mAvailableBuffers.length + s.mNumAvailableUnacquiredBuffers.toNat)
  sendPendingEos
  startLooper
  return .ok

def stop : Gbs Status := do
  modifyControl fun c => { c with mExecuting := false }
  return .ok

def release : Gbs Status := do
  modifyControl fun c => { c with mLooper := false, mReflector := false }
  let s ← get
  modifyBuffers fun b => b.clearCodecBuffers.note .released
  unholdAll s.submitted
  assignLatest none
  modifyControl fun c => { c with mComponent := none, mExecuting := false }
  return .ok

def onInputBufferAdded (bufferId : CodecBufferId) : Gbs Status := do
  let s ← get
  if s.mExecuting then
    return .invalidOperation
  else
    modifyBuffers fun b => b.addCodecBuffer bufferId
    return .ok

/-- The end of {lit}`onInputBufferEmptied`: use the codec buffer again. -/
def reuseCodecBuffer : Gbs Unit := do
  let s ← get
  if s.haveAvailableBuffers_l then
    check .emptiedBeforeEosSent (!s.mEndOfStreamSent)
    let _ ← fillCodecBuffer_l
    return ()
  else if s.mEndOfStream ∧ s.mStopTimeUs = -1 then
    submitEndOfInputStream_l
  else if s.mFrameRepeatBlockedOnCodecBuffer then
    let _ ← repeatLatestBuffer_l
    modifyControl fun c => { c with mFrameRepeatBlockedOnCodecBuffer := false }
  else
    return ()

def onInputBufferEmptied (bufferId : CodecBufferId) (fenceFd : Int) :
    Gbs Status := do
  let s ← get
  match s.mSubmittedCodecBuffers.find? bufferId with
  | none =>
      modifyBuffers fun b =>
        (b.note (.emptied bufferId fenceFd none false)).autoclose fenceFd
      return .badValue
  | some none =>
      modifyBuffers fun b =>
        ((b.note (.emptied bufferId fenceFd (some none) false)).takeBack
          bufferId).autoclose fenceFd
      return .badValue
  | some (some buffer) =>
      if !s.mExecuting then
        modifyBuffers fun b =>
          (b.note (.emptied bufferId fenceFd (some (some buffer)) false)).takeBack
            bufferId
        unhold buffer
        modifyBuffers fun b => b.autoclose fenceFd
        return .ok
      else
        modifyBuffers fun b =>
          ((b.note (.emptied bufferId fenceFd (some (some buffer)) true)).takeBack
            bufferId).addReleaseFenceFd buffer fenceFd
        unhold buffer
        reuseCodecBuffer
        return .ok

/-!
# BufferQueue consumer interface
-/

def onFrameAvailable : Gbs Unit := do
  modifyBuffers Buffers.countAvailable
  let s ← get
  if !s.areWeDiscardingAvailableBuffers_l && s.mFreeCodecBuffers.isEmpty then
    modifyControl fun c =>
      { c with mRepeatLastFrameGeneration := c.mRepeatLastFrameGeneration + 1 }
  else
    match ← acquireBuffer_l .oneFrame with
    | .error _ => return ()
    | .ok buffer =>
        onBufferAcquired_l buffer
        unhold buffer.mBuffer

/-- The loop of {lit}`onBuffersReleased` over the slots of a mask. -/
def discardMasked : Nat -> SlotId -> BitVec 64 -> Gbs Unit
  | 0, _, _ => pure ()
  | n + 1, i, slotMask => do
      if slotMask.getLsbD 0 then
        let _ ← discardBufferInSlot_l i
        discardMasked n (i + 1) (slotMask >>> 1)
      else
        discardMasked n (i + 1) (slotMask >>> 1)

def onBuffersReleased : Gbs Unit := do
  let s ← get
  discardMasked numBufferSlots 0
    (s.answers.releasedBuffers.getD (BitVec.allOnes 64))

/-!
# Client interface
-/

def grallocUsageHwVideoEncoder : UInt64 := 0x00010000

def halPixelFormatImplementationDefined : Int := 0x22

/-- The fields that a successful {lit}`configure` sets. -/
def Control.reset (c : Control) (dataSpace : Int) : Control :=
  { c with
    mLastDataspace := dataSpace
    mExecuting := false
    mSuspended := false
    mEndOfStream := false
    mEndOfStreamSent := false
    mSkipFramesBeforeNs := -1
    mFrameDropper := none
    mFrameRepeatIntervalUs := -1
    mRepeatLastFrameGeneration := 0
    mOutstandingFrameRepeatCount := 0
    mFrameRepeatBlockedOnCodecBuffer := false
    clock := { c.clock with
      mFps := -1
      mCaptureFps := -1
      mBaseCaptureUs := -1
      mBaseFrameUs := -1
      mPrevCaptureUs := -1
      mPrevFrameUs := -1
      mFrameCount := 0
      mInputBufferTimeOffsetUs := 0 }
    mStopTimeUs := -1
    mActionQueue := [] }

structure ConfigureArgs where
  component : Option ComponentId
  dataSpace : Int
  bufferCount : Int
  frameWidth : Nat
  frameHeight : Nat
  consumerUsage : UInt64
  deriving DecidableEq, Repr

/-- The call of the BufferQueue, which calls {lit}`onBuffersReleased` back if the new
count releases buffers. -/
def setMaxAcquiredBufferCount (bufferCount : Int) : Gbs Unit := do
  note (.setMaxAcquiredBufferCount bufferCount)
  let s ← get
  if s.answers.countReleasesBuffers then
    onBuffersReleased
  else
    return ()

def configure (args : ConfigureArgs) : Gbs Status := do
  let s ← get
  match args.component with
  | none => return .badValue
  | some component =>
      setMaxAcquiredBufferCount args.bufferCount
      if s.answers.setMaxAcquiredBufferCount ≠ .ok then
        return s.answers.setMaxAcquiredBufferCount
      else
        modifyControl fun c => { c with mComponent := some component }
        note (.setDefaultBufferSize args.frameWidth args.frameHeight)
        if s.answers.setDefaultBufferSize ≠ .ok then
          return s.answers.setDefaultBufferSize
        else
          note (.setConsumerUsageBits
            (args.consumerUsage ||| grallocUsageHwVideoEncoder))
          note (.setDefaultBufferFormat halPixelFormatImplementationDefined)
          if s.answers.setDefaultBufferFormat ≠ .ok then
            return s.answers.setDefaultBufferFormat
          else
            note (.setDefaultBufferDataSpace args.dataSpace)
            modifyControl fun c => c.reset args.dataSpace
            note .configured
            assignLatest none
            return .ok

def resumeNow : Gbs Unit := do
  modifyControl fun c => { c with mSuspended := false }
  let s ← get
  if s.mExecuting ∧ !s.haveAvailableBuffers_l ∧
      s.mFrameRepeatBlockedOnCodecBuffer then
    let repeated ← repeatLatestBuffer_l
    if repeated then
      modifyControl fun c =>
        { c with mFrameRepeatBlockedOnCodecBuffer := false }
    else
      return ()
  else
    return ()

/-- The checks that {lit}`setSuspend` and {lit}`setStopTimeUs` share: the time
is not in the future and not before the last action. -/
def Control.acceptsActionTime (c : Control) (timeUs : Int) : Bool :=
  decide (timeUs <= Int.tdiv c.answers.systemTimeNs 1000) &&
    (decide (c.mLastActionTimeUs = -1) || decide (c.mLastActionTimeUs <= timeUs))

def setSuspend (suspend : Bool) (suspendStartTimeUs : Int) : Gbs Status := do
  let s ← get
  if s.mStopTimeUs ≠ -1 then
    return .invalidOperation
  else if suspendStartTimeUs ≠ -1 then
    if !s.acceptsActionTime suspendStartTimeUs then
      return .invalidOperation
    else
      modifyControl fun c =>
        { c with
          mLastActionTimeUs := suspendStartTimeUs
          mActionQueue := c.mActionQueue ++
            [{ mAction := if suspend then .pause else .resume
               mActionTimeUs := suspendStartTimeUs }] }
      return .ok
  else if suspend then
    modifyControl fun c => { c with mSuspended := true }
    releaseAllAvailableBuffers_l
    return .ok
  else
    resumeNow
    return .ok

def setRepeatPreviousFrameDelayUs (repeatAfterUs : Int) : Gbs Status := do
  let s ← get
  if s.mExecuting || decide (repeatAfterUs <= 0) then
    return .invalidOperation
  else
    modifyControl fun c => { c with mFrameRepeatIntervalUs := repeatAfterUs }
    return .ok

def setTimeOffsetUs (timeOffsetUs : Int) : Gbs Status := do
  if 0 <= timeOffsetUs then
    return .invalidOperation
  else
    modifyControl fun c =>
      { c with clock.mInputBufferTimeOffsetUs := timeOffsetUs }
    return .ok

def setMaxFps (maxFps : Binary32) : Gbs Status := do
  let s ← get
  if s.mExecuting then
    return .invalidOperation
  else
    let r := FrameDropper.new.setMaxFrameRate maxFps
    if r.1 ≠ .ok then
      modifyControl fun c => { c with mFrameDropper := none }
      return r.1
    else
      modifyControl fun c => { c with mFrameDropper := some r.2 }
      return .ok

def int64Max : Int := 2 ^ 63 - 1

def setStartTimeUs (skipFramesBeforeUs : Int) : Gbs Status := do
  modifyControl fun c =>
    { c with
      mSkipFramesBeforeNs :=
        if 0 < skipFramesBeforeUs ∧
            skipFramesBeforeUs <= Int.tdiv int64Max 1000 then
          skipFramesBeforeUs * 1000
        else
          -1 }
  return .ok

def setStopTimeUs (stopTimeUs : Int) : Gbs Status := do
  let s ← get
  if s.mStopTimeUs ≠ -1 then
    return .ok
  else if !s.acceptsActionTime stopTimeUs then
    return .invalidOperation
  else
    modifyControl fun c =>
      { c with
        mLastActionTimeUs := stopTimeUs
        mActionQueue := c.mActionQueue ++
          [{ mAction := .stop, mActionTimeUs := stopTimeUs }]
        mStopTimeUs := stopTimeUs }
    return .ok

/-- The status, and the offset when the status is {lit}`OK`. -/
def getStopTimeOffsetUs : Gbs (Status × Option Int) := do
  let s ← get
  if s.mStopTimeUs = -1 then
    return (.invalidOperation, none)
  else
    return (.ok, some (if s.mLastFrameTimestampUs = -1 then 0
      else s.mStopTimeUs - s.mLastFrameTimestampUs))

def setTimeLapseConfig (fps captureFps : Rat) : Gbs Status := do
  let s ← get
  if s.mExecuting || !decide (0 < fps) || !decide (0 < captureFps) then
    return .invalidOperation
  else
    modifyControl fun c =>
      { c with
        clock.mFps := fps
        clock.mCaptureFps := captureFps
        clock.mSnapTimestamps :=
          decide (fps < captureFps) &&
            decide (s.answers.snapTimestampsProperty = 1) }
    return .ok

def setColorAspects (aspectsPacked : Int) : Gbs Status := do
  modifyControl fun c => { c with mDefaultColorAspectsPacked := aspectsPacked }
  return .ok

def signalEndOfInputStream : Gbs Status := do
  let s ← get
  if s.mEndOfStream then
    return .invalidOperation
  else
    modifyControl fun c => { c with mEndOfStream := true }
    if s.mStopTimeUs = -1 ∧ s.mExecuting ∧ !s.haveAvailableBuffers_l then
      submitEndOfInputStream_l
      return .ok
    else
      return .ok

def onMessageReceived (generation : Int) : Gbs Unit := do
  let s ← get
  if generation ≠ s.mRepeatLastFrameGeneration then
    return ()
  else if !s.mExecuting || s.haveAvailableBuffers_l then
    return ()
  else
    let success ← repeatLatestBuffer_l
    if success then
      return ()
    else
      modifyControl fun c =>
        { c with mFrameRepeatBlockedOnCodecBuffer := true }

/-- The part of {lit}`~GraphicBufferSource` before its leak check. -/
def dropAllReferences : Gbs Unit := do
  let s ← get
  modifyBuffers Buffers.clearAvailable
  unholdAll (s.mAvailableBuffers.map VideoBuffer.mBuffer)
  let s ← get
  modifyBuffers fun b => b.clearCodecBuffers
  unholdAll s.submitted
  assignLatest none

end Bqhelper
end Sm7225
