import Sm7225.Lib.Leads
import Sm7225.Bqhelper.Order

/-!
# Walks through the functions

Submitting a frame, repeating it and ending the stream takes a few kinds of steps: calls
are logged, references move, and control fields change that have nothing to do with
the actions.  Acquiring frames and discarding slots takes others.  A relation that
allows these steps allows the functions.
-/

namespace Sm7225
namespace Bqhelper

open Lib

/-!
# The steps

The function of {lit}`Walk` on the control fields may be any that leaves the fields of
{lit}`Actions` alone.
-/

structure Actions where
  mActionQueue : List ActionItem
  mSuspended : Bool
  mLastActionTimeUs : Int
  mStopTimeUs : Int

def Control.actions (c : Control) : Actions where
  mActionQueue := c.mActionQueue
  mSuspended := c.mSuspended
  mLastActionTimeUs := c.mLastActionTimeUs
  mStopTimeUs := c.mStopTimeUs

/-- A relation that allows the steps of submitting. -/
structure Walk (R : GraphicBufferSource -> GraphicBufferSource -> Prop) : Prop where
  control : forall {f : Control -> Control}, (forall c, (f c).actions = c.actions) ->
    Leads R (modifyControl f)
  note : forall {e : Event}, e.acquisition? = none -> Leads R (note e)
  unholdAll : forall as, Leads R (unholdAll as)
  submit : forall id entry, Leads R (modifyBuffers fun b => b.submit id entry)
  setLatest : forall item, Leads R (modifyBuffers fun b => b.setLatest item)
  retimeLatest : forall timeNs, Leads R (modifyBuffers fun b => b.retimeLatest timeNs)

/-- A relation that allows the steps of acquiring frames and of discarding slots. -/
structure Intake (R : GraphicBufferSource -> GraphicBufferSource -> Prop) : Prop where
  answers : forall site, Leads R (modifyControl fun c =>
    { c with answers := c.answers.popAcquire site })
  acquireFailed : forall err frameWaiting, Leads R (note (.acquireFailed err frameWaiting))
  dequeue : Leads R (modifyBuffers Buffers.dequeue)
  dropFromCache : forall buffer, Leads R (discardBufferAtSlotIndex_l buffer)
  removeSlot : forall slot, Leads R (modifyBuffers fun b => b.removeSlot slot)
  cache : forall slot gb, Leads R (modifyBuffers fun b => b.cache slot gb)
  acquire : forall buffer bi, Leads R (modifyBuffers fun b => b.acquire buffer bi)
  clearAvailable : Leads R (modifyBuffers Buffers.clearAvailable)
  unhold : forall a, Leads R (unhold a)
  unholdAll : forall as, Leads R (unholdAll as)

section Functions

variable {R : GraphicBufferSource -> GraphicBufferSource -> Prop}

theorem leads_check [Std.Refl R] (c : Check) (holds : Bool) : Leads R (check c holds) :=
  leads_ite (fun _ => leads_pure) (fun _ => leads_throw)

theorem leads_setMaxAcquiredBufferCount [Std.Refl R] [IsTrans GraphicBufferSource R]
    {bufferCount : Int} (hnote : Leads R (note (.setMaxAcquiredBufferCount bufferCount)))
    (hreleased : Leads R onBuffersReleased) :
    Leads R (setMaxAcquiredBufferCount bufferCount) := by
  apply hnote.bind
  intro _
  apply leads_get
  intro s
  exact leads_ite (fun _ => hreleased) fun _ => leads_pure

theorem leads_performActions [Std.Refl R] [IsTrans GraphicBufferSource R]
    (hqueue : forall queue, Leads R (modifyControl fun c => { c with mActionQueue := queue }))
    (hsuspended : forall suspended,
      Leads R (modifyControl fun c => { c with mSuspended := suspended }))
    (itemTimeUs : Int) : Leads R (performActions itemTimeUs) := by
  apply leads_get
  intro s
  cases s.mActionQueue with
  | nil => exact leads_pure
  | cons first rest =>
      apply leads_ite (fun _ => leads_pure)
      intro _
      apply (hqueue _).bind
      intro _
      apply (leads_check _ _).bind
      intro _
      cases (newestDueAction itemTimeUs first (first :: rest)).1.mAction with
      | pause => exact (hsuspended true).bind fun _ => leads_pure
      | resume => exact (hsuspended false).bind fun _ => leads_pure
      | stop => exact (hqueue []).bind fun _ => leads_pure

theorem leads_updateDataspace [Std.Refl R] [IsTrans GraphicBufferSource R]
    (hlast : forall dataspace,
      Leads R (modifyControl fun c => { c with mLastDataspace := dataspace }))
    (hdispatch : forall dataspace aspects pixelFormat,
      Leads R (note (.dispatchDataSpaceChanged dataspace aspects pixelFormat)))
    (item : VideoBuffer) : Leads R (updateDataspace item) := by
  apply leads_get
  intro s
  apply leads_ite
  · intro _
    apply (hlast _).bind
    intro _
    apply leads_get
    intro t
    apply leads_ite
    · intro _
      exact leads_ite (fun _ => leads_throw) (fun _ => hdispatch _ _ _)
    · intro _
      exact leads_pure
  · intro _
    exact leads_pure

theorem leads_componentSubmitBuffer [Std.Refl R] [IsTrans GraphicBufferSource R]
    (hanswers : Leads R (modifyControl fun c =>
      { c with answers.submitBuffer := c.answers.submitBuffer.tail }))
    (hnote : forall id item origin codecTimeUs acquireFence err,
      Leads R (note (.submitBuffer id item origin codecTimeUs acquireFence err)))
    (id : CodecBufferId) (item : VideoBuffer) (origin : Origin) (codecTimeUs : Int) :
    Leads R (componentSubmitBuffer id item origin codecTimeUs) := by
  apply leads_get
  intro s
  apply leads_ite
  · intro _
    exact leads_throw
  · intro _
    apply hanswers.bind
    intro _
    exact (hnote _ _ _ _ _ _).bind fun _ => leads_pure

theorem leads_submitEndOfInputStream_l [Std.Refl R] [IsTrans GraphicBufferSource R]
    (hanswers : Leads R (modifyControl fun c =>
      { c with answers.submitEos := c.answers.submitEos.tail }))
    (hnote : forall id err, Leads R (note (.submitEos id err)))
    (hmove : forall id, Leads R (moveToSubmitted id none))
    (hsent : Leads R (modifyControl fun c =>
      { c with
        mEndOfStreamSent := true
        mRepeatLastFrameGeneration := c.mRepeatLastFrameGeneration + 1 }))
    (hlatest : Leads R (assignLatest none)) : Leads R submitEndOfInputStream_l := by
  apply leads_get
  intro s
  apply (leads_check _ _).bind
  intro _
  apply leads_ite
  · intro _
    exact leads_pure
  · intro _
    cases s.mFreeCodecBuffers with
    | nil => exact leads_pure
    | cons codecBufferId rest =>
        apply Leads.bind
        · apply leads_get
          intro t
          apply leads_ite
          · intro _
            exact leads_throw
          · intro _
            apply hanswers.bind
            intro _
            exact (hnote _ _).bind fun _ => leads_pure
        · intro err
          apply leads_ite
          · intro _
            exact leads_pure
          · intro _
            apply (hmove codecBufferId).bind
            intro _
            exact hsent.bind fun _ => hlatest

theorem leads_repeatLatestBuffer_l [Std.Refl R] [IsTrans GraphicBufferSource R]
    (hsubmit : forall latest, Leads R (submitBuffer_l latest .repeated))
    (hcount : Leads R countRepeat) : Leads R repeatLatestBuffer_l := by
  apply leads_get
  intro s
  apply (leads_check _ _).bind
  intro _
  cases s.mLatestBuffer with
  | none => exact leads_pure
  | some latest =>
      apply leads_ite (fun _ => leads_pure)
      intro _
      apply leads_ite (fun _ => leads_pure)
      intro _
      apply (hsubmit latest).bind
      intro err
      apply leads_ite (fun _ => leads_pure)
      intro _
      exact hcount.bind fun _ => leads_pure

theorem leads_onBufferAcquired_l [Std.Refl R] [IsTrans GraphicBufferSource R]
    {buffer : VideoBuffer}
    (hgeneration : Leads R (modifyControl fun c =>
      { c with mRepeatLastFrameGeneration := c.mRepeatLastFrameGeneration + 1 }))
    (hpush : Leads R (modifyBuffers fun b => b.pushAvailable buffer))
    (hfill : Leads R fillCodecBuffer_l) : Leads R (onBufferAcquired_l buffer) := by
  apply leads_get
  intro s
  apply leads_ite (fun _ => leads_pure)
  intro _
  apply leads_ite (fun _ => leads_pure)
  intro _
  apply hgeneration.bind
  intro _
  apply hpush.bind
  intro _
  exact leads_ite (fun _ => hfill.bind fun _ => leads_pure) (fun _ => leads_pure)

theorem leads_loadAvailable [Std.Refl R] [IsTrans GraphicBufferSource R]
    (h : Leads R fillCodecBuffer_l) (n : Nat) : Leads R (loadAvailable n) := by
  induction n with
  | zero => exact leads_pure
  | succ n ih =>
      apply leads_get
      intro s
      apply leads_ite
      · intro _
        apply h.bind
        intro filled
        exact leads_ite (fun _ => ih) (fun _ => leads_pure)
      · intro _
        exact leads_pure

theorem leads_countRepeat [Std.Refl R] [IsTrans GraphicBufferSource R]
    (hcount : Leads R (modifyControl fun c =>
      { c with mOutstandingFrameRepeatCount := c.mOutstandingFrameRepeatCount - 1 }))
    (hretime : forall timeNs, Leads R (modifyBuffers fun b => b.retimeLatest timeNs))
    (hqueue : Leads R queueFrameRepeat_l) : Leads R countRepeat := by
  apply hcount.bind
  intro _
  apply leads_get
  intro s
  apply leads_ite
  · intro _
    exact (hretime _).bind fun _ => hqueue
  · intro _
    exact leads_pure

theorem leads_drainUnacquired [Std.Refl R] [IsTrans GraphicBufferSource R]
    (hacquire : Leads R (acquireBuffer_l .drain)) (hunhold : forall a, Leads R (unhold a))
    (n : Nat) : Leads R (drainUnacquired n) := by
  induction n with
  | zero => exact leads_pure
  | succ n ih =>
      apply leads_get
      intro s
      apply leads_ite
      · intro _
        apply hacquire.bind
        intro r
        cases r with
        | error err => exact leads_pure
        | ok item => exact (hunhold item.mBuffer).bind fun _ => ih
      · intro _
        exact leads_pure

theorem leads_discardMasked [Std.Refl R] [IsTrans GraphicBufferSource R]
    (hdrop : forall buffer, Leads R (discardBufferAtSlotIndex_l buffer))
    (hremove : forall slot, Leads R (modifyBuffers fun b => b.removeSlot slot))
    (n : Nat) (i : SlotId) (slotMask : BitVec 64) :
    Leads R (discardMasked n i slotMask) := by
  induction n generalizing i slotMask with
  | zero => exact leads_pure
  | succ n ih =>
      apply leads_ite
      · intro _
        apply Leads.bind
        · apply leads_get
          intro s
          cases s.mBufferSlots.find? i with
          | none => exact leads_pure
          | some buffer =>
              apply (hdrop buffer).bind
              intro _
              exact (hremove _).bind fun _ => leads_pure
        · intro _
          exact ih _ _
      · intro _
        exact ih _ _

/-!
# Requests
-/

theorem leads_startLooper [Std.Refl R] [IsTrans GraphicBufferSource R]
    (hlooper : Leads R (modifyControl fun c => { c with mReflector := true, mLooper := true }))
    (hqueue : Leads R queueFrameRepeat_l) : Leads R startLooper := by
  apply leads_get
  intro s
  apply leads_ite
  · intro _
    apply hlooper.bind
    intro _
    exact leads_ite (fun _ => hqueue) (fun _ => leads_pure)
  · intro _
    exact leads_pure

theorem leads_start [Std.Refl R] [IsTrans GraphicBufferSource R]
    (hexecuting : Leads R (modifyControl fun c =>
      { c with mExecuting := true, mLastDataspace := halDataspaceUnknown }))
    (hfill : Leads R fillCodecBuffer_l) (heos : Leads R submitEndOfInputStream_l)
    (hlooper : Leads R startLooper) : Leads R start := by
  apply leads_get
  intro s
  apply (leads_check _ _).bind
  intro _
  apply hexecuting.bind
  intro _
  apply (leads_loadAvailable hfill _).bind
  intro _
  apply Leads.bind
  · apply leads_get
    intro t
    exact leads_ite (fun _ => heos) (fun _ => leads_pure)
  · intro _
    exact hlooper.bind fun _ => leads_pure

theorem leads_reuseCodecBuffer [Std.Refl R] [IsTrans GraphicBufferSource R]
    (hfill : Leads R fillCodecBuffer_l) (heos : Leads R submitEndOfInputStream_l)
    (hrepeat : Leads R repeatLatestBuffer_l)
    (hunblock : Leads R (modifyControl fun c =>
      { c with mFrameRepeatBlockedOnCodecBuffer := false })) : Leads R reuseCodecBuffer := by
  apply leads_get
  intro s
  apply leads_ite
  · intro _
    apply (leads_check _ _).bind
    intro _
    exact hfill.bind fun _ => leads_pure
  · intro _
    apply leads_ite
    · intro _
      exact heos
    · intro _
      apply leads_ite
      · intro _
        exact hrepeat.bind fun _ => hunblock
      · intro _
        exact leads_pure

theorem leads_resumeNow [Std.Refl R] [IsTrans GraphicBufferSource R]
    (hresume : Leads R (modifyControl fun c => { c with mSuspended := false }))
    (hrepeat : Leads R repeatLatestBuffer_l)
    (hunblock : Leads R (modifyControl fun c =>
      { c with mFrameRepeatBlockedOnCodecBuffer := false })) : Leads R resumeNow := by
  apply hresume.bind
  intro _
  apply leads_get
  intro s
  apply leads_ite
  · intro _
    apply hrepeat.bind
    intro repeated
    exact leads_ite (fun _ => hunblock) (fun _ => leads_pure)
  · intro _
    exact leads_pure

theorem leads_setSuspend [Std.Refl R] [IsTrans GraphicBufferSource R]
    (hqueue : forall timeUs action, Leads R (modifyControl fun c =>
      { c with
        mLastActionTimeUs := timeUs
        mActionQueue := c.mActionQueue ++ [action] }))
    (hsuspend : Leads R (modifyControl fun c => { c with mSuspended := true }))
    (hrelease : Leads R releaseAllAvailableBuffers_l) (hresume : Leads R resumeNow)
    (suspend : Bool) (suspendStartTimeUs : Int) :
    Leads R (setSuspend suspend suspendStartTimeUs) := by
  apply leads_get
  intro s
  apply leads_ite (fun _ => leads_pure)
  intro _
  apply leads_ite
  · intro _
    apply leads_ite (fun _ => leads_pure)
    intro _
    exact (hqueue _ _).bind fun _ => leads_pure
  · intro _
    apply leads_ite
    · intro _
      apply hsuspend.bind
      intro _
      exact hrelease.bind fun _ => leads_pure
    · intro _
      exact hresume.bind fun _ => leads_pure

theorem leads_signalEndOfInputStream [Std.Refl R] [IsTrans GraphicBufferSource R]
    (hend : Leads R (modifyControl fun c => { c with mEndOfStream := true }))
    (heos : Leads R submitEndOfInputStream_l) : Leads R signalEndOfInputStream := by
  apply leads_get
  intro s
  apply leads_ite (fun _ => leads_pure)
  intro _
  apply hend.bind
  intro _
  apply leads_ite
  · intro _
    exact heos.bind fun _ => leads_pure
  · intro _
    exact leads_pure

theorem leads_onMessageReceived [Std.Refl R] [IsTrans GraphicBufferSource R]
    (hrepeat : Leads R repeatLatestBuffer_l)
    (hblock : Leads R (modifyControl fun c =>
      { c with mFrameRepeatBlockedOnCodecBuffer := true })) (generation : Int) :
    Leads R (onMessageReceived generation) := by
  apply leads_get
  intro s
  apply leads_ite (fun _ => leads_pure)
  intro _
  apply leads_ite (fun _ => leads_pure)
  intro _
  apply hrepeat.bind
  intro success
  exact leads_ite (fun _ => leads_pure) (fun _ => hblock)

/-!
# Acquiring frames and discarding slots
-/

namespace Intake

variable [Std.Refl R] [IsTrans GraphicBufferSource R]

theorem consumerAcquireBuffer (h : Intake R) (site : AcquireSite) :
    Leads R (consumerAcquireBuffer site) := by
  apply leads_get
  intro s
  apply (h.answers site).bind
  intro _
  apply leads_ite
  · intro _
    exact (h.acquireFailed _ _).bind fun _ => leads_pure
  · intro _
    cases s.queue with
    | nil => exact (h.acquireFailed _ _).bind fun _ => leads_pure
    | cons bi rest => exact leads_pure

theorem cacheBuffer (h : Intake R) (bi : BufferItem) : Leads R (cacheBuffer bi) := by
  apply leads_get
  intro s
  cases bi.mGraphicBuffer with
  | none =>
      cases s.mBufferSlots.find? bi.mSlot with
      | none => exact leads_throw
      | some buffer => exact leads_pure
  | some gb =>
      cases s.mBufferSlots.find? bi.mSlot with
      | none => exact (h.cache _ _).bind fun _ => leads_pure
      | some old =>
          apply (h.dropFromCache old).bind
          intro _
          exact (h.cache _ _).bind fun _ => leads_pure

theorem acquireBuffer_l (h : Intake R) (site : AcquireSite) :
    Leads R (acquireBuffer_l site) := by
  apply (h.consumerAcquireBuffer site).bind
  intro r
  cases r with
  | error err => exact leads_pure
  | ok bi =>
      apply Leads.bind
      · apply h.dequeue.bind
        intro _
        apply (h.cacheBuffer bi).bind
        intro buffer
        apply leads_get
        intro s
        exact (h.acquire buffer bi).bind fun _ => leads_pure
      · intro _
        exact leads_pure

theorem drainUnacquired (h : Intake R) (n : Nat) : Leads R (drainUnacquired n) :=
  leads_drainUnacquired (h.acquireBuffer_l .drain) h.unhold n

theorem releaseAllAvailableBuffers_l (h : Intake R) :
    Leads R releaseAllAvailableBuffers_l := by
  apply leads_get
  intro s
  apply h.clearAvailable.bind
  intro _
  exact (h.unholdAll _).bind fun _ => h.drainUnacquired _

theorem discardMasked (h : Intake R) (n : Nat) (i : SlotId) (slotMask : BitVec 64) :
    Leads R (discardMasked n i slotMask) :=
  leads_discardMasked h.dropFromCache h.removeSlot n i slotMask

theorem onBuffersReleased (h : Intake R) : Leads R onBuffersReleased := by
  apply leads_get
  intro s
  exact h.discardMasked _ _ _

end Intake

/-!
# Submitting
-/

namespace Walk

variable [IsTrans GraphicBufferSource R]

theorem moveToSubmitted (h : Walk R) (id : CodecBufferId) (entry : Option AcquiredBuffer) :
    Leads R (moveToSubmitted id entry) := by
  apply leads_get
  intro s
  exact (h.submit id entry).bind fun _ => h.unholdAll _

theorem assignLatest (h : Walk R) (item : Option VideoBuffer) :
    Leads R (assignLatest item) := by
  apply leads_get
  intro s
  exact (h.setLatest item).bind fun _ => h.unholdAll _

variable [Std.Refl R]

theorem updateDataspace (h : Walk R) (item : VideoBuffer) :
    Leads R (updateDataspace item) :=
  leads_updateDataspace (fun _ => h.control fun _ => rfl) (fun _ _ _ => h.note rfl) item

theorem componentSubmitBuffer (h : Walk R) (id : CodecBufferId) (item : VideoBuffer)
    (origin : Origin) (codecTimeUs : Int) :
    Leads R (componentSubmitBuffer id item origin codecTimeUs) :=
  leads_componentSubmitBuffer (h.control fun _ => rfl) (fun _ _ _ _ _ _ => h.note rfl)
    id item origin codecTimeUs

theorem submitBuffer_l (h : Walk R) (item : VideoBuffer) (origin : Origin) :
    Leads R (submitBuffer_l item origin) := by
  apply leads_get
  intro s
  cases s.mFreeCodecBuffers with
  | nil => exact leads_throw
  | cons codecBufferId rest =>
      cases s.clock.calculateCodecTimestamp_l s.mFrameDropper item.mTimestampNs with
      | none => exact leads_pure
      | some r =>
          refine .bind (h.control fun _ => rfl) fun _ => ?_
          apply (h.updateDataspace item).bind
          intro _
          apply (h.componentSubmitBuffer codecBufferId item origin _).bind
          intro err
          apply leads_ite
          · intro _
            exact leads_pure
          · intro _
            exact (h.moveToSubmitted codecBufferId _).bind fun _ => leads_pure

theorem submitEndOfInputStream_l (h : Walk R) : Leads R submitEndOfInputStream_l :=
  leads_submitEndOfInputStream_l (h.control fun _ => rfl) (fun _ _ => h.note rfl)
    (fun _ => h.moveToSubmitted _ none) (h.control fun _ => rfl) (h.assignLatest none)

theorem skipDropOrSubmit (h : Walk R) (item : VideoBuffer) :
    Leads R (skipDropOrSubmit item) := by
  apply leads_get
  intro s
  apply leads_ite
  · intro _
    apply Leads.bind
    · apply leads_get
      intro t
      cases t.mFrameDropper with
      | none => exact leads_pure
      | some dropper => exact .bind (h.control fun _ => rfl) fun _ => leads_pure
    · intro drops
      apply leads_ite
      · intro _
        exact (h.note rfl).bind fun _ => leads_pure
      · intro _
        exact h.submitBuffer_l _ .fresh
  · intro _
    exact leads_pure

theorem queueFrameRepeat_l (h : Walk R) : Leads R queueFrameRepeat_l := by
  refine .bind (h.control fun _ => rfl) fun _ => ?_
  apply leads_get
  intro s
  apply leads_ite
  · intro _
    exact .bind (h.control fun _ => rfl) fun _ => h.note rfl
  · intro _
    exact leads_pure

theorem setLatestBuffer_l (h : Walk R) (item : VideoBuffer) :
    Leads R (setLatestBuffer_l item) := by
  apply (h.assignLatest _).bind
  intro _
  refine .bind (h.control fun _ => rfl) fun _ => ?_
  apply leads_get
  intro s
  exact (h.retimeLatest _).bind fun _ => h.queueFrameRepeat_l

theorem countRepeat (h : Walk R) : Leads R countRepeat :=
  leads_countRepeat (h.control fun _ => rfl) h.retimeLatest h.queueFrameRepeat_l

theorem repeatLatestBuffer_l (h : Walk R) : Leads R repeatLatestBuffer_l :=
  leads_repeatLatestBuffer_l (fun latest => h.submitBuffer_l latest .repeated) h.countRepeat

theorem recordFrame (h : Walk R) (item : VideoBuffer) (itemTimeUs : Int) :
    Leads R (recordFrame item itemTimeUs) := by
  apply leads_get
  intro s
  apply leads_ite
  · intro _
    exact (h.setLatestBuffer_l _).bind fun _ => h.control fun _ => rfl
  · intro _
    exact h.control fun _ => rfl

end Walk

end Functions

end Bqhelper
end Sm7225
