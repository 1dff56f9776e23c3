import Sm7225.Bqhelper.Requests
import Sm7225.Bqhelper.TwinSteps

/-!
# Requests of twins

The public functions, one by one, and the requests.  Twins give the same answer
to a request, and stay twins.
-/

namespace Sm7225
namespace Bqhelper

open Lib

section Functions

variable {messages : Bool} {old old' : List Event}

/-!
# Component interface
-/

theorem alike_loadAvailable (n : Nat) :
    Alike (Twins messages old old') (fun _ _ => True) (loadAvailable n)
      (loadAvailable n) := by
  induction n with
  | zero => exact alike_pure trivial
  | succ n ih =>
      unfold loadAvailable
      apply alike_get
      intro s s' hs
      rw [hs.haveAvailable]
      apply alike_ite Iff.rfl
      · apply alike_fillCodecBuffer_l.bind
        intro filled filled' hfilled
        rw [hfilled]
        apply alike_ite Iff.rfl
        · exact ih
        · exact alike_pure trivial
      · exact alike_pure trivial

theorem alike_sendPendingEos :
    Alike (Twins messages old old') (fun _ _ => True) sendPendingEos
      sendPendingEos := by
  unfold sendPendingEos
  apply alike_get
  intro s s' hs
  rw [hs.stopTime, hs.eos, hs.haveAvailable]
  apply alike_ite Iff.rfl
  · exact alike_submitEndOfInputStream_l
  · exact alike_pure trivial

theorem alike_start :
    Alike (Twins messages old old') (fun r r' => r = r') start start := by
  unfold start
  apply alike_get
  intro s s' hs
  have hidle : (!s.mExecuting) = !s'.mExecuting := by
    rw [hs.executing]
  apply (alike_check hidle).seq
  rw [hs.length, hs.unacquired]
  refine alike_set_seq (fun c => ?_) (fun c => ?_) ?_
  · rfl
  · rfl
  apply (alike_loadAvailable _).seq
  apply alike_sendPendingEos.seq
  apply alike_startLooper.seq
  exact alike_pure rfl

theorem alike_stop :
    Alike (Twins messages old old') (fun r r' => r = r') stop stop := by
  unfold stop
  refine alike_set_pure _ (fun c => ?_) (fun c => ?_)
  · rfl
  · rfl

theorem alike_release :
    Alike (Twins messages old old') (fun r r' => r = r') release release := by
  unfold release
  refine alike_set_seq (fun c => ?_) (fun c => ?_) ?_
  · unfold Control.session
    rw [Bool.and_false]
  · rfl
  apply alike_get
  intro s s' hs
  apply Alike.seq (Q := fun _ _ => True)
  · apply alike_modifyBuffers
    · intro b b' hb
      rw [Buffers.view_note, Buffers.view_note, Buffers.view_clearCodecBuffers,
        Buffers.view_clearCodecBuffers, hb]
    · intro b
      exact filterMap_snoc_of_none (f := Event.handover?) rfl _
    · intro b
      exact filterMap_snoc_of_none (f := Event.handover?) rfl _
  apply Alike.seq (Q := fun _ _ => True)
  · exact alike_unholdAll _ _
  apply Alike.seq (Q := fun _ _ => True)
  · exact alike_assignLatest rfl
  refine alike_set_pure _ (fun c => ?_) (fun c => ?_)
  · rfl
  · rfl

theorem alike_onInputBufferAdded (bufferId : CodecBufferId) :
    Alike (Twins messages old old') (fun r r' => r = r')
      (onInputBufferAdded bufferId) (onInputBufferAdded bufferId) := by
  unfold onInputBufferAdded
  apply alike_get
  intro s s' hs
  rw [hs.executing]
  apply alike_ite Iff.rfl
  · exact alike_pure rfl
  apply Alike.seq (Q := fun _ _ => True)
  · apply alike_modifyBuffers
    · intro b b' hb
      rw [Buffers.view_addCodecBuffer, Buffers.view_addCodecBuffer, hb]
    · intro b
      exact filterMap_snoc_of_none (f := Event.handover?) rfl _
    · intro b
      exact filterMap_snoc_of_none (f := Event.handover?) rfl _
  exact alike_pure rfl

theorem alike_reuseCodecBuffer :
    Alike (Twins messages old old') (fun _ _ => True) reuseCodecBuffer
      reuseCodecBuffer := by
  unfold reuseCodecBuffer
  apply alike_get
  intro s s' hs
  have hunsent : (!s.mEndOfStreamSent) = !s'.mEndOfStreamSent := by
    rw [hs.sent]
  rw [hs.haveAvailable, hs.eos, hs.stopTime, hs.blocked]
  apply alike_ite Iff.rfl
  · apply (alike_check hunsent).seq
    apply alike_fillCodecBuffer_l.bind
    intro _ _ _
    exact alike_pure trivial
  apply alike_ite Iff.rfl
  · exact alike_submitEndOfInputStream_l
  apply alike_ite Iff.rfl
  · apply alike_repeatLatestBuffer_l.bind
    intro _ _ _
    exact alike_unblock rfl
  · exact alike_pure trivial

theorem handovers_autoclose (b : Buffers) (fd : Int) :
    handovers (b.autoclose fd).log = handovers b.log := by
  unfold Buffers.autoclose
  split
  · exact filterMap_snoc_of_none (f := Event.handover?) rfl _
  · rfl

theorem alike_autoclose (fd : Int) :
    Alike (Twins messages old old') (fun _ _ => True)
      (modifyBuffers fun b => b.autoclose fd)
      (modifyBuffers fun b => b.autoclose fd) := by
  apply alike_modifyBuffers
  · intro b b' hb
    rw [Buffers.view_autoclose, Buffers.view_autoclose, hb]
  · intro b
    exact handovers_autoclose b fd
  · intro b
    exact handovers_autoclose b fd

theorem alike_takeBack (bufferId : CodecBufferId) (fenceFd : Int)
    (held held' : Option (Option AcquiredBuffer)) (kept : Bool) :
    Alike (Twins messages old old') (fun _ _ => True)
      (modifyBuffers fun b =>
        (b.note (.emptied bufferId fenceFd held kept)).takeBack bufferId)
      (modifyBuffers fun b =>
        (b.note (.emptied bufferId fenceFd held' kept)).takeBack bufferId) := by
  apply alike_modifyBuffers
  · intro b b' hb
    rw [Buffers.view_takeBack, Buffers.view_takeBack, Buffers.view_note,
      Buffers.view_note, hb]
  · intro b
    exact filterMap_snoc_of_none (f := Event.handover?) rfl _
  · intro b
    exact filterMap_snoc_of_none (f := Event.handover?) rfl _

theorem alike_onInputBufferEmptied (bufferId : CodecBufferId) (fenceFd : Int) :
    Alike (Twins messages old old') (fun r r' => r = r')
      (onInputBufferEmptied bufferId fenceFd)
      (onInputBufferEmptied bufferId fenceFd) := by
  unfold onInputBufferEmptied
  apply alike_get
  intro s s' hs
  have hsubmitted := hs.submitted bufferId
  rw [hs.executing]
  cases hentry : s.mSubmittedCodecBuffers.find? bufferId with
  | none =>
      cases hentry' : s'.mSubmittedCodecBuffers.find? bufferId with
      | none =>
          apply Alike.seq (Q := fun _ _ => True)
          · apply alike_modifyBuffers
            · intro b b' hb
              rw [Buffers.view_autoclose, Buffers.view_autoclose,
                Buffers.view_note, Buffers.view_note, hb]
            · intro b
              rw [handovers_autoclose]
              exact filterMap_snoc_of_none (f := Event.handover?) rfl _
            · intro b
              rw [handovers_autoclose]
              exact filterMap_snoc_of_none (f := Event.handover?) rfl _
          exact alike_pure rfl
      | some held' =>
          rw [hentry, hentry'] at hsubmitted
          cases hsubmitted
  | some held =>
      cases hentry' : s'.mSubmittedCodecBuffers.find? bufferId with
      | none =>
          rw [hentry, hentry'] at hsubmitted
          cases hsubmitted
      | some held' =>
          rw [hentry, hentry'] at hsubmitted
          have hheld : held.isSome = held'.isSome := Option.some.inj hsubmitted
          cases held with
          | none =>
              cases held' with
              | none =>
                  apply Alike.seq (Q := fun _ _ => True)
                  · apply alike_modifyBuffers
                    · intro b b' hb
                      rw [Buffers.view_autoclose, Buffers.view_autoclose,
                        Buffers.view_takeBack, Buffers.view_takeBack,
                        Buffers.view_note, Buffers.view_note, hb]
                    · intro b
                      rw [handovers_autoclose]
                      exact filterMap_snoc_of_none (f := Event.handover?) rfl _
                    · intro b
                      rw [handovers_autoclose]
                      exact filterMap_snoc_of_none (f := Event.handover?) rfl _
                  exact alike_pure rfl
              | some buffer' => cases hheld
          | some buffer =>
              cases held' with
              | none => cases hheld
              | some buffer' =>
                  apply alike_ite Iff.rfl
                  · apply (alike_takeBack bufferId fenceFd _ _ false).seq
                    apply Alike.seq (Q := fun _ _ => True)
                    · exact alike_unhold _ _
                    apply (alike_autoclose fenceFd).seq
                    exact alike_pure rfl
                  · apply Alike.seq (Q := fun _ _ => True)
                    · apply alike_modifyBuffers
                      · intro b b' hb
                        rw [Buffers.view_addReleaseFenceFd,
                          Buffers.view_addReleaseFenceFd, Buffers.view_takeBack,
                          Buffers.view_takeBack, Buffers.view_note,
                          Buffers.view_note, hb]
                      · intro b
                        exact filterMap_snoc_of_none (f := Event.handover?) rfl _
                      · intro b
                        exact filterMap_snoc_of_none (f := Event.handover?) rfl _
                    apply Alike.seq (Q := fun _ _ => True)
                    · exact alike_unhold _ _
                    apply alike_reuseCodecBuffer.seq
                    exact alike_pure rfl

/-!
# Consumer interface
-/

theorem alike_onFrameAvailable :
    Alike (Twins messages old old') (fun _ _ => True) onFrameAvailable
      onFrameAvailable := by
  unfold onFrameAvailable
  apply Alike.seq (Q := fun _ _ => True)
  · apply alike_modifyBuffers
    · intro b b' hb
      rw [Buffers.view_countAvailable, Buffers.view_countAvailable, hb]
    · intro b
      exact filterMap_snoc_of_none (f := Event.handover?) rfl _
    · intro b
      exact filterMap_snoc_of_none (f := Event.handover?) rfl _
  apply alike_get
  intro s s' hs
  rw [hs.discarding, hs.free]
  apply alike_ite Iff.rfl
  · exact alike_bumpGeneration
  apply (alike_acquireBuffer_l .oneFrame).bind
  intro r r' hr
  cases r with
  | error err =>
      cases r' with
      | error err' => exact alike_pure trivial
      | ok buffer' => exact hr.elim
  | ok buffer =>
      cases r' with
      | error err' => exact hr.elim
      | ok buffer' =>
          apply (alike_onBufferAcquired_l hr).seq
          exact alike_unhold _ _

theorem alike_discardMasked (n : Nat) (i : SlotId) (slotMask : BitVec 64) :
    Alike (Twins messages old old') (fun _ _ => True) (discardMasked n i slotMask)
      (discardMasked n i slotMask) := by
  induction n generalizing i slotMask with
  | zero => exact alike_pure trivial
  | succ n ih =>
      unfold discardMasked
      apply alike_ite Iff.rfl
      · apply (alike_discardBufferInSlot_l i).bind
        intro _ _ _
        exact ih _ _
      · exact ih _ _

theorem alike_onBuffersReleased :
    Alike (Twins messages old old') (fun _ _ => True) onBuffersReleased
      onBuffersReleased := by
  unfold onBuffersReleased
  apply alike_get
  intro s s' hs
  rw [hs.answers]
  exact alike_discardMasked _ _ _

/-!
# Client interface
-/

theorem Control.session_reset {c c' : Control}
    (hcomponent : c.mComponent = c'.mComponent) (hanswers : c.answers = c'.answers)
    (haction : c.mLastActionTimeUs = c'.mLastActionTimeUs)
    (hframe : c.mLastFrameTimestampUs = c'.mLastFrameTimestampUs)
    (hlooper : messages = true ->
      c.mLooper = c'.mLooper ∧ c.mReflector = c'.mReflector) (dataSpace : Int) :
    (c.reset dataSpace).session messages = (c'.reset dataSpace).session messages := by
  have hkept : (messages && c.mLooper) = (messages && c'.mLooper) ∧
      (messages && c.mReflector) = (messages && c'.mReflector) := by
    cases messages with
    | true => exact hlooper rfl
    | false => exact ⟨rfl, rfl⟩
  have hrate : ¬((0 : Rat) < -1) := by decide
  unfold Control.reset Control.session CodecClock.session
  dsimp only
  rw [hcomponent, hanswers, haction, hframe, hkept.1, hkept.2,
    decide_eq_false hrate, Bool.and_false, Bool.and_false]

theorem alike_setMaxAcquiredBufferCount (bufferCount : Int) :
    Alike (Twins messages old old') (fun _ _ => True)
      (setMaxAcquiredBufferCount bufferCount) (setMaxAcquiredBufferCount bufferCount) := by
  unfold setMaxAcquiredBufferCount
  apply (alike_note rfl).seq
  apply alike_get
  intro s s' h
  rw [h.answers]
  apply alike_ite Iff.rfl
  · exact alike_onBuffersReleased
  · exact alike_pure trivial

theorem alike_configure (args : ConfigureArgs) :
    Alike (Twins messages old old') (fun r r' => r = r') (configure args)
      (configure args) := by
  unfold configure
  apply alike_get
  intro s s' hs
  rw [hs.answers]
  cases args.component with
  | none => exact alike_pure rfl
  | some component =>
      apply (alike_setMaxAcquiredBufferCount args.bufferCount).seq
      apply alike_ite Iff.rfl
      · exact alike_pure rfl
      refine alike_set_seq (fun c => ?_) (fun c => ?_) ?_
      · rfl
      · rfl
      apply (alike_note rfl).seq
      apply alike_ite Iff.rfl
      · exact alike_pure rfl
      apply (alike_note rfl).seq
      apply (alike_note rfl).seq
      apply alike_ite Iff.rfl
      · exact alike_pure rfl
      apply (alike_note rfl).seq
      apply Alike.seq (Q := fun _ _ => True)
      · apply alike_modifyControl
        · intro c c' hc
          apply Control.session_reset
          · exact Control.eq_of_session hc Control.mComponent
          · exact Control.eq_of_session hc Control.answers
          · exact Control.eq_of_session hc Control.mLastActionTimeUs
          · exact Control.eq_of_session hc Control.mLastFrameTimestampUs
          · intro hmessages
            rw [hmessages] at hc
            constructor
            · exact Control.eq_of_session hc Control.mLooper
            · exact Control.eq_of_session hc Control.mReflector
        · intro _ _ _
          rfl
      apply (alike_note rfl).seq
      apply Alike.seq (Q := fun _ _ => True)
      · exact alike_assignLatest rfl
      exact alike_pure rfl

theorem alike_resumeNow :
    Alike (Twins messages old old') (fun _ _ => True) resumeNow resumeNow := by
  unfold resumeNow
  refine alike_set_seq (fun c => ?_) (fun c => ?_) ?_
  · rfl
  · rfl
  apply alike_get
  intro s s' hs
  rw [hs.executing, hs.haveAvailable, hs.blocked]
  apply alike_ite Iff.rfl
  · apply alike_repeatLatestBuffer_l.bind
    intro repeated repeated' hrepeated
    rw [hrepeated]
    apply alike_ite Iff.rfl
    · exact alike_unblock rfl
    · exact alike_pure trivial
  · exact alike_pure trivial

theorem Twins.accepts {s s' : GraphicBufferSource}
    (hs : Twins messages old old' s s') (timeUs : Int) :
    s.acceptsActionTime timeUs = s'.acceptsActionTime timeUs := by
  have haction : s.mLastActionTimeUs = s'.mLastActionTimeUs :=
    hs.field Control.mLastActionTimeUs
  unfold Control.acceptsActionTime
  rw [hs.answers, haction]

theorem alike_setSuspend (suspend : Bool) (suspendStartTimeUs : Int) :
    Alike (Twins messages old old') (fun r r' => r = r')
      (setSuspend suspend suspendStartTimeUs)
      (setSuspend suspend suspendStartTimeUs) := by
  unfold setSuspend
  apply alike_get
  intro s s' hs
  rw [hs.stopTime, hs.accepts]
  apply alike_ite Iff.rfl
  · exact alike_pure rfl
  apply alike_ite Iff.rfl
  · apply alike_ite Iff.rfl
    · exact alike_pure rfl
    refine alike_set_pure _ (fun c => ?_) (fun c => ?_)
    · rfl
    · rfl
  apply alike_ite Iff.rfl
  · refine alike_set_seq (fun c => ?_) (fun c => ?_) ?_
    · rfl
    · rfl
    apply alike_releaseAllAvailableBuffers_l.seq
    exact alike_pure rfl
  · apply alike_resumeNow.seq
    exact alike_pure rfl

theorem alike_setRepeatPreviousFrameDelayUs (repeatAfterUs : Int) :
    Alike (Twins messages old old') (fun r r' => r = r')
      (setRepeatPreviousFrameDelayUs repeatAfterUs)
      (setRepeatPreviousFrameDelayUs repeatAfterUs) := by
  unfold setRepeatPreviousFrameDelayUs
  apply alike_get
  intro s s' hs
  rw [hs.executing]
  apply alike_ite Iff.rfl
  · exact alike_pure rfl
  refine alike_set_pure _ (fun c => ?_) (fun c => ?_)
  · rfl
  · rfl

theorem alike_setTimeOffsetUs (timeOffsetUs : Int) :
    Alike (Twins messages old old') (fun r r' => r = r')
      (setTimeOffsetUs timeOffsetUs) (setTimeOffsetUs timeOffsetUs) := by
  unfold setTimeOffsetUs
  apply alike_ite Iff.rfl
  · exact alike_pure rfl
  refine alike_set_pure _ (fun c => ?_) (fun c => ?_)
  · rfl
  · rfl

theorem alike_setMaxFps (maxFps : Binary32) :
    Alike (Twins messages old old') (fun r r' => r = r') (setMaxFps maxFps)
      (setMaxFps maxFps) := by
  unfold setMaxFps
  apply alike_get
  intro s s' hs
  rw [hs.executing]
  apply alike_ite Iff.rfl
  · exact alike_pure rfl
  apply alike_ite Iff.rfl
  · refine alike_set_pure _ (fun c => ?_) (fun c => ?_)
    · rfl
    · rfl
  · refine alike_set_pure _ (fun c => ?_) (fun c => ?_)
    · rfl
    · rfl

theorem alike_setStartTimeUs (skipFramesBeforeUs : Int) :
    Alike (Twins messages old old') (fun r r' => r = r')
      (setStartTimeUs skipFramesBeforeUs) (setStartTimeUs skipFramesBeforeUs) := by
  unfold setStartTimeUs
  refine alike_set_pure _ (fun c => ?_) (fun c => ?_)
  · rfl
  · rfl

theorem alike_setStopTimeUs (stopTimeUs : Int) :
    Alike (Twins messages old old') (fun r r' => r = r')
      (setStopTimeUs stopTimeUs) (setStopTimeUs stopTimeUs) := by
  unfold setStopTimeUs
  apply alike_get
  intro s s' hs
  rw [hs.stopTime, hs.accepts]
  apply alike_ite Iff.rfl
  · exact alike_pure rfl
  apply alike_ite Iff.rfl
  · exact alike_pure rfl
  refine alike_set_pure _ (fun c => ?_) (fun c => ?_)
  · rfl
  · rfl

theorem alike_getStopTimeOffsetUs :
    Alike (Twins messages old old') (fun r r' => r = r') getStopTimeOffsetUs
      getStopTimeOffsetUs := by
  unfold getStopTimeOffsetUs
  apply alike_get
  intro s s' hs
  have hframe : s.mLastFrameTimestampUs = s'.mLastFrameTimestampUs :=
    hs.field Control.mLastFrameTimestampUs
  rw [hs.stopTime, hframe]
  apply alike_ite Iff.rfl
  · exact alike_pure rfl
  · exact alike_pure rfl

theorem alike_setTimeLapseConfig (fps captureFps : Rat) :
    Alike (Twins messages old old') (fun r r' => r = r')
      (setTimeLapseConfig fps captureFps) (setTimeLapseConfig fps captureFps) := by
  unfold setTimeLapseConfig
  apply alike_get
  intro s s' hs
  rw [hs.executing, hs.answers]
  apply alike_ite Iff.rfl
  · exact alike_pure rfl
  apply Alike.seq (Q := fun _ _ => True)
  · apply alike_modifyControl
    · intro c c' hc
      exact congrArg (fun c : Control => { c with
        clock.mFps := fps
        clock.mCaptureFps := captureFps
        clock.mSnapTimestamps :=
          (decide (fps < captureFps) &&
            decide (s'.answers.snapTimestampsProperty = 1)) &&
            decide (0 < captureFps) }) hc
    · intro c hc
      exact hc
  exact alike_pure rfl

theorem alike_setColorAspects (aspectsPacked : Int) :
    Alike (Twins messages old old') (fun r r' => r = r')
      (setColorAspects aspectsPacked) (setColorAspects aspectsPacked) := by
  unfold setColorAspects
  apply Alike.seq (Q := fun _ _ => True)
  · apply alike_modifyControl
    · intro c c' hc
      exact hc
    · intro c hc
      exact hc
  exact alike_pure rfl

theorem alike_signalEndOfInputStream :
    Alike (Twins messages old old') (fun r r' => r = r') signalEndOfInputStream
      signalEndOfInputStream := by
  unfold signalEndOfInputStream
  apply alike_get
  intro s s' hs
  rw [hs.eos, hs.stopTime, hs.executing, hs.haveAvailable]
  apply alike_ite Iff.rfl
  · exact alike_pure rfl
  refine alike_set_seq (fun c => ?_) (fun c => ?_) ?_
  · rfl
  · rfl
  apply alike_ite Iff.rfl
  · apply alike_submitEndOfInputStream_l.seq
    exact alike_pure rfl
  · exact alike_pure rfl

theorem alike_onMessageReceived (generation : Int) :
    Alike (Twins true old old') (fun _ _ => True) (onMessageReceived generation)
      (onMessageReceived generation) := by
  unfold onMessageReceived
  apply alike_get
  intro s s' hs
  have hgeneration : s.mRepeatLastFrameGeneration = s'.mRepeatLastFrameGeneration :=
    hs.field Control.mRepeatLastFrameGeneration
  rw [hgeneration, hs.executing, hs.haveAvailable]
  apply alike_ite Iff.rfl
  · exact alike_pure trivial
  apply alike_ite Iff.rfl
  · exact alike_pure trivial
  apply alike_repeatLatestBuffer_l.bind
  intro success success' hsuccess
  rw [hsuccess]
  apply alike_ite Iff.rfl
  · exact alike_pure trivial
  · apply alike_modifyControl
    · intro c c' hc
      exact congrArg (fun c : Control => { c with
        mFrameRepeatBlockedOnCodecBuffer := true }) hc
    · intro _ _ hfalse
      cases hfalse

/-!
# Requests
-/

theorem alike_reply {α β : Type} {f : α -> β} {m m' : Gbs α}
    (h : Alike (Twins messages old old') (fun r r' => r = r') m m') :
    Alike (Twins messages old old') (fun r r' => r = r')
      (m >>= fun r => pure (f r)) (m' >>= fun r => pure (f r)) := by
  apply h.bind
  intro r r' hr
  exact alike_pure (congrArg f hr)

theorem alike_perform (op : Op) (hop : op.isMessage = true -> messages = true) :
    Alike (Twins messages old old') (fun r r' => r = r') (perform op)
      (perform op) := by
  cases op with
  | start => exact alike_reply alike_start
  | stop => exact alike_reply alike_stop
  | release => exact alike_reply alike_release
  | onInputBufferAdded bufferId =>
      exact alike_reply (alike_onInputBufferAdded bufferId)
  | onInputBufferEmptied bufferId fenceFd =>
      exact alike_reply (alike_onInputBufferEmptied bufferId fenceFd)
  | onFrameAvailable => exact alike_onFrameAvailable.seq (alike_pure rfl)
  | onBuffersReleased => exact alike_onBuffersReleased.seq (alike_pure rfl)
  | configure args => exact alike_reply (alike_configure args)
  | setSuspend suspend suspendStartTimeUs =>
      exact alike_reply (alike_setSuspend suspend suspendStartTimeUs)
  | setRepeatPreviousFrameDelayUs repeatAfterUs =>
      exact alike_reply (alike_setRepeatPreviousFrameDelayUs repeatAfterUs)
  | setTimeOffsetUs timeOffsetUs =>
      exact alike_reply (alike_setTimeOffsetUs timeOffsetUs)
  | setMaxFps maxFps => exact alike_reply (alike_setMaxFps maxFps)
  | setStartTimeUs skipFramesBeforeUs =>
      exact alike_reply (alike_setStartTimeUs skipFramesBeforeUs)
  | setStopTimeUs stopTimeUs =>
      exact alike_reply (alike_setStopTimeUs stopTimeUs)
  | getStopTimeOffsetUs => exact alike_reply alike_getStopTimeOffsetUs
  | setTimeLapseConfig fps captureFps =>
      exact alike_reply (alike_setTimeLapseConfig fps captureFps)
  | setColorAspects aspectsPacked =>
      exact alike_reply (alike_setColorAspects aspectsPacked)
  | signalEndOfInputStream => exact alike_reply alike_signalEndOfInputStream
  | onMessageReceived generation =>
      cases hop rfl
      exact (alike_onMessageReceived generation).seq (alike_pure rfl)

theorem alike_exec (request : Request)
    (hrequest : request.isMessage = true -> messages = true) :
    Alike (Twins messages old old') (fun r r' => r = r') (exec request)
      (exec request) := by
  cases request with
  | queueFrame item =>
      apply Alike.seq (Q := fun _ _ => True)
      · apply alike_modifyBuffers
        · intro b b' hb
          rw [Buffers.view_queueFrame, Buffers.view_queueFrame, hb]
        · intro b
          exact filterMap_snoc_of_none (f := Event.handover?) rfl _
        · intro b
          exact filterMap_snoc_of_none (f := Event.handover?) rfl _
      exact alike_pure rfl
  | call op answers =>
      refine alike_set_seq (fun c => ?_) (fun c => ?_) ?_
      · rfl
      · rfl
      exact alike_perform op hrequest

end Functions

end Bqhelper
end Sm7225
