import Sm7225.Bqhelper.FailedSubmission
import Sm7225.Bqhelper.LatestMoves
import Sm7225.Bqhelper.TimeArithmetic

/-!
# Offered frames

A frame that nothing stands against is taken, judged by the frame dropper, submitted, and
kept for its repeats.  These are the states before and after, for runs that are put
together from single frames.
-/

namespace Sm7225
namespace Bqhelper

open Lib

/-!
# An accepted frame
-/

section Submission

variable {s : GraphicBufferSource} {item : VideoBuffer}

structure Accepts (s : GraphicBufferSource) (item : VideoBuffer) : Prop where
  free : s.mFreeCodecBuffers ≠ []
  component : s.mComponent ≠ none
  plain : s.clock.rescales = false
  offset : s.clock.mInputBufferTimeOffsetUs = 0
  later : s.clock.mPrevFrameUs < Int.tdiv item.mTimestampNs 1000
  answers : s.answers.submitBuffer = []

structure Accepted (s : GraphicBufferSource) (item : VideoBuffer)
    (t : GraphicBufferSource) : Prop where
  control : t.toControl = { s.toControl with
    clock := { s.clock with mPrevFrameUs := Int.tdiv item.mTimestampNs 1000 }
    mLastDataspace := item.mDataspace
    answers := t.answers }
  frames : t.toFrames = { s.toFrames with
    mFreeCodecBuffers := s.mFreeCodecBuffers.tail
    mSubmittedCodecBuffers := t.mSubmittedCodecBuffers }

theorem Accepts.time (h : Accepts s item) :
    s.clock.calculateCodecTimestamp_l s.mFrameDropper item.mTimestampNs =
      some (Int.tdiv item.mTimestampNs 1000,
        { s.clock with mPrevFrameUs := Int.tdiv item.mTimestampNs 1000 }) := by
  have hlater : ¬(Int.tdiv item.mTimestampNs 1000 <= s.clock.mPrevFrameUs ∧
      CodecClock.dropsBackward s.mFrameDropper = true) := by
    intro hback
    exact absurd h.later (not_lt.mpr hback.1)
  have htime : Int.tdiv item.mTimestampNs 1000 + s.clock.mInputBufferTimeOffsetUs =
      Int.tdiv item.mTimestampNs 1000 := by
    rw [h.offset, Int.add_zero]
  unfold CodecClock.calculateCodecTimestamp_l
  dsimp only
  rw [htime, h.plain, if_neg Bool.false_ne_true, if_neg hlater]

theorem Accepts.submits (h : Accepts s item) (origin : Origin) :
    Sat (submitBuffer_l item origin) (fun err t => err = .ok ∧ Accepted s item t)
      (fun _ _ => False) s := by
  apply (submitBuffer_l_submits h.free h.component h.time).imp
  intro err t ht
  rcases ht with ⟨herr, hcontrol, _, _, hframes⟩
  have hok : err = .ok := by
    rw [herr, h.answers]
    rfl
  refine ⟨hok, ?_, hframes hok⟩
  rw [hcontrol]

end Submission

theorem setLatestBuffer_l_keeps (s : GraphicBufferSource) (item : VideoBuffer) :
    Sat (setLatestBuffer_l item)
      (fun _ t => t.toControl = { s.toControl with
          mOutstandingFrameRepeatCount := kRepeatLastFrameCount
          mFrameRepeatBlockedOnCodecBuffer := false
          mRepeatLastFrameGeneration := t.mRepeatLastFrameGeneration } ∧
        t.toFrames = { s.toFrames with
          mLatestBuffer := some { item with
            mTimestampNs := item.mTimestampNs + s.mFrameRepeatIntervalUs * 1000 } })
      (fun _ _ => False) s := by
  have hframes := Buffers.unholdAll_toFrames (s.toBuffers.setLatest (some item)) s.latest
  unfold setLatestBuffer_l assignLatest
  rw [sat_bind, sat_bind, sat_get, sat_bind, sat_modifyBuffers, sat_unholdAll, sat_bind,
    sat_modifyControl, sat_bind, sat_get, sat_bind, sat_modifyBuffers,
    queueFrameRepeat_l_sat]
  refine ⟨rfl, ?_⟩
  exact congrArg (fun f : Frames => { f with
    mLatestBuffer := f.mLatestBuffer.map fun v : VideoBuffer => { v with
      mTimestampNs := v.mTimestampNs + s.mFrameRepeatIntervalUs * 1000 } }) hframes

/-!
# An available frame
-/

structure OffersFrame (s : GraphicBufferSource) (item : VideoBuffer) : Prop where
  executing : s.mExecuting = true
  available : s.mAvailableBuffers = [item]
  free : s.mFreeCodecBuffers ≠ []
  actions : s.mActionQueue = []
  awake : s.mSuspended = false
  started : s.mSkipFramesBeforeNs = -1

theorem performActions_none {s : GraphicBufferSource} (hactions : s.mActionQueue = [])
    (itemTimeUs : Int) : performActions itemTimeUs s = .ok false s := by
  unfold performActions
  rw [get_bind_apply, hactions]
  rfl

namespace OffersFrame

variable {s : GraphicBufferSource} {item : VideoBuffer}

theorem ready (h : OffersFrame s item) :
    check .fillExecutingWithFrame (s.mExecuting && s.haveAvailableBuffers_l) s =
      .ok () s := by
  unfold Frames.haveAvailableBuffers_l
  rw [h.executing, h.available]
  rfl

def taken (s : GraphicBufferSource) (item : VideoBuffer) : GraphicBufferSource :=
  { s with mAvailableBuffers := [], locals := item.mBuffer :: s.locals }

theorem takes (h : OffersFrame s item) :
    takeFrame s = .ok (some item) (taken s item) := by
  unfold takeFrame
  rw [get_bind_apply, h.available]
  show EStateM.Result.ok _ { s with toBuffers := s.toBuffers.takeAvailable } = _
  rw [Buffers.takeAvailable_eq h.available]
  rfl

theorem not_empty (h : OffersFrame s item) : ¬s.mFreeCodecBuffers.isEmpty = true :=
  mt List.isEmpty_iff.mp h.free

theorem not_skipped (h : OffersFrame s item) : (taken s item).mSkipFramesBeforeNs < 0 := by
  show s.mSkipFramesBeforeNs < 0
  rw [h.started]
  decide

theorem offsetByStartTime_eq (h : OffersFrame s item) :
    (taken s item).offsetByStartTime item = item := by
  have hskipped := h.not_skipped
  unfold Control.offsetByStartTime
  rw [if_neg (by lia)]

theorem judges (h : OffersFrame s item) {dropper : FrameDropper}
    (hdropper : s.mFrameDropper = some dropper)
    (hexact : AllExact (Times.fillCodecBuffer_l s)) :
    AllExact (Times.shouldDrop dropper (Int.tdiv item.mTimestampNs 1000)) := by
  have hready := allExact_of_after h.ready hexact
  have htakes := allExact_of_after h.takes (allExact_of_else hready h.not_empty)
  have hperforms := allExact_of_after
    (performActions_none (s := taken s item) h.actions _) htakes
  have hsubmits := allExact_of_else (allExact_of_else hperforms Bool.false_ne_true)
    (fun hsuspended => Bool.false_ne_true (h.awake.symm.trans hsuspended))
  have hskips := allExact_of_if (allExact_append.mp hsubmits).1 (Or.inl h.not_skipped)
  have hdrops := (allExact_append.mp (allExact_append.mp hskips).1).2
  have hdropper' : (taken s item).mFrameDropper = some dropper := hdropper
  unfold Times.frameDropperDrops at hdrops
  rw [h.offsetByStartTime_eq, hdropper'] at hdrops
  exact hdrops

structure Kept (s : GraphicBufferSource) (item : VideoBuffer) (t : GraphicBufferSource) :
    Prop where
  control : t.toControl = { s.toControl with
    clock := { s.clock with mPrevFrameUs := Int.tdiv item.mTimestampNs 1000 }
    mLastDataspace := item.mDataspace
    mLastFrameTimestampUs := Int.tdiv item.mTimestampNs 1000
    mOutstandingFrameRepeatCount := kRepeatLastFrameCount
    mFrameRepeatBlockedOnCodecBuffer := false
    mRepeatLastFrameGeneration := t.mRepeatLastFrameGeneration
    answers := t.answers }
  available : t.mAvailableBuffers = []
  unacquired : t.mNumAvailableUnacquiredBuffers = s.mNumAvailableUnacquiredBuffers
  free : t.mFreeCodecBuffers = s.mFreeCodecBuffers.tail
  latest : t.mLatestBuffer = some { item with
    mTimestampNs := item.mTimestampNs + s.mFrameRepeatIntervalUs * 1000 }

theorem submits (h : OffersFrame s item) (haccepts : Accepts s item)
    (hdropper : s.mFrameDropper = none) :
    Sat (skipDropOrSubmit item)
      (fun err t => err = .ok ∧ Accepted (taken s item) item t) (fun _ _ => False)
      (taken s item) := by
  have htaken : Accepts (taken s item) item := ⟨haccepts.free, haccepts.component,
    haccepts.plain, haccepts.offset, haccepts.later, haccepts.answers⟩
  have hdropper' : (taken s item).mFrameDropper = none := hdropper
  unfold skipDropOrSubmit frameDropperDrops
  rw [sat_bind, sat_get, if_pos (Or.inl h.not_skipped), sat_bind, sat_bind, sat_get,
    hdropper', h.offsetByStartTime_eq]
  rw [sat_pure, if_neg Bool.false_ne_true]
  exact htaken.submits .fresh

theorem records {t : GraphicBufferSource} (h : OffersFrame s item)
    (hrepeats : 0 < s.mFrameRepeatIntervalUs) (ht : Accepted (taken s item) item t) :
    Sat (recordFrame item (Int.tdiv item.mTimestampNs 1000))
      (fun _ u => Kept s item { u with toBuffers := u.toBuffers.unhold item.mBuffer })
      (fun _ _ => False) t := by
  have hcontrol := ht.control
  have hframes := ht.frames
  have hinterval : t.mFrameRepeatIntervalUs = s.mFrameRepeatIntervalUs := by
    rw [hcontrol]
    rfl
  have hpositive : 0 < t.mFrameRepeatIntervalUs := by
    rw [hinterval]
    exact hrepeats
  have hstarted : t.mSkipFramesBeforeNs = -1 := by
    rw [hcontrol]
    exact h.started
  have hoffset : t.offsetByStartTime item = item := by
    unfold Control.offsetByStartTime
    rw [if_neg (by lia)]
  unfold recordFrame
  rw [sat_bind, sat_get, if_pos hpositive, sat_bind, hoffset]
  apply (setLatestBuffer_l_keeps t item).imp
  intro _ u hu
  rcases hu with ⟨hcontrol', hframes'⟩
  have hanswers : u.answers = t.answers := by
    rw [hcontrol']
  rw [hcontrol, ← hanswers] at hcontrol'
  rw [hframes, hinterval] at hframes'
  have hunheld : (u.toBuffers.unhold item.mBuffer).toFrames = _ :=
    (Buffers.unhold_toFrames _ _).trans hframes'
  rw [sat_modifyControl]
  constructor
  · exact congrArg (fun c : Control =>
      { c with mLastFrameTimestampUs := Int.tdiv item.mTimestampNs 1000 }) hcontrol'
  · show (u.toBuffers.unhold item.mBuffer).mAvailableBuffers = _
    rw [hunheld]
    rfl
  · show (u.toBuffers.unhold item.mBuffer).mNumAvailableUnacquiredBuffers = _
    rw [hunheld]
    rfl
  · show (u.toBuffers.unhold item.mBuffer).mFreeCodecBuffers = _
    rw [hunheld]
    rfl
  · show (u.toBuffers.unhold item.mBuffer).mLatestBuffer = _
    rw [hunheld]

theorem fills (h : OffersFrame s item) (haccepts : Accepts s item)
    (hdropper : s.mFrameDropper = none) (hrepeats : 0 < s.mFrameRepeatIntervalUs) :
    Sat fillCodecBuffer_l (fun filled t => filled = true ∧ Kept s item t)
      (fun _ _ => False) s := by
  have hawake : ¬(taken s item).mSuspended = true :=
    fun hsuspended => Bool.false_ne_true (h.awake.symm.trans hsuspended)
  unfold fillCodecBuffer_l
  rw [sat_bind, sat_get, sat_bind, sat_of_ok h.ready, if_neg h.not_empty, sat_bind,
    sat_of_ok h.takes]
  dsimp only
  unfold processFrame
  rw [sat_bind, sat_bind, sat_of_ok (performActions_none (s := taken s item) h.actions _),
    if_neg Bool.false_ne_true, sat_bind, sat_get, if_neg hawake]
  apply (h.submits haccepts hdropper).bind
  intro err t ht
  rw [ht.1, if_neg (not_not.mpr rfl)]
  apply (h.records hrepeats ht.2).imp
  intro _ u hu
  rw [sat_bind, sat_unhold, sat_pure]
  exact ⟨rfl, hu⟩

end OffersFrame

end Bqhelper
end Sm7225
