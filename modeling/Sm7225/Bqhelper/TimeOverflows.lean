import Sm7225.Bqhelper.ExactTimes
import Sm7225.Bqhelper.OfferedFrames
import Sm7225.Bqhelper.RepeatSteps

/-!
# Settings that the source cannot compute with

Each bound on a setting is sharp.  A frame at the last possible time is followed by all
its repeats, by a stop time, or by the next desired time of the frame dropper, and with
a setting beyond its bound one of the computations overflows.
-/

namespace Sm7225
namespace Bqhelper

open Lib

/-!
# The last possible frame
-/

def lastFrame : BufferItem := { newFrame 0 1 0 with mTimestamp := maxFrameTimeNs }

def lastItem : VideoBuffer where
  mBuffer := {
    id := 1
    mBuffer := { id := 0, mSlot := 0, mGraphicBuffer := { handle := 0, format := 1 } }
    mAcquireFence := some (.producer 1)
    frameNum := 1 }
  mTimestampNs := maxFrameTimeNs
  mDataspace := 0

def offersLast : List Request :=
  configureFor 1 :: (List.range 11).map (fun id => (Op.onInputBufferAdded id).now) ++
    [.queueFrame lastFrame, Op.onFrameAvailable.now]

theorem offersLast_run : Reaches offersLast (final offersLast) :=
  reaches_final (by decide)

section Settings

variable {settings : Op -> Prop}

theorem uses_of_not_sets {op : Op} (h : op.sets = false) :
    Request.uses settings op.now := by
  constructor
  · cases op with
    | setRepeatPreviousFrameDelayUs repeatAfterUs => cases h
    | setTimeOffsetUs timeOffsetUs => cases h
    | setStartTimeUs skipFramesBeforeUs => cases h
    | setStopTimeUs stopTimeUs => cases h
    | _ => trivial
  · intro hsets
    rw [h] at hsets
    cases hsets

theorem offersLast_uses : forall r, r ∈ offersLast -> Request.uses settings r := by
  unfold offersLast
  rw [List.forall_mem_append, List.forall_mem_cons, List.forall_mem_cons,
    List.forall_mem_singleton]
  refine ⟨⟨uses_of_not_sets rfl, ?_⟩, ⟨by decide, Int.le_refl _⟩, uses_of_not_sets rfl⟩
  intro r hr
  rcases List.mem_map.mp hr with ⟨id, _, hid⟩
  rw [← hid]
  exact uses_of_not_sets rfl

end Settings

def begun (mFrameRepeatIntervalUs : Int) (mFrameDropper : Option FrameDropper) :
    GraphicBufferSource :=
  { final offersLast with
    mExecuting := true
    mLastDataspace := halDataspaceUnknown
    mFrameRepeatIntervalUs := mFrameRepeatIntervalUs
    mFrameDropper := mFrameDropper
    answers := {} }

theorem begun_offers (mFrameRepeatIntervalUs : Int) (mFrameDropper : Option FrameDropper) :
    OffersFrame (begun mFrameRepeatIntervalUs mFrameDropper) lastItem where
  executing := rfl
  available := rfl
  free := show (final offersLast).mFreeCodecBuffers ≠ [] by decide
  actions := rfl
  awake := rfl
  started := rfl

theorem begun_accepts (mFrameRepeatIntervalUs : Int) (mFrameDropper : Option FrameDropper) :
    Accepts (begun mFrameRepeatIntervalUs mFrameDropper) lastItem where
  free := (begun_offers _ _).free
  component := show (final offersLast).mComponent ≠ none by decide
  plain := rfl
  offset := rfl
  later := show (final offersLast).clock.mPrevFrameUs < maxFrameTimeUs by decide
  answers := rfl

/-!
# The stop time
-/

section Stop

variable {s : GraphicBufferSource} {stopTimeUs : Int}

theorem setStopTimeUs_sets (hnone : s.mStopTimeUs = -1) (hfirst : s.mLastActionTimeUs = -1)
    (hpast : stopTimeUs <= 0) :
    Sat (exec (Op.setStopTimeUs stopTimeUs).now)
      (fun _ t => t.mStopTimeUs = stopTimeUs ∧
        t.mLastFrameTimestampUs = s.mLastFrameTimestampUs)
      (fun _ _ => False) s := by
  have haccepts :
      Control.acceptsActionTime { s.toControl with answers := {} } stopTimeUs = true := by
    unfold Control.acceptsActionTime
    rw [Bool.and_eq_true, Bool.or_eq_true]
    exact ⟨decide_eq_true hpast, Or.inl (decide_eq_true hfirst)⟩
  show Sat (perform (.setStopTimeUs stopTimeUs)) _ _ { s with answers := {} }
  unfold perform setStopTimeUs
  rw [sat_bind, sat_bind, sat_get, sat_ite]
  refine ⟨fun hset => absurd hnone hset, fun _ => ?_⟩
  rw [sat_ite]
  constructor
  · intro hnot
    rw [haccepts] at hnot
    cases hnot
  · intro _
    exact ⟨rfl, rfl⟩

theorem stop_inexact (hnone : s.mStopTimeUs = -1) (hfirst : s.mLastActionTimeUs = -1)
    (hlast : s.mLastFrameTimestampUs = maxFrameTimeUs) (hlow : stopTimeUs < minStopTimeUs) :
    ¬Along exec TimesExact
      [(Op.setStopTimeUs stopTimeUs).now, Op.getStopTimeOffsetUs.now] s := by
  intro h
  have hlow' : stopTimeUs < -9218760350836348421 := hlow
  rcases h.next (setStopTimeUs_sets hnone hfirst (show stopTimeUs <= 0 by lia)) with
    ⟨t, hsets, htail⟩
  have hexact : AllExact (Times.getStopTimeOffsetUs t) := htail.1
  unfold Times.getStopTimeOffsetUs at hexact
  rw [hsets.1, hsets.2, hlast, if_neg (by lia), if_neg (by decide), allExact_singleton]
    at hexact
  have hfits : -9223372036854775808 <= stopTimeUs - 4611686018427387 := hexact.1
  lia

theorem stop_overflows (hlow : stopTimeUs < minStopTimeUs) :
    ¬Along exec TimesExact (offersLast ++ [Op.start.now] ++
      [(Op.setStopTimeUs stopTimeUs).now, Op.getStopTimeOffsetUs.now]) .initial := by
  intro h
  have hreaches : Reaches (offersLast ++ [Op.start.now])
      (final (offersLast ++ [Op.start.now])) := reaches_final (by decide)
  rcases hreaches with ⟨replies, hrun⟩
  exact stop_inexact (by decide) (by decide) (by decide) hlow (h.rest hrun)

end Stop

/-!
# The frame rate
-/

section Rate

variable {maxFps : Binary32}

theorem setMaxFps_sets {s : GraphicBufferSource} (hidle : s.mExecuting = false)
    (hnonneg : maxFps.lt 0 = false) (hnonzero : maxFps ≠ 0) :
    Sat (exec (Op.setMaxFps maxFps).now)
      (fun _ t => t = { s with
        mFrameDropper := some ⟨-1, (Binary32.div 1000000 maxFps).toInt64⟩
        answers := {} })
      (fun _ _ => False) s := by
  have hrate : FrameDropper.new.setMaxFrameRate maxFps =
      (.ok, ⟨-1, (Binary32.div 1000000 maxFps).toInt64⟩) := by
    unfold FrameDropper.setMaxFrameRate
    rw [hnonneg, if_neg Bool.false_ne_true, if_neg hnonzero]
    rfl
  show Sat (perform (.setMaxFps maxFps)) _ _ { s with answers := {} }
  unfold perform setMaxFps
  rw [sat_bind, sat_bind, sat_get, hidle, if_neg Bool.false_ne_true, hrate]
  rfl

theorem rate_inexact {mMinIntervalUs : Int} (hlarge : maxIntervalUs < mMinIntervalUs) :
    ¬TimesExact { final offersLast with mFrameDropper := some ⟨-1, mMinIntervalUs⟩ }
      Op.start.now := by
  intro h
  have hlarge' : 9218760350836348420 < mMinIntervalUs := hlarge
  have hload : AllExact
      (Times.loadAvailable 1 (begun (-1) (some ⟨-1, mMinIntervalUs⟩))) := h
  have hround := allExact_of_if hload rfl
  have hjudges := (begun_offers _ _).judges rfl (allExact_append.mp hround).1
  unfold Times.shouldDrop at hjudges
  dsimp only at hjudges
  rw [if_neg (by lia), if_pos (by decide), allExact_singleton] at hjudges
  have hfits : (4611686018427387 : Int) + mMinIntervalUs < 2 ^ 63 := hjudges.2
  lia

theorem rate_overflows (hnonneg : maxFps.lt 0 = false) (hnonzero : maxFps ≠ 0)
    (hlarge : maxIntervalUs < (Binary32.div 1000000 maxFps).toInt64) :
    ¬Along exec TimesExact (offersLast ++ [(Op.setMaxFps maxFps).now, Op.start.now])
      .initial := by
  intro h
  rcases offersLast_run with ⟨replies, hrun⟩
  rcases (h.rest hrun).next (setMaxFps_sets (s := final offersLast) rfl hnonneg hnonzero)
    with ⟨t, hsets, htail⟩
  have hexact : TimesExact t Op.start.now := htail.1
  rw [hsets] at hexact
  exact rate_inexact hlarge hexact

theorem setMaxFps_value (h : TimesExact .initial (Op.setMaxFps maxFps).now)
    (hnonneg : maxFps.lt 0 = false) (hnonzero : maxFps ≠ 0) :
    exists intervalUs, (Binary32.div 1000000 maxFps).toInt? = some intervalUs ∧
      FitsInt64 intervalUs := by
  have hexact : AllExact (Times.setMaxFps maxFps .initial) := h
  have hconverts := allExact_of_else hexact (by decide)
  unfold Times.setMaxFrameRate at hconverts
  rw [hnonneg, if_neg Bool.false_ne_true, if_neg hnonzero, allExact_singleton] at hconverts
  exact hconverts

end Rate

/-!
# The repeats
-/

section Repeats

variable {s : GraphicBufferSource} {repeatAfterUs : Int} {n : Nat}

structure RepeatedLast (repeatAfterUs : Int) (n : Nat) (s : GraphicBufferSource) :
    Prop where
  executing : s.mExecuting = true
  component : s.mComponent ≠ none
  awake : s.mSuspended = false
  idle : s.haveAvailableBuffers_l = false
  interval : s.mFrameRepeatIntervalUs = repeatAfterUs
  count : s.mOutstandingFrameRepeatCount = kRepeatLastFrameCount - n
  latest : exists latest, s.mLatestBuffer = some latest ∧
    latest.mTimestampNs = maxFrameTimeNs + (n + 1 : Nat) * (repeatAfterUs * 1000)
  free : 10 <= s.mFreeCodecBuffers.length + n
  plain : s.clock.rescales = false
  offset : s.clock.mInputBufferTimeOffsetUs = 0
  prev : s.clock.mPrevFrameUs = maxFrameTimeUs + n * repeatAfterUs

theorem setRepeatPreviousFrameDelayUs_sets (hidle : s.mExecuting = false)
    (hpositive : 0 < repeatAfterUs) :
    Sat (exec (Op.setRepeatPreviousFrameDelayUs repeatAfterUs).now)
      (fun _ t => t = { s with mFrameRepeatIntervalUs := repeatAfterUs, answers := {} })
      (fun _ _ => False) s := by
  have haccepted : ¬(s.mExecuting || decide (repeatAfterUs <= 0)) = true := by
    rw [hidle]
    simpa using hpositive
  show Sat (perform (.setRepeatPreviousFrameDelayUs repeatAfterUs)) _ _
    { s with answers := {} }
  unfold perform setRepeatPreviousFrameDelayUs
  rw [sat_bind, sat_bind, sat_get, if_neg haccepted]
  rfl

theorem RepeatedLast.withLooper (h : RepeatedLast repeatAfterUs n s) :
    RepeatedLast repeatAfterUs n (withLooper s) := by
  unfold Bqhelper.withLooper
  split
  · split
    · exact ⟨h.executing, h.component, h.awake, h.idle, h.interval, h.count, h.latest,
        h.free, h.plain, h.offset, h.prev⟩
    · exact ⟨h.executing, h.component, h.awake, h.idle, h.interval, h.count, h.latest,
        h.free, h.plain, h.offset, h.prev⟩
  · exact h

theorem repeatedLast_of_kept
    (h : OffersFrame.Kept (begun repeatAfterUs none) lastItem s) :
    RepeatedLast repeatAfterUs 0 s where
  executing := by
    rw [h.control]
    rfl
  component := by
    rw [h.control]
    exact (begun_accepts repeatAfterUs none).component
  awake := by
    rw [h.control]
    rfl
  idle := by
    unfold Frames.haveAvailableBuffers_l
    rw [h.available, h.unacquired]
    rfl
  interval := by
    rw [h.control]
    rfl
  count := by
    rw [h.control]
    rfl
  latest := by
    refine ⟨_, h.latest, ?_⟩
    show maxFrameTimeNs + repeatAfterUs * 1000 = _
    lia
  free := by
    rw [h.free]
    show 10 <= (final offersLast).mFreeCodecBuffers.tail.length + 0
    decide
  plain := by
    rw [h.control]
    rfl
  offset := by
    rw [h.control]
    rfl
  prev := by
    rw [h.control]
    show maxFrameTimeUs = _
    lia

theorem start_repeats (hpositive : 0 < repeatAfterUs) :
    Sat (exec Op.start.now) (fun _ t => RepeatedLast repeatAfterUs 0 t)
      (fun _ _ => False)
      { final offersLast with mFrameRepeatIntervalUs := repeatAfterUs, answers := {} } := by
  unfold exec Op.now perform start
  dsimp only
  rw [sat_bind, sat_modifyControl, sat_bind, sat_bind, sat_get, sat_bind, sat_check]
  have hidle : (!(final offersLast).mExecuting) = true := rfl
  refine ⟨fun _ => ?_, fun hbusy => Bool.noConfusion (hidle.symm.trans hbusy)⟩
  rw [sat_bind, sat_modifyControl, sat_bind]
  show Sat (loadAvailable 1) _ _ (begun repeatAfterUs none)
  have havailable : (begun repeatAfterUs none).haveAvailableBuffers_l = true := rfl
  unfold loadAvailable
  rw [sat_bind, sat_get, if_pos havailable, sat_bind]
  apply ((begun_offers repeatAfterUs none).fills (begun_accepts _ _) rfl hpositive).imp
  intro filled t ht
  rcases ht with ⟨hfilled, hkept⟩
  have hrunning : ¬(t.mStopTimeUs = -1 ∧ t.mEndOfStream = true ∧
      (!t.haveAvailableBuffers_l) = true) := by
    rw [hkept.control]
    intro hends
    cases hends.2.1
  rw [hfilled, if_pos rfl]
  unfold loadAvailable sendPendingEos
  rw [sat_pure, sat_bind, sat_bind, sat_get, if_neg hrunning, sat_pure, sat_bind,
    startLooper_sat]
  exact (repeatedLast_of_kept hkept).withLooper

theorem RepeatedLast.answered (h : RepeatedLast repeatAfterUs n s) (answers : Answers) :
    RepeatedLast repeatAfterUs n { s with answers := answers } :=
  ⟨h.executing, h.component, h.awake, h.idle, h.interval, h.count, h.latest, h.free,
    h.plain, h.offset, h.prev⟩

theorem tdiv_repeatTime (hpositive : 0 < repeatAfterUs) (n : Nat) :
    Int.tdiv (maxFrameTimeNs + n * (repeatAfterUs * 1000)) 1000 =
      maxFrameTimeUs + n * repeatAfterUs := by
  have hrepeats : (0 : Int) <= n * repeatAfterUs :=
    mul_nonneg (Int.natCast_nonneg n) hpositive.le
  have hns : maxFrameTimeNs + n * (repeatAfterUs * 1000) =
      4611686018427387904 + (n * repeatAfterUs) * 1000 := by
    unfold maxFrameTimeNs
    ring
  rw [hns, Int.tdiv_eq_ediv_of_nonneg (by lia)]
  show _ = (4611686018427387 : Int) + n * repeatAfterUs
  lia

theorem RepeatedLast.accepts (h : RepeatedLast repeatAfterUs n s)
    (hanswers : s.answers.submitBuffer = []) (hpositive : 0 < repeatAfterUs)
    (hleft : n < 9) :
    exists latest, s.mLatestBuffer = some latest ∧
      latest.mTimestampNs = maxFrameTimeNs + (n + 1 : Nat) * (repeatAfterUs * 1000) ∧
        Accepts s latest := by
  rcases h.latest with ⟨latest, hlatest, htime⟩
  have hfree := h.free
  refine ⟨latest, hlatest, htime, ?_, h.component, h.plain, h.offset, ?_, hanswers⟩
  · apply List.ne_nil_of_length_pos
    lia
  · rw [h.prev, htime, tdiv_repeatTime hpositive, Nat.cast_succ]
    lia

theorem RepeatedLast.accepted (h : RepeatedLast repeatAfterUs n s) {latest : VideoBuffer}
    {t : GraphicBufferSource} (ht : Accepted s latest t)
    (hlatest : s.mLatestBuffer = some latest) :
    t.mFrameRepeatIntervalUs = repeatAfterUs ∧
      t.mOutstandingFrameRepeatCount = kRepeatLastFrameCount - n ∧
        t.mLatestBuffer = some latest := by
  rw [ht.control, ht.frames]
  exact ⟨h.interval, h.count, hlatest⟩

theorem kept_again {count : Int} (hcount : count = kRepeatLastFrameCount - n)
    (hleft : n < 9) : 0 < count - 1 := by
  unfold kRepeatLastFrameCount at hcount
  lia

theorem RepeatedLast.counts (h : RepeatedLast repeatAfterUs n s)
    (hpositive : 0 < repeatAfterUs) (hleft : n < 9) {latest : VideoBuffer}
    {t : GraphicBufferSource} (hlatest : s.mLatestBuffer = some latest)
    (htime : latest.mTimestampNs = maxFrameTimeNs + (n + 1 : Nat) * (repeatAfterUs * 1000))
    (ht : Accepted s latest t) :
    Sat countRepeat (fun _ u => RepeatedLast repeatAfterUs (n + 1) u) (fun _ _ => False)
      t := by
  rcases h.accepted ht hlatest with ⟨hinterval, hcount, hkept⟩
  have hcontrol := ht.control
  have hframes := ht.frames
  unfold countRepeat
  rw [sat_bind, sat_modifyControl, sat_bind, sat_get, if_pos (kept_again hcount hleft),
    sat_bind, sat_modifyBuffers, queueFrameRepeat_l_sat]
  refine ⟨?_, ?_, ?_, ?_, hinterval, ?_, ?_, ?_, ?_, ?_, ?_⟩
  · show t.mExecuting = true
    rw [hcontrol]
    exact h.executing
  · show t.mComponent ≠ none
    rw [hcontrol]
    exact h.component
  · show t.mSuspended = false
    rw [hcontrol]
    exact h.awake
  · show t.haveAvailableBuffers_l = false
    rw [hframes]
    exact h.idle
  · show t.mOutstandingFrameRepeatCount - 1 = _
    rw [hcount, Nat.cast_succ]
    ring
  · have hretimed : (t.toBuffers.retimeLatest
        (t.mFrameRepeatIntervalUs * 1000)).mLatestBuffer = some { latest with
          mTimestampNs := latest.mTimestampNs + t.mFrameRepeatIntervalUs * 1000 } := by
      unfold Buffers.retimeLatest
      rw [hkept]
      rfl
    refine ⟨_, hretimed, ?_⟩
    show latest.mTimestampNs + t.mFrameRepeatIntervalUs * 1000 = _
    rw [htime, hinterval]
    push_cast
    ring
  · have hfree := h.free
    show 10 <= t.mFreeCodecBuffers.length + (n + 1)
    rw [hframes]
    show 10 <= s.mFreeCodecBuffers.tail.length + (n + 1)
    rw [List.length_tail]
    lia
  · show t.clock.rescales = false
    rw [hcontrol]
    exact h.plain
  · show t.clock.mInputBufferTimeOffsetUs = 0
    rw [hcontrol]
    exact h.offset
  · show t.clock.mPrevFrameUs = _
    rw [hcontrol]
    show Int.tdiv latest.mTimestampNs 1000 = _
    rw [htime, tdiv_repeatTime hpositive]

theorem RepeatedLast.repeats (h : RepeatedLast repeatAfterUs n s)
    (hanswers : s.answers.submitBuffer = []) (hpositive : 0 < repeatAfterUs)
    (hleft : n < 9) :
    Sat repeatLatestBuffer_l
      (fun success t => success = true ∧ RepeatedLast repeatAfterUs (n + 1) t)
      (fun _ _ => False) s := by
  rcases h.accepts hanswers hpositive hleft with ⟨latest, hlatest, htime, haccepts⟩
  have hcodec : ¬s.mFreeCodecBuffers.isEmpty = true :=
    mt List.isEmpty_iff.mp haccepts.free
  unfold repeatLatestBuffer_l
  rw [sat_bind, sat_get, sat_bind, sat_check, h.executing, h.idle]
  refine ⟨fun _ => ?_, fun hnot => Bool.noConfusion hnot⟩
  rw [hlatest]
  dsimp only
  rw [h.awake, if_neg Bool.false_ne_true, if_neg hcodec]
  apply (haccepts.submits .repeated).bind
  intro err t ht
  rw [ht.1, if_neg (not_not.mpr rfl)]
  apply (h.counts hpositive hleft hlatest htime ht.2).bind
  intro _ u hu
  exact ⟨rfl, hu⟩

theorem RepeatedLast.fits (h : RepeatedLast repeatAfterUs n s)
    (hanswers : s.answers.submitBuffer = []) (hpositive : 0 < repeatAfterUs)
    (hleft : n < 9) (hexact : AllExact (Times.repeatLatestBuffer_l s)) :
    FitsInt64 (maxFrameTimeNs + (n + 2 : Nat) * (repeatAfterUs * 1000)) := by
  rcases h.accepts hanswers hpositive hleft with ⟨latest, hlatest, htime, haccepts⟩
  have hready : check .repeatExecutingWithoutFrame
      (s.mExecuting && !s.haveAvailableBuffers_l) s = .ok () s := by
    rw [h.executing, h.idle]
    rfl
  have hcodec : ¬s.mFreeCodecBuffers.isEmpty = true :=
    mt List.isEmpty_iff.mp haccepts.free
  have hrepeats := allExact_of_after hready hexact
  rw [hlatest] at hrepeats
  dsimp only at hrepeats
  rw [h.awake, if_neg Bool.false_ne_true, if_neg hcodec, allExact_append, allExact_after]
    at hrepeats
  apply (((haccepts.submits .repeated).and hrepeats.2).mono _ _).elim
  · intro err t ht
    rcases ht with ⟨⟨hok, haccepted⟩, hcounts⟩
    rcases h.accepted haccepted hlatest with ⟨hinterval, hcount, hkept⟩
    have hagain := kept_again hcount hleft
    unfold Times.countRepeat at hcounts
    rw [hok, if_neg (not_not.mpr rfl), if_pos hagain, hkept] at hcounts
    have hretimes : AllExact (Times.retimeLatest t.toControl latest.mTimestampNs) := hcounts
    unfold Times.retimeLatest at hretimes
    rw [hinterval, htime, allExact_cons, allExact_singleton] at hretimes
    have hfits : FitsInt64 (maxFrameTimeNs + (n + 1 : Nat) * (repeatAfterUs * 1000) +
        repeatAfterUs * 1000) := hretimes.2
    have htime' : maxFrameTimeNs + (n + 2 : Nat) * (repeatAfterUs * 1000) =
        maxFrameTimeNs + (n + 1 : Nat) * (repeatAfterUs * 1000) + repeatAfterUs * 1000 := by
      push_cast
      ring
    rw [htime']
    exact hfits
  · intro _ _ hfalse
    exact hfalse.1.elim

theorem RepeatedLast.goes (h : RepeatedLast repeatAfterUs n s) :
    ¬(!s.mExecuting || s.haveAvailableBuffers_l) = true := by
  rw [h.executing, h.idle]
  exact Bool.false_ne_true

theorem RepeatedLast.message (h : RepeatedLast repeatAfterUs n s)
    (hpositive : 0 < repeatAfterUs) (hleft : n < 9) :
    Sat (exec (Op.onMessageReceived s.mRepeatLastFrameGeneration).now)
      (fun _ t => RepeatedLast repeatAfterUs (n + 1) t) (fun _ _ => False) s := by
  show Sat (perform (.onMessageReceived s.mRepeatLastFrameGeneration)) _ _
    { s with answers := {} }
  unfold perform onMessageReceived
  rw [sat_bind, sat_bind, sat_get, if_neg (not_not.mpr rfl), if_neg h.goes, sat_bind]
  apply ((h.answered {}).repeats rfl hpositive hleft).imp
  intro success t ht
  rw [ht.1, if_pos rfl, sat_pure]
  exact ht.2

theorem RepeatedLast.message_fits (h : RepeatedLast repeatAfterUs n s)
    (hpositive : 0 < repeatAfterUs) (hleft : n < 9)
    (hexact : TimesExact s (Op.onMessageReceived s.mRepeatLastFrameGeneration).now) :
    FitsInt64 (maxFrameTimeNs + (n + 2 : Nat) * (repeatAfterUs * 1000)) := by
  have hcurrent := allExact_of_else hexact (not_not.mpr rfl)
  exact (h.answered {}).fits rfl hpositive hleft (allExact_of_else hcurrent h.goes)

theorem RepeatedLast.overflows (hlarge : maxRepeatDelayUs < repeatAfterUs) {k : Nat}
    (hleft : n + k = 8) (h : RepeatedLast repeatAfterUs n s) :
    exists messages, (forall r, r ∈ messages ->
        exists generation, r = (Op.onMessageReceived generation).now) ∧
      ¬Along exec TimesExact messages s := by
  have hlarge' : 461168601842738 < repeatAfterUs := hlarge
  have hpositive : 0 < repeatAfterUs := by
    lia
  induction k generalizing n s with
  | zero =>
      refine ⟨[(Op.onMessageReceived s.mRepeatLastFrameGeneration).now], ?_, ?_⟩
      · intro r hr
        exact ⟨_, List.mem_singleton.mp hr⟩
      · intro hexact
        have hfits := (h.message_fits hpositive (by lia) hexact.1).2
        have hn : n = 8 := hleft
        rw [hn] at hfits
        have hfits' : 4611686018427387904 + 10 * (repeatAfterUs * 1000) <
            9223372036854775808 := hfits
        lia
  | succ k ih =>
      rcases (h.message hpositive (by lia)).returns with ⟨r, t, hexec, hnext⟩
      rcases ih (by lia) hnext with ⟨messages, hmessages, hinexact⟩
      refine ⟨(Op.onMessageReceived s.mRepeatLastFrameGeneration).now :: messages, ?_, ?_⟩
      · rw [List.forall_mem_cons]
        exact ⟨⟨_, rfl⟩, hmessages⟩
      · intro hexact
        have htail := hexact.2
        rw [hexec] at htail
        exact hinexact htail

end Repeats

/-!
# The settings with which every run is exact
-/

/-- In every run with these settings all times are computed exactly. -/
def ComputesExactly (settings : Op -> Prop) : Prop :=
  forall requests, (forall r, r ∈ requests -> Request.uses settings r) ->
    Along exec TimesExact requests .initial

section Exactness

variable {settings : Op -> Prop}

theorem uses_setting {op : Op} (hset : settings op) (harguments : op.int64Arguments) :
    Request.uses settings op.now :=
  ⟨harguments, fun _ => hset⟩

theorem offersLast_append_uses {requests : List Request}
    (h : forall r, r ∈ requests -> Request.uses settings r) :
    forall r, r ∈ offersLast ++ requests -> Request.uses settings r := by
  rw [List.forall_mem_append]
  exact ⟨offersLast_uses, h⟩

theorem ComputesExactly.repeatDelay (h : ComputesExactly settings) {repeatAfterUs : Int}
    (hset : settings (.setRepeatPreviousFrameDelayUs repeatAfterUs))
    (harguments : FitsInt64 repeatAfterUs) : repeatAfterUs <= maxRepeatDelayUs := by
  by_contra hlarge
  rw [not_le] at hlarge
  have hlarge' : 461168601842738 < repeatAfterUs := hlarge
  have hpositive : 0 < repeatAfterUs := by
    lia
  rcases offersLast_run with ⟨replies, hrun⟩
  rcases (start_repeats hpositive).returns with ⟨r, t, hexec, hstarts⟩
  rcases hstarts.overflows hlarge (k := 8) rfl with ⟨messages, hmessages, hinexact⟩
  have hexact := h (offersLast ++ ((Op.setRepeatPreviousFrameDelayUs repeatAfterUs).now ::
    Op.start.now :: messages)) ?_
  · rcases (hexact.rest hrun).next (setRepeatPreviousFrameDelayUs_sets rfl hpositive) with
      ⟨u, hu, hrest⟩
    have htail := hrest.2
    rw [hu, hexec] at htail
    exact hinexact htail
  · apply offersLast_append_uses
    rw [List.forall_mem_cons, List.forall_mem_cons]
    refine ⟨uses_setting hset harguments, uses_of_not_sets rfl, ?_⟩
    intro message hmessage
    rcases hmessages message hmessage with ⟨generation, hgeneration⟩
    rw [hgeneration]
    exact uses_of_not_sets rfl

theorem ComputesExactly.stopTime (h : ComputesExactly settings) {stopTimeUs : Int}
    (hset : settings (.setStopTimeUs stopTimeUs)) (harguments : FitsInt64 stopTimeUs) :
    minStopTimeUs <= stopTimeUs := by
  by_contra hlow
  rw [not_le] at hlow
  apply stop_overflows hlow
  rw [List.append_assoc]
  apply h
  apply offersLast_append_uses
  rw [List.singleton_append, List.forall_mem_cons, List.forall_mem_cons,
    List.forall_mem_singleton]
  exact ⟨uses_of_not_sets rfl, uses_setting hset harguments, uses_of_not_sets rfl⟩

theorem ComputesExactly.maxFps (h : ComputesExactly settings) {maxFps : Binary32}
    (hset : settings (.setMaxFps maxFps)) : (Op.setMaxFps maxFps).keepsTimes := by
  by_cases hnegative : maxFps.lt 0 = true
  · exact .inl hnegative
  by_cases hzero : maxFps = 0
  · exact .inr (.inl hzero)
  rw [Bool.not_eq_true] at hnegative
  have hsetting : Request.uses settings (Op.setMaxFps maxFps).now :=
    uses_setting hset trivial
  have halone := h [(Op.setMaxFps maxFps).now] (List.forall_mem_singleton.mpr hsetting)
  rcases setMaxFps_value halone.1 hnegative hzero with ⟨intervalUs, hinterval, hfits⟩
  refine .inr (.inr ⟨intervalUs, hinterval, ?_⟩)
  by_contra hlarge
  rw [not_le] at hlarge
  have hconverted : (Binary32.div 1000000 maxFps).toInt64 = intervalUs := by
    rw [Binary32.toInt64_of_toInt? hinterval]
    have hbelow := hfits.1
    have habove := hfits.2
    lia
  apply rate_overflows hnegative hzero (hconverted.symm ▸ hlarge)
  apply h
  apply offersLast_append_uses
  rw [List.forall_mem_cons, List.forall_mem_singleton]
  exact ⟨hsetting, uses_of_not_sets rfl⟩

/-- The bounds on the settings are necessary and sufficient.  The computations that
are compared give the times of the functions. -/
theorem computesExactly_iff (settings : Op -> Prop) :
    Times.Results ∧
      (ComputesExactly settings <->
        forall op, settings op -> op.int64Arguments -> op.keepsTimes) := by
  refine ⟨Times.results, ?_, ?_⟩
  · intro h op hset harguments
    cases op with
    | setRepeatPreviousFrameDelayUs repeatAfterUs => exact h.repeatDelay hset harguments
    | setStopTimeUs stopTimeUs => exact h.stopTime hset harguments
    | setMaxFps maxFps => exact h.maxFps hset
    | _ => trivial
  · intro hsettings requests huses
    apply along_timesExact
    intro r hr
    exact (huses r hr).keepsTimes hsettings

def longestDelay : List Request :=
  [configureFor 1, (Op.onInputBufferAdded 7).now,
    (Op.setRepeatPreviousFrameDelayUs int64Max).now, Op.start.now] ++
      deliver (newFrame 0 1 0)

/-- The first repeat of a frame at time zero overflows. -/
theorem longestDelay_overflows : ¬ComputesExactly (fun _ => True) := by
  intro h
  have hlongest : FitsInt64 int64Max := by decide
  refine absurd (h longestDelay ?_) (by decide)
  unfold longestDelay deliver
  rw [List.forall_mem_append, List.forall_mem_cons, List.forall_mem_cons,
    List.forall_mem_cons, List.forall_mem_singleton, List.forall_mem_cons,
    List.forall_mem_singleton]
  exact ⟨⟨uses_of_not_sets rfl, uses_of_not_sets rfl, uses_setting trivial hlongest,
    uses_of_not_sets rfl⟩, ⟨by decide, by decide⟩, uses_of_not_sets rfl⟩

end Exactness

end Bqhelper
end Sm7225
