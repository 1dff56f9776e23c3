import Sm7225.Bqhelper.DropperRate
import Sm7225.Bqhelper.TimeArithmetic

/-!
# Bounds on times

The times of frames go up to a quarter of the range of {lit}`int64_t`.  From this come
the largest repeat delay, the smallest stop time and the largest frame interval with
which the source computes exactly, and the bounds that its fields then keep.
-/

namespace Sm7225
namespace Bqhelper

open Lib

def maxFrameTimeNs : Int := 2 ^ 62

def maxFrameTimeUs : Int := Int.tdiv maxFrameTimeNs 1000

def maxRepeatDelayUs : Int :=
  Int.tdiv (int64Max - maxFrameTimeNs) (kRepeatLastFrameCount * 1000)

def minStopTimeUs : Int := -2 ^ 63 + maxFrameTimeUs

def maxIntervalUs : Int := int64Max - maxFrameTimeUs

def FrameTime (timestampNs : Int) : Prop :=
  0 <= timestampNs ∧ timestampNs <= maxFrameTimeNs

def Op.sets : Op -> Bool
  | .setRepeatPreviousFrameDelayUs _ => true
  | .setTimeOffsetUs _ => true
  | .setMaxFps _ => true
  | .setStartTimeUs _ => true
  | .setStopTimeUs _ => true
  | _ => false

/-- The arguments that the source computes with have the type {lit}`int64_t`. -/
def Op.int64Arguments : Op -> Prop
  | .setRepeatPreviousFrameDelayUs repeatAfterUs => FitsInt64 repeatAfterUs
  | .setTimeOffsetUs timeOffsetUs => FitsInt64 timeOffsetUs
  | .setStartTimeUs skipFramesBeforeUs => FitsInt64 skipFramesBeforeUs
  | .setStopTimeUs stopTimeUs => FitsInt64 stopTimeUs
  | _ => True

/-- The source can compute with the setting. -/
def Op.keepsTimes : Op -> Prop
  | .setRepeatPreviousFrameDelayUs repeatAfterUs => repeatAfterUs <= maxRepeatDelayUs
  | .setStopTimeUs stopTimeUs => minStopTimeUs <= stopTimeUs
  | .setMaxFps maxFps =>
      maxFps.lt 0 = true ∨ maxFps = 0 ∨ exists intervalUs,
        (Binary32.div 1000000 maxFps).toInt? = some intervalUs ∧ intervalUs <= maxIntervalUs
  | _ => True

/-!
# Arithmetic of the bounds
-/

theorem FrameTime.us {timestampNs : Int} (h : FrameTime timestampNs) :
    0 <= Int.tdiv timestampNs 1000 ∧ Int.tdiv timestampNs 1000 <= maxFrameTimeUs := by
  have hupper : timestampNs <= 4611686018427387904 := h.2
  have hquotient := Int.tdiv_eq_ediv_of_nonneg (b := 1000) h.1
  rw [hquotient]
  show _ ∧ _ <= (4611686018427387 : Int)
  have hlower := h.1
  lia

structure FrameDropper.Bounded (d : FrameDropper) : Prop where
  interval : d.mMinIntervalUs <= maxIntervalUs
  desired : 0 <= d.mDesiredMinTimeUs ->
    d.mMinIntervalUs <= d.mDesiredMinTimeUs ∧ d.mDesiredMinTimeUs <= int64Max

namespace FrameDropper

variable {d : FrameDropper} {timeUs : Int}

theorem Bounded.shouldDrop (h : d.Bounded)
    (htime : 0 <= timeUs ∧ timeUs <= maxFrameTimeUs) :
    (d.shouldDrop timeUs).2.Bounded := by
  by_cases hpositive : d.mMinIntervalUs <= 0
  · unfold FrameDropper.shouldDrop
    rw [if_pos hpositive]
    exact h
  · rw [not_le] at hpositive
    by_cases hseen : d.mDesiredMinTimeUs < 0
    · unfold FrameDropper.shouldDrop
      rw [if_neg hpositive.not_ge, if_pos hseen]
      refine ⟨h.interval, fun _ => ⟨?_, ?_⟩⟩
      · show d.mMinIntervalUs <= timeUs + d.mMinIntervalUs
        lia
      · have hinterval := h.interval
        unfold maxIntervalUs at hinterval
        show timeUs + d.mMinIntervalUs <= int64Max
        lia
    · rw [not_lt] at hseen
      have hrunning : d.Running d.mMinIntervalUs := ⟨rfl, hpositive, hseen⟩
      have hdesired := h.desired hseen
      have hjudges := hrunning.judges timeUs
      generalize hresult : d.shouldDrop timeUs = result at hjudges
      rcases result with ⟨drops, d'⟩
      cases hjudges with
      | drops _ => exact h
      | keeps _ hrunning' hlate hgrid _ hsoon =>
          refine ⟨?_, fun _ => ⟨?_, ?_⟩⟩
          · rw [hrunning'.interval]
            exact h.interval
          · rw [hrunning'.interval]
            lia
          · have hupper : timeUs <= 4611686018427387 := htime.2
            show d'.mDesiredMinTimeUs <= (9223372036854775807 : Int)
            lia

theorem Bounded.shouldDrop_exact (h : d.Bounded)
    (htime : 0 <= timeUs ∧ timeUs <= maxFrameTimeUs) :
    AllExact (Times.shouldDrop d timeUs) := by
  have hupper : timeUs <= 4611686018427387 := htime.2
  have hinterval : d.mMinIntervalUs <= 9218760350836348420 := h.interval
  unfold Times.shouldDrop
  by_cases hpositive : d.mMinIntervalUs <= 0
  · rw [if_pos hpositive]
    exact allExact_nil
  rw [if_neg hpositive]
  by_cases hseen : d.mDesiredMinTimeUs < 0
  · rw [if_pos hseen, allExact_singleton]
    unfold Computation.Fits FitsInt64
    lia
  rw [if_neg hseen]
  rw [not_le] at hpositive
  rw [not_lt] at hseen
  have hdesired := h.desired hseen
  have hlargest : d.mDesiredMinTimeUs <= 9223372036854775807 := hdesired.2
  by_cases hearly : timeUs < d.mDesiredMinTimeUs - kMaxJitterUs
  · rw [if_pos hearly, allExact_singleton]
    unfold Computation.Fits FitsInt64 kMaxJitterUs
    lia
  rw [if_neg hearly]
  unfold kMaxJitterUs at hearly ⊢
  have hlate : 0 <= timeUs - d.mDesiredMinTimeUs + 2000 := by
    lia
  have hnonneg := Int.tdiv_nonneg hlate hpositive.le
  have hself := Int.tdiv_le_self d.mMinIntervalUs hlate
  have hmul := Int.mul_tdiv_self_le (k := d.mMinIntervalUs) hlate
  have hforward := mul_nonneg hpositive.le hnonneg
  generalize Int.tdiv (timeUs - d.mDesiredMinTimeUs + 2000) d.mMinIntervalUs = n at *
  have hgrid : (n + 1) * d.mMinIntervalUs = d.mMinIntervalUs * n + d.mMinIntervalUs := by
    ring
  simp only [allExact_cons, Computation.Fits, hgrid, FitsInt64]
  generalize d.mMinIntervalUs * n = steps at *
  refine ⟨?_, ?_, ?_, ?_, ?_, ?_, allExact_nil⟩
  · lia
  · lia
  · lia
  · lia
  · lia
  · lia

theorem bounded_setMaxFrameRate {maxFps : Binary32} (h : (Op.setMaxFps maxFps).keepsTimes) :
    (new.setMaxFrameRate maxFps).2.Bounded := by
  have hnew : forall interval, interval <= maxIntervalUs ->
      FrameDropper.Bounded { new with mMinIntervalUs := interval } := by
    intro interval hinterval
    refine ⟨hinterval, fun hdesired => ?_⟩
    exact absurd hdesired (show ¬(0 : Int) <= -1 by decide)
  unfold setMaxFrameRate
  by_cases hnegative : maxFps.lt 0 = true
  · rw [if_pos hnegative]
    exact hnew _ (by decide)
  rw [if_neg hnegative]
  by_cases hzero : maxFps = 0
  · rw [if_pos hzero]
    exact hnew _ (by decide)
  · rw [if_neg hzero]
    rcases (h.resolve_left hnegative).resolve_left hzero with
      ⟨intervalUs, hinterval, hle⟩
    apply hnew
    rw [Binary32.toInt64_of_toInt? hinterval]
    have hle' : intervalUs <= 9218760350836348420 := hle
    show _ <= (9218760350836348420 : Int)
    lia

end FrameDropper

/-!
# Bounds of the state
-/

structure TimeFields where
  mFrameRepeatIntervalUs : Int
  mOutstandingFrameRepeatCount : Int
  mInputBufferTimeOffsetUs : Int
  mStopTimeUs : Int
  mLastFrameTimestampUs : Int
  mFrameDropper : Option FrameDropper

def Control.timeFields (c : Control) : TimeFields where
  mFrameRepeatIntervalUs := c.mFrameRepeatIntervalUs
  mOutstandingFrameRepeatCount := c.mOutstandingFrameRepeatCount
  mInputBufferTimeOffsetUs := c.clock.mInputBufferTimeOffsetUs
  mStopTimeUs := c.mStopTimeUs
  mLastFrameTimestampUs := c.mLastFrameTimestampUs
  mFrameDropper := c.mFrameDropper

namespace TimeFields

structure Bounded (f : TimeFields) : Prop where
  interval : f.mFrameRepeatIntervalUs <= maxRepeatDelayUs
  repeats : 1 < f.mOutstandingFrameRepeatCount -> 0 < f.mFrameRepeatIntervalUs
  offset : -2 ^ 63 <= f.mInputBufferTimeOffsetUs ∧ f.mInputBufferTimeOffsetUs <= 0
  stopTime : minStopTimeUs <= f.mStopTimeUs ∧ f.mStopTimeUs <= int64Max
  lastFrame : -1 <= f.mLastFrameTimestampUs ∧ f.mLastFrameTimestampUs <= maxFrameTimeUs
  dropper : forall d, f.mFrameDropper = some d -> d.Bounded

theorem bounded_unset {mLastFrameTimestampUs : Int}
    (hlast : -1 <= mLastFrameTimestampUs ∧ mLastFrameTimestampUs <= maxFrameTimeUs) :
    Bounded {
      mFrameRepeatIntervalUs := -1
      mOutstandingFrameRepeatCount := 0
      mInputBufferTimeOffsetUs := 0
      mStopTimeUs := -1
      mLastFrameTimestampUs := mLastFrameTimestampUs
      mFrameDropper := none } where
  interval := show (-1 : Int) <= maxRepeatDelayUs by decide
  repeats := fun hmore => absurd hmore (show ¬(1 : Int) < 0 by decide)
  offset := show (-2 ^ 63 : Int) <= 0 ∧ (0 : Int) <= 0 by decide
  stopTime := show minStopTimeUs <= -1 ∧ (-1 : Int) <= int64Max by decide
  lastFrame := hlast
  dropper := fun _ hd => by cases hd

end TimeFields

/-- A frame at this time and all the repeats that are left fit. -/
structure RepeatsFit (mOutstandingFrameRepeatCount timestampNs : Int) : Prop where
  positive : 0 <= timestampNs
  left : timestampNs +
    max (mOutstandingFrameRepeatCount - 1) 0 * (maxRepeatDelayUs * 1000) <= int64Max

section Repeats

variable {count timestampNs mFrameRepeatIntervalUs : Int}

theorem repeatsFit_first (htime : FrameTime timestampNs)
    (hpositive : 0 < mFrameRepeatIntervalUs)
    (hinterval : mFrameRepeatIntervalUs <= maxRepeatDelayUs) :
    RepeatsFit kRepeatLastFrameCount (timestampNs + mFrameRepeatIntervalUs * 1000) := by
  have hnow := htime.1
  have hupper : timestampNs <= 4611686018427387904 := htime.2
  have hdelay : mFrameRepeatIntervalUs <= 461168601842738 := hinterval
  constructor
  · lia
  · show _ + 9 * (461168601842738 * 1000) <= (9223372036854775807 : Int)
    lia

theorem RepeatsFit.next (h : RepeatsFit count timestampNs) (hagain : 0 < count - 1)
    (hpositive : 0 < mFrameRepeatIntervalUs)
    (hinterval : mFrameRepeatIntervalUs <= maxRepeatDelayUs) :
    RepeatsFit (count - 1) (timestampNs + mFrameRepeatIntervalUs * 1000) := by
  have hnow := h.positive
  have hleft := h.left
  rw [max_eq_left hagain.le] at hleft
  constructor
  · lia
  · rw [max_eq_left (by lia)]
    lia

theorem RepeatsFit.fewer (h : RepeatsFit count timestampNs) {count' : Int}
    (hcount : count' <= count) : RepeatsFit count' timestampNs := by
  have hleft := h.left
  have hfewer : max (count' - 1) 0 <= max (count - 1) 0 := by
    lia
  have hdelay : 0 <= maxRepeatDelayUs * 1000 := by decide
  have hroom := mul_le_mul_of_nonneg_right hfewer hdelay
  exact ⟨h.positive, by lia⟩

theorem RepeatsFit.le (h : RepeatsFit count timestampNs) : timestampNs <= int64Max := by
  have hleft := h.left
  have hroom : 0 <= max (count - 1) 0 * (maxRepeatDelayUs * 1000) :=
    mul_nonneg (le_max_right _ _) (by decide)
  lia

theorem retimeLatest_exact {c : Control} (hpositive : 0 < c.mFrameRepeatIntervalUs)
    (hinterval : c.mFrameRepeatIntervalUs <= maxRepeatDelayUs) (hnow : 0 <= timestampNs)
    (hnext : timestampNs + c.mFrameRepeatIntervalUs * 1000 <= int64Max) :
    AllExact (Times.retimeLatest c timestampNs) := by
  have hdelay : c.mFrameRepeatIntervalUs <= 461168601842738 := hinterval
  have hnext' : timestampNs + c.mFrameRepeatIntervalUs * 1000 <= 9223372036854775807 := hnext
  unfold Times.retimeLatest
  rw [allExact_cons, allExact_singleton]
  unfold Computation.Fits FitsInt64
  constructor
  · lia
  · lia

end Repeats

structure TimesBounded (f : Frames) (times : TimeFields) : Prop where
  fields : times.Bounded
  available : forall item, item ∈ f.mAvailableBuffers -> FrameTime item.mTimestampNs
  queue : forall bi, bi ∈ f.queue -> FrameTime bi.mTimestamp
  latest : forall latest, f.mLatestBuffer = some latest ->
    RepeatsFit times.mOutstandingFrameRepeatCount latest.mTimestampNs

def GraphicBufferSource.timesBounded (s : GraphicBufferSource) : Prop :=
  TimesBounded s.toFrames s.timeFields

theorem timesBounded_initial : GraphicBufferSource.initial.timesBounded where
  fields := TimeFields.bounded_unset (by decide)
  available := fun _ hitem => (List.not_mem_nil hitem).elim
  queue := fun _ hbi => (List.not_mem_nil hbi).elim
  latest := fun _ hlatest => by cases hlatest

end Bqhelper
end Sm7225
