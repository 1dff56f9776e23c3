import Mathlib.Data.List.TakeWhile
import Sm7225.Bqhelper.Source

/-!
# The order of the timestamps

The encoder wants timestamps that never go backward.  While the last capture time
is negative, it stands for no capture at all, and every frame starts the time
lapse or the slow motion again.  From the first frame with a media time that is
not negative on, the timestamps of every mode go forward.
-/

namespace Sm7225
namespace Bqhelper

/-!
# Rounding
-/

theorem llround_nonneg {q : Rat} (hq : 0 <= q) : 0 <= llround q := by
  unfold llround
  rw [if_pos hq, Rat.le_floor_iff]
  push_cast
  linarith

theorem llround_nonpos {q : Rat} (hq : q <= 0) : llround q <= 0 := by
  by_cases hzero : q = 0
  · rw [hzero]
    decide +kernel
  · have hneg : ¬ 0 <= q := fun h => hzero (le_antisymm hq h)
    have hfloor : 0 <= (-q + 1 / 2).floor := by
      rw [Rat.le_floor_iff]
      push_cast
      linarith
    unfold llround
    rw [if_neg hneg]
    lia

theorem floor_mono {p q : Rat} (h : p <= q) : p.floor <= q.floor := by
  rw [Rat.le_floor_iff]
  exact (Rat.floor_le p).trans h

theorem llround_mono {p q : Rat} (h : p <= q) : llround p <= llround q := by
  by_cases hp : 0 <= p
  · have hq : 0 <= q := hp.trans h
    unfold llround
    rw [if_pos hp, if_pos hq]
    exact floor_mono (by linarith)
  · by_cases hq : 0 <= q
    · have hle := llround_nonpos (le_of_not_ge hp)
      exact hle.trans (llround_nonneg hq)
    · unfold llround
      rw [if_neg hp, if_neg hq]
      have hfloor : (-q + 1 / 2).floor <= (-p + 1 / 2).floor :=
        floor_mono (by linarith)
      lia

theorem llround_zero : llround 0 = 0 :=
  le_antisymm (llround_nonpos le_rfl) (llround_nonneg le_rfl)

theorem one_le_llround {q : Rat} (hq : 1 <= q) : 1 <= llround q := by
  have hnonneg : 0 <= q := by linarith
  unfold llround
  rw [if_pos hnonneg, Rat.le_floor_iff]
  push_cast
  linarith

/-!
# Sequences of calls
-/

/-- The calls that a running source makes on its clock. -/
inductive ClockOp where
  | setTimeOffsetUs (timeOffsetUs : Int)
  | calculateCodecTimestamp (bufferTimeNs : Int)
  deriving DecidableEq, Repr

namespace CodecClock

def setTimeOffsetUs (c : CodecClock) (timeOffsetUs : Int) : CodecClock :=
  if 0 <= timeOffsetUs then
    c
  else
    { c with mInputBufferTimeOffsetUs := timeOffsetUs }

/-- The clock that {lit}`configure` leaves, with the settings made after it. -/
def fresh (fps captureFps : Rat) (snapTimestamps : Bool) : CodecClock :=
  { initial with
    mFps := fps
    mCaptureFps := captureFps
    mSnapTimestamps := snapTimestamps }

end CodecClock

section Sequences

variable (dropper : Option FrameDropper)

def codecTimes : CodecClock -> List ClockOp -> List Int
  | _, [] => []
  | c, .setTimeOffsetUs timeOffsetUs :: ops =>
      codecTimes (c.setTimeOffsetUs timeOffsetUs) ops
  | c, .calculateCodecTimestamp bufferTimeNs :: ops =>
      match c.calculateCodecTimestamp_l dropper bufferTimeNs with
      | none => codecTimes c ops
      | some (codecTimeUs, c') => codecTimeUs :: codecTimes c' ops

/-- The timestamps do not go backward, and they go forward where they are not
scaled. -/
structure GoesForward (c : CodecClock) (ops : List ClockOp) : Prop where
  nondecreasing : (codecTimes dropper c ops).Pairwise (· <= ·)
  increasing : c.rescales = false -> (codecTimes dropper c ops).Pairwise (· < ·)

end Sequences

/-- The media times of the calls: the buffer times with their offsets. -/
def mediaTimes : Int -> List ClockOp -> List Int
  | _, [] => []
  | offset, .setTimeOffsetUs timeOffsetUs :: ops =>
      mediaTimes (if 0 <= timeOffsetUs then offset else timeOffsetUs) ops
  | offset, .calculateCodecTimestamp bufferTimeNs :: ops =>
      (Int.tdiv bufferTimeNs 1000 + offset) :: mediaTimes offset ops

/-- The media times before the first that is not negative. -/
def leadingTimes (offset : Int) (ops : List ClockOp) : List Int :=
  (mediaTimes offset ops).takeWhile fun timeUs => decide (timeUs < 0)

theorem neg_of_mem_leadingTimes {offset timeUs : Int} {ops : List ClockOp}
    (h : timeUs ∈ leadingTimes offset ops) : timeUs < 0 := by
  unfold leadingTimes at h
  have htest := List.mem_takeWhile_imp h
  exact of_decide_eq_true htest

/-- A media time in the time of the playback. -/
def scaledTime (fps captureFps : Rat) (timeUs : Int) : Int :=
  llround (timeUs * captureFps / fps)

/-!
# Clocks that go forward
-/

theorem codecTimes_pairwise {R : Int -> Int -> Prop} [IsTrans Int R]
    {dropper : Option FrameDropper} {I : CodecClock -> Prop}
    (hoffset : forall c timeOffsetUs, I c -> I (c.setTimeOffsetUs timeOffsetUs))
    (hstep : forall c bufferTimeNs codecTimeUs c', I c ->
      c.calculateCodecTimestamp_l dropper bufferTimeNs = some (codecTimeUs, c') ->
      I c' ∧ codecTimeUs = c'.mPrevFrameUs ∧ R c.mPrevFrameUs c'.mPrevFrameUs)
    (ops : List ClockOp) (c : CodecClock) (hc : I c) :
    (codecTimes dropper c ops).Pairwise R ∧
      forall codecTimeUs, codecTimeUs ∈ codecTimes dropper c ops ->
        R c.mPrevFrameUs codecTimeUs := by
  induction ops generalizing c with
  | nil => exact ⟨List.Pairwise.nil, nofun⟩
  | cons op ops ih =>
      cases op with
      | setTimeOffsetUs timeOffsetUs =>
          have hprev : (c.setTimeOffsetUs timeOffsetUs).mPrevFrameUs =
              c.mPrevFrameUs := by
            unfold CodecClock.setTimeOffsetUs
            split <;> rfl
          have hrest := ih _ (hoffset c timeOffsetUs hc)
          rw [hprev] at hrest
          exact hrest
      | calculateCodecTimestamp bufferTimeNs =>
          rw [codecTimes]
          cases hcall : c.calculateCodecTimestamp_l dropper bufferTimeNs with
          | none => exact ih c hc
          | some accepted =>
              rcases hstep c bufferTimeNs accepted.1 accepted.2 hc hcall with
                ⟨hinv, htime, hrel⟩
              rcases ih accepted.2 hinv with ⟨hpairwise, hafter⟩
              simp only [List.pairwise_cons, List.forall_mem_cons]
              rw [htime]
              refine ⟨⟨hafter, hpairwise⟩, hrel, ?_⟩
              intro codecTimeUs hmem
              exact IsTrans.trans _ _ _ hrel (hafter codecTimeUs hmem)

namespace CodecClock

theorem setTimeOffsetUs_eq (c : CodecClock) (timeOffsetUs : Int) :
    c.setTimeOffsetUs timeOffsetUs =
      { c with
        mInputBufferTimeOffsetUs :=
          if 0 <= timeOffsetUs then c.mInputBufferTimeOffsetUs
          else timeOffsetUs } := by
  unfold setTimeOffsetUs
  split <;> rfl

theorem step_of_not_rescales {c c' : CodecClock} {dropper : Option FrameDropper}
    (hdropper : dropsBackward dropper = true) (hc : c.rescales = false)
    {bufferTimeNs codecTimeUs : Int}
    (h : c.calculateCodecTimestamp_l dropper bufferTimeNs =
      some (codecTimeUs, c')) :
    c'.rescales = false ∧ codecTimeUs = c'.mPrevFrameUs ∧
      c.mPrevFrameUs < c'.mPrevFrameUs := by
  unfold calculateCodecTimestamp_l at h
  simp only [hc, hdropper, and_true] at h
  by_cases hlate :
      Int.tdiv bufferTimeNs 1000 + c.mInputBufferTimeOffsetUs <= c.mPrevFrameUs
  · simp [hlate] at h
  · simp only [hlate] at h
    cases h
    exact ⟨hc, rfl, not_le.mp hlate⟩

structure Running (c : CodecClock) : Prop where
  rescales : c.rescales = true
  mFps : 0 < c.mFps
  mBaseCaptureUs : 0 <= c.mBaseCaptureUs
  mFrameCount : 0 <= c.mFrameCount
  snapped : c.mSnapTimestamps = true ->
    c.mPrevCaptureUs = c.mBaseCaptureUs +
        llround ((c.mFrameCount * 1000000 : Int) / c.mCaptureFps) ∧
      c.mPrevFrameUs = c.mBaseFrameUs +
        llround ((c.mFrameCount * 1000000 : Int) / c.mFps)
  scaled : c.mSnapTimestamps = false ->
    c.mBaseCaptureUs <= c.mPrevCaptureUs ∧
      c.mPrevFrameUs = c.mBaseFrameUs +
        llround ((c.mPrevCaptureUs - c.mBaseCaptureUs : Int) *
          (c.mCaptureFps / c.mFps))

theorem mCaptureFps_pos {c : CodecClock} (hc : c.rescales = true) :
    0 < c.mCaptureFps := by
  unfold rescales at hc
  exact (of_decide_eq_true hc).1

theorem Running.mPrevCaptureUs_nonneg {c : CodecClock} (h : Running c) :
    0 <= c.mPrevCaptureUs := by
  have hbase := h.mBaseCaptureUs
  cases hsnap : c.mSnapTimestamps with
  | true =>
      have hround : 0 <= llround ((c.mFrameCount * 1000000 : Int) / c.mCaptureFps) := by
        have hcount : (0 : Rat) <= (c.mFrameCount * 1000000 : Int) := by
          have hfps := h.mFrameCount
          exact_mod_cast (by lia : (0 : Int) <= c.mFrameCount * 1000000)
        exact llround_nonneg
          (div_nonneg hcount (mCaptureFps_pos h.rescales).le)
      have hcapture := (h.snapped hsnap).1
      lia
  | false =>
      have hcapture := (h.scaled hsnap).1
      lia

theorem llround_frames_mono {rate : Rat} (hrate : 0 < rate) {n m : Int}
    (h : n <= m) :
    llround ((n * 1000000 : Int) / rate) <= llround ((m * 1000000 : Int) / rate) := by
  apply llround_mono
  apply div_le_div_of_nonneg_right _ hrate.le
  exact_mod_cast (by lia : n * 1000000 <= m * 1000000)

theorem Running.snap {c c' : CodecClock} (h : Running c)
    (hsnap : c.mSnapTimestamps = true) {timeUs : Int}
    (hcall : c.snap timeUs = some c') :
    Running c' ∧ c.mPrevFrameUs <= c'.mPrevFrameUs := by
  unfold CodecClock.snap at hcall
  simp only at hcall
  split at hcall
  · cases hcall
  · rename_i hfar
    cases hcall
    have hone : (1 : Rat) <= if (timeUs - c.mPrevCaptureUs : Int) *
        c.mCaptureFps / 1000000 <= 1 then 1 else
          (timeUs - c.mPrevCaptureUs : Int) * c.mCaptureFps / 1000000 := by
      split
      · exact le_rfl
      · rename_i hmore
        exact (not_le.mp hmore).le
    have hround := one_le_llround hone
    have hcount := h.mFrameCount
    refine ⟨?_, ?_⟩
    · constructor
      · exact h.rescales
      · exact h.mFps
      · exact h.mBaseCaptureUs
      · show 0 <= c.mFrameCount + _
        lia
      · intro _
        exact ⟨rfl, rfl⟩
      · intro hfalse
        rw [show c.mSnapTimestamps = false from hfalse] at hsnap
        cases hsnap
    · rw [(h.snapped hsnap).2]
      apply Int.add_le_add_left
      apply llround_frames_mono h.mFps
      lia

theorem Running.step {c c' : CodecClock} {dropper : Option FrameDropper}
    (hdropper : dropsBackward dropper = true) (h : Running c)
    {bufferTimeNs codecTimeUs : Int}
    (hcall : c.calculateCodecTimestamp_l dropper bufferTimeNs =
      some (codecTimeUs, c')) :
    Running c' ∧ codecTimeUs = c'.mPrevFrameUs ∧
      c.mPrevFrameUs <= c'.mPrevFrameUs := by
  have hcapture : ¬ c.mPrevCaptureUs < 0 := not_lt.mpr h.mPrevCaptureUs_nonneg
  unfold calculateCodecTimestamp_l at hcall
  simp only [h.rescales, hcapture, hdropper, and_true, if_true, if_false] at hcall
  cases hsnap : c.mSnapTimestamps with
  | true =>
      rw [if_pos hsnap] at hcall
      rcases Option.map_eq_some_iff.mp hcall with ⟨next, hnext, heq⟩
      cases heq
      rcases h.snap hsnap hnext with ⟨hrunning, hle⟩
      exact ⟨hrunning, rfl, hle⟩
  | false =>
      rw [hsnap, if_neg (by decide)] at hcall
      split at hcall
      · cases hcall
      · rename_i hlate
        cases hcall
        rcases h.scaled hsnap with ⟨hbase, hframe⟩
        have hratio : 0 <= c.mCaptureFps / c.mFps :=
          div_nonneg (mCaptureFps_pos h.rescales).le h.mFps.le
        refine ⟨?_, rfl, ?_⟩
        · constructor
          · exact h.rescales
          · exact h.mFps
          · exact h.mBaseCaptureUs
          · exact h.mFrameCount
          · intro htrue
            cases (show false = true from htrue)
          · intro _
            refine ⟨?_, rfl⟩
            show c.mBaseCaptureUs <= _
            lia
        · rw [hframe]
          apply Int.add_le_add_left
          apply llround_mono
          apply mul_le_mul_of_nonneg_right _ hratio
          have hlater : c.mPrevCaptureUs - c.mBaseCaptureUs <=
              Int.tdiv bufferTimeNs 1000 + c.mInputBufferTimeOffsetUs -
                c.mBaseCaptureUs := by
            lia
          exact_mod_cast hlater

theorem Running.setTimeOffsetUs {c : CodecClock} (h : Running c)
    (timeOffsetUs : Int) : Running (c.setTimeOffsetUs timeOffsetUs) := by
  rw [setTimeOffsetUs_eq]
  exact ⟨h.rescales, h.mFps, h.mBaseCaptureUs, h.mFrameCount, h.snapped, h.scaled⟩

theorem first_capture {c : CodecClock} (hrescales : c.rescales = true)
    (hfps : 0 < c.mFps) (hprev : c.mPrevCaptureUs < 0)
    (dropper : Option FrameDropper) (bufferTimeNs : Int) :
    exists c', c.calculateCodecTimestamp_l dropper bufferTimeNs =
        some (c'.mPrevFrameUs, c') ∧
      c'.mPrevCaptureUs =
        Int.tdiv bufferTimeNs 1000 + c.mInputBufferTimeOffsetUs ∧
      c'.mPrevFrameUs = scaledTime c.mFps c.mCaptureFps c'.mPrevCaptureUs ∧
      c'.mFps = c.mFps ∧ c'.mCaptureFps = c.mCaptureFps ∧
      c'.mInputBufferTimeOffsetUs = c.mInputBufferTimeOffsetUs ∧
      (0 <= c'.mPrevCaptureUs -> Running c') := by
  exists { c with
    mPrevCaptureUs :=
      Int.tdiv bufferTimeNs 1000 + c.mInputBufferTimeOffsetUs
    mBaseCaptureUs :=
      Int.tdiv bufferTimeNs 1000 + c.mInputBufferTimeOffsetUs
    mPrevFrameUs := scaledTime c.mFps c.mCaptureFps
      (Int.tdiv bufferTimeNs 1000 + c.mInputBufferTimeOffsetUs)
    mBaseFrameUs := scaledTime c.mFps c.mCaptureFps
      (Int.tdiv bufferTimeNs 1000 + c.mInputBufferTimeOffsetUs)
    mFrameCount := 0 }
  refine ⟨?_, rfl, rfl, rfl, rfl, rfl, ?_⟩
  · unfold calculateCodecTimestamp_l
    rw [if_pos hrescales, if_pos hprev]
    rfl
  · intro hnonneg
    constructor
    · exact hrescales
    · exact hfps
    · exact hnonneg
    · exact le_rfl
    · intro _
      simp [llround_zero]
    · intro _
      simp [llround_zero]

end CodecClock

/-!
# The whole sequence
-/

theorem codecTimes_of_not_rescales {c : CodecClock}
    {dropper : Option FrameDropper}
    (hdropper : CodecClock.dropsBackward dropper = true)
    (hc : c.rescales = false) (ops : List ClockOp) :
    (codecTimes dropper c ops).Pairwise (· < ·) := by
  have hoffset : forall (c : CodecClock) (timeOffsetUs : Int),
      c.rescales = false -> (c.setTimeOffsetUs timeOffsetUs).rescales = false := by
    intro c timeOffsetUs hc
    rw [CodecClock.setTimeOffsetUs_eq]
    exact hc
  exact (codecTimes_pairwise hoffset
    (fun _ _ _ _ hc h => CodecClock.step_of_not_rescales hdropper hc h) ops c
    hc).1

theorem codecTimes_of_running {c : CodecClock} {dropper : Option FrameDropper}
    (hdropper : CodecClock.dropsBackward dropper = true) (hc : c.Running)
    (ops : List ClockOp) :
    (codecTimes dropper c ops).Pairwise (· <= ·) ∧
      forall codecTimeUs, codecTimeUs ∈ codecTimes dropper c ops ->
        c.mPrevFrameUs <= codecTimeUs :=
  codecTimes_pairwise (fun _ timeOffsetUs hc => hc.setTimeOffsetUs timeOffsetUs)
    (fun _ _ _ _ hc h => hc.step hdropper h) ops c hc

theorem scaledTime_nonneg {fps captureFps : Rat} (hfps : 0 < fps)
    (hcapture : 0 < captureFps) {timeUs : Int} (h : 0 <= timeUs) :
    0 <= scaledTime fps captureFps timeUs := by
  apply llround_nonneg
  apply div_nonneg _ hfps.le
  exact mul_nonneg (by exact_mod_cast h) hcapture.le

theorem scaledTime_nonpos {fps captureFps : Rat} (hfps : 0 < fps)
    (hcapture : 0 < captureFps) {timeUs : Int} (h : timeUs <= 0) :
    scaledTime fps captureFps timeUs <= 0 := by
  apply llround_nonpos
  apply div_nonpos_of_nonpos_of_nonneg _ hfps.le
  exact mul_nonpos_of_nonpos_of_nonneg (by exact_mod_cast h) hcapture.le

theorem codecTimes_eq_append {dropper : Option FrameDropper}
    (hdropper : CodecClock.dropsBackward dropper = true) (ops : List ClockOp)
    (c : CodecClock) (hrescales : c.rescales = true) (hfps : 0 < c.mFps)
    (hprev : c.mPrevCaptureUs < 0) :
    exists later : List Int,
      codecTimes dropper c ops =
        (leadingTimes c.mInputBufferTimeOffsetUs ops).map
          (scaledTime c.mFps c.mCaptureFps) ++ later ∧
      later.Pairwise (· <= ·) ∧
      forall codecTimeUs, codecTimeUs ∈ later -> 0 <= codecTimeUs := by
  induction ops generalizing c with
  | nil => exact ⟨[], rfl, List.Pairwise.nil, nofun⟩
  | cons op ops ih =>
      cases op with
      | setTimeOffsetUs timeOffsetUs =>
          rw [codecTimes, CodecClock.setTimeOffsetUs_eq]
          exact ih _ hrescales hfps hprev
      | calculateCodecTimestamp bufferTimeNs =>
          rcases CodecClock.first_capture hrescales hfps hprev dropper
            bufferTimeNs with
            ⟨c', hcall, hcapture, hframe, hsame_fps, hsame_capture, hoffset,
              hrunning⟩
          rw [codecTimes, hcall]
          unfold leadingTimes
          rw [mediaTimes, List.takeWhile_cons, ← hcapture]
          by_cases hneg : c'.mPrevCaptureUs < 0
          · have hrescales' : c'.rescales = true := by
              unfold CodecClock.rescales
              rw [hsame_fps, hsame_capture]
              exact hrescales
            rcases ih c' hrescales' (hsame_fps ▸ hfps) hneg with
              ⟨later, htimes, hlater⟩
            exists later
            rw [hsame_fps, hsame_capture, hoffset] at htimes
            refine ⟨?_, hlater⟩
            simp only [htimes, hneg, hframe]
            rfl
          · have hrun := hrunning (not_lt.mp hneg)
            rcases codecTimes_of_running hdropper hrun ops with
              ⟨hpairwise, hafter⟩
            have hpos := CodecClock.mCaptureFps_pos hrescales
            have hnonneg : 0 <= c'.mPrevFrameUs := by
              rw [hframe]
              exact scaledTime_nonneg hfps hpos (not_lt.mp hneg)
            exists c'.mPrevFrameUs :: codecTimes dropper c' ops
            refine ⟨?_, ?_, ?_⟩
            · simp [hneg]
            · exact List.pairwise_cons.mpr ⟨hafter, hpairwise⟩
            · intro codecTimeUs hmem
              rcases List.mem_cons.mp hmem with hmem | hmem
              · rw [hmem]
                exact hnonneg
              · exact hnonneg.trans (hafter codecTimeUs hmem)

/-- The timestamps of a fresh clock go forward if and only if no time lapse or slow
motion sees its leading negative media times, scaled and rounded, go backward. -/
theorem goesForward_fresh_iff {fps captureFps : Rat}
    (hrates : 0 < captureFps -> 0 < fps) (snapTimestamps : Bool)
    {dropper : Option FrameDropper}
    (hdropper : CodecClock.dropsBackward dropper = true) (ops : List ClockOp) :
    GoesForward dropper (CodecClock.fresh fps captureFps snapTimestamps) ops <->
      ((CodecClock.fresh fps captureFps snapTimestamps).rescales = true ->
        ((leadingTimes 0 ops).map (scaledTime fps captureFps)).Pairwise
          (· <= ·)) := by
  cases hrescales :
      (CodecClock.fresh fps captureFps snapTimestamps).rescales with
  | false =>
      have hincreasing := codecTimes_of_not_rescales hdropper hrescales ops
      constructor
      · intro _ htrue
        cases htrue
      · intro _
        constructor
        · exact hincreasing.imp le_of_lt
        · intro _
          exact hincreasing
  | true =>
      have hcapture : 0 < captureFps := CodecClock.mCaptureFps_pos hrescales
      have hfps : 0 < fps := hrates hcapture
      have hprev : (CodecClock.fresh fps captureFps
          snapTimestamps).mPrevCaptureUs < 0 := by
        show (-1 : Int) < 0
        decide
      rcases codecTimes_eq_append hdropper ops _ hrescales hfps hprev with
        ⟨later, htimes, hlater, hnonneg⟩
      constructor
      · intro hforward _
        have hpairwise := hforward.nondecreasing
        rw [htimes] at hpairwise
        exact (List.pairwise_append.mp hpairwise).1
      · intro hleading
        constructor
        · rw [htimes]
          apply List.pairwise_append.mpr
          refine ⟨hleading rfl, hlater, ?_⟩
          intro early hearly late hlate
          rcases List.mem_map.mp hearly with ⟨timeUs, hmem, heq⟩
          have hneg := neg_of_mem_leadingTimes hmem
          rw [← heq]
          exact (scaledTime_nonpos hfps hcapture hneg.le).trans
            (hnonneg late hlate)
        · intro hfalse
          rw [hrescales] at hfalse
          cases hfalse

/-- A time lapse from 30 to 10 frames a second: the offset makes the times of both
frames negative. -/
def negativeStart : List ClockOp :=
  [.setTimeOffsetUs (-1000000), .calculateCodecTimestamp 500000000,
    .calculateCodecTimestamp 400000000]

theorem goesForward_fresh_iff_negativeStart :
    GoesForward none (CodecClock.fresh 30 10 false) negativeStart <->
      ((CodecClock.fresh 30 10 false).rescales = true ->
        ((leadingTimes 0 negativeStart).map (scaledTime 30 10)).Pairwise
          (· <= ·)) :=
  goesForward_fresh_iff (fun _ => by norm_num) false rfl negativeStart

/-- The second frame has the earlier timestamp. -/
theorem negativeStart_goes_backward :
    ¬ GoesForward none (CodecClock.fresh 30 10 false) negativeStart := by
  intro hforward
  have htimes : codecTimes none (CodecClock.fresh 30 10 false) negativeStart =
      [-166667, -200000] := by
    decide +kernel
  have hpairwise := hforward.nondecreasing
  rw [htimes] at hpairwise
  revert hpairwise
  decide

/-!
# The clock of the source
-/

open Lib

theorem setTimeOffsetUs_sat (timeOffsetUs : Int) (s : GraphicBufferSource) :
    Sat (Bqhelper.setTimeOffsetUs timeOffsetUs)
      (fun _ t => t.clock = s.clock.setTimeOffsetUs timeOffsetUs)
      (fun _ _ => False) s := by
  unfold Bqhelper.setTimeOffsetUs CodecClock.setTimeOffsetUs
  rw [sat_ite]
  constructor
  · intro hnonneg
    rw [if_pos hnonneg]
    exact rfl
  · intro hneg
    rw [if_neg hneg]
    exact rfl

theorem setTimeLapseConfig_sat (fps captureFps : Rat) (s : GraphicBufferSource)
    (hs : 0 < s.clock.mCaptureFps -> 0 < s.clock.mFps) :
    Sat (setTimeLapseConfig fps captureFps)
      (fun _ t => 0 < t.clock.mCaptureFps -> 0 < t.clock.mFps)
      (fun _ _ => False) s := by
  unfold setTimeLapseConfig
  rw [sat_bind, sat_get, sat_ite]
  constructor
  · intro _
    exact hs
  · intro haccepted _
    have hfps : 0 < fps := by
      by_contra hnot
      exact haccepted (by simp [hnot])
    exact hfps

end Bqhelper
end Sm7225
