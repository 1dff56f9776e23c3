import Mathlib.Tactic.FieldSimp
import Mathlib.Tactic.NormNum
import Sm7225.Bqhelper.CodecOrder

/-!
# The capture grid

In slow motion with snapped timestamps every accepted frame is at a whole number of
captures after the first.  Each new point is computed from that number and not
from the last point, so the rounding errors do not add up.
-/

namespace Sm7225
namespace Bqhelper

/-!
# Rounding
-/

theorem llround_near (q : Rat) :
    -(1 / 2) <= (llround q : Rat) - q ∧ (llround q : Rat) - q <= 1 / 2 := by
  unfold llround
  by_cases hq : 0 <= q
  · rw [if_pos hq]
    have hle := Rat.floor_le (q + 1 / 2)
    have hlt := Rat.lt_floor_add_one (q + 1 / 2)
    push_cast at hlt
    constructor <;> linarith
  · rw [if_neg hq]
    have hle := Rat.floor_le (-q + 1 / 2)
    have hlt := Rat.lt_floor_add_one (-q + 1 / 2)
    push_cast at hlt ⊢
    constructor <;> linarith

def Nearest (q : Rat) (n : Int) : Prop :=
  |q - n| < 1 / 2 ∨ |q - n| = 1 / 2 ∧ |q| < |(n : Rat)|

theorem llround_nearest (q : Rat) : Nearest q (llround q) := by
  rcases llround_near q with ⟨hlow, hhigh⟩
  have hle : |q - llround q| <= 1 / 2 := by
    rw [abs_le]
    constructor <;> linarith
  rcases lt_or_eq_of_le hle with hlt | hhalf
  · exact .inl hlt
  · refine .inr ⟨hhalf, ?_⟩
    by_cases hq : 0 <= q
    · have hround : 0 <= (llround q : Rat) := by
        exact_mod_cast llround_nonneg hq
      have hup : q - llround q < 1 / 2 := by
        unfold llround
        rw [if_pos hq]
        have hlt := Rat.lt_floor_add_one (q + 1 / 2)
        push_cast at hlt
        linarith
      rw [abs_of_nonneg hq, abs_of_nonneg hround]
      rcases abs_eq (by norm_num) |>.mp hhalf with h | h <;> linarith
    · have hround : (llround q : Rat) <= 0 := by
        exact_mod_cast llround_nonpos (le_of_not_ge hq)
      have hdown : llround q - q < 1 / 2 := by
        unfold llround
        rw [if_neg hq]
        have hlt := Rat.lt_floor_add_one (-q + 1 / 2)
        push_cast at hlt ⊢
        linarith
      rw [abs_of_nonpos (le_of_not_ge hq), abs_of_nonpos hround]
      rcases abs_eq (by norm_num) |>.mp hhalf with h | h <;> linarith

theorem Nearest.distance {q : Rat} {n : Int} (h : Nearest q n) : |q - n| <= 1 / 2 := by
  rcases h with hlt | hhalf
  · exact hlt.le
  · exact hhalf.1.le

theorem Nearest.le {q : Rat} {n m : Int} (hn : Nearest q n) (hm : Nearest q m) :
    m <= n := by
  by_contra hless
  have hnext : (n : Rat) + 1 <= m := by
    exact_mod_cast not_le.mp hless
  have hbelow := abs_le.mp hn.distance
  have habove := abs_le.mp hm.distance
  -- the number is in the middle
  have hq : q = n + 1 / 2 := by linarith
  have hm' : (m : Rat) = n + 1 := by linarith
  have hfar : |q| < |(n : Rat)| ∧ |q| < |(m : Rat)| := by
    constructor
    · rcases hn with hlt | hhalf
      · rw [abs_lt] at hlt
        linarith
      · exact hhalf.2
    · rcases hm with hlt | hhalf
      · rw [abs_lt] at hlt
        linarith
      · exact hhalf.2
  rw [hq, hm'] at hfar
  by_cases hzero : 0 <= n
  · have hcast : (0 : Rat) <= n := by
      exact_mod_cast hzero
    rw [abs_of_nonneg (by linarith : (0 : Rat) <= n + 1 / 2), abs_of_nonneg hcast] at hfar
    linarith [hfar.1]
  · have hcast : (n : Rat) + 1 <= 0 := by
      exact_mod_cast not_le.mp hzero
    rw [abs_of_nonpos (by linarith : (n : Rat) + 1 / 2 <= 0), abs_of_nonpos hcast] at hfar
    linarith [hfar.2]

theorem llround_eq_iff {q : Rat} {n : Int} : llround q = n <-> Nearest q n := by
  constructor
  · intro h
    rw [← h]
    exact llround_nearest q
  · intro h
    exact le_antisymm (h.le (llround_nearest q)) ((llround_nearest q).le h)

instance (q : Rat) (n : Int) : Decidable (Nearest q n) :=
  decidable_of_iff (llround q = n) llround_eq_iff

/-!
# Runs of the clock
-/

namespace CodecClock

def afterOp (dropper : Option FrameDropper) (c : CodecClock) : ClockOp -> CodecClock
  | .setTimeOffsetUs timeOffsetUs => c.setTimeOffsetUs timeOffsetUs
  | .calculateCodecTimestamp bufferTimeNs =>
      match c.calculateCodecTimestamp_l dropper bufferTimeNs with
      | none => c
      | some (_, c') => c'

def afterOps (dropper : Option FrameDropper) (c : CodecClock) (ops : List ClockOp) :
    CodecClock :=
  ops.foldl (afterOp dropper) c

/-- The adjusted time of a frame. -/
def mediaTime (c : CodecClock) (bufferTimeNs : Int) : Int :=
  Int.tdiv bufferTimeNs 1000 + c.mInputBufferTimeOffsetUs

/-- Slow motion, with timestamps that are snapped. -/
structure SnapsSlowMotion (c : CodecClock) : Prop where
  mFps : 0 < c.mFps
  faster : 2 * c.mFps < c.mCaptureFps
  snaps : c.mSnapTimestamps = true

structure OnGrid (c : CodecClock) : Prop where
  capture : c.mPrevCaptureUs = c.mBaseCaptureUs +
    llround ((c.mFrameCount * 1000000 : Int) / c.mCaptureFps)
  frame : c.mPrevFrameUs = c.mBaseFrameUs +
    llround ((c.mFrameCount * 1000000 : Int) / c.mFps)

/-- A call for one frame between the clocks {lit}`c` and {lit}`c'`. -/
structure SnapsFrame (dropper : Option FrameDropper) (c c' : CodecClock)
    (bufferTimeNs : Int) (first : Bool) : Prop where
  starts : first = true ->
    (c.calculateCodecTimestamp_l dropper bufferTimeNs).isSome = true
  grid : (c.calculateCodecTimestamp_l dropper bufferTimeNs).isSome = true -> c'.OnGrid
  near : (c.calculateCodecTimestamp_l dropper bufferTimeNs).isSome = true ->
    |((c.mediaTime bufferTimeNs - c'.mPrevCaptureUs : Int) : Rat)| <=
      55 / 100 * 1000000 / c.mCaptureFps + 1
  counts : (c.calculateCodecTimestamp_l dropper bufferTimeNs).isSome = true ->
    first = false -> c.mFrameCount + 1 <= c'.mFrameCount
  bases : first = false -> c'.mBaseCaptureUs = c.mBaseCaptureUs ∧
    c'.mBaseFrameUs = c.mBaseFrameUs
  rejected : (c.calculateCodecTimestamp_l dropper bufferTimeNs).isSome = false ->
    c'.mFrameCount = c.mFrameCount ∧ c'.mPrevCaptureUs = c.mPrevCaptureUs ∧
      c'.mPrevFrameUs = c.mPrevFrameUs

section Steps

variable {c c' : CodecClock}

theorem SnapsSlowMotion.mCaptureFps (h : c.SnapsSlowMotion) : 0 < c.mCaptureFps := by
  have hfps := h.mFps
  have hfaster := h.faster
  linarith

theorem SnapsSlowMotion.rescales (h : c.SnapsSlowMotion) : c.rescales = true :=
  decide_eq_true ⟨h.mCaptureFps, Or.inr h.faster⟩

theorem whole_captures {nFrames : Rat} (hfar : ¬nFrames < 1 / 2 - kTimestampFluctuation) :
    1 <= llround (if nFrames <= 1 then 1 else nFrames) ∧
      -(55 / 100) <= nFrames - llround (if nFrames <= 1 then 1 else nFrames) ∧
        nFrames - llround (if nFrames <= 1 then 1 else nFrames) <= 55 / 100 := by
  unfold kTimestampFluctuation at hfar
  by_cases hone : nFrames <= 1
  · rw [if_pos hone]
    have hround : llround 1 = 1 := by
      decide +kernel
    rw [hround]
    push_cast
    refine ⟨trivial, ?_, ?_⟩
    · linarith
    · linarith
  · rw [if_neg hone]
    have hmore : 1 <= nFrames := by
      linarith
    rcases llround_near nFrames with ⟨hlow, hhigh⟩
    refine ⟨one_le_llround hmore, ?_, ?_⟩
    · linarith
    · linarith

theorem abs_le_of_captures {near width e e' : Rat} (hwidth : 0 <= width)
    (hlow : -(55 / 100) <= near) (hhigh : near <= 55 / 100)
    (he : -(1 / 2) <= e ∧ e <= 1 / 2) (he' : -(1 / 2) <= e' ∧ e' <= 1 / 2) :
    |near * width + e - e'| <= 55 / 100 * width + 1 := by
  have hlow' : -(55 / 100) * width <= near * width :=
    mul_le_mul_of_nonneg_right hlow hwidth
  have hhigh' : near * width <= 55 / 100 * width :=
    mul_le_mul_of_nonneg_right hhigh hwidth
  rw [abs_le]
  constructor
  · linarith [he.1, he'.2]
  · linarith [he.2, he'.1]

theorem Running.snap_near (h : c.Running) (hsnap : c.mSnapTimestamps = true)
    {timeUs : Int} (hcall : c.snap timeUs = some c') :
    |((timeUs - c'.mPrevCaptureUs : Int) : Rat)| <=
        55 / 100 * 1000000 / c.mCaptureFps + 1 ∧
      c.mFrameCount + 1 <= c'.mFrameCount ∧
        c'.mBaseCaptureUs = c.mBaseCaptureUs ∧ c'.mBaseFrameUs = c.mBaseFrameUs := by
  have hpos := mCaptureFps_pos h.rescales
  have hprev := (h.snapped hsnap).1
  unfold CodecClock.snap at hcall
  dsimp only at hcall
  generalize hframes : ((timeUs - c.mPrevCaptureUs : Int) : Rat) * c.mCaptureFps /
    1000000 = nFrames at hcall
  by_cases hfar : nFrames < 1 / 2 - kTimestampFluctuation
  · rw [if_pos hfar] at hcall
    cases hcall
  · rw [if_neg hfar] at hcall
    injection hcall with hcall
    rcases whole_captures hfar with ⟨hone, hlow, hhigh⟩
    generalize llround (if nFrames <= 1 then 1 else nFrames) = whole at *
    rw [← hcall]
    refine ⟨?_, ?_, rfl, rfl⟩
    · have hold := llround_near ((c.mFrameCount * 1000000 : Int) / c.mCaptureFps)
      have hnew := llround_near
        (((c.mFrameCount + whole) * 1000000 : Int) / c.mCaptureFps)
      have hdistance : ((timeUs - (c.mBaseCaptureUs + llround
            (((c.mFrameCount + whole) * 1000000 : Int) / c.mCaptureFps)) : Int) :
            Rat) =
          (nFrames - whole) * (1000000 / c.mCaptureFps) +
            (llround ((c.mFrameCount * 1000000 : Int) / c.mCaptureFps) -
              (c.mFrameCount * 1000000 : Int) / c.mCaptureFps) -
              (llround (((c.mFrameCount + whole) * 1000000 : Int) / c.mCaptureFps) -
                ((c.mFrameCount + whole) * 1000000 : Int) / c.mCaptureFps) := by
        rw [← hframes, hprev]
        push_cast
        field_simp
        ring
      have hwidth : 0 <= 1000000 / c.mCaptureFps :=
        div_nonneg (by norm_num) hpos.le
      have hnear := abs_le_of_captures hwidth hlow hhigh hold hnew
      rw [← hdistance, ← mul_div_assoc] at hnear
      exact hnear
    · show c.mFrameCount + 1 <= c.mFrameCount + whole
      lia

theorem Running.calculates (h : c.Running) (hsnap : c.mSnapTimestamps = true)
    (dropper : Option FrameDropper) (bufferTimeNs : Int) :
    c.calculateCodecTimestamp_l dropper bufferTimeNs =
      (c.snap (c.mediaTime bufferTimeNs)).map fun c' => (c'.mPrevFrameUs, c') := by
  unfold calculateCodecTimestamp_l mediaTime
  rw [if_pos h.rescales, if_neg (not_lt.mpr h.mPrevCaptureUs_nonneg), if_pos hsnap]

theorem snap_mSnapTimestamps {timeUs : Int} (h : c.snap timeUs = some c') :
    c'.mSnapTimestamps = c.mSnapTimestamps := by
  unfold CodecClock.snap at h
  dsimp only at h
  split at h
  · cases h
  · injection h with h
    rw [← h]

theorem Running.onGrid (h : c.Running) (hsnap : c.mSnapTimestamps = true) :
    c.OnGrid :=
  ⟨(h.snapped hsnap).1, (h.snapped hsnap).2⟩

theorem Running.snapsFrame (h : c.Running) (hsnap : c.mSnapTimestamps = true)
    (dropper : Option FrameDropper) (bufferTimeNs : Int) :
    (c.afterOp dropper (.calculateCodecTimestamp bufferTimeNs)).Running ∧
      (c.afterOp dropper (.calculateCodecTimestamp bufferTimeNs)).mSnapTimestamps =
          true ∧
        SnapsFrame dropper c
          (c.afterOp dropper (.calculateCodecTimestamp bufferTimeNs)) bufferTimeNs
          false := by
  have hcalculates := h.calculates hsnap dropper bufferTimeNs
  unfold afterOp
  cases hcall : c.snap (c.mediaTime bufferTimeNs) with
  | none =>
      rw [hcall] at hcalculates
      dsimp only [Option.map_none] at hcalculates ⊢
      rw [hcalculates]
      refine ⟨h, hsnap, ?_⟩
      constructor
      · intro hfirst
        cases hfirst
      · intro haccepted
        rw [hcalculates] at haccepted
        cases haccepted
      · intro haccepted
        rw [hcalculates] at haccepted
        cases haccepted
      · intro haccepted
        rw [hcalculates] at haccepted
        cases haccepted
      · intro _
        exact ⟨rfl, rfl⟩
      · intro _
        exact ⟨rfl, rfl, rfl⟩
  | some c' =>
      rw [hcall] at hcalculates
      dsimp only [Option.map_some] at hcalculates ⊢
      rw [hcalculates]
      have hrunning := (h.snap hsnap hcall).1
      have hsnap' := (snap_mSnapTimestamps hcall).trans hsnap
      rcases h.snap_near hsnap hcall with ⟨hnear, hcount, hbase, hbase'⟩
      refine ⟨hrunning, hsnap', ?_⟩
      constructor
      · intro hfirst
        cases hfirst
      · intro _
        exact hrunning.onGrid hsnap'
      · intro _
        exact hnear
      · intro _ _
        exact hcount
      · intro _
        exact ⟨hbase, hbase'⟩
      · intro hrejected
        rw [hcalculates] at hrejected
        cases hrejected

theorem SnapsSlowMotion.snapsFrame (h : c.SnapsSlowMotion)
    (hfresh : c.mPrevCaptureUs < 0) (dropper : Option FrameDropper)
    {bufferTimeNs : Int} (hnonneg : 0 <= c.mediaTime bufferTimeNs) :
    (c.afterOp dropper (.calculateCodecTimestamp bufferTimeNs)).Running ∧
      (c.afterOp dropper (.calculateCodecTimestamp bufferTimeNs)).mSnapTimestamps =
          true ∧
        SnapsFrame dropper c
          (c.afterOp dropper (.calculateCodecTimestamp bufferTimeNs)) bufferTimeNs
          true := by
  rcases first_capture h.rescales h.mFps hfresh dropper bufferTimeNs with
    ⟨c', hcall, hcapture, _, _, _, _, hrunning⟩
  have hrunning' : c'.Running := by
    apply hrunning
    rw [hcapture]
    exact hnonneg
  have hsnap : c'.mSnapTimestamps = true := by
    unfold calculateCodecTimestamp_l at hcall
    rw [if_pos h.rescales, if_pos hfresh] at hcall
    injection hcall with hcall
    injection hcall with _ hcall
    rw [← hcall]
    exact h.snaps
  unfold afterOp
  dsimp only
  rw [hcall]
  refine ⟨hrunning', hsnap, ?_⟩
  constructor
  · intro _
    rw [hcall]
    rfl
  · intro _
    exact hrunning'.onGrid hsnap
  · intro _
    have hsame : c.mediaTime bufferTimeNs - c'.mPrevCaptureUs = 0 := by
      rw [hcapture]
      exact Int.sub_self _
    have hwidth : 0 <= 55 / 100 * 1000000 / c.mCaptureFps :=
      div_nonneg (by norm_num) h.mCaptureFps.le
    dsimp only
    rw [hsame, Int.cast_zero, abs_zero]
    linarith
  · intro _ hfirst
    cases hfirst
  · intro hfirst
    cases hfirst
  · intro hrejected
    rw [hcall] at hrejected
    cases hrejected

theorem SnapsSlowMotion.setTimeOffsetUs (h : c.SnapsSlowMotion) (timeOffsetUs : Int) :
    (c.setTimeOffsetUs timeOffsetUs).SnapsSlowMotion := by
  rw [setTimeOffsetUs_eq]
  exact ⟨h.mFps, h.faster, h.snaps⟩

end Steps

/-!
# Sequences of calls
-/

theorem Running.afterOps {c : CodecClock} (h : c.Running)
    (hsnap : c.mSnapTimestamps = true) (dropper : Option FrameDropper)
    (ops : List ClockOp) :
    (c.afterOps dropper ops).Running ∧
      (c.afterOps dropper ops).mSnapTimestamps = true := by
  induction ops generalizing c with
  | nil => exact ⟨h, hsnap⟩
  | cons op ops ih =>
      cases op with
      | setTimeOffsetUs timeOffsetUs =>
          apply ih (h.setTimeOffsetUs timeOffsetUs)
          rw [setTimeOffsetUs_eq]
          exact hsnap
      | calculateCodecTimestamp bufferTimeNs =>
          rcases h.snapsFrame hsnap dropper bufferTimeNs with ⟨hrunning, hsnap', _⟩
          exact ih hrunning hsnap'

theorem SnapsSlowMotion.afterOps {c : CodecClock} (h : c.SnapsSlowMotion)
    (hfresh : c.mPrevCaptureUs < 0) (dropper : Option FrameDropper)
    (before rest : List ClockOp)
    (hfirst : forall t,
      (mediaTimes c.mInputBufferTimeOffsetUs (before ++ rest)).head? = some t ->
        0 <= t) :
    mediaTimes c.mInputBufferTimeOffsetUs before = [] ∧
        (c.afterOps dropper before).SnapsSlowMotion ∧
          (c.afterOps dropper before).mPrevCaptureUs < 0 ∧
            (forall t, (mediaTimes
              (c.afterOps dropper before).mInputBufferTimeOffsetUs rest).head? =
                some t -> 0 <= t) ∨
      mediaTimes c.mInputBufferTimeOffsetUs before ≠ [] ∧
        (c.afterOps dropper before).Running ∧
          (c.afterOps dropper before).mSnapTimestamps = true := by
  induction before generalizing c with
  | nil => exact Or.inl ⟨rfl, h, hfresh, hfirst⟩
  | cons op before ih =>
      cases op with
      | setTimeOffsetUs timeOffsetUs =>
          have hset := h.setTimeOffsetUs timeOffsetUs
          have hafter : c.afterOps dropper (.setTimeOffsetUs timeOffsetUs :: before) =
              (c.setTimeOffsetUs timeOffsetUs).afterOps dropper before := rfl
          rw [List.cons_append, mediaTimes] at hfirst
          rw [hafter, mediaTimes]
          rw [setTimeOffsetUs_eq] at hset ⊢
          exact ih hset hfresh hfirst
      | calculateCodecTimestamp bufferTimeNs =>
          have hnonneg : 0 <= c.mediaTime bufferTimeNs := hfirst _ rfl
          rcases h.snapsFrame hfresh dropper hnonneg with ⟨hrunning, hsnap, _⟩
          right
          refine ⟨?_, hrunning.afterOps hsnap dropper before⟩
          intro hnil
          cases hnil

theorem afterOps_snoc (dropper : Option FrameDropper) (c : CodecClock)
    (ops : List ClockOp) (op : ClockOp) :
    c.afterOps dropper (ops ++ [op]) = (c.afterOps dropper ops).afterOp dropper op := by
  unfold afterOps
  rw [List.foldl_append]
  rfl

end CodecClock

/-- Every frame of a slow motion is snapped to the grid, from the first on, which
is always accepted. -/
theorem slowMotion_snapsFrame (dropper : Option FrameDropper) (c : CodecClock)
    (h : c.SnapsSlowMotion) (hfresh : c.mPrevCaptureUs < 0) (ops : List ClockOp)
    (hfirst : forall t, (mediaTimes c.mInputBufferTimeOffsetUs ops).head? = some t ->
      0 <= t)
    (before later : List ClockOp) (bufferTimeNs : Int)
    (hops : ops = before ++ .calculateCodecTimestamp bufferTimeNs :: later) :
    CodecClock.SnapsFrame dropper (c.afterOps dropper before)
      (c.afterOps dropper (before ++ [.calculateCodecTimestamp bufferTimeNs]))
      bufferTimeNs (mediaTimes c.mInputBufferTimeOffsetUs before).isEmpty := by
  rw [hops] at hfirst
  rw [CodecClock.afterOps_snoc]
  rcases h.afterOps hfresh dropper before _ hfirst with
    ⟨hnone, hsnaps, hfresh', hnonneg⟩ | ⟨hsome, hrunning, hsnap⟩
  · rw [hnone]
    exact (hsnaps.snapsFrame hfresh' dropper (hnonneg _ rfl)).2.2
  · have hlater : (mediaTimes c.mInputBufferTimeOffsetUs before).isEmpty = false := by
      rw [List.isEmpty_eq_false_iff]
      exact hsome
    rw [hlater]
    exact (hrunning.snapsFrame hsnap dropper bufferTimeNs).2.2

/-- From 120 to 30 frames a second: the second frame comes late, the third is too
close to it, and the fourth is a capture too late. -/
def unevenCaptures : List ClockOp :=
  [.calculateCodecTimestamp 1000000, .calculateCodecTimestamp 10000000,
    .calculateCodecTimestamp 12000000, .calculateCodecTimestamp 30000000]

example :
    codecTimes none (CodecClock.fresh 30 120 true) unevenCaptures =
      [4000, 37333, 104000] := by
  decide +kernel

theorem slowMotion_snapsFrame_unevenCaptures :
    CodecClock.SnapsFrame none
      ((CodecClock.fresh 30 120 true).afterOps none (unevenCaptures.take 3))
      ((CodecClock.fresh 30 120 true).afterOps none
        (unevenCaptures.take 3 ++ [.calculateCodecTimestamp 30000000]))
      30000000 (mediaTimes 0 (unevenCaptures.take 3)).isEmpty := by
  apply slowMotion_snapsFrame none (CodecClock.fresh 30 120 true) _ _
    unevenCaptures _ (unevenCaptures.take 3) [] 30000000 rfl
  · exact ⟨by decide +kernel, by decide +kernel, rfl⟩
  · decide
  · intro t ht
    have hfirst : (1000 : Int) = t := Option.some.inj ht
    rw [← hfirst]
    decide

end Bqhelper
end Sm7225
