import Sm7225.Bqhelper.FrameDropper

/-!
# Timestamps for the codec

The computation of the media time of a frame, with its three modes: the frame's
own time, time lapse or slow motion by scaling, and slow motion snapped to the
capture grid.  Rates are rational numbers and all times are integers.
-/

namespace Sm7225
namespace Bqhelper

/-- {lit}`std::llround`: the nearest integer, halves away from zero. -/
def llround (q : Rat) : Int :=
  if 0 <= q then (q + 1 / 2).floor else -((-q + 1 / 2).floor)

def kTimestampFluctuation : Rat := 1 / 20

/-- The fields that the timestamp computation reads and writes. -/
structure CodecClock where
  mFps : Rat
  mCaptureFps : Rat
  mSnapTimestamps : Bool
  mBaseCaptureUs : Int
  mBaseFrameUs : Int
  mFrameCount : Int
  mPrevCaptureUs : Int
  mPrevFrameUs : Int
  mInputBufferTimeOffsetUs : Int
  deriving DecidableEq, Repr

namespace CodecClock

/-- The field values set by the constructor of the source. -/
def initial : CodecClock where
  mFps := -1
  mCaptureFps := -1
  mSnapTimestamps := true
  mBaseCaptureUs := -1
  mBaseFrameUs := -1
  mFrameCount := 0
  mPrevCaptureUs := -1
  mPrevFrameUs := -1
  mInputBufferTimeOffsetUs := 0

/-- Whether the rates ask for time lapse or slow motion. -/
def rescales (c : CodecClock) : Bool :=
  decide (0 < c.mCaptureFps ∧
    (2 * c.mCaptureFps < c.mFps ∨ 2 * c.mFps < c.mCaptureFps))

/-- A frame whose time does not advance is let through only when the client has
disabled the dropper. -/
def dropsBackward (dropper : Option FrameDropper) : Bool :=
  match dropper with
  | none => true
  | some d => !d.disabled

def snap (c : CodecClock) (timeUs : Int) : Option CodecClock :=
  let nFrames : Rat := (timeUs - c.mPrevCaptureUs : Int) * c.mCaptureFps / 1000000
  if nFrames < 1 / 2 - kTimestampFluctuation then
    none
  else
    let nFrames := if nFrames <= 1 then 1 else nFrames
    let frameCount := c.mFrameCount + llround nFrames
    some { c with
      mFrameCount := frameCount
      mPrevCaptureUs :=
        c.mBaseCaptureUs + llround ((frameCount * 1000000 : Int) / c.mCaptureFps)
      mPrevFrameUs :=
        c.mBaseFrameUs + llround ((frameCount * 1000000 : Int) / c.mFps) }

/-- {lit}`calculateCodecTimestamp_l`: the media time of the frame and the
updated fields, or none when the frame is rejected, which changes nothing. -/
def calculateCodecTimestamp_l (c : CodecClock) (dropper : Option FrameDropper)
    (bufferTimeNs : Int) : Option (Int × CodecClock) :=
  let timeUs := Int.tdiv bufferTimeNs 1000 + c.mInputBufferTimeOffsetUs
  if c.rescales then
    if c.mPrevCaptureUs < 0 then
      let frameUs := llround (timeUs * c.mCaptureFps / c.mFps)
      some (frameUs, { c with
        mPrevCaptureUs := timeUs
        mBaseCaptureUs := timeUs
        mPrevFrameUs := frameUs
        mBaseFrameUs := frameUs
        mFrameCount := 0 })
    else if c.mSnapTimestamps then
      (c.snap timeUs).map (fun c' => (c'.mPrevFrameUs, c'))
    else if timeUs <= c.mPrevCaptureUs ∧ dropsBackward dropper then
      none
    else
      let frameUs := c.mBaseFrameUs +
        llround ((timeUs - c.mBaseCaptureUs : Int) * (c.mCaptureFps / c.mFps))
      some (frameUs, { c with
        mPrevCaptureUs := timeUs
        mPrevFrameUs := frameUs })
  else if timeUs <= c.mPrevFrameUs ∧ dropsBackward dropper then
    none
  else
    some (timeUs, { c with mPrevFrameUs := timeUs })

theorem snap_settings {c c' : CodecClock} {timeUs : Int} (h : c.snap timeUs = some c') :
    c' = { c with
      mPrevFrameUs := c'.mPrevFrameUs
      mPrevCaptureUs := c'.mPrevCaptureUs
      mFrameCount := c'.mFrameCount } := by
  unfold snap at h
  dsimp only at h
  split at h
  · cases h
  · cases h
    rfl

/-- The rates, the offset and whether timestamps are snapped stay. -/
theorem calculateCodecTimestamp_l_settings {c c' : CodecClock}
    {dropper : Option FrameDropper} {bufferTimeNs codecTimeUs : Int}
    (h : c.calculateCodecTimestamp_l dropper bufferTimeNs = some (codecTimeUs, c')) :
    c' = { c with
      mPrevFrameUs := c'.mPrevFrameUs
      mPrevCaptureUs := c'.mPrevCaptureUs
      mBaseFrameUs := c'.mBaseFrameUs
      mBaseCaptureUs := c'.mBaseCaptureUs
      mFrameCount := c'.mFrameCount } := by
  unfold calculateCodecTimestamp_l at h
  dsimp only at h
  split at h
  · split at h
    · cases h
      rfl
    · split at h
      · rcases Option.map_eq_some_iff.mp h with ⟨snapped, hsnapped, heq⟩
        cases heq
        rw [snap_settings hsnapped]
      · split at h
        · cases h
        · cases h
          rfl
  · split at h
    · cases h
    · cases h
      rfl

end CodecClock

end Bqhelper
end Sm7225
