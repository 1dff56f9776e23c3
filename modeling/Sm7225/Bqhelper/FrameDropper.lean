import Sm7225.Lib.Binary32
import Sm7225.Bqhelper.Types

/-!
# The frame dropper

Keeps the frame rate under a bound.  Times are whole microseconds, and the rate
is a {lit}`float`.
-/

namespace Sm7225
namespace Bqhelper

open Lib

def kMaxJitterUs : Int := 2000

structure FrameDropper where
  mDesiredMinTimeUs : Int
  mMinIntervalUs : Int
  deriving DecidableEq, Repr

namespace FrameDropper

def new : FrameDropper where
  mDesiredMinTimeUs := -1
  mMinIntervalUs := 0

def setMaxFrameRate (d : FrameDropper) (maxFrameRate : Binary32) :
    Status × FrameDropper :=
  if maxFrameRate.lt 0 then
    (.ok, { d with mMinIntervalUs := -1 })
  else if maxFrameRate = 0 then
    (.badValue, d)
  else
    (.ok, { d with mMinIntervalUs := (Binary32.div 1000000 maxFrameRate).toInt64 })

def shouldDrop (d : FrameDropper) (timeUs : Int) : Bool × FrameDropper :=
  if d.mMinIntervalUs <= 0 then
    (false, d)
  else if d.mDesiredMinTimeUs < 0 then
    (false, { d with mDesiredMinTimeUs := timeUs + d.mMinIntervalUs })
  else if timeUs < d.mDesiredMinTimeUs - kMaxJitterUs then
    (true, d)
  else
    let n := Int.tdiv (timeUs - d.mDesiredMinTimeUs + kMaxJitterUs)
      d.mMinIntervalUs
    (false, { d with
      mDesiredMinTimeUs := d.mDesiredMinTimeUs + (n + 1) * d.mMinIntervalUs })

/-- {lit}`disabled`: every drop of a frame is turned off. -/
def disabled (d : FrameDropper) : Bool :=
  d.mMinIntervalUs == -1

end FrameDropper

end Bqhelper
end Sm7225
