import Mathlib.Data.Int.Notation

/-!
# Results

The status numbers of the vendor's functions and the results of the service.
-/

namespace Sm7225
namespace Audio

inductive Result where
  | ok
  | notInitialized
  | invalidArguments
  | invalidState
  | notSupported
  deriving DecidableEq, Repr

def EINVAL : Int := 22

def ENODEV : Int := 19

def ENOSYS : Int := 38

def ENODATA : Int := 61

def analyzeStatus (status : Int) : Result :=
  if status = 0 then .ok
  else if status = -EINVAL then .invalidArguments
  else if status = -ENODATA then .invalidState
  else if status = -ENODEV then .notInitialized
  else if status = -ENOSYS then .notSupported
  else .invalidState

theorem analyzeStatus_ne_ok {status : Int} (h : status ≠ 0) :
    analyzeStatus status ≠ .ok := by
  unfold analyzeStatus
  rw [if_neg h]
  grind

theorem analyzeStatus_eq_invalidArguments_iff (status : Int) :
    analyzeStatus status = .invalidArguments <-> status = -EINVAL := by
  by_cases hinval : status = -EINVAL
  · rw [hinval]
    decide
  · have hother : analyzeStatus status ≠ .invalidArguments := by
      unfold analyzeStatus
      rw [if_neg hinval]
      grind
    exact iff_of_false hother hinval

end Audio
end Sm7225
