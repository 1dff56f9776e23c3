import Mathlib.Data.Rat.Floor
import Mathlib.Tactic.Linarith
import Mathlib.Tactic.Positivity

/-!
# Floating point numbers in 32 bits

The values of {lit}`float` and their division, which rounds the quotient to the nearest
value.  A comparison cannot tell the two zeros apart, and here they are one value.
-/

namespace Sm7225
namespace Lib

inductive Binary32 where
  | nan
  | infinity (negative : Bool)
  | number (q : Rat)
  deriving DecidableEq, Repr

namespace Binary32

instance (n : Nat) : OfNat Binary32 n := ⟨number n⟩

instance : Neg Binary32 where
  neg
    | nan => nan
    | infinity negative => infinity !negative
    | number q => number (-q)

/-- The comparison of the format: nothing is less or more than what is no number. -/
def lt : Binary32 -> Binary32 -> Bool
  | number p, number q => decide (p < q)
  | infinity negative, number _ => negative
  | number _, infinity negative => !negative
  | infinity negative, infinity negative' => negative && !negative'
  | nan, _ => false
  | _, nan => false

/-!
# Rounding
-/

def power (e : Int) : Rat :=
  if 0 <= e then 2 ^ e.toNat else 1 / 2 ^ (-e).toNat

def exponent (q : Rat) : Int :=
  let e := (Nat.log2 q.num.natAbs : Int) - Nat.log2 q.den
  if power e <= q then e else e - 1

def roundEven (q : Rat) : Int :=
  let n := q.floor
  if q - n < 1 / 2 then n
  else if 1 / 2 < q - n then n + 1
  else if n % 2 = 0 then n
  else n + 1

def round (q : Rat) : Binary32 :=
  if q = 0 then
    number 0
  else
    let ulp := power (max (exponent |q| - 23) (-149))
    let r := roundEven (q / ulp) * ulp
    if 2 ^ 128 <= |r| then infinity (decide (q < 0)) else number r

def div : Binary32 -> Binary32 -> Binary32
  | number p, number q =>
      if q = 0 then
        if p = 0 then nan else infinity (decide (p < 0))
      else
        round (p / q)
  | number _, infinity _ => number 0
  | infinity negative, number q => infinity (negative ^^ decide (q < 0))
  | infinity _, infinity _ => nan
  | nan, _ => nan
  | _, nan => nan

example : div 1000000 (number (13421773 / 2 ^ 27)) = 10000000 := by
  decide +kernel

theorem power_nonneg (e : Int) : 0 <= power e := by
  unfold power
  split
  · positivity
  · positivity

theorem roundEven_nonneg {q : Rat} (h : 0 <= q) : 0 <= roundEven q := by
  have hfloor : 0 <= q.floor := Rat.le_floor_iff.mpr h
  unfold roundEven
  dsimp only
  split
  · exact hfloor
  · split
    · lia
    · split
      · exact hfloor
      · lia

theorem round_nonneg {q r : Rat} (h : 0 <= q) (hround : round q = number r) :
    0 <= r := by
  unfold round at hround
  dsimp only at hround
  split at hround
  · cases hround
    exact le_rfl
  · split at hround
    · cases hround
    · injection hround with hround
      rw [← hround]
      apply mul_nonneg _ (power_nonneg _)
      exact_mod_cast roundEven_nonneg (div_nonneg h (power_nonneg _))

/-!
# Conversion to integers
-/

def truncate (q : Rat) : Int :=
  if 0 <= q then q.floor else -((-q).floor)

/-- The mathematical value of the conversion. -/
def toInt? : Binary32 -> Option Int
  | number q => some (truncate q)
  | _ => none

/-- The conversion to {lit}`int64_t`, which stops at the ends of its range.  What is no
number becomes zero. -/
def toInt64 : Binary32 -> Int
  | nan => 0
  | infinity negative => if negative then -2 ^ 63 else 2 ^ 63 - 1
  | number q => max (-2 ^ 63) (min (truncate q) (2 ^ 63 - 1))

theorem toInt64_of_toInt? {x : Binary32} {n : Int} (h : x.toInt? = some n) :
    x.toInt64 = max (-2 ^ 63) (min n (2 ^ 63 - 1)) := by
  cases x with
  | nan => cases h
  | infinity negative => cases h
  | number q =>
      injection h with h
      rw [← h]
      rfl

theorem truncate_nonneg {q : Rat} (h : 0 <= q) : 0 <= truncate q := by
  unfold truncate
  rw [if_pos h]
  exact Rat.le_floor_iff.mpr h

theorem toInt?_div_nonneg {p : Rat} {y : Binary32} {n : Int} (hp : 0 <= p)
    (hy : y.lt 0 = false) (h : (div (number p) y).toInt? = some n) : 0 <= n := by
  cases y with
  | nan => cases h
  | infinity negative =>
      cases h
      decide
  | number q =>
      have hq : 0 <= q := not_lt.mp (of_decide_eq_false hy)
      unfold div at h
      dsimp only at h
      split at h
      · split at h
        · cases h
        · cases h
      · cases hround : round (p / q) with
        | nan =>
            rw [hround] at h
            cases h
        | infinity negative =>
            rw [hround] at h
            cases h
        | number r =>
            rw [hround] at h
            injection h with h
            rw [← h]
            exact truncate_nonneg (round_nonneg (div_nonneg hp hq) hround)

end Binary32

end Lib
end Sm7225
