import Mathlib.Tactic.Linarith
import Sm7225.Bqhelper.FrameDropper

/-!
# The rate of the frame dropper

The desired times of the dropper are on a grid of its interval.  A kept frame is
at most the jitter before the desired time, and the next desired time is the first
one on the grid that is more than the jitter after it.
-/

namespace Sm7225
namespace Bqhelper

namespace FrameDropper

/-- A dropper that has an interval and has seen no frame. -/
def every (mMinIntervalUs : Int) : FrameDropper :=
  { new with mMinIntervalUs := mMinIntervalUs }

def shouldDropAll (d : FrameDropper) : List Int -> List Int × FrameDropper
  | [] => ([], d)
  | timeUs :: rest =>
      let r := (d.shouldDrop timeUs).2.shouldDropAll rest
      (if (d.shouldDrop timeUs).1 then r.1 else timeUs :: r.1, r.2)

def kept (d : FrameDropper) (times : List Int) : List Int :=
  (d.shouldDropAll times).1

def after (d : FrameDropper) (times : List Int) : FrameDropper :=
  (d.shouldDropAll times).2

end FrameDropper

/-- The frame rate stays under the bound, and no frame is dropped without need. -/
structure KeepsRate (mMinIntervalUs : Int) (kept : List Int)
    (after : FrameDropper) : Prop where
  bound : forall (k : Nat) (first t : Int), kept[0]? = some first ->
    kept[k]? = some t -> first + k * mMinIntervalUs - 2000 <= t
  spacing : forall (i j : Nat) (t t' : Int), 1 <= i -> i < j -> kept[i]? = some t ->
    kept[j]? = some t' -> (j - i - 1) * mMinIntervalUs < t' - t
  desired : forall t, 2 <= kept.length -> kept.getLast? = some t ->
    t + 2000 < after.mDesiredMinTimeUs ∧
      after.mDesiredMinTimeUs <= t + 2000 + mMinIntervalUs
  keeps : forall t timeUs, kept.getLast? = some t -> t + mMinIntervalUs <= timeUs ->
    (after.shouldDrop timeUs).1 = false

/-!
# One call
-/

structure FrameDropper.Running (mMinIntervalUs : Int) (d : FrameDropper) : Prop where
  interval : d.mMinIntervalUs = mMinIntervalUs
  positive : 0 < mMinIntervalUs
  desired : 0 <= d.mDesiredMinTimeUs

inductive FrameDropper.Judges (mMinIntervalUs timeUs : Int) (d : FrameDropper) :
    Bool -> FrameDropper -> Prop where
  | drops (hearly : timeUs < d.mDesiredMinTimeUs - 2000) :
      Judges mMinIntervalUs timeUs d true d
  | keeps (d' : FrameDropper) (hrunning : d'.Running mMinIntervalUs)
      (hlate : d.mDesiredMinTimeUs - 2000 <= timeUs)
      (hgrid : d.mDesiredMinTimeUs + mMinIntervalUs <= d'.mDesiredMinTimeUs)
      (hafter : timeUs + 2000 < d'.mDesiredMinTimeUs)
      (hsoon : d'.mDesiredMinTimeUs <= timeUs + 2000 + mMinIntervalUs) :
      Judges mMinIntervalUs timeUs d false d'

namespace FrameDropper

variable {mMinIntervalUs : Int} {d : FrameDropper}

theorem Running.judges (h : d.Running mMinIntervalUs) (timeUs : Int) :
    d.Judges mMinIntervalUs timeUs (d.shouldDrop timeUs).1
      (d.shouldDrop timeUs).2 := by
  have hpositive := h.positive
  have hdesired := h.desired
  have hinterval : ¬d.mMinIntervalUs <= 0 := by
    rw [h.interval]
    lia
  have hseen : ¬d.mDesiredMinTimeUs < 0 := by
    lia
  unfold shouldDrop kMaxJitterUs
  rw [if_neg hinterval, if_neg hseen]
  by_cases hearly : timeUs < d.mDesiredMinTimeUs - 2000
  · rw [if_pos hearly]
    exact .drops hearly
  · rw [if_neg hearly]
    -- the division rounds down, since the frame is not early
    have hnonneg : 0 <= timeUs - d.mDesiredMinTimeUs + 2000 := by
      lia
    have hdiv := Int.tdiv_eq_ediv_of_nonneg (b := mMinIntervalUs) hnonneg
    have hsplit := Int.mul_ediv_add_emod (timeUs - d.mDesiredMinTimeUs + 2000)
      mMinIntervalUs
    have hrest := Int.emod_nonneg (timeUs - d.mDesiredMinTimeUs + 2000)
      hpositive.ne'
    have hrest' := Int.emod_lt_of_pos (timeUs - d.mDesiredMinTimeUs + 2000)
      hpositive
    have hquotient := Int.ediv_nonneg hnonneg hpositive.le
    rw [h.interval, hdiv]
    generalize (timeUs - d.mDesiredMinTimeUs + 2000) / mMinIntervalUs = n at *
    have hgrid : (n + 1) * mMinIntervalUs = mMinIntervalUs * n + mMinIntervalUs := by
      ring
    have hforward : 0 <= mMinIntervalUs * n :=
      mul_nonneg hpositive.le hquotient
    dsimp only
    rw [hgrid]
    refine .keeps _ ⟨rfl, hpositive, ?_⟩ ?_ ?_ ?_ ?_
    · show 0 <= d.mDesiredMinTimeUs + (mMinIntervalUs * n + mMinIntervalUs)
      lia
    · lia
    · show d.mDesiredMinTimeUs + mMinIntervalUs <=
        d.mDesiredMinTimeUs + (mMinIntervalUs * n + mMinIntervalUs)
      lia
    · show timeUs + 2000 < d.mDesiredMinTimeUs + (mMinIntervalUs * n + mMinIntervalUs)
      lia
    · show d.mDesiredMinTimeUs + (mMinIntervalUs * n + mMinIntervalUs) <=
        timeUs + 2000 + mMinIntervalUs
      lia

theorem shouldDrop_every (hpositive : 0 < mMinIntervalUs) (timeUs : Int) :
    (every mMinIntervalUs).shouldDrop timeUs =
      (false, { every mMinIntervalUs with
        mDesiredMinTimeUs := timeUs + mMinIntervalUs }) := by
  have hinterval : ¬(every mMinIntervalUs).mMinIntervalUs <= 0 :=
    Int.not_le.mpr hpositive
  unfold shouldDrop
  rw [if_neg hinterval]
  rfl

/-!
# Sequences of calls
-/

theorem Running.kept_cons (h : d.Running mMinIntervalUs) (timeUs : Int)
    (times : List Int) :
    d.kept (timeUs :: times) = d.kept times ∧ d.after (timeUs :: times) =
        d.after times ∧ timeUs < d.mDesiredMinTimeUs - 2000 ∨
      exists d', d.Judges mMinIntervalUs timeUs false d' ∧
        d.kept (timeUs :: times) = timeUs :: d'.kept times ∧
          d.after (timeUs :: times) = d'.after times := by
  have hjudges := h.judges timeUs
  have hcons : d.kept (timeUs :: times) =
      if (d.shouldDrop timeUs).1 then (d.shouldDrop timeUs).2.kept times
        else timeUs :: (d.shouldDrop timeUs).2.kept times := rfl
  have hafter : d.after (timeUs :: times) =
      (d.shouldDrop timeUs).2.after times := rfl
  rw [hcons, hafter]
  generalize (d.shouldDrop timeUs).1 = drops at *
  generalize (d.shouldDrop timeUs).2 = d' at *
  cases hjudges with
  | drops hearly => exact Or.inl ⟨rfl, rfl, hearly⟩
  | keeps _ hrunning hlate hgrid hafter hsoon =>
      exact Or.inr ⟨d', .keeps d' hrunning hlate hgrid hafter hsoon, rfl, rfl⟩

theorem Running.kept_ge (h : d.Running mMinIntervalUs) (times : List Int) (k : Nat)
    (t : Int) (hk : (d.kept times)[k]? = some t) :
    d.mDesiredMinTimeUs + k * mMinIntervalUs - 2000 <= t := by
  induction times generalizing d k with
  | nil => cases hk
  | cons timeUs times ih =>
      rcases h.kept_cons timeUs times with ⟨hsame, _, _⟩ | ⟨d', hjudges, hkept, _⟩
      · rw [hsame] at hk
        exact ih h k hk
      · rw [hkept] at hk
        cases hjudges with
        | keeps _ hrunning hlate hgrid _ _ =>
            cases k with
            | zero =>
                injection hk with ht
                rw [← ht]
                push_cast
                lia
            | succ k =>
                have hrest := ih hrunning k hk
                have hnext : ((k + 1 : Nat) : Int) * mMinIntervalUs =
                    k * mMinIntervalUs + mMinIntervalUs := by
                  push_cast
                  ring
                rw [hnext]
                lia

theorem Running.kept_spacing (h : d.Running mMinIntervalUs) (times : List Int)
    (i j : Nat) (t t' : Int) (hij : i < j) (hi : (d.kept times)[i]? = some t)
    (hj : (d.kept times)[j]? = some t') :
    (j - i - 1) * mMinIntervalUs < t' - t := by
  induction times generalizing d i j with
  | nil => cases hi
  | cons timeUs times ih =>
      rcases h.kept_cons timeUs times with ⟨hsame, _, _⟩ | ⟨d', hjudges, hkept, _⟩
      · rw [hsame] at hi hj
        exact ih h i j hij hi hj
      · rw [hkept] at hi hj
        cases hjudges with
        | keeps _ hrunning hlate _ hafter _ =>
            cases j with
            | zero => exact absurd hij (Nat.not_lt_zero i)
            | succ j =>
                cases i with
                | zero =>
                    injection hi with ht
                    have hrest := hrunning.kept_ge times j t' hj
                    rw [← ht]
                    push_cast
                    ring_nf at hrest ⊢
                    lia
                | succ i =>
                    have hrest := ih hrunning i j (Nat.lt_of_succ_lt_succ hij) hi hj
                    push_cast
                    ring_nf at hrest ⊢
                    lia

theorem Running.after_desired (h : d.Running mMinIntervalUs) (times : List Int) :
    (d.after times).Running mMinIntervalUs ∧
      (d.kept times = [] -> d.after times = d) ∧
        forall t, (d.kept times).getLast? = some t ->
          t + 2000 < (d.after times).mDesiredMinTimeUs ∧
            (d.after times).mDesiredMinTimeUs <= t + 2000 + mMinIntervalUs := by
  induction times generalizing d with
  | nil =>
      refine ⟨h, fun _ => rfl, ?_⟩
      intro t ht
      cases ht
  | cons timeUs times ih =>
      rcases h.kept_cons timeUs times with ⟨hsame, hafter, _⟩ |
        ⟨d', hjudges, hkept, hafter⟩
      · rw [hsame, hafter]
        exact ih h
      · rw [hkept, hafter]
        cases hjudges with
        | keeps _ hrunning _ _ hlate hsoon =>
            rcases ih hrunning with ⟨hrunning', hnone, hlast⟩
            refine ⟨hrunning', ?_, ?_⟩
            · intro hnil
              cases hnil
            · intro t ht
              rw [List.getLast?_cons] at ht
              injection ht with ht
              cases hrest : (d'.kept times).getLast? with
              | none =>
                  rw [hrest] at ht
                  rw [hnone (List.getLast?_eq_none_iff.mp hrest), ← ht]
                  exact ⟨hlate, hsoon⟩
              | some t' =>
                  rw [hrest] at ht
                  rw [← ht]
                  exact hlast t' hrest

theorem every_cons (hpositive : 0 < mMinIntervalUs) {first : Int} (hfirst : 0 <= first)
    (times : List Int) :
    exists d : FrameDropper, d.Running mMinIntervalUs ∧
      d.mDesiredMinTimeUs = first + mMinIntervalUs ∧
      (every mMinIntervalUs).kept (first :: times) = first :: d.kept times ∧
        (every mMinIntervalUs).after (first :: times) = d.after times := by
  have hstep := shouldDrop_every hpositive first
  refine ⟨{ every mMinIntervalUs with mDesiredMinTimeUs := first + mMinIntervalUs },
    ⟨rfl, hpositive, ?_⟩, rfl, ?_, ?_⟩
  · show 0 <= first + mMinIntervalUs
    lia
  · show (if ((every mMinIntervalUs).shouldDrop first).1 then _ else _) = _
    rw [hstep]
    rfl
  · show ((every mMinIntervalUs).shouldDrop first).2.after times = _
    rw [hstep]

theorem Running.after_soon (h : d.Running mMinIntervalUs) {first : Int}
    (hdesired : d.mDesiredMinTimeUs = first + mMinIntervalUs) (times : List Int)
    (t : Int) (ht : (first :: d.kept times).getLast? = some t) :
    (d.after times).mDesiredMinTimeUs <= t + 2000 + mMinIntervalUs := by
  rcases h.after_desired times with ⟨_, hnone, hlast⟩
  cases hrest : d.kept times with
  | nil =>
      rw [hrest, List.getLast?_singleton] at ht
      injection ht with ht
      rw [hnone hrest, hdesired]
      lia
  | cons t' rest =>
      rw [hrest, List.getLast?_cons_cons, ← hrest] at ht
      exact (hlast t ht).2

end FrameDropper

/-- For every interval and every sequence of timestamps, also late ones. -/
theorem keepsRate (mMinIntervalUs : Int) (hpositive : 0 < mMinIntervalUs)
    (times : List Int) (htimes : forall t, t ∈ times -> 0 <= t) :
    KeepsRate mMinIntervalUs ((FrameDropper.every mMinIntervalUs).kept times)
      ((FrameDropper.every mMinIntervalUs).after times) := by
  cases times with
  | nil =>
      constructor
      · intro k first t hfirst
        cases hfirst
      · intro i j t t' _ _ hi
        cases hi
      · intro t hlength
        have hnone : 2 <= ([] : List Int).length := hlength
        exact absurd hnone (by decide)
      · intro t timeUs hlast
        cases hlast
  | cons first times =>
      have hfirst : 0 <= first := htimes first List.mem_cons_self
      rcases FrameDropper.every_cons hpositive hfirst times with
        ⟨d, hrunning, hdesired, hkept, hafter⟩
      rw [hkept, hafter]
      rcases hrunning.after_desired times with ⟨hrunning', _, hlast⟩
      constructor
      · intro k first' t hfirst' hk
        injection hfirst' with hfirst'
        rw [← hfirst']
        cases k with
        | zero =>
            injection hk with ht
            rw [← ht]
            push_cast
            lia
        | succ k =>
            have hrest := hrunning.kept_ge times k t hk
            rw [hdesired] at hrest
            push_cast
            ring_nf at hrest ⊢
            lia
      · intro i j t t' hone hij hi hj
        cases i with
        | zero => exact absurd hone (by decide)
        | succ i =>
            cases j with
            | zero => exact absurd hij (Nat.not_lt_zero _)
            | succ j =>
                have hrest := hrunning.kept_spacing times i j t t'
                  (Nat.lt_of_succ_lt_succ hij) hi hj
                push_cast
                ring_nf at hrest ⊢
                lia
      · intro t hlength ht
        cases hrest : d.kept times with
        | nil =>
            rw [hrest, List.length_singleton] at hlength
            exact absurd hlength (by decide)
        | cons t' rest =>
            rw [hrest, List.getLast?_cons_cons, ← hrest] at ht
            exact hlast t ht
      · intro t timeUs ht hlate
        have hbound := hrunning.after_soon hdesired times t ht
        have hjudges := hrunning'.judges timeUs
        generalize ((d.after times).shouldDrop timeUs).1 = drops at *
        generalize ((d.after times).shouldDrop timeUs).2 = d' at *
        cases hjudges with
        | drops hearly => lia
        | keeps _ _ _ _ _ _ => rfl

/-- At most thirty frames in a second: one comes a bit early, one comes too early,
and one comes late. -/
theorem keepsRate_thirty :
    (FrameDropper.every 33333).kept [0, 32000, 40000, 30000, 140000] =
        [0, 32000, 140000] ∧
      KeepsRate 33333
        ((FrameDropper.every 33333).kept [0, 32000, 40000, 30000, 140000])
        ((FrameDropper.every 33333).after [0, 32000, 40000, 30000, 140000]) :=
  ⟨by decide, keepsRate 33333 (by decide) [0, 32000, 40000, 30000, 140000]
    (by decide)⟩

end Bqhelper
end Sm7225
