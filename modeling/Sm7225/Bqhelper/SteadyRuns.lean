import Sm7225.Bqhelper.Pacing
import Sm7225.Bqhelper.DropperRate

/-!
# Times over whole runs

What one call of the clock or of the frame dropper promises is a promise about the
machine of the pace, and so about every run in which the rates stay as they are.
-/

namespace Sm7225
namespace Bqhelper

open Lib

/-!
# The machine makes its way
-/

theorem run_paces {later : List Request} {s : GraphicBufferSource}
    (hlater : Along exec KeepsRates later s) :
    Sat (run exec later) (fun _ t => Paces s t) (fun _ t => Paces s t) s := by
  have hstep : forall u r, Paces s u -> KeepsRates u r ->
      Sat (exec r) (fun _ t => Paces s t) (fun _ t => Paces s t) u := by
    intro u r hu hr
    exact (exec_paces hr).mono (fun _ _ ht => hu.trans ht) (fun _ _ ht => hu.trans ht)
  exact run_sat hstep later s (Paces.refl s) hlater

theorem reaches_paces {earlier later : List Request} {s t : GraphicBufferSource}
    (hs : Reaches earlier s) (ht : Reaches (earlier ++ later) t)
    (hlater : Along exec KeepsRates later s) : Paces s t := by
  rcases ht with ⟨replies, hrun⟩
  rcases run_append_ok hrun with ⟨_, s', _, hfirst, hrest⟩
  rcases hs with ⟨_, hs⟩
  rw [hs] at hfirst
  cases hfirst
  have hpaces := run_paces hlater
  rw [sat_of_ok hrest] at hpaces
  exact hpaces

namespace Pace

variable {p p' : Pace}

theorem judge_clock (p : Pace) (timeUs : Int) : (p.judge timeUs).2.clock = p.clock := by
  unfold judge
  split
  · rfl
  · rfl

theorem select_clock (p : Pace) (origin : Origin) (mTimestampNs : Int) :
    (p.select origin mTimestampNs).2.clock = p.clock := by
  cases origin with
  | fresh => exact p.judge_clock _
  | repeated => rfl

theorem stamp_eq_some {mTimestampNs codecTimeUs : Int}
    (h : p.stamp mTimestampNs = some (codecTimeUs, p')) :
    p.clock.calculateCodecTimestamp_l p.mFrameDropper mTimestampNs =
        some (codecTimeUs, p'.clock) ∧ p'.mFrameDropper = p.mFrameDropper := by
  rcases Option.map_eq_some_iff.mp h with ⟨r, hcall, hr⟩
  cases hr
  exact ⟨hcall, rfl⟩

end Pace

/-!
# The order of the times
-/

section Order

variable {p p' : Pace}

theorem shouldDrop_interval (d : FrameDropper) (timeUs : Int) :
    (d.shouldDrop timeUs).2.mMinIntervalUs = d.mMinIntervalUs := by
  unfold FrameDropper.shouldDrop
  split
  · rfl
  · split
    · rfl
    · split
      · rfl
      · rfl

theorem Pace.judge_dropsBackward (p : Pace) (timeUs : Int) :
    CodecClock.dropsBackward (p.judge timeUs).2.mFrameDropper =
      CodecClock.dropsBackward p.mFrameDropper := by
  unfold Pace.judge
  cases hdropper : p.mFrameDropper with
  | none =>
      show CodecClock.dropsBackward p.mFrameDropper = CodecClock.dropsBackward none
      rw [hdropper]
  | some d =>
      show (!(d.shouldDrop timeUs).2.disabled) = !d.disabled
      unfold FrameDropper.disabled
      rw [shouldDrop_interval]

theorem Pace.select_dropsBackward (p : Pace) (origin : Origin) (mTimestampNs : Int) :
    CodecClock.dropsBackward (p.select origin mTimestampNs).2.mFrameDropper =
      CodecClock.dropsBackward p.mFrameDropper := by
  cases origin with
  | fresh => exact p.judge_dropsBackward _
  | repeated => rfl

theorem pacing_rising {I : CodecClock -> Prop} {R : Int -> Int -> Prop}
    (hbelow : forall {a b c : Int}, a <= b -> R b c -> R a c)
    (habove : forall {a b : Int}, R a b -> a <= b)
    (hoffset : forall c timeOffsetUs, I c -> I (c.setTimeOffsetUs timeOffsetUs))
    (hstep : forall {c c' : CodecClock} {dropper : Option FrameDropper},
      CodecClock.dropsBackward dropper = true -> I c ->
        forall {bufferTimeNs codecTimeUs : Int},
          c.calculateCodecTimestamp_l dropper bufferTimeNs = some (codecTimeUs, c') ->
            I c' ∧ codecTimeUs = c'.mPrevFrameUs ∧ R c.mPrevFrameUs c'.mPrevFrameUs)
    {frames : List TimedFrame} (h : pacing.Trace p frames p') (hclock : I p.clock)
    (hdropper : CodecClock.dropsBackward p.mFrameDropper = true) :
    (frames.map TimedFrame.codecTimeUs).Pairwise R ∧
      forall frame, frame ∈ frames -> R p.clock.mPrevFrameUs frame.codecTimeUs := by
  have hemits : forall {p : Pace} {frame : TimedFrame} {p' : Pace},
      I p.clock ∧ CodecClock.dropsBackward p.mFrameDropper = true ->
        p.HandsOver frame p' ->
          (I p'.clock ∧ CodecClock.dropsBackward p'.mFrameDropper = true) ∧
            R p.clock.mPrevFrameUs frame.codecTimeUs ∧
              frame.codecTimeUs <= p'.clock.mPrevFrameUs := by
    intro p frame p' hp hover
    cases hover with
    | @selected origin mTimestampNs codecTimeUs mid _ hselect hstamp =>
        have hclock := p.select_clock origin mTimestampNs
        have hdrops := p.select_dropsBackward origin mTimestampNs
        rw [hselect] at hclock hdrops
        rcases Pace.stamp_eq_some hstamp with ⟨hcall, hsame⟩
        rcases hstep (hdrops.trans hp.2) (hclock ▸ hp.1) hcall with ⟨hI, htime, hR⟩
        rw [hclock] at hR
        refine ⟨⟨hI, by rw [hsame, hdrops, hp.2]⟩, ?_, htime.le⟩
        rw [htime]
        exact hR
  have hquiet : forall {p p' : Pace},
      I p.clock ∧ CodecClock.dropsBackward p.mFrameDropper = true -> p.Idles p' ->
        (I p'.clock ∧ CodecClock.dropsBackward p'.mFrameDropper = true) ∧
          p.clock.mPrevFrameUs <= p'.clock.mPrevFrameUs := by
    intro p p' hp hidles
    cases hidles with
    | judged timeUs =>
        rw [p.judge_clock, p.judge_dropsBackward]
        exact ⟨hp, le_rfl⟩
    | lost hover =>
        rcases hemits hp hover with ⟨hp', hR, hle⟩
        exact ⟨hp', (habove hR).trans hle⟩
    | setTimeOffsetUs timeOffsetUs =>
        refine ⟨⟨hoffset _ _ hp.1, hp.2⟩, ?_⟩
        rw [CodecClock.setTimeOffsetUs_eq]
  rcases h.rising (R := R) (fun p => p.clock.mPrevFrameUs) TimedFrame.codecTimeUs hbelow
    habove hquiet hemits ⟨hclock, hdropper⟩ with ⟨hordered, hfirst, _⟩
  exact ⟨hordered, hfirst⟩

end Order

/-- The times of the new frames, fresh or repeated, go on from the last one. -/
structure GoesOn (c : CodecClock) (frames : List TimedFrame) : Prop where
  -- without scaling each is later than the one before
  increasing : c.rescales = false ->
    (frames.map TimedFrame.codecTimeUs).Pairwise (· < ·) ∧
      forall frame, frame ∈ frames -> c.mPrevFrameUs < frame.codecTimeUs
  -- in a time lapse or a slow motion that runs, none is earlier
  nondecreasing : c.Running ->
    (frames.map TimedFrame.codecTimeUs).Pairwise (· <= ·) ∧
      forall frame, frame ∈ frames -> c.mPrevFrameUs <= frame.codecTimeUs

/-- In every run the component gets its frames in the order of their times, unless the
client has turned all dropping off. -/
theorem codec_times_go_on (earlier later : List Request) (s t : GraphicBufferSource)
    (hs : Reaches earlier s) (ht : Reaches (earlier ++ later) t)
    (hdropper : CodecClock.dropsBackward s.mFrameDropper = true)
    (hlater : Along exec KeepsRates later s) :
    exists new, t.log = s.log ++ new ∧ GoesOn s.clock (timedFrames new) := by
  rcases reaches_paces hs ht hlater with ⟨new, hlog, htrace⟩
  refine ⟨new, hlog, ?_, ?_⟩
  · intro hrescales
    have hoffset : forall (c : CodecClock) (timeOffsetUs : Int),
        c.rescales = false -> (c.setTimeOffsetUs timeOffsetUs).rescales = false := by
      intro c timeOffsetUs hc
      rw [CodecClock.setTimeOffsetUs_eq]
      exact hc
    exact pacing_rising (R := (· < ·)) lt_of_le_of_lt le_of_lt hoffset
      CodecClock.step_of_not_rescales htrace hrescales hdropper
  · intro hrunning
    exact pacing_rising (R := (· <= ·)) le_trans id
      (fun _ timeOffsetUs hc => hc.setTimeOffsetUs timeOffsetUs)
      (fun hdropper hc => hc.step hdropper) htrace hrunning hdropper

/-- At most thirty frames in a second, and a frame repeats after a tenth of one. -/
def limitedSession : List Request :=
  [configureFor 0, (Op.setMaxFps 30).now, (Op.setRepeatPreviousFrameDelayUs 100000).now] ++
    [1, 2, 3, 4].map (fun id => (Op.onInputBufferAdded id).now) ++ [Op.start.now]

/-- The second frame is too early, and the third one repeats before the last one comes. -/
def limitedFrames : List Request :=
  deliver (newFrame 0 1 100000) ++ deliver (newFrame 1 2 105000) ++
    [(Op.setTimeOffsetUs (-10000)).now, (Op.setMaxFps 60).now] ++
    deliver (newFrame 2 3 140000) ++ [(Op.onMessageReceived 6).now] ++
    deliver (newFrame 1 4 250000)

theorem codec_times_go_on_limitedFrames :
    (exists new, (final (limitedSession ++ limitedFrames)).log =
        (final limitedSession).log ++ new ∧
      GoesOn (final limitedSession).clock (timedFrames new)) ∧
      (timedFrames (final (limitedSession ++ limitedFrames)).log).map TimedFrame.codecTimeUs =
        [100000, 130000, 230000, 240000] :=
  ⟨codec_times_go_on limitedSession limitedFrames _ _ (reaches_final (by decide +kernel))
    (reaches_final (by decide +kernel)) (by decide +kernel) (by decide +kernel),
    by decide +kernel⟩

/-!
# The rate of the frames
-/

def TimedFrame.freshTime? (frame : TimedFrame) : Option Int :=
  if frame.origin = .fresh ∧ 0 <= frame.mTimestampNs then
    some (Int.tdiv frame.mTimestampNs 1000)
  else
    none

def freshTimes (frames : List TimedFrame) : List Int :=
  frames.filterMap TimedFrame.freshTime?

/-- The frames keep to the interval, and do not begin before the level. -/
structure KeepsInterval (mMinIntervalUs level : Int) (times : List Int) : Prop where
  spacing : forall (i j : Nat) (t t' : Int), i < j -> times[i]? = some t ->
    times[j]? = some t' -> (j - i - 1) * mMinIntervalUs < t' - t
  late : forall (k : Nat) (t : Int), times[k]? = some t ->
    level + k * mMinIntervalUs <= t + 2000

namespace FrameDropper

/-- The dropper has an interval.  An interval below the jitter only counts once a frame
was seen. -/
structure Limits (mMinIntervalUs : Int) (d : FrameDropper) : Prop where
  interval : d.mMinIntervalUs = mMinIntervalUs
  positive : 0 < mMinIntervalUs
  begun : 2000 < mMinIntervalUs ∨ 0 <= d.mDesiredMinTimeUs

/-- No frame is desired before time zero. -/
def level (d : FrameDropper) : Int :=
  max 0 d.mDesiredMinTimeUs

structure Moves (mMinIntervalUs timeUs : Int) (d : FrameDropper) (drops : Bool)
    (d' : FrameDropper) : Prop where
  limits : d'.Limits mMinIntervalUs
  forward : d.level <= d'.level
  keeps : drops = false -> 0 <= timeUs -> d.level <= timeUs + 2000 ∧
    timeUs + 2000 < d'.level ∧ d.level + mMinIntervalUs <= d'.level

variable {mMinIntervalUs : Int} {d : FrameDropper}

theorem Limits.moves (h : d.Limits mMinIntervalUs) (timeUs : Int) :
    d.Moves mMinIntervalUs timeUs (d.shouldDrop timeUs).1 (d.shouldDrop timeUs).2 := by
  have hpositive := h.positive
  by_cases hseen : 0 <= d.mDesiredMinTimeUs
  · have hrunning : d.Running mMinIntervalUs := ⟨h.interval, h.positive, hseen⟩
    have hjudges := hrunning.judges timeUs
    generalize (d.shouldDrop timeUs).1 = drops at *
    generalize (d.shouldDrop timeUs).2 = d' at *
    cases hjudges with
    | drops hearly => exact ⟨h, le_rfl, fun hfalse => (nomatch hfalse)⟩
    | keeps _ hrunning' hlate hgrid hafter _ =>
        have hdesired := hrunning'.desired
        refine ⟨⟨hrunning'.interval, h.positive, Or.inr hdesired⟩, ?_, fun _ _ => ?_⟩
        · unfold level
          lia
        · unfold level
          lia
  · -- the first frame is kept
    have hinterval : ¬d.mMinIntervalUs <= 0 := by
      rw [h.interval]
      lia
    have hlong : 2000 < mMinIntervalUs := by
      rcases h.begun with hlong | hbegun
      · exact hlong
      · exact absurd hbegun hseen
    unfold shouldDrop
    rw [if_neg hinterval, if_pos (not_le.mp hseen), h.interval]
    refine ⟨⟨rfl, h.positive, Or.inl hlong⟩, ?_, fun _ htime => ?_⟩
    · unfold level
      lia
    · unfold level
      dsimp only
      lia

end FrameDropper

namespace Pace

variable {mMinIntervalUs : Int} {p p' : Pace}

def Limited (mMinIntervalUs : Int) (p : Pace) : Prop :=
  exists d, p.mFrameDropper = some d ∧ d.Limits mMinIntervalUs

def level (p : Pace) : Int :=
  match p.mFrameDropper with
  | none => 0
  | some d => d.level

theorem level_of_some {d : FrameDropper} (h : p.mFrameDropper = some d) :
    p.level = d.level := by
  unfold level
  rw [h]

theorem Limited.judge (h : p.Limited mMinIntervalUs) {timeUs : Int} {drops : Bool}
    (hjudge : p.judge timeUs = (drops, p')) :
    p'.Limited mMinIntervalUs ∧ p.level <= p'.level ∧
      (drops = false -> 0 <= timeUs -> p.level <= timeUs + 2000 ∧
        timeUs + 2000 < p'.level ∧ p.level + mMinIntervalUs <= p'.level) := by
  rcases h with ⟨d, hdropper, hlimits⟩
  unfold Pace.judge at hjudge
  rw [hdropper] at hjudge
  cases hjudge
  have hmoves := hlimits.moves timeUs
  rw [level_of_some hdropper]
  exact ⟨⟨_, rfl, hmoves.limits⟩, hmoves.forward, hmoves.keeps⟩

theorem Limited.of_same (h : p.Limited mMinIntervalUs)
    (hsame : p'.mFrameDropper = p.mFrameDropper) :
    p'.Limited mMinIntervalUs ∧ p'.level = p.level := by
  unfold Limited level
  rw [hsame]
  exact ⟨h, rfl⟩

theorem Limited.handsOver (h : p.Limited mMinIntervalUs) {frame : TimedFrame}
    (hover : p.HandsOver frame p') :
    p'.Limited mMinIntervalUs ∧ p.level <= p'.level ∧
      forall timeUs, frame.freshTime? = some timeUs -> p.level <= timeUs + 2000 ∧
        timeUs + 2000 < p'.level ∧ p.level + mMinIntervalUs <= p'.level := by
  cases hover with
  | @selected origin mTimestampNs codecTimeUs mid _ hselect hstamp =>
      have hsame := (stamp_eq_some hstamp).2
      cases origin with
      | fresh =>
          rcases h.judge hselect with ⟨hmid, hforward, hkeeps⟩
          rcases hmid.of_same hsame with ⟨hp', hlevel⟩
          rw [hlevel]
          refine ⟨hp', hforward, fun timeUs htime => ?_⟩
          unfold TimedFrame.freshTime? at htime
          split at htime
          · rename_i hfresh
            cases htime
            exact hkeeps rfl (Int.tdiv_nonneg hfresh.2 (by decide))
          · cases htime
      | repeated =>
          cases hselect
          rcases h.of_same hsame with ⟨hp', hlevel⟩
          rw [hlevel]
          refine ⟨hp', le_rfl, fun timeUs htime => ?_⟩
          unfold TimedFrame.freshTime? at htime
          split at htime
          · rename_i hfresh
            cases hfresh.1
          · cases htime

theorem Limited.idles (h : p.Limited mMinIntervalUs) (hidles : p.Idles p') :
    p'.Limited mMinIntervalUs ∧ p.level <= p'.level := by
  cases hidles with
  | judged timeUs =>
      rcases h.judge (Prod.mk.eta (p := p.judge timeUs)).symm with ⟨hp', hforward, _⟩
      exact ⟨hp', hforward⟩
  | lost hover =>
      rcases h.handsOver hover with ⟨hp', hforward, _⟩
      exact ⟨hp', hforward⟩
  | setTimeOffsetUs timeOffsetUs => exact ⟨h, le_rfl⟩

end Pace

theorem pacing_spaces (mMinIntervalUs : Int) :
    (pacing.hide TimedFrame.freshTime?).Spaces (Pace.Limited mMinIntervalUs) Pace.level id
      mMinIntervalUs 2000 where
  quiet := by
    intro p p' hp hquiet
    rcases hquiet with hidles | ⟨frame, _, hover⟩
    · exact hp.idles hidles
    · rcases hp.handsOver hover with ⟨hp', hforward, _⟩
      exact ⟨hp', hforward⟩
  keeps := by
    intro p timeUs p' hp hemits
    rcases hemits with ⟨frame, _, hover⟩
    exact (hp.handsOver hover).1
  late := by
    intro p timeUs p' hp hemits
    rcases hemits with ⟨frame, hfresh, hover⟩
    exact ((hp.handsOver hover).2.2 timeUs hfresh).1
  after := by
    intro p timeUs p' hp hemits
    rcases hemits with ⟨frame, hfresh, hover⟩
    exact ((hp.handsOver hover).2.2 timeUs hfresh).2.1
  grid := by
    intro p timeUs p' hp hemits
    rcases hemits with ⟨frame, hfresh, hover⟩
    exact ((hp.handsOver hover).2.2 timeUs hfresh).2.2

/-- In every run the component gets its fresh frames at the rate that the client asked
for. -/
theorem frame_rate_kept (earlier later : List Request) (s t : GraphicBufferSource)
    (hs : Reaches earlier s) (ht : Reaches (earlier ++ later) t) (d : FrameDropper)
    (hdropper : s.mFrameDropper = some d) (hlimits : d.Limits d.mMinIntervalUs)
    (hlater : Along exec KeepsRates later s) :
    exists new, t.log = s.log ++ new ∧
      KeepsInterval d.mMinIntervalUs d.level (freshTimes (timedFrames new)) := by
  rcases reaches_paces hs ht hlater with ⟨new, hlog, htrace⟩
  have hspaces := pacing_spaces d.mMinIntervalUs
  have hseen := htrace.hide TimedFrame.freshTime?
  have hlimited : s.pace.Limited d.mMinIntervalUs := ⟨d, hdropper, hlimits⟩
  have hlevel : s.pace.level = d.level := Pace.level_of_some hdropper
  refine ⟨new, hlog, ?_, ?_⟩
  · intro i j t t' hij hi hj
    exact hseen.spacing hspaces hlimited i j t t' hij hi hj
  · intro k t hk
    rw [← hlevel]
    exact hseen.level_le hspaces hlimited k t hk

theorem frame_rate_kept_limitedFrames :
    (exists new, (final (limitedSession ++ limitedFrames)).log =
        (final limitedSession).log ++ new ∧
      KeepsInterval 33333 0 (freshTimes (timedFrames new))) ∧
      freshTimes (timedFrames (final (limitedSession ++ limitedFrames)).log) =
        [100000, 140000, 250000] :=
  ⟨frame_rate_kept limitedSession limitedFrames _ _ (reaches_final (by decide +kernel))
    (reaches_final (by decide +kernel)) { mDesiredMinTimeUs := -1, mMinIntervalUs := 33333 }
    (by decide +kernel) ⟨rfl, by decide, Or.inl (by decide)⟩ (by decide +kernel),
    by decide +kernel⟩

end Bqhelper
end Sm7225
