import Sm7225.Bqhelper.CaptureGrid
import Sm7225.Bqhelper.FrameRepeat
import Sm7225.Bqhelper.Steps

/-!
# Failed submissions

A submission computes its timestamp before the component has taken the frame.  When
the component fails, the clock has moved on, and the same frame may be judged to go
backward when it is submitted again.
-/

namespace Sm7225
namespace Bqhelper

open Lib

/-!
# The clock of an accepted frame
-/

namespace CodecClock

/-- The fields that an accepted frame sets. -/
structure SameTimes (c c' : CodecClock) : Prop where
  mPrevFrameUs : c'.mPrevFrameUs = c.mPrevFrameUs
  mPrevCaptureUs : c'.mPrevCaptureUs = c.mPrevCaptureUs
  mBaseFrameUs : c'.mBaseFrameUs = c.mBaseFrameUs
  mBaseCaptureUs : c'.mBaseCaptureUs = c.mBaseCaptureUs
  mFrameCount : c'.mFrameCount = c.mFrameCount

/-- The frame before was at this time. -/
def LastAt (c : CodecClock) (timeUs : Int) : Prop :=
  if c.rescales then c.mPrevCaptureUs = timeUs else c.mPrevFrameUs = timeUs

/-- The frame before is where the rates that are in force now put it, to the nearest
microsecond, and the next frame of its time is to be put there in the same way.  In
front of the first capture that is the base, and captures that are snapped to the
grid count. -/
def OnRates (c : CodecClock) : Prop :=
  c.rescales = true ->
    if c.mPrevCaptureUs < 0 then
      c.mBaseCaptureUs = c.mPrevCaptureUs ∧ c.mBaseFrameUs = c.mPrevFrameUs ∧
        c.mFrameCount = 0 ∧
          Nearest (c.mPrevCaptureUs * c.mCaptureFps / c.mFps) c.mPrevFrameUs
    else
      c.mSnapTimestamps = false ∧
        Nearest ((c.mPrevCaptureUs - c.mBaseCaptureUs : Int) * (c.mCaptureFps / c.mFps))
          (c.mPrevFrameUs - c.mBaseFrameUs)

theorem lastAt_of_rescales {c : CodecClock} {timeUs : Int} (h : c.rescales = true)
    (hcapture : c.mPrevCaptureUs = timeUs) : c.LastAt timeUs := by
  unfold LastAt
  rw [if_pos h]
  exact hcapture

theorem lastAt_of_unscaled {c : CodecClock} {timeUs : Int} (h : ¬c.rescales = true)
    (hframe : c.mPrevFrameUs = timeUs) : c.LastAt timeUs := by
  unfold LastAt
  rw [if_neg h]
  exact hframe

section Calls

variable {c c' : CodecClock} {dropper : Option FrameDropper}
variable {bufferTimeNs codecTimeUs : Int}

theorem onRates_of_accepted
    (h : c.calculateCodecTimestamp_l dropper bufferTimeNs = some (codecTimeUs, c'))
    (hsnap : c.mSnapTimestamps = false) (htime : 0 <= c.mediaTime bufferTimeNs) :
    OnRates c' ∧ LastAt c' (c.mediaTime bufferTimeNs) := by
  unfold mediaTime at htime ⊢
  unfold calculateCodecTimestamp_l at h
  dsimp only at h
  by_cases hrescales : c.rescales = true
  · rw [if_pos hrescales] at h
    by_cases hfirst : c.mPrevCaptureUs < 0
    · rw [if_pos hfirst] at h
      cases h
      constructor
      · intro _
        rw [if_neg (Int.not_lt.mpr htime)]
        refine ⟨hsnap, ?_⟩
        rw [← llround_eq_iff]
        simp only [sub_self, Int.cast_zero, zero_mul]
        exact llround_zero
      · exact lastAt_of_rescales hrescales rfl
    · have hnot : ¬c.mSnapTimestamps = true := by
        rw [hsnap]
        exact Bool.false_ne_true
      rw [if_neg hfirst, if_neg hnot] at h
      split at h
      · cases h
      · cases h
        constructor
        · intro _
          rw [if_neg (Int.not_lt.mpr htime)]
          refine ⟨hsnap, ?_⟩
          rw [← llround_eq_iff]
          dsimp only
          lia
        · exact lastAt_of_rescales hrescales rfl
  · rw [if_neg hrescales] at h
    split at h
    · cases h
    · cases h
      constructor
      · intro hrescales'
        exact absurd hrescales' hrescales
      · exact lastAt_of_unscaled hrescales rfl

end Calls

end CodecClock

/-!
# Submitting again
-/

def TakenAs (s : GraphicBufferSource) (item : VideoBuffer) (origin : Origin)
    (calls : List Event) : Prop :=
  exists id codecTimeUs clock,
    s.clock.calculateCodecTimestamp_l s.mFrameDropper item.mTimestampNs =
        some (codecTimeUs, clock) ∧
      .submitBuffer id item origin codecTimeUs item.mBuffer.getAcquireFenceFd .ok ∈ calls

section Functions

variable {s : GraphicBufferSource}

theorem mem_newCalls {t : GraphicBufferSource} {calls later : List Event} {e : Event}
    (h : t.log = s.log ++ calls ++ e :: later) : e ∈ newCalls s t := by
  rw [List.append_assoc] at h
  rw [newCalls_eq h]
  exact List.mem_append_right calls List.mem_cons_self

theorem updateDataspace_sets (item : VideoBuffer) (hcomponent : s.mComponent ≠ none) :
    Sat (updateDataspace item)
      (fun _ t => t.toFrames = s.toFrames ∧ s.log <+: t.log ∧
        t.toControl = { s.toControl with mLastDataspace := item.mDataspace })
      (fun _ _ => False) s := by
  unfold updateDataspace onDataspaceChanged_l
  simp only [sat_bind, sat_get, sat_modifyControl, sat_ite, sat_throw, sat_note,
    sat_pure]
  refine ⟨fun _ => ⟨fun _ => ⟨hcomponent, fun _ => ?_⟩, fun _ => ?_⟩, fun hsame => ?_⟩
  · exact ⟨rfl, List.prefix_append _ _, trivial⟩
  · exact ⟨trivial, List.prefix_rfl, trivial⟩
  · rw [not_not] at hsame
    rw [hsame]
    exact ⟨trivial, List.prefix_rfl, rfl⟩

theorem submitBuffer_l_submits {item : VideoBuffer} {origin : Origin}
    {codecTimeUs : Int} {clock : CodecClock} (hfree : s.mFreeCodecBuffers ≠ [])
    (hcomponent : s.mComponent ≠ none)
    (htime : s.clock.calculateCodecTimestamp_l s.mFrameDropper item.mTimestampNs =
      some (codecTimeUs, clock)) :
    Sat (submitBuffer_l item origin)
      (fun err t => err = s.answers.submitBuffer.headD .ok ∧
        t.toControl = { s.toControl with
          clock := clock
          mLastDataspace := item.mDataspace
          answers := { s.answers with
            submitBuffer := s.answers.submitBuffer.tail } } ∧
        (err ≠ .ok -> t.toFrames = s.toFrames) ∧
        (err = .ok -> TakenAs s item origin (newCalls s t)) ∧
        (err = .ok -> t.toFrames = { s.toFrames with
          mFreeCodecBuffers := s.mFreeCodecBuffers.tail
          mSubmittedCodecBuffers := t.mSubmittedCodecBuffers }))
      (fun _ _ => False) s := by
  rcases List.exists_cons_of_ne_nil hfree with ⟨id, rest, hlist⟩
  unfold submitBuffer_l
  rw [sat_bind, sat_get, hlist]
  dsimp only
  rw [htime]
  dsimp only
  rw [sat_bind, sat_modifyControl, sat_bind]
  apply (updateDataspace_sets item ?_).imp
  · intro _ t ht
    rcases ht with ⟨hframes, hprefix, hcontrol⟩
    have hcomponent' : t.mComponent ≠ none := by
      rw [hcontrol]
      exact hcomponent
    have hanswers : t.answers = s.answers := by
      rw [hcontrol]
    unfold componentSubmitBuffer moveToSubmitted
    simp only [sat_bind, sat_get, sat_ite, sat_throw, sat_modifyControl, sat_note,
      sat_modifyBuffers, sat_unholdAll, sat_pure]
    refine ⟨hcomponent', fun _ => ⟨fun hfailed => ?_, fun hok => ?_⟩⟩
    · rw [hanswers]
      rw [hanswers] at hfailed
      refine ⟨rfl, ?_, fun _ => hframes, fun hok => absurd hok hfailed,
        fun hok => absurd hok hfailed⟩
      rw [hcontrol]
    · rw [not_not, hanswers] at hok
      refine ⟨hok.symm, ?_, fun hfailed => absurd rfl hfailed, fun _ => ?_, fun _ => ?_⟩
      · rw [hcontrol]
      · rcases hprefix with ⟨calls, hcalls⟩
        have hcalls' : s.log ++ calls = t.log := hcalls
        rw [hanswers, hok]
        rcases Buffers.unholdAll_log ((t.toBuffers.note (.submitBuffer id item origin
            codecTimeUs item.mBuffer.getAcquireFenceFd .ok)).submit id
              (some item.mBuffer)) (t.toBuffers.submittedAt id) with ⟨tail, hlog, _⟩
        refine ⟨id, codecTimeUs, clock, htime, ?_⟩
        refine mem_newCalls (?_ : _ = s.log ++ calls ++ _ :: tail)
        rw [hcalls']
        apply hlog.trans
        show t.log ++ [_] ++ tail = _
        rw [List.append_assoc]
        rfl
      · have hfree' : t.mFreeCodecBuffers = id :: rest := by
          rw [hframes]
          exact hlist
        rw [← hframes, ← hfree', Buffers.unholdAll_toFrames]
        rfl
  · exact hcomponent

end Functions

instance (c : CodecClock) (timeUs : Int) : Decidable (c.LastAt timeUs) :=
  inferInstanceAs (Decidable
    (if c.rescales then c.mPrevCaptureUs = timeUs else c.mPrevFrameUs = timeUs))

instance (c : CodecClock) : Decidable c.OnRates :=
  inferInstanceAs (Decidable
    (c.rescales = true ->
      if c.mPrevCaptureUs < 0 then
        c.mBaseCaptureUs = c.mPrevCaptureUs ∧ c.mBaseFrameUs = c.mPrevFrameUs ∧
          c.mFrameCount = 0 ∧
            Nearest (c.mPrevCaptureUs * c.mCaptureFps / c.mFps) c.mPrevFrameUs
      else
        c.mSnapTimestamps = false ∧
          Nearest ((c.mPrevCaptureUs - c.mBaseCaptureUs : Int) * (c.mCaptureFps / c.mFps))
            (c.mPrevFrameUs - c.mBaseFrameUs)))

end Bqhelper
end Sm7225
