import Sm7225.Bqhelper.TimesKept

/-!
# The source computes exactly with bounded times

With the bounds on times each computation of a function is exact, and the bounds hold
again where the next function starts.
-/

namespace Sm7225
namespace Bqhelper

open Lib

namespace Times

variable {s : GraphicBufferSource} {item : VideoBuffer}

theorem exact_after {α : Type} {m : Gbs α} {rest : α -> GraphicBufferSource -> List Computation}
    (hs : s.timesBounded) (hm : Leads KeepsTimes m)
    (hrest : forall a t, t.timesBounded -> AllExact (rest a t)) :
    AllExact (after m rest s) := by
  apply (hm s).allExact_after
  intro a t ht
  exact hrest a t (ht hs)

theorem exact_ite {c : Prop} [Decidable c] {cs cs' : List Computation}
    (h : c -> AllExact cs) (h' : ¬c -> AllExact cs') : AllExact (if c then cs else cs') := by
  by_cases hc : c
  · rw [if_pos hc]
    exact h hc
  · rw [if_neg hc]
    exact h' hc

/-!
# Submission
-/

theorem submitBuffer_l_exact (hs : s.timesBounded) (htime : 0 <= item.mTimestampNs)
    (hupper : item.mTimestampNs <= int64Max) : AllExact (submitBuffer_l item s) := by
  unfold submitBuffer_l
  cases s.mFreeCodecBuffers with
  | nil => exact allExact_nil
  | cons codecBufferId rest =>
      have hoffset := hs.fields.offset
      change -2 ^ 63 <= s.clock.mInputBufferTimeOffsetUs ∧
        s.clock.mInputBufferTimeOffsetUs <= 0 at hoffset
      have hupper' : item.mTimestampNs <= 9223372036854775807 := hupper
      have hus := Int.tdiv_nonneg htime (show (0 : Int) <= 1000 by decide)
      have hself := Int.tdiv_le_self 1000 htime
      show AllExact [_]
      rw [allExact_singleton]
      unfold Computation.Fits FitsInt64
      dsimp only
      lia

theorem submitBuffer_l_exact_of_frameTime (hs : s.timesBounded)
    (htime : FrameTime item.mTimestampNs) : AllExact (submitBuffer_l item s) :=
  submitBuffer_l_exact hs htime.1 (htime.2.trans (by decide))

/-!
# Repeating the latest frame
-/

theorem setLatestBuffer_l_exact (hs : s.timesBounded) (htime : FrameTime item.mTimestampNs)
    (hpositive : 0 < s.mFrameRepeatIntervalUs) : AllExact (setLatestBuffer_l item s) := by
  have hfit := repeatsFit_first htime hpositive hs.fields.interval
  exact retimeLatest_exact hpositive hs.fields.interval htime.1 hfit.le

theorem countRepeat_exact (hs : s.timesBounded) : AllExact (countRepeat s) := by
  apply exact_ite
  · intro hagain
    cases hlatest : s.mLatestBuffer with
    | none => exact allExact_nil
    | some latest =>
        have hpositive : 0 < s.mFrameRepeatIntervalUs := by
          apply hs.fields.repeats
          show 1 < s.mOutstandingFrameRepeatCount
          lia
        have hfit := hs.latest latest hlatest
        have hnext := hfit.next hagain hpositive hs.fields.interval
        exact retimeLatest_exact hpositive hs.fields.interval hfit.positive hnext.le
  · intro _
    exact allExact_nil

theorem repeatLatestBuffer_l_exact (hs : s.timesBounded) :
    AllExact (repeatLatestBuffer_l s) := by
  apply exact_after hs (leads_check _ _)
  intro _ t ht
  cases hlatest : t.mLatestBuffer with
  | none => exact allExact_nil
  | some latest =>
      have hfit := ht.latest latest hlatest
      apply exact_ite (fun _ => allExact_nil)
      intro _
      apply exact_ite (fun _ => allExact_nil)
      intro _
      rw [allExact_append]
      constructor
      · exact submitBuffer_l_exact ht hfit.positive hfit.le
      · apply exact_after ht (KeepsTimes.submitBuffer_l latest .repeated)
        intro err u hu
        exact exact_ite (fun _ => allExact_nil) (fun _ => countRepeat_exact hu)

/-!
# New frames
-/

theorem offsetByStartTime_exact {c : Control} (htime : FrameTime item.mTimestampNs)
    (hstarted : c.mSkipFramesBeforeNs < 0 ∨ c.mSkipFramesBeforeNs <= item.mTimestampNs) :
    AllExact (offsetByStartTime c item) := by
  apply exact_ite
  · intro hskip
    have hupper : item.mTimestampNs <= 4611686018427387904 := htime.2
    rw [allExact_singleton]
    unfold Computation.Fits FitsInt64
    dsimp only
    lia
  · intro _
    exact allExact_nil

theorem frameDropperDrops_exact (hs : s.timesBounded) {timeUs : Int}
    (htime : 0 <= timeUs ∧ timeUs <= maxFrameTimeUs) :
    AllExact (frameDropperDrops timeUs s) := by
  unfold frameDropperDrops
  cases hdropper : s.mFrameDropper with
  | none => exact allExact_nil
  | some dropper => exact (hs.fields.dropper dropper hdropper).shouldDrop_exact htime

theorem skipDropOrSubmit_exact (hs : s.timesBounded) (htime : FrameTime item.mTimestampNs) :
    AllExact (skipDropOrSubmit item s) := by
  apply exact_ite
  · intro hstarted
    have hoffset := offsetByStartTime_frameTime htime hstarted
    dsimp only
    rw [allExact_append, allExact_append]
    refine ⟨⟨offsetByStartTime_exact htime hstarted, ?_⟩, ?_⟩
    · exact frameDropperDrops_exact hs hoffset.us
    · apply exact_after hs (KeepsTimes.frameDropperDrops hoffset.us)
      intro drops t ht
      exact exact_ite (fun _ => allExact_nil)
        (fun _ => submitBuffer_l_exact_of_frameTime ht hoffset)
  · intro _
    exact allExact_nil

theorem recordFrame_exact (hs : s.timesBounded) (htime : FrameTime item.mTimestampNs)
    (hstarted : s.mSkipFramesBeforeNs < 0 ∨ s.mSkipFramesBeforeNs <= item.mTimestampNs) :
    AllExact (recordFrame item s) := by
  apply exact_ite
  · intro hpositive
    exact setLatestBuffer_l_exact hs (offsetByStartTime_frameTime htime hstarted) hpositive
  · intro _
    exact allExact_nil

theorem processFrame_exact (hs : s.timesBounded) (htime : FrameTime item.mTimestampNs) :
    AllExact (processFrame item s) := by
  apply exact_after hs (KeepsTimes.performActions _)
  intro seeStopAction t ht
  apply exact_ite (fun _ => allExact_nil)
  intro _
  apply exact_ite (fun _ => allExact_nil)
  intro _
  rw [allExact_append]
  refine ⟨skipDropOrSubmit_exact ht htime, ?_⟩
  have hskips := (KeepsTimes.skipDropOrSubmit htime t).and (skipDropOrSubmit_started item)
  apply hskips.allExact_after
  intro err u hu
  apply exact_ite (fun _ => allExact_nil)
  intro hok
  rw [not_not] at hok
  exact recordFrame_exact (hu.1 ht) htime (hu.2 hok)

theorem fillCodecBuffer_l_exact (hs : s.timesBounded) : AllExact (fillCodecBuffer_l s) := by
  apply exact_after hs (leads_check _ _)
  intro _ t ht
  apply exact_ite (fun _ => allExact_nil)
  intro _
  have htakes := (KeepsTimes.takeFrame t).and (takeFrame_frameTime ht)
  apply htakes.allExact_after
  intro r u hu
  cases r with
  | none => exact allExact_nil
  | some item => exact processFrame_exact (hu.1 ht) (hu.2 item rfl)

theorem onBufferAcquired_l_exact (hs : s.timesBounded)
    (htime : FrameTime item.mTimestampNs) : AllExact (onBufferAcquired_l item s) := by
  apply exact_ite (fun _ => allExact_nil)
  intro _
  apply exact_ite (fun _ => allExact_nil)
  intro _
  refine exact_after hs (.bind (KeepsTimes.modifyControl fun _ => rfl) fun _ =>
    KeepsTimes.pushAvailable htime) fun _ t ht => ?_
  exact exact_ite (fun _ => fillCodecBuffer_l_exact ht) (fun _ => allExact_nil)

/-!
# The requests
-/

theorem loadAvailable_exact (hs : s.timesBounded) (n : Nat) : AllExact (loadAvailable n s) := by
  induction n generalizing s with
  | zero => exact allExact_nil
  | succ n ih =>
      apply exact_ite
      · intro _
        rw [allExact_append]
        refine ⟨fillCodecBuffer_l_exact hs, ?_⟩
        apply exact_after hs KeepsTimes.fillCodecBuffer_l
        intro filled t ht
        exact exact_ite (fun _ => ih ht) (fun _ => allExact_nil)
      · intro _
        exact allExact_nil

theorem start_exact (hs : s.timesBounded) : AllExact (start s) := by
  refine exact_after hs (.bind (leads_check _ _) fun _ =>
    KeepsTimes.modifyControl fun _ => rfl) fun _ t ht => ?_
  exact loadAvailable_exact ht _

theorem reuseCodecBuffer_exact (hs : s.timesBounded) : AllExact (reuseCodecBuffer s) := by
  apply exact_ite
  · intro _
    apply exact_after hs (leads_check _ _)
    intro _ t ht
    exact fillCodecBuffer_l_exact ht
  · intro _
    apply exact_ite (fun _ => allExact_nil)
    intro _
    exact exact_ite (fun _ => repeatLatestBuffer_l_exact hs) (fun _ => allExact_nil)

theorem onInputBufferEmptied_exact (hs : s.timesBounded) (bufferId : CodecBufferId)
    (fenceFd : Int) : AllExact (onInputBufferEmptied bufferId fenceFd s) := by
  unfold onInputBufferEmptied
  cases s.mSubmittedCodecBuffers.find? bufferId with
  | none => exact allExact_nil
  | some entry =>
      cases entry with
      | none => exact allExact_nil
      | some buffer =>
          apply exact_ite (fun _ => allExact_nil)
          intro _
          refine exact_after hs (.bind (KeepsTimes.takeBack _ buffer bufferId fenceFd)
            fun _ => KeepsTimes.unhold buffer) fun _ t ht => ?_
          exact reuseCodecBuffer_exact ht

theorem onFrameAvailable_exact (hs : s.timesBounded) : AllExact (onFrameAvailable s) := by
  apply exact_after hs KeepsTimes.countAvailable
  intro _ t ht
  apply exact_ite (fun _ => allExact_nil)
  intro _
  have hacquires := (KeepsTimes.intake.acquireBuffer_l .oneFrame t).and
    (acquireBuffer_l_frameTime ht _)
  apply hacquires.allExact_after
  intro r u hu
  cases r with
  | error err => exact allExact_nil
  | ok buffer => exact onBufferAcquired_l_exact (hu.1 ht) (hu.2 buffer rfl)

theorem resumeNow_exact (hs : s.timesBounded) : AllExact (resumeNow s) := by
  refine exact_after hs (KeepsTimes.modifyControl fun _ => rfl) fun _ t ht => ?_
  exact exact_ite (fun _ => repeatLatestBuffer_l_exact ht) (fun _ => allExact_nil)

theorem setMaxFps_exact {maxFps : Binary32} (hkeeps : (Op.setMaxFps maxFps).keepsTimes) :
    AllExact (setMaxFps maxFps s) := by
  apply exact_ite (fun _ => allExact_nil)
  intro _
  apply exact_ite (fun _ => allExact_nil)
  intro hnonneg
  apply exact_ite (fun _ => allExact_nil)
  intro hzero
  rcases (hkeeps.resolve_left hnonneg).resolve_left hzero with
    ⟨intervalUs, hinterval, hle⟩
  have hupper : intervalUs <= 9218760350836348420 := hle
  have hlower := Binary32.toInt?_div_nonneg (p := 1000000) (by norm_num)
    (Bool.eq_false_iff.mpr hnonneg) hinterval
  rw [allExact_singleton]
  refine ⟨intervalUs, hinterval, ?_⟩
  unfold FitsInt64
  lia

theorem setStartTimeUs_exact (skipFramesBeforeUs : Int) :
    AllExact (setStartTimeUs skipFramesBeforeUs) := by
  apply exact_ite
  · intro hguard
    have hupper : skipFramesBeforeUs <= 9223372036854775 := hguard.2
    rw [allExact_singleton]
    unfold Computation.Fits FitsInt64
    dsimp only
    lia
  · intro _
    exact allExact_nil

theorem getStopTimeOffsetUs_exact (hs : s.timesBounded) :
    AllExact (getStopTimeOffsetUs s) := by
  apply exact_ite (fun _ => allExact_nil)
  intro _
  apply exact_ite (fun _ => allExact_nil)
  intro hframe
  have hstop := hs.fields.stopTime
  have hlast := hs.fields.lastFrame
  change -9218760350836348421 <= s.mStopTimeUs ∧ s.mStopTimeUs <= 9223372036854775807 at hstop
  change -1 <= s.mLastFrameTimestampUs ∧
    s.mLastFrameTimestampUs <= 4611686018427387 at hlast
  rw [allExact_singleton]
  unfold Computation.Fits FitsInt64
  dsimp only
  lia

theorem onMessageReceived_exact (hs : s.timesBounded) (generation : Int) :
    AllExact (onMessageReceived generation s) := by
  apply exact_ite (fun _ => allExact_nil)
  intro _
  exact exact_ite (fun _ => allExact_nil) (fun _ => repeatLatestBuffer_l_exact hs)

theorem setSuspend_exact (hs : s.timesBounded) (suspend : Bool) (suspendStartTimeUs : Int) :
    AllExact (setSuspend suspend suspendStartTimeUs s) := by
  apply exact_ite (fun _ => allExact_nil)
  intro _
  apply exact_ite (fun _ => allExact_nil)
  intro _
  exact exact_ite (fun _ => allExact_nil) (fun _ => resumeNow_exact hs)

theorem perform_exact (hs : s.timesBounded) {op : Op} (hkeeps : op.keepsTimes) :
    AllExact (perform op s) := by
  cases op with
  | start => exact start_exact hs
  | onInputBufferEmptied bufferId fenceFd =>
      exact onInputBufferEmptied_exact hs bufferId fenceFd
  | onFrameAvailable => exact onFrameAvailable_exact hs
  | setSuspend suspend time => exact setSuspend_exact hs suspend time
  | setMaxFps maxFps => exact setMaxFps_exact hkeeps
  | setStartTimeUs skipFramesBeforeUs => exact setStartTimeUs_exact skipFramesBeforeUs
  | getStopTimeOffsetUs => exact getStopTimeOffsetUs_exact hs
  | onMessageReceived generation => exact onMessageReceived_exact hs generation
  | _ => exact allExact_nil

end Times

theorem timesExact_of_bounded {s : GraphicBufferSource} (hs : s.timesBounded) {r : Request}
    (h : r.keepsTimes) : TimesExact s r := by
  cases r with
  | queueFrame item => exact allExact_nil
  | call op answers =>
      have hanswers : GraphicBufferSource.timesBounded { s with answers := answers } := hs
      exact Times.perform_exact hanswers h.2

/-!
# Runs
-/

def Request.uses (settings : Op -> Prop) : Request -> Prop
  | .queueFrame item => FrameTime item.mTimestamp
  | .call op _ => op.int64Arguments ∧ (op.sets = true -> settings op)

theorem Request.uses.keepsTimes {settings : Op -> Prop} {r : Request}
    (h : r.uses settings)
    (hsettings : forall op, settings op -> op.int64Arguments -> op.keepsTimes) :
    r.keepsTimes := by
  cases r with
  | queueFrame item => exact h
  | call op answers =>
      refine ⟨h.1, ?_⟩
      by_cases hsets : op.sets = true
      · exact hsettings op (h.2 hsets) h.1
      · cases op with
        | setRepeatPreviousFrameDelayUs _ => exact absurd rfl hsets
        | setStopTimeUs _ => exact absurd rfl hsets
        | setMaxFps _ => exact absurd rfl hsets
        | _ => trivial

theorem along_timesExact {requests : List Request}
    (h : forall r, r ∈ requests -> r.keepsTimes) :
    Along exec TimesExact requests .initial := by
  have hkeeps : Along exec (fun _ r => Request.keepsTimes r) requests .initial := by
    rw [along_iff_forall]
    intro before r later replies s hsplit _
    apply h
    rw [hsplit]
    exact List.mem_append_right before List.mem_cons_self
  apply hkeeps.of_kept (I := GraphicBufferSource.timesBounded)
  · intro s r hs hr
    exact timesExact_of_bounded hs hr
  · intro s r hs hr
    apply (exec_keepsTimes hr s).mono
    · intro _ t ht
      exact ht hs
    · intro _ _ _
      trivial
  · exact timesBounded_initial

end Bqhelper
end Sm7225
