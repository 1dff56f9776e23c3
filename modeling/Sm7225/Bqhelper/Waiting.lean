import Sm7225.Bqhelper.Accounting
import Sm7225.Bqhelper.Filling

/-!
# What a request leaves waiting

Three things may wait in a source: a frame for a codec buffer, the end of the
stream for a codec buffer, and a codec buffer for a frame.  This module follows
each request and says which of them still wait when it is done.
-/

namespace Sm7225
namespace Bqhelper

open Lib

section Functions

variable {s t : GraphicBufferSource}

/-!
# Calls that succeed
-/

structure Fed (s : GraphicBufferSource) : Prop where
  answers : forall st, st ∈ s.answers.acquireBuffer -> st = .ok
  drains : DrainsOk s

def EosOk (s : GraphicBufferSource) : Prop :=
  forall st, st ∈ s.answers.submitEos -> st = .ok

theorem headD_ok {answers : List Status} (h : forall st, st ∈ answers -> st = .ok) :
    answers.headD .ok = .ok := by
  cases answers with
  | nil => rfl
  | cons st rest => exact h st List.mem_cons_self

theorem Fed.nextAcquire (h : Fed s) : s.answers.nextAcquire .oneFrame = .ok :=
  headD_ok h.answers

theorem Fed.keeps (h : Fed s) (hkeeps : Keeps s t) : Fed t :=
  ⟨fun st hst => h.answers st (hkeeps.acquires.mem hst), h.drains.keeps hkeeps⟩

theorem DrainsOk.congr (h : DrainsOk s) (hanswers : t.answers = s.answers)
    (hframes : t.toFrames = s.toFrames) : DrainsOk t := by
  constructor
  · rw [hanswers]
    exact h.answers
  · rw [hframes]
    exact h.queued

theorem Fed.congr (h : Fed s) (hanswers : t.answers = s.answers)
    (hframes : t.toFrames = s.toFrames) : Fed t := by
  constructor
  · rw [hanswers]
    exact h.answers
  · exact h.drains.congr hanswers hframes

theorem StopsClean.congr (h : StopsClean s) (hanswers : t.answers = s.answers)
    (hactions : t.mActionQueue = s.mActionQueue)
    (hframes : t.toFrames = s.toFrames) : StopsClean t := by
  rcases h with hlater | hfails | hok
  · left
    unfold StopsLater
    rw [hactions, hframes]
    exact hlater
  · right
    left
    rw [hanswers]
    exact hfails
  · exact Or.inr (Or.inr (hok.congr hanswers hframes))

theorem EosOk.keeps (h : EosOk s) (hkeeps : Keeps s t) : EosOk t :=
  fun st hst => h st (hkeeps.eosAnswers.mem hst)

theorem Fed.queue_ne_nil (h : Fed s) (hnum : 0 < s.mNumAvailableUnacquiredBuffers) :
    s.queue ≠ [] := by
  intro hnil
  have hqueued := h.drains.queued
  rw [hnil] at hqueued
  exact absurd hnum (not_lt.mpr hqueued)

theorem FillsNone.free (h : FillsNone s t) (hfed : Fed s)
    (havailable : s.haveAvailableBuffers_l = true) : s.mFreeCodecBuffers = [] := by
  rcases h.why with hfree | ⟨hlist, hfailed | hempty⟩
  · exact hfree
  · exact absurd hfed.nextAcquire hfailed
  · have hnum : 0 < s.mNumAvailableUnacquiredBuffers := by
      simpa [Frames.haveAvailableBuffers_l, hlist] using havailable
    exact absurd hempty (hfed.queue_ne_nil hnum)

theorem Quiet.backlog_nonneg (h : Quiet s) : 0 <= s.backlog := by
  have hnum := h.num
  unfold Frames.backlog
  lia

theorem Quiet.backlog_pos (h : Quiet s)
    (havailable : s.haveAvailableBuffers_l = true) : 0 < s.backlog := by
  have hnonneg := h.backlog_nonneg
  have hne : s.backlog ≠ 0 := by
    intro hzero
    rw [(haveAvailable_eq_false h.num).mpr hzero] at havailable
    cases havailable
  lia

theorem Quiet.backlog_eq_zero (h : Quiet s)
    (hnone : ¬s.haveAvailableBuffers_l = true) : s.backlog = 0 := by
  rw [Bool.not_eq_true] at hnone
  exact (haveAvailable_eq_false h.num).mp hnone

/-!
# Starting
-/

structure Loads (n : Nat) (s t : GraphicBufferSource) : Prop where
  keeps : Keeps s t
  quiet : Quiet t
  loaded : Fed s -> s.backlog <= n -> t.mFreeCodecBuffers ≠ [] -> t.backlog = 0

theorem loadAvailable_outcome (n : Nat) (h : Quiet s)
    (hexec : s.mExecuting = true)
    (hclean : s.mEndOfStreamSent = false -> StopsClean s) :
    Sat (loadAvailable n) (fun _ t => Loads n s t) AbortsQuietly s := by
  induction n generalizing s with
  | zero =>
      refine ⟨.refl s, h, ?_⟩
      intro _ hle _
      exact le_antisymm hle h.backlog_nonneg
  | succ n ih =>
      unfold loadAvailable
      simp only [sat_bind, sat_get, sat_ite, sat_pure]
      refine ⟨fun havailable => ?_, fun hnone => ?_⟩
      · have hsent := h.not_sent havailable
        apply (fillCodecBuffer_l_outcome h hexec havailable (hclean hsent)).imp
        intro filled t ht
        constructor
        · intro hfilled
          rcases ht with ⟨_, ht⟩ | ⟨hnot, _⟩
          · have hexecT : t.mExecuting = true := ht.keeps.executing.trans hexec
            apply (ih ht.quiet hexecT (fun _ => ht.clean)).imp
            intro _ u hu
            refine ⟨ht.keeps.trans hu.keeps, hu.quiet, ?_⟩
            intro hfed hle
            apply hu.loaded (hfed.keeps ht.keeps)
            rcases ht.result with ⟨_, _, hdrained, _⟩ | ⟨_, _, _, hless, _⟩
            · rw [hdrained hfed.drains]
              exact Int.natCast_nonneg n
            · rw [hless]
              push_cast at hle
              lia
          · rw [hfilled] at hnot
            cases hnot
        · intro hnot
          rcases ht with ⟨hfilled, _⟩ | ⟨_, ht⟩
          · exact absurd hfilled hnot
          · refine ⟨ht.keeps, ht.quiet, ?_⟩
            intro hfed _ hfree
            exact absurd (ht.free hfed havailable) (ht.keeps.free hfree)
      · refine ⟨.refl s, h, ?_⟩
        intro _ _ _
        exact h.backlog_eq_zero hnone

theorem SendsEos.quiet (h : SendsEos s t) (hs : Quiet s) (hnone : s.backlog = 0) :
    Quiet t := by
  refine ⟨?_, h.log, ?_, ?_⟩
  · rw [h.frames.num]
    exact hs.num
  · intro _
    exact h.frames.backlog.trans hnone
  · intro hsent
    rcases h.result with ⟨hsame, _⟩ | ⟨_, hlatest, _⟩
    · rw [hsame] at hsent
      exact h.latest (hs.latest hsent)
    · exact hlatest

theorem SendsEos.eos (h : SendsEos s t) : t.mEndOfStream = s.mEndOfStream :=
  congrArg Phase.mEndOfStream h.phase

theorem SendsEos.sent (h : SendsEos s t) (hok : EosOk s)
    (hfree : s.mFreeCodecBuffers ≠ []) : t.mEndOfStreamSent = true := by
  rcases h.result with ⟨hsame, hsent | hnil | hfailed⟩ | ⟨hsent, _⟩
  · exact hsame.trans hsent
  · exact absurd hnil hfree
  · exact absurd (headD_ok hok) hfailed
  · exact hsent

structure SendsWaitingEos (s t : GraphicBufferSource) : Prop where
  keeps : Keeps s t
  quiet : Quiet t
  backlog : t.backlog = s.backlog
  eos : t.mEndOfStream = s.mEndOfStream
  sent : EosOk s -> s.mStopTimeUs = -1 -> s.mEndOfStream = true ->
    s.backlog = 0 -> s.mFreeCodecBuffers ≠ [] -> t.mEndOfStreamSent = true

theorem SendsEos.sendsWaitingEos (h : SendsEos s t) (hs : Quiet s)
    (hnone : s.backlog = 0) : SendsWaitingEos s t :=
  ⟨h.keeps, h.quiet hs hnone, h.frames.backlog, h.eos,
    fun hok _ _ _ hfree => h.sent hok hfree⟩

theorem sendPendingEos_outcome (h : Quiet s) :
    Sat sendPendingEos (fun _ t => SendsWaitingEos s t) AbortsQuietly s := by
  unfold sendPendingEos
  simp only [sat_bind, sat_get, sat_ite, sat_pure]
  refine ⟨fun hwaits => ?_, fun hnot => ?_⟩
  · rcases hwaits with ⟨_, heos, hnone⟩
    have hbacklog := h.backlog_eq_zero (by simpa using hnone)
    apply (submitEndOfInputStream_l_outcome heos h.log).imp
    intro _ t ht
    exact ht.sendsWaitingEos h hbacklog
  · refine ⟨.refl s, h, rfl, rfl, ?_⟩
    intro _ hstop heos hbacklog _
    have hnone := (haveAvailable_eq_false h.num).mpr hbacklog
    exact absurd ⟨hstop, heos, by simp [hnone]⟩ hnot

theorem startLooper_outcome {E : Abort -> GraphicBufferSource -> Prop} :
    Sat startLooper (fun _ t => LeavesFrames s t) E s := by
  unfold startLooper
  simp only [sat_bind, sat_get, sat_ite, sat_modifyControl, sat_pure]
  refine ⟨fun _ => ⟨fun _ => ?_, fun _ => ?_⟩, fun _ => ?_⟩
  · apply queueFrameRepeat_l_outcome.imp
    intro _ t ht
    exact ⟨ht.phase, ht.log, ht.frames⟩
  · exact ⟨rfl, .refl _, rfl⟩
  · exact ⟨rfl, .refl _, rfl⟩

theorem LeavesFrames.quiet (h : LeavesFrames s t) (hs : Quiet s) : Quiet t :=
  hs.of_frames h.frames h.log (congrArg Phase.mEndOfStreamSent h.phase)

structure Starts (s t : GraphicBufferSource) : Prop where
  quiet : Quiet t
  loaded : Fed s -> t.mFreeCodecBuffers ≠ [] -> t.backlog = 0
  sent : Fed s -> EosOk s -> t.mStopTimeUs = -1 -> t.mEndOfStream = true ->
    t.mFreeCodecBuffers ≠ [] -> t.mEndOfStreamSent = true

theorem start_outcome (h : Quiet s) (hexec : s.mExecuting = false)
    (hclean : s.mEndOfStreamSent = false -> StopsClean s) :
    Sat start (fun _ t => Starts s t) AbortsQuietly s := by
  unfold start
  simp only [sat_bind, sat_get, sat_check, sat_modifyControl, sat_pure]
  refine ⟨fun _ => ?_, fun hcheck => ?_⟩
  · apply (loadAvailable_outcome (s := { s with toControl := { s.toControl with
      mExecuting := true, mLastDataspace := halDataspaceUnknown } }) _
      (h.of_frames rfl (.refl _) rfl) rfl
      (fun hsent => (hclean hsent).congr rfl rfl rfl)).imp
    intro _ t ht
    apply (sendPendingEos_outcome ht.quiet).imp
    intro _ u hu
    apply startLooper_outcome.imp
    intro _ v hv
    have hkeeps : Keeps u v := keeps_of_frames hv.phase hv.frames
    have hloaded : Fed s -> t.mFreeCodecBuffers ≠ [] -> t.backlog = 0 := by
      intro hfed
      apply ht.loaded (hfed.congr rfl rfl)
      unfold Frames.backlog
      rw [Nat.cast_add, Int.toNat_of_nonneg h.num]
    have hbacklog : v.backlog = t.backlog := by
      rw [hv.frames]
      exact hu.backlog
    have hfreeT : v.mFreeCodecBuffers ≠ [] -> t.mFreeCodecBuffers ≠ [] :=
      fun hfree => hu.keeps.free (hkeeps.free hfree)
    refine ⟨hv.quiet hu.quiet, ?_, ?_⟩
    · intro hfed hfree
      rw [hbacklog]
      exact hloaded hfed (hfreeT hfree)
    · intro hfed hok hstop heos hfree
      have hstopT : t.mStopTimeUs = -1 :=
        (hkeeps.stopTime.trans hu.keeps.stopTime) ▸ hstop
      have heosV : v.mEndOfStream = u.mEndOfStream :=
        congrArg Phase.mEndOfStream hv.phase
      have heosT : t.mEndOfStream = true :=
        (hu.eos.symm.trans heosV.symm).trans heos
      have hokT : EosOk t := fun st hst => hok st (ht.keeps.eosAnswers.mem hst)
      have hsentU := hu.sent hokT hstopT heosT (hloaded hfed (hfreeT hfree))
        (hfreeT hfree)
      exact hkeeps.sent hsentU
  · rw [hexec] at hcheck
    cases hcheck

/-!
# Using a codec buffer again
-/

def GraphicBufferSource.headSettles (s : GraphicBufferSource) : Bool :=
  s.stopDue || s.headSubmits

theorem Fills.loaded (h : Fills s t) (hfed : Fed s)
    (hleft : s.backlog <= 1 ∨ s.headSettles = true)
    (hlast : s.backlog = 1 ∨ s.mFreeCodecBuffers.tail = [])
    (hfree : t.mFreeCodecBuffers ≠ []) : t.backlog = 0 := by
  have hnonneg := h.quiet.backlog_nonneg
  rcases h.result with ⟨_, _, hdrained, _⟩ | ⟨hstop, _, _, hless, hresult⟩
  · exact hdrained hfed.drains
  · rcases hresult with ⟨_, hsubmits⟩ | ⟨htail, _⟩
    · have hnot : ¬s.headSettles = true := by
        unfold GraphicBufferSource.headSettles
        rw [hstop, hsubmits]
        simp
      rcases hleft with hle | hsettles
      · lia
      · exact absurd hsettles hnot
    · rcases hlast with hone | hnil
      · lia
      · exact absurd (htail.trans hnil) hfree

theorem Fills.ready (h : Fills s t) (hok : EosOk s)
    (havailable : 0 < s.backlog)
    (hleft : s.backlog = 0 ∨ s.headSettles = true ∨
      s.mEndOfStream = false ∧ s.backlog <= 1)
    (hsent : t.mEndOfStreamSent = false)
    (hnone : t.mSubmittedCodecBuffers.entries = []) :
    t.mEndOfStream = false ∧ t.backlog = 0 := by
  have hnonneg := h.quiet.backlog_nonneg
  rcases h.result with ⟨_, _, _, hsends⟩ | ⟨hstop, heos, _, hless, hresult⟩
  · rw [hsends (headD_ok hok)] at hsent
    cases hsent
  · rcases hresult with ⟨_, hsubmits⟩ | ⟨_, hsubmitted⟩
    · have hnot : ¬s.headSettles = true := by
        unfold GraphicBufferSource.headSettles
        rw [hstop, hsubmits]
        simp
      rcases hleft with hzero | hsettles | ⟨hneos, hle⟩
      · lia
      · exact absurd hsettles hnot
      · refine ⟨heos.trans hneos, ?_⟩
        lia
    · exact absurd hnone hsubmitted

structure Reuses (s t : GraphicBufferSource) : Prop where
  keeps : Keeps s t
  quiet : Quiet t
  loaded : Fed s -> s.mFreeCodecBuffers ≠ [] ->
    s.backlog <= 1 ∨ s.headSettles = true ->
    s.backlog = 0 ∨ s.mFreeCodecBuffers.tail = [] ->
    t.mFreeCodecBuffers ≠ [] -> t.backlog = 0
  ready : Fed s -> EosOk s -> s.mFreeCodecBuffers ≠ [] ->
    s.backlog = 0 ∨ s.headSettles = true ∨
      s.mEndOfStream = false ∧ s.backlog <= 1 ->
    s.mStopTimeUs = -1 -> t.mEndOfStreamSent = false ->
    t.mSubmittedCodecBuffers.entries = [] ->
    t.mEndOfStream = false ∧ t.backlog = 0

theorem FillsIf.reuses {filled : Bool} (h : FillsIf filled s t) (hs : Quiet s)
    (havailable : s.haveAvailableBuffers_l = true) : Reuses s t := by
  have hpos := hs.backlog_pos havailable
  rcases h with ⟨_, h⟩ | ⟨_, h⟩
  · refine ⟨h.keeps, h.quiet, ?_, ?_⟩
    · intro hfed _ hleft hlast
      apply h.loaded hfed hleft
      rcases hlast with hzero | hnil
      · lia
      · exact Or.inr hnil
    · intro _ hok _ hleft _
      exact h.ready hok hpos hleft
  · refine ⟨h.keeps, h.quiet, ?_, ?_⟩
    · intro hfed hfree
      exact absurd (h.free hfed havailable) hfree
    · intro hfed _ hfree
      exact absurd (h.free hfed havailable) hfree

theorem SendsWaitingEos.reuses (h : SendsWaitingEos s t) (hs : s.backlog = 0) :
    Reuses s t := by
  refine ⟨h.keeps, h.quiet, ?_, ?_⟩
  · intro _ _ _ _ _
    exact h.backlog.trans hs
  · intro _ hok hfree _ hstop hsent _
    refine ⟨?_, h.backlog.trans hs⟩
    rw [h.eos, ← Bool.not_eq_true]
    intro heos
    rw [h.sent hok hstop heos hs hfree] at hsent
    cases hsent

theorem reuseCodecBuffer_outcome (h : Quiet s) (hexec : s.mExecuting = true)
    (hclean : s.mEndOfStreamSent = false -> StopsClean s) :
    Sat reuseCodecBuffer (fun _ t => Reuses s t) AbortsQuietly s := by
  unfold reuseCodecBuffer
  simp only [sat_bind, sat_get, sat_ite, sat_check, sat_pure, sat_modifyControl]
  refine ⟨fun havailable => ⟨fun _ => ?_, fun hcheck => ?_⟩, fun hnone =>
    ⟨fun heos => ?_, fun heos => ⟨fun _ => ?_, fun _ => ?_⟩⟩⟩
  · have hsent := h.not_sent havailable
    apply (fillCodecBuffer_l_outcome h hexec havailable (hclean hsent)).imp
    intro filled t ht
    exact ht.reuses h havailable
  · rw [h.not_sent havailable] at hcheck
    cases hcheck
  · have hbacklog := h.backlog_eq_zero hnone
    apply (submitEndOfInputStream_l_outcome heos.1 h.log).imp
    intro _ t ht
    exact (ht.sendsWaitingEos h hbacklog).reuses hbacklog
  · have hbacklog := h.backlog_eq_zero hnone
    rw [Bool.not_eq_true] at hnone
    apply (repeatLatestBuffer_l_outcome h hexec hnone).imp
    intro _ t ht
    rcases ht with ⟨hquiet, hphase, hframes⟩
    apply SendsWaitingEos.reuses ?_ hbacklog
    refine ⟨?_, hquiet.of_frames rfl (.refl _) rfl, hframes.backlog,
      congrArg Phase.mEndOfStream hphase, ?_⟩
    · exact keeps_of_same_phase hphase hframes
    · intro _ hstop hwaits
      exact absurd ⟨hwaits, hstop⟩ heos
  · have hbacklog := h.backlog_eq_zero hnone
    apply SendsWaitingEos.reuses ?_ hbacklog
    refine ⟨.refl s, h, rfl, rfl, ?_⟩
    intro _ hstop hwaits
    exact absurd ⟨hwaits, hstop⟩ heos

/-!
# What may wait between two requests
-/

def Idle (s : GraphicBufferSource) : Prop :=
  s.mExecuting = true -> s.mFreeCodecBuffers ≠ [] -> s.backlog = 0

def EosReady (s : GraphicBufferSource) : Prop :=
  s.mExecuting = true -> s.mStopTimeUs = -1 -> s.mEndOfStreamSent = false ->
    s.mSubmittedCodecBuffers.entries = [] -> s.mFreeCodecBuffers ≠ [] ->
    s.mEndOfStream = false ∧ s.backlog = 0

/-- A request that keeps both, the first if its acquires succeed and it
{lit}`loads` enough, the second if the end of the stream is also taken and it
{lit}`settles` enough. -/
structure Serves (fed loads settles : Prop) (s t : GraphicBufferSource) :
    Prop where
  quiet : Quiet t
  idle : fed -> loads -> Idle s -> Idle t
  ready : fed -> EosOk s -> settles -> EosReady s -> EosReady t

theorem serves_of_not_executing {fed loads settles : Prop} (hquiet : Quiet t)
    (hexec : t.mExecuting = false) : Serves fed loads settles s t := by
  refine ⟨hquiet, ?_, ?_⟩
  · intro _ _ _ hexecT
    rw [hexec] at hexecT
    cases hexecT
  · intro _ _ _ _ hexecT
    rw [hexec] at hexecT
    cases hexecT

structure Tame (s t : GraphicBufferSource) : Prop where
  executing : s.mExecuting = true
  stopTime : t.mStopTimeUs = -1 -> s.mStopTimeUs = -1
  sent : t.mEndOfStreamSent = false -> s.mEndOfStreamSent = false
  free : t.mFreeCodecBuffers ≠ [] -> s.mFreeCodecBuffers ≠ []
  submitted : t.mSubmittedCodecBuffers.entries = [] ->
    s.mSubmittedCodecBuffers.entries = []
  eos : s.mEndOfStream = false -> t.mEndOfStream = false
  backlog : s.backlog = 0 -> t.backlog = 0

theorem Tame.serves {fed loads settles : Prop} (hquiet : Quiet t)
    (h : fed -> t.mExecuting = true -> Tame s t) :
    Serves fed loads settles s t := by
  refine ⟨hquiet, ?_, ?_⟩
  · intro hfed _ hidle hexec hfree
    have htame := h hfed hexec
    exact htame.backlog (hidle htame.executing (htame.free hfree))
  · intro hfed _ _ hready hexec hstop hsent hnone hfree
    have htame := h hfed hexec
    have hboth := hready htame.executing (htame.stopTime hstop) (htame.sent hsent)
      (htame.submitted hnone) (htame.free hfree)
    exact ⟨htame.eos hboth.1, htame.backlog hboth.2⟩

theorem Keeps.not_sent (h : Keeps s t) (hsent : t.mEndOfStreamSent = false) :
    s.mEndOfStreamSent = false := by
  rw [← Bool.not_eq_true]
  intro hsentS
  rw [h.sent hsentS] at hsent
  cases hsent

theorem Keeps.tame (h : Keeps s t) (hexec : t.mExecuting = true)
    (heos : t.mEndOfStream = s.mEndOfStream)
    (hbacklog : s.backlog = 0 -> t.backlog = 0) : Tame s t := by
  refine ⟨h.executing.symm.trans hexec, ?_, h.not_sent, h.free, h.submitted, ?_,
    hbacklog⟩
  · intro hstop
    exact h.stopTime.symm.trans hstop
  · intro heosS
    exact heos.trans heosS

theorem LeavesFrames.serves {fed loads settles : Prop} (h : LeavesFrames s t)
    (hs : Quiet s) : Serves fed loads settles s t := by
  apply Tame.serves (h.quiet hs)
  intro _ hexec
  have hkeeps : Keeps s t := keeps_of_frames h.phase h.frames
  apply hkeeps.tame hexec (congrArg Phase.mEndOfStream h.phase)
  intro hzero
  rw [h.frames]
  exact hzero

/-!
# A codec buffer comes back
-/

def NoFrameLeft (bufferId : CodecBufferId) (s : GraphicBufferSource) : Prop :=
  s.mExecuting = true ->
    match s.mSubmittedCodecBuffers.find? bufferId with
    | none => True
    | some none => s.backlog = 0
    | some (some _) => s.backlog <= 1 ∨ s.headSettles = true

def NothingLeft (bufferId : CodecBufferId) (s : GraphicBufferSource) : Prop :=
  s.mExecuting = true -> s.mStopTimeUs = -1 -> s.mEndOfStreamSent = false ->
    (s.mSubmittedCodecBuffers.remove bufferId).entries = [] ->
    match s.mSubmittedCodecBuffers.find? bufferId with
    | none => True
    | some none => s.mEndOfStream = false ∧ s.backlog = 0
    | some (some _) => s.backlog = 0 ∨ s.headSettles = true ∨
        s.mEndOfStream = false ∧ s.backlog <= 1

theorem headSettles_congr (hcontrol : t.toControl = s.toControl)
    (havailable : t.mAvailableBuffers = s.mAvailableBuffers)
    (hqueue : t.queue = s.queue) : t.headSettles = s.headSettles := by
  have htime : t.headTime = s.headTime := by
    unfold Frames.headTime
    rw [havailable, hqueue]
  unfold GraphicBufferSource.headSettles GraphicBufferSource.stopDue
    GraphicBufferSource.headSubmits
  rw [htime, hcontrol]

theorem quietTail_autoclose (b : Buffers) (fd : Int) :
    QuietTail b.log (b.autoclose fd).log := by
  unfold Buffers.autoclose
  split
  · exact .of_event rfl
  · exact .refl _

theorem autoclose_toFrames (b : Buffers) (fd : Int) :
    (b.autoclose fd).toFrames = b.toFrames := by
  unfold Buffers.autoclose
  split
  · rfl
  · rfl

structure TakesBack (bufferId : CodecBufferId) (s t : GraphicBufferSource) :
    Prop where
  control : t.toControl = s.toControl
  log : QuietTail s.log t.log
  frames : t.toFrames = { s.toFrames with
    mFreeCodecBuffers := s.mFreeCodecBuffers ++ [bufferId]
    mSubmittedCodecBuffers := s.mSubmittedCodecBuffers.remove bufferId }

theorem TakesBack.quiet {bufferId : CodecBufferId} (h : TakesBack bufferId s t)
    (hs : Quiet s) : Quiet t := by
  have hsent : t.mEndOfStreamSent = s.mEndOfStreamSent := by
    rw [h.control]
  constructor
  · rw [h.frames]
    exact hs.num
  · rw [hsent]
    exact hs.log.quiet h.log
  · rw [h.frames, hsent]
    exact hs.backlog
  · rw [h.frames, hsent]
    exact hs.latest

theorem takesBack_of_log (s : GraphicBufferSource) (bufferId : CodecBufferId)
    {b : Buffers}
    (hlog : QuietTail s.log b.log)
    (hframes : b.toFrames = (s.toBuffers.takeBack bufferId).toFrames) :
    TakesBack bufferId s { s with toBuffers := b } :=
  ⟨rfl, hlog, hframes⟩

theorem TakesBack.serves {bufferId : CodecBufferId} (h : TakesBack bufferId s t)
    (hs : Quiet s) (hfind : s.mSubmittedCodecBuffers.find? bufferId = some none) :
    Serves (Fed s) (NoFrameLeft bufferId s) (NothingLeft bufferId s) s t := by
  have hbacklog : t.backlog = s.backlog := by
    rw [h.frames]
    rfl
  refine ⟨h.quiet hs, ?_, ?_⟩
  · intro _ hleft _ hexec _
    rw [h.control] at hexec
    have hzero := hleft hexec
    rw [hfind] at hzero
    exact hbacklog.trans hzero
  · intro _ _ hleft _ hexec hstop hsent hnone _
    rw [h.control] at hexec hstop hsent ⊢
    rw [h.frames] at hnone
    have hboth := hleft hexec hstop hsent hnone
    rw [hfind] at hboth
    exact ⟨hboth.1, hbacklog.trans hboth.2⟩

theorem TakesBack.serves_of_reuses {bufferId : CodecBufferId}
    {buffer : AcquiredBuffer} {u : GraphicBufferSource}
    (h : TakesBack bufferId s t) (hu : Reuses t u)
    (hexec : s.mExecuting = true)
    (hfind : s.mSubmittedCodecBuffers.find? bufferId = some (some buffer)) :
    Serves (Fed s) (NoFrameLeft bufferId s) (NothingLeft bufferId s) s u := by
  have hfree : t.mFreeCodecBuffers = s.mFreeCodecBuffers ++ [bufferId] := by
    rw [h.frames]
  have hne : t.mFreeCodecBuffers ≠ [] := by
    rw [hfree]
    exact List.append_ne_nil_of_right_ne_nil _ (List.cons_ne_nil _ _)
  have hbacklog : t.backlog = s.backlog := by
    rw [h.frames]
    rfl
  have havailable : t.mAvailableBuffers = s.mAvailableBuffers := by
    rw [h.frames]
  have hqueue : t.queue = s.queue := by
    rw [h.frames]
  have hnum : t.mNumAvailableUnacquiredBuffers =
      s.mNumAvailableUnacquiredBuffers := by
    rw [h.frames]
  have hsettles := headSettles_congr h.control havailable hqueue
  have hfed : Fed s -> Fed t := by
    intro hfed
    refine ⟨?_, ?_, ?_⟩
    · rw [h.control]
      exact hfed.answers
    · rw [h.control]
      exact hfed.drains.answers
    · rw [hnum, hqueue]
      exact hfed.drains.queued
  have hok : EosOk s -> EosOk t := by
    intro hok
    unfold EosOk
    rw [h.control]
    exact hok
  refine ⟨hu.quiet, ?_, ?_⟩
  · intro hfeds hleft hidle _
    have hleft' := hleft hexec
    rw [hfind] at hleft'
    apply hu.loaded (hfed hfeds) hne
    · rw [hbacklog, hsettles]
      exact hleft'
    · -- with another free codec buffer nothing waited before
      rw [hbacklog, hfree]
      by_cases hnil : s.mFreeCodecBuffers = []
      · right
        rw [hnil]
        rfl
      · exact Or.inl (hidle hexec hnil)
  · intro hfeds hoks hleft _ hexecU hstopU hsentU hnoneU _
    have hstop : t.mStopTimeUs = -1 := hu.keeps.stopTime.symm.trans hstopU
    have hsent := hu.keeps.not_sent hsentU
    have hnone := hu.keeps.submitted hnoneU
    have hleft' : t.backlog = 0 ∨ t.headSettles = true ∨
        t.mEndOfStream = false ∧ t.backlog <= 1 := by
      rw [hbacklog, hsettles, h.control]
      rw [h.control] at hstop hsent
      rw [h.frames] at hnone
      have hsplit := hleft hexec hstop hsent hnone
      rw [hfind] at hsplit
      exact hsplit
    exact hu.ready (hfed hfeds) (hok hoks) hne hleft' hstop hsentU hnoneU

theorem onInputBufferEmptied_outcome (bufferId : CodecBufferId) (fenceFd : Int)
    (h : Quiet s) (hclean : s.mEndOfStreamSent = false -> StopsClean s) :
    Sat (onInputBufferEmptied bufferId fenceFd)
      (fun _ t => Serves (Fed s) (NoFrameLeft bufferId s) (NothingLeft bufferId s)
        s t) AbortsQuietly s := by
  unfold onInputBufferEmptied
  simp only [sat_bind, sat_get]
  cases hfind : s.mSubmittedCodecBuffers.find? bufferId with
  | none =>
      simp only [sat_bind, sat_modifyBuffers, sat_pure]
      have hlog : QuietTail s.log ((s.toBuffers.note
          (.emptied bufferId fenceFd none false)).autoclose fenceFd).log :=
        QuietTail.trans (.of_event rfl) (quietTail_autoclose _ fenceFd)
      have hframes : ((s.toBuffers.note
          (.emptied bufferId fenceFd none false)).autoclose fenceFd).toFrames =
          s.toFrames := autoclose_toFrames _ fenceFd
      exact LeavesFrames.serves ⟨rfl, hlog, hframes⟩ h
  | some entry =>
      cases entry with
      | none =>
          simp only [sat_bind, sat_modifyBuffers, sat_pure]
          have hback := takesBack_of_log s bufferId
            (b := ((s.toBuffers.note (.emptied bufferId fenceFd (some none)
              false)).takeBack bufferId).autoclose fenceFd)
            (QuietTail.trans (.of_event rfl) (quietTail_autoclose _ fenceFd))
            (autoclose_toFrames _ fenceFd)
          exact hback.serves h hfind
      | some buffer =>
          simp only [sat_ite, sat_bind, sat_modifyBuffers, sat_unhold, sat_pure,
            Bool.not_eq_true', Bool.not_eq_false]
          constructor
          · intro hexec
            have hback := takesBack_of_log s bufferId
              (b := (((s.toBuffers.note (.emptied bufferId fenceFd
                (some (some buffer)) false)).takeBack bufferId).unhold
                  buffer).autoclose fenceFd)
              (QuietTail.trans (QuietTail.trans (.of_event rfl)
                (quietTail_unhold _ buffer)) (quietTail_autoclose _ fenceFd))
              ((autoclose_toFrames _ fenceFd).trans
                (Buffers.unhold_toFrames _ buffer))
            exact serves_of_not_executing (hback.quiet h) hexec
          · intro hexec
            have hback := takesBack_of_log s bufferId
              (b := (((s.toBuffers.note (.emptied bufferId fenceFd
                (some (some buffer)) true)).takeBack bufferId).addReleaseFenceFd
                  buffer fenceFd).unhold buffer)
              (QuietTail.trans (.of_event rfl) (quietTail_unhold _ buffer))
              (Buffers.unhold_toFrames _ buffer)
            apply (reuseCodecBuffer_outcome (hback.quiet h) hexec ?_).imp
            · intro _ u hu
              exact hback.serves_of_reuses hu hexec hfind
            · intro hsent
              rcases hclean hsent with hlater | hfails | hok
              · left
                unfold StopsLater
                rw [hback.frames]
                exact hlater
              · exact Or.inr (Or.inl hfails)
              · refine Or.inr (Or.inr ⟨hok.answers, ?_⟩)
                rw [hback.frames]
                exact hok.queued

end Functions

end Bqhelper
end Sm7225
