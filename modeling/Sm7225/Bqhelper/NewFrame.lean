import Sm7225.Bqhelper.Waiting

/-!
# A new frame

What {lit}`onFrameAvailable` does with the frame it is told about: the frame
waits in the queue for a codec buffer, or it is acquired and used, or it is
acquired and goes back at once.
-/

namespace Sm7225
namespace Bqhelper

open Lib

/-!
# A frame that goes back at once
-/

namespace Adopts

variable {b b' : Buffers} {bi : BufferItem} {item : VideoBuffer}

theorem alive (h : Adopts b b' bi item) : b'.alive = b.alive ++ [item.mBuffer] := by
  unfold Buffers.alive
  rw [h.live, List.map_append]
  rfl

theorem not_held (h : Adopts b b' bi item) (hlives : Buffers.Lives b)
    (hlives' : Buffers.Lives b') (hlocals : b'.locals = [item.mBuffer]) :
    item.mBuffer ∉ (b'.forget item.mBuffer).holders := by
  intro hheld
  have hnew : item.mBuffer ∉ b.alive := by
    intro hold
    have hdistinct := hlives'.distinct
    rw [h.alive] at hdistinct
    exact List.disjoint_of_nodup_append hdistinct hold List.mem_cons_self
  apply hnew
  rw [← hlives.holders]
  rw [Buffers.mem_holders] at hheld ⊢
  have hframes := h.frames
  rcases hheld with hlocal | hheld
  · have herased : (b'.forget item.mBuffer).locals = [] := by
      show b'.locals.erase item.mBuffer = []
      rw [hlocals]
      exact List.erase_cons_head item.mBuffer []
    rw [herased] at hlocal
    cases hlocal
  · right
    have hsame : (b'.forget item.mBuffer).toFrames = b.dequeue.toFrames := hframes
    unfold Buffers.available Buffers.submitted Buffers.latest at hheld
    rw [hsame] at hheld
    exact hheld

theorem unhold_log (h : Adopts b b' bi item) (hlives : Buffers.Lives b)
    (hlives' : Buffers.Lives b') (hslots : Buffers.Slots b')
    (hlocals : b'.locals = [item.mBuffer]) :
    (b'.unhold item.mBuffer).log = b'.log ++ [.destroyed item.mBuffer,
      .releaseBuffer item.mBuffer bi.mSlot bi.mFrameNumber bi.mFence] := by
  have hnot := h.not_held hlives hlives' hlocals
  have hnew : LiveBuffer.mk item.mBuffer [] false ∈ b'.live := by
    rw [h.live]
    exact List.mem_append_right _ List.mem_cons_self
  rcases Buffers.unhold_cases b' item.mBuffer with
    ⟨_, hheld | hdead⟩ | ⟨l, hl, hptr, _, hunhold⟩
  · exact absurd hheld hnot
  · exact absurd rfl (hdead _ hnew)
  · have heq : l = LiveBuffer.mk item.mBuffer [] false :=
      List.inj_on_of_nodup_map hlives'.distinct hl hnew hptr
    have hentry := hslots.entries _ _
      ((KeyedVector.find_eq_some _ _ _).mp h.slot)
    have hcached : (b'.forget item.mBuffer).isCached l.ptr.mBuffer = true := by
      rw [hptr]
      exact hentry.2
    rw [hunhold]
    show b'.log ++ (.destroyed l.ptr :: (b'.forget item.mBuffer).lastCalls l) = _
    unfold Buffers.lastCalls
    rw [if_pos hcached, heq]
    show b'.log ++ [.destroyed item.mBuffer, .releaseBuffer item.mBuffer
      item.mBuffer.mBuffer.mSlot item.mBuffer.frameNum
        item.mBuffer.mAcquireFence] = _
    rw [hentry.1, h.frameNum, h.fence]

end Adopts

section Functions

variable {s t : GraphicBufferSource} {err : Status}

/-!
# A frame that is used
-/

structure Offers (s t : GraphicBufferSource) : Prop where
  keeps : Keeps s t
  quiet : Quiet t
  loaded : Fed s -> t.mExecuting = true ->
    (s.mFreeCodecBuffers ≠ [] -> s.backlog = 0) ->
    t.mFreeCodecBuffers ≠ [] -> t.backlog = 0
  ready : Fed s -> EosOk s -> t.mExecuting = true ->
    s.mEndOfStream = false -> s.backlog = 0 -> t.mEndOfStreamSent = false ->
    t.mSubmittedCodecBuffers.entries = [] -> t.mFreeCodecBuffers ≠ [] ->
    t.mEndOfStream = false ∧ t.backlog = 0

theorem Offers.discards (h : Quiet s) : Offers s s := by
  refine ⟨.refl s, h, ?_, ?_⟩
  · intro _ _ hidle hfree
    exact hidle hfree
  · intro _ _ _ heos hbacklog _ _ _
    exact ⟨heos, hbacklog⟩

theorem Offers.of_fills {filled : Bool} {u : GraphicBufferSource}
    (hkeeps : Keeps s t) (hbacklog : t.backlog = s.backlog + 1)
    (heos : t.mEndOfStream = s.mEndOfStream)
    (havailable : t.haveAvailableBuffers_l = true) (h : FillsIf filled t u) :
    Offers s u := by
  rcases h with ⟨_, h⟩ | ⟨_, h⟩
  · refine ⟨hkeeps.trans h.keeps, h.quiet, ?_, ?_⟩
    · intro hfed _ hidle hfree
      have hzero := hidle (hkeeps.free (h.keeps.free hfree))
      have hone : t.backlog = 1 := by
        rw [hbacklog, hzero, zero_add]
      exact h.loaded (hfed.keeps hkeeps) (Or.inl (le_of_eq hone)) (Or.inl hone)
        hfree
    · intro _ hok _ hneos hzero hsent hnone _
      have hone : t.backlog = 1 := by
        rw [hbacklog, hzero, zero_add]
      apply h.ready (hok.keeps hkeeps) ?_ ?_ hsent hnone
      · rw [hone]
        exact zero_lt_one
      · exact Or.inr (Or.inr ⟨heos.trans hneos, le_of_eq hone⟩)
  · refine ⟨hkeeps.trans h.keeps, h.quiet, ?_, ?_⟩
    · intro hfed _ _ hfree
      exact absurd (h.free (hfed.keeps hkeeps) havailable) (h.keeps.free hfree)
    · intro hfed _ _ _ _ _ _ hfree
      exact absurd (h.free (hfed.keeps hkeeps) havailable) (h.keeps.free hfree)

theorem backlog_pushAvailable (b : Buffers) (item : VideoBuffer) :
    (b.pushAvailable item).backlog = b.backlog + 1 := by
  unfold Frames.backlog Buffers.pushAvailable
  rw [List.length_append]
  simp only [List.length_cons, List.length_nil]
  push_cast
  lia

theorem haveAvailable_pushAvailable (b : Buffers) (item : VideoBuffer) :
    (b.pushAvailable item).haveAvailableBuffers_l = true := by
  unfold Frames.haveAvailableBuffers_l Buffers.pushAvailable
  simp

theorem keeps_pushAvailable (s : GraphicBufferSource) (item : VideoBuffer) :
    Keeps s { s with toBuffers := s.toBuffers.pushAvailable item } :=
  keeps_of_phase rfl (fun h => h) (List.suffix_refl _) (List.suffix_refl _)
    (List.suffix_refl _) (fun h => h) (fun h => h) (fun h => h)

theorem Adopts.waitingTimes_pushAvailable {b b' : Buffers} {bi : BufferItem}
    {item : VideoBuffer} (h : Adopts b b' bi item) (hqueue : b.queue.head? = some bi) :
    (b'.pushAvailable item).waitingTimes ⊆ b.waitingTimes := by
  have havailable : b'.mAvailableBuffers = b.mAvailableBuffers := by
    rw [h.frames]
    rfl
  have hrest : b'.queue = b.queue.tail := by
    rw [h.frames]
    rfl
  rcases List.head?_eq_some_iff.mp hqueue with ⟨rest, hlist⟩
  show (b'.mAvailableBuffers ++ [item]).map VideoBuffer.mTimestampNs ++
    b'.queue.map BufferItem.mTimestamp ⊆ _
  unfold Frames.waitingTimes
  rw [havailable, hrest, hlist, List.map_append, List.append_assoc]
  show _ ++ item.mTimestampNs :: rest.map BufferItem.mTimestamp ⊆
    _ ++ bi.mTimestamp :: rest.map BufferItem.mTimestamp
  rw [h.time]
  exact List.Subset.refl _

theorem onBufferAcquired_l_outcome (item : VideoBuffer)
    (hsent : s.mEndOfStreamSent = false) (h : Quiet s)
    (hclean : StopsClean { s with toBuffers := s.toBuffers.pushAvailable item }) :
    Sat (onBufferAcquired_l item) (fun _ t => Offers s t) AbortsQuietly s := by
  have hquiet : Quiet { s with
      toBuffers := s.toBuffers.pushAvailable item
      toControl := { s.toControl with
        mRepeatLastFrameGeneration := s.mRepeatLastFrameGeneration + 1 } } :=
    quiet_of_not_sent hsent h.num (hsent ▸ h.log)
  have hcounted : Keeps { s with toBuffers := s.toBuffers.pushAvailable item }
      { s with
        toBuffers := s.toBuffers.pushAvailable item
        toControl := { s.toControl with
          mRepeatLastFrameGeneration := s.mRepeatLastFrameGeneration + 1 } } :=
    keeps_of_same_phase rfl (.refl _)
  have hkeeps : Keeps s { s with
      toBuffers := s.toBuffers.pushAvailable item
      toControl := { s.toControl with
        mRepeatLastFrameGeneration := s.mRepeatLastFrameGeneration + 1 } } :=
    (keeps_pushAvailable s item).trans hcounted
  unfold onBufferAcquired_l
  simp only [sat_bind, sat_get, sat_ite, sat_pure, sat_modifyControl,
    sat_modifyBuffers]
  refine ⟨fun _ => .discards h, fun _ => ⟨fun _ => .discards h, fun _ =>
    ⟨fun hexec => ?_, fun hexec => ?_⟩⟩⟩
  · have havailable := haveAvailable_pushAvailable s.toBuffers item
    apply (fillCodecBuffer_l_outcome hquiet hexec havailable
      (hclean.keeps hcounted rfl (List.Subset.refl _))).imp
    intro filled t ht
    exact Offers.of_fills hkeeps (backlog_pushAvailable s.toBuffers item) rfl
      havailable ht
  · refine ⟨hkeeps, hquiet, ?_, ?_⟩
    · intro _ hexecT
      exact absurd hexecT hexec
    · intro _ _ hexecT
      exact absurd hexecT hexec

/-!
# A frame is announced
-/

def GraphicBufferSource.announced (s : GraphicBufferSource) :
    GraphicBufferSource :=
  { s with toBuffers := s.toBuffers.countAvailable }

theorem Offers.leavesFrames {u : GraphicBufferSource} (h : Offers s t)
    (hu : LeavesFrames t u) : Offers s u := by
  have hkeeps : Keeps t u := keeps_of_frames hu.phase hu.frames
  have heos : u.mEndOfStream = t.mEndOfStream := congrArg Phase.mEndOfStream hu.phase
  refine ⟨h.keeps.trans hkeeps, hu.quiet h.quiet, ?_, ?_⟩
  · intro hfed hexec hidle hfree
    rw [hu.frames] at hfree ⊢
    exact h.loaded hfed (hkeeps.executing ▸ hexec) hidle hfree
  · intro hfed hok hexec hneos hzero hsent hnone hfree
    rw [hu.frames] at hnone hfree ⊢
    rw [heos]
    exact h.ready hfed hok (hkeeps.executing ▸ hexec) hneos hzero
      (hkeeps.not_sent hsent) hnone hfree

theorem Offers.serves {u : GraphicBufferSource} (h : Offers t u)
    (hcontrol : t.toControl = { s.toControl with
      answers := s.answers.popAcquire .oneFrame })
    (hframes : t.toFrames = s.announced.toBuffers.dequeue.toFrames) :
    Serves (Fed s.announced) True True s u := by
  have hexec : t.mExecuting = s.mExecuting := by
    rw [hcontrol]
  have hbacklog : t.backlog = s.backlog := by
    rw [hframes]
    show (s.mAvailableBuffers.length : Int) +
      (s.mNumAvailableUnacquiredBuffers + 1 - 1) = s.backlog
    unfold Frames.backlog
    lia
  have hfree : t.mFreeCodecBuffers = s.mFreeCodecBuffers := by
    rw [hframes]
    rfl
  have hsubmitted : t.mSubmittedCodecBuffers = s.mSubmittedCodecBuffers := by
    rw [hframes]
    rfl
  have hfed : Fed s.announced -> Fed t := by
    intro hfed
    refine ⟨?_, ?_, ?_⟩
    · intro st hst
      rw [hcontrol] at hst
      exact hfed.answers st (List.mem_of_mem_tail hst)
    · rw [hcontrol]
      exact hfed.drains.answers
    · rw [hframes]
      have hqueued := hfed.drains.queued
      show s.announced.mNumAvailableUnacquiredBuffers - 1 <= s.queue.tail.length
      have hlength : s.announced.queue.length = s.queue.length := rfl
      rw [List.length_tail]
      lia
  refine ⟨h.quiet, ?_, ?_⟩
  · intro hfeds _ hidle hexecU hfreeU
    apply h.loaded (hfed hfeds) hexecU ?_ hfreeU
    intro hfreeT
    rw [hbacklog]
    rw [hfree] at hfreeT
    exact hidle (hexec.symm.trans (h.keeps.executing.symm.trans hexecU)) hfreeT
  · intro hfeds hok _ hready hexecU hstopU hsentU hnoneU hfreeU
    have hexecT : t.mExecuting = true := h.keeps.executing.symm.trans hexecU
    have hstopT : t.mStopTimeUs = -1 := h.keeps.stopTime.symm.trans hstopU
    have hsentT := h.keeps.not_sent hsentU
    have hnoneT := h.keeps.submitted hnoneU
    have hfreeT := h.keeps.free hfreeU
    have hokT : EosOk t := by
      unfold EosOk
      rw [hcontrol]
      exact hok
    rw [hfree] at hfreeT
    rw [hsubmitted] at hnoneT
    have hboth : t.mEndOfStream = false ∧ s.backlog = 0 := by
      rw [hcontrol] at hstopT hsentT ⊢
      exact hready (hexec.symm.trans hexecT) hstopT hsentT hnoneT hfreeT
    exact h.ready (hfed hfeds) hokT hexecU hboth.1 (hbacklog.trans hboth.2) hsentU
      hnoneU hfreeU

theorem onBufferAcquired_l_sent (item : VideoBuffer)
    (hsent : s.mEndOfStreamSent = true) {E : Abort -> GraphicBufferSource -> Prop} :
    Sat (onBufferAcquired_l item) (fun _ t => t = s) E s := by
  unfold onBufferAcquired_l
  simp only [sat_bind, sat_get, sat_ite, sat_pure]
  exact ⟨fun _ => trivial, fun hnot => absurd hsent hnot⟩

def AcquiresLate (s : GraphicBufferSource) : Prop :=
  s.answers.nextAcquire .oneFrame = .ok ∧ s.queue ≠ []

theorem serves_of_no_codec_buffer {settles : Prop} (hsent : s.mEndOfStreamSent = false)
    (h : Quiet s) (hfree : s.mFreeCodecBuffers = []) (hframes : t.toFrames =
      s.announced.toFrames) (hphase : t.toControl.phase = s.toControl.phase)
    (hlog : EosLog t.log false) :
    Serves (Fed s.announced) True settles s t := by
  have hnum := h.num
  have hsentT : t.mEndOfStreamSent = false :=
    (congrArg Phase.mEndOfStreamSent hphase).trans hsent
  have hfreeT : t.mFreeCodecBuffers = [] := by
    rw [hframes]
    exact hfree
  refine ⟨?_, ?_, ?_⟩
  · apply quiet_of_not_sent hsentT ?_ hlog
    rw [hframes]
    show 0 <= s.mNumAvailableUnacquiredBuffers + 1
    lia
  · intro _ _ _ _ hne
    exact absurd hfreeT hne
  · intro _ _ _ _ _ _ _ _ hne
    exact absurd hfreeT hne

theorem serves_of_failed {settles : Prop} (hsent : s.mEndOfStreamSent = false)
    (h : Quiet s) (hlog : EosLog s.announced.log false)
    (ht : Acquires .oneFrame s.announced (.error err) t) :
    Serves (Fed s.announced) True settles s t := by
  rcases ht with ⟨hcontrol, hframes, hquiet, hwhy⟩
  have hnum : 0 < s.announced.mNumAvailableUnacquiredBuffers := by
    have hnonneg := h.num
    show 0 < s.mNumAvailableUnacquiredBuffers + 1
    lia
  have hsentT : t.mEndOfStreamSent = false := by
    rw [hcontrol]
    exact hsent
  have hnever : ¬Fed s.announced := by
    intro hfed
    rcases hwhy with hfailed | hempty
    · exact hfailed hfed.nextAcquire
    · exact hfed.queue_ne_nil hnum hempty
  refine ⟨?_, ?_, ?_⟩
  · apply quiet_of_not_sent hsentT ?_ (hlog.quiet hquiet)
    rw [hframes]
    exact le_of_lt hnum
  · intro hfed
    exact absurd hfed hnever
  · intro hfed
    exact absurd hfed hnever

theorem serves_of_released {bi : BufferItem} {item : VideoBuffer}
    (h : Quiet s) (hlog : EosLog s.announced.log s.mEndOfStreamSent)
    (haccounts : Buffers.Accounts s.announced.toBuffers)
    (hcontrol : t.toControl = { s.toControl with
      answers := s.answers.popAcquire .oneFrame })
    (hadopts : Adopts s.announced.toBuffers t.toBuffers bi item)
    (htracks : Tracks s.announced.toBuffers [item.mBuffer] t.toBuffers) :
    Serves (Fed s.announced) True True s
      { t with toBuffers := t.toBuffers.unhold item.mBuffer } := by
  have hframes : (t.toBuffers.unhold item.mBuffer).toFrames =
      s.announced.toBuffers.dequeue.toFrames :=
    (Buffers.unhold_toFrames _ _).trans hadopts.frames
  have haccountsT := Buffers.steps_keep (fun _ _ => Buffers.accounts_step)
    htracks.steps haccounts
  have hsent : t.mEndOfStreamSent = s.mEndOfStreamSent := by
    rw [hcontrol]
  have hlogT : EosLog (t.toBuffers.unhold item.mBuffer).log t.mEndOfStreamSent := by
    rcases hadopts.log with ⟨quiet, hquiet, hacquired⟩
    rw [hadopts.unhold_log haccounts.lives haccountsT.lives haccountsT.slots
      htracks.locals, hacquired, List.append_assoc, hsent]
    exact (hlog.quiet hquiet).acquired_released bi item.mBuffer
  have hbacklog : (t.toBuffers.unhold item.mBuffer).backlog = s.backlog := by
    rw [hframes]
    show (s.mAvailableBuffers.length : Int) +
      (s.mNumAvailableUnacquiredBuffers + 1 - 1) = s.backlog
    unfold Frames.backlog
    lia
  have hquiet : Quiet { t with toBuffers := t.toBuffers.unhold item.mBuffer } := by
    refine ⟨?_, hlogT, ?_, ?_⟩
    · rw [hframes]
      show 0 <= s.mNumAvailableUnacquiredBuffers + 1 - 1
      have hnum := h.num
      lia
    · intro hsentT
      exact hbacklog.trans (h.backlog (hsent ▸ hsentT))
    · intro hsentT
      rw [hframes]
      exact h.latest (hsent ▸ hsentT)
  exact (Offers.discards hquiet).serves hcontrol hframes

theorem Acquires.keeps {item : VideoBuffer}
    (h : Acquires .oneFrame s (.ok item) t) : Keeps s t := by
  rcases h with ⟨hcontrol, bi, hqueue, hadopts⟩
  have hframes := hadopts.frames
  have hphase : t.toControl.phase = { s.toControl.phase with
      acquireBuffer := s.answers.acquireBuffer.tail } := by
    rw [hcontrol]
    rfl
  apply keeps_of_phase hphase (fun h => h) (List.tail_suffix _)
    (List.suffix_refl _) (List.suffix_refl _)
  · intro hqueued
    rw [hframes]
    show s.mNumAvailableUnacquiredBuffers - 1 <= s.queue.tail.length
    rw [List.length_tail]
    lia
  · rw [hframes]
    exact fun hfree => hfree
  · rw [hframes]
    exact fun hnone => hnone

theorem onFrameAvailable_outcome (hbetween : Between s)
    (haccounts : Buffers.Accounts s.toBuffers) (h : Quiet s)
    (hlate : s.mEndOfStreamSent = true -> AcquiresLate s)
    (hclean : s.mEndOfStreamSent = false -> StopsClean s.announced) :
    Sat onFrameAvailable
      (fun _ t => Serves (Fed s.announced) True True s t) AbortsQuietly s := by
  have hlog : EosLog s.announced.log s.mEndOfStreamSent :=
    h.log.quiet (.of_event rfl)
  have hnum : 0 < s.announced.mNumAvailableUnacquiredBuffers := by
    have hnonneg := h.num
    show 0 < s.mNumAvailableUnacquiredBuffers + 1
    lia
  have haccounts' : Buffers.Accounts s.announced.toBuffers :=
    Buffers.accounts_arrival haccounts s.mExecuting (.call .onFrameAvailable {})
  have htracks : Tracks s.announced.toBuffers [] s.announced.toBuffers :=
    ⟨.refl, hbetween.locals⟩
  unfold onFrameAvailable
  simp only [sat_bind, sat_get, sat_modifyBuffers, sat_ite, sat_modifyControl]
  refine ⟨fun hwaits => ?_, fun _ => ?_⟩
  · rw [Bool.and_eq_true, Bool.not_eq_true'] at hwaits
    have hsent : s.mEndOfStreamSent = false := by
      have hkept : s.areWeDiscardingAvailableBuffers_l = false := hwaits.1
      unfold Control.areWeDiscardingAvailableBuffers_l at hkept
      simp only [Bool.or_eq_false_iff] at hkept
      exact hkept.1.1.1
    exact serves_of_no_codec_buffer hsent h (List.isEmpty_iff.mp hwaits.2) rfl rfl
      (hsent ▸ hlog)
  · apply ((acquireBuffer_l_sat (s := s.announced) .oneFrame hlog).and
      (acquireBuffer_l_tracks htracks .oneFrame hnum)).mono
    · intro r t ht
      rcases ht with ⟨ht, htracked⟩
      cases hsent : s.mEndOfStreamSent with
      | true =>
          cases r with
          | error err =>
              have hgood := hlate hsent
              rcases ht.2.2.2 with hfailed | hempty
              · exact absurd hgood.1 hfailed
              · exact absurd hempty hgood.2
          | ok item =>
              rcases ht with ⟨hcontrol, bi, _, hadopts⟩
              have hsentT : t.mEndOfStreamSent = true := by
                rw [hcontrol]
                exact hsent
              simp only [sat_bind, sat_unhold]
              apply (onBufferAcquired_l_sent item hsentT).imp
              intro _ u hu
              rw [hu]
              exact serves_of_released h hlog haccounts' hcontrol hadopts htracked.1
      | false =>
          rw [hsent] at hlog
          cases r with
          | error err => exact serves_of_failed hsent h hlog ht
          | ok item =>
              rcases ht with ⟨hcontrol, bi, hqueue, hadopts⟩
              have hsentT : t.mEndOfStreamSent = false := by
                rw [hcontrol]
                exact hsent
              have hquietT : Quiet t := by
                apply quiet_of_not_sent hsentT ?_ (hadopts.eosLog hlog)
                rw [hadopts.frames]
                show 0 <= s.announced.mNumAvailableUnacquiredBuffers - 1
                lia
              have hkeeps : Keeps s.announced t :=
                Acquires.keeps ⟨hcontrol, bi, hqueue, hadopts⟩
              have hcleanT : StopsClean { t with
                  toBuffers := t.toBuffers.pushAvailable item } := by
                apply (hclean hsent).keeps (hkeeps.trans (keeps_pushAvailable t item))
                · rw [hcontrol]
                  rfl
                · exact hadopts.waitingTimes_pushAvailable hqueue
              apply Sat.bind (onBufferAcquired_l_outcome item hsentT hquietT hcleanT)
              intro _ u hu
              rw [sat_unhold]
              have hleaves : LeavesFrames u
                  { u with toBuffers := u.toBuffers.unhold item.mBuffer } :=
                ⟨rfl, quietTail_unhold _ _, Buffers.unhold_toFrames _ _⟩
              exact (hu.leavesFrames hleaves).serves hcontrol hadopts.frames
    · intro e t ht
      exact ht.1

end Functions

end Bqhelper
end Sm7225
