import Sm7225.Bqhelper.EndOfStream

/-!
# Outcomes

What each function of the class does to the frame lists and to the flags that
decide about the end of the stream.  The results are relations between the state
a function starts from and the state it ends in.
-/

namespace Sm7225
namespace Bqhelper

open Lib

def AbortsQuietly (e : Abort) (s : GraphicBufferSource) : Prop :=
  (forall c, e ≠ .check c) ∧ Everywhere NothingAfterEos s.log ∧
    ReleasedUnused s.log

theorem EosLog.abortsQuietly {s : GraphicBufferSource} {sent : Bool}
    (h : EosLog s.log sent) {e : Abort} (he : forall c, e ≠ .check c) :
    AbortsQuietly e s :=
  ⟨he, h.nothing, h.unused⟩

def QuietTail (log log' : List Event) : Prop :=
  exists tail, log' = log ++ tail ∧ forall e, e ∈ tail -> e.ofEos = false

theorem QuietTail.refl (log : List Event) : QuietTail log log :=
  ⟨[], (List.append_nil log).symm, by simp⟩

theorem QuietTail.of_event {log : List Event} {e : Event}
    (he : e.ofEos = false) : QuietTail log (log ++ [e]) := by
  refine ⟨[e], rfl, ?_⟩
  intro e' he'
  rw [List.mem_singleton.mp he']
  exact he

theorem QuietTail.trans {log log' log'' : List Event} (h : QuietTail log log')
    (h' : QuietTail log' log'') : QuietTail log log'' := by
  rcases h with ⟨tail, hlog, htail⟩
  rcases h' with ⟨tail', hlog', htail'⟩
  refine ⟨tail ++ tail', ?_, ?_⟩
  · rw [hlog', hlog, List.append_assoc]
  · intro e he
    rcases List.mem_append.mp he with he | he
    · exact htail e he
    · exact htail' e he

theorem EosLog.quiet {log log' : List Event} {sent : Bool}
    (h : EosLog log sent) (htail : QuietTail log log') : EosLog log' sent := by
  rcases htail with ⟨tail, hlog, htail⟩
  rw [hlog]
  exact h.silent htail

theorem quietTail_unhold (b : Buffers) (a : AcquiredBuffer) :
    QuietTail b.log (b.unhold a).log := by
  rcases Buffers.unhold_log b a with ⟨tail, hlog, htail⟩
  exact ⟨tail, hlog, fun e he => ofEos_endsLife e (htail e he)⟩

theorem quietTail_unholdAll (b : Buffers) (as : List AcquiredBuffer) :
    QuietTail b.log (b.unholdAll as).log := by
  rcases Buffers.unholdAll_log b as with ⟨tail, hlog, htail⟩
  exact ⟨tail, hlog, fun e he => ofEos_endsLife e (htail e he)⟩

/-!
# The fields that requests decide on
-/

structure Phase where
  mEndOfStream : Bool
  mEndOfStreamSent : Bool
  mComponent : Option ComponentId
  mExecuting : Bool
  mStopTimeUs : Int
  mActionQueue : List ActionItem
  acquireBuffer : List Status
  drainAcquireBuffer : List Status
  submitEos : List Status

def Control.phase (c : Control) : Phase where
  mEndOfStream := c.mEndOfStream
  mEndOfStreamSent := c.mEndOfStreamSent
  mComponent := c.mComponent
  mExecuting := c.mExecuting
  mStopTimeUs := c.mStopTimeUs
  mActionQueue := c.mActionQueue
  acquireBuffer := c.answers.acquireBuffer
  drainAcquireBuffer := c.answers.drainAcquireBuffer
  submitEos := c.answers.submitEos

section Functions

variable {s : GraphicBufferSource}

/-!
# Acquiring
-/

theorem consumerAcquireBuffer_sat (site : AcquireSite)
    {E : Abort -> GraphicBufferSource -> Prop} :
    Sat (consumerAcquireBuffer site)
      (fun r t =>
        t.toControl = { s.toControl with answers := s.answers.popAcquire site } ∧
        match r with
        | .error _ => t.toFrames = s.toFrames ∧ QuietTail s.log t.log ∧
            (s.answers.nextAcquire site ≠ .ok ∨ s.queue = [])
        | .ok bi => t.toBuffers = s.toBuffers ∧ s.queue.head? = some bi) E s := by
  unfold consumerAcquireBuffer
  simp only [sat_bind, sat_get, sat_modifyControl, sat_ite, sat_note, sat_pure]
  constructor
  · intro herr
    exact ⟨trivial, rfl, .of_event rfl, Or.inl herr⟩
  · intro _
    cases hqueue : s.queue with
    | nil => exact ⟨rfl, rfl, .of_event rfl, Or.inr rfl⟩
    | cons bi rest => exact ⟨rfl, rfl, rfl⟩

structure Adopts (b b' : Buffers) (bi : BufferItem) (item : VideoBuffer) :
    Prop where
  frames : b'.toFrames = b.dequeue.toFrames
  live : b'.live = b.live ++
    [{ ptr := item.mBuffer, mReleaseFenceFds := [], mGotReleaseFences := false }]
  slot : b'.mBufferSlots.find? bi.mSlot = some item.mBuffer.mBuffer
  frameNum : item.mBuffer.frameNum = bi.mFrameNumber
  fence : item.mBuffer.mAcquireFence = bi.mFence
  time : item.mTimestampNs = bi.mTimestamp
  log : exists quiet, QuietTail b.log quiet ∧
    b'.log = quiet ++ [.acquired bi item.mBuffer]

theorem Adopts.eosLog {b b' : Buffers} {bi : BufferItem} {item : VideoBuffer}
    (h : Adopts b b' bi item) (hlog : EosLog b.log false) :
    EosLog b'.log false := by
  rcases h.log with ⟨quiet, hquiet, hacquired⟩
  rw [hacquired]
  exact (hlog.quiet hquiet).snoc_open (fun hflag => hflag)

theorem adoptItem_sat (bi : BufferItem)
    {E : Abort -> GraphicBufferSource -> Prop}
    (hE : forall t, t.log = s.log -> E .unknownSlot t) :
    Sat (adoptItem bi)
      (fun item t => t.toControl = s.toControl ∧
        Adopts s.toBuffers t.toBuffers bi item) E s := by
  unfold adoptItem cacheBuffer
  simp only [sat_bind, sat_modifyBuffers, sat_get]
  cases hgb : bi.mGraphicBuffer with
  | none =>
      cases hslot : s.mBufferSlots.find? bi.mSlot with
      | none =>
          simp only [Buffers.dequeue, hslot, sat_throw]
          exact hE _ rfl
      | some c =>
          simp only [Buffers.dequeue, hslot, sat_pure]
          exact ⟨trivial, rfl, rfl, hslot, rfl, rfl, rfl, _, .refl _, rfl⟩
  | some gb =>
      cases hslot : s.mBufferSlots.find? bi.mSlot with
      | none =>
          simp only [Buffers.dequeue, hslot, sat_pure, sat_bind,
            sat_modifyBuffers]
          exact ⟨trivial, rfl, rfl, find_cache _ _ _, rfl, rfl, rfl, _, .refl _, rfl⟩
      | some old =>
          simp only [Buffers.dequeue, hslot, sat_pure, sat_bind,
            sat_modifyBuffers, discardBufferAtSlotIndex_l]
          exact ⟨trivial, rfl, rfl, find_cache _ _ _, rfl, rfl, rfl, _,
            .of_event rfl, rfl⟩

def Acquires (site : AcquireSite) (s : GraphicBufferSource)
    (r : Except Status VideoBuffer) (t : GraphicBufferSource) : Prop :=
  t.toControl = { s.toControl with answers := s.answers.popAcquire site } ∧
  match r with
  | .error _ => t.toFrames = s.toFrames ∧ QuietTail s.log t.log ∧
      (s.answers.nextAcquire site ≠ .ok ∨ s.queue = [])
  | .ok item => exists bi, s.queue.head? = some bi ∧
      Adopts s.toBuffers t.toBuffers bi item

theorem acquireBuffer_l_acquires (site : AcquireSite)
    {E : Abort -> GraphicBufferSource -> Prop}
    (hE : forall t, t.log = s.log -> E .unknownSlot t) :
    Sat (acquireBuffer_l site) (Acquires site s) E s := by
  unfold acquireBuffer_l
  rw [sat_bind]
  apply (consumerAcquireBuffer_sat site).imp
  intro r t ht
  cases r with
  | error err => exact ht
  | ok bi =>
      rcases ht with ⟨hcontrol, hbuffers, hqueue⟩
      rw [sat_bind]
      apply (adoptItem_sat bi ?_).imp
      · intro item u hu
        rw [hbuffers] at hu
        exact ⟨hu.1.trans hcontrol, bi, hqueue, hu.2⟩
      · intro u hu
        rw [hbuffers] at hu
        exact hE u hu

theorem acquireBuffer_l_sat (site : AcquireSite) {sent : Bool}
    (h : EosLog s.log sent) :
    Sat (acquireBuffer_l site) (Acquires site s) AbortsQuietly s := by
  apply acquireBuffer_l_acquires site
  intro t ht
  have hlog : EosLog t.log sent := ht ▸ h
  exact hlog.abortsQuietly (fun c hc => by cases hc)

/-!
# Submitting
-/

structure SubmitsOne (f f' : Frames) : Prop where
  available : f'.mAvailableBuffers = f.mAvailableBuffers
  num : f'.mNumAvailableUnacquiredBuffers = f.mNumAvailableUnacquiredBuffers
  queue : f'.queue = f.queue
  codec : (f'.mFreeCodecBuffers = f.mFreeCodecBuffers ∧
      f'.mSubmittedCodecBuffers = f.mSubmittedCodecBuffers) ∨
    exists id entry, f.mFreeCodecBuffers.head? = some id ∧
      f'.mFreeCodecBuffers = f.mFreeCodecBuffers.tail ∧
      f'.mSubmittedCodecBuffers = f.mSubmittedCodecBuffers.add id entry

theorem SubmitsOne.refl (f : Frames) : SubmitsOne f f :=
  ⟨rfl, rfl, rfl, Or.inl ⟨rfl, rfl⟩⟩

def Frames.withoutLatest (f : Frames) : Frames :=
  { f with mLatestBuffer := none }

theorem SubmitsOne.of_withoutLatest {f f' f'' : Frames} (h : SubmitsOne f f')
    (hsame : f''.withoutLatest = f'.withoutLatest) : SubmitsOne f f'' := by
  have hfree : f''.mFreeCodecBuffers = f'.mFreeCodecBuffers := by
    have hboth := congrArg Frames.mFreeCodecBuffers hsame
    exact hboth
  have hsubmitted : f''.mSubmittedCodecBuffers = f'.mSubmittedCodecBuffers := by
    have hboth := congrArg Frames.mSubmittedCodecBuffers hsame
    exact hboth
  constructor
  · exact (congrArg Frames.mAvailableBuffers hsame).trans h.available
  · exact (congrArg Frames.mNumAvailableUnacquiredBuffers hsame).trans h.num
  · exact (congrArg Frames.queue hsame).trans h.queue
  · rw [hfree, hsubmitted]
    exact h.codec

theorem moveToSubmitted_outcome (id : CodecBufferId)
    (entry : Option AcquiredBuffer) {E : Abort -> GraphicBufferSource -> Prop} :
    Sat (moveToSubmitted id entry)
      (fun _ t => t.toControl = s.toControl ∧ QuietTail s.log t.log ∧
        t.toFrames = { s.toFrames with
          mFreeCodecBuffers := s.mFreeCodecBuffers.tail
          mSubmittedCodecBuffers := s.mSubmittedCodecBuffers.add id entry })
      E s := by
  unfold moveToSubmitted
  simp only [sat_bind, sat_get, sat_modifyBuffers, sat_unholdAll]
  refine ⟨trivial, quietTail_unholdAll _ _, ?_⟩
  rw [Buffers.unholdAll_toFrames]
  rfl

theorem assignLatest_outcome (item : Option VideoBuffer)
    {E : Abort -> GraphicBufferSource -> Prop} :
    Sat (assignLatest item)
      (fun _ t => t.toControl = s.toControl ∧ QuietTail s.log t.log ∧
        t.toFrames = { s.toFrames with mLatestBuffer := item }) E s := by
  unfold assignLatest
  simp only [sat_bind, sat_get, sat_modifyBuffers, sat_unholdAll]
  refine ⟨trivial, quietTail_unholdAll _ _, ?_⟩
  rw [Buffers.unholdAll_toFrames]
  rfl

theorem updateDataspace_outcome (item : VideoBuffer) {sent : Bool}
    (h : EosLog s.log sent) :
    Sat (updateDataspace item)
      (fun _ t => t.toFrames = s.toFrames ∧ QuietTail s.log t.log ∧
        t.toControl = { s.toControl with mLastDataspace := t.mLastDataspace })
      AbortsQuietly s := by
  unfold updateDataspace onDataspaceChanged_l
  simp only [sat_bind, sat_get, sat_modifyControl, sat_ite, sat_throw, sat_note,
    sat_pure]
  refine ⟨fun _ => ⟨fun _ => ⟨fun _ => ?_, fun _ => ?_⟩, fun _ => ?_⟩, fun _ => ?_⟩
  · exact h.abortsQuietly (fun c hc => by cases hc)
  · exact ⟨rfl, .of_event rfl, trivial⟩
  · exact ⟨trivial, .refl _, trivial⟩
  · exact ⟨trivial, .refl _, trivial⟩

def Control.accepts (c : Control) (timestampNs : Int) : Bool :=
  (c.clock.calculateCodecTimestamp_l c.mFrameDropper timestampNs).isSome &&
    decide (c.answers.submitBuffer.headD .ok = .ok)

structure Submits (item : VideoBuffer) (s : GraphicBufferSource) (err : Status)
    (t : GraphicBufferSource) : Prop where
  phase : t.toControl.phase = s.toControl.phase
  log : EosLog t.log false
  latest : t.mLatestBuffer = s.mLatestBuffer
  frames : SubmitsOne s.toFrames t.toFrames
  failed : err ≠ .ok -> t.toFrames = s.toFrames
  taken : err = .ok ->
    t.mFreeCodecBuffers = s.mFreeCodecBuffers.tail ∧
      t.mSubmittedCodecBuffers.entries ≠ []
  accepted : s.accepts item.mTimestampNs = true -> err = .ok

theorem entries_add (m : KeyedVector CodecBufferId (Option AcquiredBuffer))
    (id : CodecBufferId) (entry : Option AcquiredBuffer) :
    (m.add id entry).entries ≠ [] := by
  intro hnil
  have hmem := (m.mem_add id entry (id, entry)).mpr (Or.inl rfl)
  rw [hnil] at hmem
  cases hmem

theorem componentSubmitBuffer_outcome (id : CodecBufferId) (item : VideoBuffer)
    (origin : Origin) (codecTimeUs : Int) (h : EosLog s.log false) :
    Sat (componentSubmitBuffer id item origin codecTimeUs)
      (fun err t => err = s.answers.submitBuffer.headD .ok ∧
        t.toControl.phase = s.toControl.phase ∧ t.toFrames = s.toFrames ∧
        EosLog t.log false)
      AbortsQuietly s := by
  unfold componentSubmitBuffer
  simp only [sat_bind, sat_get, sat_ite, sat_throw, sat_modifyControl, sat_note,
    sat_pure]
  refine ⟨fun _ => h.abortsQuietly (fun c hc => by cases hc), fun _ => ?_⟩
  exact ⟨trivial, rfl, rfl, h.snoc_open (fun hflag => hflag)⟩

theorem submitBuffer_l_outcome (item : VideoBuffer) (origin : Origin)
    (hlog : EosLog s.log false) (hfree : s.mFreeCodecBuffers ≠ []) :
    Sat (submitBuffer_l item origin) (Submits item s) AbortsQuietly s := by
  unfold submitBuffer_l
  simp only [sat_bind, sat_get]
  cases hlist : s.mFreeCodecBuffers with
  | nil => exact absurd hlist hfree
  | cons id rest =>
      cases htime : s.clock.calculateCodecTimestamp_l s.mFrameDropper
          item.mTimestampNs with
      | none =>
          refine ⟨rfl, hlog, rfl, .refl _, fun _ => rfl, ?_, ?_⟩
          · intro hok
            cases hok
          · intro haccepts
            unfold Control.accepts at haccepts
            rw [htime] at haccepts
            cases haccepts
      | some timed =>
          simp only [sat_bind, sat_modifyControl]
          apply (updateDataspace_outcome
            (s := { s with toControl := { s.toControl with clock := timed.2 } })
            item hlog).imp
          intro _ t ht
          rcases ht with ⟨hframes, hquiet, hcontrol⟩
          have hphase : t.toControl.phase = s.toControl.phase := by
            rw [hcontrol]
            rfl
          have hanswers : t.answers = s.answers := by
            rw [hcontrol]
          apply (componentSubmitBuffer_outcome id item origin timed.1
            (hlog.quiet hquiet)).imp
          intro err u hu
          rcases hu with ⟨herr, hphase', hframes', hlog'⟩
          rw [hframes] at hframes'
          rw [hphase] at hphase'
          rw [hanswers] at herr
          rw [sat_ite]
          constructor
          · intro hfailed
            refine ⟨hphase', hlog', ?_, ?_, fun _ => hframes', ?_, ?_⟩
            · rw [hframes']
            · rw [hframes']
              exact .refl _
            · intro hok
              exact absurd hok hfailed
            · intro haccepts
              unfold Control.accepts at haccepts
              rw [Bool.and_eq_true, decide_eq_true_eq] at haccepts
              rw [herr]
              exact haccepts.2
          · intro _
            rw [sat_bind]
            apply (moveToSubmitted_outcome id (some item.mBuffer)).imp
            intro _ v hv
            rcases hv with ⟨hcontrol', hquiet', hmoved⟩
            rw [hframes'] at hmoved
            rw [sat_pure]
            refine ⟨?_, hlog'.quiet hquiet', ?_, ?_, ?_, fun _ => ?_, fun _ => rfl⟩
            · rw [hcontrol']
              exact hphase'
            · rw [hmoved]
            · rw [hmoved]
              exact ⟨rfl, rfl, rfl, Or.inr ⟨id, some item.mBuffer,
                congrArg List.head? hlist, rfl, rfl⟩⟩
            · intro hnot
              exact absurd rfl hnot
            · rw [hmoved]
              exact ⟨rfl, entries_add _ _ _⟩

structure SendsEos (s t : GraphicBufferSource) : Prop where
  log : EosLog t.log t.mEndOfStreamSent
  phase : t.toControl.phase = { s.toControl.phase with
    mEndOfStreamSent := t.mEndOfStreamSent
    submitEos := t.answers.submitEos }
  answers : t.answers.submitEos <:+ s.answers.submitEos
  frames : SubmitsOne s.toFrames t.toFrames
  latest : s.mLatestBuffer = none -> t.mLatestBuffer = none
  result : (t.mEndOfStreamSent = s.mEndOfStreamSent ∧
      (s.mEndOfStreamSent = true ∨ s.mFreeCodecBuffers = [] ∨
        s.answers.submitEos.headD .ok ≠ .ok)) ∨
    (t.mEndOfStreamSent = true ∧ t.mLatestBuffer = none ∧
      s.answers.submitEos.headD .ok = .ok)

theorem SendsEos.refl (hlog : EosLog s.log s.mEndOfStreamSent)
    (hwhy : s.mEndOfStreamSent = true ∨ s.mFreeCodecBuffers = []) :
    SendsEos s s := by
  refine ⟨hlog, rfl, List.suffix_refl _, .refl _, fun h => h, Or.inl ⟨rfl, ?_⟩⟩
  rcases hwhy with hsent | hfree
  · exact Or.inl hsent
  · exact Or.inr (Or.inl hfree)

theorem eosNext_failed (id : CodecBufferId) {err : Status} (h : err ≠ .ok)
    (sent : Bool) : eosNext sent (.submitEos id err) = sent := by
  cases err with
  | ok => exact absurd rfl h
  | _ => rfl

theorem submitEndOfInputStream_l_outcome (heos : s.mEndOfStream = true)
    (hlog : EosLog s.log s.mEndOfStreamSent) :
    Sat submitEndOfInputStream_l (fun _ t => SendsEos s t) AbortsQuietly s := by
  unfold submitEndOfInputStream_l componentSubmitEos
  simp only [sat_bind, sat_get, sat_check, sat_ite, sat_pure]
  refine ⟨fun _ => ⟨fun hsent => .refl hlog (Or.inl hsent), fun hsent => ?_⟩,
    fun hnot => ?_⟩
  · have hopen : EosLog s.log false := by
      rw [Bool.not_eq_true] at hsent
      rw [← hsent]
      exact hlog
    cases hlist : s.mFreeCodecBuffers with
    | nil => exact .refl hlog (Or.inr hlist)
    | cons id rest =>
        simp only [sat_bind, sat_get, sat_ite, sat_throw, sat_modifyControl,
          sat_note, sat_pure]
        refine ⟨fun _ => hlog.abortsQuietly (fun c hc => by cases hc),
          fun _ => ⟨fun herr => ?_, fun herr => ?_⟩⟩
        · refine ⟨?_, rfl, List.tail_suffix _, .refl _, fun h => h,
            Or.inl ⟨rfl, Or.inr (Or.inr herr)⟩⟩
          apply hopen.snoc_open
          intro hflag
          rw [eosNext_failed id herr] at hflag
          cases hflag
        · apply (moveToSubmitted_outcome id none).imp
          intro _ t ht
          rcases ht with ⟨hcontrol, hquiet, hframes⟩
          apply (assignLatest_outcome none).imp
          intro _ u hu
          rcases hu with ⟨hcontrol', hquiet', hframes'⟩
          have hlog' : EosLog u.log true := by
            have hnoted : EosLog (s.log ++
                [.submitEos id (s.answers.submitEos.headD .ok)]) true :=
              hopen.snoc_open (fun _ => rfl)
            exact (hnoted.quiet hquiet).quiet hquiet'
          have hsent' : u.mEndOfStreamSent = true := by
            rw [hcontrol']
          have hanswers : u.answers.submitEos = s.answers.submitEos.tail := by
            rw [hcontrol']
            show t.answers.submitEos = _
            rw [hcontrol]
          rw [hframes] at hframes'
          refine ⟨?_, ?_, ?_, ?_, ?_, Or.inr ⟨hsent', ?_, not_not.mp herr⟩⟩
          · rw [hsent']
            exact hlog'
          · rw [hsent', hanswers, hcontrol']
            show Control.phase { t.toControl with
              mEndOfStreamSent := true
              mRepeatLastFrameGeneration := t.mRepeatLastFrameGeneration + 1 } = _
            rw [hcontrol]
            rfl
          · rw [hanswers]
            exact List.tail_suffix _
          · rw [hframes']
            exact ⟨rfl, rfl, rfl, Or.inr ⟨id, none, congrArg List.head? hlist,
              rfl, rfl⟩⟩
          · intro _
            rw [hframes']
          · rw [hframes']
  · rw [heos] at hnot
    cases hnot

/-!
# Keeping the latest frame
-/

structure KeepsLatest (s t : GraphicBufferSource) : Prop where
  phase : t.toControl.phase = s.toControl.phase
  log : QuietTail s.log t.log
  frames : t.toFrames.withoutLatest = s.toFrames.withoutLatest

structure LeavesFrames (s t : GraphicBufferSource) : Prop where
  phase : t.toControl.phase = s.toControl.phase
  log : QuietTail s.log t.log
  frames : t.toFrames = s.toFrames

theorem LeavesFrames.keepsLatest {t : GraphicBufferSource}
    (h : LeavesFrames s t) : KeepsLatest s t :=
  ⟨h.phase, h.log, congrArg Frames.withoutLatest h.frames⟩

theorem queueFrameRepeat_l_outcome {E : Abort -> GraphicBufferSource -> Prop} :
    Sat queueFrameRepeat_l (fun _ t => LeavesFrames s t) E s := by
  unfold queueFrameRepeat_l
  simp only [sat_bind, sat_get, sat_modifyControl, sat_ite, sat_note, sat_pure]
  exact ⟨fun _ => ⟨rfl, .of_event rfl, rfl⟩, fun _ => ⟨rfl, .refl _, rfl⟩⟩

theorem KeepsLatest.trans {s t u : GraphicBufferSource} (h : KeepsLatest s t)
    (h' : KeepsLatest t u) : KeepsLatest s u :=
  ⟨h'.phase.trans h.phase, h.log.trans h'.log, h'.frames.trans h.frames⟩

theorem setLatestBuffer_l_outcome (item : VideoBuffer)
    {E : Abort -> GraphicBufferSource -> Prop} :
    Sat (setLatestBuffer_l item) (fun _ t => KeepsLatest s t) E s := by
  unfold setLatestBuffer_l
  apply Sat.bind (assignLatest_outcome (some item))
  intro _ t ht
  rcases ht with ⟨hcontrol, hquiet, hframes⟩
  simp only [sat_bind, sat_get, sat_modifyControl, sat_modifyBuffers]
  apply queueFrameRepeat_l_outcome.imp
  intro _ u hu
  refine KeepsLatest.trans ?_ hu.keepsLatest
  refine ⟨?_, hquiet, ?_⟩
  · show Control.phase { t.toControl with
      mOutstandingFrameRepeatCount := kRepeatLastFrameCount } = _
    rw [hcontrol]
    rfl
  · show t.toFrames.withoutLatest = _
    rw [hframes]
    rfl

theorem countRepeat_outcome {E : Abort -> GraphicBufferSource -> Prop} :
    Sat countRepeat (fun _ t => KeepsLatest s t) E s := by
  unfold countRepeat
  simp only [sat_bind, sat_get, sat_modifyControl, sat_ite, sat_modifyBuffers,
    sat_pure]
  constructor
  · intro _
    apply queueFrameRepeat_l_outcome.imp
    intro _ u hu
    refine KeepsLatest.trans ?_ hu.keepsLatest
    exact ⟨rfl, .refl _, rfl⟩
  · intro _
    exact ⟨rfl, .refl _, rfl⟩

theorem recordFrame_outcome (item : VideoBuffer) (itemTimeUs : Int)
    {E : Abort -> GraphicBufferSource -> Prop} :
    Sat (recordFrame item itemTimeUs) (fun _ t => KeepsLatest s t) E s := by
  unfold recordFrame
  simp only [sat_bind, sat_get, sat_ite, sat_modifyControl]
  constructor
  · intro _
    apply (setLatestBuffer_l_outcome _).imp
    intro _ t ht
    exact ht.trans ⟨rfl, .refl _, rfl⟩
  · intro _
    exact ⟨rfl, .refl _, rfl⟩

/-!
# No frame waits after the end of the stream
-/

def Frames.backlog (f : Frames) : Int :=
  f.mAvailableBuffers.length + f.mNumAvailableUnacquiredBuffers

theorem haveAvailable_eq_false {f : Frames}
    (hnum : 0 <= f.mNumAvailableUnacquiredBuffers) :
    f.haveAvailableBuffers_l = false <-> f.backlog = 0 := by
  unfold Frames.haveAvailableBuffers_l Frames.backlog
  cases f.mAvailableBuffers with
  | nil =>
      simp
      lia
  | cons item rest =>
      simp
      lia

structure Quiet (s : GraphicBufferSource) : Prop where
  num : 0 <= s.mNumAvailableUnacquiredBuffers
  log : EosLog s.log s.mEndOfStreamSent
  backlog : s.mEndOfStreamSent = true -> s.backlog = 0
  latest : s.mEndOfStreamSent = true -> s.mLatestBuffer = none

theorem Quiet.not_sent (h : Quiet s) (havailable : s.haveAvailableBuffers_l = true) :
    s.mEndOfStreamSent = false := by
  rw [← Bool.not_eq_true]
  intro hsent
  rw [(haveAvailable_eq_false h.num).mpr (h.backlog hsent)] at havailable
  cases havailable

theorem quiet_of_not_sent (hsent : s.mEndOfStreamSent = false)
    (hnum : 0 <= s.mNumAvailableUnacquiredBuffers) (hlog : EosLog s.log false) :
    Quiet s := by
  refine ⟨hnum, hsent ▸ hlog, ?_, ?_⟩
  · intro h
    rw [hsent] at h
    cases h
  · intro h
    rw [hsent] at h
    cases h

theorem SubmitsOne.backlog {f f' : Frames} (h : SubmitsOne f f') :
    f'.backlog = f.backlog := by
  unfold Frames.backlog
  rw [h.available, h.num]

theorem repeatLatestBuffer_l_outcome (h : Quiet s) (hexec : s.mExecuting = true)
    (hnone : s.haveAvailableBuffers_l = false) :
    Sat repeatLatestBuffer_l
      (fun _ t => Quiet t ∧ t.toControl.phase = s.toControl.phase ∧
        SubmitsOne s.toFrames t.toFrames)
      AbortsQuietly s := by
  unfold repeatLatestBuffer_l
  simp only [sat_bind, sat_get, sat_check]
  refine ⟨fun _ => ?_, fun hcheck => ?_⟩
  · cases hlatest : s.mLatestBuffer with
    | none => exact ⟨h, rfl, .refl _⟩
    | some latest =>
        simp only [sat_ite, sat_pure, sat_bind]
        refine ⟨fun _ => ⟨h, trivial, .refl _⟩, fun _ =>
          ⟨fun _ => ⟨h, trivial, .refl _⟩, fun hfree => ?_⟩⟩
        -- a latest frame is only kept before the end of the stream
        have hsent : s.mEndOfStreamSent = false := by
          rw [← Bool.not_eq_true]
          intro hsent
          rw [h.latest hsent] at hlatest
          cases hlatest
        have hlog : EosLog s.log false := hsent ▸ h.log
        have hne : s.mFreeCodecBuffers ≠ [] := by
          simpa using hfree
        apply (submitBuffer_l_outcome latest .repeated hlog hne).imp
        intro err t ht
        have hquiet : Quiet t := by
          apply quiet_of_not_sent
          · have hflag := congrArg Phase.mEndOfStreamSent ht.phase
            exact hflag.trans hsent
          · rw [ht.frames.num]
            exact h.num
          · exact ht.log
        constructor
        · intro _
          exact ⟨hquiet, ht.phase, ht.frames⟩
        · intro _
          apply countRepeat_outcome.imp
          intro _ u hu
          have hframes : SubmitsOne s.toFrames u.toFrames := by
            exact ht.frames.of_withoutLatest hu.frames
          have hphase := hu.phase.trans ht.phase
          refine ⟨?_, hphase, hframes⟩
          apply quiet_of_not_sent
          · exact (congrArg Phase.mEndOfStreamSent hphase).trans hsent
          · rw [hframes.num]
            exact h.num
          · exact ht.log.quiet hu.log
  · rw [hexec, hnone] at hcheck
    cases hcheck

end Functions

end Bqhelper
end Sm7225
