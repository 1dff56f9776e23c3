import Mathlib.Data.List.Count
import Sm7225.Bqhelper.Accounting
import Sm7225.Bqhelper.ActionQueue

/-!
# A frame performs the actions that are due

A frame for which a codec buffer is free performs the actions that are due at its
time: they leave the queue, and the source is suspended or not as if they had been
replayed one by one.  With a STOP action among them nothing is left, and the end
of the stream is sent in place of the frame.
-/

namespace Sm7225
namespace Bqhelper

open Lib

/-!
# What is promised
-/

def Event.takesEos : Event -> Bool
  | .submitEos _ .ok => true
  | _ => false

def eosSubmissions (log : List Event) : Nat :=
  log.countP Event.takesEos

/-- {lit}`fillCodecBuffer_l` finds a codec buffer and a frame of this time, and
its acquires and {lit}`submitEos` succeed. -/
structure FillsAt (itemTimeUs : Int) (s : GraphicBufferSource) : Prop where
  executing : s.mExecuting = true
  free : s.mFreeCodecBuffers ≠ []
  available : s.haveAvailableBuffers_l = true
  time : s.headTime.map (fun timestampNs => Int.tdiv timestampNs 1000) =
    some itemTimeUs
  fed : Fed s
  eosOk : EosOk s

structure StopsAll (s t : GraphicBufferSource) : Prop where
  queue : t.mActionQueue = []
  available : t.mAvailableBuffers = []
  unacquired : t.mNumAvailableUnacquiredBuffers <= 0
  released : forall a, a ∈ t.holders ->
    a ∈ s.locals ∨ a ∈ s.submitted ∨ a ∈ s.latest
  eos : t.mEndOfStream = true
  sent : t.mEndOfStreamSent = true
  submitted : s.mEndOfStreamSent = false ->
    eosSubmissions t.log = eosSubmissions s.log + 1
  frame : freshFrames t.log = freshFrames s.log

/-- The actions that are due at this time have been performed. -/
structure Replays (itemTimeUs : Int) (s t : GraphicBufferSource) : Prop where
  queue : ¬StopDue itemTimeUs s.mActionQueue ->
    t.mActionQueue = s.mActionQueue.filter (fun a => !a.due itemTimeUs)
  suspended : ¬StopDue itemTimeUs s.mActionQueue ->
    t.mSuspended = replayActions s.mSuspended
      (s.mActionQueue.filter (ActionItem.due itemTimeUs))
  stop : StopDue itemTimeUs s.mActionQueue -> StopsAll s t
  frame : freshFrames t.log ≠ freshFrames s.log -> t.mSuspended = false

structure Orphan (b : Buffers) (bi : BufferItem) : Prop where
  buffer : bi.mGraphicBuffer = none
  slot : b.mBufferSlots.find? bi.mSlot = none

def MeetsOrphan (itemTimeUs : Int) (s : GraphicBufferSource) : Prop :=
  exists bi, Orphan s.toBuffers bi ∧
    (s.mAvailableBuffers = [] ∧ s.queue.head? = some bi ∨
      StopDue itemTimeUs s.mActionQueue ∧ bi ∈ s.queue)

/-- The process can only end at such a frame, or at a component that was never set. -/
def EndsFilling (itemTimeUs : Int) (s : GraphicBufferSource) (e : Abort)
    (_ : GraphicBufferSource) : Prop :=
  e = .unknownSlot ∧ MeetsOrphan itemTimeUs s ∨ e = .nullComponent ∧ s.mComponent = none

/-!
# Nothing is submitted
-/

structure SubmitsNone (log log' : List Event) : Prop where
  frame : freshFrames log' = freshFrames log
  eos : eosSubmissions log' = eosSubmissions log

theorem SubmitsNone.refl (log : List Event) : SubmitsNone log log :=
  ⟨rfl, rfl⟩

theorem SubmitsNone.trans {log log' log'' : List Event} (h : SubmitsNone log log')
    (h' : SubmitsNone log' log'') : SubmitsNone log log'' :=
  ⟨h'.frame.trans h.frame, h'.eos.trans h.eos⟩

theorem QuietTail.submitsNone {log log' : List Event} (h : QuietTail log log') :
    SubmitsNone log log' := by
  rcases h with ⟨tail, hlog, htail⟩
  rw [hlog]
  constructor
  · apply filterMap_append_of_silent
    intro e he
    have hquiet := htail e he
    cases e <;> first | rfl | cases hquiet
  · unfold eosSubmissions
    rw [List.countP_append]
    have hnone : tail.countP Event.takesEos = 0 := by
      apply List.countP_eq_zero.mpr
      intro e he
      have hquiet := htail e he
      cases e <;> first | exact Bool.false_ne_true | cases hquiet
    rw [hnone]
    rfl

theorem submitsNone_snoc (log : List Event) {e : Event} (hframe : e.freshFrame? = none)
    (heos : e.takesEos = false) : SubmitsNone log (log ++ [e]) := by
  constructor
  · exact filterMap_snoc_of_none hframe log
  · unfold eosSubmissions
    rw [List.countP_append, List.countP_singleton, heos]
    rfl

section Functions

variable {s : GraphicBufferSource}

theorem Acquires.submitsNone {site : AcquireSite} {r : Except Status VideoBuffer}
    {t : GraphicBufferSource} (h : Acquires site s r t) :
    SubmitsNone s.log t.log := by
  rcases h with ⟨_, h⟩
  cases r with
  | error err => exact h.2.1.submitsNone
  | ok item =>
      rcases h with ⟨bi, _, hadopts⟩
      rcases hadopts.log with ⟨quiet, hquiet, hlog⟩
      rw [hlog]
      exact hquiet.submitsNone.trans (submitsNone_snoc quiet rfl rfl)

theorem acquireBuffer_l_takes (site : AcquireSite) :
    Sat (acquireBuffer_l site) (Acquires site s) (fun e _ => e = .unknownSlot) s :=
  acquireBuffer_l_acquires site fun _ _ => rfl

structure TakesFromQueue (b b' : Buffers) : Prop where
  queue : forall bi, bi ∈ b'.queue -> bi ∈ b.queue
  slots : forall slot, b'.mBufferSlots.find? slot = none -> b.mBufferSlots.find? slot = none

theorem TakesFromQueue.orphan {b b' : Buffers} {bi : BufferItem} (h : TakesFromQueue b b')
    (hbi : Orphan b' bi) : Orphan b bi :=
  ⟨hbi.buffer, h.slots bi.mSlot hbi.slot⟩

theorem TakesFromQueue.cache {b : Buffers} (slot : SlotId) (gb : GraphicBuffer)
    (other : SlotId) (h : (b.cache slot gb).mBufferSlots.find? other = none) :
    b.mBufferSlots.find? other = none := by
  unfold Buffers.cache at h
  dsimp only at h
  rw [KeyedVector.find_add] at h
  by_cases hother : other = slot
  · rw [if_pos hother] at h
    cases h
  · rw [if_neg hother] at h
    exact h

theorem acquireBuffer_l_orphan (site : AcquireSite) :
    Sat (acquireBuffer_l site) (fun _ t => TakesFromQueue s.toBuffers t.toBuffers)
      (fun e _ => e = .unknownSlot ∧ exists bi, Orphan s.toBuffers bi ∧
        s.queue.head? = some bi) s := by
  unfold acquireBuffer_l consumerAcquireBuffer
  simp only [sat_bind, sat_get, sat_modifyControl, sat_ite, sat_note, sat_pure]
  constructor
  · intro _
    exact ⟨fun _ h => h, fun _ h => h⟩
  · intro _
    cases hqueue : s.queue with
    | nil =>
        refine ⟨fun bi h => ?_, fun _ h => h⟩
        have hnil : bi ∈ s.queue := h
        rw [hqueue] at hnil
        cases hnil
    | cons bi rest =>
        have htail : forall other, other ∈ s.queue.tail -> other ∈ bi :: rest := by
          intro other hother
          rw [hqueue] at hother
          exact List.mem_cons_of_mem bi hother
        unfold adoptItem cacheBuffer
        simp only [sat_bind, sat_pure, sat_modifyBuffers, sat_get]
        cases hgb : bi.mGraphicBuffer with
        | none =>
            cases hslot : s.mBufferSlots.find? bi.mSlot with
            | none =>
                simp only [Buffers.dequeue, hslot, sat_throw]
                exact ⟨trivial, bi, ⟨hgb, hslot⟩, rfl⟩
            | some c =>
                simp only [Buffers.dequeue, hslot, sat_pure]
                exact ⟨hqueue ▸ htail, fun _ h => h⟩
        | some gb =>
            cases hslot : s.mBufferSlots.find? bi.mSlot with
            | none =>
                simp only [Buffers.dequeue, hslot, sat_pure, sat_bind, sat_modifyBuffers]
                exact ⟨hqueue ▸ htail, TakesFromQueue.cache bi.mSlot gb⟩
            | some old =>
                simp only [Buffers.dequeue, hslot, sat_pure, sat_bind, sat_modifyBuffers,
                  discardBufferAtSlotIndex_l]
                exact ⟨hqueue ▸ htail, TakesFromQueue.cache bi.mSlot gb⟩

theorem acquireBuffer_l_locals (site : AcquireSite)
    (hnum : 0 < s.mNumAvailableUnacquiredBuffers) :
    Sat (acquireBuffer_l site)
      (fun r t =>
        match r with
        | .error _ => t.locals = s.locals
        | .ok item => t.locals = item.mBuffer :: s.locals)
      (fun _ _ => True) s := by
  have htracks : Tracks s.toBuffers s.locals s.toBuffers := ⟨.refl, rfl⟩
  apply (acquireBuffer_l_tracks htracks site hnum).mono
  · intro r t ht
    cases r with
    | error err => exact ht.1.locals
    | ok item => exact ht.1.locals
  · intro _ _ _
    trivial

/-!
# The frame is taken
-/

structure TakesItem (s : GraphicBufferSource) (item : VideoBuffer)
    (t : GraphicBufferSource) : Prop where
  time : s.headTime = some item.mTimestampNs
  control : exists answers, t.toControl = { s.toControl with
    answers := { s.answers with acquireBuffer := answers } }
  free : t.mFreeCodecBuffers = s.mFreeCodecBuffers
  submitted : t.mSubmittedCodecBuffers = s.mSubmittedCodecBuffers
  latest : t.mLatestBuffer = s.mLatestBuffer
  locals : t.locals = item.mBuffer :: s.locals
  log : SubmitsNone s.log t.log
  queued : t.mNumAvailableUnacquiredBuffers <= t.queue.length
  taken : TakesFromQueue s.toBuffers t.toBuffers

theorem takeFrame_takes (havailable : s.haveAvailableBuffers_l = true)
    (hfed : Fed s) :
    Sat takeFrame (fun r t => exists item, r = some item ∧ TakesItem s item t)
      (fun e _ => e = .unknownSlot ∧ exists bi, Orphan s.toBuffers bi ∧
        s.mAvailableBuffers = [] ∧ s.queue.head? = some bi) s := by
  unfold takeFrame
  rw [sat_bind, sat_get]
  cases hlist : s.mAvailableBuffers with
  | nil =>
      have hnum : 0 < s.mNumAvailableUnacquiredBuffers := by
        simpa [Frames.haveAvailableBuffers_l, hlist] using havailable
      rw [sat_bind]
      apply (((acquireBuffer_l_takes .oneFrame).and
        (acquireBuffer_l_locals .oneFrame hnum)).and (acquireBuffer_l_orphan .oneFrame)).mono
      · intro r t ht
        rcases ht with ⟨⟨hacquires, hlocals⟩, htaken⟩
        have hlog := hacquires.submitsNone
        rcases hacquires with ⟨hcontrol, h⟩
        cases r with
        | error err =>
            rcases h.2.2 with hfailed | hempty
            · exact absurd hfed.nextAcquire hfailed
            · exact absurd hempty (hfed.queue_ne_nil hnum)
        | ok item =>
            rcases h with ⟨bi, hqueue, hadopts⟩
            refine ⟨item, rfl, ?_, ⟨_, hcontrol⟩, ?_, ?_, ?_, hlocals, hlog, ?_, htaken⟩
            · unfold Frames.headTime
              rw [hlist, hqueue, hadopts.time]
              rfl
            · rw [hadopts.frames]
              rfl
            · rw [hadopts.frames]
              rfl
            · rw [hadopts.frames]
              rfl
            · rw [hadopts.frames]
              show s.mNumAvailableUnacquiredBuffers - 1 <= (s.queue.tail.length : Int)
              have hqueued := hfed.drains.queued
              rw [List.length_tail]
              lia
      · intro e t he
        rcases he.2 with ⟨hslot, bi, horphan, hhead⟩
        exact ⟨hslot, bi, horphan, rfl, hhead⟩
  | cons item rest =>
      have htake := s.toBuffers.takeAvailable_eq hlist
      rw [sat_bind, sat_modifyBuffers, sat_pure, htake]
      refine ⟨item, rfl, ?_, ⟨_, rfl⟩, rfl, rfl, rfl, rfl, .refl _,
        hfed.drains.queued, ⟨fun _ h => h, fun _ h => h⟩⟩
      unfold Frames.headTime
      rw [hlist]

/-!
# All frames are let go
-/

structure DrainsAll (s t : GraphicBufferSource) : Prop where
  control : t.toControl = { s.toControl with
    answers := { s.answers with
      drainAcquireBuffer := t.answers.drainAcquireBuffer } }
  frames : t.toFrames = { s.toFrames with
    mNumAvailableUnacquiredBuffers := t.mNumAvailableUnacquiredBuffers
    queue := t.queue }
  num : t.mNumAvailableUnacquiredBuffers <= 0
  locals : t.locals = s.locals
  log : SubmitsNone s.log t.log

theorem drainUnacquired_drains (n : Nat) (hok : DrainsOk s)
    (hle : s.mNumAvailableUnacquiredBuffers <= n) :
    Sat (drainUnacquired n) (fun _ t => DrainsAll s t)
      (fun e _ => e = .unknownSlot ∧ exists bi, Orphan s.toBuffers bi ∧ bi ∈ s.queue)
      s := by
  induction n generalizing s with
  | zero => exact ⟨rfl, rfl, hle, rfl, .refl _⟩
  | succ n ih =>
      unfold drainUnacquired
      rw [sat_bind, sat_get, sat_ite]
      constructor
      · intro hpos
        rw [sat_bind]
        apply (((acquireBuffer_l_takes .drain).and
          (acquireBuffer_l_locals .drain hpos)).and (acquireBuffer_l_orphan .drain)).mono
        · intro r t ht
          rcases ht with ⟨⟨hacquires, hlocals⟩, htaken⟩
          have hlog := hacquires.submitsNone
          cases r with
          | error err => exact absurd hacquires (hok.not_failed hpos)
          | ok item =>
              have hone := hacquires.drainsOne
              have hlocals' : (t.toBuffers.unhold item.mBuffer).locals =
                  s.locals := by
                rw [Buffers.unhold_locals, hlocals]
                exact List.erase_cons_head _ _
              rw [sat_bind, sat_unhold]
              apply (ih (hone.ok hok) (by rw [hone.num]; lia)).mono
              · intro _ u hu
                refine ⟨?_, hone.then_frames hu.frames, hu.num, hu.locals.trans hlocals',
                  ?_⟩
                · rw [hu.control, hone.control]
                  rfl
                · exact (hlog.trans (quietTail_unhold _ _).submitsNone).trans hu.log
              · intro e u he
                rcases he with ⟨hslot, bi, horphan, hmem⟩
                have hqueue : (t.toBuffers.unhold item.mBuffer).queue = t.queue := by
                  rw [Buffers.unhold_toFrames]
                have horphan' : Orphan t.toBuffers bi :=
                  ⟨horphan.buffer,
                    Buffers.unhold_slots t.toBuffers item.mBuffer ▸ horphan.slot⟩
                exact ⟨hslot, bi, htaken.orphan horphan', htaken.queue bi (hqueue ▸ hmem)⟩
        · intro e t he
          rcases he.2 with ⟨hslot, bi, horphan, hhead⟩
          exact ⟨hslot, bi, horphan, List.mem_of_mem_head? hhead⟩
      · intro hzero
        exact ⟨rfl, rfl, not_lt.mp hzero, rfl, .refl _⟩

structure ReleasesAll (s t : GraphicBufferSource) : Prop where
  control : t.toControl = { s.toControl with
    answers := { s.answers with
      drainAcquireBuffer := t.answers.drainAcquireBuffer } }
  frames : t.toFrames = { s.toFrames with
    mAvailableBuffers := []
    mNumAvailableUnacquiredBuffers := t.mNumAvailableUnacquiredBuffers
    queue := t.queue }
  num : t.mNumAvailableUnacquiredBuffers <= 0
  locals : t.locals = s.locals
  log : SubmitsNone s.log t.log

theorem releaseAllAvailableBuffers_l_releases (hok : DrainsOk s) :
    Sat releaseAllAvailableBuffers_l (fun _ t => ReleasesAll s t)
      (fun e _ => e = .unknownSlot ∧ exists bi, Orphan s.toBuffers bi ∧ bi ∈ s.queue)
      s := by
  unfold releaseAllAvailableBuffers_l
  rw [sat_bind, sat_get, sat_bind, sat_modifyBuffers, sat_bind, sat_unholdAll]
  have hframes := Buffers.unholdAll_toFrames s.toBuffers.clearAvailable
    (s.mAvailableBuffers.map VideoBuffer.mBuffer)
  have hquiet := quietTail_unholdAll s.toBuffers.clearAvailable
    (s.mAvailableBuffers.map VideoBuffer.mBuffer)
  have hlocals : (s.toBuffers.clearAvailable.unholdAll
      (s.mAvailableBuffers.map VideoBuffer.mBuffer)).locals = s.locals :=
    Buffers.unholdAll_locals rfl
  have hslots : (s.toBuffers.clearAvailable.unholdAll
      (s.mAvailableBuffers.map VideoBuffer.mBuffer)).mBufferSlots = s.mBufferSlots :=
    Buffers.unholdAll_slots _ _
  generalize s.toBuffers.clearAvailable.unholdAll
    (s.mAvailableBuffers.map VideoBuffer.mBuffer) = b at *
  have hnum : b.mNumAvailableUnacquiredBuffers =
      s.mNumAvailableUnacquiredBuffers := by
    rw [hframes]
    rfl
  have hqueue : b.queue = s.queue := by
    rw [hframes]
    rfl
  have hok' : DrainsOk { s with toBuffers := b } := by
    refine ⟨hok.answers, ?_⟩
    rw [hnum, hqueue]
    exact hok.queued
  have hle : b.mNumAvailableUnacquiredBuffers <=
      s.mNumAvailableUnacquiredBuffers.toNat := by
    rw [hnum]
    exact Int.self_le_toNat _
  apply (drainUnacquired_drains s.mNumAvailableUnacquiredBuffers.toNat hok' hle).mono
  · intro _ t ht
    refine ⟨ht.control, ?_, ht.num, ht.locals.trans hlocals,
      hquiet.submitsNone.trans ht.log⟩
    rw [ht.frames]
    show { b.toFrames with
      mNumAvailableUnacquiredBuffers := t.mNumAvailableUnacquiredBuffers
      queue := t.queue } = _
    rw [hframes]
    rfl
  · intro e t he
    rcases he with ⟨hslot, bi, horphan, hmem⟩
    exact ⟨hslot, bi, ⟨horphan.buffer, hslots ▸ horphan.slot⟩, hqueue ▸ hmem⟩

/-!
# The end of the stream is sent
-/

structure SendsOneEos (s t : GraphicBufferSource) : Prop where
  eos : t.mEndOfStream = s.mEndOfStream
  sent : t.mEndOfStreamSent = true
  available : t.mAvailableBuffers = s.mAvailableBuffers
  num : t.mNumAvailableUnacquiredBuffers = s.mNumAvailableUnacquiredBuffers
  locals : t.locals = s.locals
  submitted : forall a, a ∈ t.submitted -> a ∈ s.submitted
  latest : forall a, a ∈ t.latest -> a ∈ s.latest
  frame : freshFrames t.log = freshFrames s.log
  submitsEos : s.mEndOfStreamSent = false ->
    eosSubmissions t.log = eosSubmissions s.log + 1

theorem mem_submitted_add_none {b b' : Buffers} {id : CodecBufferId}
    (h : b'.mSubmittedCodecBuffers = b.mSubmittedCodecBuffers.add id none)
    {a : AcquiredBuffer} (ha : a ∈ b'.submitted) : a ∈ b.submitted := by
  rw [Buffers.mem_submitted, h] at ha
  rcases ha with ⟨id', hmem⟩
  rw [KeyedVector.mem_add] at hmem
  rcases hmem with hnew | hold
  · cases hnew
  · exact Buffers.mem_submitted.mpr ⟨id', hold.1⟩

theorem submitEndOfInputStream_l_sends (heos : s.mEndOfStream = true)
    (hfree : s.mFreeCodecBuffers ≠ []) (hok : EosOk s) :
    Sat submitEndOfInputStream_l (fun _ t => SendsOneEos s t)
      (fun e _ => e = .nullComponent ∧ s.mComponent = none) s := by
  have htracks : Tracks s.toBuffers s.locals s.toBuffers := ⟨.refl, rfl⟩
  have hends : Sat submitEndOfInputStream_l
      (fun _ t => t.locals = s.locals) (fun _ _ => True) s :=
    (submitEndOfInputStream_l_tracks htracks).mono (fun _ _ ht => ht.locals)
      (fun _ _ _ => trivial)
  have hmoves : Sat submitEndOfInputStream_l
      (fun _ t => t.locals = s.locals -> SendsOneEos s t)
      (fun e _ => e = .nullComponent ∧ s.mComponent = none) s := by
    unfold submitEndOfInputStream_l componentSubmitEos
    rw [sat_bind, sat_get, sat_bind, sat_check]
    refine ⟨fun _ => ?_, fun hnot => ?_⟩
    · rw [sat_ite]
      constructor
      · intro hsent _
        refine ⟨rfl, hsent, rfl, rfl, rfl, fun _ h => h, fun _ h => h, rfl, ?_⟩
        intro hopen
        rw [hsent] at hopen
        cases hopen
      · intro hsent
        cases hlist : s.mFreeCodecBuffers with
        | nil => exact absurd hlist hfree
        | cons id rest =>
            simp only [sat_bind, sat_get, sat_ite, sat_throw, sat_modifyControl,
              sat_note, sat_pure]
            refine ⟨fun hnone => ⟨trivial, hnone⟩, fun _ => ⟨fun herr => ?_,
              fun _ => ?_⟩⟩
            · exact absurd (headD_ok hok) herr
            · have herr : s.answers.submitEos.headD .ok = .ok := headD_ok hok
              rw [herr]
              apply (moveToSubmitted_outcome id none).imp
              intro _ t ht
              rcases ht with ⟨hcontrol, hquiet, hframes⟩
              apply (assignLatest_outcome none).imp
              intro _ u hu
              rcases hu with ⟨hcontrol', hquiet', hframes'⟩
              rw [hframes] at hframes'
              have hlog : SubmitsNone (s.log ++ [.submitEos id .ok]) u.log :=
                hquiet.submitsNone.trans hquiet'.submitsNone
              intro hlocals
              refine ⟨?_, ?_, ?_, ?_, hlocals, ?_, ?_, ?_, ?_⟩
              · rw [hcontrol']
                show t.mEndOfStream = s.mEndOfStream
                rw [hcontrol]
              · rw [hcontrol']
              · rw [hframes']
                rfl
              · rw [hframes']
                rfl
              · have hadd : u.mSubmittedCodecBuffers =
                    s.mSubmittedCodecBuffers.add id none := by
                  rw [hframes']
                  rfl
                intro a ha
                exact mem_submitted_add_none hadd ha
              · intro a ha
                have hnone : u.mLatestBuffer = none := by
                  rw [hframes']
                unfold Buffers.latest at ha
                rw [hnone] at ha
                cases ha
              · rw [hlog.frame]
                exact filterMap_snoc_of_none rfl s.log
              · intro _
                rw [hlog.eos]
                unfold eosSubmissions
                rw [List.countP_append]
                rfl
    · rw [heos] at hnot
      cases hnot
  apply (hmoves.and hends).mono
  · intro _ t ht
    exact ht.1 ht.2
  · intro e t he
    exact he.1

/-!
# A frame that is not stopped
-/

def WithoutComponent (s : GraphicBufferSource) (e : Abort) (_ : GraphicBufferSource) :
    Prop :=
  e = .nullComponent ∧ s.mComponent = none

theorem updateDataspace_ends (item : VideoBuffer) :
    Sat (updateDataspace item) (fun _ t => t.mComponent = s.mComponent)
      (WithoutComponent s) s := by
  unfold updateDataspace onDataspaceChanged_l
  simp only [sat_bind, sat_get, sat_ite, sat_throw, sat_modifyControl, sat_note,
    sat_pure]
  refine ⟨fun _ => ⟨fun _ => ⟨fun hnone => ?_, fun _ => ?_⟩, fun _ => ?_⟩,
    fun _ => ?_⟩
  · exact ⟨rfl, hnone⟩
  · trivial
  · trivial
  · trivial

theorem submitBuffer_l_ends (item : VideoBuffer) (origin : Origin)
    (hfree : s.mFreeCodecBuffers ≠ []) :
    Sat (submitBuffer_l item origin) (fun _ _ => True) (WithoutComponent s) s := by
  unfold submitBuffer_l
  rw [sat_bind, sat_get]
  cases hlist : s.mFreeCodecBuffers with
  | nil => exact absurd hlist hfree
  | cons codecBufferId rest =>
      cases s.clock.calculateCodecTimestamp_l s.mFrameDropper item.mTimestampNs with
      | none => trivial
      | some r =>
          have hsubmit : forall u : GraphicBufferSource, u.mComponent = s.mComponent ->
              Sat (do
                let err ← componentSubmitBuffer codecBufferId item origin r.1
                if err ≠ .ok then
                  return err
                else
                  moveToSubmitted codecBufferId (some item.mBuffer)
                  return .ok) (fun _ _ => True) (WithoutComponent s) u := by
            intro u hu
            unfold componentSubmitBuffer
            simp only [sat_bind, sat_get, sat_ite, sat_throw, sat_modifyControl,
              sat_note, sat_pure]
            refine ⟨fun hnone => ⟨rfl, hu ▸ hnone⟩, fun _ =>
              ⟨fun _ => trivial, fun _ => ?_⟩⟩
            exact (moveToSubmitted_outcome codecBufferId _).imp fun _ _ _ => trivial
          rw [sat_bind, sat_modifyControl, sat_bind]
          refine (updateDataspace_ends item).mono ?_ ?_
          · intro _ u hu
            exact hsubmit u hu
          · intro e u he
            exact he

theorem skipDropOrSubmit_ends (item : VideoBuffer)
    (hfree : s.mFreeCodecBuffers ≠ []) :
    Sat (skipDropOrSubmit item) (fun _ _ => True) (WithoutComponent s) s := by
  unfold skipDropOrSubmit
  rw [sat_bind, sat_get, sat_ite]
  refine ⟨fun _ => ?_, fun _ => trivial⟩
  rw [sat_bind]
  apply (frameDropperDrops_outcome _).imp
  intro drops t ht
  rcases ht with ⟨_, hbuffers, hcontrol⟩
  rw [sat_ite]
  refine ⟨fun _ => trivial, fun _ => ?_⟩
  have hfree' : t.mFreeCodecBuffers ≠ [] := by
    rw [hbuffers]
    exact hfree
  apply (submitBuffer_l_ends _ .fresh hfree').mono
  · intro _ _ _
    trivial
  · intro e u he
    rcases he with ⟨hnull, hnone⟩
    rw [hcontrol] at hnone
    exact ⟨hnull, hnone⟩

theorem endOfFrame_keeps (item : VideoBuffer) (itemTimeUs : Int)
    (hfree : s.mFreeCodecBuffers ≠ []) :
    Sat (do
        let err ← skipDropOrSubmit item
        if err ≠ .ok then
          return ()
        else
          recordFrame item itemTimeUs) (fun _ t => SameActions s t)
      (WithoutComponent s) s := by
  rw [sat_bind]
  apply ((skipDropOrSubmit_ends item hfree).and
    (SameActions.walk.skipDropOrSubmit item s)).mono
  · intro err t ht
    rw [sat_ite]
    refine ⟨fun _ => ht.2, fun _ => ?_⟩
    have hrecord : Sat (recordFrame item itemTimeUs) (fun _ _ => True)
        (fun _ _ => False) t :=
      (recordFrame_outcome item itemTimeUs).imp fun _ _ _ => trivial
    apply (hrecord.and (SameActions.walk.recordFrame item itemTimeUs t)).mono
    · intro _ u hu
      exact IsTrans.trans s t u ht.2 hu.2
    · intro _ _ hfalse
      exact hfalse.1.elim
  · intro e t he
    exact he.1

/-!
# Filling a codec buffer
-/

theorem processFrame_replays (item : VideoBuffer)
    (hfree : s.mFreeCodecBuffers ≠ []) (hordered : Ordered s.mActionQueue)
    (hnone : ¬StopDue (Int.tdiv item.mTimestampNs 1000) s.mActionQueue) :
    Sat (processFrame item)
      (fun _ t =>
        t.mActionQueue = s.mActionQueue.filter
            (fun a => !a.due (Int.tdiv item.mTimestampNs 1000)) ∧
          t.mSuspended = replayActions s.mSuspended (s.mActionQueue.filter
            (ActionItem.due (Int.tdiv item.mTimestampNs 1000))) ∧
          (freshFrames t.log ≠ freshFrames s.log -> t.mSuspended = false))
      (WithoutComponent s) s := by
  unfold processFrame
  rw [sat_bind]
  apply (performActions_replays hordered hnone).imp
  intro seeStopAction t ht
  rcases ht with ⟨hsee, ht⟩
  rw [hsee, ht]
  simp only [Bool.false_eq_true, if_false]
  rw [sat_bind, sat_get, sat_ite]
  constructor
  · intro _
    exact ⟨rfl, rfl, fun hfresh => absurd rfl hfresh⟩
  · intro hrunning
    refine (endOfFrame_keeps item _ ?_).mono ?_ ?_
    · exact hfree
    · intro _ u hu
      have hsuspended := congrArg Actions.mSuspended hu
      refine ⟨congrArg Actions.mActionQueue hu, hsuspended, ?_⟩
      intro _
      rw [Bool.not_eq_true] at hrunning
      exact hsuspended.trans hrunning
    · intro e u he
      exact he

theorem processFrame_stops (item : VideoBuffer)
    (hfree : s.mFreeCodecBuffers ≠ []) (hordered : Ordered s.mActionQueue)
    (hstop : StopDue (Int.tdiv item.mTimestampNs 1000) s.mActionQueue)
    (hdrains : DrainsOk s) (hok : EosOk s) :
    Sat (processFrame item)
      (fun _ t => t.mActionQueue = [] ∧ t.mAvailableBuffers = [] ∧
        t.mNumAvailableUnacquiredBuffers <= 0 ∧ t.mEndOfStream = true ∧
        SendsOneEos { s with
          mAvailableBuffers := t.mAvailableBuffers
          mNumAvailableUnacquiredBuffers := t.mNumAvailableUnacquiredBuffers
          mEndOfStream := true } t)
      (fun e u => (e = .unknownSlot ∧ exists bi, Orphan s.toBuffers bi ∧ bi ∈ s.queue) ∨
        WithoutComponent s e u) s := by
  unfold processFrame
  rw [sat_bind]
  apply (performActions_stops hordered hstop).imp
  intro seeStopAction t ht
  rcases ht with ⟨hsee, ht⟩
  rw [hsee, ht]
  simp only [if_true]
  have hdrains' : DrainsOk { s with mActionQueue := [] } :=
    ⟨hdrains.answers, hdrains.queued⟩
  rw [sat_bind]
  apply (releaseAllAvailableBuffers_l_releases hdrains').mono
  · intro _ u hu
    have hcontrol : u.toControl = { s.toControl with
        mActionQueue := []
        answers := { s.answers with
          drainAcquireBuffer := u.answers.drainAcquireBuffer } } := hu.control
    have hframes : u.toFrames = { s.toFrames with
        mAvailableBuffers := []
        mNumAvailableUnacquiredBuffers := u.mNumAvailableUnacquiredBuffers
        queue := u.queue } := hu.frames
    rw [sat_bind, sat_modifyControl]
    have hfree' : u.mFreeCodecBuffers ≠ [] := by
      rw [hframes]
      exact hfree
    have hok' : EosOk { u with toControl :=
        { u.toControl with mEndOfStream := true } } := by
      intro st hst
      apply hok
      rw [hcontrol] at hst
      exact hst
    refine ((submitEndOfInputStream_l_sends ?_ ?_ ?_).and
      (SameActions.walk.submitEndOfInputStream_l _)).mono ?_ ?_
    · rfl
    · exact hfree'
    · exact hok'
    · intro _ v hv
      rcases hv with ⟨hv, hactions⟩
      have hqueue : v.mActionQueue = u.mActionQueue :=
        congrArg Actions.mActionQueue hactions
      have havailable : v.mAvailableBuffers = u.mAvailableBuffers := hv.available
      have hnum : v.mNumAvailableUnacquiredBuffers =
          u.mNumAvailableUnacquiredBuffers := hv.num
      refine ⟨?_, ?_, ?_, hv.eos, ?_⟩
      · rw [hqueue, hcontrol]
      · rw [havailable, hframes]
      · rw [hnum]
        exact hu.num
      · refine ⟨hv.eos, hv.sent, rfl, rfl, hv.locals.trans hu.locals, ?_, ?_,
          hv.frame.trans hu.log.frame, ?_⟩
        · intro a ha
          have hmem := hv.submitted a ha
          unfold Buffers.submitted at hmem ⊢
          rw [hframes] at hmem
          exact hmem
        · intro a ha
          have hmem := hv.latest a ha
          unfold Buffers.latest at hmem ⊢
          rw [hframes] at hmem
          exact hmem
        · intro hopen
          have hopen' : u.mEndOfStreamSent = false := by
            rw [hcontrol]
            exact hopen
          rw [hv.submitsEos hopen']
          exact congrArg (· + 1) hu.log.eos
    · intro e v he
      have hnone : u.mComponent = none := he.1.2
      rw [hcontrol] at hnone
      exact .inr ⟨he.1.1, hnone⟩
  · intro e u he
    exact .inl he

theorem fillCodecBuffer_l_replays {itemTimeUs : Int} (h : FillsAt itemTimeUs s)
    (hordered : Ordered s.mActionQueue) :
    Sat fillCodecBuffer_l
      (fun filled t => filled = true ∧ Replays itemTimeUs s t)
      (EndsFilling itemTimeUs s) s := by
  unfold fillCodecBuffer_l
  rw [sat_bind, sat_get, sat_bind, sat_check]
  refine ⟨fun _ => ?_, fun hcheck => ?_⟩
  · rw [sat_ite]
    refine ⟨fun hfree => absurd (List.isEmpty_iff.mp hfree) h.free, fun _ => ?_⟩
    rw [sat_bind]
    apply (takeFrame_takes h.available h.fed).mono
    · intro r t ht
      rcases ht with ⟨item, hr, ht⟩
      rcases ht.control with ⟨answers, hcontrol⟩
      have htime : Int.tdiv item.mTimestampNs 1000 = itemTimeUs := by
        have hhead := h.time
        rw [ht.time] at hhead
        exact Option.some.inj hhead
      have hqueue : t.mActionQueue = s.mActionQueue := by
        rw [hcontrol]
      have hsuspended : t.mSuspended = s.mSuspended := by
        rw [hcontrol]
      have hfree : t.mFreeCodecBuffers ≠ [] := by
        rw [ht.free]
        exact h.free
      have hordered' : Ordered t.mActionQueue := by
        rw [hqueue]
        exact hordered
      have hends : forall e u, WithoutComponent t e u -> EndsFilling itemTimeUs s e u := by
        intro e u he
        rcases he with ⟨hnull, hnone⟩
        rw [hcontrol] at hnone
        exact .inr ⟨hnull, hnone⟩
      have hunhold : forall b : Buffers,
          freshFrames (b.unhold item.mBuffer).log = freshFrames b.log ∧
            eosSubmissions (b.unhold item.mBuffer).log = eosSubmissions b.log :=
        fun b => ⟨(quietTail_unhold b _).submitsNone.frame,
          (quietTail_unhold b _).submitsNone.eos⟩
      rw [hr]
      simp only
      rw [sat_bind]
      by_cases hstop : StopDue itemTimeUs s.mActionQueue
      · have hdrains : DrainsOk t := by
          refine ⟨?_, ht.queued⟩
          rw [hcontrol]
          exact h.fed.drains.answers
        have hok : EosOk t := by
          unfold EosOk
          rw [hcontrol]
          exact h.eosOk
        have hstop' : StopDue (Int.tdiv item.mTimestampNs 1000) t.mActionQueue := by
          rw [htime, hqueue]
          exact hstop
        apply (processFrame_stops item hfree hordered' hstop' hdrains hok).mono
        · intro _ u hu
          rcases hu with ⟨hnone, havailable, hnum, heos, hsends⟩
          have hframes := Buffers.unhold_toFrames u.toBuffers item.mBuffer
          rw [sat_bind, sat_unhold, sat_pure]
          refine ⟨rfl, fun hnot => absurd hstop hnot, fun hnot => absurd hstop hnot,
            fun _ => ?_, fun hfresh => ?_⟩
          · refine ⟨hnone, ?_, ?_, ?_, heos, hsends.sent, ?_, ?_⟩
            · rw [hframes]
              exact havailable
            · rw [hframes]
              exact hnum
            · intro a ha
              unfold Buffers.holders Buffers.submitted at ha
              rw [hframes, Buffers.unhold_locals, hsends.locals, ht.locals,
                List.erase_cons_head, havailable] at ha
              rcases List.mem_append.mp ha with hlocal | ha
              · exact .inl hlocal
              · rcases List.mem_append.mp ha with hnil | ha
                · cases hnil
                rcases List.mem_append.mp ha with hsubmitted | hlatest
                · have hmem := hsends.submitted a hsubmitted
                  unfold Buffers.submitted at hmem ⊢
                  rw [ht.submitted] at hmem
                  exact .inr (.inl hmem)
                · have hmem := hsends.latest a hlatest
                  unfold Buffers.latest at hmem ⊢
                  rw [ht.latest] at hmem
                  exact .inr (.inr hmem)
            · intro hopen
              have hopen' : t.mEndOfStreamSent = false := by
                rw [hcontrol]
                exact hopen
              rw [(hunhold u.toBuffers).2, hsends.submitsEos hopen']
              exact congrArg (· + 1) ht.log.eos
            · rw [(hunhold u.toBuffers).1]
              exact hsends.frame.trans ht.log.frame
          · rw [(hunhold u.toBuffers).1] at hfresh
            exact absurd (hsends.frame.trans ht.log.frame) hfresh
        · intro e u he
          rcases he with ⟨hslot, bi, horphan, hmem⟩ | hnone
          · exact .inl ⟨hslot, bi, ht.taken.orphan horphan,
              .inr ⟨hstop, ht.taken.queue bi hmem⟩⟩
          · exact hends e u hnone
      · have hnone : ¬StopDue (Int.tdiv item.mTimestampNs 1000) t.mActionQueue := by
          rw [htime, hqueue]
          exact hstop
        apply (processFrame_replays item hfree hordered' hnone).mono
        · intro _ u hu
          rw [htime, hqueue, hsuspended] at hu
          rw [sat_bind, sat_unhold, sat_pure]
          refine ⟨rfl, fun _ => hu.1, fun _ => hu.2.1,
            fun hstop' => absurd hstop' hstop, fun hfresh => ?_⟩
          rw [(hunhold u.toBuffers).1] at hfresh
          apply hu.2.2
          rw [ht.log.frame]
          exact hfresh
        · intro e u he
          exact hends e u he
    · intro e t he
      rcases he with ⟨hslot, bi, horphan, hhead⟩
      exact .inl ⟨hslot, bi, horphan, .inl hhead⟩
  · rw [h.executing, h.available] at hcheck
    cases hcheck

end Functions

/-!
# Two frames
-/

theorem replay_due_twice {queue : List ActionItem} (h : Ordered queue)
    {itemTimeUs laterTimeUs : Int} (hle : itemTimeUs <= laterTimeUs)
    (mSuspended : Bool) :
    replayActions
        (replayActions mSuspended (queue.filter (ActionItem.due itemTimeUs)))
        ((queue.filter (fun a => !a.due itemTimeUs)).filter
          (ActionItem.due laterTimeUs)) =
      replayActions mSuspended (queue.filter (ActionItem.due laterTimeUs)) := by
  induction queue generalizing mSuspended with
  | nil => rfl
  | cons a rest ih =>
      by_cases hdue : a.mActionTimeUs <= itemTimeUs
      · have hfirst : a.due itemTimeUs = true := decide_eq_true hdue
        have hlater : a.due laterTimeUs = true := decide_eq_true (hdue.trans hle)
        rw [List.filter_cons_of_pos hfirst, List.filter_cons_of_pos hlater,
          List.filter_cons_of_neg (by simp [hfirst])]
        exact ih (List.pairwise_cons.mp h).2 (a.suspends mSuspended)
      · have hfilter := h.filter_of_not_due hdue
        rw [hfilter.1, hfilter.2]
        rfl

theorem filter_due_twice {queue : List ActionItem} {itemTimeUs laterTimeUs : Int}
    (hle : itemTimeUs <= laterTimeUs) :
    (queue.filter (fun a => !a.due itemTimeUs)).filter
        (fun a => !a.due laterTimeUs) =
      queue.filter (fun a => !a.due laterTimeUs) := by
  rw [List.filter_filter]
  apply List.filter_congr
  intro a _
  by_cases hlater : a.mActionTimeUs <= laterTimeUs
  · simp [ActionItem.due, hlater]
  · have hfirst : ¬a.mActionTimeUs <= itemTimeUs := fun h => hlater (h.trans hle)
    simp [ActionItem.due, hlater, hfirst]

def FillsTo (itemTimeUs : Int) (s t : GraphicBufferSource) : Prop :=
  FillsAt itemTimeUs s ∧ exists filled, fillCodecBuffer_l s = .ok filled t

def AgreeOnActions (s t : GraphicBufferSource) : Prop :=
  t.mActionQueue = s.mActionQueue ∧ t.mSuspended = s.mSuspended

theorem FillsTo.replays {itemTimeUs : Int} {s t : GraphicBufferSource}
    (h : FillsTo itemTimeUs s t) (hordered : Ordered s.mActionQueue) :
    Replays itemTimeUs s t := by
  rcases h with ⟨hfills, filled, hok⟩
  have hsat := fillCodecBuffer_l_replays hfills hordered
  rw [sat_of_ok hok] at hsat
  exact hsat.2

theorem fillsTo_twice {itemTimeUs laterTimeUs : Int}
    {s t u v s' v' : GraphicBufferSource} (hordered : Ordered s.mActionQueue)
    (hle : itemTimeUs <= laterTimeUs) (hnone : ¬StopDue laterTimeUs s.mActionQueue)
    (hfirst : FillsTo itemTimeUs s t) (htu : AgreeOnActions t u)
    (hlater : FillsTo laterTimeUs u v) (hss : AgreeOnActions s s')
    (halone : FillsTo laterTimeUs s' v') : AgreeOnActions v' v := by
  have hnoneFirst : ¬StopDue itemTimeUs s.mActionQueue := by
    intro hstop
    rcases hstop with ⟨a, ha, hstop, hdue⟩
    exact hnone ⟨a, ha, hstop, hdue.trans hle⟩
  have ht := hfirst.replays hordered
  have hqueue : u.mActionQueue =
      s.mActionQueue.filter (fun a => !a.due itemTimeUs) :=
    htu.1.trans (ht.queue hnoneFirst)
  have hsuspended : u.mSuspended = replayActions s.mSuspended
      (s.mActionQueue.filter (ActionItem.due itemTimeUs)) :=
    htu.2.trans (ht.suspended hnoneFirst)
  have hordered' : Ordered u.mActionQueue := by
    rw [hqueue]
    exact hordered.sublist List.filter_sublist
  have hnoneU : ¬StopDue laterTimeUs u.mActionQueue := by
    rw [hqueue]
    intro hstop
    rcases hstop with ⟨a, ha, hstop⟩
    exact hnone ⟨a, (List.mem_filter.mp ha).1, hstop⟩
  have hv := hlater.replays hordered'
  have hv' := halone.replays (hss.1 ▸ hordered)
  have hnoneS : ¬StopDue laterTimeUs s'.mActionQueue := by
    rw [hss.1]
    exact hnone
  constructor
  · rw [hv.queue hnoneU, hv'.queue hnoneS, hqueue, hss.1]
    exact filter_due_twice hle
  · rw [hv.suspended hnoneU, hv'.suspended hnoneS, hqueue, hsuspended, hss.1, hss.2]
    exact replay_due_twice hordered hle s.mSuspended

/-!
# Every queue that a client can make
-/

/-- A queue is in order, and every frame that meets it performs what is due. -/
structure ActionsReplayed (queue : List ActionItem) : Prop where
  ordered : Ordered queue
  fills : forall (s : GraphicBufferSource) itemTimeUs, s.mActionQueue = queue ->
    FillsAt itemTimeUs s ->
      Sat fillCodecBuffer_l
        (fun filled t => filled = true ∧ Replays itemTimeUs s t)
        (EndsFilling itemTimeUs s) s
  twice : forall (s t u v s' v' : GraphicBufferSource) itemTimeUs laterTimeUs,
    s.mActionQueue = queue -> itemTimeUs <= laterTimeUs ->
      ¬StopDue laterTimeUs queue -> FillsTo itemTimeUs s t -> AgreeOnActions t u ->
        FillsTo laterTimeUs u v -> AgreeOnActions s s' ->
          FillsTo laterTimeUs s' v' -> AgreeOnActions v' v

/-- As long as the time -1 is not accepted as a stop time, every queue is in order
and every frame performs what is due in it. -/
theorem actions_replayed (requests : List Request) (s : GraphicBufferSource)
    (hnames : Along exec NamesStopTime requests .initial)
    (h : Reaches requests s) : ActionsReplayed s.mActionQueue := by
  have hordered : Ordered s.mActionQueue := (reaches_queued hnames h).ordered
  constructor
  · exact hordered
  · intro t itemTimeUs hqueue hfills
    rw [← hqueue] at hordered
    exact fillCodecBuffer_l_replays hfills hordered
  · intro t u v w t' w' itemTimeUs laterTimeUs hqueue hle hnone hfirst htu hlater
      hss halone
    rw [← hqueue] at hordered hnone
    exact fillsTo_twice hordered hle hnone hfirst htu hlater hss halone

/-- A pause, a resume and a stop, one after the other. -/
def pauseResumeStop : List Request :=
  session 0 [1] ++
    [.call (.setSuspend true 10) { systemTimeNs := 100000 },
      .call (.setSuspend false 20) { systemTimeNs := 100000 },
      .call (.setStopTimeUs 30) { systemTimeNs := 100000 }]

theorem actions_replayed_pauseResumeStop :
    (final pauseResumeStop).mActionQueue =
        [{ mAction := .pause, mActionTimeUs := 10 },
          { mAction := .resume, mActionTimeUs := 20 },
          { mAction := .stop, mActionTimeUs := 30 }] ∧
      ActionsReplayed (final pauseResumeStop).mActionQueue := by
  have hnames : Along exec NamesStopTime pauseResumeStop .initial := by
    decide +kernel
  exact ⟨rfl, actions_replayed pauseResumeStop _ hnames (reaches_final rfl)⟩

/-- A stop at the time that stands for no stop time, and a pause behind it that is
even earlier. -/
def stopAtNoTime : List Request :=
  session 0 [1] ++
    [(Op.setStopTimeUs (-1)).now, (Op.setSuspend true (-9)).now]

/-- The source once it is told about a frame at -3 us. -/
def frameAfterStopAtNoTime : GraphicBufferSource :=
  { final stopAtNoTime with
    mNumAvailableUnacquiredBuffers := 1
    queue := [newFrame 0 1 (-3)] }

/-- The pause is due, but it stays in the queue. -/
theorem stopAtNoTime_keeps_due_action :
    Reaches stopAtNoTime (final stopAtNoTime) ∧
      frameAfterStopAtNoTime.mActionQueue = (final stopAtNoTime).mActionQueue ∧
        FillsAt (-3) frameAfterStopAtNoTime ∧
          ¬Sat fillCodecBuffer_l
            (fun filled t => filled = true ∧ Replays (-3) frameAfterStopAtNoTime t)
            (EndsFilling (-3) frameAfterStopAtNoTime) frameAfterStopAtNoTime := by
  refine ⟨reaches_final rfl, rfl, ?_, ?_⟩
  · refine ⟨rfl, ?_, rfl, rfl, ⟨?_, ?_, ?_⟩, ?_⟩
    · intro hnil
      cases hnil
    · intro st hst
      cases hst
    · intro st hst
      cases hst
    · decide +kernel
    · intro st hst
      cases hst
  · intro hsat
    have hkept : Sat fillCodecBuffer_l
        (fun _ t => t.mActionQueue =
          [{ mAction := .stop, mActionTimeUs := -1 },
            { mAction := .pause, mActionTimeUs := -9 }])
        (fun _ _ => False) frameAfterStopAtNoTime := rfl
    have hqueue : frameAfterStopAtNoTime.mActionQueue =
        [{ mAction := .stop, mActionTimeUs := -1 },
          { mAction := .pause, mActionTimeUs := -9 }] := rfl
    have hnone : ¬StopDue (-3) frameAfterStopAtNoTime.mActionQueue := by
      rw [hqueue]
      intro hstop
      rcases hstop with ⟨a, ha, hstop, hdue⟩
      rcases List.mem_cons.mp ha with heq | ha
      · rw [heq] at hdue
        exact absurd hdue (by decide)
      · rw [List.mem_singleton.mp ha] at hstop
        cases hstop
    have hfalse : Sat fillCodecBuffer_l (fun _ _ => False) (fun _ _ => False)
        frameAfterStopAtNoTime := by
      apply (hsat.and hkept).mono
      · intro _ t ht
        have hdropped := ht.1.2.queue hnone
        rw [ht.2, hqueue] at hdropped
        exact absurd hdropped (by decide)
      · intro e t he
        exact he.2
    exact hfalse.elim

end Bqhelper
end Sm7225
