import Sm7225.Bqhelper.Outcomes

/-!
# Filling a codec buffer

What becomes of the frame at the head of the line: it is submitted, it is
dropped for one of the reasons, or it is the frame at which a STOP action takes
effect.  Which of the three it is, is decided by the state alone.
-/

namespace Sm7225
namespace Bqhelper

open Lib

/-!
# What a request keeps
-/

structure Keeps (s t : GraphicBufferSource) : Prop where
  executing : t.mExecuting = s.mExecuting
  component : t.mComponent = s.mComponent
  stopTime : t.mStopTimeUs = s.mStopTimeUs
  eos : s.mEndOfStream = true -> t.mEndOfStream = true
  sent : s.mEndOfStreamSent = true -> t.mEndOfStreamSent = true
  actions : forall a, a ∈ t.mActionQueue -> a ∈ s.mActionQueue
  acquires : t.answers.acquireBuffer <:+ s.answers.acquireBuffer
  drains : t.answers.drainAcquireBuffer <:+ s.answers.drainAcquireBuffer
  eosAnswers : t.answers.submitEos <:+ s.answers.submitEos
  queued : s.mNumAvailableUnacquiredBuffers <= s.queue.length ->
    t.mNumAvailableUnacquiredBuffers <= t.queue.length
  free : t.mFreeCodecBuffers ≠ [] -> s.mFreeCodecBuffers ≠ []
  submitted : t.mSubmittedCodecBuffers.entries = [] ->
    s.mSubmittedCodecBuffers.entries = []

namespace Keeps

variable {s t u : GraphicBufferSource}

theorem refl (s : GraphicBufferSource) : Keeps s s :=
  ⟨rfl, rfl, rfl, fun h => h, fun h => h, fun _ h => h, List.suffix_refl _,
    List.suffix_refl _, List.suffix_refl _, fun h => h, fun h => h, fun h => h⟩

theorem trans (h : Keeps s t) (h' : Keeps t u) : Keeps s u := by
  constructor
  · exact h'.executing.trans h.executing
  · exact h'.component.trans h.component
  · exact h'.stopTime.trans h.stopTime
  · exact fun heos => h'.eos (h.eos heos)
  · exact fun hsent => h'.sent (h.sent hsent)
  · exact fun a ha => h.actions a (h'.actions a ha)
  · exact h'.acquires.trans h.acquires
  · exact h'.drains.trans h.drains
  · exact h'.eosAnswers.trans h.eosAnswers
  · exact fun hqueued => h'.queued (h.queued hqueued)
  · exact fun hfree => h.free (h'.free hfree)
  · exact fun hsubmitted => h.submitted (h'.submitted hsubmitted)

end Keeps

theorem SubmitsOne.free {f f' : Frames} (h : SubmitsOne f f')
    (hfree : f'.mFreeCodecBuffers ≠ []) : f.mFreeCodecBuffers ≠ [] := by
  intro hnil
  rcases h.codec with ⟨hsame, _⟩ | ⟨id, _, hhead, _⟩
  · rw [hsame] at hfree
    exact hfree hnil
  · rw [hnil] at hhead
    cases hhead

theorem SubmitsOne.submitted {f f' : Frames} (h : SubmitsOne f f')
    (hnone : f'.mSubmittedCodecBuffers.entries = []) :
    f.mSubmittedCodecBuffers.entries = [] := by
  rcases h.codec with ⟨_, hsame⟩ | ⟨id, entry, _, _, hadd⟩
  · rw [hsame] at hnone
    exact hnone
  · rw [hadd] at hnone
    exact absurd hnone (entries_add _ id entry)

section Functions

variable {s : GraphicBufferSource}

theorem keeps_of_phase {t : GraphicBufferSource} {sent : Bool}
    {one drain eos : List Status}
    (hphase : t.toControl.phase = { s.toControl.phase with
      mEndOfStreamSent := sent
      acquireBuffer := one
      drainAcquireBuffer := drain
      submitEos := eos })
    (hsent : s.mEndOfStreamSent = true -> sent = true)
    (hone : one <:+ s.answers.acquireBuffer)
    (hdrain : drain <:+ s.answers.drainAcquireBuffer)
    (heos : eos <:+ s.answers.submitEos)
    (hqueued : s.mNumAvailableUnacquiredBuffers <= s.queue.length ->
      t.mNumAvailableUnacquiredBuffers <= t.queue.length)
    (hfree : t.mFreeCodecBuffers ≠ [] -> s.mFreeCodecBuffers ≠ [])
    (hsubmitted : t.mSubmittedCodecBuffers.entries = [] ->
      s.mSubmittedCodecBuffers.entries = []) : Keeps s t := by
  have hsent' : t.mEndOfStreamSent = sent := congrArg Phase.mEndOfStreamSent hphase
  have heos' : t.mEndOfStream = s.mEndOfStream := congrArg Phase.mEndOfStream hphase
  have hactions : t.mActionQueue = s.mActionQueue :=
    congrArg Phase.mActionQueue hphase
  have hone' : t.answers.acquireBuffer = one := congrArg Phase.acquireBuffer hphase
  have hdrain' : t.answers.drainAcquireBuffer = drain :=
    congrArg Phase.drainAcquireBuffer hphase
  have heosAnswers : t.answers.submitEos = eos := congrArg Phase.submitEos hphase
  constructor
  · exact congrArg Phase.mExecuting hphase
  · exact congrArg Phase.mComponent hphase
  · exact congrArg Phase.mStopTimeUs hphase
  · rw [heos']
    exact fun h => h
  · rw [hsent']
    exact hsent
  · rw [hactions]
    exact fun _ h => h
  · rw [hone']
    exact hone
  · rw [hdrain']
    exact hdrain
  · rw [heosAnswers]
    exact heos
  · exact hqueued
  · exact hfree
  · exact hsubmitted

theorem SubmitsOne.queued {f f' : Frames} (h : SubmitsOne f f')
    (hqueued : f.mNumAvailableUnacquiredBuffers <= f.queue.length) :
    f'.mNumAvailableUnacquiredBuffers <= f'.queue.length := by
  rw [h.num, h.queue]
  exact hqueued

theorem keeps_of_same_phase {t : GraphicBufferSource}
    (hphase : t.toControl.phase = s.toControl.phase)
    (hframes : SubmitsOne s.toFrames t.toFrames) : Keeps s t :=
  keeps_of_phase hphase (fun h => h) (List.suffix_refl _) (List.suffix_refl _)
    (List.suffix_refl _) hframes.queued hframes.free hframes.submitted

theorem SendsEos.keeps {t : GraphicBufferSource} (h : SendsEos s t) :
    Keeps s t := by
  apply keeps_of_phase h.phase ?_ (List.suffix_refl _) (List.suffix_refl _)
    h.answers h.frames.queued h.frames.free h.frames.submitted
  intro hsent
  rcases h.result with ⟨hsame, _⟩ | ⟨hsent', _⟩
  · rw [hsame]
    exact hsent
  · exact hsent'

/-!
# Draining
-/

structure DrainsOk (s : GraphicBufferSource) : Prop where
  answers : forall st, st ∈ s.answers.drainAcquireBuffer -> st = .ok
  queued : s.mNumAvailableUnacquiredBuffers <= s.queue.length

theorem DrainsOk.nextAcquire (h : DrainsOk s) :
    s.answers.nextAcquire .drain = .ok := by
  have hanswers := h.answers
  unfold Answers.nextAcquire
  cases hlist : s.answers.drainAcquireBuffer with
  | nil => rfl
  | cons st rest =>
      rw [hlist] at hanswers
      exact hanswers st List.mem_cons_self

theorem DrainsOk.not_failed {t : GraphicBufferSource} {err : Status} (h : DrainsOk s)
    (hpos : 0 < s.mNumAvailableUnacquiredBuffers) : ¬Acquires .drain s (.error err) t := by
  rintro ⟨_, _, _, hwhy⟩
  rcases hwhy with hfailed | hempty
  · exact hfailed h.nextAcquire
  · have hqueued := h.queued
    rw [hempty] at hqueued
    exact absurd hpos (not_lt.mpr hqueued)

structure DrainsOne (s t : GraphicBufferSource) : Prop where
  control : t.toControl = { s.toControl with
    answers := s.answers.popAcquire .drain }
  frames : t.toFrames = s.toBuffers.dequeue.toFrames

theorem Acquires.drainsOne {t : GraphicBufferSource} {item : VideoBuffer}
    (h : Acquires .drain s (.ok item) t) :
    DrainsOne s { t with toBuffers := t.toBuffers.unhold item.mBuffer } := by
  rcases h with ⟨hcontrol, _, _, hadopts⟩
  exact ⟨hcontrol, (Buffers.unhold_toFrames _ _).trans hadopts.frames⟩

namespace DrainsOne

variable {t u : GraphicBufferSource}

theorem num (h : DrainsOne s t) :
    t.mNumAvailableUnacquiredBuffers = s.mNumAvailableUnacquiredBuffers - 1 := by
  rw [h.frames]
  rfl

theorem answers (h : DrainsOne s t) :
    t.answers.drainAcquireBuffer = s.answers.drainAcquireBuffer.tail := by
  rw [h.control]
  rfl

theorem queued (h : DrainsOne s t)
    (hqueued : s.mNumAvailableUnacquiredBuffers <= s.queue.length) :
    t.mNumAvailableUnacquiredBuffers <= t.queue.length := by
  rw [h.frames]
  show s.mNumAvailableUnacquiredBuffers - 1 <= (s.queue.tail.length : Int)
  rw [List.length_tail]
  lia

theorem ok (h : DrainsOne s t) (hok : DrainsOk s) : DrainsOk t := by
  refine ⟨?_, h.queued hok.queued⟩
  intro st hst
  apply hok.answers
  exact List.mem_of_mem_tail (h.answers ▸ hst)

theorem then_frames (h : DrainsOne s t)
    (hu : u.toFrames = { t.toFrames with
      mNumAvailableUnacquiredBuffers := u.mNumAvailableUnacquiredBuffers
      queue := u.queue }) :
    u.toFrames = { s.toFrames with
      mNumAvailableUnacquiredBuffers := u.mNumAvailableUnacquiredBuffers
      queue := u.queue } := by
  rw [hu, h.frames]
  rfl

end DrainsOne

structure Drains (n : Nat) (s t : GraphicBufferSource) : Prop where
  phase : t.toControl.phase = { s.toControl.phase with
    drainAcquireBuffer := t.answers.drainAcquireBuffer }
  answers : t.answers.drainAcquireBuffer <:+ s.answers.drainAcquireBuffer
  log : EosLog t.log s.mEndOfStreamSent
  frames : t.toFrames = { s.toFrames with
    mNumAvailableUnacquiredBuffers := t.mNumAvailableUnacquiredBuffers
    queue := t.queue }
  num : 0 <= t.mNumAvailableUnacquiredBuffers
  le : t.mNumAvailableUnacquiredBuffers <= s.mNumAvailableUnacquiredBuffers
  queued : s.mNumAvailableUnacquiredBuffers <= s.queue.length ->
    t.mNumAvailableUnacquiredBuffers <= t.queue.length
  drained : DrainsOk s -> s.mNumAvailableUnacquiredBuffers <= n ->
    t.mNumAvailableUnacquiredBuffers = 0

theorem Drains.refl {n : Nat} (hnum : 0 <= s.mNumAvailableUnacquiredBuffers)
    (hlog : EosLog s.log s.mEndOfStreamSent)
    (hdone : DrainsOk s -> s.mNumAvailableUnacquiredBuffers <= n ->
      s.mNumAvailableUnacquiredBuffers = 0) : Drains n s s :=
  ⟨rfl, List.suffix_refl _, hlog, rfl, hnum, le_refl _, fun h => h, hdone⟩

theorem drainUnacquired_outcome (n : Nat)
    (hnum : 0 <= s.mNumAvailableUnacquiredBuffers)
    (hlog : EosLog s.log s.mEndOfStreamSent)
    (hsent : s.mEndOfStreamSent = true -> s.mNumAvailableUnacquiredBuffers = 0) :
    Sat (drainUnacquired n) (fun _ t => Drains n s t) AbortsQuietly s := by
  induction n generalizing s with
  | zero =>
      apply Drains.refl hnum hlog
      intro _ hle
      exact le_antisymm hle hnum
  | succ n ih =>
      unfold drainUnacquired
      simp only [sat_bind, sat_get, sat_ite, sat_pure]
      refine ⟨fun hpos => ?_, fun hzero => ?_⟩
      · apply (acquireBuffer_l_sat .drain hlog).imp
        intro r t ht
        have hopen : s.mEndOfStreamSent = false := by
          rw [← Bool.not_eq_true]
          intro h
          rw [hsent h] at hpos
          exact lt_irrefl 0 hpos
        cases r with
        | error err =>
            have hnever := fun hok : DrainsOk s => hok.not_failed hpos ht
            rcases ht with ⟨hcontrol, hframes, hquiet, _⟩
            refine ⟨?_, ?_, hlog.quiet hquiet, ?_, ?_, ?_, ?_, ?_⟩
            · rw [hcontrol]
              rfl
            · rw [hcontrol]
              exact List.tail_suffix _
            · rw [hframes]
            · rw [hframes]
              exact hnum
            · rw [hframes]
            · rw [hframes]
              exact fun h => h
            · intro hok _
              exact (hnever hok).elim
        | ok item =>
            have hone := ht.drainsOne
            rcases ht with ⟨hcontrol, bi, hqueue, hadopts⟩
            have hsent' : t.mEndOfStreamSent = s.mEndOfStreamSent := by
              rw [hcontrol]
            have hlog' : EosLog t.log false := hadopts.eosLog (hopen ▸ hlog)
            have hnum' := hone.num
            simp only [sat_bind, sat_unhold]
            apply (ih (s := { t with toBuffers := t.toBuffers.unhold item.mBuffer })
              ?_ ?_ ?_).imp
            · intro _ u hu
              refine ⟨?_, ?_, ?_, hone.then_frames hu.frames, hu.num, ?_, ?_, ?_⟩
              · rw [hu.phase]
                show { t.toControl.phase with
                  drainAcquireBuffer := u.answers.drainAcquireBuffer } = _
                rw [hcontrol]
                rfl
              · exact hu.answers.trans (hone.answers ▸ List.tail_suffix _)
              · rw [← hsent']
                exact hu.log
              · have hle := hu.le
                rw [hnum'] at hle
                lia
              · intro h
                exact hu.queued (hone.queued h)
              · intro hok hle
                apply hu.drained (hone.ok hok)
                rw [hnum']
                lia
            · rw [hnum']
              lia
            · rw [hsent', hopen]
              exact hlog'.quiet (quietTail_unhold _ _)
            · intro h
              rw [hsent', hopen] at h
              cases h
      · apply Drains.refl hnum hlog
        intro _ _
        lia

structure LetsAllGo (s t : GraphicBufferSource) : Prop where
  keeps : Keeps s t
  quiet : Quiet t
  eos : t.mEndOfStream = s.mEndOfStream
  sent : t.mEndOfStreamSent = s.mEndOfStreamSent
  eosAnswers : t.answers.submitEos = s.answers.submitEos
  available : t.mAvailableBuffers = []
  free : t.mFreeCodecBuffers = s.mFreeCodecBuffers
  drained : DrainsOk s -> t.backlog = 0

theorem Quiet.unacquired (h : Quiet s) (hsent : s.mEndOfStreamSent = true) :
    s.mNumAvailableUnacquiredBuffers = 0 := by
  have hnum := h.num
  have hbacklog := h.backlog hsent
  unfold Frames.backlog at hbacklog
  lia

theorem releaseAllAvailableBuffers_l_outcome (h : Quiet s) :
    Sat releaseAllAvailableBuffers_l (fun _ t => LetsAllGo s t) AbortsQuietly
      s := by
  unfold releaseAllAvailableBuffers_l
  simp only [sat_bind, sat_get, sat_modifyBuffers, sat_unholdAll]
  have hframes := Buffers.unholdAll_toFrames s.toBuffers.clearAvailable
    (s.mAvailableBuffers.map VideoBuffer.mBuffer)
  have hquiet := quietTail_unholdAll s.toBuffers.clearAvailable
    (s.mAvailableBuffers.map VideoBuffer.mBuffer)
  generalize s.toBuffers.clearAvailable.unholdAll
    (s.mAvailableBuffers.map VideoBuffer.mBuffer) = b at *
  have hnum : b.mNumAvailableUnacquiredBuffers =
      s.mNumAvailableUnacquiredBuffers := by
    rw [hframes]
    rfl
  have hqueue : b.queue = s.queue := by
    rw [hframes]
    rfl
  apply (drainUnacquired_outcome (s := { s with toBuffers := b })
    s.mNumAvailableUnacquiredBuffers.toNat ?_ (h.log.quiet hquiet) ?_).imp
  · intro _ t ht
    have hphase : t.toControl.phase = { s.toControl.phase with
        drainAcquireBuffer := t.answers.drainAcquireBuffer } := ht.phase
    have hsent : t.mEndOfStreamSent = s.mEndOfStreamSent :=
      congrArg Phase.mEndOfStreamSent hphase
    have hfinal : t.toFrames = { s.toFrames with
        mAvailableBuffers := []
        mNumAvailableUnacquiredBuffers := t.mNumAvailableUnacquiredBuffers
        queue := t.queue } := by
      rw [ht.frames]
      show { b.toFrames with
        mNumAvailableUnacquiredBuffers := t.mNumAvailableUnacquiredBuffers
        queue := t.queue } = _
      rw [hframes]
      rfl
    have havailable : t.mAvailableBuffers = [] := by
      rw [hfinal]
    have hfree : t.mFreeCodecBuffers = s.mFreeCodecBuffers := by
      rw [hfinal]
    have hsubmitted : t.mSubmittedCodecBuffers = s.mSubmittedCodecBuffers := by
      rw [hfinal]
    have hlatest : t.mLatestBuffer = s.mLatestBuffer := by
      rw [hfinal]
    have hbacklog : t.backlog = t.mNumAvailableUnacquiredBuffers := by
      unfold Frames.backlog
      rw [havailable]
      exact zero_add _
    have hle := ht.le
    rw [hnum] at hle
    have hqueued := ht.queued
    rw [hnum, hqueue] at hqueued
    refine ⟨?_, ?_, ?_, hsent, ?_, havailable, hfree, ?_⟩
    · apply keeps_of_phase hphase (fun h => h) (List.suffix_refl _) ht.answers
        (List.suffix_refl _) hqueued
      · rw [hfree]
        exact fun h => h
      · rw [hsubmitted]
        exact fun h => h
    · refine ⟨ht.num, hsent ▸ ht.log, ?_, ?_⟩
      · intro h'
        rw [hsent] at h'
        have hzero := h.unacquired h'
        have hnonneg := ht.num
        rw [hbacklog]
        lia
      · intro h'
        rw [hsent] at h'
        rw [hlatest]
        exact h.latest h'
    · exact congrArg Phase.mEndOfStream hphase
    · exact congrArg Phase.submitEos hphase
    · intro hok
      rw [hbacklog]
      apply ht.drained
      · refine ⟨hok.answers, ?_⟩
        rw [hnum, hqueue]
        exact hok.queued
      · rw [hnum]
        exact Int.self_le_toNat _
  · rw [hnum]
    exact h.num
  · intro hsent
    exact hnum.trans (h.unacquired hsent)

/-!
# Taking the next frame
-/

def Frames.headTime (f : Frames) : Option Int :=
  match f.mAvailableBuffers with
  | [] => f.queue.head?.map BufferItem.mTimestamp
  | item :: _ => some item.mTimestampNs

def Frames.waitingTimes (f : Frames) : List Int :=
  f.mAvailableBuffers.map VideoBuffer.mTimestampNs ++
    f.queue.map BufferItem.mTimestamp

theorem headTime_mem {f : Frames} {timestampNs : Int}
    (h : f.headTime = some timestampNs) : timestampNs ∈ f.waitingTimes := by
  unfold Frames.headTime at h
  unfold Frames.waitingTimes
  cases hlist : f.mAvailableBuffers with
  | nil =>
      rw [hlist] at h
      cases hqueue : f.queue with
      | nil =>
          rw [hqueue] at h
          cases h
      | cons bi rest =>
          rw [hqueue] at h
          cases h
          exact List.mem_cons_self
  | cons item rest =>
      rw [hlist] at h
      cases h
      exact List.mem_cons_self

structure Takes (s : GraphicBufferSource) (item : VideoBuffer)
    (t : GraphicBufferSource) : Prop where
  control : exists answers, answers <:+ s.answers.acquireBuffer ∧
    t.toControl = { s.toControl with
      answers := { s.answers with acquireBuffer := answers } }
  time : s.headTime = some item.mTimestampNs
  times : t.waitingTimes ⊆ s.waitingTimes
  log : EosLog t.log false
  free : t.mFreeCodecBuffers = s.mFreeCodecBuffers
  submitted : t.mSubmittedCodecBuffers = s.mSubmittedCodecBuffers
  backlog : t.backlog = s.backlog - 1
  num : 0 <= t.mNumAvailableUnacquiredBuffers
  queued : s.mNumAvailableUnacquiredBuffers <= s.queue.length ->
    t.mNumAvailableUnacquiredBuffers <= t.queue.length

structure TakesNone (s t : GraphicBufferSource) : Prop where
  control : t.toControl = { s.toControl with
    answers := s.answers.popAcquire .oneFrame }
  log : QuietTail s.log t.log
  frames : t.toFrames = s.toFrames
  why : s.mAvailableBuffers = [] ∧
    (s.answers.nextAcquire .oneFrame ≠ .ok ∨ s.queue = [])

theorem takeFrame_outcome (h : Quiet s)
    (havailable : s.haveAvailableBuffers_l = true) :
    Sat takeFrame
      (fun r t =>
        match r with
        | none => TakesNone s t
        | some item => Takes s item t) AbortsQuietly s := by
  have hlog : EosLog s.log false := h.not_sent havailable ▸ h.log
  unfold takeFrame
  simp only [sat_bind, sat_get]
  cases hlist : s.mAvailableBuffers with
  | nil =>
      have hnum : 0 < s.mNumAvailableUnacquiredBuffers := by
        simpa [Frames.haveAvailableBuffers_l, hlist] using havailable
      rw [sat_bind]
      apply (acquireBuffer_l_sat .oneFrame h.log).imp
      intro r t ht
      cases r with
      | error err =>
          rcases ht with ⟨hcontrol, hframes, hquiet, hwhy⟩
          exact ⟨hcontrol, hquiet, hframes, hlist, hwhy⟩
      | ok item =>
          rcases ht with ⟨hcontrol, bi, hqueue, hadopts⟩
          have hnum' : t.mNumAvailableUnacquiredBuffers =
              s.mNumAvailableUnacquiredBuffers - 1 := by
            rw [hadopts.frames]
            rfl
          have hlist' : t.mAvailableBuffers = [] := by
            rw [hadopts.frames]
            exact hlist
          have hqueue' : t.queue = s.queue.tail := by
            rw [hadopts.frames]
            rfl
          refine ⟨⟨_, List.tail_suffix _, hcontrol⟩, ?_, ?_, hadopts.eosLog hlog, ?_,
            ?_, ?_, ?_, ?_⟩
          · unfold Frames.headTime
            rw [hlist, hqueue, hadopts.time]
            rfl
          · unfold Frames.waitingTimes
            rw [hlist', hlist, hqueue']
            exact List.map_subset _ (List.tail_subset _)
          · rw [hadopts.frames]
            rfl
          · rw [hadopts.frames]
            rfl
          · unfold Frames.backlog
            rw [hlist', hlist, hnum']
            simp
          · rw [hnum']
            lia
          · intro hqueued
            rw [hnum', hqueue', List.length_tail]
            lia
  | cons item rest =>
      simp only [sat_bind, sat_modifyBuffers, sat_pure]
      have htake := s.toBuffers.takeAvailable_eq hlist
      rw [htake]
      refine ⟨⟨_, List.suffix_refl _, rfl⟩, ?_, ?_, hlog, rfl, rfl, ?_, h.num,
        fun hqueued => hqueued⟩
      · unfold Frames.headTime
        rw [hlist]
      · unfold Frames.waitingTimes
        rw [hlist]
        exact List.subset_cons_self _ _
      · unfold Frames.backlog
        rw [hlist]
        simp
        lia

/-!
# Actions
-/

theorem newestDueAction_due (itemTimeUs : Int) (nextAction : ActionItem)
    (rest : List ActionItem) (h : nextAction.mActionTimeUs <= itemTimeUs) :
    (newestDueAction itemTimeUs nextAction rest).1.mActionTimeUs <=
      itemTimeUs := by
  induction rest generalizing nextAction with
  | nil => exact h
  | cons action rest ih =>
      unfold newestDueAction
      split
      next hdue => exact ih action hdue.1
      next => exact h

theorem newestDueAction_rest (itemTimeUs : Int) (nextAction : ActionItem)
    (rest : List ActionItem) (a : ActionItem)
    (h : a ∈ (newestDueAction itemTimeUs nextAction rest).2) : a ∈ rest := by
  induction rest generalizing nextAction with
  | nil => exact h
  | cons action rest ih =>
      unfold newestDueAction at h
      split at h
      · exact List.mem_cons_of_mem action (ih action h)
      · exact h

theorem newestDueAction_mem (itemTimeUs : Int) (nextAction : ActionItem)
    (rest : List ActionItem) :
    (newestDueAction itemTimeUs nextAction rest).1 ∈ nextAction :: rest := by
  induction rest generalizing nextAction with
  | nil => exact List.mem_cons_self
  | cons action rest ih =>
      unfold newestDueAction
      split
      · exact List.mem_cons_of_mem nextAction (ih action)
      · exact List.mem_cons_self

def Control.dueAction (c : Control) (itemTimeUs : Int) : Option ActionType :=
  match c.mActionQueue with
  | [] => none
  | first :: rest =>
      if itemTimeUs < first.mActionTimeUs then none
      else some (newestDueAction itemTimeUs first (first :: rest)).1.mAction

def Control.suspendedAt (c : Control) (itemTimeUs : Int) : Bool :=
  match c.dueAction itemTimeUs with
  | some .pause => true
  | some .resume => false
  | _ => c.mSuspended

structure Performs (itemTimeUs : Int) (s : GraphicBufferSource)
    (seeStopAction : Bool) (t : GraphicBufferSource) : Prop where
  buffers : t.toBuffers = s.toBuffers
  control : t.toControl = { s.toControl with
    mActionQueue := t.mActionQueue
    mSuspended := s.suspendedAt itemTimeUs }
  stop : seeStopAction = true <-> s.dueAction itemTimeUs = some .stop
  cleared : seeStopAction = true -> t.mActionQueue = []
  actions : forall a, a ∈ t.mActionQueue -> a ∈ s.mActionQueue

theorem Performs.none {itemTimeUs : Int}
    (hdue : s.dueAction itemTimeUs = .none) : Performs itemTimeUs s false s := by
  have hsuspended : s.suspendedAt itemTimeUs = s.mSuspended := by
    unfold Control.suspendedAt
    rw [hdue]
  refine ⟨rfl, ?_, ?_, ?_, fun _ h => h⟩
  · rw [hsuspended]
  · rw [hdue]
    simp
  · intro h
    cases h

theorem performActions_outcome (itemTimeUs : Int)
    {E : Abort -> GraphicBufferSource -> Prop} :
    Sat (performActions itemTimeUs) (Performs itemTimeUs s) E s := by
  unfold performActions
  simp only [sat_bind, sat_get]
  cases hqueue : s.mActionQueue with
  | nil =>
      apply Performs.none
      unfold Control.dueAction
      rw [hqueue]
  | cons first rest =>
      simp only [sat_ite, sat_pure, sat_bind, sat_modifyControl, sat_check]
      refine ⟨fun hlt => ?_, fun hge => ⟨fun _ => ?_, fun hlate => ?_⟩⟩
      · apply Performs.none
        unfold Control.dueAction
        rw [hqueue]
        exact if_pos hlt
      · have hdue : s.dueAction itemTimeUs = some
            (newestDueAction itemTimeUs first (first :: rest)).1.mAction := by
          unfold Control.dueAction
          rw [hqueue]
          exact if_neg hge
        have hrest : forall a,
            a ∈ (newestDueAction itemTimeUs first (first :: rest)).2 ->
            a ∈ s.mActionQueue := by
          intro a ha
          rw [hqueue]
          exact newestDueAction_rest _ _ _ _ ha
        cases haction : (newestDueAction itemTimeUs first (first :: rest)).1.mAction with
        | pause =>
            have hsuspended : s.suspendedAt itemTimeUs = true := by
              unfold Control.suspendedAt
              rw [hdue, haction]
            refine ⟨rfl, ?_, ?_, (fun h => by cases h), hrest⟩
            · rw [hsuspended]
            · rw [hdue, haction]
              simp
        | resume =>
            have hsuspended : s.suspendedAt itemTimeUs = false := by
              unfold Control.suspendedAt
              rw [hdue, haction]
            refine ⟨rfl, ?_, ?_, (fun h => by cases h), hrest⟩
            · rw [hsuspended]
            · rw [hdue, haction]
              simp
        | stop =>
            have hsuspended : s.suspendedAt itemTimeUs = s.mSuspended := by
              unfold Control.suspendedAt
              rw [hdue, haction]
            refine ⟨rfl, ?_, ?_, (fun _ => rfl), (fun a ha => by cases ha)⟩
            · rw [hsuspended]
            · rw [hdue, haction]
              simp
      · -- the newest due action is due
        have hdue := newestDueAction_due itemTimeUs first (first :: rest)
          (not_lt.mp hge)
        rw [decide_eq_true hdue] at hlate
        cases hlate

/-!
# Skipping, dropping and submitting
-/

def Control.offsetTime (c : Control) (timestampNs : Int) : Int :=
  if 0 < c.mSkipFramesBeforeNs then timestampNs - c.mSkipFramesBeforeNs
  else timestampNs

theorem offsetByStartTime_mTimestampNs (c : Control) (item : VideoBuffer) :
    (c.offsetByStartTime item).mTimestampNs = c.offsetTime item.mTimestampNs := by
  unfold Control.offsetByStartTime Control.offsetTime
  split
  · rfl
  · rfl

def Control.dropping (c : Control) (timeUs : Int) : Bool × Option FrameDropper :=
  match c.mFrameDropper with
  | none => (false, none)
  | some dropper =>
      ((dropper.shouldDrop timeUs).1, some (dropper.shouldDrop timeUs).2)

def Control.passes (c : Control) (timestampNs : Int) : Bool :=
  decide (c.mSkipFramesBeforeNs < 0 ∨ c.mSkipFramesBeforeNs <= timestampNs) &&
    !(c.dropping (Int.tdiv (c.offsetTime timestampNs) 1000)).1 &&
    { c with mFrameDropper :=
      (c.dropping (Int.tdiv (c.offsetTime timestampNs) 1000)).2 }.accepts
        (c.offsetTime timestampNs)

def Control.submits (c : Control) (timestampNs : Int) : Bool :=
  !c.suspendedAt (Int.tdiv timestampNs 1000) && c.passes timestampNs

theorem frameDropperDrops_outcome (timeUs : Int)
    {E : Abort -> GraphicBufferSource -> Prop} :
    Sat (frameDropperDrops timeUs)
      (fun drops t => drops = (s.dropping timeUs).1 ∧
        t.toBuffers = s.toBuffers ∧
        t.toControl = { s.toControl with
          mFrameDropper := (s.dropping timeUs).2 }) E s := by
  unfold frameDropperDrops Control.dropping
  simp only [sat_bind, sat_get]
  cases hdropper : s.mFrameDropper with
  | none =>
      refine ⟨rfl, rfl, ?_⟩
      show s.toControl = { s.toControl with mFrameDropper := none }
      rw [← hdropper]
  | some dropper => exact ⟨rfl, rfl, rfl⟩

structure Handles (certain : Bool) (s t : GraphicBufferSource) : Prop where
  phase : t.toControl.phase = s.toControl.phase
  log : EosLog t.log false
  frames : SubmitsOne s.toFrames t.toFrames
  result : (t.mFreeCodecBuffers = s.mFreeCodecBuffers ∧
      t.mSubmittedCodecBuffers = s.mSubmittedCodecBuffers ∧ certain = false) ∨
    (t.mFreeCodecBuffers = s.mFreeCodecBuffers.tail ∧
      t.mSubmittedCodecBuffers.entries ≠ [])

theorem skipDropOrSubmit_outcome (item : VideoBuffer)
    (hlog : EosLog s.log false) (hfree : s.mFreeCodecBuffers ≠ []) :
    Sat (skipDropOrSubmit item)
      (fun _ t => Handles (s.passes item.mTimestampNs) s t) AbortsQuietly s := by
  unfold skipDropOrSubmit
  simp only [sat_bind, sat_get, sat_ite, sat_note, sat_pure]
  refine ⟨fun hskip => ?_, fun hskip => ?_⟩
  · apply (frameDropperDrops_outcome _).imp
    intro drops t ht
    rcases ht with ⟨hdrops, hbuffers, hcontrol⟩
    have hphase : t.toControl.phase = s.toControl.phase := by
      rw [hcontrol]
      rfl
    rw [offsetByStartTime_mTimestampNs] at hdrops hcontrol
    constructor
    · intro hdropped
      refine ⟨hphase, ?_, ?_, Or.inl ⟨?_, ?_, ?_⟩⟩
      · show EosLog (t.log ++ [.dropped (s.offsetByStartTime item)]) false
        rw [hbuffers]
        exact hlog.quiet (.of_event rfl)
      · show SubmitsOne s.toFrames t.toFrames
        rw [hbuffers]
        exact .refl _
      · show t.mFreeCodecBuffers = s.mFreeCodecBuffers
        rw [hbuffers]
      · show t.mSubmittedCodecBuffers = s.mSubmittedCodecBuffers
        rw [hbuffers]
      · unfold Control.passes
        rw [← hdrops, hdropped, Bool.not_true, Bool.and_false, Bool.false_and]
    · intro hkept
      apply (submitBuffer_l_outcome (s.offsetByStartTime item) .fresh ?_ ?_).imp
      · intro err u hu
        have hframes := hu.frames
        have hfailed := hu.failed
        have htaken := hu.taken
        rw [hbuffers] at hframes hfailed htaken
        refine ⟨hu.phase.trans hphase, hu.log, hframes, ?_⟩
        by_cases hok : err = .ok
        · exact Or.inr (htaken hok)
        · have hsame := hfailed hok
          refine Or.inl ⟨?_, ?_, ?_⟩
          · rw [hsame]
          · rw [hsame]
          · rw [← Bool.not_eq_true]
            intro hpasses
            unfold Control.passes at hpasses
            apply hok
            apply hu.accepted
            rw [hcontrol, offsetByStartTime_mTimestampNs]
            exact (Bool.and_eq_true_iff.mp hpasses).2
      · rw [hbuffers]
        exact hlog
      · rw [hbuffers]
        exact hfree
  · refine ⟨rfl, hlog, .refl _, Or.inl ⟨rfl, rfl, ?_⟩⟩
    unfold Control.passes
    rw [decide_eq_false hskip, Bool.false_and, Bool.false_and]

/-!
# Processing a frame
-/

def StopsLater (s : GraphicBufferSource) : Prop :=
  forall a, a ∈ s.mActionQueue -> a.mAction = .stop ->
    forall timestampNs, timestampNs ∈ s.waitingTimes ->
      Int.tdiv timestampNs 1000 < a.mActionTimeUs

def EndsClean (s : GraphicBufferSource) : Prop :=
  s.answers.submitEos.headD .ok ≠ .ok ∨ DrainsOk s

def StopsClean (s : GraphicBufferSource) : Prop :=
  StopsLater s ∨ EndsClean s

theorem DrainsOk.keeps {t : GraphicBufferSource} (h : DrainsOk s)
    (hkeeps : Keeps s t) : DrainsOk t := by
  refine ⟨?_, hkeeps.queued h.queued⟩
  intro st hst
  exact h.answers st (hkeeps.drains.mem hst)

theorem EndsClean.keeps {t : GraphicBufferSource} (h : EndsClean s)
    (hkeeps : Keeps s t) (heos : t.answers.submitEos = s.answers.submitEos) :
    EndsClean t := by
  rcases h with hfails | hok
  · left
    rw [heos]
    exact hfails
  · exact Or.inr (hok.keeps hkeeps)

theorem StopsLater.keeps {t : GraphicBufferSource} (h : StopsLater s)
    (hkeeps : Keeps s t) (htimes : t.waitingTimes ⊆ s.waitingTimes) :
    StopsLater t := by
  intro a ha hstop timestampNs htime
  exact h a (hkeeps.actions a ha) hstop timestampNs (htimes htime)

theorem StopsClean.keeps {t : GraphicBufferSource} (h : StopsClean s)
    (hkeeps : Keeps s t) (heos : t.answers.submitEos = s.answers.submitEos)
    (htimes : t.waitingTimes ⊆ s.waitingTimes) : StopsClean t := by
  rcases h with hlater | hclean
  · exact Or.inl (hlater.keeps hkeeps htimes)
  · exact Or.inr (hclean.keeps hkeeps heos)

structure Stops (s t : GraphicBufferSource) : Prop where
  keeps : Keeps s t
  quiet : Quiet t
  actions : t.mActionQueue = []
  eos : t.mEndOfStream = true
  drained : DrainsOk s -> t.backlog = 0
  sent : s.answers.submitEos.headD .ok = .ok -> t.mEndOfStreamSent = true

structure Passes (certain : Bool) (s t : GraphicBufferSource) : Prop where
  keeps : Keeps s t
  log : EosLog t.log false
  eos : t.mEndOfStream = s.mEndOfStream
  sent : t.mEndOfStreamSent = s.mEndOfStreamSent
  eosAnswers : t.answers.submitEos = s.answers.submitEos
  frames : SubmitsOne s.toFrames t.toFrames
  result : (t.mFreeCodecBuffers = s.mFreeCodecBuffers ∧
      t.mSubmittedCodecBuffers = s.mSubmittedCodecBuffers ∧ certain = false) ∨
    (t.mFreeCodecBuffers = s.mFreeCodecBuffers.tail ∧
      t.mSubmittedCodecBuffers.entries ≠ [])

theorem Performs.keeps {itemTimeUs : Int} {seeStopAction : Bool}
    {t : GraphicBufferSource} (h : Performs itemTimeUs s seeStopAction t) :
    Keeps s t := by
  have hcontrol := h.control
  have hanswers : t.answers = s.answers := by
    rw [hcontrol]
  constructor
  · rw [hcontrol]
  · rw [hcontrol]
  · rw [hcontrol]
  · rw [hcontrol]
    exact fun heos => heos
  · rw [hcontrol]
    exact fun hsent => hsent
  · exact h.actions
  · exact ⟨[], congrArg Answers.acquireBuffer hanswers⟩
  · exact ⟨[], congrArg Answers.drainAcquireBuffer hanswers⟩
  · exact ⟨[], congrArg Answers.submitEos hanswers⟩
  · rw [h.buffers]
    exact fun hqueued => hqueued
  · rw [h.buffers]
    exact fun hfree => hfree
  · rw [h.buffers]
    exact fun hsubmitted => hsubmitted

theorem Quiet.of_frames {t : GraphicBufferSource} (h : Quiet s)
    (hframes : t.toFrames = s.toFrames) (hlog : QuietTail s.log t.log)
    (hsent : t.mEndOfStreamSent = s.mEndOfStreamSent) : Quiet t := by
  constructor
  · rw [hframes]
    exact h.num
  · rw [hsent]
    exact h.log.quiet hlog
  · rw [hframes, hsent]
    exact h.backlog
  · rw [hframes, hsent]
    exact h.latest

theorem stop_mem_of_due {c : Control} {itemTimeUs : Int}
    (h : c.dueAction itemTimeUs = some .stop) :
    exists a, a ∈ c.mActionQueue ∧ a.mAction = .stop ∧
      a.mActionTimeUs <= itemTimeUs := by
  unfold Control.dueAction at h
  cases hqueue : c.mActionQueue with
  | nil =>
      rw [hqueue] at h
      cases h
  | cons first rest =>
      rw [hqueue] at h
      simp only at h
      split at h
      · cases h
      next hge =>
        have hmem := newestDueAction_mem itemTimeUs first (first :: rest)
        have hdue := newestDueAction_due itemTimeUs first (first :: rest)
          (not_lt.mp hge)
        rw [List.mem_cons] at hmem
        refine ⟨_, ?_, Option.some.inj h, hdue⟩
        rcases hmem with hmem | hmem
        · rw [hmem]
          exact List.mem_cons_self
        · exact hmem

theorem StopsClean.endsClean {timestampNs : Int} (h : StopsClean s)
    (hwaits : timestampNs ∈ s.waitingTimes)
    (hdue : s.dueAction (Int.tdiv timestampNs 1000) = some .stop) :
    EndsClean s := by
  rcases h with hlater | hclean
  · rcases stop_mem_of_due hdue with ⟨a, ha, hstop, htime⟩
    exact absurd (hlater a ha hstop timestampNs hwaits) (not_lt.mpr htime)
  · exact hclean

theorem stops_of_sendsEos {itemTimeUs : Int} {t u v : GraphicBufferSource}
    (hsent : s.mEndOfStreamSent = false) (hfree : s.mFreeCodecBuffers ≠ [])
    (hclean : EndsClean s)
    (ht : Performs itemTimeUs s true t) (hu : LetsAllGo t u)
    (hv : SendsEos { u with toControl := { u.toControl with mEndOfStream := true } }
      v) : Stops s v := by
  have hcontrol := ht.control
  have hmarked : Keeps u
      { u with toControl := { u.toControl with mEndOfStream := true } } :=
    { Keeps.refl u with eos := fun _ => rfl }
  have hkeeps : Keeps s v :=
    ht.keeps.trans (hu.keeps.trans (hmarked.trans hv.keeps))
  have hsentU : u.mEndOfStreamSent = false := by
    rw [hu.sent, hcontrol]
    exact hsent
  have hanswers : u.answers.submitEos = s.answers.submitEos := by
    rw [hu.eosAnswers, hcontrol]
  have hbacklog : v.backlog = u.backlog := hv.frames.backlog
  have hdrained : DrainsOk s -> v.backlog = 0 := by
    intro hok
    rw [hbacklog]
    exact hu.drained (hok.keeps ht.keeps)
  refine ⟨hkeeps, ?_, ?_, hv.keeps.eos rfl, hdrained, ?_⟩
  · refine ⟨?_, hv.log, ?_, ?_⟩
    · rw [hv.frames.num]
      exact hu.quiet.num
    · intro hsentV
      rcases hv.result with ⟨hsame, _⟩ | ⟨_, _, hok⟩
      · rw [hsame] at hsentV
        exact absurd hsentV (hsentU ▸ Bool.false_ne_true)
      · rcases hclean with hfails | hdrains
        · rw [← hanswers] at hfails
          exact absurd hok hfails
        · exact hdrained hdrains
    · intro hsentV
      rcases hv.result with ⟨hsame, _⟩ | ⟨_, hlatest, _⟩
      · rw [hsame] at hsentV
        exact absurd hsentV (hsentU ▸ Bool.false_ne_true)
      · exact hlatest
  · apply List.eq_nil_iff_forall_not_mem.mpr
    intro a ha
    have hmem := hu.keeps.actions a (hmarked.actions a (hv.keeps.actions a ha))
    rw [ht.cleared rfl] at hmem
    cases hmem
  · intro hok
    rcases hv.result with ⟨_, hwhy⟩ | ⟨hsentV, _⟩
    · rcases hwhy with hsent' | hnil | hfails
      · exact absurd hsent' (hsentU ▸ Bool.false_ne_true)
      · have hsame : u.mFreeCodecBuffers = s.mFreeCodecBuffers := by
          rw [hu.free, ht.buffers]
        exact absurd (hsame.symm.trans hnil) hfree
      · rw [← hanswers] at hok
        exact absurd hok hfails
    · exact hsentV

theorem passes_of_handles {itemTimeUs : Int} {certain certain' : Bool}
    {t u : GraphicBufferSource} (ht : Performs itemTimeUs s false t)
    (hu : Handles certain' t u) (hcertain : certain' = false -> certain = false) :
    Passes certain s u := by
  have hcontrol := ht.control
  have hframes := hu.frames
  have hresult := hu.result
  rw [ht.buffers] at hframes hresult
  refine ⟨ht.keeps.trans (keeps_of_same_phase hu.phase hu.frames), hu.log, ?_, ?_,
    ?_, hframes, ?_⟩
  · have heos : u.mEndOfStream = t.mEndOfStream :=
      congrArg Phase.mEndOfStream hu.phase
    rw [heos, hcontrol]
  · have hsent : u.mEndOfStreamSent = t.mEndOfStreamSent :=
      congrArg Phase.mEndOfStreamSent hu.phase
    rw [hsent, hcontrol]
  · have hanswers : u.answers.submitEos = t.answers.submitEos :=
      congrArg Phase.submitEos hu.phase
    rw [hanswers, hcontrol]
  · rcases hresult with ⟨hfree, hsubmitted, hnot⟩ | htaken
    · exact Or.inl ⟨hfree, hsubmitted, hcertain hnot⟩
    · exact Or.inr htaken

theorem Handles.keepsLatest {certain : Bool} {t u : GraphicBufferSource}
    (h : Handles certain s t) (hu : KeepsLatest t u) : Handles certain s u := by
  have hfree : u.mFreeCodecBuffers = t.mFreeCodecBuffers := by
    have hboth := congrArg Frames.mFreeCodecBuffers hu.frames
    exact hboth
  have hsubmitted : u.mSubmittedCodecBuffers = t.mSubmittedCodecBuffers := by
    have hboth := congrArg Frames.mSubmittedCodecBuffers hu.frames
    exact hboth
  refine ⟨hu.phase.trans h.phase, h.log.quiet hu.log,
    h.frames.of_withoutLatest hu.frames, ?_⟩
  rw [hfree, hsubmitted]
  exact h.result

theorem processFrame_outcome (item : VideoBuffer) (h : Quiet s)
    (hsent : s.mEndOfStreamSent = false) (hfree : s.mFreeCodecBuffers ≠ [])
    (hclean : s.dueAction (Int.tdiv item.mTimestampNs 1000) = some .stop ->
      EndsClean s) :
    Sat (processFrame item)
      (fun _ t =>
        (s.dueAction (Int.tdiv item.mTimestampNs 1000) = some .stop ∧ Stops s t) ∨
        (s.dueAction (Int.tdiv item.mTimestampNs 1000) ≠ some .stop ∧
          Passes (s.submits item.mTimestampNs) s t))
      AbortsQuietly s := by
  have hlog : EosLog s.log false := hsent ▸ h.log
  unfold processFrame
  apply Sat.bind (performActions_outcome _)
  intro seeStopAction t ht
  have hcontrol := ht.control
  have hquiet : Quiet t := by
    apply h.of_frames
    · rw [ht.buffers]
    · rw [ht.buffers]
      exact .refl _
    · rw [hcontrol]
  simp only [sat_ite, sat_bind, sat_get, sat_pure, sat_modifyControl]
  refine ⟨fun hstop => ?_, fun hgo => ?_⟩
  · rw [hstop] at ht
    apply (releaseAllAvailableBuffers_l_outcome hquiet).imp
    intro _ u hu
    apply (submitEndOfInputStream_l_outcome
      (s := { u with toControl := { u.toControl with mEndOfStream := true } })
      rfl hu.quiet.log).imp
    intro _ v hv
    have hdue := ht.stop.mp rfl
    exact Or.inl ⟨hdue, stops_of_sendsEos hsent hfree (hclean hdue) ht hu hv⟩
  · have hdue : s.dueAction (Int.tdiv item.mTimestampNs 1000) ≠ some .stop :=
      fun hdue => hgo (ht.stop.mpr hdue)
    rw [Bool.not_eq_true] at hgo
    rw [hgo] at ht
    have hlogT : EosLog t.log false := by
      rw [ht.buffers]
      exact hlog
    have hfreeT : t.mFreeCodecBuffers ≠ [] := by
      rw [ht.buffers]
      exact hfree
    constructor
    · intro hsuspended
      right
      refine ⟨hdue, ?_⟩
      have hnone : Handles false t t :=
        ⟨rfl, hlogT, .refl _, Or.inl ⟨rfl, rfl, rfl⟩⟩
      apply passes_of_handles ht hnone
      intro _
      have hsuspendedAt : s.suspendedAt (Int.tdiv item.mTimestampNs 1000) = true := by
        rw [hcontrol] at hsuspended
        exact hsuspended
      unfold Control.submits
      rw [hsuspendedAt]
      rfl
    · intro _
      have hcertain : t.passes item.mTimestampNs = false ->
          s.submits item.mTimestampNs = false := by
        intro hnot
        rw [hcontrol] at hnot
        have hnot' : s.passes item.mTimestampNs = false := hnot
        unfold Control.submits
        rw [hnot', Bool.and_false]
      apply (skipDropOrSubmit_outcome item hlogT hfreeT).imp
      intro err u hu
      constructor
      · intro _
        exact Or.inr ⟨hdue, passes_of_handles ht hu hcertain⟩
      · intro _
        apply (recordFrame_outcome item _).imp
        intro _ v hv
        exact Or.inr ⟨hdue, passes_of_handles ht (hu.keepsLatest hv) hcertain⟩

/-!
# Filling
-/

def GraphicBufferSource.stopDue (s : GraphicBufferSource) : Bool :=
  match s.headTime with
  | none => false
  | some timestampNs =>
      decide (s.dueAction (Int.tdiv timestampNs 1000) = some .stop)

def GraphicBufferSource.headSubmits (s : GraphicBufferSource) : Bool :=
  match s.headTime with
  | none => false
  | some timestampNs => s.submits timestampNs

/-- What {lit}`fillCodecBuffer_l` does when it takes a frame. -/
structure Fills (s t : GraphicBufferSource) : Prop where
  keeps : Keeps s t
  quiet : Quiet t
  clean : StopsClean t
  result : (s.stopDue = true ∧ t.mEndOfStream = true ∧
      (DrainsOk s -> t.backlog = 0) ∧
      (s.answers.submitEos.headD .ok = .ok -> t.mEndOfStreamSent = true)) ∨
    (s.stopDue = false ∧ t.mEndOfStream = s.mEndOfStream ∧
      t.mEndOfStreamSent = false ∧ t.backlog = s.backlog - 1 ∧
      ((t.mFreeCodecBuffers = s.mFreeCodecBuffers ∧ s.headSubmits = false) ∨
        (t.mFreeCodecBuffers = s.mFreeCodecBuffers.tail ∧
          t.mSubmittedCodecBuffers.entries ≠ [])))

structure FillsNone (s t : GraphicBufferSource) : Prop where
  keeps : Keeps s t
  quiet : Quiet t
  clean : StopsClean t
  eos : t.mEndOfStream = s.mEndOfStream
  sent : t.mEndOfStreamSent = s.mEndOfStreamSent
  frames : t.toFrames = s.toFrames
  why : s.mFreeCodecBuffers = [] ∨ (s.mAvailableBuffers = [] ∧
    (s.answers.nextAcquire .oneFrame ≠ .ok ∨ s.queue = []))

theorem keeps_of_frames {t : GraphicBufferSource}
    (hphase : t.toControl.phase = s.toControl.phase)
    (hframes : t.toFrames = s.toFrames) : Keeps s t := by
  apply keeps_of_same_phase hphase
  rw [hframes]
  exact .refl _

theorem TakesNone.fillsNone {t : GraphicBufferSource} (h : TakesNone s t)
    (hquiet : Quiet s) (hclean : StopsClean s) : FillsNone s t := by
  have hcontrol := h.control
  have hframes : SubmitsOne s.toFrames t.toFrames := by
    rw [h.frames]
    exact .refl _
  have hphase : t.toControl.phase = { s.toControl.phase with
      acquireBuffer := s.answers.acquireBuffer.tail } := by
    rw [hcontrol]
    rfl
  have hkeeps : Keeps s t :=
    keeps_of_phase hphase (fun h => h) (List.tail_suffix _)
      (List.suffix_refl _) (List.suffix_refl _) hframes.queued hframes.free
      hframes.submitted
  have hsent : t.mEndOfStreamSent = s.mEndOfStreamSent := by
    rw [hcontrol]
  refine ⟨hkeeps, hquiet.of_frames h.frames h.log hsent,
    hclean.keeps hkeeps ?_ ?_, ?_, hsent, h.frames, Or.inr h.why⟩
  · rw [hcontrol]
    rfl
  · rw [h.frames]
    exact List.Subset.refl _
  · rw [hcontrol]

theorem Takes.keeps {item : VideoBuffer} {t : GraphicBufferSource}
    (h : Takes s item t) : Keeps s t := by
  rcases h.control with ⟨answers, hsuffix, hcontrol⟩
  have hphase : t.toControl.phase = { s.toControl.phase with
      acquireBuffer := answers } := by
    rw [hcontrol]
    rfl
  apply keeps_of_phase hphase (fun h => h) hsuffix (List.suffix_refl _)
    (List.suffix_refl _) h.queued
  · rw [h.free]
    exact fun hfree => hfree
  · rw [h.submitted]
    exact fun hsubmitted => hsubmitted

theorem fills_of_processed {item : VideoBuffer} {t u : GraphicBufferSource}
    (hsent : s.mEndOfStreamSent = false) (hclean : StopsClean s)
    (ht : Takes s item t)
    (hu : (t.dueAction (Int.tdiv item.mTimestampNs 1000) = some .stop ∧
        Stops t u) ∨ (t.dueAction (Int.tdiv item.mTimestampNs 1000) ≠ some .stop ∧
        Passes (t.submits item.mTimestampNs) t u)) : Fills s u := by
  rcases ht.control with ⟨answers, _, hcontrol⟩
  have hdue : t.dueAction (Int.tdiv item.mTimestampNs 1000) =
      s.dueAction (Int.tdiv item.mTimestampNs 1000) := by
    rw [hcontrol]
    rfl
  have hsubmits : t.submits item.mTimestampNs = s.submits item.mTimestampNs := by
    rw [hcontrol]
    rfl
  have hanswers : t.answers.submitEos = s.answers.submitEos := by
    rw [hcontrol]
  rcases hu with ⟨hstop, hu⟩ | ⟨hstop, hu⟩
  · refine ⟨ht.keeps.trans hu.keeps, hu.quiet, ?_, Or.inl ⟨?_, hu.eos, ?_, ?_⟩⟩
    · left
      unfold StopsLater
      rw [hu.actions]
      intro a ha
      cases ha
    · unfold GraphicBufferSource.stopDue
      rw [ht.time]
      rw [hdue] at hstop
      exact decide_eq_true hstop
    · intro hok
      exact hu.drained (hok.keeps ht.keeps)
    · rw [← hanswers]
      exact hu.sent
  · have hkeeps := ht.keeps.trans hu.keeps
    have hsentU : u.mEndOfStreamSent = false := by
      rw [hu.sent, hcontrol]
      exact hsent
    refine ⟨hkeeps, ?_, ?_, Or.inr ⟨?_, ?_, hsentU, ?_, ?_⟩⟩
    · apply quiet_of_not_sent hsentU ?_ hu.log
      rw [hu.frames.num]
      exact ht.num
    · apply hclean.keeps hkeeps (hu.eosAnswers.trans hanswers)
      unfold Frames.waitingTimes at *
      rw [hu.frames.available, hu.frames.queue]
      exact ht.times
    · unfold GraphicBufferSource.stopDue
      rw [ht.time]
      rw [hdue] at hstop
      exact decide_eq_false hstop
    · rw [hu.eos, hcontrol]
    · rw [hu.frames.backlog]
      exact ht.backlog
    · rcases hu.result with ⟨hfree, _, hnot⟩ | ⟨hfree, hsubmitted⟩
      · left
        refine ⟨hfree.trans ht.free, ?_⟩
        unfold GraphicBufferSource.headSubmits
        rw [ht.time]
        rw [hsubmits] at hnot
        exact hnot
      · right
        rw [ht.free] at hfree
        exact ⟨hfree, hsubmitted⟩

theorem Fills.unhold {t : GraphicBufferSource} (h : Fills s t)
    (a : AcquiredBuffer) :
    Fills s { t with toBuffers := t.toBuffers.unhold a } := by
  have hframes := Buffers.unhold_toFrames t.toBuffers a
  have hkeeps : Keeps t { t with toBuffers := t.toBuffers.unhold a } :=
    keeps_of_frames rfl hframes
  refine ⟨h.keeps.trans hkeeps, ?_, h.clean.keeps hkeeps rfl ?_, ?_⟩
  · exact h.quiet.of_frames hframes (quietTail_unhold _ _) rfl
  · show (t.toBuffers.unhold a).waitingTimes ⊆ t.waitingTimes
    rw [hframes]
    exact List.Subset.refl _
  · show _ ∨ (_ ∧ _ ∧ _ ∧ (t.toBuffers.unhold a).backlog = _ ∧ _)
    rw [hframes]
    exact h.result

def FillsIf (filled : Bool) (s t : GraphicBufferSource) : Prop :=
  (filled = true ∧ Fills s t) ∨ (filled = false ∧ FillsNone s t)

theorem fillCodecBuffer_l_outcome (h : Quiet s) (hexec : s.mExecuting = true)
    (havailable : s.haveAvailableBuffers_l = true) (hclean : StopsClean s) :
    Sat fillCodecBuffer_l (fun filled t => FillsIf filled s t) AbortsQuietly
      s := by
  have hsent := h.not_sent havailable
  unfold fillCodecBuffer_l
  simp only [sat_bind, sat_get, sat_check, sat_ite, sat_pure]
  refine ⟨fun _ => ⟨fun hfree => ?_, fun hfree => ?_⟩, fun hcheck => ?_⟩
  · exact Or.inr ⟨rfl, .refl s, h, hclean, rfl, rfl, rfl,
      Or.inl (List.isEmpty_iff.mp hfree)⟩
  · have hne : s.mFreeCodecBuffers ≠ [] := by
      intro hnil
      exact hfree (List.isEmpty_iff.mpr hnil)
    apply (takeFrame_outcome h havailable).imp
    intro r t ht
    cases r with
    | none => exact Or.inr ⟨rfl, ht.fillsNone h hclean⟩
    | some item =>
        rcases ht.control with ⟨answers, _, hcontrol⟩
        have hsentT : t.mEndOfStreamSent = false := by
          rw [hcontrol]
          exact hsent
        have hquietT : Quiet t := quiet_of_not_sent hsentT ht.num ht.log
        have hfreeT : t.mFreeCodecBuffers ≠ [] := by
          rw [ht.free]
          exact hne
        have hcleanT : t.dueAction (Int.tdiv item.mTimestampNs 1000) =
            some .stop -> EndsClean t := by
          intro hdue
          have hdueS : s.dueAction (Int.tdiv item.mTimestampNs 1000) =
              some .stop := by
            rw [hcontrol] at hdue
            exact hdue
          apply (hclean.endsClean (headTime_mem ht.time) hdueS).keeps ht.keeps
          rw [hcontrol]
        apply Sat.bind (processFrame_outcome item hquietT hsentT hfreeT hcleanT)
        intro _ u hu
        simp only [sat_bind, sat_unhold, sat_pure]
        have hfills := fills_of_processed hsent hclean ht hu
        exact Or.inl ⟨rfl, hfills.unhold item.mBuffer⟩
  · rw [hexec, havailable] at hcheck
    cases hcheck

end Functions

end Bqhelper
end Sm7225
