import Sm7225.Bqhelper.Accounting

/-!
# What release leaves behind

The function {lit}`release` clears the codec buffers and the latest frame.  It
does not clear the available frames, so it lets go of every frame exactly when
there is no available frame.
-/

namespace Sm7225
namespace Bqhelper

open Lib

/-!
# Submissions of young frames
-/

def Event.submittedFrame? : Event -> Option AcquiredBuffer
  | .submitBuffer _ item _ _ _ _ => some item.mBuffer
  | _ => none

/-- The frames handed to the component, oldest submission first. -/
def submissions (log : List Event) : List AcquiredBuffer :=
  log.filterMap Event.submittedFrame?

namespace Buffers

variable {b b' : Buffers} {n : Nat} {past : List Event}

/-- Since the log was {lit}`past` and the next name was {lit}`n`, only frames
acquired later are held and submitted. -/
structure Young (n : Nat) (past : List Event) (b : Buffers) : Prop where
  next : n <= b.nextId
  held : forall a, a ∈ b.holders -> n <= a.id
  submitted : exists future, b.log = past ++ future ∧
    forall a, a ∈ submissions future -> n <= a.id

theorem Young.of_tail (h : Young n past b) {tail : List Event}
    (hlog : b'.log = b.log ++ tail)
    (htail : forall a, a ∈ submissions tail -> n <= a.id)
    (hnext : b.nextId <= b'.nextId)
    (hheld : forall a, a ∈ b'.holders -> n <= a.id) : Young n past b' := by
  refine ⟨le_trans h.next hnext, hheld, ?_⟩
  rcases h.submitted with ⟨future, hold, hyoung⟩
  refine ⟨future ++ tail, ?_, ?_⟩
  · rw [hlog, hold, List.append_assoc]
  · intro a ha
    unfold submissions at ha
    rw [List.filterMap_append] at ha
    rcases List.mem_append.mp ha with ha | ha
    · exact hyoung a ha
    · exact htail a ha

theorem Young.of_silent (h : Young n past b) {tail : List Event}
    (hlog : b'.log = b.log ++ tail)
    (htail : forall e, e ∈ tail -> e.submittedFrame? = none)
    (hnext : b.nextId <= b'.nextId)
    (hheld : forall a, a ∈ b'.holders -> a ∈ b.holders) : Young n past b' := by
  refine h.of_tail hlog ?_ hnext (fun a ha => h.held a (hheld a ha))
  intro a ha
  rcases List.mem_filterMap.mp ha with ⟨e, he, hframe⟩
  rw [htail e he] at hframe
  cases hframe

theorem submittedFrame_endsLife (e : Event) (h : e.endsLife = true) :
    e.submittedFrame? = none := by
  cases e <;> first | rfl | cases h

theorem submittedFrame_neutral (e : Event) (h : e.isNeutral = true) :
    e.submittedFrame? = none := by
  cases e <;> first | rfl | cases h

theorem Young.unhold (h : Young n past b) (a : AcquiredBuffer) :
    Young n past (b.unhold a) := by
  rcases unhold_log b a with ⟨tail, hlog, htail⟩
  exact h.of_silent hlog (fun e he => submittedFrame_endsLife e (htail e he))
    (le_of_eq (unhold_nextId b a).symm) (fun _ hx => mem_holders_of_unhold hx)

theorem Young.addReleaseFenceFd (h : Young n past b) (a : AcquiredBuffer)
    (fenceFd : Int) : Young n past (b.addReleaseFenceFd a fenceFd) :=
  ⟨h.next, h.held, h.submitted⟩

theorem Young.note_submitBuffer (h : Young n past b) (id : CodecBufferId)
    {item : VideoBuffer} (origin : Origin) (codecTimeUs : Int)
    (fence : Option Fence) (err : Status) (hheld : item.mBuffer ∈ b.holders) :
    Young n past
      (b.note (.submitBuffer id item origin codecTimeUs fence err)) := by
  refine h.of_tail rfl ?_ (le_refl _) h.held
  intro a ha
  rw [List.mem_singleton.mp ha]
  exact h.held _ hheld

theorem Young.note (h : Young n past b) {e : Event}
    (he : e.submittedFrame? = none) : Young n past (b.note e) := by
  refine h.of_silent rfl ?_ (le_refl _) (fun _ ha => ha)
  intro e' he'
  rw [List.mem_singleton.mp he']
  exact he

theorem Young.holders (h : Young n past b) (hlog : b'.log = b.log)
    (hnext : b'.nextId = b.nextId)
    (hheld : forall a, a ∈ b'.holders <-> a ∈ b.holders) : Young n past b' := by
  have htail : b'.log = b.log ++ [] := by
    rw [hlog, List.append_nil]
  apply h.of_silent htail ?_ (le_of_eq hnext.symm) (fun a ha => (hheld a).mp ha)
  intro e he
  cases he

theorem young_step (hstep : Step b b') (h : Young n past b) :
    Young n past b' := by
  cases hstep with
  | note e he => exact h.note (submittedFrame_neutral e he)
  | unhold a ha => exact h.unhold a
  | takeAvailable =>
      refine h.holders ?_ ?_ (fun _ => mem_holders_takeAvailable)
      · unfold Buffers.takeAvailable
        split
        · rfl
        · rfl
      · unfold Buffers.takeAvailable
        split
        · rfl
        · rfl
  | pushAvailable item hheld horder =>
      exact h.holders rfl rfl (fun _ => mem_holders_pushAvailable hheld)
  | clearAvailable =>
      exact h.holders rfl rfl (fun _ => mem_holders_clearAvailable)
  | setLatest item hheld =>
      exact h.holders rfl rfl (fun _ => mem_holders_setLatest hheld)
  | retimeLatest deltaNs =>
      exact h.holders rfl rfl (fun _ => mem_holders_retimeLatest)
  | submitFailed id item origin codecTimeUs err herr hfree hheld horder =>
      exact h.note_submitBuffer id origin codecTimeUs _ err hheld
  | submitted id item origin codecTimeUs hfree hheld horder =>
      have hnoted := h.note_submitBuffer id origin codecTimeUs
        item.mBuffer.getAcquireFenceFd .ok hheld
      refine hnoted.holders rfl rfl (fun _ => mem_holders_submit ?_)
      intro c hc
      rw [← Option.some.inj hc]
      exact hheld
  | eosFailed id err herr hfree => exact h.note rfl
  | eosSubmitted id hfree =>
      have hnoted : Young n past (b.note (.submitEos id .ok)) := h.note rfl
      refine hnoted.holders rfl rfl (fun _ => mem_holders_submit ?_)
      intro c hc
      cases hc
  | acquireFailed err hnum => exact h.note rfl
  | discardSlot slot c hslot =>
      have hnoted : Young n past (b.note (.discarded c)) := h.note rfl
      exact hnoted.holders rfl rfl (fun _ => Iff.rfl)
  | populateSlot slot gb hslot =>
      refine h.of_silent (List.append_nil _).symm ?_ (Nat.le_succ _)
        (fun _ ha => ha)
      intro e he
      cases he
  | acquire bi c hqueue hnum hslot =>
      refine h.of_tail rfl ?_ (Nat.le_succ _) ?_
      · intro a ha
        cases ha
      · intro a ha
        rcases mem_holders_acquire.mp ha with ha | ha
        · rw [ha]
          exact h.next
        · exact h.held a ha

theorem submittedFrame_arrival (e : Event) (h : e.ofArrival = true) :
    e.submittedFrame? = none := by
  cases e <;> first | rfl | cases h

theorem young_arrival (h : Young n past b) (mExecuting : Bool) (r : Request) :
    Young n past (b.arrival mExecuting r) := by
  refine arrival_memory (P := Young n past) ?_
    (fun _ a _ hb => Young.unhold hb a)
    (fun _ a fenceFd hb => Young.addReleaseFenceFd hb a fenceFd) h mExecuting r
  intro b b' tail hmoves htail hb
  exact hb.of_silent hmoves.log
    (fun e he => submittedFrame_arrival e (htail e he))
    (le_of_eq hmoves.nextId.symm) (fun a ha => (hmoves.holders a).mp ha)

end Buffers

/-!
# What release does
-/

structure Releases (b : Buffers) (t : GraphicBufferSource) : Prop where
  available : t.mAvailableBuffers = b.mAvailableBuffers
  submitted : t.mSubmittedCodecBuffers = KeyedVector.empty
  latest : t.mLatestBuffer = none
  acquires : Everywhere HandsOutReleased b.log -> Everywhere HandsOutReleased t.log

theorem handsOutReleased_endsLife {log tail : List Event}
    (h : Everywhere HandsOutReleased log)
    (htail : forall e, e ∈ tail -> e.endsLife = true) :
    Everywhere HandsOutReleased (log ++ tail) := by
  apply h.append_silent
  intro e he past a ha
  rw [Buffers.acquiredBuffer_endsLife e (htail e he)] at ha
  cases ha

theorem release_sat (s : GraphicBufferSource) :
    Sat release (fun _ t => Releases s.toBuffers t) (fun _ _ => False) s := by
  unfold release assignLatest
  simp only [sat_bind, sat_get, sat_modifyControl, sat_modifyBuffers,
    sat_unholdAll, sat_pure]
  have hframes := Buffers.unholdAll_toFrames
    (s.toBuffers.clearCodecBuffers.note .released) s.toBuffers.submitted
  rcases Buffers.unholdAll_log (s.toBuffers.clearCodecBuffers.note .released)
    s.toBuffers.submitted with ⟨tail, hlog, htail⟩
  generalize (s.toBuffers.clearCodecBuffers.note .released).unholdAll
    s.toBuffers.submitted = b at *
  have hlatest := Buffers.unholdAll_toFrames (b.setLatest none) b.latest
  rcases Buffers.unholdAll_log (b.setLatest none) b.latest with
    ⟨tail', hlog', htail'⟩
  constructor
  · show ((b.setLatest none).unholdAll b.latest).mAvailableBuffers = _
    rw [hlatest]
    show b.mAvailableBuffers = _
    rw [hframes]
    rfl
  · show ((b.setLatest none).unholdAll b.latest).mSubmittedCodecBuffers = _
    rw [hlatest]
    show b.mSubmittedCodecBuffers = _
    rw [hframes]
    rfl
  · show ((b.setLatest none).unholdAll b.latest).mLatestBuffer = _
    rw [hlatest]
    rfl
  · intro hconsumer
    show Everywhere HandsOutReleased ((b.setLatest none).unholdAll b.latest).log
    rw [hlog']
    apply handsOutReleased_endsLife ?_ htail'
    show Everywhere HandsOutReleased b.log
    rw [hlog]
    apply handsOutReleased_endsLife ?_ htail
    apply hconsumer.snoc
    intro a ha
    cases ha

theorem exec_release_sat (s : GraphicBufferSource) (answers : Answers) :
    Sat (exec (.call .release answers)) (fun _ t => Releases s.toBuffers t)
      (fun _ _ => False) s := by
  have hrelease := release_sat
    { s with toControl := { s.toControl with answers := answers } }
  have hperform : Sat (perform .release) (fun _ t => Releases s.toBuffers t)
      (fun _ _ => False)
      { s with toControl := { s.toControl with answers := answers } } :=
    sat_bind.mpr hrelease
  exact hperform

/-!
# Letting go of every frame
-/

/-- The source holds no frame, and every frame it acquired has been given back,
unless its slot was discarded. -/
structure LetsGo (t : GraphicBufferSource) : Prop where
  available : t.mAvailableBuffers = []
  submitted : t.mSubmittedCodecBuffers = KeyedVector.empty
  latest : t.mLatestBuffer = none
  outstanding : t.mNumOutstandingAcquires = 0
  gone : forall a, a ∈ acquiredFrames t.log -> Ended t.log a

def SubmitsLater (t u : GraphicBufferSource) : Prop :=
  exists future, u.log = t.log ++ future ∧
    forall a, a ∈ submissions future -> a ∉ acquiredFrames t.log

/-- No run submits a frame that was acquired before it. -/
def NeverSubmitted (t : GraphicBufferSource) : Prop :=
  forall requests : List Request,
    Sat (run exec requests) (fun _ u => SubmitsLater t u)
      (fun _ u => SubmitsLater t u) t

theorem neverSubmitted_of_holders {t : GraphicBufferSource} (ht : Between t)
    (hholders : t.toBuffers.holders = []) : NeverSubmitted t := by
  intro requests
  have hyoung : Buffers.Young t.nextId t.log t.toBuffers := by
    refine ⟨le_refl _, ?_, [], (List.append_nil _).symm, ?_⟩
    · intro a ha
      rw [hholders] at ha
      cases ha
    · intro a ha
      cases ha
  have hlater : forall b : Buffers, Buffers.Young t.nextId t.log b ->
      exists future, b.log = t.log ++ future ∧
        forall a, a ∈ submissions future -> a ∉ acquiredFrames t.log := by
    intro b hb
    rcases hb.submitted with ⟨future, hlog, hfuture⟩
    refine ⟨future, hlog, ?_⟩
    intro a ha hold
    have hyounger := hfuture a ha
    have holder := ht.named.ids a hold
    lia
  apply (run_keeps (C := fun _ _ => True) (fun _ _ => Buffers.young_step)
    (fun s r _ h _ => Buffers.young_arrival h s.mExecuting r) requests ht hyoung
    (along_true requests t)).mono
  · intro _ u hu
    exact hlater u.toBuffers hu.2
  · intro _ u hu
    rcases hu with ⟨b, _, _, hb, hlog⟩
    rcases hlater b hb with ⟨future, hfuture, hnot⟩
    exact ⟨future, hlog.symm.trans hfuture, hnot⟩

theorem available_of_release {s : GraphicBufferSource} {answers : Answers}
    (h : Sat (exec (.call .release answers)) (fun _ t => LetsGo t)
      (fun _ _ => False) s) : s.mAvailableBuffers = [] := by
  have hboth := h.and (exec_release_sat s answers)
  apply Sat.elim (hboth.mono ?_ ?_)
  · intro _ t ht
    exact ht.2.available.symm.trans ht.1.available
  · intro _ t ht
    exact ht.1.elim

theorem release_lets_go (requests : List Request) (answers : Answers)
    (s : GraphicBufferSource) (hs : Reaches requests s)
    (hconsumer : Everywhere HandsOutReleased s.log) :
    Sat (exec (.call .release answers))
        (fun _ t => LetsGo t ∧ NeverSubmitted t) (fun _ _ => False) s <->
      s.mAvailableBuffers = [] := by
  constructor
  · intro h
    exact available_of_release (h.imp (fun _ _ ht => ht.1))
  · intro havailable
    rcases reaches_accounts hs with ⟨hbetween, haccounts⟩
    have hinv := exec_keeps (fun _ _ => Buffers.accounts_step) hbetween
      (Buffers.accounts_arrival haccounts s.mExecuting (.call .release answers))
    apply (hinv.and (exec_release_sat s answers)).mono
    · intro _ t ht
      rcases ht with ⟨⟨hbetween, haccounts⟩, hreleases⟩
      have hnone := hreleases.available.trans havailable
      have hholders := Buffers.holders_eq_nil hbetween.locals hnone
        hreleases.submitted hreleases.latest
      have hsettled : Buffers.Settled t.toBuffers :=
        ⟨⟨haccounts.slots, haccounts.lives, haccounts.counted⟩, hbetween.locals,
          hreleases.acquires hconsumer⟩
      refine ⟨⟨hnone, hreleases.submitted, hreleases.latest,
        hsettled.outstanding_eq_zero hholders, ?_⟩,
        neverSubmitted_of_holders hbetween hholders⟩
      intro a ha
      apply haccounts.lives.ended a ha
      intro halive
      have hheld := (haccounts.lives.holders a).mpr halive
      rw [hholders] at hheld
      cases hheld
    · intro _ t ht
      exact ht.2

/-- Of three frames the first has been given back, the second is with the
component, and the third, which came back from it, is the latest. -/
def releasedAfterUse : List Request :=
  [configureFor 0, (Op.setRepeatPreviousFrameDelayUs 50000).now,
      (Op.onInputBufferAdded 1).now, (Op.onInputBufferAdded 2).now,
      (Op.onInputBufferAdded 3).now, Op.start.now] ++
    deliver (newFrame 0 1 100) ++ deliver (newFrame 1 2 200) ++
    deliver (newFrame 2 3 300) ++
    [(Op.onInputBufferEmptied 1 (-1)).now, (Op.onInputBufferEmptied 3 (-1)).now,
      Op.stop.now]

theorem release_lets_go_releasedAfterUse :
    (final releasedAfterUse).submitted.map AcquiredBuffer.frameNum = [2] ∧
      (final releasedAfterUse).latest.map AcquiredBuffer.frameNum = [3] ∧
      Sat (exec Op.release.now) (fun _ t => LetsGo t ∧ NeverSubmitted t)
        (fun _ _ => False) (final releasedAfterUse) := by
  refine ⟨by decide +kernel, by decide +kernel, ?_⟩
  apply (release_lets_go releasedAfterUse {} (final releasedAfterUse)
    (reaches_final (by decide +kernel)) (by decide +kernel)).mpr
  decide +kernel

/-- A frame arrives between {lit}`configure` and {lit}`start`. -/
def frameBeforeStart : List Request :=
  configureFor 0 :: deliver (newFrame 0 1 100)

/-- The frame stays available over {lit}`release`, and is submitted to the
component that is configured next. -/
theorem frameBeforeStart_outlives_release :
    Reaches frameBeforeStart (final frameBeforeStart) ∧
      Everywhere HandsOutReleased (final frameBeforeStart).log ∧
      ¬ Sat (exec Op.release.now) (fun _ t => LetsGo t ∧ NeverSubmitted t)
        (fun _ _ => False) (final frameBeforeStart) ∧
      submissions (final (frameBeforeStart ++ Op.release.now :: session 1 [1])).log =
        acquiredFrames (final frameBeforeStart).log := by
  refine ⟨reaches_final (by decide +kernel), by decide +kernel, ?_,
    by decide +kernel⟩
  intro h
  have hnone := available_of_release (h.imp (fun _ _ ht => ht.1))
  revert hnone
  decide +kernel

end Bqhelper
end Sm7225
