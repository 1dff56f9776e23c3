import Sm7225.Bqhelper.Steps
import Sm7225.Bqhelper.Requests

/-!
# Every function of the class takes steps

For each function of the class: started from a state that the steps have
reached, it ends in one that more steps reach, and its local variables have let
go of what they held.  The last section collects this for the requests.
-/

namespace Sm7225
namespace Bqhelper

open Lib

structure Tracks (b : Buffers) (held : List AcquiredBuffer) (b' : Buffers) :
    Prop where
  steps : Buffers.Steps b b'
  locals : b'.locals = held

def EndsAfter (b : Buffers) (_ : Abort) (s : GraphicBufferSource) : Prop :=
  exists b', Buffers.Steps b b' ∧ b'.log = s.log

namespace Tracks

variable {b b' : Buffers} {held : List AcquiredBuffer}

theorem endsAfter {s : GraphicBufferSource} (h : Tracks b held s.toBuffers)
    (e : Abort) : EndsAfter b e s :=
  ⟨s.toBuffers, h.steps, rfl⟩

theorem withControl (h : Tracks b held b') (c : Control) :
    Tracks b held (GraphicBufferSource.mk b' c).toBuffers :=
  h

theorem step (h : Tracks b held b') {b'' : Buffers}
    (hstep : Buffers.Step b' b'') (hlocals : b''.locals = held) :
    Tracks b held b'' :=
  ⟨h.steps.tail hstep, hlocals⟩

theorem note (h : Tracks b held b') {e : Event} (he : e.isNeutral = true) :
    Tracks b held (b'.note e) :=
  h.step (.note e he) h.locals

theorem unhold {a : AcquiredBuffer} (h : Tracks b (a :: held) b') :
    Tracks b held (b'.unhold a) := by
  have ha : a ∈ b'.locals := by
    rw [h.locals]
    exact List.mem_cons_self
  apply h.steps.tail (.unhold a ha) |> Tracks.mk
  rw [Buffers.unhold_locals, h.locals]
  exact List.erase_cons_head a held

theorem unholdAll {as : List AcquiredBuffer} (h : Tracks b (as ++ held) b') :
    Tracks b held (b'.unholdAll as) := by
  induction as generalizing b' with
  | nil => exact h
  | cons a as ih => exact ih (Tracks.unhold h)

end Tracks

section Functions

variable {b : Buffers} {held : List AcquiredBuffer} {s : GraphicBufferSource}

/-!
# Acquiring
-/

theorem consumerAcquireBuffer_tracks (h : Tracks b held s.toBuffers)
    (site : AcquireSite) (hnum : 0 < s.mNumAvailableUnacquiredBuffers) :
    Sat (consumerAcquireBuffer site)
      (fun r t =>
        match r with
        | .error _ => Tracks b held t.toBuffers ∧ t.toFrames = s.toFrames
        | .ok bi => t.toBuffers = s.toBuffers ∧ s.queue.head? = some bi)
      (EndsAfter b) s := by
  unfold consumerAcquireBuffer
  simp only [sat_bind, sat_get, sat_modifyControl, sat_ite]
  constructor
  · intro _
    exact ⟨h.step (.acquireFailed _ hnum) h.locals, rfl⟩
  · intro _
    cases hqueue : s.queue with
    | nil =>
        have hstep := Buffers.Step.acquireFailed .noBufferAvailable hnum
        rw [hqueue] at hstep
        exact ⟨h.step hstep h.locals, rfl⟩
    | cons bi rest => exact ⟨rfl, rfl⟩

structure Acquired (b b' : Buffers) (item : VideoBuffer) : Prop where
  available : b'.mAvailableBuffers = b.mAvailableBuffers
  order : forall waiting, b.InOrder waiting ->
    b'.InOrder (waiting ++ [item.mBuffer])

theorem acquire_tracks {b' : Buffers} (h : Tracks b held b') {bi : BufferItem}
    {c : CachedBuffer} (hqueue : b'.queue.head? = some bi)
    (hnum : 0 < b'.mNumAvailableUnacquiredBuffers)
    (hslot : b'.mBufferSlots.find? bi.mSlot = some c) :
    Tracks b (b'.dequeue.newAcquired c bi :: held) (b'.dequeue.acquire c bi) :=
  ⟨h.steps.tail (.acquire bi c hqueue hnum hslot),
    congrArg (List.cons _) h.locals⟩

theorem populateSlot_tracks {b' : Buffers} (h : Tracks b held b')
    {slot : SlotId} (gb : GraphicBuffer)
    (hslot : b'.mBufferSlots.find? slot = none) :
    Tracks b held (b'.cache slot gb) :=
  h.step (.populateSlot slot gb hslot) h.locals

theorem cache_removeSlot (b' : Buffers) (slot : SlotId) (gb : GraphicBuffer) :
    (b'.removeSlot slot).cache slot gb = b'.cache slot gb := by
  unfold Buffers.cache Buffers.removeSlot
  simp only [KeyedVector.add_remove]

theorem find_cache (b' : Buffers) (slot : SlotId) (gb : GraphicBuffer) :
    (b'.cache slot gb).mBufferSlots.find? slot =
      some { id := b'.nextId, mSlot := slot, mGraphicBuffer := gb } := by
  rw [KeyedVector.find_eq_some]
  unfold Buffers.cache
  rw [KeyedVector.mem_add]
  exact Or.inl rfl

theorem find_removeSlot (b' : Buffers) (slot : SlotId) :
    (b'.removeSlot slot).mBufferSlots.find? slot = none := by
  rw [KeyedVector.find_eq_none]
  intro v hv
  unfold Buffers.removeSlot at hv
  rw [KeyedVector.mem_remove] at hv
  exact hv.2 rfl

theorem adoptItem_tracks (h : Tracks b held s.toBuffers) {bi : BufferItem}
    (hqueue : s.queue.head? = some bi)
    (hnum : 0 < s.mNumAvailableUnacquiredBuffers) :
    Sat (adoptItem bi)
      (fun item t => Tracks b (item.mBuffer :: held) t.toBuffers ∧
        Acquired s.toBuffers t.toBuffers item)
      (EndsAfter b) s := by
  unfold adoptItem cacheBuffer
  simp only [sat_bind, sat_modifyBuffers, sat_get]
  cases hgb : bi.mGraphicBuffer with
  | none =>
      cases hslot : s.mBufferSlots.find? bi.mSlot with
      | none =>
          simp only [Buffers.dequeue, hslot, sat_throw]
          exact h.endsAfter .unknownSlot
      | some c =>
          simp only [Buffers.dequeue, hslot, sat_pure]
          refine ⟨acquire_tracks h hqueue hnum hslot, rfl, ?_⟩
          intro waiting hwaiting
          exact Buffers.inOrder_acquire (b := s.toBuffers.dequeue) hwaiting
  | some gb =>
      cases hslot : s.mBufferSlots.find? bi.mSlot with
      | none =>
          simp only [Buffers.dequeue, hslot, sat_pure, sat_bind,
            sat_modifyBuffers]
          refine ⟨acquire_tracks (populateSlot_tracks h gb hslot) hqueue hnum
            (find_cache _ _ _), rfl, ?_⟩
          intro waiting hwaiting
          exact Buffers.inOrder_acquire
            (b := s.toBuffers.dequeue.cache bi.mSlot gb) hwaiting
      | some old =>
          simp only [Buffers.dequeue, hslot, sat_pure, sat_bind,
            sat_modifyBuffers, discardBufferAtSlotIndex_l]
          have hdiscard : Tracks b held
              ((s.toBuffers.dropFromCache old).removeSlot bi.mSlot) :=
            h.step (.discardSlot bi.mSlot old hslot) h.locals
          have hpopulate := populateSlot_tracks hdiscard gb
            (find_removeSlot _ bi.mSlot)
          rw [cache_removeSlot] at hpopulate
          refine ⟨acquire_tracks hpopulate hqueue hnum (find_cache _ _ _), rfl,
            ?_⟩
          intro waiting hwaiting
          have hdrop : (s.toBuffers.dequeue.dropFromCache old).InOrder waiting :=
            (Buffers.inOrder_note (b := s.toBuffers.dequeue)
              (e := .discarded old) rfl rfl).mpr hwaiting
          exact Buffers.inOrder_acquire
            (b := (s.toBuffers.dequeue.dropFromCache old).cache bi.mSlot gb)
            hdrop

theorem acquireBuffer_l_tracks (h : Tracks b held s.toBuffers)
    (site : AcquireSite) (hnum : 0 < s.mNumAvailableUnacquiredBuffers) :
    Sat (acquireBuffer_l site)
      (fun r t =>
        match r with
        | .error _ => Tracks b held t.toBuffers ∧ t.toFrames = s.toFrames
        | .ok item => Tracks b (item.mBuffer :: held) t.toBuffers ∧
            Acquired s.toBuffers t.toBuffers item)
      (EndsAfter b) s := by
  unfold acquireBuffer_l
  rw [sat_bind]
  apply Sat.imp (consumerAcquireBuffer_tracks h site hnum)
  intro r t ht
  cases r with
  | error err => exact ht
  | ok bi =>
      rcases ht with ⟨hbuffers, hqueue⟩
      rw [← hbuffers] at h hqueue hnum ⊢
      rw [sat_bind]
      exact (adoptItem_tracks h hqueue hnum).imp (fun item u hu => hu)

/-!
# Submitting
-/

theorem holders_of_frames {b' b'' : Buffers} (hframes : b''.toFrames = b'.toFrames)
    (hlocals : b''.locals = b'.locals) : b''.holders = b'.holders := by
  unfold Buffers.holders Buffers.submitted
  rw [hframes, hlocals]

theorem updateDataspace_tracks (h : Tracks b held s.toBuffers)
    (item : VideoBuffer) :
    Sat (updateDataspace item)
      (fun _ t => Tracks b held t.toBuffers ∧ t.toFrames = s.toFrames ∧
        forall waiting, s.toBuffers.InOrder waiting ->
          t.toBuffers.InOrder waiting)
      (EndsAfter b) s := by
  unfold updateDataspace onDataspaceChanged_l
  simp only [sat_bind, sat_get, sat_modifyControl, sat_ite, sat_throw, sat_note,
    sat_pure]
  refine ⟨fun _ => ⟨fun _ => ⟨fun _ => ?_, fun _ => ?_⟩, fun _ => ?_⟩, fun _ => ?_⟩
  · exact h.endsAfter .nullComponent
  · refine ⟨h.note rfl, rfl, ?_⟩
    intro waiting hwaiting
    exact (Buffers.inOrder_note rfl rfl).mpr hwaiting
  · exact ⟨h, trivial, fun _ hwaiting => hwaiting⟩
  · exact ⟨h, trivial, fun _ hwaiting => hwaiting⟩

theorem componentSubmitBuffer_sat (h : Tracks b held s.toBuffers)
    (id : CodecBufferId) (item : VideoBuffer) (origin : Origin)
    (codecTimeUs : Int) :
    Sat (componentSubmitBuffer id item origin codecTimeUs)
      (fun err t => t.toBuffers = s.toBuffers.note
        (.submitBuffer id item origin codecTimeUs
          item.mBuffer.getAcquireFenceFd err))
      (EndsAfter b) s := by
  unfold componentSubmitBuffer
  simp only [sat_bind, sat_get, sat_modifyControl, sat_ite, sat_throw, sat_note,
    sat_pure]
  exact ⟨fun _ => h.endsAfter .nullComponent, fun _ => trivial⟩

theorem componentSubmitEos_sat (h : Tracks b held s.toBuffers)
    (id : CodecBufferId) :
    Sat (componentSubmitEos id)
      (fun err t => t.toBuffers = s.toBuffers.note (.submitEos id err))
      (EndsAfter b) s := by
  unfold componentSubmitEos
  simp only [sat_bind, sat_get, sat_modifyControl, sat_ite, sat_throw, sat_note,
    sat_pure]
  exact ⟨fun _ => h.endsAfter .nullComponent, fun _ => trivial⟩

theorem moveToSubmitted_tracks {id : CodecBufferId}
    {entry : Option AcquiredBuffer} (hlocals : s.locals = held)
    (h : Buffers.Steps b (s.toBuffers.submit id entry)) :
    Sat (moveToSubmitted id entry) (fun _ t => Tracks b held t.toBuffers)
      (EndsAfter b) s := by
  unfold moveToSubmitted
  simp only [sat_bind, sat_get, sat_modifyBuffers, sat_unholdAll]
  apply Tracks.unholdAll
  exact ⟨h, congrArg (s.submittedAt id ++ ·) hlocals⟩

theorem submitBuffer_l_tracks (h : Tracks b held s.toBuffers)
    (item : VideoBuffer) (origin : Origin)
    (hheld : item.mBuffer ∈ s.toBuffers.holders)
    (horder : origin = .fresh ->
      s.toBuffers.InOrder (item.mBuffer :: s.toBuffers.available)) :
    Sat (submitBuffer_l item origin) (fun _ t => Tracks b held t.toBuffers)
      (EndsAfter b) s := by
  unfold submitBuffer_l
  simp only [sat_bind, sat_get]
  cases hfree : s.mFreeCodecBuffers with
  | nil =>
      simp only [sat_throw]
      exact h.endsAfter _
  | cons id rest =>
      cases htime : s.clock.calculateCodecTimestamp_l s.mFrameDropper
          item.mTimestampNs with
      | none => exact h
      | some timed =>
          simp only [sat_bind, sat_modifyControl]
          apply (updateDataspace_tracks
            (s := { s with toControl := { s.toControl with clock := timed.2 } })
            h item).imp
          intro _ t ht
          rcases ht with ⟨ht, hframes, hkeep⟩
          have hid : t.mFreeCodecBuffers.head? = some id := by
            rw [hframes]
            exact congrArg List.head? hfree
          have hmem : item.mBuffer ∈ t.toBuffers.holders := by
            rw [holders_of_frames hframes (ht.locals.trans h.locals.symm)]
            exact hheld
          have hfresh : origin = .fresh ->
              t.toBuffers.InOrder (item.mBuffer :: t.toBuffers.available) := by
            intro horigin
            unfold Buffers.available
            rw [hframes]
            exact hkeep _ (horder horigin)
          apply (componentSubmitBuffer_sat ht id item origin timed.1).imp
          intro err u hu
          rw [sat_ite]
          constructor
          · intro herr
            rw [sat_pure, hu]
            exact ht.step
              (.submitFailed id item origin timed.1 err herr hid hmem hfresh)
              ht.locals
          · intro herr
            rw [not_not.mp herr] at hu
            rw [sat_bind]
            apply (moveToSubmitted_tracks ?_ ?_).imp
            · intro _ _ hv
              exact hv
            · rw [hu]
              exact ht.locals
            · rw [hu]
              exact ht.steps.tail (.submitted id item origin timed.1 hid hmem hfresh)

theorem assignLatest_tracks (h : Tracks b held s.toBuffers)
    (item : Option VideoBuffer)
    (hheld : forall v, item = some v -> v.mBuffer ∈ s.toBuffers.holders) :
    Sat (assignLatest item) (fun _ t => Tracks b held t.toBuffers)
      (EndsAfter b) s := by
  unfold assignLatest
  simp only [sat_bind, sat_get, sat_modifyBuffers, sat_unholdAll]
  apply Tracks.unholdAll
  exact ⟨h.steps.tail (.setLatest item hheld),
    congrArg (s.latest ++ ·) h.locals⟩

theorem submitEndOfInputStream_l_tracks (h : Tracks b held s.toBuffers) :
    Sat submitEndOfInputStream_l (fun _ t => Tracks b held t.toBuffers)
      (EndsAfter b) s := by
  unfold submitEndOfInputStream_l
  simp only [sat_bind, sat_get, sat_check, sat_ite, sat_pure]
  refine ⟨fun _ => ⟨fun _ => h, fun _ => ?_⟩, fun _ => h.endsAfter _⟩
  cases hfree : s.mFreeCodecBuffers with
  | nil => exact h
  | cons id rest =>
      have hid : s.mFreeCodecBuffers.head? = some id :=
        congrArg List.head? hfree
      simp only [sat_bind]
      apply (componentSubmitEos_sat h id).imp
      intro err t ht
      simp only [sat_ite, sat_pure, sat_bind]
      constructor
      · intro herr
        rw [ht]
        exact h.step (.eosFailed id err herr hid) h.locals
      · intro herr
        rw [not_not.mp herr] at ht
        apply (moveToSubmitted_tracks ?_ ?_).imp
        · intro _ u hu
          rw [sat_modifyControl]
          apply assignLatest_tracks hu none
          intro v hv
          cases hv
        · rw [ht]
          exact h.locals
        · rw [ht]
          exact h.steps.tail (.eosSubmitted id hid)

/-!
# Repeating the latest frame
-/

theorem queueFrameRepeat_l_tracks (h : Tracks b held s.toBuffers) :
    Sat queueFrameRepeat_l (fun _ t => Tracks b held t.toBuffers)
      (EndsAfter b) s := by
  unfold queueFrameRepeat_l
  simp only [sat_bind, sat_get, sat_modifyControl, sat_ite, sat_note, sat_pure]
  exact ⟨fun _ => h.note rfl, fun _ => h⟩

theorem retimeLatest_tracks (h : Tracks b held s.toBuffers) (deltaNs : Int) :
    Tracks b held (s.toBuffers.retimeLatest deltaNs) :=
  h.step (.retimeLatest deltaNs) h.locals

theorem setLatestBuffer_l_tracks (h : Tracks b held s.toBuffers)
    (item : VideoBuffer) (hheld : item.mBuffer ∈ s.toBuffers.holders) :
    Sat (setLatestBuffer_l item) (fun _ t => Tracks b held t.toBuffers)
      (EndsAfter b) s := by
  unfold setLatestBuffer_l
  apply Sat.bind (assignLatest_tracks h (some item) ?_)
  · intro _ t ht
    simp only [sat_bind, sat_get, sat_modifyControl, sat_modifyBuffers]
    exact queueFrameRepeat_l_tracks (retimeLatest_tracks ht _)
  · intro v hv
    rw [← Option.some.inj hv]
    exact hheld

theorem countRepeat_tracks (h : Tracks b held s.toBuffers) :
    Sat countRepeat (fun _ t => Tracks b held t.toBuffers) (EndsAfter b) s := by
  unfold countRepeat
  simp only [sat_bind, sat_get, sat_modifyControl, sat_ite, sat_modifyBuffers,
    sat_pure]
  exact ⟨fun _ => queueFrameRepeat_l_tracks (retimeLatest_tracks h _),
    fun _ => h⟩

theorem latest_mem_holders {latest : VideoBuffer}
    (h : s.mLatestBuffer = some latest) :
    latest.mBuffer ∈ s.toBuffers.holders := by
  simp [Buffers.holders, h]

theorem repeatLatestBuffer_l_tracks (h : Tracks b held s.toBuffers) :
    Sat repeatLatestBuffer_l (fun _ t => Tracks b held t.toBuffers)
      (EndsAfter b) s := by
  unfold repeatLatestBuffer_l
  simp only [sat_bind, sat_get, sat_check]
  refine ⟨fun _ => ?_, fun _ => h.endsAfter _⟩
  cases hlatest : s.mLatestBuffer with
  | none => exact h
  | some latest =>
      simp only [sat_ite, sat_pure, sat_bind]
      refine ⟨fun _ => h, fun _ => ⟨fun _ => h, fun _ => ?_⟩⟩
      apply (submitBuffer_l_tracks h latest .repeated
        (latest_mem_holders hlatest) (fun horigin => by cases horigin)).imp
      intro err t ht
      exact ⟨fun _ => ht, fun _ => countRepeat_tracks ht⟩

/-!
# Letting available frames go
-/

theorem drainUnacquired_tracks (h : Tracks b held s.toBuffers) (n : Nat) :
    Sat (drainUnacquired n) (fun _ t => Tracks b held t.toBuffers)
      (EndsAfter b) s := by
  induction n generalizing s with
  | zero => exact h
  | succ n ih =>
      unfold drainUnacquired
      simp only [sat_bind, sat_get, sat_ite, sat_pure]
      refine ⟨fun hnum => ?_, fun _ => h⟩
      apply (acquireBuffer_l_tracks h .drain hnum).imp
      intro r t ht
      cases r with
      | error err => exact ht.1
      | ok item =>
          simp only [sat_bind, sat_unhold]
          exact ih ht.1.unhold

theorem releaseAllAvailableBuffers_l_tracks (h : Tracks b held s.toBuffers) :
    Sat releaseAllAvailableBuffers_l (fun _ t => Tracks b held t.toBuffers)
      (EndsAfter b) s := by
  unfold releaseAllAvailableBuffers_l
  simp only [sat_bind, sat_get, sat_modifyBuffers, sat_unholdAll]
  apply drainUnacquired_tracks
  apply Tracks.unholdAll
  exact ⟨h.steps.tail .clearAvailable, congrArg (_ ++ ·) h.locals⟩

end Functions

end Bqhelper
end Sm7225
