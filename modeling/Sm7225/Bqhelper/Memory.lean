import Sm7225.Bqhelper.RequestSteps

/-!
# Steps and the memory

Most steps only move references between the holders.  The others acquire a
frame, let go of a reference, discard a slot or populate one.
-/

namespace Sm7225
namespace Bqhelper

open Lib

namespace Event

def ofMemory : Event -> Bool
  | .acquired _ _ => true
  | .releaseBuffer _ _ _ _ => true
  | .discarded _ => true
  | .destroyed _ => true
  | _ => false

def ofArrival : Event -> Bool
  | .queued _ => true
  | .frameAvailable => true
  | .codecBufferAdded _ => true
  | .emptied _ _ _ _ => true
  | .released => true
  | .closed _ => true
  | _ => false

def ofFence : Event -> Bool
  | .emptied _ _ _ _ => true
  | .newFence _ => true
  | .closed _ => true
  | _ => false

end Event

namespace Buffers

variable {b b' : Buffers} {a : AcquiredBuffer}

/-!
# Holders
-/

theorem mem_submitted :
    a ∈ b.submitted <-> exists id, (id, some a) ∈ b.mSubmittedCodecBuffers.entries := by
  unfold submitted
  simp [KeyedVector.mem_values]

theorem mem_submittedAt {id : CodecBufferId} :
    a ∈ b.submittedAt id <-> (id, some a) ∈ b.mSubmittedCodecBuffers.entries := by
  unfold submittedAt
  rw [← KeyedVector.find_eq_some]
  cases hfind : b.mSubmittedCodecBuffers.find? id with
  | none => simp
  | some entry =>
      cases entry with
      | none => simp
      | some buffer => simp [eq_comm]

theorem mem_latest :
    a ∈ b.latest <-> exists v, b.mLatestBuffer = some v ∧ v.mBuffer = a := by
  unfold latest
  cases b.mLatestBuffer with
  | none => simp
  | some v => simp [eq_comm]

theorem mem_holders :
    a ∈ b.holders <->
      a ∈ b.locals ∨ a ∈ b.available ∨ a ∈ b.submitted ∨ a ∈ b.latest := by
  unfold holders available latest
  simp only [List.mem_append]

theorem mem_holders_takeAvailable :
    a ∈ b.takeAvailable.holders <-> a ∈ b.holders := by
  unfold takeAvailable
  split
  · rfl
  next item rest hlist =>
      have hsplit : b.available = item.mBuffer :: rest.map VideoBuffer.mBuffer := by
        unfold available
        rw [hlist]
        rfl
      rw [mem_holders, mem_holders, hsplit]
      show a ∈ item.mBuffer :: b.locals ∨ a ∈ rest.map VideoBuffer.mBuffer ∨
        a ∈ b.submitted ∨ a ∈ b.latest <-> _
      simp only [List.mem_cons]
      tauto

theorem mem_holders_pushAvailable {item : VideoBuffer}
    (hheld : item.mBuffer ∈ b.holders) :
    a ∈ (b.pushAvailable item).holders <-> a ∈ b.holders := by
  have hpush : (b.pushAvailable item).available =
      b.available ++ [item.mBuffer] := by
    unfold available pushAvailable
    simp
  rw [mem_holders, hpush]
  show a ∈ b.locals ∨ a ∈ b.available ++ [item.mBuffer] ∨ a ∈ b.submitted ∨
    a ∈ b.latest <-> _
  constructor
  · intro h
    rcases h with h | h | h | h
    · exact mem_holders.mpr (Or.inl h)
    · rcases List.mem_append.mp h with h | h
      · exact mem_holders.mpr (Or.inr (Or.inl h))
      · rw [List.mem_singleton.mp h]
        exact hheld
    · exact mem_holders.mpr (Or.inr (Or.inr (Or.inl h)))
    · exact mem_holders.mpr (Or.inr (Or.inr (Or.inr h)))
  · intro h
    rw [List.mem_append]
    have hcases := mem_holders.mp h
    tauto

theorem mem_holders_clearAvailable :
    a ∈ b.clearAvailable.holders <-> a ∈ b.holders := by
  rw [mem_holders, mem_holders]
  show a ∈ b.available ++ b.locals ∨ a ∈ ([] : List AcquiredBuffer) ∨
    a ∈ b.submitted ∨ a ∈ b.latest <-> _
  rw [List.mem_append]
  have hnil : a ∉ ([] : List AcquiredBuffer) := List.not_mem_nil
  tauto

theorem mem_holders_setLatest {item : Option VideoBuffer}
    (hheld : forall v, item = some v -> v.mBuffer ∈ b.holders) :
    a ∈ (b.setLatest item).holders <-> a ∈ b.holders := by
  have hlatest : a ∈ (b.setLatest item).latest -> a ∈ b.holders := by
    intro h
    rcases mem_latest.mp h with ⟨v, hv, hbuffer⟩
    rw [← hbuffer]
    exact hheld v hv
  have hold := mem_holders (b := b) (a := a)
  rw [mem_holders]
  show a ∈ b.latest ++ b.locals ∨ a ∈ b.available ∨ a ∈ b.submitted ∨
    a ∈ (b.setLatest item).latest <-> _
  rw [List.mem_append]
  tauto

theorem mem_holders_retimeLatest {deltaNs : Int} :
    a ∈ (b.retimeLatest deltaNs).holders <-> a ∈ b.holders := by
  have hlatest : (b.retimeLatest deltaNs).latest = b.latest := by
    unfold latest retimeLatest
    cases b.mLatestBuffer with
    | none => rfl
    | some v => rfl
  rw [mem_holders, mem_holders, hlatest]
  rfl

theorem mem_holders_submit {id : CodecBufferId} {entry : Option AcquiredBuffer}
    (hheld : forall c, entry = some c -> c ∈ b.holders) :
    a ∈ (b.submit id entry).holders <-> a ∈ b.holders := by
  have hsubmitted : a ∈ (b.submit id entry).submitted <->
      entry = some a ∨ exists id', (id', some a) ∈
        b.mSubmittedCodecBuffers.entries ∧ id' ≠ id := by
    rw [mem_submitted]
    unfold submit
    simp only [KeyedVector.mem_add, Prod.mk.injEq]
    constructor
    · intro h
      rcases h with ⟨id', ⟨_, hentry⟩ | h⟩
      · exact Or.inl hentry.symm
      · exact Or.inr ⟨id', h⟩
    · intro h
      rcases h with hentry | ⟨id', h⟩
      · exact ⟨id, Or.inl ⟨rfl, hentry.symm⟩⟩
      · exact ⟨id', Or.inr h⟩
  have hparts : a ∈ (b.submit id entry).holders <->
      a ∈ b.submittedAt id ++ b.locals ∨ a ∈ b.available ∨
        a ∈ (b.submit id entry).submitted ∨ a ∈ b.latest := mem_holders
  rw [hparts, hsubmitted, List.mem_append, mem_submittedAt]
  constructor
  · intro h
    rcases h with (h | h) | h | (h | ⟨id', h, _⟩) | h
    · exact mem_holders.mpr (Or.inr (Or.inr (Or.inl (mem_submitted.mpr ⟨id, h⟩))))
    · exact mem_holders.mpr (Or.inl h)
    · exact mem_holders.mpr (Or.inr (Or.inl h))
    · exact hheld a h
    · exact mem_holders.mpr
        (Or.inr (Or.inr (Or.inl (mem_submitted.mpr ⟨id', h⟩))))
    · exact mem_holders.mpr (Or.inr (Or.inr (Or.inr h)))
  · intro h
    rcases mem_holders.mp h with h | h | h | h
    · exact Or.inl (Or.inr h)
    · exact Or.inr (Or.inl h)
    · rcases mem_submitted.mp h with ⟨id', h⟩
      by_cases hid : id' = id
      · rw [hid] at h
        exact Or.inl (Or.inl h)
      · exact Or.inr (Or.inr (Or.inl (Or.inr ⟨id', h, hid⟩)))
    · exact Or.inr (Or.inr (Or.inr h))

theorem mem_holders_takeBack {id : CodecBufferId} :
    a ∈ (b.takeBack id).holders <-> a ∈ b.holders := by
  have hsubmitted : a ∈ (b.takeBack id).submitted <->
      exists id', (id', some a) ∈ b.mSubmittedCodecBuffers.entries ∧ id' ≠ id := by
    rw [mem_submitted]
    unfold takeBack
    simp only [KeyedVector.mem_remove]
  have hparts : a ∈ (b.takeBack id).holders <->
      a ∈ b.submittedAt id ++ b.locals ∨ a ∈ b.available ∨
        a ∈ (b.takeBack id).submitted ∨ a ∈ b.latest := mem_holders
  rw [hparts, hsubmitted, List.mem_append, mem_submittedAt, mem_holders,
    mem_submitted]
  constructor
  · intro h
    rcases h with (h | h) | h | ⟨id', h, _⟩ | h
    · exact Or.inr (Or.inr (Or.inl ⟨id, h⟩))
    · exact Or.inl h
    · exact Or.inr (Or.inl h)
    · exact Or.inr (Or.inr (Or.inl ⟨id', h⟩))
    · exact Or.inr (Or.inr (Or.inr h))
  · intro h
    rcases h with h | h | ⟨id', h⟩ | h
    · exact Or.inl (Or.inr h)
    · exact Or.inr (Or.inl h)
    · by_cases hid : id' = id
      · rw [hid] at h
        exact Or.inl (Or.inl h)
      · exact Or.inr (Or.inr (Or.inl ⟨id', h, hid⟩))
    · exact Or.inr (Or.inr (Or.inr h))

theorem mem_holders_clearCodecBuffers :
    a ∈ b.clearCodecBuffers.holders <-> a ∈ b.holders := by
  rw [mem_holders, mem_holders]
  show a ∈ b.submitted ++ b.locals ∨ a ∈ b.available ∨
    a ∈ ([] : List AcquiredBuffer) ∨ a ∈ b.latest <-> _
  rw [List.mem_append]
  have hnil : a ∉ ([] : List AcquiredBuffer) := List.not_mem_nil
  tauto

theorem mem_holders_acquire {c : CachedBuffer} {bi : BufferItem} :
    a ∈ (b.acquire c bi).holders <-> a = b.newAcquired c bi ∨ a ∈ b.holders := by
  rw [mem_holders, mem_holders]
  show a ∈ b.newAcquired c bi :: b.locals ∨ a ∈ b.available ∨ a ∈ b.submitted ∨
    a ∈ b.latest <-> _
  rw [List.mem_cons]
  tauto

theorem mem_holders_of_unhold {x : AcquiredBuffer}
    (h : x ∈ (b.unhold a).holders) : x ∈ b.holders := by
  unfold holders submitted at *
  rw [unhold_locals, unhold_toFrames] at h
  rcases List.mem_append.mp h with h | h
  · exact List.mem_append_left _ (List.mem_of_mem_erase h)
  · exact List.mem_append_right _ h

/-!
# Moving references
-/

structure MovesReferences (b b' : Buffers) (tail : List Event) : Prop where
  log : b'.log = b.log ++ tail
  live : b'.live = b.live
  slots : b'.mBufferSlots = b.mBufferSlots
  dropped : b'.droppedFromCache = b.droppedFromCache
  outstanding : b'.mNumOutstandingAcquires = b.mNumOutstandingAcquires
  nextId : b'.nextId = b.nextId
  holders : forall a, a ∈ b'.holders <-> a ∈ b.holders
  silent : forall e, e ∈ tail -> e.ofMemory = false

theorem movesReferences_nil
    (hmemory : b'.toMemory = { b.toMemory with locals := b'.locals })
    (hholders : forall a, a ∈ b'.holders <-> a ∈ b.holders) :
    MovesReferences b b' [] := by
  constructor
  · rw [hmemory, List.append_nil]
  · rw [hmemory]
  · rw [hmemory]
  · rw [hmemory]
  · rw [hmemory]
  · rw [hmemory]
  · exact hholders
  · intro e he
    cases he

theorem movesReferences_event {e : Event}
    (hmemory : b'.toMemory =
      { b.toMemory with locals := b'.locals, log := b.log ++ [e] })
    (hholders : forall a, a ∈ b'.holders <-> a ∈ b.holders)
    (he : e.ofMemory = false) : MovesReferences b b' [e] := by
  constructor
  · rw [hmemory]
  · rw [hmemory]
  · rw [hmemory]
  · rw [hmemory]
  · rw [hmemory]
  · rw [hmemory]
  · exact hholders
  · intro e' he'
    rw [List.mem_singleton.mp he']
    exact he

theorem movesReferences_note {e : Event} (he : e.ofMemory = false) :
    MovesReferences b (b.note e) [e] :=
  movesReferences_event rfl (fun _ => Iff.rfl) he

theorem ofMemory_neutral (e : Event) (h : e.isNeutral = true) :
    e.ofMemory = false := by
  cases e <;> first | rfl | cases h

theorem ofFence_neutral (e : Event) (h : e.isNeutral = true) :
    e.ofFence = false := by
  cases e <;> first | rfl | cases h

theorem step_memory (h : Step b b') :
    (exists tail, MovesReferences b b' tail ∧
      forall e, e ∈ tail -> e.ofFence = false) ∨
    (exists a, a ∈ b.locals ∧ b' = b.unhold a) ∨
    (exists slot c, b.mBufferSlots.find? slot = some c ∧
      b' = (b.dropFromCache c).removeSlot slot) ∨
    (exists slot gb, b.mBufferSlots.find? slot = none ∧ b' = b.cache slot gb) ∨
    (exists bi c, b.mBufferSlots.find? bi.mSlot = some c ∧
      b' = b.dequeue.acquire c bi) := by
  have hquiet : forall {b'' : Buffers}, MovesReferences b b'' [] ->
      exists tail, MovesReferences b b'' tail ∧
        forall e, e ∈ tail -> e.ofFence = false :=
    fun hmoves => ⟨[], hmoves, by simp⟩
  have hevent : forall {b'' : Buffers} {e : Event}, MovesReferences b b'' [e] ->
      e.ofFence = false -> exists tail, MovesReferences b b'' tail ∧
        forall e, e ∈ tail -> e.ofFence = false := by
    intro b'' e hmoves he
    refine ⟨[e], hmoves, ?_⟩
    intro e' he'
    rw [List.mem_singleton.mp he']
    exact he
  cases h with
  | note e he =>
      exact Or.inl (hevent (movesReferences_note (ofMemory_neutral e he))
        (ofFence_neutral e he))
  | unhold a ha => exact Or.inr (Or.inl ⟨a, ha, rfl⟩)
  | takeAvailable =>
      refine Or.inl (hquiet (movesReferences_nil ?_
        (fun _ => mem_holders_takeAvailable)))
      unfold Buffers.takeAvailable
      split
      · rfl
      · rfl
  | pushAvailable item hheld horder =>
      exact Or.inl (hquiet (movesReferences_nil rfl
        (fun _ => mem_holders_pushAvailable hheld)))
  | clearAvailable =>
      exact Or.inl (hquiet (movesReferences_nil rfl
        (fun _ => mem_holders_clearAvailable)))
  | setLatest item hheld =>
      exact Or.inl (hquiet (movesReferences_nil rfl
        (fun _ => mem_holders_setLatest hheld)))
  | retimeLatest deltaNs =>
      exact Or.inl (hquiet (movesReferences_nil rfl
        (fun _ => mem_holders_retimeLatest)))
  | submitFailed id item origin codecTimeUs err herr hfree hheld horder =>
      exact Or.inl (hevent (movesReferences_note rfl) rfl)
  | submitted id item origin codecTimeUs hfree hheld horder =>
      refine Or.inl (hevent (movesReferences_event rfl ?_ rfl) rfl)
      intro a
      apply mem_holders_submit (b := b.note _)
      intro c hc
      rw [← Option.some.inj hc]
      exact hheld
  | eosFailed id err herr hfree =>
      exact Or.inl (hevent (movesReferences_note rfl) rfl)
  | eosSubmitted id hfree =>
      refine Or.inl (hevent (movesReferences_event rfl ?_ rfl) rfl)
      intro a
      apply mem_holders_submit (b := b.note _)
      intro c hc
      cases hc
  | acquireFailed err hnum =>
      exact Or.inl (hevent (movesReferences_note rfl) rfl)
  | discardSlot slot c hslot =>
      exact Or.inr (Or.inr (Or.inl ⟨slot, c, hslot, rfl⟩))
  | populateSlot slot gb hslot =>
      exact Or.inr (Or.inr (Or.inr (Or.inl ⟨slot, gb, hslot, rfl⟩)))
  | acquire bi c hqueue hnum hslot =>
      exact Or.inr (Or.inr (Or.inr (Or.inr ⟨bi, c, hslot, rfl⟩)))

theorem arrival_memory {P : Buffers -> Prop}
    (hmoves : forall b b' tail, MovesReferences b b' tail ->
      (forall e, e ∈ tail -> e.ofArrival = true) -> P b -> P b')
    (hunhold : forall b a, a ∈ b.locals -> P b -> P (b.unhold a))
    (hfence : forall b a fenceFd, P b -> P (b.addReleaseFenceFd a fenceFd))
    (hb : P b) (mExecuting : Bool) (r : Request) :
    P (b.arrival mExecuting r) := by
  have hevent : forall {b b' : Buffers} (e : Event), P b -> b'.toMemory =
      { b.toMemory with locals := b'.locals, log := b.log ++ [e] } ->
      (forall a, a ∈ b'.holders <-> a ∈ b.holders) -> e.ofMemory = false ->
      e.ofArrival = true -> P b' := by
    intro b b' e hb hmemory hholders he harrival
    refine hmoves b b' [e] (movesReferences_event hmemory hholders he) ?_ hb
    intro e' he'
    rw [List.mem_singleton.mp he']
    exact harrival
  have hclose : forall b fd, P b -> P (b.autoclose fd) := by
    intro b fd hP
    unfold autoclose
    split
    · exact hevent (.closed fd) hP rfl (fun _ => Iff.rfl) rfl rfl
    · exact hP
  have hback : forall id fenceFd held kept,
      P ((b.note (.emptied id fenceFd held kept)).takeBack id) := by
    intro id fenceFd held kept
    exact hevent (.emptied id fenceFd held kept) hb rfl
      (fun _ => mem_holders_takeBack) rfl rfl
  cases r with
  | queueFrame item =>
      exact hevent (.queued item) hb rfl (fun _ => Iff.rfl) rfl rfl
  | call op answers =>
      cases op with
      | onFrameAvailable =>
          exact hevent .frameAvailable hb rfl (fun _ => Iff.rfl) rfl rfl
      | onInputBufferAdded id =>
          show P (b.added mExecuting id)
          unfold added
          split
          · exact hb
          · exact hevent (.codecBufferAdded id) hb rfl (fun _ => Iff.rfl) rfl rfl
      | onInputBufferEmptied id fenceFd =>
          show P (b.emptied mExecuting id fenceFd)
          unfold emptied
          split
          · apply hclose
            exact hevent (.emptied id fenceFd none false) hb rfl
              (fun _ => Iff.rfl) rfl rfl
          · exact hclose _ _ (hback id fenceFd (some none) false)
          · rename_i buffer hfind
            split
            · exact hfence _ _ _ (hback id fenceFd (some (some buffer)) true)
            · apply hclose
              apply hunhold
              · apply List.mem_append_left
                rw [mem_submittedAt]
                exact (KeyedVector.find_eq_some _ _ _).mp hfind
              · exact hback id fenceFd (some (some buffer)) false
      | release =>
          exact hevent .released hb rfl (fun _ => mem_holders_clearCodecBuffers)
            rfl rfl
      | _ => exact hb

end Buffers

end Bqhelper
end Sm7225
