import Sm7225.Bqhelper.Memory

/-!
# The buffer cache

A cached buffer is cached exactly while it is the entry of its own slot.
-/

namespace Sm7225
namespace Bqhelper

open Lib

namespace Buffers

variable {b b' : Buffers}

def Known (b : Buffers) (c : CachedBuffer) : Prop :=
  (exists slot, (slot, c) ∈ b.mBufferSlots.entries) ∨
    exists a, a ∈ acquiredFrames b.log ∧ a.mBuffer = c

/-!
# The invariant

A slot may be populated and discarded many times while frames of its old buffers are
still held, so the invariant is about all buffers that a slot or a frame knows.  Each
has its own number, and the flag that says that a buffer has left the cache is set for
good.
-/

structure Slots (b : Buffers) : Prop where
  ids : forall c, Known b c -> c.id < b.nextId
  droppedIds : forall i, i ∈ b.droppedFromCache -> i < b.nextId
  discardedIds : forall c, .discarded c ∈ b.log -> c.id < b.nextId
  unique : forall c c', Known b c -> Known b c' -> c.id = c'.id -> c = c'
  entries : forall slot c, (slot, c) ∈ b.mBufferSlots.entries ->
    c.mSlot = slot ∧ b.isCached c = true
  cached : forall c, Known b c -> b.isCached c = true ->
    (c.mSlot, c) ∈ b.mBufferSlots.entries
  discarded : forall c, Known b c ->
    (b.isCached c = false <-> .discarded c ∈ b.log)
  items : forall bi a, .acquired bi a ∈ b.log ->
    a.mBuffer.mSlot = bi.mSlot ∧ a.frameNum = bi.mFrameNumber

theorem isCached_iff {c : CachedBuffer} :
    b.isCached c = true <-> c.id ∉ b.droppedFromCache := by
  unfold isCached
  simp

theorem acquired_of_mem {log : List Event} {a : AcquiredBuffer}
    (h : a ∈ acquiredFrames log) : exists bi, .acquired bi a ∈ log := by
  rcases List.mem_filterMap.mp h with ⟨e, he, hframe⟩
  cases e with
  | acquired bi a' =>
      cases hframe
      exact ⟨bi, he⟩
  | _ => cases hframe

theorem Slots.of_tail (h : Slots b) {tail : List Event}
    (hlog : b'.log = b.log ++ tail)
    (htail : forall e, e ∈ tail -> e.acquiredBuffer? = none ∧
      forall c, e ≠ .discarded c)
    (hslots : b'.mBufferSlots = b.mBufferSlots)
    (hdropped : b'.droppedFromCache = b.droppedFromCache)
    (hnext : b'.nextId = b.nextId) : Slots b' := by
  have hframes : acquiredFrames b'.log = acquiredFrames b.log := by
    unfold acquiredFrames
    rw [hlog]
    exact filterMap_append_of_silent (fun e he => (htail e he).1) _
  have hknown : forall c, Known b' c <-> Known b c := by
    intro c
    unfold Known
    rw [hframes, hslots]
  have hcached : forall c, b'.isCached c = b.isCached c := by
    intro c
    unfold isCached
    rw [hdropped]
  constructor
  · intro c hc
    rw [hnext]
    exact h.ids c ((hknown c).mp hc)
  · intro i hi
    rw [hdropped] at hi
    rw [hnext]
    exact h.droppedIds i hi
  · intro c hc
    rw [hlog] at hc
    rw [hnext]
    rcases List.mem_append.mp hc with hc | hc
    · exact h.discardedIds c hc
    · exact absurd rfl ((htail _ hc).2 c)
  · intro c c' hc hc'
    exact h.unique c c' ((hknown c).mp hc) ((hknown c').mp hc')
  · intro slot c hc
    rw [hslots] at hc
    rw [hcached]
    exact h.entries slot c hc
  · intro c hc
    rw [hcached, hslots]
    exact h.cached c ((hknown c).mp hc)
  · intro c hc
    rw [hcached, hlog, List.mem_append, h.discarded c ((hknown c).mp hc)]
    constructor
    · exact Or.inl
    · intro hmem
      rcases hmem with hmem | hmem
      · exact hmem
      · exact absurd rfl ((htail _ hmem).2 c)
  · intro bi a hmem
    rw [hlog] at hmem
    rcases List.mem_append.mp hmem with hmem | hmem
    · exact h.items bi a hmem
    · cases (htail _ hmem).1

theorem Slots.moves (h : Slots b) {tail : List Event}
    (hmoves : MovesReferences b b' tail) : Slots b' := by
  apply h.of_tail hmoves.log ?_ hmoves.slots hmoves.dropped hmoves.nextId
  intro e he
  have hsilent := hmoves.silent e he
  cases e <;> first | cases hsilent; done | exact ⟨rfl, fun c hc => by cases hc⟩

theorem Slots.unhold (h : Slots b) (a : AcquiredBuffer) :
    Slots (b.unhold a) := by
  rcases unhold_log b a with ⟨tail, hlog, htail⟩
  apply h.of_tail hlog
  · intro e he
    have hends := htail e he
    cases e <;> first | cases hends; done | exact ⟨rfl, fun c hc => by cases hc⟩
  · exact unhold_slots b a
  · exact unhold_dropped b a
  · exact unhold_nextId b a

theorem Slots.addReleaseFenceFd (h : Slots b) (a : AcquiredBuffer)
    (fenceFd : Int) : Slots (b.addReleaseFenceFd a fenceFd) :=
  h.of_tail (List.append_nil _).symm
    (fun _ he => absurd he List.not_mem_nil) rfl rfl rfl

/-!
# Steps

A discarded slot loses its entry and its buffer the flag at once.  A populated one gets
a buffer with a new number.
-/

theorem Slots.isCached_discardSlot (h : Slots b) (slot : SlotId) {c c' : CachedBuffer}
    (hc : Known b c) (hc' : Known b c') :
    ((b.dropFromCache c).removeSlot slot).isCached c' = true <->
      c' ≠ c ∧ b.isCached c' = true := by
  rw [isCached_iff, isCached_iff]
  show c'.id ∉ c.id :: b.droppedFromCache <-> _
  rw [List.mem_cons, not_or]
  constructor
  · intro hnot
    refine ⟨?_, hnot.2⟩
    intro heq
    exact hnot.1 (congrArg CachedBuffer.id heq)
  · intro hnot
    refine ⟨?_, hnot.2⟩
    intro heq
    exact hnot.1 (h.unique c' c hc' hc heq)

theorem Slots.discardSlot (h : Slots b) {slot : SlotId} {c : CachedBuffer}
    (hslot : b.mBufferSlots.find? slot = some c) :
    Slots ((b.dropFromCache c).removeSlot slot) := by
  have hentry := (KeyedVector.find_eq_some _ _ _).mp hslot
  have hcKnown : Known b c := Or.inl ⟨slot, hentry⟩
  have hframes : acquiredFrames ((b.dropFromCache c).removeSlot slot).log =
      acquiredFrames b.log :=
    filterMap_snoc_of_none (f := Event.acquiredBuffer?) rfl _
  have hmem : forall p, p ∈ ((b.dropFromCache c).removeSlot
      slot).mBufferSlots.entries <-> p ∈ b.mBufferSlots.entries ∧ p.1 ≠ slot :=
    KeyedVector.mem_remove b.mBufferSlots slot
  have hknown : forall c', Known ((b.dropFromCache c).removeSlot slot) c' ->
      Known b c' := by
    intro c' hc'
    rcases hc' with ⟨slot', hslot'⟩ | ⟨a, ha, hbuffer⟩
    · exact Or.inl ⟨slot', ((hmem _).mp hslot').1⟩
    · rw [hframes] at ha
      exact Or.inr ⟨a, ha, hbuffer⟩
  have hcached : forall c', Known b c' ->
      (((b.dropFromCache c).removeSlot slot).isCached c' = true <->
        c' ≠ c ∧ b.isCached c' = true) :=
    fun _ hc' => h.isCached_discardSlot slot hcKnown hc'
  constructor
  · intro c' hc'
    exact h.ids c' (hknown c' hc')
  · intro i hi
    rcases List.mem_cons.mp hi with hi | hi
    · rw [hi]
      exact h.ids c hcKnown
    · exact h.droppedIds i hi
  · intro c' hc'
    rcases List.mem_append.mp hc' with hc' | hc'
    · exact h.discardedIds c' hc'
    · injection List.mem_singleton.mp hc' with heq
      rw [heq]
      exact h.ids c hcKnown
  · intro c' c'' hc' hc''
    exact h.unique c' c'' (hknown c' hc') (hknown c'' hc'')
  · intro slot' c' hc'
    have hold := (hmem _).mp hc'
    have hentries := h.entries slot' c' hold.1
    refine ⟨hentries.1, (hcached c' (hknown c' (Or.inl ⟨slot', hc'⟩))).mpr
      ⟨?_, hentries.2⟩⟩
    intro heq
    rw [heq] at hentries
    exact hold.2 (hentries.1.symm.trans (h.entries slot c hentry).1)
  · intro c' hc' hnew
    have hboth := (hcached c' (hknown c' hc')).mp hnew
    have hold := h.cached c' (hknown c' hc') hboth.2
    apply (hmem _).mpr
    refine ⟨hold, ?_⟩
    intro heq
    have heq' : c'.mSlot = slot := heq
    rw [heq'] at hold
    exact hboth.1 (KeyedVector.value_unique _ hold hentry)
  · intro c' hc'
    have hnew := hcached c' (hknown c' hc')
    have hold := h.discarded c' (hknown c' hc')
    show _ <-> .discarded c' ∈ b.log ++ [.discarded c]
    rw [List.mem_append, List.mem_singleton, ← hold, Event.discarded.injEq,
      ← Bool.not_eq_true, ← Bool.not_eq_true, hnew]
    tauto
  · intro bi a hmem
    rcases List.mem_append.mp hmem with hmem | hmem
    · exact h.items bi a hmem
    · cases List.mem_singleton.mp hmem

theorem Slots.populateSlot (h : Slots b) {slot : SlotId}
    (hslot : b.mBufferSlots.find? slot = none) (gb : GraphicBuffer) :
    Slots (b.cache slot gb) := by
  have hmem : forall p, p ∈ (b.cache slot gb).mBufferSlots.entries <->
      p = (slot, { id := b.nextId, mSlot := slot, mGraphicBuffer := gb }) ∨
        p ∈ b.mBufferSlots.entries ∧ p.1 ≠ slot :=
    KeyedVector.mem_add b.mBufferSlots slot _
  have hknown : forall c, Known (b.cache slot gb) c ->
      c = { id := b.nextId, mSlot := slot, mGraphicBuffer := gb } ∨
        Known b c := by
    intro c hc
    rcases hc with ⟨slot', hslot'⟩ | hframe
    · rcases (hmem _).mp hslot' with heq | hold
      · exact Or.inl (congrArg Prod.snd heq)
      · exact Or.inr (Or.inl ⟨slot', hold.1⟩)
    · exact Or.inr (Or.inr hframe)
  have hnewCached : b.nextId ∉ b.droppedFromCache := by
    intro hdropped
    exact lt_irrefl b.nextId (h.droppedIds _ hdropped)
  constructor
  · intro c hc
    show c.id < b.nextId + 1
    rcases hknown c hc with heq | hold
    · rw [heq]
      exact Nat.lt_succ_self b.nextId
    · exact Nat.lt_succ_of_lt (h.ids c hold)
  · intro i hi
    exact Nat.lt_succ_of_lt (h.droppedIds i hi)
  · intro c hc
    exact Nat.lt_succ_of_lt (h.discardedIds c hc)
  · intro c c' hc hc' heq
    rcases hknown c hc with hnew | hold
    · rcases hknown c' hc' with hnew' | hold'
      · rw [hnew, hnew']
      · have hlt := h.ids c' hold'
        rw [← heq, hnew] at hlt
        exact absurd hlt (lt_irrefl b.nextId)
    · rcases hknown c' hc' with hnew' | hold'
      · have hlt := h.ids c hold
        rw [heq, hnew'] at hlt
        exact absurd hlt (lt_irrefl b.nextId)
      · exact h.unique c c' hold hold' heq
  · intro slot' c hc
    rcases (hmem _).mp hc with heq | hold
    · injection heq with hslot' hbuffer
      rw [hslot', hbuffer]
      exact ⟨rfl, isCached_iff.mpr hnewCached⟩
    · exact h.entries slot' c hold.1
  · intro c hc hcached
    rcases hknown c hc with heq | hold
    · rw [heq]
      exact (hmem _).mpr (Or.inl rfl)
    · have hentry := h.cached c hold hcached
      apply (hmem _).mpr
      refine Or.inr ⟨hentry, ?_⟩
      intro heq
      have heq' : c.mSlot = slot := heq
      rw [heq'] at hentry
      exact (KeyedVector.find_eq_none _ _).mp hslot c hentry
  · intro c hc
    rcases hknown c hc with heq | hold
    · constructor
      · intro hnot
        rw [heq] at hnot
        have hyes := isCached_iff (b := b.cache slot gb)
          (c := { id := b.nextId, mSlot := slot, mGraphicBuffer := gb })
        rw [hyes.mpr hnewCached] at hnot
        cases hnot
      · intro hdiscarded
        rw [heq] at hdiscarded
        exact absurd (h.discardedIds _ hdiscarded) (lt_irrefl b.nextId)
    · exact h.discarded c hold
  · exact h.items

theorem Slots.acquire (h : Slots b) {bi : BufferItem} {c : CachedBuffer}
    (hslot : b.mBufferSlots.find? bi.mSlot = some c) :
    Slots (b.dequeue.acquire c bi) := by
  have hentry := (KeyedVector.find_eq_some _ _ _).mp hslot
  have hframes := acquiredFrames_acquire b.dequeue c bi
  have hknown : forall c', Known (b.dequeue.acquire c bi) c' -> Known b c' := by
    intro c' hc'
    rcases hc' with hslot' | ⟨a, ha, hbuffer⟩
    · exact Or.inl hslot'
    · rw [hframes] at ha
      rcases List.mem_append.mp ha with ha | ha
      · exact Or.inr ⟨a, ha, hbuffer⟩
      · rw [List.mem_singleton.mp ha] at hbuffer
        rw [← hbuffer]
        exact Or.inl ⟨bi.mSlot, hentry⟩
  have hlog : forall e, e ∈ (b.dequeue.acquire c bi).log ->
      e ∈ b.log ∨ e = .acquired bi (b.newAcquired c bi) := by
    intro e he
    rcases List.mem_append.mp he with he | he
    · exact Or.inl he
    · exact Or.inr (List.mem_singleton.mp he)
  constructor
  · intro c' hc'
    exact Nat.lt_succ_of_lt (h.ids c' (hknown c' hc'))
  · intro i hi
    exact Nat.lt_succ_of_lt (h.droppedIds i hi)
  · intro c' hc'
    rcases hlog _ hc' with hold | hnew
    · exact Nat.lt_succ_of_lt (h.discardedIds c' hold)
    · cases hnew
  · intro c' c'' hc' hc''
    exact h.unique c' c'' (hknown c' hc') (hknown c'' hc'')
  · exact h.entries
  · intro c' hc'
    exact h.cached c' (hknown c' hc')
  · intro c' hc'
    have hold := h.discarded c' (hknown c' hc')
    constructor
    · intro hcached
      exact List.mem_append_left _ (hold.mp hcached)
    · intro hmem
      rcases hlog _ hmem with hmem | hnew
      · exact hold.mpr hmem
      · cases hnew
  · intro bi' a hmem
    rcases hlog _ hmem with hold | hnew
    · exact h.items bi' a hold
    · injection hnew with hitem hbuffer
      rw [hitem, hbuffer]
      exact ⟨(h.entries bi.mSlot c hentry).1, rfl⟩

theorem slots_step (hstep : Step b b') (h : Slots b) : Slots b' := by
  rcases step_memory hstep with ⟨tail, hmoves, _⟩ | ⟨a, _, rfl⟩ |
    ⟨slot, c, hslot, rfl⟩ | ⟨slot, gb, hslot, rfl⟩ | ⟨bi, c, hslot, rfl⟩
  · exact h.moves hmoves
  · exact h.unhold a
  · exact h.discardSlot hslot
  · exact h.populateSlot hslot gb
  · exact h.acquire hslot

theorem slots_initial : Slots GraphicBufferSource.initial.toBuffers := by
  have hknown : forall c, ¬Known GraphicBufferSource.initial.toBuffers c := by
    intro c hc
    rcases hc with ⟨slot, hslot⟩ | ⟨a, ha, _⟩
    · cases hslot
    · cases ha
  constructor
  · intro c hc
    exact absurd hc (hknown c)
  · intro i hi
    cases hi
  · intro c hc
    cases hc
  · intro c c' hc
    exact absurd hc (hknown c)
  · intro slot c hc
    cases hc
  · intro c hc
    exact absurd hc (hknown c)
  · intro c hc
    exact absurd hc (hknown c)
  · intro bi a hmem
    cases hmem

end Buffers

end Bqhelper
end Sm7225
