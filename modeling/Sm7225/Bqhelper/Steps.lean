import Mathlib.Logic.Relation
import Sm7225.Lib.History
import Sm7225.Bqhelper.Source

/-!
# Steps of the frames and the memory

Whatever a function of the class does, it changes the frames and the memory by a
sequence of the steps below.  Each constructor carries the guard under which the
source takes the step.  An invariant of the buffers is proved once for each
constructor, and holds of every function by induction on the sequence.
-/

namespace Sm7225
namespace Bqhelper

open Lib

/-!
# Reading the log
-/

namespace Event

def acquiredBuffer? : Event -> Option AcquiredBuffer
  | .acquired _ a => some a
  | _ => none

def freshFrame? : Event -> Option AcquiredBuffer
  | .submitBuffer _ item .fresh _ _ _ => some item.mBuffer
  | _ => none

def isNeutral : Event -> Bool
  | .setMaxAcquiredBufferCount _ => true
  | .setDefaultBufferSize _ _ => true
  | .setConsumerUsageBits _ => true
  | .setDefaultBufferFormat _ => true
  | .setDefaultBufferDataSpace _ => true
  | .dispatchDataSpaceChanged _ _ _ => true
  | .dropped _ => true
  | .repeatPosted _ _ => true
  | .configured => true
  | _ => false

def ofQueue : Event -> Bool
  | .acquired _ _ => true
  | .queued _ => true
  | .frameAvailable => true
  | _ => false

def endsLife : Event -> Bool
  | .destroyed _ => true
  | .newFence _ => true
  | .closed _ => true
  | .releaseBuffer _ _ _ _ => true
  | _ => false

end Event

/-- The frames acquired so far, oldest first. -/
def acquiredFrames (log : List Event) : List AcquiredBuffer :=
  log.filterMap Event.acquiredBuffer?

/-- The frames submitted for the first time so far, oldest first. -/
def freshFrames (log : List Event) : List AcquiredBuffer :=
  log.filterMap Event.freshFrame?

namespace Buffers

/-!
# The effect of letting go of a reference
-/

theorem lastCalls_endsLife (b : Buffers) (l : LiveBuffer) (e : Event)
    (h : e ∈ b.lastCalls l) : e.endsLife = true := by
  unfold lastCalls at h
  split at h
  · split at h
    · rcases List.mem_append.mp h with h | h
      · rcases List.mem_map.mp h with ⟨fd, _, rfl⟩
        rfl
      · rw [List.mem_singleton.mp h]
        rfl
    · rcases List.mem_cons.mp h with h | h
      · rw [h]
        rfl
      · rcases List.mem_map.mp h with ⟨fd, _, rfl⟩
        rfl
  · rcases List.mem_map.mp h with ⟨fd, _, rfl⟩
    rfl

theorem destroyed_endsLife (b : Buffers) (l : LiveBuffer) (e : Event)
    (h : e ∈ Event.destroyed l.ptr :: b.lastCalls l) : e.endsLife = true := by
  rcases List.mem_cons.mp h with h | h
  · rw [h]
    rfl
  · exact lastCalls_endsLife b l e h

theorem unhold_cases (b : Buffers) (a : AcquiredBuffer) :
    (b.unhold a = b.forget a ∧
      (a ∈ (b.forget a).holders ∨ forall l, l ∈ b.live -> l.ptr ≠ a)) ∨
    exists l, l ∈ b.live ∧ l.ptr = a ∧ a ∉ (b.forget a).holders ∧
      b.unhold a = (b.forget a).destroy l := by
  unfold unhold
  by_cases hheld : a ∈ (b.forget a).holders
  · left
    simp [hheld]
  · simp only [hheld, if_false]
    cases hfind : b.live.find? (fun l => l.ptr = a) with
    | none =>
        left
        refine ⟨rfl, Or.inr ?_⟩
        intro l hl
        simpa using List.find?_eq_none.mp hfind l hl
    | some l =>
        right
        have hptr : l.ptr = a := by simpa using List.find?_some hfind
        exact ⟨l, List.mem_of_find?_eq_some hfind, hptr, not_false, rfl⟩

@[simp] theorem unhold_toFrames (b : Buffers) (a : AcquiredBuffer) :
    (b.unhold a).toFrames = b.toFrames := by
  rcases unhold_cases b a with ⟨h, _⟩ | ⟨l, _, _, _, h⟩
  · rw [h]
    rfl
  · rw [h]
    rfl

@[simp] theorem unhold_locals (b : Buffers) (a : AcquiredBuffer) :
    (b.unhold a).locals = b.locals.erase a := by
  rcases unhold_cases b a with ⟨h, _⟩ | ⟨l, _, _, _, h⟩
  · rw [h]
    rfl
  · rw [h]
    rfl

@[simp] theorem unhold_nextId (b : Buffers) (a : AcquiredBuffer) :
    (b.unhold a).nextId = b.nextId := by
  rcases unhold_cases b a with ⟨h, _⟩ | ⟨l, _, _, _, h⟩
  · rw [h]
    rfl
  · rw [h]
    rfl

theorem unhold_slots (b : Buffers) (a : AcquiredBuffer) :
    (b.unhold a).mBufferSlots = b.mBufferSlots := by
  rcases unhold_cases b a with ⟨h, _⟩ | ⟨l, _, _, _, h⟩
  · rw [h]
    rfl
  · rw [h]
    rfl

theorem unhold_dropped (b : Buffers) (a : AcquiredBuffer) :
    (b.unhold a).droppedFromCache = b.droppedFromCache := by
  rcases unhold_cases b a with ⟨h, _⟩ | ⟨l, _, _, _, h⟩
  · rw [h]
    rfl
  · rw [h]
    rfl

theorem unhold_log (b : Buffers) (a : AcquiredBuffer) :
    exists tail, (b.unhold a).log = b.log ++ tail ∧
      forall e, e ∈ tail -> e.endsLife = true := by
  rcases unhold_cases b a with ⟨h, _⟩ | ⟨l, _, _, _, h⟩
  · rw [h]
    exact ⟨[], (List.append_nil _).symm, by simp⟩
  · rw [h]
    exact ⟨_, rfl, fun e he => destroyed_endsLife _ l e he⟩

@[simp] theorem unholdAll_toFrames (b : Buffers) (as : List AcquiredBuffer) :
    (b.unholdAll as).toFrames = b.toFrames := by
  induction as generalizing b with
  | nil => rfl
  | cons a as ih => exact (ih (b.unhold a)).trans (unhold_toFrames b a)

theorem unholdAll_slots (b : Buffers) (as : List AcquiredBuffer) :
    (b.unholdAll as).mBufferSlots = b.mBufferSlots := by
  induction as generalizing b with
  | nil => rfl
  | cons a as ih => exact (ih (b.unhold a)).trans (unhold_slots b a)

theorem unholdAll_log (b : Buffers) (as : List AcquiredBuffer) :
    exists tail, (b.unholdAll as).log = b.log ++ tail ∧
      forall e, e ∈ tail -> e.endsLife = true := by
  induction as generalizing b with
  | nil => exact ⟨[], (List.append_nil _).symm, by simp⟩
  | cons a as ih =>
      rcases unhold_log b a with ⟨tail, hlog, htail⟩
      rcases ih (b.unhold a) with ⟨tail', hlog', htail'⟩
      refine ⟨tail ++ tail', ?_, ?_⟩
      · show ((b.unhold a).unholdAll as).log = _
        rw [hlog', hlog, List.append_assoc]
      · intro e he
        rcases List.mem_append.mp he with he | he
        · exact htail e he
        · exact htail' e he

theorem filterMap_log_unhold {γ : Type} {f : Event -> Option γ}
    (hf : forall e, e.endsLife = true -> f e = none)
    (b : Buffers) (a : AcquiredBuffer) :
    (b.unhold a).log.filterMap f = b.log.filterMap f := by
  rcases unhold_log b a with ⟨tail, hlog, htail⟩
  rw [hlog]
  exact filterMap_append_of_silent (fun e he => hf e (htail e he)) b.log

/-!
# Steps
-/

def InOrder (b : Buffers) (waiting : List AcquiredBuffer) : Prop :=
  (freshFrames b.log ++ waiting).Sublist (acquiredFrames b.log)

def available (b : Buffers) : List AcquiredBuffer :=
  b.mAvailableBuffers.map VideoBuffer.mBuffer

inductive Step : Buffers -> Buffers -> Prop where
  | note {b : Buffers} (e : Event) (he : e.isNeutral = true) : Step b (b.note e)
  | unhold {b : Buffers} (a : AcquiredBuffer) (ha : a ∈ b.locals) :
      Step b (b.unhold a)
  | takeAvailable {b : Buffers} : Step b b.takeAvailable
  | pushAvailable {b : Buffers} (item : VideoBuffer)
      (hheld : item.mBuffer ∈ b.holders)
      (horder : b.InOrder (b.available ++ [item.mBuffer])) :
      Step b (b.pushAvailable item)
  | clearAvailable {b : Buffers} : Step b b.clearAvailable
  | setLatest {b : Buffers} (item : Option VideoBuffer)
      (hheld : forall v, item = some v -> v.mBuffer ∈ b.holders) :
      Step b (b.setLatest item)
  | retimeLatest {b : Buffers} (deltaNs : Int) : Step b (b.retimeLatest deltaNs)
  | submitFailed {b : Buffers} (id : CodecBufferId) (item : VideoBuffer)
      (origin : Origin) (codecTimeUs : Int) (err : Status) (herr : err ≠ .ok)
      (hfree : b.mFreeCodecBuffers.head? = some id)
      (hheld : item.mBuffer ∈ b.holders)
      (horder : origin = .fresh -> b.InOrder (item.mBuffer :: b.available)) :
      Step b (b.note (.submitBuffer id item origin codecTimeUs
        item.mBuffer.getAcquireFenceFd err))
  | submitted {b : Buffers} (id : CodecBufferId) (item : VideoBuffer)
      (origin : Origin) (codecTimeUs : Int)
      (hfree : b.mFreeCodecBuffers.head? = some id)
      (hheld : item.mBuffer ∈ b.holders)
      (horder : origin = .fresh -> b.InOrder (item.mBuffer :: b.available)) :
      Step b ((b.note (.submitBuffer id item origin codecTimeUs
        item.mBuffer.getAcquireFenceFd .ok)).submit id (some item.mBuffer))
  | eosFailed {b : Buffers} (id : CodecBufferId) (err : Status)
      (herr : err ≠ .ok) (hfree : b.mFreeCodecBuffers.head? = some id) :
      Step b (b.note (.submitEos id err))
  | eosSubmitted {b : Buffers} (id : CodecBufferId)
      (hfree : b.mFreeCodecBuffers.head? = some id) :
      Step b ((b.note (.submitEos id .ok)).submit id none)
  | acquireFailed {b : Buffers} (err : Status)
      (hnum : 0 < b.mNumAvailableUnacquiredBuffers) :
      Step b (b.note (.acquireFailed err (!b.queue.isEmpty)))
  | discardSlot {b : Buffers} (slot : SlotId) (c : CachedBuffer)
      (hslot : b.mBufferSlots.find? slot = some c) :
      Step b ((b.dropFromCache c).removeSlot slot)
  | populateSlot {b : Buffers} (slot : SlotId) (gb : GraphicBuffer)
      (hslot : b.mBufferSlots.find? slot = none) : Step b (b.cache slot gb)
  | acquire {b : Buffers} (bi : BufferItem) (c : CachedBuffer)
      (hqueue : b.queue.head? = some bi)
      (hnum : 0 < b.mNumAvailableUnacquiredBuffers)
      (hslot : b.mBufferSlots.find? bi.mSlot = some c) :
      Step b (b.dequeue.acquire c bi)

abbrev Steps : Buffers -> Buffers -> Prop := Relation.ReflTransGen Step

theorem steps_keep {P : Buffers -> Prop}
    (hstep : forall b b', Step b b' -> P b -> P b') {b b' : Buffers}
    (h : Steps b b') (hb : P b) : P b' := by
  induction h with
  | refl => exact hb
  | tail _ hlast ih => exact hstep _ _ hlast ih

theorem step_log_grows {b b' : Buffers} (h : Step b b') :
    b.log <+: b'.log := by
  cases h with
  | unhold a ha =>
      rcases unhold_log b a with ⟨tail, hlog, _⟩
      rw [hlog]
      exact List.prefix_append _ _
  | takeAvailable =>
      unfold Buffers.takeAvailable
      split
      · exact List.prefix_rfl
      · exact List.prefix_rfl
  | note e he => exact List.prefix_append _ _
  | submitFailed => exact List.prefix_append _ _
  | submitted => exact List.prefix_append _ _
  | eosFailed => exact List.prefix_append _ _
  | acquireFailed => exact List.prefix_append _ _
  | eosSubmitted => exact List.prefix_append _ _
  | discardSlot => exact List.prefix_append _ _
  | populateSlot => exact List.prefix_rfl
  | acquire => exact List.prefix_append _ _
  | pushAvailable => exact List.prefix_rfl
  | clearAvailable => exact List.prefix_rfl
  | setLatest => exact List.prefix_rfl
  | retimeLatest => exact List.prefix_rfl

/-!
# Steps and the queue
-/

theorem ofQueue_neutral (e : Event) (h : e.isNeutral = true) :
    e.ofQueue = false := by
  cases e <;> first | rfl | cases h

theorem ofQueue_endsLife (e : Event) (h : e.endsLife = true) :
    e.ofQueue = false := by
  cases e <;> first | rfl | cases h

structure LeavesQueue (b b' : Buffers) (tail : List Event) : Prop where
  log : b'.log = b.log ++ tail
  queue : b'.queue = b.queue
  num : b'.mNumAvailableUnacquiredBuffers = b.mNumAvailableUnacquiredBuffers
  nextId : b.nextId <= b'.nextId
  silent : forall e, e ∈ tail -> e.ofQueue = false
  failed : forall err waiting, .acquireFailed err waiting ∈ tail ->
    0 < b.mNumAvailableUnacquiredBuffers ∧ waiting = !b.queue.isEmpty

theorem leavesQueue_nil {b b' : Buffers} (hlog : b'.log = b.log)
    (hqueue : b'.queue = b.queue)
    (hnum : b'.mNumAvailableUnacquiredBuffers = b.mNumAvailableUnacquiredBuffers)
    (hnext : b.nextId <= b'.nextId) : LeavesQueue b b' [] := by
  constructor
  · rw [hlog, List.append_nil]
  · exact hqueue
  · exact hnum
  · exact hnext
  · intro e he
    cases he
  · intro err waiting hmem
    cases hmem

theorem leavesQueue_event {b b' : Buffers} {e : Event}
    (hlog : b'.log = b.log ++ [e]) (hqueue : b'.queue = b.queue)
    (hnum : b'.mNumAvailableUnacquiredBuffers = b.mNumAvailableUnacquiredBuffers)
    (hnext : b'.nextId = b.nextId) (he : e.ofQueue = false)
    (hfailed : forall err waiting, e ≠ .acquireFailed err waiting) :
    LeavesQueue b b' [e] := by
  constructor
  · exact hlog
  · exact hqueue
  · exact hnum
  · exact le_of_eq hnext.symm
  · intro e' he'
    rw [List.mem_singleton.mp he']
    exact he
  · intro err waiting hmem
    exact absurd (List.mem_singleton.mp hmem).symm (hfailed err waiting)

theorem leavesQueue_unhold (b : Buffers) (a : AcquiredBuffer) :
    exists tail, LeavesQueue b (b.unhold a) tail := by
  rcases unhold_log b a with ⟨tail, hlog, htail⟩
  have hframes := unhold_toFrames b a
  exists tail
  constructor
  · exact hlog
  · rw [hframes]
  · rw [hframes]
  · rw [unhold_nextId]
  · intro e he
    exact ofQueue_endsLife e (htail e he)
  · intro err waiting hmem
    cases htail _ hmem

theorem step_queue {b b' : Buffers} (h : Step b b') :
    (exists bi c, b.queue.head? = some bi ∧
      b.mBufferSlots.find? bi.mSlot = some c ∧ b' = b.dequeue.acquire c bi) ∨
    exists tail, LeavesQueue b b' tail := by
  cases h with
  | acquire bi c hqueue hnum hslot =>
      exact Or.inl ⟨bi, c, hqueue, hslot, rfl⟩
  | note e he =>
      right
      refine ⟨[e], leavesQueue_event rfl rfl rfl rfl (ofQueue_neutral e he) ?_⟩
      intro err waiting heq
      rw [heq] at he
      cases he
  | unhold a ha => exact Or.inr (leavesQueue_unhold b a)
  | takeAvailable =>
      right
      exists []
      unfold Buffers.takeAvailable
      split
      · exact leavesQueue_nil rfl rfl rfl (le_refl _)
      · exact leavesQueue_nil rfl rfl rfl (le_refl _)
  | pushAvailable item hheld horder =>
      exact Or.inr ⟨[], leavesQueue_nil rfl rfl rfl (le_refl _)⟩
  | clearAvailable =>
      exact Or.inr ⟨[], leavesQueue_nil rfl rfl rfl (le_refl _)⟩
  | setLatest item hheld =>
      exact Or.inr ⟨[], leavesQueue_nil rfl rfl rfl (le_refl _)⟩
  | retimeLatest deltaNs =>
      exact Or.inr ⟨[], leavesQueue_nil rfl rfl rfl (le_refl _)⟩
  | submitFailed id item origin codecTimeUs err herr hfree hheld horder =>
      exact Or.inr ⟨_, leavesQueue_event rfl rfl rfl rfl rfl (by simp)⟩
  | submitted id item origin codecTimeUs hfree hheld horder =>
      exact Or.inr ⟨_, leavesQueue_event rfl rfl rfl rfl rfl (by simp)⟩
  | eosFailed id err herr hfree =>
      exact Or.inr ⟨_, leavesQueue_event rfl rfl rfl rfl rfl (by simp)⟩
  | eosSubmitted id hfree =>
      exact Or.inr ⟨_, leavesQueue_event rfl rfl rfl rfl rfl (by simp)⟩
  | acquireFailed err hnum =>
      right
      exists [.acquireFailed err (!b.queue.isEmpty)]
      constructor
      · rfl
      · rfl
      · rfl
      · exact le_refl _
      · intro e he
        rw [List.mem_singleton.mp he]
        rfl
      · intro err' waiting hmem
        injection List.mem_singleton.mp hmem with _ hwaiting
        exact ⟨hnum, hwaiting⟩
  | discardSlot slot c hslot =>
      exact Or.inr ⟨_, leavesQueue_event rfl rfl rfl rfl rfl (by simp)⟩
  | populateSlot slot gb hslot =>
      exact Or.inr ⟨[], leavesQueue_nil rfl rfl rfl (Nat.le_succ _)⟩

/-!
# The names of frames
-/

structure Named (b : Buffers) : Prop where
  ids : forall a, a ∈ acquiredFrames b.log -> a.id < b.nextId
  distinct : (acquiredFrames b.log).Nodup

theorem acquiredFrames_append {log tail : List Event}
    (htail : forall e, e ∈ tail -> e.ofQueue = false) :
    acquiredFrames (log ++ tail) = acquiredFrames log := by
  apply filterMap_append_of_silent
  intro e he
  have hsilent := htail e he
  cases e <;> first | rfl | cases hsilent

theorem acquiredFrames_acquire (b : Buffers) (c : CachedBuffer)
    (bi : BufferItem) :
    acquiredFrames (b.acquire c bi).log =
      acquiredFrames b.log ++ [b.newAcquired c bi] :=
  filterMap_snoc_of_some (f := Event.acquiredBuffer?) rfl _

theorem Named.of_tail {b b' : Buffers} (h : Named b) {tail : List Event}
    (hlog : b'.log = b.log ++ tail)
    (htail : forall e, e ∈ tail -> e.ofQueue = false)
    (hnext : b.nextId <= b'.nextId) : Named b' := by
  have hframes : acquiredFrames b'.log = acquiredFrames b.log := by
    rw [hlog]
    exact acquiredFrames_append htail
  constructor
  · intro a ha
    rw [hframes] at ha
    exact lt_of_lt_of_le (h.ids a ha) hnext
  · rw [hframes]
    exact h.distinct

theorem Named.newAcquired_not_mem {b : Buffers} (h : Named b) (c : CachedBuffer)
    (bi : BufferItem) : b.newAcquired c bi ∉ acquiredFrames b.log := by
  intro hmem
  exact lt_irrefl b.nextId (h.ids _ hmem)

theorem named_step {b b' : Buffers} (hstep : Step b b') (h : Named b) :
    Named b' := by
  rcases step_queue hstep with ⟨bi, c, _, _, rfl⟩ | ⟨tail, hquiet⟩
  · have hframes := acquiredFrames_acquire b.dequeue c bi
    constructor
    · intro a ha
      rw [hframes] at ha
      show a.id < b.nextId + 1
      rcases List.mem_append.mp ha with ha | ha
      · exact Nat.lt_succ_of_lt (h.ids a ha)
      · rw [List.mem_singleton.mp ha]
        exact Nat.lt_succ_self b.nextId
    · rw [hframes]
      exact List.nodup_append_comm.mp
        (List.nodup_cons.mpr ⟨h.newAcquired_not_mem c bi, h.distinct⟩)
  · exact h.of_tail hquiet.log hquiet.silent hquiet.nextId

/-!
# What every function relies on
-/

structure Sound (b : Buffers) : Prop where
  num : 0 <= b.mNumAvailableUnacquiredBuffers
  order : b.InOrder b.available

theorem acquiredBuffer_endsLife (e : Event) (h : e.endsLife = true) :
    e.acquiredBuffer? = none := by
  cases e <;> first | rfl | cases h

theorem freshFrame_endsLife (e : Event) (h : e.endsLife = true) :
    e.freshFrame? = none := by
  cases e <;> first | rfl | cases h

theorem acquiredBuffer_neutral (e : Event) (h : e.isNeutral = true) :
    e.acquiredBuffer? = none := by
  cases e <;> first | rfl | cases h

theorem freshFrame_neutral (e : Event) (h : e.isNeutral = true) :
    e.freshFrame? = none := by
  cases e <;> first | rfl | cases h

theorem inOrder_unhold (b : Buffers) (a : AcquiredBuffer)
    (waiting : List AcquiredBuffer) :
    (b.unhold a).InOrder waiting <-> b.InOrder waiting := by
  unfold InOrder freshFrames acquiredFrames
  rw [filterMap_log_unhold freshFrame_endsLife,
    filterMap_log_unhold acquiredBuffer_endsLife]

theorem inOrder_note {b : Buffers} {e : Event} (ha : e.acquiredBuffer? = none)
    (hf : e.freshFrame? = none) {waiting : List AcquiredBuffer} :
    (b.note e).InOrder waiting <-> b.InOrder waiting := by
  unfold InOrder freshFrames acquiredFrames note
  rw [filterMap_snoc_of_none ha, filterMap_snoc_of_none hf]

theorem inOrder_submitBuffer {b : Buffers} {id : CodecBufferId}
    {item : VideoBuffer} {origin : Origin} {codecTimeUs : Int}
    {fence : Option Fence} {err : Status} {waiting : List AcquiredBuffer}
    (h : b.InOrder waiting)
    (hfresh : origin = .fresh -> b.InOrder (item.mBuffer :: waiting)) :
    (b.note (.submitBuffer id item origin codecTimeUs fence err)).InOrder
      waiting := by
  cases origin with
  | fresh =>
      have hcons := hfresh rfl
      unfold InOrder freshFrames acquiredFrames note at *
      rw [filterMap_snoc_of_some (f := Event.freshFrame?) rfl,
        filterMap_snoc_of_none (f := Event.acquiredBuffer?) rfl,
        List.append_assoc]
      exact hcons
  | repeated => exact (inOrder_note rfl rfl).mpr h

theorem inOrder_acquire {b : Buffers} {c : CachedBuffer} {bi : BufferItem}
    {waiting : List AcquiredBuffer} (h : b.InOrder waiting) :
    (b.acquire c bi).InOrder (waiting ++ [b.newAcquired c bi]) := by
  have happ := h.append (List.Sublist.refl [b.newAcquired c bi])
  have hfresh : freshFrames (b.acquire c bi).log = freshFrames b.log :=
    filterMap_snoc_of_none (f := Event.freshFrame?) rfl _
  have hacquired : acquiredFrames (b.acquire c bi).log =
      acquiredFrames b.log ++ [b.newAcquired c bi] :=
    filterMap_snoc_of_some (f := Event.acquiredBuffer?) rfl _
  unfold InOrder
  rw [hfresh, hacquired, ← List.append_assoc]
  exact happ

theorem inOrder_of_append {b : Buffers} {waiting rest : List AcquiredBuffer}
    (h : b.InOrder (waiting ++ rest)) : b.InOrder waiting :=
  ((List.sublist_append_left waiting rest).append_left _).trans h

theorem inOrder_of_cons {b : Buffers} {a : AcquiredBuffer}
    {waiting : List AcquiredBuffer} (h : b.InOrder (a :: waiting)) :
    b.InOrder waiting :=
  ((List.sublist_cons_self a waiting).append_left _).trans h

theorem sound_step {b b' : Buffers} (hstep : Step b b') (h : Sound b) :
    Sound b' := by
  cases hstep with
  | note e he =>
      exact ⟨h.num, (inOrder_note (acquiredBuffer_neutral e he)
        (freshFrame_neutral e he)).mpr h.order⟩
  | unhold a ha =>
      constructor
      · rw [unhold_toFrames]
        exact h.num
      · rw [inOrder_unhold]
        unfold available
        rw [unhold_toFrames]
        exact h.order
  | takeAvailable =>
      unfold Buffers.takeAvailable
      split
      next => exact h
      next item rest heq =>
          refine ⟨h.num, ?_⟩
          have horder := h.order
          unfold available at horder
          rw [heq] at horder
          exact inOrder_of_cons horder
  | pushAvailable item hheld horder =>
      refine ⟨h.num, ?_⟩
      simpa [available, Buffers.pushAvailable, InOrder] using horder
  | clearAvailable =>
      have horder : b.InOrder ([] ++ b.available) := h.order
      exact ⟨h.num, inOrder_of_append horder⟩
  | setLatest item hheld => exact ⟨h.num, h.order⟩
  | retimeLatest deltaNs => exact ⟨h.num, h.order⟩
  | submitFailed id item origin codecTimeUs err herr hfree hheld horder =>
      exact ⟨h.num, inOrder_submitBuffer h.order horder⟩
  | submitted id item origin codecTimeUs hfree hheld horder =>
      exact ⟨h.num, inOrder_submitBuffer h.order horder⟩
  | eosFailed id err herr hfree =>
      exact ⟨h.num, (inOrder_note rfl rfl).mpr h.order⟩
  | eosSubmitted id hfree =>
      exact ⟨h.num, (inOrder_note rfl rfl).mpr h.order⟩
  | acquireFailed err hnum => exact ⟨h.num, (inOrder_note rfl rfl).mpr h.order⟩
  | discardSlot slot c hslot =>
      exact ⟨h.num, (inOrder_note (e := .discarded c) rfl rfl).mpr h.order⟩
  | populateSlot slot gb hslot => exact ⟨h.num, h.order⟩
  | acquire bi c hqueue hnum hslot =>
      constructor
      · show 0 <= b.mNumAvailableUnacquiredBuffers - 1
        lia
      · exact inOrder_of_append (inOrder_acquire (b := b.dequeue) h.order)

theorem sound_steps {b b' : Buffers} (h : Steps b b') (hb : Sound b) :
    Sound b' :=
  steps_keep (fun _ _ hstep hs => sound_step hstep hs) h hb

end Buffers

end Bqhelper
end Sm7225
