import Sm7225.Bqhelper.Lives

/-!
# The count of outstanding acquires

The debug counter of the source counts the living frames whose buffer is still
cached.  It is decremented in two places, when a frame dies and when a slot is
discarded, and it stays exact because the BufferQueue hands out a cached buffer
only after the frame acquired from it before was given back.
-/

namespace Sm7225
namespace Bqhelper

open Lib

/-- The consumer hands out a cached buffer again only when every frame acquired
from it before was given back. -/
def HandsOutReleased (past : List Event) (e : Event) : Prop :=
  forall a, a ∈ e.acquiredBuffer?.toList ->
    forall a', a' ∈ acquiredFrames past -> a'.mBuffer = a.mBuffer ->
      0 < giveBacks past a'

instance (past : List Event) (e : Event) :
    Decidable (HandsOutReleased past e) := by
  unfold HandsOutReleased
  exact inferInstance

namespace Buffers

variable {b b' : Buffers}

/-- The counter counts the living frames whose buffer is cached, of which there
is at most one for each buffer. -/
structure Counted (b : Buffers) : Prop where
  oneEach : forall a a', a ∈ b.alive -> a' ∈ b.alive ->
    b.isCached a.mBuffer = true -> a'.mBuffer = a.mBuffer -> a' = a
  num : b.mNumOutstandingAcquires =
    b.alive.countP (fun a => b.isCached a.mBuffer)

theorem Counted.of_same (h : Counted b) (halive : b'.alive = b.alive)
    (hdropped : b'.droppedFromCache = b.droppedFromCache)
    (hnum : b'.mNumOutstandingAcquires = b.mNumOutstandingAcquires) :
    Counted b' := by
  have hcached : b'.isCached = b.isCached := by
    funext c
    unfold isCached
    rw [hdropped]
  constructor
  · rw [halive, hcached]
    exact h.oneEach
  · rw [halive, hcached, hnum]
    exact h.num

theorem Counted.moves (h : Counted b) {tail : List Event}
    (hmoves : MovesReferences b b' tail) : Counted b' := by
  apply h.of_same ?_ hmoves.dropped hmoves.outstanding
  unfold alive
  rw [hmoves.live]

theorem Counted.addReleaseFenceFd (h : Counted b) (a : AcquiredBuffer)
    (fenceFd : Int) : Counted (b.addReleaseFenceFd a fenceFd) :=
  h.of_same (alive_addReleaseFenceFd b a fenceFd) rfl rfl

theorem alive_destroy {l : LiveBuffer}
    (hl : l ∈ b.live) : b.alive.Perm (l.ptr :: (b.destroy l).alive) := by
  have hperm : b.live.Perm (l :: b.live.erase l) := List.perm_cons_erase hl
  exact hperm.map LiveBuffer.ptr

theorem Counted.unhold (h : Counted b) (a : AcquiredBuffer) :
    Counted (b.unhold a) := by
  rcases unhold_cases b a with ⟨hunhold, _⟩ | ⟨l, hl, hptr, _, hunhold⟩
  · rw [hunhold]
    exact h.of_same rfl rfl rfl
  · rw [hunhold]
    have hperm := alive_destroy (b := b.forget a) hl
    have hsub : forall x, x ∈ ((b.forget a).destroy l).alive -> x ∈ b.alive := by
      intro x hx
      exact hperm.mem_iff.mpr (List.mem_cons_of_mem _ hx)
    constructor
    · intro x x' hx hx'
      exact h.oneEach x x' (hsub x hx) (hsub x' hx')
    · have hcount := hperm.countP_eq (fun a => b.isCached a.mBuffer)
      rw [List.countP_cons] at hcount
      have hnum := h.num
      show (if b.isCached l.ptr.mBuffer = true then b.mNumOutstandingAcquires - 1
        else b.mNumOutstandingAcquires) =
          ((b.forget a).destroy l).alive.countP (fun a => b.isCached a.mBuffer)
      have hsame : (b.forget a).alive = b.alive := rfl
      rw [hsame] at hcount
      by_cases hcached : b.isCached l.ptr.mBuffer = true
      · rw [if_pos hcached] at hcount ⊢
        lia
      · rw [if_neg hcached] at hcount ⊢
        lia

theorem isAcquired_iff {c : CachedBuffer} :
    b.isAcquired c = true <-> exists a, a ∈ b.alive ∧ a.mBuffer = c := by
  unfold isAcquired alive
  simp

theorem Counted.discardSlot (h : Counted b) (hslots : Slots b)
    (hlives : Lives b) {slot : SlotId} {c : CachedBuffer}
    (hslot : b.mBufferSlots.find? slot = some c) :
    Counted ((b.dropFromCache c).removeSlot slot) := by
  have hentry := (KeyedVector.find_eq_some _ _ _).mp hslot
  have hc := hslots.entries slot c hentry
  have hcached : forall a, a ∈ b.alive ->
      (((b.dropFromCache c).removeSlot slot).isCached a.mBuffer = true <->
        a.mBuffer ≠ c ∧ b.isCached a.mBuffer = true) := by
    intro a ha
    have hknown : Known b a.mBuffer := Or.inr ⟨a, hlives.acquired a ha, rfl⟩
    exact hslots.isCached_discardSlot slot (Or.inl ⟨slot, hentry⟩) hknown
  have halive : ((b.dropFromCache c).removeSlot slot).alive = b.alive := rfl
  constructor
  · intro a a' ha ha' hnew
    exact h.oneEach a a' ha ha' ((hcached a ha).mp hnew).2
  · rw [halive]
    have hsame : forall (as : List AcquiredBuffer),
        (forall a, a ∈ as -> a ∈ b.alive ∧ a.mBuffer ≠ c) ->
        as.countP (fun a =>
          ((b.dropFromCache c).removeSlot slot).isCached a.mBuffer) =
          as.countP (fun a => b.isCached a.mBuffer) := by
      intro as has
      apply List.countP_congr
      intro a ha
      have hboth := hcached a (has a ha).1
      rw [hboth]
      exact ⟨fun hand => hand.2, fun hold => ⟨(has a ha).2, hold⟩⟩
    have hnum := h.num
    show (if b.isAcquired c = true then b.mNumOutstandingAcquires - 1
      else b.mNumOutstandingAcquires) = _
    by_cases hacquired : b.isAcquired c = true
    · rw [if_pos hacquired]
      rcases isAcquired_iff.mp hacquired with ⟨a, ha, hbuffer⟩
      have hperm := List.perm_cons_erase ha
      have hrest : forall x, x ∈ b.alive.erase a ->
          x ∈ b.alive ∧ x.mBuffer ≠ c := by
        intro x hx
        have hx' := (hlives.distinct.mem_erase_iff).mp hx
        refine ⟨hx'.2, ?_⟩
        intro heq
        apply hx'.1
        apply h.oneEach a x ha hx'.2
        · rw [hbuffer]
          exact hc.2
        · rw [heq, hbuffer]
      have hbefore : b.alive.countP (fun a => b.isCached a.mBuffer) =
          (b.alive.erase a).countP (fun a => b.isCached a.mBuffer) + 1 := by
        rw [hperm.countP_eq, List.countP_cons, hbuffer, hc.2]
        rfl
      have hafter : b.alive.countP (fun a =>
          ((b.dropFromCache c).removeSlot slot).isCached a.mBuffer) =
          (b.alive.erase a).countP (fun a => b.isCached a.mBuffer) := by
        have hnot : ¬((b.dropFromCache c).removeSlot slot).isCached a.mBuffer =
            true := by
          intro hnew
          exact ((hcached a ha).mp hnew).1 hbuffer
        rw [hperm.countP_eq, List.countP_cons, hsame _ hrest, if_neg hnot,
          Nat.add_zero]
      lia
    · rw [if_neg hacquired, hsame b.alive]
      · exact hnum
      · intro a ha
        refine ⟨ha, ?_⟩
        intro heq
        exact hacquired (isAcquired_iff.mpr ⟨a, ha, heq⟩)

theorem Counted.acquire (h : Counted b) (hslots : Slots b) (hlives : Lives b)
    {bi : BufferItem} {c : CachedBuffer}
    (hslot : b.mBufferSlots.find? bi.mSlot = some c)
    (hreleased : HandsOutReleased b.log (.acquired bi (b.newAcquired c bi))) :
    Counted (b.dequeue.acquire c bi) := by
  have hentry := (KeyedVector.find_eq_some _ _ _).mp hslot
  have hc := (hslots.entries bi.mSlot c hentry).2
  have halive : (b.dequeue.acquire c bi).alive =
      b.alive ++ [b.newAcquired c bi] := by
    unfold alive Buffers.acquire
    rw [List.map_append]
    rfl
  -- a living frame was not given back
  have hfresh : forall a, a ∈ b.alive -> a.mBuffer ≠ c := by
    intro a ha hbuffer
    have hback := hreleased _ List.mem_cons_self a (hlives.acquired a ha) hbuffer
    rw [(hlives.untouched a ha).kept] at hback
    exact lt_irrefl 0 hback
  constructor
  · intro a a' ha ha' hcached heq
    rw [halive] at ha ha'
    rcases List.mem_append.mp ha with ha | ha
    · rcases List.mem_append.mp ha' with ha' | ha'
      · exact h.oneEach a a' ha ha' hcached heq
      · rw [List.mem_singleton.mp ha'] at heq
        exact absurd heq.symm (hfresh a ha)
    · rcases List.mem_append.mp ha' with ha' | ha'
      · rw [List.mem_singleton.mp ha] at heq
        exact absurd heq (hfresh a' ha')
      · rw [List.mem_singleton.mp ha, List.mem_singleton.mp ha']
  · rw [halive]
    show b.mNumOutstandingAcquires + 1 =
      (b.alive ++ [b.newAcquired c bi]).countP (fun a => b.isCached a.mBuffer)
    have hnew : [b.newAcquired c bi].countP (fun a => b.isCached a.mBuffer) = 1 := by
      show [b.newAcquired c bi].countP (fun a => b.isCached a.mBuffer) = 1
      rw [List.countP_singleton]
      show (if b.isCached c = true then 1 else 0) = 1
      rw [if_pos hc]
    rw [List.countP_append, hnew, h.num]
    push_cast
    rfl

/-!
# All accounts together
-/

structure Accounts (b : Buffers) : Prop where
  slots : Slots b
  lives : Lives b
  named : Named b
  counted : Everywhere HandsOutReleased b.log -> Counted b

theorem accounts_step (hstep : Step b b') (h : Accounts b) : Accounts b' := by
  have hbefore : Everywhere HandsOutReleased b'.log ->
      Everywhere HandsOutReleased b.log :=
    fun hconsumer => hconsumer.of_prefix (step_log_grows hstep)
  have hslots := slots_step hstep h.slots
  have hnamed := named_step hstep h.named
  rcases step_memory hstep with ⟨tail, hmoves, _⟩ | ⟨a, ha, rfl⟩ |
    ⟨slot, c, hslot, rfl⟩ | ⟨slot, gb, hslot, rfl⟩ | ⟨bi, c, hslot, rfl⟩
  · exact ⟨hslots, h.lives.moves hmoves, hnamed,
      fun hconsumer => (h.counted (hbefore hconsumer)).moves hmoves⟩
  · exact ⟨hslots, h.lives.unhold h.slots ha, hnamed,
      fun hconsumer => (h.counted (hbefore hconsumer)).unhold a⟩
  · exact ⟨hslots, h.lives.discardSlot slot c, hnamed, fun hconsumer =>
      (h.counted (hbefore hconsumer)).discardSlot h.slots h.lives hslot⟩
  · exact ⟨hslots, h.lives.populateSlot slot gb, hnamed,
      fun hconsumer => (h.counted (hbefore hconsumer)).of_same rfl rfl rfl⟩
  · exact ⟨hslots, h.lives.acquire h.named c bi, hnamed, fun hconsumer =>
      (h.counted (hbefore hconsumer)).acquire h.slots h.lives hslot
        (everywhere_snoc.mp hconsumer).2⟩

structure Balanced (b : Buffers) : Prop where
  slots : Slots b
  lives : Lives b
  counted : Everywhere HandsOutReleased b.log -> Counted b

theorem Balanced.moves (h : Balanced b) {tail : List Event}
    (hmoves : MovesReferences b b' tail) : Balanced b' := by
  refine ⟨h.slots.moves hmoves, h.lives.moves hmoves, ?_⟩
  intro hconsumer
  rw [hmoves.log] at hconsumer
  exact (h.counted hconsumer.of_append).moves hmoves

theorem Balanced.unhold (h : Balanced b) {a : AcquiredBuffer}
    (ha : a ∈ b.locals) : Balanced (b.unhold a) := by
  refine ⟨h.slots.unhold a, h.lives.unhold h.slots ha, ?_⟩
  intro hconsumer
  rcases unhold_log b a with ⟨tail, hlog, _⟩
  rw [hlog] at hconsumer
  exact (h.counted hconsumer.of_append).unhold a

theorem Balanced.addReleaseFenceFd (h : Balanced b) (a : AcquiredBuffer)
    (fenceFd : Int) : Balanced (b.addReleaseFenceFd a fenceFd) :=
  ⟨h.slots.addReleaseFenceFd a fenceFd, h.lives.addReleaseFenceFd a fenceFd,
    fun hconsumer => (h.counted hconsumer).addReleaseFenceFd a fenceFd⟩

theorem accounts_arrival (h : Accounts b) (mExecuting : Bool) (r : Request) :
    Accounts (b.arrival mExecuting r) := by
  have hbalanced : Balanced (b.arrival mExecuting r) :=
    arrival_memory (fun _ _ _ hmoves _ hb => Balanced.moves hb hmoves)
      (fun _ _ ha hb => Balanced.unhold hb ha)
      (fun _ a fenceFd hb => Balanced.addReleaseFenceFd hb a fenceFd)
      ⟨h.slots, h.lives, h.counted⟩ mExecuting r
  exact ⟨hbalanced.slots, hbalanced.lives, named_arrival h.named mExecuting r,
    hbalanced.counted⟩

theorem accounts_initial :
    Accounts GraphicBufferSource.initial.toBuffers := by
  refine ⟨slots_initial, ?_, between_initial.named, ?_⟩
  · constructor
    · intro a
      exact Iff.rfl
    · exact List.nodup_nil
    · intro a ha
      cases ha
    · intro a ha
      cases ha
    · intro a ha
      cases ha
    · intro a hmem
      cases hmem
    · intro a slot frameNum fence hmem
      cases hmem
  · intro _
    constructor
    · intro a a' ha
      cases ha
    · rfl

end Buffers

theorem reaches_accounts {requests : List Request} {s : GraphicBufferSource}
    (hs : Reaches requests s) : Between s ∧ Buffers.Accounts s.toBuffers :=
  reaches_keeps (C := fun _ _ => True) (fun _ _ => Buffers.accounts_step)
    (fun s r _ h _ => Buffers.accounts_arrival h s.mExecuting r)
    Buffers.accounts_initial hs (along_true requests _)

/-!
# The destructor
-/

namespace Buffers

variable {b b' : Buffers}

theorem Balanced.unholdAll (h : Balanced b) {as held : List AcquiredBuffer}
    (hlocals : b.locals = as ++ held) : Balanced (b.unholdAll as) := by
  induction as generalizing b with
  | nil => exact h
  | cons a as ih =>
      have ha : a ∈ b.locals := by
        rw [hlocals]
        exact List.mem_cons_self
      apply ih (h.unhold ha)
      rw [unhold_locals, hlocals]
      exact List.erase_cons_head a (as ++ held)

theorem unholdAll_locals {as held : List AcquiredBuffer}
    (hlocals : b.locals = as ++ held) : (b.unholdAll as).locals = held := by
  induction as generalizing b with
  | nil => exact hlocals
  | cons a as ih =>
      apply ih
      rw [unhold_locals, hlocals]
      exact List.erase_cons_head a (as ++ held)

structure Settled (b : Buffers) : Prop where
  balanced : Balanced b
  locals : b.locals = []
  consumer : Everywhere HandsOutReleased b.log

theorem Settled.letGo (h : Settled b) (as : List AcquiredBuffer)
    (hmoves : MovesReferences b b' []) (hlocals : b'.locals = as ++ b.locals) :
    Settled (b'.unholdAll as) := by
  rcases unholdAll_log b' as with ⟨tail, hlog, htail⟩
  refine ⟨(h.balanced.moves hmoves).unholdAll hlocals, ?_, ?_⟩
  · exact (unholdAll_locals hlocals).trans h.locals
  · rw [hlog, hmoves.log, List.append_nil]
    apply h.consumer.append_silent
    intro e he past a ha
    rw [acquiredBuffer_endsLife e (htail e he)] at ha
    cases ha

theorem Settled.outstanding_eq_zero (h : Settled b) (hholders : b.holders = []) :
    b.mNumOutstandingAcquires = 0 := by
  have halive : b.alive = [] := by
    apply List.eq_nil_iff_forall_not_mem.mpr
    intro a ha
    have hheld := (h.balanced.lives.holders a).mpr ha
    rw [hholders] at hheld
    cases hheld
  rw [(h.balanced.counted h.consumer).num, halive]
  rfl

theorem holders_eq_nil (hlocals : b.locals = [])
    (havailable : b.mAvailableBuffers = [])
    (hsubmitted : b.mSubmittedCodecBuffers = KeyedVector.empty)
    (hlatest : b.mLatestBuffer = none) : b.holders = [] := by
  unfold holders submitted
  rw [hlocals, havailable, hsubmitted, hlatest]
  rfl

end Buffers

theorem dropAllReferences_sat {s : GraphicBufferSource}
    (h : Buffers.Settled s.toBuffers) :
    Sat dropAllReferences
      (fun _ t => t.toBuffers.holders = [] ∧ t.mNumOutstandingAcquires = 0)
      (fun _ _ => False) s := by
  unfold dropAllReferences assignLatest
  simp only [sat_bind, sat_get, sat_modifyBuffers, sat_unholdAll]
  have hclear : Buffers.MovesReferences s.toBuffers s.toBuffers.clearAvailable [] :=
    Buffers.movesReferences_nil rfl (fun _ => Buffers.mem_holders_clearAvailable)
  have hfirst := h.letGo (s.mAvailableBuffers.map VideoBuffer.mBuffer) hclear rfl
  have hfirstFrames := Buffers.unholdAll_toFrames s.toBuffers.clearAvailable
    (s.mAvailableBuffers.map VideoBuffer.mBuffer)
  generalize s.toBuffers.clearAvailable.unholdAll
    (s.mAvailableBuffers.map VideoBuffer.mBuffer) = b1 at *
  have hcodec : Buffers.MovesReferences b1 b1.clearCodecBuffers [] :=
    Buffers.movesReferences_nil rfl
      (fun _ => Buffers.mem_holders_clearCodecBuffers)
  have hsecond := hfirst.letGo b1.submitted hcodec rfl
  have hsecondFrames := Buffers.unholdAll_toFrames b1.clearCodecBuffers b1.submitted
  generalize b1.clearCodecBuffers.unholdAll b1.submitted = b2 at *
  have hlatest : Buffers.MovesReferences b2 (b2.setLatest none) [] :=
    Buffers.movesReferences_nil rfl
      (fun _ => Buffers.mem_holders_setLatest (fun v hv => by cases hv))
  have hthird := hsecond.letGo b2.latest hlatest rfl
  have hthirdFrames := Buffers.unholdAll_toFrames (b2.setLatest none) b2.latest
  have hholders : ((b2.setLatest none).unholdAll b2.latest).holders = [] := by
    apply Buffers.holders_eq_nil hthird.locals
    · rw [hthirdFrames]
      show b2.mAvailableBuffers = []
      rw [hsecondFrames]
      show b1.mAvailableBuffers = []
      rw [hfirstFrames]
      rfl
    · rw [hthirdFrames]
      show b2.mSubmittedCodecBuffers = KeyedVector.empty
      rw [hsecondFrames]
      rfl
    · rw [hthirdFrames]
      rfl
  exact ⟨hholders, hthird.outstanding_eq_zero hholders⟩

/-!
# The account of acquires and releases
-/

/-- Every acquire of a run is accounted for. -/
structure AcquiresAccounted (s : GraphicBufferSource) : Prop where
  alive : forall a, a ∈ s.toBuffers.alive <-> a ∈ s.toBuffers.holders
  distinct : s.toBuffers.alive.Nodup
  outstanding : s.mNumOutstandingAcquires =
    s.toBuffers.alive.countP (fun a => s.toBuffers.isCached a.mBuffer)
  cached : forall c, Buffers.Known s.toBuffers c ->
    (s.toBuffers.isCached c = true <-> s.mBufferSlots.find? c.mSlot = some c)
  held : forall a, a ∈ s.toBuffers.alive -> Untouched s.log a
  gone : forall a, a ∈ acquiredFrames s.log -> a ∉ s.toBuffers.alive ->
    Ended s.log a
  sameSlot : forall a slot frameNum fence,
    .releaseBuffer a slot frameNum fence ∈ s.log ->
      exists bi, .acquired bi a ∈ s.log ∧ slot = bi.mSlot ∧
        frameNum = bi.mFrameNumber
  noLeak : Sat dropAllReferences (fun _ t => t.mNumOutstandingAcquires = 0)
    (fun _ _ => False) s

theorem acquires_accounted (requests : List Request) (s : GraphicBufferSource)
    (hs : Reaches requests s)
    (hconsumer : Everywhere HandsOutReleased s.log) : AcquiresAccounted s := by
  rcases reaches_accounts hs with ⟨hbetween, haccounts⟩
  have hslots := haccounts.slots
  have hlives := haccounts.lives
  have hcounted := haccounts.counted hconsumer
  constructor
  · intro a
    exact (hlives.holders a).symm
  · exact hlives.distinct
  · exact hcounted.num
  · intro c hc
    rw [KeyedVector.find_eq_some]
    constructor
    · exact hslots.cached c hc
    · intro hentry
      exact (hslots.entries c.mSlot c hentry).2
  · exact hlives.untouched
  · exact hlives.ended
  · intro a slot frameNum fence hmem
    rcases hlives.released a slot frameNum fence hmem with ⟨ha, hslot, hframe⟩
    rcases Buffers.acquired_of_mem ha with ⟨bi, hbi⟩
    have hitem := hslots.items bi a hbi
    exact ⟨bi, hbi, hslot.trans hitem.1, hframe.trans hitem.2⟩
  · have hsettled : Buffers.Settled s.toBuffers :=
      ⟨⟨hslots, hlives, haccounts.counted⟩, hbetween.locals, hconsumer⟩
    exact (dropAllReferences_sat hsettled).imp (fun _ _ h => h.2)

/-- The buffer of slot 0 is acquired, given back, acquired again, and its slot
is discarded while the codec holds it. -/
def discardedWhileHeld : List Request :=
  session 0 [1, 2] ++ deliver (newFrame 0 1 100) ++
    [(Op.onInputBufferEmptied 1 (-1)).now] ++
    deliver { newFrame 0 2 200 with mGraphicBuffer := none } ++
    [.call .onBuffersReleased { releasedBuffers := some 1 }]

theorem acquires_accounted_discardedWhileHeld :
    AcquiresAccounted (final discardedWhileHeld) ∧
      (acquiredFrames (final discardedWhileHeld).log).length = 2 ∧
      (final discardedWhileHeld).toBuffers.alive.length = 1 ∧
      (final discardedWhileHeld).mNumOutstandingAcquires = 0 :=
  ⟨acquires_accounted discardedWhileHeld (final discardedWhileHeld)
      (reaches_final (by decide +kernel)) (by decide +kernel),
    by decide +kernel, by decide +kernel, by decide +kernel⟩

end Bqhelper
end Sm7225
