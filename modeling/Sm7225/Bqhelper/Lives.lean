import Sm7225.Bqhelper.Slots

/-!
# The lives of acquired buffers

An acquired buffer lives exactly while something refers to it.  When the last
reference goes, it is given back to the BufferQueue once, unless its cached
buffer was discarded before.
-/

namespace Sm7225
namespace Bqhelper

open Lib

/-!
# Giving back
-/

def isGiveBack (a : AcquiredBuffer) : Event -> Bool
  | .releaseBuffer a' _ _ _ => decide (a' = a)
  | _ => false

def giveBacks (log : List Event) (a : AcquiredBuffer) : Nat :=
  log.countP (isGiveBack a)

structure Untouched (log : List Event) (a : AcquiredBuffer) : Prop where
  alive : .destroyed a ∉ log
  kept : giveBacks log a = 0

def Ended (log : List Event) (a : AcquiredBuffer) : Prop :=
  exists past future, log = past ++ .destroyed a :: future ∧
    .destroyed a ∉ past ∧ .destroyed a ∉ future ∧
    giveBacks log a = if .discarded a.mBuffer ∈ past then 0 else 1

theorem giveBacks_append (log tail : List Event) (a : AcquiredBuffer) :
    giveBacks (log ++ tail) a = giveBacks log a + giveBacks tail a :=
  List.countP_append

theorem giveBacks_eq_zero {log : List Event} {a : AcquiredBuffer}
    (h : forall slot frameNum fence,
      .releaseBuffer a slot frameNum fence ∉ log) : giveBacks log a = 0 := by
  unfold giveBacks
  rw [List.countP_eq_zero]
  intro e he hback
  cases e with
  | releaseBuffer a' slot frameNum fence =>
      have heq : a' = a := of_decide_eq_true hback
      rw [heq] at he
      exact h slot frameNum fence he
  | _ => cases hback

theorem Untouched.append {log tail : List Event} {a : AcquiredBuffer}
    (h : Untouched log a) (hdestroyed : .destroyed a ∉ tail)
    (hback : giveBacks tail a = 0) : Untouched (log ++ tail) a := by
  constructor
  · intro hmem
    rcases List.mem_append.mp hmem with hmem | hmem
    · exact h.alive hmem
    · exact hdestroyed hmem
  · rw [giveBacks_append, h.kept, hback]

theorem Ended.append {log tail : List Event} {a : AcquiredBuffer}
    (h : Ended log a) (hdestroyed : .destroyed a ∉ tail)
    (hback : giveBacks tail a = 0) : Ended (log ++ tail) a := by
  rcases h with ⟨past, future, hlog, hpast, hfuture, hgive⟩
  refine ⟨past, future ++ tail, ?_, hpast, ?_, ?_⟩
  · rw [hlog, List.append_assoc]
    rfl
  · intro hmem
    rcases List.mem_append.mp hmem with hmem | hmem
    · exact hfuture hmem
    · exact hdestroyed hmem
  · rw [giveBacks_append, hback]
    exact hgive

theorem Ended.destroyed {log : List Event} {a : AcquiredBuffer}
    (h : Ended log a) : .destroyed a ∈ log := by
  rcases h with ⟨past, future, hlog, _⟩
  rw [hlog]
  exact List.mem_append_right past List.mem_cons_self

namespace Buffers

variable {b b' : Buffers}

def alive (b : Buffers) : List AcquiredBuffer :=
  b.live.map LiveBuffer.ptr

structure Lives (b : Buffers) : Prop where
  holders : forall a, a ∈ b.holders <-> a ∈ b.alive
  distinct : b.alive.Nodup
  acquired : forall a, a ∈ b.alive -> a ∈ acquiredFrames b.log
  untouched : forall a, a ∈ b.alive -> Untouched b.log a
  ended : forall a, a ∈ acquiredFrames b.log -> a ∉ b.alive -> Ended b.log a
  destroyed : forall a, .destroyed a ∈ b.log -> a ∈ acquiredFrames b.log
  released : forall a slot frameNum fence,
    .releaseBuffer a slot frameNum fence ∈ b.log ->
      a ∈ acquiredFrames b.log ∧ slot = a.mBuffer.mSlot ∧ frameNum = a.frameNum

theorem Lives.of_tail (h : Lives b) {tail : List Event}
    (hlog : b'.log = b.log ++ tail)
    (htail : forall e, e ∈ tail -> e.acquiredBuffer? = none ∧
      (forall a, e ≠ .destroyed a) ∧
      forall a slot frameNum fence, e ≠ .releaseBuffer a slot frameNum fence)
    (halive : b'.alive = b.alive)
    (hholders : forall a, a ∈ b'.holders <-> a ∈ b.holders) : Lives b' := by
  have hframes : acquiredFrames b'.log = acquiredFrames b.log := by
    unfold acquiredFrames
    rw [hlog]
    exact filterMap_append_of_silent (fun e he => (htail e he).1) _
  have hdestroyed : forall a, .destroyed a ∉ tail := by
    intro a hmem
    exact (htail _ hmem).2.1 a rfl
  have hback : forall a, giveBacks tail a = 0 := by
    intro a
    apply giveBacks_eq_zero
    intro slot frameNum fence hmem
    exact (htail _ hmem).2.2 a slot frameNum fence rfl
  constructor
  · intro a
    rw [hholders, halive]
    exact h.holders a
  · rw [halive]
    exact h.distinct
  · intro a ha
    rw [halive] at ha
    rw [hframes]
    exact h.acquired a ha
  · intro a ha
    rw [halive] at ha
    rw [hlog]
    exact (h.untouched a ha).append (hdestroyed a) (hback a)
  · intro a ha hdead
    rw [hframes] at ha
    rw [halive] at hdead
    rw [hlog]
    exact (h.ended a ha hdead).append (hdestroyed a) (hback a)
  · intro a hmem
    rw [hlog] at hmem
    rw [hframes]
    rcases List.mem_append.mp hmem with hmem | hmem
    · exact h.destroyed a hmem
    · exact absurd hmem (hdestroyed a)
  · intro a slot frameNum fence hmem
    rw [hlog] at hmem
    rw [hframes]
    rcases List.mem_append.mp hmem with hmem | hmem
    · exact h.released a slot frameNum fence hmem
    · exact absurd rfl ((htail _ hmem).2.2 a slot frameNum fence)

theorem Lives.moves (h : Lives b) {tail : List Event}
    (hmoves : MovesReferences b b' tail) : Lives b' := by
  have halive : b'.alive = b.alive := by
    unfold alive
    rw [hmoves.live]
  apply h.of_tail hmoves.log ?_ halive hmoves.holders
  intro e he
  have hsilent := hmoves.silent e he
  cases e <;> first | cases hsilent; done | simp [Event.acquiredBuffer?]

theorem alive_addReleaseFenceFd (b : Buffers) (a : AcquiredBuffer)
    (fenceFd : Int) : (b.addReleaseFenceFd a fenceFd).alive = b.alive := by
  unfold alive addReleaseFenceFd
  rw [List.map_map]
  apply List.map_congr_left
  intro l _
  show (if l.ptr = a then l.addReleaseFenceFd fenceFd else l).ptr = l.ptr
  split
  · rfl
  · rfl

theorem Lives.addReleaseFenceFd (h : Lives b) (a : AcquiredBuffer)
    (fenceFd : Int) : Lives (b.addReleaseFenceFd a fenceFd) :=
  h.of_tail (List.append_nil _).symm
    (fun _ he => absurd he List.not_mem_nil)
    (alive_addReleaseFenceFd b a fenceFd) (fun _ => Iff.rfl)

theorem Lives.discardSlot (h : Lives b) (slot : SlotId) (c : CachedBuffer) :
    Lives ((b.dropFromCache c).removeSlot slot) := by
  refine h.of_tail rfl ?_ rfl (fun _ => Iff.rfl)
  intro e he
  rw [List.mem_singleton.mp he]
  simp [Event.acquiredBuffer?]

theorem Lives.populateSlot (h : Lives b) (slot : SlotId) (gb : GraphicBuffer) :
    Lives (b.cache slot gb) :=
  h.of_tail (List.append_nil _).symm
    (fun _ he => absurd he List.not_mem_nil) rfl (fun _ => Iff.rfl)

/-!
# A new frame
-/

theorem Lives.acquire (h : Lives b) (hnamed : Named b) (c : CachedBuffer)
    (bi : BufferItem) : Lives (b.dequeue.acquire c bi) := by
  have hframes := acquiredFrames_acquire b.dequeue c bi
  have hnew := hnamed.newAcquired_not_mem c bi
  have halive : (b.dequeue.acquire c bi).alive =
      b.alive ++ [b.newAcquired c bi] := by
    unfold alive Buffers.acquire
    rw [List.map_append]
    rfl
  have hdestroyed : forall a, .destroyed a ∉
      [Event.acquired bi (b.newAcquired c bi)] := by
    intro a hmem
    cases List.mem_singleton.mp hmem
  have hback : forall a,
      giveBacks [Event.acquired bi (b.newAcquired c bi)] a = 0 := by
    intro a
    rfl
  constructor
  · intro a
    rw [mem_holders_acquire, halive, List.mem_append, List.mem_singleton]
    have hold := h.holders a
    show a = b.newAcquired c bi ∨ a ∈ b.holders <-> _
    tauto
  · rw [halive]
    apply List.nodup_append_comm.mp
    apply List.nodup_cons.mpr
    refine ⟨?_, h.distinct⟩
    intro hmem
    exact hnew (h.acquired _ hmem)
  · intro a ha
    rw [halive] at ha
    rw [hframes]
    rcases List.mem_append.mp ha with ha | ha
    · exact List.mem_append_left _ (h.acquired a ha)
    · exact List.mem_append_right _ ha
  · intro a ha
    rw [halive] at ha
    rcases List.mem_append.mp ha with ha | ha
    · exact (h.untouched a ha).append (hdestroyed a) (hback a)
    · rw [List.mem_singleton.mp ha]
      have huntouched : Untouched b.log (b.newAcquired c bi) := by
        constructor
        · intro hmem
          exact hnew (h.destroyed _ hmem)
        · apply giveBacks_eq_zero
          intro slot frameNum fence hmem
          exact hnew (h.released _ slot frameNum fence hmem).1
      exact huntouched.append (hdestroyed _) (hback _)
  · intro a ha hdead
    rw [hframes] at ha
    rw [halive, List.mem_append, not_or] at hdead
    rcases List.mem_append.mp ha with ha | ha
    · exact (h.ended a ha hdead.1).append (hdestroyed a) (hback a)
    · exact absurd ha hdead.2
  · intro a hmem
    rw [hframes]
    rcases List.mem_append.mp hmem with hmem | hmem
    · exact List.mem_append_left _ (h.destroyed a hmem)
    · exact absurd hmem (hdestroyed a)
  · intro a slot frameNum fence hmem
    rw [hframes]
    rcases List.mem_append.mp hmem with hmem | hmem
    · have hold := h.released a slot frameNum fence hmem
      exact ⟨List.mem_append_left _ hold.1, hold.2⟩
    · cases List.mem_singleton.mp hmem

/-!
# The end of a life
-/

theorem mem_holders_erase {a x : AcquiredBuffer} (hne : x ≠ a) :
    x ∈ (b.forget a).holders <->
      x ∈ b.holders := by
  rw [mem_holders, mem_holders]
  show x ∈ b.locals.erase a ∨ x ∈ b.available ∨ x ∈ b.submitted ∨ x ∈ b.latest <-> _
  rw [List.mem_erase_of_ne hne]

theorem mem_lastCalls_releaseBuffer {l : LiveBuffer} {a : AcquiredBuffer}
    {slot : SlotId} {frameNum : Int} {fence : Option Fence}
    (h : .releaseBuffer a slot frameNum fence ∈ b.lastCalls l) :
    b.isCached l.ptr.mBuffer = true ∧ a = l.ptr ∧ slot = l.ptr.mBuffer.mSlot ∧
      frameNum = l.ptr.frameNum ∧ fence = l.getReleaseFence := by
  unfold lastCalls at h
  split at h
  next hcached =>
      refine ⟨hcached, ?_⟩
      split at h
      · rcases List.mem_append.mp h with h | h
        · simp at h
        · injection List.mem_singleton.mp h with ha hslot hframe hfence
          exact ⟨ha, hslot, hframe, hfence⟩
      · rcases List.mem_cons.mp h with h | h
        · injection h with ha hslot hframe hfence
          exact ⟨ha, hslot, hframe, hfence⟩
        · simp at h
  · simp at h

theorem destroyed_not_mem_lastCalls (l : LiveBuffer) (a : AcquiredBuffer) :
    .destroyed a ∉ b.lastCalls l := by
  intro h
  unfold lastCalls at h
  split at h
  · split at h
    · simp at h
    · simp at h
  · simp at h

theorem giveBacks_map (fds : List Int) (f : Int -> Event)
    (a : AcquiredBuffer) (hf : forall fd, isGiveBack a (f fd) = false) :
    giveBacks (fds.map f) a = 0 := by
  unfold giveBacks
  rw [List.countP_eq_zero]
  intro e he
  rcases List.mem_map.mp he with ⟨fd, _, rfl⟩
  rw [hf fd]
  exact Bool.false_ne_true

theorem giveBacks_lastCalls (l : LiveBuffer) :
    giveBacks (b.lastCalls l) l.ptr =
      if b.isCached l.ptr.mBuffer then 1 else 0 := by
  unfold lastCalls
  split
  · split
    · rw [giveBacks_append, giveBacks_map _ _ _ (fun _ => rfl)]
      simp [giveBacks, isGiveBack]
    · have hcons : forall (e : Event) (tail : List Event),
          giveBacks (e :: tail) l.ptr = giveBacks [e] l.ptr + giveBacks tail l.ptr :=
        fun e tail => giveBacks_append [e] tail l.ptr
      rw [hcons, giveBacks_map _ _ _ (fun _ => rfl)]
      simp [giveBacks, isGiveBack]
  · exact giveBacks_map _ _ _ (fun _ => rfl)

theorem Lives.unhold (h : Lives b) (hslots : Slots b) {a : AcquiredBuffer}
    (ha : a ∈ b.locals) : Lives (b.unhold a) := by
  have hholder : a ∈ b.holders := mem_holders.mpr (Or.inl ha)
  rcases unhold_cases b a with ⟨hunhold, hcase⟩ | ⟨l, hl, hptr, hlast, hunhold⟩
  · rw [hunhold]
    have hstill : a ∈ (b.forget a).holders := by
      rcases hcase with hstill | hnone
      · exact hstill
      · rcases List.mem_map.mp ((h.holders a).mp hholder) with ⟨l, hl, hptr⟩
        exact absurd hptr (hnone l hl)
    refine h.of_tail (List.append_nil _).symm
      (fun _ he => absurd he List.not_mem_nil) rfl ?_
    intro x
    by_cases hx : x = a
    · rw [hx]
      exact iff_of_true hstill hholder
    · exact mem_holders_erase hx
  · rw [hunhold]
    -- the last reference goes, so its life ends here
    have halive : forall x,
        x ∈ ((b.forget a).destroy l).alive <->
          x ∈ b.alive ∧ x ≠ a := by
      intro x
      have hnodup : b.live.Nodup := List.Nodup.of_map _ h.distinct
      show x ∈ (b.live.erase l).map LiveBuffer.ptr <-> _
      rw [List.mem_map]
      constructor
      · intro hx
        rcases hx with ⟨l', hl', rfl⟩
        have hmem := (hnodup.mem_erase_iff).mp hl'
        refine ⟨List.mem_map_of_mem hmem.2, ?_⟩
        intro heq
        exact hmem.1 (List.inj_on_of_nodup_map h.distinct hmem.2 hl
          (heq.trans hptr.symm))
      · intro hx
        rcases List.mem_map.mp hx.1 with ⟨l', hl', hl'ptr⟩
        refine ⟨l', ?_, hl'ptr⟩
        apply (hnodup.mem_erase_iff).mpr
        refine ⟨?_, hl'⟩
        intro heq
        rw [heq, hptr] at hl'ptr
        exact hx.2 hl'ptr.symm
    have hlog : ((b.forget a).destroy l).log =
        b.log ++ .destroyed a :: b.lastCalls l := by
      rw [← hptr]
      rfl
    have hframes : acquiredFrames
        ((b.forget a).destroy l).log =
          acquiredFrames b.log := by
      rw [hlog]
      apply filterMap_append_of_silent
      intro e he
      rw [← hptr] at he
      exact acquiredBuffer_endsLife e (destroyed_endsLife b l e he)
    have haFrame : a ∈ acquiredFrames b.log :=
      h.acquired a ((h.holders a).mp hholder)
    have hdestroyed : forall x, x ≠ a ->
        .destroyed x ∉ Event.destroyed a :: b.lastCalls l := by
      intro x hx hmem
      rcases List.mem_cons.mp hmem with hmem | hmem
      · injection hmem with heq
        exact hx heq
      · exact destroyed_not_mem_lastCalls l x hmem
    have hback : forall x, x ≠ a ->
        giveBacks (Event.destroyed a :: b.lastCalls l) x = 0 := by
      intro x hx
      apply giveBacks_eq_zero
      intro slot frameNum fence hmem
      rcases List.mem_cons.mp hmem with hmem | hmem
      · cases hmem
      · exact hx ((mem_lastCalls_releaseBuffer hmem).2.1.trans hptr)
    constructor
    · intro x
      rw [halive]
      by_cases hx : x = a
      · rw [hx]
        exact iff_of_false hlast (fun hand => hand.2 rfl)
      · have hsame := mem_holders_erase (b := b) hx
        have hold := h.holders x
        show x ∈ (b.forget a).holders <-> _
        rw [hsame, hold]
        exact ⟨fun hmem => ⟨hmem, hx⟩, fun hand => hand.1⟩
    · exact h.distinct.sublist ((List.erase_sublist).map LiveBuffer.ptr)
    · intro x hx
      rw [hframes]
      exact h.acquired x ((halive x).mp hx).1
    · intro x hx
      have hboth := (halive x).mp hx
      rw [hlog]
      exact (h.untouched x hboth.1).append (hdestroyed x hboth.2)
        (hback x hboth.2)
    · intro x hx hdead
      rw [hframes] at hx
      rw [hlog]
      by_cases hxa : x = a
      · rw [hxa]
        have huntouched := h.untouched a ((h.holders a).mp hholder)
        refine ⟨b.log, b.lastCalls l, rfl, huntouched.alive,
          destroyed_not_mem_lastCalls l a, ?_⟩
        have hdiscarded := hslots.discarded a.mBuffer (Or.inr ⟨a, haFrame, rfl⟩)
        have hcalls := giveBacks_lastCalls (b := b) l
        rw [hptr] at hcalls
        have hcons : giveBacks (Event.destroyed a :: b.lastCalls l) a =
            giveBacks (b.lastCalls l) a :=
          (giveBacks_append [Event.destroyed a] _ a).trans (Nat.zero_add _)
        rw [giveBacks_append, huntouched.kept, Nat.zero_add, hcons, hcalls]
        by_cases hcached : b.isCached a.mBuffer = true
        · have hnot : .discarded a.mBuffer ∉ b.log := by
            intro hmem
            rw [hdiscarded.mpr hmem] at hcached
            cases hcached
          rw [if_pos hcached, if_neg hnot]
        · have hmem := hdiscarded.mp (Bool.not_eq_true _ ▸ hcached)
          rw [if_neg hcached, if_pos hmem]
      · apply (h.ended x hx ?_).append (hdestroyed x hxa) (hback x hxa)
        intro hmem
        exact hdead ((halive x).mpr ⟨hmem, hxa⟩)
    · intro x hmem
      rw [hframes]
      rw [hlog] at hmem
      rcases List.mem_append.mp hmem with hmem | hmem
      · exact h.destroyed x hmem
      · by_cases hxa : x = a
        · rw [hxa]
          exact haFrame
        · exact absurd hmem (hdestroyed x hxa)
    · intro x slot frameNum fence hmem
      rw [hframes]
      rw [hlog] at hmem
      rcases List.mem_append.mp hmem with hmem | hmem
      · exact h.released x slot frameNum fence hmem
      · rcases List.mem_cons.mp hmem with hmem | hmem
        · cases hmem
        · rcases mem_lastCalls_releaseBuffer hmem with ⟨_, hx, hslot, hframe, _⟩
          rw [hptr] at hx hslot hframe
          rw [hx]
          exact ⟨haFrame, hslot, hframe⟩

end Buffers

end Bqhelper
end Sm7225
