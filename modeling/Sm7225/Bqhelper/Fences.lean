import Mathlib.Data.List.Count
import Mathlib.Data.List.GetD
import Sm7225.Bqhelper.Accounting

/-!
# Release fences

The codec returns a codec buffer together with the descriptor of a fence.  The
descriptors are collected at the frame, and when the frame is given back they
become its release fence.
-/

namespace Sm7225
namespace Bqhelper

open Lib

/-!
# Merging
-/

theorem mergeReleaseFences_fds (fds : List Int) (start num : Nat)
    (h : start + num <= fds.length) :
    (mergeReleaseFences fds start num).fds = (fds.drop start).take num := by
  induction num using Nat.strongRecOn generalizing start with
  | ind num ih =>
      unfold mergeReleaseFences
      by_cases hzero : num = 0
      · rw [if_pos hzero, hzero]
        rfl
      · rw [if_neg hzero]
        by_cases hone : num = 1
        · rw [if_pos hone, hone]
          have hlt : start < fds.length := by lia
          rw [List.drop_eq_getElem_cons hlt]
          show [fds.getD start (-1)] = [fds[start]]
          rw [List.getD_eq_getElem _ (-1) hlt]
        · rw [if_neg hone]
          show (mergeReleaseFences fds start (num / 2)).fds ++
            (mergeReleaseFences fds (start + num / 2) (num - num / 2)).fds = _
          rw [ih (num / 2) (by lia) start (by lia),
            ih (num - num / 2) (by lia) (start + num / 2) (by lia)]
          have hsplit : num = num / 2 + (num - num / 2) := by lia
          rw [hsplit, List.take_add, List.drop_drop, ← hsplit]

theorem mergeReleaseFences_all (fds : List Int) :
    (mergeReleaseFences fds 0 fds.length).fds = fds := by
  rw [mergeReleaseFences_fds fds 0 fds.length (by lia), List.drop_zero,
    List.take_length]

/-!
# What the codec has returned
-/

namespace Event

def returnedFd? (a : AcquiredBuffer) : Event -> Option Int
  | .emptied _ fenceFd (some (some a')) _ =>
      if a' = a ∧ 0 <= fenceFd then some fenceFd else none
  | _ => none

def isReturn (a : AcquiredBuffer) : Event -> Bool
  | .emptied _ _ (some (some a')) _ => decide (a' = a)
  | _ => false

def isReceipt (fd : Int) : Event -> Bool
  | .emptied _ fenceFd _ _ => decide (fenceFd = fd)
  | _ => false

end Event

def returnedFds (log : List Event) (a : AcquiredBuffer) : List Int :=
  log.filterMap (Event.returnedFd? a)

def wasReturned (log : List Event) (a : AcquiredBuffer) : Bool :=
  log.any (Event.isReturn a)

def receipts (log : List Event) (fd : Int) : Nat :=
  log.countP (Event.isReceipt fd)

/-- The fence that a frame is given back with owns every descriptor returned
with it, or is the bare acquire fence if the codec never returned it. -/
def FenceMerges (past : List Event) : Event -> Prop
  | .releaseBuffer a _ _ fence =>
      if wasReturned past a = true then
        fence.map Fence.fds = some (returnedFds past a)
      else
        fence = a.mAcquireFence
  | _ => True

instance (past : List Event) (e : Event) : Decidable (FenceMerges past e) := by
  unfold FenceMerges
  split
  · exact inferInstance
  · exact inferInstance

def BareUnlessReturned (past : List Event) : Event -> Prop
  | .releaseBuffer a _ _ fence =>
      wasReturned past a = false -> fence = a.mAcquireFence
  | _ => True

theorem wasReturned_append (log tail : List Event) (a : AcquiredBuffer) :
    wasReturned (log ++ tail) a = (wasReturned log a || wasReturned tail a) :=
  List.any_append

theorem wasReturned_of_silent {tail : List Event}
    (h : forall e, e ∈ tail -> forall a, e.isReturn a = false) (log : List Event)
    (a : AcquiredBuffer) : wasReturned (log ++ tail) a = wasReturned log a := by
  have htail : wasReturned tail a = false := by
    unfold wasReturned
    rw [List.any_eq_false]
    intro e he
    rw [h e he a]
    exact Bool.false_ne_true
  rw [wasReturned_append, htail, Bool.or_false]

theorem isReturn_endsLife (e : Event) (h : e.endsLife = true)
    (a : AcquiredBuffer) : e.isReturn a = false := by
  cases e <;> first | rfl | cases h

theorem isReturn_of_not_ofFence {e : Event} (h : e.ofFence = false)
    (a : AcquiredBuffer) : e.isReturn a = false := by
  cases e <;> first | rfl | cases h

theorem returnedFd_of_not_isReturn {e : Event} {a : AcquiredBuffer}
    (h : e.isReturn a = false) : e.returnedFd? a = none := by
  cases e with
  | emptied id fenceFd held kept =>
      cases held with
      | none => rfl
      | some entry =>
          cases entry with
          | none => rfl
          | some a' =>
              have hne : a' ≠ a := of_decide_eq_false h
              exact if_neg (fun hand => hne hand.1)
  | _ => rfl

theorem isReturn_of_not_wasReturned {log : List Event} {a : AcquiredBuffer}
    (h : wasReturned log a = false) {e : Event} (he : e ∈ log) :
    e.isReturn a = false := by
  unfold wasReturned at h
  rw [List.any_eq_false] at h
  exact Bool.not_eq_true _ ▸ h e he

namespace Buffers

variable {b b' : Buffers} {owed : List Int}

/-!
# The ledger of descriptors
-/

def pending (live : List LiveBuffer) (fd : Int) : Nat :=
  (live.map (fun l => l.mReleaseFenceFds.count fd)).sum

def Ledger (b : Buffers) (owed : List Int) : Prop :=
  forall fd, 0 <= fd ->
    receipts b.log fd = b.log.count (.closed fd) + b.log.count (.newFence fd) +
      pending b.live fd + owed.count fd

theorem ledger_of_tail (h : Ledger b owed)
    {tail : List Event} (hlog : b'.log = b.log ++ tail)
    (htail : forall e, e ∈ tail -> e.ofFence = false)
    (hlive : b'.live = b.live) : Ledger b' owed := by
  intro fd hfd
  have hreceipts : receipts tail fd = 0 := by
    unfold receipts
    rw [List.countP_eq_zero]
    intro e he hreceipt
    have hsilent := htail e he
    cases e <;> first | cases hsilent; done | cases hreceipt
  have hclosed : tail.count (.closed fd) = 0 := by
    rw [List.count_eq_zero]
    intro hmem
    cases htail _ hmem
  have howned : tail.count (.newFence fd) = 0 := by
    rw [List.count_eq_zero]
    intro hmem
    cases htail _ hmem
  have hold := h fd hfd
  unfold receipts at *
  rw [hlog, hlive, List.countP_append, List.count_append, List.count_append,
    hreceipts, hclosed, howned]
  exact hold

theorem count_map_closed (fds : List Int) (fd : Int) :
    (fds.map Event.closed).count (.closed fd) = fds.count fd :=
  List.count_map_of_injective fds Event.closed
    (fun _ _ h => Event.closed.inj h) fd

theorem count_map_newFence (fds : List Int) (fd : Int) :
    (fds.map Event.newFence).count (.newFence fd) = fds.count fd :=
  List.count_map_of_injective fds Event.newFence
    (fun _ _ h => Event.newFence.inj h) fd

theorem count_lastCalls (l : LiveBuffer) (fd : Int) :
    (b.lastCalls l).count (.closed fd) + (b.lastCalls l).count (.newFence fd) =
      l.mReleaseFenceFds.count fd := by
  have hclosed : forall fds : List Int,
      (fds.map Event.closed).count (.newFence fd) = 0 := by
    intro fds
    rw [List.count_eq_zero]
    intro hmem
    rcases List.mem_map.mp hmem with ⟨fd', _, heq⟩
    cases heq
  have howned : forall fds : List Int,
      (fds.map Event.newFence).count (.closed fd) = 0 := by
    intro fds
    rw [List.count_eq_zero]
    intro hmem
    rcases List.mem_map.mp hmem with ⟨fd', _, heq⟩
    cases heq
  unfold lastCalls
  split
  · split
    · rw [List.count_append, List.count_append, howned, count_map_newFence]
      simp
    · rw [List.count_cons_of_ne (by simp), List.count_cons_of_ne (by simp),
        hclosed, count_map_closed, Nat.add_zero]
  · rw [hclosed, count_map_closed, Nat.add_zero]

theorem receipts_endsLife {tail : List Event}
    (h : forall e, e ∈ tail -> e.endsLife = true) (fd : Int) :
    receipts tail fd = 0 := by
  unfold receipts
  rw [List.countP_eq_zero]
  intro e he hreceipt
  have hends := h e he
  cases e <;> first | cases hends; done | cases hreceipt

theorem Ledger.destroy (h : Ledger b owed) {l : LiveBuffer}
    (hl : l ∈ b.live) : Ledger (b.destroy l) owed := by
  intro fd hfd
  have hold := h fd hfd
  have hcalls := count_lastCalls (b := b) l fd
  have hpending : pending b.live fd =
      l.mReleaseFenceFds.count fd + pending (b.live.erase l) fd := by
    have hperm := (List.perm_cons_erase hl).map
      (fun l => l.mReleaseFenceFds.count fd)
    exact hperm.sum_eq.trans (List.sum_cons)
  have hreceipts : receipts (.destroyed l.ptr :: b.lastCalls l) fd = 0 := by
    apply receipts_endsLife
    exact destroyed_endsLife b l
  unfold receipts at hreceipts hold ⊢
  show (b.log ++ .destroyed l.ptr :: b.lastCalls l).countP _ =
    (b.log ++ .destroyed l.ptr :: b.lastCalls l).count (.closed fd) +
      (b.log ++ .destroyed l.ptr :: b.lastCalls l).count (.newFence fd) +
      pending (b.live.erase l) fd + owed.count fd
  rw [List.countP_append, List.count_append, List.count_append, hreceipts,
    List.count_cons_of_ne (by simp), List.count_cons_of_ne (by simp)]
  lia

theorem Ledger.emptied (h : Ledger b []) (id : CodecBufferId) (fenceFd : Int)
    (held : Option (Option AcquiredBuffer)) (kept : Bool) :
    Ledger (b.note (.emptied id fenceFd held kept)) [fenceFd] := by
  intro fd hfd
  have hold := h fd hfd
  show receipts (b.log ++ [_]) fd = (b.log ++ [_]).count _ +
    (b.log ++ [_]).count _ + pending b.live fd + [fenceFd].count fd
  unfold receipts at hold ⊢
  rw [List.countP_append, List.count_append, List.count_append, hold,
    List.count_nil]
  have hreceipt : [Event.emptied id fenceFd held kept].countP
      (Event.isReceipt fd) = [fenceFd].count fd := by
    rw [List.countP_singleton, List.count_singleton]
    show (if decide (fenceFd = fd) = true then 1 else 0) = _
    simp
  have hclosed : [Event.emptied id fenceFd held kept].count (.closed fd) = 0 := by
    simp
  have howned : [Event.emptied id fenceFd held kept].count (.newFence fd) = 0 := by
    simp
  rw [hreceipt, hclosed, howned]
  lia

theorem Ledger.autoclose {fenceFd : Int} (h : Ledger b [fenceFd]) :
    Ledger (b.autoclose fenceFd) [] := by
  unfold Buffers.autoclose
  by_cases hvalid : 0 <= fenceFd
  · rw [if_pos hvalid]
    intro fd hfd
    have hold := h fd hfd
    show receipts (b.log ++ [Event.closed fenceFd]) fd =
      (b.log ++ [Event.closed fenceFd]).count (.closed fd) +
        (b.log ++ [Event.closed fenceFd]).count (.newFence fd) +
        pending b.live fd + [].count fd
    have hreceipt : [Event.closed fenceFd].countP (Event.isReceipt fd) = 0 := rfl
    have hclosed : [Event.closed fenceFd].count (.closed fd) =
        [fenceFd].count fd :=
      count_map_closed [fenceFd] fd
    have howned : [Event.closed fenceFd].count (.newFence fd) = 0 := by
      simp
    unfold receipts at hold ⊢
    rw [List.countP_append, List.count_append, List.count_append, hold, hreceipt,
      hclosed, howned, List.count_nil]
    lia
  · rw [if_neg hvalid]
    intro fd hfd
    have hold := h fd hfd
    have hne : [fenceFd].count fd = 0 := by
      rw [List.count_eq_zero, List.mem_singleton]
      intro heq
      rw [heq] at hfd
      exact hvalid hfd
    rw [hold, hne]
    rfl

theorem pending_addReleaseFenceFd {a : AcquiredBuffer} (fenceFd fd : Int)
    (live : List LiveBuffer)
    (hdistinct : (live.map LiveBuffer.ptr).Nodup)
    (ha : a ∈ live.map LiveBuffer.ptr) :
    pending (live.map (fun l =>
        if l.ptr = a then l.addReleaseFenceFd fenceFd else l)) fd =
      pending live fd + if 0 <= fenceFd then [fenceFd].count fd else 0 := by
  induction live with
  | nil => cases ha
  | cons l live ih =>
      have hcons := List.nodup_cons.mp hdistinct
      have hpending : forall (l : LiveBuffer) (rest : List LiveBuffer),
          pending (l :: rest) fd = l.mReleaseFenceFds.count fd + pending rest fd :=
        fun _ _ => List.sum_cons
      rw [List.map_cons, hpending, hpending]
      by_cases hptr : l.ptr = a
      · have hrest : live.map (fun l =>
            if l.ptr = a then l.addReleaseFenceFd fenceFd else l) = live := by
          conv_rhs => rw [← List.map_id live]
          apply List.map_congr_left
          intro l' hl'
          have hne : l'.ptr ≠ a := by
            intro heq
            apply hcons.1
            rw [hptr, ← heq]
            exact List.mem_map_of_mem hl'
          exact if_neg hne
        rw [hrest, if_pos hptr]
        unfold LiveBuffer.addReleaseFenceFd
        by_cases hvalid : 0 <= fenceFd
        · simp only [hvalid, if_true, List.count_append]
          lia
        · simp only [hvalid, if_false]
          lia
      · rw [if_neg hptr]
        rcases List.mem_cons.mp ha with ha | ha
        · exact absurd ha.symm hptr
        · rw [ih hcons.2 ha]
          lia

theorem Ledger.addReleaseFenceFd {fenceFd : Int} (h : Ledger b [fenceFd])
    {a : AcquiredBuffer} (hdistinct : b.alive.Nodup) (ha : a ∈ b.alive) :
    Ledger (b.addReleaseFenceFd a fenceFd) [] := by
  intro fd hfd
  have hold := h fd hfd
  have hnew := pending_addReleaseFenceFd fenceFd fd b.live hdistinct ha
  show receipts b.log fd = _ + _ + pending (b.live.map _) fd + _
  rw [hold, hnew]
  by_cases hvalid : 0 <= fenceFd
  · rw [if_pos hvalid]
    simp [Buffers.addReleaseFenceFd]
    lia
  · have hne : [fenceFd].count fd = 0 := by
      rw [List.count_eq_zero, List.mem_singleton]
      intro heq
      rw [heq] at hfd
      exact hvalid hfd
    rw [if_neg hvalid, hne]
    rfl

/-!
# Which fence a frame is given back with
-/

theorem everywhere_destroy {Q : List Event -> Event -> Prop} {l : LiveBuffer}
    (h : Everywhere Q b.log)
    (hother : forall past e, (forall a slot frameNum fence,
      e ≠ .releaseBuffer a slot frameNum fence) -> Q past e)
    (hcall : forall tail, (forall e, e ∈ tail -> Event.endsLife e = true) ->
      b.isCached l.ptr.mBuffer = true ->
      Q (b.log ++ tail) (.releaseBuffer l.ptr l.ptr.mBuffer.mSlot l.ptr.frameNum
        l.getReleaseFence)) :
    Everywhere Q (b.destroy l).log := by
  have htail := destroyed_endsLife b l
  apply everywhere_append.mpr
  refine ⟨h, ?_⟩
  apply everywhereFrom_of_forall
  intro past e future hsplit
  have hpast : forall e', e' ∈ past -> Event.endsLife e' = true := by
    intro e' he'
    apply htail
    rw [hsplit]
    exact List.mem_append_left _ he'
  have he : e ∈ Event.destroyed l.ptr :: b.lastCalls l := by
    rw [hsplit]
    exact List.mem_append_right past List.mem_cons_self
  cases e with
  | releaseBuffer a slot frameNum fence =>
      rcases List.mem_cons.mp he with he | he
      · cases he
      · rcases mem_lastCalls_releaseBuffer he with
          ⟨hcached, rfl, rfl, rfl, rfl⟩
        exact hcall past hpast hcached
  | _ =>
      apply hother
      intro a slot frameNum fence heq
      cases heq

theorem mem_live_erase {l l' : LiveBuffer} (h : l' ∈ b.live.erase l) :
    l' ∈ b.live :=
  List.mem_of_mem_erase h

/-- What holds of the fences in every run, with descriptors in {lit}`owed`. -/
structure Fencing (b : Buffers) (owed : List Int) : Prop where
  got : forall l, l ∈ b.live -> l.mGotReleaseFences = true ->
    wasReturned b.log l.ptr = true
  bare : Everywhere BareUnlessReturned b.log
  returned : forall a, wasReturned b.log a = true -> a ∈ acquiredFrames b.log
  ledger : Ledger b owed

/-- Every descriptor that was returned with a cached frame waits there, and
became part of its release fence. -/
structure Merging (b : Buffers) : Prop where
  fences : forall l, l ∈ b.live -> b.isCached l.ptr.mBuffer = true ->
    l.mReleaseFenceFds = returnedFds b.log l.ptr ∧
      l.mGotReleaseFences = wasReturned b.log l.ptr
  merged : Everywhere FenceMerges b.log

structure LeavesFences (b b' : Buffers) (tail : List Event) : Prop where
  log : b'.log = b.log ++ tail
  live : b'.live = b.live
  cached : forall c, b'.isCached c = true -> b.isCached c = true
  notReturn : forall e, e ∈ tail -> forall a, e.isReturn a = false
  notBack : forall e, e ∈ tail -> forall a slot frameNum fence,
    e ≠ .releaseBuffer a slot frameNum fence

theorem LeavesFences.wasReturned {tail : List Event}
    (h : LeavesFences b b' tail) (a : AcquiredBuffer) :
    wasReturned b'.log a = Bqhelper.wasReturned b.log a := by
  rw [h.log]
  exact wasReturned_of_silent h.notReturn b.log a

theorem LeavesFences.returnedFds {tail : List Event}
    (h : LeavesFences b b' tail) (a : AcquiredBuffer) :
    returnedFds b'.log a = Bqhelper.returnedFds b.log a := by
  rw [h.log]
  apply filterMap_append_of_silent
  intro e he
  exact returnedFd_of_not_isReturn (h.notReturn e he a)

theorem Fencing.leaves (h : Fencing b owed) {tail : List Event}
    (hleaves : LeavesFences b b' tail) {owed' : List Int}
    (hledger : Ledger b' owed') : Fencing b' owed' := by
  refine ⟨?_, ?_, ?_, hledger⟩
  · rw [hleaves.live]
    intro l hl hgot
    rw [hleaves.wasReturned]
    exact h.got l hl hgot
  · rw [hleaves.log]
    apply h.bare.append_silent
    intro e he past
    have hback := hleaves.notBack e he
    cases e with
    | releaseBuffer a slot frameNum fence =>
        exact absurd rfl (hback a slot frameNum fence)
    | _ => trivial
  · intro a ha
    rw [hleaves.wasReturned] at ha
    rw [hleaves.log]
    unfold acquiredFrames
    rw [List.filterMap_append]
    exact List.mem_append_left _ (h.returned a ha)

theorem Merging.leaves (h : Merging b) {tail : List Event}
    (hleaves : LeavesFences b b' tail) : Merging b' := by
  constructor
  · rw [hleaves.live]
    intro l hl hcached
    rw [hleaves.wasReturned, hleaves.returnedFds]
    exact h.fences l hl (hleaves.cached _ hcached)
  · rw [hleaves.log]
    apply h.merged.append_silent
    intro e he past
    have hback := hleaves.notBack e he
    cases e with
    | releaseBuffer a slot frameNum fence =>
        exact absurd rfl (hback a slot frameNum fence)
    | _ => trivial

theorem leavesFences_moves {tail : List Event}
    (hmoves : MovesReferences b b' tail)
    (hfence : forall e, e ∈ tail -> e.ofFence = false) :
    LeavesFences b b' tail := by
  constructor
  · exact hmoves.log
  · exact hmoves.live
  · intro c hc
    unfold isCached at *
    rw [hmoves.dropped] at hc
    exact hc
  · intro e he a
    exact isReturn_of_not_ofFence (hfence e he) a
  · intro e he a slot frameNum fence heq
    have hsilent := hmoves.silent e he
    rw [heq] at hsilent
    cases hsilent

theorem leavesFences_discardSlot (slot : SlotId) (c : CachedBuffer) :
    LeavesFences b ((b.dropFromCache c).removeSlot slot) [.discarded c] := by
  constructor
  · rfl
  · rfl
  · intro c' hc'
    rw [isCached_iff] at *
    intro hmem
    exact hc' (List.mem_cons_of_mem c.id hmem)
  · intro e he a
    rw [List.mem_singleton.mp he]
    rfl
  · intro e he a slot frameNum fence heq
    rw [List.mem_singleton.mp he] at heq
    cases heq

theorem leavesFences_populateSlot (slot : SlotId) (gb : GraphicBuffer) :
    LeavesFences b (b.cache slot gb) [] :=
  ⟨(List.append_nil _).symm, rfl, fun _ hc => hc, by simp, by simp⟩

theorem Fencing.moves (h : Fencing b owed) {tail : List Event}
    (hmoves : MovesReferences b b' tail)
    (hfence : forall e, e ∈ tail -> e.ofFence = false) : Fencing b' owed :=
  h.leaves (leavesFences_moves hmoves hfence)
    (ledger_of_tail h.ledger hmoves.log hfence hmoves.live)

theorem Fencing.discardSlot (h : Fencing b owed) (slot : SlotId)
    (c : CachedBuffer) :
    Fencing ((b.dropFromCache c).removeSlot slot) owed := by
  apply h.leaves (leavesFences_discardSlot slot c)
  refine ledger_of_tail h.ledger rfl ?_ rfl
  intro e he
  rw [List.mem_singleton.mp he]
  rfl

theorem Fencing.populateSlot (h : Fencing b owed) (slot : SlotId)
    (gb : GraphicBuffer) : Fencing (b.cache slot gb) owed :=
  h.leaves (leavesFences_populateSlot slot gb) h.ledger

/-!
# Acquiring a frame
-/

theorem wasReturned_acquire (c : CachedBuffer) (bi : BufferItem)
    (a : AcquiredBuffer) : wasReturned (b.dequeue.acquire c bi).log a =
      wasReturned b.log a := by
  refine wasReturned_of_silent ?_ b.log a
  intro e he a'
  rw [List.mem_singleton.mp he]
  rfl

theorem Fencing.acquire (h : Fencing b owed) (c : CachedBuffer)
    (bi : BufferItem) : Fencing (b.dequeue.acquire c bi) owed := by
  constructor
  · intro l hl hgot
    rw [wasReturned_acquire]
    rcases List.mem_append.mp hl with hl | hl
    · exact h.got l hl hgot
    · rw [List.mem_singleton.mp hl] at hgot
      cases hgot
  · exact h.bare.snoc trivial
  · intro a ha
    rw [wasReturned_acquire] at ha
    rw [acquiredFrames_acquire]
    exact List.mem_append_left _ (h.returned a ha)
  · have hnote : Ledger (b.note (.acquired bi (b.newAcquired c bi))) owed := by
      refine ledger_of_tail h.ledger rfl ?_ rfl
      intro e he
      rw [List.mem_singleton.mp he]
      rfl
    intro fd hfd
    have hold := hnote fd hfd
    have hpending : pending (b.dequeue.acquire c bi).live fd =
        pending b.live fd := by
      show pending (b.live ++ [_]) fd = _
      unfold pending
      rw [List.map_append, List.sum_append]
      rfl
    rw [hpending]
    exact hold

theorem Merging.acquire (h : Merging b) (hfencing : Fencing b owed)
    (hnamed : Named b) (c : CachedBuffer) (bi : BufferItem) :
    Merging (b.dequeue.acquire c bi) := by
  have hnew : Bqhelper.wasReturned b.log (b.newAcquired c bi) = false := by
    rw [← Bool.not_eq_true]
    intro hreturned
    exact hnamed.newAcquired_not_mem c bi (hfencing.returned _ hreturned)
  have hfds : forall a, returnedFds (b.dequeue.acquire c bi).log a =
      returnedFds b.log a := by
    intro a
    exact filterMap_snoc_of_none (f := Event.returnedFd? a) rfl _
  constructor
  · intro l hl hcached
    rw [wasReturned_acquire, hfds]
    rcases List.mem_append.mp hl with hl | hl
    · exact h.fences l hl hcached
    · rw [List.mem_singleton.mp hl]
      constructor
      · symm
        apply List.filterMap_eq_nil_iff.mpr
        intro e he
        exact returnedFd_of_not_isReturn (isReturn_of_not_wasReturned hnew he)
      · exact hnew.symm
  · exact h.merged.snoc trivial

/-!
# Letting go
-/

theorem Fencing.destroy (h : Fencing b owed) {l : LiveBuffer}
    (hl : l ∈ b.live) : Fencing (b.destroy l) owed := by
  have htail := destroyed_endsLife b l
  have hreturned : forall a, Bqhelper.wasReturned (b.destroy l).log a =
      Bqhelper.wasReturned b.log a := by
    intro a
    apply wasReturned_of_silent
    intro e he a'
    exact isReturn_endsLife e (htail e he) a'
  constructor
  · intro l' hl' hgot
    rw [hreturned]
    exact h.got l' (mem_live_erase hl') hgot
  · apply everywhere_destroy h.bare
    · intro past e he
      cases e with
      | releaseBuffer a slot frameNum fence =>
          exact absurd rfl (he a slot frameNum fence)
      | _ => trivial
    · intro tail hends _ hnot
      have hsame := wasReturned_of_silent
        (fun e he => isReturn_endsLife e (hends e he)) b.log l.ptr
      rw [hsame] at hnot
      unfold LiveBuffer.getReleaseFence
      have hgot : l.mGotReleaseFences = false := by
        rw [← Bool.not_eq_true]
        intro hgot
        rw [h.got l hl hgot] at hnot
        cases hnot
      rw [hgot]
      rfl
  · intro a ha
    rw [hreturned] at ha
    show a ∈ acquiredFrames (b.log ++ _)
    unfold acquiredFrames
    rw [List.filterMap_append]
    exact List.mem_append_left _ (h.returned a ha)
  · exact h.ledger.destroy hl

theorem Merging.destroy (h : Merging b) {l : LiveBuffer} (hl : l ∈ b.live) :
    Merging (b.destroy l) := by
  have htail := destroyed_endsLife b l
  have hreturned : forall tail a,
      (forall e, e ∈ tail -> Event.endsLife e = true) ->
      Bqhelper.wasReturned (b.log ++ tail) a = Bqhelper.wasReturned b.log a := by
    intro tail a hends
    exact wasReturned_of_silent
      (fun e he => isReturn_endsLife e (hends e he)) b.log a
  have hfds : forall tail a,
      (forall e, e ∈ tail -> Event.endsLife e = true) ->
      Bqhelper.returnedFds (b.log ++ tail) a = Bqhelper.returnedFds b.log a := by
    intro tail a hends
    apply filterMap_append_of_silent
    intro e he
    exact returnedFd_of_not_isReturn (isReturn_endsLife e (hends e he) a)
  constructor
  · intro l' hl' hcached
    have hold := h.fences l' (mem_live_erase hl') hcached
    have hreturned' := hreturned _ l'.ptr htail
    have hfds' := hfds _ l'.ptr htail
    exact ⟨hold.1.trans hfds'.symm, hold.2.trans hreturned'.symm⟩
  · apply everywhere_destroy h.merged
    · intro past e he
      cases e with
      | releaseBuffer a slot frameNum fence =>
          exact absurd rfl (he a slot frameNum fence)
      | _ => trivial
    · intro tail hends hcached
      have hold := h.fences l hl hcached
      show if Bqhelper.wasReturned (b.log ++ tail) l.ptr = true then _ else _
      rw [hreturned tail l.ptr hends, hfds tail l.ptr hends, ← hold.1, ← hold.2]
      unfold LiveBuffer.getReleaseFence
      cases l.mGotReleaseFences with
      | true =>
          show some (mergeReleaseFences l.mReleaseFenceFds 0
            l.mReleaseFenceFds.length).fds = some l.mReleaseFenceFds
          rw [mergeReleaseFences_all]
      | false => rfl

theorem Fencing.unhold (h : Fencing b owed) (a : AcquiredBuffer) :
    Fencing (b.unhold a) owed := by
  rcases unhold_cases b a with ⟨hunhold, _⟩ | ⟨l, hl, _, _, hunhold⟩
  · rw [hunhold]
    exact ⟨h.got, h.bare, h.returned, h.ledger⟩
  · rw [hunhold]
    exact Fencing.destroy (b := b.forget a)
      ⟨h.got, h.bare, h.returned, h.ledger⟩ hl

theorem Merging.unhold (h : Merging b) (a : AcquiredBuffer) :
    Merging (b.unhold a) := by
  rcases unhold_cases b a with ⟨hunhold, _⟩ | ⟨l, hl, _, _, hunhold⟩
  · rw [hunhold]
    exact ⟨h.fences, h.merged⟩
  · rw [hunhold]
    exact Merging.destroy (b := b.forget a) ⟨h.fences, h.merged⟩ hl

theorem fencing_step (hstep : Step b b') (h : Fencing b owed) :
    Fencing b' owed := by
  rcases step_memory hstep with ⟨tail, hmoves, hfence⟩ | ⟨a, _, rfl⟩ |
    ⟨slot, c, _, rfl⟩ | ⟨slot, gb, _, rfl⟩ | ⟨bi, c, _, rfl⟩
  · exact h.moves hmoves hfence
  · exact h.unhold a
  · exact h.discardSlot slot c
  · exact h.populateSlot slot gb
  · exact h.acquire c bi

theorem merging_step (hstep : Step b b') (hfencing : Fencing b owed)
    (hnamed : Named b) (h : Merging b) : Merging b' := by
  rcases step_memory hstep with ⟨tail, hmoves, hfence⟩ | ⟨a, _, rfl⟩ |
    ⟨slot, c, _, rfl⟩ | ⟨slot, gb, _, rfl⟩ | ⟨bi, c, _, rfl⟩
  · exact h.leaves (leavesFences_moves hmoves hfence)
  · exact h.unhold a
  · exact h.leaves (leavesFences_discardSlot slot c)
  · exact h.leaves (leavesFences_populateSlot slot gb)
  · exact h.acquire hfencing hnamed c bi

/-!
# A codec buffer comes back
-/

theorem wasReturned_emptied (id : CodecBufferId) (fenceFd : Int)
    (held : Option (Option AcquiredBuffer)) (kept : Bool) (a : AcquiredBuffer) :
    Bqhelper.wasReturned (b.note (.emptied id fenceFd held kept)).log a =
      (Bqhelper.wasReturned b.log a || decide (held = some (some a))) := by
  show Bqhelper.wasReturned (b.log ++ [_]) a = _
  rw [wasReturned_append]
  cases held with
  | none => rfl
  | some entry =>
      cases entry with
      | none => rfl
      | some a' => simp [Bqhelper.wasReturned, Event.isReturn]

theorem returnedFds_emptied (id : CodecBufferId) (fenceFd : Int)
    (held : Option (Option AcquiredBuffer)) (kept : Bool) (a : AcquiredBuffer) :
    Bqhelper.returnedFds (b.note (.emptied id fenceFd held kept)).log a =
      Bqhelper.returnedFds b.log a ++
        if held = some (some a) ∧ 0 <= fenceFd then [fenceFd] else [] := by
  show (b.log ++ [_]).filterMap (Event.returnedFd? a) = _
  rw [List.filterMap_append]
  congr 1
  cases held with
  | none => rfl
  | some entry =>
      cases entry with
      | none => rfl
      | some a' =>
          by_cases hreturned : a' = a ∧ 0 <= fenceFd
          · simp [Event.returnedFd?, hreturned]
          · simp [Event.returnedFd?, hreturned]

theorem Fencing.emptied (h : Fencing b []) (id : CodecBufferId) (fenceFd : Int)
    (held : Option (Option AcquiredBuffer)) (kept : Bool)
    (hheld : forall a, held = some (some a) -> a ∈ acquiredFrames b.log) :
    Fencing (b.note (.emptied id fenceFd held kept)) [fenceFd] := by
  have hframes : acquiredFrames (b.note (.emptied id fenceFd held kept)).log =
      acquiredFrames b.log :=
    filterMap_snoc_of_none (f := Event.acquiredBuffer?) rfl _
  refine ⟨?_, h.bare.snoc trivial, ?_, h.ledger.emptied id fenceFd held kept⟩
  · intro l hl hgot
    rw [wasReturned_emptied, h.got l hl hgot, Bool.true_or]
  · intro a ha
    rw [wasReturned_emptied, Bool.or_eq_true] at ha
    rw [hframes]
    rcases ha with ha | ha
    · exact h.returned a ha
    · exact hheld a (of_decide_eq_true ha)

theorem leavesFences_takeBack (id : CodecBufferId) :
    LeavesFences b (b.takeBack id) [] :=
  ⟨(List.append_nil _).symm, rfl, fun _ hc => hc, by simp, by simp⟩

theorem leavesFences_autoclose (fd : Int) :
    exists tail, LeavesFences b (b.autoclose fd) tail := by
  unfold Buffers.autoclose
  split
  · refine ⟨[.closed fd], rfl, rfl, fun _ hc => hc, ?_, ?_⟩
    · intro e he a
      rw [List.mem_singleton.mp he]
      rfl
    · intro e he a slot frameNum fence heq
      rw [List.mem_singleton.mp he] at heq
      cases heq
  · exact ⟨[], (List.append_nil _).symm, rfl, fun _ hc => hc, by simp, by simp⟩

theorem Fencing.takeBack (h : Fencing b owed) (id : CodecBufferId) :
    Fencing (b.takeBack id) owed :=
  h.leaves (leavesFences_takeBack id) h.ledger

theorem Fencing.autoclose {fenceFd : Int} (h : Fencing b [fenceFd]) :
    Fencing (b.autoclose fenceFd) [] := by
  rcases leavesFences_autoclose (b := b) fenceFd with ⟨tail, hleaves⟩
  exact h.leaves hleaves h.ledger.autoclose

theorem Merging.autoclose (h : Merging b) (fenceFd : Int) :
    Merging (b.autoclose fenceFd) := by
  rcases leavesFences_autoclose (b := b) fenceFd with ⟨tail, hleaves⟩
  exact h.leaves hleaves

theorem mem_addReleaseFenceFd {a : AcquiredBuffer} {fenceFd : Int}
    {l : LiveBuffer} (h : l ∈ (b.addReleaseFenceFd a fenceFd).live) :
    (l.ptr ≠ a ∧ l ∈ b.live) ∨
    (l.ptr = a ∧ exists l', l' ∈ b.live ∧ l'.ptr = a ∧
      l = l'.addReleaseFenceFd fenceFd) := by
  rcases List.mem_map.mp h with ⟨l', hl', rfl⟩
  by_cases hptr : l'.ptr = a
  · rw [if_pos hptr]
    exact Or.inr ⟨hptr, l', hl', hptr, rfl⟩
  · rw [if_neg hptr]
    exact Or.inl ⟨hptr, hl'⟩

theorem Fencing.addReleaseFenceFd {fenceFd : Int} (h : Fencing b [fenceFd])
    {a : AcquiredBuffer} (hreturned : Bqhelper.wasReturned b.log a = true)
    (hdistinct : b.alive.Nodup) (ha : a ∈ b.alive) :
    Fencing (b.addReleaseFenceFd a fenceFd) [] := by
  refine ⟨?_, h.bare, h.returned, h.ledger.addReleaseFenceFd hdistinct ha⟩
  intro l hl hgot
  rcases mem_addReleaseFenceFd hl with ⟨_, hl⟩ | ⟨hptr, _⟩
  · exact h.got l hl hgot
  · rw [hptr]
    exact hreturned

theorem Merging.emptied (h : Merging b) (id : CodecBufferId) (fenceFd : Int)
    (held : Option (Option AcquiredBuffer)) (kept : Bool)
    (hheld : forall l, l ∈ b.live -> b.isCached l.ptr.mBuffer = true ->
      held = some (some l.ptr) -> fenceFd < 0 ∧ l.mGotReleaseFences = true) :
    Merging (b.note (.emptied id fenceFd held kept)) := by
  refine ⟨?_, h.merged.snoc trivial⟩
  intro l hl hcached
  have hold := h.fences l hl hcached
  rw [wasReturned_emptied, returnedFds_emptied, ← hold.1, ← hold.2]
  by_cases hreturned : held = some (some l.ptr)
  · have hkeeps := hheld l hl hcached hreturned
    have hinvalid : ¬(held = some (some l.ptr) ∧ 0 <= fenceFd) := by
      intro hand
      lia
    rw [if_neg hinvalid, hkeeps.2, List.append_nil, Bool.true_or]
    exact ⟨rfl, rfl⟩
  · have hnot : ¬(held = some (some l.ptr) ∧ 0 <= fenceFd) :=
      fun hand => hreturned hand.1
    rw [if_neg hnot, List.append_nil, decide_eq_false hreturned, Bool.or_false]
    exact ⟨rfl, rfl⟩

theorem Merging.emptied_kept (h : Merging b) (id : CodecBufferId)
    (fenceFd : Int) (kept : Bool) (a : AcquiredBuffer) :
    Merging ((b.note (.emptied id fenceFd (some (some a)) kept)).addReleaseFenceFd
      a fenceFd) := by
  refine ⟨?_, h.merged.snoc trivial⟩
  intro l hl hcached
  show l.mReleaseFenceFds = Bqhelper.returnedFds (b.note _).log l.ptr ∧
    l.mGotReleaseFences = Bqhelper.wasReturned (b.note _).log l.ptr
  rw [wasReturned_emptied, returnedFds_emptied]
  rcases mem_addReleaseFenceFd hl with ⟨hptr, hl⟩ | ⟨hptr, l', hl', hl'ptr, rfl⟩
  · have hold := h.fences l hl hcached
    have hne : ¬(some (some a) = some (some l.ptr)) := by
      intro heq
      exact hptr (Option.some.inj (Option.some.inj heq)).symm
    rw [if_neg (fun hand => hne hand.1), List.append_nil, decide_eq_false hne,
      Bool.or_false]
    exact hold
  · have hold := h.fences l' hl' hcached
    rw [hptr, decide_eq_true rfl, Bool.or_true]
    rw [hl'ptr] at hold
    refine ⟨?_, rfl⟩
    unfold LiveBuffer.addReleaseFenceFd
    by_cases hvalid : 0 <= fenceFd
    · simp [hvalid, hold.1]
    · simp [hvalid, hold.1]

theorem Lives.submitted_alive (h : Lives b) {id : CodecBufferId}
    {a : AcquiredBuffer}
    (hfind : b.mSubmittedCodecBuffers.find? id = some (some a)) :
    a ∈ b.alive := by
  apply (h.holders a).mp
  apply mem_holders.mpr
  right
  right
  left
  exact mem_submitted.mpr ⟨id, (KeyedVector.find_eq_some _ _ _).mp hfind⟩

theorem Fencing.returns (h : Fencing b []) (hlives : Lives b)
    (mExecuting : Bool) (id : CodecBufferId) (fenceFd : Int) :
    Fencing (b.emptied mExecuting id fenceFd) [] := by
  unfold Buffers.emptied
  cases hfind : b.mSubmittedCodecBuffers.find? id with
  | none =>
      exact (h.emptied id fenceFd none false
        (fun a ha => by cases ha)).autoclose
  | some entry =>
      cases entry with
      | none =>
          have hback := (h.emptied id fenceFd (some none) false
            (fun a ha => by cases ha)).takeBack id
          exact hback.autoclose
      | some buffer =>
          have halive := hlives.submitted_alive hfind
          have hheld : forall a, some (some buffer) = some (some a) ->
              a ∈ acquiredFrames b.log := by
            intro a ha
            rw [← Option.some.inj (Option.some.inj ha)]
            exact hlives.acquired buffer halive
          cases mExecuting with
          | true =>
              have hnoted := h.emptied id fenceFd (some (some buffer)) true hheld
              have hreturned : Bqhelper.wasReturned (b.note (.emptied id fenceFd
                  (some (some buffer)) true)).log buffer = true := by
                rw [wasReturned_emptied, decide_eq_true rfl, Bool.or_true]
              exact (hnoted.addReleaseFenceFd hreturned hlives.distinct
                halive).takeBack id
          | false =>
              have hnoted := h.emptied id fenceFd (some (some buffer)) false hheld
              exact ((hnoted.takeBack id).unhold buffer).autoclose

theorem Merging.returns (h : Merging b) (mExecuting : Bool)
    (id : CodecBufferId) (fenceFd : Int)
    (hkeeps : mExecuting = true ∨ forall a, a ∈ b.submittedAt id ->
      b.isCached a.mBuffer = false ∨
        (fenceFd < 0 ∧ exists l, l ∈ b.live ∧ l.ptr = a ∧
          l.mGotReleaseFences = true))
    (hlives : Lives b) : Merging (b.emptied mExecuting id fenceFd) := by
  unfold Buffers.emptied
  cases hfind : b.mSubmittedCodecBuffers.find? id with
  | none =>
      apply Merging.autoclose
      exact h.emptied id fenceFd none false (fun l _ _ heq => by cases heq)
  | some entry =>
      cases entry with
      | none =>
          have hnoted := h.emptied id fenceFd (some none) false
            (fun l _ _ heq => by cases heq)
          exact (hnoted.leaves (leavesFences_takeBack id)).autoclose fenceFd
      | some buffer =>
          cases mExecuting with
          | true =>
              exact (h.emptied_kept id fenceFd true buffer).leaves
                (leavesFences_takeBack id)
          | false =>
              have hmem : buffer ∈ b.submittedAt id :=
                mem_submittedAt.mpr ((KeyedVector.find_eq_some _ _ _).mp hfind)
              have hnoted : Merging (b.note (.emptied id fenceFd
                  (some (some buffer)) false)) := by
                apply h.emptied
                intro l hl hcached heq
                have hptr := Option.some.inj (Option.some.inj heq)
                rcases hkeeps with hexec | hkeeps
                · cases hexec
                rcases hkeeps buffer hmem with hdropped | ⟨hinvalid, l', hl', hptr', hgot⟩
                · rw [hptr, hcached] at hdropped
                  cases hdropped
                · have hsame : l' = l := List.inj_on_of_nodup_map hlives.distinct
                    hl' hl (hptr'.trans hptr)
                  rw [← hsame]
                  exact ⟨hinvalid, hgot⟩
              have hback := hnoted.leaves (leavesFences_takeBack id)
              exact (hback.unhold buffer).autoclose fenceFd

theorem arrival_fences (b : Buffers) (mExecuting : Bool) (r : Request) :
    (exists id fenceFd answers,
      r = .call (.onInputBufferEmptied id fenceFd) answers) ∨
    exists tail, MovesReferences b (b.arrival mExecuting r) tail ∧
      forall e, e ∈ tail -> e.ofFence = false := by
  have hevent : forall {b' : Buffers} (e : Event), b'.toMemory =
      { b.toMemory with locals := b'.locals, log := b.log ++ [e] } ->
      (forall a, a ∈ b'.holders <-> a ∈ b.holders) -> e.ofMemory = false ->
      e.ofFence = false -> exists tail, MovesReferences b b' tail ∧
        forall e, e ∈ tail -> e.ofFence = false := by
    intro b' e hmemory hholders he hfence
    refine ⟨[e], movesReferences_event hmemory hholders he, ?_⟩
    intro e' he'
    rw [List.mem_singleton.mp he']
    exact hfence
  have hnone : exists tail, MovesReferences b b tail ∧
      forall e, e ∈ tail -> Event.ofFence e = false :=
    ⟨[], movesReferences_nil rfl (fun _ => Iff.rfl), by simp⟩
  cases r with
  | queueFrame item =>
      exact Or.inr (hevent (.queued item) rfl (fun _ => Iff.rfl) rfl rfl)
  | call op answers =>
      cases op with
      | onInputBufferEmptied id fenceFd =>
          exact Or.inl ⟨id, fenceFd, answers, rfl⟩
      | onFrameAvailable =>
          exact Or.inr (hevent .frameAvailable rfl (fun _ => Iff.rfl) rfl rfl)
      | onInputBufferAdded id =>
          right
          show exists tail, MovesReferences b (b.added mExecuting id) tail ∧ _
          unfold Buffers.added
          split
          · exact hnone
          · exact hevent (.codecBufferAdded id) rfl (fun _ => Iff.rfl) rfl rfl
      | release =>
          exact Or.inr (hevent .released rfl
            (fun _ => mem_holders_clearCodecBuffers) rfl rfl)
      | _ => exact Or.inr hnone

theorem fencing_arrival (h : Fencing b []) (hlives : Lives b)
    (mExecuting : Bool) (r : Request) :
    Fencing (b.arrival mExecuting r) [] := by
  rcases arrival_fences b mExecuting r with
    ⟨id, fenceFd, answers, rfl⟩ | ⟨tail, hmoves, hfence⟩
  · exact h.returns hlives mExecuting id fenceFd
  · exact h.moves hmoves hfence

theorem fencing_initial : Fencing GraphicBufferSource.initial.toBuffers [] := by
  constructor
  · intro l hl
    cases hl
  · exact everywhere_nil
  · intro a ha
    cases ha
  · intro fd _
    rfl

theorem merging_initial : Merging GraphicBufferSource.initial.toBuffers := by
  constructor
  · intro l hl
    cases hl
  · exact everywhere_nil

end Buffers

/-!
# No release fence is lost
-/

/-- A codec buffer that comes back while the source is not executing costs no
cached frame a release fence: its frame was discarded, or has been returned
before and comes back without a descriptor. -/
def KeepsFence (s : GraphicBufferSource) : Request -> Prop
  | .call (.onInputBufferEmptied id fenceFd) _ =>
      s.mExecuting = true ∨ forall a, a ∈ s.toBuffers.submittedAt id ->
        s.toBuffers.isCached a.mBuffer = false ∨
          (fenceFd < 0 ∧ exists l, l ∈ s.live ∧ l.ptr = a ∧
            l.mGotReleaseFences = true)
  | _ => True

instance (s : GraphicBufferSource) (r : Request) : Decidable (KeepsFence s r) := by
  unfold KeepsFence
  split
  · exact inferInstance
  · exact inferInstance

theorem merging_arrival {s : GraphicBufferSource} {r : Request}
    (h : Buffers.Merging s.toBuffers) (hlives : Buffers.Lives s.toBuffers)
    (hkeeps : KeepsFence s r) :
    Buffers.Merging (s.toBuffers.arrival s.mExecuting r) := by
  rcases Buffers.arrival_fences s.toBuffers s.mExecuting r with
    ⟨id, fenceFd, answers, rfl⟩ | ⟨tail, hmoves, hfence⟩
  · exact h.returns s.mExecuting id fenceFd hkeeps hlives
  · exact h.leaves (Buffers.leavesFences_moves hmoves hfence)

structure Buffers.Fenced (b : Buffers) : Prop where
  accounts : Buffers.Accounts b
  fencing : Buffers.Fencing b []

theorem fenced_step {b b' : Buffers} (hstep : Buffers.Step b b')
    (h : Buffers.Fenced b) : Buffers.Fenced b' :=
  ⟨Buffers.accounts_step hstep h.accounts, Buffers.fencing_step hstep h.fencing⟩

theorem fenced_arrival {b : Buffers} (h : Buffers.Fenced b) (mExecuting : Bool)
    (r : Request) : Buffers.Fenced (b.arrival mExecuting r) :=
  ⟨Buffers.accounts_arrival h.accounts mExecuting r,
    Buffers.fencing_arrival h.fencing h.accounts.lives mExecuting r⟩

theorem fenced_initial : Buffers.Fenced GraphicBufferSource.initial.toBuffers :=
  ⟨Buffers.accounts_initial, Buffers.fencing_initial⟩

/-- Every descriptor that the codec returned so far was closed once, became part
of one fence, or waits at one frame. -/
def FdsAccounted (s : GraphicBufferSource) : Prop :=
  forall fd, 0 <= fd ->
    receipts s.log fd = s.log.count (.closed fd) + s.log.count (.newFence fd) +
      Buffers.pending s.live fd

/-- While every step keeps the fence, each frame is given back with all of them; the
ledger of descriptors needs no condition. -/
theorem release_fences_kept (requests : List Request) (s : GraphicBufferSource) :
    (Along exec KeepsFence requests .initial -> Ends requests s ->
        Everywhere FenceMerges s.log) ∧
      (Reaches requests s -> FdsAccounted s) := by
  constructor
  · intro hkeeps hs
    rcases ends_keeps (P := fun b => Buffers.Fenced b ∧ Buffers.Merging b)
      (fun _ _ hstep h => ⟨fenced_step hstep h.1,
        Buffers.merging_step hstep h.1.fencing h.1.accounts.named h.2⟩)
      (fun s r _ h hr => ⟨fenced_arrival h.1 s.mExecuting r,
        merging_arrival h.2 h.1.accounts.lives hr⟩)
      ⟨fenced_initial, Buffers.merging_initial⟩ hs hkeeps with
      ⟨b, _, _, hb, hlog⟩
    rw [← hlog]
    exact hb.2.merged
  · intro hs
    have hfenced := reaches_keeps (C := fun _ _ => True)
      (fun _ _ => fenced_step)
      (fun s r _ h _ => fenced_arrival h s.mExecuting r) fenced_initial hs
      (along_true requests _)
    intro fd hfd
    have hledger := hfenced.2.fencing.ledger fd hfd
    rw [List.count_nil, Nat.add_zero] at hledger
    exact hledger

/-- A frame comes back with a descriptor while the source executes. -/
def returnedWhileExecuting : List Request :=
  session 0 [1, 2] ++ deliver (newFrame 0 1 100) ++
    [(Op.onInputBufferEmptied 1 9).now]

/-- A frame is submitted, the source stops, and the codec returns the frame with
a valid descriptor. -/
def returnedWhileStopped : List Request :=
  session 0 [1, 2] ++ deliver (newFrame 0 1 100) ++
    [Op.stop.now, (Op.onInputBufferEmptied 1 9).now]

/-- The descriptor becomes part of a fence while the source executes; it is accounted for
also where the source has stopped, and then it is closed. -/
theorem release_fences_kept_returnedWhileExecuting :
    (Everywhere FenceMerges (final returnedWhileExecuting).log ∧
      FdsAccounted (final returnedWhileExecuting) ∧
      .newFence 9 ∈ (final returnedWhileExecuting).log) ∧
    FdsAccounted (final returnedWhileStopped) ∧
      .closed 9 ∈ (final returnedWhileStopped).log := by
  have h := release_fences_kept returnedWhileExecuting (final returnedWhileExecuting)
  have hstopped := release_fences_kept returnedWhileStopped (final returnedWhileStopped)
  constructor
  · exact ⟨h.1 (by decide +kernel) (ends_final returnedWhileExecuting),
      h.2 (reaches_final (by decide +kernel)), by decide +kernel⟩
  · exact ⟨hstopped.2 (reaches_final (by decide +kernel)), by decide +kernel⟩

/-- The descriptor is closed and the frame is given back with the bare acquire
fence. -/
theorem returnedWhileStopped_loses_fence :
    Reaches returnedWhileStopped (final returnedWhileStopped) ∧
      ¬ Everywhere FenceMerges (final returnedWhileStopped).log :=
  ⟨reaches_final (by decide +kernel), by decide +kernel⟩

end Bqhelper
end Sm7225
