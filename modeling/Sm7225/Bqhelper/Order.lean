import Sm7225.Bqhelper.RequestSteps

/-!
# Frames in the order of the producer

The BufferQueue is a queue: an acquire takes the oldest queued frame.  So the
frames acquired so far are the oldest queued ones, and the frames submitted for
the first time are some of them, in the same order.
-/

namespace Sm7225
namespace Bqhelper

open Lib

/-!
# The history of the queue
-/

namespace Event

def acquisition? : Event -> Option (BufferItem × AcquiredBuffer)
  | .acquired bi a => some (bi, a)
  | _ => none

def queuedItem? : Event -> Option BufferItem
  | .queued bi => some bi
  | _ => none

def announcement? : Event -> Option Unit
  | .frameAvailable => some ()
  | _ => none

end Event

def acquisitions (log : List Event) : List (BufferItem × AcquiredBuffer) :=
  log.filterMap Event.acquisition?

def queuedItems (log : List Event) : List BufferItem :=
  log.filterMap Event.queuedItem?

def announcements (log : List Event) : Nat :=
  (log.filterMap Event.announcement?).length

theorem acquisitions_map_snd (log : List Event) :
    (acquisitions log).map Prod.snd = acquiredFrames log := by
  unfold acquisitions acquiredFrames
  rw [List.map_filterMap]
  congr 1
  funext e
  cases e <;> rfl

def FollowsQueue (log : List Event) (frames : List AcquiredBuffer) : Prop :=
  exists made : List (BufferItem × AcquiredBuffer),
    made.Sublist (acquisitions log) ∧ made.map Prod.snd = frames

theorem followsQueue_of_sublist {log : List Event} {frames : List AcquiredBuffer}
    (h : frames.Sublist (acquiredFrames log)) : FollowsQueue log frames := by
  rw [← acquisitions_map_snd] at h
  rcases List.sublist_map_iff.mp h with ⟨made, hmade, hframes⟩
  exact ⟨made, hmade, hframes.symm⟩

/-!
# The account of the queue
-/

namespace Buffers

structure Fifo (b : Buffers) : Prop where
  queue : (acquisitions b.log).map Prod.fst ++ b.queue = queuedItems b.log
  count : b.mNumAvailableUnacquiredBuffers + (acquisitions b.log).length =
    announcements b.log
  announced : announcements b.log <= (queuedItems b.log).length
  attempts : forall err waiting, .acquireFailed err waiting ∈ b.log ->
    waiting = true

theorem Fifo.num_le {b : Buffers} (h : Fifo b) :
    b.mNumAvailableUnacquiredBuffers <= b.queue.length := by
  have hlength := congrArg List.length h.queue
  rw [List.length_append, List.length_map] at hlength
  have hcount := h.count
  have hannounced := h.announced
  lia

theorem Fifo.leavesQueue {b b' : Buffers} (h : Fifo b) {tail : List Event}
    (hquiet : LeavesQueue b b' tail) : Fifo b' := by
  have hacquisitions : acquisitions b'.log = acquisitions b.log := by
    unfold acquisitions
    rw [hquiet.log]
    apply filterMap_append_of_silent
    intro e he
    have hsilent := hquiet.silent e he
    cases e <;> first | rfl | cases hsilent
  have hqueued : queuedItems b'.log = queuedItems b.log := by
    unfold queuedItems
    rw [hquiet.log]
    apply filterMap_append_of_silent
    intro e he
    have hsilent := hquiet.silent e he
    cases e <;> first | rfl | cases hsilent
  have hannouncements : announcements b'.log = announcements b.log := by
    unfold announcements
    rw [hquiet.log, filterMap_append_of_silent]
    intro e he
    have hsilent := hquiet.silent e he
    cases e <;> first | rfl | cases hsilent
  constructor
  · rw [hacquisitions, hqueued, hquiet.queue]
    exact h.queue
  · rw [hacquisitions, hannouncements, hquiet.num]
    exact h.count
  · rw [hannouncements, hqueued]
    exact h.announced
  · intro err waiting hmem
    rw [hquiet.log] at hmem
    rcases List.mem_append.mp hmem with hmem | hmem
    · exact h.attempts err waiting hmem
    · rcases hquiet.failed err waiting hmem with ⟨hnum, hwaiting⟩
      have hqueue : b.queue ≠ [] := by
        intro hnil
        have hle := h.num_le
        rw [hnil] at hle
        have hzero : b.mNumAvailableUnacquiredBuffers <= 0 := hle
        lia
      rw [hwaiting]
      simpa using hqueue

theorem Fifo.acquire {b : Buffers} (h : Fifo b) {bi : BufferItem}
    (hqueue : b.queue.head? = some bi) (c : CachedBuffer) :
    Fifo (b.dequeue.acquire c bi) := by
  have hacquisitions : acquisitions (b.dequeue.acquire c bi).log =
      acquisitions b.log ++ [(bi, b.newAcquired c bi)] :=
    filterMap_snoc_of_some (f := Event.acquisition?) rfl _
  have hqueued : queuedItems (b.dequeue.acquire c bi).log = queuedItems b.log :=
    filterMap_snoc_of_none (f := Event.queuedItem?) rfl _
  have hannouncements :
      announcements (b.dequeue.acquire c bi).log = announcements b.log :=
    congrArg List.length (filterMap_snoc_of_none (f := Event.announcement?) rfl _)
  constructor
  · have htail : b.queue = bi :: b.queue.tail :=
      List.eq_cons_of_mem_head? hqueue
    have hsplit := h.queue
    rw [htail] at hsplit
    rw [hacquisitions, hqueued, ← hsplit, List.map_append, List.append_assoc]
    rfl
  · have hcount := h.count
    rw [hacquisitions, hannouncements, List.length_append]
    show b.mNumAvailableUnacquiredBuffers - 1 + _ = _
    simp only [List.length_cons, List.length_nil]
    push_cast
    lia
  · rw [hannouncements, hqueued]
    exact h.announced
  · intro err waiting hmem
    rcases List.mem_append.mp hmem with hmem | hmem
    · exact h.attempts err waiting hmem
    · cases List.mem_singleton.mp hmem

theorem fifo_step {b b' : Buffers} (hstep : Step b b') (h : Fifo b) :
    Fifo b' := by
  rcases step_queue hstep with ⟨bi, c, hqueue, _, rfl⟩ | ⟨tail, hquiet⟩
  · exact h.acquire hqueue c
  · exact h.leavesQueue hquiet

theorem Fifo.queueFrame {b : Buffers} (h : Fifo b) (bi : BufferItem) :
    Fifo (b.queueFrame bi) := by
  have hqueued : queuedItems (b.queueFrame bi).log = queuedItems b.log ++ [bi] :=
    filterMap_snoc_of_some (f := Event.queuedItem?) rfl _
  have hacquisitions : acquisitions (b.queueFrame bi).log = acquisitions b.log :=
    filterMap_snoc_of_none (f := Event.acquisition?) rfl _
  have hannouncements : announcements (b.queueFrame bi).log = announcements b.log :=
    congrArg List.length
      (filterMap_snoc_of_none (f := Event.announcement?) rfl _)
  constructor
  · rw [hacquisitions, hqueued, ← h.queue, List.append_assoc]
    rfl
  · rw [hacquisitions, hannouncements]
    exact h.count
  · have hannounced := h.announced
    rw [hannouncements, hqueued, List.length_append]
    lia
  · intro err waiting hmem
    rcases List.mem_append.mp hmem with hmem | hmem
    · exact h.attempts err waiting hmem
    · cases List.mem_singleton.mp hmem

theorem Fifo.countAvailable {b : Buffers} (h : Fifo b)
    (hannounced : announcements b.log < (queuedItems b.log).length) :
    Fifo b.countAvailable := by
  have hqueued : queuedItems b.countAvailable.log = queuedItems b.log :=
    filterMap_snoc_of_none (f := Event.queuedItem?) rfl _
  have hacquisitions : acquisitions b.countAvailable.log = acquisitions b.log :=
    filterMap_snoc_of_none (f := Event.acquisition?) rfl _
  have hannouncements :
      announcements b.countAvailable.log = announcements b.log + 1 := by
    unfold announcements Buffers.countAvailable
    rw [filterMap_snoc_of_some (f := Event.announcement?) rfl,
      List.length_append]
    rfl
  constructor
  · rw [hacquisitions, hqueued]
    exact h.queue
  · have hcount := h.count
    rw [hacquisitions, hannouncements]
    show b.mNumAvailableUnacquiredBuffers + 1 + _ = _
    push_cast
    lia
  · rw [hannouncements, hqueued]
    exact hannounced
  · intro err waiting hmem
    rcases List.mem_append.mp hmem with hmem | hmem
    · exact h.attempts err waiting hmem
    · cases List.mem_singleton.mp hmem

end Buffers

/-!
# Runs
-/

/-- {lit}`onFrameAvailable` is only called for a frame that was queued. -/
def Announced (s : GraphicBufferSource) : Request -> Prop
  | .call .onFrameAvailable _ =>
      announcements s.log < (queuedItems s.log).length
  | _ => True

instance (s : GraphicBufferSource) (r : Request) : Decidable (Announced s r) := by
  unfold Announced
  split
  · exact inferInstance
  · exact inferInstance

theorem fifo_arrival (s : GraphicBufferSource) (r : Request)
    (h : Buffers.Fifo s.toBuffers) (hr : Announced s r) :
    Buffers.Fifo (s.toBuffers.arrival s.mExecuting r) := by
  rcases Buffers.arrival_queue s.toBuffers s.mExecuting r with
    ⟨item, rfl⟩ | ⟨answers, rfl⟩ | ⟨tail, hquiet⟩
  · exact h.queueFrame item
  · exact h.countAvailable hr
  · exact h.leavesQueue hquiet

theorem fifo_initial : Buffers.Fifo GraphicBufferSource.initial.toBuffers := by
  constructor
  · rfl
  · rfl
  · exact le_refl 0
  · intro err waiting hmem
    cases hmem

theorem reaches_fifo {requests : List Request} {s : GraphicBufferSource}
    (hs : Reaches requests s) (hannounced : Along exec Announced requests .initial) :
    Between s ∧ Buffers.Fifo s.toBuffers :=
  reaches_keeps (fun _ _ => Buffers.fifo_step)
    (fun s r _ h hr => fifo_arrival s r h hr) fifo_initial hs hannounced

/-!
# Producer order
-/

/-- Fresh frames are submitted in queue order and once each, and an acquire is
only attempted while a frame waits in the queue, also in a run that ends with an
abort. -/
structure ProcessedInOrder (log : List Event) : Prop where
  submitted : FollowsQueue log (freshFrames log)
  once : (freshFrames log).Nodup
  acquired : (acquisitions log).map Prod.fst <+: queuedItems log
  attempts : forall err waiting, .acquireFailed err waiting ∈ log ->
    waiting = true

theorem processedInOrder {b : Buffers} (hsound : Buffers.Sound b)
    (hnamed : Buffers.Named b) (h : Buffers.Fifo b) : ProcessedInOrder b.log := by
  have horder : (freshFrames b.log).Sublist (acquiredFrames b.log) :=
    (List.sublist_append_left _ _).trans hsound.order
  constructor
  · exact followsQueue_of_sublist horder
  · exact hnamed.distinct.sublist horder
  · rw [← h.queue]
    exact List.prefix_append _ _
  · exact h.attempts

/-- The frames that wait in the source are in queue order, older than those
that wait in the BufferQueue, and the count of unacquired frames is exact. -/
structure WaitingInOrder (s : GraphicBufferSource) : Prop where
  available : FollowsQueue s.log (freshFrames s.log ++ s.toBuffers.available)
  once : (freshFrames s.log ++ s.toBuffers.available).Nodup
  unacquired : queuedItems s.log =
    (acquisitions s.log).map Prod.fst ++ s.queue
  count : s.mNumAvailableUnacquiredBuffers =
    announcements s.log - (acquisitions s.log).length
  nonneg : 0 <= s.mNumAvailableUnacquiredBuffers
  queued : s.mNumAvailableUnacquiredBuffers <= s.queue.length

theorem frames_follow_producer (requests : List Request)
    (s : GraphicBufferSource)
    (hannounced : Along exec Announced requests .initial) :
    (Ends requests s -> ProcessedInOrder s.log) ∧
      (Reaches requests s -> WaitingInOrder s) := by
  constructor
  · intro hs
    have hkeeps := ends_keeps
      (fun _ _ => Buffers.fifo_step) (fun s r _ h hr => fifo_arrival s r h hr)
      fifo_initial hs hannounced
    rcases hkeeps with ⟨b, hsound, hnamed, hfifo, hlog⟩
    rw [← hlog]
    exact processedInOrder hsound hnamed hfifo
  · intro hs
    rcases reaches_fifo hs hannounced with ⟨hbetween, hfifo⟩
    have hcount := hfifo.count
    constructor
    · exact followsQueue_of_sublist hbetween.sound.order
    · exact hbetween.named.distinct.sublist hbetween.sound.order
    · exact hfifo.queue.symm
    · lia
    · exact hbetween.sound.num
    · exact hfifo.num_le

/-- Three frames for two codec buffers: the third waits in the BufferQueue. -/
def threeFrames : List Request :=
  session 0 [1, 2] ++ deliver (newFrame 0 1 100) ++ deliver (newFrame 1 2 200) ++
    deliver (newFrame 2 3 300)

theorem frames_follow_producer_threeFrames :
    ProcessedInOrder (final threeFrames).log ∧
      WaitingInOrder (final threeFrames) ∧
      (freshFrames (final threeFrames).log).length = 2 ∧
      (final threeFrames).queue.length = 1 := by
  have h := frames_follow_producer threeFrames (final threeFrames)
    (by decide +kernel)
  exact ⟨h.1 (ends_final threeFrames),
    h.2 (reaches_final (by decide +kernel)), by decide +kernel,
    by decide +kernel⟩

end Bqhelper
end Sm7225
