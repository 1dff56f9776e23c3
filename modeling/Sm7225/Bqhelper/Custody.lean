import Sm7225.Bqhelper.RequestSteps

/-!
# Who has a codec buffer

A codec buffer is free, or the codec has it together with the frame it was
submitted with, or with none when it carries the end of the stream.  This is
read off the calls alone, and the two lists of the source agree with it.
-/

namespace Sm7225
namespace Bqhelper

open Lib

/-!
# The abstract custody of a codec buffer
-/

inductive Custody where
  | unknown
  | free
  | codec (entry : Option AcquiredBuffer)
  deriving DecidableEq, Repr

namespace Event

def handedOver? : Event -> Option CodecBufferId
  | .submitBuffer id _ _ _ _ _ => some id
  | .submitEos id _ => some id
  | _ => none

def takenOver? : Event -> Option (CodecBufferId × Option AcquiredBuffer)
  | .submitBuffer id item _ _ _ err =>
      if err = .ok then some (id, some item.mBuffer) else none
  | .submitEos id err => if err = .ok then some (id, none) else none
  | _ => none

def ofCodec : Event -> Bool
  | .codecBufferAdded _ => true
  | .emptied _ _ _ _ => true
  | .released => true
  | .submitBuffer _ _ _ _ _ _ => true
  | .submitEos _ _ => true
  | _ => false

end Event

def Custody.next (id : CodecBufferId) (c : Custody) : Event -> Custody
  | .codecBufferAdded id' => if id' = id then .free else c
  | .submitBuffer id' item _ _ _ err =>
      if id' = id ∧ err = .ok then .codec (some item.mBuffer) else c
  | .submitEos id' err => if id' = id ∧ err = .ok then .codec none else c
  | .emptied id' _ _ _ =>
      match c with
      | .codec entry => if id' = id then .free else .codec entry
      | c => c
  | .released => .unknown
  | _ => c

def custody (log : List Event) (id : CodecBufferId) : Custody :=
  replay (Custody.next id) .unknown log

def addedIds (log : List Event) : List CodecBufferId :=
  replay (fun ids e =>
    match e with
    | .codecBufferAdded id => ids ++ [id]
    | .released => []
    | _ => ids) [] log

/-- A codec buffer is handed to the component only while it is free. -/
def HandedWhileFree (past : List Event) (e : Event) : Prop :=
  forall id, e.handedOver? = some id -> custody past id = .free

theorem custody_snoc (log : List Event) (e : Event) (id : CodecBufferId) :
    custody (log ++ [e]) id = (custody log id).next id e :=
  replay_snoc _ _ _ _

theorem next_takenOver {e : Event} {id' : CodecBufferId}
    {entry : Option AcquiredBuffer} (h : e.takenOver? = some (id', entry))
    (id : CodecBufferId) (c : Custody) :
    c.next id e = if id' = id then .codec entry else c := by
  cases e with
  | submitBuffer id'' item origin codecTimeUs fence err =>
      by_cases herr : err = .ok
      · simp [Event.takenOver?, herr] at h
        simp [Custody.next, herr, h]
      · simp [Event.takenOver?, herr] at h
  | submitEos id'' err =>
      by_cases herr : err = .ok
      · simp [Event.takenOver?, herr] at h
        simp [Custody.next, herr, h]
      · simp [Event.takenOver?, herr] at h
  | _ => cases h

theorem next_failed {e : Event} {id' : CodecBufferId}
    (hid : e.handedOver? = some id') (h : e.takenOver? = none)
    (id : CodecBufferId) (c : Custody) : c.next id e = c := by
  cases e with
  | submitBuffer id'' item origin codecTimeUs fence err =>
      by_cases herr : err = .ok
      · simp [Event.takenOver?, herr] at h
      · simp [Custody.next, herr]
  | submitEos id'' err =>
      by_cases herr : err = .ok
      · simp [Event.takenOver?, herr] at h
      · simp [Custody.next, herr]
  | _ => cases hid

theorem addedIds_handedOver {e : Event} {id : CodecBufferId}
    (hid : e.handedOver? = some id) (log : List Event) :
    addedIds (log ++ [e]) = addedIds log := by
  unfold addedIds
  rw [replay_snoc]
  cases e <;> first | rfl | cases hid

theorem custody_append {tail : List Event}
    (h : forall e, e ∈ tail -> e.ofCodec = false) (log : List Event)
    (id : CodecBufferId) : custody (log ++ tail) id = custody log id := by
  apply replay_append_of_silent
  intro e he c
  have hsilent := h e he
  cases e <;> first | rfl | cases hsilent

theorem addedIds_append {tail : List Event}
    (h : forall e, e ∈ tail -> e.ofCodec = false) (log : List Event) :
    addedIds (log ++ tail) = addedIds log := by
  apply replay_append_of_silent
  intro e he c
  have hsilent := h e he
  cases e <;> first | rfl | cases hsilent

theorem handedWhileFree_append {log tail : List Event}
    (h : Everywhere HandedWhileFree log)
    (htail : forall e, e ∈ tail -> e.ofCodec = false) :
    Everywhere HandedWhileFree (log ++ tail) := by
  apply h.append_silent
  intro e he past id hid
  have hsilent := htail e he
  cases e <;> first | cases hid; done | cases hsilent

namespace Buffers

variable {b b' : Buffers}

/-!
# The custody the source keeps
-/

def custodyOf (b : Buffers) (id : CodecBufferId) : Custody :=
  match b.mSubmittedCodecBuffers.find? id with
  | some entry => .codec entry
  | none => if id ∈ b.mFreeCodecBuffers then .free else .unknown

structure Kept (b : Buffers) : Prop where
  custody : forall id, b.custodyOf id = custody b.log id
  nodup : b.mFreeCodecBuffers.Nodup
  disjoint : forall id, id ∈ b.mFreeCodecBuffers ->
    b.mSubmittedCodecBuffers.find? id = none
  added : forall id, id ∈ addedIds b.log <-> b.custodyOf id ≠ .unknown
  handed : Everywhere HandedWhileFree b.log

theorem custodyOf_free (h : Kept b) {id : CodecBufferId}
    (hid : id ∈ b.mFreeCodecBuffers) : b.custodyOf id = .free := by
  unfold custodyOf
  rw [h.disjoint id hid]
  exact if_pos hid

structure LeavesCodecs (b b' : Buffers) (tail : List Event) : Prop where
  log : b'.log = b.log ++ tail
  free : b'.mFreeCodecBuffers = b.mFreeCodecBuffers
  submitted : b'.mSubmittedCodecBuffers = b.mSubmittedCodecBuffers
  silent : forall e, e ∈ tail -> e.ofCodec = false

theorem Kept.leaves (h : Kept b) {tail : List Event}
    (hleaves : LeavesCodecs b b' tail) : Kept b' := by
  have hsame : forall id, b'.custodyOf id = b.custodyOf id := by
    intro id
    unfold custodyOf
    rw [hleaves.free, hleaves.submitted]
  constructor
  · intro id
    rw [hsame, hleaves.log, custody_append hleaves.silent]
    exact h.custody id
  · rw [hleaves.free]
    exact h.nodup
  · rw [hleaves.free, hleaves.submitted]
    exact h.disjoint
  · intro id
    rw [hsame, hleaves.log, addedIds_append hleaves.silent]
    exact h.added id
  · rw [hleaves.log]
    exact handedWhileFree_append h.handed hleaves.silent

/-!
# Handing over
-/

theorem Kept.failed (h : Kept b) {e : Event} {id : CodecBufferId}
    (hid : e.handedOver? = some id) (hnone : e.takenOver? = none)
    (hfree : b.mFreeCodecBuffers.head? = some id) : Kept (b.note e) := by
  constructor
  · intro id'
    show b.custodyOf id' = Bqhelper.custody (b.log ++ [e]) id'
    rw [custody_snoc, next_failed hid hnone]
    exact h.custody id'
  · exact h.nodup
  · exact h.disjoint
  · intro id'
    show id' ∈ addedIds (b.log ++ [e]) <-> _
    rw [addedIds_handedOver hid]
    exact h.added id'
  · apply h.handed.snoc
    intro id' hid'
    rw [hid] at hid'
    rw [← Option.some.inj hid', ← h.custody]
    exact custodyOf_free h (List.mem_of_mem_head? hfree)

theorem custodyOf_submit {id : CodecBufferId}
    (hfree : b.mFreeCodecBuffers.head? = some id)
    (entry : Option AcquiredBuffer) (id' : CodecBufferId) :
    (b.submit id entry).custodyOf id' =
      if id = id' then .codec entry else b.custodyOf id' := by
  have hsplit : b.mFreeCodecBuffers = id :: b.mFreeCodecBuffers.tail :=
    List.eq_cons_of_mem_head? hfree
  unfold custodyOf
  show (match (b.mSubmittedCodecBuffers.add id entry).find? id' with
    | some entry => Custody.codec entry
    | none => if id' ∈ b.mFreeCodecBuffers.tail then .free else .unknown) = _
  rw [KeyedVector.find_add]
  by_cases hid : id = id'
  · rw [if_pos hid, if_pos hid.symm]
  · rw [if_neg hid, if_neg (fun heq => hid heq.symm)]
    have hmem : id' ∈ b.mFreeCodecBuffers.tail <-> id' ∈ b.mFreeCodecBuffers := by
      rw [hsplit, List.tail_cons, List.mem_cons]
      constructor
      · exact Or.inr
      · intro hor
        rcases hor with heq | hmem
        · exact absurd heq.symm hid
        · exact hmem
    simp only [hmem]

theorem Kept.submit (h : Kept b) {e : Event} {id : CodecBufferId}
    {entry : Option AcquiredBuffer} (hid : e.handedOver? = some id)
    (htaken : e.takenOver? = some (id, entry))
    (hfree : b.mFreeCodecBuffers.head? = some id) :
    Kept ((b.note e).submit id entry) := by
  have hsplit : b.mFreeCodecBuffers = id :: b.mFreeCodecBuffers.tail :=
    List.eq_cons_of_mem_head? hfree
  have hnodup := h.nodup
  rw [hsplit] at hnodup
  have hafter := custodyOf_submit hfree entry
  have hidFree := custodyOf_free h (List.mem_of_mem_head? hfree)
  constructor
  · intro id'
    show (b.submit id entry).custodyOf id' = Bqhelper.custody (b.log ++ [e]) id'
    rw [hafter, custody_snoc, next_takenOver htaken, h.custody]
  · exact (List.nodup_cons.mp hnodup).2
  · intro id' hid'
    show (b.mSubmittedCodecBuffers.add id entry).find? id' = none
    rw [KeyedVector.find_add, if_neg]
    · apply h.disjoint
      rw [hsplit]
      exact List.mem_cons_of_mem id hid'
    · intro heq
      rw [heq] at hid'
      exact (List.nodup_cons.mp hnodup).1 hid'
  · intro id'
    show id' ∈ addedIds (b.log ++ [e]) <-> (b.submit id entry).custodyOf id' ≠ _
    rw [addedIds_handedOver hid, h.added, hafter]
    by_cases heq : id = id'
    · rw [if_pos heq, ← heq, hidFree]
      simp
    · rw [if_neg heq]
  · apply h.handed.snoc
    intro id' hid'
    rw [hid] at hid'
    rw [← Option.some.inj hid', ← h.custody]
    exact hidFree

theorem step_codec (h : Step b b') :
    (exists tail, LeavesCodecs b b' tail) ∨
    (exists e id, e.handedOver? = some id ∧ e.takenOver? = none ∧
      b.mFreeCodecBuffers.head? = some id ∧ b' = b.note e) ∨
    (exists e id entry, e.handedOver? = some id ∧
      e.takenOver? = some (id, entry) ∧
      b.mFreeCodecBuffers.head? = some id ∧ b' = (b.note e).submit id entry) := by
  have hquiet : forall {b'' : Buffers}, b''.log = b.log ->
      b''.mFreeCodecBuffers = b.mFreeCodecBuffers ->
      b''.mSubmittedCodecBuffers = b.mSubmittedCodecBuffers ->
      exists tail, LeavesCodecs b b'' tail := by
    intro b'' hlog hfree hsubmitted
    exact ⟨[], by rw [hlog, List.append_nil], hfree, hsubmitted, by simp⟩
  have hevent : forall {b'' : Buffers} (e : Event), b''.log = b.log ++ [e] ->
      b''.mFreeCodecBuffers = b.mFreeCodecBuffers ->
      b''.mSubmittedCodecBuffers = b.mSubmittedCodecBuffers ->
      e.ofCodec = false -> exists tail, LeavesCodecs b b'' tail := by
    intro b'' e hlog hfree hsubmitted he
    refine ⟨[e], hlog, hfree, hsubmitted, ?_⟩
    intro e' he'
    rw [List.mem_singleton.mp he']
    exact he
  cases h with
  | note e he =>
      have hsilent : e.ofCodec = false := by
        cases e <;> first | rfl | cases he
      exact Or.inl (hevent e rfl rfl rfl hsilent)
  | unhold a ha =>
      left
      rcases unhold_log b a with ⟨tail, hlog, htail⟩
      have hframes := unhold_toFrames b a
      refine ⟨tail, hlog, by rw [hframes], by rw [hframes], ?_⟩
      intro e he
      have hends := htail e he
      cases e <;> first | rfl | cases hends
  | takeAvailable =>
      left
      unfold Buffers.takeAvailable
      split
      · exact hquiet rfl rfl rfl
      · exact hquiet rfl rfl rfl
  | pushAvailable item hheld horder => exact Or.inl (hquiet rfl rfl rfl)
  | clearAvailable => exact Or.inl (hquiet rfl rfl rfl)
  | setLatest item hheld => exact Or.inl (hquiet rfl rfl rfl)
  | retimeLatest deltaNs => exact Or.inl (hquiet rfl rfl rfl)
  | submitFailed id item origin codecTimeUs err herr hfree hheld horder =>
      exact Or.inr (Or.inl ⟨.submitBuffer id item origin codecTimeUs
        item.mBuffer.getAcquireFenceFd err, id, rfl, if_neg herr, hfree, rfl⟩)
  | submitted id item origin codecTimeUs hfree hheld horder =>
      exact Or.inr (Or.inr ⟨_, id, some item.mBuffer, rfl, rfl, hfree, rfl⟩)
  | eosFailed id err herr hfree =>
      exact Or.inr (Or.inl ⟨.submitEos id err, id, rfl, if_neg herr, hfree, rfl⟩)
  | eosSubmitted id hfree =>
      exact Or.inr (Or.inr ⟨_, id, none, rfl, rfl, hfree, rfl⟩)
  | acquireFailed err hnum => exact Or.inl (hevent _ rfl rfl rfl rfl)
  | discardSlot slot c hslot => exact Or.inl (hevent _ rfl rfl rfl rfl)
  | populateSlot slot gb hslot => exact Or.inl (hquiet rfl rfl rfl)
  | acquire bi c hqueue hnum hslot => exact Or.inl (hevent _ rfl rfl rfl rfl)

theorem kept_step (hstep : Step b b') (h : Kept b) : Kept b' := by
  rcases step_codec hstep with ⟨tail, hleaves⟩ |
    ⟨e, id, hid, hnone, hfree, rfl⟩ | ⟨e, id, entry, hid, htaken, hfree, rfl⟩
  · exact h.leaves hleaves
  · exact h.failed hid hnone hfree
  · exact h.submit hid htaken hfree

/-!
# Coming back
-/

theorem mem_snoc_of_ne {id id' : CodecBufferId} {ids : List CodecBufferId}
    (h : id ≠ id') : id' ∈ ids ++ [id] <-> id' ∈ ids := by
  rw [List.mem_append, List.mem_singleton]
  constructor
  · intro hor
    rcases hor with hmem | heq
    · exact hmem
    · exact absurd heq.symm h
  · exact Or.inl

theorem custodyOf_takeBack (id id' : CodecBufferId) :
    (b.takeBack id).custodyOf id' =
      if id = id' then .free else b.custodyOf id' := by
  unfold custodyOf
  show (match (b.mSubmittedCodecBuffers.remove id).find? id' with
    | some entry => Custody.codec entry
    | none =>
        if id' ∈ b.mFreeCodecBuffers ++ [id] then .free else .unknown) = _
  rw [KeyedVector.find_remove]
  by_cases hid : id = id'
  · rw [if_pos hid, if_pos hid.symm, if_pos]
    rw [hid]
    exact List.mem_append_right _ List.mem_cons_self
  · rw [if_neg hid, if_neg (fun heq => hid heq.symm)]
    simp only [mem_snoc_of_ne hid]

theorem addedIds_emptied (log : List Event) (id : CodecBufferId) (fenceFd : Int)
    (held : Option (Option AcquiredBuffer)) (kept : Bool) :
    addedIds (log ++ [.emptied id fenceFd held kept]) = addedIds log :=
  replay_snoc _ _ _ _

theorem Kept.takeBack (h : Kept b) {id : CodecBufferId}
    {entry : Option AcquiredBuffer}
    (hfind : b.mSubmittedCodecBuffers.find? id = some entry) (fenceFd : Int)
    (held : Option (Option AcquiredBuffer)) (kept : Bool) :
    Kept ((b.note (.emptied id fenceFd held kept)).takeBack id) := by
  have hcodec : b.custodyOf id = .codec entry := by
    unfold custodyOf
    rw [hfind]
  have hafter := custodyOf_takeBack (b := b) id
  have hnew : id ∉ b.mFreeCodecBuffers := by
    intro hmem
    rw [h.disjoint id hmem] at hfind
    cases hfind
  constructor
  · intro id'
    show (b.takeBack id).custodyOf id' =
      Bqhelper.custody (b.log ++ [.emptied id fenceFd held kept]) id'
    rw [hafter, custody_snoc, ← h.custody]
    by_cases hid : id = id'
    · rw [if_pos hid, ← hid, hcodec]
      exact (if_pos rfl).symm
    · rw [if_neg hid]
      cases hold : b.custodyOf id' with
      | codec entry' => exact (if_neg hid).symm
      | free => rfl
      | unknown => rfl
  · exact List.nodup_append_comm.mp (List.nodup_cons.mpr ⟨hnew, h.nodup⟩)
  · intro id' hid'
    show (b.mSubmittedCodecBuffers.remove id).find? id' = none
    rw [KeyedVector.find_remove]
    by_cases heq : id' = id
    · rw [if_pos heq]
    · rw [if_neg heq]
      rcases List.mem_append.mp hid' with hid' | hid'
      · exact h.disjoint id' hid'
      · exact absurd (List.mem_singleton.mp hid') heq
  · intro id'
    show id' ∈ addedIds (b.log ++ [.emptied id fenceFd held kept]) <->
      (b.takeBack id).custodyOf id' ≠ _
    rw [addedIds_emptied, h.added, hafter]
    by_cases heq : id = id'
    · rw [if_pos heq, ← heq, hcodec]
      simp
    · rw [if_neg heq]
  · apply h.handed.snoc
    intro id' hid'
    cases hid'

theorem Kept.emptiedUnknown (h : Kept b) {id : CodecBufferId}
    (hfind : b.mSubmittedCodecBuffers.find? id = none) (fenceFd : Int)
    (kept : Bool) : Kept (b.note (.emptied id fenceFd none kept)) := by
  constructor
  · intro id'
    show b.custodyOf id' =
      Bqhelper.custody (b.log ++ [.emptied id fenceFd none kept]) id'
    rw [custody_snoc, ← h.custody]
    cases hold : b.custodyOf id' with
    | codec entry =>
        have hid : id ≠ id' := by
          intro heq
          rw [← heq] at hold
          unfold custodyOf at hold
          rw [hfind] at hold
          by_cases hmem : id ∈ b.mFreeCodecBuffers
          · simp [hmem] at hold
          · simp [hmem] at hold
        exact (if_neg hid).symm
    | free => rfl
    | unknown => rfl
  · exact h.nodup
  · exact h.disjoint
  · intro id'
    show id' ∈ addedIds (b.log ++ [.emptied id fenceFd none kept]) <-> _
    rw [addedIds_emptied]
    exact h.added id'
  · apply h.handed.snoc
    intro id' hid'
    cases hid'

/-!
# Adding and releasing
-/

theorem Kept.addCodecBuffer (h : Kept b) {id : CodecBufferId}
    (hfree : id ∉ b.mFreeCodecBuffers)
    (hfind : b.mSubmittedCodecBuffers.find? id = none) :
    Kept (b.addCodecBuffer id) := by
  have hafter : forall id', (b.addCodecBuffer id).custodyOf id' =
      if id = id' then .free else b.custodyOf id' := by
    intro id'
    unfold custodyOf
    show (match b.mSubmittedCodecBuffers.find? id' with
      | some entry => Custody.codec entry
      | none =>
          if id' ∈ b.mFreeCodecBuffers ++ [id] then .free else .unknown) = _
    by_cases hid : id = id'
    · rw [if_pos hid, ← hid, hfind]
      exact if_pos (List.mem_append_right _ List.mem_cons_self)
    · rw [if_neg hid]
      simp only [mem_snoc_of_ne hid]
  have hadded : addedIds (b.addCodecBuffer id).log = addedIds b.log ++ [id] :=
    replay_snoc _ _ _ _
  constructor
  · intro id'
    show _ = Bqhelper.custody (b.log ++ [.codecBufferAdded id]) id'
    rw [hafter, custody_snoc, ← h.custody]
    rfl
  · exact List.nodup_append_comm.mp (List.nodup_cons.mpr ⟨hfree, h.nodup⟩)
  · intro id' hid'
    rcases List.mem_append.mp hid' with hid' | hid'
    · exact h.disjoint id' hid'
    · rw [List.mem_singleton.mp hid']
      exact hfind
  · intro id'
    rw [hadded, hafter, List.mem_append, h.added, List.mem_singleton]
    by_cases heq : id = id'
    · rw [if_pos heq]
      simp [heq]
    · rw [if_neg heq]
      constructor
      · intro hor
        rcases hor with hknown | hsame
        · exact hknown
        · exact absurd hsame.symm heq
      · exact Or.inl
  · apply h.handed.snoc
    intro id' hid'
    cases hid'

theorem Kept.release (h : Kept b) :
    Kept (b.clearCodecBuffers.note .released) := by
  have hafter : forall id,
      (b.clearCodecBuffers.note .released).custodyOf id = .unknown := by
    intro id
    rfl
  have hadded : addedIds (b.clearCodecBuffers.note .released).log = [] :=
    replay_snoc _ _ _ _
  constructor
  · intro id
    show _ = Bqhelper.custody (b.log ++ [.released]) id
    rw [hafter, custody_snoc]
    rfl
  · exact List.nodup_nil
  · intro id hid
    cases hid
  · intro id
    rw [hadded, hafter]
    simp
  · apply h.handed.snoc
    intro id hid
    cases hid

end Buffers

/-!
# Runs
-/

/-- A codec buffer is only added when the source does not know it. -/
def AddsUnknown (s : GraphicBufferSource) : Request -> Prop
  | .call (.onInputBufferAdded id) _ =>
      id ∉ s.mFreeCodecBuffers ∧ s.mSubmittedCodecBuffers.find? id = none
  | _ => True

instance (s : GraphicBufferSource) (r : Request) :
    Decidable (AddsUnknown s r) := by
  unfold AddsUnknown
  split
  · exact inferInstance
  · exact inferInstance

namespace Buffers

variable {b : Buffers}

theorem Kept.autoclose (h : Kept b) (fd : Int) : Kept (b.autoclose fd) := by
  rcases autoclose_log b fd with ⟨tail, hlog, htail⟩
  have hframes := autoclose_toFrames b fd
  refine h.leaves ⟨hlog, by rw [hframes], by rw [hframes], ?_⟩
  intro e he
  have hends := htail e he
  cases e <;> first | rfl | cases hends

theorem Kept.unhold (h : Kept b) (a : AcquiredBuffer) : Kept (b.unhold a) := by
  rcases unhold_log b a with ⟨tail, hlog, htail⟩
  have hframes := unhold_toFrames b a
  refine h.leaves ⟨hlog, by rw [hframes], by rw [hframes], ?_⟩
  intro e he
  have hends := htail e he
  cases e <;> first | rfl | cases hends

theorem Kept.emptied (h : Kept b) (mExecuting : Bool) (id : CodecBufferId)
    (fenceFd : Int) : Kept (b.emptied mExecuting id fenceFd) := by
  unfold Buffers.emptied
  cases hfind : b.mSubmittedCodecBuffers.find? id with
  | none => exact (h.emptiedUnknown hfind fenceFd false).autoclose fenceFd
  | some entry =>
      cases entry with
      | none =>
          exact (h.takeBack hfind fenceFd (some none) false).autoclose fenceFd
      | some buffer =>
          cases mExecuting with
          | true =>
              have hback := h.takeBack hfind fenceFd (some (some buffer)) true
              exact hback.leaves
                ⟨(List.append_nil _).symm, rfl, rfl, by simp⟩
          | false =>
              have hback := h.takeBack hfind fenceFd (some (some buffer)) false
              exact (hback.unhold buffer).autoclose fenceFd

end Buffers

theorem kept_arrival (s : GraphicBufferSource) (r : Request)
    (h : Buffers.Kept s.toBuffers) (hr : AddsUnknown s r) :
    Buffers.Kept (s.toBuffers.arrival s.mExecuting r) := by
  have hevent : forall {b : Buffers} (e : Event), b.log = s.log ++ [e] ->
      b.mFreeCodecBuffers = s.mFreeCodecBuffers ->
      b.mSubmittedCodecBuffers = s.mSubmittedCodecBuffers ->
      e.ofCodec = false -> Buffers.Kept b := by
    intro b e hlog hfree hsubmitted he
    refine h.leaves ⟨hlog, hfree, hsubmitted, ?_⟩
    intro e' he'
    rw [List.mem_singleton.mp he']
    exact he
  cases r with
  | queueFrame item => exact hevent (.queued item) rfl rfl rfl rfl
  | call op answers =>
      cases op with
      | onFrameAvailable => exact hevent .frameAvailable rfl rfl rfl rfl
      | onInputBufferAdded id =>
          show Buffers.Kept (s.toBuffers.added s.mExecuting id)
          unfold Buffers.added
          split
          · exact h
          · exact h.addCodecBuffer hr.1 hr.2
      | onInputBufferEmptied id fenceFd => exact h.emptied s.mExecuting id fenceFd
      | release => exact h.release
      | _ => exact h

theorem kept_initial : Buffers.Kept GraphicBufferSource.initial.toBuffers := by
  constructor
  · intro id
    rfl
  · exact List.nodup_nil
  · intro id hid
    cases hid
  · intro id
    constructor
    · intro hid
      cases hid
    · intro hid
      exact absurd rfl hid
  · exact everywhere_nil

/-!
# Codec buffers are neither lost nor duplicated
-/

/-- Since the last {lit}`release`, every codec buffer that was added is in
exactly one of the two lists, once, and no other codec buffer is in one.  Which
list it is in, and with which entry, is what the calls say. -/
structure CodecBuffersKept (s : GraphicBufferSource) : Prop where
  known : forall id, id ∈ addedIds s.log <->
    id ∈ s.mFreeCodecBuffers ∨ id ∈ s.mSubmittedCodecBuffers.keys
  once : s.mFreeCodecBuffers.Nodup
  onlyOne : forall id, id ∈ s.mFreeCodecBuffers ->
    id ∉ s.mSubmittedCodecBuffers.keys
  free : forall id, id ∈ s.mFreeCodecBuffers <-> custody s.log id = .free
  submitted : forall id entry,
    s.mSubmittedCodecBuffers.find? id = some entry <->
      custody s.log id = .codec entry

theorem mem_keys_iff_find (m : KeyedVector CodecBufferId (Option AcquiredBuffer))
    (id : CodecBufferId) : id ∈ m.keys <-> m.find? id ≠ none := by
  rw [KeyedVector.mem_keys]
  cases hfind : m.find? id with
  | none => simp [(KeyedVector.find_eq_none m id).mp hfind]
  | some entry =>
      have hmem := (KeyedVector.find_eq_some m id entry).mp hfind
      simp only [ne_eq, reduceCtorEq, not_false_eq_true, iff_true]
      exact ⟨entry, hmem⟩

theorem codecBuffersKept {s : GraphicBufferSource}
    (h : Buffers.Kept s.toBuffers) : CodecBuffersKept s := by
  have hcases : forall id,
      (s.toBuffers.custodyOf id = .free <-> id ∈ s.mFreeCodecBuffers) ∧
      (s.toBuffers.custodyOf id ≠ .unknown <-> id ∈ s.mFreeCodecBuffers ∨
        s.mSubmittedCodecBuffers.find? id ≠ none) ∧
      forall entry, (s.toBuffers.custodyOf id = .codec entry <->
        s.mSubmittedCodecBuffers.find? id = some entry) := by
    intro id
    have hdisjoint := h.disjoint id
    unfold Buffers.custodyOf
    cases hfind : s.mSubmittedCodecBuffers.find? id with
    | none =>
        by_cases hmem : id ∈ s.mFreeCodecBuffers
        · simp [hmem]
        · simp [hmem]
    | some entry =>
        have hnot : id ∉ s.mFreeCodecBuffers := by
          intro hmem
          rw [hdisjoint hmem] at hfind
          cases hfind
        simp [hnot]
  constructor
  · intro id
    rw [h.added, (hcases id).2.1, mem_keys_iff_find]
  · exact h.nodup
  · intro id hid hkey
    exact (mem_keys_iff_find _ id).mp hkey (h.disjoint id hid)
  · intro id
    rw [← (hcases id).1, h.custody]
  · intro id entry
    rw [← (hcases id).2.2 entry, h.custody]

theorem codec_buffers_kept (requests : List Request) (s : GraphicBufferSource)
    (hadds : Along exec AddsUnknown requests .initial) :
    (Ends requests s -> Everywhere HandedWhileFree s.log) ∧
      (Reaches requests s -> CodecBuffersKept s) := by
  constructor
  · intro hs
    rcases ends_keeps (fun _ _ => Buffers.kept_step)
      (fun s r _ h hr => kept_arrival s r h hr) kept_initial hs hadds with
      ⟨b, _, _, hkept, hlog⟩
    rw [← hlog]
    exact hkept.handed
  · intro hs
    have hkept := reaches_keeps (fun _ _ => Buffers.kept_step)
      (fun s r _ h hr => kept_arrival s r h hr) kept_initial hs hadds
    exact codecBuffersKept hkept.2

/-- A frame is submitted and comes back, an unknown codec buffer comes back, and
the end of the stream is submitted. -/
def twoBuffers : List Request :=
  session 0 [1, 2] ++ deliver (newFrame 0 1 100) ++
    [(Op.onInputBufferEmptied 7 3).now, (Op.onInputBufferEmptied 1 4).now,
      Op.signalEndOfInputStream.now]

theorem codec_buffers_kept_twoBuffers :
    Everywhere HandedWhileFree (final twoBuffers).log ∧
      CodecBuffersKept (final twoBuffers) ∧
      (final twoBuffers).mFreeCodecBuffers = [1] ∧
      (final twoBuffers).mSubmittedCodecBuffers.find? 2 = some none := by
  have h := codec_buffers_kept twoBuffers (final twoBuffers) (by decide +kernel)
  exact ⟨h.1 (ends_final twoBuffers), h.2 (reaches_final (by decide +kernel)),
    by decide +kernel, by decide +kernel⟩

end Bqhelper
end Sm7225
