import Sm7225.Bqhelper.Reserve

/-!
# What the component gets is what was queued

A frame that is handed over shows the graphic buffer that the producer has queued, or
has put into the slot before, with its data space and its acquire fence, and a fresh
frame has the time of the queued one, counted from the start time.
-/

namespace Sm7225
namespace Bqhelper

open Lib

/-!
# Frames and queued items
-/

def sent (log : List Event) (slot : SlotId) : Option GraphicBuffer :=
  log.foldl (fun known e => match e with
    | .acquired bi _ => if bi.mSlot = slot then bi.mGraphicBuffer.or known else known
    | _ => known) none

theorem sent_acquired (log : List Event) (bi : BufferItem) (a : AcquiredBuffer)
    (slot : SlotId) :
    sent (log ++ [.acquired bi a]) slot =
      if bi.mSlot = slot then bi.mGraphicBuffer.or (sent log slot) else sent log slot := by
  unfold sent
  rw [List.foldl_append]
  rfl

theorem sent_append {log tail : List Event} (slot : SlotId)
    (h : forall e, e ∈ tail -> e.acquisition? = none) :
    sent (log ++ tail) slot = sent log slot := by
  induction tail generalizing log with
  | nil => rw [List.append_nil]
  | cons e tail ih =>
      have he := h e List.mem_cons_self
      rw [List.append_cons, ih fun e' he' => h e' (List.mem_cons_of_mem e he')]
      unfold sent
      rw [List.foldl_append]
      cases e <;> first | rfl | cases he

def Shows (log : List Event) (item : VideoBuffer) : Prop :=
  exists bi, (bi, item.mBuffer) ∈ acquisitions log ∧ item.mDataspace = bi.mDataSpace

def MadeFor (log : List Event) (item : VideoBuffer) : Prop :=
  exists bi, (bi, item.mBuffer) ∈ acquisitions log ∧ item.mDataspace = bi.mDataSpace ∧
    item.mTimestampNs = bi.mTimestamp

def Presents (starts : Int -> Prop) (log : List Event) (item : VideoBuffer)
    (origin : Origin) : Prop :=
  exists bi, (bi, item.mBuffer) ∈ acquisitions log ∧ item.mDataspace = bi.mDataSpace ∧
    (origin = .fresh -> exists startNs, starts startNs ∧
      (startNs < 0 ∨ startNs <= bi.mTimestamp) ∧
      item.mTimestampNs = bi.mTimestamp - max startNs 0)

/-- The event passes on what was queued. -/
def Intact (starts : Int -> Prop) (past : List Event) : Event -> Prop
  | .acquired bi a =>
      a.frameNum = bi.mFrameNumber ∧ a.mAcquireFence = bi.mFence ∧
        a.mBuffer.mSlot = bi.mSlot ∧
        bi.mGraphicBuffer.or (sent past bi.mSlot) = some a.mBuffer.mGraphicBuffer
  | .submitBuffer _ item origin _ acquireFence _ =>
      acquireFence = item.mBuffer.getAcquireFenceFd ∧ Presents starts past item origin
  | _ => True

theorem mem_acquisitions_append {log : List Event} (tail : List Event)
    {p : BufferItem × AcquiredBuffer} (h : p ∈ acquisitions log) :
    p ∈ acquisitions (log ++ tail) := by
  unfold acquisitions
  rw [List.filterMap_append]
  exact List.mem_append_left _ h

structure Lasting where
  holds : List Event -> Prop
  lasts : forall {log : List Event} (tail : List Event), holds log -> holds (log ++ tail)

namespace Lasting

def always : Lasting where
  holds := fun _ => True
  lasts := fun _ h => h

def shows (item : VideoBuffer) : Lasting where
  holds := fun log => Shows log item
  lasts := by
    intro log tail h
    rcases h with ⟨bi, hmem, hspace⟩
    exact ⟨bi, mem_acquisitions_append tail hmem, hspace⟩

def madeFor (item : VideoBuffer) : Lasting where
  holds := fun log => MadeFor log item
  lasts := by
    intro log tail h
    rcases h with ⟨bi, hmem, hrest⟩
    exact ⟨bi, mem_acquisitions_append tail hmem, hrest⟩

def presents (starts : Int -> Prop) (item : VideoBuffer) (origin : Origin) : Lasting where
  holds := fun log => Presents starts log item origin
  lasts := by
    intro log tail h
    rcases h with ⟨bi, hmem, hrest⟩
    exact ⟨bi, mem_acquisitions_append tail hmem, hrest⟩

end Lasting

theorem MadeFor.shows {log : List Event} {item : VideoBuffer} (h : MadeFor log item)
    (timeNs : Int) : Shows log { item with mTimestampNs := timeNs } := by
  rcases h with ⟨bi, hmem, hspace, _⟩
  exact ⟨bi, hmem, hspace⟩

theorem Shows.presents {starts : Int -> Prop} {log : List Event} {item : VideoBuffer}
    (h : Shows log item) : Presents starts log item .repeated := by
  rcases h with ⟨bi, hmem, hspace⟩
  exact ⟨bi, hmem, hspace, fun hfresh => by cases hfresh⟩

/-!
# The invariant
-/

structure Buffers.Stock.Genuine (log : List Event) (stock : Buffers.Stock) : Prop where
  available : forall item, item ∈ stock.mAvailableBuffers -> MadeFor log item
  latest : forall item, stock.mLatestBuffer = some item -> Shows log item
  slots : forall slot c, stock.mBufferSlots.find? slot = some c ->
    c.mSlot = slot ∧ sent log slot = some c.mGraphicBuffer

theorem Buffers.Stock.Genuine.shrinks {log tail : List Event} {old new : Buffers.Stock}
    (h : old.Genuine log) (hshrinks : old.Shrinks new)
    (htail : forall e, e ∈ tail -> e.acquisition? = none) : new.Genuine (log ++ tail) := by
  constructor
  · intro item hitem
    exact (Lasting.madeFor item).lasts tail
      (h.available item (hshrinks.available.subset hitem))
  · intro item hitem
    rcases hshrinks.latest item hitem with ⟨item', hitem', hbuffer, hspace⟩
    rcases h.latest item' hitem' with ⟨bi, hmem, hspace'⟩
    refine ⟨bi, mem_acquisitions_append tail ?_, hspace.trans hspace'⟩
    rw [hbuffer]
    exact hmem
  · intro slot c hc
    rw [sent_append slot htail]
    exact h.slots slot c (hshrinks.slots slot c hc)

structure Genuine (base : List Event) (starts : Int -> Prop) (s : GraphicBufferSource) :
    Prop where
  log : exists new, s.log = base ++ new ∧ EverywhereFrom (Intact starts) base new
  stock : s.toBuffers.stock.Genuine s.log
  start : starts s.mSkipFramesBeforeNs

def KeepsGenuine (base : List Event) (starts : Int -> Prop) (F : Lasting)
    (s t : GraphicBufferSource) : Prop :=
  Genuine base starts s -> F.holds s.log -> Genuine base starts t ∧ s.log <+: t.log

variable {base : List Event} {starts : Int -> Prop} {F G : Lasting}
variable {s t : GraphicBufferSource} {item : VideoBuffer}

theorem Lasting.of_prefix {log log' : List Event} (h : F.holds log) (hlog : log <+: log') :
    F.holds log' := by
  rcases hlog with ⟨tail, hlog⟩
  rw [← hlog]
  exact F.lasts tail h

instance : Std.Refl (KeepsGenuine base starts F) :=
  ⟨fun _ h _ => ⟨h, List.prefix_rfl⟩⟩

instance : IsTrans GraphicBufferSource (KeepsGenuine base starts F) :=
  ⟨fun _ _ _ h h' hs hF =>
    have ht := h hs hF
    have hu := h' ht.1 (Lasting.of_prefix hF ht.2)
    ⟨hu.1, ht.2.trans hu.2⟩⟩

theorem Genuine.append {tail : List Event} (h : Genuine base starts s)
    (hlog : t.log = s.log ++ tail) (htail : EverywhereFrom (Intact starts) s.log tail)
    (hstock : t.toBuffers.stock.Genuine t.log)
    (hstart : t.mSkipFramesBeforeNs = s.mSkipFramesBeforeNs) : Genuine base starts t := by
  rcases h.log with ⟨new, hnew, hintact⟩
  refine ⟨⟨new ++ tail, by rw [hlog, hnew, List.append_assoc], ?_⟩, hstock, ?_⟩
  · rw [everywhereFrom_append]
    rw [hnew] at htail
    exact ⟨hintact, htail⟩
  · rw [hstart]
    exact h.start

namespace KeepsGenuine

theorem of_genuine {α : Type} {m : Gbs α}
    (h : Genuine base starts s -> F.holds s.log ->
      Sat m (fun _ t => KeepsGenuine base starts F s t)
        (fun _ t => KeepsGenuine base starts F s t) s) :
    Sat m (fun _ t => KeepsGenuine base starts F s t)
      (fun _ t => KeepsGenuine base starts F s t) s := by
  by_cases hs : Genuine base starts s ∧ F.holds s.log
  · exact h hs.1 hs.2
  · exact sat_true.mono (fun _ _ _ hg hf => absurd ⟨hg, hf⟩ hs)
      (fun _ _ _ hg hf => absurd ⟨hg, hf⟩ hs)

theorem modifyControl {f : Control -> Control}
    (h : forall c, (f c).mSkipFramesBeforeNs = c.mSkipFramesBeforeNs) :
    Leads (KeepsGenuine base starts F) (modifyControl f) := by
  apply leads_modify
  intro s hs _
  refine ⟨⟨hs.log, hs.stock, ?_⟩, List.prefix_rfl⟩
  show starts (f s.toControl).mSkipFramesBeforeNs
  rw [h]
  exact hs.start

theorem intact_of_mute {tail : List Event}
    (h : forall e, e ∈ tail -> e.speaks = false ∧ e.acquisition? = none)
    (past : List Event) : EverywhereFrom (Intact starts) past tail := by
  apply everywhereFrom_of_silent
  intro e he past
  rcases h e he with ⟨hspeaks, hacquisition⟩
  cases e <;> trivial

theorem modifyBuffers {f : Buffers -> Buffers} (h : forall b : Buffers, b.Chore (f b)) :
    Leads (KeepsGenuine base starts F) (modifyBuffers f) := by
  apply leads_modify
  intro s hs _
  rcases (h s.toBuffers).log with ⟨tail, hlog, htail⟩
  refine ⟨hs.append hlog (intact_of_mute htail _) ?_ rfl, ⟨tail, hlog.symm⟩⟩
  show (f s.toBuffers).stock.Genuine (f s.toBuffers).log
  rw [hlog]
  exact hs.stock.shrinks (h s.toBuffers).stock fun e he => (htail e he).2

theorem note {e : Event} (he : e.acquisition? = none)
    (hintact : forall log, F.holds log -> Intact starts log e) :
    Leads (KeepsGenuine base starts F) (note e) := by
  apply leads_modify
  intro s hs hF
  have hnew : EverywhereFrom (Intact starts) s.log [e] := ⟨hintact s.log hF, trivial⟩
  refine ⟨hs.append rfl hnew ?_ rfl, List.prefix_append _ _⟩
  apply hs.stock.shrinks (.refl _)
  intro e' he'
  rw [List.mem_singleton.mp he']
  exact he

end KeepsGenuine

/-!
# Acquiring
-/

theorem Genuine.acquire (h : Genuine base starts s) {bi : BufferItem} {c : CachedBuffer}
    {slots : KeyedVector SlotId CachedBuffer} {tail : List Event}
    (htail : forall e, e ∈ tail -> e.speaks = false ∧ e.acquisition? = none)
    (hslot : c.mSlot = bi.mSlot)
    (hsent : bi.mGraphicBuffer.or (sent s.log bi.mSlot) = some c.mGraphicBuffer)
    (hfind : slots.find? bi.mSlot = some c)
    (hothers : forall slot, slot ≠ bi.mSlot ->
      slots.find? slot = s.mBufferSlots.find? slot)
    (hlog : t.log = s.log ++ tail) (havailable : t.mAvailableBuffers = s.mAvailableBuffers)
    (hlatest : t.mLatestBuffer = s.mLatestBuffer) (hslots : t.mBufferSlots = slots)
    (hstart : t.mSkipFramesBeforeNs = s.mSkipFramesBeforeNs) :
    Genuine base starts { t with toBuffers := t.toBuffers.acquire c bi } := by
  have hevents : (t.toBuffers.acquire c bi).log =
      s.log ++ (tail ++ [.acquired bi (t.newAcquired c bi)]) := by
    rw [← List.append_assoc, ← hlog]
    rfl
  have hpast : sent (s.log ++ tail) bi.mSlot = sent s.log bi.mSlot :=
    sent_append _ fun e he => (htail e he).2
  apply h.append hevents
  · rw [everywhereFrom_append]
    refine ⟨KeepsGenuine.intact_of_mute htail _, ⟨rfl, rfl, hslot, ?_⟩, trivial⟩
    rw [hpast]
    exact hsent
  · show Buffers.Stock.Genuine (t.toBuffers.acquire c bi).log _
    rw [hevents]
    constructor
    · intro item hitem
      apply (Lasting.madeFor item).lasts
      apply h.stock.available
      show item ∈ s.mAvailableBuffers
      rw [← havailable]
      exact hitem
    · intro item hitem
      apply (Lasting.shows item).lasts
      apply h.stock.latest
      show s.mLatestBuffer = some item
      rw [← hlatest]
      exact hitem
    · intro slot c' hc'
      have hc : slots.find? slot = some c' := by
        rw [← hslots]
        exact hc'
      rw [← List.append_assoc, sent_acquired, sent_append _ fun e he => (htail e he).2]
      by_cases hsame : bi.mSlot = slot
      · rw [← hsame] at hc ⊢
        rw [hfind] at hc
        rw [if_pos rfl, ← Option.some.inj hc]
        exact ⟨hslot, hsent⟩
      · rw [if_neg hsame]
        apply h.stock.slots
        rw [hothers slot fun heq => hsame heq.symm] at hc
        exact hc
  · exact hstart

theorem madeFor_acquired (b : Buffers) (c : CachedBuffer) (bi : BufferItem) :
    MadeFor (b.acquire c bi).log {
      mBuffer := b.newAcquired c bi
      mTimestampNs := bi.mTimestamp
      mDataspace := bi.mDataSpace } := by
  refine ⟨bi, ?_, rfl, rfl⟩
  have hacquired : acquisitions (b.acquire c bi).log =
      acquisitions b.log ++ [(bi, b.newAcquired c bi)] :=
    filterMap_snoc_of_some (f := Event.acquisition?) rfl _
  rw [hacquired]
  exact List.mem_append_right _ (List.mem_singleton_self _)

theorem Genuine.acquire_new (h : Genuine base starts s) {bi : BufferItem}
    {gb : GraphicBuffer} {tail : List Event} (hgb : bi.mGraphicBuffer = some gb)
    (htail : forall e, e ∈ tail -> e.speaks = false ∧ e.acquisition? = none)
    (hlog : t.log = s.log ++ tail) (havailable : t.mAvailableBuffers = s.mAvailableBuffers)
    (hlatest : t.mLatestBuffer = s.mLatestBuffer)
    (hslots : t.mBufferSlots = s.mBufferSlots)
    (hstart : t.mSkipFramesBeforeNs = s.mSkipFramesBeforeNs) :
    Genuine base starts { t with
      toBuffers := (t.toBuffers.cache bi.mSlot gb).acquire
        { id := t.nextId, mSlot := bi.mSlot, mGraphicBuffer := gb } bi } := by
  let c : CachedBuffer := { id := t.nextId, mSlot := bi.mSlot, mGraphicBuffer := gb }
  have hsent : bi.mGraphicBuffer.or (sent s.log bi.mSlot) = some c.mGraphicBuffer := by
    rw [hgb]
    rfl
  have hfind : (s.mBufferSlots.add bi.mSlot c).find? bi.mSlot = some c := by
    rw [KeyedVector.find_add, if_pos rfl]
  apply h.acquire (t := { t with toBuffers := t.toBuffers.cache bi.mSlot gb }) htail rfl
    hsent hfind ?_ hlog havailable hlatest ?_ hstart
  · intro slot hslot
    rw [KeyedVector.find_add, if_neg hslot]
  · show t.mBufferSlots.add bi.mSlot c = s.mBufferSlots.add bi.mSlot c
    rw [hslots]

theorem adoptItem_genuine (bi : BufferItem) (h : Genuine base starts s) :
    Sat (adoptItem bi)
      (fun item t => (Genuine base starts t ∧ s.log <+: t.log) ∧ MadeFor t.log item)
      (fun _ t => Genuine base starts t ∧ s.log <+: t.log) s := by
  unfold adoptItem cacheBuffer
  simp only [sat_bind, sat_modifyBuffers, sat_get]
  have hslots := h.stock.slots bi.mSlot
  cases hgb : bi.mGraphicBuffer with
  | none =>
      cases hold : s.mBufferSlots.find? bi.mSlot with
      | none =>
          simp only [Buffers.dequeue, hold, sat_throw]
          exact ⟨⟨h.log, h.stock, h.start⟩, List.prefix_rfl⟩
      | some c =>
          simp only [Buffers.dequeue, hold, sat_pure]
          have hknown := h.stock.slots bi.mSlot c hold
          have hsent : bi.mGraphicBuffer.or (sent s.log bi.mSlot) =
              some c.mGraphicBuffer := by
            rw [hgb]
            exact hknown.2
          have hacquired := h.acquire (t := { s with toBuffers := s.toBuffers.dequeue })
            (fun _ he => (List.not_mem_nil he).elim) hknown.1 hsent hold (fun _ _ => rfl)
            (List.append_nil _).symm rfl rfl rfl rfl
          exact ⟨⟨hacquired, List.prefix_append _ _⟩,
            madeFor_acquired s.toBuffers.dequeue c bi⟩
  | some gb =>
      cases hold : s.mBufferSlots.find? bi.mSlot with
      | none =>
          simp only [Buffers.dequeue, hold, sat_pure, sat_bind, sat_modifyBuffers]
          have hacquired := h.acquire_new (t := { s with toBuffers := s.toBuffers.dequeue })
            hgb (fun _ he => (List.not_mem_nil he).elim) (List.append_nil _).symm rfl rfl
            rfl rfl
          exact ⟨⟨hacquired, List.prefix_append _ _⟩,
            madeFor_acquired (s.toBuffers.dequeue.cache bi.mSlot gb) _ bi⟩
      | some old =>
          simp only [Buffers.dequeue, hold, sat_pure, sat_bind, sat_modifyBuffers,
            discardBufferAtSlotIndex_l]
          have hdiscarded : forall e, e ∈ [Event.discarded old] ->
              e.speaks = false ∧ e.acquisition? = none := by
            intro e he
            rw [List.mem_singleton.mp he]
            exact ⟨rfl, rfl⟩
          have hacquired := h.acquire_new
            (t := { s with toBuffers := s.toBuffers.dequeue.dropFromCache old })
            hgb hdiscarded rfl rfl rfl rfl rfl
          refine ⟨⟨hacquired, ?_⟩,
            madeFor_acquired ((s.toBuffers.dequeue.dropFromCache old).cache bi.mSlot gb) _ bi⟩
          show s.log <+: s.log ++ [Event.discarded old] ++ _
          rw [List.append_assoc]
          exact List.prefix_append _ _

def acquiredItem : Except Status VideoBuffer -> Lasting
  | .ok item => .madeFor item
  | .error _ => .always

def takenItem : Option VideoBuffer -> Lasting
  | some item => .madeFor item
  | none => .always

namespace KeepsGenuine

theorem learn {α β : Type} {m : Gbs α} {f : α -> Gbs β} (G : α -> Lasting)
    (h : forall s, Genuine base starts s -> F.holds s.log ->
      Sat m (fun a t => (Genuine base starts t ∧ s.log <+: t.log) ∧ (G a).holds t.log)
        (fun _ t => Genuine base starts t ∧ s.log <+: t.log) s)
    (hf : forall a, Leads (KeepsGenuine base starts (G a)) (f a)) :
    Leads (KeepsGenuine base starts F) (m >>= f) := by
  intro s
  apply of_genuine
  intro hs hF
  rw [sat_bind]
  apply (h s hs hF).mono
  · intro a t ht
    apply (hf a t).mono
    · intro _ u hu _ _
      have hlater := hu ht.1.1 ht.2
      exact ⟨hlater.1, ht.1.2.trans hlater.2⟩
    · intro _ u hu _ _
      have hlater := hu ht.1.1 ht.2
      exact ⟨hlater.1, ht.1.2.trans hlater.2⟩
  · intro _ t ht _ _
    exact ht

theorem of_fact {α : Type} {m : Gbs α} (h : Leads (KeepsGenuine base starts G) m)
    (hG : G.holds s.log) :
    Sat m (fun _ t => KeepsGenuine base starts F s t)
      (fun _ t => KeepsGenuine base starts F s t) s := by
  apply (h s).mono
  · intro _ t ht hs _
    exact ht hs hG
  · intro _ t ht hs _
    exact ht hs hG

end KeepsGenuine

theorem consumerAcquireBuffer_genuine (site : AcquireSite) :
    Leads (KeepsGenuine base starts F) (consumerAcquireBuffer site) := by
  apply leads_get
  intro s
  apply Leads.bind
  · apply KeepsGenuine.modifyControl
    intro c
    cases site with
    | oneFrame => rfl
    | drain => rfl
  · intro _
    apply leads_ite
    · intro _
      apply Leads.bind
      · exact KeepsGenuine.note rfl fun _ _ => trivial
      · intro _
        exact leads_pure
    · intro _
      cases s.queue with
      | nil =>
          apply Leads.bind
          · exact KeepsGenuine.note rfl fun _ _ => trivial
          · intro _
            exact leads_pure
      | cons bi rest => exact leads_pure

theorem acquireBuffer_l_genuine (site : AcquireSite) (h : Genuine base starts s) :
    Sat (acquireBuffer_l site)
      (fun r t => (Genuine base starts t ∧ s.log <+: t.log) ∧ (acquiredItem r).holds t.log)
      (fun _ t => Genuine base starts t ∧ s.log <+: t.log) s := by
  have hfirst : Sat (consumerAcquireBuffer site)
      (fun _ t => Genuine base starts t ∧ s.log <+: t.log)
      (fun _ t => Genuine base starts t ∧ s.log <+: t.log) s :=
    (consumerAcquireBuffer_genuine (F := .always) site s).mono
      (fun _ _ ht => ht h trivial) (fun _ _ ht => ht h trivial)
  apply hfirst.bind
  intro r t ht
  cases r with
  | error err => exact ⟨ht, trivial⟩
  | ok bi =>
      rw [sat_bind]
      apply (adoptItem_genuine bi ht.1).mono
      · intro item u hu
        exact ⟨⟨hu.1.1, ht.2.trans hu.1.2⟩, hu.2⟩
      · intro _ u hu
        exact ⟨hu.1, ht.2.trans hu.2⟩

/-!
# Handing over
-/

namespace KeepsGenuine

theorem backstage : Backstage (KeepsGenuine base starts F) where
  control := fun h => modifyControl fun c => congrArg Standing.mSkipFramesBeforeNs (h c)
  buffers := modifyBuffers
  acquire := by
    intro site s
    apply of_genuine
    intro hs hF
    apply (acquireBuffer_l_genuine site hs).mono
    · intro _ t ht _ _
      exact ht.1
    · intro _ t ht _ _
      exact ht

theorem reserved : Reserved (KeepsGenuine base starts F) :=
  backstage.reserved (fun _ => modifyControl fun _ => rfl) (modifyControl fun _ => rfl)
    (modifyControl fun _ => rfl)

theorem setLatest {item : VideoBuffer} (h : forall log, F.holds log -> Shows log item) :
    Leads (KeepsGenuine base starts F) (Bqhelper.modifyBuffers fun b => b.setLatest item) := by
  apply leads_modify
  intro s hs hF
  refine ⟨⟨hs.log, ⟨hs.stock.available, ?_, hs.stock.slots⟩, hs.start⟩, List.prefix_rfl⟩
  intro item' hitem'
  cases hitem'
  exact h s.log hF

theorem pushAvailable (item : VideoBuffer) :
    Leads (KeepsGenuine base starts (.madeFor item))
      (Bqhelper.modifyBuffers fun b => b.pushAvailable item) := by
  apply leads_modify
  intro s hs hitem
  refine ⟨⟨hs.log, ⟨?_, hs.stock.latest, hs.stock.slots⟩, hs.start⟩, List.prefix_rfl⟩
  intro item' hitem'
  rcases List.mem_append.mp hitem' with hitem' | hitem'
  · exact hs.stock.available item' hitem'
  · rw [List.mem_singleton.mp hitem']
    exact hitem

theorem performActions (itemTimeUs : Int) :
    Leads (KeepsGenuine base starts F) (performActions itemTimeUs) :=
  leads_performActions (fun _ => modifyControl fun _ => rfl)
    (fun _ => modifyControl fun _ => rfl) itemTimeUs

theorem submitBuffer_l (item : VideoBuffer) (origin : Origin) :
    Leads (KeepsGenuine base starts (.presents starts item origin))
      (submitBuffer_l item origin) :=
  backstage.submitBuffer_l (fun _ => modifyControl fun _ => rfl)
    (fun _ => modifyControl fun _ => rfl)
    (fun _ _ _ => note rfl fun _ _ => trivial)
    (fun _ _ _ => note rfl fun _ hitem => ⟨rfl, hitem⟩)

theorem presents_offset (hs : Genuine base starts s) (hitem : MadeFor s.log item)
    (hstarted : s.mSkipFramesBeforeNs < 0 ∨ s.mSkipFramesBeforeNs <= item.mTimestampNs) :
    Presents starts s.log (s.offsetByStartTime item) .fresh := by
  rcases hitem with ⟨bi, hmem, hspace, htime⟩
  unfold Control.offsetByStartTime
  by_cases hoffset : 0 < s.mSkipFramesBeforeNs
  · rw [if_pos hoffset]
    refine ⟨bi, hmem, hspace, fun _ => ⟨s.mSkipFramesBeforeNs, hs.start, ?_, ?_⟩⟩
    · rw [← htime]
      exact hstarted
    · rw [← htime, max_eq_left (Int.le_of_lt hoffset)]
  · rw [if_neg hoffset]
    refine ⟨bi, hmem, hspace, fun _ => ⟨s.mSkipFramesBeforeNs, hs.start, ?_, ?_⟩⟩
    · rw [← htime]
      exact hstarted
    · rw [max_eq_right (not_lt.mp hoffset), Int.sub_zero]
      exact htime

theorem skipDropOrSubmit (item : VideoBuffer) :
    Leads (KeepsGenuine base starts (.madeFor item)) (skipDropOrSubmit item) := by
  intro s
  apply of_genuine
  intro hs hitem
  unfold Bqhelper.skipDropOrSubmit
  rw [sat_bind, sat_get]
  by_cases hstarted :
      s.mSkipFramesBeforeNs < 0 ∨ s.mSkipFramesBeforeNs <= item.mTimestampNs
  · rw [if_pos hstarted]
    apply of_fact (G := .presents starts (s.offsetByStartTime item) .fresh) _
      (presents_offset hs hitem hstarted)
    apply (reserved.frameDropperDrops _).bind
    intro drops
    apply leads_ite
    · intro _
      exact (reserved.note ⟨rfl, rfl⟩).bind fun _ => leads_pure
    · intro _
      exact submitBuffer_l _ _
  · rw [if_neg hstarted]
    exact leads_pure s

theorem processFrame (item : VideoBuffer) :
    Leads (KeepsGenuine base starts (.madeFor item)) (processFrame item) :=
  reserved.processFrame performActions (skipDropOrSubmit item)
    (reserved.recordFrame fun timeNs => setLatest fun _ hitem => hitem.shows timeNs)

theorem takeFrame_genuine (h : Genuine base starts s) :
    Sat takeFrame
      (fun r t => (Genuine base starts t ∧ s.log <+: t.log) ∧ (takenItem r).holds t.log)
      (fun _ t => Genuine base starts t ∧ s.log <+: t.log) s := by
  unfold takeFrame
  rw [sat_bind, sat_get]
  cases hwaiting : s.mAvailableBuffers with
  | nil =>
      apply (acquireBuffer_l_genuine .oneFrame h).bind
      intro r t ht
      cases r with
      | error err => exact ⟨ht.1, trivial⟩
      | ok item => exact ht
  | cons item rest =>
      have hitem : MadeFor s.log item := by
        apply h.stock.available
        show item ∈ s.mAvailableBuffers
        rw [hwaiting]
        exact List.mem_cons_self
      have htake : Leads (KeepsGenuine base starts (.madeFor item))
          (Bqhelper.modifyBuffers Buffers.takeAvailable) :=
        modifyBuffers fun b => b.chore_takeAvailable
      have hafter := htake s
      rw [sat_modifyBuffers] at hafter
      simp only [sat_bind, sat_modifyBuffers, sat_pure]
      have hkept := hafter h hitem
      exact ⟨hkept, Lasting.of_prefix (F := .madeFor item) hitem hkept.2⟩

theorem fillCodecBuffer_l : Leads (KeepsGenuine base starts F) fillCodecBuffer_l := by
  apply leads_get
  intro s
  apply (leads_check _ _).bind
  intro _
  apply leads_ite (fun _ => leads_pure)
  intro _
  apply learn takenItem (fun s hs _ => takeFrame_genuine hs)
  intro r
  cases r with
  | none => exact leads_pure
  | some item =>
      apply (processFrame item).bind
      intro _
      exact (reserved.unhold item.mBuffer).bind fun _ => leads_pure

theorem onFrameAvailable : Leads (KeepsGenuine base starts F) onFrameAvailable := by
  apply Leads.bind
  · exact modifyBuffers fun _ => .of_event rfl ⟨rfl, rfl⟩ rfl
  · intro _
    apply leads_get
    intro s
    apply leads_ite
    · intro _
      exact modifyControl fun _ => rfl
    · intro _
      apply learn acquiredItem (fun s hs _ => acquireBuffer_l_genuine .oneFrame hs)
      intro r
      cases r with
      | error err => exact leads_pure
      | ok buffer =>
          apply Leads.bind
          · exact leads_onBufferAcquired_l (modifyControl fun _ => rfl)
              (pushAvailable buffer) fillCodecBuffer_l
          · intro _
            exact reserved.unhold _

theorem repeatLatestBuffer_l : Leads (KeepsGenuine base starts F) repeatLatestBuffer_l := by
  intro s
  apply of_genuine
  intro hs _
  unfold Bqhelper.repeatLatestBuffer_l
  rw [sat_bind, sat_get]
  cases hlatest : s.mLatestBuffer with
  | none => exact ((leads_check _ _).bind fun _ => leads_pure) s
  | some latest =>
      apply of_fact (G := .presents starts latest .repeated) _
        (hs.stock.latest latest hlatest).presents
      apply (leads_check _ _).bind
      intro _
      apply leads_ite (fun _ => leads_pure)
      intro _
      apply leads_ite (fun _ => leads_pure)
      intro _
      apply (submitBuffer_l latest .repeated).bind
      intro err
      apply leads_ite (fun _ => leads_pure)
      intro _
      exact reserved.countRepeat.bind fun _ => leads_pure

end KeepsGenuine

/-!
# Requests
-/

def startTimeNs (skipFramesBeforeUs : Int) : Int :=
  if 0 < skipFramesBeforeUs ∧ skipFramesBeforeUs <= Int.tdiv int64Max 1000 then
    skipFramesBeforeUs * 1000
  else
    -1

/-- The request may set the start time only in this way. -/
def StartsWithin (starts : Int -> Prop) : Request -> Prop
  | .call (.setStartTimeUs skipFramesBeforeUs) _ => starts (startTimeNs skipFramesBeforeUs)
  | .call (.configure _) _ => starts (-1)
  | _ => True

namespace KeepsGenuine

theorem setStartTimeUs {skipFramesBeforeUs : Int}
    (hstarts : starts (startTimeNs skipFramesBeforeUs)) :
    Leads (KeepsGenuine base starts F) (setStartTimeUs skipFramesBeforeUs) := by
  apply Leads.bind
  · apply leads_modify
    intro s hs _
    exact ⟨⟨hs.log, hs.stock, hstarts⟩, List.prefix_rfl⟩
  · intro _
    exact leads_pure

theorem configure (hstarts : starts (-1)) (args : ConfigureArgs) :
    Leads (KeepsGenuine base starts F) (configure args) := by
  apply reserved.configure
  · intro component
    exact modifyControl fun _ => rfl
  · intro dataSpace
    apply leads_modify
    intro s hs _
    exact ⟨⟨hs.log, hs.stock, hstarts⟩, List.prefix_rfl⟩

theorem perform {op : Op} {answers : Answers}
    (h : StartsWithin starts (.call op answers)) :
    Leads (KeepsGenuine base starts F) (perform op) := by
  have hordinary : op.isOrdinary = true ->
      Leads (KeepsGenuine base starts F) (Bqhelper.perform op) := by
    apply leads_perform reserved _ fillCodecBuffer_l repeatLatestBuffer_l onFrameAvailable
    intro f hf
    exact modifyControl fun c => (hf c).startTime
  have hpace : forall {f : Control -> Control}, (forall c : Control, c.Repaced (f c)) ->
      Leads (KeepsGenuine base starts F) (Bqhelper.modifyControl f) :=
    fun hf => modifyControl fun c => (hf c).keeps fun _ _ => rfl
  cases op with
  | start =>
      apply Leads.bind _ (fun _ => leads_pure)
      exact leads_start (modifyControl fun _ => rfl) fillCodecBuffer_l
        reserved.submitEndOfInputStream_l reserved.startLooper
  | configure args => exact (configure h args).bind fun _ => leads_pure
  | release =>
      apply Leads.bind _ (fun _ => leads_pure)
      exact reserved.release (modifyControl fun _ => rfl)
  | setSuspend suspend suspendStartTimeUs =>
      apply Leads.bind _ (fun _ => leads_pure)
      exact reserved.setSuspend repeatLatestBuffer_l (fun _ _ => modifyControl fun _ => rfl)
        (fun _ => modifyControl fun _ => rfl) suspend suspendStartTimeUs
  | setStartTimeUs skipFramesBeforeUs => exact (setStartTimeUs h).bind fun _ => leads_pure
  | setStopTimeUs stopTimeUs =>
      apply Leads.bind _ (fun _ => leads_pure)
      exact leads_setStopTimeUs (fun _ => modifyControl fun _ => rfl) stopTimeUs
  | setTimeOffsetUs timeOffsetUs => exact leads_setPace hpace rfl
  | setMaxFps maxFps => exact leads_setPace hpace rfl
  | setTimeLapseConfig fps captureFps => exact leads_setPace hpace rfl
  | _ => exact hordinary rfl

theorem exec {r : Request} (h : StartsWithin starts r) :
    Leads (KeepsGenuine base starts F) (exec r) := by
  cases r with
  | queueFrame item =>
      apply Leads.bind
      · exact modifyBuffers fun _ => .of_event rfl ⟨rfl, rfl⟩ rfl
      · intro _
        exact leads_pure
  | call op answers =>
      apply Leads.bind
      · exact modifyControl fun _ => rfl
      · intro _
        exact perform h

end KeepsGenuine

theorem startsWithin_any (r : Request) : StartsWithin (fun _ => True) r := by
  cases r with
  | queueFrame item => trivial
  | call op answers =>
      cases op with
      | _ => trivial

theorem run_genuine {requests : List Request}
    (hrequests : forall r, r ∈ requests -> StartsWithin starts r)
    (hs : Genuine base starts s) :
    Sat (run Bqhelper.exec requests) (fun _ t => Genuine base starts t)
      (fun _ t => Genuine base starts t) s := by
  have hrun : Leads (KeepsGenuine base starts .always) (run Bqhelper.exec requests) :=
    leads_run fun r hr => KeepsGenuine.exec (hrequests r hr)
  apply (hrun s).mono
  · intro _ t ht
    exact (ht hs trivial).1
  · intro _ t ht
    exact (ht hs trivial).1

theorem reaches_genuine {requests : List Request} (h : Reaches requests s) :
    Genuine [] (fun _ => True) s := by
  rcases h with ⟨_, hrun⟩
  have hinitial : Genuine [] (fun _ => True) .initial := by
    refine ⟨⟨[], rfl, trivial⟩, ⟨?_, ?_, ?_⟩, trivial⟩
    · intro item hitem
      exact (List.not_mem_nil hitem).elim
    · intro item hitem
      exact (nomatch hitem)
    · intro slot c hc
      exact (nomatch hc)
  have hend := run_genuine (fun r (_ : r ∈ requests) => startsWithin_any r) hinitial
  rw [sat_of_ok hrun] at hend
  exact hend

/-!
# The frames
-/

def Delivers (starts : Int -> Prop) (past : List Event) : Event -> Prop
  | .submitBuffer _ item origin _ acquireFence _ =>
      exists before after bi, past = before ++ .acquired bi item.mBuffer :: after ∧
        item.mBuffer.frameNum = bi.mFrameNumber ∧
        acquireFence = (bi.mFence.filter fun fence => fence.isValid) ∧
        bi.mGraphicBuffer.or (sent before bi.mSlot) = some item.mBuffer.mBuffer.mGraphicBuffer ∧
        item.mDataspace = bi.mDataSpace ∧
        (origin = .fresh -> exists startNs, starts startNs ∧
          (startNs < 0 ∨ startNs <= bi.mTimestamp) ∧
          item.mTimestampNs = bi.mTimestamp - max startNs 0)
  | _ => True

theorem delivers_of_intact {past : List Event} {e : Event}
    (hpast : Everywhere (Intact fun _ => True) past) (he : Intact starts past e) :
    Delivers starts past e := by
  cases e with
  | submitBuffer id item origin codecTimeUs acquireFence err =>
      rcases he with ⟨hfence, bi, hmem, hspace, hfresh⟩
      rcases List.mem_filterMap.mp hmem with ⟨e, hacquired, hitem⟩
      have he : e = .acquired bi item.mBuffer := by
        cases e with
        | acquired bi' a =>
            cases hitem
            rfl
        | _ => cases hitem
      rw [he] at hacquired
      rcases List.append_of_mem hacquired with ⟨before, after, hsplit⟩
      rw [hsplit] at hpast
      have hintact := (everywhere_append.mp hpast).2.1
      refine ⟨before, after, bi, hsplit, hintact.1, ?_, hintact.2.2.2, hspace, hfresh⟩
      rw [hfence]
      unfold AcquiredBuffer.getAcquireFenceFd
      rw [hintact.2.1]
      cases bi.mFence with
      | none => rfl
      | some fence => rfl
  | _ => trivial

def Delivered (starts : Int -> Prop) (s t : GraphicBufferSource) : Prop :=
  exists new, t.log = s.log ++ new ∧ EverywhereFrom (Delivers starts) s.log new

theorem delivered_of_genuine (h : Genuine s.log starts t)
    (hall : Genuine [] (fun _ => True) t) : Delivered starts s t := by
  rcases h.log with ⟨new, hlog, hintact⟩
  rcases hall.log with ⟨all, hall, hall_intact⟩
  have hwhole : Everywhere (Intact fun _ => True) (s.log ++ new) := by
    rw [← hlog, hall]
    exact hall_intact
  refine ⟨new, hlog, ?_⟩
  apply everywhereFrom_of_forall
  intro past e future hsplit
  rw [hsplit] at hintact hwhole
  apply delivers_of_intact
  · rw [← List.append_assoc] at hwhole
    exact hwhole.of_append
  · exact (everywhereFrom_append.mp hintact).2.1

/-- However the requests end, the component has got what was queued. -/
structure DeliversFrames (starts : Int -> Prop) (s : GraphicBufferSource)
    (requests : List Request) : Prop where
  delivers : Sat (run exec requests) (fun _ t => Delivered starts s t)
    (fun _ t => Delivered starts s t) s

/-- Every frame that the component gets, in every run, shows the graphic buffer that the
BufferQueue has sent for the slot of a queued item, with the frame number, the data space
and the fence of that item.  A fresh frame is not before the start time, and has the time
of the item, counted from a start time that is set. -/
theorem frames_delivered_intact (starts : Int -> Prop) (earlier later : List Request)
    (s : GraphicBufferSource) (hs : Reaches earlier s) (hstart : starts s.mSkipFramesBeforeNs)
    (hlater : forall r, r ∈ later -> StartsWithin starts r) :
    DeliversFrames starts s later := by
  constructor
  have hall : Genuine [] (fun _ => True) s := reaches_genuine hs
  have hbegun : Genuine s.log starts s :=
    ⟨⟨[], (List.append_nil _).symm, trivial⟩, hall.stock, hstart⟩
  have hrun := (run_genuine hlater hbegun).and
    (run_genuine (fun r _ => startsWithin_any r) hall)
  apply hrun.mono
  · intro _ t ht
    exact delivered_of_genuine ht.1 ht.2
  · intro _ t ht
    exact delivered_of_genuine ht.1 ht.2

/-- A recording that starts at 150 microseconds. -/
def startsLate : List Request :=
  session 0 [1, 2, 3] ++ [(Op.setStartTimeUs 150).now]

/-- A frame that is too early, one with a graphic buffer, and another in the same slot. -/
def lateFrames : List Request :=
  deliver (newFrame 0 1 100) ++
    (deliver (newFrame 1 2 200) ++ deliver { newFrame 1 3 300 with mGraphicBuffer := none })

theorem deliver_startsWithin (bi : BufferItem) :
    forall r, r ∈ deliver bi -> StartsWithin starts r := by
  intro r hr
  rcases List.mem_cons.mp hr with hr | hr
  · rw [hr]
    trivial
  · rw [List.mem_singleton.mp hr]
    trivial

theorem lateFrames_startsWithin : forall r, r ∈ lateFrames -> StartsWithin starts r := by
  intro r hr
  rcases List.mem_append.mp hr with hr | hr
  · exact deliver_startsWithin _ r hr
  · rcases List.mem_append.mp hr with hr | hr
    · exact deliver_startsWithin _ r hr
    · exact deliver_startsWithin _ r hr

/-- The time and the graphic buffer of a frame that is handed over. -/
def Event.presented? : Event -> Option (Int × GraphicBuffer)
  | .submitBuffer _ item _ _ _ _ => some (item.mTimestampNs, item.mBuffer.mBuffer.mGraphicBuffer)
  | _ => none

theorem frames_delivered_intact_lateFrames :
    DeliversFrames (fun startNs => startNs = 150000) (final startsLate) lateFrames ∧
      (final (startsLate ++ lateFrames)).log.filterMap Event.presented? =
        [(50000, { handle := 1, format := 1 }), (150000, { handle := 1, format := 1 })] :=
  ⟨frames_delivered_intact _ startsLate lateFrames _ (reaches_final (by decide +kernel))
    (by decide +kernel) lateFrames_startsWithin, by decide +kernel⟩

end Bqhelper
end Sm7225
