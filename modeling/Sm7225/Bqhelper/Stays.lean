import Sm7225.Bqhelper.FrameRepeat
import Sm7225.Bqhelper.Walks

/-!
# What leaves the latest frame alone

Acquiring, submitting and letting go of frames neither changes the latest frame
nor the fields that repeat it.
-/

namespace Sm7225
namespace Bqhelper

open Lib

def Event.plain (e : Event) : Bool :=
  !e.supersedes && e.offer?.isNone

theorem Event.plain_of_endsLife (e : Event) (h : e.endsLife = true) :
    e.plain = true := by
  cases e <;> first | rfl | cases h

theorem Event.plain_iff (e : Event) :
    e.plain = true <-> e.supersedes = false ∧ e.offer? = none := by
  unfold Event.plain
  simp

/-!
# Buffers
-/

namespace Buffers

structure Keeps (offers : List Offer) (b b' : Buffers) : Prop where
  latest : b'.mLatestBuffer = b.mLatestBuffer
  calls : exists tail, b'.log = b.log ++ tail ∧
    (forall e, e ∈ tail -> e.supersedes = false) ∧
      tail.filterMap Event.offer? = offers

variable {b b' b'' : Buffers} {offers offers' : List Offer}

theorem Keeps.refl (b : Buffers) : Keeps [] b b :=
  ⟨rfl, [], (List.append_nil _).symm, fun _ he => (List.not_mem_nil he).elim, rfl⟩

theorem Keeps.trans (h : Keeps offers b b') (h' : Keeps offers' b' b'') :
    Keeps (offers ++ offers') b b'' := by
  rcases h.calls with ⟨tail, hlog, hsupersedes, hoffers⟩
  rcases h'.calls with ⟨tail', hlog', hsupersedes', hoffers'⟩
  refine ⟨h'.latest.trans h.latest, tail ++ tail', ?_, ?_, ?_⟩
  · rw [hlog', hlog, List.append_assoc]
  · intro e he
    rcases List.mem_append.mp he with he | he
    · exact hsupersedes e he
    · exact hsupersedes' e he
  · rw [List.filterMap_append, hoffers, hoffers']

theorem offers_of_plain {tail : List Event} (h : forall e, e ∈ tail -> e.plain = true) :
    tail.filterMap Event.offer? = [] := by
  apply List.filterMap_eq_nil_iff.mpr
  intro e he
  exact (e.plain_iff.mp (h e he)).2

theorem Keeps.of_tail {tail : List Event} (hlatest : b'.mLatestBuffer = b.mLatestBuffer)
    (hlog : b'.log = b.log ++ tail) (hplain : forall e, e ∈ tail -> e.plain = true) :
    Keeps [] b b' := by
  refine ⟨hlatest, tail, hlog, ?_, offers_of_plain hplain⟩
  intro e he
  exact (e.plain_iff.mp (hplain e he)).1

theorem Keeps.of_fields (hlatest : b'.mLatestBuffer = b.mLatestBuffer)
    (hlog : b'.log = b.log) : Keeps [] b b' :=
  .of_tail hlatest (hlog.trans (List.append_nil _).symm)
    fun _ he => (List.not_mem_nil he).elim

theorem Keeps.of_event {e : Event} (hlatest : b'.mLatestBuffer = b.mLatestBuffer)
    (hlog : b'.log = b.log ++ [e]) (hplain : e.plain = true) : Keeps [] b b' := by
  apply Keeps.of_tail hlatest hlog
  intro e' he'
  rw [List.mem_singleton.mp he']
  exact hplain

theorem keeps_note (b : Buffers) {e : Event} (h : e.plain = true) :
    Keeps [] b (b.note e) :=
  .of_event rfl rfl h

theorem keeps_offer (b : Buffers) {e : Event} {offer : Offer}
    (h : e.offer? = some offer) : Keeps [offer] b (b.note e) := by
  refine ⟨rfl, [e], rfl, ?_, ?_⟩
  · intro e' he'
    rw [List.mem_singleton.mp he']
    cases e <;> first | rfl | cases h
  · rw [List.filterMap_cons_some h]
    rfl

theorem keeps_unhold (b : Buffers) (a : AcquiredBuffer) :
    Keeps [] b (b.unhold a) := by
  have hframes := unhold_toFrames b a
  rcases unhold_log b a with ⟨tail, hlog, hends⟩
  apply Keeps.of_tail (congrArg Frames.mLatestBuffer hframes) hlog
  intro e he
  exact e.plain_of_endsLife (hends e he)

theorem keeps_unholdAll (b : Buffers) (as : List AcquiredBuffer) :
    Keeps [] b (b.unholdAll as) := by
  induction as generalizing b with
  | nil => exact .refl b
  | cons a as ih => exact (keeps_unhold b a).trans (ih (b.unhold a))

theorem keeps_autoclose (b : Buffers) (fd : Int) : Keeps [] b (b.autoclose fd) := by
  unfold autoclose
  split
  · exact keeps_note b rfl
  · exact .refl b

end Buffers

/-!
# Functions
-/

def Control.lasting (c : Control) : Control :=
  { c with
    mLastDataspace := 0
    mFrameDropper := none
    clock := CodecClock.initial
    answers := {} }

structure Stays (offers : List Offer) (s t : GraphicBufferSource) : Prop where
  buffers : s.toBuffers.Keeps offers t.toBuffers
  control : t.toControl.lasting = s.toControl.lasting

theorem Stays.trans {offers offers' : List Offer}
    {s t u : GraphicBufferSource} (h : Stays offers s t) (h' : Stays offers' t u) :
    Stays (offers ++ offers') s u :=
  ⟨h.buffers.trans h'.buffers, h'.control.trans h.control⟩

instance : Std.Refl (Stays []) :=
  ⟨fun s => ⟨.refl s.toBuffers, rfl⟩⟩

instance : IsTrans GraphicBufferSource (Stays []) :=
  ⟨fun _ _ _ h h' => h.trans h'⟩

namespace Stays

theorem modifyBuffers {f : Buffers -> Buffers} (h : forall b : Buffers, b.Keeps [] (f b)) :
    Leads (Stays []) (modifyBuffers f) :=
  leads_modify fun s => ⟨h s.toBuffers, rfl⟩

theorem modifyControl {f : Control -> Control}
    (h : forall c, (f c).lasting = c.lasting) : Leads (Stays []) (modifyControl f) :=
  leads_modify fun s => ⟨.refl s.toBuffers, h s.toControl⟩

theorem note {e : Event} (h : e.plain = true) : Leads (Stays []) (note e) :=
  modifyBuffers fun b => b.keeps_note h

theorem unhold (a : AcquiredBuffer) : Leads (Stays []) (unhold a) :=
  modifyBuffers fun b => b.keeps_unhold a

theorem unholdAll (as : List AcquiredBuffer) : Leads (Stays []) (unholdAll as) :=
  modifyBuffers fun b => b.keeps_unholdAll as

theorem intake : Intake (Stays []) where
  answers := fun _ => modifyControl fun _ => rfl
  acquireFailed := fun _ _ => note rfl
  dequeue := modifyBuffers fun _ => .of_fields rfl rfl
  dropFromCache := fun _ => modifyBuffers fun _ => .of_event rfl rfl rfl
  removeSlot := fun _ => modifyBuffers fun _ => .of_fields rfl rfl
  cache := fun _ _ => modifyBuffers fun _ => .of_fields rfl rfl
  acquire := fun _ _ => modifyBuffers fun _ => .of_event rfl rfl rfl
  clearAvailable := modifyBuffers fun _ => .of_fields rfl rfl
  unhold := unhold
  unholdAll := unholdAll

theorem setMaxAcquiredBufferCount (bufferCount : Int) :
    Leads (Stays []) (setMaxAcquiredBufferCount bufferCount) :=
  leads_setMaxAcquiredBufferCount (Stays.note rfl) intake.onBuffersReleased

theorem moveToSubmitted (id : CodecBufferId) (entry : Option AcquiredBuffer)
    (s : GraphicBufferSource) :
    Sat (moveToSubmitted id entry) (fun _ t => Stays [] s t) (fun _ _ => False) s := by
  have hsubmit : s.toBuffers.Keeps [] (s.toBuffers.submit id entry) :=
    .of_fields rfl rfl
  exact ⟨hsubmit.trans (Buffers.keeps_unholdAll _ _), rfl⟩

theorem updateDataspace (item : VideoBuffer) :
    Leads (Stays []) (updateDataspace item) :=
  leads_updateDataspace (fun _ => modifyControl fun _ => rfl) (fun _ _ _ => note rfl) item

end Stays

inductive OfferedAs (origin : Origin) (item : VideoBuffer) (err : Status) :
    List Offer -> Prop where
  | refused (herr : err ≠ .ok) : OfferedAs origin item err []
  | offered : OfferedAs origin item err [{ origin := origin, item := item, err := err }]

theorem componentSubmitBuffer_stays (id : CodecBufferId) (item : VideoBuffer)
    (origin : Origin) (codecTimeUs : Int) (s : GraphicBufferSource) :
    Sat (componentSubmitBuffer id item origin codecTimeUs)
      (fun err t => Stays [{ origin := origin, item := item, err := err }] s t)
      (fun _ t => Stays [] s t) s := by
  unfold componentSubmitBuffer
  rw [sat_bind, sat_get, sat_ite]
  constructor
  · intro _
    exact Std.Refl.refl s
  · intro _
    exact ⟨s.toBuffers.keeps_offer rfl, rfl⟩

theorem submitBuffer_l_stays (item : VideoBuffer) (origin : Origin)
    (s : GraphicBufferSource) :
    Sat (submitBuffer_l item origin)
      (fun err t => exists offers, OfferedAs origin item err offers ∧ Stays offers s t)
      (fun _ t => Stays [] s t) s := by
  unfold submitBuffer_l
  rw [sat_bind, sat_get]
  cases s.mFreeCodecBuffers with
  | nil => exact Std.Refl.refl s
  | cons codecBufferId rest =>
      cases s.clock.calculateCodecTimestamp_l s.mFrameDropper item.mTimestampNs with
      | none => exact ⟨[], .refused (by decide), Std.Refl.refl s⟩
      | some r =>
          rcases r with ⟨codecTimeUs, clock⟩
          have hclock : Stays [] s { s with clock := clock } :=
            ⟨.refl s.toBuffers, rfl⟩
          rw [sat_bind, sat_modifyControl, sat_bind]
          apply (Stays.updateDataspace item _).mono
          · intro _ t ht
            have hfirst := hclock.trans ht
            rw [sat_bind]
            apply (componentSubmitBuffer_stays codecBufferId item origin
              codecTimeUs t).mono
            · intro err u hu
              have hsecond := hfirst.trans hu
              rw [sat_ite]
              constructor
              · intro _
                exact ⟨_, .offered, hsecond⟩
              · intro hok
                rw [not_not] at hok
                rw [hok] at hsecond
                rw [sat_bind]
                apply (Stays.moveToSubmitted codecBufferId _ u).total
                intro _ v hv
                exact ⟨_, .offered, hsecond.trans hv⟩
            · intro _ u hu
              exact hfirst.trans hu
          · intro _ t ht
            exact hclock.trans ht

theorem skipDropOrSubmit_stays (item : VideoBuffer) (s : GraphicBufferSource) :
    Sat (skipDropOrSubmit item)
      (fun err t => exists offers,
        OfferedAs .fresh (s.offsetByStartTime item) err offers ∧ Stays offers s t)
      (fun _ t => Stays [] s t) s := by
  have hdrops : forall timeUs, Leads (Stays []) (frameDropperDrops timeUs) := by
    intro timeUs
    apply leads_get
    intro t
    cases t.mFrameDropper with
    | none => exact leads_pure
    | some dropper =>
        exact .bind (Stays.modifyControl fun _ => rfl) fun _ => leads_pure
  unfold skipDropOrSubmit
  rw [sat_bind, sat_get, sat_ite]
  constructor
  · intro _
    rw [sat_bind]
    apply (hdrops _ s).mono
    · intro drops t ht
      rw [sat_ite]
      constructor
      · intro _
        exact ⟨_, .offered, ht.trans ⟨t.toBuffers.keeps_offer rfl, rfl⟩⟩
      · intro _
        apply (submitBuffer_l_stays _ .fresh t).mono
        · intro err u hu
          rcases hu with ⟨offers, hoffered, hstays⟩
          exact ⟨offers, hoffered, ht.trans hstays⟩
        · intro _ u hu
          exact ht.trans hu
    · intro _ t ht
      exact ht
  · intro _
    exact ⟨[], .refused (by decide), Std.Refl.refl s⟩

end Bqhelper
end Sm7225
