import Sm7225.Bqhelper.Stays

/-!
# How the latest frame changes

A request that repeats no frame keeps the latest frame, resets it, or replaces it.
While the source repeats frames, a new frame that is submitted or dropped becomes the
latest, an interval later than its own time.
-/

namespace Sm7225
namespace Bqhelper

open Lib

/-!
# Generations

The generation of the messages never falls while calls are made, and it rises
with each call that supersedes a message.
-/

structure Event.Raises (e : Event) (lo mid : Int) : Prop where
  le : lo <= mid
  supersedes : e.supersedes = true -> lo < mid
  posted : forall generation delayUs, e = .repeatPosted generation delayUs ->
    generation = mid

/-- The generation goes from {lit}`lo` to {lit}`hi` along these calls. -/
inductive Rising : Int -> List Event -> Int -> Prop where
  | done {lo hi : Int} (h : lo <= hi) : Rising lo [] hi
  | call {lo mid hi : Int} {e : Event} {calls : List Event} (h : e.Raises lo mid)
      (hrest : Rising mid calls hi) : Rising lo (e :: calls) hi

section Generations

variable {lo mid hi : Int} {calls calls' : List Event}

theorem Rising.le (h : Rising lo calls hi) : lo <= hi := by
  induction h with
  | done h => exact h
  | call h _ ih => exact h.le.trans ih

theorem Rising.of_le (h : Rising mid calls hi) (hle : lo <= mid) :
    Rising lo calls hi := by
  cases h with
  | done h => exact .done (hle.trans h)
  | call h hrest =>
      refine .call ⟨hle.trans h.le, ?_, h.posted⟩ hrest
      intro hsupersedes
      exact hle.trans_lt (h.supersedes hsupersedes)

theorem Rising.append (h : Rising lo calls mid) (h' : Rising mid calls' hi) :
    Rising lo (calls ++ calls') hi := by
  induction h with
  | done h => exact h'.of_le h
  | call h _ ih => exact .call h (ih h')

theorem Event.raises_same {e : Event} (h : e.supersedes = false) (lo : Int) :
    e.Raises lo lo := by
  refine ⟨Int.le_refl lo, ?_, ?_⟩
  · intro hsupersedes
    rw [h] at hsupersedes
    cases hsupersedes
  · intro generation delayUs he
    rw [he] at h
    cases h

theorem rising_of_quiet (hle : lo <= hi)
    (h : forall e, e ∈ calls -> e.supersedes = false) : Rising lo calls hi := by
  induction calls with
  | nil => exact .done hle
  | cons e calls ih =>
      apply Rising.call (Event.raises_same (h e List.mem_cons_self) lo)
      apply ih
      intro e' he'
      exact h e' (List.mem_cons_of_mem e he')

theorem Rising.quiet (h : Rising lo calls hi) (heq : lo = hi) :
    forall e, e ∈ calls -> e.supersedes = false := by
  induction h with
  | done _ =>
      intro e he
      cases he
  | @call lo mid hi e calls h hrest ih =>
      have hmid := hrest.le
      have hlo := h.le
      intro e' he'
      rcases List.mem_cons.mp he' with heq' | hmem
      · rw [heq']
        cases hsupersedes : e.supersedes with
        | false => rfl
        | true =>
            have hlt := h.supersedes hsupersedes
            lia
      · exact ih (by lia) e' hmem

theorem Rising.posted (h : Rising lo calls hi) (turn : Nat) :
    forall m, m ∈ Bqhelper.posted turn calls ->
      lo < m.generation ∧ Rising m.generation m.since hi ∧ m.turn = turn := by
  induction h with
  | done _ =>
      intro m hm
      cases hm
  | @call lo mid hi e calls h hrest ih =>
      have hlater : forall m, m ∈ Bqhelper.posted turn calls ->
          lo < m.generation ∧ Rising m.generation m.since hi ∧ m.turn = turn := by
        intro m hm
        rcases ih m hm with ⟨hlt, hrising⟩
        exact ⟨h.le.trans_lt hlt, hrising⟩
      cases e with
      | repeatPosted generation delayUs =>
          have hgeneration := h.posted generation delayUs rfl
          intro m hm
          rcases List.mem_cons.mp hm with heq | hmem
          · rw [heq]
            refine ⟨?_, ?_, rfl⟩
            · show lo < generation
              rw [hgeneration]
              exact h.supersedes rfl
            · show Rising generation calls hi
              rw [hgeneration]
              exact hrest
          · exact hlater m hmem
      | _ => exact hlater

theorem Rising.posted_pairwise (h : Rising lo calls hi) (turn : Nat) :
    (Bqhelper.posted turn calls).Pairwise
      fun m m' => m.generation < m'.generation := by
  induction h with
  | done _ => exact .nil
  | @call lo mid hi e calls h hrest ih =>
      cases e with
      | repeatPosted generation delayUs =>
          apply List.Pairwise.cons
          · intro m hm
            show generation < m.generation
            rw [h.posted generation delayUs rfl]
            exact (hrest.posted turn m hm).1
          · exact ih
      | _ => exact ih

end Generations

def NoPosts (calls : List Event) : Prop :=
  forall e, e ∈ calls -> forall generation delayUs,
    e ≠ .repeatPosted generation delayUs

theorem NoPosts.append {calls calls' : List Event} (h : NoPosts calls)
    (h' : NoPosts calls') : NoPosts (calls ++ calls') := by
  intro e he
  rcases List.mem_append.mp he with he | he
  · exact h e he
  · exact h' e he

theorem noPosts_of_quiet {calls : List Event}
    (h : forall e, e ∈ calls -> e.supersedes = false) : NoPosts calls := by
  intro e he generation delayUs heq
  have hquiet := h e he
  rw [heq] at hquiet
  cases hquiet

theorem NoPosts.posted {calls : List Event} (h : NoPosts calls) (turn : Nat) :
    Bqhelper.posted turn calls = [] := by
  induction calls with
  | nil => rfl
  | cons e calls ih =>
      have htail := ih fun e' he' => h e' (List.mem_cons_of_mem e he')
      cases e with
      | repeatPosted generation delayUs =>
          exact absurd rfl (h _ List.mem_cons_self generation delayUs)
      | _ => exact htail

/-!
# Moves
-/

def Refused (offers : List Offer) : Prop :=
  forall offer, offer ∈ offers -> offer.err ≠ .ok

def LastTaken (item : VideoBuffer) (offers : List Offer) : Prop :=
  exists earlier later, offers =
    earlier ++ { origin := .fresh, item := item, err := .ok } :: later ∧ Refused later

theorem refused_nil : Refused [] :=
  fun _ ho => (List.not_mem_nil ho).elim

theorem Refused.append {offers offers' : List Offer} (h : Refused offers)
    (h' : Refused offers') : Refused (offers ++ offers') := by
  intro offer ho
  rcases List.mem_append.mp ho with ho | ho
  · exact h offer ho
  · exact h' offer ho

theorem LastTaken.append {item : VideoBuffer} {offers offers' : List Offer}
    (h : LastTaken item offers) (h' : Refused offers') :
    LastTaken item (offers ++ offers') := by
  rcases h with ⟨earlier, later, heq, hrefused⟩
  refine ⟨earlier, later ++ offers', ?_, hrefused.append h'⟩
  rw [heq, List.append_assoc, List.cons_append]

theorem LastTaken.prepend {item : VideoBuffer} {offers' : List Offer}
    (h : LastTaken item offers') (offers : List Offer) :
    LastTaken item (offers ++ offers') := by
  rcases h with ⟨earlier, later, heq, hrefused⟩
  refine ⟨offers ++ earlier, later, ?_, hrefused⟩
  rw [heq, List.append_assoc]

inductive LatestMoves (calls : List Event) (s t : GraphicBufferSource) : Prop where
  | kept (hlatest : t.mLatestBuffer = s.mLatestBuffer)
      (hcount : t.mOutstandingFrameRepeatCount = s.mOutstandingFrameRepeatCount)
      (hblocked : t.mFrameRepeatBlockedOnCodecBuffer =
        s.mFrameRepeatBlockedOnCodecBuffer)
      (hquiet : forall e, e ∈ calls -> e.supersedes = false)
      (hrefused : 0 < s.mFrameRepeatIntervalUs ->
        Refused (calls.filterMap Event.offer?))
  | gone (hlatest : t.mLatestBuffer = none)
      (hlater : s.mRepeatLastFrameGeneration < t.mRepeatLastFrameGeneration)
  | became (item : VideoBuffer) (htaken : LastTaken item (calls.filterMap Event.offer?))
      (hlatest : t.mLatestBuffer = some { item with
        mTimestampNs := item.mTimestampNs + s.mFrameRepeatIntervalUs * 1000 })
      (hcount : t.mOutstandingFrameRepeatCount = kRepeatLastFrameCount)
      (hunblocked : t.mFrameRepeatBlockedOnCodecBuffer = false)
      (hexecuting : s.mExecuting = true) (hinterval : 0 < s.mFrameRepeatIntervalUs)
      (hlater : s.mReflector = true ->
        s.mRepeatLastFrameGeneration < t.mRepeatLastFrameGeneration)

def AllFresh (calls : List Event) : Prop :=
  forall offer, offer ∈ calls.filterMap Event.offer? -> offer.origin = .fresh

theorem allFresh_of_nil {calls : List Event} (h : calls.filterMap Event.offer? = []) :
    AllFresh calls := by
  intro offer ho
  rw [h] at ho
  cases ho

theorem AllFresh.append {calls calls' : List Event} (h : AllFresh calls)
    (h' : AllFresh calls') : AllFresh (calls ++ calls') := by
  intro offer ho
  rw [List.filterMap_append] at ho
  rcases List.mem_append.mp ho with ho | ho
  · exact h offer ho
  · exact h' offer ho

structure MovesBy (calls : List Event) (s t : GraphicBufferSource) : Prop where
  interval : t.mFrameRepeatIntervalUs = s.mFrameRepeatIntervalUs
  looper : t.mLooper = s.mLooper
  reflector : t.mReflector = s.mReflector
  executing : t.mExecuting = true -> s.mExecuting = true
  log : t.log = s.log ++ calls
  fresh : AllFresh calls
  rising : Rising s.mRepeatLastFrameGeneration calls t.mRepeatLastFrameGeneration
  posts : s.mReflector = false -> NoPosts calls
  latest : LatestMoves calls s t

section Moves

variable {calls calls' : List Event} {s t u : GraphicBufferSource}

theorem LatestMoves.trans (h : MovesBy calls s t) (h' : MovesBy calls' t u) :
    LatestMoves (calls ++ calls') s u := by
  cases h'.latest with
  | kept hlatest' hcount' hblocked' hquiet' hrefused' =>
      cases h.latest with
      | kept hlatest hcount hblocked hquiet hrefused =>
          refine .kept (hlatest'.trans hlatest) (hcount'.trans hcount)
            (hblocked'.trans hblocked) ?_ ?_
          · intro e he
            rcases List.mem_append.mp he with he | he
            · exact hquiet e he
            · exact hquiet' e he
          · intro hinterval
            rw [List.filterMap_append]
            exact (hrefused hinterval).append (hrefused' (h.interval ▸ hinterval))
      | gone hlatest hlater =>
          exact .gone (hlatest'.trans hlatest) (hlater.trans_le h'.rising.le)
      | became item htaken hlatest hcount hunblocked hexecuting hinterval hlater =>
          refine .became item ?_ (hlatest'.trans hlatest) (hcount'.trans hcount)
            (hblocked'.trans hunblocked) hexecuting hinterval ?_
          · rw [List.filterMap_append]
            exact htaken.append (hrefused' (h.interval ▸ hinterval))
          · intro hreflector
            exact (hlater hreflector).trans_le h'.rising.le
  | gone hlatest hlater => exact .gone hlatest (h.rising.le.trans_lt hlater)
  | became item htaken hlatest hcount hunblocked hexecuting hinterval hlater =>
      refine .became item ?_ (h.interval ▸ hlatest) hcount hunblocked
        (h.executing hexecuting) (h.interval ▸ hinterval) ?_
      · rw [List.filterMap_append]
        exact htaken.prepend _
      · intro hreflector
        exact h.rising.le.trans_lt (hlater (h.reflector.trans hreflector))

theorem MovesBy.trans (h : MovesBy calls s t) (h' : MovesBy calls' t u) :
    MovesBy (calls ++ calls') s u where
  interval := h'.interval.trans h.interval
  looper := h'.looper.trans h.looper
  reflector := h'.reflector.trans h.reflector
  executing := fun hexecuting => h.executing (h'.executing hexecuting)
  log := by rw [h'.log, h.log, List.append_assoc]
  fresh := h.fresh.append h'.fresh
  rising := h.rising.append h'.rising
  posts := fun hreflector =>
    (h.posts hreflector).append (h'.posts (h.reflector.trans hreflector))
  latest := .trans h h'

structure Repeating where
  mExecuting : Bool
  mLooper : Bool
  mReflector : Bool
  mFrameRepeatIntervalUs : Int
  mRepeatLastFrameGeneration : Int
  mOutstandingFrameRepeatCount : Int
  mFrameRepeatBlockedOnCodecBuffer : Bool

def Control.repeating (c : Control) : Repeating where
  mExecuting := c.mExecuting
  mLooper := c.mLooper
  mReflector := c.mReflector
  mFrameRepeatIntervalUs := c.mFrameRepeatIntervalUs
  mRepeatLastFrameGeneration := c.mRepeatLastFrameGeneration
  mOutstandingFrameRepeatCount := c.mOutstandingFrameRepeatCount
  mFrameRepeatBlockedOnCodecBuffer := c.mFrameRepeatBlockedOnCodecBuffer

def Moves (s t : GraphicBufferSource) : Prop :=
  exists calls, MovesBy calls s t

theorem moves_of_keeps {offers : List Offer} (hkeeps : s.toBuffers.Keeps offers t.toBuffers)
    (hcontrol : t.toControl.repeating = s.toControl.repeating)
    (hfresh : forall offer, offer ∈ offers -> offer.origin = .fresh)
    (hrefused : 0 < s.mFrameRepeatIntervalUs -> Refused offers) : Moves s t := by
  rcases hkeeps.calls with ⟨calls, hlog, hquiet, hoffers⟩
  have hgeneration : t.mRepeatLastFrameGeneration = s.mRepeatLastFrameGeneration :=
    congrArg Repeating.mRepeatLastFrameGeneration hcontrol
  have hexecuting : t.mExecuting = s.mExecuting :=
    congrArg Repeating.mExecuting hcontrol
  rw [← hoffers] at hfresh hrefused
  exact ⟨calls, {
    interval := congrArg Repeating.mFrameRepeatIntervalUs hcontrol
    looper := congrArg Repeating.mLooper hcontrol
    reflector := congrArg Repeating.mReflector hcontrol
    executing := fun ht => hexecuting ▸ ht
    log := hlog
    fresh := hfresh
    rising := rising_of_quiet (le_of_eq hgeneration.symm) hquiet
    posts := fun _ => noPosts_of_quiet hquiet
    latest := .kept hkeeps.latest
      (congrArg Repeating.mOutstandingFrameRepeatCount hcontrol)
      (congrArg Repeating.mFrameRepeatBlockedOnCodecBuffer hcontrol) hquiet hrefused }⟩

theorem Stays.repeating {offers : List Offer} (h : Stays offers s t) :
    t.toControl.repeating = s.toControl.repeating := by
  have hlasting : t.toControl.lasting.repeating = s.toControl.lasting.repeating :=
    congrArg Control.repeating h.control
  exact hlasting

theorem Moves.trans (h : Moves s t) (h' : Moves t u) : Moves s u := by
  rcases h with ⟨calls, h⟩
  rcases h' with ⟨calls', h'⟩
  exact ⟨calls ++ calls', h.trans h'⟩

structure Rests (s t : GraphicBufferSource) : Prop where
  buffers : s.toBuffers.Keeps [] t.toBuffers
  control : t.toControl.repeating = s.toControl.repeating

instance : Std.Refl Rests :=
  ⟨fun s => ⟨.refl s.toBuffers, rfl⟩⟩

instance : IsTrans GraphicBufferSource Rests :=
  ⟨fun _ _ _ h h' => ⟨h.buffers.trans h'.buffers, h'.control.trans h.control⟩⟩

theorem Rests.moves (h : Rests s t) : Moves s t :=
  moves_of_keeps h.buffers h.control (fun _ ho => (List.not_mem_nil ho).elim)
    fun _ => refused_nil

theorem Stays.rests (h : Stays [] s t) : Rests s t :=
  ⟨h.buffers, h.repeating⟩

theorem Stays.moves (h : Stays [] s t) : Moves s t :=
  h.rests.moves

instance : Std.Refl Moves :=
  ⟨fun s => (Std.Refl.refl s : Rests s s).moves⟩

instance : IsTrans GraphicBufferSource Moves :=
  ⟨fun _ _ _ h h' => h.trans h'⟩

end Moves

/-!
# Functions
-/

namespace Rests

theorem modifyControl {f : Control -> Control}
    (h : forall c, (f c).repeating = c.repeating) : Leads Rests (modifyControl f) :=
  leads_modify fun s => ⟨.refl s.toBuffers, h s.toControl⟩

theorem performActions (itemTimeUs : Int) :
    Leads Rests (performActions itemTimeUs) :=
  leads_performActions (fun _ => modifyControl fun _ => rfl)
    (fun _ => modifyControl fun _ => rfl) itemTimeUs

end Rests

namespace Moves

theorem of_rests {α : Type} {m : Gbs α} (h : Leads Rests m) : Leads Moves m :=
  h.mono fun _ _ hst => hst.moves

theorem of_stays {α : Type} {m : Gbs α} (h : Leads (Stays []) m) : Leads Moves m :=
  h.mono fun _ _ hst => hst.moves

theorem modifyControl {f : Control -> Control}
    (h : forall c, (f c).repeating = c.repeating) : Leads Moves (modifyControl f) :=
  of_rests (Rests.modifyControl h)

end Moves

theorem assignLatest_buffers (b : Buffers) (item : Option VideoBuffer) :
    ((b.setLatest item).unholdAll b.latest).mLatestBuffer = item ∧
      exists tail, ((b.setLatest item).unholdAll b.latest).log = b.log ++ tail ∧
        forall e, e ∈ tail -> e.plain = true := by
  have hframes := Buffers.unholdAll_toFrames (b.setLatest item) b.latest
  rcases Buffers.unholdAll_log (b.setLatest item) b.latest with ⟨tail, hlog, hends⟩
  refine ⟨congrArg Frames.mLatestBuffer hframes, tail, hlog, ?_⟩
  intro e he
  exact e.plain_of_endsLife (hends e he)

theorem supersedes_of_plain {calls : List Event} (h : forall e, e ∈ calls -> e.plain = true) :
    forall e, e ∈ calls -> e.supersedes = false :=
  fun e he => (e.plain_iff.mp (h e he)).1

theorem moves_gone {s t : GraphicBufferSource} {calls : List Event}
    (hlatest : t.mLatestBuffer = none)
    (hlater : s.mRepeatLastFrameGeneration < t.mRepeatLastFrameGeneration)
    (hcontrol : t.mFrameRepeatIntervalUs = s.mFrameRepeatIntervalUs ∧
      t.mLooper = s.mLooper ∧ t.mReflector = s.mReflector ∧
        t.mExecuting = s.mExecuting)
    (hlog : t.log = s.log ++ calls) (hoffers : calls.filterMap Event.offer? = [])
    (hrising : Rising s.mRepeatLastFrameGeneration calls t.mRepeatLastFrameGeneration)
    (hposts : NoPosts calls) : Moves s t := by
  rcases hcontrol with ⟨hinterval, hlooper, hreflector, hexecuting⟩
  exact ⟨calls, {
    interval := hinterval
    looper := hlooper
    reflector := hreflector
    executing := fun ht => hexecuting ▸ ht
    log := hlog
    fresh := allFresh_of_nil hoffers
    rising := hrising
    posts := fun _ => hposts
    latest := .gone hlatest hlater }⟩

theorem submitEndOfInputStream_l_moves : Leads Moves submitEndOfInputStream_l := by
  apply leads_get
  intro s
  apply (leads_check _ _).bind
  intro _
  apply leads_ite (fun _ => leads_pure)
  intro _
  cases s.mFreeCodecBuffers with
  | nil => exact leads_pure
  | cons codecBufferId rest =>
      intro t
      unfold componentSubmitEos
      rw [sat_bind, sat_bind, sat_get, sat_ite]
      refine ⟨fun _ => sat_throw.mpr (Std.Refl.refl t), fun _ => ?_⟩
      rw [sat_bind, sat_modifyControl, sat_bind, sat_note, sat_pure, sat_ite]
      constructor
      · intro herr
        have hplain : (Event.submitEos codecBufferId
            (t.answers.submitEos.headD .ok)).plain = true :=
          (Event.plain_iff _).mpr ⟨decide_eq_false herr, rfl⟩
        exact Rests.moves ⟨t.toBuffers.keeps_note hplain, rfl⟩
      · intro hok
        rw [not_not] at hok
        rw [hok, sat_bind]
        apply (Stays.moveToSubmitted codecBufferId none _).total
        intro _ u hu
        rw [sat_bind, sat_modifyControl]
        rcases hu.buffers.calls with ⟨calls, hlog, hquiet, hoffers⟩
        rcases assignLatest_buffers u.toBuffers none with ⟨hlatest, tail, htail, hplain⟩
        have hgeneration : u.mRepeatLastFrameGeneration =
            t.mRepeatLastFrameGeneration :=
          congrArg Repeating.mRepeatLastFrameGeneration hu.repeating
        have hquiet' : forall e, e ∈ calls ++ tail -> e.supersedes = false := by
          intro e he
          rcases List.mem_append.mp he with he | he
          · exact hquiet e he
          · exact supersedes_of_plain hplain e he
        have hcalls : ((u.toBuffers.setLatest none).unholdAll
            u.toBuffers.latest).log =
              t.log ++ (.submitEos codecBufferId .ok :: (calls ++ tail)) := by
          rw [htail, hlog]
          show (t.log ++ [Event.submitEos codecBufferId .ok] ++ calls) ++ tail = _
          rw [List.append_assoc, List.append_assoc]
          rfl
        have hraises : (Event.submitEos codecBufferId .ok).Raises
            t.mRepeatLastFrameGeneration (t.mRepeatLastFrameGeneration + 1) := by
          refine ⟨by lia, fun _ => by lia, ?_⟩
          intro generation delayUs he
          cases he
        refine moves_gone hlatest ?_ ?_ hcalls ?_ ?_ ?_
        · show t.mRepeatLastFrameGeneration < u.mRepeatLastFrameGeneration + 1
          lia
        · exact ⟨congrArg Repeating.mFrameRepeatIntervalUs hu.repeating,
            congrArg Repeating.mLooper hu.repeating,
            congrArg Repeating.mReflector hu.repeating,
            congrArg Repeating.mExecuting hu.repeating⟩
        · rw [List.filterMap_cons_none rfl, List.filterMap_append, hoffers,
            Buffers.offers_of_plain hplain]
          rfl
        · show Rising t.mRepeatLastFrameGeneration _
            (u.mRepeatLastFrameGeneration + 1)
          rw [hgeneration]
          exact .call hraises (rising_of_quiet (Int.le_refl _) hquiet')
        · intro e he generation delayUs
          rcases List.mem_cons.mp he with heq | hmem
          · rw [heq]
            intro hposted
            cases hposted
          · exact noPosts_of_quiet hquiet' e hmem generation delayUs

def Control.repeatMessage (c : Control) : List Event :=
  if c.mReflector then
    [.repeatPosted (c.mRepeatLastFrameGeneration + 1) c.mFrameRepeatIntervalUs]
  else
    []

def Control.nextGeneration (c : Control) : Int :=
  if c.mReflector then c.mRepeatLastFrameGeneration + 1
  else c.mRepeatLastFrameGeneration

theorem queueFrameRepeat_l_sat {P : Unit -> GraphicBufferSource -> Prop}
    {E : Abort -> GraphicBufferSource -> Prop} (s : GraphicBufferSource) :
    Sat queueFrameRepeat_l P E s <->
      P () { s with
        mFrameRepeatBlockedOnCodecBuffer := false
        mRepeatLastFrameGeneration := s.nextGeneration
        log := s.log ++ s.repeatMessage } := by
  unfold queueFrameRepeat_l Control.nextGeneration Control.repeatMessage
  rw [sat_bind, sat_modifyControl, sat_bind, sat_get]
  cases hreflector : s.mReflector with
  | true => rfl
  | false =>
      have hlog : s.log ++ (if false = true then [Event.repeatPosted
          (s.mRepeatLastFrameGeneration + 1) s.mFrameRepeatIntervalUs] else []) =
            s.log := by
        simp
      rw [hlog]
      rfl

theorem rising_repeatMessage (c : Control) :
    Rising c.mRepeatLastFrameGeneration c.repeatMessage c.nextGeneration := by
  unfold Control.repeatMessage Control.nextGeneration
  split
  · refine .call ⟨?_, fun _ => ?_, ?_⟩ (.done (Int.le_refl _))
    · lia
    · lia
    · intro generation delayUs he
      injection he with hgeneration
      exact hgeneration.symm
  · exact .done (Int.le_refl _)

theorem offers_repeatMessage (c : Control) :
    c.repeatMessage.filterMap Event.offer? = [] := by
  unfold Control.repeatMessage
  split
  · rfl
  · rfl

structure SetsLatest (item : VideoBuffer) (s t : GraphicBufferSource) : Prop where
  latest : t.mLatestBuffer = some { item with
    mTimestampNs := item.mTimestampNs + s.mFrameRepeatIntervalUs * 1000 }
  control : t.toControl.repeating = { s.toControl.repeating with
    mOutstandingFrameRepeatCount := kRepeatLastFrameCount
    mRepeatLastFrameGeneration := s.nextGeneration
    mFrameRepeatBlockedOnCodecBuffer := false }
  calls : exists tail, t.log = s.log ++ (tail ++ s.repeatMessage) ∧
    forall e, e ∈ tail -> e.plain = true

theorem setLatestBuffer_l_sets (item : VideoBuffer) (s : GraphicBufferSource) :
    Sat (setLatestBuffer_l item) (fun _ t => SetsLatest item s t)
      (fun _ _ => False) s := by
  unfold setLatestBuffer_l assignLatest
  rw [sat_bind, sat_bind, sat_get, sat_bind, sat_modifyBuffers, sat_unholdAll,
    sat_bind, sat_modifyControl, sat_bind, sat_get, sat_bind, sat_modifyBuffers,
    queueFrameRepeat_l_sat]
  rcases assignLatest_buffers s.toBuffers (some item) with ⟨hlatest, tail, htail, hplain⟩
  refine ⟨?_, rfl, tail, ?_, hplain⟩
  · exact congrArg (Option.map fun v : VideoBuffer => { v with
      mTimestampNs := v.mTimestampNs + s.mFrameRepeatIntervalUs * 1000 }) hlatest
  · show ((s.toBuffers.setLatest (some item)).unholdAll s.toBuffers.latest).log ++
      s.repeatMessage = _
    rw [htail, List.append_assoc]

theorem SetsLatest.moves {item : VideoBuffer} {s t u : GraphicBufferSource}
    (hstays : Stays [{ origin := .fresh, item := item, err := .ok }] s t)
    (h : SetsLatest item t u) (hexecuting : s.mExecuting = true)
    (hinterval : 0 < s.mFrameRepeatIntervalUs) : Moves s u := by
  rcases hstays.buffers.calls with ⟨calls, hlog, hquiet, hoffers⟩
  rcases h.calls with ⟨tail, htail, hplain⟩
  have hbefore := hstays.repeating
  have hgeneration : t.mRepeatLastFrameGeneration = s.mRepeatLastFrameGeneration :=
    congrArg Repeating.mRepeatLastFrameGeneration hbefore
  have hreflector : t.mReflector = s.mReflector := congrArg Repeating.mReflector hbefore
  have hkept : t.mFrameRepeatIntervalUs = s.mFrameRepeatIntervalUs :=
    congrArg Repeating.mFrameRepeatIntervalUs hbefore
  have hnext : u.mRepeatLastFrameGeneration = t.nextGeneration :=
    congrArg Repeating.mRepeatLastFrameGeneration h.control
  have hquiet' : forall e, e ∈ calls ++ tail -> e.supersedes = false := by
    intro e he
    rcases List.mem_append.mp he with he | he
    · exact hquiet e he
    · exact supersedes_of_plain hplain e he
  have htaken : ((calls ++ tail) ++ t.repeatMessage).filterMap Event.offer? =
      [{ origin := .fresh, item := item, err := .ok }] := by
    rw [List.filterMap_append, List.filterMap_append, hoffers,
      Buffers.offers_of_plain hplain, offers_repeatMessage]
    rfl
  refine ⟨(calls ++ tail) ++ t.repeatMessage, {
    interval := (congrArg Repeating.mFrameRepeatIntervalUs h.control).trans hkept
    looper := (congrArg Repeating.mLooper h.control).trans
      (congrArg Repeating.mLooper hbefore)
    reflector := (congrArg Repeating.mReflector h.control).trans hreflector
    executing := fun _ => hexecuting
    log := ?_
    fresh := ?_
    rising := ?_
    posts := ?_
    latest := .became item ⟨[], [], htaken, refused_nil⟩ (hkept ▸ h.latest)
      (congrArg Repeating.mOutstandingFrameRepeatCount h.control)
      (congrArg Repeating.mFrameRepeatBlockedOnCodecBuffer h.control) hexecuting
      hinterval ?_ }⟩
  · rw [htail, hlog, List.append_assoc, List.append_assoc]
  · intro offer ho
    rw [htaken] at ho
    rw [List.mem_singleton.mp ho]
  · rw [hnext]
    exact (rising_of_quiet (le_of_eq hgeneration.symm) hquiet').append
      (rising_repeatMessage t.toControl)
  · intro hset
    have hnone : t.repeatMessage = [] := by
      unfold Control.repeatMessage
      rw [hreflector, hset]
      rfl
    rw [hnone, List.append_nil]
    exact noPosts_of_quiet hquiet'
  · intro hset
    rw [hnext, ← hgeneration]
    unfold Control.nextGeneration
    rw [hreflector, hset]
    exact Int.lt_succ _

theorem recordFrame_moves {item : VideoBuffer} {s t : GraphicBufferSource}
    (itemTimeUs : Int)
    (hstays : Stays [{ origin := .fresh, item := t.offsetByStartTime item, err := .ok }]
      s t) (hexecuting : s.mExecuting = true) :
    Sat (recordFrame item itemTimeUs) (fun _ u => Moves s u) (fun _ _ => False) t := by
  have hkept : t.mFrameRepeatIntervalUs = s.mFrameRepeatIntervalUs :=
    congrArg Repeating.mFrameRepeatIntervalUs hstays.repeating
  unfold recordFrame
  rw [sat_bind, sat_get, sat_ite]
  constructor
  · intro hinterval
    rw [sat_bind]
    apply (setLatestBuffer_l_sets (t.offsetByStartTime item) t).total
    intro _ u hu
    rw [sat_modifyControl]
    have hmoves : Moves s u := hu.moves hstays hexecuting (hkept ▸ hinterval)
    have hrests : Rests u { u with mLastFrameTimestampUs := itemTimeUs } :=
      ⟨.refl u.toBuffers, rfl⟩
    exact hmoves.trans hrests.moves
  · intro hnot
    rw [sat_modifyControl]
    refine moves_of_keeps hstays.buffers hstays.repeating ?_ ?_
    · intro offer ho
      rw [List.mem_singleton.mp ho]
    · intro hinterval
      exact absurd (hkept ▸ hinterval) hnot

/-!
# Filling codec buffers
-/

theorem processFrame_moves {item : VideoBuffer} {s : GraphicBufferSource}
    (hexecuting : s.mExecuting = true) :
    Sat (processFrame item) (fun _ t => Moves s t) (fun _ t => Moves s t) s := by
  unfold processFrame
  rw [sat_bind]
  apply (Rests.performActions _ s).mono
  · intro seeStopAction t ht
    rw [sat_ite]
    constructor
    · intro _
      apply Sat.after ht.moves
      apply Sat.leads_bind
      · exact Moves.of_stays Stays.intake.releaseAllAvailableBuffers_l t
      · intro _
        refine .bind (Moves.modifyControl ?_) fun _ => submitEndOfInputStream_l_moves
        intro _
        rfl
    · intro _
      rw [sat_bind, sat_get, sat_ite]
      refine ⟨fun _ => ht.moves, fun _ => ?_⟩
      rw [sat_bind]
      have hrunning : t.mExecuting = true :=
        (congrArg Repeating.mExecuting ht.control).trans hexecuting
      apply (skipDropOrSubmit_stays item t).mono
      · intro err u hu
        rcases hu with ⟨offers, hoffered, hstays⟩
        rw [sat_ite]
        constructor
        · intro herr
          apply ht.moves.trans
          refine moves_of_keeps hstays.buffers hstays.repeating ?_ fun _ => ?_
          · cases hoffered with
            | refused _ => exact fun _ ho => (List.not_mem_nil ho).elim
            | offered =>
                intro offer ho
                rw [List.mem_singleton.mp ho]
          · cases hoffered with
            | refused _ => exact refused_nil
            | offered =>
                intro offer ho
                rw [List.mem_singleton.mp ho]
                exact herr
        · intro hok
          rw [not_not] at hok
          have hoffset : u.offsetByStartTime item = t.offsetByStartTime item := by
            have hskip : u.toControl.lasting.mSkipFramesBeforeNs =
                t.toControl.lasting.mSkipFramesBeforeNs :=
              congrArg Control.mSkipFramesBeforeNs hstays.control
            change u.mSkipFramesBeforeNs = t.mSkipFramesBeforeNs at hskip
            unfold Control.offsetByStartTime
            rw [hskip]
          cases hoffered with
          | refused herr => exact absurd hok herr
          | offered =>
              rw [hok, ← hoffset] at hstays
              apply (recordFrame_moves _ hstays hrunning).mono
              · intro _ v hv
                exact ht.moves.trans hv
              · intro _ _ hfalse
                exact hfalse.elim
      · intro _ u hu
        exact ht.moves.trans hu.moves
  · intro _ t ht
    exact ht.moves

theorem takeFrame_stays : Leads (Stays []) takeFrame := by
  apply leads_get
  intro s
  cases s.mAvailableBuffers with
  | nil =>
      apply (Stays.intake.acquireBuffer_l .oneFrame).bind
      intro r
      cases r with
      | error err => exact leads_pure
      | ok item => exact leads_pure
  | cons item rest =>
      apply Leads.bind
      · apply Stays.modifyBuffers
        intro b
        unfold Buffers.takeAvailable
        split
        · exact .refl b
        · exact .of_fields rfl rfl
      · intro _
        exact leads_pure

theorem fillCodecBuffer_l_moves : Leads Moves fillCodecBuffer_l := by
  intro s
  unfold fillCodecBuffer_l
  rw [sat_bind, sat_get, sat_bind, sat_check]
  refine ⟨fun hcheck => ?_, fun _ => Std.Refl.refl s⟩
  have hexecuting : s.mExecuting = true := (Bool.and_eq_true_iff.mp hcheck).1
  rw [sat_ite]
  refine ⟨fun _ => sat_pure.mpr (Std.Refl.refl s), fun _ => ?_⟩
  rw [sat_bind]
  apply (takeFrame_stays s).mono
  · intro r t ht
    cases r with
    | none => exact ht.moves
    | some item =>
        have hrunning : t.mExecuting = true :=
          (congrArg Repeating.mExecuting ht.repeating).trans hexecuting
        apply Sat.after ht.moves
        apply (processFrame_moves hrunning).leads_bind
        intro _
        exact (Moves.of_stays (Stays.unhold _)).bind fun _ => leads_pure
  · intro _ t ht
    exact ht.moves

namespace Moves

theorem loadAvailable (n : Nat) : Leads Moves (loadAvailable n) :=
  leads_loadAvailable fillCodecBuffer_l_moves n

theorem sendPendingEos : Leads Moves sendPendingEos := by
  apply leads_get
  intro s
  exact leads_ite (fun _ => submitEndOfInputStream_l_moves) (fun _ => leads_pure)

end Moves

theorem bumpGeneration_moves : Leads Moves (modifyControl fun c =>
    { c with mRepeatLastFrameGeneration := c.mRepeatLastFrameGeneration + 1 }) := by
  apply leads_modify
  intro s
  exact ⟨[], {
    interval := rfl
    looper := rfl
    reflector := rfl
    executing := id
    log := (List.append_nil _).symm
    fresh := allFresh_of_nil rfl
    rising := .done (by
      show s.mRepeatLastFrameGeneration <= s.mRepeatLastFrameGeneration + 1
      lia)
    posts := fun _ e he => (List.not_mem_nil he).elim
    latest := .kept rfl rfl rfl (fun e he => (List.not_mem_nil he).elim)
      fun _ => refused_nil }⟩

theorem onFrameAvailable_moves : Leads Moves onFrameAvailable := by
  have hcount : Leads (Stays []) (modifyBuffers Buffers.countAvailable) :=
    Stays.modifyBuffers fun _ => .of_event rfl rfl rfl
  apply (Moves.of_stays hcount).bind
  intro _
  apply leads_get
  intro s
  apply leads_ite
  · intro _
    exact bumpGeneration_moves
  · intro _
    apply (Moves.of_stays (Stays.intake.acquireBuffer_l .oneFrame)).bind
    intro r
    cases r with
    | error err => exact leads_pure
    | ok item =>
        have hpush : Leads (Stays []) (modifyBuffers fun b => b.pushAvailable item) :=
          Stays.modifyBuffers fun _ => .of_fields rfl rfl
        apply Leads.bind
        · exact leads_onBufferAcquired_l bumpGeneration_moves (Moves.of_stays hpush)
            fillCodecBuffer_l_moves
        · intro _
          exact Moves.of_stays (Stays.unhold _)

end Bqhelper
end Sm7225
