import Sm7225.Bqhelper.LatestMoves

/-!
# What a request does to the latest frame

A request moves the latest frame, or it tries once to repeat it, or it is one of
the few that change the fields that repeat it.
-/

namespace Sm7225
namespace Bqhelper

open Lib

/-!
# Repeating
-/

structure RepeatsLatest (latest : VideoBuffer) (s t : GraphicBufferSource) :
    Prop where
  before : s.mLatestBuffer = some latest
  control : t.toControl.repeating = { s.toControl.repeating with
    mOutstandingFrameRepeatCount := s.mOutstandingFrameRepeatCount - 1
    mRepeatLastFrameGeneration := t.mRepeatLastFrameGeneration
    mFrameRepeatBlockedOnCodecBuffer := t.mFrameRepeatBlockedOnCodecBuffer }
  blocked : t.mFrameRepeatBlockedOnCodecBuffer = true ->
    s.mFrameRepeatBlockedOnCodecBuffer = true
  calls : exists calls, t.log = s.log ++ calls ∧
    calls.filterMap Event.offer? =
        [{ origin := .repeated, item := latest, err := .ok }] ∧
      Rising s.mRepeatLastFrameGeneration calls t.mRepeatLastFrameGeneration ∧
        (s.mReflector = false -> NoPosts calls) ∧
          (s.mOutstandingFrameRepeatCount - 1 <= 0 ->
            (forall e, e ∈ calls -> e.supersedes = false) ∧
              t.mRepeatLastFrameGeneration = s.mRepeatLastFrameGeneration)
  again : 0 < s.mOutstandingFrameRepeatCount - 1 ->
    t.mLatestBuffer = some { latest with
      mTimestampNs := latest.mTimestampNs + s.mFrameRepeatIntervalUs * 1000 }
  last : s.mOutstandingFrameRepeatCount - 1 <= 0 -> t.mLatestBuffer = some latest

section Repeating

variable {s t u : GraphicBufferSource} {latest : VideoBuffer}

theorem countRepeat_repeats (hlatest : s.mLatestBuffer = some latest)
    (h : Stays [{ origin := .repeated, item := latest, err := .ok }] s t) :
    Sat countRepeat (fun _ u => RepeatsLatest latest s u) (fun _ _ => False) t := by
  rcases h.buffers.calls with ⟨calls, hlog, hquiet, hoffers⟩
  have hcontrol := h.repeating
  have hcount : t.mOutstandingFrameRepeatCount = s.mOutstandingFrameRepeatCount :=
    congrArg Repeating.mOutstandingFrameRepeatCount hcontrol
  have hgeneration : t.mRepeatLastFrameGeneration = s.mRepeatLastFrameGeneration :=
    congrArg Repeating.mRepeatLastFrameGeneration hcontrol
  have hinterval : t.mFrameRepeatIntervalUs = s.mFrameRepeatIntervalUs :=
    congrArg Repeating.mFrameRepeatIntervalUs hcontrol
  have hreflector : t.mReflector = s.mReflector :=
    congrArg Repeating.mReflector hcontrol
  have hblocked : t.mFrameRepeatBlockedOnCodecBuffer =
      s.mFrameRepeatBlockedOnCodecBuffer :=
    congrArg Repeating.mFrameRepeatBlockedOnCodecBuffer hcontrol
  have hkept : t.mLatestBuffer = some latest := h.buffers.latest.trans hlatest
  have hrising : Rising s.mRepeatLastFrameGeneration calls
      t.mRepeatLastFrameGeneration :=
    rising_of_quiet (le_of_eq hgeneration.symm) hquiet
  unfold countRepeat
  rw [sat_bind, sat_modifyControl, sat_bind, sat_get, sat_ite]
  constructor
  · intro hagain
    rw [sat_bind, sat_modifyBuffers, queueFrameRepeat_l_sat]
    have hagain' : 0 < s.mOutstandingFrameRepeatCount - 1 := by
      rw [← hcount]
      exact hagain
    have hmessage : t.mReflector = false -> t.repeatMessage = [] := by
      intro hnone
      unfold Control.repeatMessage
      rw [hnone]
      rfl
    refine ⟨hlatest, ?_, ?_, ⟨calls ++ t.repeatMessage, ?_, ?_, ?_, ?_, ?_⟩, ?_, ?_⟩
    · exact congrArg (fun r : Repeating => { r with
        mOutstandingFrameRepeatCount := r.mOutstandingFrameRepeatCount - 1
        mRepeatLastFrameGeneration := t.nextGeneration
        mFrameRepeatBlockedOnCodecBuffer := false }) hcontrol
    · intro hfalse
      cases hfalse
    · show t.log ++ t.repeatMessage = _
      rw [hlog, List.append_assoc]
    · rw [List.filterMap_append, hoffers, offers_repeatMessage]
      rfl
    · exact hrising.append (rising_repeatMessage t.toControl)
    · intro hnone
      rw [hmessage (hreflector.trans hnone), List.append_nil]
      exact noPosts_of_quiet hquiet
    · intro hle
      lia
    · intro _
      rw [← hinterval]
      exact congrArg (Option.map fun v : VideoBuffer => { v with
        mTimestampNs := v.mTimestampNs + t.mFrameRepeatIntervalUs * 1000 }) hkept
    · intro hle
      lia
  · intro hlast
    have hlast' : ¬0 < s.mOutstandingFrameRepeatCount - 1 := by
      rw [← hcount]
      exact hlast
    refine ⟨hlatest, ?_, ?_, ⟨calls, hlog, hoffers, hrising, ?_, ?_⟩, ?_, ?_⟩
    · exact congrArg (fun r : Repeating => { r with
        mOutstandingFrameRepeatCount := r.mOutstandingFrameRepeatCount - 1
        mRepeatLastFrameGeneration := t.mRepeatLastFrameGeneration
        mFrameRepeatBlockedOnCodecBuffer := t.mFrameRepeatBlockedOnCodecBuffer })
        hcontrol
    · intro hset
      rw [← hblocked]
      exact hset
    · intro _
      exact noPosts_of_quiet hquiet
    · intro _
      exact ⟨hquiet, hgeneration⟩
    · intro hagain
      exact absurd hagain hlast'
    · intro _
      exact hkept

structure Misses (offers : List Offer) (s : GraphicBufferSource) : Prop where
  refused : Refused offers
  latest : offers ≠ [] -> s.mLatestBuffer.isSome = true

theorem misses_nil (s : GraphicBufferSource) : Misses [] s :=
  ⟨refused_nil, fun hnot => absurd rfl hnot⟩

def Repeated (success : Bool) (s t : GraphicBufferSource) : Prop :=
  if success then exists latest, RepeatsLatest latest s t
  else exists offers, Misses offers s ∧ Stays offers s t

theorem repeatLatestBuffer_l_repeats (s : GraphicBufferSource) :
    Sat repeatLatestBuffer_l (fun success t => Repeated success s t)
      (fun _ t => Stays [] s t) s := by
  have hnothing : Repeated false s s := ⟨[], misses_nil s, Std.Refl.refl s⟩
  unfold repeatLatestBuffer_l
  rw [sat_bind, sat_get, sat_bind, sat_check]
  refine ⟨fun _ => ?_, fun _ => Std.Refl.refl s⟩
  cases hlatest : s.mLatestBuffer with
  | none => exact hnothing
  | some latest =>
      rw [sat_ite]
      refine ⟨fun _ => hnothing, fun _ => ?_⟩
      rw [sat_ite]
      refine ⟨fun _ => hnothing, fun _ => ?_⟩
      rw [sat_bind]
      apply (submitBuffer_l_stays latest .repeated s).mono
      · intro err t ht
        rcases ht with ⟨offers, hoffered, hstays⟩
        rw [sat_ite]
        constructor
        · intro herr
          refine ⟨offers, ⟨?_, ?_⟩, hstays⟩
          · cases hoffered with
            | refused _ => exact refused_nil
            | offered =>
                intro offer ho
                rw [List.mem_singleton.mp ho]
                exact herr
          · intro _
            rw [hlatest]
            rfl
        · intro hok
          rw [not_not] at hok
          cases hoffered with
          | refused herr => exact absurd hok herr
          | offered =>
              rw [hok] at hstays
              rw [sat_bind]
              apply (countRepeat_repeats hlatest hstays).total
              intro _ u hu
              exact ⟨latest, hu⟩
      · intro _ t ht
        exact ht

inductive Retries (s t : GraphicBufferSource) : Prop where
  | missed (offers : List Offer) (hmisses : Misses offers s)
      (hkeeps : s.toBuffers.Keeps offers t.toBuffers)
      (hcontrol : t.toControl.repeating = { s.toControl.repeating with
        mFrameRepeatBlockedOnCodecBuffer := t.mFrameRepeatBlockedOnCodecBuffer })
  | repeated (latest : VideoBuffer) (h : RepeatsLatest latest s t)
      (hunblocked : t.mFrameRepeatBlockedOnCodecBuffer = false)

def Tries (s t : GraphicBufferSource) : Prop :=
  Moves s t ∨ s.mFrameRepeatBlockedOnCodecBuffer = true ∧ Retries s t

theorem Rests.repeatsLatest (h : Rests s t) (h' : RepeatsLatest latest t u) :
    RepeatsLatest latest s u := by
  rcases h.buffers.calls with ⟨calls, hlog, hquiet, hoffers⟩
  rcases h'.calls with ⟨calls', hlog', hoffers', hrising', hposts', hlast'⟩
  have hcount : t.mOutstandingFrameRepeatCount = s.mOutstandingFrameRepeatCount :=
    congrArg Repeating.mOutstandingFrameRepeatCount h.control
  have hgeneration : t.mRepeatLastFrameGeneration = s.mRepeatLastFrameGeneration :=
    congrArg Repeating.mRepeatLastFrameGeneration h.control
  have hinterval : t.mFrameRepeatIntervalUs = s.mFrameRepeatIntervalUs :=
    congrArg Repeating.mFrameRepeatIntervalUs h.control
  have hreflector : t.mReflector = s.mReflector :=
    congrArg Repeating.mReflector h.control
  have hblocked : t.mFrameRepeatBlockedOnCodecBuffer =
      s.mFrameRepeatBlockedOnCodecBuffer :=
    congrArg Repeating.mFrameRepeatBlockedOnCodecBuffer h.control
  refine ⟨h.buffers.latest.symm.trans h'.before, ?_, ?_,
    ⟨calls ++ calls', ?_, ?_, ?_, ?_, ?_⟩, ?_, ?_⟩
  · rw [h'.control, h.control, hcount]
  · rw [← hblocked]
    exact h'.blocked
  · rw [hlog', hlog, List.append_assoc]
  · rw [List.filterMap_append, hoffers, hoffers']
    rfl
  · exact (rising_of_quiet (le_of_eq hgeneration.symm) hquiet).append hrising'
  · intro hnone
    exact (noPosts_of_quiet hquiet).append (hposts' (hreflector.trans hnone))
  · intro hle
    rcases hlast' (hcount ▸ hle) with ⟨hquiet', hsame⟩
    constructor
    · intro e he
      rcases List.mem_append.mp he with he | he
      · exact hquiet e he
      · exact hquiet' e he
    · exact hsame.trans hgeneration
  · intro hagain
    rw [← hinterval]
    exact h'.again (hcount ▸ hagain)
  · intro hle
    exact h'.last (hcount ▸ hle)

theorem Rests.retries (h : Rests s t) (h' : Retries t u) : Retries s u := by
  cases h' with
  | missed offers hmisses hkeeps hcontrol =>
      refine .missed offers ⟨hmisses.refused, ?_⟩ (h.buffers.trans hkeeps) ?_
      · rw [← h.buffers.latest]
        exact hmisses.latest
      · rw [hcontrol, h.control]
  | repeated latest hrepeats hunblocked =>
      exact .repeated latest (h.repeatsLatest hrepeats) hunblocked

theorem Rests.tries (h : Rests s t) (h' : Tries t u) : Tries s u := by
  rcases h' with hmoves | ⟨hblocked, hretries⟩
  · left
    exact h.moves.trans hmoves
  · right
    constructor
    · rw [← hblocked]
      exact (congrArg Repeating.mFrameRepeatBlockedOnCodecBuffer h.control).symm
    · exact h.retries hretries

theorem RepeatsLatest.unblock (h : RepeatsLatest latest s t) :
    RepeatsLatest latest s { t with mFrameRepeatBlockedOnCodecBuffer := false } := by
  refine ⟨h.before, ?_, ?_, h.calls, h.again, h.last⟩
  · exact congrArg (fun r : Repeating =>
      { r with mFrameRepeatBlockedOnCodecBuffer := false }) h.control
  · intro hset
    cases hset

theorem Stays.missed {offers : List Offer} (h : Stays offers s t)
    (hmisses : Misses offers s) (blocked : Bool) :
    Retries s { t with mFrameRepeatBlockedOnCodecBuffer := blocked } := by
  refine .missed offers hmisses h.buffers ?_
  exact congrArg (fun r : Repeating =>
    { r with mFrameRepeatBlockedOnCodecBuffer := blocked }) h.repeating

theorem onMessageReceived_retries (generation : Int)
    (hunblocked : generation = s.mRepeatLastFrameGeneration ->
      s.mLatestBuffer.isSome = true ->
        s.mFrameRepeatBlockedOnCodecBuffer = false) :
    Sat (onMessageReceived generation)
      (fun _ t => Retries s t ∧
        (generation ≠ s.mRepeatLastFrameGeneration -> t = s))
      (fun _ t => generation = s.mRepeatLastFrameGeneration ∧ Moves s t) s := by
  have hsame : Retries s s :=
    (Std.Refl.refl s : Stays [] s s).missed (misses_nil s) _
  unfold onMessageReceived
  rw [sat_bind, sat_get, sat_ite]
  refine ⟨fun _ => ⟨hsame, fun _ => rfl⟩, fun hcurrent => ?_⟩
  rw [not_not] at hcurrent
  rw [sat_ite]
  refine ⟨fun _ => ⟨hsame, fun _ => rfl⟩, fun _ => ?_⟩
  rw [sat_bind]
  apply (repeatLatestBuffer_l_repeats s).mono
  · intro success t ht
    cases success with
    | true =>
        rcases ht with ⟨latest, hrepeats⟩
        refine ⟨.repeated latest hrepeats ?_, fun hstale => absurd hcurrent hstale⟩
        cases hblocked : t.mFrameRepeatBlockedOnCodecBuffer with
        | false => rfl
        | true =>
            have hset := hrepeats.blocked hblocked
            rw [hunblocked hcurrent (by rw [hrepeats.before]; rfl)] at hset
            cases hset
    | false =>
        rcases ht with ⟨offers, hmisses, hstays⟩
        exact ⟨hstays.missed hmisses true, fun hstale => absurd hcurrent hstale⟩
  · intro _ t ht
    exact ⟨hcurrent, ht.moves⟩

theorem reuseCodecBuffer_tries :
    Sat reuseCodecBuffer (fun _ t => Tries s t) (fun _ t => Moves s t) s := by
  unfold reuseCodecBuffer
  rw [sat_bind, sat_get, sat_ite]
  constructor
  · intro _
    rw [sat_bind, sat_check]
    refine ⟨fun _ => ?_, fun _ => Std.Refl.refl s⟩
    rw [sat_bind]
    exact (fillCodecBuffer_l_moves s).mono (fun _ _ ht => Or.inl ht) (fun _ _ ht => ht)
  · intro _
    rw [sat_ite]
    constructor
    · intro _
      exact (submitEndOfInputStream_l_moves s).mono (fun _ _ ht => Or.inl ht)
        (fun _ _ ht => ht)
    · intro _
      rw [sat_ite]
      constructor
      · intro hblocked
        rw [sat_bind]
        apply (repeatLatestBuffer_l_repeats s).mono
        · intro success t ht
          rw [sat_modifyControl]
          right
          refine ⟨hblocked, ?_⟩
          cases success with
          | true =>
              rcases ht with ⟨latest, hrepeats⟩
              exact .repeated latest hrepeats.unblock rfl
          | false =>
              rcases ht with ⟨offers, hmisses, hstays⟩
              exact hstays.missed hmisses false
        · intro _ t ht
          exact ht.moves
      · intro _
        exact Or.inl (Std.Refl.refl s)

theorem keeps_takeBack (b : Buffers) (id : CodecBufferId) {e : Event}
    (h : e.plain = true) : b.Keeps [] ((b.note e).takeBack id) :=
  .of_event rfl rfl h

theorem keeps_addReleaseFenceFd (b : Buffers) (a : AcquiredBuffer) (fenceFd : Int) :
    b.Keeps [] (b.addReleaseFenceFd a fenceFd) :=
  .of_fields rfl rfl

theorem onInputBufferEmptied_tries (bufferId : CodecBufferId) (fenceFd : Int) :
    Sat (onInputBufferEmptied bufferId fenceFd) (fun _ t => Tries s t)
      (fun _ t => Moves s t) s := by
  have hmoves : forall b, s.toBuffers.Keeps [] b ->
      Tries s { s with toBuffers := b } := by
    intro b hb
    exact Or.inl (Rests.moves ⟨hb, rfl⟩)
  unfold onInputBufferEmptied
  rw [sat_bind, sat_get]
  cases s.mSubmittedCodecBuffers.find? bufferId with
  | none =>
      rw [sat_bind, sat_modifyBuffers]
      exact hmoves _ ((Buffers.keeps_note _ rfl).trans (Buffers.keeps_autoclose _ _))
  | some entry =>
      cases entry with
      | none =>
          rw [sat_bind, sat_modifyBuffers]
          exact hmoves _ ((keeps_takeBack _ _ rfl).trans (Buffers.keeps_autoclose _ _))
      | some buffer =>
          rw [sat_ite]
          constructor
          · intro _
            rw [sat_bind, sat_modifyBuffers, sat_bind, sat_unhold, sat_bind,
              sat_modifyBuffers]
            exact hmoves _ (((keeps_takeBack _ _ rfl).trans
              (Buffers.keeps_unhold _ _)).trans (Buffers.keeps_autoclose _ _))
          · intro _
            rw [sat_bind, sat_modifyBuffers, sat_bind, sat_unhold, sat_bind]
            have hplain : (Event.emptied bufferId fenceFd (some (some buffer))
                true).plain = true := rfl
            have hkeeps := ((keeps_takeBack s.toBuffers bufferId hplain).trans
              (keeps_addReleaseFenceFd _ buffer fenceFd)).trans
                (Buffers.keeps_unhold _ buffer)
            have hrests : Rests s { s with toBuffers := _ } := ⟨hkeeps, rfl⟩
            apply reuseCodecBuffer_tries.mono
            · intro _ t ht
              exact hrests.tries ht
            · intro _ t ht
              exact hrests.moves.trans ht

theorem resumeNow_tries :
    Sat resumeNow (fun _ t => Tries s t) (fun _ t => Moves s t) s := by
  have hresumed : Rests s { s with mSuspended := false } :=
    ⟨.refl s.toBuffers, rfl⟩
  unfold resumeNow
  rw [sat_bind, sat_modifyControl, sat_bind, sat_get, sat_ite]
  constructor
  · intro hblocked
    rw [sat_bind]
    apply (repeatLatestBuffer_l_repeats _).mono
    · intro success t ht
      cases success with
      | true =>
          rcases ht with ⟨latest, hrepeats⟩
          rw [if_pos rfl, sat_modifyControl]
          exact hresumed.tries (Or.inr ⟨hblocked.2.2,
            .repeated latest hrepeats.unblock rfl⟩)
      | false =>
          rcases ht with ⟨offers, hmisses, hstays⟩
          exact hresumed.tries (Or.inr ⟨hblocked.2.2, hstays.missed hmisses _⟩)
    · intro _ t ht
      exact hresumed.moves.trans ht.moves
  · intro _
    exact Or.inl hresumed.moves

theorem setSuspend_tries (suspend : Bool) (suspendStartTimeUs : Int) :
    Sat (setSuspend suspend suspendStartTimeUs) (fun _ t => Tries s t)
      (fun _ t => Moves s t) s := by
  have hsame : Tries s s := Or.inl (Std.Refl.refl s)
  unfold setSuspend
  rw [sat_bind, sat_get, sat_ite]
  refine ⟨fun _ => hsame, fun _ => ?_⟩
  rw [sat_ite]
  constructor
  · intro _
    rw [sat_ite]
    refine ⟨fun _ => hsame, fun _ => ?_⟩
    rw [sat_bind, sat_modifyControl]
    exact Or.inl (Rests.moves ⟨.refl s.toBuffers, rfl⟩)
  · intro _
    rw [sat_ite]
    constructor
    · intro _
      have hsuspended : Rests s { s with mSuspended := true } :=
        ⟨.refl s.toBuffers, rfl⟩
      rw [sat_bind, sat_modifyControl, sat_bind]
      apply (Stays.intake.releaseAllAvailableBuffers_l _).mono
      · intro _ t ht
        exact hsuspended.tries (Or.inl ht.moves)
      · intro _ t ht
        exact hsuspended.moves.trans ht.moves
    · intro _
      rw [sat_bind]
      exact resumeNow_tries

/-!
# Starting, releasing and configuring
-/

def withLooper (s : GraphicBufferSource) : GraphicBufferSource :=
  if 0 < s.mFrameRepeatIntervalUs ∧ !s.mLooper then
    if s.mLatestBuffer.isSome then
      { s with
        mReflector := true
        mLooper := true
        mFrameRepeatBlockedOnCodecBuffer := false
        mRepeatLastFrameGeneration := s.mRepeatLastFrameGeneration + 1
        log := s.log ++
          [.repeatPosted (s.mRepeatLastFrameGeneration + 1) s.mFrameRepeatIntervalUs] }
    else
      { s with mReflector := true, mLooper := true }
  else
    s

theorem startLooper_sat {P : Unit -> GraphicBufferSource -> Prop}
    {E : Abort -> GraphicBufferSource -> Prop} :
    Sat startLooper P E s <-> P () (withLooper s) := by
  unfold startLooper withLooper
  rw [sat_bind, sat_get]
  by_cases hlooper : 0 < s.mFrameRepeatIntervalUs ∧ !s.mLooper
  · rw [if_pos hlooper, if_pos hlooper, sat_bind, sat_modifyControl]
    by_cases hlatest : s.mLatestBuffer.isSome
    · rw [if_pos hlatest, if_pos hlatest, queueFrameRepeat_l_sat]
      rfl
    · rw [if_neg hlatest, if_neg hlatest]
      rfl
  · rw [if_neg hlooper, if_neg hlooper]
    rfl

structure Begins (s t : GraphicBufferSource) : Prop where
  buffers : s.toBuffers.Keeps [] t.toBuffers
  control : t.toControl.repeating = { s.toControl.repeating with mExecuting := true }

theorem start_starts :
    Sat start
      (fun _ t => s.mExecuting = false ∧
        exists begun u, Begins s begun ∧ Moves begun u ∧ t = withLooper u)
      (fun _ t => t = s ∨ exists begun, Begins s begun ∧ Moves begun t) s := by
  unfold start
  rw [sat_bind, sat_get, sat_bind, sat_check]
  constructor
  · intro hidle
    rw [sat_bind, sat_modifyControl, sat_bind]
    have hbegins : Begins s { s with
        mExecuting := true, mLastDataspace := halDataspaceUnknown } :=
      ⟨.refl s.toBuffers, rfl⟩
    apply (Moves.loadAvailable _ _).mono
    · intro _ t ht
      rw [sat_bind]
      apply (Moves.sendPendingEos t).mono
      · intro _ u hu
        rw [sat_bind, startLooper_sat]
        refine ⟨?_, _, u, hbegins, ht.trans hu, rfl⟩
        simpa using hidle
      · intro _ u hu
        exact Or.inr ⟨_, hbegins, ht.trans hu⟩
    · intro _ t ht
      exact Or.inr ⟨_, hbegins, ht⟩
  · intro _
    exact Or.inl rfl

structure Clears (s t : GraphicBufferSource) : Prop where
  latest : t.mLatestBuffer = none
  idle : t.mExecuting = false
  looper : s.mLooper = s.mReflector -> t.mLooper = t.mReflector
  calls : exists calls, t.log = s.log ++ calls ∧
    calls.filterMap Event.offer? = [] ∧ NoPosts calls

theorem clears_of_reset {b : Buffers} {calls : List Event}
    (hlog : b.log = s.log ++ calls) (hoffers : calls.filterMap Event.offer? = [])
    (hposts : NoPosts calls)
    (hbuffers : t.toBuffers = (b.setLatest none).unholdAll b.latest)
    (hidle : t.mExecuting = false)
    (hlooper : s.mLooper = s.mReflector -> t.mLooper = t.mReflector) :
    Clears s t := by
  rcases assignLatest_buffers b none with ⟨hlatest, tail, htail, hplain⟩
  rw [← hbuffers] at hlatest htail
  refine ⟨hlatest, hidle, hlooper, calls ++ tail, ?_, ?_, ?_⟩
  · rw [htail, hlog, List.append_assoc]
  · rw [List.filterMap_append, hoffers, Buffers.offers_of_plain hplain]
    rfl
  · exact hposts.append (noPosts_of_quiet (supersedes_of_plain hplain))

theorem release_clears :
    Sat release (fun _ t => Clears s t) (fun _ _ => False) s := by
  unfold release assignLatest
  rw [sat_bind, sat_modifyControl, sat_bind, sat_get, sat_bind, sat_modifyBuffers,
    sat_bind, sat_unholdAll, sat_bind, sat_bind, sat_get, sat_bind, sat_modifyBuffers,
    sat_unholdAll, sat_bind, sat_modifyControl, sat_pure]
  have hkeeps : s.toBuffers.Keeps [] ((s.toBuffers.clearCodecBuffers.note
      .released).unholdAll s.toBuffers.submitted) := by
    have hcleared : s.toBuffers.Keeps []
        (s.toBuffers.clearCodecBuffers.note .released) :=
      .of_event rfl rfl rfl
    exact hcleared.trans (Buffers.keeps_unholdAll _ _)
  rcases hkeeps.calls with ⟨calls, hlog, hquiet, hoffers⟩
  exact clears_of_reset hlog hoffers (noPosts_of_quiet hquiet) rfl rfl fun _ => rfl

theorem sat_assignLatest {item : Option VideoBuffer}
    {P : Unit -> GraphicBufferSource -> Prop}
    {E : Abort -> GraphicBufferSource -> Prop} :
    Sat (assignLatest item) P E s <-> P () { s with
      toBuffers := (s.toBuffers.setLatest item).unholdAll s.toBuffers.latest } :=
  Iff.rfl

theorem configure_clears (args : ConfigureArgs) :
    Sat (configure args)
      (fun _ t => Moves s t ∨ args.succeeds s.answers = true ∧ Clears s t)
      (fun _ t => Moves s t) s := by
  have hnote : forall (b : Buffers) (e : Event), e.plain = true ->
      s.toBuffers.Keeps [] b -> s.toBuffers.Keeps [] (b.note e) := by
    intro b e he hb
    exact hb.trans (b.keeps_note he)
  unfold configure
  rw [sat_bind, sat_get]
  cases hcomponent : args.component with
  | none => exact Or.inl (Std.Refl.refl s)
  | some component =>
      apply ((Stays.setMaxAcquiredBufferCount args.bufferCount s).mono
        (fun _ _ ht => ht) fun _ _ ht => ht.moves).bind
      intro _ t ht
      have hcount := ht.buffers
      have hcontrol : t.toControl.repeating = s.toControl.repeating :=
        ht.repeating
      have hmoves : forall (b : Buffers) (mComponent : Option ComponentId),
          s.toBuffers.Keeps [] b ->
            Moves s { t with toBuffers := b, mComponent := mComponent } :=
        fun _ _ hb => Rests.moves ⟨hb, hcontrol⟩
      have hsize := hnote _ (.setDefaultBufferSize args.frameWidth args.frameHeight)
        rfl hcount
      have husage := hnote _ (.setConsumerUsageBits
        (args.consumerUsage ||| grallocUsageHwVideoEncoder)) rfl hsize
      have hformat := hnote _
        (.setDefaultBufferFormat halPixelFormatImplementationDefined) rfl husage
      have hspace := hnote _ (.setDefaultBufferDataSpace args.dataSpace) rfl hformat
      simp only [sat_bind, sat_note, sat_ite, sat_pure, sat_modifyControl]
      refine ⟨fun _ => Or.inl (hmoves _ _ hcount), fun hok =>
        ⟨fun _ => Or.inl (hmoves _ _ hsize), fun hok' =>
          ⟨fun _ => Or.inl (hmoves _ _ hformat), fun hok'' => ?_⟩⟩⟩
      rw [sat_assignLatest]
      right
      constructor
      · rw [not_not] at hok hok' hok''
        unfold ConfigureArgs.succeeds
        rw [hcomponent, hok, hok', hok'']
        rfl
      · rcases hspace.calls with ⟨calls, hlog, hquiet, hoffers⟩
        have hconfigured : NoPosts (calls ++ [.configured]) := by
          apply (noPosts_of_quiet hquiet).append
          intro e he generation delayUs
          rw [List.mem_singleton.mp he]
          intro hposted
          cases hposted
        have hlooper : t.mLooper = s.mLooper := congrArg Repeating.mLooper hcontrol
        have hreflector : t.mReflector = s.mReflector :=
          congrArg Repeating.mReflector hcontrol
        refine clears_of_reset ?_ ?_ hconfigured rfl rfl ?_
        · show _ ++ [Event.configured] = _
          rw [hlog, List.append_assoc]
        · rw [List.filterMap_append, hoffers]
          rfl
        · intro hsame
          exact hlooper.trans (hsame.trans hreflector.symm)

theorem setRepeatPreviousFrameDelayUs_sat (repeatAfterUs : Int) :
    Sat (setRepeatPreviousFrameDelayUs repeatAfterUs)
      (fun _ t => t = s ∨ s.mExecuting = false ∧ 0 < repeatAfterUs ∧
        t = { s with mFrameRepeatIntervalUs := repeatAfterUs })
      (fun _ _ => False) s := by
  unfold setRepeatPreviousFrameDelayUs
  rw [sat_bind, sat_get, sat_ite]
  refine ⟨fun _ => Or.inl rfl, fun haccepted => ?_⟩
  rw [sat_bind, sat_modifyControl, sat_pure]
  right
  simp only [Bool.or_eq_true, decide_eq_true_eq, not_or, Bool.not_eq_true,
    not_le] at haccepted
  exact ⟨haccepted.1, haccepted.2, rfl⟩

/-!
# Requests
-/

inductive ChangesLatest (request : Request) (s t : GraphicBufferSource) : Prop where
  | tries (h : Tries s t)
  | starts (begun u : GraphicBufferSource) (hidle : s.mExecuting = false)
      (hbegins : Begins s begun) (hmoves : Moves begun u) (ht : t = withLooper u)
  | releases (hrequest : request.unregisters = true) (h : Clears s t)
  | configures (args : ConfigureArgs) (answers : Answers)
      (hrequest : request = .call (.configure args) answers)
      (hok : args.succeeds answers = true) (h : Clears s t)
  | sets (repeatAfterUs : Int) (answers : Answers)
      (hrequest : request = .call (.setRepeatPreviousFrameDelayUs repeatAfterUs) answers)
      (hidle : s.mExecuting = false) (hpositive : 0 < repeatAfterUs)
      (hkeeps : s.toBuffers.Keeps [] t.toBuffers)
      (hcontrol : t.toControl.repeating = { s.toControl.repeating with
        mFrameRepeatIntervalUs := repeatAfterUs })

def EndsWithoutRepeat (s t : GraphicBufferSource) : Prop :=
  exists calls, t.log = s.log ++ calls ∧ AllFresh calls

theorem Moves.ends (h : Moves s t) : EndsWithoutRepeat s t := by
  rcases h with ⟨calls, hcalls⟩
  exact ⟨calls, hcalls.log, hcalls.fresh⟩

theorem perform_moves {op : Op} (hstart : op ≠ .start) (hrelease : op ≠ .release)
    (hemptied : forall id fd, op ≠ .onInputBufferEmptied id fd)
    (hconfigure : forall args, op ≠ .configure args)
    (hsuspend : forall suspend time, op ≠ .setSuspend suspend time)
    (hset : forall us, op ≠ .setRepeatPreviousFrameDelayUs us)
    (hmessage : forall generation, op ≠ .onMessageReceived generation) :
    Leads Moves (perform op) := by
  have hcontrol : forall f : Control -> Control,
      (forall c, (f c).repeating = c.repeating) -> Leads Moves (modifyControl f) :=
    fun _ h => Moves.modifyControl h
  cases op with
  | start => exact absurd rfl hstart
  | stop =>
      refine .bind (.bind ?_ fun _ => leads_pure) fun _ => leads_pure
      apply leads_modify
      intro t
      exact ⟨[], {
        interval := rfl
        looper := rfl
        reflector := rfl
        executing := fun h => by cases h
        log := (List.append_nil _).symm
        fresh := allFresh_of_nil rfl
        rising := .done (Int.le_refl _)
        posts := fun _ e he => (List.not_mem_nil he).elim
        latest := .kept rfl rfl rfl (fun e he => (List.not_mem_nil he).elim)
          fun _ => refused_nil }⟩
  | release => exact absurd rfl hrelease
  | onInputBufferAdded bufferId =>
      have hadd : Leads (Stays []) (modifyBuffers fun b => b.addCodecBuffer bufferId) :=
        Stays.modifyBuffers fun _ => .of_event rfl rfl rfl
      refine .bind ?_ fun _ => leads_pure
      apply leads_get
      intro t
      apply leads_ite (fun _ => leads_pure)
      intro _
      exact (Moves.of_stays hadd).bind fun _ => leads_pure
  | onInputBufferEmptied bufferId fenceFd => exact absurd rfl (hemptied _ _)
  | onFrameAvailable => exact onFrameAvailable_moves.bind fun _ => leads_pure
  | onBuffersReleased =>
      exact (Moves.of_stays Stays.intake.onBuffersReleased).bind fun _ => leads_pure
  | configure args => exact absurd rfl (hconfigure args)
  | setSuspend suspend time => exact absurd rfl (hsuspend suspend time)
  | setRepeatPreviousFrameDelayUs us => exact absurd rfl (hset us)
  | setTimeOffsetUs timeOffsetUs =>
      refine .bind ?_ fun _ => leads_pure
      apply leads_ite (fun _ => leads_pure)
      intro _
      exact .bind (hcontrol _ fun _ => rfl) fun _ => leads_pure
  | setMaxFps maxFps =>
      refine .bind ?_ fun _ => leads_pure
      apply leads_get
      intro t
      apply leads_ite (fun _ => leads_pure)
      intro _
      apply leads_ite
      · intro _
        exact .bind (hcontrol _ fun _ => rfl) fun _ => leads_pure
      · intro _
        exact .bind (hcontrol _ fun _ => rfl) fun _ => leads_pure
  | setStartTimeUs skipFramesBeforeUs =>
      exact .bind (.bind (hcontrol _ fun _ => rfl) fun _ => leads_pure)
        fun _ => leads_pure
  | setStopTimeUs stopTimeUs =>
      refine .bind ?_ fun _ => leads_pure
      apply leads_get
      intro t
      apply leads_ite (fun _ => leads_pure)
      intro _
      apply leads_ite (fun _ => leads_pure)
      intro _
      exact .bind (hcontrol _ fun _ => rfl) fun _ => leads_pure
  | getStopTimeOffsetUs =>
      refine .bind ?_ fun _ => leads_pure
      apply leads_get
      intro t
      exact leads_ite (fun _ => leads_pure) (fun _ => leads_pure)
  | setTimeLapseConfig fps captureFps =>
      refine .bind ?_ fun _ => leads_pure
      apply leads_get
      intro t
      apply leads_ite (fun _ => leads_pure)
      intro _
      exact .bind (hcontrol _ fun _ => rfl) fun _ => leads_pure
  | setColorAspects aspectsPacked =>
      exact .bind (.bind (hcontrol _ fun _ => rfl) fun _ => leads_pure)
        fun _ => leads_pure
  | signalEndOfInputStream =>
      refine .bind ?_ fun _ => leads_pure
      apply leads_get
      intro t
      apply leads_ite (fun _ => leads_pure)
      intro _
      refine .bind (hcontrol _ fun _ => rfl) fun _ => ?_
      apply leads_ite
      · intro _
        exact submitEndOfInputStream_l_moves.bind fun _ => leads_pure
      · intro _
        exact leads_pure
  | onMessageReceived generation => exact absurd rfl (hmessage generation)

theorem Begins.ends {begun : GraphicBufferSource} (h : Begins s begun)
    (hmoves : Moves begun t) : EndsWithoutRepeat s t := by
  rcases hmoves with ⟨calls', hcalls'⟩
  rcases h.buffers.calls with ⟨calls, hlog, _, hoffers⟩
  refine ⟨calls ++ calls', ?_, (allFresh_of_nil hoffers).append hcalls'.fresh⟩
  rw [hcalls'.log, hlog, List.append_assoc]

theorem exec_changesLatest (request : Request) (hmessage : request.isMessage = false) :
    Sat (exec request) (fun _ t => ChangesLatest request s t)
      (fun _ t => EndsWithoutRepeat s t) s := by
  cases request with
  | queueFrame item =>
      have hqueued : s.toBuffers.Keeps [] (s.toBuffers.queueFrame item) :=
        .of_event rfl rfl rfl
      exact .tries (Or.inl (Rests.moves ⟨hqueued, rfl⟩))
  | call op answers =>
      show Sat (perform op) _ _ { s with answers := answers }
      have hrests : Rests s { s with answers := answers } := ⟨.refl s.toBuffers, rfl⟩
      by_cases hstart : op = .start
      · rw [hstart]
        apply sat_bind.mpr
        apply start_starts.mono
        · intro _ t ht
          rcases ht with ⟨hidle, begun, u, hbegins, hmoves, ht⟩
          exact .starts begun u hidle ⟨hbegins.buffers, hbegins.control⟩ hmoves ht
        · intro _ t ht
          rcases ht with ht | ⟨begun, hbegins, hmoves⟩
          · rw [ht]
            exact ⟨[], (List.append_nil _).symm, allFresh_of_nil rfl⟩
          · have hbegun : Begins s begun := ⟨hbegins.buffers, hbegins.control⟩
            exact hbegun.ends hmoves
      by_cases hrelease : op = .release
      · rw [hrelease]
        apply sat_bind.mpr
        apply release_clears.total
        intro _ t ht
        exact .releases rfl
          ⟨ht.latest, ht.idle, ht.looper, ht.calls⟩
      by_cases hemptied : exists id fd, op = .onInputBufferEmptied id fd
      · rcases hemptied with ⟨id, fd, hop⟩
        rw [hop]
        apply sat_bind.mpr
        apply (onInputBufferEmptied_tries id fd).mono
        · intro _ t ht
          exact .tries (hrests.tries ht)
        · intro _ t ht
          exact (hrests.moves.trans ht).ends
      by_cases hconfigure : exists args, op = .configure args
      · rcases hconfigure with ⟨args, hop⟩
        rw [hop]
        apply sat_bind.mpr
        apply (configure_clears args).mono
        · intro _ t ht
          rcases ht with hmoves | ⟨hok, hclears⟩
          · exact .tries (Or.inl (hrests.moves.trans hmoves))
          · exact .configures args answers rfl hok ⟨hclears.latest, hclears.idle,
              hclears.looper, hclears.calls⟩
        · intro _ t ht
          exact (hrests.moves.trans ht).ends
      by_cases hsuspend : exists suspend time, op = .setSuspend suspend time
      · rcases hsuspend with ⟨suspend, time, hop⟩
        rw [hop]
        apply sat_bind.mpr
        apply (setSuspend_tries suspend time).mono
        · intro _ t ht
          exact .tries (hrests.tries ht)
        · intro _ t ht
          exact (hrests.moves.trans ht).ends
      by_cases hset : exists us, op = .setRepeatPreviousFrameDelayUs us
      · rcases hset with ⟨us, hop⟩
        rw [hop]
        apply sat_bind.mpr
        apply (setRepeatPreviousFrameDelayUs_sat us).total
        intro _ t ht
        rcases ht with ht | ⟨hidle, hpositive, ht⟩
        · rw [ht]
          exact .tries (Or.inl hrests.moves)
        · rw [ht]
          exact .sets us answers rfl hidle hpositive (.refl s.toBuffers) rfl
      · apply (perform_moves hstart hrelease
          (fun id fd hop => hemptied ⟨id, fd, hop⟩)
          (fun args hop => hconfigure ⟨args, hop⟩)
          (fun suspend time hop => hsuspend ⟨suspend, time, hop⟩)
          (fun us hop => hset ⟨us, hop⟩) ?_ _).mono
        · intro _ t ht
          exact .tries (Or.inl (hrests.moves.trans ht))
        · intro _ t ht
          exact (hrests.moves.trans ht).ends
        · intro generation hop
          rw [hop] at hmessage
          cases hmessage

end Repeating

end Bqhelper
end Sm7225
