import Sm7225.Bqhelper.RepeatSteps

/-!
# The repeat protocol

In a run where {lit}`configure` only succeeds without undelivered messages, the
generations of the undelivered messages are all different and none is above the
current one.  So a message with the current generation is the newest, and nothing
has superseded it, nor the message whose repeat is blocked.  The latest frame has at
most one chance of a repeat at a time, which is such a message or a blocked repeat,
and none after its last one.
-/

namespace Sm7225
namespace Bqhelper

open Lib

/-!
# Between requests
-/

structure Ready (s : GraphicBufferSource) : Prop where
  looper : s.mLooper = s.mReflector
  executing : s.mExecuting = true -> 0 < s.mFrameRepeatIntervalUs ->
    s.mReflector = true
  latest : s.mLatestBuffer.isSome = true -> s.mReflector = true

inductive LatestGoes (calls : List Event) (s t : GraphicBufferSource) : Prop where
  | kept (hlatest : t.mLatestBuffer = s.mLatestBuffer)
      (hcount : t.mOutstandingFrameRepeatCount = s.mOutstandingFrameRepeatCount)
      (hblocked : t.mFrameRepeatBlockedOnCodecBuffer =
        s.mFrameRepeatBlockedOnCodecBuffer)
      (hquiet : forall e, e ∈ calls -> e.supersedes = false)
      (hrefused : 0 < s.mFrameRepeatIntervalUs ->
        Refused (calls.filterMap Event.offer?))
  | gone (hlatest : t.mLatestBuffer = none)
      (hlater : s.mReflector = true ->
        s.mRepeatLastFrameGeneration < t.mRepeatLastFrameGeneration)
  | became (item : VideoBuffer) (htaken : LastTaken item (calls.filterMap Event.offer?))
      (hlatest : t.mLatestBuffer = some { item with
        mTimestampNs := item.mTimestampNs + s.mFrameRepeatIntervalUs * 1000 })
      (hcount : t.mOutstandingFrameRepeatCount = kRepeatLastFrameCount)
      (hunblocked : t.mFrameRepeatBlockedOnCodecBuffer = false)
      (hreflector : t.mReflector = true) (hinterval : 0 < s.mFrameRepeatIntervalUs)
      (hlater : s.mReflector = true ->
        s.mRepeatLastFrameGeneration < t.mRepeatLastFrameGeneration)

structure Goes (calls : List Event) (s t : GraphicBufferSource) : Prop where
  interval : t.mFrameRepeatIntervalUs = s.mFrameRepeatIntervalUs
  ready : Ready t
  reflector : t.mReflector = false -> s.mReflector = false
  log : t.log = s.log ++ calls
  fresh : AllFresh calls
  rising : Rising s.mRepeatLastFrameGeneration calls t.mRepeatLastFrameGeneration
  posts : t.mReflector = false -> NoPosts calls
  latest : LatestGoes calls s t

section Requests

variable {s t u : GraphicBufferSource} {calls : List Event}

theorem Ready.goes (h : Ready s) (hmoves : MovesBy calls s t) : Goes calls s t := by
  have hexecuting : t.mExecuting = true -> 0 < t.mFrameRepeatIntervalUs ->
      t.mReflector = true := by
    intro hexecuting hinterval
    rw [hmoves.interval] at hinterval
    rw [hmoves.reflector]
    exact h.executing (hmoves.executing hexecuting) hinterval
  have hlooper : t.mLooper = t.mReflector := by
    rw [hmoves.looper, hmoves.reflector]
    exact h.looper
  have hrest : (t.mLatestBuffer.isSome = true -> t.mReflector = true) ∧
      LatestGoes calls s t := by
    cases hmoves.latest with
    | kept hlatest hcount hblocked hquiet hrefused =>
        constructor
        · rw [hlatest, hmoves.reflector]
          exact h.latest
        · exact .kept hlatest hcount hblocked hquiet hrefused
    | gone hlatest hlater =>
        constructor
        · intro hsome
          rw [hlatest] at hsome
          cases hsome
        · exact .gone hlatest fun _ => hlater
    | became item htaken hlatest hcount hunblocked hrunning hinterval hlater =>
        have hreflector : t.mReflector = true := by
          rw [hmoves.reflector]
          exact h.executing hrunning hinterval
        exact ⟨fun _ => hreflector,
          .became item htaken hlatest hcount hunblocked hreflector hinterval hlater⟩
  exact {
    interval := hmoves.interval
    ready := ⟨hlooper, hexecuting, hrest.1⟩
    reflector := fun hnone => hmoves.reflector ▸ hnone
    log := hmoves.log
    fresh := hmoves.fresh
    rising := hmoves.rising
    posts := fun hnone => hmoves.posts (hmoves.reflector ▸ hnone)
    latest := hrest.2 }

theorem withLooper_of_not (h : ¬(0 < s.mFrameRepeatIntervalUs ∧ !s.mLooper)) :
    withLooper s = s :=
  if_neg h

theorem withLooper_of_latest (h : 0 < s.mFrameRepeatIntervalUs ∧ !s.mLooper)
    (hlatest : s.mLatestBuffer.isSome = true) :
    withLooper s = { s with
      mReflector := true
      mLooper := true
      mFrameRepeatBlockedOnCodecBuffer := false
      mRepeatLastFrameGeneration := s.mRepeatLastFrameGeneration + 1
      log := s.log ++
        [.repeatPosted (s.mRepeatLastFrameGeneration + 1)
          s.mFrameRepeatIntervalUs] } := by
  unfold withLooper
  rw [if_pos h, if_pos hlatest]

theorem withLooper_of_none (h : 0 < s.mFrameRepeatIntervalUs ∧ !s.mLooper)
    (hlatest : s.mLatestBuffer = none) :
    withLooper s = { s with mReflector := true, mLooper := true } := by
  unfold withLooper
  rw [if_pos h, hlatest]
  rfl

theorem rising_post (generation delayUs : Int) :
    Rising generation [.repeatPosted (generation + 1) delayUs] (generation + 1) := by
  refine .call ⟨?_, fun _ => ?_, ?_⟩ (.done (Int.le_refl _))
  · lia
  · lia
  · intro generation' delayUs' he
    injection he with hgeneration
    exact hgeneration.symm

structure LoadsLatest (calls : List Event) (s u : GraphicBufferSource) : Prop where
  interval : u.mFrameRepeatIntervalUs = s.mFrameRepeatIntervalUs
  looper : u.mLooper = s.mLooper
  reflector : u.mReflector = s.mReflector
  log : u.log = s.log ++ calls
  fresh : AllFresh calls
  rising : Rising s.mRepeatLastFrameGeneration calls u.mRepeatLastFrameGeneration
  posts : s.mReflector = false -> NoPosts calls
  latest : exists begun, Begins s begun ∧ LatestMoves calls begun u

theorem Begins.loads {begun : GraphicBufferSource} (h : Begins s begun)
    (hmoves : Moves begun u) : exists calls, LoadsLatest calls s u := by
  have hcontrol := h.control
  have hreflector : begun.mReflector = s.mReflector :=
    congrArg Repeating.mReflector hcontrol
  have hgeneration : begun.mRepeatLastFrameGeneration =
      s.mRepeatLastFrameGeneration :=
    congrArg Repeating.mRepeatLastFrameGeneration hcontrol
  rcases h.buffers.calls with ⟨calls, hlog, hquiet, hoffers⟩
  rcases hmoves with ⟨calls', hcalls'⟩
  have htail : (calls ++ calls').filterMap Event.offer? =
      calls'.filterMap Event.offer? := by
    rw [List.filterMap_append, hoffers]
    rfl
  refine ⟨calls ++ calls', {
    interval := hcalls'.interval.trans (congrArg Repeating.mFrameRepeatIntervalUs hcontrol)
    looper := hcalls'.looper.trans (congrArg Repeating.mLooper hcontrol)
    reflector := hcalls'.reflector.trans hreflector
    log := ?_
    fresh := (allFresh_of_nil hoffers).append hcalls'.fresh
    rising := ?_
    posts := ?_
    latest := ⟨begun, h, ?_⟩ }⟩
  · rw [hcalls'.log, hlog, List.append_assoc]
  · exact (rising_of_quiet (le_of_eq hgeneration.symm) hquiet).append hcalls'.rising
  · intro hnone
    exact (noPosts_of_quiet hquiet).append (hcalls'.posts (hreflector.trans hnone))
  · cases hcalls'.latest with
    | kept hlatest hcount hblocked hquiet' hrefused =>
        refine .kept hlatest hcount hblocked ?_ (htail ▸ hrefused)
        intro e he
        rcases List.mem_append.mp he with he | he
        · exact hquiet e he
        · exact hquiet' e he
    | gone hlatest hlater => exact .gone hlatest hlater
    | became item htaken hlatest hcount hunblocked hrunning hinterval hlater =>
        exact .became item (htail ▸ htaken) hlatest hcount hunblocked hrunning hinterval
          hlater

theorem LoadsLatest.starts (h : Ready s) (hloads : LoadsLatest calls s u)
    (hlooper : 0 < u.mFrameRepeatIntervalUs ∧ !u.mLooper) :
    exists calls', Goes calls' s (withLooper u) := by
  rcases hloads.latest with ⟨begun, hbegins, hlatestMoves⟩
  have hinterval' : begun.mFrameRepeatIntervalUs = s.mFrameRepeatIntervalUs :=
    congrArg Repeating.mFrameRepeatIntervalUs hbegins.control
  have hnone : s.mReflector = false := by
    have hset := hlooper.2
    rw [hloads.looper, h.looper] at hset
    simpa using hset
  have hnew : s.mReflector = true ->
      s.mRepeatLastFrameGeneration < (withLooper u).mRepeatLastFrameGeneration := by
    intro hset
    rw [hnone] at hset
    cases hset
  have hwithout : s.mLatestBuffer = none := by
    cases hlatest : s.mLatestBuffer with
    | none => rfl
    | some latest =>
        have hset := h.latest (by rw [hlatest]; rfl)
        rw [hnone] at hset
        cases hset
  cases hlatest : u.mLatestBuffer with
  | none =>
      rw [withLooper_of_none hlooper hlatest] at hnew ⊢
      exact ⟨calls, {
        interval := hloads.interval
        ready := ⟨rfl, fun _ _ => rfl, fun _ => rfl⟩
        reflector := fun _ => hnone
        log := hloads.log
        fresh := hloads.fresh
        rising := hloads.rising
        posts := fun _ => hloads.posts hnone
        latest := .gone hlatest hnew }⟩
  | some latest =>
      rw [withLooper_of_latest hlooper (by rw [hlatest]; rfl)] at hnew ⊢
      have hoffers : (calls ++ [Event.repeatPosted (u.mRepeatLastFrameGeneration + 1)
          u.mFrameRepeatIntervalUs]).filterMap Event.offer? =
            calls.filterMap Event.offer? := by
        rw [List.filterMap_append]
        exact List.append_nil _
      refine ⟨calls ++ [.repeatPosted (u.mRepeatLastFrameGeneration + 1)
          u.mFrameRepeatIntervalUs], {
        interval := hloads.interval
        ready := ⟨rfl, fun _ _ => rfl, fun _ => rfl⟩
        reflector := fun _ => hnone
        log := ?_
        fresh := hloads.fresh.append (allFresh_of_nil rfl)
        rising := hloads.rising.append (rising_post _ _)
        posts := fun hfalse => by cases hfalse
        latest := ?_ }⟩
      · show u.log ++ _ = _
        rw [hloads.log, List.append_assoc]
      · cases hlatestMoves with
        | kept hkept _ _ _ _ =>
            rw [hkept, hbegins.buffers.latest, hwithout] at hlatest
            cases hlatest
        | gone hgone _ =>
            rw [hgone] at hlatest
            cases hlatest
        | became item htaken hbecame hcount _ _ hinterval _ =>
            rw [hinterval'] at hbecame hinterval
            refine .became item ?_ hbecame hcount rfl rfl hinterval hnew
            rw [hoffers]
            exact htaken

theorem LoadsLatest.rests (h : Ready s) (hloads : LoadsLatest calls s u)
    (hlooper : ¬(0 < u.mFrameRepeatIntervalUs ∧ !u.mLooper)) :
    Goes calls s (withLooper u) := by
  rcases hloads.latest with ⟨begun, hbegins, hlatestMoves⟩
  have hcontrol := hbegins.control
  have hinterval' : begun.mFrameRepeatIntervalUs = s.mFrameRepeatIntervalUs :=
    congrArg Repeating.mFrameRepeatIntervalUs hcontrol
  have hgeneration : begun.mRepeatLastFrameGeneration =
      s.mRepeatLastFrameGeneration :=
    congrArg Repeating.mRepeatLastFrameGeneration hcontrol
  have hbefore : begun.mReflector = s.mReflector :=
    congrArg Repeating.mReflector hcontrol
  have hreflector : 0 < u.mFrameRepeatIntervalUs -> u.mReflector = true := by
    intro hinterval
    rw [hloads.reflector, ← h.looper, ← hloads.looper]
    cases hset : u.mLooper with
    | true => rfl
    | false => exact absurd ⟨hinterval, by rw [hset]; rfl⟩ hlooper
  rw [withLooper_of_not hlooper]
  have hrest : (u.mLatestBuffer.isSome = true -> u.mReflector = true) ∧
      LatestGoes calls s u := by
    cases hlatestMoves with
    | kept hlatest hcount hblocked hquiet hrefused =>
        have hsame := hlatest.trans hbegins.buffers.latest
        constructor
        · rw [hsame, hloads.reflector]
          exact h.latest
        · exact .kept hsame
            (hcount.trans
              (congrArg Repeating.mOutstandingFrameRepeatCount hcontrol))
            (hblocked.trans
              (congrArg Repeating.mFrameRepeatBlockedOnCodecBuffer hcontrol))
            hquiet (hinterval' ▸ hrefused)
    | gone hlatest hlater =>
        constructor
        · intro hsome
          rw [hlatest] at hsome
          cases hsome
        · exact .gone hlatest fun _ => hgeneration ▸ hlater
    | became item htaken hlatest hcount hunblocked _ hinterval hlater =>
        rw [hinterval'] at hlatest hinterval
        have hset : u.mReflector = true := by
          apply hreflector
          rw [hloads.interval]
          exact hinterval
        refine ⟨fun _ => hset,
          .became item htaken hlatest hcount hunblocked hset hinterval ?_⟩
        rw [← hgeneration, ← hbefore]
        exact hlater
  exact {
    interval := hloads.interval
    ready := ⟨by rw [hloads.looper, hloads.reflector]; exact h.looper,
      fun _ => hreflector, hrest.1⟩
    reflector := fun hnone => hloads.reflector ▸ hnone
    log := hloads.log
    fresh := hloads.fresh
    rising := hloads.rising
    posts := fun hnone => hloads.posts (hloads.reflector ▸ hnone)
    latest := hrest.2 }

theorem Ready.starts {begun : GraphicBufferSource} (h : Ready s)
    (hbegins : Begins s begun) (hmoves : Moves begun u) :
    exists calls, Goes calls s (withLooper u) := by
  rcases hbegins.loads hmoves with ⟨calls, hloads⟩
  by_cases hlooper : 0 < u.mFrameRepeatIntervalUs ∧ !u.mLooper
  · exact hloads.starts h hlooper
  · exact ⟨calls, hloads.rests h hlooper⟩

end Requests

/-!
# Messages
-/

def laterMessages (waiting : List Message) (calls : List Event) (turn : Nat) :
    List Message :=
  waiting.map (fun m => m.later calls) ++ posted turn calls

section Messages

variable {waiting : List Message} {calls : List Event} {lo hi : Int}

theorem mem_laterMessages {turn : Nat} {m : Message}
    (h : m ∈ laterMessages waiting calls turn) :
    (exists m', m' ∈ waiting ∧ m = m'.later calls) ∨
      m ∈ posted turn calls := by
  rcases List.mem_append.mp h with h | h
  · left
    rcases List.mem_map.mp h with ⟨m', hm', heq⟩
    exact ⟨m', hm', heq.symm⟩
  · exact Or.inr h

theorem rising_laterMessages (hcalls : Rising lo calls hi) (turn : Nat)
    (h : forall m, m ∈ waiting -> Rising m.generation m.since lo) :
    forall m, m ∈ laterMessages waiting calls turn ->
      Rising m.generation m.since hi := by
  intro m hm
  rcases mem_laterMessages hm with ⟨m', hm', heq⟩ | hposted
  · rw [heq]
    exact (h m' hm').append hcalls
  · exact (hcalls.posted turn m hposted).2.1

theorem pairwise_laterMessages (hcalls : Rising lo calls hi) (turn : Nat)
    (h : forall m, m ∈ waiting -> Rising m.generation m.since lo)
    (hpairwise : waiting.Pairwise fun m m' => m.generation < m'.generation) :
    (laterMessages waiting calls turn).Pairwise
      fun m m' => m.generation < m'.generation := by
  apply List.pairwise_append.mpr
  refine ⟨?_, hcalls.posted_pairwise turn, ?_⟩
  · exact List.pairwise_map.mpr hpairwise
  · intro m hm m' hm'
    rcases List.mem_map.mp hm with ⟨m'', hm'', heq⟩
    have hle := (h m'' hm'').le
    have hlt := (hcalls.posted turn m' hm').1
    rw [← heq]
    exact hle.trans_lt hlt

theorem current_laterMessages (hcalls : Rising lo calls hi) (turn : Nat)
    (hposts : NoPosts calls)
    (h : forall m, m ∈ waiting -> Rising m.generation m.since lo) {m : Message}
    (hm : m ∈ laterMessages waiting calls turn) (hcurrent : m.generation = hi) :
    exists m', m' ∈ waiting ∧ m'.generation = lo := by
  rcases mem_laterMessages hm with ⟨m', hm', heq⟩ | hposted
  · refine ⟨m', hm', ?_⟩
    have hle := (h m' hm').le
    have hcalls' := hcalls.le
    rw [heq] at hcurrent
    have hcurrent' : m'.generation = hi := hcurrent
    lia
  · rw [hposts.posted turn] at hposted
    cases hposted

theorem stale_laterMessages (hcalls : Rising lo calls hi) (turn : Nat)
    (hposts : NoPosts calls)
    (h : forall m, m ∈ waiting -> Rising m.generation m.since lo)
    (hstale : forall m, m ∈ waiting -> m.generation ≠ lo) :
    forall m, m ∈ laterMessages waiting calls turn -> m.generation ≠ hi := by
  intro m hm hcurrent
  rcases current_laterMessages hcalls turn hposts h hm hcurrent with ⟨m', hm', heq⟩
  exact hstale m' hm' heq

end Messages

/-!
# Turns
-/

section Turns

variable {turn : Turn} {offers : List Offer} {mFrameRepeatIntervalUs : Int}

theorem foldl_refused (h : Refused offers) :
    offers.foldl (Turn.take mFrameRepeatIntervalUs) turn = turn := by
  induction offers with
  | nil => rfl
  | cons offer offers ih =>
      have hfirst : turn.take mFrameRepeatIntervalUs offer = turn :=
        if_pos (h offer List.mem_cons_self)
      rw [List.foldl_cons, hfirst]
      exact ih fun offer' ho => h offer' (List.mem_cons_of_mem offer ho)

theorem foldl_idle (hidle : ¬0 < mFrameRepeatIntervalUs)
    (hfresh : forall offer, offer ∈ offers -> offer.origin = .fresh) :
    offers.foldl (Turn.take mFrameRepeatIntervalUs) turn = turn := by
  induction offers with
  | nil => rfl
  | cons offer offers ih =>
      have hfirst : turn.take mFrameRepeatIntervalUs offer = turn := by
        unfold Turn.take
        rw [hfresh offer List.mem_cons_self, if_neg hidle, ite_self]
      rw [List.foldl_cons, hfirst]
      exact ih fun offer' ho => hfresh offer' (List.mem_cons_of_mem offer ho)

theorem foldl_taken {item : VideoBuffer} (hinterval : 0 < mFrameRepeatIntervalUs)
    (h : LastTaken item offers) :
    exists number, offers.foldl (Turn.take mFrameRepeatIntervalUs) turn =
      { number := number, frame := some item, repeats := [] } := by
  rcases h with ⟨earlier, later, heq, hrefused⟩
  rw [heq, List.foldl_append, List.foldl_cons, foldl_refused hrefused]
  unfold Turn.take
  rw [if_neg fun hnot => hnot rfl]
  exact ⟨_, if_pos hinterval⟩

theorem onTime_of_nil (h : turn.repeats = []) : turn.OnTime where
  count := by
    rw [h]
    decide
  time := fun k r hr => by
    rw [h] at hr
    cases hr

theorem Turn.OnTime.fresh (h : turn.OnTime)
    (hfresh : forall offer, offer ∈ offers -> offer.origin = .fresh) :
    (offers.foldl (Turn.take mFrameRepeatIntervalUs) turn).OnTime := by
  induction offers generalizing turn with
  | nil => exact h
  | cons offer offers ih =>
      rw [List.foldl_cons]
      apply ih
      · unfold Turn.take
        rw [hfresh offer List.mem_cons_self]
        split
        · exact h
        · show (if 0 < mFrameRepeatIntervalUs then _ else _ : Turn).OnTime
          split
          · exact onTime_of_nil rfl
          · exact h
      · exact fun offer' ho => hfresh offer' (List.mem_cons_of_mem offer ho)

theorem Turn.OnTime.repeat (h : turn.OnTime) {frame item : VideoBuffer}
    (hcount : turn.repeats.length < kRepeatLastFrameCount)
    (hframe : turn.frame = some frame)
    (hitem : item = { frame with
      mTimestampNs := frame.mTimestampNs +
        (turn.repeats.length + 1) * mFrameRepeatIntervalUs * 1000 }) :
    Turn.OnTime { turn with
      repeats := turn.repeats ++
        [{ item := item, mFrameRepeatIntervalUs := mFrameRepeatIntervalUs }] } where
  count := by
    show ((turn.repeats ++ [_]).length : Int) <= kRepeatLastFrameCount
    rw [List.length_append, List.length_singleton]
    push_cast
    lia
  time := by
    intro k r hr
    rcases Nat.lt_or_ge k turn.repeats.length with hlt | hge
    · apply h.time k r
      rw [← hr]
      exact (List.getElem?_append_left hlt).symm
    · have hlast : (turn.repeats ++
          [{ item := item, mFrameRepeatIntervalUs := mFrameRepeatIntervalUs }])[k]? =
            some r := hr
      rw [List.getElem?_append_right hge] at hlast
      have hk : k - turn.repeats.length = 0 := by
        rcases List.getElem?_eq_some_iff.mp hlast with ⟨hlt, _⟩
        rw [List.length_singleton] at hlt
        lia
      rw [hk] at hlast
      injection hlast with hlast
      have hk' : k = turn.repeats.length := by
        lia
      rw [← hlast, hk']
      exact ⟨frame, hframe, hitem⟩

theorem turn_next_eq (turn : Turn) {s t : GraphicBufferSource} {calls : List Event}
    (hlog : t.log = s.log ++ calls) : turn.next s t =
      (calls.filterMap Event.offer?).foldl (Turn.take s.mFrameRepeatIntervalUs) turn := by
  unfold Turn.next
  rw [newCalls_eq hlog]

theorem turn_next_same (turn : Turn) {s t : GraphicBufferSource} {calls : List Event}
    (hlog : t.log = s.log ++ calls) (hfresh : AllFresh calls)
    (hrefused : 0 < s.mFrameRepeatIntervalUs -> Refused (calls.filterMap Event.offer?)) :
    turn.next s t = turn := by
  rw [turn_next_eq turn hlog]
  by_cases hinterval : 0 < s.mFrameRepeatIntervalUs
  · exact foldl_refused (hrefused hinterval)
  · exact foldl_idle hinterval hfresh

end Turns

/-!
# The invariant
-/

/-- The latest frame and its turn.  The last clauses say that it has at most one
chance of a repeat, and none after the tenth, and that nothing has superseded the
message whose repeat is blocked. -/
structure LatestInTurn (sys : LooperSystem) (latest : VideoBuffer) : Prop where
  frame : exists frame, sys.turn.frame = some frame ∧
    latest = { frame with mTimestampNs := latest.mTimestampNs } ∧
      (sys.RepeatDue -> latest.mTimestampNs = frame.mTimestampNs +
        (sys.turn.repeats.length + 1) * sys.source.mFrameRepeatIntervalUs * 1000)
  count : sys.turn.repeats.length + sys.source.mOutstandingFrameRepeatCount =
    kRepeatLastFrameCount
  nonneg : 0 <= sys.source.mOutstandingFrameRepeatCount
  blocked : sys.source.mFrameRepeatBlockedOnCodecBuffer = true ->
    forall m, m ∈ sys.undelivered ->
      m.generation ≠ sys.source.mRepeatLastFrameGeneration
  last : sys.source.mOutstandingFrameRepeatCount = 0 ->
    sys.source.mFrameRepeatBlockedOnCodecBuffer = false ∧
      forall m, m ∈ sys.undelivered ->
        m.generation ≠ sys.source.mRepeatLastFrameGeneration
  waits : sys.source.mFrameRepeatBlockedOnCodecBuffer = true ->
    exists m, sys.blocked = some m ∧ Unchanged sys m

structure InProtocol (sys : LooperSystem) : Prop where
  ready : Ready sys.source
  noLooper : sys.source.mReflector = false -> sys.undelivered = []
  rising : forall m, m ∈ sys.undelivered ->
    Rising m.generation m.since sys.source.mRepeatLastFrameGeneration
  turn : forall m, m ∈ sys.undelivered ->
    m.generation = sys.source.mRepeatLastFrameGeneration -> m.turn = sys.turn.number
  generations : sys.undelivered.Pairwise fun m m' => m.generation < m'.generation
  unblocked : sys.source.mFrameRepeatBlockedOnCodecBuffer = false -> sys.blocked = none
  onTime : sys.turn.OnTime
  latest : forall latest, sys.source.mLatestBuffer = some latest ->
    LatestInTurn sys latest

theorem inProtocol_initial : InProtocol .initial where
  ready := {
    looper := rfl
    executing := fun hexecuting => by cases hexecuting
    latest := fun hlatest => by cases hlatest }
  noLooper := fun _ => rfl
  rising := fun _ hm => (List.not_mem_nil hm).elim
  turn := fun _ hm => (List.not_mem_nil hm).elim
  generations := .nil
  unblocked := fun _ => rfl
  onTime := onTime_of_nil rfl
  latest := fun _ hlatest => by cases hlatest

section Steps

variable {sys : LooperSystem} {t : GraphicBufferSource} {waiting : List Message}
variable {delivered : Option Message} {calls : List Event}

theorem InProtocol.fewer (h : InProtocol sys) (hwaiting : waiting.Sublist sys.undelivered) :
    InProtocol { sys with undelivered := waiting } where
  ready := h.ready
  noLooper := fun hnone => List.sublist_nil.mp (h.noLooper hnone ▸ hwaiting)
  rising := fun m hm => h.rising m (hwaiting.subset hm)
  turn := fun m hm => h.turn m (hwaiting.subset hm)
  generations := h.generations.sublist hwaiting
  unblocked := h.unblocked
  onTime := h.onTime
  latest := fun latest hlatest => by
    have hturn := h.latest latest hlatest
    rcases hturn.frame with ⟨frame, hframe, hitem, htime⟩
    refine ⟨⟨frame, hframe, hitem, ?_⟩, hturn.count, hturn.nonneg, ?_, ?_, ?_⟩
    · intro hdue
      apply htime
      refine ⟨hdue.1, ?_⟩
      rcases hdue.2 with hblocked | ⟨m, hm, hcurrent⟩
      · exact Or.inl hblocked
      · exact Or.inr ⟨m, hwaiting.subset hm, hcurrent⟩
    · intro hblocked m hm
      exact hturn.blocked hblocked m (hwaiting.subset hm)
    · intro hzero
      exact ⟨(hturn.last hzero).1, fun m hm =>
        (hturn.last hzero).2 m (hwaiting.subset hm)⟩
    · intro hblocked
      rcases hturn.waits hblocked with ⟨m, hm, hunchanged⟩
      exact ⟨m, hm, hunchanged.since, hunchanged.turn⟩

theorem undelivered_after (hlog : t.log = sys.source.log ++ calls) :
    (sys.after t delivered waiting).undelivered =
      laterMessages waiting calls (sys.after t delivered waiting).turn.number := by
  unfold LooperSystem.after laterMessages
  rw [newCalls_eq hlog]

theorem after_unblocked (h : t.mFrameRepeatBlockedOnCodecBuffer = false) :
    (sys.after t delivered waiting).blocked = none := by
  show (if t.mFrameRepeatBlockedOnCodecBuffer = true then _ else none) = none
  rw [h, if_neg Bool.false_ne_true]

theorem after_waits (hlog : t.log = sys.source.log ++ calls)
    (hquiet : forall e, e ∈ calls -> e.supersedes = false)
    (hturn : (sys.after t delivered waiting).turn = sys.turn)
    (hblocked : t.mFrameRepeatBlockedOnCodecBuffer = true) {m : Message}
    (hm : sys.blocked.or delivered = some m) (hunchanged : Unchanged sys m) :
    exists m, (sys.after t delivered waiting).blocked = some m ∧
      Unchanged (sys.after t delivered waiting) m := by
  refine ⟨m.later calls, ?_, ?_, ?_⟩
  · show (if t.mFrameRepeatBlockedOnCodecBuffer = true then _ else none) = _
    rw [if_pos hblocked, hm, newCalls_eq hlog]
    rfl
  · intro e he
    rcases List.mem_append.mp he with he | he
    · exact hunchanged.since e he
    · exact hquiet e he
  · rw [hturn]
    exact hunchanged.turn

theorem InProtocol.stale (h : InProtocol sys) (hwaiting : waiting.Sublist sys.undelivered)
    (hlater : sys.source.mReflector = true ->
      sys.source.mRepeatLastFrameGeneration < t.mRepeatLastFrameGeneration) :
    forall m, m ∈ waiting -> m.generation ≠ t.mRepeatLastFrameGeneration := by
  intro m hm heq
  have hle : m.generation <= sys.source.mRepeatLastFrameGeneration :=
    (h.rising m (hwaiting.subset hm)).le
  cases hset : sys.source.mReflector with
  | true =>
      have hlt := hlater hset
      lia
  | false =>
      have hmem := hwaiting.subset hm
      rw [h.noLooper hset] at hmem
      cases hmem

structure UndeliveredInOrder (sys : LooperSystem) : Prop where
  noLooper : sys.source.mReflector = false -> sys.undelivered = []
  rising : forall m, m ∈ sys.undelivered ->
    Rising m.generation m.since sys.source.mRepeatLastFrameGeneration
  turn : forall m, m ∈ sys.undelivered ->
    m.generation = sys.source.mRepeatLastFrameGeneration -> m.turn = sys.turn.number
  generations : sys.undelivered.Pairwise fun m m' => m.generation < m'.generation

theorem InProtocol.messages (h : InProtocol sys)
    (hwaiting : waiting.Sublist sys.undelivered)
    (hlog : t.log = sys.source.log ++ calls)
    (hcalls : Rising sys.source.mRepeatLastFrameGeneration calls
      t.mRepeatLastFrameGeneration)
    (hnoLooper : t.mReflector = false ->
      sys.source.mReflector = false ∧ NoPosts calls)
    (hturn : forall m, m ∈ waiting -> m.generation = t.mRepeatLastFrameGeneration ->
      (sys.after t delivered waiting).turn.number = sys.turn.number) :
    UndeliveredInOrder (sys.after t delivered waiting) := by
  have hfewer := h.fewer hwaiting
  have hundelivered : (sys.after t delivered waiting).undelivered =
      laterMessages waiting calls (sys.after t delivered waiting).turn.number :=
    undelivered_after hlog
  constructor
  · intro hnone
    rcases hnoLooper hnone with ⟨hbefore, hposts⟩
    have hempty : waiting = [] := hfewer.noLooper hbefore
    rw [hundelivered, hempty]
    exact hposts.posted _
  · rw [hundelivered]
    exact rising_laterMessages hcalls _ hfewer.rising
  · intro m hm heq
    rw [hundelivered] at hm
    rcases mem_laterMessages hm with ⟨m', hm', hm''⟩ | hnew
    · rw [hm''] at heq ⊢
      have hcurrent : m'.generation = t.mRepeatLastFrameGeneration := heq
      -- a message that is still current was current before
      have hle : m'.generation <= sys.source.mRepeatLastFrameGeneration :=
        (hfewer.rising m' hm').le
      have hle' := hcalls.le
      rw [hturn m' hm' hcurrent]
      exact hfewer.turn m' hm' (by lia)
    · exact (hcalls.posted _ m hnew).2.2
  · rw [hundelivered]
    exact pairwise_laterMessages hcalls _ hfewer.rising hfewer.generations

theorem LatestInTurn.keeps {sys' : LooperSystem} {latest : VideoBuffer}
    (h : LatestInTurn sys latest) (hturn : sys'.turn = sys.turn)
    (hcount : sys'.source.mOutstandingFrameRepeatCount =
      sys.source.mOutstandingFrameRepeatCount)
    (hdue : sys'.RepeatDue -> sys.RepeatDue ∧
      sys'.source.mFrameRepeatIntervalUs = sys.source.mFrameRepeatIntervalUs)
    (hblocked : sys'.source.mFrameRepeatBlockedOnCodecBuffer = true ->
      forall m, m ∈ sys'.undelivered ->
        m.generation ≠ sys'.source.mRepeatLastFrameGeneration)
    (hlast : sys.source.mOutstandingFrameRepeatCount = 0 ->
      sys'.source.mFrameRepeatBlockedOnCodecBuffer = false ∧
        forall m, m ∈ sys'.undelivered ->
          m.generation ≠ sys'.source.mRepeatLastFrameGeneration)
    (hwaits : sys'.source.mFrameRepeatBlockedOnCodecBuffer = true ->
      exists m, sys'.blocked = some m ∧ Unchanged sys' m) :
    LatestInTurn sys' latest where
  frame := by
    rcases h.frame with ⟨frame, hframe, hitem, htime⟩
    rw [hturn]
    refine ⟨frame, hframe, hitem, ?_⟩
    intro hdue'
    rcases hdue hdue' with ⟨hbefore, hinterval⟩
    rw [hinterval]
    exact htime hbefore
  count := by
    rw [hturn, hcount]
    exact h.count
  nonneg := by
    rw [hcount]
    exact h.nonneg
  blocked := hblocked
  last := fun hzero => hlast (hcount.symm.trans hzero)
  waits := hwaits

theorem LatestInTurn.began {item : VideoBuffer} (n : Nat)
    (hturn : sys.turn = { number := n, frame := some item, repeats := [] })
    (hcount : sys.source.mOutstandingFrameRepeatCount = kRepeatLastFrameCount)
    (hunblocked : sys.source.mFrameRepeatBlockedOnCodecBuffer = false) :
    LatestInTurn sys { item with
      mTimestampNs :=
        item.mTimestampNs + sys.source.mFrameRepeatIntervalUs * 1000 } where
  frame := by
    rw [hturn]
    refine ⟨item, rfl, rfl, ?_⟩
    intro _
    show item.mTimestampNs + sys.source.mFrameRepeatIntervalUs * 1000 =
      item.mTimestampNs + (0 + 1) * sys.source.mFrameRepeatIntervalUs * 1000
    lia
  count := by
    rw [hturn, hcount]
    rfl
  nonneg := by
    rw [hcount]
    decide
  blocked := by
    intro hset
    rw [hunblocked] at hset
    cases hset
  last := by
    intro hzero
    rw [hcount] at hzero
    cases hzero
  waits := by
    intro hset
    rw [hunblocked] at hset
    cases hset

theorem InProtocol.goes (h : InProtocol sys)
    (hwaiting : waiting.Sublist sys.undelivered) (hgoes : Goes calls sys.source t) :
    InProtocol (sys.after t delivered waiting) := by
  have hfewer := h.fewer hwaiting
  have hundelivered : (sys.after t delivered waiting).undelivered =
      laterMessages waiting calls (sys.after t delivered waiting).turn.number :=
    undelivered_after hgoes.log
  have hturn : (sys.after t delivered waiting).turn =
      (calls.filterMap Event.offer?).foldl
        (Turn.take sys.source.mFrameRepeatIntervalUs) sys.turn :=
    turn_next_eq sys.turn hgoes.log
  have honTime : (sys.after t delivered waiting).turn.OnTime := by
    rw [hturn]
    exact h.onTime.fresh hgoes.fresh
  have hmessages : (forall m, m ∈ waiting ->
      m.generation = t.mRepeatLastFrameGeneration ->
        (sys.after t delivered waiting).turn.number = sys.turn.number) ->
      UndeliveredInOrder (sys.after t delivered waiting) :=
    h.messages hwaiting hgoes.log hgoes.rising
      (fun hnone => ⟨hgoes.reflector hnone, hgoes.posts hnone⟩)
  cases hgoes.latest with
  | kept hlatest hcount hblocked hquiet hrefused =>
      have hposts := noPosts_of_quiet hquiet
      have hsame : (sys.after t delivered waiting).turn = sys.turn :=
        turn_next_same sys.turn hgoes.log hgoes.fresh hrefused
      have hmessages' := hmessages fun _ _ _ => by rw [hsame]
      have hstale : (forall m, m ∈ sys.undelivered ->
          m.generation ≠ sys.source.mRepeatLastFrameGeneration) ->
          forall m, m ∈ (sys.after t delivered waiting).undelivered ->
            m.generation ≠ t.mRepeatLastFrameGeneration := by
        intro hstale
        rw [hundelivered]
        exact stale_laterMessages hgoes.rising _ hposts hfewer.rising
          fun m hm => hstale m (hwaiting.subset hm)
      refine ⟨hgoes.ready, hmessages'.noLooper, hmessages'.rising, hmessages'.turn,
        hmessages'.generations, after_unblocked, honTime, ?_⟩
      intro latest hsome
      have hbefore : sys.source.mLatestBuffer = some latest := hlatest.symm.trans hsome
      have hin := h.latest latest hbefore
      apply hin.keeps hsame hcount
      · intro hdue
        refine ⟨⟨by rw [hbefore]; rfl, ?_⟩, hgoes.interval⟩
        rcases hdue.2 with hset | ⟨m, hm, heq⟩
        · exact Or.inl (hblocked.symm.trans hset)
        · right
          rw [hundelivered] at hm
          rcases current_laterMessages hgoes.rising _ hposts hfewer.rising hm heq with
            ⟨m', hm', heq'⟩
          exact ⟨m', hwaiting.subset hm', heq'⟩
      · intro hset
        exact hstale (hin.blocked (hblocked.symm.trans hset))
      · intro hzero
        have hlast := hin.last hzero
        exact ⟨hblocked.trans hlast.1, hstale hlast.2⟩
      · intro hset
        rcases hin.waits (hblocked.symm.trans hset) with ⟨m, hm, hunchanged⟩
        apply after_waits hgoes.log hquiet hsame hset _ hunchanged
        rw [hm, Option.some_or]
  | gone hlatest hlater =>
      have hmessages' := hmessages fun m hm heq =>
        absurd heq (h.stale hwaiting hlater m hm)
      refine ⟨hgoes.ready, hmessages'.noLooper, hmessages'.rising, hmessages'.turn,
        hmessages'.generations, after_unblocked, honTime, ?_⟩
      intro latest hsome
      rw [show (sys.after t delivered waiting).source.mLatestBuffer = none from hlatest]
        at hsome
      cases hsome
  | became item htaken hlatest hcount hunblocked hreflector hinterval hlater =>
      have hmessages' := hmessages fun m hm heq =>
        absurd heq (h.stale hwaiting hlater m hm)
      refine ⟨hgoes.ready, hmessages'.noLooper, hmessages'.rising, hmessages'.turn,
        hmessages'.generations, after_unblocked, honTime, ?_⟩
      intro latest hsome
      have hbegins : exists number, (sys.after t delivered waiting).turn =
          { number := number, frame := some item, repeats := [] } := by
        rw [hturn]
        exact foldl_taken hinterval htaken
      rcases hbegins with ⟨number, hbegun⟩
      have hbecame : some { item with mTimestampNs := item.mTimestampNs +
          sys.source.mFrameRepeatIntervalUs * 1000 } = some latest :=
        hlatest.symm.trans hsome
      injection hbecame with hbecame
      rw [← hbecame, ← hgoes.interval]
      exact .began number hbegun hcount hunblocked

theorem InProtocol.stays (h : InProtocol sys) {offers : List Offer}
    (hwaiting : waiting.Sublist sys.undelivered) (hrefused : Refused offers)
    (hkeeps : sys.source.toBuffers.Keeps offers t.toBuffers)
    (hcontrol : t.toControl.repeating = { sys.source.toControl.repeating with
      mFrameRepeatIntervalUs := t.mFrameRepeatIntervalUs
      mFrameRepeatBlockedOnCodecBuffer := t.mFrameRepeatBlockedOnCodecBuffer })
    (hrunning : sys.source.mExecuting = true ->
      t.mFrameRepeatIntervalUs = sys.source.mFrameRepeatIntervalUs)
    (hdue : sys.source.mLatestBuffer.isSome = true ->
      (t.mFrameRepeatBlockedOnCodecBuffer = true ∨ exists m, m ∈ waiting ∧
        m.generation = sys.source.mRepeatLastFrameGeneration) ->
        sys.RepeatDue ∧
          t.mFrameRepeatIntervalUs = sys.source.mFrameRepeatIntervalUs)
    (hblocked : sys.source.mLatestBuffer.isSome = true ->
      t.mFrameRepeatBlockedOnCodecBuffer = true -> forall m, m ∈ waiting ->
        m.generation ≠ sys.source.mRepeatLastFrameGeneration)
    (hlast : sys.source.mLatestBuffer.isSome = true ->
      sys.source.mOutstandingFrameRepeatCount = 0 ->
        t.mFrameRepeatBlockedOnCodecBuffer = false ∧ forall m, m ∈ waiting ->
          m.generation ≠ sys.source.mRepeatLastFrameGeneration)
    (hwaits : sys.source.mLatestBuffer.isSome = true ->
      t.mFrameRepeatBlockedOnCodecBuffer = true ->
        exists m, sys.blocked.or delivered = some m ∧ Unchanged sys m) :
    InProtocol (sys.after t delivered waiting) := by
  have hfewer := h.fewer hwaiting
  rcases hkeeps.calls with ⟨calls, hlog, hquiet, hoffers⟩
  have hposts := noPosts_of_quiet hquiet
  have hreflector : t.mReflector = sys.source.mReflector :=
    congrArg Repeating.mReflector hcontrol
  have hexecuting : t.mExecuting = sys.source.mExecuting :=
    congrArg Repeating.mExecuting hcontrol
  have hlooper : t.mLooper = sys.source.mLooper :=
    congrArg Repeating.mLooper hcontrol
  have hgeneration : t.mRepeatLastFrameGeneration =
      sys.source.mRepeatLastFrameGeneration :=
    congrArg Repeating.mRepeatLastFrameGeneration hcontrol
  have hcount : t.mOutstandingFrameRepeatCount =
      sys.source.mOutstandingFrameRepeatCount :=
    congrArg Repeating.mOutstandingFrameRepeatCount hcontrol
  have hcalls : Rising sys.source.mRepeatLastFrameGeneration calls
      t.mRepeatLastFrameGeneration :=
    rising_of_quiet (le_of_eq hgeneration.symm) hquiet
  have hundelivered : (sys.after t delivered waiting).undelivered =
      laterMessages waiting calls (sys.after t delivered waiting).turn.number :=
    undelivered_after hlog
  have hturn : (sys.after t delivered waiting).turn = sys.turn := by
    show sys.turn.next sys.source t = sys.turn
    rw [turn_next_eq sys.turn hlog, hoffers]
    exact foldl_refused hrefused
  have hmessages : UndeliveredInOrder (sys.after t delivered waiting) :=
    h.messages hwaiting hlog hcalls
      (fun hnone => ⟨hreflector.symm.trans hnone, hposts⟩) (fun _ _ _ => by rw [hturn])
  refine ⟨?_, hmessages.noLooper, hmessages.rising, hmessages.turn,
    hmessages.generations, after_unblocked, ?_, ?_⟩
  · constructor
    · show t.mLooper = t.mReflector
      rw [hlooper, hreflector]
      exact h.ready.looper
    · show t.mExecuting = true -> 0 < t.mFrameRepeatIntervalUs -> t.mReflector = true
      rw [hexecuting, hreflector]
      intro hset hinterval
      rw [hrunning hset] at hinterval
      exact h.ready.executing hset hinterval
    · show t.mLatestBuffer.isSome = true -> t.mReflector = true
      rw [hkeeps.latest, hreflector]
      exact h.ready.latest
  · rw [hturn]
    exact h.onTime
  · intro latest hafter
    have hbefore : sys.source.mLatestBuffer = some latest :=
      hkeeps.latest.symm.trans hafter
    have hin := h.latest latest hbefore
    have hsome : sys.source.mLatestBuffer.isSome = true := by
      rw [hbefore]
      rfl
    have hstale : (forall m, m ∈ waiting ->
        m.generation ≠ sys.source.mRepeatLastFrameGeneration) ->
        forall m, m ∈ (sys.after t delivered waiting).undelivered ->
          m.generation ≠ t.mRepeatLastFrameGeneration := by
      rw [hundelivered]
      exact stale_laterMessages hcalls _ hposts hfewer.rising
    apply hin.keeps hturn hcount
    · intro hdue'
      apply hdue hsome
      rcases hdue'.2 with hset | ⟨m, hm, heq⟩
      · exact Or.inl hset
      · right
        rw [hundelivered] at hm
        exact current_laterMessages hcalls _ hposts hfewer.rising hm heq
    · intro hset
      exact hstale (hblocked hsome hset)
    · intro hzero
      rcases hlast hsome hzero with ⟨hunblocked, hnone⟩
      exact ⟨hunblocked, hstale hnone⟩
    · intro hset
      rcases hwaits hsome hset with ⟨m, hm, hunchanged⟩
      exact after_waits hlog hquiet hturn hset hm hunchanged

theorem InProtocol.missed (h : InProtocol sys) {offers : List Offer}
    (hwaiting : waiting.Sublist sys.undelivered)
    (hstale : sys.source.mLatestBuffer.isSome = true -> forall m, m ∈ waiting ->
      m.generation ≠ sys.source.mRepeatLastFrameGeneration)
    (hdue : sys.source.mLatestBuffer.isSome = true -> sys.RepeatDue ∧
      sys.source.mOutstandingFrameRepeatCount ≠ 0)
    (hwaits : sys.source.mLatestBuffer.isSome = true ->
      exists m, sys.blocked.or delivered = some m ∧ Unchanged sys m)
    (hmisses : Misses offers sys.source)
    (hkeeps : sys.source.toBuffers.Keeps offers t.toBuffers)
    (hcontrol : t.toControl.repeating = { sys.source.toControl.repeating with
      mFrameRepeatBlockedOnCodecBuffer := t.mFrameRepeatBlockedOnCodecBuffer }) :
    InProtocol (sys.after t delivered waiting) := by
  have hinterval : t.mFrameRepeatIntervalUs = sys.source.mFrameRepeatIntervalUs :=
    congrArg Repeating.mFrameRepeatIntervalUs hcontrol
  apply h.stays hwaiting hmisses.refused hkeeps
  · rw [hcontrol, hinterval]
    rfl
  · intro _
    exact hinterval
  · intro hsome _
    exact ⟨(hdue hsome).1, hinterval⟩
  · intro hsome _
    exact hstale hsome
  · intro hsome hzero
    exact absurd hzero (hdue hsome).2
  · intro hsome _
    exact hwaits hsome

theorem next_interval (n mFrameRepeatIntervalUs : Int) :
    n * mFrameRepeatIntervalUs * 1000 + mFrameRepeatIntervalUs * 1000 =
      (n + 1) * mFrameRepeatIntervalUs * 1000 := by
  rw [Int.add_mul n 1, Int.one_mul, Int.add_mul]

theorem InProtocol.repeated (h : InProtocol sys)
    (hwaiting : waiting.Sublist sys.undelivered)
    (hstale : forall m, m ∈ waiting ->
      m.generation ≠ sys.source.mRepeatLastFrameGeneration)
    (hdue : sys.source.mLatestBuffer.isSome = true -> sys.RepeatDue ∧
      sys.source.mOutstandingFrameRepeatCount ≠ 0)
    {latest : VideoBuffer} (hrepeats : RepeatsLatest latest sys.source t)
    (hunblocked : t.mFrameRepeatBlockedOnCodecBuffer = false) :
    InProtocol (sys.after t delivered waiting) := by
  have hfewer := h.fewer hwaiting
  rcases hrepeats.calls with ⟨calls, hlog, hoffers, hcalls, hposts, hlast⟩
  have hcontrol := hrepeats.control
  have hinterval : t.mFrameRepeatIntervalUs = sys.source.mFrameRepeatIntervalUs :=
    congrArg Repeating.mFrameRepeatIntervalUs hcontrol
  have hreflector : t.mReflector = sys.source.mReflector :=
    congrArg Repeating.mReflector hcontrol
  have hexecuting : t.mExecuting = sys.source.mExecuting :=
    congrArg Repeating.mExecuting hcontrol
  have hlooper : t.mLooper = sys.source.mLooper :=
    congrArg Repeating.mLooper hcontrol
  have hcount : t.mOutstandingFrameRepeatCount =
      sys.source.mOutstandingFrameRepeatCount - 1 :=
    congrArg Repeating.mOutstandingFrameRepeatCount hcontrol
  have hin := h.latest latest hrepeats.before
  rcases hdue (by rw [hrepeats.before]; rfl) with ⟨hdue, hmore⟩
  rcases hin.frame with ⟨frame, hframe, hitem, hdueTime⟩
  have htime := hdueTime hdue
  have hten := hin.count
  have hnonneg := hin.nonneg
  -- the new latest frame is the old one, at this time or an interval later
  have hafter : exists latest', t.mLatestBuffer = some latest' ∧
      latest' = { latest with mTimestampNs := latest'.mTimestampNs } ∧
        (0 < t.mOutstandingFrameRepeatCount -> latest'.mTimestampNs =
          latest.mTimestampNs + sys.source.mFrameRepeatIntervalUs * 1000) := by
    by_cases hagain : 0 < sys.source.mOutstandingFrameRepeatCount - 1
    · exact ⟨_, hrepeats.again hagain, rfl, fun _ => rfl⟩
    · refine ⟨latest, hrepeats.last (by lia), rfl, ?_⟩
      intro hpositive
      rw [hcount] at hpositive
      exact absurd hpositive hagain
  rcases hafter with ⟨latest', hlatest', hsame, hlater⟩
  have hturn : (sys.after t delivered waiting).turn = { sys.turn with
      repeats := sys.turn.repeats ++ [{
        item := latest
        mFrameRepeatIntervalUs := sys.source.mFrameRepeatIntervalUs }] } := by
    show sys.turn.next sys.source t = _
    rw [turn_next_eq sys.turn hlog, hoffers]
    rfl
  have hundelivered : (sys.after t delivered waiting).undelivered =
      laterMessages waiting calls (sys.after t delivered waiting).turn.number :=
    undelivered_after hlog
  have hmessages : UndeliveredInOrder (sys.after t delivered waiting) :=
    h.messages hwaiting hlog hcalls
      (fun hnone => ⟨hreflector.symm.trans hnone, hposts (hreflector.symm.trans hnone)⟩)
      (fun _ _ _ => by rw [hturn])
  refine ⟨?_, hmessages.noLooper, hmessages.rising, hmessages.turn,
    hmessages.generations, after_unblocked, ?_, ?_⟩
  · constructor
    · show t.mLooper = t.mReflector
      rw [hlooper, hreflector]
      exact h.ready.looper
    · show t.mExecuting = true -> 0 < t.mFrameRepeatIntervalUs -> t.mReflector = true
      rw [hexecuting, hinterval, hreflector]
      exact h.ready.executing
    · intro _
      show t.mReflector = true
      rw [hreflector]
      exact h.ready.latest (by rw [hrepeats.before]; rfl)
  · rw [hturn]
    apply h.onTime.repeat _ hframe
    · rw [← htime]
      exact hitem
    · lia
  · intro latest'' hsome
    have heq : latest'' = latest' := by
      rw [show (sys.after t delivered waiting).source.mLatestBuffer = some latest'
        from hlatest'] at hsome
      injection hsome with hsome
      exact hsome.symm
    rw [heq]
    have hcount' : (sys.after t delivered waiting).source.mOutstandingFrameRepeatCount =
        sys.source.mOutstandingFrameRepeatCount - 1 := hcount
    have hunblocked' : (sys.after t delivered waiting).source.mFrameRepeatBlockedOnCodecBuffer =
        false := hunblocked
    -- without a repeat left no message is current
    have hnone : sys.source.mOutstandingFrameRepeatCount - 1 <= 0 ->
        forall m, m ∈ (sys.after t delivered waiting).undelivered ->
          m.generation ≠ t.mRepeatLastFrameGeneration := by
      intro hle
      rw [hundelivered]
      exact stale_laterMessages hcalls _ (noPosts_of_quiet (hlast hle).1)
        hfewer.rising hstale
    refine ⟨⟨frame, ?_, ?_, ?_⟩, ?_, ?_, ?_, ?_, ?_⟩
    · rw [hturn]
      exact hframe
    · rw [hsame, hitem]
    · intro hdue'
      have hpositive : 0 < sys.source.mOutstandingFrameRepeatCount - 1 := by
        by_contra hle
        rcases hdue'.2 with hset | ⟨m, hm, hcurrent⟩
        · rw [hunblocked'] at hset
          cases hset
        · exact hnone (by lia) m hm hcurrent
      have hinterval' : (sys.after t delivered waiting).source.mFrameRepeatIntervalUs =
          sys.source.mFrameRepeatIntervalUs := hinterval
      rw [hturn, hinterval', hlater (hcount.symm ▸ hpositive), htime]
      show _ = frame.mTimestampNs + (((sys.turn.repeats ++ [_]).length : Int) + 1) *
        sys.source.mFrameRepeatIntervalUs * 1000
      rw [List.length_append, List.length_singleton]
      push_cast
      rw [Int.add_assoc, next_interval]
    · rw [hturn, hcount']
      show ((sys.turn.repeats ++ [_]).length : Int) + _ = _
      rw [List.length_append, List.length_singleton]
      push_cast
      lia
    · rw [hcount']
      lia
    · intro hset
      rw [hunblocked'] at hset
      cases hset
    · intro hzero
      refine ⟨hunblocked', hnone ?_⟩
      rw [hcount'] at hzero
      lia
    · intro hset
      rw [hunblocked'] at hset
      cases hset

theorem InProtocol.clears (h : InProtocol sys) (hclears : Clears sys.source t) :
    InProtocol (sys.after t delivered []) := by
  rcases hclears.calls with ⟨calls, hlog, hoffers, hposts⟩
  have hundelivered : (sys.after t delivered []).undelivered = [] := by
    rw [undelivered_after hlog]
    exact hposts.posted _
  have hturn : (sys.after t delivered []).turn = sys.turn := by
    show sys.turn.next sys.source t = sys.turn
    rw [turn_next_eq sys.turn hlog, hoffers]
    rfl
  have hlatest : (sys.after t delivered []).source.mLatestBuffer = none :=
    hclears.latest
  refine ⟨?_, fun _ => hundelivered, ?_, ?_, ?_, after_unblocked, ?_, ?_⟩
  · refine ⟨hclears.looper h.ready.looper, ?_, ?_⟩
    · intro hexecuting
      rw [show (sys.after t delivered []).source.mExecuting = false from hclears.idle]
        at hexecuting
      cases hexecuting
    · intro hsome
      rw [hlatest] at hsome
      cases hsome
  · rw [hundelivered]
    intro m hm
    cases hm
  · rw [hundelivered]
    intro m hm
    cases hm
  · rw [hundelivered]
    exact .nil
  · rw [hturn]
    exact h.onTime
  · intro latest hsome
    rw [hlatest] at hsome
    cases hsome

theorem InProtocol.sets (h : InProtocol sys) {repeatAfterUs : Int}
    (hidle : sys.source.mExecuting = false)
    (hdue : sys.RepeatDue -> repeatAfterUs = sys.source.mFrameRepeatIntervalUs)
    (hkeeps : sys.source.toBuffers.Keeps [] t.toBuffers)
    (hcontrol : t.toControl.repeating = { sys.source.toControl.repeating with
      mFrameRepeatIntervalUs := repeatAfterUs }) :
    InProtocol (sys.after t delivered sys.undelivered) := by
  have hinterval : t.mFrameRepeatIntervalUs = repeatAfterUs :=
    congrArg Repeating.mFrameRepeatIntervalUs hcontrol
  have hblocked : t.mFrameRepeatBlockedOnCodecBuffer =
      sys.source.mFrameRepeatBlockedOnCodecBuffer :=
    congrArg Repeating.mFrameRepeatBlockedOnCodecBuffer hcontrol
  have hlatest : sys.source.mLatestBuffer.isSome = true ->
      exists latest, LatestInTurn sys latest := by
    intro hsome
    rcases Option.isSome_iff_exists.mp hsome with ⟨latest, hlatest⟩
    exact ⟨latest, h.latest latest hlatest⟩
  apply h.stays (List.Sublist.refl _) refused_nil hkeeps
  · rw [hcontrol, hinterval, hblocked]
    rfl
  · intro hexecuting
    rw [hidle] at hexecuting
    cases hexecuting
  · intro hsome hchance
    rw [hblocked] at hchance
    have hbefore : sys.RepeatDue := ⟨hsome, hchance⟩
    exact ⟨hbefore, hinterval.trans (hdue hbefore)⟩
  · intro hsome hset
    rcases hlatest hsome with ⟨latest, hin⟩
    exact hin.blocked (hblocked.symm.trans hset)
  · intro hsome hzero
    rcases hlatest hsome with ⟨latest, hin⟩
    rw [hblocked]
    exact hin.last hzero
  · intro hsome hset
    rcases hlatest hsome with ⟨latest, hin⟩
    rcases hin.waits (hblocked.symm.trans hset) with ⟨m, hm, hunchanged⟩
    exact ⟨m, by rw [hm, Option.some_or], hunchanged⟩

end Steps

end Bqhelper
end Sm7225
