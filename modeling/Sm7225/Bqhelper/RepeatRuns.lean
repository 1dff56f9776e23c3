import Sm7225.Bqhelper.RepeatProtocol

/-!
# Frame repeats in every run

Each step of the looper's system keeps the repeat protocol: a request moves the
latest frame or tries a blocked repeat, and the delivery of a current message
tries the repeat the message was posted for.
-/

namespace Sm7225
namespace Bqhelper

open Lib

section Runs

variable {sys : LooperSystem} {t : GraphicBufferSource} {waiting : List Message}
variable {delivered : Option Message}

/-!
# Tries
-/

theorem InProtocol.retries (h : InProtocol sys)
    (hwaiting : waiting.Sublist sys.undelivered)
    (hstale : sys.source.mLatestBuffer.isSome = true -> forall m, m ∈ waiting ->
      m.generation ≠ sys.source.mRepeatLastFrameGeneration)
    (hdue : sys.source.mLatestBuffer.isSome = true -> sys.RepeatDue ∧
      sys.source.mOutstandingFrameRepeatCount ≠ 0)
    (hwaits : sys.source.mLatestBuffer.isSome = true ->
      exists m, sys.blocked.or delivered = some m ∧ Unchanged sys m)
    (hretries : Retries sys.source t) : InProtocol (sys.after t delivered waiting) := by
  cases hretries with
  | missed offers hmisses hkeeps hcontrol =>
      exact h.missed hwaiting hstale hdue hwaits hmisses hkeeps hcontrol
  | repeated latest hrepeats hunblocked =>
      have hsome : sys.source.mLatestBuffer.isSome = true := by
        rw [hrepeats.before]
        rfl
      exact h.repeated hwaiting (hstale hsome) hdue hrepeats hunblocked

theorem InProtocol.moves (h : InProtocol sys)
    (hwaiting : waiting.Sublist sys.undelivered) (hmoves : Moves sys.source t) :
    InProtocol (sys.after t delivered waiting) := by
  rcases hmoves with ⟨calls, hcalls⟩
  exact h.goes hwaiting (h.ready.goes hcalls)

theorem InProtocol.left (h : InProtocol sys) (hdue : sys.RepeatDue) :
    sys.source.mOutstandingFrameRepeatCount ≠ 0 := by
  intro hzero
  rcases Option.isSome_iff_exists.mp hdue.1 with ⟨latest, hlatest⟩
  have hlast := (h.latest latest hlatest).last hzero
  rcases hdue.2 with hblocked | ⟨m, hm, hcurrent⟩
  · rw [hlast.1] at hblocked
    cases hblocked
  · exact hlast.2 m hm hcurrent

theorem InProtocol.waits (h : InProtocol sys)
    (hblocked : sys.source.mFrameRepeatBlockedOnCodecBuffer = true)
    (hsome : sys.source.mLatestBuffer.isSome = true) :
    exists m, sys.blocked = some m ∧ Unchanged sys m := by
  rcases Option.isSome_iff_exists.mp hsome with ⟨latest, hlatest⟩
  exact (h.latest latest hlatest).waits hblocked

theorem InProtocol.tries (h : InProtocol sys)
    (hwaiting : waiting.Sublist sys.undelivered) (htries : Tries sys.source t) :
    InProtocol (sys.after t delivered waiting) := by
  rcases htries with hmoves | ⟨hblocked, hretries⟩
  · exact h.moves hwaiting hmoves
  · apply h.retries hwaiting _ _ _ hretries
    · intro hsome m hm
      rcases Option.isSome_iff_exists.mp hsome with ⟨latest, hlatest⟩
      exact (h.latest latest hlatest).blocked hblocked m (hwaiting.subset hm)
    · intro hsome
      have hdue : sys.RepeatDue := ⟨hsome, Or.inl hblocked⟩
      exact ⟨hdue, h.left hdue⟩
    · intro hsome
      rcases h.waits hblocked hsome with ⟨m, hm, hunchanged⟩
      exact ⟨m, by rw [hm, Option.some_or], hunchanged⟩

theorem InProtocol.ends (h : InProtocol sys)
    (hends : EndsWithoutRepeat sys.source t) :
    (sys.after t delivered waiting).turn.OnTime := by
  rcases hends with ⟨calls, hlog, hfresh⟩
  show (sys.turn.next sys.source t).OnTime
  rw [turn_next_eq sys.turn hlog]
  exact h.onTime.fresh hfresh

/-!
# Blocked repeats
-/

theorem Event.offer_of_resubmits {e : Event} (h : e.resubmits = true) :
    exists offer, e.offer? = some offer ∧ offer.origin = .repeated := by
  cases e with
  | submitBuffer id item origin codecTimeUs acquireFence err =>
      cases origin with
      | fresh => cases h
      | repeated => exact ⟨_, rfl, rfl⟩
  | _ => cases h

theorem offer_of_resubmits {s : GraphicBufferSource} {calls : List Event}
    (hlog : t.log = s.log ++ calls)
    (h : (newCalls s t).any Event.resubmits = true) :
    exists offer, offer ∈ calls.filterMap Event.offer? ∧ offer.origin = .repeated := by
  rw [newCalls_eq hlog] at h
  rcases List.any_eq_true.mp h with ⟨e, he, hresubmits⟩
  rcases e.offer_of_resubmits hresubmits with ⟨offer, hoffer, horigin⟩
  exact ⟨offer, List.mem_filterMap.mpr ⟨e, he, hoffer⟩, horigin⟩

theorem not_resubmits {s : GraphicBufferSource} {calls : List Event}
    (hlog : t.log = s.log ++ calls) (hfresh : AllFresh calls) :
    ¬(newCalls s t).any Event.resubmits = true := by
  intro h
  rcases offer_of_resubmits hlog h with ⟨offer, ho, horigin⟩
  rw [hfresh offer ho] at horigin
  cases horigin

theorem ChangesLatest.blocked {request : Request} {s : GraphicBufferSource}
    (h : ChangesLatest request s t) (hready : Ready s)
    (hresubmits : (newCalls s t).any Event.resubmits = true) :
    s.mFrameRepeatBlockedOnCodecBuffer = true ∧ s.mLatestBuffer.isSome = true := by
  cases h with
  | tries htries =>
      rcases htries with ⟨calls, hmoves⟩ | ⟨hblocked, hretries⟩
      · exact absurd hresubmits (not_resubmits hmoves.log hmoves.fresh)
      · refine ⟨hblocked, ?_⟩
        cases hretries with
        | missed offers hmisses hkeeps hcontrol =>
            rcases hkeeps.calls with ⟨calls, hlog, _, hoffers⟩
            rcases offer_of_resubmits hlog hresubmits with ⟨offer, ho, _⟩
            apply hmisses.latest
            rw [← hoffers]
            exact List.ne_nil_of_mem ho
        | repeated latest hrepeats hunblocked =>
            rw [hrepeats.before]
            rfl
  | starts begun u hidle hbegins hmoves ht =>
      rw [ht] at hresubmits
      rcases hready.starts hbegins hmoves with ⟨calls, hgoes⟩
      exact absurd hresubmits (not_resubmits hgoes.log hgoes.fresh)
  | releases hrequest hclears =>
      rcases hclears.calls with ⟨calls, hlog, hoffers, _⟩
      exact absurd hresubmits (not_resubmits hlog (allFresh_of_nil hoffers))
  | configures args answers hrequest hok hclears =>
      rcases hclears.calls with ⟨calls, hlog, hoffers, _⟩
      exact absurd hresubmits (not_resubmits hlog (allFresh_of_nil hoffers))
  | sets repeatAfterUs answers hrequest hidle hpositive hkeeps hcontrol =>
      rcases hkeeps.calls with ⟨calls, hlog, _, hoffers⟩
      exact absurd hresubmits (not_resubmits hlog (allFresh_of_nil hoffers))

/-!
# Steps
-/

theorem sat_serve {request : Request} {Q : Unit -> LooperSystem -> Prop}
    {E : Abort -> LooperSystem -> Prop} :
    Sat (serve request delivered waiting) Q E sys <->
      Sat (exec request) (fun _ t => Q () (sys.after t delivered waiting))
        (fun e t => E e (sys.after t delivered waiting)) sys.source := by
  unfold Sat serve
  cases exec request sys.source with
  | ok reply t => rfl
  | error e t => rfl

theorem InProtocol.request (h : InProtocol sys) {request : Request}
    (horderly : Orderly sys (.request request)) :
    Sat (execLooper (.request request)) (fun _ sys' => InProtocol sys')
      (fun _ sys' => sys'.turn.OnTime) sys := by
  unfold execLooper
  rw [sat_ite]
  refine ⟨fun _ => h, fun hmessage => ?_⟩
  rw [Bool.not_eq_true] at hmessage
  rw [sat_bind, sat_get, sat_serve]
  have hwaiting : (if request.unregisters then [] else sys.undelivered).Sublist
      sys.undelivered := by
    by_cases hunregisters : request.unregisters = true
    · rw [if_pos hunregisters]
      exact List.nil_sublist _
    · rw [if_neg hunregisters]
  apply (exec_changesLatest request hmessage).mono
  · intro _ t ht
    cases ht with
    | tries htries => exact h.tries hwaiting htries
    | starts begun u _ hbegins hmoves ht =>
        rw [ht]
        rcases h.ready.starts hbegins hmoves with ⟨calls, hgoes⟩
        exact h.goes hwaiting hgoes
    | releases hrequest hclears =>
        rw [if_pos hrequest]
        exact h.clears hclears
    | configures args answers hrequest hok hclears =>
        rw [hrequest] at horderly ⊢
        have hnone : sys.undelivered = [] := horderly hok
        show InProtocol (sys.after t none sys.undelivered)
        rw [hnone]
        exact h.clears hclears
    | sets repeatAfterUs answers hrequest hidle hpositive hkeeps hcontrol =>
        rw [hrequest] at horderly ⊢
        show InProtocol (sys.after t none sys.undelivered)
        exact h.sets hidle (horderly hidle hpositive) hkeeps hcontrol
  · intro _ t ht
    exact h.ends ht

theorem InProtocol.unique (h : InProtocol sys) {i j : Nat} {m m' : Message}
    (hm : sys.undelivered[i]? = some m) (hm' : sys.undelivered[j]? = some m')
    (hsame : m.generation = m'.generation) : i = j := by
  rcases List.getElem?_eq_some_iff.mp hm with ⟨hi, heq⟩
  rcases List.getElem?_eq_some_iff.mp hm' with ⟨hj, heq'⟩
  have hpairwise := List.pairwise_iff_getElem.mp h.generations
  rcases Nat.lt_trichotomy i j with hlt | hsame' | hlt
  · have hgenerations := hpairwise i j hi hj hlt
    rw [heq, heq'] at hgenerations
    lia
  · exact hsame'
  · have hgenerations := hpairwise j i hj hi hlt
    rw [heq, heq'] at hgenerations
    lia

theorem InProtocol.unblockedCurrent (h : InProtocol sys) {m : Message}
    (hm : m ∈ sys.undelivered)
    (hcurrent : m.generation = sys.source.mRepeatLastFrameGeneration)
    (hsome : sys.source.mLatestBuffer.isSome = true) :
    sys.source.mFrameRepeatBlockedOnCodecBuffer = false := by
  rcases Option.isSome_iff_exists.mp hsome with ⟨latest, hlatest⟩
  cases hblocked : sys.source.mFrameRepeatBlockedOnCodecBuffer with
  | false => rfl
  | true => exact absurd hcurrent ((h.latest latest hlatest).blocked hblocked m hm)

theorem InProtocol.received (h : InProtocol sys) {m : Message}
    (hm : m ∈ sys.undelivered) (answers : Answers) :
    Sat (exec (.call (.onMessageReceived m.generation) answers))
      (fun _ t => Retries sys.source t ∧
        (m.generation ≠ sys.source.mRepeatLastFrameGeneration ->
          t = { sys.source with answers := answers }))
      (fun _ t => m.generation = sys.source.mRepeatLastFrameGeneration ∧
        Moves sys.source t) sys.source := by
  show Sat (perform (.onMessageReceived m.generation)) _ _
    { sys.source with answers := answers }
  have hrests : Rests sys.source { sys.source with answers := answers } :=
    ⟨.refl sys.source.toBuffers, rfl⟩
  apply sat_bind.mpr
  have hreceived : Sat (onMessageReceived m.generation) _ _
      { sys.source with answers := answers } :=
    onMessageReceived_retries m.generation (h.unblockedCurrent hm)
  apply hreceived.mono
  · intro _ t ht
    exact ⟨hrests.retries ht.1, ht.2⟩
  · intro _ t ht
    exact ⟨ht.1, hrests.moves.trans ht.2⟩

theorem InProtocol.unchanged (h : InProtocol sys) {m : Message}
    (hm : m ∈ sys.undelivered)
    (hcurrent : m.generation = sys.source.mRepeatLastFrameGeneration) :
    Unchanged sys m where
  since := (h.rising m hm).quiet hcurrent
  turn := h.turn m hm hcurrent

theorem InProtocol.deliver (h : InProtocol sys) (index : Nat) (answers : Answers) :
    Sat (execLooper (.deliver index answers)) (fun _ sys' => InProtocol sys')
      (fun _ sys' => sys'.turn.OnTime) sys := by
  unfold execLooper
  rw [sat_bind, sat_get]
  cases hindex : sys.undelivered[index]? with
  | none => exact h
  | some m =>
      have hm : m ∈ sys.undelivered := List.mem_of_getElem? hindex
      have hwaiting : (sys.undelivered.eraseIdx index).Sublist sys.undelivered :=
        List.eraseIdx_sublist _ _
      show Sat (serve _ _ _) _ _ sys
      rw [sat_serve]
      apply (h.received hm answers).mono
      · intro _ t ht
        by_cases hcurrent : m.generation = sys.source.mRepeatLastFrameGeneration
        · apply h.retries hwaiting _ _ _ ht.1
          · intro _ m' hm' hcurrent'
            rcases List.mem_eraseIdx_iff_getElem?.mp hm' with ⟨i, hne, hi⟩
            exact hne (h.unique hi hindex (hcurrent'.trans hcurrent.symm))
          · intro hsome
            have hdue : sys.RepeatDue := ⟨hsome, Or.inr ⟨m, hm, hcurrent⟩⟩
            exact ⟨hdue, h.left hdue⟩
          · intro hsome
            rw [h.unblocked (h.unblockedCurrent hm hcurrent hsome), Option.none_or]
            exact ⟨m, rfl, h.unchanged hm hcurrent⟩
        · rw [ht.2 hcurrent]
          apply h.moves hwaiting
          exact Rests.moves ⟨.refl sys.source.toBuffers, rfl⟩
      · intro _ t ht
        exact h.ends ht.2.ends

theorem execLooper_inProtocol (sys : LooperSystem) (step : LooperStep)
    (h : InProtocol sys) (horderly : Orderly sys step) :
    Sat (execLooper step) (fun _ sys' => InProtocol sys')
      (fun _ sys' => sys'.turn.OnTime) sys := by
  cases step with
  | request request => exact h.request horderly
  | deliver index answers => exact h.deliver index answers

/-!
# Runs
-/

theorem InProtocol.frameRepeats (h : InProtocol sys) : FrameRepeats sys where
  current := fun i j m m' hm hm' hcurrent hcurrent' =>
    h.unique hm hm' (hcurrent.trans hcurrent'.symm)
  delivered := by
    intro m answers hm
    by_cases hcurrent : m.generation = sys.source.mRepeatLastFrameGeneration
    · have hunchanged := h.unchanged hm hcurrent
      exact sat_true.mono (fun _ _ _ _ => hunchanged) (fun _ _ _ _ => hunchanged)
    · apply (h.received hm answers).mono
      · intro _ t ht hresubmits
        rw [ht.2 hcurrent] at hresubmits
        have hnone : newCalls sys.source { sys.source with answers := answers } = [] :=
          List.drop_length
        rw [hnone] at hresubmits
        cases hresubmits
      · intro _ t ht
        exact absurd ht.1 hcurrent
  deferred := by
    intro request hmessage
    apply (exec_changesLatest request hmessage).mono
    · intro _ t ht hresubmits
      rcases ht.blocked h.ready hresubmits with ⟨hblocked, hsome⟩
      exact h.waits hblocked hsome
    · intro _ t ht hresubmits
      rcases ht with ⟨calls, hlog, hfresh⟩
      exact absurd hresubmits (not_resubmits hlog hfresh)
  repeats := h.onTime

theorem frameRepeats_of_orderly (steps : List LooperStep)
    (horderly : Along execLooper Orderly steps .initial) :
    Sat (run execLooper steps) (fun _ sys => FrameRepeats sys)
      (fun _ sys => sys.turn.OnTime) .initial := by
  apply (run_sat execLooper_inProtocol steps .initial inProtocol_initial
    horderly).mono
  · intro _ sys hsys
    exact hsys.frameRepeats
  · intro _ sys hsys
    exact hsys

end Runs

/-!
# Runs in and out of order

The runs are irreducible, so that only the kernel executes them.
-/

def loopedSession : List Request :=
  [configureFor 0, (Op.setRepeatPreviousFrameDelayUs 1000).now,
    (Op.onInputBufferAdded 1).now, (Op.onInputBufferAdded 2).now,
    (Op.onInputBufferAdded 3).now, Op.start.now] ++ deliver (newFrame 0 1 100)

/-- The third repeat waits for a codec buffer. -/
@[irreducible] def blockedThrice : List LooperStep :=
  loopedSession.map .request ++ [.deliver 0 {}, .deliver 0 {}, .deliver 0 {}]

/-- It is made when one comes back. -/
@[irreducible] def repeatedThrice : List LooperStep :=
  blockedThrice ++
    [.request (Op.onInputBufferEmptied 1 (-1)).now, .request Op.release.now,
      .request (configureFor 0)]

theorem frameRepeats_repeatedThrice :
    Sat (run execLooper repeatedThrice) (fun _ sys => FrameRepeats sys)
        (fun _ sys => sys.turn.OnTime) .initial ∧
      Sat (run execLooper blockedThrice)
        (fun _ sys => sys.blocked.map Message.generation = some 4 ∧
          sys.turn.repeats.length = 2)
        (fun _ _ => False) .initial ∧
      Sat (run execLooper repeatedThrice)
        (fun _ sys => sys.turn.frame.map VideoBuffer.mTimestampNs = some 100000 ∧
          sys.turn.repeats.map (fun r => r.item.mTimestampNs) =
            [1100000, 2100000, 3100000])
        (fun _ _ => False) .initial :=
  ⟨frameRepeats_of_orderly repeatedThrice (by decide +kernel), by decide +kernel,
    by decide +kernel⟩

/-- The source is configured while a message is undelivered. -/
@[irreducible] def reconfigured : List LooperStep :=
  (loopedSession ++
    [Op.stop.now, configureFor 0, (Op.setRepeatPreviousFrameDelayUs 1000).now,
      Op.start.now] ++ deliver (newFrame 1 2 200)).map .request

/-- The interval is set while a message is undelivered. -/
@[irreducible] def slowed : List LooperStep :=
  (loopedSession ++
    [Op.stop.now, (Op.setRepeatPreviousFrameDelayUs 5000).now,
      Op.start.now]).map .request ++ [.deliver 0 {}]

theorem reconfigured_generations :
    Sat (run execLooper reconfigured)
      (fun _ sys => sys.undelivered.map Message.generation = [2, 2] ∧
        sys.source.mRepeatLastFrameGeneration = 2)
      (fun _ _ => False) .initial := by
  decide +kernel

theorem reconfigured_delivers :
    Sat (run execLooper reconfigured)
      (fun _ sys => exists m, m ∈ sys.undelivered ∧
        m.since.any Event.supersedes = true ∧
          Sat (exec (.call (.onMessageReceived m.generation) {}))
            (fun _ t => (newCalls sys.source t).any Event.resubmits = true)
            (fun _ _ => False) sys.source)
      (fun _ _ => False) .initial := by
  decide +kernel

theorem slowed_early :
    Sat (run execLooper slowed)
      (fun _ sys => sys.turn.frame.map VideoBuffer.mTimestampNs = some 100000 ∧
        sys.turn.repeats.map (fun r =>
          (r.item.mTimestampNs, r.mFrameRepeatIntervalUs)) = [(1100000, 5000)])
      (fun _ _ => False) .initial := by
  decide +kernel

/-- Each of the three parts fails in a run that is out of order. -/
theorem frameRepeats_fails :
    Sat (run execLooper reconfigured)
        (fun _ sys => ¬forall (i j : Nat) (m m' : Message),
          sys.undelivered[i]? = some m -> sys.undelivered[j]? = some m' ->
            m.generation = sys.source.mRepeatLastFrameGeneration ->
              m'.generation = sys.source.mRepeatLastFrameGeneration -> i = j)
        (fun _ _ => False) .initial ∧
      Sat (run execLooper reconfigured)
        (fun _ sys => exists m, m ∈ sys.undelivered ∧ ¬Unchanged sys m ∧
          Sat (exec (.call (.onMessageReceived m.generation) {}))
            (fun _ t => (newCalls sys.source t).any Event.resubmits = true)
            (fun _ _ => False) sys.source)
        (fun _ _ => False) .initial ∧
      Sat (run execLooper slowed) (fun _ sys => ¬sys.turn.OnTime)
        (fun _ _ => False) .initial := by
  refine ⟨reconfigured_generations.imp ?_, reconfigured_delivers.imp ?_,
    slowed_early.imp ?_⟩
  · intro _ sys hsys hunique
    rcases hsys with ⟨hgenerations, hcurrent⟩
    rcases List.map_eq_cons_iff.mp hgenerations with ⟨m, rest, hmessages, hm, hrest⟩
    rcases List.map_eq_cons_iff.mp hrest with ⟨m', rest', hrest', hm', _⟩
    rw [hmessages, hrest'] at hunique
    have hsame := hunique 0 1 m m' rfl rfl (hm.trans hcurrent.symm)
      (hm'.trans hcurrent.symm)
    cases hsame
  · intro _ sys hsys
    rcases hsys with ⟨m, hm, hsupersedes, hdelivered⟩
    refine ⟨m, hm, ?_, hdelivered⟩
    intro hunchanged
    rcases List.any_eq_true.mp hsupersedes with ⟨e, he, hset⟩
    rw [hunchanged.since e he] at hset
    cases hset
  · intro _ sys hsys hontime
    rcases hsys with ⟨htimestamp, hrepeats⟩
    rcases List.map_eq_cons_iff.mp hrepeats with ⟨r, rest, hturn, hr, _⟩
    rcases hontime.time 0 r (by rw [hturn]; rfl) with ⟨frame, hframe, hitem⟩
    rw [hframe] at htimestamp
    injection htimestamp with htimestamp
    injection hr with htime hinterval
    rw [hitem, hinterval] at htime
    change frame.mTimestampNs + (0 + 1) * 5000 * 1000 = 1100000 at htime
    lia

end Bqhelper
end Sm7225
