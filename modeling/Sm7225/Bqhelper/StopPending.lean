import Sm7225.Bqhelper.ActionReplay
import Sm7225.Bqhelper.FrameRepeat

/-!
# A pending STOP

The queue of actions is kept in order by the time of the last action, and a queued
STOP is known from the stop time.  The time -1 stands for no time in both, so a STOP
at this time is not noticed.
-/

namespace Sm7225
namespace Bqhelper

open Lib

/-- The times do not go back, and a STOP is the last action. -/
structure ActionsInOrder (queue : List ActionItem) : Prop where
  sorted : queue.Pairwise fun a a' => a.mActionTimeUs <= a'.mActionTimeUs
  stop : forall a, a ∈ queue.dropLast -> a.mAction ≠ .stop

def QueuesStop (s : GraphicBufferSource) (stopTimeUs : Int) (answers : Answers) :
    Prop :=
  s.mStopTimeUs = -1 ∧
    Control.acceptsActionTime { s.toControl with answers := answers } stopTimeUs = true

structure StopPends (s : GraphicBufferSource) : Prop where
  stopTime : s.mStopTimeUs ≠ -1
  suspend : forall suspend suspendStartTimeUs answers,
    Sat (exec (.call (.setSuspend suspend suspendStartTimeUs) answers))
      (fun r t => r = .status .invalidOperation ∧ t = { s with answers := answers })
      (fun _ _ => False) s
  stop : forall stopTimeUs answers,
    Sat (exec (.call (.setStopTimeUs stopTimeUs) answers))
      (fun r t => r = .status .ok ∧ t = { s with answers := answers })
      (fun _ _ => False) s

def Request.reconfigures : Request -> Bool
  | .call (.configure args) answers => args.succeeds answers
  | _ => false

/-- Wherever the run comes to, the queue is in order, and a STOP that was queued is
pending until the source is configured again. -/
structure ActionsGuarded (requests : List Request) : Prop where
  order : forall before later s, requests = before ++ later -> Reaches before s ->
    ActionsInOrder s.mActionQueue
  pending : forall before stopTimeUs answers during later s t,
    requests = before ++ .call (.setStopTimeUs stopTimeUs) answers :: during ++ later ->
      Reaches before s -> QueuesStop s stopTimeUs answers ->
        (forall r, r ∈ during -> r.reconfigures = false) ->
          Reaches (before ++ .call (.setStopTimeUs stopTimeUs) answers :: during) t ->
            StopPends t

theorem Ordered.inOrder {queue : List ActionItem} (h : Ordered queue) :
    ActionsInOrder queue := by
  refine ⟨h.imp fun hboth => hboth.1, ?_⟩
  intro a ha
  -- something comes after an action that is not the last
  rcases List.eq_nil_or_concat queue with hnil | ⟨front, last, hqueue⟩
  · rw [hnil] at ha
    cases ha
  · rw [List.concat_eq_append] at hqueue
    rw [hqueue, List.dropLast_concat] at ha
    rw [hqueue] at h
    have hpairwise := (List.pairwise_append.mp h).2.2
    exact (hpairwise a ha last (List.mem_singleton_self last)).2

section Requests

variable {s : GraphicBufferSource}

theorem stopPends_of_stopTime (h : s.mStopTimeUs ≠ -1) : StopPends s := by
  refine ⟨h, ?_, ?_⟩
  · intro suspend suspendStartTimeUs answers
    show Sat (perform (.setSuspend suspend suspendStartTimeUs)) _ _
      { s with answers := answers }
    unfold perform setSuspend
    rw [sat_bind, sat_bind, sat_get, sat_ite]
    refine ⟨fun _ => ⟨rfl, rfl⟩, fun hnone => absurd h hnone⟩
  · intro stopTimeUs answers
    show Sat (perform (.setStopTimeUs stopTimeUs)) _ _ { s with answers := answers }
    unfold perform setStopTimeUs
    rw [sat_bind, sat_bind, sat_get, sat_ite]
    refine ⟨fun _ => ⟨rfl, rfl⟩, fun hnone => absurd h hnone⟩

theorem setStopTimeUs_queues {stopTimeUs : Int} {answers : Answers}
    (h : QueuesStop s stopTimeUs answers) :
    Sat (exec (.call (.setStopTimeUs stopTimeUs) answers))
      (fun _ t => t.mStopTimeUs = stopTimeUs) (fun _ _ => False) s := by
  show Sat (perform (.setStopTimeUs stopTimeUs)) _ _ { s with answers := answers }
  unfold perform setStopTimeUs
  rw [sat_bind, sat_bind, sat_get, sat_ite]
  refine ⟨fun hset => absurd h.1 hset, fun _ => ?_⟩
  rw [sat_ite]
  constructor
  · intro hnot
    rw [h.2] at hnot
    cases hnot
  · intro _
    rfl

theorem configure_stopTime (args : ConfigureArgs)
    (hfails : args.succeeds s.answers = false) :
    Sat (configure args) (fun _ t => t.mStopTimeUs = s.mStopTimeUs)
      (fun _ _ => True) s := by
  unfold configure
  rw [sat_bind, sat_get]
  unfold ConfigureArgs.succeeds at hfails
  cases hcomponent : args.component with
  | none => rfl
  | some component =>
      rw [hcomponent] at hfails
      apply ((SameActions.of_stays
        (Stays.setMaxAcquiredBufferCount args.bufferCount) s).mono
          (fun _ _ hdone => hdone) fun _ _ _ => trivial).bind
      intro _ u hu
      have hstop : u.mStopTimeUs = s.mStopTimeUs := hu.drops.stop
      simp only [sat_bind, sat_note, sat_ite, sat_pure, sat_modifyControl]
      refine ⟨fun _ => hstop, fun hok => ⟨fun _ => hstop, fun hok' =>
        ⟨fun _ => hstop, fun hok'' => ?_⟩⟩⟩
      rw [not_not] at hok hok' hok''
      rw [hok, hok', hok''] at hfails
      cases hfails

theorem exec_stopTime (r : Request) (hset : s.mStopTimeUs ≠ -1)
    (hkeeps : r.reconfigures = false) :
    Sat (exec r) (fun _ t => t.mStopTimeUs ≠ -1) (fun _ _ => True) s := by
  have hpends := stopPends_of_stopTime hset
  cases r with
  | queueFrame item => exact hset
  | call op answers =>
      by_cases hsuspend : exists suspend time, op = .setSuspend suspend time
      · rcases hsuspend with ⟨suspend, time, hop⟩
        rw [hop]
        apply (hpends.suspend suspend time answers).mono
        · intro _ t ht
          rw [ht.2]
          exact hset
        · intro _ _ _
          trivial
      by_cases hstop : exists time, op = .setStopTimeUs time
      · rcases hstop with ⟨time, hop⟩
        rw [hop]
        apply (hpends.stop time answers).mono
        · intro _ t ht
          rw [ht.2]
          exact hset
        · intro _ _ _
          trivial
      by_cases hconfigure : exists args, op = .configure args
      · rcases hconfigure with ⟨args, hop⟩
        rw [hop] at hkeeps ⊢
        show Sat (perform (.configure args)) _ _ { s with answers := answers }
        apply sat_bind.mpr
        apply (configure_stopTime (s := { s with answers := answers }) args hkeeps).mono
        · intro _ t ht
          rw [sat_pure, ht]
          exact hset
        · intro _ _ _
          trivial
      · show Sat (perform op) _ _ { s with answers := answers }
        apply (perform_drops (fun suspend time hop => hsuspend ⟨suspend, time, hop⟩)
          (fun time hop => hstop ⟨time, hop⟩)
          (fun args hop => hconfigure ⟨args, hop⟩) _).mono
        · intro _ t ht
          rw [ht.stop]
          exact hset
        · intro _ _ _
          trivial

end Requests

/-!
# Runs
-/

theorem run_stopTime (requests : List Request) {s t : GraphicBufferSource}
    {replies : List Reply} (hset : s.mStopTimeUs ≠ -1)
    (hkeeps : forall r, r ∈ requests -> r.reconfigures = false)
    (hrun : run exec requests s = .ok replies t) : t.mStopTimeUs ≠ -1 := by
  induction requests generalizing s replies with
  | nil =>
      cases hrun
      exact hset
  | cons r requests ih =>
      rcases run_cons_ok.mp hrun with ⟨_, u, replies', hexec, hrest, _⟩
      have hnext := exec_stopTime r hset (hkeeps r List.mem_cons_self)
      rw [sat_of_ok hexec] at hnext
      exact ih hnext (fun r' hr' => hkeeps r' (List.mem_cons_of_mem r hr')) hrest

theorem stopPends_of_queued {s t : GraphicBufferSource} {stopTimeUs : Int}
    {answers : Answers} {during : List Request} {replies : List Reply}
    (htime : stopTimeUs ≠ -1) (hqueues : QueuesStop s stopTimeUs answers)
    (hkeeps : forall r, r ∈ during -> r.reconfigures = false)
    (hrun : run exec (.call (.setStopTimeUs stopTimeUs) answers :: during) s =
      .ok replies t) : StopPends t := by
  rcases run_cons_ok.mp hrun with ⟨_, u, _, hexec, hduring, _⟩
  have hstep := setStopTimeUs_queues hqueues
  rw [sat_of_ok hexec] at hstep
  apply stopPends_of_stopTime
  apply run_stopTime during _ hkeeps hduring
  rw [hstep]
  exact htime

/-- The queue of actions is guarded in a run if and only if the run never sets the
stop time to the time that stands for none. -/
theorem actionsGuarded_iff (requests : List Request) :
    ActionsGuarded requests <-> Along exec NamesStopTime requests .initial := by
  constructor
  · intro h
    rw [along_iff_forall]
    intro before r later replies s hsplit hrun
    cases r with
    | queueFrame item => trivial
    | call op answers =>
        cases op with
        | setStopTimeUs stopTimeUs =>
            intro hnone
            by_contra hqueues
            push Not at hqueues
            have hqueues' : QueuesStop s stopTimeUs answers :=
              ⟨hqueues.1, by simpa using hqueues.2⟩
            rcases (setStopTimeUs_queues hqueues').returns with ⟨reply, t, hexec, hstep⟩
            have hcall : run exec [.call (.setStopTimeUs stopTimeUs) answers] s =
                .ok [reply] t := run_cons_ok.mpr ⟨reply, t, [], hexec, rfl, rfl⟩
            have hsplit' : requests =
                before ++ [.call (.setStopTimeUs stopTimeUs) answers] ++ later := by
              rw [hsplit, List.append_assoc]
              rfl
            have hpends := h.pending before stopTimeUs answers [] later s t hsplit'
              ⟨replies, hrun⟩ hqueues' (fun _ hr => (List.not_mem_nil hr).elim)
              ⟨replies ++ [reply], run_append_of_ok hrun hcall⟩
            exact hpends.stopTime (hstep.trans hnone)
        | _ => trivial
  · intro hnames
    constructor
    · intro before later s hsplit hreaches
      rw [hsplit] at hnames
      exact (reaches_queued hnames.of_append hreaches).ordered.inOrder
    · intro before stopTimeUs answers during later s t hsplit hreaches hqueues hkeeps
        hreaches'
      rcases hreaches with ⟨replies, hrun⟩
      rcases hreaches' with ⟨replies', hrun'⟩
      rw [along_iff_forall] at hnames
      have hcall := hnames before (.call (.setStopTimeUs stopTimeUs) answers)
        (during ++ later) replies s (by rw [hsplit, List.append_assoc]; rfl) hrun
      have htime : stopTimeUs ≠ -1 := by
        intro hnone
        rcases hcall hnone with hset | hnot
        · exact hset hqueues.1
        · rw [hqueues.2] at hnot
          cases hnot
      rcases run_append_ok hrun' with ⟨_, s', replies₂, hfirst, hrest⟩
      rw [hrun] at hfirst
      cases hfirst
      exact stopPends_of_queued htime hqueues hkeeps hrest

/-- The STOP is not noticed, and an earlier action comes after it. -/
theorem stopAtNoTime_unguarded : ¬ActionsGuarded stopAtNoTime := by
  intro h
  have hreaches : Reaches stopAtNoTime (final stopAtNoTime) := reaches_final rfl
  have hsplit : stopAtNoTime = stopAtNoTime ++ [] := (List.append_nil _).symm
  have horder := h.order stopAtNoTime [] (final stopAtNoTime) hsplit hreaches
  have hqueue : (final stopAtNoTime).mActionQueue =
      [{ mAction := .stop, mActionTimeUs := -1 },
        { mAction := .pause, mActionTimeUs := -9 }] := rfl
  rw [hqueue] at horder
  have hsorted := (List.pairwise_cons.mp horder.sorted).1 _ (List.mem_singleton_self _)
  exact absurd hsorted (by decide)

end Bqhelper
end Sm7225
