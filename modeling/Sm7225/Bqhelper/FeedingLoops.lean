import Sm7225.Lib.Loops
import Sm7225.Bqhelper.FrameArrival

/-!
# The loops that feed the codec

The source has two loops, which the functions above go through a given number of
times: the load loop of {lit}`start`, and the loop of
{lit}`releaseAllAvailableBuffers_l`.  Here they are loops, and they end because
each round uses a frame up.
-/

namespace Sm7225
namespace Bqhelper

open Lib

def loadLoop : Nat -> GraphicBufferSource ->
    Option (EStateM.Result Abort GraphicBufferSource Unit) :=
  loop (fun s => s.haveAvailableBuffers_l) fillCodecBuffer_l

def drainRound : Gbs Bool := do
  match ← acquireBuffer_l .drain with
  | .error _ => return false
  | .ok item =>
      unhold item.mBuffer
      return true

def drainLoop : Nat -> GraphicBufferSource ->
    Option (EStateM.Result Abort GraphicBufferSource Unit) :=
  loop (fun s => decide (0 < s.mNumAvailableUnacquiredBuffers)) drainRound

/-- The number of frames that can still be taken. -/
def Frames.takeable (f : Frames) : Nat :=
  f.mAvailableBuffers.length + f.mNumAvailableUnacquiredBuffers.toNat

/-- Both loops end from {lit}`s`, however long they may run and whatever the
BufferQueue and the component answer, and end as the functions do that go through them
a given number of times. -/
structure FeedsFinitely (s : GraphicBufferSource) : Prop where
  load : forall answers rounds, s.takeable < rounds ->
    loadLoop rounds { s with answers := answers } =
      some (loadAvailable s.takeable { s with answers := answers })
  drain : forall answers rounds, s.mNumAvailableUnacquiredBuffers.toNat < rounds ->
    drainLoop rounds { s with answers := answers } =
      some (drainUnacquired s.mNumAvailableUnacquiredBuffers.toNat
        { s with answers := answers })
  filled : forall t, fillCodecBuffer_l s = .ok true t -> t.backlog < s.backlog
  unfilled : forall filled t, s.mFreeCodecBuffers = [] ->
    fillCodecBuffer_l s = .ok filled t -> filled = false ∧ t = s

/-!
# Frames do not come back
-/

structure Shrinks (s t : GraphicBufferSource) : Prop where
  available : t.mAvailableBuffers.length <= s.mAvailableBuffers.length
  unacquired : t.mNumAvailableUnacquiredBuffers <= s.mNumAvailableUnacquiredBuffers

theorem Shrinks.trans {s t u : GraphicBufferSource} (h : Shrinks s t)
    (h' : Shrinks t u) : Shrinks s u :=
  ⟨h'.available.trans h.available, h'.unacquired.trans h.unacquired⟩

theorem Shrinks.of_frames {s t : GraphicBufferSource} (h : t.toFrames = s.toFrames) :
    Shrinks s t := by
  constructor
  · rw [h]
  · rw [h]

instance : Std.Refl Shrinks :=
  ⟨fun _ => .of_frames rfl⟩

instance : IsTrans GraphicBufferSource Shrinks :=
  ⟨fun _ _ _ h h' => h.trans h'⟩

namespace Shrinks

theorem modifyControl (f : Control -> Control) : Leads Shrinks (modifyControl f) :=
  leads_modify fun _ => .of_frames rfl

theorem unholdAll (as : List AcquiredBuffer) : Leads Shrinks (unholdAll as) :=
  leads_modify fun s => .of_frames (Buffers.unholdAll_toFrames s.toBuffers as)

theorem walk : Walk Shrinks where
  control := fun _ => modifyControl _
  note := fun _ => leads_modify fun _ => .of_frames rfl
  unholdAll := unholdAll
  submit := fun _ _ => leads_modify fun _ => ⟨Nat.le_refl _, Int.le_refl _⟩
  setLatest := fun _ => leads_modify fun _ => ⟨Nat.le_refl _, Int.le_refl _⟩
  retimeLatest := fun _ => leads_modify fun _ => ⟨Nat.le_refl _, Int.le_refl _⟩

theorem performActions (itemTimeUs : Int) :
    Leads Shrinks (performActions itemTimeUs) :=
  leads_performActions (fun _ => modifyControl _) (fun _ => modifyControl _) itemTimeUs

end Shrinks

structure UsesFrame (s t : GraphicBufferSource) : Prop where
  shrinks : Shrinks s t
  fewer : t.mAvailableBuffers.length < s.mAvailableBuffers.length ∨
    0 < s.mNumAvailableUnacquiredBuffers ∧
      t.mNumAvailableUnacquiredBuffers < s.mNumAvailableUnacquiredBuffers

theorem UsesFrame.shrinks_after {s t u : GraphicBufferSource} (h : UsesFrame s t)
    (h' : Shrinks t u) : UsesFrame s u := by
  refine ⟨h.shrinks.trans h', ?_⟩
  rcases h.fewer with hfewer | ⟨hpositive, hfewer⟩
  · exact Or.inl (h'.available.trans_lt hfewer)
  · exact Or.inr ⟨hpositive, h'.unacquired.trans_lt hfewer⟩

theorem UsesFrame.backlog {s t : GraphicBufferSource} (h : UsesFrame s t) :
    t.backlog < s.backlog := by
  have havailable := h.shrinks.available
  have hunacquired := h.shrinks.unacquired
  unfold Frames.backlog
  rcases h.fewer with hfewer | ⟨_, hfewer⟩
  · lia
  · lia

theorem UsesFrame.takeable {s t : GraphicBufferSource} (h : UsesFrame s t) :
    t.takeable < s.takeable := by
  have havailable := h.shrinks.available
  have hunacquired := h.shrinks.unacquired
  unfold Frames.takeable
  rcases h.fewer with hfewer | ⟨_, hfewer⟩
  · lia
  · lia

/-!
# What each function uses up
-/

section Functions

variable {s : GraphicBufferSource}

theorem acquireBuffer_l_counts (site : AcquireSite) :
    Sat (acquireBuffer_l site)
      (fun r t => t.mAvailableBuffers = s.mAvailableBuffers ∧
        match r with
        | .error _ =>
            t.mNumAvailableUnacquiredBuffers = s.mNumAvailableUnacquiredBuffers
        | .ok _ =>
            t.mNumAvailableUnacquiredBuffers = s.mNumAvailableUnacquiredBuffers - 1)
      (fun _ _ => True) s := by
  apply (acquireBuffer_l_takes site).mono
  · intro r t ht
    rcases ht with ⟨_, ht⟩
    cases r with
    | error err =>
        rw [ht.1]
        exact ⟨rfl, rfl⟩
    | ok item =>
        rcases ht with ⟨bi, _, hadopts⟩
        rw [hadopts.frames]
        exact ⟨rfl, rfl⟩
  · intro _ _ _
    trivial

theorem drainRound_counts :
    Sat drainRound
      (fun again t => Shrinks s t ∧ (again = true ->
        t.mNumAvailableUnacquiredBuffers = s.mNumAvailableUnacquiredBuffers - 1))
      (fun _ _ => True) s := by
  unfold drainRound
  apply (acquireBuffer_l_counts .drain).bind
  intro r t ht
  rcases ht with ⟨havailable, hnum⟩
  cases r with
  | error err =>
      refine ⟨⟨?_, ?_⟩, fun hagain => by cases hagain⟩
      · rw [havailable]
      · rw [hnum]
  | ok item =>
      have hacquired : Shrinks s t := by
        constructor
        · rw [havailable]
        · lia
      rw [sat_bind, sat_unhold, sat_pure]
      refine ⟨hacquired.trans (.of_frames (Buffers.unhold_toFrames _ _)), fun _ => ?_⟩
      show (t.toBuffers.unhold item.mBuffer).mNumAvailableUnacquiredBuffers = _
      rw [Buffers.unhold_toFrames]
      exact hnum

theorem drainUnacquired_eq (n : Nat) :
    drainUnacquired n =
      boundedLoop (fun s => decide (0 < s.mNumAvailableUnacquiredBuffers)) drainRound n := by
  induction n with
  | zero => rfl
  | succ n ih =>
      have hround : (drainRound >>= fun again =>
          if again then drainUnacquired n else pure ()) = (do
            match ← acquireBuffer_l .drain with
            | .error _ => return ()
            | .ok item =>
                unhold item.mBuffer
                drainUnacquired n) := by
        unfold drainRound
        rw [bind_assoc]
        congr 1
        funext r
        cases r with
        | error err => rfl
        | ok item => rfl
      unfold drainUnacquired boundedLoop
      rw [← ih, hround]
      congr 1
      funext s
      by_cases hgoes : 0 < s.mNumAvailableUnacquiredBuffers
      · exact (if_pos hgoes).trans (if_pos (decide_eq_true hgoes)).symm
      · exact (if_neg hgoes).trans (if_neg (by rwa [decide_eq_true_iff])).symm

theorem loadAvailable_eq (n : Nat) :
    loadAvailable n =
      boundedLoop (fun s => s.haveAvailableBuffers_l) fillCodecBuffer_l n := by
  induction n with
  | zero => rfl
  | succ n ih =>
      unfold loadAvailable boundedLoop
      rw [← ih]

theorem drainUnacquired_shrinks (n : Nat) :
    Sat (drainUnacquired n) (fun _ t => Shrinks s t) (fun _ _ => True) s := by
  induction n generalizing s with
  | zero => exact .of_frames rfl
  | succ n ih =>
      rw [drainUnacquired_eq, boundedLoop, ← drainUnacquired_eq, sat_bind, sat_get,
        sat_ite]
      refine ⟨fun _ => ?_, fun _ => .of_frames rfl⟩
      apply drainRound_counts.bind
      intro again t ht
      rw [sat_ite]
      refine ⟨fun _ => ?_, fun _ => ht.1⟩
      apply ih.imp
      intro _ u hu
      exact ht.1.trans hu

theorem releaseAllAvailableBuffers_l_shrinks :
    Sat releaseAllAvailableBuffers_l (fun _ t => Shrinks s t) (fun _ _ => True)
      s := by
  unfold releaseAllAvailableBuffers_l
  rw [sat_bind, sat_get, sat_bind, sat_modifyBuffers, sat_bind]
  have hcleared : Shrinks s { s with toBuffers := s.toBuffers.clearAvailable } :=
    ⟨Nat.zero_le _, Int.le_refl _⟩
  apply (Shrinks.unholdAll _ _).mono
  · intro _ t ht
    apply (drainUnacquired_shrinks _).imp
    intro _ u hu
    exact (hcleared.trans ht).trans hu
  · intro _ _ _
    trivial

theorem takeFrame_uses (havailable : s.haveAvailableBuffers_l = true) :
    Sat takeFrame
      (fun r t => match r with
        | none => True
        | some _ => UsesFrame s t)
      (fun _ _ => True) s := by
  unfold takeFrame
  rw [sat_bind, sat_get]
  cases hlist : s.mAvailableBuffers with
  | nil =>
      have hpositive : 0 < s.mNumAvailableUnacquiredBuffers := by
        unfold Frames.haveAvailableBuffers_l at havailable
        rw [hlist] at havailable
        simpa using havailable
      apply (acquireBuffer_l_counts .oneFrame).bind
      intro r t ht
      cases r with
      | error err => trivial
      | ok item =>
          rcases ht with ⟨hsame, hnum⟩
          refine ⟨⟨?_, ?_⟩, Or.inr ⟨hpositive, ?_⟩⟩
          · rw [hsame]
          · lia
          · lia
  | cons item rest =>
      rw [sat_bind, sat_modifyBuffers, sat_pure]
      have htake := Buffers.takeAvailable_eq hlist
      have hlength : s.toBuffers.takeAvailable.mAvailableBuffers.length <
          s.mAvailableBuffers.length := by
        rw [htake, hlist]
        exact Nat.lt_succ_self _
      refine ⟨⟨hlength.le, ?_⟩, Or.inl hlength⟩
      rw [htake]

theorem processFrame_shrinks (item : VideoBuffer) :
    Sat (processFrame item) (fun _ t => Shrinks s t) (fun _ _ => True) s := by
  unfold processFrame
  rw [sat_bind]
  apply (Shrinks.performActions _ s).mono
  · intro seeStopAction t ht
    rw [sat_ite]
    constructor
    · intro _
      rw [sat_bind]
      apply releaseAllAvailableBuffers_l_shrinks.imp
      intro _ u hu
      rw [sat_bind, sat_modifyControl]
      apply (Shrinks.walk.submitEndOfInputStream_l _).mono
      · intro _ v hv
        exact (ht.trans hu).trans ⟨hv.available, hv.unacquired⟩
      · intro _ _ _
        trivial
    · intro _
      rw [sat_bind, sat_get, sat_ite]
      refine ⟨fun _ => ht, fun _ => ?_⟩
      rw [sat_bind]
      apply (Shrinks.walk.skipDropOrSubmit item t).mono
      · intro err u hu
        rw [sat_ite]
        refine ⟨fun _ => ht.trans hu, fun _ => ?_⟩
        apply (Shrinks.walk.recordFrame item _ u).mono
        · intro _ v hv
          exact (ht.trans hu).trans hv
        · intro _ _ _
          trivial
      · intro _ _ _
        trivial
  · intro _ _ _
    trivial

theorem fillCodecBuffer_l_uses :
    Sat fillCodecBuffer_l (fun filled t => filled = true -> UsesFrame s t)
      (fun _ _ => True) s := by
  unfold fillCodecBuffer_l
  rw [sat_bind, sat_get, sat_bind, sat_check]
  refine ⟨fun hready => ?_, fun _ => trivial⟩
  rw [sat_ite]
  constructor
  · intro _ hfilled
    cases hfilled
  intro _
  have havailable : s.haveAvailableBuffers_l = true :=
    (Bool.and_eq_true_iff.mp hready).2
  apply (takeFrame_uses havailable).bind
  intro r t ht
  cases r with
  | none =>
      intro hfilled
      cases hfilled
  | some item =>
      rw [sat_bind]
      apply processFrame_shrinks item |>.imp
      intro _ u hu
      rw [sat_bind, sat_unhold, sat_pure]
      intro _
      apply ht.shrinks_after
      exact hu.trans (.of_frames (Buffers.unhold_toFrames u.toBuffers item.mBuffer))

theorem fillCodecBuffer_l_unfilled (hfree : s.mFreeCodecBuffers = []) :
    Sat fillCodecBuffer_l (fun filled t => filled = false ∧ t = s) (fun _ _ => True)
      s := by
  unfold fillCodecBuffer_l
  rw [sat_bind, sat_get, sat_bind, sat_check]
  refine ⟨fun _ => ?_, fun _ => trivial⟩
  rw [hfree, sat_ite]
  exact ⟨fun _ => ⟨rfl, rfl⟩, fun hnot => absurd rfl hnot⟩

end Functions

/-!
# The loops end
-/

theorem loadLoop_lowers :
    Lowers (fun s : GraphicBufferSource => s.haveAvailableBuffers_l) fillCodecBuffer_l
      (fun s => s.takeable) where
  positive := by
    intro s havailable
    unfold Frames.takeable
    unfold Frames.haveAvailableBuffers_l at havailable
    cases hlist : s.mAvailableBuffers with
    | nil =>
        rw [hlist] at havailable
        have hpositive : 0 < s.mNumAvailableUnacquiredBuffers := by
          simpa using havailable
        lia
    | cons item rest =>
        rw [List.length_cons]
        lia
  round := by
    intro s _
    apply fillCodecBuffer_l_uses.imp
    intro filled t ht hfilled
    exact (ht hfilled).takeable

theorem drainLoop_lowers :
    Lowers (fun s : GraphicBufferSource => decide (0 < s.mNumAvailableUnacquiredBuffers))
      drainRound (fun s => s.mNumAvailableUnacquiredBuffers.toNat) where
  positive := by
    intro s hgoes
    have hpositive := of_decide_eq_true hgoes
    lia
  round := by
    intro s hgoes
    have hpositive := of_decide_eq_true hgoes
    apply drainRound_counts.imp
    intro again t ht hagain
    have hnum := ht.2 hagain
    lia

/-- The states include those that are reached in the middle of a request. -/
theorem feeding_ends (s : GraphicBufferSource) : FeedsFinitely s where
  load := by
    intro answers rounds hrounds
    rw [loadAvailable_eq]
    exact loadLoop_lowers.loop_eq (Nat.le_refl _) hrounds
  drain := by
    intro answers rounds hrounds
    rw [drainUnacquired_eq]
    exact drainLoop_lowers.loop_eq (Nat.le_refl _) hrounds
  filled := by
    intro t hfills
    have huses := @fillCodecBuffer_l_uses s
    rw [sat_of_ok hfills] at huses
    exact (huses rfl).backlog
  unfilled := by
    intro filled t hfree hfills
    have hnothing := fillCodecBuffer_l_unfilled hfree
    rw [sat_of_ok hfills] at hnothing
    exact hnothing

end Bqhelper
end Sm7225
