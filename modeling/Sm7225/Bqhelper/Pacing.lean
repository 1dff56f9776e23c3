import Sm7225.Lib.Traces
import Sm7225.Bqhelper.Reserve
import Sm7225.Bqhelper.CodecOrder
import Sm7225.Bqhelper.Requests

/-!
# The pace of the frames

The frame dropper decides which frames are handed over, and the clock of the codec at
which times.  Both together are a machine of their own, to which frames are offered.
Between two changes of the rates, the source is this machine as far as the times of its
frames go.
-/

namespace Sm7225
namespace Bqhelper

open Lib

/-!
# The machine
-/

/-- A frame that was handed over. -/
structure TimedFrame where
  origin : Origin
  mTimestampNs : Int
  codecTimeUs : Int
  deriving DecidableEq, Repr

structure Pace where
  clock : CodecClock
  mFrameDropper : Option FrameDropper
  deriving DecidableEq, Repr

namespace Pace

def judge (p : Pace) (timeUs : Int) : Bool × Pace :=
  match p.mFrameDropper with
  | none => (false, p)
  | some dropper =>
      ((dropper.shouldDrop timeUs).1,
        { p with mFrameDropper := some (dropper.shouldDrop timeUs).2 })

def stamp (p : Pace) (mTimestampNs : Int) : Option (Int × Pace) :=
  (p.clock.calculateCodecTimestamp_l p.mFrameDropper mTimestampNs).map fun r =>
    (r.1, { p with clock := r.2 })

def select (p : Pace) (origin : Origin) (mTimestampNs : Int) : Bool × Pace :=
  match origin with
  | .fresh => p.judge (Int.tdiv mTimestampNs 1000)
  | .repeated => (false, p)

inductive HandsOver (p : Pace) : TimedFrame -> Pace -> Prop where
  | selected {origin : Origin} {mTimestampNs codecTimeUs : Int} {p' p'' : Pace}
      (hselect : p.select origin mTimestampNs = (false, p'))
      (hstamp : p'.stamp mTimestampNs = some (codecTimeUs, p'')) :
      HandsOver p ⟨origin, mTimestampNs, codecTimeUs⟩ p''

inductive Idles (p : Pace) : Pace -> Prop where
  | judged (timeUs : Int) : Idles p (p.judge timeUs).2
  | lost {frame : TimedFrame} {p' : Pace} (h : p.HandsOver frame p') : Idles p p'
  | setTimeOffsetUs (timeOffsetUs : Int) :
      Idles p { p with clock := p.clock.setTimeOffsetUs timeOffsetUs }

end Pace

def pacing : Lts Pace TimedFrame where
  Emits := Pace.HandsOver
  Quiet := Pace.Idles

/-!
# The source as the machine
-/

def Event.timed? : Event -> Option TimedFrame
  | .submitBuffer _ item origin codecTimeUs _ _ =>
      some ⟨origin, item.mTimestampNs, codecTimeUs⟩
  | _ => none

/-- The frames that were handed to the component. -/
def timedFrames (log : List Event) : List TimedFrame :=
  log.filterMap Event.timed?

def Control.pace (c : Control) : Pace where
  clock := c.clock
  mFrameDropper := c.mFrameDropper

def Paces (s t : GraphicBufferSource) : Prop :=
  exists new, t.log = s.log ++ new ∧ pacing.Trace s.pace (timedFrames new) t.pace

variable {s t u : GraphicBufferSource}

theorem timedFrames_append (log more : List Event) :
    timedFrames (log ++ more) = timedFrames log ++ timedFrames more :=
  List.filterMap_append

theorem Event.timed_of_mute (e : Event) (h : e.speaks = false) : e.timed? = none := by
  cases e <;> first | rfl | cases h

theorem timedFrames_of_mute {log : List Event} (h : forall e, e ∈ log -> e.speaks = false) :
    timedFrames log = [] :=
  List.filterMap_eq_nil_iff.mpr fun e he => e.timed_of_mute (h e he)

theorem Control.pace_of_standing {c c' : Control} (h : c'.standing = c.standing) :
    c'.pace = c.pace := by
  have hclock : c'.clock = c.clock := congrArg Standing.clock h
  have hdropper : c'.mFrameDropper = c.mFrameDropper := congrArg Standing.mFrameDropper h
  unfold pace
  rw [hclock, hdropper]

structure Still (s t : GraphicBufferSource) : Prop where
  log : exists new, t.log = s.log ++ new ∧ timedFrames new = []
  pace : t.pace = s.pace

theorem Still.trans (h : Still s t) (h' : Still t u) : Still s u := by
  rcases h.log with ⟨new, hlog, hnone⟩
  rcases h'.log with ⟨new', hlog', hnone'⟩
  constructor
  · refine ⟨new ++ new', by rw [hlog', hlog, List.append_assoc], ?_⟩
    rw [timedFrames_append, hnone, hnone', List.append_nil]
  · exact h'.pace.trans h.pace

theorem Still.paces (h : Still s t) : Paces s t := by
  rcases h.log with ⟨new, hlog, hnone⟩
  refine ⟨new, hlog, ?_⟩
  rw [hnone, h.pace]
  exact .nil _

theorem Still.of_control {f : Control -> Control} (h : (f s.toControl).pace = s.pace) :
    Still s { s with toControl := f s.toControl } :=
  ⟨⟨[], (List.append_nil _).symm, rfl⟩, h⟩

theorem Still.of_mute {b : Buffers} (h : Buffers.Mute s.toBuffers b) :
    Still s { s with toBuffers := b } := by
  rcases h with ⟨new, hlog, hmute⟩
  exact ⟨⟨new, hlog, timedFrames_of_mute hmute⟩, rfl⟩

instance : Std.Refl Still :=
  ⟨fun _ => ⟨⟨[], (List.append_nil _).symm, rfl⟩, rfl⟩⟩

instance : IsTrans GraphicBufferSource Still :=
  ⟨fun _ _ _ h h' => h.trans h'⟩

theorem Paces.trans (h : Paces s t) (h' : Paces t u) : Paces s u := by
  rcases h with ⟨new, hlog, htrace⟩
  rcases h' with ⟨new', hlog', htrace'⟩
  refine ⟨new ++ new', by rw [hlog', hlog, List.append_assoc], ?_⟩
  rw [timedFrames_append]
  exact htrace.append htrace'

theorem Paces.of_idles (hlog : t.log = s.log) (h : s.pace.Idles t.pace) : Paces s t :=
  ⟨[], by rw [hlog, List.append_nil], .of_quiet h⟩

theorem Paces.refl (s : GraphicBufferSource) : Paces s s :=
  ⟨[], (List.append_nil _).symm, .nil _⟩

instance : Std.Refl Paces :=
  ⟨Paces.refl⟩

instance : IsTrans GraphicBufferSource Paces :=
  ⟨fun _ _ _ h h' => h.trans h'⟩

theorem leads_still {α : Type} {m : Gbs α} (h : Leads Still m) : Leads Paces m :=
  h.mono fun _ _ hst => hst.paces

namespace Still

theorem modifyControl {f : Control -> Control} (h : forall c, (f c).pace = c.pace) :
    Leads Still (modifyControl f) :=
  leads_modify fun s => .of_control (h s.toControl)

theorem backstage : Backstage Still :=
  .of_discreet (fun h => modifyControl fun c => c.pace_of_standing (h c))
    (fun h => leads_modify fun s => .of_mute (h s.toBuffers).mute)

theorem updateDataspace (item : VideoBuffer) : Leads Still (updateDataspace item) :=
  leads_updateDataspace (fun _ => modifyControl fun _ => rfl)
    (fun _ _ _ => leads_modify fun _ => ⟨⟨_, rfl, rfl⟩, rfl⟩) item

end Still

structure PacedSubmit (s : GraphicBufferSource) (item : VideoBuffer) (origin : Origin)
    (t : GraphicBufferSource) : Prop where
  log : exists new, t.log = s.log ++ new ∧
    (timedFrames new = [] ∧ t.pace = s.pace ∨
      exists codecTimeUs, s.pace.stamp item.mTimestampNs = some (codecTimeUs, t.pace) ∧
        (timedFrames new = [] ∨
          timedFrames new = [⟨origin, item.mTimestampNs, codecTimeUs⟩]))

theorem PacedSubmit.still {item : VideoBuffer} {origin : Origin}
    (h : PacedSubmit s item origin t) (h' : Still t u) : PacedSubmit s item origin u := by
  rcases h.log with ⟨new, hlog, hpaced⟩
  rcases h'.log with ⟨new', hlog', hnone⟩
  refine ⟨new ++ new', by rw [hlog', hlog, List.append_assoc], ?_⟩
  rw [timedFrames_append, hnone, List.append_nil, h'.pace]
  exact hpaced

theorem PacedSubmit.trace {item : VideoBuffer} {origin : Origin}
    (h : PacedSubmit s item origin t) {p : Pace}
    (hselect : p.select origin item.mTimestampNs = (false, s.pace))
    (hstill : pacing.Trace p [] s.pace) :
    exists new, t.log = s.log ++ new ∧ pacing.Trace p (timedFrames new) t.pace := by
  rcases h.log with ⟨new, hlog, ⟨hnone, hpace⟩ | ⟨codecTimeUs, hstamp, hnone | hone⟩⟩
  · refine ⟨new, hlog, ?_⟩
    rw [hnone, hpace]
    exact hstill
  · refine ⟨new, hlog, ?_⟩
    rw [hnone]
    exact .of_quiet (.lost (.selected hselect hstamp))
  · refine ⟨new, hlog, ?_⟩
    rw [hone]
    exact .of_emits (.selected hselect hstamp)

theorem submitBuffer_l_paced (item : VideoBuffer) (origin : Origin)
    (s : GraphicBufferSource) :
    Sat (submitBuffer_l item origin) (fun _ t => PacedSubmit s item origin t)
      (fun _ t => PacedSubmit s item origin t) s := by
  have hrefused : PacedSubmit s item origin s :=
    ⟨[], (List.append_nil _).symm, Or.inl ⟨rfl, rfl⟩⟩
  unfold submitBuffer_l
  rw [sat_bind, sat_get]
  cases s.mFreeCodecBuffers with
  | nil => exact hrefused
  | cons codecBufferId rest =>
      cases hcall : s.clock.calculateCodecTimestamp_l s.mFrameDropper item.mTimestampNs with
      | none => exact hrefused
      | some r =>
          rcases r with ⟨codecTimeUs, clock⟩
          have hstamp : s.pace.stamp item.mTimestampNs =
              some (codecTimeUs, { s.pace with clock := clock }) :=
            Option.map_eq_some_iff.mpr ⟨_, hcall, rfl⟩
          have hlost : forall t : GraphicBufferSource,
              Still { s with toControl := { s.toControl with clock := clock } } t ->
                PacedSubmit s item origin t := by
            intro t ht
            rcases ht.log with ⟨new, hlog, hnone⟩
            refine ⟨new, hlog, Or.inr ⟨codecTimeUs, ?_, Or.inl hnone⟩⟩
            rw [ht.pace]
            exact hstamp
          rw [sat_bind, sat_modifyControl, sat_bind]
          apply (Still.updateDataspace item _).mono _ (fun _ t ht => hlost t ht)
          intro _ t ht
          unfold componentSubmitBuffer
          rw [sat_bind, sat_bind, sat_get, sat_ite]
          refine ⟨fun _ => hlost t ht, fun _ => ?_⟩
          rw [sat_bind, sat_modifyControl, sat_bind, sat_note, sat_pure]
          -- the call of the component is in the log
          have hhanded : forall u : GraphicBufferSource,
              u.log = t.log ++ [.submitBuffer codecBufferId item origin codecTimeUs
                item.mBuffer.getAcquireFenceFd (t.answers.submitBuffer.headD .ok)] ->
              u.pace = t.pace -> PacedSubmit s item origin u := by
            intro u hlog hpace
            rcases ht.log with ⟨new, hnew, hnone⟩
            refine ⟨_, by rw [hlog, hnew, List.append_assoc], Or.inr ⟨codecTimeUs, ?_,
              Or.inr ?_⟩⟩
            · rw [hpace, ht.pace]
              exact hstamp
            · rw [timedFrames_append, hnone]
              rfl
          rw [sat_ite]
          refine ⟨fun _ => hhanded _ rfl rfl, fun _ => ?_⟩
          have hmoved : forall u : GraphicBufferSource, PacedSubmit s item origin u ->
              Sat (do moveToSubmitted codecBufferId (some item.mBuffer); return Status.ok)
                (fun _ v => PacedSubmit s item origin v)
                (fun _ v => PacedSubmit s item origin v) u := by
            intro u hu
            have hmove := (Still.backstage.moveToSubmitted codecBufferId
              (some item.mBuffer)).bind fun _ => leads_pure (a := Status.ok)
            exact (hmove u).mono (fun _ _ hv => hu.still hv) (fun _ _ hv => hu.still hv)
          exact hmoved _ (hhanded _ rfl rfl)

/-!
# Functions
-/

theorem frameDropperDrops_judges (timeUs : Int) (s : GraphicBufferSource) :
    Sat (frameDropperDrops timeUs)
      (fun drops t => t.log = s.log ∧ s.pace.judge timeUs = (drops, t.pace))
      (fun _ _ => False) s := by
  unfold frameDropperDrops
  rw [sat_bind, sat_get]
  cases hdropper : s.mFrameDropper with
  | none =>
      have hpace : s.pace.mFrameDropper = none := hdropper
      rw [sat_pure]
      unfold Pace.judge
      rw [hpace]
      exact ⟨rfl, rfl⟩
  | some dropper =>
      have hpace : s.pace.mFrameDropper = some dropper := hdropper
      rw [sat_bind, sat_modifyControl, sat_pure]
      unfold Pace.judge
      rw [hpace]
      exact ⟨rfl, rfl⟩

theorem Paces.of_judge {timeUs : Int} {drops : Bool} (hlog : t.log = s.log)
    (hjudge : s.pace.judge timeUs = (drops, t.pace)) : Paces s t := by
  have hidles := Pace.Idles.judged (p := s.pace) timeUs
  rw [hjudge] at hidles
  exact .of_idles hlog hidles

namespace Paces

theorem frameDropperDrops (timeUs : Int) : Leads Paces (frameDropperDrops timeUs) := by
  intro s
  apply (frameDropperDrops_judges timeUs s).mono
  · intro _ t ht
    exact .of_judge ht.1 ht.2
  · intro _ _ h
    cases h

theorem reserved : Reserved Paces := by
  apply Backstage.reserved_of_drops
  · exact {
      control := fun h => leads_still (Still.backstage.control h)
      buffers := fun h => leads_still (Still.backstage.buffers h)
      acquire := fun site => leads_still (Still.backstage.acquire site) }
  · exact frameDropperDrops
  · exact leads_still (Still.modifyControl fun _ => rfl)
  · exact leads_still (Still.modifyControl fun _ => rfl)

theorem skipDropOrSubmit (item : VideoBuffer) : Leads Paces (skipDropOrSubmit item) := by
  intro s
  unfold Bqhelper.skipDropOrSubmit
  rw [sat_bind, sat_get, sat_ite]
  constructor
  · intro _
    rw [sat_bind]
    apply (frameDropperDrops_judges _ s).total
    intro drops t ht
    rw [sat_ite]
    constructor
    · intro _
      rw [sat_bind, sat_note, sat_pure]
      exact (Paces.of_judge ht.1 ht.2).trans (Still.of_mute (.of_event rfl rfl)).paces
    · intro hkept
      rw [Bool.not_eq_true] at hkept
      rw [hkept] at ht
      have htrace : forall u, PacedSubmit t (s.offsetByStartTime item) .fresh u ->
          Paces s u := by
        intro u hu
        rcases Paces.of_judge ht.1 ht.2 with ⟨old, hold, hstill⟩
        have hnone : old = [] := by
          rw [ht.1] at hold
          exact List.self_eq_append_right.mp hold
        rw [hnone] at hstill
        rcases hu.trace ht.2 hstill with ⟨new, hlog, hnew⟩
        exact ⟨new, by rw [hlog, ht.1], hnew⟩
      exact (submitBuffer_l_paced _ .fresh t).mono (fun _ u hu => htrace u hu)
        (fun _ u hu => htrace u hu)
  · intro _
    exact Paces.refl s

theorem performActions (itemTimeUs : Int) : Leads Paces (performActions itemTimeUs) :=
  leads_performActions (fun _ => leads_still (Still.modifyControl fun _ => rfl))
    (fun _ => leads_still (Still.modifyControl fun _ => rfl)) itemTimeUs

theorem fillCodecBuffer_l : Leads Paces fillCodecBuffer_l :=
  reserved.fillCodecBuffer_l fun _ => reserved.processFrame performActions
    (skipDropOrSubmit _)
    (reserved.recordFrame fun _ => leads_modify fun _ => (Still.of_mute (.of_log rfl)).paces)

theorem repeatLatestBuffer_l : Leads Paces repeatLatestBuffer_l := by
  apply leads_repeatLatestBuffer_l _ reserved.countRepeat
  intro latest s
  have htrace : forall u, PacedSubmit s latest .repeated u -> Paces s u :=
    fun u hu => hu.trace rfl (.nil _)
  exact (submitBuffer_l_paced latest .repeated s).mono (fun _ u hu => htrace u hu)
    (fun _ u hu => htrace u hu)

end Paces

/-!
# Requests
-/

def Op.changesRates (mExecuting : Bool) : Op -> Bool
  | .configure _ => true
  | .setMaxFps _ => !mExecuting
  | .setTimeLapseConfig _ _ => !mExecuting
  | _ => false

def KeepsRates (s : GraphicBufferSource) : Request -> Prop
  | .queueFrame _ => True
  | .call op _ => op.changesRates s.mExecuting = false

instance (s : GraphicBufferSource) (r : Request) : Decidable (KeepsRates s r) :=
  match r with
  | .queueFrame _ => instDecidableTrue
  | .call _ _ => instDecidableEqBool _ _

theorem perform_paces {op : Op} (h : op.changesRates s.mExecuting = false) :
    Sat (perform op) (fun _ t => Paces s t) (fun _ t => Paces s t) s := by
  have hcontrol : forall {f : Control -> Control}, (forall c, (f c).pace = c.pace) ->
      Leads Paces (modifyControl f) :=
    fun hf => leads_still (Still.modifyControl hf)
  have hsubdued : forall {f : Control -> Control}, (forall c : Control, c.Subdued (f c)) ->
      Leads Paces (modifyControl f) := by
    intro f hf
    apply hcontrol
    intro c
    unfold Control.pace
    rw [(hf c).clock, (hf c).dropper]
  have harrives : Leads Paces onFrameAvailable :=
    Paces.reserved.onFrameAvailable Paces.fillCodecBuffer_l
      fun _ => leads_modify fun _ => (Still.of_mute (.of_log rfl)).paces
  have hordinary : op.isOrdinary = true -> Leads Paces (perform op) :=
    leads_perform Paces.reserved hsubdued Paces.fillCodecBuffer_l
      Paces.repeatLatestBuffer_l harrives
  cases op with
  | configure args => cases h
  | start =>
      have hstart := leads_start (hcontrol fun _ => rfl) Paces.fillCodecBuffer_l
        Paces.reserved.submitEndOfInputStream_l Paces.reserved.startLooper
      exact (hstart.bind fun _ => leads_pure) s
  | release =>
      exact ((Paces.reserved.release (hcontrol fun _ => rfl)).bind fun _ => leads_pure) s
  | setSuspend suspend suspendStartTimeUs =>
      have hsuspend := Paces.reserved.setSuspend Paces.repeatLatestBuffer_l
        (fun _ _ => hcontrol fun _ => rfl) (fun _ => hcontrol fun _ => rfl)
        suspend suspendStartTimeUs
      exact (hsuspend.bind fun _ => leads_pure) s
  | setStartTimeUs skipFramesBeforeUs =>
      have hstart := leads_setStartTimeUs (R := Paces) (fun _ => hcontrol fun _ => rfl)
        skipFramesBeforeUs
      exact (hstart.bind fun _ => leads_pure) s
  | setStopTimeUs stopTimeUs =>
      have hstop := leads_setStopTimeUs (R := Paces) (fun _ => hcontrol fun _ => rfl)
        stopTimeUs
      exact (hstop.bind fun _ => leads_pure) s
  | setTimeOffsetUs timeOffsetUs =>
      unfold perform Bqhelper.setTimeOffsetUs
      rw [sat_bind, sat_ite]
      refine ⟨fun _ => Paces.refl s, fun hneg => ?_⟩
      rw [sat_bind, sat_modifyControl, sat_pure, sat_pure]
      have hidles := Pace.Idles.setTimeOffsetUs (p := s.pace) timeOffsetUs
      rw [CodecClock.setTimeOffsetUs, if_neg hneg] at hidles
      refine .of_idles ?_ hidles
      rfl
  | setMaxFps maxFps =>
      have hexecuting : s.mExecuting = true := by
        simpa using (show (!s.mExecuting) = false from h)
      unfold perform setMaxFps
      rw [sat_bind, sat_bind, sat_get, if_pos hexecuting]
      exact Paces.refl s
  | setTimeLapseConfig fps captureFps =>
      have hexecuting : s.mExecuting = true := by
        simpa using (show (!s.mExecuting) = false from h)
      unfold perform setTimeLapseConfig
      rw [sat_bind, sat_bind, sat_get, hexecuting]
      exact Paces.refl s
  | _ => exact hordinary rfl s

theorem exec_paces {r : Request} (h : KeepsRates s r) :
    Sat (exec r) (fun _ t => Paces s t) (fun _ t => Paces s t) s := by
  cases r with
  | queueFrame item =>
      unfold exec
      rw [sat_bind, sat_modifyBuffers]
      exact (Still.of_mute (.of_event rfl rfl)).paces
  | call op answers =>
      unfold exec
      rw [sat_bind, sat_modifyControl]
      exact perform_paces h

end Bqhelper
end Sm7225
