import Sm7225.Lib.Run
import Sm7225.Audio.Types

/-!
# The call state of the vendor

{lit}`PrimaryDevice::setMode` reads two properties that tell for each SIM whether
it is in a call, and pushes the call state to the vendor before it passes on the
mode.
-/

namespace Sm7225
namespace Audio

open Lib

/-- {lit}`AudioMode`.  Every other number of the interface is reserved. -/
inductive AudioMode where
  | NORMAL
  | RINGTONE
  | IN_CALL
  | IN_COMMUNICATION
  | CALL_SCREEN
  | reserved (code : Int)
  deriving DecidableEq, Repr

/-- The values of {lit}`vendor.calls.ongoing0` and {lit}`vendor.calls.ongoing1`,
empty for a property that was never set. -/
structure SimSlots where
  simSlot1 : String
  simSlot2 : String
  deriving DecidableEq, Repr

/-- One call of {lit}`setMode`, with what it meets: the values of the properties
each time it reads them, and the answer of the vendor to the mode. -/
structure SetMode where
  mode : AudioMode
  reads : List SimSlots
  status : Int
  deriving DecidableEq, Repr

/-- The calls into the vendor's device. -/
inductive HalCall where
  | set_parameters (keysAndValues : String)
  | set_mode (mode : AudioMode)
  deriving DecidableEq, Repr

structure PrimaryDevice where
  halCalls : List HalCall
  deriving DecidableEq, Repr

/-- A call that has not returned: it waits for a SIM to report a call. -/
inductive Waiting where
  | waiting
  deriving DecidableEq, Repr

/-!
# setMode
-/

def SimSlots.bothZero (slots : SimSlots) : Bool :=
  slots.simSlot1 == "0" && slots.simSlot2 == "0"

def waitForCall : List SimSlots -> Option SimSlots
  | [] => none
  | slots :: rest => if slots.bothZero then waitForCall rest else some slots

/-- The values that decide on the call state. -/
def readSlots (call : SetMode) : Option SimSlots :=
  if call.mode = .IN_CALL then waitForCall call.reads else call.reads.head?

def callOnSim1 : String := "call_state=2;g_call_state=2;g_call_sim_slot=0x01"

def callOnSim2 : String := "call_state=2;g_call_state=2;g_call_sim_slot=0x02"

def noCall : String := "call_state=1;g_call_state=1"

/-- The parameters that are pushed for the values, if any. -/
def SimSlots.callState (slots : SimSlots) : Option String :=
  if slots.simSlot1 = "1" then some callOnSim1
  else if slots.simSlot2 = "1" then some callOnSim2
  else if slots.simSlot1 = "0" ∧ slots.simSlot2 = "0" then some noCall
  else none

/-- The {lit}`switch` over the valid modes, for a major version of the
interface. -/
def AudioMode.valid (majorVersion : Nat) : AudioMode -> Bool
  | .NORMAL | .RINGTONE | .IN_CALL | .IN_COMMUNICATION => true
  | .CALL_SCREEN => decide (6 <= majorVersion)
  | .reserved _ => false

def PrimaryDevice.call (device : PrimaryDevice) (halCall : HalCall) :
    PrimaryDevice :=
  { device with halCalls := device.halCalls ++ [halCall] }

def halSetParameters (keysAndValues : String) :
    EStateM Waiting PrimaryDevice Unit :=
  modify fun device => device.call (.set_parameters keysAndValues)

def setMode (majorVersion : Nat) (call : SetMode) :
    EStateM Waiting PrimaryDevice Result := do
  match readSlots call with
  | none => throw .waiting
  | some slots =>
      match slots.callState with
      | none => pure ()
      | some keysAndValues => halSetParameters keysAndValues
      if call.mode.valid majorVersion then
        modify fun device => device.call (.set_mode call.mode)
        return analyzeStatus call.status
      else
        return .invalidArguments

/-!
# What a call promises
-/

/-- The strings pushed with {lit}`halSetParameters`, oldest first. -/
def HalCall.pushed? : HalCall -> Option String
  | .set_parameters keysAndValues => some keysAndValues
  | .set_mode _ => none

def PrimaryDevice.pushed (device : PrimaryDevice) : List String :=
  device.halCalls.filterMap HalCall.pushed?

def PrimaryDevice.lastPushed (device : PrimaryDevice) : Option String :=
  device.pushed.getLast?

/-- A SIM whose property reads {lit}`1` is in a call. -/
def SimSlots.SomeCall (slots : SimSlots) : Prop :=
  slots.simSlot1 = "1" ∨ slots.simSlot2 = "1"

def SimSlots.NoCall (slots : SimSlots) : Prop :=
  slots.simSlot1 = "0" ∧ slots.simSlot2 = "0"

/-- The values that a call reads last: in a call mode it does not stop at two
zeros. -/
def SetMode.lastRead (call : SetMode) : Option SimSlots :=
  call.reads.find? fun slots => call.mode ≠ .IN_CALL || !slots.bothZero

/-- The call state that the vendor knows follows the mode. -/
structure CallStateFollows (majorVersion : Nat) (before : PrimaryDevice)
    (call : SetMode) (result : Result) (after : PrimaryDevice) : Prop where
  inCall : call.mode = .IN_CALL -> exists slots, call.lastRead = some slots ∧
    (slots.simSlot1 = "1" ∧ after.lastPushed = some callOnSim1 ∨
      slots.simSlot2 = "1" ∧ after.lastPushed = some callOnSim2)
  otherMode : call.mode ≠ .IN_CALL -> call.mode.valid majorVersion = true ->
    forall slots, call.lastRead = some slots -> ¬ slots.SomeCall ->
      after.lastPushed = some noCall
  rejected : result = .invalidArguments -> after.pushed = before.pushed

/-- The result is {lit}`INVALID_ARGUMENTS`: the mode is not valid, or the vendor
does not take it. -/
def SetMode.Rejected (majorVersion : Nat) (call : SetMode) : Prop :=
  call.mode.valid majorVersion = false ∨ call.status = -EINVAL

/-- When the call state follows the mode.  A call mode needs a SIM that reads
{lit}`1` (with the second property unset, the wait can end without one).  Another
mode needs two zeros, or a vendor that knows already that there is no call.  A
rejected call must have read values that push nothing. -/
structure CallStateCondition (majorVersion : Nat) (before : PrimaryDevice)
    (call : SetMode) : Prop where
  inCall : call.mode = .IN_CALL ->
    forall slots, call.lastRead = some slots -> slots.SomeCall
  otherMode : call.mode ≠ .IN_CALL -> call.mode.valid majorVersion = true ->
    forall slots, call.lastRead = some slots -> ¬ slots.SomeCall ->
      slots.NoCall ∨ before.lastPushed = some noCall
  rejected : call.Rejected majorVersion ->
    forall slots, call.lastRead = some slots -> ¬ slots.SomeCall ∧ ¬ slots.NoCall

/-!
# Proofs
-/

theorem waitForCall_eq_find? (reads : List SimSlots) :
    waitForCall reads = reads.find? fun slots => !slots.bothZero := by
  induction reads with
  | nil => rfl
  | cons slots rest ih =>
      rw [waitForCall, List.find?_cons, ih]
      cases slots.bothZero <;> rfl

theorem readSlots_eq_lastRead (call : SetMode) : readSlots call = call.lastRead := by
  unfold readSlots SetMode.lastRead
  by_cases hmode : call.mode = .IN_CALL
  · rw [if_pos hmode, waitForCall_eq_find?]
    simp [hmode]
  · rw [if_neg hmode]
    cases call.reads with
    | nil => rfl
    | cons slots rest => simp [hmode]

theorem setMode_sat (majorVersion : Nat) (call : SetMode) (before : PrimaryDevice) :
    Sat (setMode majorVersion call)
      (fun result after => exists slots, call.lastRead = some slots ∧
        after.pushed = before.pushed ++ slots.callState.toList ∧
        (result = .invalidArguments <-> call.Rejected majorVersion))
      (fun _ after => call.lastRead = none ∧ after = before) before := by
  unfold setMode
  rw [readSlots_eq_lastRead]
  cases hread : call.lastRead with
  | none => exact ⟨rfl, rfl⟩
  | some slots =>
      simp only
      have hresult : call.mode.valid majorVersion = true ->
          (analyzeStatus call.status = .invalidArguments <->
            call.Rejected majorVersion) := by
        intro hvalid
        rw [analyzeStatus_eq_invalidArguments_iff, SetMode.Rejected, hvalid]
        simp
      cases hstate : slots.callState with
      | none =>
          simp only
          rw [sat_ite]
          constructor
          · intro hvalid
            refine ⟨slots, rfl, ?_, hresult hvalid⟩
            simp [PrimaryDevice.pushed, PrimaryDevice.call, HalCall.pushed?, hstate]
          · intro hinvalid
            refine ⟨slots, rfl, ?_, ?_⟩
            · simp [hstate]
            · simp [SetMode.Rejected, hinvalid]
      | some keysAndValues =>
          simp only [halSetParameters]
          rw [sat_bind, sat_modify, sat_ite]
          constructor
          · intro hvalid
            refine ⟨slots, rfl, ?_, hresult hvalid⟩
            simp [PrimaryDevice.pushed, PrimaryDevice.call, HalCall.pushed?, hstate]
          · intro hinvalid
            refine ⟨slots, rfl, ?_, ?_⟩
            · simp [PrimaryDevice.pushed, PrimaryDevice.call, HalCall.pushed?, hstate]
            · simp [SetMode.Rejected, hinvalid]

theorem SimSlots.callState_of_someCall {slots : SimSlots} (h : slots.SomeCall) :
    slots.simSlot1 = "1" ∧ slots.callState = some callOnSim1 ∨
      slots.simSlot2 = "1" ∧ slots.callState = some callOnSim2 := by
  unfold SimSlots.callState
  by_cases hsim1 : slots.simSlot1 = "1"
  · left
    exact ⟨hsim1, if_pos hsim1⟩
  · right
    have hsim2 : slots.simSlot2 = "1" := h.resolve_left hsim1
    exact ⟨hsim2, by rw [if_neg hsim1, if_pos hsim2]⟩

theorem SimSlots.callState_of_not_someCall {slots : SimSlots}
    (h : ¬ slots.SomeCall) :
    slots.NoCall ∧ slots.callState = some noCall ∨
      ¬ slots.NoCall ∧ slots.callState = none := by
  have hsim1 : slots.simSlot1 ≠ "1" := fun hone => h (.inl hone)
  have hsim2 : slots.simSlot2 ≠ "1" := fun hone => h (.inr hone)
  unfold SimSlots.callState
  rw [if_neg hsim1, if_neg hsim2]
  by_cases hzero : slots.NoCall
  · left
    exact ⟨hzero, if_pos hzero⟩
  · right
    exact ⟨hzero, if_neg hzero⟩

theorem SimSlots.callState_eq_none_iff (slots : SimSlots) :
    slots.callState = none <-> ¬ slots.SomeCall ∧ ¬ slots.NoCall := by
  by_cases hcall : slots.SomeCall
  · have hsome : slots.callState ≠ none := by
      rcases SimSlots.callState_of_someCall hcall with h | h
      · rw [h.2]
        exact Option.some_ne_none _
      · rw [h.2]
        exact Option.some_ne_none _
    exact iff_of_false hsome fun h => h.1 hcall
  · rcases SimSlots.callState_of_not_someCall hcall with h | h
    · rw [h.2]
      exact iff_of_false (Option.some_ne_none _) fun hnone => hnone.2 h.1
    · exact iff_of_true h.2 ⟨hcall, h.1⟩

section Step

variable {majorVersion : Nat} {call : SetMode} {before after : PrimaryDevice}
variable {result : Result} {slots : SimSlots}

theorem lastPushed_of_pushed
    (hpushed : after.pushed = before.pushed ++ slots.callState.toList) :
    after.lastPushed = slots.callState.or before.lastPushed := by
  unfold PrimaryDevice.lastPushed
  rw [hpushed, List.getLast?_append]
  cases slots.callState <;> rfl

theorem callStateFollows_iff (hread : call.lastRead = some slots)
    (hpushed : after.pushed = before.pushed ++ slots.callState.toList)
    (hresult : result = .invalidArguments <-> call.Rejected majorVersion) :
    CallStateFollows majorVersion before call result after <->
      CallStateCondition majorVersion before call := by
  have hlast := lastPushed_of_pushed hpushed
  have hsame : forall other, call.lastRead = some other -> other = slots := by
    intro other hother
    rw [hread] at hother
    exact (Option.some.inj hother).symm
  have hsilent : after.pushed = before.pushed <-> slots.callState = none := by
    rw [hpushed]
    cases slots.callState <;> simp
  constructor
  · intro h
    constructor
    · intro hmode other hother
      rw [hsame other hother]
      rcases h.inCall hmode with ⟨read, hslots, hcases⟩
      rw [hsame read hslots] at hcases
      exact hcases.imp And.left And.left
    · intro hmode hvalid other hother hquiet
      rw [hsame other hother] at hquiet ⊢
      have hnone := h.otherMode hmode hvalid slots hread hquiet
      rcases SimSlots.callState_of_not_someCall hquiet with hstate | hstate
      · exact .inl hstate.1
      · rw [hlast, hstate.2] at hnone
        exact .inr hnone
    · intro hrejected other hother
      rw [hsame other hother]
      rw [← SimSlots.callState_eq_none_iff, ← hsilent]
      exact h.rejected (hresult.mpr hrejected)
  · intro h
    constructor
    · intro hmode
      exists slots
      refine ⟨hread, ?_⟩
      rw [hlast]
      rcases SimSlots.callState_of_someCall (h.inCall hmode slots hread) with
        hstate | hstate
      · exact .inl ⟨hstate.1, by rw [hstate.2]; rfl⟩
      · exact .inr ⟨hstate.1, by rw [hstate.2]; rfl⟩
    · intro hmode hvalid other hother hquiet
      rw [hsame other hother] at hquiet
      rw [hlast]
      rcases SimSlots.callState_of_not_someCall hquiet with hstate | hstate
      · rw [hstate.2]
        rfl
      · have hknown := (h.otherMode hmode hvalid slots hread hquiet).resolve_left
          hstate.1
        rw [hstate.2, hknown]
        rfl
    · intro hinvalid
      rw [hsilent, SimSlots.callState_eq_none_iff]
      exact h.rejected (hresult.mp hinvalid) slots hread

end Step

theorem setMode_follows_iff (majorVersion : Nat) (call : SetMode)
    (before : PrimaryDevice) :
    Sat (setMode majorVersion call)
        (fun result after =>
          CallStateFollows majorVersion before call result after)
        (fun _ _ => True) before <->
      CallStateCondition majorVersion before call := by
  have hcall := setMode_sat majorVersion call before
  cases hrun : setMode majorVersion call before with
  | ok result after =>
      rw [sat_of_ok hrun] at hcall ⊢
      rcases hcall with ⟨slots, hread, hpushed, hresult⟩
      exact callStateFollows_iff hread hpushed hresult
  | error e after =>
      rw [sat_of_error hrun] at hcall ⊢
      have hnone : forall slots, call.lastRead ≠ some slots := by
        intro slots hslots
        rw [hcall.1] at hslots
        cases hslots
      constructor
      · intro _
        constructor
        · intro _ slots hslots
          exact absurd hslots (hnone slots)
        · intro _ _ slots hslots
          exact absurd hslots (hnone slots)
        · intro _ slots hslots
          exact absurd hslots (hnone slots)
      · intro _
        trivial

/-- In a sequence of calls, the call state follows the mode after every call that
returns if and only if every call meets its condition. -/
theorem callState_follows_iff (majorVersion : Nat) (calls : List SetMode)
    (device : PrimaryDevice) :
    EachReply (setMode majorVersion) (CallStateFollows majorVersion) calls device <->
      Along (setMode majorVersion) (CallStateCondition majorVersion) calls
        device :=
  eachReply_iff_along
    (fun before call => setMode_follows_iff majorVersion call before) calls device

/-- A call mode with one SIM idle and the property of the other never set: the wait
ends at once. -/
def secondSimUnset : SetMode where
  mode := .IN_CALL
  reads := [{ simSlot1 := "0", simSlot2 := "" }]
  status := 0

theorem secondSimUnset_pushes_nothing :
    ¬ EachReply (setMode 6) (CallStateFollows 6) [secondSimUnset]
      { halCalls := [] } := by
  intro h
  have hcall : CallStateFollows 6 { halCalls := [] } secondSimUnset .ok
      { halCalls := [.set_mode .IN_CALL] } := h.1
  rcases hcall.inCall rfl with ⟨slots, hread, hcases⟩
  have hslots : slots = { simSlot1 := "0", simSlot2 := "" } :=
    (Option.some.inj hread).symm
  rw [hslots] at hcases
  revert hcases
  decide

end Audio
end Sm7225
