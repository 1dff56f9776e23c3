import Sm7225.Lib.Compact
import Sm7225.Audio.Streams

/-!
# Audio patches

Before an audio patch is created or updated, the SCO devices are taken out of its sinks
if the speaker is among them too.
-/

namespace Sm7225
namespace Audio

open Lib

inductive AudioPortType where
  | none
  | device
  | mix
  | session
  deriving DecidableEq, Repr

def AUDIO_DEVICE_OUT_SPEAKER : UInt32 := 0x2

/-- A port of a patch.  Its other fields are only copied. -/
structure AudioPortConfig (ρ : Type) where
  type : AudioPortType
  -- ext.device.type, which has a meaning for devices only
  deviceType : UInt32
  rest : ρ
  deriving DecidableEq, Repr

instance {ρ : Type} [Inhabited ρ] : Inhabited (AudioPortConfig ρ) :=
  ⟨{ type := .none, deviceType := 0, rest := default }⟩

def isScoDevice (t : UInt32) : Bool :=
  decide (t = AUDIO_DEVICE_OUT_BLUETOOTH_SCO_HEADSET ∨
    t = AUDIO_DEVICE_OUT_BLUETOOTH_SCO ∨ t = AUDIO_DEVICE_OUT_BLUETOOTH_SCO_CARKIT)

section Ports

variable {ρ : Type}

namespace AudioPortConfig

def isSpeaker (port : AudioPortConfig ρ) : Bool :=
  decide (port.type = .device) && decide (port.deviceType = AUDIO_DEVICE_OUT_SPEAKER)

def isSco (port : AudioPortConfig ρ) : Bool :=
  decide (port.type = .device) && isScoDevice port.deviceType

end AudioPortConfig

/-- The first loop of {lit}`dropScoSinksWhenPairedWithSpeaker`: {lit}`hasSpeaker` and
{lit}`hasSco`. -/
def findDevices : List (AudioPortConfig ρ) -> Bool × Bool -> Bool × Bool
  | [], found => found
  | port :: ports, found =>
      if port.type ≠ .device then
        findDevices ports found
      else
        findDevices ports
          (if port.deviceType = AUDIO_DEVICE_OUT_SPEAKER then true else found.1,
            if isScoDevice port.deviceType then true else found.2)

/-- {lit}`dropScoSinksWhenPairedWithSpeaker`: the new value of {lit}`*ports`. -/
def dropScoSinksWhenPairedWithSpeaker [Inhabited ρ] (ports : List (AudioPortConfig ρ)) :
    List (AudioPortConfig ρ) :=
  let found := findDevices ports (false, false)
  if !(found.1 && found.2) then
    ports
  else
    let filtered := compact (fun port => !port.isSco) ports (resize [] ports.length) 0
    resize filtered.1 filtered.2

end Ports

/-!
# The vendor
-/

def AUDIO_DEVICE_API_VERSION_3_0 : Nat := 0x0300

structure PatchCall (HalPort : Type) where
  num_sources : Nat
  sources : List HalPort
  num_sinks : Nat
  sinks : List HalPort
  handle : Int
  deriving DecidableEq, Repr

/-- What the service calls: the conversion of ports, with its status, and the vendor's
device, which answers with a status and a handle. -/
structure PatchDevice (ρ HalPort : Type) where
  version : Nat
  audioPortConfigsToHal : List (AudioPortConfig ρ) -> Int × List HalPort
  create_audio_patch : PatchCall HalPort -> Int × Int

/-- The lists of one call: those of the caller, and the copy of the sinks. -/
structure PatchPorts (ρ : Type) where
  sources : List (AudioPortConfig ρ)
  sinks : List (AudioPortConfig ρ)
  mappedSinks : List (AudioPortConfig ρ)
  deriving DecidableEq, Repr

/-- What a call returns, and the call that it made to the vendor. -/
structure PatchOutcome (ρ HalPort : Type) where
  retval : Result
  patch : Int
  call : Option (PatchCall HalPort)
  ports : PatchPorts ρ
  deriving DecidableEq, Repr

section Patches

variable {ρ HalPort : Type} [Inhabited ρ]

def createOrUpdateAudioPatch (dev : PatchDevice ρ HalPort) (patch : Int)
    (ports : PatchPorts ρ) : PatchOutcome ρ HalPort :=
  if AUDIO_DEVICE_API_VERSION_3_0 <= dev.version then
    let halSources := dev.audioPortConfigsToHal ports.sources
    if halSources.1 ≠ 0 then
      { retval := analyzeStatus halSources.1, patch := patch, call := none, ports := ports }
    else
      let ports := { ports with mappedSinks := ports.sinks }
      let ports := { ports with
        mappedSinks := dropScoSinksWhenPairedWithSpeaker ports.mappedSinks }
      let halSinks := dev.audioPortConfigsToHal ports.mappedSinks
      if halSinks.1 ≠ 0 then
        { retval := analyzeStatus halSinks.1, patch := patch, call := none, ports := ports }
      else
        let call : PatchCall HalPort := {
          num_sources := ports.sources.length
          sources := halSources.2
          num_sinks := ports.mappedSinks.length
          sinks := halSinks.2
          handle := patch }
        let answer := dev.create_audio_patch call
        let retval := analyzeStatus answer.1
        { retval := retval
          patch := if retval = .ok then answer.2 else patch
          call := some call
          ports := ports }
  else
    { retval := .notSupported, patch := patch, call := none, ports := ports }

def noPatch : Int := 0

def createAudioPatch (dev : PatchDevice ρ HalPort) (ports : PatchPorts ρ) :
    PatchOutcome ρ HalPort :=
  createOrUpdateAudioPatch dev noPatch ports

def updateAudioPatch (dev : PatchDevice ρ HalPort) (previousPatch : Int)
    (ports : PatchPorts ρ) : PatchOutcome ρ HalPort :=
  if previousPatch ≠ noPatch then
    createOrUpdateAudioPatch dev previousPatch ports
  else
    { retval := .invalidArguments, patch := previousPatch, call := none, ports := ports }

end Patches

/-!
# The sinks that the vendor gets
-/

section Sinks

variable {ρ : Type} {ports : List (AudioPortConfig ρ)}

/-- The sinks without SCO devices if there is a speaker too, and all sinks if not. -/
def sinksForHal (sinks : List (AudioPortConfig ρ)) : List (AudioPortConfig ρ) :=
  if sinks.any AudioPortConfig.isSpeaker && sinks.any AudioPortConfig.isSco then
    sinks.filter fun port => !port.isSco
  else
    sinks

theorem if_true_or (c : Prop) [Decidable c] (b : Bool) :
    (if c then true else b) = (b || decide c) := by
  by_cases hc : c
  · rw [if_pos hc, decide_eq_true hc, Bool.or_true]
  · rw [if_neg hc, decide_eq_false hc, Bool.or_false]

theorem findDevices_eq (found : Bool × Bool) :
    findDevices ports found = (found.1 || ports.any AudioPortConfig.isSpeaker,
      found.2 || ports.any AudioPortConfig.isSco) := by
  induction ports generalizing found with
  | nil => simp [findDevices]
  | cons port ports ih =>
      unfold findDevices
      unfold AudioPortConfig.isSpeaker AudioPortConfig.isSco at ih ⊢
      by_cases htype : port.type = .device
      · rw [if_neg (not_not.mpr htype), ih, List.any_cons, List.any_cons,
          decide_eq_true htype, Bool.true_and, Bool.true_and, ← Bool.or_assoc,
          ← Bool.or_assoc, if_true_or, if_true_or, Bool.decide_eq_true]
      · rw [if_pos htype, ih, List.any_cons, List.any_cons, decide_eq_false htype,
          Bool.false_and, Bool.false_and, Bool.false_or, Bool.false_or]

theorem dropScoSinksWhenPairedWithSpeaker_eq [Inhabited ρ]
    (ports : List (AudioPortConfig ρ)) :
    dropScoSinksWhenPairedWithSpeaker ports = sinksForHal ports := by
  unfold dropScoSinksWhenPairedWithSpeaker sinksForHal
  rw [findDevices_eq, Bool.false_or, Bool.false_or]
  dsimp only
  by_cases hboth :
      (ports.any AudioPortConfig.isSpeaker && ports.any AudioPortConfig.isSco) = true
  · have hroom : ports.length <=
        (resize ([] : List (AudioPortConfig ρ)) ports.length).length := by
      simp [resize]
    rw [if_pos hboth, hboth, if_neg (by simp), resize_compact hroom]
  · rw [Bool.not_eq_true] at hboth
    rw [hboth]
    rfl

theorem isSco_of_isSpeaker {port : AudioPortConfig ρ} (h : port.isSpeaker = true) :
    port.isSco = false := by
  unfold AudioPortConfig.isSpeaker at h
  rw [Bool.and_eq_true, decide_eq_true_eq, decide_eq_true_eq] at h
  have hspeaker : isScoDevice AUDIO_DEVICE_OUT_SPEAKER = false := rfl
  unfold AudioPortConfig.isSco
  rw [h.2, hspeaker, Bool.and_false]

structure Filtered (sinks filtered : List (AudioPortConfig ρ)) : Prop where
  apart : ¬(filtered.any AudioPortConfig.isSpeaker = true ∧
    filtered.any AudioPortConfig.isSco = true)
  order : filtered.Sublist sinks
  others : filtered.filter (fun port => port.type != .device) =
    sinks.filter fun port => port.type != .device
  nonempty : sinks ≠ [] -> filtered ≠ []
  again : sinksForHal filtered = filtered

theorem not_any_isSco_filter (ports : List (AudioPortConfig ρ)) :
    (ports.filter fun port => !port.isSco).any AudioPortConfig.isSco = false := by
  rw [List.any_eq_false]
  intro port hport
  have hkept := (List.mem_filter.mp hport).2
  simpa using hkept

theorem sinksForHal_filtered (sinks : List (AudioPortConfig ρ)) :
    Filtered sinks (sinksForHal sinks) := by
  unfold sinksForHal
  by_cases hboth :
      (sinks.any AudioPortConfig.isSpeaker && sinks.any AudioPortConfig.isSco) = true
  · rw [if_pos hboth]
    have hnone := not_any_isSco_filter sinks
    constructor
    · intro h
      rw [hnone] at h
      cases h.2
    · exact List.filter_sublist
    · rw [List.filter_filter]
      apply List.filter_congr
      intro port _
      cases htype : port.type with
      | device => rfl
      | _ => simp [AudioPortConfig.isSco, htype]
    · intro _ hnil
      -- the speaker stays
      rw [Bool.and_eq_true, List.any_eq_true] at hboth
      rcases hboth.1 with ⟨speaker, hmem, hspeaker⟩
      have hkept : speaker ∈ sinks.filter fun port => !port.isSco := by
        apply List.mem_filter.mpr
        rw [isSco_of_isSpeaker hspeaker]
        exact ⟨hmem, rfl⟩
      rw [hnil] at hkept
      cases hkept
    · unfold sinksForHal
      rw [hnone, Bool.and_false, if_neg Bool.false_ne_true]
  · rw [if_neg hboth]
    constructor
    · intro h
      rw [h.1, h.2] at hboth
      exact hboth rfl
    · exact List.Sublist.refl _
    · rfl
    · exact id
    · unfold sinksForHal
      rw [if_neg hboth]

end Sinks

/-!
# Patches
-/

section Patches

variable {ρ HalPort : Type} [Inhabited ρ]

/-- A conversion that succeeds makes one port of the vendor for each port. -/
def ConvertsEach (dev : PatchDevice ρ HalPort)
    (describes : HalPort -> AudioPortConfig ρ -> Prop) : Prop :=
  forall ports, (dev.audioPortConfigsToHal ports).1 = 0 ->
    List.Forall₂ describes (dev.audioPortConfigsToHal ports).2 ports

/-- What the vendor gets for these ports. -/
structure DescribesPorts (describes : HalPort -> AudioPortConfig ρ -> Prop) (patch : Int)
    (ports : PatchPorts ρ) (call : PatchCall HalPort) : Prop where
  sinks : List.Forall₂ describes call.sinks (sinksForHal ports.sinks)
  num_sinks : call.num_sinks = (sinksForHal ports.sinks).length
  sources : List.Forall₂ describes call.sources ports.sources
  num_sources : call.num_sources = ports.sources.length
  handle : call.handle = patch

/-- The vendor is new enough and both lists can be converted. -/
structure ReachesVendor (dev : PatchDevice ρ HalPort) (ports : PatchPorts ρ) : Prop where
  version : AUDIO_DEVICE_API_VERSION_3_0 <= dev.version
  sources : (dev.audioPortConfigsToHal ports.sources).1 = 0
  sinks : (dev.audioPortConfigsToHal (sinksForHal ports.sinks)).1 = 0

/-- What a call with these ports does; the vendor is called if {lit}`wanted` holds. -/
structure PassesSinks (dev : PatchDevice ρ HalPort)
    (describes : HalPort -> AudioPortConfig ρ -> Prop) (wanted : Prop) (patch : Int)
    (ports : PatchPorts ρ) (outcome : PatchOutcome ρ HalPort) : Prop where
  called : outcome.call.isSome = true <-> wanted
  call : forall call, outcome.call = some call -> DescribesPorts describes patch ports call
  sources : outcome.ports.sources = ports.sources
  sinks : outcome.ports.sinks = ports.sinks
  patch : outcome.patch ≠ patch -> exists call, outcome.call = some call ∧
    (dev.create_audio_patch call).1 = 0
  answered : forall call, outcome.call = some call -> (dev.create_audio_patch call).1 = 0 ->
    outcome.retval = .ok ∧ outcome.patch = (dev.create_audio_patch call).2

theorem analyzeStatus_eq_ok {status : Int} (h : analyzeStatus status = .ok) :
    status = 0 := by
  unfold analyzeStatus at h
  by_contra hne
  rw [if_neg hne] at h
  grind

section Calls

variable {dev : PatchDevice ρ HalPort} {describes : HalPort -> AudioPortConfig ρ -> Prop}

omit [Inhabited ρ] in
theorem passesSinks_of_no_call {wanted : Prop} {patch : Int} {ports : PatchPorts ρ}
    {outcome : PatchOutcome ρ HalPort} (hwanted : ¬ wanted) (hcall : outcome.call = none)
    (hsources : outcome.ports.sources = ports.sources)
    (hsinks : outcome.ports.sinks = ports.sinks) (hpatch : outcome.patch = patch) :
    PassesSinks dev describes wanted patch ports outcome := by
  have hnever : forall call, outcome.call = some call -> False := by
    intro call hsome
    rw [hcall] at hsome
    cases hsome
  constructor
  · rw [hcall]
    exact ⟨nofun, fun h => absurd h hwanted⟩
  · intro call hsome
    exact absurd hsome (hnever call)
  · exact hsources
  · exact hsinks
  · intro hne
    exact absurd hpatch hne
  · intro call hsome
    exact absurd hsome (hnever call)

theorem createOrUpdateAudioPatch_passes (hconverts : ConvertsEach dev describes)
    (patch : Int) (ports : PatchPorts ρ) :
    PassesSinks dev describes (ReachesVendor dev ports) patch ports
      (createOrUpdateAudioPatch dev patch ports) := by
  unfold createOrUpdateAudioPatch
  dsimp only
  split
  · next hversion =>
      split
      · next hfailed =>
          refine passesSinks_of_no_call ?_ rfl rfl rfl rfl
          intro h
          exact hfailed h.sources
      · next hsources =>
          rw [not_not] at hsources
          rw [dropScoSinksWhenPairedWithSpeaker_eq]
          split
          · next hfailed =>
              refine passesSinks_of_no_call ?_ rfl rfl rfl rfl
              intro h
              exact hfailed h.sinks
          · next hsinks =>
              rw [not_not] at hsinks
              constructor
              · exact ⟨fun _ => ⟨hversion, hsources, hsinks⟩, fun _ => rfl⟩
              · intro call hcall
                injection hcall with hcall
                rw [← hcall]
                exact ⟨hconverts _ hsinks, rfl, hconverts _ hsources, rfl, rfl⟩
              · rfl
              · rfl
              · intro hne
                refine ⟨_, rfl, ?_⟩
                apply analyzeStatus_eq_ok
                by_contra hfailed
                exact hne (if_neg hfailed)
              · intro call hcall hanswer
                injection hcall with hcall
                rw [← hcall] at hanswer ⊢
                have hok : analyzeStatus (0 : Int) = .ok := rfl
                dsimp only
                rw [hanswer, hok, if_pos rfl]
                exact ⟨rfl, rfl⟩
  · next hold =>
      refine passesSinks_of_no_call ?_ rfl rfl rfl rfl
      intro h
      exact hold h.version

end Calls

/-- Creating or updating a patch hands the filtered sinks to the vendor, whenever it is
new enough, the ports can be converted and there is a patch to update, and filtering keeps
everything but SCO devices beside a speaker. -/
theorem patches_pass_sinks (dev : PatchDevice ρ HalPort)
    (describes : HalPort -> AudioPortConfig ρ -> Prop)
    (hconverts : ConvertsEach dev describes) (previousPatch : Int) (ports : PatchPorts ρ) :
    PassesSinks dev describes (ReachesVendor dev ports) noPatch ports
        (createAudioPatch dev ports) ∧
      PassesSinks dev describes (previousPatch ≠ noPatch ∧ ReachesVendor dev ports)
        previousPatch ports (updateAudioPatch dev previousPatch ports) ∧
        Filtered ports.sinks (sinksForHal ports.sinks) := by
  refine ⟨createOrUpdateAudioPatch_passes hconverts noPatch ports, ?_,
    sinksForHal_filtered ports.sinks⟩
  unfold updateAudioPatch
  split
  · next hpatch =>
      have hpasses := createOrUpdateAudioPatch_passes hconverts previousPatch ports
      constructor
      · rw [hpasses.called]
        exact ⟨fun h => ⟨hpatch, h⟩, fun h => h.2⟩
      · exact hpasses.call
      · exact hpasses.sources
      · exact hpasses.sinks
      · exact hpasses.patch
      · exact hpasses.answered
  · next hnone =>
      refine passesSinks_of_no_call ?_ rfl rfl rfl rfl
      intro h
      exact hnone h.1

/-- A vendor that takes every patch, and gets the ports as they are. -/
def willingDevice : PatchDevice Nat (AudioPortConfig Nat) where
  version := AUDIO_DEVICE_API_VERSION_3_0
  audioPortConfigsToHal := fun ports => (0, ports)
  create_audio_patch := fun _ => (0, 7)

/-- A ringtone to a headset, a mix, and the speaker. -/
def ringtonePorts : PatchPorts Nat where
  sources := [{ type := .mix, deviceType := 0, rest := 1 }]
  sinks := [
    { type := .device
      deviceType := AUDIO_DEVICE_OUT_BLUETOOTH_SCO_HEADSET
      rest := 2 },
    { type := .mix
      deviceType := AUDIO_DEVICE_OUT_BLUETOOTH_SCO_HEADSET
      rest := 3 },
    { type := .device
      deviceType := AUDIO_DEVICE_OUT_SPEAKER
      rest := 4 }]
  mappedSinks := []

/-- What the vendor gets for the ringtone. -/
def ringtoneCall (handle : Int) : PatchCall (AudioPortConfig Nat) where
  num_sources := 1
  sources := ringtonePorts.sources
  num_sinks := 2
  sinks := ringtonePorts.sinks.tail
  handle := handle

theorem patches_pass_sinks_ringtone :
    PassesSinks willingDevice Eq (ReachesVendor willingDevice ringtonePorts) noPatch
        ringtonePorts (createAudioPatch willingDevice ringtonePorts) ∧
      PassesSinks willingDevice Eq (5 ≠ noPatch ∧ ReachesVendor willingDevice ringtonePorts)
        5 ringtonePorts (updateAudioPatch willingDevice 5 ringtonePorts) ∧
        (createAudioPatch willingDevice ringtonePorts).call = some (ringtoneCall 0) ∧
        (updateAudioPatch willingDevice 5 ringtonePorts).call = some (ringtoneCall 5) ∧
        (updateAudioPatch willingDevice 5 ringtonePorts).patch = 7 := by
  have hconverts : ConvertsEach willingDevice Eq := by
    intro ports _
    exact List.forall₂_eq_eq_eq ▸ rfl
  have h := patches_pass_sinks willingDevice Eq hconverts 5 ringtonePorts
  have hcreate : (createAudioPatch willingDevice ringtonePorts).call =
      some (ringtoneCall 0) := by decide +kernel
  have hupdate : (updateAudioPatch willingDevice 5 ringtonePorts).call =
      some (ringtoneCall 5) := by decide +kernel
  exact ⟨h.1, h.2.1, hcreate, hupdate, (h.2.1.answered _ hupdate rfl).2⟩

end Patches

end Audio
end Sm7225
