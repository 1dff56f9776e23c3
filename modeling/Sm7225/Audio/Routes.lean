import Mathlib.Data.List.GetD
import Sm7225.Audio.Parameters

/-!
# Both routes of a setting

Wideband speech and the rotation can be set with parameters and with setters of
their own.  The routes agree as long as the setters, the contexts and the stub
streams bring no setting that the vendor and the mixer do not have already.
-/

namespace Sm7225
namespace Audio

open Lib

/-!
# The last settings
-/

def lastValue (key : String) (parameters : List ParameterValue) : Option String :=
  (parameters.filterMap fun parameter =>
    if parameter.key = key then some parameter.value else none).getLast?

def Rotation.positions : Rotation -> SlotPositions
  | .DEG_0 => SLOT_POSITIONS_0
  | .DEG_90 => SLOT_POSITIONS_90
  | .DEG_180 => SLOT_POSITIONS_180
  | .DEG_270 => SLOT_POSITIONS_270

def rotationOfDegree (value : String) : Option Rotation :=
  if value = "0" then some .DEG_0
  else if value = "90" then some .DEG_90
  else if value = "180" then some .DEG_180
  else if value = "270" then some .DEG_270
  else none

/-- The last rotation in a list of parameters. -/
def lastRotation (parameters : List ParameterValue) : Option Rotation :=
  (parameters.filterMap fun parameter =>
    if parameter.key = keyRotation then rotationOfDegree parameter.value
    else none).getLast?

namespace ParametersCall

def wideband : ParametersCall -> Option String
  | .setParameters _ context parameters _ _ =>
      lastValue keyBtWbs (context ++ parameters)
  | .setBtScoWidebandEnabled enabled _ =>
      some (if enabled then valueOn else valueOff)
  | .updateRotation _ _ => none

/-- The rotation that a call sets. -/
def rotation : ParametersCall -> Option Rotation
  | .setParameters _ context parameters _ _ => lastRotation (context ++ parameters)
  | .setBtScoWidebandEnabled _ _ => none
  | .updateRotation rotation _ => some rotation

end ParametersCall

def AudioHal.lastSampleRate (hal : AudioHal) : Option String :=
  (hal.delivered.filterMap fun param => param.find? keyScoSampleRate).getLast?

def AudioHal.HasSlots (hal : AudioHal) (positions : SlotPositions) : Prop :=
  hal.mixer flSlot = positions.fl ∧ hal.mixer frSlot = positions.fr ∧
    hal.mixer rlSlot = positions.rl ∧ hal.mixer rrSlot = positions.rr

def AudioHal.HasRate (hal : AudioHal) (setting : Option String) : Prop :=
  (setting = some valueOn -> hal.lastSampleRate = some "16000") ∧
    (setting = some valueOff -> hal.lastSampleRate = some "8000")

/-- After the calls, the vendor and the mixer have the last settings, and no
rotation was delivered. -/
structure RoutesAgree (calls : List ParametersCall) (hal : AudioHal) : Prop where
  wideband : hal.HasRate (calls.filterMap ParametersCall.wideband).getLast?
  slots : forall rotation,
    (calls.filterMap ParametersCall.rotation).getLast? = some rotation ->
      hal.HasSlots rotation.positions
  notDelivered : forall param, param ∈ hal.delivered ->
    param.find? keyRotation = none

def MixerAnswers.sets (answers : MixerAnswers) (name : String) : Bool :=
  answers.opens && answers.finds name && answers.takes name

def AudioHal.WillHave (hal : AudioHal) (answers : MixerAnswers)
    (positions : SlotPositions) : Prop :=
  (answers.sets flSlot = true ∨ hal.mixer flSlot = positions.fl) ∧
    (answers.sets frSlot = true ∨ hal.mixer frSlot = positions.fr) ∧
    (answers.sets rlSlot = true ∨ hal.mixer rlSlot = positions.rl) ∧
    (answers.sets rrSlot = true ∨ hal.mixer rrSlot = positions.rr)

/-- When a call keeps both routes in agreement.  The first condition is what the
clients promise.  A rotation in a context, which only a stub stream swallows, must
be the one the mixer has, and a setting for wideband speech that is not among the
parameters of a real target the one the vendor has. -/
def KeepsRoutes (hal : AudioHal) : ParametersCall -> Prop
  | .setParameters target context parameters answers _ =>
      (forall parameter, parameter ∈ context ++ parameters ->
        parameter.key ≠ keyScoSampleRate) ∧
      (target ≠ .scoStub -> forall parameter, parameter ∈ context ->
        parameter.key ≠ keyRotation) ∧
      (forall rotation, lastRotation parameters = some rotation ->
        hal.WillHave answers rotation.positions) ∧
      (forall rotation, lastRotation parameters = none ->
        lastRotation context = some rotation -> hal.HasSlots rotation.positions) ∧
      (target = .scoStub ∨ lastValue keyBtWbs parameters = none ->
        hal.HasRate (lastValue keyBtWbs (context ++ parameters)))
  | .setBtScoWidebandEnabled enabled _ =>
      hal.HasRate (some (if enabled then valueOn else valueOff))
  | .updateRotation _ _ => False

/-!
# Lists of settings
-/

theorem getLast?_filterMap_append {α β : Type} (f : α -> Option β)
    (first second : List α) :
    ((first ++ second).filterMap f).getLast? =
      ((second.filterMap f).getLast?).or (first.filterMap f).getLast? := by
  rw [List.filterMap_append, List.getLast?_append]

theorem getLast?_filterMap_cons {α β : Type} (f : α -> Option β) (a : α)
    (rest : List α) :
    ((a :: rest).filterMap f).getLast? =
      ((rest.filterMap f).getLast?).or (f a) := by
  have happend := getLast?_filterMap_append f [a] rest
  have hone : ([a].filterMap f).getLast? = f a := by
    cases hfa : f a with
    | none => simp [hfa]
    | some b => simp [hfa]
  rw [hone] at happend
  exact happend

theorem getLast?_filterMap_of_none {α β : Type} (f : α -> Option β)
    {list : List α} (h : forall a, a ∈ list -> f a = none) :
    (list.filterMap f).getLast? = none := by
  rw [List.filterMap_eq_nil_iff.mpr h]
  rfl

/-!
# The mixer
-/

theorem AudioHal.HasSlots.congr {hal after : AudioHal} {positions : SlotPositions}
    (h : hal.HasSlots positions) (hmixer : after.mixer = hal.mixer) :
    after.HasSlots positions := by
  unfold AudioHal.HasSlots
  rw [hmixer]
  exact h

structure SetsControl (answers : MixerAnswers) (name : String) (value : Int)
    (hal after : AudioHal) : Prop where
  delivered : after.delivered = hal.delivered
  set : answers.finds name = true ∧ answers.takes name = true ->
    after.mixer name = value
  refused : ¬(answers.finds name = true ∧ answers.takes name = true) ->
    after.mixer name = hal.mixer name
  others : forall other, other ≠ name -> after.mixer other = hal.mixer other

theorem setMixerValueByName_sat (answers : MixerAnswers) (name : String) (value : Int)
    (hal : AudioHal) :
    Sat (setMixerValueByName answers name value)
      (fun _ after => SetsControl answers name value hal after) (fun _ _ => False)
      hal := by
  unfold setMixerValueByName
  simp only [sat_ite, Bool.not_eq_true', sat_pure, sat_modify]
  refine ⟨fun hfinds => ?_, fun hfinds => ⟨fun htakes => ?_, fun htakes => ?_⟩⟩
  · refine ⟨rfl, fun h => ?_, fun _ => rfl, fun _ _ => rfl⟩
    rw [hfinds] at h
    cases h.1
  · refine ⟨rfl, fun h => ?_, fun _ => rfl, fun _ _ => rfl⟩
    rw [htakes] at h
    cases h.2
  · rw [Bool.not_eq_false] at hfinds htakes
    refine ⟨rfl, fun _ => Function.update_self .., fun h => ?_, fun other hother => ?_⟩
    · exact absurd ⟨hfinds, htakes⟩ h
    · exact Function.update_of_ne hother ..

structure SetsSlots (answers : MixerAnswers) (values : SlotPositions)
    (hal after : AudioHal) : Prop where
  delivered : after.delivered = hal.delivered
  fl : after.mixer flSlot =
    if answers.sets flSlot then values.fl else hal.mixer flSlot
  fr : after.mixer frSlot =
    if answers.sets frSlot then values.fr else hal.mixer frSlot
  rl : after.mixer rlSlot =
    if answers.sets rlSlot then values.rl else hal.mixer rlSlot
  rr : after.mixer rrSlot =
    if answers.sets rrSlot then values.rr else hal.mixer rrSlot

theorem sets_of_opens {answers : MixerAnswers} (hopens : answers.opens = true)
    (name : String) :
    answers.sets name = true <-> answers.finds name = true ∧ answers.takes name = true := by
  unfold MixerAnswers.sets
  rw [hopens, Bool.true_and, Bool.and_eq_true]

theorem SetsControl.slot {answers : MixerAnswers} {name : String} {value : Int}
    {hal after : AudioHal} (h : SetsControl answers name value hal after)
    (hopens : answers.opens = true) :
    after.mixer name = if answers.sets name then value else hal.mixer name := by
  by_cases hsets : answers.sets name = true
  · rw [if_pos hsets, h.set ((sets_of_opens hopens name).mp hsets)]
  · rw [if_neg hsets]
    exact h.refused (mt (sets_of_opens hopens name).mpr hsets)

theorem setSlotPositions_sat (answers : MixerAnswers) (values : SlotPositions)
    (hal : AudioHal) :
    Sat (setSlotPositions answers values)
      (fun _ after => SetsSlots answers values hal after) (fun _ _ => False) hal := by
  unfold setSlotPositions
  rw [sat_ite]
  constructor
  · intro hclosed
    have hnever : forall name, answers.sets name = false := by
      intro name
      unfold MixerAnswers.sets
      rw [Bool.not_eq_true'] at hclosed
      rw [hclosed]
      rfl
    have hkept : forall name (value : Int), hal.mixer name =
        if answers.sets name then value else hal.mixer name := by
      intro name value
      rw [hnever, if_neg Bool.false_ne_true]
    exact ⟨rfl, hkept _ _, hkept _ _, hkept _ _, hkept _ _⟩
  · intro hopen
    have hopens : answers.opens = true := by
      simpa using hopen
    apply (setMixerValueByName_sat answers flSlot values.fl hal).bind
    intro _ first hfl
    apply (setMixerValueByName_sat answers frSlot values.fr first).bind
    intro _ second hfr
    apply (setMixerValueByName_sat answers rlSlot values.rl second).bind
    intro _ third hrl
    apply (setMixerValueByName_sat answers rrSlot values.rr third).imp
    intro _ after hrr
    refine ⟨?_, ?_, ?_, ?_, ?_⟩
    · exact hrr.delivered.trans
        (hrl.delivered.trans (hfr.delivered.trans hfl.delivered))
    · rw [hrr.others flSlot (by decide), hrl.others flSlot (by decide),
        hfr.others flSlot (by decide), hfl.slot hopens]
    · rw [hrr.others frSlot (by decide), hrl.others frSlot (by decide),
        hfr.slot hopens, hfl.others frSlot (by decide)]
    · rw [hrr.others rlSlot (by decide), hrl.slot hopens,
        hfr.others rlSlot (by decide), hfl.others rlSlot (by decide)]
    · rw [hrr.slot hopens, hrl.others rrSlot (by decide),
        hfr.others rrSlot (by decide), hfl.others rrSlot (by decide)]

section SetsSlots

variable {answers : MixerAnswers} {values others : SlotPositions}
variable {hal after : AudioHal}

theorem ite_eq_of_or {sets : Bool} {value old : Int} (h : sets = true ∨ old = value) :
    (if sets then value else old) = value := by
  cases sets with
  | true => rfl
  | false => exact h.resolve_left Bool.false_ne_true

theorem SetsSlots.hasSlots (h : SetsSlots answers values hal after)
    (hwill : hal.WillHave answers values) : after.HasSlots values := by
  refine ⟨?_, ?_, ?_, ?_⟩
  · rw [h.fl, ite_eq_of_or hwill.1]
  · rw [h.fr, ite_eq_of_or hwill.2.1]
  · rw [h.rl, ite_eq_of_or hwill.2.2.1]
  · rw [h.rr, ite_eq_of_or hwill.2.2.2]

theorem sets_or_ite {sets : Bool} {value other old : Int}
    (h : sets = true ∨ old = value) :
    sets = true ∨ (if sets then other else old) = value := by
  cases sets with
  | true => exact Or.inl rfl
  | false => exact Or.inr (h.resolve_left Bool.false_ne_true)

theorem SetsSlots.willHave (h : SetsSlots answers others hal after)
    (hwill : hal.WillHave answers values) : after.WillHave answers values := by
  unfold AudioHal.WillHave
  rw [h.fl, h.fr, h.rl, h.rr]
  exact ⟨sets_or_ite hwill.1, sets_or_ite hwill.2.1, sets_or_ite hwill.2.2.1,
    sets_or_ite hwill.2.2.2⟩

end SetsSlots

theorem setRotation_eq (answers : MixerAnswers) (value : String) :
    setRotation answers value =
      match rotationOfDegree value with
      | some rotation => setSlotPositions answers rotation.positions
      | none => pure () := by
  unfold setRotation rotationOfDegree
  by_cases h0 : value = "0"
  · rw [if_pos h0, if_pos h0]
    rfl
  · by_cases h90 : value = "90"
    · rw [if_neg h0, if_neg h0, if_pos h90, if_pos h90]
      rfl
    · by_cases h180 : value = "180"
      · rw [if_neg h0, if_neg h0, if_neg h90, if_neg h90, if_pos h180, if_pos h180]
        rfl
      · by_cases h270 : value = "270"
        · rw [if_neg h0, if_neg h0, if_neg h90, if_neg h90, if_neg h180, if_neg h180,
            if_pos h270, if_pos h270]
          rfl
        · rw [if_neg h0, if_neg h0, if_neg h90, if_neg h90, if_neg h180, if_neg h180,
            if_neg h270, if_neg h270]

theorem setRotation_sat (answers : MixerAnswers) (value : String) (hal : AudioHal) :
    Sat (setRotation answers value)
      (fun _ after =>
        after.delivered = hal.delivered ∧
          (rotationOfDegree value = none -> after.mixer = hal.mixer) ∧
          forall rotation, rotationOfDegree value = some rotation ->
            SetsSlots answers rotation.positions hal after)
      (fun _ _ => False) hal := by
  rw [setRotation_eq]
  cases hrotation : rotationOfDegree value with
  | none =>
      refine ⟨rfl, fun _ => rfl, ?_⟩
      intro rotation hsome
      cases hsome
  | some rotation =>
      apply (setSlotPositions_sat answers rotation.positions hal).imp
      intro _ after hafter
      refine ⟨hafter.delivered, ?_, ?_⟩
      · intro hnone
        cases hnone
      · intro other hother
        cases hother
        exact hafter

/-!
# The parameters that are delivered
-/

theorem find_addAll (key : String) (pairs : List ParameterValue)
    (params : AudioParameter) :
    (addAll pairs params).find? key = (lastValue key pairs).or (params.find? key) := by
  induction pairs generalizing params with
  | nil => rfl
  | cons pair rest ih =>
      unfold lastValue at ih ⊢
      rw [addAll, ih, getLast?_filterMap_cons, KeyedVector.find_add]
      by_cases hkey : pair.key = key
      · simp [hkey]
      · simp [hkey, Ne.symm hkey]

theorem find_context (key : String) (context : List ParameterValue) :
    (addAll context KeyedVector.empty).find? key = lastValue key context := by
  rw [find_addAll]
  exact Option.or_none

def ParameterValue.setting (key : String) (parameter : ParameterValue) :
    Option String :=
  if parameter.key = keyBtWbs then
    if key = keyScoSampleRate then some (scoSampleRate parameter.value)
    else if key = keyBtWbs then some parameter.value
    else none
  else if parameter.key = keyRotation then
    none
  else if parameter.key = key then
    some parameter.value
  else
    none

def lastSetting (key : String) (parameters : List ParameterValue) : Option String :=
  (parameters.filterMap fun parameter => parameter.setting key).getLast?

theorem lastValue_cons (key : String) (parameter : ParameterValue)
    (rest : List ParameterValue) :
    lastValue key (parameter :: rest) =
      (lastValue key rest).or
        (if parameter.key = key then some parameter.value else none) :=
  getLast?_filterMap_cons _ parameter rest

theorem lastRotation_cons (parameter : ParameterValue)
    (rest : List ParameterValue) :
    lastRotation (parameter :: rest) =
      (lastRotation rest).or
        (if parameter.key = keyRotation then rotationOfDegree parameter.value
        else none) :=
  getLast?_filterMap_cons _ parameter rest

theorem lastSetting_cons (key : String) (parameter : ParameterValue)
    (rest : List ParameterValue) :
    lastSetting key (parameter :: rest) =
      (lastSetting key rest).or (parameter.setting key) :=
  getLast?_filterMap_cons _ parameter rest

theorem setting_of_other {parameter : ParameterValue} (hwbs : parameter.key ≠ keyBtWbs)
    (hrotation : parameter.key ≠ keyRotation) (key : String) (params : AudioParameter) :
    (params.add parameter.key parameter.value).find? key =
      (parameter.setting key).or (params.find? key) := by
  unfold ParameterValue.setting
  rw [if_neg hwbs, if_neg hrotation, KeyedVector.find_add]
  by_cases hkey : parameter.key = key
  · rw [if_pos hkey, if_pos hkey.symm]
    rfl
  · rw [if_neg hkey, if_neg (Ne.symm hkey)]
    rfl

theorem setting_of_wideband {parameter : ParameterValue}
    (hwbs : parameter.key = keyBtWbs) (key : String) (params : AudioParameter) :
    ((params.add keyScoSampleRate (scoSampleRate parameter.value)).add parameter.key
        parameter.value).find? key =
      (parameter.setting key).or (params.find? key) := by
  have hkeys : keyScoSampleRate ≠ keyBtWbs := by
    decide
  unfold ParameterValue.setting
  rw [if_pos hwbs, hwbs, KeyedVector.find_add, KeyedVector.find_add]
  by_cases hrate : key = keyScoSampleRate
  · rw [if_pos hrate, if_pos hrate, hrate, if_neg hkeys]
    rfl
  · rw [if_neg hrate, if_neg hrate]
    by_cases hkey : key = keyBtWbs
    · rw [if_pos hkey, if_pos hkey]
      rfl
    · rw [if_neg hkey, if_neg hkey]
      rfl

structure Merged (answers : MixerAnswers) (parameters : List ParameterValue)
    (params added : AudioParameter) (hal after : AudioHal) : Prop where
  settings : forall key,
    added.find? key = (lastSetting key parameters).or (params.find? key)
  delivered : after.delivered = hal.delivered
  mixer : lastRotation parameters = none -> after.mixer = hal.mixer
  slots : forall rotation, lastRotation parameters = some rotation ->
    hal.WillHave answers rotation.positions -> after.HasSlots rotation.positions

theorem Merged.cons {answers : MixerAnswers} {parameter : ParameterValue}
    {rest : List ParameterValue} {params params' added : AudioParameter}
    {hal after : AudioHal} (hrotation : parameter.key ≠ keyRotation)
    (hfirst : forall key, params'.find? key =
      (parameter.setting key).or (params.find? key))
    (h : Merged answers rest params' added hal after) :
    Merged answers (parameter :: rest) params added hal after := by
  have hlast : lastRotation (parameter :: rest) = lastRotation rest := by
    rw [lastRotation_cons, if_neg hrotation, Option.or_none]
  constructor
  · intro key
    rw [h.settings, hfirst, lastSetting_cons, Option.or_assoc]
  · exact h.delivered
  · rw [hlast]
    exact h.mixer
  · rw [hlast]
    exact h.slots

theorem addParameters_merges (answers : MixerAnswers)
    (parameters : List ParameterValue) (params : AudioParameter) (hal : AudioHal) :
    Sat (addParameters answers parameters params)
      (fun added after => Merged answers parameters params added hal after)
      (fun _ _ => False) hal := by
  induction parameters generalizing params hal with
  | nil => exact ⟨fun _ => rfl, rfl, fun _ => rfl, fun _ h => by cases h⟩
  | cons parameter rest ih =>
      rw [addParameters]
      by_cases hwbs : parameter.key = keyBtWbs
      · rw [if_pos hwbs]
        apply (ih _ hal).imp
        intro added after hmerged
        have hrotation : parameter.key ≠ keyRotation := by
          rw [hwbs]
          decide
        exact hmerged.cons hrotation fun key => setting_of_wideband hwbs key params
      · rw [if_neg hwbs]
        by_cases hrotation : parameter.key = keyRotation
        · rw [if_pos hrotation]
          have hlast : lastRotation (parameter :: rest) =
              (lastRotation rest).or (rotationOfDegree parameter.value) := by
            rw [lastRotation_cons, if_pos hrotation]
          apply (setRotation_sat answers parameter.value hal).bind
          intro _ next hnext
          apply (ih params next).imp
          intro added after hmerged
          constructor
          · intro key
            have hnone : parameter.setting key = none := by
              unfold ParameterValue.setting
              rw [if_neg hwbs, if_pos hrotation]
            rw [hmerged.settings, lastSetting_cons, hnone, Option.or_none]
          · exact hmerged.delivered.trans hnext.1
          · intro hnone
            rw [hlast, Option.or_eq_none_iff] at hnone
            exact (hmerged.mixer hnone.1).trans (hnext.2.1 hnone.2)
          · intro rotation hsome hwill
            rw [hlast] at hsome
            cases hrest : lastRotation rest with
            | some last =>
                rw [hrest] at hsome
                cases hsome
                apply hmerged.slots rotation hrest
                cases hvalue : rotationOfDegree parameter.value with
                | none =>
                    unfold AudioHal.WillHave
                    rw [hnext.2.1 hvalue]
                    exact hwill
                | some first => exact (hnext.2.2 first hvalue).willHave hwill
            | none =>
                rw [hrest, Option.none_or] at hsome
                have hslots := (hnext.2.2 rotation hsome).hasSlots hwill
                exact hslots.congr (hmerged.mixer hrest)
        · rw [if_neg hrotation]
          apply (ih _ hal).imp
          intro added after hmerged
          exact hmerged.cons hrotation fun key =>
            setting_of_other hwbs hrotation key params

structure Added (parameters : List ParameterValue) (params added : AudioParameter)
    (hal after : AudioHal) : Prop where
  sampleRate : added.find? keyScoSampleRate =
    ((lastValue keyBtWbs parameters).map scoSampleRate).or
      (params.find? keyScoSampleRate)
  rotation : added.find? keyRotation = params.find? keyRotation
  delivered : after.delivered = hal.delivered
  mixer : lastRotation parameters = none -> after.mixer = hal.mixer
  slots : forall rotation, lastRotation parameters = some rotation ->
    after.HasSlots rotation.positions

theorem lastSetting_rotation (parameters : List ParameterValue) :
    lastSetting keyRotation parameters = none := by
  apply getLast?_filterMap_of_none
  intro parameter _
  have hrate : keyRotation ≠ keyScoSampleRate := by
    decide
  have hwbs : keyRotation ≠ keyBtWbs := by
    decide
  unfold ParameterValue.setting
  rw [if_neg hrate, if_neg hwbs]
  by_cases hrotation : parameter.key = keyRotation
  · rw [if_pos hrotation, ite_self]
  · rw [if_neg hrotation, if_neg hrotation, ite_self]

theorem lastSetting_scoSampleRate {parameters : List ParameterValue}
    (hrate : forall parameter, parameter ∈ parameters ->
      parameter.key ≠ keyScoSampleRate) :
    lastSetting keyScoSampleRate parameters =
      (lastValue keyBtWbs parameters).map scoSampleRate := by
  induction parameters with
  | nil => rfl
  | cons parameter rest ih =>
      have hsetting : parameter.setting keyScoSampleRate =
          (if parameter.key = keyBtWbs then some parameter.value else none).map
            scoSampleRate := by
        unfold ParameterValue.setting
        by_cases hwbs : parameter.key = keyBtWbs
        · rw [if_pos hwbs, if_pos hwbs, if_pos rfl]
          rfl
        · rw [if_neg hwbs, if_neg hwbs, if_neg (hrate parameter List.mem_cons_self),
            ite_self]
          rfl
      rw [lastSetting_cons, lastValue_cons, hsetting,
        ih fun other hother => hrate other (List.mem_cons_of_mem _ hother)]
      cases lastValue keyBtWbs rest <;> rfl

theorem Merged.added {answers : MixerAnswers} {parameters : List ParameterValue}
    {params added : AudioParameter} {hal after : AudioHal}
    (h : Merged answers parameters params added hal after)
    (hrate : forall parameter, parameter ∈ parameters ->
      parameter.key ≠ keyScoSampleRate)
    (hwill : forall rotation, lastRotation parameters = some rotation ->
      hal.WillHave answers rotation.positions) :
    Added parameters params added hal after := by
  constructor
  · rw [h.settings, lastSetting_scoSampleRate hrate]
  · rw [h.settings, lastSetting_rotation]
    rfl
  · exact h.delivered
  · exact h.mixer
  · intro rotation hlast
    exact h.slots rotation hlast (hwill rotation hlast)

theorem setParams_sat (target : Target) (param : AudioParameter) (halStatus : Int)
    (hal : AudioHal) :
    Sat (setParams target param halStatus)
      (fun _ after =>
        after.mixer = hal.mixer ∧
          after.delivered = hal.delivered ++
            (if target = .scoStub then [] else [param]))
      (fun _ _ => False) hal := by
  unfold setParams
  rw [sat_ite]
  constructor
  · intro hstub
    rw [if_pos hstub, List.append_nil]
    exact ⟨rfl, rfl⟩
  · intro hreal
    rw [if_neg hreal]
    exact ⟨rfl, rfl⟩

theorem setParametersImpl_sat (target : Target) (context parameters : List ParameterValue)
    (answers : MixerAnswers) (halStatus : Int) (hal : AudioHal) :
    Sat (setParametersImpl target context parameters answers halStatus)
      (fun _ after => exists param mid,
        Merged answers parameters (addAll context KeyedVector.empty) param hal mid ∧
          after.mixer = mid.mixer ∧
          after.delivered = hal.delivered ++ (if target = .scoStub then [] else [param]))
      (fun _ _ => False) hal := by
  unfold setParametersImpl
  apply (addParameters_merges answers parameters (addAll context KeyedVector.empty)
    hal).bind
  intro param mid hmerged
  apply (setParams_sat target param halStatus mid).imp
  intro _ after hafter
  refine ⟨param, mid, hmerged, hafter.1, ?_⟩
  rw [← hmerged.delivered]
  exact hafter.2

/-!
# One call
-/

theorem AudioHal.HasRate.or {hal : AudioHal} {first second : Option String}
    (hfirst : hal.HasRate first) (hsecond : hal.HasRate second) :
    hal.HasRate (first.or second) := by
  cases first with
  | none => exact hsecond
  | some value => exact hfirst

theorem AudioHal.HasRate.congr {hal after : AudioHal} {setting : Option String}
    (h : hal.HasRate setting) (hrate : after.lastSampleRate = hal.lastSampleRate) :
    after.HasRate setting := by
  unfold AudioHal.HasRate
  rw [hrate]
  exact h

theorem lastSampleRate_append {hal after : AudioHal} {params : List AudioParameter}
    (hdelivered : after.delivered = hal.delivered ++ params) :
    after.lastSampleRate =
      ((params.filterMap fun param => param.find? keyScoSampleRate).getLast?).or
        hal.lastSampleRate := by
  unfold AudioHal.lastSampleRate
  rw [hdelivered]
  exact getLast?_filterMap_append _ _ _

theorem settings_snoc {α : Type} (f : ParametersCall -> Option α)
    (past : List ParametersCall) (call : ParametersCall) :
    ((past ++ [call]).filterMap f).getLast? =
      (f call).or (past.filterMap f).getLast? := by
  rw [getLast?_filterMap_append, getLast?_filterMap_cons]
  rfl

theorem lastValue_eq_none {key : String} {parameters : List ParameterValue}
    (h : forall parameter, parameter ∈ parameters -> parameter.key ≠ key) :
    lastValue key parameters = none :=
  getLast?_filterMap_of_none _ fun parameter hmem => if_neg (h parameter hmem)

theorem hasRate_scoSampleRate {hal : AudioHal} {value : String}
    (hrate : hal.lastSampleRate = some (scoSampleRate value)) :
    hal.HasRate (some value) := by
  constructor
  · intro hon
    rw [hrate, Option.some.inj hon]
    rfl
  · intro hoff
    rw [hrate, Option.some.inj hoff]
    rfl

section SetParameters

variable {target : Target} {context parameters : List ParameterValue}
variable {answers : MixerAnswers} {halStatus : Int}
variable {past : List ParametersCall} {hal mid after : AudioHal}
variable {added : AudioParameter}

theorem hasRate_of_added (hpast : RoutesAgree past hal)
    (hkeeps : KeepsRoutes hal
      (.setParameters target context parameters answers halStatus))
    (hadded : Added parameters (addAll context KeyedVector.empty) added hal mid)
    (hdelivered : after.delivered =
      hal.delivered ++ (if target = .scoStub then [] else [added])) :
    after.HasRate ((lastValue keyBtWbs (context ++ parameters)).or
      (past.filterMap ParametersCall.wideband).getLast?) := by
  have hcontext : (addAll context KeyedVector.empty).find? keyScoSampleRate =
      none := by
    rw [find_context, lastValue_eq_none fun parameter hmem =>
      hkeeps.1 parameter (by simp [hmem])]
  have hsampleRate : added.find? keyScoSampleRate =
      (lastValue keyBtWbs parameters).map scoSampleRate := by
    rw [hadded.sampleRate, hcontext, Option.or_none]
  have hrate := lastSampleRate_append hdelivered
  by_cases hsame : target = .scoStub ∨ lastValue keyBtWbs parameters = none
  · have hunchanged : after.lastSampleRate = hal.lastSampleRate := by
      rw [hrate]
      rcases hsame with hstub | hnone
      · rw [if_pos hstub]
        rfl
      · by_cases hstub : target = .scoStub
        · rw [if_pos hstub]
          rfl
        · rw [if_neg hstub, getLast?_filterMap_cons, hsampleRate, hnone]
          rfl
    exact ((hkeeps.2.2.2.2 hsame).or hpast.wideband).congr hunchanged
  · have hreal : target ≠ .scoStub := fun hstub => hsame (.inl hstub)
    cases hvalue : lastValue keyBtWbs parameters with
    | none => exact absurd (.inr hvalue) hsame
    | some value =>
        have hsetting : lastValue keyBtWbs (context ++ parameters) =
            some value := by
          unfold lastValue at hvalue ⊢
          rw [getLast?_filterMap_append, hvalue]
          rfl
        rw [hsetting]
        apply hasRate_scoSampleRate
        rw [hrate, if_neg hreal, getLast?_filterMap_cons, hsampleRate, hvalue]
        rfl

theorem setParametersImpl_agrees (hpast : RoutesAgree past hal)
    (hkeeps : KeepsRoutes hal
      (.setParameters target context parameters answers halStatus)) :
    Sat (setParametersImpl target context parameters answers halStatus)
      (fun _ after => RoutesAgree
        (past ++ [.setParameters target context parameters answers halStatus])
        after)
      (fun _ _ => False) hal := by
  have hrotation : lastRotation (context ++ parameters) =
      (lastRotation parameters).or (lastRotation context) :=
    getLast?_filterMap_append _ context parameters
  apply (setParametersImpl_sat target context parameters answers halStatus hal).imp
  rintro _ after ⟨added, mid, hmerged, hmixer, hdelivered⟩
  have hadded := hmerged.added
    (fun parameter hmem => hkeeps.1 parameter (by simp [hmem])) hkeeps.2.2.1
  constructor
  · rw [settings_snoc]
    exact hasRate_of_added hpast hkeeps hadded hdelivered
  · intro rotation hsome
    have hcall : ParametersCall.rotation
        (.setParameters target context parameters answers halStatus) =
          (lastRotation parameters).or (lastRotation context) := hrotation
    rw [settings_snoc, hcall] at hsome
    cases hlast : lastRotation parameters with
    | some last =>
        rw [hlast] at hsome
        cases hsome
        exact (hadded.slots rotation hlast).congr hmixer
    | none =>
        have hsame := hmixer.trans (hadded.mixer hlast)
        rw [hlast, Option.none_or] at hsome
        cases hcontext : lastRotation context with
        | some swallowed =>
            rw [hcontext] at hsome
            cases hsome
            exact (hkeeps.2.2.2.1 rotation hlast hcontext).congr hsame
        | none =>
            rw [hcontext] at hsome
            exact (hpast.slots rotation hsome).congr hsame
  · intro param hmem
    rw [hdelivered] at hmem
    rcases List.mem_append.mp hmem with hold | hnew
    · exact hpast.notDelivered param hold
    · by_cases hstub : target = .scoStub
      · rw [if_pos hstub] at hnew
        cases hnew
      · rw [if_neg hstub] at hnew
        rw [List.mem_singleton.mp hnew, hadded.rotation, find_addAll,
          lastValue_eq_none (hkeeps.2.1 hstub)]
        rfl

end SetParameters

theorem execParameters_agrees {past : List ParametersCall} {hal : AudioHal}
    (hpast : RoutesAgree past hal) {call : ParametersCall}
    (hkeeps : KeepsRoutes hal call) :
    Sat (execParameters call) (fun _ after => RoutesAgree (past ++ [call]) after)
      (fun _ _ => False) hal := by
  cases call with
  | setParameters target context parameters answers halStatus =>
      exact setParametersImpl_agrees hpast hkeeps
  | setBtScoWidebandEnabled enabled halStatus =>
      apply (setParams_sat .device _ halStatus hal).imp
      intro _ after hafter
      have hrate : after.lastSampleRate = hal.lastSampleRate := by
        rw [lastSampleRate_append hafter.2]
        rfl
      constructor
      · rw [settings_snoc]
        exact (hkeeps.or hpast.wideband).congr hrate
      · intro rotation hsome
        rw [settings_snoc] at hsome
        exact (hpast.slots rotation hsome).congr hafter.1
      · intro param hmem
        rw [hafter.2] at hmem
        rcases List.mem_append.mp hmem with hold | hnew
        · exact hpast.notDelivered param hold
        · rw [List.mem_singleton.mp hnew, KeyedVector.find_add]
          rfl
  | updateRotation rotation halStatus => exact hkeeps.elim

/-!
# Sequences of calls
-/

theorem run_agrees (past calls : List ParametersCall) (hal : AudioHal)
    (hpast : RoutesAgree past hal) (hkeeps : Along execParameters KeepsRoutes calls hal) :
    Sat (run execParameters calls)
      (fun _ after => RoutesAgree (past ++ calls) after) (fun _ _ => False) hal := by
  induction calls generalizing past hal with
  | nil =>
      rw [List.append_nil]
      exact hpast
  | cons call calls ih =>
      have hstep := execParameters_agrees hpast hkeeps.1
      have hrest := hkeeps.2
      rw [run, sat_bind]
      cases hexec : execParameters call hal with
      | error e after => exact e.elim
      | ok result after =>
          rw [hexec] at hrest
          rw [sat_of_ok hexec] at hstep ⊢
          rw [sat_bind]
          apply (ih (past ++ [call]) after hstep hrest).imp
          intro _ last hlast
          rw [List.append_assoc] at hlast
          exact hlast

def AudioHal.initial (mixer : String -> Int) : AudioHal where
  delivered := []
  mixer := mixer

/-- In every sequence of calls that keep the routes, both routes agree. -/
theorem routes_agree (mixer : String -> Int) (calls : List ParametersCall)
    (hkeeps : Along execParameters KeepsRoutes calls (AudioHal.initial mixer)) :
    Sat (run execParameters calls) (fun _ after => RoutesAgree calls after)
      (fun _ _ => False) (AudioHal.initial mixer) := by
  have hinitial : RoutesAgree [] (AudioHal.initial mixer) := by
    constructor
    · exact ⟨nofun, nofun⟩
    · intro rotation hsome
      cases hsome
    · intro param hmem
      cases hmem
  exact run_agrees [] calls _ hinitial hkeeps

/-- Wideband speech and a rotation for a mixer that works, then the same settings
for a stub stream and a mixer that does not open. -/
def widebandAndRotation : List ParametersCall :=
  [.setParameters .device []
      [{ key := keyBtWbs, value := valueOn }, { key := keyRotation, value := "90" }]
      { opens := true, finds := fun _ => true, takes := fun _ => true } 0,
    .setParameters .scoStub [{ key := keyRotation, value := "90" }]
      [{ key := keyBtWbs, value := valueOn }, { key := keyRotation, value := "90" }]
      { opens := false, finds := fun _ => true, takes := fun _ => true } 0]

theorem routes_agree_widebandAndRotation :
    Sat (run execParameters widebandAndRotation)
      (fun _ after => RoutesAgree widebandAndRotation after) (fun _ _ => False)
      (AudioHal.initial fun _ => 0) := by
  apply routes_agree
  constructor
  · refine ⟨by decide, nofun, ?_, ?_, ?_⟩
    · intro _ _
      exact ⟨Or.inl rfl, Or.inl rfl, Or.inl rfl, Or.inl rfl⟩
    · intro _ _ hcontext
      cases hcontext
    · intro hcases
      exact absurd hcases (by decide)
  · refine ⟨⟨by decide, fun hreal => absurd rfl hreal, ?_, ?_, ?_⟩, ?_⟩
    · intro rotation hlast
      cases hlast
      exact ⟨Or.inr rfl, Or.inr rfl, Or.inr rfl, Or.inr rfl⟩
    · intro _ hnone
      cases hnone
    · intro _
      exact ⟨fun _ => rfl, fun hoff => absurd hoff (by decide)⟩
    · trivial

/-- The setter for wideband speech delivers no sample rate. -/
theorem setBtScoWidebandEnabled_disagrees :
    ¬ Sat (run execParameters [.setBtScoWidebandEnabled true 0])
      (fun _ after => RoutesAgree [.setBtScoWidebandEnabled true 0] after)
      (fun _ _ => False) (AudioHal.initial fun _ => 0) := by
  intro h
  have hagree : RoutesAgree [.setBtScoWidebandEnabled true 0]
      { delivered := [KeyedVector.empty.add keyBtWbs valueOn]
        mixer := fun _ => 0 } := h
  have hrate : (none : Option String) = some "16000" := hagree.wideband.1 rfl
  cases hrate

end Audio
end Sm7225
