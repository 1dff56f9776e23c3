import Sm7225.Audio.Routes

/-!
# The map that the vendor gets

For each key the last parameter decides, and the context decides if no parameter does.
Only the sample rate and the rotation have rules of their own.
-/

namespace Sm7225
namespace Audio

open Lib

def rateOf (parameter : ParameterValue) : Option String :=
  if parameter.key = keyBtWbs then
    some (if parameter.value = valueOn then "16000" else "8000")
  else if parameter.key = keyScoSampleRate then
    some parameter.value
  else
    none

def lastRate (parameters : List ParameterValue) : Option String :=
  (parameters.filterMap rateOf).getLast?

/-- The values of the map after {lit}`setParametersImpl`. -/
structure FinalMap (context parameters : List ParameterValue) (param : AudioParameter) :
    Prop where
  others : forall key, key ≠ keyRotation -> key ≠ keyScoSampleRate ->
    param.find? key = (lastValue key parameters).or (lastValue key context)
  rotation : param.find? keyRotation = lastValue keyRotation context
  sampleRate : param.find? keyScoSampleRate =
    (lastRate parameters).or (lastValue keyScoSampleRate context)
  keys : forall key, key ∈ param.keys ->
    (exists pair, pair ∈ context ++ parameters ∧ pair.key = key) ∨
      (key = keyScoSampleRate ∧ exists pair, pair ∈ parameters ∧ pair.key = keyBtWbs)

/-- The mixer opens, has the four controls, and sets them. -/
structure MixerAnswers.Works (answers : MixerAnswers) : Prop where
  opens : answers.opens = true
  controls : forall name, name ∈ [flSlot, frSlot, rlSlot, rrSlot] ->
    answers.finds name = true ∧ answers.takes name = true

theorem MixerAnswers.Works.willHave {answers : MixerAnswers} (h : answers.Works)
    (hal : AudioHal) (positions : SlotPositions) : hal.WillHave answers positions := by
  have hsets : forall name, name ∈ [flSlot, frSlot, rlSlot, rrSlot] ->
      answers.sets name = true := by
    intro name hname
    exact (sets_of_opens h.opens name).mpr (h.controls name hname)
  exact ⟨Or.inl (hsets _ (by simp)), Or.inl (hsets _ (by simp)),
    Or.inl (hsets _ (by simp)), Or.inl (hsets _ (by simp))⟩

/-!
# Settings
-/

theorem setting_eq {key : String} (hrotation : key ≠ keyRotation)
    (hrate : key ≠ keyScoSampleRate) (parameter : ParameterValue) :
    parameter.setting key = if parameter.key = key then some parameter.value else none := by
  unfold ParameterValue.setting
  by_cases hwbs : parameter.key = keyBtWbs
  · rw [if_pos hwbs, if_neg hrate, hwbs]
    by_cases hkey : key = keyBtWbs
    · rw [if_pos hkey, if_pos hkey.symm]
    · rw [if_neg hkey, if_neg (Ne.symm hkey)]
  · rw [if_neg hwbs]
    by_cases hparameter : parameter.key = keyRotation
    · rw [if_pos hparameter, if_neg]
      intro hkey
      exact hrotation (hkey.symm.trans hparameter)
    · rw [if_neg hparameter]

theorem lastSetting_eq_lastValue {key : String} (hrotation : key ≠ keyRotation)
    (hrate : key ≠ keyScoSampleRate) (parameters : List ParameterValue) :
    lastSetting key parameters = lastValue key parameters := by
  unfold lastSetting lastValue
  rw [funext (setting_eq hrotation hrate)]

theorem lastSetting_eq_lastRate (parameters : List ParameterValue) :
    lastSetting keyScoSampleRate parameters = lastRate parameters := by
  have hsetting : forall parameter : ParameterValue,
      parameter.setting keyScoSampleRate = rateOf parameter := by
    intro parameter
    have hrotation : keyRotation ≠ keyScoSampleRate := by
      decide
    unfold ParameterValue.setting rateOf
    by_cases hwbs : parameter.key = keyBtWbs
    · rw [if_pos hwbs, if_pos hwbs, if_pos rfl]
      rfl
    · rw [if_neg hwbs, if_neg hwbs]
      by_cases hparameter : parameter.key = keyRotation
      · rw [if_pos hparameter, hparameter, if_neg hrotation]
      · rw [if_neg hparameter]
  unfold lastSetting lastRate
  rw [funext hsetting]

theorem exists_of_setting {key value : String} {parameter : ParameterValue}
    (h : parameter.setting key = some value) :
    parameter.key = key ∨ key = keyScoSampleRate ∧ parameter.key = keyBtWbs := by
  unfold ParameterValue.setting at h
  split at h
  · next hwbs =>
      split at h
      · next hrate => exact Or.inr ⟨hrate, hwbs⟩
      · split at h
        · next hkey => exact Or.inl (hwbs.trans hkey.symm)
        · cases h
  · split at h
    · cases h
    · split at h
      · next hkey => exact Or.inl hkey
      · cases h

theorem mem_of_getLast?_filterMap {α β : Type} {f : α -> Option β} {list : List α} {b : β}
    (h : (list.filterMap f).getLast? = some b) : exists a, a ∈ list ∧ f a = some b :=
  List.mem_filterMap.mp (List.mem_of_getLast? h)

theorem Merged.finalMap {answers : MixerAnswers} {context parameters : List ParameterValue}
    {param : AudioParameter} {hal after : AudioHal}
    (h : Merged answers parameters (addAll context KeyedVector.empty) param hal after) :
    FinalMap context parameters param := by
  constructor
  · intro key hrotation hrate
    rw [h.settings, find_context, lastSetting_eq_lastValue hrotation hrate]
  · rw [h.settings, find_context, lastSetting_rotation]
    rfl
  · rw [h.settings, find_context, lastSetting_eq_lastRate]
  · intro key hkey
    rw [KeyedVector.mem_keys] at hkey
    rcases hkey with ⟨value, hmem⟩
    have hfind := (KeyedVector.find_eq_some param key value).mpr hmem
    rw [h.settings, find_context, Option.or_eq_some_iff] at hfind
    rcases hfind with hset | ⟨_, hset⟩
    · rcases mem_of_getLast?_filterMap hset with ⟨pair, hpair, hsetting⟩
      rcases exists_of_setting hsetting with heq | ⟨hrate, hwbs⟩
      · exact Or.inl ⟨pair, List.mem_append_right context hpair, heq⟩
      · exact Or.inr ⟨hrate, pair, hpair, hwbs⟩
    · rcases mem_of_getLast?_filterMap hset with ⟨pair, hpair, hsetting⟩
      left
      refine ⟨pair, List.mem_append_left parameters hpair, ?_⟩
      by_contra hne
      rw [if_neg hne] at hsetting
      cases hsetting

/-- The vendor gets the final map, and the mixer the last rotation. -/
theorem setParametersImpl_finalMap (target : Target)
    (context parameters : List ParameterValue) {answers : MixerAnswers}
    (hworks : answers.Works) (halStatus : Int) (hal : AudioHal) :
    Sat (setParametersImpl target context parameters answers halStatus)
      (fun _ after =>
        (exists param, FinalMap context parameters param ∧
          after.delivered = hal.delivered ++
            (if target = .scoStub then [] else [param])) ∧
        (forall rotation, lastRotation parameters = some rotation ->
          after.HasSlots rotation.positions) ∧
        (lastRotation parameters = none -> after.mixer = hal.mixer))
      (fun _ _ => False) hal := by
  apply (setParametersImpl_sat target context parameters answers halStatus hal).imp
  rintro _ after ⟨param, mid, hmerged, hmixer, hdelivered⟩
  refine ⟨⟨param, hmerged.finalMap, hdelivered⟩, ?_, ?_⟩
  · intro rotation hlast
    have hwill := hworks.willHave hal rotation.positions
    exact (hmerged.slots rotation hlast hwill).congr hmixer
  · intro hnone
    exact hmixer.trans (hmerged.mixer hnone)

def workingMixer : MixerAnswers where
  opens := true
  finds := fun _ => true
  takes := fun _ => true

def conflictingParameters : List ParameterValue :=
  [{ key := keyBtWbs, value := valueOn }, { key := keyRotation, value := "90" },
    { key := keyScoSampleRate, value := "44100" }, { key := keyBtWbs, value := valueOff },
    { key := keyRotation, value := "91" }]

theorem setParametersImpl_finalMap_conflicting :
    Sat (setParametersImpl .device [{ key := keyRotation, value := "0" }]
        conflictingParameters workingMixer 0)
      (fun _ after =>
        (exists param,
          FinalMap [{ key := keyRotation, value := "0" }] conflictingParameters param ∧
            after.delivered = [param]) ∧
        after.HasSlots SLOT_POSITIONS_90)
      (fun _ _ => False) (AudioHal.initial fun _ => 0) := by
  have hworks : workingMixer.Works := ⟨rfl, fun _ _ => ⟨rfl, rfl⟩⟩
  apply (setParametersImpl_finalMap .device [{ key := keyRotation, value := "0" }]
    conflictingParameters hworks 0 (AudioHal.initial fun _ => 0)).imp
  intro _ after hafter
  exact ⟨hafter.1, hafter.2.1 .DEG_90 (by decide)⟩

end Audio
end Sm7225
