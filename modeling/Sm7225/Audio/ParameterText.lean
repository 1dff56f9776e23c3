import Sm7225.Lib.Delimited
import Sm7225.Audio.Routes

/-!
# The text of the parameters

The vendor gets the parameters as one text and takes it apart again.  Nothing on the
way looks for delimiters in the keys and values of the clients, so a value can bring
further parameters with it.
-/

namespace Sm7225
namespace Audio

open Lib

/-- {lit}`toString`: the pairs, joined by semicolons. -/
def AudioParameter.toString (param : AudioParameter) : String :=
  String.ofList (writePairs ';' '='
    (param.entries.map fun pair => (pair.1.toList, pair.2.toList)))

/-- What the vendor reads: it splits at semicolons and at the first equality sign. -/
def halPairs (text : String) : List (String × String) :=
  (readPairs ';' '=' text.toList).map fun pair =>
    (String.ofList pair.1, String.ofList pair.2)

def keyBtScoHeadsetName : String := "bt_headset_name"

/-- The name comes from the remote device. -/
def setBtScoHeadsetDebugName (name : String) (halStatus : Int) : ParametersM Result :=
  setParam keyBtScoHeadsetName name halStatus

/-- The calls that put texts of their caller into parameters. -/
inductive TextCall where
  | setParam (name value : String)
  | setBtScoHeadsetDebugName (name : String)
  | setParameters (target : Target) (context parameters : List ParameterValue)
      (answers : MixerAnswers)

def execText (halStatus : Int) : TextCall -> ParametersM Result
  | .setParam name value => setParam name value halStatus
  | .setBtScoHeadsetDebugName name => setBtScoHeadsetDebugName name halStatus
  | .setParameters target context parameters answers =>
      setParametersImpl target context parameters answers halStatus

/-!
# What is added and what is read
-/

namespace TextCall

def target : TextCall -> Target
  | .setParam _ _ => .device
  | .setBtScoHeadsetDebugName _ => .device
  | .setParameters target _ _ _ => target

/-- The value that a call adds for a key. -/
def added (key : String) : TextCall -> Option String
  | .setParam name value => if key = name then some value else none
  | .setBtScoHeadsetDebugName name => if key = keyBtScoHeadsetName then some name else none
  | .setParameters _ context parameters _ =>
      (lastSetting key parameters).or (lastValue key context)

/-- No delimiter stands in what a call adds. -/
def Undelimited (call : TextCall) : Prop :=
  forall key value, call.added key = some value ->
    ';' ∉ key.toList ∧ '=' ∉ key.toList ∧ ';' ∉ value.toList

end TextCall

/-- The vendor reads exactly the pairs that were added. -/
def AudioParameter.ReadsBack (param : AudioParameter) : Prop :=
  forall pair, pair ∈ halPairs param.toString <-> pair ∈ param.entries

/-- What the vendor has read for a key since an earlier state. -/
def AudioHal.Reads (hal after : AudioHal) (key value : String) : Prop :=
  exists param, param ∈ after.delivered.drop hal.delivered.length ∧
    (key, value) ∈ halPairs param.toString

/-!
# Texts and lists of characters
-/

def pairChars (pair : String × String) : List Char × List Char :=
  (pair.1.toList, pair.2.toList)

theorem pairChars_injective : Function.Injective pairChars := by
  intro first second h
  have hkey := String.toList_inj.mp (congrArg Prod.fst h)
  have hvalue := String.toList_inj.mp (congrArg Prod.snd h)
  exact Prod.ext hkey hvalue

theorem mem_halPairs (param : AudioParameter) (pair : String × String) :
    pair ∈ halPairs param.toString <->
      pairChars pair ∈ readPairs ';' '=' (writePairs ';' '=' (param.entries.map pairChars)) := by
  unfold halPairs AudioParameter.toString
  rw [String.toList_ofList, List.mem_map]
  constructor
  · rintro ⟨chars, hchars, heq⟩
    have hpair : pairChars pair = chars := by
      rw [← heq]
      exact Prod.ext String.toList_ofList String.toList_ofList
    rw [hpair]
    exact hchars
  · intro h
    exact ⟨pairChars pair, h, Prod.ext String.ofList_toList String.ofList_toList⟩

theorem readsBack_iff (param : AudioParameter) :
    param.ReadsBack <->
      forall pair, pair ∈ param.entries -> Legible ';' '=' (pairChars pair) := by
  have hmap : forall pair, pairChars pair ∈ param.entries.map pairChars <->
      pair ∈ param.entries := fun pair => List.mem_map_of_injective pairChars_injective
  have hread := @mem_readPairs_iff_legible Char _ ';' '=' (by decide)
    (param.entries.map pairChars)
  constructor
  · intro h pair hpair
    apply legible_of_mem_readPairs
    rw [← mem_halPairs]
    exact (h pair).mpr hpair
  · intro h pair
    rw [mem_halPairs, ← hmap]
    apply hread.mpr
    intro chars hchars
    rcases List.mem_map.mp hchars with ⟨other, hother, heq⟩
    rw [← heq]
    exact h other hother

/-!
# The calls
-/

def Delivers (call : TextCall) (hal after : AudioHal) : Prop :=
  exists param : AudioParameter, (forall key, param.find? key = call.added key) ∧
    after.delivered = hal.delivered ++ (if call.target = .scoStub then [] else [param])

theorem setParam_delivers (name value : String) (halStatus : Int) (hal : AudioHal) :
    Sat (setParam name value halStatus)
      (fun _ after => exists param : AudioParameter,
        (forall key, param.find? key = if key = name then some value else none) ∧
          after.delivered = hal.delivered ++ [param])
      (fun _ _ => False) hal := by
  apply (setParams_sat .device (KeyedVector.empty.add name value) halStatus hal).imp
  intro _ after hafter
  refine ⟨_, ?_, hafter.2⟩
  intro key
  rw [KeyedVector.find_add]
  rfl

theorem setParametersImpl_delivers (target : Target)
    (context parameters : List ParameterValue) (answers : MixerAnswers) (halStatus : Int)
    (hal : AudioHal) :
    Sat (setParametersImpl target context parameters answers halStatus)
      (fun _ after => Delivers (.setParameters target context parameters answers) hal after)
      (fun _ _ => False) hal := by
  apply (setParametersImpl_sat target context parameters answers halStatus hal).imp
  rintro _ after ⟨param, mid, hmerged, _, hdelivered⟩
  refine ⟨param, ?_, hdelivered⟩
  intro key
  rw [hmerged.settings, find_context]
  rfl

theorem execText_delivers (halStatus : Int) (call : TextCall) (hal : AudioHal) :
    Sat (execText halStatus call) (fun _ after => Delivers call hal after)
      (fun _ _ => False) hal := by
  cases call with
  | setParam name value => exact setParam_delivers name value halStatus hal
  | setBtScoHeadsetDebugName name =>
      exact setParam_delivers keyBtScoHeadsetName name halStatus hal
  | setParameters target context parameters answers =>
      exact setParametersImpl_delivers target context parameters answers halStatus hal

theorem readsBack_iff_undelimited {call : TextCall} {param : AudioParameter}
    (hparam : forall key, param.find? key = call.added key) :
    param.ReadsBack <-> call.Undelimited := by
  rw [readsBack_iff]
  constructor
  · intro h key value hadded
    rw [← hparam, KeyedVector.find_eq_some] at hadded
    have hlegible := h (key, value) hadded
    exact ⟨hlegible.key_sep, hlegible.key_sign, hlegible.value_sep⟩
  · intro h pair hpair
    have hadded := (KeyedVector.find_eq_some param pair.1 pair.2).mpr hpair
    rw [hparam] at hadded
    rcases h pair.1 pair.2 hadded with ⟨hkey_sep, hkey_sign, hvalue_sep⟩
    exact ⟨hkey_sep, hkey_sign, hvalue_sep⟩

theorem Delivers.reads_iff {call : TextCall} {hal after : AudioHal}
    (h : Delivers call hal after) (hundelimited : call.Undelimited) (key value : String) :
    hal.Reads after key value <->
      call.target ≠ .scoStub ∧ call.added key = some value := by
  rcases h with ⟨param, hparam, hdelivered⟩
  have hnew : after.delivered.drop hal.delivered.length =
      if call.target = .scoStub then [] else [param] := by
    rw [hdelivered]
    exact List.drop_left
  have hback := (readsBack_iff_undelimited hparam).mpr hundelimited
  unfold AudioHal.Reads
  rw [hnew]
  by_cases hstub : call.target = .scoStub
  · rw [if_pos hstub]
    constructor
    · rintro ⟨other, hother, _⟩
      cases hother
    · rintro ⟨hreal, _⟩
      exact absurd hstub hreal
  · rw [if_neg hstub, ← hparam, KeyedVector.find_eq_some, ← hback]
    constructor
    · rintro ⟨other, hother, hread⟩
      rw [List.mem_singleton.mp hother] at hread
      exact ⟨hstub, hread⟩
    · rintro ⟨_, hread⟩
      exact ⟨param, List.mem_singleton_self param, hread⟩

theorem added_debugName (key name : String) :
    (TextCall.setBtScoHeadsetDebugName name).added key =
      if key = keyBtScoHeadsetName then some name else none := rfl

theorem added_wideband_debugName (name : String) :
    (TextCall.setBtScoHeadsetDebugName name).added keyBtWbs = none := by
  rw [added_debugName]
  exact if_neg (by decide)

theorem undelimited_debugName (name : String) :
    (TextCall.setBtScoHeadsetDebugName name).Undelimited <-> ';' ∉ name.toList := by
  constructor
  · intro h
    have hadded := (added_debugName keyBtScoHeadsetName name).trans (if_pos rfl)
    exact (h keyBtScoHeadsetName name hadded).2.2
  · intro h key value hadded
    rw [added_debugName] at hadded
    rcases Option.ite_none_right_eq_some.mp hadded with ⟨hkey, hvalue⟩
    rw [hkey, ← Option.some.inj hvalue]
    exact ⟨by decide, by decide, h⟩

/-- The vendor reads exactly what a call adds if and only if no delimiter is in it.  Then
what it reads for a key depends on the value of this key alone. -/
theorem texts_read_back (halStatus halStatus' : Int) (call : TextCall) (hal : AudioHal) :
    Sat (execText halStatus call)
      (fun _ after =>
        (exists param : AudioParameter, (forall key, param.find? key = call.added key) ∧
          after.delivered = hal.delivered ++ (if call.target = .scoStub then [] else [param]) ∧
          (param.ReadsBack <-> call.Undelimited)) ∧
        forall (other : TextCall) (hal' : AudioHal),
          call.Undelimited -> other.Undelimited -> call.target = other.target ->
            Sat (execText halStatus' other)
              (fun _ after' => forall key, call.added key = other.added key ->
                forall value, hal.Reads after key value <-> hal'.Reads after' key value)
              (fun _ _ => False) hal')
      (fun _ _ => False) hal := by
  apply (execText_delivers halStatus call hal).imp
  intro _ after hafter
  constructor
  · rcases hafter with ⟨param, hparam, hdelivered⟩
    exact ⟨param, hparam, hdelivered, readsBack_iff_undelimited hparam⟩
  · intro other hal' hcall hother htarget
    apply (execText_delivers halStatus' other hal').imp
    intro _ after' hafter' key hsame value
    rw [hafter.reads_iff hcall, hafter'.reads_iff hother, htarget, hsame]

/-- Two names without semicolons are the same for wideband speech. -/
theorem texts_read_back_names :
    Sat (execText 0 (.setBtScoHeadsetDebugName "Car"))
      (fun _ after =>
        Sat (execText 0 (.setBtScoHeadsetDebugName "bt_wbs=on"))
          (fun _ after' => forall value,
            (AudioHal.initial fun _ => 0).Reads after keyBtWbs value <->
              (AudioHal.initial fun _ => 0).Reads after' keyBtWbs value)
          (fun _ _ => False) (AudioHal.initial fun _ => 0))
      (fun _ _ => False) (AudioHal.initial fun _ => 0) := by
  apply (texts_read_back 0 0 (.setBtScoHeadsetDebugName "Car")
    (AudioHal.initial fun _ => 0)).imp
  intro _ after hafter
  have hcar := (undelimited_debugName "Car").mpr (by decide)
  have hwideband := (undelimited_debugName "bt_wbs=on").mpr (by decide)
  apply (hafter.2 (.setBtScoHeadsetDebugName "bt_wbs=on") (AudioHal.initial fun _ => 0)
    hcar hwideband rfl).imp
  intro _ after' hsame
  apply hsame keyBtWbs
  rw [added_wideband_debugName, added_wideband_debugName]

/-- A headset with this name turns wideband speech on. -/
theorem debugName_brings_wideband :
    Sat (execText 0 (.setBtScoHeadsetDebugName "x;bt_wbs=on"))
        (fun _ after =>
          (AudioHal.initial fun _ => 0).Reads after keyBtWbs valueOn ∧
            forall param, param ∈ after.delivered -> ¬ param.ReadsBack)
        (fun _ _ => False) (AudioHal.initial fun _ => 0) ∧
      Sat (execText 0 (.setBtScoHeadsetDebugName "x"))
        (fun _ after => forall value,
          ¬ (AudioHal.initial fun _ => 0).Reads after keyBtWbs value)
        (fun _ _ => False) (AudioHal.initial fun _ => 0) := by
  constructor
  · refine ⟨⟨_, List.mem_singleton_self _, by decide⟩, ?_⟩
    intro param hparam hback
    rw [List.mem_singleton.mp hparam] at hback
    have hread := (hback (keyBtWbs, valueOn)).mp (by decide)
    revert hread
    decide
  · apply (execText_delivers 0 (.setBtScoHeadsetDebugName "x")
      (AudioHal.initial fun _ => 0)).imp
    intro _ after hafter value hread
    have hundelimited := (undelimited_debugName "x").mpr (by decide)
    have hadded := ((hafter.reads_iff hundelimited keyBtWbs value).mp hread).2
    rw [added_wideband_debugName] at hadded
    cases hadded

end Audio
end Sm7225
