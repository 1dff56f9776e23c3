import Mathlib.Data.String.Basic
import Mathlib.Logic.Function.Basic
import Sm7225.Lib.Run
import Sm7225.Lib.KeyedVector
import Sm7225.Audio.Types

/-!
# Parameters for the vendor

Clients set parameters with lists of keys and values.  On this way the setting for
wideband speech is completed with the sample rate that the vendor wants, and a
rotation goes to the mixer and not to the vendor.  Two setters of the primary
device go past this.  Keys and values are C texts: they are compared and passed on
as {lit}`c_str()` gives them, without what comes after a zero byte.
-/

namespace Sm7225
namespace Audio

open Lib

structure ParameterValue where
  key : String
  value : String
  deriving DecidableEq, Repr

/-- {lit}`AudioParameter`, whose string spells out these entries. -/
abbrev AudioParameter := KeyedVector String String

def keyBtWbs : String := "bt_wbs"

def keyScoSampleRate : String := "g_sco_samplerate"

def keyRotation : String := "rotation"

def valueOn : String := "on"

def valueOff : String := "off"

/-- Who gets the parameters: the vendor's device, one of its streams, or a stub
stream, which ignores them. -/
inductive Target where
  | device
  | stream
  | scoStub
  deriving DecidableEq, Repr

/-- What the mixer answers: whether it opens, which controls it has and which
take a value. -/
structure MixerAnswers where
  opens : Bool
  finds : String -> Bool
  takes : String -> Bool

/-- What the parameters have been delivered to, oldest first, and the values of
the mixer's controls. -/
structure AudioHal where
  delivered : List AudioParameter
  mixer : String -> Int

abbrev ParametersM (α : Type) := EStateM Empty AudioHal α

/-!
# The mixer
-/

structure SlotPositions where
  fl : Int
  fr : Int
  rl : Int
  rr : Int
  deriving DecidableEq, Repr

def SLOT_POSITIONS_0 : SlotPositions := { fl := 0, fr := 1, rl := 0, rr := 1 }

def SLOT_POSITIONS_90 : SlotPositions := { fl := 1, fr := 1, rl := 0, rr := 0 }

def SLOT_POSITIONS_180 : SlotPositions := { fl := 1, fr := 0, rl := 1, rr := 0 }

def SLOT_POSITIONS_270 : SlotPositions := { fl := 0, fr := 0, rl := 1, rr := 1 }

def setMixerValueByName (answers : MixerAnswers) (name : String) (value : Int) :
    ParametersM Unit :=
  if !answers.finds name then
    pure ()
  else if !answers.takes name then
    pure ()
  else
    modify fun hal => { hal with mixer := Function.update hal.mixer name value }

def flSlot : String := "FL ASPRX1 Slot Position"

def frSlot : String := "FR ASPRX1 Slot Position"

def rlSlot : String := "RL ASPRX1 Slot Position"

def rrSlot : String := "RR ASPRX1 Slot Position"

def setSlotPositions (answers : MixerAnswers) (values : SlotPositions) :
    ParametersM Unit :=
  if !answers.opens then
    pure ()
  else do
    setMixerValueByName answers flSlot values.fl
    setMixerValueByName answers frSlot values.fr
    setMixerValueByName answers rlSlot values.rl
    setMixerValueByName answers rrSlot values.rr

/-!
# Setting parameters
-/

/-- {lit}`setParams`, with the status that the target answers. -/
def setParams (target : Target) (param : AudioParameter) (halStatus : Int) :
    ParametersM Result :=
  if target = .scoStub then
    return analyzeStatus 0
  else do
    modify fun hal => { hal with delivered := hal.delivered ++ [param] }
    return analyzeStatus halStatus

/-- {lit}`setParam` for a text, of the device. -/
def setParam (name value : String) (halStatus : Int) : ParametersM Result :=
  setParams .device (KeyedVector.empty.add name value) halStatus

def addAll : List ParameterValue -> AudioParameter -> AudioParameter
  | [], params => params
  | pair :: rest, params => addAll rest (params.add pair.key pair.value)

/-- The branch for the key {lit}`rotation`. -/
def setRotation (answers : MixerAnswers) (value : String) : ParametersM Unit :=
  if value = "0" then setSlotPositions answers SLOT_POSITIONS_0
  else if value = "90" then setSlotPositions answers SLOT_POSITIONS_90
  else if value = "180" then setSlotPositions answers SLOT_POSITIONS_180
  else if value = "270" then setSlotPositions answers SLOT_POSITIONS_270
  else pure ()

def scoSampleRate (value : String) : String :=
  if value = valueOn then "16000" else "8000"

def addParameters (answers : MixerAnswers) :
    List ParameterValue -> AudioParameter -> ParametersM AudioParameter
  | [], params => pure params
  | parameter :: rest, params =>
      if parameter.key = keyBtWbs then
        addParameters answers rest
          ((params.add keyScoSampleRate (scoSampleRate parameter.value)).add
            parameter.key parameter.value)
      else if parameter.key = keyRotation then do
        setRotation answers parameter.value
        addParameters answers rest params
      else
        addParameters answers rest (params.add parameter.key parameter.value)

def setParametersImpl (target : Target) (context parameters : List ParameterValue)
    (answers : MixerAnswers) (halStatus : Int) : ParametersM Result := do
  let params := addAll context KeyedVector.empty
  let params ← addParameters answers parameters params
  setParams target params halStatus

/-!
# The primary device
-/

def setBtScoWidebandEnabled (enabled : Bool) (halStatus : Int) :
    ParametersM Result :=
  setParam keyBtWbs (if enabled then valueOn else valueOff) halStatus

inductive Rotation where
  | DEG_0
  | DEG_90
  | DEG_180
  | DEG_270
  deriving DecidableEq, Repr

def Rotation.degree : Rotation -> String
  | .DEG_0 => "0"
  | .DEG_90 => "90"
  | .DEG_180 => "180"
  | .DEG_270 => "270"

def updateRotation (rotation : Rotation) (halStatus : Int) : ParametersM Result :=
  setParam keyRotation rotation.degree halStatus

/-!
# Calls
-/

inductive ParametersCall where
  | setParameters (target : Target) (context parameters : List ParameterValue)
      (answers : MixerAnswers) (halStatus : Int)
  | setBtScoWidebandEnabled (enabled : Bool) (halStatus : Int)
  | updateRotation (rotation : Rotation) (halStatus : Int)

def execParameters : ParametersCall -> ParametersM Result
  | .setParameters target context parameters answers halStatus =>
      setParametersImpl target context parameters answers halStatus
  | .setBtScoWidebandEnabled enabled halStatus =>
      setBtScoWidebandEnabled enabled halStatus
  | .updateRotation rotation halStatus => updateRotation rotation halStatus

end Audio
end Sm7225
