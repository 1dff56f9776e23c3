import Mathlib.Logic.Function.Basic
import Sm7225.Lib.Prog

/-!
# The strategy of the display extension

{lit}`GpuOnlyStrategy` composes every application layer on the GPU and programs
the one target that the GPU has drawn.  The display core calls it for each
frame.  The objects of the core, its layers and its {lit}`HWLayers`, are known
to the strategy by pointers and live in a memory of their own.
-/

namespace Sm7225
namespace Sdmext

open Lib

/-!
# What the headers of the core provide
-/

structure LayerRect (ρ : Type) where
  left : ρ
  top : ρ
  right : ρ
  bottom : ρ
  deriving DecidableEq, Repr

structure LayerTransform (ρ : Type) where
  rotation : ρ
  flipHorizontal : Bool
  flipVertical : Bool
  deriving DecidableEq, Repr

/-- The types and functions of the core that the strategy uses without looking
into them.  A layer has more data than its composition, its request, its
transform and its rectangle. -/
structure SdmCore where
  Coord : Type
  LayerData : Type
  LayerExt : Type
  PrimariesTransfer : Type
  float : Nat -> Coord
  transformHV : LayerRect Coord -> LayerRect Coord -> LayerTransform Coord ->
    LayerRect Coord
  mapRect : LayerRect Coord -> LayerRect Coord -> LayerRect Coord ->
    LayerRect Coord

/-- {lit}`LayerComposition`: the GPU, or another engine. -/
inductive LayerComposition where
  | kCompositionGPU
  | other (code : Nat)
  deriving DecidableEq, Repr

inductive DisplayError where
  | kErrorNone
  | kErrorNotSupported
  deriving DecidableEq, Repr

/-!
# Objects of the core
-/

abbrev LayerPtr := Nat

abbrev HWLayersPtr := Nat

structure Layer (core : SdmCore) where
  composition : LayerComposition
  requestFlags : Nat
  transform : LayerTransform core.Coord
  dstRect : LayerRect core.Coord
  data : core.LayerData

structure HWLayersInfo (core : SdmCore) where
  -- the layers of the stack it points to
  stack : List LayerPtr
  appLayerCount : Nat
  gpuTargetIndex : Nat
  hwLayers : List (Layer core)
  index : List Nat
  roiIndex : List Nat
  layerExts : List core.LayerExt
  wideColorPrimaries : List core.PrimariesTransfer

structure HWQosData where
  clockHz : Nat
  coreAbBps : Nat
  llccAbBps : Nat
  dramAbBps : Nat
  dramIbBps : Nat
  deriving DecidableEq, Repr

/-- {lit}`HWLayers`, whose first member is its {lit}`HWLayersInfo`. -/
structure HWLayers (core : SdmCore) where
  info : HWLayersInfo core
  qosData : HWQosData

structure Memory (core : SdmCore) where
  hwLayers : HWLayersPtr -> HWLayers core
  layers : LayerPtr -> Layer core

/-!
# The strategy object
-/

structure HWPanelInfo where
  flipHorizontal : Bool
  flipVertical : Bool
  deriving DecidableEq, Repr

structure HWMixerAttributes where
  width : Nat
  height : Nat
  deriving DecidableEq, Repr

structure DisplayConfigVariableInfo where
  xPixels : Nat
  yPixels : Nat
  deriving DecidableEq, Repr

/-- What the core tells the strategy at its construction and again with
{lit}`Reconfigure`. -/
structure Config where
  hwPanelInfo : HWPanelInfo
  mixerAttributes : HWMixerAttributes
  fbConfig : DisplayConfigVariableInfo
  deriving DecidableEq, Repr

structure GpuOnlyStrategy where
  hwLayersInfo : Option HWLayersPtr
  config : Config
  disableGpuComp : Bool
  deriving DecidableEq, Repr

def GpuOnlyStrategy.new (config : Config) : GpuOnlyStrategy where
  hwLayersInfo := none
  config := config
  disableGpuComp := false

structure Display (core : SdmCore) extends Memory core where
  strategy : GpuOnlyStrategy

/-- Why a call does not return: it follows a null pointer, or {lit}`at` throws
{lit}`out_of_range`. -/
inductive Abort where
  | nullHWLayersInfo
  | outOfRange
  deriving DecidableEq, Repr

abbrev Sdm (core : SdmCore) (α : Type) : Type := EStateM Abort (Display core) α

variable {core : SdmCore}

/-- Change the {lit}`HWLayersInfo` behind a pointer. -/
def Display.modifyInfo (s : Display core) (ptr : HWLayersPtr)
    (f : HWLayersInfo core -> HWLayersInfo core) : Display core :=
  { s with
    hwLayers := Function.update s.hwLayers ptr
      ({ s.hwLayers ptr with info := f (s.hwLayers ptr).info }) }

/-- Set the votes in the {lit}`HWLayers` behind a pointer. -/
def Display.vote (s : Display core) (ptr : HWLayersPtr) (qosData : HWQosData) :
    Display core :=
  { s with
    hwLayers := Function.update s.hwLayers ptr
      ({ s.hwLayers ptr with qosData := qosData }) }

def Display.modifyLayer (s : Display core) (ptr : LayerPtr)
    (f : Layer core -> Layer core) : Display core :=
  { s with layers := Function.update s.layers ptr (f (s.layers ptr)) }

/-!
# Start
-/

/-- The loop of {lit}`Start` that trims {lit}`wide_color_primaries` from the
front. -/
def trimFront {α : Type} (appLayerCount : Nat) : List α -> List α
  | [] => []
  | entry :: rest =>
      if appLayerCount < (entry :: rest).length then
        trimFront appLayerCount rest
      else
        entry :: rest

/-- What {lit}`Start` does to the vectors of the frame. -/
def HWLayersInfo.startFrame (info : HWLayersInfo core) : HWLayersInfo core :=
  { info with
    hwLayers := []
    index := []
    roiIndex := []
    layerExts := []
    wideColorPrimaries := trimFront info.appLayerCount info.wideColorPrimaries }

/-- {lit}`Start`, with the number of attempts it allows. -/
def start (ptr : HWLayersPtr) : Sdm core (DisplayError × Nat) := do
  modify fun s => { s with strategy.hwLayersInfo := some ptr }
  modify fun s => s.modifyInfo ptr HWLayersInfo.startFrame
  return (.kErrorNone, 1)

/-!
# GetNextStrategy
-/

def layerAt (stack : List LayerPtr) (i : Nat) : Sdm core LayerPtr :=
  match stack[i]? with
  | some ptr => pure ptr
  | none => throw .outOfRange

def Layer.markGpu (layer : Layer core) : Layer core :=
  { layer with composition := .kCompositionGPU, requestFlags := 0 }

/-- The loop over the application layers, from the layer {lit}`i` on. -/
def markAppLayers (stack : List LayerPtr) : Nat -> Nat -> Sdm core Unit
  | 0, _ => pure ()
  | n + 1, i => do
      let ptr ← layerAt stack i
      modify fun s => s.modifyLayer ptr Layer.markGpu
      markAppLayers stack n (i + 1)

/-- The layer that is programmed for the GPU target. -/
def Config.target (config : Config) (gpuTargetLayer : Layer core) : Layer core :=
  let srcDomain : LayerRect core.Coord := {
    left := core.float 0
    top := core.float 0
    right := core.float config.fbConfig.xPixels
    bottom := core.float config.fbConfig.yPixels }
  let dstDomain : LayerRect core.Coord := {
    left := core.float 0
    top := core.float 0
    right := core.float config.mixerAttributes.width
    bottom := core.float config.mixerAttributes.height }
  let transform : LayerTransform core.Coord := {
    gpuTargetLayer.transform with
    flipHorizontal := xor gpuTargetLayer.transform.flipHorizontal
      config.hwPanelInfo.flipHorizontal
    flipVertical := xor gpuTargetLayer.transform.flipVertical
      config.hwPanelInfo.flipVertical }
  { gpuTargetLayer with
    transform := transform
    dstRect := core.mapRect srcDomain dstDomain
      (core.transformHV srcDomain gpuTargetLayer.dstRect transform) }

/-- The votes of the stock stack for the panel. -/
def stockVotes : HWQosData where
  clockHz := 266313600
  coreAbBps := 2032878250
  llccAbBps := 2032878250
  dramAbBps := 2032878250
  dramIbBps := 1600000000

def HWLayersInfo.program (info : HWLayersInfo core) (layer : Layer core) :
    HWLayersInfo core :=
  { info with
    index := info.index ++ [info.gpuTargetIndex]
    roiIndex := info.roiIndex ++ [0]
    hwLayers := info.hwLayers ++ [layer] }

def getNextStrategy : Sdm core DisplayError := do
  let s ← get
  if s.strategy.disableGpuComp then
    return .kErrorNotSupported
  else
    match s.strategy.hwLayersInfo with
    | none => throw .nullHWLayersInfo
    | some ptr =>
        let info := (s.hwLayers ptr).info
        if info.gpuTargetIndex = 0 then
          return .kErrorNotSupported
        else
          markAppLayers info.stack info.appLayerCount 0
          let gpuTargetLayer ← layerAt info.stack info.gpuTargetIndex
          let s ← get
          let layer := s.strategy.config.target (s.layers gpuTargetLayer)
          modify fun s => s.modifyInfo ptr fun info => info.program layer
          modify fun s => s.vote ptr stockVotes
          return .kErrorNone

/-!
# Other calls
-/

def stop : Sdm core DisplayError :=
  pure .kErrorNone

def reconfigure (config : Config) : Sdm core DisplayError := do
  modify fun s => { s with strategy.config := config }
  return .kErrorNone

def setCompositionState (compositionType : LayerComposition) (enable : Bool) :
    Sdm core DisplayError := do
  if compositionType = .kCompositionGPU then
    modify fun s => { s with strategy.disableGpuComp := !enable }
    return .kErrorNone
  else
    return .kErrorNone

end Sdmext
end Sm7225
