import Mathlib.Data.List.GetD
import Sm7225.Lib.Run
import Sm7225.Sdmext.Strategy

/-!
# Frames

The core prepares its objects, calls {lit}`Start`, and asks once for a strategy.
Between these calls it may reconfigure the strategy.  Every frame of every run
programs exactly its own GPU target.
-/

namespace Sm7225
namespace Sdmext

open Lib

variable {core : SdmCore}

/-!
# Commands
-/

/-- The calls that do not belong to a frame. -/
inductive ConfigCommand where
  | stop
  | reconfigure (config : Config)
  | setCompositionState (compositionType : LayerComposition) (enable : Bool)
  deriving DecidableEq, Repr

inductive Command (core : SdmCore) where
  -- the core writes to its own objects, and leaves anything in them
  | prepare (memory : Memory core)
  | start (ptr : HWLayersPtr)
  | getNextStrategy
  | config (command : ConfigCommand)

def execConfig : ConfigCommand -> Sdm core DisplayError
  | .stop => stop
  | .reconfigure config => reconfigure config
  | .setCompositionState compositionType enable =>
      setCompositionState compositionType enable

def exec : Command core -> Sdm core DisplayError
  | .prepare memory => do
      modify fun s => { s with toMemory := memory }
      return .kErrorNone
  | .start ptr => do
      let r ← start ptr
      return r.1
  | .getNextStrategy => getNextStrategy
  | .config command => execConfig command

/-- The configuration of the latest {lit}`Reconfigure`. -/
def latestConfig (config : Config) : List (Command core) -> Config
  | [] => config
  | .config (.reconfigure config') :: rest => latestConfig config' rest
  | _ :: rest => latestConfig config rest

/-- GPU composition is disabled after the latest {lit}`SetCompositionState` for it. -/
def latestDisabled (disabled : Bool) : List (Command core) -> Bool
  | [] => disabled
  | .config (.setCompositionState .kCompositionGPU enable) :: rest =>
      latestDisabled (!enable) rest
  | _ :: rest => latestDisabled disabled rest

/-- One frame: what is in the objects of the core when it starts, the object that
is passed to {lit}`Start`, and the calls before it and after it. -/
structure Frame (core : SdmCore) where
  memory : Memory core
  ptr : HWLayersPtr
  before : List ConfigCommand
  between : List ConfigCommand

namespace Frame

variable (frame : Frame core)

/-- The frame up to its request for a strategy. -/
def opening : List (Command core) :=
  frame.before.map .config ++ [.prepare frame.memory, .start frame.ptr] ++
    frame.between.map .config

def commands : List (Command core) :=
  frame.opening ++ [.getNextStrategy]

def info : HWLayersInfo core := (frame.memory.hwLayers frame.ptr).info

def appLayers : List LayerPtr := frame.info.stack.take frame.info.appLayerCount

def gpuTarget : LayerPtr := frame.info.stack.getD frame.info.gpuTargetIndex 0

/-- The application layers are the first layers of the stack, and the GPU target
is another one behind them. -/
structure Proper : Prop where
  apps : frame.info.appLayerCount <= frame.info.gpuTargetIndex
  target : frame.info.gpuTargetIndex < frame.info.stack.length
  distinct : frame.gpuTarget ∉ frame.appLayers

end Frame

/-- The strategy is new, and nothing is known of the objects of the core. -/
def Display.initial (config : Config) (memory : Memory core) : Display core where
  toMemory := memory
  strategy := GpuOnlyStrategy.new config

/-!
# What the functions do
-/

@[simp] theorem Layer.markGpu_markGpu (layer : Layer core) :
    layer.markGpu.markGpu = layer.markGpu := rfl

/-- The layers after those behind the pointers {lit}`apps` are marked. -/
def Display.marked (s : Display core) (apps : List LayerPtr) : Display core :=
  { s with
    layers := fun ptr =>
      if ptr ∈ apps then (s.layers ptr).markGpu else s.layers ptr }

theorem Display.marked_nil (s : Display core) : s.marked [] = s := rfl

theorem Display.modifyLayer_marked (s : Display core) (ptr : LayerPtr)
    (apps : List LayerPtr) :
    (s.modifyLayer ptr Layer.markGpu).marked apps = s.marked (ptr :: apps) := by
  unfold Display.marked Display.modifyLayer
  congr 2
  funext other
  by_cases hother : other = ptr
  · rw [hother]
    simp
  · simp [hother]

theorem layerAt_sat {stack : List LayerPtr} {i : Nat} (hi : i < stack.length)
    (s : Display core) :
    Sat (layerAt stack i) (fun ptr t => ptr = stack.getD i 0 ∧ t = s)
      (fun _ _ => False) s := by
  unfold layerAt
  rw [List.getElem?_eq_getElem hi]
  exact ⟨(List.getD_eq_getElem stack 0 hi).symm, rfl⟩

theorem markAppLayers_sat {stack : List LayerPtr} (n i : Nat)
    (hn : i + n <= stack.length) (s : Display core) :
    Sat (markAppLayers stack n i)
      (fun _ t => t = s.marked ((stack.drop i).take n)) (fun _ _ => False) s := by
  induction n generalizing i s with
  | zero =>
      rw [List.take_zero, Display.marked_nil]
      exact rfl
  | succ n ih =>
      have hi : i < stack.length := by lia
      have htake : (stack.drop i).take (n + 1) =
          stack.getD i 0 :: (stack.drop (i + 1)).take n := by
        rw [List.drop_eq_getElem_cons hi, List.take_succ_cons,
          List.getD_eq_getElem stack 0 hi]
      unfold markAppLayers
      apply (layerAt_sat hi s).bind
      intro ptr t ht
      rw [ht.1, ht.2, sat_bind, sat_modify]
      apply (ih (i + 1) (by lia) _).imp
      intro _ u hu
      rw [hu, Display.modifyLayer_marked, htake]

/-!
# The configuration
-/

theorem latestConfig_append (config : Config) (commands rest : List (Command core)) :
    latestConfig config (commands ++ rest) =
      latestConfig (latestConfig config commands) rest := by
  induction commands generalizing config with
  | nil => rfl
  | cons command commands ih =>
      cases command with
      | config command => cases command <;> exact ih _
      | _ => exact ih _

theorem latestDisabled_append (disabled : Bool) (commands rest : List (Command core)) :
    latestDisabled disabled (commands ++ rest) =
      latestDisabled (latestDisabled disabled commands) rest := by
  induction commands generalizing disabled with
  | nil => rfl
  | cons command commands ih =>
      cases command with
      | config command =>
          cases command with
          | setCompositionState compositionType enable =>
              cases compositionType with
              | kCompositionGPU => exact ih _
              | other code => exact ih _
          | _ => exact ih _
      | _ => exact ih _

/-- The strategy has the configuration and the state of the GPU composition that the
commands have set, beginning with those of {lit}`s`. -/
structure Display.UpToDate (s : Display core) (commands : List (Command core))
    (t : Display core) : Prop where
  config : t.strategy.config = latestConfig s.strategy.config commands
  disabled : t.strategy.disableGpuComp =
    latestDisabled s.strategy.disableGpuComp commands

theorem Display.UpToDate.append {s t u : Display core} {commands rest : List (Command core)}
    (h : s.UpToDate commands t) (h' : t.UpToDate rest u) :
    s.UpToDate (commands ++ rest) u where
  config := by rw [h'.config, h.config, latestConfig_append]
  disabled := by rw [h'.disabled, h.disabled, latestDisabled_append]

theorem execConfig_sat (command : ConfigCommand) (s : Display core) :
    Sat (execConfig command)
      (fun _ t =>
        t.toMemory = s.toMemory ∧
          t.strategy.hwLayersInfo = s.strategy.hwLayersInfo ∧
          s.UpToDate [.config command] t)
      (fun _ _ => False) s := by
  cases command with
  | stop => exact ⟨rfl, rfl, rfl, rfl⟩
  | reconfigure config => exact ⟨rfl, rfl, rfl, rfl⟩
  | setCompositionState compositionType enable =>
      show Sat (setCompositionState compositionType enable) _ _ s
      unfold setCompositionState
      rw [sat_ite]
      cases compositionType with
      | kCompositionGPU => exact ⟨fun _ => ⟨rfl, rfl, rfl, rfl⟩, fun h => absurd rfl h⟩
      | other code => exact ⟨nofun, fun _ => ⟨rfl, rfl, rfl, rfl⟩⟩

theorem run_config_sat (commands : List ConfigCommand) (s : Display core) :
    Sat (run exec (commands.map .config))
      (fun _ t =>
        t.toMemory = s.toMemory ∧
          t.strategy.hwLayersInfo = s.strategy.hwLayersInfo ∧
          s.UpToDate (commands.map .config) t)
      (fun _ _ => False) s := by
  induction commands generalizing s with
  | nil => exact ⟨rfl, rfl, rfl, rfl⟩
  | cons command commands ih =>
      show Sat (do
        let r ← exec (.config command)
        let rs ← run exec (commands.map .config)
        pure (r :: rs)) _ _ s
      apply (execConfig_sat command s).bind
      intro _ t ht
      rw [sat_bind]
      apply (ih t).imp
      intro _ u hu
      rw [sat_pure]
      exact ⟨hu.1.trans ht.1, hu.2.1.trans ht.2.1, ht.2.2.append hu.2.2⟩

/-!
# One frame
-/

namespace Frame

/-- The core has called {lit}`Start` for the frame. -/
structure Started (frame : Frame core) (s : Display core) : Prop where
  strategy : s.strategy.hwLayersInfo = some frame.ptr
  info : (s.hwLayers frame.ptr).info = frame.info.startFrame
  layers : s.layers = frame.memory.layers

theorem opening_sat (frame : Frame core) (s : Display core) :
    Sat (run exec frame.opening)
      (fun _ t => frame.Started t ∧ s.UpToDate frame.opening t)
      (fun _ _ => False) s := by
  unfold opening
  rw [sat_run_append, sat_run_append]
  apply (run_config_sat frame.before s).imp
  intro _ t ht
  show Sat (run exec (frame.between.map .config)) _ _
    (({ t with
        toMemory := frame.memory
        strategy.hwLayersInfo := some frame.ptr } : Display core).modifyInfo
      frame.ptr HWLayersInfo.startFrame)
  apply (run_config_sat frame.between _).imp
  intro _ u hu
  constructor
  · constructor
    · exact hu.2.1
    · rw [hu.1]
      simp [Display.modifyInfo, Frame.info]
    · rw [hu.1]
      rfl
  · have hstart : t.UpToDate [.prepare frame.memory, .start frame.ptr]
        (({ t with
            toMemory := frame.memory
            strategy.hwLayersInfo := some frame.ptr } : Display core).modifyInfo
          frame.ptr HWLayersInfo.startFrame) := ⟨rfl, rfl⟩
    exact (ht.2.2.append hstart).append hu.2.2

end Frame

/-!
# The strategy of a frame
-/

def SdmCore.domain (core : SdmCore) (width height : Nat) :
    LayerRect core.Coord where
  left := core.float 0
  top := core.float 0
  right := core.float width
  bottom := core.float height

/-- A copy of the GPU target whose flips are combined once with those of the
panel, and whose destination, flipped likewise, is mapped from the framebuffer to
the mixer. -/
structure Layer.IsTargetOf (layer : Layer core) (config : Config)
    (gpuTarget : Layer core) : Prop where
  composition : layer.composition = gpuTarget.composition
  requestFlags : layer.requestFlags = gpuTarget.requestFlags
  data : layer.data = gpuTarget.data
  rotation : layer.transform.rotation = gpuTarget.transform.rotation
  flipHorizontal : layer.transform.flipHorizontal =
    xor gpuTarget.transform.flipHorizontal config.hwPanelInfo.flipHorizontal
  flipVertical : layer.transform.flipVertical =
    xor gpuTarget.transform.flipVertical config.hwPanelInfo.flipVertical
  dstRect : layer.dstRect =
    core.mapRect (core.domain config.fbConfig.xPixels config.fbConfig.yPixels)
      (core.domain config.mixerAttributes.width config.mixerAttributes.height)
      (core.transformHV
        (core.domain config.fbConfig.xPixels config.fbConfig.yPixels)
        gpuTarget.dstRect layer.transform)

theorem Config.target_isTargetOf (config : Config) (gpuTarget : Layer core) :
    (config.target gpuTarget).IsTargetOf config gpuTarget := by
  constructor <;> rfl

namespace Frame

/-- The frame's own GPU target is programmed, and nothing else.  The layers of the
frame are compared with those that the core has prepared. -/
structure Programmed (frame : Frame core) (config : Config) (t : Display core) :
    Prop where
  target : exists layer, (t.hwLayers frame.ptr).info.hwLayers = [layer] ∧
    layer.IsTargetOf config (frame.memory.layers frame.gpuTarget)
  index : (t.hwLayers frame.ptr).info.index = [frame.info.gpuTargetIndex]
  roiIndex : (t.hwLayers frame.ptr).info.roiIndex = [0]
  layerExts : (t.hwLayers frame.ptr).info.layerExts = []
  stack : (t.hwLayers frame.ptr).info.stack = frame.info.stack
  apps : forall ptr, ptr ∈ frame.appLayers ->
    t.layers ptr = { frame.memory.layers ptr with
      composition := .kCompositionGPU
      requestFlags := 0 }
  others : forall ptr, ptr ∉ frame.appLayers ->
    t.layers ptr = frame.memory.layers ptr
  gpuTarget : t.layers frame.gpuTarget = frame.memory.layers frame.gpuTarget

theorem programmed_of_program {frame : Frame core} (hframe : frame.Proper)
    {s : Display core} (hs : frame.Started s) :
    frame.Programmed s.strategy.config
      (((s.marked frame.appLayers).modifyInfo frame.ptr fun info =>
        info.program (s.strategy.config.target
          (frame.memory.layers frame.gpuTarget))).vote frame.ptr stockVotes) := by
  have hmarked : forall ptr, ptr ∉ frame.appLayers ->
      (s.marked frame.appLayers).layers ptr = frame.memory.layers ptr := by
    intro ptr hptr
    simp [Display.marked, hptr, hs.layers]
  have hinfo : ((s.marked frame.appLayers).hwLayers frame.ptr).info =
      frame.info.startFrame := hs.info
  constructor
  · exists s.strategy.config.target (frame.memory.layers frame.gpuTarget)
    refine ⟨?_, Config.target_isTargetOf _ _⟩
    simp [Display.vote, Display.modifyInfo, hinfo, HWLayersInfo.program,
      HWLayersInfo.startFrame]
  · simp [Display.vote, Display.modifyInfo, hinfo, HWLayersInfo.program,
      HWLayersInfo.startFrame]
  · simp [Display.vote, Display.modifyInfo, hinfo, HWLayersInfo.program,
      HWLayersInfo.startFrame]
  · simp [Display.vote, Display.modifyInfo, hinfo, HWLayersInfo.program,
      HWLayersInfo.startFrame]
  · simp [Display.vote, Display.modifyInfo, hinfo, HWLayersInfo.program,
      HWLayersInfo.startFrame]
  · intro ptr hptr
    show (s.marked frame.appLayers).layers ptr = _
    unfold Display.marked
    rw [hs.layers]
    exact if_pos hptr
  · exact hmarked
  · exact hmarked frame.gpuTarget hframe.distinct

theorem getNextStrategy_sat {frame : Frame core} (hframe : frame.Proper)
    {s : Display core} (hs : frame.Started s) :
    Sat getNextStrategy
      (fun r t =>
        t.strategy = s.strategy ∧
          (r = .kErrorNone <->
            s.strategy.disableGpuComp = false ∧ frame.info.gpuTargetIndex ≠ 0) ∧
          (r = .kErrorNone -> frame.Programmed s.strategy.config t) ∧
          (r = .kErrorNotSupported -> t = s))
      (fun _ _ => False) s := by
  have htarget : frame.info.gpuTargetIndex < frame.info.stack.length :=
    hframe.target
  have happs : 0 + frame.info.appLayerCount <= frame.info.stack.length := by
    have hle := hframe.apps
    lia
  unfold getNextStrategy
  rw [sat_bind, sat_get, sat_ite]
  constructor
  · intro hdisabled
    refine ⟨rfl, ⟨nofun, ?_⟩, nofun, fun _ => rfl⟩
    intro h
    cases hdisabled.symm.trans h.1
  · intro henabled
    rw [hs.strategy]
    show Sat (if (s.hwLayers frame.ptr).info.gpuTargetIndex = 0 then _ else _)
      _ _ s
    rw [hs.info, sat_ite]
    constructor
    · intro hzero
      exact ⟨rfl, ⟨nofun, fun h => absurd hzero h.2⟩, nofun, fun _ => rfl⟩
    · intro hnonzero
      apply (markAppLayers_sat _ 0 happs s).bind
      intro _ t ht
      apply (layerAt_sat htarget t).bind
      intro ptr u hu
      rw [hu.1, hu.2, ht]
      refine ⟨rfl, ⟨fun _ => ⟨Bool.eq_false_iff.mpr henabled, hnonzero⟩, fun _ => rfl⟩,
        ?_, nofun⟩
      intro _
      have hlayer : (s.marked frame.appLayers).layers frame.gpuTarget =
          frame.memory.layers frame.gpuTarget := by
        simp [Display.marked, hframe.distinct, hs.layers]
      have hprogrammed := programmed_of_program hframe hs
      rw [← hlayer] at hprogrammed
      exact hprogrammed

theorem commands_sat {frame : Frame core} (hframe : frame.Proper)
    (s : Display core) :
    Sat (run exec frame.commands) (fun _ t => s.UpToDate frame.commands t)
      (fun _ _ => False) s := by
  unfold commands
  rw [sat_run_append]
  apply (frame.opening_sat s).imp
  intro _ t ht
  show Sat (do
    let r ← getNextStrategy
    pure [r]) _ _ t
  apply (getNextStrategy_sat hframe ht.1).bind
  intro _ u hu
  have hnext : t.UpToDate [.getNextStrategy] u := by
    constructor
    · rw [hu.1]
      rfl
    · rw [hu.1]
      rfl
  rw [sat_pure]
  exact ht.2.append hnext

theorem run_commands_sat (frames : List (Frame core))
    (hframes : forall frame, frame ∈ frames -> frame.Proper) (s : Display core) :
    Sat (run exec (frames.flatMap commands))
      (fun _ t => s.UpToDate (frames.flatMap commands) t) (fun _ _ => False) s := by
  induction frames generalizing s with
  | nil => exact ⟨rfl, rfl⟩
  | cons frame frames ih =>
      rw [List.flatMap_cons, sat_run_append]
      apply (commands_sat (hframes frame (by simp)) s).imp
      intro _ t ht
      apply (ih (fun frame hmem => hframes frame (by simp [hmem])) t).imp
      intro _ u hu
      exact ht.append hu

end Frame

/-- After any frames, a frame programs exactly its own GPU target, with the latest
configuration, if there is one and GPU composition is not disabled.  Otherwise the
strategy is refused and nothing has changed. -/
theorem frame_programs_its_target (config : Config) (memory : Memory core)
    (frames : List (Frame core)) (frame : Frame core)
    (hframes : forall frame, frame ∈ frames -> frame.Proper)
    (hframe : frame.Proper) :
    Sat (run exec (frames.flatMap Frame.commands ++ frame.opening))
      (fun _ s => Sat getNextStrategy
        (fun r t =>
          (r = .kErrorNone <->
            latestDisabled false (frames.flatMap Frame.commands ++ frame.opening) = false ∧
              frame.info.gpuTargetIndex ≠ 0) ∧
            (r = .kErrorNone ->
              frame.Programmed
                (latestConfig config
                  (frames.flatMap Frame.commands ++ frame.opening)) t) ∧
            (r = .kErrorNotSupported -> t = s))
        (fun _ _ => False) s)
      (fun _ _ => False) (Display.initial config memory) := by
  rw [sat_run_append]
  apply (Frame.run_commands_sat frames hframes _).imp
  intro _ s hs
  apply (frame.opening_sat s).imp
  intro _ t ht
  apply (Frame.getNextStrategy_sat hframe ht.1).imp
  intro r u hu
  have hdate : (Display.initial config memory).UpToDate
      (frames.flatMap Frame.commands ++ frame.opening) t := hs.append ht.2
  have hconfig : t.strategy.config = latestConfig config
      (frames.flatMap Frame.commands ++ frame.opening) := hdate.config
  have hdisabled : t.strategy.disableGpuComp = latestDisabled false
      (frames.flatMap Frame.commands ++ frame.opening) := hdate.disabled
  rw [← hconfig, ← hdisabled]
  exact ⟨hu.2.1, hu.2.2.1, hu.2.2.2⟩

/-!
# A panel
-/

/-- Rectangles with whole coordinates: a flip mirrors a rectangle in its domain,
and a map scales it from one domain at the origin to the other. -/
abbrev wholeCore : SdmCore where
  Coord := Int
  LayerData := Unit
  LayerExt := Unit
  PrimariesTransfer := Nat
  float := fun n => n
  transformHV := fun domain rect transform => {
    left := if transform.flipHorizontal then
      domain.right - (rect.right - domain.left) else rect.left
    top := if transform.flipVertical then
      domain.bottom - (rect.bottom - domain.top) else rect.top
    right := if transform.flipHorizontal then
      domain.right - (rect.left - domain.left) else rect.right
    bottom := if transform.flipVertical then
      domain.bottom - (rect.top - domain.top) else rect.bottom }
  mapRect := fun src dst rect => {
    left := rect.left * dst.right / src.right
    top := rect.top * dst.bottom / src.bottom
    right := rect.right * dst.right / src.right
    bottom := rect.bottom * dst.bottom / src.bottom }

/-- A panel that is mounted upside down, with a smaller framebuffer. -/
def panelConfig : Config where
  hwPanelInfo := { flipHorizontal := true, flipVertical := true }
  mixerAttributes := { width := 1600, height := 2560 }
  fbConfig := { xPixels := 1080, yPixels := 1920 }

def panelLayer : Layer wholeCore where
  composition := .other 2
  requestFlags := 1
  transform := { rotation := 0, flipHorizontal := false, flipVertical := false }
  dstRect := { left := 0, top := 0, right := 540, bottom := 960 }
  data := ()

/-- Two application layers and the GPU target, with a layer that an earlier frame
has left. -/
def panelFrame : Frame wholeCore where
  memory := {
    hwLayers := fun _ => {
      info := {
        stack := [10, 11, 12]
        appLayerCount := 2
        gpuTargetIndex := 2
        hwLayers := [panelLayer]
        index := [2]
        roiIndex := [0]
        layerExts := []
        wideColorPrimaries := [] }
      qosData := stockVotes }
    layers := fun _ => panelLayer }
  ptr := 1
  before := []
  between := [.reconfigure panelConfig]

theorem panelFrame_proper : panelFrame.Proper where
  apps := by decide
  target := by decide
  distinct := by decide

/-- What the panel is told: the target, mirrored on both axes and mapped to the mixer. -/
def panelTarget : Layer wholeCore where
  composition := .other 2
  requestFlags := 1
  transform := { rotation := 0, flipHorizontal := true, flipVertical := true }
  dstRect := { left := 800, top := 1280, right := 1600, bottom := 2560 }
  data := ()

theorem panelTarget_of_isTargetOf {layer : Layer wholeCore}
    (h : layer.IsTargetOf panelConfig panelLayer) : layer = panelTarget := by
  have hdstRect := h.dstRect
  rcases layer with ⟨composition, requestFlags, ⟨rotation, horizontal, vertical⟩, dstRect,
    data⟩
  cases h.composition
  cases h.requestFlags
  cases h.rotation
  cases h.flipHorizontal
  cases h.flipVertical
  have hmapped : dstRect = panelTarget.dstRect := hdstRect.trans rfl
  cases hmapped
  rfl

theorem frame_programs_its_target_panel :
    Sat (run exec ([panelFrame].flatMap Frame.commands ++ panelFrame.opening))
      (fun _ s => Sat getNextStrategy
        (fun r t =>
          r = .kErrorNone ∧ panelFrame.Programmed panelConfig t ∧
            (t.hwLayers 1).info.hwLayers = [panelTarget])
        (fun _ _ => False) s)
      (fun _ _ => False) (Display.initial panelConfig panelFrame.memory) := by
  have hframes : forall frame, frame ∈ [panelFrame] -> frame.Proper := by
    intro frame hframe
    rw [List.mem_singleton.mp hframe]
    exact panelFrame_proper
  apply (frame_programs_its_target panelConfig panelFrame.memory [panelFrame] panelFrame
    hframes panelFrame_proper).imp
  intro _ s hs
  apply hs.imp
  intro r t ht
  have hnone : r = .kErrorNone := ht.1.mpr ⟨rfl, by decide⟩
  have hprogrammed : panelFrame.Programmed panelConfig t := ht.2.1 hnone
  refine ⟨hnone, hprogrammed, ?_⟩
  rcases hprogrammed.target with ⟨layer, hlayers, htarget⟩
  rw [panelTarget_of_isTargetOf htarget] at hlayers
  exact hlayers

end Sdmext
end Sm7225
