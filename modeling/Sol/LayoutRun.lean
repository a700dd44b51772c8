import Sol.UpkeepInvariants
import Sol.Machine

/-!
# The layout as a machine

The layout begins without outputs, and goes from one state to the next by the operations that the
compositor calls.  An invariant of workspaces, kept by each of their own operations, holds in every
state that a layout reaches.

* `step_all`: what one operation keeps;
* `reachable_all`: what a run keeps.
-/

namespace Sol

open Panicking

/-- What a layout is made with, and what it reads again when the configuration changes. -/
structure Config where
  /-- The layout sections, in their order. -/
  parts : List LayoutPart
  animations : Animations
  gestures : Gestures
  overviewZoom : ℚ
  deactivateUnfocusedWindows : Bool
  workspaces : List WorkspaceConfig

namespace Config

/-- The layout sections are merged into the default one. -/
def layout (self : Config) : LayoutConfig := self.parts.foldl LayoutConfig.mergeWith .default

/-- `Options::from_config`. -/
def options (self : Config) : Options where
  layout := self.layout
  animations := self.animations
  gestures := self.gestures
  overviewZoom := self.overviewZoom
  deactivateUnfocusedWindows := self.deactivateUnfocusedWindows

end Config

namespace Layout

/-- The operations that the compositor calls. -/
inductive Op (W Id : Type)
  | addOutput (output : Output) (layoutConfig : Option LayoutPart)
  | removeOutput (output : Output)
  | updateOutputSize (output : Output)
  | updateLayoutConfig (output : Output) (layoutConfig : Option LayoutPart)
  | updateConfig (config : Config)
  | ensureNamedWorkspace (wsConfig : WorkspaceConfig)
  | unnameWorkspace (name : String)
  | setWorkspaceName (name : String) (reference : Option WorkspaceReference)
  | unsetWorkspaceName (reference : Option WorkspaceReference)
  | addWindow (window : W) (target : AddWindowTarget Id) (width height : Option PresetSize)
    (isFullWidth isFloating : Bool) (activate : ActivateWindow)
  | removeWindow (window : Id)
  /-- What clients and the compositor do to a window in its place. -/
  | modifyWindow (window : Id) (f : W → W)
  | updateWindow (window : Id) (serial : Option ℕ)
  | descendantsAdded (id : Id)
  | activateWindow (window : Id)
  | activateWindowWithoutRaising (window : Id)
  | command (cmd : Workspace.Command)
  | windowCommand (window : Option Id) (cmd : Workspace.WindowCommand)
  | monitorCommand (cmd : Monitor.Command)
  /-- A command to the monitor under the pointer. -/
  | monitorCommandOn (output : Output) (cmd : Monitor.Command)
  /-- A command to the workspace under the pointer. -/
  | commandOn (id : WorkspaceId) (cmd : Workspace.Command)
  | moveToWorkspace (window : Option Id) (idx : ℕ) (activate : ActivateWindow)
  | focusOutput (output : Output)
  | moveToOutput (window : Option Id) (output : Output) (targetWsIdx : Option ℕ)
    (activate : ActivateWindow)
  | moveColumnToOutput (output : Output) (targetWsIdx : Option ℕ) (activate : Bool)
  | moveColumnLeftOrToOutput (output : Output)
  | moveColumnRightOrToOutput (output : Output)
  | focusWindowUpOrOutput (output : Output)
  | focusWindowDownOrOutput (output : Output)
  | focusColumnLeftOrOutput (output : Output)
  | focusColumnRightOrOutput (output : Output)
  | moveWorkspaceToOutput (output : Output)
  | moveWorkspaceToOutputById (oldIdx : ℕ) (oldOutput : Option Output) (newOutput : Output)
  | moveWorkspaceToIdx (reference : Option (Option Output × ℕ)) (newIdx : ℕ)
  | setFullscreen (window : Id) (isFullscreen : Bool)
  | toggleFullscreen (window : Id)
  | toggleWindowedFullscreen (window : Id)
  | setMaximized (window : Id) (maximize : Bool)
  | toggleMaximized (window : Id)
  | workspaceSwitchGestureBegin (output : Output) (isTouchpad : Bool)
  | workspaceSwitchGestureUpdate (deltaY : ℚ) (timestamp : Duration) (isTouchpad : Bool)
  | workspaceSwitchGestureEnd (isTouchpad : Option Bool)
  | viewOffsetGestureBegin
  | toggleOverview
  | openOverview
  | closeOverview
  | toggleOverviewToWorkspace (wsIdx : ℕ)
  | overviewGestureBegin
  | overviewGestureUpdate (deltaY : ℚ) (timestamp : Duration)
  | overviewGestureEnd
  | interactiveMoveBegin (window : Id) (output : Output) (startPos : Point)
  | interactiveMoveUpdate (window : Id) (delta : Point) (output : Output) (pos : Point)
  | interactiveMoveEnd (window : Id)
  | dndUpdate (output : Output) (pos : Point)
  | dndEnd
  | interactiveResizeBegin (window : Id) (edges : ResizeEdge)
  | interactiveResizeUpdate (window : Id) (delta : Point)
  | interactiveResizeEnd (window : Id)
  | advanceAnimations (hit : Option Id)
  | refresh (isActive : Bool)
  | updateRenderElements (output : Option Output)

variable {W Id : Type} [LayoutElement W Id] [DecidableEq Id]

/-- A command to the workspace with an id. -/
def runCommandOn (self : Layout W Id) (clock : Clock) (id : WorkspaceId) (cmd : Workspace.Command) :
    Outcome (Layout W Id) := do
  unwrap (← self.onFirstWorkspace (fun ws => ws.id = id) (·.runCommand clock cmd))

/-- One operation, at the time the clock shows. -/
def step (clock : Clock) (l : Layout W Id) : Op W Id → Outcome (Layout W Id)
  | .addOutput output layoutConfig => l.addOutput clock output layoutConfig
  | .removeOutput output => l.removeOutput output
  | .updateOutputSize output => l.updateOutputSize output
  | .updateLayoutConfig output layoutConfig => l.updateLayoutConfig output layoutConfig
  | .updateConfig config => l.updateConfig config.workspaces config.options
  | .ensureNamedWorkspace wsConfig => l.ensureNamedWorkspace clock wsConfig
  | .unnameWorkspace name => l.unnameWorkspace name
  | .setWorkspaceName name reference => l.setWorkspaceName name reference
  | .unsetWorkspaceName reference => l.unsetWorkspaceName reference
  | .addWindow window target width height isFullWidth isFloating activate =>
    l.addWindow clock window target width height isFullWidth isFloating activate
  | .removeWindow window => do return (← l.removeWindow clock window).2
  | .modifyWindow window f => l.modifyWindow window f
  | .updateWindow window serial => l.updateWindow window serial
  | .descendantsAdded id => l.descendantsAdded id
  | .activateWindow window => l.activateWindow clock window
  | .activateWindowWithoutRaising window => l.activateWindowWithoutRaising clock window
  | .command cmd => l.runCommand clock cmd
  | .windowCommand window cmd => l.runWindowCommand clock window cmd
  | .monitorCommand cmd => l.onActiveMonitor (·.runCommand clock cmd)
  | .monitorCommandOn output cmd => l.onMonitorFor output (·.runCommand clock cmd)
  | .commandOn id cmd => l.runCommandOn clock id cmd
  | .moveToWorkspace window idx activate => l.moveToWorkspace clock window idx activate
  | .focusOutput output => pure (l.focusOutput output)
  | .moveToOutput window output targetWsIdx activate =>
    l.moveToOutput clock window output targetWsIdx activate
  | .moveColumnToOutput output targetWsIdx activate =>
    l.moveColumnToOutput clock output targetWsIdx activate
  | .moveColumnLeftOrToOutput output => l.moveColumnLeftOrToOutput clock output
  | .moveColumnRightOrToOutput output => l.moveColumnRightOrToOutput clock output
  | .focusWindowUpOrOutput output => l.focusWindowUpOrOutput output
  | .focusWindowDownOrOutput output => l.focusWindowDownOrOutput output
  | .focusColumnLeftOrOutput output => l.focusColumnLeftOrOutput output
  | .focusColumnRightOrOutput output => l.focusColumnRightOrOutput output
  | .moveWorkspaceToOutput output => l.moveWorkspaceToOutput clock output
  | .moveWorkspaceToOutputById oldIdx oldOutput newOutput =>
    l.moveWorkspaceToOutputById clock oldIdx oldOutput newOutput
  | .moveWorkspaceToIdx reference newIdx => l.moveWorkspaceToIdx reference newIdx
  | .setFullscreen window isFullscreen => l.setFullscreen clock window isFullscreen
  | .toggleFullscreen window => l.toggleFullscreen clock window
  | .toggleWindowedFullscreen window => l.toggleWindowedFullscreen clock window
  | .setMaximized window maximize => l.setMaximized clock window maximize
  | .toggleMaximized window => l.toggleMaximized clock window
  | .workspaceSwitchGestureBegin output isTouchpad =>
    l.workspaceSwitchGestureBegin clock output isTouchpad
  | .workspaceSwitchGestureUpdate deltaY timestamp isTouchpad =>
    l.workspaceSwitchGestureUpdate clock deltaY timestamp isTouchpad
  | .workspaceSwitchGestureEnd isTouchpad => l.workspaceSwitchGestureEnd clock isTouchpad
  | .viewOffsetGestureBegin => l.viewOffsetGestureBegin
  | .toggleOverview => l.toggleOverview clock
  | .openOverview => l.openOverview clock
  | .closeOverview => l.closeOverview clock
  | .toggleOverviewToWorkspace wsIdx => l.toggleOverviewToWorkspace clock wsIdx
  | .overviewGestureBegin => l.overviewGestureBegin clock
  | .overviewGestureUpdate deltaY timestamp => l.overviewGestureUpdate clock deltaY timestamp
  | .overviewGestureEnd => l.overviewGestureEnd clock
  | .interactiveMoveBegin window output startPos =>
    l.interactiveMoveBegin clock window output startPos
  | .interactiveMoveUpdate window delta output pos =>
    l.interactiveMoveUpdate clock window delta output pos
  | .interactiveMoveEnd window => l.interactiveMoveEnd clock window
  | .dndUpdate output pos => l.dndUpdate clock output pos
  | .dndEnd => l.dndEnd clock
  | .interactiveResizeBegin window edges => l.interactiveResizeBegin window edges
  | .interactiveResizeUpdate window delta => l.interactiveResizeUpdate window delta
  | .interactiveResizeEnd window => l.interactiveResizeEnd window
  | .advanceAnimations hit => l.advanceAnimations clock hit
  | .refresh isActive => l.refresh clock isActive
  | .updateRenderElements output => l.updateRenderElements clock output

/-- The layout as a machine; an action is an operation and its time. -/
def machine (W Id : Type) [LayoutElement W Id] [DecidableEq Id] :
    Machine (Layout W Id) (Clock × Op W Id) where
  initial l := ∃ (nextId : WorkspaceId) (config : Config),
    l = withOptionsAndWorkspaces nextId config.workspaces config.options
  step l a := l.step a.1 a.2

/-- Any operation may follow any other. -/
def anything (_ : Layout W Id) (_ : Clock × Op W Id) : Prop := True

instance (l : Layout W Id) (a : Clock × Op W Id) : Decidable (anything l a) := .isTrue trivial

/-! ### Invariants -/

variable {P : Workspace W Id → Prop} {Q : Held W → Prop} {O : Options → Prop} {l : Layout W Id}

theorem runCommandOn_all (inv : Invariant P Q O) (h : l.All P Q O) (clock : Clock)
    (id : WorkspaceId) (cmd : Workspace.Command) :
    Ensures (l.runCommandOn clock id cmd) (All P Q O) :=
  ensures_bind.mpr ((onFirstWorkspace_all h _ fun _ hws => inv.runCommand hws clock cmd).mono
    fun _ hfound => ensures_unwrap.mpr hfound)

/-- Every operation keeps an invariant of workspaces, if the options of each configuration are in
order. -/
theorem step_all (inv : Invariant P Q O) (hconfig : ∀ config : Config, O config.options)
    (h : l.All P Q O) (clock : Clock) (op : Op W Id) : Ensures (l.step clock op) (All P Q O) := by
  cases op with
  | addOutput output layoutConfig => exact addOutput_all inv h clock output layoutConfig
  | removeOutput output => exact removeOutput_all inv h output
  | updateOutputSize output => exact updateOutputSize_all inv h output
  | updateLayoutConfig output layoutConfig => exact updateLayoutConfig_all inv h output layoutConfig
  | updateConfig config => exact updateConfig_all inv h config.workspaces (hconfig config)
  | ensureNamedWorkspace wsConfig => exact ensureNamedWorkspace_all inv h clock wsConfig
  | unnameWorkspace name => exact unsetWorkspaceName_all inv h (some (.name name))
  | setWorkspaceName name reference => exact setWorkspaceName_all inv h name reference
  | unsetWorkspaceName reference => exact unsetWorkspaceName_all inv h reference
  | addWindow window target width height isFullWidth isFloating activate =>
    exact addWindow_all inv h clock window target width height isFullWidth isFloating activate
  | removeWindow window =>
    exact ensures_bind.mpr ((removeWindow_all inv h clock window).mono
      fun _ hr => ensures_pure.mpr hr)
  | modifyWindow window f => exact modifyWindow_all inv h window f
  | updateWindow window serial => exact updateWindow_all inv h window serial
  | descendantsAdded id => exact descendantsAdded_all inv h id
  | activateWindow window => exact activateWindow_all inv h clock window
  | activateWindowWithoutRaising window => exact activateWindowWithoutRaising_all inv h clock window
  | command cmd => exact runCommand_all inv h clock cmd
  | windowCommand window cmd => exact runWindowCommand_all inv h clock window cmd
  | monitorCommand cmd => exact runMonitorCommand_all inv h clock cmd
  | monitorCommandOn output cmd =>
    exact onMonitorFor_all h output fun _ hm => Monitor.runCommand_all inv hm clock cmd
  | commandOn id cmd => exact runCommandOn_all inv h clock id cmd
  | moveToWorkspace window idx activate => exact moveToWorkspace_all inv h clock window idx activate
  | focusOutput output => exact ensures_pure.mpr (h.focusOutput output)
  | moveToOutput window output targetWsIdx activate =>
    exact moveToOutput_all inv h clock window output targetWsIdx activate
  | moveColumnToOutput output targetWsIdx activate =>
    exact moveColumnToOutput_all inv h clock output targetWsIdx activate
  | moveColumnLeftOrToOutput output => exact moveColumnLeftOrToOutput_all inv h clock output
  | moveColumnRightOrToOutput output => exact moveColumnRightOrToOutput_all inv h clock output
  | focusWindowUpOrOutput output => exact focusOrOutput_all inv h .up output
  | focusWindowDownOrOutput output => exact focusOrOutput_all inv h .down output
  | focusColumnLeftOrOutput output => exact focusOrOutput_all inv h .left output
  | focusColumnRightOrOutput output => exact focusOrOutput_all inv h .right output
  | moveWorkspaceToOutput output => exact moveWorkspaceToOutput_all inv h clock output
  | moveWorkspaceToOutputById oldIdx oldOutput newOutput =>
    exact moveWorkspaceToOutputById_all inv h clock oldIdx oldOutput newOutput
  | moveWorkspaceToIdx reference newIdx => exact moveWorkspaceToIdx_all h reference newIdx
  | setFullscreen window isFullscreen => exact setFullscreen_all inv h clock window isFullscreen
  | toggleFullscreen window => exact toggleFullscreen_all inv h clock window
  | toggleWindowedFullscreen window => exact toggleWindowedFullscreen_all inv h clock window
  | setMaximized window maximize => exact setMaximized_all inv h clock window maximize
  | toggleMaximized window => exact toggleMaximized_all inv h clock window
  | workspaceSwitchGestureBegin output isTouchpad =>
    exact workspaceSwitchGestureBegin_all h clock output isTouchpad
  | workspaceSwitchGestureUpdate deltaY timestamp isTouchpad =>
    exact workspaceSwitchGestureUpdate_all h clock deltaY timestamp isTouchpad
  | workspaceSwitchGestureEnd isTouchpad => exact workspaceSwitchGestureEnd_all h clock isTouchpad
  | viewOffsetGestureBegin => exact viewOffsetGestureBegin_all h
  | toggleOverview => exact toggleOverview_all h clock
  | openOverview => exact openOverview_all h clock
  | closeOverview => exact closeOverview_all h clock
  | toggleOverviewToWorkspace wsIdx => exact toggleOverviewToWorkspace_all h clock wsIdx
  | overviewGestureBegin => exact overviewGestureBegin_all h clock
  | overviewGestureUpdate deltaY timestamp => exact overviewGestureUpdate_all h clock deltaY timestamp
  | overviewGestureEnd => exact overviewGestureEnd_all h clock
  | interactiveMoveBegin window output startPos =>
    exact interactiveMoveBegin_all h clock window output startPos
  | interactiveMoveUpdate window delta output pos =>
    exact interactiveMoveUpdate_all inv h clock window delta output pos
  | interactiveMoveEnd window => exact interactiveMoveEnd_all inv h clock window
  | dndUpdate output pos => exact dndUpdate_all h clock output pos
  | dndEnd => exact dndEnd_all h clock
  | interactiveResizeBegin window edges => exact interactiveResizeBegin_all inv h window edges
  | interactiveResizeUpdate window delta => exact interactiveResizeUpdate_all inv h window delta
  | interactiveResizeEnd window => exact interactiveResizeEnd_all inv h window
  | advanceAnimations hit => exact advanceAnimations_all inv h clock hit
  | refresh isActive => exact refresh_all inv h clock isActive
  | updateRenderElements output => exact updateRenderElements_all h clock output

theorem all_withOptionsAndWorkspaces (inv : Invariant P Q O) (nextId : WorkspaceId)
    (configs : List WorkspaceConfig) {options : Options} (hoptions : O options) :
    (withOptionsAndWorkspaces nextId configs options).All P Q O := by
  refine ⟨(fun _ hm => absurd hm List.not_mem_nil), fun ws hws => ?_,
    (fun _ hdata => nomatch hdata), hoptions⟩
  obtain ⟨i, hi, rfl⟩ := List.mem_mapIdx.mp hws
  exact inv.make hoptions (nextId + i) none (some configs[i])

/-- An invariant of workspaces holds of all workspaces that a layout ever has, and of all windows
that are ever dragged. -/
theorem reachable_all (inv : Invariant P Q O) (hconfig : ∀ config : Config, O config.options)
    (h : (machine W Id).ReachableBy anything l) : l.All P Q O := by
  refine h.invariant ?_ fun l a hl _ => step_all inv hconfig hl a.1 a.2
  rintro l ⟨nextId, config, rfl⟩
  exact all_withOptionsAndWorkspaces inv nextId config.workspaces (hconfig config)

end Layout

end Sol
