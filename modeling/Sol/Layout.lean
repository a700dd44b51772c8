import Sol.Monitor

/-!
# The layout

The monitors with their workspaces, or the workspaces alone while no output is
connected, and the window that is dragged around outside of them.

* outputs come and go with `addOutput` and `removeOutput`;
* windows come and go with `addWindow` and `removeWindow`;
* most of the other operations go to the active workspace or monitor, or to the
  workspace that has the window in question.

Requests to a dragged window are ignored, except for those to let it float or not.
-/

namespace Sol

open Panicking

/-- Where to put a newly added window. -/
inductive AddWindowTarget (Id : Type)
  | auto
  | output (output : Output)
  | workspace (id : WorkspaceId)
  | nextTo (window : Id)
  deriving DecidableEq, Repr

/-- A reference to a workspace by the user. -/
inductive WorkspaceReference
  | id (id : WorkspaceId)
  | index (index : ℕ)
  | name (name : String)
  deriving DecidableEq, Repr

structure OverviewGesture where
  tracker : SwipeTracker
  start : ℚ
  value : ℚ
  deriving DecidableEq, Repr

/-- How far the overview is open. -/
inductive OverviewProgress
  | animation (anim : Animation)
  | gesture (gesture : OverviewGesture)
  | opened

namespace OverviewProgress

def value (self : OverviewProgress) (clock : Clock) : ℚ :=
  match self with
  | animation anim => anim.value clock
  | gesture g => g.value
  | opened => 1

/-- The progress as it is handed to the monitors. -/
def forMonitor : OverviewProgress → MonitorOverviewProgress
  | animation anim => .animation anim
  | gesture g => .value g.value
  | opened => .value 1

end OverviewProgress

/-- A window that is dragged around, out of the layout. -/
structure InteractiveMoveData (W : Type) where
  tile : Tile W
  /-- Where the window is currently located. -/
  output : Output
  pointerPosWithinOutput : Point
  width : ColumnWidth
  isFullWidth : Bool
  /-- Whether the window targets the floating space. -/
  isFloating : Bool
  /-- Where the pointer is, as fractions of the window. -/
  pointerRatioWithinWindow : Point
  /-- Kept for when the output is removed. -/
  outputConfig : Option LayoutPart
  /-- The overrides of the workspace that the window came from, while it is there. -/
  workspaceConfig : Option (WorkspaceId × LayoutPart)

inductive InteractiveMoveState (W Id : Type)
  /-- The window is held, and remains in the layout. -/
  | starting (windowId : Id) (pointerDelta : Point) (pointerRatioWithinWindow : Point)
  | moving (data : InteractiveMoveData W)

inductive DndHoldTarget (Id : Type)
  | window (id : Id)
  | workspace (id : WorkspaceId)
  deriving DecidableEq, Repr

/-- What a drag has been held over, and since when. -/
structure DndHold (Id : Type) where
  startTime : Duration
  target : DndHoldTarget Id
  deriving DecidableEq, Repr

/-- A drag-and-drop between clients. -/
structure DndData (Id : Type) where
  output : Output
  pointerPosWithinOutput : Point
  hold : Option (DndHold Id)

inductive MonitorSet (W Id : Type)
  /-- At least one output is connected. -/
  | normal (monitors : List (Monitor W Id)) (primaryIdx activeMonitorIdx : ℕ)
  | noOutputs (workspaces : List (Workspace W Id))

structure Layout (W Id : Type) where
  monitorSet : MonitorSet W Id
  isActive : Bool
  /-- By the names of removed outputs, to be restored when they are back. -/
  lastActiveWorkspaceId : List (String × WorkspaceId)
  interactiveMove : Option (InteractiveMoveState W Id)
  dnd : Option (DndData Id)
  overviewOpen : Bool
  overviewProgress : Option OverviewProgress
  options : Options
  /-- The counter behind `WorkspaceId::next`. -/
  nextWorkspaceId : WorkspaceId

namespace InteractiveMoveData

variable {W Id : Type} [LayoutElement W Id]

def tileRenderLocation (self : InteractiveMoveData W) (clock : Clock) (zoom : ℚ) : Point :=
  let size := self.tile.windowSize
  let pointerOffset : Point :=
    ⟨size.w * self.pointerRatioWithinWindow.x, size.h * self.pointerRatioWithinWindow.y⟩
  let offset := pointerOffset + self.tile.windowLoc - self.tile.renderOffset clock
  (self.pointerPosWithinOutput - offset.upscale zoom).roundPhysical self.output.scale

/-- The options for the tile, where it is. -/
def tileOptions (self : InteractiveMoveData W) (options : Options) : Options :=
  ((options.withMergedLayout self.outputConfig).withMergedLayout
    (self.workspaceConfig.map (·.2))).adjustedForScale self.output.scale

def updateTileConfig (self : InteractiveMoveData W) (options : Options) : InteractiveMoveData W :=
  { self with tile :=
      self.tile.updateConfig self.output.size self.output.scale (self.tileOptions options) }

end InteractiveMoveData

/-- The primary monitor while the workspaces of a new output are picked out of it. -/
structure Extraction (W Id : Type) where
  primary : Monitor W Id
  workspaces : List (Workspace W Id)
  /-- Whether a workspace switch was stopped. -/
  stopped : Bool

namespace Extraction

variable {W Id : Type} [LayoutElement W Id]

/-- Picks out the workspace at an index; an empty one without a name is dropped. -/
def pick (self : Extraction W Id) (i : ℕ) (ws : Workspace W Id) : Extraction W Id :=
  let active := self.primary.activeWorkspaceIdx
  -- the workspace above gets active, except for an empty one above the first
  let staysBelow := self.primary.options.layout.emptyWorkspaceAboveFirst = true ∧ active = 1
  { primary :=
      { self.primary with
        workspaces := self.primary.workspaces.eraseIdx i
        workspaceSwitch := none
        activeWorkspaceIdx := if i ≤ active ∧ ¬staysBelow then active - 1 else active }
    workspaces := if ws.hasWindowsOrName then ws :: self.workspaces else self.workspaces
    stopped := self.stopped || self.primary.workspaceSwitch.isSome }

/-- Picks out the workspaces that an output is the original one of, from the last
one below an index on. -/
def pickBelow (output : Output) : ℕ → Extraction W Id → Outcome (Extraction W Id)
  | 0, self => pure self
  | i + 1, self => do
    let ws ← Vec.get self.primary.workspaces i
    pickBelow output i
      (if OutputId.matches ws.originalOutput output then self.pick i ws else self)

/-- Cleans up where a switch was stopped, or both workspaces left are empty. -/
def finish (self : Extraction W Id) : Outcome (Monitor W Id) :=
  if self.stopped || (self.primary.options.layout.emptyWorkspaceAboveFirst &&
      self.primary.workspaces.length == 2) then self.primary.cleanUpWorkspaces
  else pure self.primary

end Extraction

namespace Layout

variable {W Id : Type} [LayoutElement W Id]

/-- `Layout::with_options_and_workspaces`. -/
def withOptionsAndWorkspaces (nextId : WorkspaceId) (configs : List WorkspaceConfig)
    (options : Options) : Layout W Id where
  monitorSet := .noOutputs (configs.mapIdx fun i config =>
    .newWithConfigNoOutputs (nextId + i) (some config) options)
  isActive := true
  lastActiveWorkspaceId := []
  interactiveMove := none
  dnd := none
  overviewOpen := false
  overviewProgress := none
  options := options
  nextWorkspaceId := nextId + configs.length

def monitors (self : Layout W Id) : List (Monitor W Id) :=
  match self.monitorSet with
  | .normal monitors _ _ => monitors
  | .noOutputs _ => []

/-- The workspaces that are kept while there are no outputs. -/
def detached (self : Layout W Id) : List (Workspace W Id) :=
  match self.monitorSet with
  | .normal _ _ _ => []
  | .noOutputs workspaces => workspaces

def workspaces (self : Layout W Id) : List (Workspace W Id) :=
  self.monitors.flatMap (·.workspaces) ++ self.detached

/-- The dragged window, if it is out of the layout. -/
def moved (self : Layout W Id) : Option (InteractiveMoveData W) :=
  match self.interactiveMove with
  | some (.moving data) => some data
  | _ => none

/-- The windows of all workspaces, and the dragged one. -/
def windowIds (self : Layout W Id) : List Id :=
  self.workspaces.flatMap (·.windowIds) ++ (self.moved.map (·.tile.windowId)).toList

def overviewZoom (self : Layout W Id) (clock : Clock) : ℚ :=
  computeOverviewZoom self.options (self.overviewProgress.map fun progress => progress.value clock)

/-! ### Parts of the layout -/

/-- Runs an operation of the active monitor, if there is one. -/
def onActiveMonitor (self : Layout W Id) (f : Monitor W Id → Outcome (Monitor W Id)) :
    Outcome (Layout W Id) :=
  match self.monitorSet with
  | .normal monitors primaryIdx activeMonitorIdx => do
    let monitors ← Vec.apply monitors activeMonitorIdx f
    pure { self with monitorSet := .normal monitors primaryIdx activeMonitorIdx }
  | .noOutputs _ => pure self

def onActiveWorkspace (self : Layout W Id) (f : Workspace W Id → Outcome (Workspace W Id)) :
    Outcome (Layout W Id) :=
  self.onActiveMonitor fun mon => mon.onWorkspace mon.activeWorkspaceIdx f

/-- Runs an operation of every monitor. -/
def mapMonitors (self : Layout W Id) (f : Monitor W Id → Outcome (Monitor W Id)) :
    Outcome (Layout W Id) :=
  match self.monitorSet with
  | .normal monitors primaryIdx activeMonitorIdx => do
    let monitors ← monitors.mapM f
    pure { self with monitorSet := .normal monitors primaryIdx activeMonitorIdx }
  | .noOutputs _ => pure self

/-- Runs an operation of every workspace. -/
def mapWorkspaces (self : Layout W Id) (f : Workspace W Id → Outcome (Workspace W Id)) :
    Outcome (Layout W Id) :=
  match self.monitorSet with
  | .normal .. => self.mapMonitors fun mon => do
    let workspaces ← mon.workspaces.mapM f
    pure { mon with workspaces }
  | .noOutputs workspaces => do
    let workspaces ← workspaces.mapM f
    pure { self with monitorSet := .noOutputs workspaces }

/-- Runs an operation of the monitor of an output, if there is one. -/
def onMonitorFor (self : Layout W Id) (output : Output)
    (f : Monitor W Id → Outcome (Monitor W Id)) : Outcome (Layout W Id) :=
  match self.monitorSet with
  | .normal monitors primaryIdx activeMonitorIdx => do
    match ← Vec.applyFirst (·.output.key = output.key) f monitors with
    | some monitors =>
      pure { self with monitorSet := .normal monitors primaryIdx activeMonitorIdx }
    | none => pure self
  | .noOutputs _ => pure self

def monitorForOutput (self : Layout W Id) (output : Output) : Option (Monitor W Id) :=
  self.monitors.find? (·.output.key = output.key)

variable [DecidableEq Id]

/-- Runs an operation of the first workspace with some property, if there is one. -/
def onFirstWorkspace (self : Layout W Id) (p : Workspace W Id → Bool)
    (f : Workspace W Id → Outcome (Workspace W Id)) : Outcome (Option (Layout W Id)) :=
  match self.monitorSet with
  | .normal monitors primaryIdx activeMonitorIdx => do
    let monitors ← Vec.applyFirst (·.workspaces.any p) (fun mon => do
      let workspaces ← Vec.applyFirst p f mon.workspaces
      pure { mon with workspaces := workspaces.getD mon.workspaces }) monitors
    pure (monitors.map fun monitors =>
      { self with monitorSet := .normal monitors primaryIdx activeMonitorIdx })
  | .noOutputs workspaces => do
    let workspaces ← Vec.applyFirst p f workspaces
    pure (workspaces.map fun workspaces => { self with monitorSet := .noOutputs workspaces })

/-- Runs an operation of the workspace that has a window, if one has. -/
def onWorkspaceOf (self : Layout W Id) (window : Id)
    (f : Workspace W Id → Outcome (Workspace W Id)) : Outcome (Layout W Id) := do
  let found ← self.onFirstWorkspace (·.hasWindow window) f
  pure (found.getD self)

/-- The same for a window that is to be there, or else of the active workspace. -/
def onWindowOrActive (self : Layout W Id) (window : Option Id)
    (f : Workspace W Id → Outcome (Workspace W Id)) : Outcome (Layout W Id) :=
  match window with
  | some window => do
    let found ← self.onFirstWorkspace (·.hasWindow window) f
    unwrap found
  | none => self.onActiveWorkspace f

/-- Whether a window is the dragged one. -/
def isMoved (self : Layout W Id) (window : Id) : Bool :=
  self.moved.any fun data => data.tile.windowId = window

/-- Whether a request is about the dragged window. -/
def isAboutMoved (self : Layout W Id) (window : Option Id) : Bool :=
  self.moved.any fun data => window.isNone || window = some data.tile.windowId

/-! ### Outputs -/

omit [DecidableEq Id] in
/-- The monitor of a new output. It shows the workspace that the output last showed. -/
def connect (self : Layout W Id) (clock : Clock) (output : Output)
    (workspaces : List (Workspace W Id)) (layoutConfig : Option LayoutPart) :
    Outcome (Monitor W Id × Layout W Id) := do
  let wsIdToActivate := self.lastActiveWorkspaceId.lookup output.name.connector
  let (monitor, nextWorkspaceId) ←
    Monitor.new self.nextWorkspaceId output workspaces wsIdToActivate self.options layoutConfig
  let monitor := { monitor with overviewOpen := self.overviewOpen }.setOverviewProgress clock
    (self.overviewProgress.map OverviewProgress.forMonitor)
  pure (monitor, { self with
    nextWorkspaceId
    lastActiveWorkspaceId :=
      self.lastActiveWorkspaceId.filter fun entry => entry.1 ≠ output.name.connector })

omit [DecidableEq Id] in
def addOutput (self : Layout W Id) (clock : Clock) (output : Output)
    (layoutConfig : Option LayoutPart) : Outcome (Layout W Id) :=
  match self.monitorSet with
  | .normal monitors primaryIdx activeMonitorIdx => do
    let primary ← Vec.get monitors primaryIdx
    let taken ← Extraction.pickBelow output primary.workspaces.length ⟨primary, [], false⟩
    let primary ← taken.finish
    let (monitor, self) ← self.connect clock output taken.workspaces layoutConfig
    let monitors := monitors.set primaryIdx primary ++ [monitor]
    pure { self with monitorSet := .normal monitors primaryIdx activeMonitorIdx }
  | .noOutputs workspaces => do
    let (monitor, self) ← self.connect clock output workspaces layoutConfig
    pure { self with monitorSet := .normal [monitor] 0 0 }

omit [DecidableEq Id] in
/-- An index of a monitor after the one at `idx` was removed: the same monitor, or
some other one. -/
def idxAfterRemoval (i idx : ℕ) : ℕ := if i ≥ idx then i - 1 else i

omit [DecidableEq Id] in
def removeOutput (self : Layout W Id) (output : Output) : Outcome (Layout W Id) :=
  match self.monitorSet with
  | .normal monitors primaryIdx activeMonitorIdx => do
    let idx ← expect "trying to remove non-existing output"
      (monitors.findIdx? (·.output.key = output.key))
    let (monitor, monitors) ← Vec.remove monitors idx
    let active ← monitor.activeWorkspaceRef
    let name := monitor.output.name.connector
    let lastActiveWorkspaceId :=
      (name, active.id) :: self.lastActiveWorkspaceId.filter fun entry => entry.1 ≠ name
    let workspaces ← monitor.intoWorkspaces
    if monitors.isEmpty then
      pure { self with
        lastActiveWorkspaceId
        monitorSet := .noOutputs (workspaces.map (·.updateConfig self.options)) }
    else do
      let primaryIdx := idxAfterRemoval primaryIdx idx
      let monitors ← Vec.apply monitors primaryIdx (·.appendWorkspaces workspaces)
      pure { self with
        lastActiveWorkspaceId
        monitorSet := .normal monitors primaryIdx (idxAfterRemoval activeMonitorIdx idx) }
  | .noOutputs _ => throw (.explicitPanic "tried to remove output when there were already none")

/-! ### Windows -/

/-- The monitor for a new window, and the place on it. -/
def resolveTarget (self : Layout W Id) (monitors : List (Monitor W Id)) (activeMonitorIdx : ℕ) :
    AddWindowTarget Id → Outcome (ℕ × MonitorAddWindowTarget Id)
  | .auto => pure (activeMonitorIdx, .auto)
  | .output output => do
    let idx ← unwrap (monitors.findIdx? (·.output.key = output.key))
    pure (idx, .auto)
  | .workspace id => do
    let idx ← unwrap (monitors.findIdx? (·.workspaces.any fun ws => ws.id = id))
    pure (idx, .workspace id none)
  | .nextTo window =>
    match self.moved.filter fun data => window = data.tile.windowId with
    | some data =>
      -- the window is being dragged
      let idx := monitors.findIdx? (·.output.key = data.output.key)
      pure (idx.getD activeMonitorIdx, .auto)
    | none => do
      let idx ← unwrap (monitors.findIdx? (·.hasWindow window))
      pure (idx, .nextTo window)

/-- The height that was asked for a tiled window. -/
def setInitialHeight (ws : Workspace W Id) (window : Id) (height : Option PresetSize)
    (isFloating : Bool) : Outcome (Workspace W Id) :=
  match height with
  | some height =>
    if isFloating then pure ws else ws.setWindowHeight (some window) (.ofPreset height)
  | none => pure ws

def addWindowToMonitor (mon : Monitor W Id) (clock : Clock) (window : W)
    (target : MonitorAddWindowTarget Id) (width height : Option PresetSize)
    (isFullWidth isFloating : Bool) (activate : ActivateWindow) : Outcome (Monitor W Id) := do
  let (wsIdx, _) ← mon.resolveAddWindowTarget target
  let ws ← Vec.get mon.workspaces wsIdx
  let scrollingWidth := ws.resolveScrollingWidth window width
  let mon ← mon.addWindow clock window target activate scrollingWidth isFullWidth isFloating
  if isFloating || height.isNone then pure mon
  else do
    let id := LayoutElement.id window
    let workspaces ← Vec.applyFirst (·.hasWindow id)
      (fun ws => setInitialHeight ws id height isFloating) mon.workspaces
    let workspaces ← unwrap workspaces
    pure { mon with workspaces }

/-- Without outputs there may be no workspace yet. -/
def ensureWorkspace (self : Layout W Id) (workspaces : List (Workspace W Id)) :
    List (Workspace W Id) × WorkspaceId :=
  if workspaces.isEmpty then
    ([.newNoOutputs self.nextWorkspaceId self.options], self.nextWorkspaceId + 1)
  else (workspaces, self.nextWorkspaceId)

/-- The workspace for a new window without outputs, and the place in it. -/
def resolveDetachedTarget (self : Layout W Id) (workspaces : List (Workspace W Id)) :
    AddWindowTarget Id →
      Outcome ((List (Workspace W Id) × WorkspaceId) × ℕ × WorkspaceAddWindowTarget Id)
  | .auto => pure (self.ensureWorkspace workspaces, 0, .auto)
  | .output _ => throw (.explicitPanic "explicit panic")
  | .workspace id => do
    let idx ← unwrap (workspaces.findIdx? fun ws => ws.id = id)
    pure ((workspaces, self.nextWorkspaceId), idx, .auto)
  | .nextTo window =>
    if self.isMoved window then pure (self.ensureWorkspace workspaces, 0, .auto)
    else do
      let idx ← unwrap (workspaces.findIdx? (·.hasWindow window))
      pure ((workspaces, self.nextWorkspaceId), idx, .nextTo window)

def addWindow (self : Layout W Id) (clock : Clock) (window : W) (target : AddWindowTarget Id)
    (width height : Option PresetSize) (isFullWidth isFloating : Bool)
    (activate : ActivateWindow) : Outcome (Layout W Id) :=
  match self.monitorSet with
  | .normal monitors primaryIdx activeMonitorIdx => do
    let (monIdx, target) ← self.resolveTarget monitors activeMonitorIdx target
    let monitors ← Vec.apply monitors monIdx fun mon =>
      addWindowToMonitor mon clock window target width height isFullWidth isFloating activate
    let activeMonitorIdx := if activate.mapSmart false then monIdx else activeMonitorIdx
    pure { self with monitorSet := .normal monitors primaryIdx activeMonitorIdx }
  | .noOutputs workspaces => do
    let ((workspaces, nextWorkspaceId), wsIdx, target) ←
      self.resolveDetachedTarget workspaces target
    let workspaces ← Vec.apply workspaces wsIdx fun ws => do
      let scrollingWidth := ws.resolveScrollingWidth window width
      let ws ← ws.addTile (ws.makeTile window) target activate scrollingWidth isFullWidth isFloating
      setInitialHeight ws (LayoutElement.id window) height isFloating
    pure { self with nextWorkspaceId, monitorSet := .noOutputs workspaces }

/-- Takes a window out of the workspace at an index. An empty workspace goes, unless it
is active, the last one, or involved in a switch; so does the second of two empty
ones, where one is wanted above the first. -/
def removeWindowAt (mon : Monitor W Id) (clock : Clock) (window : Id) (idx : ℕ) :
    Outcome (RemovedTile W × Monitor W Id) := do
  let (removed, workspaces) ← Vec.update mon.workspaces idx (·.removeTile clock window)
  let mon := { mon with workspaces }
  let ws ← Vec.get mon.workspaces idx
  let last ← checkedSub mon.workspaces.length 1
  let mon :=
    if !ws.hasWindowsOrName && idx != mon.activeWorkspaceIdx && idx != last &&
        mon.workspaceSwitch.isNone then
      { mon with
        workspaces := mon.workspaces.eraseIdx idx
        activeWorkspaceIdx :=
          if idx < mon.activeWorkspaceIdx then mon.activeWorkspaceIdx - 1
          else mon.activeWorkspaceIdx }
    else mon
  if mon.options.layout.emptyWorkspaceAboveFirst && mon.workspaces.length == 2 &&
      mon.workspaceSwitch.isNone then do
    let first ← Vec.get mon.workspaces 0
    assert (first.hasWindowsOrName = false)
    let (second, workspaces) ← Vec.remove mon.workspaces 1
    assert (second.hasWindowsOrName = false)
    pure (removed, { mon with workspaces, activeWorkspaceIdx := 0 })
  else pure (removed, mon)

/-- Without outputs an empty workspace goes at once. -/
def removeDetachedAt (workspaces : List (Workspace W Id)) (clock : Clock) (window : Id) (idx : ℕ) :
    Outcome (RemovedTile W × List (Workspace W Id)) := do
  let (removed, workspaces) ← Vec.update workspaces idx (·.removeTile clock window)
  let ws ← Vec.get workspaces idx
  pure (removed, if ws.hasWindowsOrName then workspaces else workspaces.eraseIdx idx)

/-- Takes a window out of its workspace. -/
def removeFromWorkspaces (self : Layout W Id) (clock : Clock) (window : Id) :
    Outcome (Option (RemovedTile W) × Layout W Id) :=
  match self.monitorSet with
  | .normal monitors primaryIdx activeMonitorIdx =>
    match monitors.findIdx? (·.hasWindow window) with
    | none => pure (none, self)
    | some i => do
      let (removed, monitors) ← Vec.update monitors i fun mon => do
        let idx ← unwrap (mon.workspaces.findIdx? (·.hasWindow window))
        removeWindowAt mon clock window idx
      pure (some removed, { self with monitorSet := .normal monitors primaryIdx activeMonitorIdx })
  | .noOutputs workspaces =>
    match workspaces.findIdx? (·.hasWindow window) with
    | none => pure (none, self)
    | some idx => do
      let (removed, workspaces) ← removeDetachedAt workspaces clock window idx
      pure (some removed, { self with monitorSet := .noOutputs workspaces })

end Layout

end Sol
