import Sol.LayoutOps

/-!
# Upkeep of the layout

The requests of windows, gestures, the names of workspaces, the configuration, and
what the compositor does for every frame.
-/

namespace Sol

open Panicking

variable {W Id : Type} [LayoutElement W Id]

namespace Monitor

/-- Begins or ends the scrolling of a drag, and tells the windows which of them is
active. -/
def refresh [DecidableEq Id] (self : Monitor W Id) (clock : Clock) (isActive dragging overviewOpen : Bool) :
    Outcome (Monitor W Id) := do
  let self ←
    if dragging && overviewOpen then pure (self.dndScrollGestureBegin clock)
    else if !overviewOpen then self.dndScrollGestureEnd clock
    else pure self
  pure { self with
    workspaces := self.workspaces.mapIdx fun idx ws =>
      ws.refresh isActive (isActive && idx == self.activeWorkspaceIdx) }

/-- Shows where a dragged window would be dropped. -/
def updateInsertHint (self : Monitor W Id) (clock : Clock) (data : InteractiveMoveData W) :
    Outcome (Monitor W Id) := do
  let (workspace, position, _) ← self.dropPosition clock data
  pure { self with insertHint := some ⟨workspace, position⟩ }

end Monitor

namespace Layout

/-- The windows of the layout, the dragged one first. -/
def windows (self : Layout W Id) : List W :=
  (self.moved.map (·.tile.window)).toList ++
    self.workspaces.flatMap fun ws => ws.tiles.map (·.window)

variable [DecidableEq Id]

/-! ### Takeovers -/

/-- Runs something on a window, wherever it is. -/
def modifyWindow (self : Layout W Id) (window : Id) (f : W → W) : Outcome (Layout W Id) :=
  let self := match self.moved.filter fun data => data.tile.windowId = window with
    | some data =>
      let tile := { data.tile with window := f data.tile.window }
      { self with interactiveMove := some (.moving { data with tile }) }
    | none => self
  self.mapWorkspaces fun ws => pure (ws.modifyTile window fun tile =>
    { tile with window := f tile.window })

/-- A window that is fullscreen within its tile only stops to be that. -/
def setFullscreen (self : Layout W Id) (clock : Clock) (window : Id) (isFullscreen : Bool) :
    Outcome (Layout W Id) :=
  let isWindowed := self.windows.any fun win =>
    LayoutElement.id win = window && LayoutElement.isPendingWindowedFullscreen win
  if !isFullscreen && isWindowed then
    self.modifyWindow window fun win =>
      if LayoutElement.isPendingWindowedFullscreen win then
        LayoutElement.requestWindowedFullscreen win false
      else win
  else if self.isMoved window then pure self
  else self.onWorkspaceOf window (·.setFullscreen clock window isFullscreen)

def toggleFullscreen (self : Layout W Id) (clock : Clock) (window : Id) : Outcome (Layout W Id) :=
  if self.isMoved window then pure self
  else self.onWorkspaceOf window (·.toggleFullscreen clock window)

/-- A real fullscreen is removed. -/
def toggleWindowedFullscreen (self : Layout W Id) (clock : Clock) (window : Id) :
    Outcome (Layout W Id) := do
  let win ← unwrap (self.windows.find? fun win => LayoutElement.id win = window)
  let self ←
    if (LayoutElement.pendingSizingMode win).isFullscreen then
      self.onWorkspaceOf window (·.setFullscreen clock window false)
    else pure self
  self.modifyWindow window fun win =>
    LayoutElement.requestWindowedFullscreen win (!LayoutElement.isPendingWindowedFullscreen win)

def setMaximized (self : Layout W Id) (clock : Clock) (window : Id) (maximize : Bool) :
    Outcome (Layout W Id) :=
  if self.isMoved window then pure self
  else self.onWorkspaceOf window (·.setMaximized clock window maximize)

def toggleMaximized (self : Layout W Id) (clock : Clock) (window : Id) : Outcome (Layout W Id) :=
  if self.isMoved window then pure self
  else self.onWorkspaceOf window (·.toggleMaximized clock window)

/-! ### Windows -/

/-- Raises the descendants of a window, in the first workspace that has it. -/
def descendantsAdded (self : Layout W Id) (id : Id) : Outcome (Layout W Id) :=
  let add := fun ws : Workspace W Id => do
    let (ws, found) ← ws.descendantsAdded id
    pure (ws, if found then some () else none)
  match self.monitorSet with
  | .normal monitors primaryIdx activeMonitorIdx => do
    let (monitors, _) ← Vec.applyUntil (fun mon : Monitor W Id => do
      let (workspaces, found) ← Vec.applyUntil add mon.workspaces
      pure ({ mon with workspaces }, found.map (·.2))) monitors
    pure { self with monitorSet := .normal monitors primaryIdx activeMonitorIdx }
  | .noOutputs workspaces => do
    let (workspaces, _) ← Vec.applyUntil add workspaces
    pure { self with monitorSet := .noOutputs workspaces }

def updateWindow (self : Layout W Id) (window : Id) (serial : Option ℕ) : Outcome (Layout W Id) :=
  match self.moved.filter fun data => data.tile.windowId = window with
  | some data => pure { self with interactiveMove := some (.moving (data.change (.update serial))) }
  | none => self.onWorkspaceOf window (·.updateWindow window serial)

def interactiveResizeBegin (self : Layout W Id) (window : Id) (edges : ResizeEdge) :
    Outcome (Layout W Id) :=
  self.onWorkspaceOf window fun ws => do
    let (ws, _) ← ws.interactiveResizeBegin window edges
    pure ws

def interactiveResizeUpdate (self : Layout W Id) (window : Id) (delta : Point) :
    Outcome (Layout W Id) :=
  if self.isMoved window then pure self
  else self.onWorkspaceOf window fun ws => do
    let (ws, _) ← ws.interactiveResizeUpdate window delta
    pure ws

def interactiveResizeEnd (self : Layout W Id) (window : Id) : Outcome (Layout W Id) :=
  if self.isMoved window then pure self
  else self.onWorkspaceOf window fun ws => pure (ws.interactiveResizeEnd (some window))

/-! ### Gestures -/

omit [DecidableEq Id] in
/-- The gesture is on one output only. -/
def workspaceSwitchGestureBegin (self : Layout W Id) (clock : Clock) (output : Output)
    (isTouchpad : Bool) : Outcome (Layout W Id) :=
  match self.monitorSet with
  | .normal .. => self.mapMonitors fun mon =>
    if mon.output.key ≠ output.key then do
      let (mon, _) ← mon.workspaceSwitchGestureEnd clock none
      pure mon
    else pure (mon.workspaceSwitchGestureBegin clock isTouchpad)
  | .noOutputs _ => throw .unreachableCode

omit [DecidableEq Id] in
def workspaceSwitchGestureUpdate (self : Layout W Id) (clock : Clock) (deltaY : ℚ)
    (timestamp : Duration) (isTouchpad : Bool) : Outcome (Layout W Id) :=
  match self.monitorSet with
  | .normal monitors primaryIdx activeMonitorIdx => do
    let (monitors, _) ← Vec.applyUntil
      (·.workspaceSwitchGestureUpdate clock deltaY timestamp isTouchpad) monitors
    pure { self with monitorSet := .normal monitors primaryIdx activeMonitorIdx }
  | .noOutputs _ => pure self

omit [DecidableEq Id] in
def workspaceSwitchGestureEnd (self : Layout W Id) (clock : Clock) (isTouchpad : Option Bool) :
    Outcome (Layout W Id) :=
  match self.monitorSet with
  | .normal monitors primaryIdx activeMonitorIdx => do
    let (monitors, _) ← Vec.applyUntil (fun mon : Monitor W Id => do
      let (mon, ended) ← mon.workspaceSwitchGestureEnd clock isTouchpad
      pure (mon, if ended then some () else none)) monitors
    pure { self with monitorSet := .normal monitors primaryIdx activeMonitorIdx }
  | .noOutputs _ => pure self

omit [DecidableEq Id] in
/-- The tiling space has no view to move. -/
def viewOffsetGestureBegin (self : Layout W Id) : Outcome (Layout W Id) :=
  match self.monitorSet with
  | .normal .. => pure self
  | .noOutputs _ => throw .unreachableCode

omit [DecidableEq Id] in
/-- A drag-and-drop begins, or goes on somewhere else. -/
def dndUpdate (self : Layout W Id) (clock : Clock) (output : Output) (pos : Point) :
    Outcome (Layout W Id) :=
  let begins := self.dnd.isNone
  let self := { self with dnd := some ⟨output, pos, none⟩ }
  if begins then self.mapMonitors fun mon => pure (mon.dndScrollGestureBegin clock)
  else pure self

omit [DecidableEq Id] in
def dndEnd (self : Layout W Id) (clock : Clock) : Outcome (Layout W Id) :=
  if self.dnd.isNone then pure self
  else { self with dnd := none }.mapMonitors (·.dndScrollGestureEnd clock)

/-! ### Names of workspaces -/

omit [DecidableEq Id] in
/-- The workspace that a user means, by default the active one. -/
def findWorkspaceByRef (self : Layout W Id) :
    Option WorkspaceReference → Outcome (Option (Workspace W Id))
  | none => match self.monitorSet with
    | .normal monitors _ activeMonitorIdx => do
      let mon ← Vec.get monitors activeMonitorIdx
      let ws ← mon.activeWorkspaceRef
      pure (some ws)
    | .noOutputs _ => pure none
  | some (.index index) => match self.monitorSet with
    | .normal monitors _ activeMonitorIdx => do
      let mon ← Vec.get monitors activeMonitorIdx
      pure mon.workspaces[index - 1]?
    | .noOutputs _ => pure none
  | some (.name name) => pure (self.workspaces.find? (·.isNamed name))
  | some (.id id) => pure (self.workspaces.find? fun ws => ws.id = id)

omit [DecidableEq Id] in
/-- The active monitor is looked at once a workspace was named, as there used to be
something to do. -/
def checkActiveMonitor (self : Layout W Id) : Outcome Unit :=
  match self.monitorSet with
  | .normal monitors _ activeMonitorIdx => do
    let _ ← Vec.get monitors activeMonitorIdx
    pure ()
  | .noOutputs _ => pure ()

/-- A name that is already used is ignored. -/
def setWorkspaceName (self : Layout W Id) (name : String) (reference : Option WorkspaceReference) :
    Outcome (Layout W Id) :=
  if self.workspaces.any (·.isNamed name) then pure self
  else do
    match ← self.findWorkspaceByRef reference with
    | none => pure self
    | some ws => do
      let found ← self.onFirstWorkspace (fun u => u.id = ws.id) fun u =>
        pure { u with name := some name }
      self.checkActiveMonitor
      pure (found.getD self)

omit [DecidableEq Id] in
/-- Without outputs an empty workspace goes with its name. -/
def unnameWorkspaceById (self : Layout W Id) (id : WorkspaceId) : Outcome (Layout W Id) :=
  match self.monitorSet with
  | .normal monitors primaryIdx activeMonitorIdx => do
    let (monitors, _) ← Vec.applyUntil (fun mon : Monitor W Id => do
      let (mon, found) ← mon.unnameWorkspace id
      pure (mon, if found then some () else none)) monitors
    pure { self with monitorSet := .normal monitors primaryIdx activeMonitorIdx }
  | .noOutputs workspaces =>
    match workspaces.findIdx? fun ws => ws.id = id with
    | none => pure self
    | some idx => do
      let ws ← Vec.get workspaces idx
      let workspaces :=
        if ws.hasWindows then workspaces.set idx ws.unname else workspaces.eraseIdx idx
      pure { self with monitorSet := .noOutputs workspaces }

omit [DecidableEq Id] in
def unsetWorkspaceName (self : Layout W Id) (reference : Option WorkspaceReference) :
    Outcome (Layout W Id) := do
  match ← self.findWorkspaceByRef reference with
  | none => pure self
  | some ws => self.unnameWorkspaceById ws.id

omit [DecidableEq Id] in
def unnameWorkspace (self : Layout W Id) (name : String) : Outcome (Layout W Id) :=
  self.unsetWorkspaceName (some (.name name))

omit [DecidableEq Id] in
/-- A workspace of the configuration is made, unless there is one of its name. -/
def ensureNamedWorkspace (self : Layout W Id) (clock : Clock) (wsConfig : WorkspaceConfig) :
    Outcome (Layout W Id) :=
  if self.workspaces.any (·.isNamed wsConfig.name) then pure self
  else match self.monitorSet with
    | .normal monitors primaryIdx activeMonitorIdx => do
      let monIdx := match wsConfig.openOnOutput with
        | some name => (monitors.findIdx? (·.output.name.matches name)).getD primaryIdx
        | none => activeMonitorIdx
      let monitors ← Vec.apply monitors monIdx fun mon =>
        mon.insertWorkspace clock
          (.newWithConfig self.nextWorkspaceId mon.output (some wsConfig) self.options) 0 false
      pure { self with
        nextWorkspaceId := self.nextWorkspaceId + 1
        monitorSet := .normal monitors primaryIdx activeMonitorIdx }
    | .noOutputs workspaces =>
      pure { self with
        nextWorkspaceId := self.nextWorkspaceId + 1
        monitorSet := .noOutputs (.newWithConfigNoOutputs self.nextWorkspaceId (some wsConfig)
          self.options :: workspaces) }

/-! ### Configuration and outputs -/

omit [DecidableEq Id] in
def updateOptions (self : Layout W Id) (options : Options) : Outcome (Layout W Id) := do
  let self := match self.moved with
    | some data =>
      { self with interactiveMove := some (.moving (data.updateTileConfig options)) }
    | none => self
  let self ← match self.monitorSet with
    | .normal .. => self.mapMonitors fun mon => pure (mon.updateConfig options)
    | .noOutputs workspaces =>
      pure { self with monitorSet := .noOutputs (workspaces.map (·.updateConfig options)) }
  pure { self with options }

omit [DecidableEq Id] in
/-- The options are those of the new configuration. -/
def updateConfig (self : Layout W Id) (configs : List WorkspaceConfig) (options : Options) :
    Outcome (Layout W Id) := do
  let self ← self.mapWorkspaces fun ws =>
    match ws.name.bind fun name => configs.find? fun config => config.name = name with
    | some config => pure (ws.updateLayoutConfig config.layout)
    | none => pure ws
  self.updateOptions options

omit [DecidableEq Id] in
/-- The overrides of an output changed. -/
def updateLayoutConfig (self : Layout W Id) (output : Output) (layoutConfig : Option LayoutPart) :
    Outcome (Layout W Id) :=
  self.onMonitorFor output fun mon => pure (mon.updateLayoutConfig layoutConfig)

omit [DecidableEq Id] in
/-- The state of an output is shared by all its handles, here passed. -/
def updateOutputSize (self : Layout W Id) (output : Output) : Outcome (Layout W Id) :=
  let share := fun old : Output => if old.key = output.key then output else old
  let self := match self.moved with
    | some data =>
      { self with interactiveMove := some (.moving { data with output := share data.output }) }
    | none => self
  let dnd := self.dnd.map fun dnd => { dnd with output := share dnd.output }
  { self with dnd }.onMonitorFor output (·.updateOutputSize output)

/-! ### Frames -/

/-- How long a drag is to be held before it activates what it is over. -/
def dndHoldDelay : Duration := Animation.ofMillis 750

/-- A drag is held over what it hits on a monitor, unless the view scrolls. -/
def advanceHold (self : Layout W Id) (clock : Clock) (dnd : DndData Id) (mon : Monitor W Id)
    (scrolled : Bool) (hit : Option Id) : Outcome (Layout W Id) :=
  match if scrolled then none else mon.holdTarget clock dnd.pointerPosWithinOutput hit with
  | none => pure { self with dnd := some { dnd with hold := none } }
  | some target =>
    let hold := dnd.holdOver clock.nowUnadjusted target
    if dndHoldDelay ≤ clock.nowUnadjusted - hold.startTime then do
      -- in the overview the switch goes along with closing it
      let config :=
        if self.overviewOpen then some self.options.animations.overviewOpenClose else none
      let self ← { self with dnd := some { dnd with hold := none } }.onMonitorFor dnd.output
        (·.activateHeld clock target config)
      (self.focusOutput dnd.output).closeOverview clock
    else pure { self with dnd := some { dnd with hold := some hold } }

omit [DecidableEq Id] in
/-- Where a drag may scroll, and whether it scrolls workspaces too. -/
def dndScrollPosition (self : Layout W Id) : Option (Output × Point × Bool) :=
  match self.dnd with
  | some dnd => some (dnd.output, dnd.pointerPosWithinOutput, true)
  | none => self.moved.map fun data =>
    (data.output, data.pointerPosWithinOutput, !data.isFloating)

/-- Scrolls the view for a drag. -/
def advanceDrag (self : Layout W Id) (clock : Clock) (hit : Option Id) : Outcome (Layout W Id) :=
  match self.dndScrollPosition, self.monitorSet with
  | some (output, pos, isScrolling), .normal monitors primaryIdx activeMonitorIdx =>
    match monitors.findIdx? (·.output.key = output.key) with
    | none => pure self
    | some i => do
      let (scrolled, monitors) ← Vec.update monitors i fun mon => do
        let (mon, scrolled) ← mon.dndScroll clock pos isScrolling
        pure (scrolled, mon)
      let self := { self with monitorSet := .normal monitors primaryIdx activeMonitorIdx }
      match self.dnd with
      | some dnd => do
        let mon ← Vec.get monitors i
        self.advanceHold clock dnd mon scrolled hit
      | none => pure self
  | _, _ => pure self

/-- What a drag-and-drop hits, if it is a window, is given. -/
def advanceAnimations (self : Layout W Id) (clock : Clock) (hit : Option Id) :
    Outcome (Layout W Id) := do
  let self := match self.moved with
    | some data =>
      let tile := data.tile.advanceAnimations clock
      { self with interactiveMove := some (.moving { data with tile }) }
    | none => self
  let self ← self.advanceDrag clock hit
  let overviewProgress := match self.overviewProgress with
    | some (.animation anim) =>
      if !anim.isDone clock then some (.animation anim)
      else if self.overviewOpen then some .opened
      else none
    | progress => progress
  let self := { self with overviewProgress }
  match self.monitorSet with
  | .normal .. => self.mapMonitors fun mon =>
    (mon.setOverviewProgress clock
      (overviewProgress.map OverviewProgress.forMonitor)).advanceAnimations clock
  | .noOutputs workspaces =>
    pure { self with monitorSet := .noOutputs (workspaces.map (·.advanceAnimations clock)) }

/-- A window that is held without being dragged yet is somewhere. -/
def checkHeld (self : Layout W Id) : Outcome Unit :=
  match self.interactiveMove, self.dnd with
  | some (.starting windowId _ _), none => do
    let _ ← unwrap (self.workspaces.find? (·.hasWindow windowId))
    pure ()
  | _, _ => pure ()

def refresh (self : Layout W Id) (clock : Clock) (isActive : Bool) : Outcome (Layout W Id) := do
  let self := { self with isActive }
  self.checkHeld
  let self := match self.moved with
    | some data =>
      let data := data.change (.refresh data.output.size.toI32Round)
      { self with interactiveMove := some (.moving data) }
    | none => self
  let dragging := self.dnd.isSome || self.interactiveMove.isSome
  match self.monitorSet with
  | .normal monitors primaryIdx activeMonitorIdx => do
    let monitors ← monitors.zipIdx.mapM fun (mon, idx) =>
      mon.refresh clock (isActive && idx == activeMonitorIdx && self.moved.isNone) dragging
        self.overviewOpen
    pure { self with monitorSet := .normal monitors primaryIdx activeMonitorIdx }
  | .noOutputs workspaces =>
    pure { self with monitorSet := .noOutputs (workspaces.map (·.refresh false false)) }

omit [DecidableEq Id] in
def updateInsertHint (self : Layout W Id) (clock : Clock) (output : Option Output) :
    Outcome (Layout W Id) := do
  let self ← self.mapMonitors fun mon => pure { mon with insertHint := none }
  match self.moved with
  | some data =>
    if output.all fun output => data.output.key = output.key then
      self.onMonitorFor data.output (·.updateInsertHint clock data)
    else pure self
  | none => pure self

omit [DecidableEq Id] in
def updateRenderElements (self : Layout W Id) (clock : Clock) (output : Option Output) :
    Outcome (Layout W Id) := do
  let self ← self.updateInsertHint clock output
  let progress := self.overviewProgress.map OverviewProgress.forMonitor
  self.mapMonitors fun mon => pure
    (if output.all fun output => mon.output.key = output.key then
      mon.setOverviewProgress clock progress
    else mon)

end Layout

end Sol
