import Sol.Layout

/-!
# Dragging windows

A window is first held in place, by `interactiveMoveBegin`; once it is pulled far
enough it leaves the layout, by `interactiveMoveUpdate`, and is dropped somewhere
else by `interactiveMoveEnd`.  A window that is closed meanwhile is taken out of the
drag.
-/

namespace Sol

open Panicking

variable {W Id : Type} [LayoutElement W Id] [DecidableEq Id]

namespace Workspace

/-- The window goes back to its place from where it is held. -/
def releaseTile (self : Workspace W Id) (clock : Clock) (window : Id) : Workspace W Id :=
  self.modifyTile window fun tile =>
    { tile with interactiveMoveOffset := .zero }.animateMoveFrom clock tile.interactiveMoveOffset

/-- A held window that was active still is when it is let go. -/
def release (self : Workspace W Id) (clock : Clock) (window : Id) : Outcome (Workspace W Id) := do
  let self := self.releaseTile clock window
  if self.activeWindow.any fun win => LayoutElement.id win = window then do
    let (self, _) ← self.activateWindow window
    pure self
  else pure self

end Workspace

namespace Monitor

/-- The first visible workspace that has a window, and where it is. -/
def visibleWorkspaceOf (self : Monitor W Id) (clock : Clock) (window : Id) :
    Option (Workspace W Id × Rect) :=
  ((self.workspacesWithRenderGeoIdx clock).find? fun ((_, ws), _) => ws.hasWindow window).map
    fun ((_, ws), geo) => (ws, geo)

/-- Where a dragged window is dropped on the monitor that it is over, with the place of
the workspace there. -/
def dropPosition (self : Monitor W Id) (clock : Clock) (data : InteractiveMoveData W) :
    Outcome (InsertWorkspace × InsertPosition × Option Point) := do
  let (insertWs, geo) ← self.insertPosition clock data.pointerPosWithinOutput
  match insertWs with
  | .existing id => do
    let ws ← unwrap (self.workspaces.find? fun ws => ws.id = id)
    pure (insertWs, if data.isFloating then .floating else ws.scrolling.insertPosition,
      some geo.loc)
  | .newAt _ => pure (insertWs, if data.isFloating then .floating else .newColumn 0, none)

/-- The same on another monitor: the first workspace. -/
def defaultDropPosition (self : Monitor W Id) (clock : Clock) (data : InteractiveMoveData W) :
    Outcome (InsertWorkspace × InsertPosition × Option Point) := do
  let ws ← Vec.get self.workspaces 0
  let geo ← unwrap (self.workspacesRenderGeo clock).head?
  pure (.existing ws.id, if data.isFloating then .floating else ws.scrolling.insertPosition,
    some geo.loc)

/-- The workspace for a dropped window. Between two workspaces a new one is made. -/
def dropWorkspace (self : Monitor W Id) (nextId : WorkspaceId) :
    InsertWorkspace → Outcome (ℕ × Monitor W Id × WorkspaceId)
  | .existing id => do
    let idx ← unwrap (self.workspaces.findIdx? fun ws => ws.id = id)
    pure (idx, self, nextId)
  | .newAt idx =>
    if self.options.layout.emptyWorkspaceAboveFirst = true ∧ idx = 0 then pure (0, self, nextId)
    else do
      let last ← checkedSub self.workspaces.length 1
      if last ≤ idx then pure (last, self, nextId)
      else do
        let self ← self.addWorkspaceAt nextId idx
        pure (idx, self, nextId + 1)

/-- A floating window is dropped where it is, in the size that it has. -/
def settledTile (self : Monitor W Id) (clock : Clock) (data : InteractiveMoveData W)
    (insertWs : InsertWorkspace) (offset : Option Point) (wsIdx : ℕ) : Outcome (Tile W) := do
  let zoom := self.overviewZoom clock
  let floatingPos ← match insertWs, offset with
    | .existing _, some offset => do
      let ws ← Vec.get self.workspaces wsIdx
      pure (some (ws.floating.logicalToSizeFrac
        ((data.tileRenderLocation clock zoom - offset).downscale zoom)))
    | _, _ => pure none
  let expected := LayoutElement.expectedSize data.tile.window
  pure { data.tile with
    floatingPos
    floatingWindowSize := if expected.isSome then expected else data.tile.floatingWindowSize }

/-- Puts a dropped window in its workspace. -/
def addDropped (self : Monitor W Id) (clock : Clock) (data : InteractiveMoveData W)
    (insertWs : InsertWorkspace) (offset : Option Point) (wsIdx : ℕ) (allow : Bool) :
    InsertPosition → Outcome (Monitor W Id)
  | .newColumn columnIdx => do
    let ws ← Vec.get self.workspaces wsIdx
    self.addTile clock data.tile (.workspace ws.id (some columnIdx)) .yes allow data.width
      data.isFullWidth false
  | .inColumn _ _ => self.addTileToColumn clock wsIdx data.tile true allow
  | .floating => do
    let tile ← self.settledTile clock data insertWs offset wsIdx
    let ws ← Vec.get self.workspaces wsIdx
    self.addTile clock tile (.workspace ws.id none) .yes allow data.width data.isFullWidth true

/-- The dropped window slides to its place from where it was dragged to. -/
def animateDropped (self : Monitor W Id) (clock : Clock) (window : Id) (zoom : ℚ) (loc : Point) :
    Outcome (Monitor W Id) := do
  let idx ← unwrap (self.workspaces.findIdx? (·.hasWindow window))
  let geo ← unwrap (self.workspacesRenderGeo clock)[idx]?
  self.onWorkspace idx fun ws => do
    let offset ← unwrap (ws.unroundedPosOf clock window)
    let newLoc := geo.loc + offset.upscale zoom
    pure (ws.modifyTile window (·.animateMoveFrom clock ((loc - newLoc).downscale zoom)))

/-- Drops a window on a monitor, at a position. -/
def dropAt (self : Monitor W Id) (clock : Clock) (nextId : WorkspaceId)
    (data : InteractiveMoveData W) (allow : Bool)
    (target : InsertWorkspace × InsertPosition × Option Point) :
    Outcome (Monitor W Id × WorkspaceId) := do
  let (insertWs, position, offset) := target
  let zoom := self.overviewZoom clock
  let loc := data.tileRenderLocation clock zoom
  let (wsIdx, self, nextId) ← self.dropWorkspace nextId insertWs
  let self ← self.addDropped clock data insertWs offset wsIdx allow position
  let self ← self.animateDropped clock data.tile.windowId zoom loc
  pure (self, nextId)

end Monitor

namespace Layout

/-! ### The end of a drag -/

/-- Lets go of a window that is held. -/
def release (self : Layout W Id) (clock : Clock) (window : Id) : Outcome (Layout W Id) := do
  let self ← { self with interactiveMove := none }.mapMonitors (·.dndScrollGestureEnd clock)
  self.mapWorkspaces (·.release clock window)

/-- Drops a dragged window on the monitor that it is over, or else on the active one. In
the overview that does not switch the workspace. -/
def drop (self : Layout W Id) (clock : Clock) (data : InteractiveMoveData W) :
    Outcome (Layout W Id) := do
  let self ← { self with interactiveMove := none }.mapMonitors (·.dndScrollGestureEnd clock)
  let allow := !self.overviewOpen
  match self.monitorSet with
  | .normal monitors primaryIdx activeMonitorIdx => do
    let found := monitors.findIdx? (·.output.key = data.output.key)
    let monIdx := found.getD activeMonitorIdx
    let mon ← Vec.get monitors monIdx
    let target ← if found.isSome then mon.dropPosition clock data
      else mon.defaultDropPosition clock data
    let (mon, nextWorkspaceId) ← mon.dropAt clock self.nextWorkspaceId data allow target
    pure { self with
      nextWorkspaceId, monitorSet := .normal (monitors.set monIdx mon) primaryIdx activeMonitorIdx }
  | .noOutputs workspaces => do
    let (workspaces, nextWorkspaceId) := self.ensureWorkspace workspaces
    let workspaces ← Vec.apply workspaces 0 fun ws =>
      ws.addTile data.tile .auto .yes data.width data.isFullWidth data.isFloating
    pure { self with nextWorkspaceId, monitorSet := .noOutputs workspaces }

def interactiveMoveEnd (self : Layout W Id) (clock : Clock) (window : Id) :
    Outcome (Layout W Id) :=
  match self.interactiveMove with
  | none => pure self
  | some (.starting windowId _ _) =>
    if windowId ≠ window then pure self else self.release clock windowId
  | some (.moving data) =>
    if window ≠ data.tile.windowId then pure self else self.drop clock data

/-- A dragged window is closed; it counts as tiled. -/
def removeMoved (self : Layout W Id) (clock : Clock) (data : InteractiveMoveData W) :
    Outcome (Option (RemovedTile W) × Layout W Id) := do
  let self ← { self with interactiveMove := none }.mapMonitors (·.dndScrollGestureEnd clock)
  pure (some ⟨data.tile, data.width, data.isFullWidth, false⟩, self)

def removeWindow (self : Layout W Id) (clock : Clock) (window : Id) :
    Outcome (Option (RemovedTile W) × Layout W Id) :=
  match self.interactiveMove with
  | some (.starting windowId _ _) =>
    if windowId = window then do
      let self ← self.interactiveMoveEnd clock window
      self.removeFromWorkspaces clock window
    else self.removeFromWorkspaces clock window
  | some (.moving data) =>
    if data.tile.windowId = window then self.removeMoved clock data
    else self.removeFromWorkspaces clock window
  | none => self.removeFromWorkspaces clock window

/-! ### The start of a drag -/

/-- The monitor and the visible workspace of a window, with its place. -/
def visibleWorkspaceOf (self : Layout W Id) (clock : Clock) (window : Id) :
    Option (Monitor W Id × Workspace W Id × Rect) :=
  self.monitors.findSome? fun mon =>
    (mon.visibleWorkspaceOf clock window).map fun (ws, geo) => (mon, ws, geo)

/-- Where a pointer is within a window, as fractions of its size. -/
def pointerRatio (tile : Tile W) (tilePos startPos : Point) (zoom : ℚ) : Point :=
  let offset := startPos - tilePos - tile.windowLoc.upscale zoom
  let size := tile.windowSize
  ⟨clamp 0 1 (offset.x / (size.w * zoom)), clamp 0 1 (offset.y / (size.h * zoom))⟩

/-- A visible window of the output is held, unless one already is. -/
def interactiveMoveBegin (self : Layout W Id) (clock : Clock) (window : Id) (output : Output)
    (startPos : Point) : Outcome (Layout W Id) :=
  if self.interactiveMove.isSome then pure self
  else match self.visibleWorkspaceOf clock window with
    | none => pure self
    | some (mon, ws, geo) =>
      if mon.output.key ≠ output.key then pure self
      else do
        let zoom := mon.overviewZoom clock
        let (tile, offset) ← unwrap
          ((ws.tilesWithRenderPositions clock).find? fun (tile, _) => tile.windowId = window)
        let ratio := pointerRatio tile (geo.loc + offset.upscale zoom) startPos zoom
        { self with interactiveMove := some (.starting window .zero ratio) }.mapMonitors
          fun mon => pure (mon.dndScrollGestureBegin clock)

/-- How far a window is to be pulled before it leaves the layout, squared. -/
def interactiveMoveStartThreshold : ℚ := 256 * 256

/-- Where the window is that is about to leave the layout, if it is on the output. -/
def tilePosOn (self : Layout W Id) (clock : Clock) (window : Id) (output : Output) :
    Outcome (Option (Point × ℚ)) :=
  match self.visibleWorkspaceOf clock window with
  | none => pure none
  | some (mon, ws, geo) =>
    if mon.output.key ≠ output.key then pure none
    else do
      let offset ← unwrap (ws.renderPosOf clock window)
      let zoom := mon.overviewZoom clock
      pure (some (geo.loc + offset.upscale zoom, zoom))

/-- The takeover of a window ends before it is dragged. -/
def endTakeovers (clock : Clock) (window : Id) (ws : Workspace W Id) : Outcome (Workspace W Id) := do
  let ws ← ws.setFullscreen clock window false
  ws.setMaximized clock window false

/-- The overrides of the workspace that has a window. -/
def workspaceConfigOf (self : Layout W Id) (window : Id) : Option (WorkspaceId × LayoutPart) :=
  (self.workspaces.find? (·.hasWindow window)).bind fun ws =>
    ws.layoutConfig.map fun config => (ws.id, config)

/-- A window that was taken out is dragged over an output. -/
def movedData (self : Layout W Id) (removed : RemovedTile W) (output : Output) (pos ratio : Point)
    (workspaceConfig : Option (WorkspaceId × LayoutPart)) : InteractiveMoveData W :=
  InteractiveMoveData.updateTileConfig
    { tile := { removed.tile.stopMoveAnimations with interactiveMoveOffset := .zero }
      output
      pointerPosWithinOutput := pos
      width := removed.width
      isFullWidth := removed.isFullWidth
      isFloating := removed.isFloating
      pointerRatioWithinWindow := ratio
      outputConfig := (self.monitorForOutput output).bind (·.layoutConfig)
      workspaceConfig } self.options

/-- A held window leaves the layout. -/
def pickUp (self : Layout W Id) (clock : Clock) (window : Id) (output : Output) (pos ratio : Point)
    (workspaceConfig : Option (WorkspaceId × LayoutPart)) : Outcome (Layout W Id) := do
  let tilePos ← self.tilePosOn clock window output
  let found ← { self with interactiveMove := none }.onFirstWorkspace (·.hasWindow window)
    (endTakeovers clock window)
  let self ← unwrap found
  let (removed, self) ← self.removeFromWorkspaces clock window
  let removed ← unwrap removed
  let data := self.movedData removed output pos ratio workspaceConfig
  let data := match tilePos with
    | some (tilePos, zoom) =>
      let newPos := data.tileRenderLocation clock zoom
      { data with tile := data.tile.animateMoveFrom clock ((tilePos - newPos).downscale zoom) }
    | none => data
  pure { self with interactiveMove := some (.moving data) }

/-- Pulls a held window. A tiled one stays in the layout for a while. -/
def pull (self : Layout W Id) (clock : Clock) (window : Id) (pointerDelta ratio delta : Point)
    (output : Output) (pos : Point) : Outcome (Layout W Id) := do
  let pointerDelta := pointerDelta + delta.downscale (self.overviewZoom clock)
  let distance := pointerDelta.x * pointerDelta.x + pointerDelta.y * pointerDelta.y
  let factor := RubberBand.band ⟨1, 1 / 2⟩ (distance / interactiveMoveStartThreshold)
  let ws ← unwrap (self.workspaces.find? (·.hasWindow window))
  let workspaceConfig := self.workspaceConfigOf window
  let self ← self.onWorkspaceOf window fun ws => pure (ws.modifyTile window fun tile =>
    { tile with interactiveMoveOffset := pointerDelta.upscale factor })
  let self := { self with interactiveMove := some (.starting window pointerDelta ratio) }
  if !ws.floating.hasWindow window && distance < interactiveMoveStartThreshold then pure self
  else self.pickUp clock window output pos ratio workspaceConfig

omit [DecidableEq Id] in
def focusOutput (self : Layout W Id) (output : Output) : Layout W Id :=
  match self.monitorSet with
  | .normal monitors primaryIdx activeMonitorIdx =>
    let idx := monitors.findIdx? (·.output.key = output.key)
    { self with monitorSet := .normal monitors primaryIdx (idx.getD activeMonitorIdx) }
  | .noOutputs _ => self

omit [DecidableEq Id] in
/-- The workspace that a dragged window was over. -/
def workspaceBelow (self : Layout W Id) (clock : Clock) (data : InteractiveMoveData W)
    (output : Output) : Outcome (Option WorkspaceId) :=
  match self.monitorForOutput output with
  | none => pure none
  | some mon => do
    let (insertWs, _) ← mon.insertPosition clock data.pointerPosWithinOutput
    match insertWs with
    | .existing id => pure (some id)
    | .newAt _ => pure none

omit [DecidableEq Id] in
/-- Drags a window. Over another workspace or output it loses the overrides of the one
that it came from. -/
def drag (self : Layout W Id) (clock : Clock) (data : InteractiveMoveData W) (output : Output)
    (pos : Point) : Outcome (Layout W Id) := do
  let wsId ← self.workspaceBelow clock data output
  let left := data.workspaceConfig.any fun config => some config.1 ≠ wsId
  let data := if left then { data with workspaceConfig := none } else data
  let moves := output.key ≠ data.output.key
  let outputConfig := (self.monitorForOutput output).bind (·.layoutConfig)
  let self := if moves then self.focusOutput output else self
  let data := if moves then { data with output, outputConfig } else data
  let data := if left || moves then data.updateTileConfig self.options else data
  pure { self with
    interactiveMove := some (.moving { data with pointerPosWithinOutput := pos }) }

def interactiveMoveUpdate (self : Layout W Id) (clock : Clock) (window : Id) (delta : Point)
    (output : Output) (pos : Point) : Outcome (Layout W Id) :=
  match self.interactiveMove with
  | none => pure self
  | some (.starting windowId pointerDelta ratio) =>
    if windowId ≠ window then pure self
    else self.pull clock windowId pointerDelta ratio delta output pos
  | some (.moving data) =>
    if window ≠ data.tile.windowId then pure self else self.drag clock data output pos

end Layout

end Sol
