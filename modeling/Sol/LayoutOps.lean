import Sol.Desk
import Sol.InteractiveMove

/-!
# Operations of the layout

What users and clients ask of the layout, apart from opening, closing and dragging
windows: commands to the active workspace or monitor or to the workspace of a window,
moves to other outputs, takeovers, gestures, the overview, the names of workspaces,
the configuration, and the periodic calls.
-/

namespace Sol

open Panicking

variable {W Id : Type} [LayoutElement W Id]

/-- `DndData::hold`, over something at some time. -/
def DndData.holdOver [DecidableEq Id] (self : DndData Id) (now : Duration)
    (target : DndHoldTarget Id) : DndHold Id where
  startTime := match self.hold with
    | some hold => if hold.target ≠ target then now else hold.startTime
    | none => now
  target := target

namespace InteractiveMoveData

/-- What becomes of a dragged tile. -/
def change (self : InteractiveMoveData W) (how : Held.Change) : InteractiveMoveData W :=
  let removed := Held.changeTile ⟨self.tile, self.width, self.isFullWidth, self.isFloating⟩ how
  { self with tile := removed.tile, isFloating := removed.isFloating }

end InteractiveMoveData

namespace Workspace

/-- The tiling space does not scroll. -/
def dndScrollGestureScroll (self : Workspace W Id) (pos : Point) : Outcome Bool := do
  let width := self.workingArea.size.w
  let _ ← clampAsserting 0 width (pos.x - self.workingArea.loc.x)
  let _ ← clampAsserting 0 (width / 2) self.options.gestures.dndEdgeViewScroll.trigger
  pure false

/-- Whether a workspace has a name, up to ASCII case. -/
def isNamed (self : Workspace W Id) (name : String) : Bool :=
  self.name.any fun own => eqIgnoreAsciiCase own.toList name.toList

end Workspace

namespace Monitor

/-- Whether the view is dragged between a workspace and another one. -/
def isSwipedOver (self : Monitor W Id) (idx : ℕ) : Bool :=
  match self.workspaceSwitch with
  | some (.gesture g) => ⌊g.currentIdx⌋ = idx || ⌈g.currentIdx⌉ = idx
  | _ => false

/-- Scrolls the view, and the workspace at a position unless a floating window is
dragged; whether anything scrolled. -/
def dndScroll (self : Monitor W Id) (clock : Clock) (pos : Point) (isScrolling : Bool) :
    Outcome (Monitor W Id × Bool) := do
  let speed := 1 / self.overviewZoom clock
  let (self, scrolled) ← self.dndScrollGestureScroll clock pos speed
  match if isScrolling then self.workspaceUnder clock pos else none with
  | some (ws, geo) => do
    let ws ← unwrap (self.workspaces.find? fun u => u.id = ws.id)
    let wsScrolled ← ws.dndScrollGestureScroll (pos - ⟨0, geo.loc.y⟩)
    pure (self, scrolled || wsScrolled)
  | none => pure (self, scrolled)

/-- What a drag is held over, where it hits a window or not. -/
def holdTarget (self : Monitor W Id) (clock : Clock) (pos : Point) (hit : Option Id) :
    Option (DndHoldTarget Id) :=
  (hit.map DndHoldTarget.window).or
    ((self.workspaceUnderNarrow clock pos).map fun ws => .workspace ws.id)

variable [DecidableEq Id]

/-- Activates the window or the workspace that a drag was held over. -/
def activateHeld (self : Monitor W Id) (clock : Clock) (target : DndHoldTarget Id)
    (config : Option AnimationConfig) : Outcome (Monitor W Id) := do
  let (workspaces, wsIdx) ← match target with
    | .window id => do
      let (workspaces, found) ← Vec.applyUntil (fun ws : Workspace W Id => do
        let (ws, done) ← ws.activateWindow id
        pure (ws, if done then some () else none)) self.workspaces
      let (idx, _) ← unwrap found
      pure (workspaces, idx)
    | .workspace id => do
      let idx ← unwrap (self.workspaces.findIdx? fun ws => ws.id = id)
      pure (self.workspaces, idx)
  let self ← { self with workspaces }.dndScrollGestureEnd clock
  self.activateWorkspaceWithAnimConfig clock wsIdx config

/-- The commands that the layout hands on to the active monitor. -/
inductive Command
  | moveDownOrToWorkspaceDown
  | moveUpOrToWorkspaceUp
  | focusWindowOrWorkspaceDown
  | focusWindowOrWorkspaceUp
  | moveToWorkspaceUp (focus : Bool)
  | moveToWorkspaceDown (focus : Bool)
  | moveColumnToWorkspaceUp (activate : Bool)
  | moveColumnToWorkspaceDown (activate : Bool)
  | moveColumnToWorkspace (idx : ℕ) (activate : Bool)
  | switchWorkspaceUp
  | switchWorkspaceDown
  | switchWorkspace (idx : ℕ)
  | switchWorkspaceAutoBackAndForth (idx : ℕ)
  | switchWorkspacePrevious
  | moveWorkspaceDown
  | moveWorkspaceUp
  deriving DecidableEq, Repr

def runCommand (self : Monitor W Id) (clock : Clock) : Command → Outcome (Monitor W Id)
  | .moveDownOrToWorkspaceDown => self.moveDownOrToWorkspaceDown clock
  | .moveUpOrToWorkspaceUp => self.moveUpOrToWorkspaceUp clock
  | .focusWindowOrWorkspaceDown => self.focusWindowOrWorkspaceDown clock
  | .focusWindowOrWorkspaceUp => self.focusWindowOrWorkspaceUp clock
  | .moveToWorkspaceUp focus => self.moveToWorkspaceUp clock focus
  | .moveToWorkspaceDown focus => self.moveToWorkspaceDown clock focus
  | .moveColumnToWorkspaceUp activate => self.moveColumnToWorkspaceUp clock activate
  | .moveColumnToWorkspaceDown activate => self.moveColumnToWorkspaceDown clock activate
  | .moveColumnToWorkspace idx activate => self.moveColumnToWorkspace clock idx activate
  | .switchWorkspaceUp => self.switchWorkspaceUp clock
  | .switchWorkspaceDown => self.switchWorkspaceDown clock
  | .switchWorkspace idx => self.switchWorkspace clock idx
  | .switchWorkspaceAutoBackAndForth idx => self.switchWorkspaceAutoBackAndForth clock idx
  | .switchWorkspacePrevious => self.switchWorkspacePrevious clock
  | .moveWorkspaceDown => self.moveWorkspaceDown clock
  | .moveWorkspaceUp => self.moveWorkspaceUp clock

end Monitor

namespace Layout

/-! ### Overview -/

def overviewGestureMovement : ℚ := 300

def overviewGestureRubberBand : RubberBand := ⟨1 / 2, 1 / 20⟩

/-- Tells every monitor how far the overview is open. -/
def setMonitorsOverviewState (self : Layout W Id) (clock : Clock) : Outcome (Layout W Id) :=
  self.mapMonitors fun mon => pure
    ({ mon with overviewOpen := self.overviewOpen }.setOverviewProgress clock
      (self.overviewProgress.map OverviewProgress.forMonitor))

def toggleOverview (self : Layout W Id) (clock : Clock) : Outcome (Layout W Id) :=
  let overviewOpen := !self.overviewOpen
  let start := self.overviewProgress.elim 0 (·.value clock)
  let anim := Animation.new clock start (if overviewOpen then 1 else 0) 0
    self.options.animations.overviewOpenClose
  { self with overviewOpen, overviewProgress := some (.animation anim) }.setMonitorsOverviewState
    clock

def openOverview (self : Layout W Id) (clock : Clock) : Outcome (Layout W Id) :=
  if self.overviewOpen then pure self else self.toggleOverview clock

def closeOverview (self : Layout W Id) (clock : Clock) : Outcome (Layout W Id) :=
  if !self.overviewOpen then pure self else self.toggleOverview clock

def toggleOverviewToWorkspace (self : Layout W Id) (clock : Clock) (wsIdx : ℕ) :
    Outcome (Layout W Id) := do
  let config := self.options.animations.overviewOpenClose
  let self ← self.onActiveMonitor (·.activateWorkspaceWithAnimConfig clock wsIdx (some config))
  self.toggleOverview clock

def overviewGestureBegin (self : Layout W Id) (clock : Clock) : Outcome (Layout W Id) :=
  let value := self.overviewProgress.elim 0 (·.value clock)
  { self with
    overviewOpen := true
    overviewProgress := some (.gesture ⟨.new, value, value⟩) }.setMonitorsOverviewState clock

def overviewGestureUpdate (self : Layout W Id) (clock : Clock) (deltaY : ℚ)
    (timestamp : Duration) : Outcome (Layout W Id) :=
  match self.overviewProgress with
  | some (.gesture g) =>
    let g := { g with tracker := g.tracker.push deltaY timestamp }
    let newValue := overviewGestureRubberBand.clamp 0 1
      (g.start + g.tracker.pos / overviewGestureMovement)
    if g.value = newValue then pure { self with overviewProgress := some (.gesture g) }
    else { self with
      overviewProgress := some (.gesture { g with value := newValue }) }.setMonitorsOverviewState
        clock
  | _ => pure self

def overviewGestureEnd (self : Layout W Id) (clock : Clock) : Outcome (Layout W Id) :=
  match self.overviewProgress with
  | some (.gesture g) =>
    -- idle time between the last event and now
    let tracker := g.tracker.push 0 clock.nowUnadjusted
    let newValue : ℚ := roundHalfAway
      (clamp 0 1 (g.start + tracker.projectedEndPos / overviewGestureMovement))
    let velocity := tracker.velocity / overviewGestureMovement *
      overviewGestureRubberBand.clampDerivative 0 1
        (g.start + tracker.pos / overviewGestureMovement)
    let anim := Animation.new clock g.value newValue velocity
      self.options.animations.overviewOpenClose
    { self with
      overviewOpen := decide (newValue = 1)
      overviewProgress := some (.animation anim) }.setMonitorsOverviewState clock
  | _ => pure self

variable [DecidableEq Id]

/-! ### Commands -/

/-- The animated moves do nothing where the active index is not that of a workspace. -/
def moveAnimated (self : Layout W Id) (clock : Clock) (direction : Workspace.Direction) :
    Outcome (Layout W Id) :=
  self.onActiveMonitor fun mon =>
    if mon.activeWorkspaceIdx < mon.workspaces.length then
      mon.onWorkspace mon.activeWorkspaceIdx (·.runCommand clock (.moveAnimated direction))
    else pure mon

/-- A command to the active workspace. -/
def runCommand (self : Layout W Id) (clock : Clock) :
    Workspace.Command → Outcome (Layout W Id)
  | .moveAnimated direction => self.moveAnimated clock direction
  | cmd => self.onActiveWorkspace (·.runCommand clock cmd)

/-- What a command to a dragged window does. -/
def runMovedCommand (self : Layout W Id) (data : InteractiveMoveData W) :
    Workspace.WindowCommand → Layout W Id
  | .toggleWindowFloating =>
    { self with interactiveMove := some (.moving (data.change .toggleFloating)) }
  | .setWindowFloating floating =>
    if data.isFloating ≠ floating then
      { self with interactiveMove := some (.moving (data.change .toggleFloating)) }
    else self
  | _ => self

/-- A command to a window, or else to the active workspace. -/
def runWindowCommand (self : Layout W Id) (clock : Clock) (window : Option Id)
    (cmd : Workspace.WindowCommand) : Outcome (Layout W Id) :=
  match self.moved.filter fun data => window.isNone || window = some data.tile.windowId with
  | some data => pure (self.runMovedCommand data cmd)
  | none => self.onWindowOrActive window (·.runWindowCommand clock window cmd)

def moveToWorkspace (self : Layout W Id) (clock : Clock) (window : Option Id) (idx : ℕ)
    (activate : ActivateWindow) : Outcome (Layout W Id) :=
  if self.isAboutMoved window then pure self
  else match window, self.monitorSet with
    | some id, .normal monitors primaryIdx activeMonitorIdx => do
      let found ← Vec.applyFirst (·.hasWindow id)
        (·.moveToWorkspace clock window idx activate) monitors
      let monitors ← unwrap found
      pure { self with monitorSet := .normal monitors primaryIdx activeMonitorIdx }
    | some _, .noOutputs _ => pure self
    | none, _ => self.onActiveMonitor (·.moveToWorkspace clock window idx activate)

/-- Activates the first workspace where `activate` finds the window, and its monitor.
A view that is dragged to or from the workspace stays where it is. -/
def activateBy (self : Layout W Id) (clock : Clock) (window : Id)
    (activate : Workspace W Id → Outcome (Workspace W Id × Bool)) : Outcome (Layout W Id) :=
  if self.isMoved window then pure self
  else match self.monitorSet with
    | .normal monitors primaryIdx activeMonitorIdx => do
      let (monitors, found) ← Vec.applyUntil (fun mon : Monitor W Id => do
        let (workspaces, found) ← Vec.applyUntil (fun ws => do
          let (ws, done) ← activate ws
          pure (ws, if done then some () else none)) mon.workspaces
        let mon := { mon with workspaces }
        match found with
        | none => pure (mon, none)
        | some (idx, _) => do
          let mon ← if mon.isSwipedOver idx then pure mon else mon.switchWorkspace clock idx
          pure (mon, some ())) monitors
      let activeMonitorIdx := found.elim activeMonitorIdx (·.1)
      pure { self with monitorSet := .normal monitors primaryIdx activeMonitorIdx }
    | .noOutputs _ => pure self

def activateWindow (self : Layout W Id) (clock : Clock) (window : Id) : Outcome (Layout W Id) :=
  self.activateBy clock window (·.activateWindow window)

def activateWindowWithoutRaising (self : Layout W Id) (clock : Clock) (window : Id) :
    Outcome (Layout W Id) :=
  self.activateBy clock window fun ws => pure (ws.activateWindowWithoutRaising window)

/-! ### Other outputs -/

/-- Where a window is, or the active workspace: the indices of monitor and workspace. -/
def locate (monitors : List (Monitor W Id)) (activeMonitorIdx : ℕ) :
    Option Id → Outcome (ℕ × ℕ)
  | some window => do
    let monIdx ← unwrap (monitors.findIdx? (·.hasWindow window))
    let mon ← Vec.get monitors monIdx
    let wsIdx ← unwrap (mon.workspaces.findIdx? (·.hasWindow window))
    pure (monIdx, wsIdx)
  | none => do
    let mon ← Vec.get monitors activeMonitorIdx
    pure (activeMonitorIdx, mon.activeWorkspaceIdx)

/-- Whether the view follows a window to another output. -/
def followsTo (mon : Monitor W Id) (isActive : Bool) (window : Option Id) :
    ActivateWindow → Outcome Bool
  | .yes => pure true
  | .no => pure false
  | .smart => match window with
    | none => pure true
    | some window =>
      if isActive then do
        let active ← mon.activeWindow
        pure (decide (active.map LayoutElement.id = some window))
      else pure false

def moveToOutput (self : Layout W Id) (clock : Clock) (window : Option Id) (output : Output)
    (targetWsIdx : Option ℕ) (activate : ActivateWindow) : Outcome (Layout W Id) :=
  if self.isAboutMoved window then pure self
  else match self.monitorSet with
    | .normal monitors primaryIdx activeMonitorIdx => do
      let newIdx ← unwrap (monitors.findIdx? (·.output.key = output.key))
      let (monIdx, wsIdx) ← locate monitors activeMonitorIdx window
      let new ← Vec.get monitors newIdx
      let workspaceIdx := targetWsIdx.getD new.activeWorkspaceIdx
      if monIdx = newIdx ∧ wsIdx = workspaceIdx then pure self
      else match new.workspaces[workspaceIdx]? with
        | none => pure self
        | some target => do
          let mon ← Vec.get monitors monIdx
          let follow ← followsTo mon (monIdx = activeMonitorIdx) window activate
          let (removed, monitors) ← Vec.update monitors monIdx fun mon => do
            let (removed, workspaces) ← Vec.update mon.workspaces wsIdx
              (Monitor.takeTile clock window)
            pure (removed, { mon with workspaces })
          match removed with
          | none =>
            pure { self with monitorSet := .normal monitors primaryIdx activeMonitorIdx }
          | some removed => do
            let removed := { removed with tile := removed.tile.stopMoveAnimations }
            let monitors ← Vec.apply monitors newIdx fun mon =>
              mon.addRemoved clock removed target.id (if follow then .yes else .no)
            let monitors ← Vec.apply monitors monIdx (·.cleanUpIfStill)
            pure { self with
              monitorSet := .normal monitors primaryIdx (if follow then newIdx else activeMonitorIdx) }
    | .noOutputs _ => pure self

def addColumnByIdx (self : Layout W Id) (clock : Clock) (monitorIdx workspaceIdx : ℕ)
    (column : Column W) (activate : Bool) : Outcome (Layout W Id) :=
  match self.monitorSet with
  | .normal monitors primaryIdx activeMonitorIdx => do
    let monitors ← Vec.apply monitors monitorIdx
      (·.addColumn clock workspaceIdx column activate)
    pure { self with
      monitorSet := .normal monitors primaryIdx
        (if activate then monitorIdx else activeMonitorIdx) }
  | .noOutputs _ => throw (.explicitPanic "explicit panic")

/-- What is active in the floating space moves as a window. -/
def moveColumnToOutput (self : Layout W Id) (clock : Clock) (output : Output)
    (targetWsIdx : Option ℕ) (activate : Bool) : Outcome (Layout W Id) :=
  match self.monitorSet with
  | .normal monitors primaryIdx activeMonitorIdx => do
    let newIdx ← unwrap (monitors.findIdx? (·.output.key = output.key))
    let current ← Vec.get monitors activeMonitorIdx
    let ws ← current.activeWorkspaceRef
    if ws.floatingIsActive.get then self.moveToOutput clock none output none .smart
    else do
      let (column, monitors) ← Vec.update monitors activeMonitorIdx fun mon => do
        let (column, workspaces) ← Vec.update mon.workspaces mon.activeWorkspaceIdx
          (·.removeActiveColumn clock)
        pure (column, { mon with workspaces })
      let self := { self with monitorSet := .normal monitors primaryIdx activeMonitorIdx }
      match column with
      | none => pure self
      | some column => do
        let new ← Vec.get monitors newIdx
        let last ← checkedSub new.workspaces.length 1
        let workspaceIdx := min (targetWsIdx.getD new.activeWorkspaceIdx) last
        self.addColumnByIdx clock newIdx workspaceIdx column activate
  | .noOutputs _ => pure self

/-- Tries an operation of the active workspace, else does something else. -/
def orElse (self : Layout W Id) (first : Workspace W Id → Outcome (Workspace W Id × Bool))
    (second : Layout W Id → Outcome (Layout W Id)) : Outcome (Layout W Id) :=
  match self.monitorSet with
  | .normal monitors primaryIdx activeMonitorIdx => do
    let (done, monitors) ← Vec.update monitors activeMonitorIdx fun mon => do
      let (done, workspaces) ← Vec.update mon.workspaces mon.activeWorkspaceIdx fun ws => do
        let (ws, done) ← first ws
        pure (done, ws)
      pure (done, { mon with workspaces })
    let self := { self with monitorSet := .normal monitors primaryIdx activeMonitorIdx }
    if done then pure self else second self
  | .noOutputs _ => second self

def moveColumnLeftOrToOutput (self : Layout W Id) (clock : Clock) (output : Output) :
    Outcome (Layout W Id) :=
  self.orElse (·.moveLeft clock) (·.moveColumnToOutput clock output none true)

def moveColumnRightOrToOutput (self : Layout W Id) (clock : Clock) (output : Output) :
    Outcome (Layout W Id) :=
  self.orElse (·.moveRight clock) (·.moveColumnToOutput clock output none true)

def focusWindowUpOrOutput (self : Layout W Id) (output : Output) : Outcome (Layout W Id) :=
  self.orElse (·.focusUp) fun self => pure (self.focusOutput output)

def focusWindowDownOrOutput (self : Layout W Id) (output : Output) : Outcome (Layout W Id) :=
  self.orElse (·.focusDown) fun self => pure (self.focusOutput output)

def focusColumnLeftOrOutput (self : Layout W Id) (output : Output) : Outcome (Layout W Id) :=
  self.orElse (·.focusLeft) fun self => pure (self.focusOutput output)

def focusColumnRightOrOutput (self : Layout W Id) (output : Output) : Outcome (Layout W Id) :=
  self.orElse (·.focusRight) fun self => pure (self.focusOutput output)

omit [DecidableEq Id] in
/-- The workspace moves below the active one of the other output; it is activated there
if it had the focus. -/
def moveWorkspaceToOutputById (self : Layout W Id) (clock : Clock) (oldIdx : ℕ)
    (oldOutput : Option Output) (newOutput : Output) : Outcome (Layout W Id) :=
  match self.monitorSet with
  | .normal monitors primaryIdx activeMonitorIdx => do
    let currentIdx ← match oldOutput with
      | some output => unwrap (monitors.findIdx? (·.output.key = output.key))
      | none => pure activeMonitorIdx
    let targetIdx ← unwrap (monitors.findIdx? (·.output.key = newOutput.key))
    let current ← Vec.get monitors currentIdx
    if current.workspaces.length ≤ oldIdx then pure self
    else if currentIdx = targetIdx then do
      -- an explicit move all the same
      let current := { current with
        workspaces := current.workspaces.modify oldIdx fun ws =>
          { ws with originalOutput := OutputId.new current.output } }
      pure { self with
        monitorSet := .normal (monitors.set currentIdx current) primaryIdx activeMonitorIdx }
    else do
      let activate := currentIdx = activeMonitorIdx && oldIdx = current.activeWorkspaceIdx
      let (ws, monitors) ← Vec.update monitors currentIdx (·.removeWorkspaceByIdx oldIdx)
      let ws := { ws with originalOutput := OutputId.new newOutput }
      let monitors ← Vec.apply monitors targetIdx fun target =>
        target.insertWorkspace clock ws (target.activeWorkspaceIdx + 1) activate
      pure { self with
        monitorSet := .normal monitors primaryIdx
          (if activate then targetIdx else activeMonitorIdx) }
  | .noOutputs _ => pure self

omit [DecidableEq Id] in
def moveWorkspaceToOutput (self : Layout W Id) (clock : Clock) (output : Output) :
    Outcome (Layout W Id) :=
  match self.monitorSet with
  | .normal monitors _ activeMonitorIdx => do
    let mon ← Vec.get monitors activeMonitorIdx
    self.moveWorkspaceToOutputById clock mon.activeWorkspaceIdx none output
  | .noOutputs _ => pure self

omit [DecidableEq Id] in
/-- Moves a workspace, by default the active one, within its monitor. -/
def moveWorkspaceToIdx (self : Layout W Id) (reference : Option (Option Output × ℕ))
    (newIdx : ℕ) : Outcome (Layout W Id) :=
  match reference with
  | some (some output, oldIdx) => self.onMonitorFor output (·.moveWorkspaceToIdx oldIdx newIdx)
  | some (none, oldIdx) => self.onActiveMonitor (·.moveWorkspaceToIdx oldIdx newIdx)
  | none => self.onActiveMonitor fun mon => mon.moveWorkspaceToIdx mon.activeWorkspaceIdx newIdx

end Layout

end Sol
