import Sol.Floating

/-!
# Workspaces

A workspace holds a tiling space and a floating space, and remembers which of
the two has the focus.  Most of its operations go to one of them: to the focused
one, or to the one that holds the window in question.
-/

namespace Sol

open Panicking

/-- Unique id of a workspace. -/
abbrev WorkspaceId := ℕ

/-- The name of a workspace's original output. -/
abbrev OutputId := String

def OutputId.new (output : Output) : OutputId := output.name.formatMakeModelSerialOrConnector

def OutputId.matches (self : OutputId) (output : Output) : Bool := output.name.matches self

/-- A workspace declared in the configuration. -/
structure WorkspaceConfig where
  name : String
  openOnOutput : Option String
  layout : Option LayoutPart
  deriving DecidableEq, Repr

/-- Whether the floating space is active. -/
inductive FloatingActive
  | no
  /-- The tiling space is active, but the floating one renders on top. -/
  | noButRaised
  | yes
  deriving DecidableEq, Repr

def FloatingActive.get (self : FloatingActive) : Bool := self == .yes

/-- Where to put a newly added window. -/
inductive WorkspaceAddWindowTarget (Id : Type)
  | auto
  | newColumnAt (colIdx : ℕ)
  | nextTo (window : Id)
  deriving DecidableEq, Repr

structure Workspace (W Id : Type) where
  scrolling : ScrollingSpace W
  floating : FloatingSpace W Id
  floatingIsActive : FloatingActive
  /-- Stays when the output is disconnected. -/
  originalOutput : OutputId
  output : Option Output
  scale : ℚ
  viewSize : Size
  workingArea : Rect
  /-- The options as received from the monitor. -/
  baseOptions : Options
  /-- The options with the overrides of the workspace, adjusted for its scale. -/
  options : Options
  name : Option String
  layoutConfig : Option LayoutPart
  id : WorkspaceId

namespace Workspace

variable {W Id : Type} [LayoutElement W Id]

def newWithConfig (id : WorkspaceId) (output : Output) (config : Option WorkspaceConfig)
    (baseOptions : Options) : Workspace W Id :=
  let layoutConfig := config.bind (·.layout)
  let options := (baseOptions.withMergedLayout layoutConfig).adjustedForScale output.scale
  { scrolling := .new output.size output.workingArea output.scale options
    floating := .new output.size output.workingArea output.scale options
    floatingIsActive := .no
    originalOutput := (config.bind (·.openOnOutput)).getD (OutputId.new output)
    output := some output
    scale := output.scale
    viewSize := output.size
    workingArea := output.workingArea
    baseOptions, options
    name := config.map (·.name)
    layoutConfig, id }

def new (id : WorkspaceId) (output : Output) (options : Options) : Workspace W Id :=
  newWithConfig id output none options

def newWithConfigNoOutputs (id : WorkspaceId) (config : Option WorkspaceConfig)
    (baseOptions : Options) : Workspace W Id :=
  let layoutConfig := config.bind (·.layout)
  let options := (baseOptions.withMergedLayout layoutConfig).adjustedForScale 1
  let viewSize : Size := ⟨1280, 720⟩
  { scrolling := .new viewSize (.fromSize viewSize) 1 options
    floating := .new viewSize (.fromSize viewSize) 1 options
    floatingIsActive := .no
    originalOutput := (config.bind (·.openOnOutput)).getD ""
    output := none
    scale := 1
    viewSize
    workingArea := .fromSize viewSize
    baseOptions, options
    name := config.map (·.name)
    layoutConfig, id }

def newNoOutputs (id : WorkspaceId) (options : Options) : Workspace W Id :=
  newWithConfigNoOutputs id none options

def tiles (self : Workspace W Id) : List (Tile W) := self.scrolling.tiles ++ self.floating.tiles

def windowIds (self : Workspace W Id) : List Id := self.tiles.map (·.windowId)

def hasWindows (self : Workspace W Id) : Bool := !self.tiles.isEmpty

def hasWindowsOrName (self : Workspace W Id) : Bool := self.hasWindows || self.name.isSome

def unname (self : Workspace W Id) : Workspace W Id := { self with name := none }

def isActivePendingFullscreen (self : Workspace W Id) : Bool :=
  self.scrolling.isActivePendingFullscreen

def advanceAnimations (self : Workspace W Id) (clock : Clock) : Workspace W Id :=
  { self with
    scrolling := self.scrolling.advanceAnimations clock
    floating := self.floating.advanceAnimations clock }

/-! ### Configuration and output -/

def updateConfig (self : Workspace W Id) (baseOptions : Options) : Workspace W Id :=
  let options := (baseOptions.withMergedLayout self.layoutConfig).adjustedForScale self.scale
  { self with
    scrolling := self.scrolling.updateConfig self.viewSize self.workingArea self.scale options
    floating := self.floating.updateConfig self.viewSize self.workingArea self.scale options
    baseOptions, options }

def updateLayoutConfig (self : Workspace W Id) (layoutConfig : Option LayoutPart) :
    Workspace W Id :=
  if self.layoutConfig = layoutConfig then self
  else { self with layoutConfig }.updateConfig self.baseOptions

/-- A change of the scale has the options recomputed. -/
def setViewSize (self : Workspace W Id) (scale : ℚ) (size : Size) (workingArea : Rect) :
    Workspace W Id :=
  if self.scale = scale ∧ self.viewSize = size ∧ self.workingArea = workingArea then self
  else if self.scale ≠ scale then
    { self with scale, viewSize := size, workingArea }.updateConfig self.baseOptions
  else
    { self with
      scale, viewSize := size, workingArea
      scrolling := self.scrolling.updateConfig size workingArea scale self.options
      floating := self.floating.updateConfig size workingArea scale self.options }

/-- Reads the current state of the output. -/
def updateOutputSize (self : Workspace W Id) : Outcome (Workspace W Id) := do
  let output ← unwrap self.output
  pure (self.setViewSize output.scale output.size output.workingArea)

/-- An output that the original one matches gives it its full name. -/
def setOutput (self : Workspace W Id) (output : Option Output) : Outcome (Workspace W Id) :=
  if self.output.map (·.key) = output.map (·.key) then pure self
  else match output with
    | none => pure { self with output := none }
    | some output =>
      let originalOutput :=
        if OutputId.matches self.originalOutput output then OutputId.new output
        else self.originalOutput
      { self with output := some output, originalOutput }.updateOutputSize

def makeTile (self : Workspace W Id) (window : W) : Tile W :=
  Tile.new window self.viewSize self.scale self.options

def resolveScrollingWidth (self : Workspace W Id) (window : W) (width : Option PresetSize) :
    ColumnWidth :=
  match width.getD (.fixed (LayoutElement.size window).w) with
  | .fixed fixed =>
    let border := self.options.layout.border.mergedWith (LayoutElement.rules window).border
    .fixed (if border.off then fixed else fixed + border.width * 2)
  | .proportion prop => .proportion prop

/-! ### Windows and their positions -/

/-- `tiles_with_render_positions` of the tiling space. -/
def scrollingRenderPositions (self : Workspace W Id) : List (Tile W × Point) :=
  List.zip self.scrolling.tiles (self.scrolling.columnLayout.map (·.2.1))

/-- The tiles with their positions, rounded to physical pixels in the floating space. -/
def tilesWithRenderPositions (self : Workspace W Id) (clock : Clock) : List (Tile W × Point) :=
  self.floating.tilesWithRenderPositions clock ++ self.scrollingRenderPositions

variable [DecidableEq Id]

def hasWindow (self : Workspace W Id) (window : Id) : Bool :=
  self.tiles.any fun tile => tile.windowId = window

def activeWindow (self : Workspace W Id) : Option W :=
  if self.floatingIsActive.get then self.floating.activeWindow else self.scrolling.activeWindow

/-- The position at which a window is rendered. -/
def renderPosOf (self : Workspace W Id) (clock : Clock) (window : Id) : Option Point :=
  ((self.tilesWithRenderPositions clock).find? fun (tile, _) => tile.windowId = window).map (·.2)

/-- The same without the rounding, as a tile is looked for in order to be changed. -/
def unroundedPosOf (self : Workspace W Id) (clock : Clock) (window : Id) : Option Point :=
  let floating := self.floating.tilesWithOffsets.map fun (tile, offset) =>
    (tile, offset + tile.renderOffset clock)
  ((floating ++ self.scrollingRenderPositions).find? fun (tile, _) =>
    tile.windowId = window).map (·.2)

/-- Updates the first floating tile with a window, else the first tiled one. -/
def modifyTile (self : Workspace W Id) (window : Id) (f : Tile W → Tile W) : Workspace W Id :=
  match self.floating.idxOf window with
  | some idx =>
    { self with floating := { self.floating with tiles := self.floating.tiles.modify idx f } }
  | none =>
    { self with scrolling :=
        self.scrolling.modifyColumnById window fun col => { col with tile := f col.tile } }

/-- The tiled tile of a window. -/
def tiledTile (self : Workspace W Id) (window : Id) : Option (Tile W) :=
  self.scrolling.tiles.find? fun tile => tile.windowId = window

/-! ### Adding -/

/-- Whether an added window is activated next to another one. -/
def activateNextTo (self : Workspace W Id) (nextTo : Id) : ActivateWindow → Outcome Bool
  | .yes => pure true
  | .smart => do
    let active ← unwrap self.activeWindow
    pure (decide (LayoutElement.id active = nextTo))
  | .no => pure false

/-- Adds a tile to the tiling space. -/
def addTiled (self : Workspace W Id) (tile : Tile W) (activate : Bool) (width : ColumnWidth)
    (isFullWidth : Bool) : Workspace W Id :=
  { self with
    scrolling := self.scrolling.addTile tile activate width isFullWidth
    floatingIsActive := if activate then .no else self.floatingIsActive }

/-- The floating space becomes active with the added window, and when there is
nothing in the tiling space. -/
def withFloatingAdded (self : Workspace W Id) (floating : FloatingSpace W Id) (activate : Bool) :
    Workspace W Id :=
  { self with
    floating
    floatingIsActive :=
      if activate || self.scrolling.isEmpty then .yes else self.floatingIsActive }

/-- Adds a floating tile next to a window: above it when that is floating too,
else centred over its place in the tiling layout. -/
def addFloatingNextTo (self : Workspace W Id) (nextTo : Id) (tile : Tile W) (activate : Bool) :
    Outcome (FloatingSpace W Id) :=
  if self.floating.hasWindow nextTo then self.floating.addTileAbove nextTo tile activate
  else do
    let (nextToTile, renderPos) ← unwrap
      (self.scrollingRenderPositions.find? fun (tile, _) => tile.windowId = nextTo)
    let tileSize := tile.tileSize
    let pos := renderPos + (nextToTile.tileSize.toPoint - tileSize.toPoint).downscale 2
    let pos := self.floating.clampWithinWorkingArea pos tileSize
    self.floating.addTile
      { tile with floatingPos := some (self.floating.logicalToSizeFrac pos) } activate

/-- A window that is pending a takeover goes to the tiling space, also when it
should be floating. -/
def addTile (self : Workspace W Id) (tile : Tile W) (target : WorkspaceAddWindowTarget Id)
    (activate : ActivateWindow) (width : ColumnWidth) (isFullWidth isFloating : Bool) :
    Outcome (Workspace W Id) := do
  let tile := { tile with restoreToFloating := isFloating }
  let floats := isFloating && (LayoutElement.pendingSizingMode tile.window).isNormal
  match target with
  | .auto =>
    -- an active fullscreen window keeps the focus
    let activate := activate.mapSmart (!self.isActivePendingFullscreen)
    if floats then do
      let floating ← self.floating.addTile tile activate
      pure (self.withFloatingAdded floating activate)
    else pure (self.addTiled tile activate width isFullWidth)
  | .newColumnAt _ => pure (self.addTiled tile (activate.mapSmart false) width isFullWidth)
  | .nextTo nextTo => do
    let activate ← self.activateNextTo nextTo activate
    if floats then do
      let floating ← self.addFloatingNextTo nextTo tile activate
      pure (self.withFloatingAdded floating activate)
    else pure (self.addTiled tile activate width isFullWidth)

def addTileToColumn (self : Workspace W Id) (tile : Tile W) (activate : Bool) : Workspace W Id :=
  { self with
    scrolling := self.scrolling.addTileToColumn tile activate
    floatingIsActive := if activate then .no else self.floatingIsActive }

def addColumn (self : Workspace W Id) (column : Column W) (activate : Bool) : Workspace W Id :=
  { self with
    scrolling := self.scrolling.addColumn column activate
    floatingIsActive := if activate then .no else self.floatingIsActive }

/-! ### Removing -/

def updateFocusFloatingTilingAfterRemoving (self : Workspace W Id) (removedFromFloating : Bool) :
    Workspace W Id :=
  if removedFromFloating then
    if self.floating.isEmpty then { self with floatingIsActive := .no } else self
  else
    -- the tiling space stays focused when both are empty
    if self.scrolling.isEmpty && !self.floating.isEmpty then { self with floatingIsActive := .yes }
    else self

def removeTile (self : Workspace W Id) (clock : Clock) (id : Id) :
    Outcome (RemovedTile W × Workspace W Id) :=
  if self.floating.hasWindow id then do
    let (removed, floating) ← self.floating.removeTile id
    pure (removed, { self with floating }.updateFocusFloatingTilingAfterRemoving true)
  else do
    let (removed, scrolling) ← self.scrolling.removeTile clock id
    pure (removed, { self with scrolling }.updateFocusFloatingTilingAfterRemoving false)

def removeActiveTile (self : Workspace W Id) (clock : Clock) :
    Outcome (Option (RemovedTile W) × Workspace W Id) :=
  if self.floatingIsActive.get then do
    match ← self.floating.removeActiveTile with
    | (none, _) => pure (none, self)
    | (some removed, floating) =>
      pure (some removed, { self with floating }.updateFocusFloatingTilingAfterRemoving true)
  else do
    match ← self.scrolling.removeActiveTile clock with
    | (none, _) => pure (none, self)
    | (some removed, scrolling) =>
      pure (some removed, { self with scrolling }.updateFocusFloatingTilingAfterRemoving false)

def removeActiveColumn (self : Workspace W Id) (clock : Clock) :
    Outcome (Option (Column W) × Workspace W Id) :=
  if self.floatingIsActive.get then pure (none, self)
  else do
    match ← self.scrolling.removeActiveColumn clock with
    | (none, _) => pure (none, self)
    | (some column, scrolling) =>
      pure (some column, { self with scrolling }.updateFocusFloatingTilingAfterRemoving false)

/-! ### Operations of one of the two spaces -/

/-- Whether an operation is about the floating space: the one on a window goes
where the window is, the others go to the focused space. -/
def targetsFloating (self : Workspace W Id) (window : Option Id) : Bool :=
  match window with
  | none => self.floatingIsActive.get
  | some id => self.floating.hasWindow id

/-- Runs one of two operations, which tell whether they did something. -/
def trySpaceOf (self : Workspace W Id) (window : Option Id)
    (floating : FloatingSpace W Id → Outcome (FloatingSpace W Id × Bool))
    (scrolling : ScrollingSpace W → Outcome (ScrollingSpace W × Bool)) :
    Outcome (Workspace W Id × Bool) :=
  if self.targetsFloating window then do
    let (floating, changed) ← floating self.floating
    pure ({ self with floating }, changed)
  else do
    let (scrolling, changed) ← scrolling self.scrolling
    pure ({ self with scrolling }, changed)

/-- Runs one of two operations. -/
def onSpaceOf (self : Workspace W Id) (window : Option Id)
    (floating : FloatingSpace W Id → Outcome (FloatingSpace W Id))
    (scrolling : ScrollingSpace W → Outcome (ScrollingSpace W)) : Outcome (Workspace W Id) :=
  if self.targetsFloating window then do
    let floating ← floating self.floating
    pure { self with floating }
  else do
    let scrolling ← scrolling self.scrolling
    pure { self with scrolling }

/-- A floating move counts as done. -/
def alwaysDone (f : FloatingSpace W Id → Outcome (FloatingSpace W Id))
    (floating : FloatingSpace W Id) : Outcome (FloatingSpace W Id × Bool) := do
  let floating ← f floating
  pure (floating, true)

/-- An operation whose answer is dropped. -/
def silently {σ : Type} (f : σ → Outcome (σ × Bool)) (s : σ) : Outcome σ := do
  let (s, _) ← f s
  pure s

def focusLeft (self : Workspace W Id) : Outcome (Workspace W Id × Bool) :=
  self.trySpaceOf none (·.focusLeft) (pure ·.focusLeft)

def focusRight (self : Workspace W Id) : Outcome (Workspace W Id × Bool) :=
  self.trySpaceOf none (·.focusRight) (pure ·.focusRight)

def focusDown (self : Workspace W Id) : Outcome (Workspace W Id × Bool) :=
  self.trySpaceOf none (·.focusDown) (pure ·.focusDown)

def focusUp (self : Workspace W Id) : Outcome (Workspace W Id × Bool) :=
  self.trySpaceOf none (·.focusUp) (pure ·.focusUp)

def focusColumnFirst (self : Workspace W Id) : Outcome (Workspace W Id) :=
  self.onSpaceOf none (·.focusLeftmost) (pure ·.focusColumnFirst)

def focusColumnLast (self : Workspace W Id) : Outcome (Workspace W Id) :=
  self.onSpaceOf none (·.focusRightmost) (pure ·.focusColumnLast)

/-- Tries one operation and does another if it did nothing. -/
def orElse (self : Workspace W Id) (first : Workspace W Id → Outcome (Workspace W Id × Bool))
    (second : Workspace W Id → Outcome (Workspace W Id)) : Outcome (Workspace W Id) := do
  let (self, done) ← first self
  if done then pure self else second self

def focusColumnRightOrFirst (self : Workspace W Id) : Outcome (Workspace W Id) :=
  self.orElse focusRight focusColumnFirst

def focusColumnLeftOrLast (self : Workspace W Id) : Outcome (Workspace W Id) :=
  self.orElse focusLeft focusColumnLast

def focusDownOrLeft (self : Workspace W Id) : Outcome (Workspace W Id) :=
  self.onSpaceOf none (silently (·.focusDown)) (pure ·.focusDownOrLeft)

def focusDownOrRight (self : Workspace W Id) : Outcome (Workspace W Id) :=
  self.onSpaceOf none (silently (·.focusDown)) (pure ·.focusDownOrRight)

def focusUpOrLeft (self : Workspace W Id) : Outcome (Workspace W Id) :=
  self.onSpaceOf none (silently (·.focusUp)) (pure ·.focusUpOrLeft)

def focusUpOrRight (self : Workspace W Id) : Outcome (Workspace W Id) :=
  self.onSpaceOf none (silently (·.focusUp)) (pure ·.focusUpOrRight)

def focusWindowTop (self : Workspace W Id) : Outcome (Workspace W Id) :=
  self.onSpaceOf none (·.focusTopmost) (pure ·.focusTop)

def focusWindowBottom (self : Workspace W Id) : Outcome (Workspace W Id) :=
  self.onSpaceOf none (·.focusBottommost) (pure ·.focusBottom)

def focusWindowDownOrTop (self : Workspace W Id) : Outcome (Workspace W Id) :=
  self.orElse focusDown focusWindowTop

def focusWindowUpOrBottom (self : Workspace W Id) : Outcome (Workspace W Id) :=
  self.orElse focusUp focusWindowBottom

def moveLeft (self : Workspace W Id) (clock : Clock) : Outcome (Workspace W Id × Bool) :=
  self.trySpaceOf none (alwaysDone (·.moveLeft clock)) (·.moveLeft)

def moveRight (self : Workspace W Id) (clock : Clock) : Outcome (Workspace W Id × Bool) :=
  self.trySpaceOf none (alwaysDone (·.moveRight clock)) (·.moveRight)

def moveDown (self : Workspace W Id) (clock : Clock) : Outcome (Workspace W Id × Bool) :=
  self.trySpaceOf none (alwaysDone (·.moveDown clock)) (·.moveDown)

def moveUp (self : Workspace W Id) (clock : Clock) : Outcome (Workspace W Id × Bool) :=
  self.trySpaceOf none (alwaysDone (·.moveUp clock)) (·.moveUp)

def moveLeftAnimated (self : Workspace W Id) (clock : Clock) : Outcome (Workspace W Id × Bool) :=
  self.trySpaceOf none (alwaysDone (·.moveLeft clock)) (·.moveLeftAnimated clock)

def moveRightAnimated (self : Workspace W Id) (clock : Clock) : Outcome (Workspace W Id × Bool) :=
  self.trySpaceOf none (alwaysDone (·.moveRight clock)) (·.moveRightAnimated clock)

def moveDownAnimated (self : Workspace W Id) (clock : Clock) : Outcome (Workspace W Id × Bool) :=
  self.trySpaceOf none (alwaysDone (·.moveDown clock)) (·.moveDownAnimated clock)

def moveUpAnimated (self : Workspace W Id) (clock : Clock) : Outcome (Workspace W Id × Bool) :=
  self.trySpaceOf none (alwaysDone (·.moveUp clock)) (·.moveUpAnimated clock)

def moveColumnToFirst (self : Workspace W Id) : Outcome (Workspace W Id) :=
  self.onSpaceOf none pure (·.moveColumnToFirst)

def moveColumnToLast (self : Workspace W Id) : Outcome (Workspace W Id) :=
  self.onSpaceOf none pure (·.moveColumnToLast)

def consumeOrExpelWindowLeft (self : Workspace W Id) (window : Option Id) :
    Outcome (Workspace W Id) :=
  self.onSpaceOf window pure (·.consumeOrExpelWindowLeft)

def consumeOrExpelWindowRight (self : Workspace W Id) (window : Option Id) :
    Outcome (Workspace W Id) :=
  self.onSpaceOf window pure (·.consumeOrExpelWindowRight)

def consumeIntoColumn (self : Workspace W Id) : Outcome (Workspace W Id) :=
  self.onSpaceOf none pure (·.consumeIntoColumn)

def expelFromColumn (self : Workspace W Id) : Outcome (Workspace W Id) :=
  self.onSpaceOf none pure (·.expelFromColumn)

def swapWindowInDirection (self : Workspace W Id) (direction : ScrollDirection) :
    Outcome (Workspace W Id) :=
  self.onSpaceOf none pure (·.swapWindowInDirection direction)

def centerColumn (self : Workspace W Id) (clock : Clock) : Outcome (Workspace W Id) :=
  self.onSpaceOf none (·.centerWindow clock none) pure

def centerWindow (self : Workspace W Id) (clock : Clock) (id : Option Id) :
    Outcome (Workspace W Id) :=
  self.onSpaceOf id (·.centerWindow clock id) pure

def toggleWidth (self : Workspace W Id) (forwards : Bool) : Outcome (Workspace W Id) :=
  self.onSpaceOf none (·.toggleWindowWidth none forwards) pure

def setColumnWidth (self : Workspace W Id) (change : SizeChange) : Outcome (Workspace W Id) :=
  self.onSpaceOf none (·.setWindowWidth none change true) pure

def setWindowWidth (self : Workspace W Id) (window : Option Id) (change : SizeChange) :
    Outcome (Workspace W Id) :=
  self.onSpaceOf window (·.setWindowWidth window change true) pure

def setWindowHeight (self : Workspace W Id) (window : Option Id) (change : SizeChange) :
    Outcome (Workspace W Id) :=
  self.onSpaceOf window (·.setWindowHeight window change true) pure

def toggleWindowWidth (self : Workspace W Id) (window : Option Id) (forwards : Bool) :
    Outcome (Workspace W Id) :=
  self.onSpaceOf window (·.toggleWindowWidth window forwards) pure

def toggleWindowHeight (self : Workspace W Id) (window : Option Id) (forwards : Bool) :
    Outcome (Workspace W Id) :=
  self.onSpaceOf window (·.toggleWindowHeight window forwards) pure

def nudgeMasterRatio (self : Workspace W Id) (clock : Clock) (delta : ℚ) : Workspace W Id :=
  { self with scrolling := self.scrolling.nudgeMasterRatio clock delta }

/-! ### Focus between the spaces -/

def switchFocusFloatingTiling (self : Workspace W Id) : Workspace W Id :=
  if self.floating.isEmpty then self
  else if self.scrolling.isEmpty then self
  else { self with floatingIsActive := if self.floatingIsActive.get then .no else .yes }

def focusFloating (self : Workspace W Id) : Workspace W Id :=
  if !self.floatingIsActive.get then self.switchFocusFloatingTiling else self

def focusTiling (self : Workspace W Id) : Workspace W Id :=
  if self.floatingIsActive.get then self.switchFocusFloatingTiling else self

def focusColumn (self : Workspace W Id) (index : ℕ) : Workspace W Id :=
  let self := self.focusTiling
  { self with scrolling := self.scrolling.focusColumn index }

def activateWindow (self : Workspace W Id) (window : Id) : Outcome (Workspace W Id × Bool) := do
  let (floating, activated) ← self.floating.activateWindow window
  if activated then pure ({ self with floating, floatingIsActive := .yes }, true)
  else
    let (scrolling, activated) := self.scrolling.activateWindow window
    if activated then pure ({ self with floating, scrolling, floatingIsActive := .no }, true)
    else pure ({ self with floating, scrolling }, false)

/-- Floating windows that were focused stay on top. -/
def activateWindowWithoutRaising (self : Workspace W Id) (window : Id) : Workspace W Id × Bool :=
  let (floating, activated) := self.floating.activateWindowWithoutRaising window
  if activated then ({ self with floating, floatingIsActive := .yes }, true)
  else
    let (scrolling, activated) := self.scrolling.activateWindow window
    if activated then
      ({ self with
        floating, scrolling
        floatingIsActive := match self.floatingIsActive with
          | .no => .no
          | .noButRaised => .noButRaised
          | .yes => .noButRaised }, true)
    else ({ self with floating, scrolling }, false)

/-! ### Floating and takeovers -/

/-- Moves a floating window into the tiling space. -/
def unfloat (self : Workspace W Id) (id : Id) (targetIsActive : Bool) :
    Outcome (Workspace W Id) := do
  let (removed, floating) ← self.floating.removeTile id
  pure ({ self with floating }.addTiled removed.tile targetIsActive removed.width
    removed.isFullWidth)

/-- Moves a tiled window into the floating space, close to where it was unless
it has a position of its own. -/
def float (self : Workspace W Id) (clock : Clock) (id : Id) (targetIsActive : Bool)
    (renderPos : Point) : Outcome (Workspace W Id) := do
  let (removed, scrolling) ← self.scrolling.removeTile clock id
  let tile := removed.tile.stopMoveAnimations
  let offset : Point :=
    if self.options.layout.centerFocusedColumn = .always then .zero else ⟨50, 50⟩
  let floatingPos :=
    if (self.floating.storedOrDefaultTilePos tile).isSome then tile.floatingPos
    else some (self.floating.logicalToSizeFrac
      (self.floating.clampWithinWorkingArea (renderPos + offset) tile.tileSize))
  let floating ← self.floating.addTile { tile with floatingPos } targetIsActive
  pure { self with
    scrolling, floating
    floatingIsActive := if targetIsActive then .yes else self.floatingIsActive }

/-- Moves a window to the other space. -/
def changeSpace (self : Workspace W Id) (clock : Clock) (id : Id) (targetIsActive : Bool)
    (renderPos : Point) : Outcome (Workspace W Id) :=
  if self.floating.hasWindow id then self.unfloat id targetIsActive
  else self.float clock id targetIsActive renderPos

def toggleWindowFloating (self : Workspace W Id) (clock : Clock) (id : Option Id) :
    Outcome (Workspace W Id) :=
  let activeId := self.activeWindow.map LayoutElement.id
  let targetIsActive := id.all fun id => some id = activeId
  match id.or activeId with
  | none => pure self
  | some id => do
    let renderPos ← unwrap (self.renderPosOf clock id)
    let self ← self.changeSpace clock id targetIsActive renderPos
    let newRenderPos ← unwrap (self.unroundedPosOf clock id)
    pure (self.modifyTile id (·.animateMoveFrom clock (renderPos - newRenderPos)))

def setWindowFloating (self : Workspace W Id) (clock : Clock) (id : Option Id) (floating : Bool) :
    Outcome (Workspace W Id) :=
  if self.targetsFloating id = floating then pure self else self.toggleWindowFloating clock id

/-- Sets the takeover of a tiled window with `set`, and remembers for a window
that was normal whether it was floating. -/
def takeOver (self : Workspace W Id) (window : Id) (restoreToFloating : Bool)
    (set : ScrollingSpace W → Outcome (ScrollingSpace W × Bool)) : Outcome (Workspace W Id) := do
  let tile ← unwrap (self.tiledTile window)
  let wasNormal := (LayoutElement.pendingSizingMode tile.window).isNormal
  let (scrolling, _) ← set self.scrolling
  let tile ← unwrap (scrolling.tiles.find? fun tile => tile.windowId = window)
  if wasNormal && !(LayoutElement.pendingSizingMode tile.window).isNormal then
    pure { self with scrolling := scrolling.modifyColumnById window fun col =>
      { col with tile := { col.tile with restoreToFloating } } }
  else pure { self with scrolling }

/-- A floating window is tiled in order to be fullscreen; a fullscreen one that
was floating floats again. -/
def setFullscreen (self : Workspace W Id) (clock : Clock) (window : Id) (isFullscreen : Bool) :
    Outcome (Workspace W Id) :=
  let set := fun scrolling : ScrollingSpace W => scrolling.setFullscreen window isFullscreen
  if self.floating.hasWindow window then
    if isFullscreen then do
      let self ← self.toggleWindowFloating clock (some window)
      self.takeOver window true set
    else pure self
  else if isFullscreen then self.takeOver window false set
  else do
    let col ← unwrap (self.scrolling.columns.find? fun col => col.windowId = window)
    -- from fullscreen to maximized, the window stays tiled
    if col.isPendingFullscreen && !col.isPendingMaximized && col.tile.restoreToFloating then
      self.toggleWindowFloating clock (some window)
    else self.takeOver window false set

def toggleFullscreen (self : Workspace W Id) (clock : Clock) (window : Id) :
    Outcome (Workspace W Id) := do
  let tile ← unwrap (self.tiles.find? fun tile => tile.windowId = window)
  let current := (LayoutElement.pendingSizingMode tile.window).isFullscreen
  self.setFullscreen clock window !current

/-- A floating window is tiled in order to be maximized; a maximized one that
was floating floats again. -/
def setMaximized (self : Workspace W Id) (clock : Clock) (window : Id) (maximize : Bool) :
    Outcome (Workspace W Id) :=
  let set := fun scrolling : ScrollingSpace W => scrolling.setMaximized window maximize
  if self.floating.hasWindow window then
    if maximize then do
      let self ← self.toggleWindowFloating clock (some window)
      self.takeOver window true set
    else pure self
  else if maximize then self.takeOver window false set
  else do
    let tile ← unwrap (self.tiledTile window)
    if (LayoutElement.pendingSizingMode tile.window).isMaximized && tile.restoreToFloating then
      self.toggleWindowFloating clock (some window)
    else self.takeOver window false set

/-- Only the column knows whether a fullscreen window is also maximized. -/
def toggleMaximized (self : Workspace W Id) (clock : Clock) (window : Id) :
    Outcome (Workspace W Id) :=
  let current := (self.scrolling.columns.find? fun col => col.windowId = window).any
    (·.isPendingMaximized)
  self.setMaximized clock window !current

/-- The window of the tile that a move is about when it is not floating. -/
def tiledTarget (self : Workspace W Id) : Option Id → Outcome (Option (Tile W))
  | some id => do
    let tile ← unwrap (self.tiledTile id)
    pure (some tile)
  | none => pure (self.scrolling.focusedColumn.map (·.tile))

def PositionChange.isSet : PositionChange → Bool
  | .setFixed _ | .setProportion _ => true
  | _ => false

/-- The stored floating position of a tiled window is changed. -/
def moveFloatingWindow (self : Workspace W Id) (clock : Clock) (id : Option Id)
    (x y : PositionChange) (animate : Bool) : Outcome (Workspace W Id) :=
  if self.targetsFloating id then do
    let floating ← self.floating.moveWindow clock id x y animate
    pure { self with floating }
  else do
    match ← self.tiledTarget id with
    | none => pure self
    | some tile =>
      -- without a stored position, only both components at once can be set
      let pos := (self.floating.storedOrDefaultTilePos tile).or
        (if PositionChange.isSet x && PositionChange.isSet y then some .zero else none)
      match pos with
      | none => pure self
      | some pos =>
        let pos := FloatingSpace.changePosition self.floating.workingArea x y pos
        let pos := self.floating.logicalToSizeFrac pos
        pure { self with scrolling := self.scrolling.modifyColumnById tile.windowId fun col =>
          { col with tile := { col.tile with floatingPos := some pos } } }

/-! ### Updates of windows -/

def descendantsAdded (self : Workspace W Id) (id : Id) : Outcome (Workspace W Id × Bool) := do
  let (floating, found) ← self.floating.descendantsAdded id
  pure ({ self with floating }, found)

def updateWindow (self : Workspace W Id) (window : Id) (serial : Option ℕ) :
    Outcome (Workspace W Id) := do
  let (floating, found) ← self.floating.updateWindow window serial
  if found then pure { self with floating }
  else pure { self with floating, scrolling := self.scrolling.updateWindow window serial }

def refresh (self : Workspace W Id) (isActive isFocused : Bool) : Workspace W Id :=
  let floatingIsActive := self.floatingIsActive.get
  { self with
    scrolling := self.scrolling.refresh (isActive && !floatingIsActive) isFocused
    floating := self.floating.refresh (isActive && floatingIsActive) isFocused }

/-- Tiled windows are not resized interactively. -/
def interactiveResizeBegin (self : Workspace W Id) (window : Id) (edges : ResizeEdge) :
    Outcome (Workspace W Id × Bool) :=
  self.trySpaceOf (some window) (·.interactiveResizeBegin window edges) fun s => pure (s, false)

def interactiveResizeUpdate (self : Workspace W Id) (window : Id) (delta : Point) :
    Outcome (Workspace W Id × Bool) :=
  self.trySpaceOf (some window) (·.interactiveResizeUpdate window delta) fun s => pure (s, false)

def interactiveResizeEnd (self : Workspace W Id) (window : Option Id) : Workspace W Id :=
  match window with
  | some id =>
    if self.floating.hasWindow id then
      { self with floating := self.floating.interactiveResizeEnd (some id) }
    else self
  | none => { self with floating := self.floating.interactiveResizeEnd none }

/-! ### Commands -/

/-- The directions of focus moves and of window moves. -/
inductive Direction
  | left
  | right
  | up
  | down
  deriving DecidableEq, Repr

def focusTowards (self : Workspace W Id) : Direction → Outcome (Workspace W Id × Bool)
  | .left => self.focusLeft
  | .right => self.focusRight
  | .up => self.focusUp
  | .down => self.focusDown

def moveTowards (self : Workspace W Id) (clock : Clock) : Direction → Outcome (Workspace W Id × Bool)
  | .left => self.moveLeft clock
  | .right => self.moveRight clock
  | .up => self.moveUp clock
  | .down => self.moveDown clock

def moveTowardsAnimated (self : Workspace W Id) (clock : Clock) :
    Direction → Outcome (Workspace W Id × Bool)
  | .left => self.moveLeftAnimated clock
  | .right => self.moveRightAnimated clock
  | .up => self.moveUpAnimated clock
  | .down => self.moveDownAnimated clock

/-- The commands to the focused space, and those that choose the space. -/
inductive Command
  | focus (direction : Direction)
  | focusColumnFirst
  | focusColumnLast
  | focusColumnRightOrFirst
  | focusColumnLeftOrLast
  | focusColumn (index : ℕ)
  | focusDownOrLeft
  | focusDownOrRight
  | focusUpOrLeft
  | focusUpOrRight
  | focusWindowTop
  | focusWindowBottom
  | focusWindowDownOrTop
  | focusWindowUpOrBottom
  | focusFloating
  | focusTiling
  | switchFocusFloatingTiling
  | move (direction : Direction)
  | moveAnimated (direction : Direction)
  | moveColumnToFirst
  | moveColumnToLast
  | swapWindowInDirection (direction : ScrollDirection)
  | consumeIntoColumn
  | expelFromColumn
  | centerColumn
  | toggleWidth (forwards : Bool)
  | setColumnWidth (change : SizeChange)
  | nudgeMasterRatio (delta : ℚ)
  deriving DecidableEq, Repr

/-- One command, at the time the clock shows. -/
def runCommand (self : Workspace W Id) (clock : Clock) : Command → Outcome (Workspace W Id)
  | .focus direction => silently (·.focusTowards direction) self
  | .focusColumnFirst => self.focusColumnFirst
  | .focusColumnLast => self.focusColumnLast
  | .focusColumnRightOrFirst => self.focusColumnRightOrFirst
  | .focusColumnLeftOrLast => self.focusColumnLeftOrLast
  | .focusColumn index => pure (self.focusColumn index)
  | .focusDownOrLeft => self.focusDownOrLeft
  | .focusDownOrRight => self.focusDownOrRight
  | .focusUpOrLeft => self.focusUpOrLeft
  | .focusUpOrRight => self.focusUpOrRight
  | .focusWindowTop => self.focusWindowTop
  | .focusWindowBottom => self.focusWindowBottom
  | .focusWindowDownOrTop => self.focusWindowDownOrTop
  | .focusWindowUpOrBottom => self.focusWindowUpOrBottom
  | .focusFloating => pure self.focusFloating
  | .focusTiling => pure self.focusTiling
  | .switchFocusFloatingTiling => pure self.switchFocusFloatingTiling
  | .move direction => silently (·.moveTowards clock direction) self
  | .moveAnimated direction => silently (·.moveTowardsAnimated clock direction) self
  | .moveColumnToFirst => self.moveColumnToFirst
  | .moveColumnToLast => self.moveColumnToLast
  | .swapWindowInDirection direction => self.swapWindowInDirection direction
  | .consumeIntoColumn => self.consumeIntoColumn
  | .expelFromColumn => self.expelFromColumn
  | .centerColumn => self.centerColumn clock
  | .toggleWidth forwards => self.toggleWidth forwards
  | .setColumnWidth change => self.setColumnWidth change
  | .nudgeMasterRatio delta => pure (self.nudgeMasterRatio clock delta)

/-- The commands that the tiling space has not implemented. -/
def Command.isUnfinished (self : Workspace W Id) : Command → Bool
  | .consumeIntoColumn | .expelFromColumn => !self.targetsFloating none
  | _ => false

/-- The commands about a window, or about the focused one if none is given. -/
inductive WindowCommand
  | consumeOrExpelWindowLeft
  | consumeOrExpelWindowRight
  | centerWindow
  | setWindowWidth (change : SizeChange)
  | setWindowHeight (change : SizeChange)
  | toggleWindowWidth (forwards : Bool)
  | toggleWindowHeight (forwards : Bool)
  | toggleWindowFloating
  | setWindowFloating (floating : Bool)
  | moveFloatingWindow (x y : PositionChange) (animate : Bool)
  deriving DecidableEq, Repr

def runWindowCommand (self : Workspace W Id) (clock : Clock) (window : Option Id) :
    WindowCommand → Outcome (Workspace W Id)
  | .consumeOrExpelWindowLeft => self.consumeOrExpelWindowLeft window
  | .consumeOrExpelWindowRight => self.consumeOrExpelWindowRight window
  | .centerWindow => self.centerWindow clock window
  | .setWindowWidth change => self.setWindowWidth window change
  | .setWindowHeight change => self.setWindowHeight window change
  | .toggleWindowWidth forwards => self.toggleWindowWidth window forwards
  | .toggleWindowHeight forwards => self.toggleWindowHeight window forwards
  | .toggleWindowFloating => self.toggleWindowFloating clock window
  | .setWindowFloating floating => self.setWindowFloating clock window floating
  | .moveFloatingWindow x y animate => self.moveFloatingWindow clock window x y animate

def WindowCommand.isUnfinished (self : Workspace W Id) (window : Option Id) : WindowCommand → Bool
  | .consumeOrExpelWindowLeft | .consumeOrExpelWindowRight => !self.targetsFloating window
  | _ => false

end Workspace

end Sol
