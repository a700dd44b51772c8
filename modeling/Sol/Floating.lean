import Mathlib.Data.List.MinMax
import Sol.Scrolling

/-!
# The floating space

Tiles placed freely and stacked, the topmost one first.  Beside each tile the
space keeps the tile's position, as a fraction of the working area and in
logical coordinates.  The active window need not be the topmost one, but while
there are tiles there is an active window; children are stacked above their
parents.
-/

namespace Sol

open Panicking

/-- Extra data of a floating tile. -/
structure Data where
  /-- The position relative to the working area. -/
  pos : Point
  /-- The same in logical coordinates, not rounded. -/
  logicalPos : Point
  size : Size
  workingArea : Rect
  deriving DecidableEq, Repr

namespace Data

variable {W Id : Type} [LayoutElement W Id]

def scaleByWorkingArea (area : Rect) (pos : Point) : Point :=
  ⟨pos.x * area.size.w, pos.y * area.size.h⟩ + area.loc

def logicalToSizeFracInWorkingArea (area : Rect) (logicalPos : Point) : Point :=
  let pos := logicalPos - area.loc
  ⟨pos.x / max area.size.w 1, pos.y / max area.size.h 1⟩

/-- Keeps the window from going too much off the screen. -/
def recomputeLogicalPos (self : Data) : Data :=
  let area := self.workingArea
  let minOnScreenHor := clamp 10 75 (self.size.w / 4)
  let minOnScreenVer := clamp 10 75 (self.size.h / 4)
  let maxOffScreenHor := max 0 (self.size.w - minOnScreenHor)
  let maxOffScreenVer := max 0 (self.size.h - minOnScreenVer)
  let pos := scaleByWorkingArea area self.pos - area.loc
  let x := min (max pos.x (-maxOffScreenHor)) (area.size.w - self.size.w + maxOffScreenHor)
  let y := min (max pos.y (-maxOffScreenVer)) (area.size.h - self.size.h + maxOffScreenVer)
  { self with logicalPos := ⟨x, y⟩ + area.loc }

def updateConfig (self : Data) (workingArea : Rect) : Data :=
  if self.workingArea = workingArea then self
  else { self with workingArea }.recomputeLogicalPos

def update (self : Data) (tile : Tile W) : Data :=
  if self.size = tile.tileSize then self
  else { self with size := tile.tileSize }.recomputeLogicalPos

def setLogicalPos (self : Data) (logicalPos : Point) : Data :=
  { self with pos := logicalToSizeFracInWorkingArea self.workingArea logicalPos }.recomputeLogicalPos

def new (workingArea : Rect) (tile : Tile W) (logicalPos : Point) : Data :=
  let rv : Data := ⟨.zero, .zero, ⟨0, 0⟩, workingArea⟩
  (rv.update tile).setLogicalPos logicalPos

def center (self : Data) : Point := self.logicalPos + (self.size.toPoint).downscale 2

end Data

structure InteractiveResize (Id : Type) where
  window : Id
  originalWindowSize : Size
  data : InteractiveResizeData

/-- Resolved width or height in logical pixels. -/
inductive ResolvedSize
  /-- Of the tile, with borders. -/
  | tile (size : ℚ)
  /-- Of the window, without borders. -/
  | window (size : ℚ)

def resolvePresetSize (preset : PresetSize) (viewSize : ℚ) : ResolvedSize :=
  match preset with
  | .proportion proportion => .tile (viewSize * proportion)
  | .fixed width => .window width

/-- Space for floating windows. -/
structure FloatingSpace (W Id : Type) where
  /-- In top-to-bottom order. -/
  tiles : List (Tile W)
  data : List Data
  activeWindowId : Option Id
  interactiveResize : Option (InteractiveResize Id)
  viewSize : Size
  workingArea : Rect
  scale : ℚ
  options : Options

/-- `compute_toplevel_bounds` of the floating layout. -/
def computeToplevelBounds (border : Border) (workingAreaSize : Size) : ISize :=
  let border := if border.off then 0 else border.width * 2
  Size.toI32Floor ⟨max (workingAreaSize.w - border) 1, max (workingAreaSize.h - border) 1⟩

/-- A cast to 32 bits, which saturates. -/
def asI32 (x : ℤ) : ℤ := clampInt (-2147483648) 2147483647 x

/-- The width (or height) of a window after a change, for the available extent,
the current extents of window and tile, and the extent that a tile leaves its window. -/
def SizeChange.resolve (change : SizeChange) (available : ℚ) (currentWindow : ℤ) (currentTile : ℚ)
    (windowForTile : ℚ → ℚ) : ℤ :=
  let size : ℚ := match change with
    | .setFixed size => size
    | .setProportion prop => windowForTile (available * clamp 0 10000 (prop / 100))
    | .adjustFixed delta => asI32 (currentWindow + delta)
    | .adjustProportion delta =>
      windowForTile (available * clamp 0 10000 (currentTile / available + delta / 100))
  clampInt 1 100000 (roundHalfAway size)

/-- A coordinate after a change, for the extent and the origin of the working area. -/
def PositionChange.resolve (change : PositionChange) (available loc pos : ℚ) : ℚ :=
  match change with
  | .setFixed x => x + loc
  | .setProportion prop => available * clamp 0 10000 (prop / 100) + loc
  | .adjustFixed x => pos + x
  | .adjustProportion prop =>
    available * clamp 0 10000 ((pos - loc) / max available 1 + prop / 100) + loc

/-- The preset that a toggle selects: the one beside the selected one, else the
first one larger (or the last one smaller) than the current extent. -/
def togglePreset (presets : List PresetSize) (selected : Option ℕ) (forwards : Bool)
    (available currentWindow currentTile : ℚ) : Outcome ℕ := do
  let len := presets.length
  match selected with
  | some idx => do
    let step ← if forwards then pure 1 else checkedSub len 1
    if len = 0 then throw .remainderByZero else pure ((idx + step) % len)
  | none =>
    let resolved := presets.map (resolvePresetSize · available)
    if forwards then
      let larger := fun r => match r with
        | .tile size => decide (currentTile + 1 < size)
        | .window size => decide (currentWindow + 1 < size)
      pure ((resolved.findIdx? larger).getD 0)
    else
      let smaller := fun r => match r with
        | .tile size => decide (size + 1 < currentTile)
        | .window size => decide (size + 1 < currentWindow)
      match resolved.reverse.findIdx? smaller with
      | some idx => pure (len - 1 - idx)
      | none => checkedSub len 1

namespace FloatingSpace

variable {W Id : Type} [LayoutElement W Id]

/-- By how many logical pixels the directional commands move a window. -/
def directionalMovePx : ℚ := 50

def new (viewSize : Size) (workingArea : Rect) (scale : ℚ) (options : Options) :
    FloatingSpace W Id where
  tiles := []
  data := []
  activeWindowId := none
  interactiveResize := none
  viewSize := viewSize
  workingArea := workingArea
  scale := scale
  options := options

def windowIds (self : FloatingSpace W Id) : List Id := self.tiles.map (·.windowId)

def isEmpty (self : FloatingSpace W Id) : Bool := self.tiles.isEmpty

/-- Updates the tiles in place, without regard to their data. -/
def mapTiles (self : FloatingSpace W Id) (f : Tile W → Tile W) : FloatingSpace W Id :=
  { self with tiles := self.tiles.map f }

def updateConfig (self : FloatingSpace W Id) (viewSize : Size) (workingArea : Rect) (scale : ℚ)
    (options : Options) : FloatingSpace W Id :=
  let tiles := self.tiles.map (·.updateConfig viewSize scale options)
  { self with
    tiles
    data := (List.zip tiles self.data).map fun (tile, data) =>
      (data.update tile).updateConfig workingArea
    viewSize, workingArea, scale, options }

def advanceAnimations (self : FloatingSpace W Id) (clock : Clock) : FloatingSpace W Id :=
  self.mapTiles (·.advanceAnimations clock)

def tilesWithOffsets (self : FloatingSpace W Id) : List (Tile W × Point) :=
  List.zip self.tiles (self.data.map (·.logicalPos))

def tilesWithRenderPositions (self : FloatingSpace W Id) (clock : Clock) :
    List (Tile W × Point) :=
  self.tilesWithOffsets.map fun (tile, offset) =>
    (tile, (offset + tile.renderOffset clock).roundPhysical self.scale)

/-! ### Positions -/

def clampWithinWorkingArea (self : FloatingSpace W Id) (pos : Point) (size : Size) : Point :=
  (clampPreferringTopLeftInArea self.workingArea ⟨pos, size⟩).loc

def scaleByWorkingArea (self : FloatingSpace W Id) (pos : Point) : Point :=
  Data.scaleByWorkingArea self.workingArea pos

def logicalToSizeFrac (self : FloatingSpace W Id) (logicalPos : Point) : Point :=
  Data.logicalToSizeFracInWorkingArea self.workingArea logicalPos

/-- The default position that the rules of a window give it. -/
def rulePosition (area : Rect) (size : Size) (pos : FloatingPosition) : Point :=
  let x := match pos.relativeTo with
    | .topRight | .bottomRight | .right => area.size.w - size.w - pos.x
    | .top | .bottom => pos.x + (area.size.w / 2 - size.w / 2)
    | _ => pos.x
  let y := match pos.relativeTo with
    | .bottomLeft | .bottomRight | .bottom => area.size.h - size.h - pos.y
    | .left | .right => pos.y + (area.size.h / 2 - size.h / 2)
    | _ => pos.y
  ⟨x, y⟩ + area.loc

def storedOrDefaultTilePos (self : FloatingSpace W Id) (tile : Tile W) : Option Point :=
  (tile.floatingPos.map self.scaleByWorkingArea).or
    ((LayoutElement.rules tile.window).defaultFloatingPosition.map
      (rulePosition self.workingArea tile.tileSize))

variable [DecidableEq Id]

def idxOf (self : FloatingSpace W Id) (id : Id) : Option ℕ :=
  self.tiles.findIdx? fun tile => tile.windowId = id

def hasWindow (self : FloatingSpace W Id) (id : Id) : Bool :=
  self.tiles.any fun tile => tile.windowId = id

/-- `contains`. -/
def contains (self : FloatingSpace W Id) (id : Id) : Bool := (self.idxOf id).isSome

def activeWindow (self : FloatingSpace W Id) : Option W :=
  self.activeWindowId.bind fun id =>
    (self.tiles.find? fun tile => tile.windowId = id).map (·.window)

/-! ### Stacking -/

def raiseWindow (self : FloatingSpace W Id) (fromIdx toIdx : ℕ) :
    Outcome (FloatingSpace W Id) := do
  assert (toIdx ≤ fromIdx)
  let (tile, tiles) ← Vec.remove self.tiles fromIdx
  let (data, rest) ← Vec.remove self.data fromIdx
  let tiles ← Vec.insert tiles toIdx tile
  let data ← Vec.insert rest toIdx data
  pure { self with tiles, data }

/-- Those of the given tiles that descend from a window, in front-to-back order;
they are found from the back. -/
def descendantsOf (tiles : List (Tile W)) (win : W) : List ℕ → List ℕ
  | [] => []
  | i :: is =>
    let below := descendantsOf tiles win is
    match tiles[i]? with
    | some tile =>
      if LayoutElement.isChildOf tile.window win || below.any fun j =>
          tiles[j]?.any fun parent => LayoutElement.isChildOf tile.window parent.window
      then i :: below
      else below
    | none => below

/-- Raises the tiles at the given indices, one below the other. -/
def raiseAll (self : FloatingSpace W Id) : ℕ → List ℕ → Outcome (FloatingSpace W Id)
  | _, [] => pure self
  | idx, descendantIdx :: rest => do
    let self ← self.raiseWindow descendantIdx idx
    raiseAll self (idx + 1) rest

def bringUpDescendantsOf (self : FloatingSpace W Id) (idx : ℕ) :
    Outcome (FloatingSpace W Id) := do
  let tile ← Vec.get self.tiles idx
  self.raiseAll idx
    (descendantsOf self.tiles tile.window ((List.range self.tiles.length).drop (idx + 1)))

/-! ### Adding and removing -/

/-- The size to ask an added window for: its former floating size, else its
current one unless it took over; within the bounds of the window. -/
def addedWindowSize (tile : Tile W) : ISize :=
  let win := tile.window
  let size : ISize :=
    if !(LayoutElement.pendingSizingMode win).isNormal then tile.floatingWindowSize.getD ⟨0, 0⟩
    else tile.floatingWindowSize.getD ((LayoutElement.expectedSize win).getD ⟨0, 0⟩)
  let minSize := LayoutElement.minSize win
  let maxSize := LayoutElement.maxSize win
  ⟨ensureMinMaxSizeMaybeZero size.w minSize.w maxSize.w,
    ensureMinMaxSizeMaybeZero size.h minSize.h maxSize.h⟩

def addTileAt (self : FloatingSpace W Id) (idx : ℕ) (tile : Tile W) (activate : Bool) :
    Outcome (FloatingSpace W Id) := do
  let tile := tile.updateConfig self.viewSize self.scale self.options
  let tile := { tile with
    window := LayoutElement.requestSizeOnce tile.window (addedWindowSize tile) true }
  let activeWindowId :=
    if activate || self.tiles.isEmpty then some tile.windowId else self.activeWindowId
  -- the tile must not end up below its parent
  let idx := ((self.tiles.take idx).findIdx? fun tileAbove =>
    LayoutElement.isChildOf tile.window tileAbove.window).getD idx
  let pos := (self.storedOrDefaultTilePos tile).getD
    (centerPreferringTopLeftInArea self.workingArea tile.tileSize)
  let data ← Vec.insert self.data idx (Data.new self.workingArea tile pos)
  let tiles ← Vec.insert self.tiles idx tile
  { self with tiles, data, activeWindowId }.bringUpDescendantsOf idx

def addTile (self : FloatingSpace W Id) (tile : Tile W) (activate : Bool) :
    Outcome (FloatingSpace W Id) := self.addTileAt 0 tile activate

def addTileAbove (self : FloatingSpace W Id) (above : Id) (tile : Tile W) (activate : Bool) :
    Outcome (FloatingSpace W Id) := do
  let idx ← unwrap (self.idxOf above)
  let data ← Vec.get self.data idx
  let tileSize := tile.tileSize
  let pos := data.logicalPos + (data.size.toPoint - tileSize.toPoint).downscale 2
  let pos := self.clampWithinWorkingArea pos tileSize
  self.addTileAt idx { tile with floatingPos := some (self.logicalToSizeFrac pos) } activate

/-- The active window when a tile is out and `tiles` are left: in place of a
removed active window the topmost one. -/
def activeAfterRemoval (self : FloatingSpace W Id) (tile : Tile W) (tiles : List (Tile W)) :
    Outcome (Option Id) :=
  if tiles.isEmpty then pure none
  else if self.activeWindowId = some tile.windowId then do
    let topmost ← Vec.get tiles 0
    pure (some topmost.windowId)
  else pure self.activeWindowId

/-- The removed tile keeps its floating size and position. -/
def removeTileByIdx (self : FloatingSpace W Id) (idx : ℕ) :
    Outcome (RemovedTile W × FloatingSpace W Id) := do
  let (tile, tiles) ← Vec.remove self.tiles idx
  let (data, rest) ← Vec.remove self.data idx
  let activeWindowId ← self.activeAfterRemoval tile tiles
  let interactiveResize :=
    self.interactiveResize.filter fun resize => tile.windowId ≠ resize.window
  let tile := { tile with
    floatingWindowSize := (LayoutElement.expectedSize tile.window).or tile.floatingWindowSize
    floatingPos := some data.pos }
  let width := ColumnWidth.fixed tile.tileExpectedOrCurrentSize.w
  pure (⟨tile, width, false, true⟩,
    { self with tiles, data := rest, activeWindowId, interactiveResize })

def removeTile (self : FloatingSpace W Id) (id : Id) :
    Outcome (RemovedTile W × FloatingSpace W Id) := do
  let idx ← unwrap (self.idxOf id)
  self.removeTileByIdx idx

def removeActiveTile (self : FloatingSpace W Id) :
    Outcome (Option (RemovedTile W) × FloatingSpace W Id) :=
  match self.activeWindowId with
  | none => pure (none, self)
  | some id => do
    let (removed, self) ← self.removeTile id
    pure (some removed, self)

/-! ### Focus -/

def activateWindowWithoutRaising (self : FloatingSpace W Id) (id : Id) :
    FloatingSpace W Id × Bool :=
  if self.contains id then ({ self with activeWindowId := some id }, true) else (self, false)

def activateWindow (self : FloatingSpace W Id) (id : Id) :
    Outcome (FloatingSpace W Id × Bool) :=
  match self.idxOf id with
  | none => pure (self, false)
  | some idx => do
    let self ← self.raiseWindow idx 0
    let self ← { self with activeWindowId := some id }.bringUpDescendantsOf 0
    pure (self, true)

/-- Activates the window of a tile that was searched for; whether there is one. -/
def activateFound (self : FloatingSpace W Id) (found : Option (Tile W × ℚ)) :
    Outcome (FloatingSpace W Id × Bool) :=
  match found with
  | none => pure (self, false)
  | some (tile, _) => do
    let (self, _) ← self.activateWindow tile.windowId
    pure (self, true)

/-- Focuses the tile closest in a direction, by the distance of the centres. -/
def focusDirectional (self : FloatingSpace W Id) (distance : Point → Point → ℚ) :
    Outcome (FloatingSpace W Id × Bool) :=
  match self.activeWindowId with
  | none => pure (self, false)
  | some activeId => do
    let activeIdx ← unwrap (self.idxOf activeId)
    let active ← Vec.get self.data activeIdx
    let others := (List.zip self.tiles self.data).filter fun (tile, _) => tile.windowId ≠ activeId
    let distances := others.map fun (tile, data) => (tile, distance active.center data.center)
    self.activateFound ((distances.filter fun (_, dist) => 0 < dist).argmin (·.2))

def focusLeft (self : FloatingSpace W Id) : Outcome (FloatingSpace W Id × Bool) :=
  self.focusDirectional fun focus other => focus.x - other.x

def focusRight (self : FloatingSpace W Id) : Outcome (FloatingSpace W Id × Bool) :=
  self.focusDirectional fun focus other => other.x - focus.x

def focusUp (self : FloatingSpace W Id) : Outcome (FloatingSpace W Id × Bool) :=
  self.focusDirectional fun focus other => focus.y - other.y

def focusDown (self : FloatingSpace W Id) : Outcome (FloatingSpace W Id × Bool) :=
  self.focusDirectional fun focus other => other.y - focus.y

/-- The first tile with the least coordinate. -/
def focusLeast (self : FloatingSpace W Id) (coordinate : Point → ℚ) :
    Outcome (FloatingSpace W Id) := do
  let keyed := self.tilesWithOffsets.map fun (tile, pos) => (tile, coordinate pos)
  let (self, _) ← self.activateFound (keyed.argmin (·.2))
  pure self

/-- The last tile with the greatest coordinate. -/
def focusGreatest (self : FloatingSpace W Id) (coordinate : Point → ℚ) :
    Outcome (FloatingSpace W Id) := do
  let keyed := self.tilesWithOffsets.map fun (tile, pos) => (tile, coordinate pos)
  let (self, _) ← self.activateFound (keyed.reverse.argmax (·.2))
  pure self

def focusLeftmost (self : FloatingSpace W Id) : Outcome (FloatingSpace W Id) :=
  self.focusLeast (·.x)

def focusRightmost (self : FloatingSpace W Id) : Outcome (FloatingSpace W Id) :=
  self.focusGreatest (·.x)

def focusTopmost (self : FloatingSpace W Id) : Outcome (FloatingSpace W Id) :=
  self.focusLeast (·.y)

def focusBottommost (self : FloatingSpace W Id) : Outcome (FloatingSpace W Id) :=
  self.focusGreatest (·.y)

/-! ### Resizing -/

/-- The window that an operation is about: the named one, else the active one. -/
def target (self : FloatingSpace W Id) (id : Option Id) : Option Id := id.or self.activeWindowId

/-- Changes a window's width; its height is asked for again. -/
def setWindowWidth (self : FloatingSpace W Id) (id : Option Id) (change : SizeChange)
    (animate : Bool) : Outcome (FloatingSpace W Id) :=
  match self.target id with
  | none => pure self
  | some id => do
    let idx ← unwrap (self.idxOf id)
    let tile ← Vec.get self.tiles idx
    let win := tile.window
    let currentWindow := ((LayoutElement.expectedSize win).getD (LayoutElement.size win)).w
    let winWidth := change.resolve self.workingArea.size.w currentWindow
      tile.tileExpectedOrCurrentSize.w tile.windowWidthForTileWidth
    let minSize := LayoutElement.minSize win
    let maxSize := LayoutElement.maxSize win
    let winHeight := ((LayoutElement.expectedSize win).getD ⟨0, 0⟩).h
    let winSize : ISize := ⟨ensureMinMaxSize winWidth minSize.w maxSize.w,
      ensureMinMaxSize winHeight minSize.h maxSize.h⟩
    let tile := { tile with
      floatingPresetWidthIdx := none
      window := LayoutElement.requestSizeOnce win winSize animate }
    pure { self with tiles := self.tiles.set idx tile }

/-- Changes a window's height; its width is asked for again. -/
def setWindowHeight (self : FloatingSpace W Id) (id : Option Id) (change : SizeChange)
    (animate : Bool) : Outcome (FloatingSpace W Id) :=
  match self.target id with
  | none => pure self
  | some id => do
    let idx ← unwrap (self.idxOf id)
    let tile ← Vec.get self.tiles idx
    let win := tile.window
    let currentWindow := ((LayoutElement.expectedSize win).getD (LayoutElement.size win)).h
    let winHeight := change.resolve self.workingArea.size.h currentWindow
      tile.tileExpectedOrCurrentSize.h tile.windowHeightForTileHeight
    let minSize := LayoutElement.minSize win
    let maxSize := LayoutElement.maxSize win
    let winWidth := ((LayoutElement.expectedSize win).getD ⟨0, 0⟩).w
    let winSize : ISize := ⟨ensureMinMaxSize winWidth minSize.w maxSize.w,
      ensureMinMaxSize winHeight minSize.h maxSize.h⟩
    let tile := { tile with
      floatingPresetHeightIdx := none
      window := LayoutElement.requestSizeOnce win winSize animate }
    pure { self with tiles := self.tiles.set idx tile }

def interactiveResizeBegin (self : FloatingSpace W Id) (window : Id) (edges : ResizeEdge) :
    Outcome (FloatingSpace W Id × Bool) :=
  if self.interactiveResize.isSome then pure (self, false)
  else do
    let tile ← unwrap (self.tiles.find? fun tile => tile.windowId = window)
    let resize : InteractiveResize Id := ⟨window, tile.windowSize, ⟨edges⟩⟩
    pure ({ self with interactiveResize := some resize }, true)

/-- The part of an interactive resize that concerns the width. -/
def resizeUpdateWidth (self : FloatingSpace W Id) (resize : InteractiveResize Id) (delta : Point) :
    Outcome (FloatingSpace W Id) :=
  let edges := resize.data.edges
  if edges.left || edges.right then
    let dx := if edges.left then -delta.x else delta.x
    self.setWindowWidth (some resize.window)
      (.setFixed (asI32 (roundHalfAway (resize.originalWindowSize.w + dx)))) false
  else pure self

/-- The part of an interactive resize that concerns the height. -/
def resizeUpdateHeight (self : FloatingSpace W Id) (resize : InteractiveResize Id)
    (delta : Point) : Outcome (FloatingSpace W Id) :=
  let edges := resize.data.edges
  if edges.top || edges.bottom then
    let dy := if edges.top then -delta.y else delta.y
    self.setWindowHeight (some resize.window)
      (.setFixed (asI32 (roundHalfAway (resize.originalWindowSize.h + dy)))) false
  else pure self

def interactiveResizeUpdate (self : FloatingSpace W Id) (window : Id) (delta : Point) :
    Outcome (FloatingSpace W Id × Bool) :=
  match self.interactiveResize with
  | none => pure (self, false)
  | some resize =>
    if window ≠ resize.window then pure (self, false)
    else do
      let self ← self.resizeUpdateWidth resize delta
      let self ← self.resizeUpdateHeight resize delta
      pure (self, true)

def interactiveResizeEnd (self : FloatingSpace W Id) (window : Option Id) : FloatingSpace W Id :=
  match self.interactiveResize with
  | none => self
  | some resize =>
    if window.all (· = resize.window) then { self with interactiveResize := none } else self

def toggleWindowWidth (self : FloatingSpace W Id) (id : Option Id) (forwards : Bool) :
    Outcome (FloatingSpace W Id) :=
  match self.target id with
  | none => pure self
  | some id => do
    let idx ← unwrap (self.idxOf id)
    let tile ← Vec.get self.tiles idx
    let presets := self.options.layout.presetColumnWidths
    let presetIdx ← togglePreset presets tile.floatingPresetWidthIdx forwards
      self.workingArea.size.w tile.windowExpectedOrCurrentSize.w tile.tileExpectedOrCurrentSize.w
    let preset ← Vec.get presets presetIdx
    let self ← self.setWindowWidth (some id) (SizeChange.ofPreset preset) true
    let tiles ← Vec.modify self.tiles idx fun tile =>
      { tile with floatingPresetWidthIdx := some presetIdx }
    pure ({ self with tiles }.interactiveResizeEnd (some id))

def toggleWindowHeight (self : FloatingSpace W Id) (id : Option Id) (forwards : Bool) :
    Outcome (FloatingSpace W Id) :=
  match self.target id with
  | none => pure self
  | some id => do
    let idx ← unwrap (self.idxOf id)
    let tile ← Vec.get self.tiles idx
    let presets := self.options.layout.presetWindowHeights
    let presetIdx ← togglePreset presets tile.floatingPresetHeightIdx forwards
      self.workingArea.size.h tile.windowExpectedOrCurrentSize.h tile.tileExpectedOrCurrentSize.h
    let preset ← Vec.get presets presetIdx
    let self ← self.setWindowHeight (some id) (SizeChange.ofPreset preset) true
    let tiles ← Vec.modify self.tiles idx fun tile =>
      { tile with floatingPresetHeightIdx := some presetIdx }
    pure ({ self with tiles }.interactiveResizeEnd (some id))

/-! ### Moving -/

/-- Longer moves are animated. -/
def moveAndAnimate (self : FloatingSpace W Id) (clock : Clock) (idx : ℕ) (newPos : Point) :
    Outcome (FloatingSpace W Id) := do
  let tile ← Vec.get self.tiles idx
  let prev ← Vec.get self.data idx
  let data := prev.setLogicalPos newPos
  let diff := prev.logicalPos - data.logicalPos
  let tile := if diff.x * diff.x + diff.y * diff.y > 10 * 10 then tile.animateMoveFrom clock diff
    else tile
  pure { self with tiles := self.tiles.set idx tile, data := self.data.set idx data }

def moveTo (self : FloatingSpace W Id) (clock : Clock) (idx : ℕ) (newPos : Point)
    (animate : Bool) : Outcome (FloatingSpace W Id) := do
  let self ←
    if animate then self.moveAndAnimate clock idx newPos
    else do
      let data ← Vec.modify self.data idx (·.setLogicalPos newPos)
      pure { self with data }
  pure (self.interactiveResizeEnd none)

def moveBy (self : FloatingSpace W Id) (clock : Clock) (amount : Point) :
    Outcome (FloatingSpace W Id) :=
  match self.activeWindowId with
  | none => pure self
  | some activeId => do
    let idx ← unwrap (self.idxOf activeId)
    let data ← Vec.get self.data idx
    self.moveTo clock idx (data.logicalPos + amount) true

def moveLeft (self : FloatingSpace W Id) (clock : Clock) : Outcome (FloatingSpace W Id) :=
  self.moveBy clock ⟨-directionalMovePx, 0⟩

def moveRight (self : FloatingSpace W Id) (clock : Clock) : Outcome (FloatingSpace W Id) :=
  self.moveBy clock ⟨directionalMovePx, 0⟩

def moveUp (self : FloatingSpace W Id) (clock : Clock) : Outcome (FloatingSpace W Id) :=
  self.moveBy clock ⟨0, -directionalMovePx⟩

def moveDown (self : FloatingSpace W Id) (clock : Clock) : Outcome (FloatingSpace W Id) :=
  self.moveBy clock ⟨0, directionalMovePx⟩

/-- A position after a change of both coordinates within the working area. -/
def changePosition (workingArea : Rect) (x y : PositionChange) (pos : Point) : Point :=
  ⟨x.resolve workingArea.size.w workingArea.loc.x pos.x,
    y.resolve workingArea.size.h workingArea.loc.y pos.y⟩

def moveWindow (self : FloatingSpace W Id) (clock : Clock) (id : Option Id)
    (x y : PositionChange) (animate : Bool) : Outcome (FloatingSpace W Id) :=
  match self.target id with
  | none => pure self
  | some id => do
    let idx ← unwrap (self.idxOf id)
    let data ← Vec.get self.data idx
    self.moveTo clock idx (changePosition self.workingArea x y data.logicalPos) animate

def centerWindow (self : FloatingSpace W Id) (clock : Clock) (id : Option Id) :
    Outcome (FloatingSpace W Id) :=
  match self.target id with
  | none => pure self
  | some id => do
    let idx ← unwrap (self.idxOf id)
    let data ← Vec.get self.data idx
    self.moveTo clock idx (centerPreferringTopLeftInArea self.workingArea data.size) true

/-! ### Updates of windows -/

def descendantsAdded (self : FloatingSpace W Id) (id : Id) :
    Outcome (FloatingSpace W Id × Bool) :=
  match self.idxOf id with
  | none => pure (self, false)
  | some idx => do
    let self ← self.bringUpDescendantsOf idx
    pure (self, true)

/-- A window resized by its top or left edge moves by what it grew. -/
def updateWindow (self : FloatingSpace W Id) (id : Id) (serial : Option ℕ) :
    Outcome (FloatingSpace W Id × Bool) :=
  match self.idxOf id with
  | none => pure (self, false)
  | some idx => do
    let tile ← Vec.get self.tiles idx
    let prev ← Vec.get self.data idx
    let resize := LayoutElement.interactiveResizeData tile.window
    let window := match serial with
      | some serial => LayoutElement.onCommit tile.window serial
      | none => tile.window
    let tile := { tile with window }.updateWindow
    let data := prev.update tile
    let data := match resize with
      | none => data
      | some resize =>
        let x := if resize.edges.left then prev.size.w - data.size.w else 0
        let y := if resize.edges.top then prev.size.h - data.size.h else 0
        data.setLogicalPos (data.logicalPos + ⟨x, y⟩)
    pure ({ self with tiles := self.tiles.set idx tile, data := self.data.set idx data }, true)

/-- What a refresh tells the window of a tile. -/
def refreshTile (self : FloatingSpace W Id) (isActive isFocused : Bool) (tile : Tile W) : Tile W :=
  let w := LayoutElement.setActiveInColumn tile.window true
  let w := LayoutElement.setFloating w true
  let active := isActive && decide (self.activeWindowId = some tile.windowId)
  let active := if self.options.deactivateUnfocusedWindows then active && isFocused else active
  let w := LayoutElement.setActivated w active
  let resizeData := (self.interactiveResize.filter fun resize =>
    resize.window = tile.windowId).map (·.data)
  let w := LayoutElement.setInteractiveResize w resizeData
  let border := self.options.layout.border.mergedWith (LayoutElement.rules w).border
  let w := LayoutElement.setBounds w (computeToplevelBounds border self.workingArea.size)
  match LayoutElement.configureIntent w with
  | .canSend | .shouldSend => { tile with window := LayoutElement.sendPendingConfigure w }
  | _ => { tile with window := w }

def refresh (self : FloatingSpace W Id) (isActive isFocused : Bool) : FloatingSpace W Id :=
  self.mapTiles (self.refreshTile isActive isFocused)

end FloatingSpace

end Sol
