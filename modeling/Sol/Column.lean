import Sol.Tile

/-!
# Columns

A column of the tiling layout owns one tile.  Besides it, the column holds the
takeover it is pending for and the sizes it last heard of.
-/

namespace Sol

inductive ColumnWidth
  | proportion (p : ℚ)
  | fixed (f : ℚ)
  deriving DecidableEq, Repr

/-- `ColumnWidth::from`. -/
def ColumnWidth.ofPreset : PresetSize → ColumnWidth
  | .proportion p => .proportion (clamp 0 10000 p)
  | .fixed f => .fixed (clampInt 1 100000 f)

/-- A column with its single tile. -/
structure Column (W : Type) where
  tile : Tile W
  width : ColumnWidth
  isFullWidth : Bool
  isPendingFullscreen : Bool
  isPendingMaximized : Bool
  viewSize : Size
  workingArea : Rect
  parentArea : Rect
  scale : ℚ
  options : Options

namespace Column

variable {W Id : Type} [LayoutElement W Id]

/-- The window of a column. -/
def windowId (self : Column W) : Id := self.tile.windowId

/-- Sets the pending fullscreen state and asks the tile to size itself
accordingly; also whether the state changed. -/
def setFullscreen (self : Column W) (isFullscreen : Bool) : Column W × Bool :=
  if self.isPendingFullscreen = isFullscreen then (self, false)
  else if isFullscreen then
    ({ self with
      isPendingFullscreen := true, isPendingMaximized := false
      tile := self.tile.requestFullscreen false }, true)
  else ({ self with isPendingFullscreen := false }, true)

def setMaximized (self : Column W) (maximize : Bool) (workingAreaSize : Size) : Column W × Bool :=
  if self.isPendingMaximized = maximize then (self, false)
  else if maximize then
    ({ self with
      isPendingMaximized := true, isPendingFullscreen := false
      tile := self.tile.requestMaximized workingAreaSize false }, true)
  else ({ self with isPendingMaximized := false }, true)

/-- A column for a tile takes over whatever mode its window is pending for. -/
def newWithTile (tile : Tile W) (viewSize : Size) (workingArea parentArea : Rect) (scale : ℚ)
    (width : ColumnWidth) (isFullWidth : Bool) : Column W :=
  let column : Column W :=
    { tile, width, isFullWidth, isPendingFullscreen := false, isPendingMaximized := false,
      viewSize, workingArea, parentArea, scale, options := tile.options }
  match LayoutElement.pendingSizingMode tile.window with
  | .normal => column
  | .maximized => (column.setMaximized true workingArea.size).1
  | .fullscreen => (column.setFullscreen true).1

def updateConfig (self : Column W) (viewSize : Size) (workingArea parentArea : Rect) (scale : ℚ)
    (options : Options) : Column W :=
  { self with
    tile := self.tile.updateConfig viewSize scale options
    viewSize, workingArea, parentArea, scale, options }

def pendingSizingMode (self : Column W) : SizingMode :=
  if self.isPendingFullscreen then .fullscreen
  else if self.isPendingMaximized then .maximized
  else .normal

/-- Ends a takeover. -/
def endTakeover (self : Column W) (workingAreaSize : Size) : Column W :=
  ((self.setFullscreen false).1.setMaximized false workingAreaSize).1

/-- Asks the tile to fill its slot, unless the column takes over. -/
def fillSlot (self : Column W) (size : Size) : Column W :=
  if self.isPendingFullscreen || self.isPendingMaximized then self
  else { self with tile := self.tile.requestTileSize size false }

@[simp] theorem windowId_setFullscreen (self : Column W) (b : Bool) :
    (self.setFullscreen b).1.windowId = self.windowId := by
  unfold setFullscreen
  split_ifs <;> simp [windowId]

@[simp] theorem windowId_setMaximized (self : Column W) (b : Bool) (size : Size) :
    (self.setMaximized b size).1.windowId = self.windowId := by
  unfold setMaximized
  split_ifs <;> simp [windowId]

@[simp] theorem windowId_newWithTile (tile : Tile W) (viewSize : Size) (workingArea parentArea : Rect)
    (scale : ℚ) (width : ColumnWidth) (isFullWidth : Bool) :
    (newWithTile tile viewSize workingArea parentArea scale width isFullWidth).windowId =
      tile.windowId := by
  unfold newWithTile
  cases LayoutElement.pendingSizingMode tile.window <;> simp [windowId]
  · exact windowId_setMaximized _ _ _
  · exact windowId_setFullscreen _ _

@[simp] theorem windowId_updateConfig (self : Column W) (viewSize : Size)
    (workingArea parentArea : Rect) (scale : ℚ) (options : Options) :
    (self.updateConfig viewSize workingArea parentArea scale options).windowId = self.windowId := by
  simp [updateConfig, windowId]

@[simp] theorem windowId_endTakeover (self : Column W) (size : Size) :
    (self.endTakeover size).windowId = self.windowId := by
  simp [endTakeover]

@[simp] theorem windowId_fillSlot (self : Column W) (size : Size) :
    (self.fillSlot size).windowId = self.windowId := by
  unfold fillSlot
  split_ifs <;> simp [windowId]

end Column

end Sol
