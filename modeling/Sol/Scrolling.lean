import Sol.Column
import Sol.Vec

/-!
# The tiling space

The master-stack layout of a workspace.  One column is the master, the others
are stacked beside it; the columns are numbered in one order, the master first.
The focus is a slot, not a window, and so every operation that moves columns
also moves the focus.

The layout only sizes and slides tiles besides that, so each operation comes
down to what it does to the slots.
-/

namespace Sol

open Panicking

/-- The focused slot. -/
inductive Focus
  | empty
  | master
  | stack (idx : ℕ)
  deriving DecidableEq, Repr

/-- Where an interactively moved window would go. -/
inductive InsertPosition
  | newColumn (idx : ℕ)
  | inColumn (columnIdx tileIdx : ℕ)
  | floating
  deriving DecidableEq, Repr

/-- A tile taken out of the layout, with what it needs to get back in. -/
structure RemovedTile (W : Type) where
  tile : Tile W
  width : ColumnWidth
  isFullWidth : Bool
  isFloating : Bool

inductive ScrollDirection
  | left
  | right
  deriving DecidableEq, Repr

/-- Master-stack space for windows. -/
structure ScrollingSpace (W : Type) where
  master : Option (Column W)
  stack : List (Column W)
  focus : Focus
  /-- The stack row that had the focus before it last went to the master. -/
  lastStackIdx : Option ℕ
  masterRatio : ℚ
  viewSize : Size
  workingArea : Rect
  /-- The working area before the struts. -/
  parentArea : Rect
  scale : ℚ
  options : Options

/-- `compute_working_area` of the tiling layout: the struts are cut off and the
corner moves up to a physical pixel. -/
def computeWorkingArea (parentArea : Rect) (scale : ℚ) (struts : Struts) : Rect :=
  let size : Size := ⟨max 0 (parentArea.size.w - struts.left - struts.right),
    max 0 (parentArea.size.h - struts.top - struts.bottom)⟩
  let loc : Point := ⟨parentArea.loc.x + struts.left, parentArea.loc.y + struts.top⟩
  let rounded := loc.ceilPhysical scale
  let sizeDiff := rounded - loc
  ⟨rounded, ⟨size.w - min size.w sizeDiff.x, size.h - min size.h sizeDiff.y⟩⟩

namespace ScrollingSpace

variable {W Id : Type} [LayoutElement W Id]

def new (viewSize : Size) (parentArea : Rect) (scale : ℚ) (options : Options) :
    ScrollingSpace W where
  master := none
  stack := []
  focus := .empty
  lastStackIdx := none
  masterRatio := 1 / 2
  viewSize := viewSize
  workingArea := computeWorkingArea parentArea scale options.layout.struts
  parentArea := parentArea
  scale := scale
  options := options

/-! ### Columns -/

/-- All columns, the master first. -/
def columns (self : ScrollingSpace W) : List (Column W) := self.master.toList ++ self.stack

def tiles (self : ScrollingSpace W) : List (Tile W) := self.columns.map (·.tile)

/-- The windows, in the order of the columns. -/
def windowIds (self : ScrollingSpace W) : List Id := self.columns.map (·.windowId)

def isEmpty (self : ScrollingSpace W) : Bool := self.master.isNone && self.stack.isEmpty

def columnByUnifiedIdx (self : ScrollingSpace W) (unifiedIdx : ℕ) : Option (Column W) :=
  if unifiedIdx = 0 then self.master else self.stack[unifiedIdx - 1]?

def focusedColumn (self : ScrollingSpace W) : Option (Column W) :=
  match self.focus with
  | .empty => none
  | .master => self.master
  | .stack idx => self.stack[idx]?

def activeWindow (self : ScrollingSpace W) : Option W := self.focusedColumn.map (·.tile.window)

def activeColumnIdxInternal (self : ScrollingSpace W) : Option ℕ :=
  match self.focus with
  | .empty => none
  | .master => some 0
  | .stack idx => some (idx + 1)

def isActivePendingFullscreen (self : ScrollingSpace W) : Bool :=
  self.focusedColumn.any (·.isPendingFullscreen)

/-- Updates every column in place. -/
def mapColumns (self : ScrollingSpace W) (f : Column W → Column W) : ScrollingSpace W :=
  { self with master := self.master.map f, stack := self.stack.map f }

/-- Updates the column at an index in place. -/
def modifyColumnAt (self : ScrollingSpace W) (unifiedIdx : ℕ) (f : Column W → Column W) :
    ScrollingSpace W :=
  if unifiedIdx = 0 then { self with master := self.master.map f }
  else { self with stack := self.stack.modify (unifiedIdx - 1) f }

/-- The column that takes over, and the rectangle it should occupy: the whole view
when it is fullscreen, the working area when it is maximized. -/
def takeover (self : ScrollingSpace W) : Option (ℕ × Rect) :=
  self.columns.zipIdx.findSome? fun (col, idx) =>
    if col.isPendingFullscreen then some (idx, Rect.fromSize self.viewSize)
    else if col.isPendingMaximized then some (idx, self.workingArea)
    else none

/-- A fullscreen column is above the bars, a maximized one is not. -/
def renderAboveTopLayer (self : ScrollingSpace W) : Bool :=
  self.master.any (·.isPendingFullscreen) || self.stack.any (·.isPendingFullscreen)

variable [DecidableEq Id]

/-- The index of a window's column. -/
def position (self : ScrollingSpace W) (window : Id) : Option ℕ :=
  self.columns.findIdx? fun col => col.windowId = window

def hasWindow (self : ScrollingSpace W) (window : Id) : Bool :=
  self.tiles.any fun tile => tile.windowId = window

/-- Updates the first column with a window in place. -/
def modifyFirst (window : Id) (f : Column W → Column W) (cols : List (Column W)) :
    List (Column W) :=
  match cols.findIdx? fun col => col.windowId = window with
  | some idx => cols.modify idx f
  | none => cols

/-- `find_column_by_id_mut`, and an update of what it finds. -/
def modifyColumnById (self : ScrollingSpace W) (window : Id) (f : Column W → Column W) :
    ScrollingSpace W :=
  if self.master.any (·.windowId = window) then { self with master := self.master.map f }
  else { self with stack := modifyFirst window f self.stack }

/-! ### Slots -/

/-- The origin and the size of each column's slot, with gaps around the working
area and between the tiles. -/
def columnLayout (self : ScrollingSpace W) : List (ℕ × Point × Size) :=
  let work := self.workingArea
  let g := self.options.layout.gaps
  let nStack := self.stack.length
  let colY := work.loc.y + g
  let colH := max (work.size.h - 2 * g) 1
  if nStack = 0 then
    match self.master with
    | some _ => [(0, ⟨work.loc.x + g, colY⟩, ⟨max (work.size.w - 2 * g) 1, colH⟩)]
    | none => []
  else
    let availW := max (work.size.w - 3 * g) 1
    let masterW := max (availW * self.masterRatio) 1
    let stackW := max (availW - masterW) 1
    let masterX := work.loc.x + g
    let stackX := work.loc.x + g + masterW + g
    let availH := max (colH - (nStack - 1) * g) 1
    let stackH := availH / nStack
    let masterSlot := match self.master with
      | some _ => [(0, (⟨masterX, colY⟩ : Point), (⟨masterW, colH⟩ : Size))]
      | none => []
    masterSlot ++ (List.range nStack).map fun (i : ℕ) =>
      (i + 1, (⟨stackX, colY + i * (stackH + g)⟩ : Point), (⟨stackW, stackH⟩ : Size))

/-- Gives the columns their slots in order, as far as there are slots. -/
def fillSlots : List Size → List (Column W) → List (Column W)
  | size :: sizes, col :: cols => col.fillSlot size :: fillSlots sizes cols
  | _, cols => cols

/-- Asks each tile to size itself to its slot. -/
def updateTileSizes (self : ScrollingSpace W) : ScrollingSpace W :=
  let sizes := self.columnLayout.map (·.2.2)
  match self.master with
  | some master =>
    { self with
      master := some (match sizes with
        | size :: _ => master.fillSlot size
        | [] => master)
      stack := fillSlots sizes.tail self.stack }
  | none => { self with stack := fillSlots sizes self.stack }

/-- The windows with the origins of their slots. -/
def slotOrigins (self : ScrollingSpace W) : List (ℕ × Id × Point) :=
  self.columnLayout.filterMap fun (uidx, pos, _) =>
    (self.columnByUnifiedIdx uidx).map fun col => (uidx, col.windowId, pos)

/-- Slides a tile by the distance it jumped, along the axes on which it jumped
by half a pixel or more. -/
def slide (clock : Clock) (config : AnimationConfig) (delta : Point) (col : Column W) : Column W :=
  let tile := if |delta.x| ≥ 1 / 2 then
    col.tile.animateMoveXFromWithConfig clock delta.x config else col.tile
  let tile := if |delta.y| ≥ 1 / 2 then
    tile.animateMoveYFromWithConfig clock delta.y config else tile
  { col with tile }

/-- Slides one tile from its origin in `entry` to its origin in `post`. -/
def springTile (clock : Clock) (config : AnimationConfig) (post : List (ℕ × Id × Point))
    (self : ScrollingSpace W) (entry : ℕ × Id × Point) : ScrollingSpace W :=
  match post.find? fun slot => slot.2.1 = entry.2.1 with
  | none => self
  | some slot =>
    self.modifyColumnById entry.2.1 (slide clock config (entry.2.2 - slot.2.2))

/-- Springs the tiles from their slots in `pre` to their slots now. -/
def springFrom (self : ScrollingSpace W) (clock : Clock) (pre : List (ℕ × Id × Point)) :
    ScrollingSpace W :=
  pre.foldl (springTile clock self.options.animations.tileMovement self.slotOrigins) self

/-! ### Adding and removing -/

/-- The first column is the master, later ones go to the bottom of the stack. -/
def placeColumn (self : ScrollingSpace W) (column : Column W) (activate : Bool) :
    ScrollingSpace W :=
  match self.master with
  | none =>
    { self with
      master := some column
      focus := if activate || self.focus == Focus.empty then .master else self.focus }
  | some _ =>
    { self with
      stack := self.stack ++ [column]
      focus := if activate then .stack self.stack.length
        else if self.focus == Focus.empty then .master else self.focus }

/-- A new column ends every takeover. -/
def addColumn (self : ScrollingSpace W) (column : Column W) (activate : Bool) :
    ScrollingSpace W :=
  let self := self.mapColumns fun col => col.endTakeover self.workingArea.size
  let column := column.updateConfig self.viewSize self.workingArea self.parentArea self.scale
    self.options
  (self.placeColumn column activate).updateTileSizes

def addTile (self : ScrollingSpace W) (tile : Tile W) (activate : Bool) (width : ColumnWidth)
    (isFullWidth : Bool) : ScrollingSpace W :=
  self.addColumn (Column.newWithTile tile self.viewSize self.workingArea self.parentArea self.scale
    width isFullWidth) activate

/-- Each column holds one tile, so the tile gets a column of its own. -/
def addTileToColumn (self : ScrollingSpace W) (tile : Tile W) (activate : Bool) :
    ScrollingSpace W :=
  self.addColumn (Column.newWithTile tile self.viewSize self.workingArea self.parentArea self.scale
    (.proportion self.masterRatio) false) activate

def addTileRightOf (self : ScrollingSpace W) (tile : Tile W) (activate : Bool)
    (width : ColumnWidth) (isFullWidth : Bool) : ScrollingSpace W :=
  self.addTile tile activate width isFullWidth

/-- The focus once the column at `removedIdx` is gone. -/
def updateFocusAfterRemoval (self : ScrollingSpace W) (removedIdx : ℕ) : ScrollingSpace W :=
  if self.master.isNone && self.stack.isEmpty then { self with focus := .empty }
  else match self.focus with
    | .empty =>
      if self.master.isSome then { self with focus := .master }
      else if !self.stack.isEmpty then { self with focus := .stack 0 }
      else self
    | .master =>
      if self.master.isNone then
        { self with focus := if !self.stack.isEmpty then .stack 0 else .empty }
      else self
    | .stack idx =>
      let stackRemovedIdx := removedIdx - 1
      if removedIdx = 0 then
        -- the master was removed and the first stack column promoted
        if idx = 0 then { self with focus := .master }
        else if idx - 1 < self.stack.length then { self with focus := .stack (idx - 1) }
        else if !self.stack.isEmpty then { self with focus := .stack (self.stack.length - 1) }
        else { self with focus := .master }
      else if stackRemovedIdx = idx then
        if idx > 0 then { self with focus := .stack (idx - 1) }
        else if !self.stack.isEmpty then { self with focus := .stack 0 }
        else if self.master.isSome then { self with focus := .master }
        else { self with focus := .empty }
      else if stackRemovedIdx < idx then { self with focus := .stack (idx - 1) }
      else self

/-- Removes the column at an index, promotes the first stack column into an
empty master slot and fixes the focus. -/
def detachColumnAt (self : ScrollingSpace W) (columnIdx : ℕ) :
    Outcome (Column W × ScrollingSpace W) :=
  if columnIdx = 0 then do
    let removed ← expect "master expected" self.master
    match self.stack with
    | [] => pure (removed, { self with master := none }.updateFocusAfterRemoval 0)
    | promoted :: stack =>
      pure (removed, { self with master := some promoted, stack }.updateFocusAfterRemoval 0)
  else do
    let (removed, stack) ← Vec.remove self.stack (columnIdx - 1)
    pure (removed, { self with stack }.updateFocusAfterRemoval columnIdx)

/-- Removes the column at an index; the others spring into their new slots. -/
def takeColumnAt (self : ScrollingSpace W) (clock : Clock) (columnIdx : ℕ) :
    Outcome (Column W × ScrollingSpace W) := do
  let pre := self.slotOrigins.filter fun (uidx, _, _) => uidx ≠ columnIdx
  let (removed, self) ← self.detachColumnAt columnIdx
  pure (removed, self.updateTileSizes.springFrom clock pre)

def removeTileByIdx (self : ScrollingSpace W) (clock : Clock) (columnIdx : ℕ) :
    Outcome (RemovedTile W × ScrollingSpace W) := do
  let (column, self) ← self.takeColumnAt clock columnIdx
  pure (⟨column.tile, column.width, column.isFullWidth, false⟩, self)

def removeTile (self : ScrollingSpace W) (clock : Clock) (window : Id) :
    Outcome (RemovedTile W × ScrollingSpace W) := do
  let unifiedIdx ← expect "remove_tile: window not found" (self.position window)
  self.removeTileByIdx clock unifiedIdx

def removeActiveTile (self : ScrollingSpace W) (clock : Clock) :
    Outcome (Option (RemovedTile W) × ScrollingSpace W) :=
  match self.focusedColumn with
  | none => pure (none, self)
  | some col => do
    let (removed, self) ← self.removeTile clock col.windowId
    pure (some removed, self)

def removeActiveColumn (self : ScrollingSpace W) (clock : Clock) :
    Outcome (Option (Column W) × ScrollingSpace W) :=
  match self.activeColumnIdxInternal with
  | none => pure (none, self)
  | some idx => do
    let (column, self) ← self.takeColumnAt clock idx
    pure (some column, self)

def removeColumnByIdx (self : ScrollingSpace W) (clock : Clock) (columnIdx : ℕ) :
    Outcome (Column W × ScrollingSpace W) :=
  self.takeColumnAt clock columnIdx

/-! ### Focus -/

def activateWindow (self : ScrollingSpace W) (window : Id) : ScrollingSpace W × Bool :=
  match self.position window with
  | none => (self, false)
  | some idx =>
    -- the master slot is tried first; in an empty one the stack begins at index 0
    match self.master, idx with
    | some _, 0 => ({ self with focus := .master }, true)
    | some _, i + 1 => ({ self with focus := .stack i }, true)
    | none, i => ({ self with focus := .stack i }, true)

/-- Leaving the stack for the master remembers the row. -/
def focusLeft (self : ScrollingSpace W) : ScrollingSpace W × Bool :=
  match self.focus with
  | .stack idx =>
    if self.master.isSome then ({ self with lastStackIdx := some idx, focus := .master }, true)
    else (self, false)
  | _ => (self, false)

/-- The remembered row where it is valid, else the top row. -/
def rememberedRow (self : ScrollingSpace W) : ℕ :=
  (self.lastStackIdx.filter (· < self.stack.length)).getD 0

def focusRight (self : ScrollingSpace W) : ScrollingSpace W × Bool :=
  match self.focus with
  | .master =>
    if self.stack.isEmpty then (self, false)
    else ({ self with focus := .stack self.rememberedRow }, true)
  | _ => (self, false)

def focusColumnFirst (self : ScrollingSpace W) : ScrollingSpace W :=
  if self.master.isSome then { self with focus := .master } else self

def focusColumnLast (self : ScrollingSpace W) : ScrollingSpace W :=
  if !self.stack.isEmpty then { self with focus := .stack (self.stack.length - 1) }
  else if self.master.isSome then { self with focus := .master }
  else self

def focusColumn (self : ScrollingSpace W) (index : ℕ) : ScrollingSpace W :=
  if index = 0 then if self.master.isSome then { self with focus := .master } else self
  else if index - 1 < self.stack.length then { self with focus := .stack (index - 1) }
  else self

def focusDown (self : ScrollingSpace W) : ScrollingSpace W × Bool :=
  match self.focus with
  | .stack idx =>
    if idx + 1 < self.stack.length then ({ self with focus := .stack (idx + 1) }, true)
    else (self, false)
  | .master =>
    if self.stack.isEmpty then (self, false) else ({ self with focus := .stack 0 }, true)
  | .empty => (self, false)

def focusUp (self : ScrollingSpace W) : ScrollingSpace W × Bool :=
  match self.focus with
  | .stack idx => if idx > 0 then ({ self with focus := .stack (idx - 1) }, true) else (self, false)
  | _ => (self, false)

def focusDownOrLeft (self : ScrollingSpace W) : ScrollingSpace W :=
  if self.focusDown.2 then self.focusDown.1 else self.focusLeft.1

def focusDownOrRight (self : ScrollingSpace W) : ScrollingSpace W :=
  if self.focusDown.2 then self.focusDown.1 else self.focusRight.1

def focusUpOrLeft (self : ScrollingSpace W) : ScrollingSpace W :=
  if self.focusUp.2 then self.focusUp.1 else self.focusLeft.1

def focusUpOrRight (self : ScrollingSpace W) : ScrollingSpace W :=
  if self.focusUp.2 then self.focusUp.1 else self.focusRight.1

def focusTop (self : ScrollingSpace W) : ScrollingSpace W :=
  match self.focus with
  | .stack _ => { self with focus := .stack 0 }
  | _ => self

def focusBottom (self : ScrollingSpace W) : ScrollingSpace W :=
  if self.stack.isEmpty then self else { self with focus := .stack (self.stack.length - 1) }

/-! ### Moving columns -/

/-- Promotes the focused stack column; the master takes the slot it vacated. -/
def moveLeft (self : ScrollingSpace W) : Outcome (ScrollingSpace W × Bool) :=
  match self.focus with
  | .stack idx => do
    let (promoted, stack) ← Vec.remove self.stack idx
    let stack ← match self.master with
      | some oldMaster => Vec.insert stack idx oldMaster
      | none => pure stack
    let self := { self with
      master := some promoted, stack, focus := .master, lastStackIdx := some idx }
    pure (self.updateTileSizes, true)
  | _ => pure (self, false)

/-- Swaps the master with the remembered stack row, else with the top one. -/
def moveRight (self : ScrollingSpace W) : Outcome (ScrollingSpace W × Bool) :=
  match self.focus with
  | .master =>
    if self.stack.isEmpty then pure (self, false)
    else
      let idx := self.rememberedRow
      match self.master with
      | none => pure (self, false)
      | some oldMaster => do
        let (newMaster, stack) ← Vec.remove self.stack idx
        let stack ← Vec.insert stack idx oldMaster
        let self := { self with master := some newMaster, stack, focus := .stack idx }
        pure (self.updateTileSizes, true)
  | _ => pure (self, false)

def moveColumnToFirst (self : ScrollingSpace W) : Outcome (ScrollingSpace W) :=
  match self.focus with
  | .stack _ => do
    let (self, _) ← self.moveLeft
    pure self
  | _ => pure self

def moveColumnToLast (self : ScrollingSpace W) : Outcome (ScrollingSpace W) :=
  match self.focus with
  | .stack idx =>
    if idx + 1 < self.stack.length then do
      let (col, stack) ← Vec.remove self.stack idx
      let stack := stack ++ [col]
      pure { self with stack, focus := .stack (stack.length - 1) }
    else pure self
  | _ => pure self

def moveDown (self : ScrollingSpace W) : Outcome (ScrollingSpace W × Bool) :=
  match self.focus with
  | .stack idx =>
    if idx + 1 < self.stack.length then do
      let stack ← Vec.swap self.stack idx (idx + 1)
      pure ({ self with stack, focus := .stack (idx + 1) }, true)
    else pure (self, false)
  | _ => pure (self, false)

def moveUp (self : ScrollingSpace W) : Outcome (ScrollingSpace W × Bool) :=
  match self.focus with
  | .stack idx =>
    if idx > 0 then do
      let stack ← Vec.swap self.stack idx (idx - 1)
      pure ({ self with stack, focus := .stack (idx - 1) }, true)
    else pure (self, false)
  | _ => pure (self, false)

/-- Runs a swap and springs the tiles it displaced. -/
def swapWithSpring (self : ScrollingSpace W) (clock : Clock)
    (mutate : ScrollingSpace W → Outcome (ScrollingSpace W × Bool)) :
    Outcome (ScrollingSpace W × Bool) := do
  let pre := self.slotOrigins
  let (self, changed) ← mutate self
  if changed then pure (self.springFrom clock pre, true) else pure (self, false)

def moveLeftAnimated (self : ScrollingSpace W) (clock : Clock) :
    Outcome (ScrollingSpace W × Bool) := self.swapWithSpring clock moveLeft

def moveRightAnimated (self : ScrollingSpace W) (clock : Clock) :
    Outcome (ScrollingSpace W × Bool) := self.swapWithSpring clock moveRight

def moveUpAnimated (self : ScrollingSpace W) (clock : Clock) :
    Outcome (ScrollingSpace W × Bool) := self.swapWithSpring clock moveUp

def moveDownAnimated (self : ScrollingSpace W) (clock : Clock) :
    Outcome (ScrollingSpace W × Bool) := self.swapWithSpring clock moveDown

def swapWindowInDirection (self : ScrollingSpace W) (direction : ScrollDirection) :
    Outcome (ScrollingSpace W) := do
  let (self, _) ← match direction with
    | .left => self.moveLeft
    | .right => self.moveRight
  pure self

def consumeOrExpelWindowLeft (_self : ScrollingSpace W) : Outcome (ScrollingSpace W) :=
  throw (.notYetImplemented "master-stack: consume_or_expel_window_left")

def consumeOrExpelWindowRight (_self : ScrollingSpace W) : Outcome (ScrollingSpace W) :=
  throw (.notYetImplemented "master-stack: consume_or_expel_window_right")

def consumeIntoColumn (_self : ScrollingSpace W) : Outcome (ScrollingSpace W) :=
  throw (.notYetImplemented "master-stack: consume_into_column")

def expelFromColumn (_self : ScrollingSpace W) : Outcome (ScrollingSpace W) :=
  throw (.notYetImplemented "master-stack: expel_from_column")

/-! ### Sizes and modes -/

def updateConfig (self : ScrollingSpace W) (viewSize : Size) (parentArea : Rect) (scale : ℚ)
    (options : Options) : ScrollingSpace W :=
  let workingArea := computeWorkingArea parentArea scale options.layout.struts
  let self := self.mapColumns fun col =>
    col.updateConfig viewSize workingArea parentArea scale options
  { self with viewSize, workingArea, parentArea, scale, options }.updateTileSizes

/-- Adjusts the share of the master, within its range. -/
def nudgeMasterRatio (self : ScrollingSpace W) (clock : Clock) (delta : ℚ) : ScrollingSpace W :=
  let newRatio := clamp (15 / 100) (85 / 100) (self.masterRatio + delta)
  if |newRatio - self.masterRatio| < 1 / 1000000 then self
  else
    let pre := self.slotOrigins
    { self with masterRatio := newRatio }.updateTileSizes.springFrom clock pre

/-- Leaving fullscreen asks the tiles for their slots again. -/
def setFullscreen (self : ScrollingSpace W) (window : Id) (isFullscreen : Bool) :
    Outcome (ScrollingSpace W × Bool) :=
  match self.position window with
  | none => pure (self, false)
  | some unifiedIdx => do
    let col ← expect "column index must be valid" (self.columnByUnifiedIdx unifiedIdx)
    let self := self.modifyColumnAt unifiedIdx fun col => (col.setFullscreen isFullscreen).1
    pure (if isFullscreen then self else self.updateTileSizes,
      (col.setFullscreen isFullscreen).2)

def setMaximized (self : ScrollingSpace W) (window : Id) (maximize : Bool) :
    Outcome (ScrollingSpace W × Bool) :=
  match self.position window with
  | none => pure (self, false)
  | some unifiedIdx => do
    let col ← expect "column index must be valid" (self.columnByUnifiedIdx unifiedIdx)
    let area := self.workingArea.size
    let self := self.modifyColumnAt unifiedIdx fun col => (col.setMaximized maximize area).1
    pure (if maximize then self else self.updateTileSizes, (col.setMaximized maximize area).2)

def updateWindow (self : ScrollingSpace W) (window : Id) (serial : Option ℕ) : ScrollingSpace W :=
  self.modifyColumnById window fun col =>
    let w := match serial with
      | some serial => LayoutElement.onCommit col.tile.window serial
      | none => col.tile.window
    { col with tile := { col.tile with window := w }.updateWindow }

def advanceAnimations (self : ScrollingSpace W) (clock : Clock) : ScrollingSpace W :=
  self.mapColumns fun col => { col with tile := col.tile.advanceAnimations clock }

/-- What a refresh tells the window of a column. -/
def refreshColumn (self : ScrollingSpace W) (activated : Bool) (col : Column W) : Column W :=
  let w := LayoutElement.setFloating col.tile.window false
  let w := LayoutElement.setActiveInColumn w true
  let w := LayoutElement.setActivated w activated
  let w := LayoutElement.setInteractiveResize w none
  let w := LayoutElement.setBounds w self.workingArea.size.toI32Round
  { col with tile := { col.tile with window := LayoutElement.sendPendingConfigure w } }

def refresh (self : ScrollingSpace W) (isActive isFocused : Bool) : ScrollingSpace W :=
  let activated := fun idx => isActive && isFocused && self.activeColumnIdxInternal == some idx
  let offset := self.master.toList.length
  { self with
    master := self.master.map (self.refreshColumn (activated 0))
    stack := self.stack.mapIdx fun i col => self.refreshColumn (activated (i + offset)) col }

def insertPosition (self : ScrollingSpace W) : InsertPosition :=
  if self.master.isNone then .newColumn 0 else .newColumn (self.stack.length + 1)

end ScrollingSpace

end Sol
