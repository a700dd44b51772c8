import Sol.Animation
import Sol.Element

/-!
# Tiles

A tile is a window with its decorations: the border that counts towards its
size, what it remembers for the floating layout, and the animations of its
position.
-/

namespace Sol

/-- A tile's slide from where it was, along one axis. -/
structure MoveAnimation where
  anim : Animation
  start : ℚ

/-- A window with decorations. -/
structure Tile (W : Type) where
  window : W
  border : Border
  /-- The mode the window is in, not the one it was asked for. -/
  sizingMode : SizingMode
  /-- Whether the tile should float upon unfullscreening. -/
  restoreToFloating : Bool
  floatingWindowSize : Option ISize
  /-- Position in the floating layout, as fractions of its working area. -/
  floatingPos : Option Point
  floatingPresetWidthIdx : Option ℕ
  floatingPresetHeightIdx : Option ℕ
  moveXAnimation : Option MoveAnimation
  moveYAnimation : Option MoveAnimation
  interactiveMoveOffset : Point
  viewSize : Size
  scale : ℚ
  options : Options

namespace Tile

variable {W Id : Type} [LayoutElement W Id]

open LayoutElement

/-- The window of a tile. -/
def windowId (self : Tile W) : Id := LayoutElement.id self.window

def new (window : W) (viewSize : Size) (scale : ℚ) (options : Options) : Tile W where
  window := window
  border := options.layout.border.mergedWith (rules window).border
  sizingMode := LayoutElement.sizingMode window
  restoreToFloating := false
  floatingWindowSize := none
  floatingPos := none
  floatingPresetWidthIdx := none
  floatingPresetHeightIdx := none
  moveXAnimation := none
  moveYAnimation := none
  interactiveMoveOffset := Point.zero
  viewSize := viewSize
  scale := scale
  options := options

/-- The border as the options and the rules give it, in physical pixels. -/
def resolvedBorder (self : Tile W) : Border :=
  let border := self.options.layout.border.mergedWith (rules self.window).border
  { border with width := roundLogicalInPhysicalMax1 self.scale border.width }

/-- Changed presets clear the selected one. -/
def updateConfig (self : Tile W) (viewSize : Size) (scale : ℚ) (options : Options) : Tile W :=
  let self := { self with
    floatingPresetWidthIdx :=
      if self.options.layout.presetColumnWidths ≠ options.layout.presetColumnWidths then none
      else self.floatingPresetWidthIdx
    floatingPresetHeightIdx :=
      if self.options.layout.presetWindowHeights ≠ options.layout.presetWindowHeights then none
      else self.floatingPresetHeightIdx
    viewSize, scale, options }
  { self with border := self.resolvedBorder }

def updateWindow (self : Tile W) : Tile W :=
  { self with
    sizingMode := LayoutElement.sizingMode self.window
    border := self.resolvedBorder }

/-- Drops the slides that are over. -/
def advanceAnimations (self : Tile W) (clock : Clock) : Tile W :=
  { self with
    moveXAnimation := self.moveXAnimation.filter fun move => !move.anim.isDone clock
    moveYAnimation := self.moveYAnimation.filter fun move => !move.anim.isDone clock }

def renderOffset (self : Tile W) (clock : Clock) : Point :=
  ⟨self.moveXAnimation.elim 0 fun move => move.start * move.anim.value clock,
    self.moveYAnimation.elim 0 fun move => move.start * move.anim.value clock⟩ +
    self.interactiveMoveOffset

/-- A slide from `start`, with the configuration of the one under way if there is one. -/
def moveAnimation (clock : Clock) (old : Option MoveAnimation) (start : ℚ)
    (config : AnimationConfig) : MoveAnimation where
  anim := match old with
    | some move => move.anim.restarted clock 1 0 0
    | none => Animation.new clock 1 0 0 config
  start := start

def animateMoveXFromWithConfig (self : Tile W) (clock : Clock) (start : ℚ)
    (config : AnimationConfig) : Tile W :=
  let start := start + (self.renderOffset clock).x
  { self with moveXAnimation := some (moveAnimation clock self.moveXAnimation start config) }

def animateMoveYFromWithConfig (self : Tile W) (clock : Clock) (start : ℚ)
    (config : AnimationConfig) : Tile W :=
  let start := start + (self.renderOffset clock).y
  { self with moveYAnimation := some (moveAnimation clock self.moveYAnimation start config) }

def animateMoveFrom (self : Tile W) (clock : Clock) (start : Point) : Tile W :=
  let self := self.animateMoveXFromWithConfig clock start.x self.options.animations.windowMovement
  self.animateMoveYFromWithConfig clock start.y self.options.animations.windowMovement

def stopMoveAnimations (self : Tile W) : Tile W :=
  { self with moveXAnimation := none, moveYAnimation := none }

/-! ### Sizes -/

/-- The width of the border, when it is shown. -/
def effectiveBorderWidth (self : Tile W) : Option ℚ :=
  if !self.sizingMode.isNormal then none
  else if self.border.off then none
  else some self.border.width

/-- The size of the tile around a window of the given size. -/
def sizeAround (self : Tile W) (size : Size) : Size :=
  if self.sizingMode.isFullscreen then ⟨max size.w self.viewSize.w, max size.h self.viewSize.h⟩
  else match self.effectiveBorderWidth with
    | some width => ⟨size.w + width * 2, size.h + width * 2⟩
    | none => size

def windowSize (self : Tile W) : Size := (LayoutElement.size self.window).toF64.roundPhysical self.scale

def windowExpectedOrCurrentSize (self : Tile W) : Size :=
  ((expectedSize self.window).getD (LayoutElement.size self.window)).toF64.roundPhysical self.scale

def tileSize (self : Tile W) : Size := self.sizeAround self.windowSize

def tileExpectedOrCurrentSize (self : Tile W) : Size :=
  self.sizeAround self.windowExpectedOrCurrentSize

/-- Where the window is within its tile: in its centre. -/
def windowLoc (self : Tile W) : Point :=
  Point.roundPhysical
    ⟨(self.tileSize.w - self.windowSize.w) / 2, (self.tileSize.h - self.windowSize.h) / 2⟩ self.scale

/-- The border counts unless it is off, in whichever mode the tile is. -/
def requestTileSize (self : Tile W) (size : Size) (animate : Bool) : Tile W :=
  let size : Size := if self.border.off then size
    else ⟨max 1 (size.w - self.border.width * 2), max 1 (size.h - self.border.width * 2)⟩
  { self with window := requestSize self.window size.toI32Floor .normal animate }

def requestMaximized (self : Tile W) (size : Size) (animate : Bool) : Tile W :=
  { self with window := requestSize self.window size.toI32Round .maximized animate }

def requestFullscreen (self : Tile W) (animate : Bool) : Tile W :=
  { self with window := requestSize self.window self.viewSize.toI32Round .fullscreen animate }

def tileWidthForWindowWidth (self : Tile W) (size : ℚ) : ℚ :=
  if self.border.off then size else size + self.border.width * 2

def tileHeightForWindowHeight (self : Tile W) (size : ℚ) : ℚ :=
  if self.border.off then size else size + self.border.width * 2

def windowWidthForTileWidth (self : Tile W) (size : ℚ) : ℚ :=
  if self.border.off then size else size - self.border.width * 2

def windowHeightForTileHeight (self : Tile W) (size : ℚ) : ℚ :=
  if self.border.off then size else size - self.border.width * 2

/-! ### The window of an updated tile -/

section Window

variable (self : Tile W) (clock : Clock) (config : AnimationConfig)

@[simp] theorem windowId_new (w : W) (viewSize : Size) (scale : ℚ) (options : Options) :
    (new w viewSize scale options).windowId = LayoutElement.id w := rfl

@[simp] theorem windowId_updateConfig (viewSize : Size) (scale : ℚ) (options : Options) :
    (self.updateConfig viewSize scale options).windowId = self.windowId := rfl

@[simp] theorem windowId_updateWindow : self.updateWindow.windowId = self.windowId := rfl

@[simp] theorem windowId_advanceAnimations :
    (self.advanceAnimations clock).windowId = self.windowId := rfl

@[simp] theorem windowId_animateMoveXFromWithConfig (start : ℚ) :
    (self.animateMoveXFromWithConfig clock start config).windowId = self.windowId := rfl

@[simp] theorem windowId_animateMoveYFromWithConfig (start : ℚ) :
    (self.animateMoveYFromWithConfig clock start config).windowId = self.windowId := rfl

@[simp] theorem windowId_animateMoveFrom (start : Point) :
    (self.animateMoveFrom clock start).windowId = self.windowId := rfl

@[simp] theorem windowId_stopMoveAnimations : self.stopMoveAnimations.windowId = self.windowId :=
  rfl

@[simp] theorem windowId_requestTileSize (size : Size) (animate : Bool) :
    (self.requestTileSize size animate).windowId = self.windowId := by
  simp [requestTileSize, windowId]

@[simp] theorem windowId_requestMaximized (size : Size) (animate : Bool) :
    (self.requestMaximized size animate).windowId = self.windowId := by
  simp [requestMaximized, windowId]

@[simp] theorem windowId_requestFullscreen (animate : Bool) :
    (self.requestFullscreen animate).windowId = self.windowId := by
  simp [requestFullscreen, windowId]

end Window

end Tile

end Sol
