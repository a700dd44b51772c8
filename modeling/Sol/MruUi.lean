import Sol.WindowMru

/-!
# The switcher between recent windows

The thumbnails that are shown stand in a strip, which a view moves along.  When a window goes, or
the scope or the filter changes, the strip, the view and the thumbnails are moved so that those
that stay do not jump.

What is drawn besides the thumbnails is left out.
-/

namespace Sol.Mru

open Panicking

/-- Windows up to this size don't get scaled further down. -/
def previewMinSize : ℚ := 16

/-- Border width on the selected window preview. -/
def borderWidth : ℚ := 2

/-- Gap between thumbnails. -/
def gapWidth : ℚ := 16

/-- How much of the next window will always peek from the side of the screen. -/
def strut : ℚ := 192

/-- The part of the configuration that the switcher reads. -/
structure MruConfig where
  previews : MruPreviews
  /-- `recent_windows.highlight.padding`. -/
  padding : ℚ
  windowMovement : Motion.Config
  windowOpen : Motion.Config

namespace Thumbnail

noncomputable def renderOffset (self : Thumbnail) (easings : Motion.Easings) (clock : Clock) : ℝ :=
  match self.moveAnimation with
  | some move => move.start * move.anim.value easings clock
  | none => 0

def advanceAnimations (self : Thumbnail) (clock : Clock) : Thumbnail :=
  { self with
    openAnimation := self.openAnimation.filter fun anim => !anim.isDone clock
    moveAnimation := self.moveAnimation.filter fun move => !move.anim.isDone clock }

/-- The animation of a new motion, with the configuration of the one before. -/
noncomputable def nextMove (self : Thumbnail) (clock : Clock) (config : Motion.Config) :
    Outcome Motion.Animation :=
  match self.moveAnimation with
  | some move => move.anim.restarted clock 1 0 0
  | none => Motion.Animation.new clock 1 0 0 config

/-- The motion of a thumbnail from some way off. -/
noncomputable def animateMoveFrom (self : Thumbnail) (easings : Motion.Easings) (clock : Clock)
    (start : ℝ) (config : Motion.Config) : Outcome Thumbnail := do
  let currentOffset := self.renderOffset easings clock
  let anim ← self.nextMove clock config
  .ok { self with moveAnimation := some ⟨anim, start + currentOffset⟩ }

noncomputable def animateOpen (self : Thumbnail) (clock : Clock) (config : Motion.Config) :
    Outcome Thumbnail := do
  let anim ← Motion.Animation.new clock 0 1 0 config
  .ok { self with openAnimation := some anim }

/-- The size of the preview; a mapped window is not empty. -/
def previewSize (self : Thumbnail) (outputSize : Size) (scale : ℚ) : Size :=
  let maxHeight := max 1 self.config.maxHeight
  let maxScale := max (1 / 1000) self.config.maxScale
  let maxHeight := min maxHeight (outputSize.h * maxScale)
  let outputRatio := outputSize.w / outputSize.h
  let maxWidth := maxHeight * outputRatio
  let size := self.size.toF64
  let minScale := min 1 (previewMinSize / max size.w size.h)
  let thumbScale := min (maxWidth / size.w) (maxHeight / size.h)
  let thumbScale := min maxScale thumbScale
  let thumbScale := max minScale thumbScale
  Size.roundPhysical ⟨size.w * thumbScale, size.h * thumbScale⟩ scale

end Thumbnail

/-- The view position, or its animation. -/
inductive ViewPos
  | static (pos : ℝ)
  | animation (anim : Motion.Animation)

namespace ViewPos

noncomputable def current (self : ViewPos) (easings : Motion.Easings) (clock : Clock) : ℝ :=
  match self with
  | static pos => pos
  | animation anim => anim.value easings clock

def target : ViewPos → ℝ
  | static pos => pos
  | animation anim => anim.target

def advanceAnimations (self : ViewPos) (clock : Clock) : ViewPos :=
  match self with
  | static pos => static pos
  | animation anim => if anim.isDone clock then static anim.target else animation anim

noncomputable def animateFrom (self : ViewPos) (easings : Motion.Easings) (clock : Clock)
    (start : ℝ) (config : Motion.Config) : Outcome ViewPos := do
  let anim ← Motion.Animation.new clock (self.current easings clock + start) self.target 0 config
  .ok (animation anim)

noncomputable def offset (self : ViewPos) (delta : ℝ) : ViewPos :=
  match self with
  | static pos => static (pos + delta)
  | animation anim => animation (anim.offset delta)

end ViewPos

open Classical in
/-- The offset of the view from a column that is to be seen in it. -/
noncomputable def computeViewOffset (curX workingWidth newColX newColWidth : ℝ) : ℝ :=
  let newX := newColX
  let newRightX := newColX + newColWidth
  if curX ≤ newX ∧ newRightX ≤ curX + workingWidth then -(newColX - curX)
  else
    -- the alignment that results in less motion
    let distToLeft := |curX - newX|
    let distToRight := |curX + workingWidth - newRightX|
    if distToLeft ≤ distToRight then 0 else -(workingWidth - newColWidth)

/-- An open switcher. -/
structure Inner where
  wmru : WindowMru
  /-- Relative to the leftmost shown thumbnail. -/
  viewPos : ViewPos
  /-- Whether the view is not to follow the selection. -/
  freezeView : Bool
  config : MruConfig
  outputSize : Size
  scale : ℚ

namespace Inner

def round (self : Inner) (logical : ℚ) : ℚ := roundLogicalInPhysical self.scale logical

/-- The gap between two thumbnails, with the padding around both. -/
def gap (self : Inner) : ℚ :=
  let padding := self.round self.config.padding + self.round borderWidth
  padding + self.round gapWidth + padding

def previewSize (self : Inner) (thumbnail : Thumbnail) : Size :=
  thumbnail.previewSize self.outputSize self.scale

/-- The way from a thumbnail to the next one. -/
def pitch (self : Inner) (thumbnail : Thumbnail) : ℚ := (self.previewSize thumbnail).w + self.gap

/-- The thumbnails with their places, from some position on. -/
def placed (self : Inner) (x : ℚ) : List Thumbnail → List (Thumbnail × Rect)
  | [] => []
  | thumbnail :: thumbnails =>
    let size := self.previewSize thumbnail
    let y := self.round ((self.outputSize.h - size.h) / 2)
    (thumbnail, ⟨⟨x, y⟩, size⟩) :: self.placed (x + size.w + self.gap) thumbnails

/-- `thumbnails()`: those that are shown, and their places in the strip. -/
def strip (self : Inner) : List (Thumbnail × Rect) := self.placed 0 self.wmru.shown

def workingX : ℚ := strut + gapWidth

def workingWidth (self : Inner) : ℚ := max (self.outputSize.w - workingX * 2) 0

/-- The place of the selected thumbnail, and how wide the strip is; as soon as there is the one and
the other is more than the working width. -/
def measure (currentId : MappedId) (workingWidth : ℚ) :
    List (Thumbnail × Rect) → Rect → ℚ → Rect × ℚ
  | [], currentGeo, stripWidth => (currentGeo, stripWidth)
  | (thumbnail, geo) :: rest, currentGeo, _ =>
    let currentGeo := if thumbnail.id = currentId then geo else currentGeo
    let stripWidth := geo.loc.x + geo.size.w
    if currentGeo.size.w ≠ 0 ∧ workingWidth < stripWidth then (currentGeo, stripWidth)
    else measure currentId workingWidth rest currentGeo stripWidth

noncomputable def computeViewPos (self : Inner) : ℝ :=
  match self.wmru.currentId with
  | none => 0
  | some currentId =>
    let measured := measure currentId self.workingWidth self.strip ⟨Point.zero, ⟨0, 0⟩⟩ 0
    let currentGeo := measured.1
    let stripWidth := measured.2
    -- a strip that fits is centered
    if stripWidth ≤ self.workingWidth then
      ((-(self.outputSize.w - stripWidth) / 2 : ℚ) : ℝ)
    else
      computeViewOffset (self.viewPos.target + workingX) self.workingWidth currentGeo.loc.x
        currentGeo.size.w + currentGeo.loc.x - workingX

section Ambience

variable (easings : Motion.Easings) (clock : Clock)

/-- Animations that are done are dropped. -/
noncomputable def advanced (self : Inner) : Inner :=
  let thumbnails := self.wmru.thumbnails.map fun t => t.advanceAnimations clock
  { self with
    viewPos := self.viewPos.advanceAnimations clock
    wmru := { self.wmru with thumbnails } }

open Classical in
/-- The view follows the selected thumbnail. -/
noncomputable def follow (self : Inner) : Outcome Inner := do
  let delta := self.computeViewPos - self.viewPos.target
  let pixel : ℝ := 1 / self.scale
  let viewPos ←
    if pixel < |delta| then
      self.viewPos.animateFrom easings clock (-delta) self.config.windowMovement
    else .ok self.viewPos
  .ok { self with viewPos := viewPos.offset delta }

noncomputable def advanceAnimations (self : Inner) : Outcome Inner :=
  let self := self.advanced clock
  if self.freezeView then .ok self else self.follow easings clock

/-- Moves the shown thumbnails up to one, in place. -/
noncomputable def moveShownUntil (self : Inner) (id : MappedId) (start : ℝ) :
    List Thumbnail → Outcome (List Thumbnail)
  | [] => .ok []
  | thumbnail :: thumbnails =>
    if shows self.wmru.scope self.wmru.appIdFilter thumbnail = true then
      if thumbnail.id = id then .ok (thumbnail :: thumbnails)
      else do
        let thumbnail ←
          thumbnail.animateMoveFrom easings clock start self.config.windowMovement
        let thumbnails ← self.moveShownUntil id start thumbnails
        .ok (thumbnail :: thumbnails)
    else do
      let thumbnails ← self.moveShownUntil id start thumbnails
      .ok (thumbnail :: thumbnails)

/-- What is moved when a window goes that is not the last one shown. -/
noncomputable def makeUpFor (self : Inner) (id : MappedId) (thumbnail : Thumbnail) :
    Outcome Inner := do
  let delta : ℝ := self.pitch thumbnail
  -- to the left of the selected one, or not
  if (self.wmru.thumbnailLeftOfCurrent id).isSome then
    let thumbnails ← self.moveShownUntil easings clock id (-delta) self.wmru.thumbnails
    .ok { self with
      viewPos := self.viewPos.offset (-delta)
      wmru := { self.wmru with thumbnails } }
  else
    let thumbnails ← self.moveShownUntil easings clock id delta self.wmru.thumbnails.reverse
    .ok { self with wmru := { self.wmru with thumbnails := thumbnails.reverse } }

noncomputable def removeWindow (self : Inner) (id : MappedId) : Outcome Inner :=
  match self.wmru.idxOf id with
  | none => .ok self
  | some idx =>
    match self.wmru.thumbnails[idx]? with
    | none => .error .indexOutOfBounds
    | some thumbnail => do
      let removingLastVisible := self.wmru.shown.getLast?.any fun t => t.id = id
      let self ← if removingLastVisible then .ok self else self.makeUpFor easings clock id thumbnail
      let (_, wmru) ← self.wmru.removeByIdx idx
      .ok { self with wmru }

/-- Moves the thumbnails along a direction that stay shown, by what has come and gone before them;
and how much that is in all. -/
noncomputable def moveStaying (self : Inner) (direction : ℝ)
    (matchesOld matchesNew : Thumbnail → Bool) : ℝ → List Thumbnail → Outcome (ℝ × List Thumbnail)
  | delta, [] => .ok (delta, [])
  | delta, thumbnail :: thumbnails =>
    match matchesOld thumbnail, matchesNew thumbnail with
    | true, true => do
      let moved ← thumbnail.animateMoveFrom easings clock (direction * delta)
        self.config.windowMovement
      let (delta, rest) ← self.moveStaying direction matchesOld matchesNew delta thumbnails
      .ok (delta, moved :: rest)
    | true, false => do
      let (delta, rest) ←
        self.moveStaying direction matchesOld matchesNew (delta + self.pitch thumbnail) thumbnails
      .ok (delta, thumbnail :: rest)
    | false, true => do
      let (delta, rest) ←
        self.moveStaying direction matchesOld matchesNew (delta - self.pitch thumbnail) thumbnails
      .ok (delta, thumbnail :: rest)
    | false, false => do
      let (delta, rest) ← self.moveStaying direction matchesOld matchesNew delta thumbnails
      .ok (delta, thumbnail :: rest)

/-- A thumbnail that has appeared opens. -/
noncomputable def openAppeared (self : Inner) (matchesOld matchesNew : Thumbnail → Bool)
    (thumbnail : Thumbnail) : Outcome Thumbnail :=
  if matchesNew thumbnail = true ∧ matchesOld thumbnail = false then
    thumbnail.animateOpen clock self.config.windowOpen
  else .ok thumbnail

noncomputable def animateScopeFilterChange (self : Inner) (wasEmpty : Bool) (oldScope : MruScope)
    (oldFilter : Option (Option String)) : Outcome Inner :=
  match self.wmru.currentId with
  -- all windows have disappeared
  | none => .ok self
  | some id => do
    let idx ← unwrap (self.wmru.idxOf id)
    let oldFilter := oldFilter.getD self.wmru.appIdFilter
    let matchesOld := shows oldScope oldFilter
    let matchesNew := shows self.wmru.scope self.wmru.appIdFilter
    let thumbnails ←
      self.wmru.thumbnails.mapM (self.openAppeared clock matchesOld matchesNew)
    let self := { self with wmru := { self.wmru with thumbnails } }
    if wasEmpty then .ok { self with viewPos := .static self.computeViewPos }
    else
      let (_, right) ←
        self.moveStaying easings clock 1 matchesOld matchesNew 0 (thumbnails.drop (idx + 1))
      let (delta, left) ←
        self.moveStaying easings clock (-1) matchesOld matchesNew 0 (thumbnails.take idx).reverse
      .ok { self with
        viewPos := self.viewPos.offset (-delta)
        wmru := { self.wmru with
          thumbnails := left.reverse ++ (thumbnails.drop idx).take 1 ++ right } }

noncomputable def setScope (self : Inner) (scope : MruScope) : Outcome Inner := do
  let wasEmpty := self.wmru.currentId.isNone
  let (oldScope, wmru) ← self.wmru.setScope scope
  let self := { self with wmru }
  match oldScope with
  | none => .ok self
  | some oldScope => self.animateScopeFilterChange easings clock wasEmpty oldScope none

noncomputable def setFilter (self : Inner) (filter : MruFilter) : Outcome Inner := do
  let wasEmpty := self.wmru.currentId.isNone
  let (oldFilter, wmru) ← self.wmru.setFilter filter
  let self := { self with wmru }
  match oldFilter with
  | none => .ok self
  | some oldFilter =>
    self.animateScopeFilterChange easings clock wasEmpty self.wmru.scope (some oldFilter)

end Ambience

/-- A window has got another size. -/
noncomputable def updateWindow (self : Inner) (id : MappedId) (size : ISize) : Inner :=
  match self.wmru.idxOf id with
  | none => self
  | some idx =>
    let left := self.wmru.thumbnailLeftOfCurrent id
    let updated := self.wmru.thumbnails.modify idx fun t => { t with size }
    let self' := { self with wmru := { self.wmru with thumbnails := updated } }
    match left with
    | none => self'
    | some prev =>
      let delta := (self.previewSize { prev with size }).w - (self.previewSize prev).w
      { self' with viewPos := self'.viewPos.offset (delta : ℚ) }

def updateConfig (self : Inner) (config : MruConfig) : Inner :=
  let thumbnails := self.wmru.thumbnails.map fun t => { t with config := config.previews }
  { self with freezeView := false, config, wmru := { self.wmru with thumbnails } }

/-- The switcher when it opens. -/
noncomputable def opened (wmru : WindowMru) (config : MruConfig) (outputSize : Size) (scale : ℚ) :
    Inner :=
  let inner : Inner := ⟨wmru, .static 0, false, config, outputSize, scale⟩
  { inner with viewPos := .static inner.computeViewPos }

end Inner

end Sol.Mru
