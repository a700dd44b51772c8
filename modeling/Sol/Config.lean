import Sol.Geometry

/-!
# Configuration

The part of the configuration that the layout reads: the layout section with
the overrides that an output or a workspace puts on top of it, the animations,
the drag-and-drop gestures, and the names of outputs.

The curves of animations are transcendental functions; they are data of an
animation's configuration here.
-/

namespace Sol

/-- Time since the epoch, or a span of it, in nanoseconds. -/
abbrev Duration := ℕ

/-- `Duration::as_secs_f64`. -/
def Duration.asSecsF64 (d : Duration) : ℚ := d / 1000000000

/-- A width or height preset. -/
inductive PresetSize
  | proportion (p : ℚ)
  | fixed (f : ℤ)
  deriving DecidableEq, Repr

/-- A requested change of a window's width or height. -/
inductive SizeChange
  | setFixed (f : ℤ)
  | setProportion (p : ℚ)
  | adjustFixed (f : ℤ)
  | adjustProportion (p : ℚ)
  deriving DecidableEq, Repr

def SizeChange.ofPreset : PresetSize → SizeChange
  | .proportion prop => .setProportion (prop * 100)
  | .fixed fixed => .setFixed fixed

/-- A requested change of a window's position. -/
inductive PositionChange
  | setFixed (f : ℚ)
  | setProportion (p : ℚ)
  | adjustFixed (f : ℚ)
  | adjustProportion (p : ℚ)
  deriving DecidableEq, Repr

structure Struts where
  left : ℚ
  right : ℚ
  top : ℚ
  bottom : ℚ
  deriving DecidableEq, Repr

structure Border where
  off : Bool
  width : ℚ
  deriving DecidableEq, Repr

/-- A border as a rule or an override states it. -/
structure BorderRule where
  off : Bool
  on : Bool
  width : Option ℚ
  deriving DecidableEq, Repr

/-- `Border::merge_with`. -/
def Border.mergedWith (self : Border) (part : BorderRule) : Border where
  off := if part.on then false else self.off || part.off
  width := part.width.getD self.width

/-- When the focused column is centered. The tiling layout does not scroll, but
the position of a window that becomes floating depends on it. -/
inductive CenterFocusedColumn
  | never
  | always
  | onOverflow
  deriving DecidableEq, Repr

/-- The layout section. -/
structure LayoutConfig where
  border : Border
  presetColumnWidths : List PresetSize
  defaultColumnWidth : Option PresetSize
  centerFocusedColumn : CenterFocusedColumn
  presetWindowHeights : List PresetSize
  emptyWorkspaceAboveFirst : Bool
  gaps : ℚ
  struts : Struts
  /-- Number of static workspaces per monitor. -/
  workspaceCount : UInt8
  deriving DecidableEq, Repr

/-- `Layout::default`. -/
def LayoutConfig.default : LayoutConfig where
  border := ⟨true, 4⟩
  presetColumnWidths := [.proportion (1 / 3), .proportion (1 / 2), .proportion (2 / 3)]
  defaultColumnWidth := some (.proportion (1 / 2))
  centerFocusedColumn := .never
  presetWindowHeights := [.proportion (1 / 3), .proportion (1 / 2), .proportion (2 / 3)]
  emptyWorkspaceAboveFirst := false
  gaps := 16
  struts := ⟨0, 0, 0, 0⟩
  workspaceCount := 4

/-- The layout section of an output or a workspace. -/
structure LayoutPart where
  border : Option BorderRule
  presetColumnWidths : Option (List PresetSize)
  defaultColumnWidth : Option (Option PresetSize)
  centerFocusedColumn : Option CenterFocusedColumn
  presetWindowHeights : Option (List PresetSize)
  emptyWorkspaceAboveFirst : Option Bool
  gaps : Option ℚ
  struts : Option Struts
  workspaceCount : Option UInt8
  deriving DecidableEq, Repr

/-- `Layout::merge_with`. An override cannot leave a preset list empty. -/
def LayoutConfig.mergeWith (self : LayoutConfig) (part : LayoutPart) : LayoutConfig :=
  let widths := part.presetColumnWidths.getD self.presetColumnWidths
  let heights := part.presetWindowHeights.getD self.presetWindowHeights
  { border := part.border.elim self.border self.border.mergedWith
    presetColumnWidths :=
      if widths.isEmpty then LayoutConfig.default.presetColumnWidths else widths
    defaultColumnWidth := part.defaultColumnWidth.getD self.defaultColumnWidth
    centerFocusedColumn := part.centerFocusedColumn.getD self.centerFocusedColumn
    presetWindowHeights :=
      if heights.isEmpty then LayoutConfig.default.presetWindowHeights else heights
    emptyWorkspaceAboveFirst := part.emptyWorkspaceAboveFirst.getD self.emptyWorkspaceAboveFirst
    gaps := part.gaps.getD self.gaps
    struts := part.struts.getD self.struts
    workspaceCount := part.workspaceCount.getD self.workspaceCount }

/-- There are presets to choose from. -/
structure LayoutConfig.HasPresets (config : LayoutConfig) : Prop where
  widths : config.presetColumnWidths ≠ []
  heights : config.presetWindowHeights ≠ []

theorem LayoutConfig.hasPresets_default : LayoutConfig.default.HasPresets :=
  ⟨by simp [LayoutConfig.default], by simp [LayoutConfig.default]⟩

theorem LayoutConfig.hasPresets_mergeWith (self : LayoutConfig) (part : LayoutPart) :
    (self.mergeWith part).HasPresets := by
  constructor
  · simp only [mergeWith]
    split_ifs with h
    · exact hasPresets_default.widths
    · simpa using h
  · simp only [mergeWith]
    split_ifs with h
    · exact hasPresets_default.heights
    · simpa using h

/-- The oscillation of a spring, for the ends and the initial velocity of an
animation: its duration, the time until it first reaches its end, and its value. -/
structure SpringShape where
  duration : ℚ → ℚ → ℚ → Duration
  clampedDuration : ℚ → ℚ → ℚ → Option Duration
  valueAt : ℚ → ℚ → ℚ → Duration → ℚ

/-- How an animation moves. -/
inductive AnimationKind
  | easing (durationMs : ℕ) (curve : ℚ → ℚ)
  | spring (shape : SpringShape)

structure AnimationConfig where
  off : Bool
  kind : AnimationKind

/-- The animations section. -/
structure Animations where
  workspaceSwitch : AnimationConfig
  windowMovement : AnimationConfig
  tileMovement : AnimationConfig
  overviewOpenClose : AnimationConfig

/-- Scrolling by dragging towards an edge. -/
structure DndEdgeScroll where
  /-- `trigger_width` or `trigger_height`. -/
  trigger : ℚ
  delayMs : ℕ
  maxSpeed : ℚ
  deriving DecidableEq, Repr

structure Gestures where
  dndEdgeViewScroll : DndEdgeScroll
  dndEdgeWorkspaceSwitch : DndEdgeScroll
  deriving DecidableEq, Repr

/-- The options of a layout. -/
structure Options where
  layout : LayoutConfig
  animations : Animations
  gestures : Gestures
  overviewZoom : ℚ
  deactivateUnfocusedWindows : Bool

def Options.withMergedLayout (self : Options) : Option LayoutPart → Options
  | none => self
  | some part => { self with layout := self.layout.mergeWith part }

def Options.adjustedForScale (self : Options) (scale : ℚ) : Options :=
  { self with layout :=
      { self.layout with gaps := roundLogicalInPhysicalMax1 scale self.layout.gaps } }

theorem Options.hasPresets_withMergedLayout {self : Options} (h : self.layout.HasPresets)
    (part : Option LayoutPart) : (self.withMergedLayout part).layout.HasPresets := by
  cases part with
  | none => exact h
  | some part => exact self.layout.hasPresets_mergeWith part

theorem Options.hasPresets_adjustedForScale {self : Options} (h : self.layout.HasPresets)
    (scale : ℚ) : (self.adjustedForScale scale).layout.HasPresets := ⟨h.widths, h.heights⟩

/-- Where a window rule places a floating window. -/
inductive RelativeTo
  | topLeft | topRight | bottomLeft | bottomRight | top | bottom | left | right
  deriving DecidableEq, Repr

structure FloatingPosition where
  x : ℚ
  y : ℚ
  relativeTo : RelativeTo
  deriving DecidableEq, Repr

/-- The resolved window rules that the layout reads. -/
structure WindowRules where
  border : BorderRule
  defaultFloatingPosition : Option FloatingPosition
  deriving DecidableEq, Repr

/-! ### Outputs -/

/-- `eq_ignore_ascii_case`. -/
def eqIgnoreAsciiCase (s t : List Char) : Bool := s.map Char.toLower == t.map Char.toLower

/-- The names of an output. -/
structure OutputName where
  connector : String
  make : Option String
  model : Option String
  serial : Option String
  deriving DecidableEq, Repr

/-- The word `head` and a blank at the front of `target`, up to ASCII case. -/
def stripWord (target head : List Char) : Option (List Char) :=
  if eqIgnoreAsciiCase (target.take head.length) head then
    match target.drop head.length with
    | ' ' :: rest => some rest
    | _ => none
  else none

/-- `OutputName::matches`: by connector, else by make, model and serial. -/
def OutputName.matches (self : OutputName) (target : String) : Bool :=
  if eqIgnoreAsciiCase target.toList self.connector.toList then true
  else if self.make.isNone && self.model.isNone && self.serial.isNone then false
  else
    let make := (self.make.getD "Unknown").toList
    let model := (self.model.getD "Unknown").toList
    let serial := (self.serial.getD "Unknown").toList
    match stripWord target.toList make with
    | none => false
    | some rest =>
      match stripWord rest model with
      | none => false
      | some rest => eqIgnoreAsciiCase rest serial

def OutputName.formatMakeModelSerialOrConnector (self : OutputName) : String :=
  if self.make.isNone && self.model.isNone && self.serial.isNone then self.connector
  else
    self.make.getD "Unknown" ++ " " ++ self.model.getD "Unknown" ++ " " ++
      self.serial.getD "Unknown"

/-- A connected output. Two handles are equal when they are the same output;
its `size` is the logical size of its mode, its `workingArea` what layer
surfaces leave of it. -/
structure Output where
  key : ℕ
  name : OutputName
  scale : ℚ
  size : Size
  workingArea : Rect
  deriving DecidableEq, Repr

end Sol
