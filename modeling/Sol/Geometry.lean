import Mathlib.Tactic
import Mathlib.Algebra.Order.Floor.Ring
import Mathlib.Data.Rat.Floor

/-!
# Logical geometry

Logical coordinates are rationals (the arithmetic of the layout is taken as
exact), sizes sent to windows are integers.  Rounding follows the source:
`round` goes to the nearest integer, halves away from zero.
-/

namespace Sol

/-- A point in logical coordinates. -/
structure Point where
  x : ℚ
  y : ℚ
  deriving DecidableEq, Repr

/-- A size in logical coordinates. -/
structure Size where
  w : ℚ
  h : ℚ
  deriving DecidableEq, Repr

/-- A size in whole logical pixels, as windows are asked for. -/
structure ISize where
  w : ℤ
  h : ℤ
  deriving DecidableEq, Repr

/-- A rectangle in logical coordinates. -/
structure Rect where
  loc : Point
  size : Size
  deriving DecidableEq, Repr

/-- `f64::round`. -/
def roundHalfAway (x : ℚ) : ℤ :=
  if 0 ≤ x then ⌊x + 1 / 2⌋ else ⌈x - 1 / 2⌉

/-- `f64::clamp`; the bounds are ordered wherever the source calls it. -/
def clamp (lo hi x : ℚ) : ℚ := min (max x lo) hi

/-- `i32::clamp`. -/
def clampInt (lo hi x : ℤ) : ℤ := min (max x lo) hi

def roundLogicalInPhysical (scale logical : ℚ) : ℚ := roundHalfAway (logical * scale) / scale

def roundLogicalInPhysicalMax1 (scale logical : ℚ) : ℚ :=
  if logical = 0 then 0 else roundHalfAway (max (logical * scale) 1) / scale

def ensureMinMaxSize (x minSize maxSize : ℤ) : ℤ :=
  let x := if maxSize > 0 then min x maxSize else x
  if minSize > 0 then max x minSize else x

def ensureMinMaxSizeMaybeZero (x minSize maxSize : ℤ) : ℤ :=
  if x ≠ 0 then ensureMinMaxSize x minSize maxSize
  else if minSize > 0 ∧ minSize = maxSize then minSize
  else 0

namespace Point

instance : Add Point := ⟨fun p q => ⟨p.x + q.x, p.y + q.y⟩⟩
instance : Sub Point := ⟨fun p q => ⟨p.x - q.x, p.y - q.y⟩⟩

def zero : Point := ⟨0, 0⟩

/-- `upscale`: both coordinates multiplied. -/
def upscale (p : Point) (k : ℚ) : Point := ⟨p.x * k, p.y * k⟩

/-- `downscale`: both coordinates divided. -/
def downscale (p : Point) (k : ℚ) : Point := ⟨p.x / k, p.y / k⟩

/-- `to_physical_precise_round(scale).to_logical(scale)`. -/
def roundPhysical (p : Point) (scale : ℚ) : Point :=
  ⟨roundHalfAway (p.x * scale) / scale, roundHalfAway (p.y * scale) / scale⟩

/-- `to_physical_precise_ceil(scale).to_logical(scale)`. -/
def ceilPhysical (p : Point) (scale : ℚ) : Point :=
  ⟨⌈p.x * scale⌉ / scale, ⌈p.y * scale⌉ / scale⟩

end Point

namespace Size

def toPoint (s : Size) : Point := ⟨s.w, s.h⟩

/-- `to_i32_floor`. -/
def toI32Floor (s : Size) : ISize := ⟨⌊s.w⌋, ⌊s.h⌋⟩

/-- `to_i32_round`. -/
def toI32Round (s : Size) : ISize := ⟨roundHalfAway s.w, roundHalfAway s.h⟩

/-- `to_physical_precise_round(scale).to_logical(scale)`. -/
def roundPhysical (s : Size) (scale : ℚ) : Size :=
  ⟨roundHalfAway (s.w * scale) / scale, roundHalfAway (s.h * scale) / scale⟩

end Size

/-- `to_physical_precise_ceil(scale).to_logical(scale)`. -/
def Size.ceilPhysical (s : Size) (scale : ℚ) : Size := ⟨⌈s.w * scale⌉ / scale, ⌈s.h * scale⌉ / scale⟩

def ISize.toF64 (s : ISize) : Size := ⟨s.w, s.h⟩

namespace Rect

/-- `Rectangle::from_size`. -/
def fromSize (s : Size) : Rect := ⟨Point.zero, s⟩

/-- `Rectangle::contains`: the far edges are outside. -/
def contains (r : Rect) (p : Point) : Bool :=
  r.loc.x ≤ p.x && r.loc.y ≤ p.y && p.x < r.loc.x + r.size.w && p.y < r.loc.y + r.size.h

/-- `Rectangle::overlaps`; only rectangles that overlap have an intersection. -/
def overlaps (r s : Rect) : Bool :=
  r.loc.x < s.loc.x + s.size.w && s.loc.x < r.loc.x + r.size.w &&
    r.loc.y < s.loc.y + s.size.h && s.loc.y < r.loc.y + r.size.h

end Rect

def clampPreferringTopLeftInArea (area rect : Rect) : Rect :=
  let x := min rect.loc.x (area.loc.x + area.size.w - rect.size.w)
  let y := min rect.loc.y (area.loc.y + area.size.h - rect.size.h)
  -- clamped by the top and the left last, so that they take precedence
  { rect with loc := ⟨max x area.loc.x, max y area.loc.y⟩ }

def centerPreferringTopLeftInArea (area : Rect) (size : Size) : Point :=
  let offset := (area.size.toPoint - size.toPoint).downscale 2
  area.loc + ⟨max offset.x 0, max offset.y 0⟩

end Sol
