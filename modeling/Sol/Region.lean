import Sol.Geometry
import Sol.Vec

/-!
# Regions

A region is a list of rectangles, added and subtracted one after the other.  It is taken
apart into rectangles that do not overlap by a sweep over the bands between the edges,
each of which has its list of spans.  Rectangles are made from their corners by
`from_extremities`, which is not part of the repository: it is a parameter.
-/

namespace Sol

open Panicking

/-- A point in whole logical pixels. -/
structure IPoint where
  x : ℤ
  y : ℤ
  deriving DecidableEq, Repr

/-- A rectangle in whole logical pixels. -/
structure IRect where
  loc : IPoint
  size : ISize
  deriving DecidableEq, Repr

inductive RectangleKind
  | add
  | subtract
  deriving DecidableEq, Repr

structure RegionAttributes where
  rects : List (RectangleKind × IRect)
  deriving DecidableEq, Repr

/-- The values of `i32`. -/
def FitsI32 (a : ℤ) : Prop := -2 ^ 31 ≤ a ∧ a < 2 ^ 31

instance (a : ℤ) : Decidable (FitsI32 a) := inferInstanceAs (Decidable (_ ∧ _))

/-- `a + b`, checked. -/
def checkedAddI32 (a b : ℤ) : Outcome ℤ :=
  if FitsI32 (a + b) then .ok (a + b) else .error .arithmeticOverflow

/-! ### Spans -/

/-- `[start, end)`. -/
abbrev Span := ℤ × ℤ

/-- The loop of an added rectangle over the spans, backwards from below `i`. -/
def addSpan : ℕ → List Span → ℤ → ℤ → Outcome (List Span)
  | 0, spans, x1, x2 => Vec.insert spans 0 (x1, x2)
  | i + 1, spans, x1, x2 => do
    let (start, stop) ← Vec.get spans i
    if stop < x1 then
      -- the new span is to the right
      Vec.insert spans (i + 1) (x1, x2)
    else if x2 < start then
      addSpan i spans x1 x2
    else do
      let (_, spans) ← Vec.remove spans i
      addSpan i spans (min x1 start) (max x2 stop)

/-- The loop of a subtracted rectangle over the spans, backwards from below `i`. -/
def subtractSpan : ℕ → List Span → ℤ → ℤ → Outcome (List Span)
  | 0, spans, _, _ => pure spans
  | i + 1, spans, x1, x2 => do
    let (start, stop) ← Vec.get spans i
    if stop ≤ x1 then
      -- the subtracted span is to the right
      pure spans
    else if x2 ≤ start then
      subtractSpan i spans x1 x2
    else do
      let (_, spans) ← Vec.remove spans i
      let spans ← if x2 < stop then Vec.insert spans i (x2, stop) else pure spans
      let spans ← if start < x1 then Vec.insert spans i (start, x1) else pure spans
      subtractSpan i spans x1 x2

/-! ### Bands -/

/-- One rectangle of the region, on the spans of the band from `lo` to `hi`. -/
def bandStep (lo hi : ℤ) (spans : List Span) (rect : RectangleKind × IRect) :
    Outcome (List Span) :=
  let (kind, r) := rect
  if hi ≤ r.loc.y then pure spans
  else do
    let bottom ← checkedAddI32 r.loc.y r.size.h
    if bottom ≤ lo then pure spans
    else do
      let x1 := r.loc.x
      let x2 ← checkedAddI32 r.loc.x r.size.w
      if x1 = x2 then pure spans
      else
        match kind with
        | .add => addSpan spans.length spans x1 x2
        | .subtract => subtractSpan spans.length spans x1 x2

variable (fromExtremities : IPoint → IPoint → Outcome IRect)

/-- The rectangles of one band after the other, pushed to the output. -/
def sweep (region : RegionAttributes) : ℤ → List ℤ → List IRect → Outcome (List IRect)
  | _, [], output => pure output
  | lo, hi :: ys, output => do
    let spans ← region.rects.foldlM (bandStep lo hi) []
    let rects ← spans.mapM fun (x1, x2) => fromExtremities ⟨x1, lo⟩ ⟨x2, hi⟩
    sweep region hi ys (output ++ rects)

/-- All Y coordinates of the edges, in order. -/
def RegionAttributes.ys (region : RegionAttributes) : Outcome (List ℤ) := do
  let edges ← region.rects.mapM fun (_, r) => do
    let bottom ← checkedAddI32 r.loc.y r.size.h
    pure [r.loc.y, bottom]
  pure (edges.flatten.dedup.insertionSort (· ≤ ·))

def regionToNonOverlappingRects (region : RegionAttributes) : Outcome (List IRect) := do
  let ys ← region.ys
  match ys with
  | [] => pure []
  | lo :: ys => sweep fromExtremities region lo ys []

end Sol
