import Sol.RegionRects

/-!
# Damage in a region

The rectangles of a region are scaled, moved and cropped, and rounded to physical pixels, and the
damage is intersected with each of them.  What is rounded are the edges and not the sizes, so that
all edges go through one monotone map.  How coordinates are rounded, `from_extremities` and
`intersection` are parameters.

* `image_eq`: the edges of the physical rectangle of a region rectangle;
* `filterDamage_spec`: the rectangles for one damage rectangle.
-/

namespace Sol

/-- A scale for each of the two axes. -/
structure Scale where
  x : ℚ
  y : ℚ
  deriving DecidableEq, Repr

def Point.upscaleBy (self : Point) (scale : Scale) : Point := ⟨self.x * scale.x, self.y * scale.y⟩

def IPoint.toF64 (self : IPoint) : Point := ⟨self.x, self.y⟩

/-- What is taken from another library. -/
structure Rectangles where
  /-- Of a physical coordinate, to a pixel. -/
  round : ℚ → ℤ
  fromExtremities : IPoint → IPoint → IRect
  intersection : IRect → IRect → Option IRect

namespace IRect

variable (r s : IRect)

def right : ℤ := r.loc.x + r.size.w

def bottom : ℤ := r.loc.y + r.size.h

/-- The interiors of the rectangles meet. -/
def Overlaps : Prop :=
  (r.loc.x < s.right ∧ s.loc.x < r.right) ∧ r.loc.y < s.bottom ∧ s.loc.y < r.bottom

instance : Decidable (r.Overlaps s) := inferInstanceAs (Decidable (_ ∧ _))

/-- No pixel is in both. -/
def Disjoint : Prop := ∀ p, ¬(r.Contains p ∧ s.Contains p)

/-- The edges of the rectangle are within those of the other. -/
structure Within : Prop where
  left : s.loc.x ≤ r.loc.x
  right : r.right ≤ s.right
  top : s.loc.y ≤ r.loc.y
  bottom : r.bottom ≤ s.bottom

end IRect

/-! ### The transformed region -/

structure TransformedRegion where
  rects : List IRect
  scale : Scale
  offset : Point
  deriving DecidableEq, Repr

namespace TransformedRegion

variable (lib : Rectangles) (self : TransformedRegion) (crop : Rect) (dst : IRect)

/-- The corners of a rectangle, transformed. -/
def corners (r : IRect) : Point × Point :=
  let a := r.loc.toF64
  let b := r.loc.toF64 + r.size.toF64.toPoint
  (a.upscaleBy self.scale + self.offset, b.upscaleBy self.scale + self.offset)

/-- `iter`. -/
def iter : List (Point × Point) := self.rects.map self.corners

/-- The physical rectangle between two corners, if it is in the crop. -/
def image (corners : Point × Point) : Option IRect :=
  let scale : Scale := ⟨dst.size.w / crop.size.w, dst.size.h / crop.size.h⟩
  let cs := crop.size.toPoint
  -- relative to the destination
  let a := corners.1 - crop.loc
  let b := corners.2 - crop.loc
  let ia : Point := ⟨max a.x 0, max a.y 0⟩
  let ib : Point := ⟨min b.x cs.x, min b.y cs.y⟩
  if ib.x ≤ ia.x ∨ ib.y ≤ ia.y then none
  else
    let ia := ia.upscaleBy scale
    let ib := ib.upscaleBy scale
    some (lib.fromExtremities ⟨lib.round ia.x, lib.round ia.y⟩ ⟨lib.round ib.x, lib.round ib.y⟩)

/-- The damage is intersected with every rectangle, and pushed. -/
def filterDamage (damage filtered : List IRect) : List IRect :=
  self.iter.foldl (fun filtered corners =>
    match image lib crop dst corners with
    | none => filtered
    | some r => filtered ++ damage.filterMap (lib.intersection r)) filtered

end TransformedRegion

/-! ### What is assumed -/

/-- A rounding function: it does not reverse the order, and integers stay. -/
structure IsRounding (round : ℚ → ℤ) : Prop where
  monotone : Monotone round
  integer : ∀ n : ℤ, round n = n

/-- What the other library does: rectangles are made from corners that are in order and not too far
apart, and the intersection of two that overlap is what is in both. -/
structure Rectangles.Lawful (lib : Rectangles) : Prop where
  round : IsRounding lib.round
  fromExtremities : ∀ a b, a.x ≤ b.x → a.y ≤ b.y → FitsI32 (b.x - a.x) → FitsI32 (b.y - a.y) →
    lib.fromExtremities a b = ⟨a, ⟨b.x - a.x, b.y - a.y⟩⟩
  overlaps : ∀ r s t, lib.intersection r s = some t → r.Overlaps s
  horizontal : ∀ r s t, lib.intersection r s = some t →
    t.loc.x = max r.loc.x s.loc.x ∧ t.right = min r.right s.right
  vertical : ∀ r s t, lib.intersection r s = some t →
    t.loc.y = max r.loc.y s.loc.y ∧ t.bottom = min r.bottom s.bottom

/-! ### Edges -/

/-- What an edge is on one axis: moved, cropped, scaled and rounded. -/
def physicalEdge (round : ℚ → ℤ) (scale offset start size : ℚ) (dst x : ℤ) : ℤ :=
  round (max 0 (min (x * scale + offset - start) size) * (dst / size))

section Edges

variable {round : ℚ → ℤ} {scale offset start size : ℚ} {dst : ℤ}

theorem physicalEdge_monotone (hround : IsRounding round) (hscale : 0 < scale) (hsize : 0 < size)
    (hdst : 0 ≤ dst) : Monotone (physicalEdge round scale offset start size dst) := by
  intro x y hxy
  have hcast : (x : ℚ) ≤ y := Int.cast_le.mpr hxy
  have hfactor : (0 : ℚ) ≤ dst / size := div_nonneg (by exact_mod_cast hdst) hsize.le
  refine hround.monotone (mul_le_mul_of_nonneg_right ?_ hfactor)
  gcongr

theorem physicalEdge_nonneg (hround : IsRounding round) (hsize : 0 < size) (hdst : 0 ≤ dst)
    (x : ℤ) : 0 ≤ physicalEdge round scale offset start size dst x := by
  have hfactor : (0 : ℚ) ≤ dst / size := div_nonneg (by exact_mod_cast hdst) hsize.le
  rw [← hround.integer 0]
  exact hround.monotone (by simpa using mul_nonneg (le_max_left _ _) hfactor)

theorem physicalEdge_le (hround : IsRounding round) (hsize : 0 < size) (hdst : 0 ≤ dst) (x : ℤ) :
    physicalEdge round scale offset start size dst x ≤ dst := by
  have hfactor : (0 : ℚ) ≤ dst / size := div_nonneg (by exact_mod_cast hdst) hsize.le
  refine (hround.monotone ?_).trans_eq (hround.integer dst)
  calc max 0 (min (x * scale + offset - start) size) * (dst / size)
      ≤ size * (dst / size) :=
        mul_le_mul_of_nonneg_right (max_le hsize.le (min_le_right _ _)) hfactor
    _ = dst := mul_div_cancel₀ _ hsize.ne'

/-- An edge at the start that is cropped on one side only. -/
theorem max_eq_crop {a b : ℚ} (h : max a 0 < min b size) : max a 0 = max 0 (min a size) := by
  have ha : a < size := (le_max_left a 0).trans_lt (h.trans_le (min_le_right b size))
  rw [min_eq_left ha.le, max_comm]

theorem min_eq_crop {a b : ℚ} (h : max a 0 < min b size) : min b size = max 0 (min b size) :=
  (max_eq_right ((le_max_right a 0).trans h.le)).symm

end Edges

namespace TransformedRegion

variable {lib : Rectangles} {self : TransformedRegion} {crop : Rect} {dst : IRect}

/-- Where the vertical edges go. -/
def edgeX (lib : Rectangles) (self : TransformedRegion) (crop : Rect) (dst : IRect) : ℤ → ℤ :=
  physicalEdge lib.round self.scale.x self.offset.x crop.loc.x crop.size.w dst.size.w

/-- Where the horizontal edges go. -/
def edgeY (lib : Rectangles) (self : TransformedRegion) (crop : Rect) (dst : IRect) : ℤ → ℤ :=
  physicalEdge lib.round self.scale.y self.offset.y crop.loc.y crop.size.h dst.size.h

/-- The scale is positive, and the size of the destination is one of `i32`. -/
structure Fits (region : TransformedRegion) (dst : IRect) : Prop where
  scaleX : 0 < region.scale.x
  scaleY : 0 < region.scale.y
  width : 0 ≤ dst.size.w
  height : 0 ≤ dst.size.h
  widthFits : FitsI32 dst.size.w
  heightFits : FitsI32 dst.size.h

/-- The crop is not empty. -/
def Crops (crop : Rect) : Prop := 0 < crop.size.w ∧ 0 < crop.size.h

theorem edgeX_monotone (hlib : lib.Lawful) (hfits : self.Fits dst) (hcrop : Crops crop) :
    Monotone (edgeX lib self crop dst) :=
  physicalEdge_monotone hlib.round hfits.scaleX hcrop.1 hfits.width

theorem edgeY_monotone (hlib : lib.Lawful) (hfits : self.Fits dst) (hcrop : Crops crop) :
    Monotone (edgeY lib self crop dst) :=
  physicalEdge_monotone hlib.round hfits.scaleY hcrop.2 hfits.height

theorem edgeX_mem (hlib : lib.Lawful) (hfits : self.Fits dst) (hcrop : Crops crop) (x : ℤ) :
    0 ≤ edgeX lib self crop dst x ∧ edgeX lib self crop dst x ≤ dst.size.w :=
  ⟨physicalEdge_nonneg hlib.round hcrop.1 hfits.width x,
    physicalEdge_le hlib.round hcrop.1 hfits.width x⟩

theorem edgeY_mem (hlib : lib.Lawful) (hfits : self.Fits dst) (hcrop : Crops crop) (y : ℤ) :
    0 ≤ edgeY lib self crop dst y ∧ edgeY lib self crop dst y ≤ dst.size.h :=
  ⟨physicalEdge_nonneg hlib.round hcrop.2 hfits.height y,
    physicalEdge_le hlib.round hcrop.2 hfits.height y⟩

/-- The edges of a physical rectangle. -/
structure Imaged (lib : Rectangles) (region : TransformedRegion) (crop : Rect) (dst r i : IRect) :
    Prop where
  crops : Crops crop
  wide : r.loc.x < r.right
  high : r.loc.y < r.bottom
  left : i.loc.x = edgeX lib region crop dst r.loc.x
  right : i.right = edgeX lib region crop dst r.right
  top : i.loc.y = edgeY lib region crop dst r.loc.y
  bottom : i.bottom = edgeY lib region crop dst r.bottom

/-- On one axis: an interval that is left of the crop is empty or outside of it. -/
theorem order_of_crop {scale offset start size : ℚ} {x y : ℤ} (hscale : 0 < scale)
    (h : max (x * scale + offset - start) 0 < min (y * scale + offset - start) size) :
    0 < size ∧ x < y := by
  have hsize : 0 < size := (le_max_right _ _).trans_lt (h.trans_le (min_le_right _ _))
  have hlt : x * scale + offset - start < y * scale + offset - start :=
    (le_max_left _ _).trans_lt (h.trans_le (min_le_left _ _))
  have hmul : (x : ℚ) * scale < y * scale := by linarith
  exact ⟨hsize, by exact_mod_cast lt_of_mul_lt_mul_right hmul hscale.le⟩

theorem image_eq (hlib : lib.Lawful) (hfits : self.Fits dst) {r i : IRect}
    (h : image lib crop dst (self.corners r) = some i) : Imaged lib self crop dst r i := by
  have hx : ((self.corners r).2 - crop.loc).x =
      (r.right : ℚ) * self.scale.x + self.offset.x - crop.loc.x := by
    rw [IRect.right, Int.cast_add]
    rfl
  have hy : ((self.corners r).2 - crop.loc).y =
      (r.bottom : ℚ) * self.scale.y + self.offset.y - crop.loc.y := by
    rw [IRect.bottom, Int.cast_add]
    rfl
  simp only [image, hx, hy] at h
  split_ifs at h with hempty
  rw [not_or, not_le, not_le] at hempty
  obtain ⟨hltx, hlty⟩ := hempty
  change max ((r.loc.x : ℚ) * self.scale.x + self.offset.x - crop.loc.x) 0 <
    min (r.right * self.scale.x + self.offset.x - crop.loc.x) crop.size.w at hltx
  change max ((r.loc.y : ℚ) * self.scale.y + self.offset.y - crop.loc.y) 0 <
    min (r.bottom * self.scale.y + self.offset.y - crop.loc.y) crop.size.h at hlty
  obtain ⟨hw, hwide⟩ := order_of_crop hfits.scaleX hltx
  obtain ⟨hh, hhigh⟩ := order_of_crop hfits.scaleY hlty
  have hleft : lib.round (max ((r.loc.x : ℚ) * self.scale.x + self.offset.x - crop.loc.x) 0 *
      (dst.size.w / crop.size.w)) = edgeX lib self crop dst r.loc.x := by
    rw [max_eq_crop hltx]
    rfl
  have hright : lib.round (min ((r.right : ℚ) * self.scale.x + self.offset.x - crop.loc.x)
      crop.size.w * (dst.size.w / crop.size.w)) = edgeX lib self crop dst r.right := by
    rw [min_eq_crop hltx]
    rfl
  have htop : lib.round (max ((r.loc.y : ℚ) * self.scale.y + self.offset.y - crop.loc.y) 0 *
      (dst.size.h / crop.size.h)) = edgeY lib self crop dst r.loc.y := by
    rw [max_eq_crop hlty]
    rfl
  have hbottom : lib.round (min ((r.bottom : ℚ) * self.scale.y + self.offset.y - crop.loc.y)
      crop.size.h * (dst.size.h / crop.size.h)) = edgeY lib self crop dst r.bottom := by
    rw [min_eq_crop hlty]
    rfl
  have hcorners : i = lib.fromExtremities
      ⟨edgeX lib self crop dst r.loc.x, edgeY lib self crop dst r.loc.y⟩
      ⟨edgeX lib self crop dst r.right, edgeY lib self crop dst r.bottom⟩ := by
    rw [← hleft, ← hright, ← htop, ← hbottom]
    exact (Option.some.inj h).symm
  have hcrop : Crops crop := ⟨hw, hh⟩
  have hmonox : edgeX lib self crop dst r.loc.x ≤ edgeX lib self crop dst r.right :=
    edgeX_monotone hlib hfits hcrop hwide.le
  have hmonoy : edgeY lib self crop dst r.loc.y ≤ edgeY lib self crop dst r.bottom :=
    edgeY_monotone hlib hfits hcrop hhigh.le
  have hfitsx : FitsI32 (edgeX lib self crop dst r.right - edgeX lib self crop dst r.loc.x) := by
    have hfrom := (edgeX_mem hlib hfits hcrop r.loc.x).1
    have hto := (edgeX_mem hlib hfits hcrop r.right).2
    have hdst := hfits.widthFits
    unfold FitsI32 at hdst ⊢
    omega
  have hfitsy : FitsI32 (edgeY lib self crop dst r.bottom - edgeY lib self crop dst r.loc.y) := by
    have hfrom := (edgeY_mem hlib hfits hcrop r.loc.y).1
    have hto := (edgeY_mem hlib hfits hcrop r.bottom).2
    have hdst := hfits.heightFits
    unfold FitsI32 at hdst ⊢
    omega
  rw [hlib.fromExtremities _ _ hmonox hmonoy hfitsx hfitsy] at hcorners
  subst hcorners
  exact ⟨hcrop, hwide, hhigh, rfl, add_sub_cancel _ _, rfl, add_sub_cancel _ _⟩

/-! ### Pieces -/

/-- What of a rectangle is in a damage rectangle. -/
def piece (lib : Rectangles) (self : TransformedRegion) (crop : Rect) (dst d r : IRect) :
    Option IRect :=
  (image lib crop dst (self.corners r)).bind fun i => lib.intersection i d

/-- What is pushed, one rectangle of the region after the other. -/
theorem filterDamage_eq (damage filtered : List IRect) :
    self.filterDamage lib crop dst damage filtered = filtered ++ self.rects.flatMap fun r =>
      damage.filterMap fun d => piece lib self crop dst d r := by
  unfold filterDamage iter
  rw [List.foldl_map]
  generalize self.rects = rects
  induction rects generalizing filtered with
  | nil => simp
  | cons r rects ih =>
    rw [List.foldl_cons, ih, List.flatMap_cons, ← List.append_assoc]
    congr 1
    cases hi : image lib crop dst (self.corners r) with
    | none => simp [piece, hi]
    | some i => simp [piece, hi]

/-- What is pushed for one damage rectangle. -/
theorem filterDamage_singleton (d : IRect) :
    self.filterDamage lib crop dst [d] [] = self.rects.filterMap (piece lib self crop dst d) := by
  rw [filterDamage_eq, List.nil_append, List.filterMap_eq_flatMap_toList]
  refine List.flatMap_congr fun r _ => ?_
  cases hp : piece lib self crop dst d r <;> simp [hp]

/-- The pieces for several damage rectangles are those for each of them. -/
theorem filterDamage_perm (damage filtered : List IRect) :
    (self.filterDamage lib crop dst damage filtered).Perm
      (filtered ++ damage.flatMap fun d => self.filterDamage lib crop dst [d] []) := by
  rw [filterDamage_eq]
  refine List.Perm.append_left _ ?_
  simp only [filterDamage_singleton]
  generalize self.rects = rects
  induction rects with
  | nil => simp
  | cons r rects ih =>
    rw [List.flatMap_cons, List.filterMap_eq_flatMap_toList]
    refine (ih.append_left _).trans ((List.flatMap_append_perm _ _ _).trans ?_)
    refine .of_eq (List.flatMap_congr fun d _ => ?_)
    cases hp : piece lib self crop dst d r <;> simp [hp]

/-- A piece, by its edges. -/
theorem piece_spec (hlib : lib.Lawful) (hfits : self.Fits dst) {d r p : IRect}
    (h : piece lib self crop dst d r = some p) : ∃ i, Imaged lib self crop dst r i ∧
      i.Overlaps d ∧ (p.loc.x = max i.loc.x d.loc.x ∧ p.right = min i.right d.right) ∧
        p.loc.y = max i.loc.y d.loc.y ∧ p.bottom = min i.bottom d.bottom := by
  obtain ⟨i, hi, hp⟩ := Option.bind_eq_some_iff.mp h
  exact ⟨i, image_eq hlib hfits hi, hlib.overlaps i d p hp, hlib.horizontal i d p hp,
    hlib.vertical i d p hp⟩

/-- Rectangles with pixels, but none in common, are beside each other. -/
theorem beside_of_disjoint {r s : IRect} (h : r.Disjoint s) (hr : r.loc.x < r.right ∧ r.loc.y < r.bottom)
    (hs : s.loc.x < s.right ∧ s.loc.y < s.bottom) :
    (r.right ≤ s.loc.x ∨ s.right ≤ r.loc.x) ∨ r.bottom ≤ s.loc.y ∨ s.bottom ≤ r.loc.y := by
  by_contra hbeside
  push Not at hbeside
  have hpixel := h ⟨max r.loc.x s.loc.x, max r.loc.y s.loc.y⟩
  simp only [IRect.Contains] at hpixel
  unfold IRect.right IRect.bottom at *
  omega

theorem disjoint_of_beside {r s : IRect}
    (h : (r.right ≤ s.loc.x ∨ s.right ≤ r.loc.x) ∨ r.bottom ≤ s.loc.y ∨ s.bottom ≤ r.loc.y) :
    r.Disjoint s := by
  intro p hp
  unfold IRect.Contains at hp
  unfold IRect.right IRect.bottom at h
  omega

/-- Pieces of disjoint rectangles are disjoint. -/
theorem disjoint_pieces (hlib : lib.Lawful) (hfits : self.Fits dst) {d r s p q : IRect}
    (hrs : r.Disjoint s) (hp : piece lib self crop dst d r = some p)
    (hq : piece lib self crop dst d s = some q) : p.Disjoint q := by
  obtain ⟨i, hi, -, hpx, hpy⟩ := piece_spec hlib hfits hp
  obtain ⟨j, hj, -, hqx, hqy⟩ := piece_spec hlib hfits hq
  have hx := edgeX_monotone hlib hfits hi.crops
  have hy := edgeY_monotone hlib hfits hi.crops
  refine disjoint_of_beside ?_
  rw [hpx.1, hpx.2, hpy.1, hpy.2, hqx.1, hqx.2, hqy.1, hqy.2]
  rcases beside_of_disjoint hrs ⟨hi.wide, hi.high⟩ ⟨hj.wide, hj.high⟩ with
    (hle | hle) | hle | hle
  · have hij := hx hle
    rw [← hi.right, ← hj.left] at hij
    omega
  · have hij := hx hle
    rw [← hj.right, ← hi.left] at hij
    omega
  · have hij := hy hle
    rw [← hi.bottom, ← hj.top] at hij
    omega
  · have hij := hy hle
    rw [← hj.bottom, ← hi.top] at hij
    omega

/-- A piece is in the destination, whose corner is the origin, and in the damage. -/
theorem within_piece (hlib : lib.Lawful) (hfits : self.Fits dst) {d r p : IRect}
    (hp : piece lib self crop dst d r = some p) :
    p.Within ⟨⟨0, 0⟩, dst.size⟩ ∧ p.Within d := by
  obtain ⟨i, hi, -, hpx, hpy⟩ := piece_spec hlib hfits hp
  have hleft := (edgeX_mem hlib hfits hi.crops r.loc.x).1
  have hright := (edgeX_mem hlib hfits hi.crops r.right).2
  have htop := (edgeY_mem hlib hfits hi.crops r.loc.y).1
  have hbottom := (edgeY_mem hlib hfits hi.crops r.bottom).2
  rw [← hi.left] at hleft
  rw [← hi.right] at hright
  rw [← hi.top] at htop
  rw [← hi.bottom] at hbottom
  have hw : (IRect.mk ⟨0, 0⟩ dst.size).right = dst.size.w := zero_add _
  have hh : (IRect.mk ⟨0, 0⟩ dst.size).bottom = dst.size.h := zero_add _
  refine ⟨⟨?_, ?_, ?_, ?_⟩, by omega, by omega, by omega, by omega⟩
  · change 0 ≤ p.loc.x
    omega
  · rw [hw]
    omega
  · change 0 ≤ p.loc.y
    omega
  · rw [hh]
    omega

/-- Edges of two rectangles that are one are one for two others as well. -/
structure SharesEdges (r s i j : IRect) : Prop where
  beside : r.right = s.loc.x → i.right = j.loc.x
  above : r.bottom = s.loc.y → i.bottom = j.loc.y
  left : r.loc.x = s.loc.x → i.loc.x = j.loc.x
  right : r.right = s.right → i.right = j.right
  top : r.loc.y = s.loc.y → i.loc.y = j.loc.y
  bottom : r.bottom = s.bottom → i.bottom = j.bottom

theorem sharesEdges_image (hlib : lib.Lawful) (hfits : self.Fits dst) {r s i j : IRect}
    (hi : image lib crop dst (self.corners r) = some i)
    (hj : image lib crop dst (self.corners s) = some j) : SharesEdges r s i j := by
  have hi := image_eq hlib hfits hi
  have hj := image_eq hlib hfits hj
  constructor <;> intro heq <;>
    simp only [hi.left, hi.right, hi.top, hi.bottom, hj.left, hj.right, hj.top, hj.bottom, heq]

theorem sharesEdges_piece (hlib : lib.Lawful) (hfits : self.Fits dst) {d r s p q : IRect}
    (hp : piece lib self crop dst d r = some p) (hq : piece lib self crop dst d s = some q) :
    SharesEdges r s p q := by
  obtain ⟨i, hi, hp⟩ := Option.bind_eq_some_iff.mp hp
  obtain ⟨j, hj, hq⟩ := Option.bind_eq_some_iff.mp hq
  have hshares := sharesEdges_image hlib hfits hi hj
  have hoverlaps := hlib.overlaps i d p hp
  have hoverlaps' := hlib.overlaps j d q hq
  unfold IRect.Overlaps at hoverlaps hoverlaps'
  obtain ⟨hpl, hpr⟩ := hlib.horizontal i d p hp
  obtain ⟨hpt, hpb⟩ := hlib.vertical i d p hp
  obtain ⟨hql, hqr⟩ := hlib.horizontal j d q hq
  obtain ⟨hqt, hqb⟩ := hlib.vertical j d q hq
  constructor <;> intro heq
  · have := hshares.beside heq
    omega
  · have := hshares.above heq
    omega
  · rw [hpl, hql, hshares.left heq]
  · rw [hpr, hqr, hshares.right heq]
  · rw [hpt, hqt, hshares.top heq]
  · rw [hpb, hqb, hshares.bottom heq]

/-- **Damage in a region.**  The rectangles for one damage rectangle are disjoint, in the destination
and in the damage, and edges that were shared are shared; for several damage rectangles there are the
rectangles for each of them. -/
theorem filterDamage_spec (hlib : lib.Lawful) (hfits : self.Fits dst)
    (hregion : self.rects.Pairwise IRect.Disjoint) (damage filtered : List IRect) :
    (self.filterDamage lib crop dst damage filtered).Perm
        (filtered ++ damage.flatMap fun d => self.filterDamage lib crop dst [d] []) ∧
      ∀ d, (self.filterDamage lib crop dst [d] []).Pairwise IRect.Disjoint ∧
        (∀ p ∈ self.filterDamage lib crop dst [d] [],
          p.Within ⟨⟨0, 0⟩, dst.size⟩ ∧ p.Within d) ∧
        ∀ r ∈ self.rects, ∀ s ∈ self.rects,
          (∀ i j, image lib crop dst (self.corners r) = some i →
            image lib crop dst (self.corners s) = some j → SharesEdges r s i j) ∧
          ∀ p q, piece lib self crop dst d r = some p → piece lib self crop dst d s = some q →
            p ∈ self.filterDamage lib crop dst [d] [] ∧ q ∈ self.filterDamage lib crop dst [d] [] ∧
              SharesEdges r s p q := by
  refine ⟨filterDamage_perm damage filtered, fun d => ?_⟩
  rw [filterDamage_singleton]
  refine ⟨?_, fun p hp => ?_, fun r hr s hs => ⟨fun i j hi hj => ?_, fun p q hp hq => ⟨?_, ?_, ?_⟩⟩⟩
  · refine List.pairwise_filterMap.mpr (hregion.imp fun {r s} hrs p hp q hq => ?_)
    exact disjoint_pieces hlib hfits hrs hp hq
  · obtain ⟨r, -, hp⟩ := List.mem_filterMap.mp hp
    exact within_piece hlib hfits hp
  · exact sharesEdges_image hlib hfits hi hj
  · exact List.mem_filterMap.mpr ⟨r, hr, hp⟩
  · exact List.mem_filterMap.mpr ⟨s, hs, hq⟩
  · exact sharesEdges_piece hlib hfits hp hq

end TransformedRegion

/-! ### Two rectangles at a fractional scale -/

namespace Sample

/-- Rounded to the nearest pixel. -/
def rectangles : Rectangles where
  round := roundHalfAway
  fromExtremities a b := ⟨a, ⟨b.x - a.x, b.y - a.y⟩⟩
  intersection r s :=
    if r.Overlaps s then
      some ⟨⟨max r.loc.x s.loc.x, max r.loc.y s.loc.y⟩,
        ⟨min r.right s.right - max r.loc.x s.loc.x, min r.bottom s.bottom - max r.loc.y s.loc.y⟩⟩
    else none

theorem isRounding_roundHalfAway : IsRounding roundHalfAway where
  monotone x y hxy := by
    unfold roundHalfAway
    split_ifs with hx hy hy
    · exact Int.floor_mono (by linarith)
    · linarith
    · exact (Int.ceil_le.mpr (by push_cast; linarith : x - 1 / 2 ≤ ((0 : ℤ) : ℚ))).trans
        (Int.floor_nonneg.mpr (by linarith))
    · exact Int.ceil_mono (by linarith)
  integer n := by
    unfold roundHalfAway
    split_ifs
    · rw [Int.floor_eq_iff]
      constructor <;> linarith
    · rw [Int.ceil_eq_iff]
      constructor <;> linarith

theorem rectangles_lawful : rectangles.Lawful where
  round := isRounding_roundHalfAway
  fromExtremities a b _ _ _ _ := rfl
  overlaps r s t h := (Option.ite_none_right_eq_some.mp h).1
  horizontal r s t h := by
    obtain ⟨-, heq⟩ := Option.ite_none_right_eq_some.mp h
    cases heq
    exact ⟨rfl, add_sub_cancel _ _⟩
  vertical r s t h := by
    obtain ⟨-, heq⟩ := Option.ite_none_right_eq_some.mp h
    cases heq
    exact ⟨rfl, add_sub_cancel _ _⟩

/-- Two rectangles side by side. -/
def adjacent : TransformedRegion :=
  ⟨[⟨⟨0, 0⟩, ⟨3, 5⟩⟩, ⟨⟨3, 0⟩, ⟨4, 5⟩⟩], ⟨5 / 4, 5 / 4⟩, ⟨1 / 3, 0⟩⟩

end Sample

/-- They still are, and so is what is damaged of them. -/
example : Sample.adjacent.filterDamage Sample.rectangles ⟨⟨1, 0⟩, ⟨8, 8⟩⟩ ⟨⟨5, 5⟩, ⟨12, 12⟩⟩
    [⟨⟨0, 0⟩, ⟨7, 7⟩⟩, ⟨⟨4, 2⟩, ⟨1, 1⟩⟩] [] =
      [⟨⟨0, 0⟩, ⟨5, 7⟩⟩, ⟨⟨4, 2⟩, ⟨1, 1⟩⟩, ⟨⟨5, 0⟩, ⟨2, 7⟩⟩] := by
  decide +kernel

theorem filterDamage_spec_adjacent :
    (Sample.adjacent.filterDamage Sample.rectangles ⟨⟨1, 0⟩, ⟨8, 8⟩⟩ ⟨⟨5, 5⟩, ⟨12, 12⟩⟩
      [⟨⟨0, 0⟩, ⟨7, 7⟩⟩] []).Pairwise IRect.Disjoint :=
  ((TransformedRegion.filterDamage_spec Sample.rectangles_lawful
    (by constructor <;> decide +kernel)
    (List.pairwise_pair.mpr (TransformedRegion.disjoint_of_beside (.inl (.inl (by decide)))))
    [] []).2 ⟨⟨0, 0⟩, ⟨7, 7⟩⟩).1

end Sol
