import Sol.Requests
import Sol.SlotRects
import Mathlib.Algebra.Order.Floor.Ring

/-!
# The size of a new window

Before it is mapped, a window is told the size of the slot that it is expected to land in.
Once it is there, it is asked for the size of its slot.  The prediction is a computation of its
own, in which neither the gaps nor the border occur.

* `requestedOnAdd_eq`: what an added window is asked for;
* `newWindowSize_eq_iff`: exactly when that is what was predicted.
-/

namespace Sol

open LayoutElement

variable {W Id : Type} [LayoutElement W Id]

namespace ScrollingSpace

/-- The size of the slot that the next window lands in: all of the working area for the first
one, else a part of what the master leaves. -/
def newWindowSize (self : ScrollingSpace W) : ISize :=
  let work := self.workingArea
  let (w, h) :=
    if self.master.isNone then (work.size.w, work.size.h)
    else
      let newStackCount := self.stack.length + 1
      (work.size.w * (1 - self.masterRatio), work.size.h / (newStackCount : ℕ))
  Size.toI32Floor ⟨max w 1, max h 1⟩

open TellsLastSize (requestedSize)

/-- The size that a window is asked for when its column is added. -/
def requestedOnAdd [TellsLastSize W] (s : ScrollingSpace W) (column : Column W) (activate : Bool) :
    Option ISize :=
  (s.addColumn column activate).columns.getLast?.bind fun col => requestedSize col.tile.window

/-- The border of an added tile. -/
def newBorder (s : ScrollingSpace W) (column : Column W) : Border :=
  (column.tile.updateConfig s.viewSize s.scale s.options).border

end ScrollingSpace

/-- What the border takes on one side. -/
def Border.shown (self : Border) : ℚ := if self.off then 0 else self.width

/-- The size within the border that a tile of a size asks its window for. -/
def Border.within (self : Border) (size : Size) : Size :=
  if self.off then size else ⟨max 1 (size.w - self.width * 2), max 1 (size.h - self.width * 2)⟩

namespace ScrollingSpace

/-! ### The slot of an added window -/

/-- The size of the last slot once a column has been added. -/
def newSlot (s : ScrollingSpace W) : Size :=
  if s.master.isNone then ⟨max (s.workingArea.size.w - 2 * s.options.layout.gaps) 1, s.slotHeight⟩
  else ⟨s.stackWidth,
    max (s.slotHeight - s.stack.length * s.options.layout.gaps) 1 / (s.stack.length + 1)⟩

variable {s : ScrollingSpace W}

theorem fillSlots_concat {sizes : List Size} {cols : List (Column W)}
    (h : sizes.length = cols.length) (size : Size) (col : Column W) :
    fillSlots (sizes ++ [size]) (cols ++ [col]) = fillSlots sizes cols ++ [col.fillSlot size] := by
  induction cols generalizing sizes with
  | nil =>
    rw [List.length_nil, List.length_eq_zero_iff] at h
    rw [h]
    rfl
  | cons c cols ih =>
    obtain ⟨z, zs, rfl⟩ := List.exists_cons_of_length_eq_add_one h
    have hzs : zs.length = cols.length := by simpa using h
    have hrest := ih hzs
    simpa [fillSlots] using hrest

/-- The last slot is that of the new column. -/
theorem getLast?_sizes (h : s.WellFormed) (f : Column W → Column W) (col : Column W)
    (activate : Bool) :
    (((s.mapColumns f).placeColumn col activate).columnLayout.map (·.2.2)).getLast? =
      some s.newSlot := by
  rcases h.cases with ⟨hm, hs, -⟩ | ⟨m, hm, -⟩
  · simp [placeColumn, mapColumns, hm, hs, columnLayout, newSlot, slotHeight]
  · simp [placeColumn, mapColumns, hm, columnLayout, newSlot, stackWidth, sharedWidth, masterWidth,
      slotHeight, List.range_succ, List.getLast?_cons]

theorem endTakeover_wellFormed (h : s.WellFormed) (size : Size) :
    (s.mapColumns fun col => col.endTakeover size).WellFormed :=
  h.congr (slots_endTakeovers (s := s) size).symm

theorem requestedOnAdd_eq [TellsLastSize W] (h : s.WellFormed) {column : Column W}
    (hnormal : column.takesOver = false) (activate : Bool) :
    s.requestedOnAdd column activate = some ((s.newBorder column).within s.newSlot).toI32Floor := by
  have hwf := endTakeover_wellFormed h s.workingArea.size
  let col := column.updateConfig s.viewSize s.workingArea s.parentArea s.scale s.options
  let placed := (s.mapColumns fun col => col.endTakeover s.workingArea.size).placeColumn col activate
  have hcols : placed.columns = _ ++ [col] := columns_placeColumn hwf col activate
  obtain ⟨sizes, hsizes⟩ := List.getLast?_eq_some_iff.mp (getLast?_sizes h
    (fun col => col.endTakeover s.workingArea.size) col activate)
  have hlen := length_columnLayout (placeColumn_spec hwf col activate).1
  rw [← List.length_map (·.2.2), hsizes, hcols, List.length_append, List.length_append] at hlen
  have hadded : (s.addColumn column activate).columns.getLast? = some (col.fillSlot s.newSlot) := by
    change placed.updateTileSizes.columns.getLast? = _
    rw [columns_updateTileSizes, hsizes, hcols, fillSlots_concat (Nat.add_right_cancel hlen),
      List.getLast?_concat]
  have hfill : col.fillSlot s.newSlot =
      { col with tile := col.tile.requestTileSize s.newSlot false } := if_neg (by
    simpa [col, Column.updateConfig, Column.takesOver] using hnormal)
  rw [requestedOnAdd, hadded, Option.bind_some, hfill]
  exact TellsLastSize.requestSize _ _ _ _

end ScrollingSpace

/-! ### Fractions of a pixel -/

/-- A loss that a predicted extent can bear: it is no more than the fraction that is cut off
anyway, unless there is but one pixel. -/
def Bears (p loss : ℚ) : Prop := p < 2 ∨ loss ≤ Int.fract p

section Floor

variable {p q x border : ℚ}

theorem floor_max_one (hp : p < 2) : ⌊max p 1⌋ = 1 := by
  rw [Int.floor_eq_iff, Int.cast_one]
  exact ⟨le_max_right _ _, max_lt (by linarith) (by norm_num)⟩

theorem floor_eq_iff_of_lt_two (hp : p < 2) (hq : q ≤ max p 1) : ⌊max p 1⌋ = ⌊q⌋ ↔ 1 ≤ q := by
  have hlt : q < 2 := hq.trans_lt (max_lt hp one_lt_two)
  rw [floor_max_one hp, eq_comm, Int.floor_eq_iff, Int.cast_one]
  exact ⟨And.left, fun h => ⟨h, by linarith⟩⟩

theorem floor_eq_iff_of_two_le (hp : 2 ≤ p) (hq : q ≤ max p 1) :
    ⌊max p 1⌋ = ⌊q⌋ ↔ (⌊p⌋ : ℚ) ≤ q := by
  rw [max_eq_left (by linarith)] at hq ⊢
  constructor
  · intro heq
    rw [heq]
    exact Int.floor_le q
  · intro hle
    exact le_antisymm (Int.le_floor.mpr hle) (Int.floor_le_floor hq)

theorem two_le_floor (hp : 2 ≤ p) : (2 : ℚ) ≤ ⌊p⌋ := by
  exact_mod_cast Int.le_floor.mpr (show ((2 : ℤ) : ℚ) ≤ p by exact_mod_cast hp)

/-- An extent that is clamped after the border is taken off. -/
theorem floor_eq_clamped_iff (hx : x ≤ max p 1) (hborder : 0 ≤ border) :
    ⌊max p 1⌋ = ⌊max 1 (x - 2 * border)⌋ ↔ p < 2 ∨ (⌊p⌋ : ℚ) ≤ x - 2 * border := by
  have hq : max 1 (x - 2 * border) ≤ max p 1 := max_le (le_max_right _ _) (by linarith)
  rcases lt_or_ge p 2 with hp | hp
  · rw [floor_eq_iff_of_lt_two hp hq]
    exact iff_of_true (le_max_left _ _) (.inl hp)
  · have hfloor := two_le_floor hp
    rw [floor_eq_iff_of_two_le hp hq, le_max_iff, or_iff_right (by linarith),
      or_iff_right (by linarith)]

/-- An extent with a gap on either side. -/
theorem bears_between {g : ℚ} (hg : 0 ≤ g) (hborder : 0 ≤ border) :
    ⌊max p 1⌋ = ⌊max 1 (max (p - 2 * g) 1 - 2 * border)⌋ ↔ Bears p (2 * g + 2 * border) := by
  rw [floor_eq_clamped_iff (max_le_max_right 1 (by linarith)) hborder, Bears]
  refine or_congr_right' fun hp => ?_
  have hfloor := two_le_floor (not_lt.mp hp)
  rw [le_sub_iff_add_le, le_max_iff, or_iff_left (by linarith), Int.fract]
  constructor <;> intro h <;> linarith

/-- The extent beside the master. -/
theorem bears_beside {w g ratio : ℚ} (hg : 0 ≤ g) (hborder : 0 ≤ border) (hratio : 0 < ratio)
    (hratio' : ratio < 1) :
    ⌊max (w * (1 - ratio)) 1⌋ = ⌊max 1 (max (max (w - 3 * g) 1 - max (max (w - 3 * g) 1 * ratio) 1) 1
        - 2 * border)⌋ ↔
      Bears (w * (1 - ratio)) (max (3 * g * (1 - ratio)) (3 * g + 1 - w * ratio) + 2 * border) := by
  have hx : max (max (w - 3 * g) 1 - max (max (w - 3 * g) 1 * ratio) 1) 1 ≤
      max (w * (1 - ratio)) 1 := by
    refine max_le ?_ (le_max_right _ _)
    rcases le_total 1 (w - 3 * g) with hw | hw
    · rw [max_eq_left hw]
      have hmaster := le_max_left ((w - 3 * g) * ratio) 1
      refine le_max_of_le_left ?_
      nlinarith
    · rw [max_eq_right hw, one_mul, max_eq_right hratio'.le]
      exact le_max_of_le_right (by norm_num)
  rw [floor_eq_clamped_iff hx hborder, Bears]
  refine or_congr_right' fun hp => ?_
  have hfloor := two_le_floor (not_lt.mp hp)
  rw [le_sub_iff_add_le, le_max_iff, or_iff_left (by linarith), ← le_sub_iff_add_le, Int.fract]
  have hmaster := le_max_left (max (w - 3 * g) 1 * ratio) 1
  have hpixel := le_max_right (max (w - 3 * g) 1 * ratio) 1
  constructor
  · intro h
    have hw : 1 ≤ w - 3 * g := by
      by_contra hw
      rw [max_eq_right (not_le.mp hw).le] at h hpixel
      linarith
    rw [max_eq_left hw] at h hmaster hpixel
    rw [← le_sub_iff_add_le]
    exact max_le (by linarith) (by linarith)
  · intro h
    have hgaps := le_max_left (3 * g * (1 - ratio)) (3 * g + 1 - w * ratio)
    have hone := le_max_right (3 * g * (1 - ratio)) (3 * g + 1 - w * ratio)
    have hw : 1 ≤ w - 3 * g := by linarith
    rw [max_eq_left hw]
    have hle : max ((w - 3 * g) * ratio) 1 ≤ w - 3 * g - 2 * border - ⌊w * (1 - ratio)⌋ :=
      max_le (by linarith) (by linarith)
    linarith

section Rows

variable {h g : ℚ} {n : ℕ}

theorem row_le (hg : 0 ≤ g) :
    max (max (h - 2 * g) 1 - n * g) 1 / (n + 1) ≤ max (h / (n + 1)) 1 := by
  have hn : (0 : ℚ) < n + 1 := by positivity
  have hgaps : 0 ≤ n * g := mul_nonneg (Nat.cast_nonneg n) hg
  have hle : max (max (h - 2 * g) 1 - n * g) 1 ≤ max h 1 := by
    refine max_le ?_ (le_max_right _ _)
    have : max (h - 2 * g) 1 ≤ max h 1 := max_le_max_right 1 (by linarith)
    linarith
  refine (div_le_div_of_nonneg_right hle hn.le).trans ?_
  rw [← max_div_div_right hn.le]
  exact max_le_max_left _ ((div_le_one hn).mpr (by linarith [Nat.cast_nonneg (α := ℚ) n]))

theorem floor_le_row_iff (hg : 0 ≤ g) (hborder : 0 ≤ border) (hp : 2 ≤ h / (n + 1)) :
    (⌊h / (n + 1)⌋ : ℚ) ≤ max (max (h - 2 * g) 1 - n * g) 1 / (n + 1) - 2 * border ↔
      (n + 2) * g / (n + 1) + 2 * border ≤ Int.fract (h / (n + 1)) := by
  have hn : (0 : ℚ) < n + 1 := by positivity
  have hnat : (0 : ℚ) ≤ n := Nat.cast_nonneg n
  have hgaps : 0 ≤ n * g := mul_nonneg hnat hg
  have hfloor := two_le_floor hp
  have hrows : (1 : ℚ) < (⌊h / (n + 1)⌋ + 2 * border) * (n + 1) := by nlinarith
  have hh : h / (n + 1) * (n + 1) = h := div_mul_cancel₀ h hn.ne'
  have hloss : (n + 2) * g / (n + 1) * (n + 1) = (n + 2) * g := div_mul_cancel₀ _ hn.ne'
  rw [le_sub_iff_add_le, le_div_iff₀ hn, le_max_iff, or_iff_left (not_le.mpr hrows),
    le_sub_iff_add_le, le_max_iff, or_iff_left (by linarith), Int.fract]
  have hscale := mul_le_mul_iff_of_pos_right (b := (n + 2) * g / (n + 1) + 2 * border)
    (c := h / (n + 1) - ⌊h / (n + 1)⌋) hn
  rw [← hscale, sub_mul, hh, add_mul ((n + 2) * g / (n + 1)), hloss]
  constructor <;> intro hle <;> linarith

/-- One of `n + 1` rows, within its border. -/
theorem bears_row (hg : 0 ≤ g) (hborder : 0 ≤ border) :
    ⌊max (h / (n + 1)) 1⌋ =
        ⌊max 1 (max (max (h - 2 * g) 1 - n * g) 1 / (n + 1) - 2 * border)⌋ ↔
      Bears (h / (n + 1)) ((n + 2) * g / (n + 1) + 2 * border) := by
  rw [floor_eq_clamped_iff (row_le hg) hborder, Bears]
  exact or_congr_right' fun hp => floor_le_row_iff hg hborder (not_lt.mp hp)

/-- Without a border, a row may be lower than one pixel. -/
theorem bears_row_bare (hg : 0 ≤ g) :
    ⌊max (h / (n + 1)) 1⌋ = ⌊max (max (h - 2 * g) 1 - n * g) 1 / (n + 1)⌋ ↔
      Bears (h / (n + 1)) ((n + 2) * g / (n + 1)) ∧
        (h / (n + 1) < 2 → n = 0 ∨ (n + 2) * g + (n + 1) ≤ h) := by
  have hn : (0 : ℚ) < n + 1 := by positivity
  rcases lt_or_ge (h / (n + 1)) 2 with hp | hp
  · rw [floor_eq_iff_of_lt_two hp (row_le hg), le_div_iff₀ hn, one_mul, Bears,
      and_iff_right (.inl hp)]
    simp only [hp, true_imp_iff]
    by_cases h0 : n = 0
    · simp [h0]
    · have hone : (1 : ℚ) ≤ n := by exact_mod_cast Nat.one_le_iff_ne_zero.mpr h0
      have hgaps : 0 ≤ n * g := mul_nonneg (by linarith) hg
      rw [or_iff_right h0, le_max_iff, or_iff_left (by linarith), le_sub_iff_add_le, le_max_iff,
        or_iff_left (by linarith)]
      constructor <;> intro hle <;> linarith
  · have hiff := floor_le_row_iff hg (le_refl (0 : ℚ)) hp
    rw [mul_zero, sub_zero, add_zero] at hiff
    rw [floor_eq_iff_of_two_le hp (row_le hg), hiff, Bears]
    have hnot := not_lt.mpr hp
    tauto

end Rows

end Floor

namespace ScrollingSpace

variable {s : ScrollingSpace W}

/-! ### Prediction and request -/

/-- The prediction can do without the gaps and the border. -/
def Predicts (s : ScrollingSpace W) (border : Border) : Prop :=
  let w := s.workingArea.size.w
  let h := s.workingArea.size.h
  let g := s.options.layout.gaps
  let n := s.stack.length
  if s.master.isNone then
    Bears w (2 * g + 2 * border.shown) ∧ Bears h (2 * g + 2 * border.shown)
  else
    Bears (w * (1 - s.masterRatio)) (max (3 * g * (1 - s.masterRatio)) (3 * g + 1 - w * s.masterRatio) +
      2 * border.shown) ∧
    Bears (h / (n + 1)) ((n + 2) * g / (n + 1) + 2 * border.shown) ∧
    (border.off = true → h / (n + 1) < 2 → n = 0 ∨ (n + 2) * g + (n + 1) ≤ h)

instance (p loss : ℚ) : Decidable (Bears p loss) := inferInstanceAs (Decidable (_ ∨ _))

instance (border : Border) : Decidable (s.Predicts border) := by
  unfold Predicts
  infer_instance

theorem within_toI32Floor (border : Border) {size : Size} (hw : 1 ≤ size.w) :
    (border.within size).toI32Floor = ⟨⌊max 1 (size.w - 2 * border.shown)⌋,
      if border.off then ⌊size.h⌋ else ⌊max 1 (size.h - 2 * border.shown)⌋⟩ := by
  unfold Border.within Border.shown Size.toI32Floor
  cases border.off <;> simp [hw, mul_comm]

theorem requestedOnAdd_iff_predicts [TellsLastSize W] (h : s.WellFormed) {column : Column W}
    (hnormal : column.takesOver = false) (activate : Bool) (hgaps : 0 ≤ s.options.layout.gaps)
    (hborder : 0 ≤ (s.newBorder column).width) :
    s.requestedOnAdd column activate = some s.newWindowSize ↔ s.Predicts (s.newBorder column) := by
  have hshown : 0 ≤ (s.newBorder column).shown := by
    unfold Border.shown
    split_ifs <;> simp [hborder]
  rw [requestedOnAdd_eq h hnormal, Option.some.injEq, eq_comm]
  generalize s.newBorder column = border at hshown ⊢
  have hn : ((s.stack.length + 1 : ℕ) : ℚ) = s.stack.length + 1 := by push_cast; rfl
  cases hm : s.master with
  | none =>
    have hslot : s.newSlot = ⟨max (s.workingArea.size.w - 2 * s.options.layout.gaps) 1,
        max (s.workingArea.size.h - 2 * s.options.layout.gaps) 1⟩ := by
      rw [newSlot, hm]
      rfl
    have hheight : (if border.off then ⌊s.newSlot.h⌋ else ⌊max 1 (s.newSlot.h - 2 * border.shown)⌋) =
        ⌊max 1 (s.newSlot.h - 2 * border.shown)⌋ := by
      rw [hslot]
      cases hoff : border.off <;> simp [Border.shown, hoff]
    rw [within_toI32Floor _ (by rw [hslot]; exact le_max_right _ _), hheight, hslot, Predicts,
      if_pos (by rw [hm]; rfl), ← bears_between hgaps hshown, ← bears_between hgaps hshown]
    simp [newWindowSize, hm, Size.toI32Floor]
  | some m =>
    have hsome : ¬s.master.isNone = true := by simp [hm]
    obtain ⟨hratio, hratio'⟩ := h.ratio_mem
    have hslot : s.newSlot = ⟨s.stackWidth, max (s.slotHeight -
        s.stack.length * s.options.layout.gaps) 1 / (s.stack.length + 1)⟩ := by
      rw [newSlot, hm]
      rfl
    have hwidth := bears_beside (w := s.workingArea.size.w) hgaps hshown
      (show 0 < s.masterRatio by linarith) (by linarith)
    rw [within_toI32Floor _ (by rw [hslot]; exact le_max_right _ _), hslot, Predicts,
      if_neg hsome, ← hwidth]
    simp only [newWindowSize, hm, Option.isNone_some, Bool.false_eq_true, if_false,
      Size.toI32Floor, ISize.mk.injEq, hn]
    refine and_congr Iff.rfl ?_
    cases hoff : border.off with
    | false =>
      rw [if_neg (by decide), ← bears_row hgaps hshown]
      simp [slotHeight]
    | true =>
      have hbare : border.shown = 0 := by simp [Border.shown, hoff]
      have hrow := bears_row_bare (h := s.workingArea.size.h) (n := s.stack.length) hgaps
      rw [if_pos rfl, hbare, mul_zero, add_zero]
      simpa [slotHeight] using hrow

variable [DecidableEq Id]

/-- **The prediction.**  A normal column that is added to a reachable space is asked for the
predicted size exactly if what the gaps and the border take is no more than the fractions of a
pixel that are cut off anyway. -/
theorem newWindowSize_eq_iff [TellsLastSize W] (h : Reachable s) {column : Column W}
    (hnormal : column.takesOver = false) (activate : Bool) (hgaps : 0 ≤ s.options.layout.gaps)
    (hborder : 0 ≤ (s.newBorder column).width) :
    s.requestedOnAdd column activate = some s.newWindowSize ↔ s.Predicts (s.newBorder column) :=
  requestedOnAdd_iff_predicts h.wellFormed hnormal activate hgaps hborder

end ScrollingSpace

namespace Sample

/-- The column that a window opens in. -/
def column (n : ℕ) : Column Toplevel :=
  Column.newWithTile (tile n) ⟨1920, 1080⟩ ⟨⟨0, 0⟩, ⟨1920, 1080⟩⟩ ⟨⟨0, 0⟩, ⟨1920, 1080⟩⟩ 1
    (.proportion (1 / 2)) false

/-- The options without gaps. -/
def gaplessOptions : Options := { options with layout := { options.layout with gaps := 0 } }

end Sample

namespace ScrollingSpace

/-- The first window of an output of 1920 by 1080 is told the size of the output, and then asked
for one that leaves a gap on every side. -/
theorem newWindowSize_ne : ∃ s : ScrollingSpace Sample.Toplevel, Reachable s ∧ s.takeover = none ∧
    (Sample.column 1).takesOver = false ∧ s.newWindowSize = ⟨1920, 1080⟩ ∧
    s.requestedOnAdd (Sample.column 1) true = some ⟨1888, 1048⟩ :=
  ⟨Sample.space 0, Sample.reachable_space 0, by decide +kernel, by decide +kernel,
    by decide +kernel, by decide +kernel⟩

/-- Without gaps and border a second window is asked for the predicted half of the output. -/
theorem newWindowSize_eq_iff_two : ∃ s : ScrollingSpace Sample.Toplevel, s.windowIds = [1] ∧
    s.requestedOnAdd (Sample.column 2) true = some s.newWindowSize := by
  obtain ⟨s, hs, hp⟩ := Machine.exists_reachableBy (M := machine Sample.Toplevel ℕ)
    (p := fun s => decide (s.windowIds = [1] ∧ 0 ≤ s.options.layout.gaps ∧
      0 ≤ (s.newBorder (Sample.column 2)).width ∧ s.Predicts (s.newBorder (Sample.column 2))))
    [(Sample.clock, .addTile (Sample.tile 1) true (.proportion (1 / 2)) false)] ⟨_, _, _, _, rfl⟩
    (show ((machine Sample.Toplevel ℕ).run (fun s a => a.2.Admissible s)
      (.new ⟨1920, 1080⟩ ⟨⟨0, 0⟩, ⟨1920, 1080⟩⟩ 1 Sample.gaplessOptions) _).any _ = true by
        decide +kernel)
  obtain ⟨hids, hgaps, hborder, hpredicts⟩ := of_decide_eq_true hp
  have hnormal : (Sample.column 2).takesOver = false := by decide +kernel
  exact ⟨s, hids, (newWindowSize_eq_iff hs hnormal true hgaps hborder).mpr hpredicts⟩

end ScrollingSpace

end Sol
