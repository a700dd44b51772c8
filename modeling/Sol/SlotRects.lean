import Sol.SampleSpace
import Sol.Spacing
import Sol.TilingLaws

/-!
# The slots as a tiling

The slots of the tiling space as rectangles: they never come closer to each other
than a gap, and where the working area has room for them they fill it, with a gap
along every edge.
-/

namespace Sol

open Spacing

namespace Rect

def right (r : Rect) : ℚ := r.loc.x + r.size.w

def bottom (r : Rect) : ℚ := r.loc.y + r.size.h

/-- The rectangle with a margin on every side. -/
def outset (r : Rect) (margin : ℚ) : Rect :=
  ⟨⟨r.loc.x - margin, r.loc.y - margin⟩, ⟨r.size.w + 2 * margin, r.size.h + 2 * margin⟩⟩

/-- The rectangles keep the distance `g` along one of the axes. -/
def Apart (g : ℚ) (r t : Rect) : Prop :=
  r.right + g ≤ t.loc.x ∨ t.right + g ≤ r.loc.x ∨ r.bottom + g ≤ t.loc.y ∨ t.bottom + g ≤ r.loc.y

/-- `r` faces `t` from the left. -/
def LeftOf (r t : Rect) : Prop := r.right ≤ t.loc.x ∧ r.loc.y < t.bottom ∧ t.loc.y < r.bottom

/-- `r` faces `t` from above. -/
def Above (r t : Rect) : Prop := r.bottom ≤ t.loc.y ∧ r.loc.x < t.right ∧ t.loc.x < r.right

/-- The rectangles lie in the area, the distance `g` away from the edges they face and from their
neighbours, and with half a gap around each they leave nothing of it out. -/
structure Tiles (g : ℚ) (area : Rect) (rects : List Rect) : Prop where
  within : ∀ r ∈ rects, area.loc.x + g ≤ r.loc.x ∧ r.right + g ≤ area.right ∧
    area.loc.y + g ≤ r.loc.y ∧ r.bottom + g ≤ area.bottom
  left : ∀ r ∈ rects, (∀ t ∈ rects, ¬t.LeftOf r) → r.loc.x = area.loc.x + g
  right : ∀ r ∈ rects, (∀ t ∈ rects, ¬r.LeftOf t) → r.right + g = area.right
  top : ∀ r ∈ rects, (∀ t ∈ rects, ¬t.Above r) → r.loc.y = area.loc.y + g
  bottom : ∀ r ∈ rects, (∀ t ∈ rects, ¬r.Above t) → r.bottom + g = area.bottom
  beside : ∀ r ∈ rects, ∀ t ∈ rects, r.LeftOf t → (∀ u ∈ rects, r.LeftOf u → ¬u.LeftOf t) →
    t.loc.x = r.right + g
  below : ∀ r ∈ rects, ∀ t ∈ rects, r.Above t → (∀ u ∈ rects, r.Above u → ¬u.Above t) →
    t.loc.y = r.bottom + g
  cover : ∀ p, (area.outset (-(g / 2))).contains p → ∃ r ∈ rects, (r.outset (g / 2)).contains p

variable {g : ℚ} {area r t : Rect} {rects : List Rect} {p : Point}

theorem contains_outset {margin : ℚ} : (r.outset margin).contains p = true ↔
    r.loc.x - margin ≤ p.x ∧ p.x < r.right + margin ∧
      r.loc.y - margin ≤ p.y ∧ p.y < r.bottom + margin := by
  unfold contains
  rw [Bool.and_eq_true, Bool.and_eq_true, Bool.and_eq_true, decide_eq_true_iff, decide_eq_true_iff,
    decide_eq_true_iff, decide_eq_true_iff]
  simp only [outset, right, bottom]
  constructor
  · rintro ⟨⟨⟨hx, hy⟩, hx'⟩, hy'⟩
    exact ⟨hx, by linarith, hy, by linarith⟩
  · rintro ⟨hx, hx', hy, hy'⟩
    exact ⟨⟨⟨hx, hy⟩, by linarith⟩, by linarith⟩

theorem Apart.symm (h : Apart g r t) : Apart g t r := by
  unfold Apart at h ⊢
  tauto

theorem not_leftOf_self (h : 0 < r.size.w) : ¬r.LeftOf r := fun hr => by
  have hle : r.loc.x + r.size.w ≤ r.loc.x := hr.1
  linarith

theorem not_above_self (h : 0 < r.size.h) : ¬r.Above r := fun hr => by
  have hle : r.loc.y + r.size.h ≤ r.loc.y := hr.1
  linarith

/-- Rectangles that are apart have no point in common, also with half a gap around each. -/
theorem Apart.not_both (h : Apart g r t) (hr : (r.outset (g / 2)).contains p = true) :
    ¬(t.outset (g / 2)).contains p = true := by
  intro ht
  obtain ⟨hrx, hrx', hry, hry'⟩ := contains_outset.mp hr
  obtain ⟨htx, htx', hty, hty'⟩ := contains_outset.mp ht
  rcases h with h | h | h | h <;> linarith

/-- With half a gap around each, the rectangles are a partition of the area without half a gap
along its edges. -/
theorem Tiles.existsUnique (h : Tiles g area rects) (hapart : rects.Pairwise (Apart g)) :
    (area.outset (-(g / 2))).contains p = true ↔
      ∃! i : ℕ, ∃ r : Rect, rects[i]? = some r ∧ (r.outset (g / 2)).contains p = true := by
  constructor
  · intro hp
    obtain ⟨r, hr, hrp⟩ := h.cover p hp
    obtain ⟨i, hi, rfl⟩ := List.mem_iff_getElem.mp hr
    refine ⟨i, ⟨_, List.getElem?_eq_getElem hi, hrp⟩, ?_⟩
    rintro j ⟨t, ht, htp⟩
    obtain ⟨hj, rfl⟩ := List.getElem?_eq_some_iff.mp ht
    rw [List.pairwise_iff_getElem] at hapart
    rcases lt_trichotomy i j with hij | rfl | hji
    · exact absurd htp ((hapart i j hi hj hij).not_both hrp)
    · rfl
    · exact absurd hrp ((hapart j i hj hi hji).not_both htp)
  · rintro ⟨i, ⟨r, hr, hrp⟩, -⟩
    obtain ⟨hx, hx', hy, hy'⟩ := h.within r (List.mem_of_getElem? hr)
    obtain ⟨hpx, hpx', hpy, hpy'⟩ := contains_outset.mp hrp
    exact contains_outset.mpr ⟨by linarith, by linarith, by linarith, by linarith⟩

end Rect

namespace ScrollingSpace

variable {W Id : Type} [LayoutElement W Id] {s : ScrollingSpace W}

/-- The rectangles of the slots. -/
def slotRects (s : ScrollingSpace W) : List Rect :=
  s.columnLayout.map fun (_, pos, size) => ⟨pos, size⟩

/-! ### A master and a stack -/

/-- The height of a whole slot. -/
def slotHeight (s : ScrollingSpace W) : ℚ :=
  max (s.workingArea.size.h - 2 * s.options.layout.gaps) 1

/-- The width that the master and the stack share. -/
def sharedWidth (s : ScrollingSpace W) : ℚ :=
  max (s.workingArea.size.w - 3 * s.options.layout.gaps) 1

def masterWidth (s : ScrollingSpace W) : ℚ := max (s.sharedWidth * s.masterRatio) 1

def stackWidth (s : ScrollingSpace W) : ℚ := max (s.sharedWidth - s.masterWidth) 1

def rowHeight (s : ScrollingSpace W) : ℚ :=
  max (s.slotHeight - (s.stack.length - 1) * s.options.layout.gaps) 1 / s.stack.length

/-- The slot of the master beside a stack. -/
def masterRect (s : ScrollingSpace W) : Rect :=
  ⟨⟨s.workingArea.loc.x + s.options.layout.gaps, s.workingArea.loc.y + s.options.layout.gaps⟩,
    ⟨s.masterWidth, s.slotHeight⟩⟩

/-- Where a row of the stack begins, and its height. -/
def rowAt (s : ScrollingSpace W) (i : ℕ) : ℚ × ℚ :=
  (s.workingArea.loc.y + s.options.layout.gaps + i * (s.rowHeight + s.options.layout.gaps),
    s.rowHeight)

def rows (s : ScrollingSpace W) : List (ℚ × ℚ) := (List.range s.stack.length).map s.rowAt

def rowRect (s : ScrollingSpace W) (row : ℚ × ℚ) : Rect :=
  ⟨⟨s.workingArea.loc.x + s.options.layout.gaps + s.masterWidth + s.options.layout.gaps, row.1⟩,
    ⟨s.stackWidth, row.2⟩⟩

/-- The slot of a single column. -/
def wholeRect (s : ScrollingSpace W) : Rect :=
  ⟨s.masterRect.loc, ⟨max (s.workingArea.size.w - 2 * s.options.layout.gaps) 1, s.slotHeight⟩⟩

theorem slotRects_of_no_stack (h : s.stack = []) :
    s.slotRects = (s.master.map fun _ => s.wholeRect).toList := by
  cases hm : s.master <;> simp [slotRects, columnLayout, h, hm, wholeRect, masterRect, slotHeight]

theorem slotRects_of_stack (h : s.stack ≠ []) :
    s.slotRects = (s.master.map fun _ => s.masterRect).toList ++ s.rows.map s.rowRect := by
  have hlen : s.stack.length ≠ 0 := fun h0 => h (List.length_eq_zero_iff.mp h0)
  cases hm : s.master <;>
    simp [slotRects, columnLayout, hlen, hm, masterRect, slotHeight, rows, rowAt, rowRect,
      rowHeight, masterWidth, stackWidth, sharedWidth, Function.comp_def]

theorem rowHeight_pos (h : s.stack ≠ []) : 0 < s.rowHeight :=
  div_pos (lt_of_lt_of_le one_pos (le_max_right _ _))
    (Nat.cast_pos.mpr (List.length_pos_of_ne_nil h))

theorem rows_laid (h : s.stack ≠ []) :
    Laid s.options.layout.gaps s.workingArea.loc.y (s.workingArea.loc.y + s.options.layout.gaps +
      s.stack.length * (s.rowHeight + s.options.layout.gaps)) s.rows := by
  have hlaid := laid_range (g := s.options.layout.gaps) (rowHeight_pos h)
    (s.workingArea.loc.y + s.options.layout.gaps) s.stack.length
  rwa [add_sub_cancel_right] at hlaid

theorem masterRect_apart (row : ℚ × ℚ) :
    s.masterRect.Apart s.options.layout.gaps (s.rowRect row) := .inl le_rfl

/-- No two slots come closer to each other than a gap. -/
theorem slotRects_pairwise (hg : 0 ≤ s.options.layout.gaps) :
    s.slotRects.Pairwise (Rect.Apart s.options.layout.gaps) := by
  by_cases hs : s.stack = []
  · rw [slotRects_of_no_stack hs]
    cases s.master with
    | none => exact .nil
    | some _ => exact List.pairwise_singleton _ _
  · rw [slotRects_of_stack hs, List.pairwise_append, List.pairwise_map]
    refine ⟨?_, ?_, ?_⟩
    · cases s.master with
      | none => exact .nil
      | some _ => exact List.pairwise_singleton _ _
    · exact ((rows_laid hs).pairwise hg).imp fun hle => .inr (.inr (.inl hle))
    · intro r hr t ht
      obtain ⟨m, -, rfl⟩ := by simpa using hr
      obtain ⟨row, -, rfl⟩ := List.mem_map.mp ht
      exact masterRect_apart row

/-! ### Room for all columns -/

/-- The working area has room for the columns with their gaps. -/
structure HasRoom (s : ScrollingSpace W) : Prop where
  width : 20 / 3 ≤ s.workingArea.size.w - 3 * s.options.layout.gaps
  height : (s.columns.length - 1) * s.options.layout.gaps + 1 ≤
    s.workingArea.size.h - 2 * s.options.layout.gaps

theorem HasRoom.slotHeight_eq (h : s.HasRoom) (hg : 0 ≤ s.options.layout.gaps)
    (hcols : s.columns ≠ []) :
    s.slotHeight = s.workingArea.size.h - 2 * s.options.layout.gaps := by
  have hn : (1 : ℚ) ≤ s.columns.length := by
    exact_mod_cast List.length_pos_of_ne_nil hcols
  have hle := mul_nonneg (sub_nonneg.mpr hn) hg
  exact max_eq_left (by linarith [h.height])

theorem HasRoom.sharedWidth_eq (h : s.HasRoom) :
    s.sharedWidth = s.workingArea.size.w - 3 * s.options.layout.gaps :=
  max_eq_left (by linarith [h.width])

theorem HasRoom.masterWidth_eq (h : s.HasRoom) (hr : 15 / 100 ≤ s.masterRatio) :
    s.masterWidth = s.sharedWidth * s.masterRatio := by
  have hw := h.width
  rw [← h.sharedWidth_eq] at hw
  exact max_eq_left (by nlinarith)

/-- The two widths take up all that there is to share. -/
theorem HasRoom.masterWidth_add_stackWidth (h : s.HasRoom) (hr : 15 / 100 ≤ s.masterRatio)
    (hr' : s.masterRatio ≤ 85 / 100) : s.masterWidth + s.stackWidth = s.sharedWidth := by
  have hw := h.width
  rw [← h.sharedWidth_eq] at hw
  have hstack : s.stackWidth = s.sharedWidth - s.masterWidth := by
    rw [stackWidth, h.masterWidth_eq hr]
    exact max_eq_left (by nlinarith)
  rw [hstack]
  ring

/-- The rows reach from the top of the working area to its bottom. -/
theorem HasRoom.rows_laid (h : s.HasRoom) (hg : 0 ≤ s.options.layout.gaps) (hs : s.stack ≠ [])
    (hmaster : s.master.isSome) :
    Laid s.options.layout.gaps s.workingArea.loc.y s.workingArea.bottom s.rows := by
  obtain ⟨m, hm⟩ := Option.isSome_iff_exists.mp hmaster
  have hcols : s.columns ≠ [] := by simp [columns, hm]
  have hlen : (s.columns.length : ℚ) = s.stack.length + 1 := by simp [columns, hm, add_comm]
  have hpos : (s.stack.length : ℚ) ≠ 0 := by simpa using hs
  have hheight : s.stack.length * s.rowHeight =
      s.slotHeight - (s.stack.length - 1) * s.options.layout.gaps := by
    rw [rowHeight, mul_div_cancel₀ _ hpos, h.slotHeight_eq hg hcols]
    refine max_eq_left ?_
    have := h.height
    rw [hlen] at this
    linarith
  have hend : s.workingArea.loc.y + s.options.layout.gaps +
      s.stack.length * (s.rowHeight + s.options.layout.gaps) = s.workingArea.bottom := by
    rw [mul_add, hheight, h.slotHeight_eq hg hcols, Rect.bottom]
    ring
  exact hend ▸ ScrollingSpace.rows_laid hs

/-- One slot fills the working area. -/
theorem HasRoom.tiles_whole (h : s.HasRoom) (hg : 0 ≤ s.options.layout.gaps)
    (hcols : s.columns ≠ []) :
    Rect.Tiles s.options.layout.gaps s.workingArea [s.wholeRect] := by
  have hheight := h.slotHeight_eq hg hcols
  have hwidth : s.wholeRect.size.w = s.workingArea.size.w - 2 * s.options.layout.gaps :=
    max_eq_left (by linarith [h.width])
  have hright : s.wholeRect.right + s.options.layout.gaps = s.workingArea.right := by
    rw [Rect.right, hwidth, Rect.right, wholeRect, masterRect]
    ring
  have hbottom : s.wholeRect.bottom + s.options.layout.gaps = s.workingArea.bottom := by
    rw [Rect.bottom, Rect.bottom, wholeRect, masterRect, hheight]
    ring
  have hw : 0 < s.wholeRect.size.w := lt_of_lt_of_le one_pos (le_max_right _ _)
  have hh : 0 < s.wholeRect.size.h := lt_of_lt_of_le one_pos (le_max_right _ _)
  constructor
  case within => exact List.forall_mem_singleton.mpr ⟨le_rfl, hright.le, le_rfl, hbottom.le⟩
  case left => exact List.forall_mem_singleton.mpr fun _ => rfl
  case right => exact List.forall_mem_singleton.mpr fun _ => hright
  case top => exact List.forall_mem_singleton.mpr fun _ => rfl
  case bottom => exact List.forall_mem_singleton.mpr fun _ => hbottom
  case beside => simpa using fun hr => absurd hr (Rect.not_leftOf_self hw)
  case below => simpa using fun hr => absurd hr (Rect.not_above_self hh)
  case cover =>
    intro p hp
    obtain ⟨hx, hx', hy, hy'⟩ := Rect.contains_outset.mp hp
    have hloc : s.wholeRect.loc.x = s.workingArea.loc.x + s.options.layout.gaps ∧
        s.wholeRect.loc.y = s.workingArea.loc.y + s.options.layout.gaps := ⟨rfl, rfl⟩
    refine ⟨_, List.mem_singleton_self _, Rect.contains_outset.mpr ⟨?_, ?_, ?_, ?_⟩⟩ <;> linarith

theorem masterWidth_pos : 0 < s.masterWidth := lt_of_lt_of_le one_pos (le_max_right _ _)

theorem stackWidth_pos : 0 < s.stackWidth := lt_of_lt_of_le one_pos (le_max_right _ _)

theorem slotHeight_pos : 0 < s.slotHeight := lt_of_lt_of_le one_pos (le_max_right _ _)

theorem rowRect_not_leftOf (row row' : ℚ × ℚ) : ¬(s.rowRect row).LeftOf (s.rowRect row') := by
  rintro ⟨hle, -⟩
  simp only [Rect.right, rowRect] at hle
  linarith [s.stackWidth_pos]

theorem rowRect_not_leftOf_masterRect (hg : 0 ≤ s.options.layout.gaps) (row : ℚ × ℚ) :
    ¬(s.rowRect row).LeftOf s.masterRect := by
  rintro ⟨hle, -⟩
  simp only [Rect.right, rowRect, masterRect] at hle
  linarith [s.stackWidth_pos, s.masterWidth_pos]

theorem rowRect_not_above_masterRect (hg : 0 ≤ s.options.layout.gaps) (row : ℚ × ℚ) :
    ¬(s.rowRect row).Above s.masterRect := by
  rintro ⟨-, hlt, -⟩
  simp only [Rect.right, rowRect, masterRect] at hlt
  linarith

theorem masterRect_not_above (hg : 0 ≤ s.options.layout.gaps) (row : ℚ × ℚ) :
    ¬s.masterRect.Above (s.rowRect row) := by
  rintro ⟨-, -, hlt⟩
  simp only [Rect.right, rowRect, masterRect] at hlt
  linarith

theorem rowRect_above_iff {row row' : ℚ × ℚ} :
    (s.rowRect row).Above (s.rowRect row') ↔ row.1 + row.2 ≤ row'.1 := by
  have hlt : ∀ r r' : ℚ × ℚ, (s.rowRect r).loc.x < (s.rowRect r').right := fun r r' =>
    lt_add_of_pos_right _ s.stackWidth_pos
  exact ⟨fun h => h.1, fun h => ⟨h, hlt _ _, hlt _ _⟩⟩

theorem rowRect_loc_x (row : ℚ × ℚ) :
    (s.rowRect row).loc.x = s.masterRect.right + s.options.layout.gaps := rfl

theorem rowRect_right (row : ℚ × ℚ) :
    (s.rowRect row).right = (s.rowRect row).loc.x + s.stackWidth := rfl

theorem HasRoom.rowRect_right_add (h : s.HasRoom) (hr : 15 / 100 ≤ s.masterRatio)
    (hr' : s.masterRatio ≤ 85 / 100) (row : ℚ × ℚ) :
    (s.rowRect row).right + s.options.layout.gaps = s.workingArea.right := by
  have hsum := h.masterWidth_add_stackWidth hr hr'
  rw [h.sharedWidth_eq] at hsum
  simp only [Rect.right, rowRect]
  linarith

theorem HasRoom.masterRect_bottom_add (h : s.HasRoom) (hg : 0 ≤ s.options.layout.gaps)
    (hcols : s.columns ≠ []) :
    s.masterRect.bottom + s.options.layout.gaps = s.workingArea.bottom := by
  rw [Rect.bottom, Rect.bottom, masterRect, h.slotHeight_eq hg hcols]
  ring

/-- Every row is beside the master. -/
theorem HasRoom.masterRect_leftOf (h : s.HasRoom) (hg : 0 ≤ s.options.layout.gaps)
    (hs : s.stack ≠ []) (hmaster : s.master.isSome) {row : ℚ × ℚ} (hrow : row ∈ s.rows) :
    s.masterRect.LeftOf (s.rowRect row) := by
  have hcols : s.columns ≠ [] := fun hnil => hs (List.append_eq_nil_iff.mp hnil).2
  obtain ⟨htop, hpos, hend⟩ := ((h.rows_laid hg hs hmaster).bounds hg).2 row hrow
  have hbottom := h.masterRect_bottom_add hg hcols
  have hmy : s.masterRect.loc.y = s.workingArea.loc.y + s.options.layout.gaps := rfl
  have hb : (s.rowRect row).bottom = row.1 + row.2 := rfl
  have ht : (s.rowRect row).loc.y = row.1 := rfl
  exact ⟨by linarith [rowRect_loc_x (s := s) row], by linarith, by linarith⟩

/-- A master and the rows beside it fill the working area. -/
theorem HasRoom.tiles_stack (h : s.HasRoom) (hg : 0 ≤ s.options.layout.gaps)
    (hr : 15 / 100 ≤ s.masterRatio) (hr' : s.masterRatio ≤ 85 / 100) (hs : s.stack ≠ [])
    (hmaster : s.master.isSome) :
    Rect.Tiles s.options.layout.gaps s.workingArea (s.masterRect :: s.rows.map s.rowRect) := by
  have hcols : s.columns ≠ [] := fun hnil => hs (List.append_eq_nil_iff.mp hnil).2
  have hlaid := h.rows_laid hg hs hmaster
  have hmem := (hlaid.bounds hg).2
  have hright := h.rowRect_right_add hr hr'
  have hbottom := h.masterRect_bottom_add hg hcols
  have hmx : s.masterRect.loc.x = s.workingArea.loc.x + s.options.layout.gaps := rfl
  have hmy : s.masterRect.loc.y = s.workingArea.loc.y + s.options.layout.gaps := rfl
  have hmr : s.masterRect.right = s.masterRect.loc.x + s.masterWidth := rfl
  have hrowx := s.rowRect_loc_x
  have hrowr := s.rowRect_right
  have hmw := s.masterWidth_pos
  have hsw := s.stackWidth_pos
  have hself := Rect.not_leftOf_self (r := s.masterRect) hmw
  have hfaces := fun row (hrow : row ∈ s.rows) => h.masterRect_leftOf hg hs hmaster hrow
  have hnonempty : ∃ row, row ∈ s.rows := by
    refine List.exists_mem_of_length_pos ?_
    simpa [rows] using List.length_pos_of_ne_nil hs
  constructor
  case within =>
    refine List.forall_mem_cons.mpr ⟨⟨le_rfl, ?_, le_rfl, hbottom.le⟩, List.forall_mem_map.mpr ?_⟩
    · obtain ⟨row, -⟩ := hnonempty
      linarith [hright row, hrowx row, hrowr row]
    · intro row hrow
      obtain ⟨htop, -, hend⟩ := hmem row hrow
      exact ⟨by linarith [hrowx row], (hright row).le, htop, hend⟩
  case left =>
    refine List.forall_mem_cons.mpr
      ⟨fun _ => rfl, List.forall_mem_map.mpr fun row hrow hnone => ?_⟩
    exact absurd (hfaces row hrow) (hnone _ List.mem_cons_self)
  case right =>
    refine List.forall_mem_cons.mpr
      ⟨fun hnone => ?_, List.forall_mem_map.mpr fun row _ _ => hright row⟩
    obtain ⟨row, hrow⟩ := hnonempty
    exact absurd (hfaces row hrow) (hnone _ (List.mem_cons_of_mem _ (List.mem_map_of_mem hrow)))
  case top =>
    refine List.forall_mem_cons.mpr
      ⟨fun _ => rfl, List.forall_mem_map.mpr fun row hrow hnone => ?_⟩
    refine hlaid.start_eq hg hrow fun row' hrow' hle => ?_
    exact hnone _ (List.mem_cons_of_mem _ (List.mem_map_of_mem hrow')) (rowRect_above_iff.mpr hle)
  case bottom =>
    refine List.forall_mem_cons.mpr
      ⟨fun _ => hbottom, List.forall_mem_map.mpr fun row hrow hnone => ?_⟩
    refine hlaid.end_eq hg hrow fun row' hrow' hle => ?_
    exact hnone _ (List.mem_cons_of_mem _ (List.mem_map_of_mem hrow')) (rowRect_above_iff.mpr hle)
  case beside =>
    refine List.forall_mem_cons.mpr ⟨List.forall_mem_cons.mpr ⟨fun h => absurd h hself, ?_⟩, ?_⟩
    · exact List.forall_mem_map.mpr fun row _ _ _ => hrowx row
    · refine List.forall_mem_map.mpr fun row _ => List.forall_mem_cons.mpr ⟨fun h => ?_, ?_⟩
      · exact absurd h (rowRect_not_leftOf_masterRect hg row)
      · exact List.forall_mem_map.mpr fun row' _ h => absurd h (rowRect_not_leftOf row row')
  case below =>
    refine List.forall_mem_cons.mpr ⟨List.forall_mem_cons.mpr ⟨fun h => ?_, ?_⟩, ?_⟩
    · exact absurd h (Rect.not_above_self s.slotHeight_pos)
    · exact List.forall_mem_map.mpr fun row _ h => absurd h (masterRect_not_above hg row)
    · refine List.forall_mem_map.mpr fun row hrow => List.forall_mem_cons.mpr ⟨fun h => ?_, ?_⟩
      · exact absurd h (rowRect_not_above_masterRect hg row)
      · refine List.forall_mem_map.mpr fun row' hrow' habove hnone => ?_
        refine hlaid.next_eq hg hrow hrow' habove.1 fun u hu hle hle' => ?_
        exact hnone _ (List.mem_cons_of_mem _ (List.mem_map_of_mem hu)) (rowRect_above_iff.mpr hle)
          (rowRect_above_iff.mpr hle')
  case cover =>
    intro p hp
    obtain ⟨hx, hx', hy, hy'⟩ := Rect.contains_outset.mp hp
    by_cases hpx : p.x < s.masterRect.right + s.options.layout.gaps / 2
    · refine ⟨_, List.mem_cons_self, Rect.contains_outset.mpr ⟨?_, hpx, ?_, ?_⟩⟩ <;> linarith
    · obtain ⟨row, hrow, hrowy, hrowy'⟩ := hlaid.exists_mem (x := p.y) (by linarith) (by linarith)
      refine ⟨_, List.mem_cons_of_mem _ (List.mem_map_of_mem hrow), Rect.contains_outset.mpr
        ⟨?_, ?_, hrowy, hrowy'⟩⟩
      · linarith [hrowx row]
      · linarith [hright row]

/-- **The slots.**  No two slots come closer to each other than a gap; and where the working area
has room, they lie in it, a gap away from the edges they face and from their neighbours, and with
half a gap around each they are a partition of what half a gap along the edges leaves of it. -/
theorem slotRects_apart_and_tile (hg : 0 ≤ s.options.layout.gaps) (hr : 15 / 100 ≤ s.masterRatio)
    (hr' : s.masterRatio ≤ 85 / 100) (hcols : s.columns ≠ [])
    (hmaster : s.stack ≠ [] → s.master.isSome) :
    s.slotRects.Pairwise (Rect.Apart s.options.layout.gaps) ∧
      (20 / 3 ≤ s.workingArea.size.w - 3 * s.options.layout.gaps →
        (s.columns.length - 1) * s.options.layout.gaps + 1 ≤
          s.workingArea.size.h - 2 * s.options.layout.gaps →
        Rect.Tiles s.options.layout.gaps s.workingArea s.slotRects ∧
          ∀ p, (s.workingArea.outset (-(s.options.layout.gaps / 2))).contains p = true ↔
            ∃! i : ℕ, ∃ r : Rect, s.slotRects[i]? = some r ∧
              (r.outset (s.options.layout.gaps / 2)).contains p = true) := by
  have hapart := s.slotRects_pairwise hg
  refine ⟨hapart, fun hw hh => ?_⟩
  have h : s.HasRoom := ⟨hw, hh⟩
  have htiles : Rect.Tiles s.options.layout.gaps s.workingArea s.slotRects := by
    by_cases hs : s.stack = []
    · obtain ⟨m, hm⟩ : ∃ m, s.master = some m := by
        rw [← Option.ne_none_iff_exists']
        rintro hm
        exact hcols (by simp [columns, hm, hs])
      rw [slotRects_of_no_stack hs, hm]
      exact h.tiles_whole hg hcols
    · obtain ⟨m, hm⟩ := Option.isSome_iff_exists.mp (hmaster hs)
      rw [slotRects_of_stack hs, hm]
      exact h.tiles_stack hg hr hr' hs (hmaster hs)
  exact ⟨htiles, fun p => htiles.existsUnique hapart⟩

/-- Three windows on an output of 1920 by 1080. -/
theorem slotRects_apart_and_tile_three :
    Rect.Tiles (Sample.space 3).options.layout.gaps (Sample.space 3).workingArea
      (Sample.space 3).slotRects :=
  ((slotRects_apart_and_tile (by decide +kernel) (by decide +kernel) (by decide +kernel)
    (by decide +kernel) (by decide +kernel)).2 (by decide +kernel) (by decide +kernel)).1

end ScrollingSpace

end Sol
