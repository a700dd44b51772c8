import Sol.Settings
import Sol.SlotRects

/-!
# Positions on the pixel grid

Where the tiles of a workspace are rendered, in physical pixels.  Floating positions are
rounded; the slots of the tiling space are not, although its area and its gaps are, and so a
share of the width or of the height can leave the grid.

* `onGrid_iff`: exactly when all positions are on the grid.
-/

namespace Sol

/-- A coordinate that is a whole number of physical pixels. -/
def Whole (scale x : ℚ) : Prop := ∃ n : ℤ, x * scale = n

section Whole

variable {scale x y : ℚ}

instance : Decidable (Whole scale x) :=
  decidable_of_iff ((x * scale).den = 1) (by
    rw [Rat.den_eq_one_iff]
    exact ⟨fun h => ⟨_, h.symm⟩, fun ⟨n, hn⟩ => by rw [hn, Rat.num_intCast]⟩)

theorem whole_div (n : ℤ) : Whole scale (n / scale) := by
  by_cases h : scale = 0
  · exact ⟨0, by simp [h]⟩
  · exact ⟨n, div_mul_cancel₀ _ h⟩

theorem Whole.add (hx : Whole scale x) (hy : Whole scale y) : Whole scale (x + y) := by
  obtain ⟨m, hm⟩ := hx
  obtain ⟨n, hn⟩ := hy
  exact ⟨m + n, by rw [add_mul, hm, hn, Int.cast_add]⟩

theorem Whole.natCast_mul (hx : Whole scale x) (n : ℕ) : Whole scale (n * x) := by
  obtain ⟨m, hm⟩ := hx
  exact ⟨n * m, by rw [mul_assoc, hm]; push_cast; rfl⟩

/-- What is added to a whole number of pixels has to be one for the sum to be one. -/
theorem Whole.add_iff (hx : Whole scale x) : Whole scale (x + y) ↔ Whole scale y := by
  refine ⟨fun ⟨n, hn⟩ => ?_, hx.add⟩
  obtain ⟨m, hm⟩ := hx
  exact ⟨n - m, by rw [Int.cast_sub, ← hn, ← hm]; ring⟩

theorem whole_roundLogicalInPhysicalMax1 : Whole scale (roundLogicalInPhysicalMax1 scale x) := by
  unfold roundLogicalInPhysicalMax1
  split_ifs
  · exact ⟨0, by simp⟩
  · exact whole_div _

end Whole

/-- A point on the grid of physical pixels. -/
def Point.OnGrid (scale : ℚ) (p : Point) : Prop := Whole scale p.x ∧ Whole scale p.y

instance (scale : ℚ) (p : Point) : Decidable (p.OnGrid scale) :=
  inferInstanceAs (Decidable (_ ∧ _))

theorem Point.onGrid_roundPhysical (scale : ℚ) (p : Point) : (p.roundPhysical scale).OnGrid scale :=
  ⟨whole_div _, whole_div _⟩

namespace ScrollingSpace

variable {W Id : Type} [LayoutElement W Id] {s : ScrollingSpace W}

/-- The corner of the working area and the gaps are on the grid. -/
structure Aligned (s : ScrollingSpace W) : Prop where
  x : Whole s.scale s.workingArea.loc.x
  y : Whole s.scale s.workingArea.loc.y
  gaps : Whole s.scale s.options.layout.gaps

/-- The share of the master is a whole number of physical pixels wide, and the height that is left
to the rows is a whole number for each. -/
def SharesEvenly (s : ScrollingSpace W) : Prop :=
  s.stack = [] ∨ Whole s.scale s.masterWidth ∧ (s.stack.length = 1 ∨ Whole s.scale s.rowHeight)

instance : Decidable s.SharesEvenly :=
  decidable_of_iff (s.stack.length = 0 ∨ Whole s.scale s.masterWidth ∧
    (s.stack.length = 1 ∨ Whole s.scale s.rowHeight)) (by rw [SharesEvenly, List.length_eq_zero_iff])

theorem onGrid_slots (h : s.Aligned) (hmaster : s.stack ≠ [] → s.master.isSome) :
    (∀ r ∈ s.slotRects, r.loc.OnGrid s.scale) ↔ s.SharesEvenly := by
  have hcorner : s.masterRect.loc.OnGrid s.scale := ⟨h.x.add h.gaps, h.y.add h.gaps⟩
  by_cases hs : s.stack = []
  · refine iff_of_true ?_ (.inl hs)
    rw [slotRects_of_no_stack hs]
    cases s.master with
    | none => simp
    | some m => exact List.forall_mem_singleton.mpr hcorner
  · obtain ⟨m, hm⟩ := Option.isSome_iff_exists.mp (hmaster hs)
    have hlen : 0 < s.stack.length := List.length_pos_of_ne_nil hs
    have hx : ∀ row, Whole s.scale (s.rowRect row).loc.x ↔ Whole s.scale s.masterWidth := by
      intro row
      have heq : (s.rowRect row).loc.x = (s.masterRect.loc.x + s.options.layout.gaps) +
          s.masterWidth := by
        simp only [rowRect, masterRect]
        ring
      rw [heq, (hcorner.1.add h.gaps).add_iff]
    have hy : ∀ i : ℕ, Whole s.scale (s.rowAt i).1 ↔ Whole s.scale (i * s.rowHeight) := by
      intro i
      have heq : (s.rowAt i).1 = (s.masterRect.loc.y + i * s.options.layout.gaps) +
          i * s.rowHeight := by
        simp only [rowAt, masterRect]
        ring
      rw [heq, (hcorner.2.add (h.gaps.natCast_mul i)).add_iff]
    rw [slotRects_of_stack hs, hm]
    change (∀ r ∈ s.masterRect :: s.rows.map s.rowRect, r.loc.OnGrid s.scale) ↔ _
    rw [List.forall_mem_cons, and_iff_right hcorner, List.forall_mem_map, rows, List.forall_mem_map]
    constructor
    · intro hrows
      refine .inr ⟨(hx _).mp (hrows 0 (List.mem_range.mpr hlen)).1, ?_⟩
      by_cases hone : s.stack.length = 1
      · exact .inl hone
      · -- the second row is one row below the first
        have hsecond := (hy 1).mp (hrows 1 (List.mem_range.mpr (by omega))).2
        rw [Nat.cast_one, one_mul] at hsecond
        exact .inr hsecond
    · rintro (hnil | ⟨hwidth, hheight⟩) i hi
      · exact absurd hnil hs
      · refine ⟨(hx _).mpr hwidth, (hy i).mpr ?_⟩
        rcases hheight with hone | hheight
        · have hzero : i = 0 := by
            have := List.mem_range.mp hi
            omega
          exact ⟨0, by simp [hzero]⟩
        · exact hheight.natCast_mul i

end ScrollingSpace

namespace Workspace

variable {W Id : Type} [LayoutElement W Id] {s : Workspace W Id}

omit [LayoutElement W Id] in
theorem Tuned.aligned (h : s.Tuned) : s.scrolling.Aligned := by
  obtain ⟨-, harea, -, hscale, hoptions⟩ : s.scrolling.viewSize = s.viewSize ∧
      s.scrolling.workingArea = computeWorkingArea s.workingArea s.scale s.options.layout.struts ∧
      s.scrolling.parentArea = s.workingArea ∧ s.scrolling.scale = s.scale ∧
      s.scrolling.options = s.options := by
    simpa [ScrollingSpace.settings] using h.scrolling
  refine ⟨?_, ?_, ?_⟩
  · rw [harea, hscale]
    exact whole_div _
  · rw [harea, hscale]
    exact whole_div _
  · rw [hoptions, hscale, h.options]
    exact whole_roundLogicalInPhysicalMax1

omit [LayoutElement W Id] in
theorem Tuned.scale_eq (h : s.Tuned) :
    s.scrolling.scale = s.scale ∧ s.floating.scale = s.scale := by
  have hscrolling := h.scrolling
  have hfloating := h.floating
  simp only [ScrollingSpace.settings, FloatingSpace.settings, Prod.mk.injEq] at hscrolling hfloating
  exact ⟨hscrolling.2.2.2.1, hfloating.2.2.1⟩

/-- The positions in the tiling space are those of the slots. -/
theorem forall_scrollingRenderPositions (h : s.WellFormed) {p : Point → Prop} :
    (∀ entry ∈ s.scrollingRenderPositions, p entry.2) ↔ ∀ r ∈ s.scrolling.slotRects, p r.loc := by
  have hlen : (s.scrolling.columnLayout.map (·.2.1)).length ≤ s.scrolling.tiles.length := by
    simp [ScrollingSpace.tiles, ScrollingSpace.length_columnLayout h.scrolling]
  have hsnd : s.scrollingRenderPositions.map Prod.snd = s.scrolling.slotRects.map (·.loc) := by
    rw [scrollingRenderPositions, List.map_snd_zip hlen, ScrollingSpace.slotRects, List.map_map]
    rfl
  rw [← List.forall_mem_map (f := Prod.snd), hsnd, List.forall_mem_map]

variable [DecidableEq Id]

/-- **Positions.**  All tiles of a reachable workspace are rendered at whole physical pixels exactly
if the tiling space shares out its area evenly. -/
theorem onGrid_iff (h : Reachable s) (clock : Clock) :
    (∀ entry ∈ s.tilesWithRenderPositions clock, entry.2.OnGrid s.scale) ↔
      s.scrolling.SharesEvenly := by
  have hwf := h.wellFormed
  have htuned := h.tuned
  obtain ⟨hscrolling, hfloating⟩ := htuned.scale_eq
  have hrounded : ∀ entry ∈ s.floating.tilesWithRenderPositions clock,
      entry.2.OnGrid s.scale := by
    intro entry hentry
    obtain ⟨⟨tile, offset⟩, -, rfl⟩ := List.mem_map.mp hentry
    rw [← hfloating]
    exact Point.onGrid_roundPhysical _ _
  rw [tilesWithRenderPositions, List.forall_mem_append, and_iff_right hrounded,
    forall_scrollingRenderPositions hwf, ← hscrolling]
  exact ScrollingSpace.onGrid_slots htuned.aligned hwf.scrolling.master_of_stack

/-- Four windows on an output of 1920 by 1080: three rows do not divide the height. -/
theorem not_onGrid : ∃ s : Workspace Sample.Toplevel ℕ, Reachable s ∧
    (∀ tile ∈ s.tiles, tile.moveXAnimation.isNone ∧ tile.moveYAnimation.isNone) ∧
    ¬∀ entry ∈ s.tilesWithRenderPositions Sample.clock, entry.2.OnGrid s.scale := by
  obtain ⟨s, hs, hp⟩ := Machine.exists_reachableBy (M := machine Sample.Toplevel ℕ)
    (p := fun s => decide ((∀ tile ∈ s.tiles, tile.moveXAnimation.isNone ∧
        tile.moveYAnimation.isNone) ∧
      ¬∀ entry ∈ s.tilesWithRenderPositions Sample.clock, entry.2.OnGrid s.scale))
    ([1, 2, 3, 4].map Sample.opening)
    (show (machine Sample.Toplevel ℕ).initial
      (newWithConfig 1 (Sample.output 1) none Sample.options) from
        ⟨_, _, _, LayoutConfig.hasPresets_default, .inl ⟨_, rfl⟩⟩)
    (show ((machine Sample.Toplevel ℕ).run (fun s a => a.2.Admissible s) _ _).any _ = true by
      decide +kernel)
  exact ⟨s, hs, of_decide_eq_true hp⟩

/-- Three windows do share the area evenly. -/
theorem onGrid_iff_three : ∃ s : Workspace Sample.Toplevel ℕ, s.windowIds = [1, 2, 3] ∧
    ∀ entry ∈ s.tilesWithRenderPositions Sample.clock, entry.2.OnGrid s.scale := by
  obtain ⟨s, hs, hp⟩ := Machine.exists_reachableBy (M := machine Sample.Toplevel ℕ)
    (p := fun s => decide (s.windowIds = [1, 2, 3] ∧ s.scrolling.SharesEvenly))
    ([1, 2, 3].map Sample.opening)
    (show (machine Sample.Toplevel ℕ).initial
      (newWithConfig 1 (Sample.output 1) none Sample.options) from
        ⟨_, _, _, LayoutConfig.hasPresets_default, .inl ⟨_, rfl⟩⟩)
    (show ((machine Sample.Toplevel ℕ).run (fun s a => a.2.Admissible s) _ _).any _ = true by
      decide +kernel)
  obtain ⟨hids, hshares⟩ := of_decide_eq_true hp
  exact ⟨s, hids, (onGrid_iff hs Sample.clock).mpr hshares⟩

end Workspace

end Sol
