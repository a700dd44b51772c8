import Sol.FloatingRun

/-!
# Where floating windows are

A floating tile's position is a fraction of the working area; in logical coordinates it is kept
from going too much off the screen.

* `overlap_keepOnScreen`: how much of a tile stays in the working area;
* `setLogicalPos_of_clamped`: a position that is kept is stored without loss;
* `attained_placed`: both, for the tiles of every reachable space.
-/

namespace Sol

open Panicking

/-- How much of an interval is in another one. -/
def overlap (start extent areaStart areaExtent : ℚ) : ℚ :=
  min (start + extent) (areaStart + areaExtent) - max start areaStart

namespace Data

/-- How much of a tile is to stay in the working area. -/
def minOnScreen (extent : ℚ) : ℚ := clamp 10 75 (extent / 4)

/-- A coordinate within the working area, so that enough of a tile stays there. -/
def keepOnScreen (extent available x : ℚ) : ℚ :=
  let maxOffScreen := max 0 (extent - minOnScreen extent)
  min (max x (-maxOffScreen)) (available - extent + maxOffScreen)

/-- A position from which the tile does not go too much off the screen. -/
def clamped (d : Data) (pos : Point) : Point :=
  ⟨keepOnScreen d.size.w d.workingArea.size.w (pos - d.workingArea.loc).x,
    keepOnScreen d.size.h d.workingArea.size.h (pos - d.workingArea.loc).y⟩ + d.workingArea.loc

section Axis

variable (extent available x : ℚ)

/-- What is kept on the screen is at most so far off either end, unless there is no room. -/
theorem keepOnScreen_bounds :
    keepOnScreen extent available x ≤ available - extent + max 0 (extent - minOnScreen extent) ∧
      (-max 0 (extent - minOnScreen extent) ≤ keepOnScreen extent available x ∨
        keepOnScreen extent available x =
          available - extent + max 0 (extent - minOnScreen extent)) := by
  refine ⟨min_le_right _ _, ?_⟩
  rcases min_choice (max x (-max 0 (extent - minOnScreen extent)))
    (available - extent + max 0 (extent - minOnScreen extent)) with h | h
  · exact .inl ((le_max_right x _).trans_eq h.symm)
  · exact .inr h

/-- At least the minimum stays in the area, or all of the tile or of the area if that is less. -/
theorem overlap_keepOnScreen (areaStart : ℚ) :
    min (minOnScreen extent) (min extent available) ≤
      overlap (keepOnScreen extent available x + areaStart) extent areaStart available := by
  obtain ⟨hright, hleft⟩ := keepOnScreen_bounds extent available x
  generalize keepOnScreen extent available x = y at hright hleft ⊢
  have hmin : min (minOnScreen extent) (min extent available) ≤ minOnScreen extent :=
    min_le_left _ _
  have hextent : min (minOnScreen extent) (min extent available) ≤ extent :=
    (min_le_right _ _).trans (min_le_left _ _)
  have havailable : min (minOnScreen extent) (min extent available) ≤ available :=
    (min_le_right _ _).trans (min_le_right _ _)
  generalize min (minOnScreen extent) (min extent available) = least at hmin hextent havailable ⊢
  unfold overlap
  rw [le_sub_iff_add_le, le_min_iff]
  rcases max_cases 0 (extent - minOnScreen extent) with ⟨hmax, hle⟩ | ⟨hmax, hle⟩ <;>
    rw [hmax] at hright hleft <;>
    rcases hleft with hleft | hleft <;>
    rcases max_cases (y + areaStart) areaStart with ⟨hstart, hle'⟩ | ⟨hstart, hle'⟩ <;>
    rw [hstart] <;> constructor <;> linarith

/-- What is on the screen stays where it is. -/
theorem keepOnScreen_idem : keepOnScreen extent available (keepOnScreen extent available x) =
    keepOnScreen extent available x := by
  obtain ⟨hright, hleft⟩ := keepOnScreen_bounds extent available x
  generalize keepOnScreen extent available x = y at hright hleft ⊢
  unfold keepOnScreen
  dsimp only
  rcases hleft with hleft | rfl
  · rw [max_eq_left hleft, min_eq_left hright]
  · exact min_eq_right (le_max_left _ _)

end Axis

/-- Positions are stored without loss in an area that is not narrower than one pixel. -/
theorem scaleByWorkingArea_logicalToSizeFrac {area : Rect} (hw : 1 ≤ area.size.w)
    (hh : 1 ≤ area.size.h) (pos : Point) :
    scaleByWorkingArea area (logicalToSizeFracInWorkingArea area pos) = pos := by
  have hcoordinate : ∀ {extent x loc : ℚ}, 1 ≤ extent →
      (x - loc) / max extent 1 * extent + loc = x := by
    intro extent x loc h
    rw [max_eq_left h, div_mul_cancel₀ _ (by linarith), sub_add_cancel]
  exact congrArg₂ Point.mk (hcoordinate hw) (hcoordinate hh)

theorem setLogicalPos_of_clamped {d : Data} (hw : 1 ≤ d.workingArea.size.w)
    (hh : 1 ≤ d.workingArea.size.h) {pos : Point} (hpos : d.clamped pos = pos) :
    (d.setLogicalPos pos).logicalPos = pos := by
  calc (d.setLogicalPos pos).logicalPos
      = d.clamped (scaleByWorkingArea d.workingArea
          (logicalToSizeFracInWorkingArea d.workingArea pos)) := rfl
    _ = d.clamped pos := by rw [scaleByWorkingArea_logicalToSizeFrac hw hh]
    _ = pos := hpos

end Data

namespace FloatingSpace

variable {W Id : Type} [LayoutElement W Id] [ClientOwned W] [DecidableEq Id]
  {s : FloatingSpace W Id}

/-- Where a tile with its data is, in a working area. -/
structure Placed (area : Rect) (entry : Tile W × Data) : Prop where
  /-- The position is the one that follows from the relative one, the size and the area. -/
  cached : entry.2.logicalPos =
    ({ entry.2 with size := entry.1.tileSize, workingArea := area } : Data).clamped
      (Data.scaleByWorkingArea area entry.2.pos)
  onScreenHor : min (Data.minOnScreen entry.1.tileSize.w) (min entry.1.tileSize.w area.size.w) ≤
    overlap entry.2.logicalPos.x entry.1.tileSize.w area.loc.x area.size.w
  onScreenVer : min (Data.minOnScreen entry.1.tileSize.h) (min entry.1.tileSize.h area.size.h) ≤
    overlap entry.2.logicalPos.y entry.1.tileSize.h area.loc.y area.size.h
  /-- A position that is kept on the screen already is not changed. -/
  stays : 1 ≤ area.size.w → 1 ≤ area.size.h → ∀ pos, entry.2.clamped pos = pos →
    (entry.2.setLogicalPos pos).logicalPos = pos

omit [ClientOwned W] [DecidableEq Id] in
theorem InSync.placed {area : Rect} {entry : Tile W × Data} (h : InSync area entry) :
    Placed area entry := by
  obtain ⟨hsize, harea, hpos⟩ := h
  have hlogical : entry.2.logicalPos =
      entry.2.clamped (Data.scaleByWorkingArea entry.2.workingArea entry.2.pos) :=
    (congrArg Data.logicalPos hpos).symm
  have hdata : ({ entry.2 with size := entry.1.tileSize, workingArea := area } : Data) = entry.2 := by
    rw [← hsize, ← harea]
  refine ⟨?_, ?_, ?_, ?_⟩
  · rw [hdata, ← harea]
    exact hlogical
  · rw [hlogical, ← hsize, ← harea]
    exact Data.overlap_keepOnScreen _ _ _ _
  · rw [hlogical, ← hsize, ← harea]
    exact Data.overlap_keepOnScreen _ _ _ _
  · rw [← harea]
    exact fun hw hh pos hclamped => Data.setLogicalPos_of_clamped hw hh hclamped

/-- In every reachable space a floating tile is where its relative position says, with enough of
it on the screen, and stays there when it is put there again. -/
theorem attained_placed (h : Attained s) : ∀ entry ∈ s.entries, Placed s.workingArea entry :=
  fun entry hentry => (attained_synced h entry hentry).placed

end FloatingSpace

/-- A floating space, and a window with the given size in it. -/
def Sample.opened (workingArea : Rect) (size : ISize) :
    List (Clock × FloatingSpace.Op Toplevel ℕ) :=
  [(clock, .updateConfig ⟨1920, 1080⟩ workingArea 1 options),
    (clock, .addTile { tile 1 with window := { toplevel 1 with size } } true)]

namespace FloatingSpace

/-- A window that is narrower than what is to stay on the screen, and a working area that is
narrower than one pixel. -/
theorem not_attained_placed :
    (∃ s : FloatingSpace Sample.Toplevel ℕ, Attained s ∧
      s.workingArea = ⟨⟨0, 0⟩, ⟨1920, 1080⟩⟩ ∧ ∃ entry ∈ s.entries,
        overlap entry.2.logicalPos.x entry.1.tileSize.w 0 1920 <
          Data.minOnScreen entry.1.tileSize.w) ∧
    ∃ s : FloatingSpace Sample.Toplevel ℕ, Attained s ∧
      s.workingArea = ⟨⟨0, 0⟩, ⟨1 / 2, 1080⟩⟩ ∧ ∃ entry ∈ s.entries,
        entry.2.clamped ⟨-50, 0⟩ = ⟨-50, 0⟩ ∧
          (entry.2.setLogicalPos ⟨-50, 0⟩).logicalPos ≠ ⟨-50, 0⟩ := by
  have hinitial : (machine Sample.Toplevel ℕ).initial Sample.desktop :=
    ⟨_, _, _, _, by decide, rfl⟩
  constructor
  · obtain ⟨s, hs, hp⟩ := exists_reachable id
      (p := fun s => decide (s.workingArea = ⟨⟨0, 0⟩, ⟨1920, 1080⟩⟩ ∧ ∃ entry ∈ s.entries,
        overlap entry.2.logicalPos.x entry.1.tileSize.w 0 1920 <
          Data.minOnScreen entry.1.tileSize.w))
      (Sample.opened ⟨⟨0, 0⟩, ⟨1920, 1080⟩⟩ ⟨5, 100⟩) hinitial (by decide +kernel)
    exact ⟨s, hs.attained, of_decide_eq_true hp⟩
  · obtain ⟨s, hs, hp⟩ := exists_reachable id
      (p := fun s => decide (s.workingArea = ⟨⟨0, 0⟩, ⟨1 / 2, 1080⟩⟩ ∧ ∃ entry ∈ s.entries,
        entry.2.clamped ⟨-50, 0⟩ = ⟨-50, 0⟩ ∧
          (entry.2.setLogicalPos ⟨-50, 0⟩).logicalPos ≠ ⟨-50, 0⟩))
      (Sample.opened ⟨⟨0, 0⟩, ⟨1 / 2, 1080⟩⟩ ⟨100, 100⟩) hinitial (by decide +kernel)
    exact ⟨s, hs.attained, of_decide_eq_true hp⟩

/-- The window is put where it is kept already. -/
theorem attained_placed_opened : ∃ (s : FloatingSpace Sample.Toplevel ℕ)
    (entry : Tile Sample.Toplevel × Data), entry ∈ s.entries ∧ Placed s.workingArea entry ∧
      (entry.2.setLogicalPos ⟨-50, 40⟩).logicalPos = ⟨-50, 40⟩ := by
  obtain ⟨s, hs, hp⟩ := exists_reachable id
    (p := fun s => decide (s.workingArea = ⟨⟨0, 0⟩, ⟨1920, 1080⟩⟩ ∧ ∃ entry ∈ s.entries,
      entry.2.clamped ⟨-50, 40⟩ = ⟨-50, 40⟩))
    (Sample.opened ⟨⟨0, 0⟩, ⟨1920, 1080⟩⟩ ⟨100, 100⟩)
    (show (machine Sample.Toplevel ℕ).initial Sample.desktop from ⟨_, _, _, _, by decide, rfl⟩)
    (by decide +kernel)
  obtain ⟨harea, entry, hentry, hclamped⟩ := of_decide_eq_true hp
  have hplaced := attained_placed hs.attained entry hentry
  refine ⟨s, entry, hentry, hplaced, hplaced.stays ?_ ?_ _ hclamped⟩ <;> rw [harea] <;> norm_num

end FloatingSpace

end Sol
