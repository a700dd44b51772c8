import Sol.FloatingRun
import Sol.Hits

/-!
# The rectangle of the active floating window

Where the pointer is put when the focus changes, and what a tablet is mapped to, is the rectangle
of the active window clipped to the working area.  The floating space has one active window and
one that is on top, and reads the rectangle of the one on top.

* `activeWindowVisualRectangle_eq_iff`: exactly when it is that of the active window.
-/

namespace Sol

namespace Rect

/-- `Rectangle::intersection`. -/
def intersection (r s : Rect) : Option Rect :=
  if r.overlaps s then
    let left := max r.loc.x s.loc.x
    let top := max r.loc.y s.loc.y
    let right := min (r.loc.x + r.size.w) (s.loc.x + s.size.w)
    let bottom := min (r.loc.y + r.size.h) (s.loc.y + s.size.h)
    some ⟨⟨left, top⟩, ⟨right - left, bottom - top⟩⟩
  else none

/-- Two rectangles that are both outside an area, or that end, on each of its sides, in the same
place or both beyond that side. -/
def ClippedAlike (area r s : Rect) : Prop :=
  area.overlaps r = area.overlaps s ∧ (area.overlaps r = true →
    (max area.loc.x r.loc.x = max area.loc.x s.loc.x ∧
        max area.loc.y r.loc.y = max area.loc.y s.loc.y) ∧
      min (area.loc.x + area.size.w) (r.loc.x + r.size.w) =
          min (area.loc.x + area.size.w) (s.loc.x + s.size.w) ∧
        min (area.loc.y + area.size.h) (r.loc.y + r.size.h) =
          min (area.loc.y + area.size.h) (s.loc.y + s.size.h))

theorem intersection_eq_iff {area r s : Rect} :
    area.intersection r = area.intersection s ↔ ClippedAlike area r s := by
  unfold intersection ClippedAlike
  cases area.overlaps r <;> cases area.overlaps s
  · simp
  · simp
  · simp
  · simp only [if_true, Option.some.injEq, Rect.mk.injEq, Point.mk.injEq, Size.mk.injEq, true_and,
      true_implies]
    -- the extents are the same exactly when the far edges are, as the near ones are
    refine and_congr_right fun hloc => ?_
    rw [hloc.1, hloc.2, sub_left_inj, sub_left_inj]

end Rect

open Panicking

variable {W Id : Type} [LayoutElement W Id]

/-- The geometry of the window of a tile, where it is in the space. -/
def windowRect (frame : Frame Id) (entry : Tile W × Data) : Rect :=
  ⟨entry.2.logicalPos + entry.1.animatedWindowLoc frame, entry.1.windowSize⟩

namespace FloatingSpace

variable [ClientOwned W] [DecidableEq Id] {s : FloatingSpace W Id}

/-- The first tile is the one on top. -/
def activeWindowVisualRectangle (self : FloatingSpace W Id) (frame : Frame Id) : Option Rect := do
  let (tile, offset) ← self.tilesWithOffsets.head?
  let windowPos := offset + tile.animatedWindowLoc frame
  let windowSize := tile.windowSize
  let windowRect : Rect := ⟨windowPos, windowSize⟩
  self.workingArea.intersection windowRect

/-- The tile of the active window, with its data. -/
def activeEntry (s : FloatingSpace W Id) : Option (Tile W × Data) :=
  s.entries.find? fun entry => some entry.1.windowId = s.activeWindowId

def visualRectangle (s : FloatingSpace W Id) (frame : Frame Id) (entry : Tile W × Data) :
    Option Rect :=
  s.workingArea.intersection (windowRect frame entry)

/-- The active window, if there is one, is on top. -/
def ActiveOnTop (s : FloatingSpace W Id) : Prop :=
  s.tiles.head?.map (·.windowId) = s.activeWindowId

omit [ClientOwned W] [DecidableEq Id] in
theorem activeWindowVisualRectangle_eq (frame : Frame Id) :
    s.activeWindowVisualRectangle frame = s.entries.head?.bind (s.visualRectangle frame) := by
  have hentries : s.tilesWithOffsets = s.entries.map fun entry => (entry.1, entry.2.logicalPos) :=
    List.zip_map_right
  rw [activeWindowVisualRectangle, hentries, List.head?_map]
  cases s.entries.head? <;> rfl

theorem attained_wellFormed (h : Attained s) : s.WellFormed := by
  refine Machine.ReachableBy.invariant h ?_ fun s a hs ha => step_wellFormed hs a.1 ha
  rintro s ⟨viewSize, workingArea, scale, options, hpresets, rfl⟩
  exact wellFormed_new viewSize workingArea scale hpresets

omit [ClientOwned W] in
/-- The active window is among the tiles. -/
theorem exists_activeEntry (h : s.WellFormed) {id : Id} (hid : s.activeWindowId = some id) :
    ∃ entry, s.activeEntry = some entry ∧ entry.1.windowId = id := by
  obtain ⟨tile, htile, rfl⟩ := List.mem_map.mp (h.active_mem id hid)
  rw [← List.map_fst_zip h.length_data.ge, List.mem_map] at htile
  obtain ⟨entry, hentry, rfl⟩ := htile
  cases hfind : s.activeEntry with
  | none =>
    exact absurd (decide_eq_true hid.symm) (List.find?_eq_none.mp hfind entry hentry)
  | some active =>
    have hactive := List.find?_some hfind
    refine ⟨active, rfl, ?_⟩
    exact Option.some.inj ((of_decide_eq_true hactive).trans hid)

omit [ClientOwned W] [DecidableEq Id] in
/-- A window is on top exactly if its entry is the first one. -/
theorem activeOnTop_iff (h : s.WellFormed) :
    s.ActiveOnTop ↔ s.entries.head?.map (·.1.windowId) = s.activeWindowId := by
  have htiles : s.tiles = s.entries.map Prod.fst := (List.map_fst_zip h.length_data.ge).symm
  rw [ActiveOnTop, htiles, List.head?_map, Option.map_map]
  rfl

/-- **The rectangle of the active window.**  In every reachable space the rectangle is that of the
active window exactly if this window is on top, or is clipped like the one that is. -/
theorem activeWindowVisualRectangle_eq_iff (h : Attained s) (frame : Frame Id) :
    s.activeWindowVisualRectangle frame = s.activeEntry.bind (s.visualRectangle frame) ↔
      s.ActiveOnTop ∨ ∀ top ∈ s.entries.head?, ∀ active ∈ s.activeEntry,
        Rect.ClippedAlike s.workingArea (windowRect frame top) (windowRect frame active) := by
  have hwf := attained_wellFormed h
  rw [activeWindowVisualRectangle_eq, activeOnTop_iff hwf]
  cases hactive : s.activeWindowId with
  | none =>
    have hempty : s.tiles = [] := hwf.active_eq_none.mp hactive
    have hentries : s.entries = [] := by rw [entries, hempty, List.zip_nil_left]
    rw [activeEntry, hentries]
    exact iff_of_true rfl (.inl rfl)
  | some id =>
    obtain ⟨active, hentry, hid⟩ := exists_activeEntry hwf hactive
    rw [hentry]
    cases hhead : s.entries.head? with
    | none =>
      rw [activeEntry, List.head?_eq_none_iff.mp hhead] at hentry
      cases hentry
    | some top =>
      have hclipped : s.visualRectangle frame top = s.visualRectangle frame active ↔
          Rect.ClippedAlike s.workingArea (windowRect frame top) (windowRect frame active) :=
        Rect.intersection_eq_iff
      rw [Option.bind_some, Option.bind_some, hclipped, Option.map_some, Option.some.injEq]
      constructor
      · rintro halike
        refine .inr fun _ htop _ hmem => ?_
        cases htop
        cases hmem
        exact halike
      · rintro (hontop | halike)
        · -- the first entry with the active window is the first one
          obtain ⟨l, hl⟩ := List.head?_eq_some_iff.mp hhead
          have hfirst : s.activeEntry = some top := by
            rw [activeEntry, hl, List.find?_cons_of_pos]
            exact decide_eq_true ((congrArg some hontop).trans hactive.symm)
          obtain rfl := Option.some.inj (hentry.symm.trans hfirst)
          exact Rect.intersection_eq_iff.mp rfl
        · exact halike top rfl active rfl

end FloatingSpace

namespace Sample

/-- Opens a window and another one over it that is a dialog of the first one if it is to be,
moves the second one to the left, and goes back to the first one. -/
def goingBack (second : Tile Toplevel) (back : FloatingSpace.Op Toplevel ℕ) :
    List (Clock × FloatingSpace.Op Toplevel ℕ) :=
  [(clock, .addTile (tile 1) true), (clock, .addTile second true), (clock, .moveLeft),
    (clock, back)]

end Sample

namespace FloatingSpace

/-- The lower window is activated without raising it, or it is raised below its dialog: the
rectangle is that of the other window, further to the left. -/
theorem activeWindowVisualRectangle_ne :
    (∃ s : FloatingSpace Sample.Toplevel ℕ, Reachable s ∧ s.windowIds = [2, 1] ∧
      s.activeWindowId = some 1 ∧ s.activeWindowVisualRectangle Sample.stillFrame ≠
        s.activeEntry.bind (s.visualRectangle Sample.stillFrame)) ∧
    ∃ s : FloatingSpace Sample.Toplevel ℕ, Reachable s ∧ s.windowIds = [2, 1] ∧
      s.activeWindowId = some 1 ∧ (Sample.dialog 2 1).kin ∈ s.lineage ∧
        s.activeWindowVisualRectangle Sample.stillFrame ≠
          s.activeEntry.bind (s.visualRectangle Sample.stillFrame) := by
  have hinitial : (machine Sample.Toplevel ℕ).initial Sample.desktop :=
    ⟨_, _, _, _, by decide, rfl⟩
  constructor
  · obtain ⟨s, hs, hp⟩ := exists_reachable id
      (Sample.goingBack (Sample.tile 2) (.activateWindowWithoutRaising 1)) hinitial
      (p := fun s => decide (s.windowIds = [2, 1] ∧ s.activeWindowId = some 1 ∧
        s.activeWindowVisualRectangle Sample.stillFrame ≠
          s.activeEntry.bind (s.visualRectangle Sample.stillFrame))) (by decide +kernel)
    exact ⟨s, hs, of_decide_eq_true hp⟩
  · obtain ⟨s, hs, hp⟩ := exists_reachable id
      (Sample.goingBack (Sample.dialog 2 1) (.activateWindow 1)) hinitial
      (p := fun s => decide (s.windowIds = [2, 1] ∧ s.activeWindowId = some 1 ∧
        (Sample.dialog 2 1).kin ∈ s.lineage ∧ s.activeWindowVisualRectangle Sample.stillFrame ≠
          s.activeEntry.bind (s.visualRectangle Sample.stillFrame))) (by decide +kernel)
    exact ⟨s, hs, of_decide_eq_true hp⟩

/-- The lower window is raised. -/
theorem activeWindowVisualRectangle_eq_raised : ∃ s : FloatingSpace Sample.Toplevel ℕ,
    s.windowIds = [1, 2] ∧ (s.activeWindowVisualRectangle Sample.stillFrame).isSome = true ∧
      s.activeWindowVisualRectangle Sample.stillFrame =
        s.activeEntry.bind (s.visualRectangle Sample.stillFrame) := by
  obtain ⟨s, hs, hp⟩ := exists_reachable id
    (Sample.goingBack (Sample.tile 2) (.activateWindow 1))
    (show (machine Sample.Toplevel ℕ).initial Sample.desktop from ⟨_, _, _, _, by decide, rfl⟩)
    (p := fun s => decide (s.windowIds = [1, 2] ∧ s.activeWindowId = some 1 ∧
      (s.activeWindowVisualRectangle Sample.stillFrame).isSome = true)) (by decide +kernel)
  obtain ⟨hids, hactive, hsome⟩ := of_decide_eq_true hp
  have hontop : s.ActiveOnTop := by
    rw [ActiveOnTop, hactive, ← List.head?_map]
    exact congrArg List.head? hids
  exact ⟨s, hids, hsome, (activeWindowVisualRectangle_eq_iff hs.attained _).mpr (.inl hontop)⟩

end FloatingSpace

end Sol
