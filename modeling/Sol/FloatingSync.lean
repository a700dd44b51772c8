import Sol.Dialogs
import Sol.Modes

/-!
# The data of floating tiles

The data that the floating space keeps beside a tile, with the size of the tile and the working
area, and the position that follows from them.  What takes no tile to another place keeps them
up to date.

* `updateConfig_touched`, `moveTo_touched` and so on: operation by operation.
-/

namespace Sol

open Panicking Lineage ClientOwned

variable {W Id : Type} [LayoutElement W Id] [ClientOwned W]

namespace FloatingSpace

variable {s t u : FloatingSpace W Id}

/-! ### Tiles with the same size -/

theorem kin_updateConfig (tile : Tile W) (viewSize : Size) (scale : ℚ) (options : Options) :
    (tile.updateConfig viewSize scale options).kin = tile.kin := rfl

/-- A tile whose window was asked for a size. -/
theorem kin_request {tile tile' : Tile W} {size : ISize} {animate : Bool}
    (h : tile'.window = LayoutElement.requestSizeOnce tile.window size animate) :
    tile'.kin = tile.kin := by
  simp [Tile.kin, Tile.windowId, h]

omit [ClientOwned W] in
/-- The size of a tile is that of its window with the border around it. -/
theorem tileSize_congr {tile tile' : Tile W}
    (hwindow : LayoutElement.size tile'.window = LayoutElement.size tile.window)
    (hrest : (tile'.sizingMode, tile'.border, tile'.viewSize, tile'.scale) =
      (tile.sizingMode, tile.border, tile.viewSize, tile.scale)) :
    tile'.tileSize = tile.tileSize := by
  simp only [Prod.mk.injEq] at hrest
  obtain ⟨hmode, hborder, hview, hscale⟩ := hrest
  simp only [Tile.tileSize, Tile.windowSize, Tile.sizeAround, Tile.effectiveBorderWidth, hwindow,
    hmode, hborder, hview, hscale]

/-! ### Data -/

section Data

variable {area : Rect} {tile : Tile W} {d : Data}

omit [ClientOwned W] in
theorem inSync_setLogicalPos (hsize : d.size = tile.tileSize) (harea : d.workingArea = area)
    (pos : Point) : InSync area (tile, d.setLogicalPos pos) := ⟨hsize, harea, rfl⟩

omit [ClientOwned W] in
theorem inSync_update (harea : d.workingArea = area) (hpos : d.recomputeLogicalPos = d) :
    InSync area (tile, d.update tile) := by
  unfold Data.update
  split_ifs with hsize
  · exact ⟨hsize, harea, hpos⟩
  · exact ⟨rfl, harea, rfl⟩

omit [ClientOwned W] in
theorem inSync_updateConfig {old : Rect} (h : InSync old (tile, d)) :
    InSync area (tile, d.updateConfig area) := by
  unfold Data.updateConfig
  split_ifs with harea
  · exact ⟨h.size_eq, harea, h.recomputed⟩
  · exact ⟨h.size_eq, rfl, rfl⟩

omit [ClientOwned W] in
theorem size_update (d : Data) (tile : Tile W) : (d.update tile).size = tile.tileSize := by
  unfold Data.update
  split_ifs with hsize
  · exact hsize
  · rfl

omit [ClientOwned W] in
theorem workingArea_update (d : Data) (tile : Tile W) :
    (d.update tile).workingArea = d.workingArea := by
  unfold Data.update
  split_ifs <;> rfl

omit [ClientOwned W] in
theorem inSync_new (pos : Point) : InSync area (tile, Data.new area tile pos) :=
  inSync_setLogicalPos (d := Data.update ⟨.zero, .zero, ⟨0, 0⟩, area⟩ tile) (size_update _ tile)
    (workingArea_update _ tile) pos

end Data

/-! ### Operations that move no tile to another place -/

theorem updateConfig_touched (viewSize : Size) (workingArea : Rect) (scale : ℚ)
    (options : Options) : Touched s (s.updateConfig viewSize workingArea scale options) := by
  refine ⟨?_, fun hs entry hentry => ?_⟩
  · simp [lineage, updateConfig, Function.comp_def, kin_updateConfig]
  · obtain ⟨i, hi, hd⟩ := mem_entries.mp hentry
    obtain ⟨tile, htile, heq⟩ := Option.map_eq_some_iff.mp ((List.getElem?_map ..).symm.trans hi)
    obtain ⟨⟨tile', d⟩, hzip, hd'⟩ :=
      Option.map_eq_some_iff.mp ((List.getElem?_map ..).symm.trans hd)
    obtain ⟨htile', hold⟩ := List.getElem?_zip_eq_some.mp hzip
    obtain rfl : tile' = entry.1 := Option.some.inj (htile'.symm.trans hi)
    have hsync := hs (tile, d) (mem_entries.mpr ⟨i, htile, hold⟩)
    have hold : InSync s.workingArea (entry.1, d.update entry.1) :=
      inSync_update hsync.workingArea_eq hsync.recomputed
    have hupdated : InSync workingArea (entry.1, (d.update entry.1).updateConfig workingArea) :=
      inSync_updateConfig hold
    rw [show entry = (entry.1, entry.2) from rfl, ← hd']
    exact hupdated

theorem advanceAnimations_touched (clock : Clock) : Touched s (s.advanceAnimations clock) :=
  touched_mapTiles (fun _ => rfl) fun _ => rfl

variable [DecidableEq Id]

theorem refresh_touched (isActive isFocused : Bool) : Touched s (s.refresh isActive isFocused) := by
  refine touched_mapTiles (fun tile => ?_) fun tile => tileSize_congr ?_ ?_
  all_goals
    unfold refreshTile
    dsimp only
    split <;> simp [Tile.kin, Tile.windowId]

theorem setWindowWidth_touched (id : Option Id) (change : SizeChange) (animate : Bool) :
    Ensures (s.setWindowWidth id change animate) (Touched s) := by
  unfold setWindowWidth
  split
  · exact ensures_pure.mpr (.refl s)
  · simp only [ensures_bind, ensures_unwrap, Vec.ensures_get, ensures_pure]
    exact fun i _ tile htile => touched_setTile htile (kin_request rfl)
      (tileSize_congr (size_requestSizeOnce _ _ _) rfl)

theorem setWindowHeight_touched (id : Option Id) (change : SizeChange) (animate : Bool) :
    Ensures (s.setWindowHeight id change animate) (Touched s) := by
  unfold setWindowHeight
  split
  · exact ensures_pure.mpr (.refl s)
  · simp only [ensures_bind, ensures_unwrap, Vec.ensures_get, ensures_pure]
    exact fun i _ tile htile => touched_setTile htile (kin_request rfl)
      (tileSize_congr (size_requestSizeOnce _ _ _) rfl)

theorem interactiveResizeEnd_touched (window : Option Id) :
    Touched s (s.interactiveResizeEnd window) := by
  unfold interactiveResizeEnd
  split
  · exact .refl s
  · split_ifs
    · exact touched_of_eq rfl rfl rfl
    · exact .refl s

theorem toggleWindowWidth_touched (id : Option Id) (forwards : Bool) :
    Ensures (s.toggleWindowWidth id forwards) (Touched s) := by
  unfold toggleWindowWidth
  split
  · exact ensures_pure.mpr (.refl s)
  · simp only [ensures_bind, ensures_unwrap, Vec.ensures_get, Vec.ensures_modify, ensures_pure]
    intro i _ tile _ k _ preset _
    refine (setWindowWidth_touched _ _ true).mono fun t ht tile' htile => ht.trans ?_
    refine Touched.trans ?_ (interactiveResizeEnd_touched _)
    exact touched_setTile htile rfl rfl

theorem toggleWindowHeight_touched (id : Option Id) (forwards : Bool) :
    Ensures (s.toggleWindowHeight id forwards) (Touched s) := by
  unfold toggleWindowHeight
  split
  · exact ensures_pure.mpr (.refl s)
  · simp only [ensures_bind, ensures_unwrap, Vec.ensures_get, Vec.ensures_modify, ensures_pure]
    intro i _ tile _ k _ preset _
    refine (setWindowHeight_touched _ _ true).mono fun t ht tile' htile => ht.trans ?_
    refine Touched.trans ?_ (interactiveResizeEnd_touched _)
    exact touched_setTile htile rfl rfl

theorem interactiveResizeBegin_touched (window : Id) (edges : ResizeEdge) :
    Ensures (s.interactiveResizeBegin window edges) fun r => Touched s r.1 := by
  unfold interactiveResizeBegin
  simp only [ensures_ite, ensures_bind, ensures_unwrap, ensures_pure]
  exact ⟨fun _ => .refl s, fun _ _ _ => touched_of_eq rfl rfl rfl⟩

theorem interactiveResizeUpdate_touched (window : Id) (delta : Point) :
    Ensures (s.interactiveResizeUpdate window delta) fun r => Touched s r.1 := by
  unfold interactiveResizeUpdate
  split
  · exact ensures_pure.mpr (.refl s)
  · rename_i resize _
    have hwidth : Ensures (s.resizeUpdateWidth resize delta) (Touched s) :=
      ensures_ite.mpr ⟨fun _ => setWindowWidth_touched _ _ _, fun _ => ensures_pure.mpr (.refl s)⟩
    have hheight : ∀ t : FloatingSpace W Id,
        Ensures (t.resizeUpdateHeight resize delta) (Touched t) := fun t =>
      ensures_ite.mpr ⟨fun _ => setWindowHeight_touched _ _ _, fun _ => ensures_pure.mpr (.refl t)⟩
    simp only [ensures_ite, ensures_bind, ensures_pure]
    exact ⟨fun _ => .refl s, fun _ => hwidth.mono fun t ht => (hheight t).mono fun u => ht.trans⟩

omit [DecidableEq Id] in
theorem moveAndAnimate_touched (clock : Clock) (i : ℕ) (pos : Point) :
    Ensures (s.moveAndAnimate clock i pos) (Touched s) := by
  unfold moveAndAnimate
  simp only [ensures_bind, Vec.ensures_get, ensures_pure]
  intro tile htile d hd
  refine touched_set htile hd ?_ fun hsync => inSync_setLogicalPos ?_ hsync.workingArea_eq pos
  · split_ifs <;> rfl
  · exact hsync.size_eq.trans (by split_ifs <;> rfl)

theorem moveTo_touched (clock : Clock) (i : ℕ) (pos : Point) (animate : Bool) :
    Ensures (s.moveTo clock i pos animate) (Touched s) := by
  unfold moveTo
  cases animate with
  | true =>
    simp only [if_true, ensures_bind, ensures_pure]
    exact (moveAndAnimate_touched clock i pos).mono
      fun t ht => ht.trans (interactiveResizeEnd_touched none)
  | false =>
    simp only [Bool.false_eq_true, if_false, ensures_bind, Vec.ensures_modify, ensures_pure]
    refine fun d hd => Touched.trans ?_ (interactiveResizeEnd_touched none)
    refine ⟨rfl, fun hs entry hentry => ?_⟩
    obtain ⟨j, hj, hj'⟩ := mem_entries.mp hentry
    simp only [List.getElem?_set] at hj'
    split_ifs at hj' with hij hlt
    · subst hij
      have hsync := hs (entry.1, d) (mem_entries.mpr ⟨i, hj, hd⟩)
      rw [show entry = (entry.1, entry.2) from rfl, ← Option.some.inj hj']
      exact inSync_setLogicalPos hsync.size_eq hsync.workingArea_eq pos
    · exact hs entry (mem_entries.mpr ⟨j, hj, hj'⟩)

theorem moveBy_touched (clock : Clock) (amount : Point) :
    Ensures (s.moveBy clock amount) (Touched s) := by
  unfold moveBy
  split
  · exact ensures_pure.mpr (.refl s)
  · simp only [ensures_bind, ensures_unwrap, Vec.ensures_get]
    exact fun i _ d _ => moveTo_touched clock i _ true

theorem moveWindow_touched (clock : Clock) (id : Option Id) (x y : PositionChange)
    (animate : Bool) : Ensures (s.moveWindow clock id x y animate) (Touched s) := by
  unfold moveWindow
  split
  · exact ensures_pure.mpr (.refl s)
  · simp only [ensures_bind, ensures_unwrap, Vec.ensures_get]
    exact fun i _ d _ => moveTo_touched clock i _ animate

theorem centerWindow_touched (clock : Clock) (id : Option Id) :
    Ensures (s.centerWindow clock id) (Touched s) := by
  unfold centerWindow
  split
  · exact ensures_pure.mpr (.refl s)
  · simp only [ensures_bind, ensures_unwrap, Vec.ensures_get]
    exact fun i _ d _ => moveTo_touched clock i _ true

theorem activateWindowWithoutRaising_touched (id : Id) :
    Touched s (s.activateWindowWithoutRaising id).1 := by
  unfold activateWindowWithoutRaising
  split_ifs
  · exact touched_of_eq rfl rfl rfl
  · exact .refl s

/-! ### Operations that take tiles to other places -/

omit [ClientOwned W] [DecidableEq Id] in
theorem Synced.of_subset (hs : Synced s) (harea : t.workingArea = s.workingArea)
    (hsub : ∀ entry ∈ t.entries, entry ∈ s.entries) : Synced t := by
  intro entry hentry
  rw [harea]
  exact hs entry (hsub entry hentry)

omit [LayoutElement W Id] [ClientOwned W] [DecidableEq Id] in
/-- An entry that was put in is the new one, or was there. -/
theorem mem_entries_insertIdx {i : ℕ} {tile : Tile W} {d : Data} {entry : Tile W × Data}
    (h : entry ∈ ({ s with
      tiles := s.tiles.insertIdx i tile
      data := s.data.insertIdx i d } : FloatingSpace W Id).entries) :
    entry = (tile, d) ∨ entry ∈ s.entries := by
  obtain ⟨j, hj, hd⟩ := mem_entries.mp h
  simp only [List.getElem?_insertIdx] at hj hd
  split_ifs at hj hd with hlt heq
  · exact .inr (mem_entries.mpr ⟨j, hj, hd⟩)
  · exact .inl (Prod.ext (Option.some.inj hj).symm (Option.some.inj hd).symm)
  · exact .inr (mem_entries.mpr ⟨j - 1, hj, hd⟩)

omit [LayoutElement W Id] [ClientOwned W] [DecidableEq Id] in
theorem mem_entries_eraseIdx {i : ℕ} {entry : Tile W × Data}
    (h : entry ∈ ({ s with
      tiles := s.tiles.eraseIdx i
      data := s.data.eraseIdx i } : FloatingSpace W Id).entries) : entry ∈ s.entries := by
  obtain ⟨j, hj, hd⟩ := mem_entries.mp h
  simp only [List.getElem?_eraseIdx] at hj hd
  split_ifs at hj hd with hlt
  · exact mem_entries.mpr ⟨j, hj, hd⟩
  · exact mem_entries.mpr ⟨j + 1, hj, hd⟩

omit [ClientOwned W] [DecidableEq Id] in
theorem raiseWindow_synced (hs : Synced s) (i j : ℕ) : Ensures (s.raiseWindow i j) Synced := by
  unfold raiseWindow
  simp only [ensures_bind, ensures_assert, Vec.ensures_remove, Vec.ensures_insert, ensures_pure]
  intro _ tile htile d hd _ _
  refine hs.of_subset rfl fun entry hentry => ?_
  rcases mem_entries_insertIdx (s := { s with
    tiles := s.tiles.eraseIdx i
    data := s.data.eraseIdx i }) hentry with rfl | hold
  · exact mem_entries.mpr ⟨i, htile, hd⟩
  · exact mem_entries_eraseIdx hold

omit [ClientOwned W] [DecidableEq Id] in
theorem raiseAll_synced (hs : Synced s) (idx : ℕ) (ds : List ℕ) :
    Ensures (s.raiseAll idx ds) Synced := by
  induction ds generalizing s idx with
  | nil => exact ensures_pure.mpr hs
  | cons d ds ih =>
    unfold raiseAll
    rw [ensures_bind]
    exact (raiseWindow_synced hs d idx).mono fun t ht => ih ht (idx + 1)

omit [ClientOwned W] [DecidableEq Id] in
theorem bringUpDescendantsOf_synced (hs : Synced s) (idx : ℕ) :
    Ensures (s.bringUpDescendantsOf idx) Synced := by
  unfold bringUpDescendantsOf
  simp only [ensures_bind, Vec.ensures_get]
  exact fun _ _ => raiseAll_synced hs idx _

omit [ClientOwned W] in
theorem activateWindow_synced (hs : Synced s) (id : Id) :
    Ensures (s.activateWindow id) fun r => Synced r.1 := by
  unfold activateWindow
  split
  · exact ensures_pure.mpr hs
  · simp only [ensures_bind, ensures_pure]
    refine (raiseWindow_synced hs _ 0).mono fun t ht => ?_
    exact bringUpDescendantsOf_synced (s := { t with activeWindowId := some id }) ht 0

omit [ClientOwned W] in
theorem activateFound_synced (hs : Synced s) (found : Option (Tile W × ℚ)) :
    Ensures (s.activateFound found) fun r => Synced r.1 := by
  unfold activateFound
  split
  · exact ensures_pure.mpr hs
  · simp only [ensures_bind, ensures_pure]
    exact activateWindow_synced hs _

omit [ClientOwned W] in
theorem focusDirectional_synced (hs : Synced s) (distance : Point → Point → ℚ) :
    Ensures (s.focusDirectional distance) fun r => Synced r.1 := by
  unfold focusDirectional
  split
  · exact ensures_pure.mpr hs
  · simp only [ensures_bind, ensures_unwrap, Vec.ensures_get]
    exact fun _ _ _ _ => activateFound_synced hs _

omit [ClientOwned W] in
theorem focusLeast_synced (hs : Synced s) (coordinate : Point → ℚ) :
    Ensures (s.focusLeast coordinate) Synced := by
  unfold focusLeast
  simp only [ensures_bind, ensures_pure]
  exact activateFound_synced hs _

omit [ClientOwned W] in
theorem focusGreatest_synced (hs : Synced s) (coordinate : Point → ℚ) :
    Ensures (s.focusGreatest coordinate) Synced := by
  unfold focusGreatest
  simp only [ensures_bind, ensures_pure]
  exact activateFound_synced hs _

omit [ClientOwned W] in
theorem descendantsAdded_synced (hs : Synced s) (id : Id) :
    Ensures (s.descendantsAdded id) fun r => Synced r.1 := by
  unfold descendantsAdded
  split
  · exact ensures_pure.mpr hs
  · simp only [ensures_bind, ensures_pure]
    exact bringUpDescendantsOf_synced hs _

omit [ClientOwned W] [DecidableEq Id] in
theorem addTileAt_synced (hs : Synced s) (idx : ℕ) (tile : Tile W) (activate : Bool) :
    Ensures (s.addTileAt idx tile activate) Synced := by
  unfold addTileAt
  simp only [ensures_bind, Vec.ensures_insert]
  intro _ _
  refine bringUpDescendantsOf_synced (fun entry hentry => ?_) _
  rcases mem_entries_insertIdx (s := s) hentry with rfl | hold
  · exact inSync_new _
  · exact hs entry hold

omit [ClientOwned W] in
theorem removeTile_synced (hs : Synced s) (id : Id) :
    Ensures (s.removeTile id) fun r => Synced r.2 := by
  unfold removeTile removeTileByIdx
  simp only [ensures_bind, ensures_unwrap, Vec.ensures_remove, ensures_pure]
  intro i _ tile _ d _ active _
  exact hs.of_subset rfl fun entry hentry => mem_entries_eraseIdx (s := s) hentry

end FloatingSpace

end Sol
