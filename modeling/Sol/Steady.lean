import Sol.Requests
import Sol.WorkspaceMachine

/-!
# What leaves takeovers alone

The operations of the floating space and of a workspace seen from the tiles.  A
workspace operation that adds and removes nothing, and is not about a takeover
or about floating, leaves every column's takeover alone, and requests nothing but
sizes from the floating windows.

* `FloatingSpace.Steady`, `ScrollingSpace.Steady`, `Workspace.Steady`;
* `Workspace.step_steady`: the operations that leave takeovers alone.
-/

namespace Sol

open Panicking

variable {W Id : Type} [LayoutElement W Id]

/-- A floating tile that was asked for nothing but sizes. -/
inductive Tile.Steady (a : Tile W) : Tile W → Prop
  | refl : Steady a a
  | retile {b : Tile W} (h : Steady a b) (tile : Tile W) (htile : Tile.Quiet b tile) :
    Steady a tile
  | request {b : Tile W} (h : Steady a b) (size : ISize) (animate : Bool) :
    Steady a { b with window := LayoutElement.requestSizeOnce b.window size animate }

theorem Tile.Quiet.steady {a b : Tile W} (h : Tile.Quiet a b) : Tile.Steady a b := .retile .refl b h

/-- A tile that differs in what its window was asked for last, and does not matter else. -/
theorem Tile.steady_request {a b : Tile W} {size : ISize} {animate : Bool}
    (hwindow : b.window = LayoutElement.requestSizeOnce a.window size animate)
    (hrestore : b.restoreToFloating = a.restoreToFloating) (hview : b.viewSize = a.viewSize) :
    Tile.Steady a b :=
  (Tile.Steady.refl.request size animate).retile b ⟨hwindow ▸ .refl, hrestore, hview⟩

namespace Tile.Steady

variable {a b c : Tile W}

theorem trans (h : Tile.Steady a b) (h' : Tile.Steady b c) : Tile.Steady a c := by
  induction h' with
  | refl => exact h
  | retile _ tile htile ih => exact ih.retile tile htile
  | request _ size animate ih => exact ih.request size animate

theorem windowId_eq (h : Tile.Steady a b) : b.windowId = a.windowId := by
  induction h with
  | refl => rfl
  | retile _ tile htile ih => exact htile.window.id_eq.trans ih
  | request _ size animate ih => exact (LayoutElement.id_requestSizeOnce _ _ _).trans ih

theorem viewSize_eq (h : Tile.Steady a b) : b.viewSize = a.viewSize := by
  induction h with
  | refl => rfl
  | retile _ tile htile ih => exact htile.viewSize_eq.trans ih
  | request _ _ _ ih => exact ih

/-- A floating window that is not pending for a takeover is not afterwards. -/
theorem isNormal [PendsLastMode W] (h : Tile.Steady a b)
    (ha : LayoutElement.pendingSizingMode a.window = .normal) :
    LayoutElement.pendingSizingMode b.window = .normal := by
  induction h with
  | refl => exact ha
  | retile _ tile htile ih => exact htile.window.pendingSizingMode_eq.trans ih
  | request _ _ _ _ => exact PendsLastMode.requestSizeOnce _ _ _

end Tile.Steady

namespace Tile

variable (a : Tile W) (clock : Clock)

theorem quiet_animateMoveFrom (start : Point) : Quiet a (a.animateMoveFrom clock start) :=
  ⟨.refl, rfl, rfl⟩

theorem quiet_stopMoveAnimations : Quiet a a.stopMoveAnimations := ⟨.refl, rfl, rfl⟩

theorem quiet_advanceAnimations : Quiet a (a.advanceAnimations clock) := ⟨.refl, rfl, rfl⟩

end Tile

/-! ### The floating space -/

namespace FloatingSpace

variable {s t u : FloatingSpace W Id}

/-- Every tile comes from one that was there, and the view stays. -/
structure Steady (s t : FloatingSpace W Id) : Prop where
  tiles : ∀ b ∈ t.tiles, ∃ a ∈ s.tiles, Tile.Steady a b
  viewSize_eq : t.viewSize = s.viewSize

theorem Steady.refl (s : FloatingSpace W Id) : Steady s s := ⟨fun b hb => ⟨b, hb, .refl⟩, rfl⟩

theorem Steady.trans (h : Steady s t) (h' : Steady t u) : Steady s u := by
  refine ⟨fun c hc => ?_, h'.viewSize_eq.trans h.viewSize_eq⟩
  obtain ⟨b, hb, hbc⟩ := h'.tiles c hc
  obtain ⟨a, ha, hab⟩ := h.tiles b hb
  exact ⟨a, ha, hab.trans hbc⟩

/-- The other data of the space do not matter. -/
theorem steady_of_tiles (htiles : t.tiles = s.tiles) (hview : t.viewSize = s.viewSize) :
    Steady s t := ⟨fun b hb => ⟨b, htiles ▸ hb, .refl⟩, hview⟩

theorem steady_of_subset (htiles : ∀ b ∈ t.tiles, b ∈ s.tiles) (hview : t.viewSize = s.viewSize) :
    Steady s t := ⟨fun b hb => ⟨b, htiles b hb, .refl⟩, hview⟩

/-- One tile is changed in its place. -/
theorem steady_of_set {i : ℕ} {a b : Tile W} (ha : s.tiles[i]? = some a)
    (htiles : t.tiles = s.tiles.set i b) (hab : Tile.Steady a b) (hview : t.viewSize = s.viewSize) :
    Steady s t := by
  refine ⟨?_, hview⟩
  rw [htiles]
  exact Vec.forall_mem_set (P := fun b => ∃ a ∈ s.tiles, Tile.Steady a b)
    (fun c hc => ⟨c, hc, .refl⟩) ⟨a, List.mem_of_getElem? ha, hab⟩

theorem steady_mapTiles {f : Tile W → Tile W} (hf : ∀ a, Tile.Quiet a (f a)) :
    Steady s (s.mapTiles f) := by
  refine ⟨fun b hb => ?_, rfl⟩
  obtain ⟨a, ha, rfl⟩ := List.mem_map.mp hb
  exact ⟨a, ha, (hf a).steady⟩

theorem steady_modify {f : Tile W → Tile W} (hf : ∀ a, Tile.Quiet a (f a)) (i : ℕ) :
    Steady s { s with tiles := s.tiles.modify i f } := by
  refine ⟨fun b hb => ?_, rfl⟩
  obtain ⟨j, hj, rfl⟩ := List.getElem_of_mem hb
  rw [List.getElem_modify]
  split_ifs
  · exact ⟨_, List.getElem_mem _, (hf _).steady⟩
  · exact ⟨_, List.getElem_mem _, .refl⟩

omit [LayoutElement W Id] in
theorem raiseWindow_mem (i j : ℕ) : Ensures (s.raiseWindow i j) fun t =>
    (∀ b ∈ t.tiles, b ∈ s.tiles) ∧ t.viewSize = s.viewSize := by
  unfold raiseWindow
  simp only [ensures_bind, ensures_assert, Vec.ensures_remove, Vec.ensures_insert, ensures_pure]
  intro _ a ha d _ hlt _
  refine ⟨fun b hb => ?_, trivial⟩
  rcases List.mem_cons.mp ((List.perm_insertIdx a _ hlt).mem_iff.mp hb) with rfl | hb
  · exact List.mem_of_getElem? ha
  · exact List.mem_of_mem_eraseIdx hb

omit [LayoutElement W Id] in
theorem raiseAll_mem (idx : ℕ) (ds : List ℕ) : Ensures (s.raiseAll idx ds) fun t =>
    (∀ b ∈ t.tiles, b ∈ s.tiles) ∧ t.viewSize = s.viewSize := by
  induction ds generalizing s idx with
  | nil => exact ensures_pure.mpr ⟨fun _ hb => hb, rfl⟩
  | cons d ds ih =>
    unfold raiseAll
    rw [ensures_bind]
    refine (raiseWindow_mem d idx).mono fun t ht => ?_
    exact (ih (idx + 1)).mono fun u hu =>
      ⟨fun b hb => ht.1 b (hu.1 b hb), hu.2.trans ht.2⟩

theorem bringUpDescendantsOf_mem (idx : ℕ) : Ensures (s.bringUpDescendantsOf idx) fun t =>
    (∀ b ∈ t.tiles, b ∈ s.tiles) ∧ t.viewSize = s.viewSize := by
  unfold bringUpDescendantsOf
  simp only [ensures_bind, Vec.ensures_get]
  exact fun tile _ => raiseAll_mem idx _

/-- An added tile is brought to the view of the space and asked for its floating size. -/
theorem addTileAt_tiles (idx : ℕ) (tile : Tile W) (activate : Bool) :
    Ensures (s.addTileAt idx tile activate) fun t => t.viewSize = s.viewSize ∧
      ∀ b ∈ t.tiles, b ∈ s.tiles ∨ ∃ size, b = { tile.updateConfig s.viewSize s.scale s.options with
        window := LayoutElement.requestSizeOnce tile.window size true } := by
  unfold addTileAt
  simp only [ensures_bind, Vec.ensures_insert]
  intro _ hlt
  refine (bringUpDescendantsOf_mem _).mono fun t ht => ⟨ht.2, fun b hb => ?_⟩
  rcases List.mem_cons.mp ((List.perm_insertIdx _ _ hlt).mem_iff.mp (ht.1 b hb)) with rfl | hb
  · exact .inr ⟨_, rfl⟩
  · exact .inl hb

theorem advanceAnimations_steady (clock : Clock) : Steady s (s.advanceAnimations clock) :=
  steady_mapTiles fun a => a.quiet_advanceAnimations clock

section ById

variable [DecidableEq Id]

theorem removeTileByIdx_tiles (i : ℕ) : Ensures (s.removeTileByIdx i) fun r =>
    r.2.viewSize = s.viewSize ∧ (∀ b ∈ r.2.tiles, b ∈ s.tiles) ∧ r.1.isFloating = true ∧
      ∃ a, s.tiles[i]? = some a ∧ Tile.Quiet a r.1.tile := by
  unfold removeTileByIdx
  simp only [ensures_bind, Vec.ensures_remove, ensures_pure]
  intro a ha d _
  have hany : Ensures (s.activeAfterRemoval a (s.tiles.eraseIdx i)) fun _ => True :=
    fun _ _ => trivial
  exact hany.mono fun active _ => ⟨trivial, fun b hb => List.mem_of_mem_eraseIdx hb, trivial, a,
    ha, .refl, rfl, rfl⟩

/-- What is removed was there, and the rest stays. -/
structure TakenOut (s : FloatingSpace W Id) (id : Id) (removed : RemovedTile W)
    (t : FloatingSpace W Id) : Prop where
  isFloating : removed.isFloating = true
  tile : ∃ a ∈ s.tiles, a.windowId = id ∧ Tile.Quiet a removed.tile
  steady : Steady s t

theorem removeTile_takenOut (id : Id) :
    Ensures (s.removeTile id) fun r => TakenOut s id r.1 r.2 := by
  unfold removeTile
  simp only [ensures_bind, ensures_unwrap]
  intro i hi
  obtain ⟨hlt, hid, -⟩ := List.findIdx?_eq_some_iff_getElem.mp hi
  refine (removeTileByIdx_tiles i).mono fun r hr => ?_
  obtain ⟨hview, htiles, hfloats, a, ha, hquiet⟩ := hr
  obtain rfl := Option.some.inj ((List.getElem?_eq_getElem hlt).symm.trans ha)
  exact ⟨hfloats, ⟨_, List.getElem_mem hlt, of_decide_eq_true hid, hquiet⟩,
    steady_of_subset htiles hview⟩

theorem refresh_steady (isActive isFocused : Bool) : Steady s (s.refresh isActive isFocused) := by
  refine steady_mapTiles fun a => ?_
  unfold refreshTile
  dsimp only
  split
  · exact ⟨(((((Quiet.refl.setActiveInColumn _).setFloating _).setActivated _).setInteractiveResize
      _).setBounds _).sendPendingConfigure, rfl, rfl⟩
  · exact ⟨(((((Quiet.refl.setActiveInColumn _).setFloating _).setActivated _).setInteractiveResize
      _).setBounds _).sendPendingConfigure, rfl, rfl⟩
  · exact ⟨((((Quiet.refl.setActiveInColumn _).setFloating _).setActivated _).setInteractiveResize
      _).setBounds _, rfl, rfl⟩

theorem activateWindow_steady (id : Id) :
    Ensures (s.activateWindow id) fun r => Steady s r.1 := by
  unfold activateWindow
  split
  · exact ensures_pure.mpr (.refl s)
  · simp only [ensures_bind, ensures_pure]
    refine (raiseWindow_mem _ 0).mono fun t ht => ?_
    exact (bringUpDescendantsOf_mem 0).mono fun u hu =>
      steady_of_subset (fun b hb => ht.1 b (hu.1 b hb)) (hu.2.trans ht.2)

theorem activateWindowWithoutRaising_steady (id : Id) :
    Steady s (s.activateWindowWithoutRaising id).1 := by
  unfold activateWindowWithoutRaising
  split_ifs
  · exact steady_of_tiles rfl rfl
  · exact .refl s

theorem activateFound_steady (found : Option (Tile W × ℚ)) :
    Ensures (s.activateFound found) fun r => Steady s r.1 := by
  unfold activateFound
  split
  · exact ensures_pure.mpr (.refl s)
  · simp only [ensures_bind, ensures_pure]
    exact activateWindow_steady _

theorem focusDirectional_steady (distance : Point → Point → ℚ) :
    Ensures (s.focusDirectional distance) fun r => Steady s r.1 := by
  unfold focusDirectional
  split
  · exact ensures_pure.mpr (.refl s)
  · simp only [ensures_bind, ensures_unwrap, Vec.ensures_get]
    exact fun _ _ _ _ => activateFound_steady _

theorem focusLeast_steady (coordinate : Point → ℚ) :
    Ensures (s.focusLeast coordinate) (Steady s) := by
  unfold focusLeast
  simp only [ensures_bind, ensures_pure]
  exact activateFound_steady _

theorem focusGreatest_steady (coordinate : Point → ℚ) :
    Ensures (s.focusGreatest coordinate) (Steady s) := by
  unfold focusGreatest
  simp only [ensures_bind, ensures_pure]
  exact activateFound_steady _

theorem setWindowWidth_steady (id : Option Id) (change : SizeChange) (animate : Bool) :
    Ensures (s.setWindowWidth id change animate) (Steady s) := by
  unfold setWindowWidth
  split
  · exact ensures_pure.mpr (.refl s)
  · simp only [ensures_bind, ensures_unwrap, Vec.ensures_get, ensures_pure]
    exact fun i _ a ha => steady_of_set ha rfl (Tile.steady_request rfl rfl rfl) rfl

theorem setWindowHeight_steady (id : Option Id) (change : SizeChange) (animate : Bool) :
    Ensures (s.setWindowHeight id change animate) (Steady s) := by
  unfold setWindowHeight
  split
  · exact ensures_pure.mpr (.refl s)
  · simp only [ensures_bind, ensures_unwrap, Vec.ensures_get, ensures_pure]
    exact fun i _ a ha => steady_of_set ha rfl (Tile.steady_request rfl rfl rfl) rfl

theorem interactiveResizeEnd_steady (window : Option Id) :
    Steady s (s.interactiveResizeEnd window) := by
  unfold interactiveResizeEnd
  split
  · exact .refl s
  · split_ifs
    · exact steady_of_tiles rfl rfl
    · exact .refl s

theorem toggleWindowWidth_steady (id : Option Id) (forwards : Bool) :
    Ensures (s.toggleWindowWidth id forwards) (Steady s) := by
  unfold toggleWindowWidth
  split
  · exact ensures_pure.mpr (.refl s)
  · simp only [ensures_bind, ensures_unwrap, Vec.ensures_get, Vec.ensures_modify, ensures_pure]
    intro i _ a _
    have hany : ∀ x : Outcome ℕ, Ensures x fun _ => True := fun _ _ _ => trivial
    refine (hany _).mono fun k _ preset _ => ?_
    refine (setWindowWidth_steady _ _ true).mono fun t ht b hb => ht.trans ?_
    refine Steady.trans ?_ (interactiveResizeEnd_steady _)
    exact steady_of_set hb rfl (Tile.Quiet.steady ⟨.refl, rfl, rfl⟩) rfl

theorem toggleWindowHeight_steady (id : Option Id) (forwards : Bool) :
    Ensures (s.toggleWindowHeight id forwards) (Steady s) := by
  unfold toggleWindowHeight
  split
  · exact ensures_pure.mpr (.refl s)
  · simp only [ensures_bind, ensures_unwrap, Vec.ensures_get, Vec.ensures_modify, ensures_pure]
    intro i _ a _
    have hany : ∀ x : Outcome ℕ, Ensures x fun _ => True := fun _ _ _ => trivial
    refine (hany _).mono fun k _ preset _ => ?_
    refine (setWindowHeight_steady _ _ true).mono fun t ht b hb => ht.trans ?_
    refine Steady.trans ?_ (interactiveResizeEnd_steady _)
    exact steady_of_set hb rfl (Tile.Quiet.steady ⟨.refl, rfl, rfl⟩) rfl

theorem interactiveResizeBegin_steady (window : Id) (edges : ResizeEdge) :
    Ensures (s.interactiveResizeBegin window edges) fun r => Steady s r.1 := by
  unfold interactiveResizeBegin
  simp only [ensures_ite, ensures_bind, ensures_unwrap, ensures_pure]
  exact ⟨fun _ => .refl s, fun _ _ _ => steady_of_tiles rfl rfl⟩

theorem interactiveResizeUpdate_steady (window : Id) (delta : Point) :
    Ensures (s.interactiveResizeUpdate window delta) fun r => Steady s r.1 := by
  unfold interactiveResizeUpdate
  split
  · exact ensures_pure.mpr (.refl s)
  · rename_i resize _
    have hwidth : Ensures (s.resizeUpdateWidth resize delta) (Steady s) :=
      ensures_ite.mpr ⟨fun _ => setWindowWidth_steady _ _ _, fun _ => ensures_pure.mpr (.refl s)⟩
    have hheight : ∀ t : FloatingSpace W Id,
        Ensures (t.resizeUpdateHeight resize delta) (Steady t) := fun t =>
      ensures_ite.mpr ⟨fun _ => setWindowHeight_steady _ _ _, fun _ => ensures_pure.mpr (.refl t)⟩
    simp only [ensures_ite, ensures_bind, ensures_pure]
    exact ⟨fun _ => .refl s, fun _ => hwidth.mono fun t ht => (hheight t).mono fun u => ht.trans⟩

omit [DecidableEq Id] in
theorem moveAndAnimate_steady (clock : Clock) (i : ℕ) (pos : Point) :
    Ensures (s.moveAndAnimate clock i pos) (Steady s) := by
  unfold moveAndAnimate
  simp only [ensures_bind, Vec.ensures_get, ensures_pure]
  intro a ha d _
  refine steady_of_set ha rfl ?_ rfl
  split_ifs
  · exact (a.quiet_animateMoveFrom clock _).steady
  · exact .refl

theorem moveTo_steady (clock : Clock) (i : ℕ) (pos : Point) (animate : Bool) :
    Ensures (s.moveTo clock i pos animate) (Steady s) := by
  unfold moveTo
  cases animate with
  | true =>
    simp only [if_true, ensures_bind, ensures_pure]
    exact (moveAndAnimate_steady clock i pos).mono
      fun t ht => ht.trans (interactiveResizeEnd_steady none)
  | false =>
    simp only [Bool.false_eq_true, if_false, ensures_bind, Vec.ensures_modify, ensures_pure]
    refine fun d _ => Steady.trans ?_ (interactiveResizeEnd_steady none)
    exact steady_of_tiles rfl rfl

theorem moveBy_steady (clock : Clock) (amount : Point) :
    Ensures (s.moveBy clock amount) (Steady s) := by
  unfold moveBy
  split
  · exact ensures_pure.mpr (.refl s)
  · simp only [ensures_bind, ensures_unwrap, Vec.ensures_get]
    exact fun i _ d _ => moveTo_steady clock i _ true

theorem moveWindow_steady (clock : Clock) (id : Option Id) (x y : PositionChange)
    (animate : Bool) : Ensures (s.moveWindow clock id x y animate) (Steady s) := by
  unfold moveWindow
  split
  · exact ensures_pure.mpr (.refl s)
  · simp only [ensures_bind, ensures_unwrap, Vec.ensures_get]
    exact fun i _ d _ => moveTo_steady clock i _ animate

theorem centerWindow_steady (clock : Clock) (id : Option Id) :
    Ensures (s.centerWindow clock id) (Steady s) := by
  unfold centerWindow
  split
  · exact ensures_pure.mpr (.refl s)
  · simp only [ensures_bind, ensures_unwrap, Vec.ensures_get]
    exact fun i _ d _ => moveTo_steady clock i _ true

theorem descendantsAdded_steady (id : Id) :
    Ensures (s.descendantsAdded id) fun r => Steady s r.1 := by
  unfold descendantsAdded
  split
  · exact ensures_pure.mpr (.refl s)
  · simp only [ensures_bind, ensures_pure]
    exact (bringUpDescendantsOf_mem _).mono fun t ht => steady_of_subset ht.1 ht.2

theorem updateWindow_steady (id : Id) (serial : Option ℕ) :
    Ensures (s.updateWindow id serial) fun r => Steady s r.1 := by
  unfold updateWindow
  split
  · exact ensures_pure.mpr (.refl s)
  · simp only [ensures_bind, Vec.ensures_get, ensures_pure]
    intro a ha d _
    refine steady_of_set ha rfl (Tile.Quiet.steady ⟨?_, rfl, rfl⟩) rfl
    cases serial with
    | none => exact .refl
    | some serial => exact Quiet.refl.onCommit serial

end ById

end FloatingSpace

/-! ### The tiling space -/

namespace ScrollingSpace

variable {s t u : ScrollingSpace W}

/-- Every column comes from one that was there, with its takeover left alone, and
the view stays. -/
structure Steady (s t : ScrollingSpace W) : Prop where
  columns : Traced Column.Steady s.columns t.columns
  view_eq : t.view = s.view

theorem Steady.refl (s : ScrollingSpace W) : Steady s s := ⟨fun c hc => ⟨c, hc, .refl⟩, rfl⟩

theorem Steady.trans (h : Steady s t) (h' : Steady t u) : Steady s u :=
  ⟨h.columns.trans h'.columns fun _ _ _ => .trans, h'.view_eq.trans h.view_eq⟩

theorem Kept.steady (h : Kept s.columns s t) : Steady s t :=
  ⟨h.columns.mono fun _ _ => Column.Settled.steady, h.view_eq⟩

theorem Refocused.steady (h : Refocused s t) : Steady s t := h.kept.steady

theorem advanceAnimations_steady (clock : Clock) : Steady s (s.advanceAnimations clock) := by
  refine ⟨(advanceAnimations_traced clock).1.mono fun c d hd => ?_, rfl⟩
  exact hd ▸ Column.Steady.refl.retile _ (c.tile.quiet_advanceAnimations clock)

theorem refresh_steady (isActive isFocused : Bool) : Steady s (s.refresh isActive isFocused) := by
  refine ⟨(refresh_traced isActive isFocused).1.mono ?_, rfl⟩
  rintro c d ⟨activated, rfl⟩
  exact Column.Steady.refl.retile _ ⟨(((((Quiet.refl.setFloating _).setActiveInColumn
    _).setActivated _).setInteractiveResize _).setBounds _).sendPendingConfigure, rfl, rfl⟩

variable [DecidableEq Id]

theorem updateWindow_steady (window : Id) (serial : Option ℕ) :
    Steady s (s.updateWindow window serial) := by
  refine ⟨(updateWindow_traced window serial).1.mono ?_, (updateWindow_traced window serial).2⟩
  rintro c d (rfl | rfl)
  · exact .refl
  · refine Column.Steady.refl.retile _ ⟨?_, rfl, rfl⟩
    cases serial with
    | none => exact .refl
    | some serial => exact Quiet.refl.onCommit serial

/-- A tile is changed without a request to its window. -/
theorem modifyTile_steady {f : Tile W → Tile W} (hf : ∀ a, Tile.Quiet a (f a)) (window : Id) :
    Steady s (s.modifyColumnById window fun col => { col with tile := f col.tile }) :=
  ⟨modifyColumnById_traced (fun c => Column.Steady.refl.retile _ (hf c.tile)) (fun _ => .refl) _,
    view_modifyColumnById window _⟩

end ScrollingSpace

/-! ### Workspaces -/

namespace Workspace

variable {s t u : Workspace W Id}

/-- Both spaces are left alone in this sense, and so is the size of the view. -/
structure Steady (s t : Workspace W Id) : Prop where
  scrolling : s.scrolling.Steady t.scrolling
  floating : s.floating.Steady t.floating
  viewSize_eq : t.viewSize = s.viewSize

theorem Steady.refl (s : Workspace W Id) : Steady s s := ⟨.refl _, .refl _, rfl⟩

theorem Steady.trans (h : Steady s t) (h' : Steady t u) : Steady s u :=
  ⟨h.scrolling.trans h'.scrolling, h.floating.trans h'.floating,
    h'.viewSize_eq.trans h.viewSize_eq⟩

theorem steady_scrolling {scrolling : ScrollingSpace W} (h : s.scrolling.Steady scrolling) :
    Steady s { s with scrolling } := ⟨h, .refl _, rfl⟩

theorem steady_floating {floating : FloatingSpace W Id} (h : s.floating.Steady floating) :
    Steady s { s with floating } := ⟨.refl _, h, rfl⟩

/-- Which space is active does not matter. -/
theorem steady_active (active : FloatingActive) : Steady s { s with floatingIsActive := active } :=
  ⟨.refl _, .refl _, rfl⟩

theorem switchFocusFloatingTiling_steady : Steady s s.switchFocusFloatingTiling := by
  unfold switchFocusFloatingTiling
  split_ifs
  · exact .refl s
  · exact .refl s
  · exact steady_active _
  · exact steady_active _

theorem focusFloating_steady : Steady s s.focusFloating := by
  unfold focusFloating
  split_ifs
  · exact switchFocusFloatingTiling_steady
  · exact .refl s

theorem focusTiling_steady : Steady s s.focusTiling := by
  unfold focusTiling
  split_ifs
  · exact switchFocusFloatingTiling_steady
  · exact .refl s

variable [DecidableEq Id]

theorem onSpaceOf_steady (window : Option Id)
    {f : FloatingSpace W Id → Outcome (FloatingSpace W Id)}
    {g : ScrollingSpace W → Outcome (ScrollingSpace W)}
    (hf : Ensures (f s.floating) s.floating.Steady)
    (hg : Ensures (g s.scrolling) s.scrolling.Steady) :
    Ensures (s.onSpaceOf window f g) (Steady s) := by
  unfold onSpaceOf
  simp only [ensures_ite, ensures_bind, ensures_pure]
  exact ⟨fun _ => hf.mono fun _ => steady_floating, fun _ => hg.mono fun _ => steady_scrolling⟩

theorem trySpaceOf_steady (window : Option Id)
    {f : FloatingSpace W Id → Outcome (FloatingSpace W Id × Bool)}
    {g : ScrollingSpace W → Outcome (ScrollingSpace W × Bool)}
    (hf : Ensures (f s.floating) fun r => s.floating.Steady r.1)
    (hg : Ensures (g s.scrolling) fun r => s.scrolling.Steady r.1) :
    Ensures (s.trySpaceOf window f g) fun r => Steady s r.1 := by
  unfold trySpaceOf
  simp only [ensures_ite, ensures_bind, ensures_pure]
  exact ⟨fun _ => hf.mono fun _ => steady_floating, fun _ => hg.mono fun _ => steady_scrolling⟩

omit [LayoutElement W Id] [DecidableEq Id] in
theorem ensures_silently {σ : Type} {f : σ → Outcome (σ × Bool)} {a : σ} {P : σ → Prop}
    (h : Ensures (f a) fun r => P r.1) : Ensures (silently f a) P := by
  unfold silently
  simpa only [ensures_bind, ensures_pure] using h

omit [LayoutElement W Id] [DecidableEq Id] in
theorem ensures_alwaysDone {f : FloatingSpace W Id → Outcome (FloatingSpace W Id)}
    {floating : FloatingSpace W Id} {P : FloatingSpace W Id → Prop} (h : Ensures (f floating) P) :
    Ensures (alwaysDone f floating) fun r => P r.1 := by
  unfold alwaysDone
  simpa only [ensures_bind, ensures_pure] using h

omit [DecidableEq Id] in
theorem orElse_steady {first : Workspace W Id → Outcome (Workspace W Id × Bool)}
    {second : Workspace W Id → Outcome (Workspace W Id)}
    (hfirst : Ensures (first s) fun r => Steady s r.1)
    (hsecond : ∀ t, Ensures (second t) (Steady t)) : Ensures (s.orElse first second) (Steady s) := by
  unfold orElse
  simp only [ensures_bind, ensures_ite, ensures_pure]
  exact hfirst.mono fun r hr => ⟨fun _ => hr, fun _ => (hsecond r.1).mono fun _ => hr.trans⟩

/-! ### Commands -/

/-- A step of the focus in one of the spaces. -/
theorem focusTowards_steady (direction : Direction) :
    Ensures (s.focusTowards direction) fun r => Steady s r.1 := by
  cases direction
  case left =>
    exact trySpaceOf_steady none (g := fun a => pure a.focusLeft)
      (FloatingSpace.focusDirectional_steady _)
      (ensures_pure.mpr ScrollingSpace.focusLeft_refocused.steady)
  case right =>
    exact trySpaceOf_steady none (g := fun a => pure a.focusRight)
      (FloatingSpace.focusDirectional_steady _)
      (ensures_pure.mpr ScrollingSpace.focusRight_refocused.steady)
  case up =>
    exact trySpaceOf_steady none (g := fun a => pure a.focusUp)
      (FloatingSpace.focusDirectional_steady _)
      (ensures_pure.mpr ScrollingSpace.focusUp_refocused.steady)
  case down =>
    exact trySpaceOf_steady none (g := fun a => pure a.focusDown)
      (FloatingSpace.focusDirectional_steady _)
      (ensures_pure.mpr ScrollingSpace.focusDown_refocused.steady)

/-- A focus operation in the tiling space, or one of the floating space. -/
theorem onSpaceOf_focus_steady (op : ScrollingSpace.Op W Id)
    {f : FloatingSpace W Id → Outcome (FloatingSpace W Id)}
    (hf : Ensures (f s.floating) s.floating.Steady) (hop : op.IsFocus) (clock : Clock) {g : ScrollingSpace W → Outcome (ScrollingSpace W)}
    (hg : g s.scrolling = s.scrolling.step clock op) :
    Ensures (s.onSpaceOf none f g) (Steady s) :=
  onSpaceOf_steady none hf (hg ▸ (ScrollingSpace.step_refocused clock hop).mono
    fun _ ht => ht.steady)

theorem focusColumnFirst_steady (clock : Clock) : Ensures s.focusColumnFirst (Steady s) :=
  onSpaceOf_focus_steady .focusColumnFirst (FloatingSpace.focusLeast_steady _) trivial clock rfl

theorem focusColumnLast_steady (clock : Clock) : Ensures s.focusColumnLast (Steady s) :=
  onSpaceOf_focus_steady .focusColumnLast (FloatingSpace.focusGreatest_steady _) trivial clock rfl

theorem focusWindowTop_steady (clock : Clock) : Ensures s.focusWindowTop (Steady s) :=
  onSpaceOf_focus_steady .focusTop (FloatingSpace.focusLeast_steady _) trivial clock rfl

theorem focusWindowBottom_steady (clock : Clock) : Ensures s.focusWindowBottom (Steady s) :=
  onSpaceOf_focus_steady .focusBottom (FloatingSpace.focusGreatest_steady _) trivial clock rfl

/-- A move of the active window in its space. -/
theorem trySpaceOf_move_steady (clock : Clock) (amount : Point)
    {m : ScrollingSpace W → Outcome (ScrollingSpace W × Bool)}
    (hm : Ensures (m s.scrolling) fun r => ScrollingSpace.Kept s.scrolling.columns s.scrolling r.1) :
    Ensures (s.trySpaceOf none (alwaysDone (·.moveBy clock amount)) m) fun r => Steady s r.1 :=
  trySpaceOf_steady none (ensures_alwaysDone (FloatingSpace.moveBy_steady clock amount))
    (hm.mono fun _ hr => hr.steady)

theorem moveTowards_steady (h : s.WellFormed) (clock : Clock) (direction : Direction) :
    Ensures (s.moveTowards clock direction) fun r => Steady s r.1 := by
  cases direction
  case left => exact trySpaceOf_move_steady clock _ (ScrollingSpace.moveLeft_kept h.scrolling)
  case right => exact trySpaceOf_move_steady clock _ (ScrollingSpace.moveRight_kept h.scrolling)
  case up => exact trySpaceOf_move_steady clock _ (ScrollingSpace.moveUp_kept h.scrolling)
  case down => exact trySpaceOf_move_steady clock _ ScrollingSpace.moveDown_kept

theorem moveTowardsAnimated_steady (h : s.WellFormed) (clock : Clock) (direction : Direction) :
    Ensures (s.moveTowardsAnimated clock direction) fun r => Steady s r.1 := by
  cases direction
  case left =>
    exact trySpaceOf_move_steady clock _ (m := (·.moveLeftAnimated clock))
      (ScrollingSpace.swapWithSpring_kept clock (ScrollingSpace.moveLeft_kept h.scrolling))
  case right =>
    exact trySpaceOf_move_steady clock _ (m := (·.moveRightAnimated clock))
      (ScrollingSpace.swapWithSpring_kept clock (ScrollingSpace.moveRight_kept h.scrolling))
  case up =>
    exact trySpaceOf_move_steady clock _ (m := (·.moveUpAnimated clock))
      (ScrollingSpace.swapWithSpring_kept clock (ScrollingSpace.moveUp_kept h.scrolling))
  case down =>
    exact trySpaceOf_move_steady clock _ (m := (·.moveDownAnimated clock))
      (ScrollingSpace.swapWithSpring_kept clock ScrollingSpace.moveDown_kept)

theorem runCommand_steady (h : s.WellFormed) (clock : Clock) (cmd : Command) :
    Ensures (s.runCommand clock cmd) (Steady s) := by
  have hdirection : ∀ distance, Ensures (silently (·.focusDirectional distance) s.floating)
      s.floating.Steady :=
    fun distance => ensures_silently (FloatingSpace.focusDirectional_steady distance)
  have hstay : Ensures (pure s.floating) s.floating.Steady := ensures_pure.mpr (.refl _)
  have hstay' : Ensures (pure s.scrolling) s.scrolling.Steady := ensures_pure.mpr (.refl _)
  cases cmd
  case focus direction =>
    exact ensures_silently (f := fun t : Workspace W Id => t.focusTowards direction)
      (focusTowards_steady direction)
  case focusColumnFirst => exact focusColumnFirst_steady clock
  case focusColumnLast => exact focusColumnLast_steady clock
  case focusColumnRightOrFirst =>
    exact orElse_steady (focusTowards_steady .right) fun _ => focusColumnFirst_steady clock
  case focusColumnLeftOrLast =>
    exact orElse_steady (focusTowards_steady .left) fun _ => focusColumnLast_steady clock
  case focusColumn index =>
    refine ensures_pure.mpr (focusTiling_steady.trans (steady_scrolling ?_))
    have hrefocused := ScrollingSpace.step_refocused (s := s.focusTiling.scrolling) clock
      (show (ScrollingSpace.Op.focusColumn index : ScrollingSpace.Op W Id).IsFocus from trivial)
    exact (ensures_pure.mp hrefocused).steady
  case focusDownOrLeft =>
    exact onSpaceOf_focus_steady .focusDownOrLeft (hdirection _) trivial clock
      (g := fun a => pure a.focusDownOrLeft) rfl
  case focusDownOrRight =>
    exact onSpaceOf_focus_steady .focusDownOrRight (hdirection _) trivial clock
      (g := fun a => pure a.focusDownOrRight) rfl
  case focusUpOrLeft =>
    exact onSpaceOf_focus_steady .focusUpOrLeft (hdirection _) trivial clock
      (g := fun a => pure a.focusUpOrLeft) rfl
  case focusUpOrRight =>
    exact onSpaceOf_focus_steady .focusUpOrRight (hdirection _) trivial clock
      (g := fun a => pure a.focusUpOrRight) rfl
  case focusWindowTop => exact focusWindowTop_steady clock
  case focusWindowBottom => exact focusWindowBottom_steady clock
  case focusWindowDownOrTop =>
    exact orElse_steady (focusTowards_steady .down) fun _ => focusWindowTop_steady clock
  case focusWindowUpOrBottom =>
    exact orElse_steady (focusTowards_steady .up) fun _ => focusWindowBottom_steady clock
  case focusFloating => exact ensures_pure.mpr focusFloating_steady
  case focusTiling => exact ensures_pure.mpr focusTiling_steady
  case switchFocusFloatingTiling => exact ensures_pure.mpr switchFocusFloatingTiling_steady
  case move direction =>
    exact ensures_silently (f := fun t : Workspace W Id => t.moveTowards clock direction)
      (moveTowards_steady h clock direction)
  case moveAnimated direction =>
    exact ensures_silently (f := fun t : Workspace W Id => t.moveTowardsAnimated clock direction)
      (moveTowardsAnimated_steady h clock direction)
  case moveColumnToFirst =>
    exact onSpaceOf_steady none hstay
      ((ScrollingSpace.moveColumnToFirst_kept h.scrolling).mono fun _ ht => ht.steady)
  case moveColumnToLast =>
    exact onSpaceOf_steady none hstay
      (ScrollingSpace.moveColumnToLast_kept.mono fun _ ht => ht.steady)
  case swapWindowInDirection direction =>
    exact onSpaceOf_steady none (g := (·.swapWindowInDirection direction)) hstay
      ((ScrollingSpace.swapWindowInDirection_kept h.scrolling direction).mono
        fun _ ht => ht.steady)
  case consumeIntoColumn => exact onSpaceOf_steady none hstay ensures_throw
  case expelFromColumn => exact onSpaceOf_steady none hstay ensures_throw
  case centerColumn =>
    exact onSpaceOf_steady none (f := (·.centerWindow clock none))
      (FloatingSpace.centerWindow_steady clock none) hstay'
  case toggleWidth forwards =>
    exact onSpaceOf_steady none (f := (·.toggleWindowWidth none forwards))
      (FloatingSpace.toggleWindowWidth_steady none forwards) hstay'
  case setColumnWidth change =>
    exact onSpaceOf_steady none (f := (·.setWindowWidth none change true))
      (FloatingSpace.setWindowWidth_steady none change true) hstay'
  case nudgeMasterRatio delta =>
    exact ensures_pure.mpr (steady_scrolling
      (ScrollingSpace.nudgeMasterRatio_kept h.scrolling clock delta).steady)

theorem moveFloatingWindow_steady (clock : Clock) (id : Option Id) (x y : PositionChange)
    (animate : Bool) : Ensures (s.moveFloatingWindow clock id x y animate) (Steady s) := by
  unfold moveFloatingWindow
  simp only [ensures_ite, ensures_bind, ensures_pure]
  refine ⟨fun _ => (FloatingSpace.moveWindow_steady clock id x y animate).mono
    fun _ => steady_floating, fun _ => ?_⟩
  have hany : Ensures (s.tiledTarget id) fun _ => True := fun _ _ => trivial
  refine hany.mono fun tile _ => ?_
  cases tile with
  | none => exact ensures_pure.mpr (.refl s)
  | some tile =>
    simp only
    cases (s.floating.storedOrDefaultTilePos tile).or _ with
    | none => exact ensures_pure.mpr (.refl s)
    | some pos =>
      refine ensures_pure.mpr (steady_scrolling ?_)
      exact ScrollingSpace.modifyTile_steady (f := fun a => { a with
        floatingPos := some (s.floating.logicalToSizeFrac
          (FloatingSpace.changePosition s.floating.workingArea x y pos)) })
        (fun a => ⟨.refl, rfl, rfl⟩) _

/-- Whether a command moves a window from one space to the other. -/
def WindowCommand.toggles : WindowCommand → Bool
  | .toggleWindowFloating | .setWindowFloating _ => true
  | _ => false

theorem runWindowCommand_steady (clock : Clock) (window : Option Id) {cmd : WindowCommand}
    (hcmd : cmd.toggles = false) : Ensures (s.runWindowCommand clock window cmd) (Steady s) := by
  have hstay : Ensures (pure s.floating) s.floating.Steady := ensures_pure.mpr (.refl _)
  have hstay' : Ensures (pure s.scrolling) s.scrolling.Steady := ensures_pure.mpr (.refl _)
  cases cmd
  case toggleWindowFloating => simp [WindowCommand.toggles] at hcmd
  case setWindowFloating floating => simp [WindowCommand.toggles] at hcmd
  case consumeOrExpelWindowLeft => exact onSpaceOf_steady window hstay ensures_throw
  case consumeOrExpelWindowRight => exact onSpaceOf_steady window hstay ensures_throw
  case centerWindow =>
    exact onSpaceOf_steady window (f := (·.centerWindow clock window))
      (FloatingSpace.centerWindow_steady clock window) hstay'
  case setWindowWidth change =>
    exact onSpaceOf_steady window (f := (·.setWindowWidth window change true))
      (FloatingSpace.setWindowWidth_steady window change true) hstay'
  case setWindowHeight change =>
    exact onSpaceOf_steady window (f := (·.setWindowHeight window change true))
      (FloatingSpace.setWindowHeight_steady window change true) hstay'
  case toggleWindowWidth forwards =>
    exact onSpaceOf_steady window (f := (·.toggleWindowWidth window forwards))
      (FloatingSpace.toggleWindowWidth_steady window forwards) hstay'
  case toggleWindowHeight forwards =>
    exact onSpaceOf_steady window (f := (·.toggleWindowHeight window forwards))
      (FloatingSpace.toggleWindowHeight_steady window forwards) hstay'
  case moveFloatingWindow x y animate => exact moveFloatingWindow_steady clock window x y animate

/-! ### Operations -/

theorem activateWindow_steady (window : Id) :
    Ensures (s.activateWindow window) fun r => Steady s r.1 := by
  have hscrolling := (ScrollingSpace.activateWindow_refocused (s := s.scrolling) window).steady
  unfold activateWindow
  rw [ensures_bind]
  refine (FloatingSpace.activateWindow_steady window).mono fun r hr => ?_
  simp only [ensures_ite, ensures_pure]
  exact ⟨fun _ => ⟨.refl _, hr, rfl⟩, fun _ => ⟨fun _ => ⟨hscrolling, hr, rfl⟩,
    fun _ => ⟨hscrolling, hr, rfl⟩⟩⟩

theorem activateWindowWithoutRaising_steady (window : Id) :
    Steady s (s.activateWindowWithoutRaising window).1 := by
  have hscrolling := (ScrollingSpace.activateWindow_refocused (s := s.scrolling) window).steady
  have hfloating := FloatingSpace.activateWindowWithoutRaising_steady (s := s.floating) window
  unfold activateWindowWithoutRaising
  simp only
  split_ifs
  · exact ⟨.refl _, hfloating, rfl⟩
  · exact ⟨hscrolling, hfloating, rfl⟩
  · exact ⟨hscrolling, hfloating, rfl⟩

theorem updateWindow_steady (window : Id) (serial : Option ℕ) :
    Ensures (s.updateWindow window serial) (Steady s) := by
  unfold updateWindow
  rw [ensures_bind]
  refine (FloatingSpace.updateWindow_steady window serial).mono fun r hr => ?_
  simp only [ensures_ite, ensures_pure]
  exact ⟨fun _ => steady_floating hr,
    fun _ => ⟨ScrollingSpace.updateWindow_steady window serial, hr, rfl⟩⟩

theorem interactiveResizeEnd_steady (window : Option Id) :
    Steady s (s.interactiveResizeEnd window) := by
  unfold interactiveResizeEnd
  split
  · split_ifs
    · exact steady_floating (FloatingSpace.interactiveResizeEnd_steady _)
    · exact .refl s
  · exact steady_floating (FloatingSpace.interactiveResizeEnd_steady _)

/-- The operations that are not about takeovers, floating, the view or the windows
that there are. -/
def Op.IsPlain : Op W Id → Prop
  | .command _ | .activateWindow _ | .activateWindowWithoutRaising _ | .descendantsAdded _ => True
  | .updateWindow _ _ | .refresh _ _ | .advanceAnimations | .unname => True
  | .interactiveResizeBegin _ _ | .interactiveResizeUpdate _ _ | .interactiveResizeEnd _ => True
  | .windowCommand _ cmd => cmd.toggles = false
  | _ => False

theorem step_steady (h : s.WellFormed) (clock : Clock) {op : Op W Id} (hop : op.IsPlain) :
    Ensures (s.step clock op) (Steady s) := by
  cases op <;> simp only [Op.IsPlain] at hop <;> simp only [step, ensures_bind, ensures_pure]
  case command cmd => exact runCommand_steady h clock cmd
  case windowCommand window cmd => exact runWindowCommand_steady clock window hop
  case activateWindow window => exact activateWindow_steady window
  case activateWindowWithoutRaising window => exact activateWindowWithoutRaising_steady window
  case descendantsAdded id =>
    unfold descendantsAdded
    simp only [ensures_bind, ensures_pure]
    exact (FloatingSpace.descendantsAdded_steady id).mono fun _ => steady_floating
  case updateWindow window serial => exact updateWindow_steady window serial
  case refresh isActive isFocused =>
    exact ⟨ScrollingSpace.refresh_steady _ _, FloatingSpace.refresh_steady _ _, rfl⟩
  case advanceAnimations =>
    exact ⟨ScrollingSpace.advanceAnimations_steady clock,
      FloatingSpace.advanceAnimations_steady clock, rfl⟩
  case interactiveResizeBegin window edges =>
    exact trySpaceOf_steady _ (FloatingSpace.interactiveResizeBegin_steady window edges)
      (ensures_pure.mpr (.refl _))
  case interactiveResizeUpdate window delta =>
    exact trySpaceOf_steady _ (FloatingSpace.interactiveResizeUpdate_steady window delta)
      (ensures_pure.mpr (.refl _))
  case interactiveResizeEnd window => exact interactiveResizeEnd_steady window
  case unname => exact ⟨.refl _, .refl _, rfl⟩

end Workspace

end Sol
