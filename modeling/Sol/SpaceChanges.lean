import Sol.Steady

/-!
# Between the spaces

The operations of a workspace that move a window from one space to the other, and
those that request a takeover, seen from the columns and the floating tiles.

* `Unfloated`, `Floated`: a window is tiled, or floats;
* `TookOver`: a takeover was requested for a tiled window;
* `step_reconfigured`: the view changes.
-/

namespace Sol

open Panicking

variable {W Id : Type} [LayoutElement W Id]

namespace Column

/-- A column whose tile should float, or not, when its takeover ends. -/
def withRestore (restoreToFloating : Bool) (c : Column W) : Column W :=
  { c with tile := { c.tile with restoreToFloating } }

end Column

namespace ScrollingSpace

variable {s t : ScrollingSpace W} [DecidableEq Id]

open Column

theorem position_some {window : Id} {i : ℕ} (h : s.position window = some i) :
    ∃ c, s.columns[i]? = some c ∧ c.windowId = window := by
  obtain ⟨hi, hid, -⟩ := List.findIdx?_eq_some_iff_getElem.mp h
  exact ⟨_, List.getElem?_eq_getElem hi, by simpa using hid⟩

omit [DecidableEq Id] in
/-- A window that is there once is only in the column that its search finds. -/
theorem index_eq (hunique : s.windowIds.Nodup) {i j : ℕ} {c d : Column W}
    (hc : s.columns[i]? = some c) (hd : s.columns[j]? = some d) (hid : c.windowId = d.windowId) :
    i = j := by
  have hi : s.windowIds[i]? = some c.windowId := by rw [windowIds, List.getElem?_map, hc]; rfl
  have hj : s.windowIds[j]? = some c.windowId := by rw [windowIds, List.getElem?_map, hd, hid]; rfl
  obtain ⟨hilt, hie⟩ := List.getElem?_eq_some_iff.mp hi
  obtain ⟨hjlt, hje⟩ := List.getElem?_eq_some_iff.mp hj
  exact (List.Nodup.getElem_inj_iff hunique).mp (hie.trans hje.symm)

/-- A column before and after a change of the column of a window. -/
def Changed (s : ScrollingSpace W) (window : Id) (f : Column W → Column W) (c d : Column W) :
    Prop :=
  c.windowId = window ∧ d = f c ∨ d = c ∧ (s.windowIds.Nodup → c.windowId ≠ window)

theorem modify_changed {window : Id} {i : ℕ} (hi : s.position window = some i)
    (f : Column W → Column W) : Traced (s.Changed window f) s.columns (s.columns.modify i f) := by
  obtain ⟨c, hc, hid⟩ := position_some hi
  intro d hd
  rcases mem_modify.mp hd with ⟨c', hc', rfl⟩ | ⟨j, hj, hd⟩
  · obtain rfl := Option.some.inj (hc.symm.trans hc')
    exact ⟨c, List.mem_of_getElem? hc, .inl ⟨hid, rfl⟩⟩
  · refine ⟨d, List.mem_of_getElem? hd, .inr ⟨rfl, fun hunique heq => hj ?_⟩⟩
    exact (index_eq hunique hc hd (hid.trans heq.symm)).symm

omit [DecidableEq Id] in
theorem changed_of_not_mem {window : Id} (hnot : window ∉ s.windowIds) (f : Column W → Column W) :
    Traced (s.Changed window f) s.columns s.columns :=
  fun d hd => ⟨d, hd, .inr ⟨rfl, fun _ heq => hnot (heq ▸ List.mem_map_of_mem hd)⟩⟩

theorem columns_modifyColumnById (h : s.WellFormed) (window : Id) (f : Column W → Column W) :
    (s.modifyColumnById window f).columns =
      (s.position window).elim s.columns (s.columns.modify · f) := by
  unfold modifyColumnById position modifyFirst columns
  rcases h.cases with ⟨hm, hs, -⟩ | ⟨m, hm, -⟩
  · simp [hm, hs]
  · simp only [hm, Option.any_some, Option.toList_some, List.singleton_append, List.findIdx?_cons]
    by_cases hid : m.windowId = window
    · simp [hid]
    · simp only [hid, decide_false, Bool.false_eq_true, if_false]
      cases s.stack.findIdx? fun col => decide (col.windowId = window) <;> simp

theorem modifyColumnById_changed (h : s.WellFormed) (window : Id) (f : Column W → Column W) :
    Traced (s.Changed window f) s.columns (s.modifyColumnById window f).columns := by
  rw [columns_modifyColumnById h]
  cases hi : s.position window with
  | some i => exact modify_changed hi f
  | none =>
    refine changed_of_not_mem (fun hmem => ?_) f
    obtain ⟨i, -, hp, -⟩ := position_of_mem hmem
    simp [hp] at hi

/-! ### Requests -/

/-- A column before and after a request about the takeover of a window, where
`ask` is what the request does to the column of the window: the end of a takeover
gives all columns slots. -/
def Requested (s : ScrollingSpace W) (window : Id) (ask : Column W → Column W) (value : Bool)
    (c d : Column W) : Prop :=
  ∃ e, s.Changed window ask c e ∧ if value then d = e else ∃ size, d = e.fillSlot size

theorem requested_of_traced {window : Id} {ask : Column W → Column W} {value : Bool} {i : ℕ}
    {cols : List (Column W)} (hi : s.position window = some i)
    (h : if value then cols = s.columns.modify i ask
      else Traced (fun c d => ∃ size, d = c.fillSlot size) (s.columns.modify i ask) cols) :
    Traced (s.Requested window ask value) s.columns cols := by
  cases value with
  | true =>
    simp only [if_true] at h
    subst h
    exact (modify_changed hi ask).mono fun c d hd => ⟨d, hd, rfl⟩
  | false =>
    simp only [Bool.false_eq_true, if_false] at h
    refine (modify_changed hi ask).trans h fun c e d he hd => ⟨e, he, ?_⟩
    simpa using hd

/-- What the callers rely on of a request for a takeover. -/
structure Asks (s : ScrollingSpace W) (window : Id) (ask : Column W → Column W) (value : Bool)
    (t : ScrollingSpace W) : Prop where
  id_eq : ∀ c, (ask c).windowId = c.windowId
  wellFormed : t.WellFormed
  perm : t.windowIds.Perm s.windowIds
  columns : Traced (s.Requested window ask value) s.columns t.columns
  view_eq : t.view = s.view

theorem setFullscreen_asks (h : s.WellFormed) {window : Id} (hw : window ∈ s.windowIds)
    (value : Bool) : Ensures (s.setFullscreen window value) fun r =>
      s.Asks window (ask .fullscreen value s.workingArea.size) value r.1 := by
  obtain ⟨i, -, hi, -⟩ := position_of_mem hw
  intro r hr
  have hmoved := (setFullscreen_moved h window value).ensures r hr
  rcases setFullscreen_traced h window value r hr with ⟨hnone, -⟩ | ⟨j, hj, hview, hcols⟩
  · simp [hi] at hnone
  · refine ⟨windowId_ask _ _ _, hmoved.wellFormed, hmoved.perm, requested_of_traced hj ?_, hview⟩
    cases value <;> exact hcols

theorem setMaximized_asks (h : s.WellFormed) {window : Id} (hw : window ∈ s.windowIds)
    (value : Bool) : Ensures (s.setMaximized window value) fun r =>
      s.Asks window (ask .maximized value s.workingArea.size) value r.1 := by
  obtain ⟨i, -, hi, -⟩ := position_of_mem hw
  intro r hr
  have hmoved := (setMaximized_moved h window value).ensures r hr
  rcases setMaximized_traced h window value r hr with ⟨hnone, -⟩ | ⟨j, hj, hview, hcols⟩
  · simp [hi] at hnone
  · refine ⟨windowId_ask _ _ _, hmoved.wellFormed, hmoved.perm, requested_of_traced hj ?_, hview⟩
    cases value <;> exact hcols

omit [DecidableEq Id] in
theorem mem_tiles {tile : Tile W} : tile ∈ s.tiles ↔ ∃ c ∈ s.columns, c.tile = tile := List.mem_map

/-- The tile that is found for a window is in its column. -/
theorem tile_of_find? {window : Id} {tile : Tile W}
    (h : (s.tiles.find? fun tile => tile.windowId = window) = some tile) :
    ∃ c ∈ s.columns, c.tile = tile ∧ c.windowId = window := by
  obtain ⟨c, hc, rfl⟩ := mem_tiles.mp (List.mem_of_find?_eq_some h)
  have hid := List.find?_some h
  exact ⟨c, hc, rfl, of_decide_eq_true hid⟩

omit [DecidableEq Id] in
theorem Requested.windowId_eq {window : Id} {ask : Column W → Column W} {value : Bool}
    {c d : Column W} (h : s.Requested window ask value c d)
    (hask : ∀ c, (ask c).windowId = c.windowId) : d.windowId = c.windowId := by
  obtain ⟨e, he, hd⟩ := h
  have hid : e.windowId = c.windowId := by
    rcases he with ⟨-, rfl⟩ | ⟨rfl, -⟩
    · exact hask c
    · rfl
  cases value with
  | true => exact (congrArg Column.windowId (by simpa using hd)).trans hid
  | false =>
    obtain ⟨size, rfl⟩ : ∃ size, d = e.fillSlot size := by simpa using hd
    exact (Column.windowId_fillSlot e size).trans hid

end ScrollingSpace

namespace Workspace

variable {s t u : Workspace W Id}

/-! ### Takeovers of tiled windows -/

/-- A takeover was requested for a tiled window.  Whether it is to float later is
noted where the takeover began. -/
structure TookOver [DecidableEq Id] (s : Workspace W Id) (window : Id)
    (ask : Column W → Column W) (value restoreToFloating : Bool) (t : Workspace W Id) : Prop where
  columns : ∀ d ∈ t.scrolling.columns, ∃ c ∈ s.scrolling.columns, ∃ e,
    s.scrolling.Requested window ask value c e ∧ (d = e ∨ d = e.withRestore restoreToFloating) ∧
    (s.scrolling.windowIds.Nodup → d =
      if c.windowId = window ∧ LayoutElement.pendingSizingMode c.tile.window = .normal ∧
          LayoutElement.pendingSizingMode e.tile.window ≠ .normal
        then e.withRestore restoreToFloating else e)
  view_eq : t.scrolling.view = s.scrolling.view
  floating_eq : t.floating = s.floating
  viewSize_eq : t.viewSize = s.viewSize

variable [DecidableEq Id]

theorem isNormal_iff {mode : SizingMode} : mode.isNormal = true ↔ mode = .normal := by
  cases mode <;> simp [SizingMode.isNormal]

theorem takeOver_tookOver {window : Id} {ask : Column W → Column W} {value : Bool}
    (restoreToFloating : Bool) {set : ScrollingSpace W → Outcome (ScrollingSpace W × Bool)}
    (hset : window ∈ s.scrolling.windowIds →
      Ensures (set s.scrolling) fun r => s.scrolling.Asks window ask value r.1) :
    Ensures (s.takeOver window restoreToFloating set)
      (TookOver s window ask value restoreToFloating) := by
  unfold takeOver tiledTile
  simp only [ensures_bind, ensures_unwrap, ensures_ite, ensures_pure]
  intro tile htile
  obtain ⟨c₀, hc₀, rfl, hid₀⟩ := ScrollingSpace.tile_of_find? htile
  refine (hset (hid₀ ▸ List.mem_map_of_mem hc₀)).mono fun r hr tile' htile' => ?_
  obtain ⟨e₀, he₀, rfl, hide₀⟩ := ScrollingSpace.tile_of_find? htile'
  -- the columns of a window that is there once are the ones that were found
  have hfound : s.scrolling.windowIds.Nodup → ∀ c ∈ s.scrolling.columns, ∀ e ∈ r.1.columns,
      s.scrolling.Requested window ask value c e → c.windowId = window → c = c₀ ∧ e = e₀ := by
    intro hunique c hc e he hce hid
    refine ⟨ScrollingSpace.column_eq hunique hc hc₀ (hid.trans hid₀.symm),
      ScrollingSpace.column_eq (hr.perm.nodup_iff.mpr hunique) he he₀ ?_⟩
    rw [hce.windowId_eq hr.id_eq, hid, hide₀]
  constructor
  · intro hcond
    simp only [Bool.and_eq_true, isNormal_iff, Bool.not_eq_true', ← Bool.not_eq_true] at hcond
    refine ⟨fun d hd => ?_, ?_, rfl, rfl⟩
    · obtain ⟨e, he, hed⟩ := ScrollingSpace.modifyColumnById_changed hr.wellFormed window _ d hd
      obtain ⟨c, hc, hce⟩ := hr.columns e he
      refine ⟨c, hc, e, hce, hed.symm.imp And.left And.right, fun hunique => ?_⟩
      have hid := hce.windowId_eq hr.id_eq
      by_cases hwindow : c.windowId = window
      · obtain ⟨rfl, rfl⟩ := hfound hunique c hc e he hce hwindow
        rw [if_pos ⟨hwindow, hcond⟩]
        rcases hed with ⟨-, rfl⟩ | ⟨-, hne⟩
        · rfl
        · exact absurd hide₀ (hne (hr.perm.nodup_iff.mpr hunique))
      · rw [if_neg fun hall => hwindow hall.1]
        rcases hed with ⟨heq, -⟩ | ⟨rfl, -⟩
        · exact absurd (hid.symm.trans heq) hwindow
        · rfl
    · exact (ScrollingSpace.view_modifyColumnById window _).trans hr.view_eq
  · intro hcond
    simp only [Bool.and_eq_true, isNormal_iff, Bool.not_eq_true', ← Bool.not_eq_true] at hcond
    refine ⟨fun d hd => ?_, hr.view_eq, rfl, rfl⟩
    obtain ⟨c, hc, hcd⟩ := hr.columns d hd
    refine ⟨c, hc, d, hcd, .inl rfl, fun hunique => ?_⟩
    rw [if_neg]
    rintro ⟨hwindow, hmodes⟩
    obtain ⟨rfl, rfl⟩ := hfound hunique c hc d hd hcd hwindow
    exact hcond hmodes

/-! ### From one space to the other -/

/-- A tile was added to the tiling space. -/
def TileAdded (s t : ScrollingSpace W) (tile : Tile W) : Prop :=
  t.view = s.view ∧ ∃ width isFullWidth, ∀ d ∈ t.columns,
    s.Admitted (Column.newWithTile tile s.viewSize s.workingArea s.parentArea s.scale width
      isFullWidth) d ∨ ∃ c ∈ s.columns, ScrollingSpace.Superseded s.workingArea.size c d

omit [DecidableEq Id] in
theorem addTile_tileAdded {s : ScrollingSpace W} (h : s.WellFormed) (tile : Tile W) (activate : Bool)
    (width : ColumnWidth) (isFullWidth : Bool) :
    TileAdded s (s.addTile tile activate width isFullWidth) tile := by
  have hadded := ScrollingSpace.addColumn_traced h (Column.newWithTile tile s.viewSize s.workingArea
    s.parentArea s.scale width isFullWidth) activate
  exact ⟨hadded.2, width, isFullWidth, hadded.1⟩

/-- A tile as the floating space takes it in: brought to its view, and asked for
a floating size. -/
def FloatingTile (s : FloatingSpace W Id) (tile b : Tile W) : Prop :=
  ∃ a size, Tile.Quiet tile a ∧ b = { a.updateConfig s.viewSize s.scale s.options with
    window := LayoutElement.requestSizeOnce a.window size true }

/-- A floating window was tiled. -/
structure Unfloated (s : Workspace W Id) (id : Id) (t : Workspace W Id) : Prop where
  tiled : ∃ a ∈ s.floating.tiles, a.windowId = id ∧ ∃ tile, Tile.Quiet a tile ∧
    TileAdded s.scrolling t.scrolling tile
  floating : s.floating.Steady t.floating
  viewSize_eq : t.viewSize = s.viewSize

/-- A tiled window floats. -/
structure Floated (s : Workspace W Id) (id : Id) (t : Workspace W Id) : Prop where
  columns : ScrollingSpace.Kept s.scrolling.columns s.scrolling t.scrolling
  tiles : ∃ c ∈ s.scrolling.columns, c.windowId = id ∧ ∀ b ∈ t.floating.tiles,
    b ∈ s.floating.tiles ∨ FloatingTile s.floating c.tile b
  mem : id ∈ t.floating.windowIds
  floatingView_eq : t.floating.viewSize = s.floating.viewSize
  viewSize_eq : t.viewSize = s.viewSize

theorem unfloat_unfloated (h : s.WellFormed) (id : Id) (targetIsActive : Bool) :
    Ensures (s.unfloat id targetIsActive) (Unfloated s id) := by
  unfold unfloat
  simp only [ensures_bind, ensures_pure]
  refine (FloatingSpace.removeTile_takenOut id).mono fun r hr => ?_
  obtain ⟨a, ha, hid, hquiet⟩ := hr.tile
  exact ⟨⟨a, ha, hid, r.1.tile, hquiet, addTile_tileAdded h.scrolling _ _ _ _⟩, hr.steady, rfl⟩

theorem removeTile_kept {s : ScrollingSpace W} (h : s.WellFormed) (clock : Clock) (id : Id) :
    Ensures (s.removeTile clock id) fun r => r.1.isFloating = false ∧
      (∃ c ∈ s.columns, c.windowId = id ∧ r.1.tile = c.tile) ∧
      ScrollingSpace.Kept s.columns s r.2 := by
  unfold ScrollingSpace.removeTile ScrollingSpace.removeTileByIdx
  simp only [ensures_bind, ensures_expect, ensures_pure]
  intro i hi
  obtain ⟨c, hc, hid⟩ := ScrollingSpace.position_some hi
  refine (ScrollingSpace.takeColumnAt_kept h clock i).mono fun r hr => ?_
  obtain rfl := Option.some.inj (hc.symm.trans hr.1)
  refine ⟨trivial, ⟨_, List.mem_of_getElem? hc, hid, rfl⟩, ?_, hr.2.view_eq⟩
  intro d hd
  obtain ⟨e, he, hed⟩ := hr.2.columns d hd
  exact ⟨e, List.mem_of_mem_eraseIdx he, hed⟩

theorem float_floated (h : s.WellFormed) (clock : Clock) (id : Id) (targetIsActive : Bool)
    (renderPos : Point) :
    Ensures (s.float clock id targetIsActive renderPos) (Floated s id) := by
  unfold float
  simp only [ensures_bind, ensures_pure]
  refine (removeTile_kept h.scrolling clock id).mono fun r hr => ?_
  obtain ⟨-, ⟨c, hc, hid, htile⟩, hkept⟩ := hr
  have htiles := FloatingSpace.addTileAt_tiles (s := s.floating) 0
    { r.1.tile.stopMoveAnimations with
      floatingPos :=
        if (s.floating.storedOrDefaultTilePos r.1.tile.stopMoveAnimations).isSome then
          r.1.tile.stopMoveAnimations.floatingPos
        else some (s.floating.logicalToSizeFrac (s.floating.clampWithinWorkingArea (renderPos +
          if s.options.layout.centerFocusedColumn = .always then .zero else ⟨50, 50⟩)
            r.1.tile.stopMoveAnimations.tileSize)) } targetIsActive
  have hadded := (FloatingSpace.addTile_spec h.floating
    { r.1.tile.stopMoveAnimations with
      floatingPos :=
        if (s.floating.storedOrDefaultTilePos r.1.tile.stopMoveAnimations).isSome then
          r.1.tile.stopMoveAnimations.floatingPos
        else some (s.floating.logicalToSizeFrac (s.floating.clampWithinWorkingArea (renderPos +
          if s.options.layout.centerFocusedColumn = .always then .zero else ⟨50, 50⟩)
            r.1.tile.stopMoveAnimations.tileSize)) } targetIsActive).ensures
  refine (htiles.and hadded).mono fun floating hboth => ?_
  obtain ⟨⟨hview, hfrom⟩, hadded⟩ := hboth
  refine ⟨hkept, ⟨c, hc, hid, fun b hb => ?_⟩, ?_, hview, rfl⟩
  · refine (hfrom b hb).imp_right ?_
    rintro ⟨size, rfl⟩
    exact ⟨_, size, ⟨htile ▸ .refl, congrArg (·.restoreToFloating) htile,
      congrArg (·.viewSize) htile⟩, rfl⟩
  · refine hadded.perm.mem_iff.mpr (List.mem_cons.mpr (.inl ?_))
    exact hid.symm.trans (congrArg (fun tile => LayoutElement.id tile.window) htile.symm)

/-- The window that a toggle is about. -/
def toggleTarget (s : Workspace W Id) (id : Option Id) : Option Id := id.or s.activeId

/-- What a toggle of a window does: it moves the window to the other space. -/
def Toggled (s : Workspace W Id) (id : Id) (t : Workspace W Id) : Prop :=
  ∃ u, (if id ∈ s.floating.windowIds then Unfloated s id u else Floated s id u) ∧ Steady u t ∧
    t.floating.windowIds = u.floating.windowIds

theorem floatingIds_modifyTile (window : Id) {f : Tile W → Tile W}
    (hf : ∀ tile, (f tile).windowId = tile.windowId) :
    (s.modifyTile window f).floating.windowIds = s.floating.windowIds := by
  unfold modifyTile
  split
  · exact Vec.map_modify_eq hf _ _
  · rfl

theorem toggleWindowFloating_toggled (h : s.WellFormed) (clock : Clock) (id : Option Id) :
    Ensures (s.toggleWindowFloating clock id) fun t =>
      (s.toggleTarget id = none ∧ t = s) ∨ ∃ w, s.toggleTarget id = some w ∧ Toggled s w t := by
  unfold toggleWindowFloating
  simp only
  cases htarget : id.or (s.activeWindow.map LayoutElement.id) with
  | none => exact ensures_pure.mpr (.inl ⟨htarget, rfl⟩)
  | some w =>
    have hchange : ∀ b pos, Ensures (s.changeSpace clock w b pos) fun u =>
        if w ∈ s.floating.windowIds then Unfloated s w u else Floated s w u := by
      intro b pos
      unfold changeSpace
      by_cases hw : w ∈ s.floating.windowIds
      · simp only [FloatingSpace.hasWindow_iff.mpr hw, if_true, hw]
        exact unfloat_unfloated h w b
      · have hnot : s.floating.hasWindow w = false := by
          rw [← Bool.not_eq_true]
          exact fun hmem => hw (FloatingSpace.hasWindow_iff.mp hmem)
        simp only [hnot, Bool.false_eq_true, if_false, hw]
        exact float_floated h clock w b pos
    simp only [ensures_bind, ensures_unwrap, ensures_pure]
    intro pos _
    refine (hchange _ pos).mono fun u hu pos' _ => .inr ⟨w, htarget, u, hu, ?_,
      floatingIds_modifyTile w fun tile => Tile.windowId_animateMoveFrom tile clock _⟩
    unfold modifyTile
    split
    · exact steady_floating (FloatingSpace.steady_modify
        (f := fun a => a.animateMoveFrom clock (pos - pos'))
        (fun a => a.quiet_animateMoveFrom clock _) _)
    · exact steady_scrolling (ScrollingSpace.modifyTile_steady
        (f := fun a => a.animateMoveFrom clock (pos - pos'))
        (fun a => a.quiet_animateMoveFrom clock _) _)

/-! ### Takeovers of any window -/

theorem unfloated_of_toggled {id : Id} (h : Toggled s id t) (hid : id ∈ s.floating.windowIds) :
    ∃ u, Unfloated s id u ∧ Steady u t := by
  obtain ⟨u, hu, hut, -⟩ := h
  rw [if_pos hid] at hu
  exact ⟨u, hu, hut⟩

theorem floated_of_toggled {id : Id} (h : Toggled s id t) (hid : id ∉ s.floating.windowIds) :
    ∃ u, Floated s id u ∧ Steady u t ∧ id ∈ t.floating.windowIds := by
  obtain ⟨u, hu, hut, hids⟩ := h
  rw [if_neg hid] at hu
  exact ⟨u, hu, hut, hids ▸ hu.mem⟩

theorem toggle_some (h : s.WellFormed) (clock : Clock) (window : Id) :
    Ensures (s.toggleWindowFloating clock (some window)) (Toggled s window) :=
  (toggleWindowFloating_toggled h clock (some window)).mono fun t ht => by
    rcases ht with ⟨hnone, -⟩ | ⟨w, hw, ht⟩
    · simp [toggleTarget] at hnone
    · obtain rfl := Option.some.inj hw
      exact ht

/-- What the requests for a takeover of a window, or for its end, do. -/
inductive Asked (s : Workspace W Id) (window : Id) (kind : Column.Takeover) (value : Bool)
    (t : Workspace W Id) : Prop
  /-- A floating window does not take over. -/
  | ignored (hw : window ∈ s.floating.windowIds) (hvalue : value = false) (ht : t = s)
  /-- A floating window is tiled first. -/
  | began {u : Workspace W Id} (hw : window ∈ s.floating.windowIds) (hvalue : value = true)
    (hu : Toggled s window u) (hre : Rearranged s u) (hmem : window ∈ u.scrolling.windowIds)
    (ht : TookOver u window (Column.ask kind true u.scrolling.workingArea.size) true true t)
  | asked (hw : window ∉ s.floating.windowIds)
    (ht : TookOver s window (Column.ask kind value s.scrolling.workingArea.size) value false t)
    (hstays : value = false → ∃ c ∈ s.scrolling.columns, c.windowId = window ∧
      (c.Agrees → c.pendingSizingMode = kind.mode → c.tile.restoreToFloating = false))
  /-- A window that was floating floats again. -/
  | restored (hw : window ∉ s.floating.windowIds) (hvalue : value = false) (ht : Toggled s window t)
    (hback : ∃ c ∈ s.scrolling.columns, c.windowId = window ∧ c.tile.restoreToFloating = true)

theorem takeOver_asked {window : Id} {kind : Column.Takeover} {value : Bool}
    {set : ScrollingSpace W → Outcome (ScrollingSpace W × Bool)}
    (hset : ∀ a : ScrollingSpace W, a.WellFormed → window ∈ a.windowIds → Ensures (set a) fun r =>
      a.Asks window (Column.ask kind value a.workingArea.size) value r.1) (h : s.WellFormed)
    (restoreToFloating : Bool) : Ensures (s.takeOver window restoreToFloating set)
      (TookOver s window (Column.ask kind value s.scrolling.workingArea.size) value
        restoreToFloating) :=
  takeOver_tookOver restoreToFloating (hset _ h.scrolling)

/-- A floating window is asked to take over. -/
theorem toggle_takeOver_asked (h : s.WellFormed) (clock : Clock) {window : Id}
    {kind : Column.Takeover} {set : ScrollingSpace W → Outcome (ScrollingSpace W × Bool)}
    (hset : ∀ a : ScrollingSpace W, a.WellFormed → window ∈ a.windowIds → Ensures (set a) fun r =>
      a.Asks window (Column.ask kind true a.workingArea.size) true r.1)
    (hw : window ∈ s.floating.windowIds) :
    Ensures (s.toggleWindowFloating clock (some window) >>= fun t => t.takeOver window true set)
      (Asked s window kind true) := by
  have hmem : ∀ w ∈ some window, w ∈ s.windowIds := by
    rintro w ⟨⟩
    exact mem_windowIds.mpr (.inr hw)
  rw [ensures_bind]
  refine ((toggle_some h clock window).and
    (toggleWindowFloating_spec h clock hmem).ensures).mono fun u hu => ?_
  exact (takeOver_asked hset hu.2.1.wellFormed true).mono fun t ht =>
    .began hw rfl hu.1 hu.2.1 (hu.2.2 window rfl hw) ht

theorem find?_column {cols : List (Column W)} {window : Id} {c : Column W}
    (h : (cols.find? fun col => col.windowId = window) = some c) :
    c ∈ cols ∧ c.windowId = window := by
  have hid := List.find?_some h
  exact ⟨List.mem_of_find?_eq_some h, of_decide_eq_true hid⟩

theorem hasWindow_false {floating : FloatingSpace W Id} {window : Id}
    (h : ¬floating.hasWindow window = true) : window ∉ floating.windowIds :=
  fun hw => h (FloatingSpace.hasWindow_iff.mpr hw)

theorem setFullscreen_asked (h : s.WellFormed) (clock : Clock) (window : Id) (isFullscreen : Bool) :
    Ensures (s.setFullscreen clock window isFullscreen)
      (Asked s window .fullscreen isFullscreen) := by
  have hset : ∀ a : ScrollingSpace W, a.WellFormed → window ∈ a.windowIds →
      Ensures (a.setFullscreen window isFullscreen) fun r =>
        a.Asks window (Column.ask .fullscreen isFullscreen a.workingArea.size) isFullscreen r.1 :=
    fun a ha hw => ScrollingSpace.setFullscreen_asks ha hw isFullscreen
  unfold setFullscreen
  simp only
  by_cases hf : s.floating.hasWindow window = true
  · have hw := FloatingSpace.hasWindow_iff.mp hf
    rw [if_pos hf]
    cases isFullscreen with
    | true => exact toggle_takeOver_asked h clock hset hw
    | false => exact ensures_pure.mpr (.ignored hw rfl rfl)
  · have hw := hasWindow_false hf
    rw [if_neg hf]
    cases isFullscreen with
    | true => exact (takeOver_asked hset h false).mono fun t ht => .asked hw ht Bool.noConfusion
    | false =>
      simp only [Bool.false_eq_true, if_false, ensures_bind, ensures_unwrap]
      intro c hc
      obtain ⟨hmem, hid⟩ := find?_column hc
      refine ensures_ite.mpr ⟨fun hcond => ?_, fun hcond => ?_⟩
      · simp only [Bool.and_eq_true] at hcond
        exact (toggle_some h clock window).mono fun t ht =>
          .restored hw rfl ht ⟨c, hmem, hid, hcond.2⟩
      · refine (takeOver_asked hset h false).mono fun t ht => .asked hw ht fun _ => ?_
        refine ⟨c, hmem, hid, fun hagrees hmode => ?_⟩
        have hfull : c.isPendingFullscreen = true := by
          by_contra hnot
          unfold Column.pendingSizingMode at hmode
          rw [if_neg hnot] at hmode
          split_ifs at hmode <;> simp [Column.Takeover.mode] at hmode
        have hmax : c.isPendingMaximized = false := by
          simpa [hfull] using hagrees.one
        simpa [hfull, hmax] using hcond

theorem setMaximized_asked (h : s.WellFormed) (clock : Clock) (window : Id) (maximize : Bool) :
    Ensures (s.setMaximized clock window maximize) (Asked s window .maximized maximize) := by
  have hset : ∀ a : ScrollingSpace W, a.WellFormed → window ∈ a.windowIds →
      Ensures (a.setMaximized window maximize) fun r =>
        a.Asks window (Column.ask .maximized maximize a.workingArea.size) maximize r.1 :=
    fun a ha hw => ScrollingSpace.setMaximized_asks ha hw maximize
  unfold setMaximized
  simp only
  by_cases hf : s.floating.hasWindow window = true
  · have hw := FloatingSpace.hasWindow_iff.mp hf
    rw [if_pos hf]
    cases maximize with
    | true => exact toggle_takeOver_asked h clock hset hw
    | false => exact ensures_pure.mpr (.ignored hw rfl rfl)
  · have hw := hasWindow_false hf
    rw [if_neg hf]
    cases maximize with
    | true => exact (takeOver_asked hset h false).mono fun t ht => .asked hw ht Bool.noConfusion
    | false =>
      simp only [Bool.false_eq_true, if_false, ensures_bind, ensures_unwrap]
      intro tile htile
      obtain ⟨c, hmem, rfl, hid⟩ := ScrollingSpace.tile_of_find? htile
      refine ensures_ite.mpr ⟨fun hcond => ?_, fun hcond => ?_⟩
      · simp only [Bool.and_eq_true] at hcond
        exact (toggle_some h clock window).mono fun t ht =>
          .restored hw rfl ht ⟨c, hmem, hid, hcond.2⟩
      · refine (takeOver_asked hset h false).mono fun t ht => .asked hw ht fun _ => ?_
        refine ⟨c, hmem, hid, fun hagrees hmode => ?_⟩
        rw [hagrees.mode_eq] at hmode
        simpa [hmode, Column.Takeover.mode, SizingMode.isMaximized] using hcond

/-- Whether a window is pending for fullscreen. -/
def isFullscreen (s : Workspace W Id) (window : Id) : Bool :=
  (s.tiles.find? fun tile => tile.windowId = window).any fun tile =>
    (LayoutElement.pendingSizingMode tile.window).isFullscreen

/-- Whether the column of a window is pending for maximized. -/
def isMaximized (s : Workspace W Id) (window : Id) : Bool :=
  (s.scrolling.columns.find? fun col => col.windowId = window).any (·.isPendingMaximized)

theorem toggleFullscreen_asked (h : s.WellFormed) (clock : Clock) (window : Id) :
    Ensures (s.toggleFullscreen clock window)
      (Asked s window .fullscreen !s.isFullscreen window) := by
  unfold toggleFullscreen
  simp only [ensures_bind, ensures_unwrap]
  intro tile htile
  unfold isFullscreen
  rw [htile, Option.any_some]
  exact setFullscreen_asked h clock window _

theorem toggleMaximized_asked (h : s.WellFormed) (clock : Clock) (window : Id) :
    Ensures (s.toggleMaximized clock window)
      (Asked s window .maximized !s.isMaximized window) :=
  setMaximized_asked h clock window _

/-! ### The view -/

/-- The view that a size of the output leads to. -/
def viewFor (s : Workspace W Id) (scale : ℚ) (size : Size) (workingArea : Rect) : Size × Rect :=
  if s.scale = scale ∧ s.viewSize = size ∧ s.workingArea = workingArea then s.scrolling.view
  else
    let options := if s.scale = scale then s.options
      else (s.baseOptions.withMergedLayout s.layoutConfig).adjustedForScale scale
    (size, computeWorkingArea workingArea scale options.layout.struts)

/-- The view that options lead to. -/
def viewWith (s : Workspace W Id) (baseOptions : Options) (layoutConfig : Option LayoutPart) :
    Size × Rect :=
  (s.viewSize, computeWorkingArea s.workingArea s.scale
    ((baseOptions.withMergedLayout layoutConfig).adjustedForScale s.scale).layout.struts)

/-- The view after an operation. -/
def Op.nextView (s : Workspace W Id) : Op W Id → Size × Rect
  | .updateConfig baseOptions => s.viewWith baseOptions s.layoutConfig
  | .updateLayoutConfig layoutConfig =>
    if s.layoutConfig = layoutConfig then s.scrolling.view
    else s.viewWith s.baseOptions layoutConfig
  | .setOutput (some output) =>
    if s.output.map (·.key) = some output.key then s.scrolling.view
    else s.viewFor output.scale output.size output.workingArea
  | .updateOutputSize =>
    match s.output with
    | some output => s.viewFor output.scale output.size output.workingArea
    | none => s.scrolling.view
  | _ => s.scrolling.view

/-- The view is set anew. -/
structure Reconfigured (s : Workspace W Id) (view : Size × Rect) (t : Workspace W Id) : Prop where
  columns : ∀ d ∈ t.scrolling.columns, ∃ c ∈ s.scrolling.columns, ∃ parentArea scale options size,
    d = (c.updateConfig view.1 view.2 parentArea scale options).fillSlot size
  tiles : ∀ b ∈ t.floating.tiles, ∃ a ∈ s.floating.tiles, ∃ scale options,
    b = a.updateConfig view.1 scale options
  view_eq : t.scrolling.view = view
  floatingView_eq : t.floating.viewSize = view.1
  viewSize_eq : t.viewSize = view.1

omit [DecidableEq Id] in
/-- Both spaces are told of a view. -/
theorem reconfigured_both (h : s.WellFormed) {viewSize : Size} {area : Rect} {scale : ℚ}
    {options : Options}
    (hscrolling : t.scrolling = s.scrolling.updateConfig viewSize area scale options)
    (hfloating : t.floating = s.floating.updateConfig viewSize area scale options)
    (hview : t.viewSize = viewSize) :
    Reconfigured s (viewSize, computeWorkingArea area scale options.layout.struts) t := by
  obtain ⟨hcols, hviewed⟩ :=
    ScrollingSpace.updateConfig_traced h.scrolling viewSize area scale options
  rw [← hscrolling] at hcols hviewed
  refine ⟨fun d hd => ?_, fun b hb => ?_, hviewed, by rw [hfloating]; rfl, hview⟩
  · obtain ⟨c, hc, size, hd⟩ := hcols d hd
    exact ⟨c, hc, _, _, _, size, hd⟩
  · rw [hfloating] at hb
    obtain ⟨a, ha, rfl⟩ := List.mem_map.mp hb
    exact ⟨a, ha, _, _, rfl⟩

/-- An operation sets the view anew, or leaves it. -/
def Reviewed (s : Workspace W Id) (view : Size × Rect) (t : Workspace W Id) : Prop :=
  Reconfigured s view t ∨ Steady s t ∧ s.scrolling.view = view

omit [DecidableEq Id] in
/-- A new output alone changes neither the spaces nor the view. -/
theorem Reviewed.relabelled {view : Size × Rect} (h : Reviewed u view t)
    (hscrolling : u.scrolling = s.scrolling) (hfloating : u.floating = s.floating)
    (hview : u.viewSize = s.viewSize) : Reviewed s view t := by
  rcases h with h | ⟨h, heq⟩
  · exact .inl ⟨hscrolling ▸ h.columns, hfloating ▸ h.tiles, h.view_eq, h.floatingView_eq,
      h.viewSize_eq⟩
  · exact .inr ⟨⟨hscrolling ▸ h.scrolling, hfloating ▸ h.floating, h.viewSize_eq.trans hview⟩,
      hscrolling ▸ heq⟩

omit [DecidableEq Id] in
theorem setViewSize_reviewed (h : s.WellFormed) (scale : ℚ) (size : Size) (workingArea : Rect) :
    Reviewed s (s.viewFor scale size workingArea) (s.setViewSize scale size workingArea) := by
  unfold setViewSize viewFor
  by_cases hsame : s.scale = scale ∧ s.viewSize = size ∧ s.workingArea = workingArea
  · rw [if_pos hsame, if_pos hsame]
    exact .inr ⟨.refl s, rfl⟩
  · rw [if_neg hsame, if_neg hsame]
    by_cases hscale : s.scale = scale
    · rw [if_neg (not_not_intro hscale), if_pos hscale]
      exact .inl (reconfigured_both h rfl rfl rfl)
    · rw [if_pos hscale, if_neg hscale]
      exact .inl (reconfigured_both h rfl rfl rfl)

/-- The operations that are about the view. -/
def Op.IsAboutView : Op W Id → Prop
  | .updateConfig _ | .updateLayoutConfig _ | .setOutput _ | .updateOutputSize => True
  | _ => False

omit [DecidableEq Id] in
theorem updateOutputSize_reviewed (h : s.WellFormed) :
    Ensures s.updateOutputSize (Reviewed s (Op.nextView s .updateOutputSize)) := by
  unfold updateOutputSize
  simp only [ensures_bind, ensures_unwrap, ensures_pure]
  intro output houtput
  simp only [Op.nextView, houtput]
  exact setViewSize_reviewed h _ _ _

theorem step_reviewed (h : s.WellFormed) (clock : Clock) {op : Op W Id} (hop : op.IsAboutView) :
    Ensures (s.step clock op) (Reviewed s (op.nextView s)) := by
  cases op <;> simp only [Op.IsAboutView] at hop <;> simp only [step, ensures_pure]
  case updateConfig baseOptions => exact .inl (reconfigured_both h rfl rfl rfl)
  case updateLayoutConfig layoutConfig =>
    unfold updateLayoutConfig
    simp only [Op.nextView]
    by_cases hsame : s.layoutConfig = layoutConfig
    · rw [if_pos hsame, if_pos hsame]
      exact .inr ⟨.refl s, rfl⟩
    · rw [if_neg hsame, if_neg hsame]
      exact .inl (reconfigured_both h rfl rfl rfl)
  case setOutput output =>
    cases output with
    | none =>
      rw [setOutput_none]
      exact ensures_ok.mpr (.inr ⟨⟨.refl _, .refl _, rfl⟩, rfl⟩)
    | some output =>
      unfold setOutput
      simp only [Op.nextView, Option.map_some]
      by_cases hsame : s.output.map (·.key) = some output.key
      · rw [if_pos hsame, if_pos hsame]
        exact ensures_pure.mpr (.inr ⟨.refl s, rfl⟩)
      · rw [if_neg hsame, if_neg hsame]
        unfold updateOutputSize
        simp only [ensures_bind, ensures_unwrap, ensures_pure]
        rintro _ ⟨⟩
        have hre := h.relabel s.layoutConfig s.scale s.viewSize s.workingArea
          (some output) (if OutputId.matches s.originalOutput output then OutputId.new output
            else s.originalOutput) fun _ => rfl
        exact (setViewSize_reviewed hre.wellFormed output.scale output.size
          output.workingArea).relabelled rfl rfl rfl
  case updateOutputSize => exact updateOutputSize_reviewed h

end Workspace

end Sol
