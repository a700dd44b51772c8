import Sol.SpaceChanges

/-!
# Windows in and out

What adding a window to a workspace, and taking one out, does to the columns and
the floating tiles.

* `addTile_received`, `addColumn_columnAdded`: a window comes in;
* `removeTile_taken`, `removeActiveColumn_taken`: a window goes out;
* `step_effect`: what the other operations do.
-/

namespace Sol

open Panicking

namespace Workspace

variable {W Id : Type} [LayoutElement W Id] [DecidableEq Id] {s t : Workspace W Id}

/-! ### In -/

/-- A tile was added to the tiling space. -/
structure Tiled (s : Workspace W Id) (tile : Tile W) (t : Workspace W Id) : Prop where
  added : TileAdded s.scrolling t.scrolling tile
  floating_eq : t.floating = s.floating
  viewSize_eq : t.viewSize = s.viewSize

/-- A tile was added to the floating space. -/
structure MadeFloat (s : Workspace W Id) (tile : Tile W) (t : Workspace W Id) : Prop where
  normal : LayoutElement.pendingSizingMode tile.window = .normal
  tiles : ∀ b ∈ t.floating.tiles, b ∈ s.floating.tiles ∨ FloatingTile s.floating tile b
  floatingView_eq : t.floating.viewSize = s.floating.viewSize
  scrolling_eq : t.scrolling = s.scrolling
  viewSize_eq : t.viewSize = s.viewSize

/-- Whether a tile is to be added to the floating space. -/
def floats (tile : Tile W) (target : WorkspaceAddWindowTarget Id) (isFloating : Bool) : Bool :=
  match target with
  | .newColumnAt _ => false
  | _ => isFloating && (LayoutElement.pendingSizingMode tile.window).isNormal

/-- A tile was added where it belongs. -/
def Received (s : Workspace W Id) (tile : Tile W) (target : WorkspaceAddWindowTarget Id)
    (isFloating : Bool) (t : Workspace W Id) : Prop :=
  if floats tile target isFloating then MadeFloat s { tile with restoreToFloating := isFloating } t
  else Tiled s { tile with restoreToFloating := isFloating } t

omit [DecidableEq Id] in
theorem addTiled_tiled (h : s.WellFormed) (tile : Tile W) (activate : Bool) (width : ColumnWidth)
    (isFullWidth : Bool) : Tiled s tile (s.addTiled tile activate width isFullWidth) :=
  ⟨addTile_tileAdded h.scrolling tile activate width isFullWidth, rfl, rfl⟩

/-- What is told of the floating space when a tile was added to it. -/
def TookIn (s : FloatingSpace W Id) (tile : Tile W) (t : FloatingSpace W Id) : Prop :=
  t.viewSize = s.viewSize ∧ ∀ b ∈ t.tiles, b ∈ s.tiles ∨ FloatingTile s tile b

omit [DecidableEq Id] in
/-- The position of a tile does not matter. -/
theorem addTileAt_tookIn {s : FloatingSpace W Id} (idx : ℕ) (tile : Tile W)
    (floatingPos : Option Point) (activate : Bool) :
    Ensures (s.addTileAt idx { tile with floatingPos } activate) (TookIn s tile) := by
  refine (FloatingSpace.addTileAt_tiles idx _ activate).mono fun t ht => ⟨ht.1, fun b hb => ?_⟩
  rcases ht.2 b hb with hb | ⟨size, rfl⟩
  · exact .inl hb
  · exact .inr ⟨{ tile with floatingPos }, size, ⟨.refl, rfl, rfl⟩, rfl⟩

theorem addFloatingNextTo_tookIn (nextTo : Id) (tile : Tile W) (activate : Bool) :
    Ensures (s.addFloatingNextTo nextTo tile activate) (TookIn s.floating tile) := by
  unfold addFloatingNextTo
  refine ensures_ite.mpr ⟨fun _ => ?_, fun _ => ?_⟩
  · unfold FloatingSpace.addTileAbove
    simp only [ensures_bind, ensures_unwrap, Vec.ensures_get]
    exact fun idx _ data _ => addTileAt_tookIn idx tile _ activate
  · simp only [ensures_bind, ensures_unwrap]
    exact fun found _ => addTileAt_tookIn 0 tile _ activate

omit [DecidableEq Id] in
theorem TookIn.madeFloat {tile : Tile W} {floating : FloatingSpace W Id}
    (h : TookIn s.floating tile floating)
    (hnormal : LayoutElement.pendingSizingMode tile.window = .normal) (activate : Bool) :
    MadeFloat s tile (s.withFloatingAdded floating activate) :=
  ⟨hnormal, h.2, h.1, rfl, rfl⟩

theorem addTile_received (h : s.WellFormed) (tile : Tile W) (target : WorkspaceAddWindowTarget Id)
    (activate : ActivateWindow) (width : ColumnWidth) (isFullWidth isFloating : Bool) :
    Ensures (s.addTile tile target activate width isFullWidth isFloating)
      (Received s tile target isFloating) := by
  unfold addTile Received floats
  dsimp only
  have hnormal : (isFloating && (LayoutElement.pendingSizingMode tile.window).isNormal) = true →
      LayoutElement.pendingSizingMode tile.window = .normal := by
    intro hcond
    rw [Bool.and_eq_true] at hcond
    exact isNormal_iff.mp hcond.2
  cases target with
  | newColumnAt i => exact ensures_pure.mpr (addTiled_tiled h _ _ width isFullWidth)
  | auto =>
    dsimp only
    split_ifs with hfloats
    · simp only [ensures_bind, ensures_pure]
      exact (addTileAt_tookIn 0 { tile with restoreToFloating := isFloating } _ _).mono fun floating hf =>
        hf.madeFloat (hnormal hfloats) _
    · exact ensures_pure.mpr (addTiled_tiled h _ _ width isFullWidth)
  | nextTo next =>
    have hany : Ensures (s.activateNextTo next activate) fun _ => True := fun _ _ => trivial
    rw [ensures_bind]
    refine hany.mono fun activate _ => ?_
    dsimp only
    split_ifs with hfloats
    · simp only [ensures_bind, ensures_pure]
      exact (addFloatingNextTo_tookIn next _ _).mono fun floating hf =>
        hf.madeFloat (hnormal hfloats) _
    · exact ensures_pure.mpr (addTiled_tiled h _ _ width isFullWidth)

omit [DecidableEq Id] in
theorem addTileToColumn_tiled (h : s.WellFormed) (tile : Tile W) (activate : Bool) :
    Tiled s tile (s.addTileToColumn tile activate) :=
  ⟨addTile_tileAdded h.scrolling tile activate _ _, rfl, rfl⟩

/-- A column was added to the tiling space. -/
structure ColumnAdded (s : Workspace W Id) (column : Column W) (t : Workspace W Id) : Prop where
  columns : ∀ d ∈ t.scrolling.columns, s.scrolling.Admitted column d ∨
    ∃ c ∈ s.scrolling.columns, ScrollingSpace.Superseded s.scrolling.workingArea.size c d
  view_eq : t.scrolling.view = s.scrolling.view
  floating_eq : t.floating = s.floating
  viewSize_eq : t.viewSize = s.viewSize

omit [DecidableEq Id] in
theorem addColumn_columnAdded (h : s.WellFormed) (column : Column W) (activate : Bool) :
    ColumnAdded s column (s.addColumn column activate) := by
  have hadded := ScrollingSpace.addColumn_traced h.scrolling column activate
  exact ⟨hadded.1, hadded.2, rfl, rfl⟩

/-! ### Out -/

/-- A tile was taken out of one of the spaces. -/
structure Taken (s : Workspace W Id) (id : Id) (removed : RemovedTile W) (t : Workspace W Id) :
    Prop where
  /-- It is as it was, except that a floating one knows its place. -/
  tile : if removed.isFloating then ∃ a ∈ s.floating.tiles, a.windowId = id ∧
      Tile.Quiet a removed.tile
    else ∃ c ∈ s.scrolling.columns, c.windowId = id ∧ removed.tile = c.tile
  steady : Steady s t

omit [DecidableEq Id] in
theorem updateFocus_steady (removedFromFloating : Bool) :
    Steady s (s.updateFocusFloatingTilingAfterRemoving removedFromFloating) := by
  unfold updateFocusFloatingTilingAfterRemoving
  split_ifs
  · exact steady_active _
  · exact .refl s
  · exact steady_active _
  · exact .refl s

omit [DecidableEq Id] in
theorem taken_floating {id : Id} {removed : RemovedTile W} {floating : FloatingSpace W Id}
    (h : FloatingSpace.TakenOut s.floating id removed floating) :
    Taken s id removed
      ({ s with floating }.updateFocusFloatingTilingAfterRemoving true) := by
  refine ⟨?_, (steady_floating h.steady).trans (updateFocus_steady true)⟩
  rw [if_pos h.isFloating]
  exact h.tile

omit [DecidableEq Id] in
theorem taken_tiled {id : Id} {removed : RemovedTile W} {scrolling : ScrollingSpace W}
    (hfloats : removed.isFloating = false)
    (htile : ∃ c ∈ s.scrolling.columns, c.windowId = id ∧ removed.tile = c.tile)
    (hkept : ScrollingSpace.Kept s.scrolling.columns s.scrolling scrolling) :
    Taken s id removed
      ({ s with scrolling }.updateFocusFloatingTilingAfterRemoving false) := by
  refine ⟨?_, (steady_scrolling hkept.steady).trans (updateFocus_steady false)⟩
  rw [if_neg (by simp [hfloats])]
  exact htile

theorem removeTile_taken (h : s.WellFormed) (clock : Clock) (id : Id) :
    Ensures (s.removeTile clock id) fun r => Taken s id r.1 r.2 := by
  unfold removeTile
  refine ensures_ite.mpr ⟨fun _ => ?_, fun _ => ?_⟩
  · simp only [ensures_bind, ensures_pure]
    exact (FloatingSpace.removeTile_takenOut id).mono fun r hr => taken_floating hr
  · simp only [ensures_bind, ensures_pure]
    exact (removeTile_kept h.scrolling clock id).mono fun r hr => taken_tiled hr.1 hr.2.1 hr.2.2

theorem removeActiveTile_taken (h : s.WellFormed) (clock : Clock) :
    Ensures (s.removeActiveTile clock) fun r =>
      r = (none, s) ∨ ∃ id removed, r.1 = some removed ∧ Taken s id removed r.2 := by
  unfold removeActiveTile FloatingSpace.removeActiveTile ScrollingSpace.removeActiveTile
  refine ensures_ite.mpr ⟨fun _ => ?_, fun _ => ?_⟩
  · cases s.floating.activeWindowId with
    | none => exact ensures_pure.mpr (.inl rfl)
    | some id =>
      simp only [ensures_bind, ensures_pure]
      exact (FloatingSpace.removeTile_takenOut id).mono fun r hr =>
        .inr ⟨id, r.1, rfl, taken_floating hr⟩
  · cases s.scrolling.focusedColumn with
    | none => exact ensures_pure.mpr (.inl rfl)
    | some col =>
      simp only [ensures_bind, ensures_pure]
      exact (removeTile_kept h.scrolling clock col.windowId).mono fun r hr =>
        .inr ⟨col.windowId, r.1, rfl, taken_tiled hr.1 hr.2.1 hr.2.2⟩

/-- A column is taken out with its flags. -/
theorem removeActiveColumn_taken (h : s.WellFormed) (clock : Clock) :
    Ensures (s.removeActiveColumn clock) fun r =>
      r = (none, s) ∨ ∃ c ∈ s.scrolling.columns, r.1 = some c ∧ Steady s r.2 := by
  unfold removeActiveColumn ScrollingSpace.removeActiveColumn
  refine ensures_ite.mpr ⟨fun _ => ensures_pure.mpr (.inl rfl), fun _ => ?_⟩
  cases s.scrolling.activeColumnIdxInternal with
  | none => exact ensures_pure.mpr (.inl rfl)
  | some idx =>
    simp only [ensures_bind, ensures_pure]
    refine (ScrollingSpace.takeColumnAt_kept h.scrolling clock idx).mono fun r hr => ?_
    obtain ⟨hc, hkept⟩ := hr
    refine .inr ⟨r.1, List.mem_of_getElem? hc, rfl, ?_⟩
    have hsteady : ScrollingSpace.Kept s.scrolling.columns s.scrolling r.2 := by
      refine ⟨fun d hd => ?_, hkept.view_eq⟩
      obtain ⟨e, he, hed⟩ := hkept.columns d hd
      exact ⟨e, List.mem_of_mem_eraseIdx he, hed⟩
    exact (steady_scrolling hsteady.steady).trans (updateFocus_steady false)

/-! ### What an operation does -/

/-- The window that an operation moves to the other space. -/
def Op.toggled (s : Workspace W Id) : Op W Id → Option Id
  | .windowCommand window .toggleWindowFloating => s.toggleTarget window
  | .windowCommand window (.setWindowFloating floating) =>
    if s.targetsFloating window = floating then none else s.toggleTarget window
  | _ => none

/-- The window that an operation asks to take over, or not to, and how. -/
def Op.asked (s : Workspace W Id) : Op W Id → Option (Id × Column.Takeover × Bool)
  | .setFullscreen window isFullscreen => some (window, .fullscreen, isFullscreen)
  | .toggleFullscreen window => some (window, .fullscreen, !s.isFullscreen window)
  | .setMaximized window maximize => some (window, .maximized, maximize)
  | .toggleMaximized window => some (window, .maximized, !s.isMaximized window)
  | _ => none

/-- What an operation that neither adds nor takes out a window does. -/
inductive Effect (s : Workspace W Id) (op : Op W Id) (t : Workspace W Id) : Prop
  | steady (h : Steady s t)
  | toggled {window : Id} (hop : op.toggled s = some window) (h : Toggled s window t)
  | asked {window : Id} {kind : Column.Takeover} {value : Bool}
    (hop : op.asked s = some (window, kind, value)) (h : Asked s window kind value t)
  | reviewed (hop : op.IsAboutView) (h : Reviewed s (op.nextView s) t)

theorem runWindowCommand_effect (h : s.WellFormed) (clock : Clock) (window : Option Id)
    (cmd : WindowCommand) :
    Ensures (s.runWindowCommand clock window cmd) (Effect s (.windowCommand window cmd)) := by
  by_cases hcmd : cmd.toggles = true
  · have htoggle : ∀ op : Op W Id, (∀ w, s.toggleTarget window = some w → op.toggled s = some w) →
        Ensures (s.toggleWindowFloating clock window) (Effect s op) := by
      intro op hop
      refine (toggleWindowFloating_toggled h clock window).mono fun t ht => ?_
      rcases ht with ⟨-, rfl⟩ | ⟨w, hw, ht⟩
      · exact .steady (.refl _)
      · exact .toggled (hop w hw) ht
    cases cmd <;> simp only [WindowCommand.toggles, Bool.false_eq_true] at hcmd
    case toggleWindowFloating => exact htoggle _ fun w hw => hw
    case setWindowFloating floating =>
      exact ensures_ite.mpr ⟨fun _ => ensures_pure.mpr (.steady (.refl s)),
        fun hne => htoggle _ fun w hw => (if_neg hne).trans hw⟩
  · rw [Bool.not_eq_true] at hcmd
    exact (runWindowCommand_steady clock window hcmd).mono fun t ht => .steady ht

theorem step_effect (h : s.WellFormed) (clock : Clock) {op : Op W Id} (hown : op.IsOwn = true) :
    Ensures (s.step clock op) (Effect s op) := by
  by_cases hplain : op.IsPlain
  · exact (step_steady h clock hplain).mono fun t ht => .steady ht
  by_cases hview : op.IsAboutView
  · exact (step_reviewed h clock hview).mono fun t ht => .reviewed hview ht
  cases op <;> simp only [Op.IsOwn, Bool.false_eq_true] at hown <;>
    simp only [Op.IsPlain, not_true] at hplain <;> simp only [Op.IsAboutView, not_true] at hview
  case windowCommand window cmd => exact runWindowCommand_effect h clock window cmd
  case setFullscreen window isFullscreen =>
    exact (setFullscreen_asked h clock window isFullscreen).mono fun t ht => .asked rfl ht
  case toggleFullscreen window =>
    exact (toggleFullscreen_asked h clock window).mono fun t ht => .asked rfl ht
  case setMaximized window maximize =>
    exact (setMaximized_asked h clock window maximize).mono fun t ht => .asked rfl ht
  case toggleMaximized window =>
    exact (toggleMaximized_asked h clock window).mono fun t ht => .asked rfl ht

end Workspace

end Sol
