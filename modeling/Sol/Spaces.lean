import Sol.Columns
import Sol.Stacking
import Sol.Workspace

/-!
# The two spaces of a workspace

The operations of a workspace keep both of its spaces well formed and the focus
on one that has a window, if there are windows.

* Most of them are operations of one of the spaces, and rearrange its windows;
* some move a window from one space to the other;
* the others add a window or take one out.

None of them changes the id or the name of the workspace.
-/

namespace Sol

open Panicking

/-! ### Active windows -/

namespace ScrollingSpace

variable {W Id : Type} [LayoutElement W Id] {s : ScrollingSpace W}

/-- An added column that is activated is active. -/
theorem activeId_addColumn (h : s.WellFormed) (col : Column W) :
    (s.addColumn col true).activeId = some col.windowId := by
  obtain ⟨hwf, hrow⟩ := addColumn_spec h col true
  rw [← hwf.focused_row, hrow]
  simp [FocusList.focused, FocusList.append]

/-- A space with columns has an active window. -/
theorem WellFormed.activeId_isSome (h : s.WellFormed) (hne : s.columns ≠ []) :
    ∃ id ∈ s.windowIds, s.activeId = some id := by
  have hitems : s.row.items ≠ [] := by simpa [row, windowIds] using hne
  obtain ⟨id, hid⟩ := h.valid_row.focused_isSome hitems
  exact ⟨id, FocusList.mem_of_focused hid, h.focused_row.symm.trans hid⟩

theorem isEmpty_iff : s.isEmpty = true ↔ s.columns = [] := by
  cases hm : s.master <;> simp [isEmpty, columns, hm]

theorem windowIds_eq_nil : s.windowIds = [] ↔ s.columns = [] := by
  simp [windowIds]

end ScrollingSpace

namespace FloatingSpace

variable {W Id : Type} [LayoutElement W Id] [DecidableEq Id] {s : FloatingSpace W Id}

theorem find?_of_mem {id : Id} (h : id ∈ s.windowIds) :
    ∃ tile, (s.tiles.find? fun tile => tile.windowId = id) = some tile ∧ tile.windowId = id := by
  obtain ⟨tile, htile, hid⟩ := List.mem_map.mp h
  have hsome : (s.tiles.find? fun tile => decide (tile.windowId = id)).isSome := by
    rw [List.find?_isSome]
    exact ⟨tile, htile, by simpa using hid⟩
  obtain ⟨found, hfound⟩ := Option.isSome_iff_exists.mp hsome
  exact ⟨found, hfound, by simpa using List.find?_some hfound⟩

theorem WellFormed.activeWindow_eq (h : s.WellFormed) :
    s.activeWindow.map LayoutElement.id = s.activeWindowId := by
  unfold activeWindow
  cases hactive : s.activeWindowId with
  | none => rfl
  | some id =>
    obtain ⟨tile, htile, hid⟩ := find?_of_mem (h.active_mem id hactive)
    simp only [Option.bind_some, htile, Option.map_some]
    exact congrArg some hid

end FloatingSpace

namespace Workspace

variable {W Id : Type} [LayoutElement W Id] {s t : Workspace W Id}

/-! ### The invariant -/

/-- The invariant of a workspace. -/
structure WellFormed (s : Workspace W Id) : Prop where
  scrolling : s.scrolling.WellFormed
  floating : s.floating.WellFormed
  floating_of_active : s.floatingIsActive = .yes → s.floating.tiles ≠ []
  active_of_empty : s.scrolling.columns = [] → s.floating.tiles ≠ [] → s.floatingIsActive = .yes
  basePresets : s.baseOptions.layout.HasPresets
  presets : s.options.layout.HasPresets

theorem windowIds_eq : s.windowIds = s.scrolling.windowIds ++ s.floating.windowIds := by
  simp [windowIds, tiles, ScrollingSpace.windowIds, ScrollingSpace.tiles, FloatingSpace.windowIds,
    Column.windowId, Function.comp_def]

theorem hasWindows_iff : s.hasWindows = true ↔ s.windowIds ≠ [] := by
  simp [hasWindows, windowIds]

theorem get_iff {a : FloatingActive} : a.get = true ↔ a = .yes := by
  cases a <;> simp [FloatingActive.get]

/-- Two empty spaces. -/
theorem WellFormed.of_empty (hscrolling : s.scrolling.WellFormed) (hfloating : s.floating.WellFormed)
    (hactive : s.floatingIsActive = .no) (htiles : s.floating.tiles = [])
    (hbase : s.baseOptions.layout.HasPresets) (hpresets : s.options.layout.HasPresets) :
    s.WellFormed :=
  ⟨hscrolling, hfloating, by simp [hactive], fun _ hne => absurd htiles hne, hbase, hpresets⟩

theorem wellFormed_newWithConfig (id : WorkspaceId) (output : Output)
    (config : Option WorkspaceConfig) {options : Options} (h : options.layout.HasPresets) :
    (newWithConfig id output config options : Workspace W Id).WellFormed := by
  have hpresets := Options.hasPresets_adjustedForScale
    (Options.hasPresets_withMergedLayout h (config.bind (·.layout))) output.scale
  exact .of_empty (ScrollingSpace.wellFormed_new _ _ _ _)
    (FloatingSpace.wellFormed_new _ _ _ hpresets) rfl rfl h hpresets

theorem wellFormed_newWithConfigNoOutputs (id : WorkspaceId) (config : Option WorkspaceConfig)
    {options : Options} (h : options.layout.HasPresets) :
    (newWithConfigNoOutputs id config options : Workspace W Id).WellFormed := by
  have hpresets := Options.hasPresets_adjustedForScale
    (Options.hasPresets_withMergedLayout h (config.bind (·.layout))) 1
  exact .of_empty (ScrollingSpace.wellFormed_new _ _ _ _)
    (FloatingSpace.wellFormed_new _ _ _ hpresets) rfl rfl h hpresets

/-- The outcome of an operation that adds and removes no window. -/
structure Rearranged (s t : Workspace W Id) : Prop where
  wellFormed : t.WellFormed
  perm : t.windowIds.Perm s.windowIds
  id_eq : t.id = s.id
  name_eq : t.name = s.name
  output : s.output.isSome = true → t.output.isSome = true

theorem WellFormed.rearranged_refl (h : s.WellFormed) : Rearranged s s :=
  ⟨h, .refl _, rfl, rfl, fun o => o⟩

theorem Rearranged.trans {u : Workspace W Id} (h : Rearranged s t) (h' : Rearranged t u) :
    Rearranged s u :=
  ⟨h'.wellFormed, h'.perm.trans h.perm, h'.id_eq.trans h.id_eq, h'.name_eq.trans h.name_eq,
    h'.output ∘ h.output⟩

/-- Rearranged spaces make a rearranged workspace. -/
theorem WellFormed.rearranged (h : s.WellFormed)
    (hscrolling : s.scrolling.Rearranged t.scrolling) (hfloating : s.floating.Rearranged t.floating)
    (hactive : t.floatingIsActive = s.floatingIsActive) (hbase : t.baseOptions.layout.HasPresets)
    (hpresets : t.options.layout.HasPresets) (hid : t.id = s.id) (hname : t.name = s.name)
    (houtput : s.output.isSome = true → t.output.isSome = true) : Rearranged s t := by
  have hcols : t.scrolling.columns = [] ↔ s.scrolling.columns = [] := by
    rw [← ScrollingSpace.windowIds_eq_nil, ← ScrollingSpace.windowIds_eq_nil,
      ← List.length_eq_zero_iff, hscrolling.perm.length_eq, List.length_eq_zero_iff]
  have htiles : t.floating.tiles = [] ↔ s.floating.tiles = [] := by
    have hlen := hfloating.perm.length_eq
    simp only [FloatingSpace.windowIds, List.length_map] at hlen
    rw [← List.length_eq_zero_iff, hlen, List.length_eq_zero_iff]
  refine ⟨⟨hscrolling.wellFormed, hfloating.wellFormed, ?_, ?_, hbase, hpresets⟩, ?_, hid, hname,
    houtput⟩
  · intro hyes
    rw [ne_eq, htiles]
    exact h.floating_of_active (hactive ▸ hyes)
  · intro hempty hne
    rw [hactive]
    exact h.active_of_empty (hcols.mp hempty) fun hnil => hne (htiles.mpr hnil)
  · rw [windowIds_eq, windowIds_eq]
    exact hscrolling.perm.append hfloating.perm

theorem WellFormed.rearranged_scrolling (h : s.WellFormed) {scrolling : ScrollingSpace W}
    (hs : s.scrolling.Rearranged scrolling) : Rearranged s { s with scrolling } :=
  h.rearranged hs h.floating.rearranged_refl rfl h.basePresets h.presets rfl rfl fun o => o

theorem WellFormed.rearranged_floating (h : s.WellFormed) {floating : FloatingSpace W Id}
    (hs : s.floating.Rearranged floating) : Rearranged s { s with floating } :=
  h.rearranged h.scrolling.rearranged_refl hs rfl h.basePresets h.presets rfl rfl fun o => o

/-! ### Configuration and output -/

theorem advanceAnimations_rearranged (h : s.WellFormed) (clock : Clock) :
    Rearranged s (s.advanceAnimations clock) :=
  h.rearranged (ScrollingSpace.advanceAnimations_moved h.scrolling clock).toRearranged
    (FloatingSpace.advanceAnimations_rearranged h.floating clock) rfl h.basePresets h.presets rfl rfl fun o => o

theorem updateConfig_rearranged (h : s.WellFormed) {options : Options}
    (hoptions : options.layout.HasPresets) : Rearranged s (s.updateConfig options) := by
  have hpresets := Options.hasPresets_adjustedForScale
    (Options.hasPresets_withMergedLayout hoptions s.layoutConfig) s.scale
  exact h.rearranged (ScrollingSpace.updateConfig_moved h.scrolling _ _ _ _).toRearranged
    (FloatingSpace.updateConfig_rearranged h.floating _ _ _ hpresets) rfl hoptions hpresets rfl rfl fun o => o

/-- What belongs to the workspace besides its spaces does not matter to the invariant. -/
theorem WellFormed.relabel (h : s.WellFormed) (layoutConfig : Option LayoutPart) (scale : ℚ)
    (viewSize : Size) (workingArea : Rect) (output : Option Output) (originalOutput : OutputId)
    (houtput : s.output.isSome = true → output.isSome = true) :
    Rearranged s { s with layoutConfig, scale, viewSize, workingArea, output, originalOutput } :=
  h.rearranged h.scrolling.rearranged_refl h.floating.rearranged_refl rfl h.basePresets h.presets
    rfl rfl houtput

theorem updateLayoutConfig_rearranged (h : s.WellFormed) (layoutConfig : Option LayoutPart) :
    Rearranged s (s.updateLayoutConfig layoutConfig) := by
  unfold updateLayoutConfig
  split_ifs
  · exact h.rearranged_refl
  · have hre := h.relabel layoutConfig s.scale s.viewSize s.workingArea s.output s.originalOutput
      fun o => o
    exact hre.trans (updateConfig_rearranged hre.wellFormed h.basePresets)

theorem setViewSize_rearranged (h : s.WellFormed) (scale : ℚ) (size : Size) (workingArea : Rect) :
    Rearranged s (s.setViewSize scale size workingArea) := by
  have hre := h.relabel s.layoutConfig scale size workingArea s.output s.originalOutput fun o => o
  unfold setViewSize
  split_ifs
  · exact h.rearranged_refl
  · exact hre.trans (updateConfig_rearranged hre.wellFormed h.basePresets)
  · exact h.rearranged (ScrollingSpace.updateConfig_moved h.scrolling _ _ _ _).toRearranged
      (FloatingSpace.updateConfig_rearranged h.floating _ _ _ h.presets) rfl h.basePresets h.presets
      rfl rfl fun o => o

theorem updateOutputSize_rearranged (h : s.WellFormed) {output : Output}
    (ho : s.output = some output) : Returns s.updateOutputSize fun t => Rearranged s t := by
  unfold updateOutputSize
  simp only [returns_bind, returns_unwrap, returns_pure]
  exact ⟨output, ho, setViewSize_rearranged h _ _ _⟩

/-- A workspace gets an output. -/
theorem setOutput_rearranged (h : s.WellFormed) (output : Output) :
    Returns (s.setOutput (some output)) fun t =>
      Rearranged s t ∧ t.output.isSome = true := by
  unfold setOutput
  refine returns_ite.mpr ⟨fun hkey => returns_pure.mpr ⟨h.rearranged_refl, ?_⟩, fun _ => ?_⟩
  · simpa using congrArg Option.isSome hkey
  · have hre := h.relabel s.layoutConfig s.scale s.viewSize s.workingArea (some output)
      (if OutputId.matches s.originalOutput output then OutputId.new output else s.originalOutput)
      fun _ => rfl
    exact (updateOutputSize_rearranged hre.wellFormed rfl).mono
      fun t ht => ⟨hre.trans ht, ht.output rfl⟩

/-- A workspace loses its output. -/
theorem setOutput_none : s.setOutput none = .ok { s with output := none } := by
  unfold setOutput
  cases ho : s.output with
  | none =>
    simp only [if_true, ← ho]
    rfl
  | some output => rfl

theorem WellFormed.unplugged (h : s.WellFormed) : { s with output := none }.WellFormed :=
  ⟨h.scrolling, h.floating, h.floating_of_active, h.active_of_empty, h.basePresets, h.presets⟩

theorem unname_wellFormed (h : s.WellFormed) : s.unname.WellFormed :=
  ⟨h.scrolling, h.floating, h.floating_of_active, h.active_of_empty, h.basePresets, h.presets⟩

/-! ### Adding -/

/-- The outcome of adding a window. -/
structure Added (s : Workspace W Id) (window : Id) (t : Workspace W Id) : Prop where
  wellFormed : t.WellFormed
  perm : t.windowIds.Perm (window :: s.windowIds)
  id_eq : t.id = s.id
  name_eq : t.name = s.name
  output : s.output.isSome = true → t.output.isSome = true

/-- A column more in the tiling space. -/
theorem added_tiled (h : s.WellFormed) (col : Column W) (activate : Bool) :
    Added s col.windowId { s with
      scrolling := s.scrolling.addColumn col activate
      floatingIsActive := if activate then .no else s.floatingIsActive } := by
  obtain ⟨hwf, hrow⟩ := ScrollingSpace.addColumn_spec h.scrolling col activate
  have hids : (s.scrolling.addColumn col activate).windowIds =
      s.scrolling.windowIds ++ [col.windowId] := congrArg FocusList.items hrow
  refine ⟨⟨hwf, h.floating, ?_, ?_, h.basePresets, h.presets⟩, ?_, rfl, rfl, fun o => o⟩
  · cases activate
    · exact h.floating_of_active
    · simp
  · intro hempty
    have := ScrollingSpace.windowIds_eq_nil.mpr hempty
    simp [hids] at this
  · rw [windowIds_eq, windowIds_eq, hids, List.append_assoc]
    exact List.perm_middle

/-- A tile more in the floating space. -/
theorem added_floating (h : s.WellFormed) {window : Id} {activate : Bool}
    {floating : FloatingSpace W Id} (hadded : s.floating.Added window activate floating) :
    Added s window (s.withFloatingAdded floating activate) := by
  have hne : floating.tiles ≠ [] := by
    intro hnil
    have := hadded.perm.length_eq
    simp [FloatingSpace.windowIds, hnil] at this
  refine ⟨⟨h.scrolling, hadded.wellFormed, fun _ => hne, ?_, h.basePresets, h.presets⟩, ?_,
    rfl, rfl, fun o => o⟩
  · intro hempty _
    have hscrolling : s.scrolling.isEmpty = true := ScrollingSpace.isEmpty_iff.mpr hempty
    simp [withFloatingAdded, hscrolling]
  · rw [windowIds_eq, windowIds_eq]
    exact (hadded.perm.append_left _).trans List.perm_middle

/-! ### Positions and removals -/

theorem map_fst_scrollingRenderPositions (h : s.WellFormed) :
    s.scrollingRenderPositions.map (·.1) = s.scrolling.tiles := by
  refine List.map_fst_zip (le_of_eq ?_)
  simp [ScrollingSpace.tiles, ScrollingSpace.length_columnLayout h.scrolling]

theorem map_fst_tilesWithOffsets (h : s.WellFormed) :
    s.floating.tilesWithOffsets.map (·.1) = s.floating.tiles :=
  List.map_fst_zip (by simp [h.floating.length_data])

/-- The outcome of taking out a window. -/
structure Removed (s : Workspace W Id) (window : Id) (t : Workspace W Id) : Prop where
  wellFormed : t.WellFormed
  perm : s.windowIds.Perm (window :: t.windowIds)
  id_eq : t.id = s.id
  name_eq : t.name = s.name
  output : s.output.isSome = true → t.output.isSome = true

theorem removed_floating (h : s.WellFormed) {window : Id} {removed : RemovedTile W}
    {floating : FloatingSpace W Id} (hr : s.floating.Removed window removed floating) :
    Removed s window ({ s with floating }.updateFocusFloatingTilingAfterRemoving true) := by
  have hperm : s.windowIds.Perm (window :: (s.scrolling.windowIds ++ floating.windowIds)) := by
    rw [windowIds_eq]
    exact (hr.perm.append_left _).trans List.perm_middle
  have hne : s.floating.tiles ≠ [] := by
    intro hnil
    have := hr.perm.length_eq
    simp [FloatingSpace.windowIds, hnil] at this
  unfold updateFocusFloatingTilingAfterRemoving
  simp only [if_true]
  split_ifs with hempty
  · refine ⟨⟨h.scrolling, hr.wellFormed, by simp, ?_, h.basePresets, h.presets⟩, ?_, rfl, rfl, fun o => o⟩
    · intro _ hne'
      exact absurd (List.isEmpty_iff.mp hempty) hne'
    · rw [windowIds_eq (s := { s with floating, floatingIsActive := _ })]
      exact hperm
  · refine ⟨⟨h.scrolling, hr.wellFormed, ?_, ?_, h.basePresets, h.presets⟩, ?_, rfl, rfl, fun o => o⟩
    · intro _ hnil
      exact hempty (List.isEmpty_iff.mpr hnil)
    · intro hcols _
      exact h.active_of_empty hcols hne
    · rw [windowIds_eq (s := { s with floating })]
      exact hperm

/-- Taking a window out of the tiling space. -/
theorem removed_tiled (h : s.WellFormed) {window : Id} {scrolling : ScrollingSpace W}
    (hwf : scrolling.WellFormed) (hperm : s.scrolling.windowIds.Perm (window :: scrolling.windowIds)) :
    Removed s window ({ s with scrolling }.updateFocusFloatingTilingAfterRemoving false) := by
  have hids : s.windowIds.Perm (window :: (scrolling.windowIds ++ s.floating.windowIds)) := by
    rw [windowIds_eq]
    exact hperm.append_right _
  unfold updateFocusFloatingTilingAfterRemoving
  simp only [Bool.false_eq_true, if_false]
  split_ifs with hempty
  · simp only [Bool.and_eq_true, Bool.not_eq_true', FloatingSpace.isEmpty, List.isEmpty_eq_false_iff]
      at hempty
    refine ⟨⟨hwf, h.floating, fun _ => hempty.2, fun _ _ => rfl, h.basePresets, h.presets⟩, ?_,
      rfl, rfl, fun o => o⟩
    rw [windowIds_eq (s := { s with scrolling, floatingIsActive := _ })]
    exact hids
  · refine ⟨⟨hwf, h.floating, h.floating_of_active, ?_, h.basePresets, h.presets⟩, ?_, rfl, rfl, fun o => o⟩
    · intro hcols hne
      refine absurd ?_ hempty
      simp only [Bool.and_eq_true, Bool.not_eq_true', FloatingSpace.isEmpty,
        List.isEmpty_eq_false_iff]
      exact ⟨ScrollingSpace.isEmpty_iff.mpr hcols, hne⟩
    · rw [windowIds_eq (s := { s with scrolling })]
      exact hids

/-- What a detached column leaves. -/
theorem perm_detached {a b : ScrollingSpace W} {i : ℕ} {col : Column W}
    (h : ScrollingSpace.Detached a i col b) : a.windowIds.Perm (col.windowId :: b.windowIds) := by
  have hi : a.windowIds[i]? = some col.windowId := by
    rw [ScrollingSpace.windowIds, List.getElem?_map, h.removed_eq]
    rfl
  obtain ⟨hlt, heq⟩ := List.getElem?_eq_some_iff.mp hi
  rw [h.windowIds_eq, ← heq]
  exact (List.getElem_cons_eraseIdx_perm hlt).symm

/-- A window is floating or tiled. -/
theorem mem_windowIds {id : Id} :
    id ∈ s.windowIds ↔ id ∈ s.scrolling.windowIds ∨ id ∈ s.floating.windowIds := by
  rw [windowIds_eq, List.mem_append]

/-! ### The active window -/

variable [DecidableEq Id]

theorem hasWindow_iff {id : Id} : s.hasWindow id = true ↔ id ∈ s.windowIds := by
  simp [hasWindow, windowIds]

/-- The id of the active window. -/
def activeId (s : Workspace W Id) : Option Id := s.activeWindow.map LayoutElement.id

theorem activeId_of_floating (h : s.WellFormed) (hactive : s.floatingIsActive = .yes) :
    s.activeId = s.floating.activeWindowId := by
  simp [activeId, activeWindow, hactive, FloatingActive.get, h.floating.activeWindow_eq]

theorem activeId_of_tiling (hactive : s.floatingIsActive ≠ .yes) :
    s.activeId = s.scrolling.activeId := by
  have hget : s.floatingIsActive.get = false := by
    cases hf : s.floatingIsActive <;> simp_all [FloatingActive.get]
  simp [activeId, activeWindow, hget, ScrollingSpace.activeId]

/-- The active window is one of the windows. -/
theorem activeId_mem (h : s.WellFormed) {id : Id} (hid : s.activeId = some id) :
    id ∈ s.windowIds := by
  rw [windowIds_eq, List.mem_append]
  by_cases hactive : s.floatingIsActive = .yes
  · exact .inr (h.floating.active_mem id (activeId_of_floating h hactive ▸ hid))
  · rw [activeId_of_tiling hactive] at hid
    left
    exact FocusList.mem_of_focused (h.scrolling.focused_row.trans hid)

/-- A workspace with windows has an active one. -/
theorem activeId_isSome (h : s.WellFormed) (hne : s.windowIds ≠ []) :
    ∃ id, s.activeId = some id := by
  by_cases hactive : s.floatingIsActive = .yes
  · rw [activeId_of_floating h hactive]
    exact Option.ne_none_iff_exists'.mp fun hnone =>
      h.floating_of_active hactive (h.floating.active_eq_none.mp hnone)
  · rw [activeId_of_tiling hactive]
    have hcols : s.scrolling.columns ≠ [] := by
      intro hempty
      have htiles : s.floating.tiles = [] := by
        by_contra htiles
        exact hactive (h.active_of_empty hempty htiles)
      apply hne
      simp [windowIds_eq, ScrollingSpace.windowIds, FloatingSpace.windowIds, hempty, htiles]
    obtain ⟨id, -, hid⟩ := h.scrolling.activeId_isSome hcols
    exact ⟨id, hid⟩

theorem activeId_added_tiled (h : s.WellFormed) (col : Column W) :
    ({ s with scrolling := s.scrolling.addColumn col true, floatingIsActive := .no } :
      Workspace W Id).activeId = some col.windowId := by
  rw [activeId_of_tiling (by simp)]
  exact ScrollingSpace.activeId_addColumn h.scrolling col

theorem activeId_added_floating (h : s.WellFormed) {window : Id} {floating : FloatingSpace W Id}
    (hadded : s.floating.Added window true floating) :
    (s.withFloatingAdded floating true).activeId = some window := by
  rw [activeId_of_floating (added_floating h hadded).wellFormed (by simp [withFloatingAdded])]
  exact hadded.active_eq

/-- What an added tile that is activated leads to. -/
def AddsWindow (s : Workspace W Id) (window : Id) (activate : Bool) (t : Workspace W Id) : Prop :=
  Added s window t ∧ (activate = true → t.activeId = some window)

theorem addTiled_spec (h : s.WellFormed) (tile : Tile W) (activate : Bool) (width : ColumnWidth)
    (isFullWidth : Bool) :
    AddsWindow s tile.windowId activate (s.addTiled tile activate width isFullWidth) := by
  have hcol := added_tiled h (Column.newWithTile tile s.scrolling.viewSize s.scrolling.workingArea
    s.scrolling.parentArea s.scrolling.scale width isFullWidth) activate
  rw [Column.windowId_newWithTile] at hcol
  refine ⟨hcol, ?_⟩
  rintro rfl
  refine (activeId_added_tiled h _).trans ?_
  rw [Column.windowId_newWithTile]

theorem withFloatingAdded_spec (h : s.WellFormed) {window : Id} {activate : Bool}
    {floating : FloatingSpace W Id} (hadded : s.floating.Added window activate floating) :
    AddsWindow s window activate (s.withFloatingAdded floating activate) := by
  refine ⟨added_floating h hadded, ?_⟩
  rintro rfl
  exact activeId_added_floating h hadded

theorem addTileToColumn_spec (h : s.WellFormed) (tile : Tile W) (activate : Bool) :
    AddsWindow s tile.windowId activate (s.addTileToColumn tile activate) := by
  have hcol := added_tiled h (Column.newWithTile tile s.scrolling.viewSize s.scrolling.workingArea
    s.scrolling.parentArea s.scrolling.scale (.proportion s.scrolling.masterRatio) false) activate
  rw [Column.windowId_newWithTile] at hcol
  refine ⟨hcol, ?_⟩
  rintro rfl
  refine (activeId_added_tiled h _).trans ?_
  rw [Column.windowId_newWithTile]

theorem addColumn_spec (h : s.WellFormed) (col : Column W) (activate : Bool) :
    AddsWindow s col.windowId activate (s.addColumn col activate) := by
  refine ⟨added_tiled h col activate, ?_⟩
  rintro rfl
  exact activeId_added_tiled h col

/-- Next to a window that is there it is clear whether to activate. -/
theorem activateNextTo_spec (h : s.WellFormed) {nextTo : Id} (hnext : nextTo ∈ s.windowIds)
    (activate : ActivateWindow) :
    Returns (s.activateNextTo nextTo activate) fun b => activate = .yes → b = true := by
  unfold activateNextTo
  cases activate with
  | yes => simp
  | no => simp
  | smart =>
    obtain ⟨id, hid⟩ := activeId_isSome h (List.ne_nil_of_mem hnext)
    obtain ⟨w, hw, -⟩ := Option.map_eq_some_iff.mp hid
    simp only [returns_bind, returns_unwrap, returns_pure]
    exact ⟨w, hw, by simp⟩

/-! ### Positions -/

/-- A window is found by the tiles that are listed with their positions. -/
theorem find?_position {l : List (Tile W × Point)} {tiles : List (Tile W)} {id : Id}
    (hl : l.map (·.1) = tiles) (hid : id ∈ tiles.map (·.windowId)) :
    ∃ found, (l.find? fun (tile, _) => tile.windowId = id) = some found := by
  obtain ⟨tile, htile, rfl⟩ := List.mem_map.mp hid
  obtain ⟨entry, hentry, rfl⟩ := List.mem_map.mp (hl.symm ▸ htile)
  refine Option.isSome_iff_exists.mp ?_
  rw [List.find?_isSome]
  exact ⟨entry, hentry, by simp⟩

theorem renderPosOf_isSome (h : s.WellFormed) (clock : Clock) {id : Id} (hid : id ∈ s.windowIds) :
    ∃ pos, s.renderPosOf clock id = some pos := by
  have hl : (s.tilesWithRenderPositions clock).map (·.1) = s.floating.tiles ++ s.scrolling.tiles := by
    rw [tilesWithRenderPositions, List.map_append, map_fst_scrollingRenderPositions h,
      FloatingSpace.tilesWithRenderPositions, List.map_map]
    exact congrArg (· ++ s.scrolling.tiles) (map_fst_tilesWithOffsets h)
  have hmem : id ∈ (s.floating.tiles ++ s.scrolling.tiles).map (·.windowId) := by
    simp only [windowIds, tiles, List.map_append, List.mem_append] at hid ⊢
    exact hid.symm
  obtain ⟨found, hfound⟩ := find?_position hl hmem
  exact ⟨found.2, by rw [renderPosOf, hfound]; rfl⟩

theorem unroundedPosOf_isSome (h : s.WellFormed) (clock : Clock) {id : Id}
    (hid : id ∈ s.windowIds) : ∃ pos, s.unroundedPosOf clock id = some pos := by
  have hl : ((s.floating.tilesWithOffsets.map fun ((tile, offset) : Tile W × Point) =>
      (tile, offset + tile.renderOffset clock)) ++ s.scrollingRenderPositions).map Prod.fst =
        s.floating.tiles ++ s.scrolling.tiles := by
    rw [List.map_append, map_fst_scrollingRenderPositions h, List.map_map]
    exact congrArg (· ++ s.scrolling.tiles) (map_fst_tilesWithOffsets h)
  have hmem : id ∈ (s.floating.tiles ++ s.scrolling.tiles).map (·.windowId) := by
    simp only [windowIds, tiles, List.map_append, List.mem_append] at hid ⊢
    exact hid.symm
  obtain ⟨found, hfound⟩ := find?_position hl hmem
  exact ⟨found.2, by simp only [unroundedPosOf]; rw [hfound]; rfl⟩

theorem addFloatingNextTo_spec (h : s.WellFormed) {nextTo : Id} (hnext : nextTo ∈ s.windowIds)
    (tile : Tile W) (activate : Bool) :
    Returns (s.addFloatingNextTo nextTo tile activate) fun floating =>
      s.floating.Added tile.windowId activate floating := by
  unfold addFloatingNextTo
  rw [returns_ite]
  constructor
  · intro hfloats
    exact FloatingSpace.addTileAbove_spec h.floating (FloatingSpace.hasWindow_iff.mp hfloats) tile
      activate
  · intro hfloats
    have htiled : nextTo ∈ s.scrolling.tiles.map (·.windowId) := by
      rw [windowIds, tiles, List.map_append, List.mem_append] at hnext
      exact hnext.resolve_right fun hmem => hfloats (FloatingSpace.hasWindow_iff.mpr hmem)
    obtain ⟨found, hfound⟩ := find?_position (map_fst_scrollingRenderPositions h) htiled
    simp only [returns_bind, returns_unwrap]
    exact ⟨found, hfound, FloatingSpace.addTile_spec h.floating _ activate⟩

/-- Adding a tile, next to a window that is there if next to one. -/
theorem addTile_spec (h : s.WellFormed) (tile : Tile W) {target : WorkspaceAddWindowTarget Id}
    (htarget : ∀ w, target = .nextTo w → w ∈ s.windowIds) (activate : ActivateWindow)
    (width : ColumnWidth) (isFullWidth isFloating : Bool) :
    Returns (s.addTile tile target activate width isFullWidth isFloating) fun t =>
      Added s tile.windowId t ∧ (activate = .yes → t.activeId = some tile.windowId) := by
  have htiled := fun b => addTiled_spec h { tile with restoreToFloating := isFloating } b width
    isFullWidth
  have hyes : ∀ b, activate = .yes → activate.mapSmart b = true := by
    rintro b rfl
    rfl
  unfold addTile
  cases target with
  | auto =>
    simp only [returns_ite, returns_bind, returns_pure]
    constructor
    · intro _
      refine (FloatingSpace.addTile_spec h.floating { tile with restoreToFloating := isFloating }
        _).mono fun floating hf => ?_
      have := withFloatingAdded_spec h hf
      exact ⟨this.1, fun ha => this.2 (hyes _ ha)⟩
    · intro _
      exact ⟨(htiled _).1, fun ha => (htiled _).2 (hyes _ ha)⟩
  | newColumnAt i =>
    simp only [returns_pure]
    exact ⟨(htiled _).1, fun ha => (htiled _).2 (hyes _ ha)⟩
  | nextTo nextTo =>
    have hnext := htarget nextTo rfl
    simp only [returns_bind]
    refine (activateNextTo_spec h hnext activate).mono fun b hb => ?_
    simp only [returns_ite, returns_bind, returns_pure]
    constructor
    · intro _
      refine (addFloatingNextTo_spec h hnext { tile with restoreToFloating := isFloating }
        b).mono fun floating hf => ?_
      have := withFloatingAdded_spec h hf
      exact ⟨this.1, fun ha => this.2 (hb ha)⟩
    · intro _
      exact ⟨(htiled b).1, fun ha => (htiled b).2 (hb ha)⟩

/-! ### Removing -/

theorem removeTiled_spec (h : s.WellFormed) (clock : Clock) {window : Id}
    (hw : window ∈ s.scrolling.windowIds) :
    Returns (s.scrolling.removeTile clock window) fun r => r.1.tile.windowId = window ∧
      r.2.WellFormed ∧ s.scrolling.windowIds.Perm (window :: r.2.windowIds) := by
  refine (ScrollingSpace.removeTile_spec h.scrolling clock hw).mono fun r hr => ?_
  obtain ⟨i, col, hi, hcol, hd⟩ := hr
  obtain ⟨j, -, hj, hid⟩ := ScrollingSpace.position_of_mem hw
  obtain rfl : i = j := Option.some.inj (hi.symm.trans hj)
  have hwindow : col.windowId = window := by
    rw [ScrollingSpace.windowIds, List.getElem?_map, hd.removed_eq] at hid
    exact Option.some.inj hid
  refine ⟨?_, hd.wellFormed, hwindow ▸ perm_detached hd⟩
  rw [← hcol]
  exact hwindow

theorem mem_scrolling {id : Id} (hid : id ∈ s.windowIds) (hf : ¬s.floating.hasWindow id = true) :
    id ∈ s.scrolling.windowIds :=
  (mem_windowIds.mp hid).resolve_right fun hmem => hf (FloatingSpace.hasWindow_iff.mpr hmem)

theorem removeTile_spec (h : s.WellFormed) (clock : Clock) {window : Id}
    (hw : window ∈ s.windowIds) :
    Returns (s.removeTile clock window) fun r =>
      r.1.tile.windowId = window ∧ Removed s window r.2 := by
  unfold removeTile
  simp only [returns_ite, returns_bind, returns_pure]
  constructor
  · intro hf
    exact (FloatingSpace.removeTile_spec h.floating (FloatingSpace.hasWindow_iff.mp hf)).mono
      fun r hr => ⟨hr.windowId_eq, removed_floating h hr⟩
  · intro hf
    exact (removeTiled_spec h clock (mem_scrolling hw hf)).mono
      fun r hr => ⟨hr.1, removed_tiled h hr.2.1 hr.2.2⟩

theorem removeActiveTile_spec (h : s.WellFormed) (clock : Clock) :
    Returns (s.removeActiveTile clock) fun r => (r = (none, s) ∧ s.windowIds = []) ∨
      ∃ removed, r.1 = some removed ∧ s.activeId = some removed.tile.windowId ∧
        Removed s removed.tile.windowId r.2 := by
  unfold removeActiveTile
  rw [returns_ite]
  constructor
  · intro hactive
    rw [get_iff] at hactive
    simp only [returns_bind]
    refine (FloatingSpace.removeActiveTile_spec h.floating).mono fun r hr => ?_
    rcases hr with ⟨rfl, hnone⟩ | ⟨removed, window, hsome, hwindow, hr⟩
    · exact absurd (h.floating.active_eq_none.mp hnone) (h.floating_of_active hactive)
    · obtain ⟨o, floating⟩ := r
      obtain rfl : o = some removed := hsome
      simp only [returns_pure]
      refine .inr ⟨removed, rfl, ?_, hr.windowId_eq ▸ removed_floating h hr⟩
      rw [activeId_of_floating h hactive, hwindow, hr.windowId_eq]
  · intro hactive
    rw [get_iff] at hactive
    unfold ScrollingSpace.removeActiveTile
    cases hcol : s.scrolling.focusedColumn with
    | none =>
      simp only [returns_bind, returns_pure]
      refine .inl ⟨trivial, ?_⟩
      by_contra hne
      obtain ⟨id, hid⟩ := activeId_isSome h hne
      rw [activeId_of_tiling hactive] at hid
      simp [ScrollingSpace.activeId, ScrollingSpace.activeWindow, hcol] at hid
    | some col =>
      have hmem : col.windowId ∈ s.scrolling.windowIds :=
        List.mem_map_of_mem (ScrollingSpace.focusedColumn_mem hcol)
      simp only [returns_bind, returns_pure]
      refine (removeTiled_spec h clock hmem).mono fun r hr => ?_
      refine .inr ⟨r.1, rfl, ?_, hr.1 ▸ removed_tiled h hr.2.1 hr.2.2⟩
      rw [activeId_of_tiling hactive, hr.1, ScrollingSpace.activeId, ScrollingSpace.activeWindow, hcol]
      rfl

theorem removeActiveColumn_spec (h : s.WellFormed) (clock : Clock) :
    Returns (s.removeActiveColumn clock) fun r =>
      (r = (none, s) ∧ (s.floatingIsActive ≠ .yes → s.activeId = none)) ∨
        ∃ column, r.1 = some column ∧ s.activeId = some column.windowId ∧
          Removed s column.windowId r.2 := by
  unfold removeActiveColumn
  refine returns_ite.mpr ⟨fun hget => returns_pure.mpr (.inl ⟨rfl, ?_⟩), fun hget => ?_⟩
  · exact fun hno => absurd (get_iff.mp hget) hno
  rw [get_iff] at hget
  -- the active column in the order of the columns
  have hrow : s.activeId = s.scrolling.activeColumnIdxInternal.bind (s.scrolling.windowIds[·]?) :=
    (activeId_of_tiling hget).trans h.scrolling.focused_row.symm
  unfold ScrollingSpace.removeActiveColumn
  cases hidx : s.scrolling.activeColumnIdxInternal with
  | none =>
    simp only [returns_bind, returns_pure]
    exact .inl ⟨trivial, fun _ => by rw [hrow, hidx]; rfl⟩
  | some i =>
    simp only [returns_bind, returns_pure]
    refine (ScrollingSpace.takeColumnAt_spec h.scrolling clock
      (ScrollingSpace.activeColumnIdx_lt h.scrolling hidx)).mono fun r hr => ?_
    refine .inr ⟨r.1, rfl, ?_, removed_tiled h hr.wellFormed (perm_detached hr)⟩
    rw [hrow, hidx, Option.bind_some, ScrollingSpace.windowIds, List.getElem?_map, hr.removed_eq]
    rfl

end Workspace

end Sol
