import Sol.Machine
import Sol.WorkspaceRun
import Sol.SampleSpace

/-!
# Runs of a workspace

The operations of a workspace as steps.  A step rearranges the windows, adds one
or takes one out, and every reachable workspace is well formed: the flag that
says whether the floating space is active fits the two spaces.

* `step_stepped`: what a step does;
* `nodup_of_callable`: every window is there once if none is added twice;
* `reachable_active`: the flag, and that a workspace with windows has an active one.
-/

namespace Sol

open Panicking

namespace Workspace

/-- The operations of a workspace. -/
inductive Op (W Id : Type)
  | addTile (tile : Tile W) (target : WorkspaceAddWindowTarget Id) (activate : ActivateWindow)
    (width : ColumnWidth) (isFullWidth isFloating : Bool)
  | addTileToColumn (tile : Tile W) (activate : Bool)
  | addColumn (column : Column W) (activate : Bool)
  | removeTile (id : Id)
  | removeActiveTile
  | removeActiveColumn
  | command (cmd : Command)
  | windowCommand (window : Option Id) (cmd : WindowCommand)
  | setFullscreen (window : Id) (isFullscreen : Bool)
  | toggleFullscreen (window : Id)
  | setMaximized (window : Id) (maximize : Bool)
  | toggleMaximized (window : Id)
  | activateWindow (window : Id)
  | activateWindowWithoutRaising (window : Id)
  | descendantsAdded (id : Id)
  | updateWindow (window : Id) (serial : Option ℕ)
  | refresh (isActive isFocused : Bool)
  | advanceAnimations
  | interactiveResizeBegin (window : Id) (edges : ResizeEdge)
  | interactiveResizeUpdate (window : Id) (delta : Point)
  | interactiveResizeEnd (window : Option Id)
  | updateConfig (baseOptions : Options)
  | updateLayoutConfig (layoutConfig : Option LayoutPart)
  | setOutput (output : Option Output)
  | updateOutputSize
  | unname

variable {W Id : Type} [LayoutElement W Id] {s t : Workspace W Id}

/-- What a step does to the windows. -/
inductive Stepped (s t : Workspace W Id) : Prop
  | rearranged (wellFormed : t.WellFormed) (perm : t.windowIds.Perm s.windowIds)
  | added (window : Id) (h : Added s window t)
  | removed (window : Id) (h : Removed s window t)

theorem Stepped.wellFormed (h : Stepped s t) : t.WellFormed := by
  cases h with
  | rearranged h _ => exact h
  | added _ h => exact h.wellFormed
  | removed _ h => exact h.wellFormed

variable [DecidableEq Id]

/-- One operation, at the time the clock shows. -/
def step (clock : Clock) (s : Workspace W Id) : Op W Id → Outcome (Workspace W Id)
  | .addTile tile target activate width isFullWidth isFloating =>
    s.addTile tile target activate width isFullWidth isFloating
  | .addTileToColumn tile activate => pure (s.addTileToColumn tile activate)
  | .addColumn column activate => pure (s.addColumn column activate)
  | .removeTile id => do return (← s.removeTile clock id).2
  | .removeActiveTile => do return (← s.removeActiveTile clock).2
  | .removeActiveColumn => do return (← s.removeActiveColumn clock).2
  | .command cmd => s.runCommand clock cmd
  | .windowCommand window cmd => s.runWindowCommand clock window cmd
  | .setFullscreen window isFullscreen => s.setFullscreen clock window isFullscreen
  | .toggleFullscreen window => s.toggleFullscreen clock window
  | .setMaximized window maximize => s.setMaximized clock window maximize
  | .toggleMaximized window => s.toggleMaximized clock window
  | .activateWindow window => do return (← s.activateWindow window).1
  | .activateWindowWithoutRaising window => pure (s.activateWindowWithoutRaising window).1
  | .descendantsAdded id => do return (← s.descendantsAdded id).1
  | .updateWindow window serial => s.updateWindow window serial
  | .refresh isActive isFocused => pure (s.refresh isActive isFocused)
  | .advanceAnimations => pure (s.advanceAnimations clock)
  | .interactiveResizeBegin window edges => do return (← s.interactiveResizeBegin window edges).1
  | .interactiveResizeUpdate window delta => do return (← s.interactiveResizeUpdate window delta).1
  | .interactiveResizeEnd window => pure (s.interactiveResizeEnd window)
  | .updateConfig baseOptions => pure (s.updateConfig baseOptions)
  | .updateLayoutConfig layoutConfig => pure (s.updateLayoutConfig layoutConfig)
  | .setOutput output => s.setOutput output
  | .updateOutputSize => s.updateOutputSize
  | .unname => pure s.unname

/-- The windows that an operation is about. -/
def Op.subjects : Op W Id → List Id
  | .addTile _ (.nextTo window) _ _ _ _ => [window]
  | .removeTile id => [id]
  | .windowCommand (some window) _ => [window]
  | .setFullscreen window _ | .toggleFullscreen window => [window]
  | .setMaximized window _ | .toggleMaximized window => [window]
  | _ => []

/-- The options that an operation hands over. -/
def Op.newOptions : Op W Id → Option Options
  | .updateConfig baseOptions => some baseOptions
  | _ => none

/-- What the callers of an operation see to: the windows that it is about are
there, and the options have presets. -/
def Op.Admissible (s : Workspace W Id) (op : Op W Id) : Prop :=
  (∀ window ∈ op.subjects, window ∈ s.windowIds) ∧
    ∀ baseOptions ∈ op.newOptions, baseOptions.layout.HasPresets

/-- The operations that the tiling space has not implemented, or that ask for the
size of no output. -/
def Op.isUnfinished (s : Workspace W Id) : Op W Id → Bool
  | .command cmd => cmd.isUnfinished s
  | .windowCommand window cmd => cmd.isUnfinished s window
  | .updateOutputSize => s.output.isNone
  | _ => false

/-- The operations that neither add nor take out a window. -/
def Op.IsOwn : Op W Id → Bool
  | .addTile .. | .addTileToColumn .. | .addColumn .. => false
  | .removeTile _ | .removeActiveTile | .removeActiveColumn => false
  | _ => true

/-- What an operation that neither adds nor takes out a window does to the windows. -/
structure Reordered (s t : Workspace W Id) : Prop where
  wellFormed : t.WellFormed
  perm : t.windowIds.Perm s.windowIds

omit [DecidableEq Id] in
theorem Rearranged.reordered (h : Rearranged s t) : Reordered s t := ⟨h.wellFormed, h.perm⟩

/-- The other operations rearrange the windows, and return unless they are unfinished. -/
theorem step_reordered (h : s.WellFormed) (clock : Clock) {op : Op W Id} (hop : op.Admissible s)
    (hown : op.IsOwn = true) :
    Guarded (¬op.isUnfinished s = true) (s.step clock op) (Reordered s) := by
  have hsubject : ∀ window, op.subjects = [window] → window ∈ s.windowIds :=
    fun window hw => hop.1 window (hw ▸ List.mem_singleton_self window)
  cases op
  case addTile | addTileToColumn | addColumn => simp [Op.IsOwn] at hown
  case removeTile | removeActiveTile | removeActiveColumn => simp [Op.IsOwn] at hown
  case command cmd => exact (runCommand_rearranged h clock cmd).mono fun t ht => ht.reordered
  case windowCommand window cmd =>
    refine (runWindowCommand_rearranged h clock ?_ cmd).mono fun t ht => ht.reordered
    rintro w ⟨⟩
    exact hsubject w rfl
  case updateOutputSize =>
    cases ho : s.output with
    | none =>
      have hpanics : s.updateOutputSize = .error .unwrapNone := by
        simp [updateOutputSize, ho]
        rfl
      simp [step, hpanics, Op.isUnfinished, ho]
    | some output =>
      exact ((updateOutputSize_rearranged h ho).mono fun t ht => ht.reordered).guarded
  all_goals
    refine Returns.guarded ?_
    simp only [step, returns_bind, returns_pure]
  case setFullscreen window isFullscreen =>
    exact (setFullscreen_rearranged h clock (hsubject window rfl) isFullscreen).mono
      fun t ht => ht.reordered
  case toggleFullscreen window =>
    exact (toggleFullscreen_rearranged h clock (hsubject window rfl)).mono fun t ht => ht.reordered
  case setMaximized window maximize =>
    exact (setMaximized_rearranged h clock (hsubject window rfl) maximize).mono
      fun t ht => ht.reordered
  case toggleMaximized window =>
    exact (toggleMaximized_rearranged h clock (hsubject window rfl)).mono fun t ht => ht.reordered
  case activateWindow window =>
    exact (activateWindow_rearranged h window).mono fun r hr => hr.reordered
  case activateWindowWithoutRaising window =>
    exact (activateWindowWithoutRaising_rearranged h window).reordered
  case descendantsAdded id => exact (descendantsAdded_rearranged h id).mono fun r hr => hr.reordered
  case updateWindow window serial =>
    exact (updateWindow_rearranged h window serial).mono fun t ht => ht.reordered
  case refresh isActive isFocused => exact (refresh_rearranged h isActive isFocused).reordered
  case advanceAnimations => exact (advanceAnimations_rearranged h clock).reordered
  case interactiveResizeBegin window edges =>
    exact (interactiveResizeBegin_rearranged h window edges).mono fun r hr => hr.reordered
  case interactiveResizeUpdate window delta =>
    exact (interactiveResizeUpdate_rearranged h window delta).mono fun r hr => hr.reordered
  case interactiveResizeEnd window => exact (interactiveResizeEnd_rearranged h window).reordered
  case updateConfig baseOptions =>
    exact (updateConfig_rearranged h (hop.2 baseOptions rfl)).reordered
  case updateLayoutConfig layoutConfig =>
    exact (updateLayoutConfig_rearranged h layoutConfig).reordered
  case setOutput output =>
    cases output with
    | none =>
      rw [setOutput_none]
      exact returns_pure.mpr ⟨h.unplugged, .refl _⟩
    | some output => exact (setOutput_rearranged h output).mono fun t ht => ht.1.reordered
  case unname => exact ⟨unname_wellFormed h, .refl _⟩

/-- An operation takes a window out, adds one, or rearranges the windows; it
returns unless it is unfinished. -/
theorem step_stepped (h : s.WellFormed) (clock : Clock) {op : Op W Id} (hop : op.Admissible s) :
    Guarded (¬op.isUnfinished s = true) (s.step clock op) (Stepped s) := by
  have hsubject : ∀ window, op.subjects = [window] → window ∈ s.windowIds :=
    fun window hw => hop.1 window (hw ▸ List.mem_singleton_self window)
  by_cases hown : op.IsOwn = true
  · exact (step_reordered h clock hop hown).mono fun t ht => .rearranged ht.wellFormed ht.perm
  refine Returns.guarded ?_
  cases op <;> simp only [Op.IsOwn, not_true] at hown <;>
    simp only [step, returns_bind, returns_pure]
  case addTile tile target activate width isFullWidth isFloating =>
    refine (addTile_spec h tile ?_ activate width isFullWidth isFloating).mono
      fun t ht => .added _ ht.1
    rintro w rfl
    exact hsubject w rfl
  case addTileToColumn tile activate => exact .added _ (addTileToColumn_spec h tile activate).1
  case addColumn column activate => exact .added _ (addColumn_spec h column activate).1
  case removeTile id =>
    exact (removeTile_spec h clock (hsubject id rfl)).mono fun r hr => .removed _ hr.2
  case removeActiveTile =>
    refine (removeActiveTile_spec h clock).mono fun r hr => ?_
    rcases hr with ⟨rfl, -⟩ | ⟨removed, -, -, hr⟩
    · exact .rearranged h (.refl _)
    · exact .removed _ hr
  case removeActiveColumn =>
    refine (removeActiveColumn_spec h clock).mono fun r hr => ?_
    rcases hr with ⟨rfl, -⟩ | ⟨column, -, -, hr⟩
    · exact .rearranged h (.refl _)
    · exact .removed _ hr

/-! ### Runs -/

/-- A workspace as a machine; an action is an operation and the time it is done at. -/
def machine (W Id : Type) [LayoutElement W Id] [DecidableEq Id] :
    Machine (Workspace W Id) (Clock × Op W Id) where
  initial s := ∃ id config options, options.layout.HasPresets ∧
    ((∃ output, s = newWithConfig id output config options) ∨
      s = newWithConfigNoOutputs id config options)
  step s a := s.step a.1 a.2

/-- The workspaces that runs from an empty one reach. -/
def Reachable (s : Workspace W Id) : Prop :=
  (machine W Id).ReachableBy (fun s a => a.2.Admissible s) s

theorem wellFormed_of_initial (h : (machine W Id).initial s) : s.WellFormed := by
  obtain ⟨id, config, options, hpresets, ⟨output, rfl⟩ | rfl⟩ := h
  · exact wellFormed_newWithConfig id output config hpresets
  · exact wellFormed_newWithConfigNoOutputs id config hpresets

theorem Reachable.wellFormed (h : Reachable s) : s.WellFormed := by
  refine Machine.ReachableBy.invariant h (fun s => wellFormed_of_initial) ?_
  intro s a hs ha
  exact (step_stepped hs a.1 ha).ensures.mono fun t ht => ht.wellFormed

/-! ### Every window once -/

/-- The window that an operation adds. -/
def Op.addedWindow : Op W Id → Option Id
  | .addTile tile .. | .addTileToColumn tile _ => some tile.windowId
  | .addColumn column _ => some column.windowId
  | _ => none

/-- An admissible operation that adds no window that is there. -/
def Op.Callable (s : Workspace W Id) (op : Op W Id) : Prop :=
  op.Admissible s ∧ ∀ window ∈ op.addedWindow, window ∉ s.windowIds

/-- A step keeps the windows apart. -/
theorem step_nodup (h : s.WellFormed) (hnodup : s.windowIds.Nodup) (clock : Clock) {op : Op W Id}
    (hop : op.Callable s) : Ensures (s.step clock op) fun t => t.windowIds.Nodup := by
  have hadded : ∀ {window t}, op.addedWindow = some window → Added s window t →
      t.windowIds.Nodup := fun hw ht =>
    ht.perm.nodup_iff.mpr (List.nodup_cons.mpr ⟨hop.2 _ hw, hnodup⟩)
  have hremoved : ∀ {window t}, Removed s window t → t.windowIds.Nodup := fun ht =>
    (List.nodup_cons.mp (ht.perm.nodup_iff.mp hnodup)).2
  by_cases hown : op.IsOwn = true
  · exact (step_reordered h clock hop.1 hown).ensures.mono
      fun t ht => ht.perm.nodup_iff.mpr hnodup
  cases op <;> simp only [Op.IsOwn, not_true] at hown
  case addTile tile target activate width isFullWidth isFloating =>
    refine (addTile_spec h tile ?_ activate width isFullWidth isFloating).ensures.mono
      fun t ht => hadded rfl ht.1
    rintro w rfl
    exact hop.1.1 w (List.mem_singleton_self w)
  case addTileToColumn tile activate =>
    exact ensures_pure.mpr (hadded rfl (addTileToColumn_spec h tile activate).1)
  case addColumn column activate =>
    exact ensures_pure.mpr (hadded rfl (addColumn_spec h column activate).1)
  all_goals simp only [step, ensures_bind, ensures_pure]
  case removeTile id =>
    exact (removeTile_spec h clock (hop.1.1 id (List.mem_singleton_self id))).ensures.mono
      fun r hr => hremoved hr.2
  case removeActiveTile =>
    refine (removeActiveTile_spec h clock).ensures.mono fun r hr => ?_
    rcases hr with ⟨rfl, -⟩ | ⟨removed, -, -, hr⟩
    · exact hnodup
    · exact hremoved hr
  case removeActiveColumn =>
    refine (removeActiveColumn_spec h clock).ensures.mono fun r hr => ?_
    rcases hr with ⟨rfl, -⟩ | ⟨column, -, -, hr⟩
    · exact hnodup
    · exact hremoved hr

/-- In a workspace into which no window is put twice, every window is there once. -/
theorem nodup_of_callable (h : (machine W Id).ReachableBy (fun s a => a.2.Callable s) s) :
    s.windowIds.Nodup := by
  have hboth : s.WellFormed ∧ s.windowIds.Nodup := by
    refine Machine.ReachableBy.invariant (P := fun s => s.WellFormed ∧ s.windowIds.Nodup) h ?_ ?_
    · intro s hs
      refine ⟨wellFormed_of_initial hs, ?_⟩
      obtain ⟨id, config, options, -, ⟨output, rfl⟩ | rfl⟩ := hs <;> exact List.nodup_nil
    · rintro s a ⟨hwf, hnodup⟩ ha
      exact ((step_stepped hwf a.1 ha.1).ensures.mono fun t ht => ht.wellFormed).and
        (step_nodup hwf hnodup a.1 ha)
  exact hboth.2

/-- **The floating space and the focus.**  In every reachable workspace an empty
floating space is not active, one beside an empty tiling space is, and there is an
active window exactly if there are windows. -/
theorem reachable_active (h : Reachable s) :
    (s.floating.isEmpty = true → s.floatingIsActive ≠ .yes) ∧
      (s.scrolling.isEmpty = true → s.floating.isEmpty = false → s.floatingIsActive = .yes) ∧
      (s.activeWindow.isSome = true ↔ s.hasWindows = true) := by
  have hwf := h.wellFormed
  refine ⟨?_, ?_, ?_⟩
  · intro hempty hyes
    exact hwf.floating_of_active hyes (List.isEmpty_iff.mp hempty)
  · intro hempty hne
    exact hwf.active_of_empty (ScrollingSpace.isEmpty_iff.mp hempty)
      (List.isEmpty_eq_false_iff.mp hne)
  · have hactive : s.activeWindow.isSome = true ↔ ∃ id, s.activeId = some id := by
      rw [← Option.isSome_iff_exists, activeId, Option.isSome_map]
    rw [hactive, hasWindows_iff]
    constructor
    · rintro ⟨id, hid⟩ hnil
      have hmem := activeId_mem hwf hid
      simp [hnil] at hmem
    · exact activeId_isSome hwf

instance (config : LayoutConfig) : Decidable config.HasPresets :=
  decidable_of_iff (config.presetColumnWidths ≠ [] ∧ config.presetWindowHeights ≠ [])
    ⟨fun h => ⟨h.1, h.2⟩, fun h => ⟨h.widths, h.heights⟩⟩

instance (s : Workspace W Id) (op : Op W Id) : Decidable (op.Admissible s) := by
  unfold Op.Admissible
  infer_instance

instance (s : Workspace W Id) (op : Op W Id) : Decidable (op.Callable s) := by
  unfold Op.Callable
  infer_instance

end Workspace

/-- Opens a tiled window. -/
def Sample.opening (n : ℕ) : Clock × Workspace.Op Sample.Toplevel ℕ :=
  (Sample.clock, .addTile (Sample.tile n) .auto .yes (.proportion (1 / 2)) false false)

namespace Workspace

/-- A floating window goes fullscreen, a second one is tiled, and the first is closed. -/
theorem reachable_active_two : ∃ s : Workspace Sample.Toplevel ℕ,
    s.windowIds = [2] ∧ s.floatingIsActive ≠ .yes ∧ s.activeWindow.isSome = true := by
  obtain ⟨s, hs, hp⟩ := Machine.exists_reachableBy (M := machine Sample.Toplevel ℕ)
    (p := fun s => decide (s.windowIds = [2] ∧ s.floating.isEmpty = true ∧ s.hasWindows = true))
    [(Sample.clock, .addTile (Sample.tile 1) .auto .yes (.proportion (1 / 2)) false true),
      (Sample.clock, .setFullscreen 1 true),
      (Sample.clock, .addTile (Sample.tile 2) .auto .no (.proportion (1 / 2)) false false),
      (Sample.clock, .removeTile 1)]
    (show (machine Sample.Toplevel ℕ).initial
      (newWithConfig 1 (Sample.output 1) none Sample.options) from
        ⟨_, _, _, LayoutConfig.hasPresets_default, .inl ⟨_, rfl⟩⟩)
    (show ((machine Sample.Toplevel ℕ).run (fun s a => a.2.Admissible s) _ _).any _ = true by
      decide +kernel)
  obtain ⟨hids, hempty, hwindows⟩ := of_decide_eq_true hp
  obtain ⟨hactive, -, hiff⟩ := reachable_active hs
  exact ⟨s, hids, hactive hempty, hiff.mpr hwindows⟩

end Workspace

end Sol
