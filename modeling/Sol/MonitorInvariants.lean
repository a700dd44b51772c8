import Sol.LayoutUpkeep
import Sol.Presets

/-!
# Invariants of workspaces on a monitor

There are few ways in which a workspace changes: it does something of its own, it gets a window or
gives one away, it gets other options or another output.  What all of these keep is an invariant of
every workspace of a monitor, whatever the monitor does.

* `Invariant`: what is asked of a property of workspaces, of what is outside of them, and of options;
* `runCommand_all`, `addTile_all` and so on: the operations of a monitor keep it.
-/

namespace Sol

open Panicking

variable {W Id : Type} [LayoutElement W Id] [DecidableEq Id]

/-- `P` holds of the workspaces, `Q` of the windows and columns on their way, and `O` of the
options, whatever is done to one of them. -/
structure Invariant (P : Workspace W Id → Prop) (Q : Held W → Prop) (O : Options → Prop) : Prop where
  mergeLayout : ∀ {options}, O options → ∀ part, O (options.withMergedLayout part)
  adjust : ∀ {options}, O options → ∀ scale, O (options.adjustedForScale scale)
  make : ∀ {options}, O options → ∀ id output config, P (Desk.makeWorkspace id output config options)
  step : ∀ {ws}, P ws → ∀ clock (op : Workspace.Op W Id), op.IsOwn = true →
    (∀ options ∈ op.newOptions, O options) → Ensures (ws.step clock op) P
  resize : ∀ {ws}, P ws → ∀ output, Ensures (ws.resizeOutput output) P
  label : ∀ {ws}, P ws → ∀ name originalOutput, P { ws with name, originalOutput }
  modifyTile : ∀ {ws}, P ws → ∀ window {f : Tile W → Tile W},
    (∀ tile, (f tile).remembered = tile.remembered) → P (ws.modifyTile window f)
  take : ∀ {ws}, P ws → ∀ clock what,
    Ensures (ws.take clock what) fun r => (∀ held ∈ r.1, Q held) ∧ P r.2
  place : ∀ {ws}, P ws → ∀ {held}, Q held → ∀ how, Ensures (ws.place held how) P
  makeTile : ∀ {ws}, P ws → ∀ window width isFullWidth isFloating,
    Q (.tile ⟨ws.makeTile window, width, isFullWidth, isFloating⟩)
  retouch : ∀ {a b}, Q (.tile a) → b.tile.remembered = a.tile.remembered → Q (.tile b)
  configure : ∀ {a}, Q (.tile a) → ∀ viewSize scale {options}, O options →
    Q (.tile { a with tile := a.tile.updateConfig viewSize scale options })

/-- What is dragged, as it is held between workspaces. -/
def InteractiveMoveData.removed (self : InteractiveMoveData W) : RemovedTile W :=
  ⟨self.tile, self.width, self.isFullWidth, self.isFloating⟩

/-- Some time, for operations that do not depend on it. -/
def anytime : Clock := ⟨0, 0, 1, false⟩

namespace Invariant

variable {P : Workspace W Id → Prop} {Q : Held W → Prop} {O : Options → Prop} {ws : Workspace W Id}

/-! ### Workspaces -/

theorem own (inv : Invariant P Q O) (hws : P ws) (clock : Clock) (op : Workspace.Op W Id)
    (hown : op.IsOwn = true) (hop : op.newOptions = none) : Ensures (ws.step clock op) P :=
  inv.step hws clock op hown fun options h => by
    rw [hop] at h
    cases h

theorem runCommand (inv : Invariant P Q O) (hws : P ws) (clock : Clock) (cmd : Workspace.Command) :
    Ensures (ws.runCommand clock cmd) P := inv.own hws clock (.command cmd) rfl rfl

theorem runWindowCommand (inv : Invariant P Q O) (hws : P ws) (clock : Clock) (window : Option Id)
    (cmd : Workspace.WindowCommand) : Ensures (ws.runWindowCommand clock window cmd) P :=
  inv.own hws clock (.windowCommand window cmd) rfl rfl

theorem focusTowards (inv : Invariant P Q O) (hws : P ws) (direction : Workspace.Direction) :
    Ensures (ws.focusTowards direction) fun r => P r.1 := by
  have h := inv.runCommand hws anytime (.focus direction)
  simpa only [Workspace.runCommand, Workspace.silently, ensures_bind, ensures_pure] using h

theorem moveTowards (inv : Invariant P Q O) (hws : P ws) (clock : Clock)
    (direction : Workspace.Direction) : Ensures (ws.moveTowards clock direction) fun r => P r.1 := by
  have h := inv.runCommand hws clock (.move direction)
  simpa only [Workspace.runCommand, Workspace.silently, ensures_bind, ensures_pure] using h

theorem setFullscreen (inv : Invariant P Q O) (hws : P ws) (clock : Clock) (window : Id)
    (isFullscreen : Bool) : Ensures (ws.setFullscreen clock window isFullscreen) P :=
  inv.own hws clock (.setFullscreen window isFullscreen) rfl rfl

theorem setMaximized (inv : Invariant P Q O) (hws : P ws) (clock : Clock) (window : Id)
    (maximize : Bool) : Ensures (ws.setMaximized clock window maximize) P :=
  inv.own hws clock (.setMaximized window maximize) rfl rfl

theorem activateWindow (inv : Invariant P Q O) (hws : P ws) (window : Id) :
    Ensures (ws.activateWindow window) fun r => P r.1 := by
  have h := inv.own hws anytime (.activateWindow window) rfl rfl
  simpa only [Workspace.step, ensures_bind, ensures_pure] using h

theorem activateWindowWithoutRaising (inv : Invariant P Q O) (hws : P ws) (window : Id) :
    P (ws.activateWindowWithoutRaising window).1 :=
  ensures_pure.mp (inv.own hws anytime (.activateWindowWithoutRaising window) rfl rfl)

theorem descendantsAdded (inv : Invariant P Q O) (hws : P ws) (id : Id) :
    Ensures (ws.descendantsAdded id) fun r => P r.1 := by
  have h := inv.own hws anytime (.descendantsAdded id) rfl rfl
  simpa only [Workspace.step, ensures_bind, ensures_pure] using h

theorem updateWindow (inv : Invariant P Q O) (hws : P ws) (window : Id) (serial : Option ℕ) :
    Ensures (ws.updateWindow window serial) P :=
  inv.own hws anytime (.updateWindow window serial) rfl rfl

theorem interactiveResizeBegin (inv : Invariant P Q O) (hws : P ws) (window : Id)
    (edges : ResizeEdge) : Ensures (ws.interactiveResizeBegin window edges) fun r => P r.1 := by
  have h := inv.own hws anytime (.interactiveResizeBegin window edges) rfl rfl
  simpa only [Workspace.step, ensures_bind, ensures_pure] using h

theorem interactiveResizeUpdate (inv : Invariant P Q O) (hws : P ws) (window : Id)
    (delta : Point) : Ensures (ws.interactiveResizeUpdate window delta) fun r => P r.1 := by
  have h := inv.own hws anytime (.interactiveResizeUpdate window delta) rfl rfl
  simpa only [Workspace.step, ensures_bind, ensures_pure] using h

theorem interactiveResizeEnd (inv : Invariant P Q O) (hws : P ws) (window : Option Id) :
    P (ws.interactiveResizeEnd window) :=
  ensures_pure.mp (inv.own hws anytime (.interactiveResizeEnd window) rfl rfl)

theorem refresh (inv : Invariant P Q O) (hws : P ws) (isActive isFocused : Bool) :
    P (ws.refresh isActive isFocused) :=
  ensures_pure.mp (inv.own hws anytime (.refresh isActive isFocused) rfl rfl)

theorem updateConfig (inv : Invariant P Q O) (hws : P ws) {options : Options}
    (hoptions : O options) : P (ws.updateConfig options) :=
  ensures_pure.mp (inv.step hws anytime (.updateConfig options) rfl fun _ ho =>
    Option.some.inj ho ▸ hoptions)

theorem updateLayoutConfig (inv : Invariant P Q O) (hws : P ws) (layoutConfig : Option LayoutPart) :
    P (ws.updateLayoutConfig layoutConfig) :=
  ensures_pure.mp (inv.own hws anytime (.updateLayoutConfig layoutConfig) rfl rfl)

theorem setOutput (inv : Invariant P Q O) (hws : P ws) (output : Option Output) :
    Ensures (ws.setOutput output) P :=
  inv.own hws anytime (.setOutput output) rfl rfl

theorem advanceAnimations (inv : Invariant P Q O) (hws : P ws) (clock : Clock) :
    P (ws.advanceAnimations clock) :=
  ensures_pure.mp (inv.own hws clock .advanceAnimations rfl rfl)

theorem unname (inv : Invariant P Q O) (hws : P ws) : P ws.unname :=
  inv.label hws none ws.originalOutput

theorem claimFor (inv : Invariant P Q O) (hws : P ws) (output : Output) : P (ws.claimFor output) := by
  unfold Workspace.claimFor
  split_ifs
  · exact inv.label hws ws.name (OutputId.new output)
  · exact hws

theorem attach (inv : Invariant P Q O) (hws : P ws) (output : Output) {options : Options}
    (hoptions : O options) : Ensures (ws.attach output options) P := by
  unfold Workspace.attach
  simp only [ensures_bind, ensures_pure]
  exact (inv.setOutput hws (some output)).mono fun t ht => inv.updateConfig ht hoptions

theorem addTile (inv : Invariant P Q O) (hws : P ws) {removed : RemovedTile W}
    (hremoved : Q (.tile removed)) (target : WorkspaceAddWindowTarget Id)
    (activate : ActivateWindow) (width : ColumnWidth) (isFullWidth isFloating : Bool) :
    Ensures (ws.addTile removed.tile target activate width isFullWidth isFloating) P :=
  inv.place hws
    (inv.retouch (b := ⟨removed.tile, width, isFullWidth, isFloating⟩) hremoved rfl)
    (.tile target activate isFloating)

theorem addTileToColumn (inv : Invariant P Q O) (hws : P ws) {removed : RemovedTile W}
    (hremoved : Q (.tile removed)) (activate : Bool) :
    P (ws.addTileToColumn removed.tile activate) :=
  ensures_pure.mp (inv.place hws hremoved (.tileInColumn activate))

theorem addColumn (inv : Invariant P Q O) (hws : P ws) {column : Column W}
    (hcolumn : Q (.column column)) (activate : Bool) : P (ws.addColumn column activate) :=
  ensures_pure.mp (inv.place hws hcolumn (.column activate))

theorem removeTile (inv : Invariant P Q O) (hws : P ws) (clock : Clock) (id : Id) :
    Ensures (ws.removeTile clock id) fun r => Q (.tile r.1) ∧ P r.2 := by
  have h := inv.take hws clock (.tile id)
  simp only [Workspace.take, ensures_bind, ensures_pure] at h
  exact h.mono fun r hr => ⟨hr.1 _ rfl, hr.2⟩

theorem removeActiveTile (inv : Invariant P Q O) (hws : P ws) (clock : Clock) :
    Ensures (ws.removeActiveTile clock) fun r => (∀ removed ∈ r.1, Q (.tile removed)) ∧ P r.2 := by
  have h := inv.take hws clock .activeTile
  simp only [Workspace.take, ensures_bind, ensures_pure] at h
  exact h.mono fun r hr =>
    ⟨fun removed hremoved => hr.1 _ (Option.mem_map_of_mem Held.tile hremoved), hr.2⟩

theorem removeActiveColumn (inv : Invariant P Q O) (hws : P ws) (clock : Clock) :
    Ensures (ws.removeActiveColumn clock) fun r =>
      (∀ column ∈ r.1, Q (.column column)) ∧ P r.2 := by
  have h := inv.take hws clock .activeColumn
  simp only [Workspace.take, ensures_bind, ensures_pure] at h
  exact h.mono fun r hr =>
    ⟨fun column hcolumn => hr.1 _ (Option.mem_map_of_mem Held.column hcolumn), hr.2⟩

theorem takeTile (inv : Invariant P Q O) (hws : P ws) (clock : Clock) (window : Option Id) :
    Ensures (Monitor.takeTile clock window ws) fun r =>
      (∀ removed ∈ r.1, Q (.tile removed)) ∧ P r.2 := by
  cases window with
  | some window =>
    refine ensures_bind.mpr ((inv.removeTile hws clock window).mono fun r hr =>
      ensures_pure.mpr ⟨?_, hr.2⟩)
    rintro _ ⟨⟩
    exact hr.1
  | none => exact inv.removeActiveTile hws clock

end Invariant

namespace Monitor

/-- `P` holds of the workspaces, and `O` of the options. -/
structure All (P : Workspace W Id → Prop) (O : Options → Prop) (m : Monitor W Id) : Prop where
  workspaces : ∀ ws ∈ m.workspaces, P ws
  options : O m.options
  baseOptions : O m.baseOptions

variable {P : Workspace W Id → Prop} {Q : Held W → Prop} {O : Options → Prop}
  {m : Monitor W Id} {ws : Workspace W Id}

omit [LayoutElement W Id] [DecidableEq Id] in
theorem All.get (h : m.All P O) {i : ℕ} (hi : m.workspaces[i]? = some ws) : P ws :=
  h.workspaces ws (List.mem_of_getElem? hi)

omit [LayoutElement W Id] [DecidableEq Id] in
theorem All.withWorkspaces (h : m.All P O) {workspaces : List (Workspace W Id)}
    (hws : ∀ ws ∈ workspaces, P ws) (activeWorkspaceIdx : ℕ)
    (workspaceSwitch : Option WorkspaceSwitch) :
    { m with workspaces, activeWorkspaceIdx, workspaceSwitch }.All P O :=
  ⟨hws, h.options, h.baseOptions⟩

omit [LayoutElement W Id] [DecidableEq Id] in
theorem All.set (h : m.All P O) (hws : P ws) (i : ℕ) :
    { m with workspaces := m.workspaces.set i ws }.All P O :=
  ⟨Vec.forall_mem_set h.workspaces hws, h.options, h.baseOptions⟩

omit [LayoutElement W Id] [DecidableEq Id] in
/-- Which workspace is shown does not matter. -/
theorem All.shown (h : m.All P O) (activeWorkspaceIdx : ℕ) (previousWorkspaceId : Option WorkspaceId)
    (workspaceSwitch : Option WorkspaceSwitch) :
    { m with activeWorkspaceIdx, previousWorkspaceId, workspaceSwitch }.All P O :=
  ⟨h.workspaces, h.options, h.baseOptions⟩

omit [LayoutElement W Id] [DecidableEq Id] in
theorem All.withSwitch (h : m.All P O) (workspaceSwitch : Option WorkspaceSwitch) :
    { m with workspaceSwitch }.All P O := ⟨h.workspaces, h.options, h.baseOptions⟩

omit [DecidableEq Id] in
omit [LayoutElement W Id] in
theorem onWorkspace_all (h : m.All P O) (i : ℕ) {f : Workspace W Id → Outcome (Workspace W Id)}
    (hf : ∀ ws, P ws → Ensures (f ws) P) : Ensures (m.onWorkspace i f) (All P O) := by
  unfold onWorkspace
  simp only [ensures_bind, Vec.ensures_apply, ensures_pure]
  exact fun ws hws => (hf ws (h.get hws)).mono fun t ht => h.set ht i

/-! ### What is shown -/

omit [DecidableEq Id] in
omit [LayoutElement W Id] in
theorem All.setOverviewProgress (h : m.All P O) (clock : Clock)
    (progress : Option MonitorOverviewProgress) : (m.setOverviewProgress clock progress).All P O := by
  unfold Monitor.setOverviewProgress
  dsimp only
  split
  · split_ifs <;> exact ⟨h.workspaces, h.options, h.baseOptions⟩
  · exact ⟨h.workspaces, h.options, h.baseOptions⟩

omit [DecidableEq Id] in
omit [LayoutElement W Id] in
theorem activateWorkspaceWithAnimConfig_all (h : m.All P O) (clock : Clock) (idx : ℕ)
    (config : Option AnimationConfig) :
    Ensures (m.activateWorkspaceWithAnimConfig clock idx config) (All P O) := by
  unfold activateWorkspaceWithAnimConfig
  rw [ensures_bind]
  exact fun previous _ => ensures_pure.mpr (h.shown idx previous _)

omit [DecidableEq Id] in
omit [LayoutElement W Id] in
theorem activateWorkspace_all (h : m.All P O) (clock : Clock) (idx : ℕ) :
    Ensures (m.activateWorkspace clock idx) (All P O) :=
  activateWorkspaceWithAnimConfig_all h clock idx none

omit [DecidableEq Id] in
omit [LayoutElement W Id] in
theorem cleanUpWorkspaces_all (h : m.All P O) : Ensures m.cleanUpWorkspaces (All P O) := by
  unfold cleanUpWorkspaces
  simp only [ensures_bind, ensures_assert, ensures_pure]
  exact fun _ => h

omit [DecidableEq Id] in
omit [LayoutElement W Id] in
theorem cleanUpIfStill_all (h : m.All P O) : Ensures m.cleanUpIfStill (All P O) :=
  ensures_ite.mpr ⟨fun _ => cleanUpWorkspaces_all h, fun _ => ensures_pure.mpr h⟩

omit [DecidableEq Id] in
omit [LayoutElement W Id] in
theorem settleOn_all (h : m.All P O) (clock : Clock) (idx : ℕ) :
    Ensures (m.settleOn clock idx) (All P O) := by
  unfold settleOn
  rw [ensures_bind]
  exact (activateWorkspace_all h clock idx).mono fun t ht =>
    cleanUpWorkspaces_all (ht.shown t.activeWorkspaceIdx _ none)

omit [DecidableEq Id] in
omit [LayoutElement W Id] in
theorem switchWorkspaceUp_all (h : m.All P O) (clock : Clock) :
    Ensures (m.switchWorkspaceUp clock) (All P O) := by
  unfold switchWorkspaceUp
  split
  · exact ensures_bind.mpr fun _ _ => activateWorkspace_all h clock _
  · exact activateWorkspace_all h clock _

omit [DecidableEq Id] in
omit [LayoutElement W Id] in
theorem switchWorkspaceDown_all (h : m.All P O) (clock : Clock) :
    Ensures (m.switchWorkspaceDown clock) (All P O) := by
  unfold switchWorkspaceDown
  refine ensures_bind.mpr fun _ _ => ?_
  split
  · exact activateWorkspace_all h clock _
  · exact activateWorkspace_all h clock _

omit [DecidableEq Id] in
omit [LayoutElement W Id] in
theorem switchWorkspace_all (h : m.All P O) (clock : Clock) (idx : ℕ) :
    Ensures (m.switchWorkspace clock idx) (All P O) :=
  ensures_bind.mpr fun _ _ => activateWorkspace_all h clock _

omit [DecidableEq Id] in
omit [LayoutElement W Id] in
theorem switchWorkspacePrevious_all (h : m.All P O) (clock : Clock) :
    Ensures (m.switchWorkspacePrevious clock) (All P O) := by
  unfold switchWorkspacePrevious
  split
  · exact switchWorkspace_all h clock _
  · exact ensures_pure.mpr h

omit [DecidableEq Id] in
omit [LayoutElement W Id] in
theorem switchWorkspaceAutoBackAndForth_all (h : m.All P O) (clock : Clock) (idx : ℕ) :
    Ensures (m.switchWorkspaceAutoBackAndForth clock idx) (All P O) :=
  ensures_bind.mpr fun _ _ => ensures_ite.mpr
    ⟨fun _ => switchWorkspacePrevious_all h clock, fun _ => switchWorkspace_all h clock _⟩

/-! ### Gestures -/

omit [DecidableEq Id] in
omit [LayoutElement W Id] in
theorem All.dndScrollGestureBegin (h : m.All P O) (clock : Clock) :
    (m.dndScrollGestureBegin clock).All P O := by
  unfold Monitor.dndScrollGestureBegin
  split_ifs
  · exact h
  · exact h
  · exact h.withSwitch _

omit [DecidableEq Id] in
omit [LayoutElement W Id] in
theorem workspaceSwitchGestureUpdate_all (h : m.All P O) (clock : Clock) (deltaY : ℚ)
    (timestamp : Duration) (isTouchpad : Bool) :
    Ensures (m.workspaceSwitchGestureUpdate clock deltaY timestamp isTouchpad)
      fun r => r.1.All P O := by
  unfold workspaceSwitchGestureUpdate
  split
  · rw [ensures_ite]
    refine ⟨fun _ => ensures_pure.mpr h, fun _ => ensures_bind.mpr fun _ _ => ?_⟩
    exact ensures_bind.mpr fun _ _ => ensures_pure.mpr (h.withSwitch _)
  · exact ensures_pure.mpr h

omit [DecidableEq Id] in
omit [LayoutElement W Id] in
theorem dndScrollGestureScroll_all (h : m.All P O) (clock : Clock) (pos : Point) (speed : ℚ) :
    Ensures (m.dndScrollGestureScroll clock pos speed) fun r => r.1.All P O := by
  unfold dndScrollGestureScroll
  split
  · split
    · exact ensures_pure.mpr h
    · refine ensures_bind.mpr fun delta _ => ?_
      simp only [ensures_ite, ensures_pure]
      refine ⟨fun _ => h.withSwitch _, fun _ => ⟨fun _ => h.withSwitch _, fun _ => ?_⟩⟩
      refine ensures_bind.mpr fun _ _ => ensures_bind.mpr fun _ _ => ?_
      exact ensures_pure.mpr (h.withSwitch _)
  · exact ensures_pure.mpr h

omit [DecidableEq Id] in
omit [LayoutElement W Id] in
theorem workspaceSwitchGestureEnd_all (h : m.All P O) (clock : Clock) (isTouchpad : Option Bool) :
    Ensures (m.workspaceSwitchGestureEnd clock isTouchpad) fun r => r.1.All P O := by
  unfold workspaceSwitchGestureEnd
  split
  · rw [ensures_ite]
    refine ⟨fun _ => ensures_pure.mpr h, fun _ => ensures_bind.mpr fun _ _ => ?_⟩
    refine ensures_bind.mpr fun _ _ => ensures_bind.mpr fun previous _ => ?_
    exact ensures_pure.mpr (h.shown _ previous _)
  · exact ensures_pure.mpr h

omit [DecidableEq Id] in
omit [LayoutElement W Id] in
theorem dndScrollGestureEnd_all (h : m.All P O) (clock : Clock) :
    Ensures (m.dndScrollGestureEnd clock) (All P O) := by
  unfold dndScrollGestureEnd
  rw [ensures_ite, ensures_bind]
  exact ⟨fun _ => (workspaceSwitchGestureEnd_all h clock none).mono fun r hr =>
    ensures_pure.mpr hr, fun _ => ensures_pure.mpr h⟩

omit [DecidableEq Id] in
omit [LayoutElement W Id] in
theorem advanceSwitch_all (h : m.All P O) (clock : Clock) :
    Ensures (m.advanceSwitch clock) (All P O) := by
  unfold advanceSwitch
  split
  · exact ensures_ite.mpr ⟨fun _ => cleanUpWorkspaces_all (h.withSwitch none),
      fun _ => ensures_pure.mpr h⟩
  · exact ensures_pure.mpr (h.withSwitch _)
  · exact ensures_pure.mpr h

/-! ### The row of workspaces -/

section Invariant

variable (inv : Invariant P Q O)
include inv

theorem addWorkspaceAt_all (h : m.All P O) (id : WorkspaceId) (idx : ℕ) :
    Ensures (m.addWorkspaceAt id idx) (All P O) := by
  unfold addWorkspaceAt
  simp only [ensures_bind, Vec.ensures_insert, ensures_pure]
  refine fun hle => h.withWorkspaces (fun ws hws => ?_) _ _
  rcases List.mem_cons.mp ((List.perm_insertIdx _ _ hle).mem_iff.mp hws) with rfl | hws
  · exact inv.make h.options id (some m.output) none
  · exact h.workspaces ws hws

theorem unnameWorkspace_all (h : m.All P O) (id : WorkspaceId) :
    Ensures (m.unnameWorkspace id) fun r => r.1.All P O := by
  unfold unnameWorkspace
  split
  · exact ensures_pure.mpr h
  · rename_i idx _
    have hunnamed : ∀ ws ∈ m.workspaces.modify idx (·.unname), P ws :=
      Vec.forall_mem_modify h.workspaces (fun _ hws => inv.unname hws) idx
    exact ensures_bind.mpr ((cleanUpIfStill_all (h.withWorkspaces hunnamed _ _)).mono
      fun t ht => ensures_pure.mpr ht)

theorem removeWorkspaceByIdx_all (h : m.All P O) (idx : ℕ) :
    Ensures (m.removeWorkspaceByIdx idx) fun r => P r.1 ∧ r.2.All P O := by
  have hpad : (m.padAround idx).1.All P O := by
    unfold padAround
    dsimp only
    split_ifs <;> exact h
  unfold removeWorkspaceByIdx
  refine ensures_bind.mpr fun _ _ => ?_
  simp only [ensures_bind, Vec.ensures_remove, ensures_pure]
  refine fun ws hws => (inv.setOutput (hpad.get hws) none).mono fun t ht => ?_
  refine (cleanUpWorkspaces_all (hpad.withWorkspaces (fun u hu => ?_) _ none)).mono
    fun _ hm => ⟨ht, hm⟩
  exact hpad.workspaces u (List.mem_of_mem_eraseIdx hu)

theorem insertWorkspace_all (h : m.All P O) (clock : Clock) (hws : P ws) (idx : ℕ)
    (activate : Bool) : Ensures (m.insertWorkspace clock ws idx activate) (All P O) := by
  unfold insertWorkspace
  rw [ensures_bind]
  refine (inv.attach hws m.output h.options).mono fun t ht => ensures_bind.mpr fun i _ => ?_
  simp only [ensures_bind, Vec.ensures_insert]
  intro hle
  have hinserted : ∀ u ∈ m.workspaces.insertIdx i t, P u := by
    intro u hu
    rcases List.mem_cons.mp ((List.perm_insertIdx _ _ hle).mem_iff.mp hu) with rfl | hu
    · exact ht
    · exact h.workspaces u hu
  have hactivated : ∀ t : Monitor W Id, t.All P O →
      Ensures (t.activateInserted clock i activate) (All P O) := fun t ht => ensures_ite.mpr
    ⟨fun _ => activateWorkspace_all (ht.withSwitch none) clock i, fun _ => ensures_pure.mpr ht⟩
  exact (hactivated _ (h.withWorkspaces hinserted _ _)).mono fun u hu =>
    cleanUpWorkspaces_all (hu.withSwitch none)

theorem appendWorkspaces_all (h : m.All P O) {workspaces : List (Workspace W Id)}
    (hws : ∀ ws ∈ workspaces, P ws) : Ensures (m.appendWorkspaces workspaces) (All P O) := by
  unfold appendWorkspaces
  rw [ensures_ite]
  refine ⟨fun _ => ensures_pure.mpr h, fun _ => ensures_bind.mpr ?_⟩
  refine (Vec.ensures_mapM fun ws hmem => inv.attach (hws ws hmem) m.output h.options).mono
    fun attached hattached => ensures_bind.mpr fun last _ => ?_
  simp only [ensures_bind, Vec.ensures_remove]
  intro empty hempty
  have happended : ∀ ws ∈ m.workspaces.eraseIdx last ++ attached ++ [empty], P ws := by
    simp only [List.mem_append, List.mem_singleton]
    rintro ws ((hws | hws) | rfl)
    · exact h.workspaces ws (List.mem_of_mem_eraseIdx hws)
    · exact hattached ws hws
    · exact h.get hempty
  refine cleanUpWorkspaces_all (All.withSwitch ?_ none)
  split_ifs <;> exact h.withWorkspaces happended _ _

omit [DecidableEq Id] inv in
omit [LayoutElement W Id] in
theorem swapped_all (h : m.All P O) (i j : ℕ) : Ensures (Vec.swap m.workspaces i j) fun workspaces =>
    { m with workspaces }.All P O := by
  rw [Vec.ensures_swap]
  intro a b ha hb
  exact ⟨Vec.forall_mem_set (Vec.forall_mem_set h.workspaces (h.get hb)) (h.get ha), h.options,
    h.baseOptions⟩

omit [DecidableEq Id] inv in
omit [LayoutElement W Id] in
theorem moveWorkspaceDown_all (h : m.All P O) (clock : Clock) :
    Ensures (m.moveWorkspaceDown clock) (All P O) := by
  unfold moveWorkspaceDown
  refine ensures_bind.mpr fun _ _ => ?_
  simp only [ensures_ite, ensures_bind]
  refine ⟨fun _ => ensures_pure.mpr h, fun _ => (swapped_all h _ _).mono fun workspaces hws => ?_⟩
  split_ifs
  all_goals exact ⟨fun _ => settleOn_all hws clock _, fun _ => settleOn_all hws clock _⟩

omit [DecidableEq Id] inv in
omit [LayoutElement W Id] in
theorem moveWorkspaceUp_all (h : m.All P O) (clock : Clock) :
    Ensures (m.moveWorkspaceUp clock) (All P O) := by
  unfold moveWorkspaceUp
  simp only [ensures_ite, ensures_bind]
  refine ⟨fun _ => ensures_pure.mpr h, fun _ => (swapped_all h _ _).mono fun workspaces hws => ?_⟩
  split_ifs
  all_goals exact ⟨fun _ => settleOn_all hws clock _, fun _ => settleOn_all hws clock _⟩

omit [DecidableEq Id] inv in
omit [LayoutElement W Id] in
theorem moveWorkspaceToIdx_all (h : m.All P O) (oldIdx newIdx : ℕ) :
    Ensures (m.moveWorkspaceToIdx oldIdx newIdx) (All P O) := by
  unfold moveWorkspaceToIdx
  simp only [ensures_ite, ensures_bind, Vec.ensures_remove, Vec.ensures_insert]
  refine ⟨fun _ => ensures_pure.mpr h, fun _ => ⟨fun _ => ensures_pure.mpr h, fun _ ws hws hle => ?_⟩⟩
  refine cleanUpWorkspaces_all (h.withWorkspaces (fun u hu => ?_) _ none)
  rcases List.mem_cons.mp ((List.perm_insertIdx _ _ hle).mem_iff.mp hu) with rfl | hu
  · exact h.get hws
  · exact h.workspaces u (List.mem_of_mem_eraseIdx hu)

/-! ### Configuration and output -/

theorem advanceAnimations_all (h : m.All P O) (clock : Clock) :
    Ensures (m.advanceAnimations clock) (All P O) := by
  unfold advanceAnimations
  rw [ensures_bind]
  refine (advanceSwitch_all h clock).mono fun t ht => ensures_pure.mpr ⟨?_, ht.options,
    ht.baseOptions⟩
  intro ws hws
  obtain ⟨u, hu, rfl⟩ := List.mem_map.mp hws
  exact inv.advanceAnimations (ht.workspaces u hu) clock

theorem All.updateConfig (h : m.All P O) {baseOptions : Options} (hbase : O baseOptions) :
    (m.updateConfig baseOptions).All P O := by
  have hoptions := inv.mergeLayout hbase m.layoutConfig
  have htrimmed : ∀ options, (m.trimFirst options).All P O := by
    intro options
    unfold trimFirst
    split_ifs
    · exact h
    · exact h.withWorkspaces (fun ws hws => h.workspaces ws (List.mem_of_mem_tail hws)) _ _
    · exact h
    · exact h
  refine ⟨fun ws hws => ?_, hoptions, hbase⟩
  obtain ⟨u, hu, rfl⟩ := List.mem_map.mp hws
  exact inv.updateConfig ((htrimmed _).workspaces u hu) hoptions

theorem All.updateLayoutConfig (h : m.All P O) (layoutConfig : Option LayoutPart) :
    (m.updateLayoutConfig layoutConfig).All P O := by
  unfold Monitor.updateLayoutConfig
  split_ifs
  · exact h
  · exact All.updateConfig (m := { m with layoutConfig }) inv
      ⟨h.workspaces, h.options, h.baseOptions⟩ h.baseOptions

theorem updateOutputSize_all (h : m.All P O) (output : Output) :
    Ensures (m.updateOutputSize output) (All P O) := by
  unfold updateOutputSize
  rw [ensures_bind]
  exact (Vec.ensures_mapM fun ws hws => inv.resize (h.workspaces ws hws) output).mono
    fun workspaces hws => ensures_pure.mpr ⟨hws, h.options, h.baseOptions⟩

/-- Given workspaces get the options and the output of a new monitor. -/
theorem new_all {baseOptions : Options} (hbase : O baseOptions) (nextId : WorkspaceId)
    (output : Output) {workspaces : List (Workspace W Id)} (hws : ∀ ws ∈ workspaces, P ws)
    (wsIdToActivate : Option WorkspaceId) (layoutConfig : Option LayoutPart) :
    Ensures (Monitor.new nextId output workspaces wsIdToActivate baseOptions layoutConfig)
      fun r => r.1.All P O := by
  have hoptions := inv.mergeLayout hbase layoutConfig
  have hprepare : ∀ ws ∈ workspaces,
      Ensures (prepare output (baseOptions.withMergedLayout layoutConfig) ws) P := fun ws hmem =>
    ensures_bind.mpr (ensures_assert.mpr fun _ => inv.attach (hws ws hmem) output hoptions)
  unfold Monitor.new
  simp only [ensures_bind, ensures_pure]
  refine (Vec.ensures_mapM hprepare).mono fun prepared hprepared => ⟨fun ws hmem => ?_, hoptions,
    hbase⟩
  rcases List.mem_append.mp hmem with hmem | hmem
  · exact hprepared ws hmem
  · obtain ⟨i, -, rfl⟩ := List.mem_map.mp hmem
    exact inv.make hoptions (nextId + i) (some output) none

theorem intoWorkspaces_all (h : m.All P O) :
    Ensures m.intoWorkspaces fun workspaces => ∀ ws ∈ workspaces, P ws :=
  Vec.ensures_mapM fun ws hws => inv.setOutput (h.workspaces ws (List.mem_of_mem_filter hws)) none

theorem refresh_all (h : m.All P O) (clock : Clock) (isActive dragging overviewOpen : Bool) :
    Ensures (m.refresh clock isActive dragging overviewOpen) (All P O) := by
  have hmapped : ∀ t : Monitor W Id, t.All P O → { t with
      workspaces := t.workspaces.mapIdx fun idx (ws : Workspace W Id) =>
        ws.refresh isActive (isActive && idx == t.activeWorkspaceIdx) }.All P O := by
    refine fun t ht => ⟨fun ws hws => ?_, ht.options, ht.baseOptions⟩
    obtain ⟨i, hi, rfl⟩ := List.mem_mapIdx.mp hws
    exact inv.refresh (ht.workspaces _ (List.getElem_mem _)) _ _
  unfold refresh
  dsimp only
  split_ifs
  · exact ensures_pure.mpr (hmapped _ (h.dndScrollGestureBegin clock))
  · exact ensures_bind.mpr ((dndScrollGestureEnd_all h clock).mono fun t ht =>
      ensures_pure.mpr (hmapped t ht))
  · exact ensures_pure.mpr (hmapped m h)

/-! ### Windows -/

theorem addTile_all (h : m.All P O) (clock : Clock) {removed : RemovedTile W}
    (hremoved : Q (.tile removed)) (target : MonitorAddWindowTarget Id) (activate : ActivateWindow)
    (allow : Bool) (width : ColumnWidth) (isFullWidth isFloating : Bool) :
    Ensures (m.addTile clock removed.tile target activate allow width isFullWidth isFloating)
      (All P O) := by
  unfold addTile
  refine ensures_bind.mpr fun found _ => ensures_bind.mpr ?_
  refine (onWorkspace_all h found.1 fun ws hws => ensures_bind.mpr
    ((inv.addTile hws hremoved found.2 activate width isFullWidth isFloating).mono
      fun t ht => ensures_pure.mpr (inv.claimFor ht m.output))).mono fun t ht => ?_
  have hpad : ∀ idx, (t.padAround idx).1.All P O := by
    intro idx
    unfold padAround
    dsimp only
    split_ifs <;> exact ht
  exact ensures_ite.mpr ⟨fun _ => activateWorkspace_all (hpad _) clock _,
    fun _ => ensures_pure.mpr (hpad _)⟩

theorem addWindow_all (h : m.All P O) (clock : Clock) (window : W)
    (target : MonitorAddWindowTarget Id) (activate : ActivateWindow) (width : ColumnWidth)
    (isFullWidth isFloating : Bool) :
    Ensures (m.addWindow clock window target activate width isFullWidth isFloating) (All P O) := by
  unfold addWindow
  simp only [ensures_bind, Vec.ensures_get]
  exact fun first hfirst => addTile_all inv h clock
    (inv.makeTile (h.get hfirst) window width isFullWidth isFloating) target activate true width
    isFullWidth isFloating

theorem addColumn_all (h : m.All P O) (clock : Clock) (workspaceIdx : ℕ) {column : Column W}
    (hcolumn : Q (.column column)) (activate : Bool) :
    Ensures (m.addColumn clock workspaceIdx column activate) (All P O) := by
  unfold addColumn
  rw [ensures_bind]
  refine (onWorkspace_all h workspaceIdx fun ws hws => ensures_pure.mpr
    (inv.claimFor (inv.addColumn hws hcolumn activate) m.output)).mono fun t ht => ?_
  have hpad : (t.padAround workspaceIdx).1.All P O := by
    unfold padAround
    dsimp only
    split_ifs <;> exact ht
  exact ensures_ite.mpr ⟨fun _ => activateWorkspace_all hpad clock _,
    fun _ => ensures_pure.mpr hpad⟩

theorem addTileToColumn_all (h : m.All P O) (clock : Clock) (workspaceIdx : ℕ)
    {removed : RemovedTile W} (hremoved : Q (.tile removed)) (activate allow : Bool) :
    Ensures (m.addTileToColumn clock workspaceIdx removed.tile activate allow) (All P O) := by
  unfold addTileToColumn
  rw [ensures_bind]
  refine (onWorkspace_all h workspaceIdx fun ws hws => ensures_pure.mpr
    (inv.claimFor (inv.addTileToColumn hws hremoved activate) m.output)).mono fun t ht => ?_
  exact ensures_ite.mpr ⟨fun _ => activateWorkspace_all ht clock _, fun _ => ensures_pure.mpr ht⟩

theorem addRemoved_all (h : m.All P O) (clock : Clock) {removed : RemovedTile W}
    (hremoved : Q (.tile removed)) (id : WorkspaceId) (activate : ActivateWindow) :
    Ensures (m.addRemoved clock removed id activate) (All P O) :=
  addTile_all inv h clock hremoved _ activate true _ _ _

theorem moveActiveTile_all (h : m.All P O) (clock : Clock) (newIdx : ℕ)
    (activate : ActivateWindow) : Ensures (m.moveActiveTile clock newIdx activate) (All P O) := by
  unfold moveActiveTile
  simp only [ensures_ite, ensures_bind, Vec.ensures_get, Vec.ensures_update]
  refine ⟨fun _ => ensures_pure.mpr h, fun _ new _ ws hws => ?_⟩
  refine (inv.removeActiveTile (h.get hws) clock).mono fun r hr => ?_
  have hrest := h.set hr.2 m.activeWorkspaceIdx
  cases hremoved : r.1 with
  | none => exact ensures_pure.mpr hrest
  | some removed => exact addRemoved_all inv hrest clock (hr.1 removed hremoved) _ activate

theorem moveToWorkspaceUp_all (h : m.All P O) (clock : Clock) (focus : Bool) :
    Ensures (m.moveToWorkspaceUp clock focus) (All P O) := moveActiveTile_all inv h clock _ _

theorem moveToWorkspaceDown_all (h : m.All P O) (clock : Clock) (focus : Bool) :
    Ensures (m.moveToWorkspaceDown clock focus) (All P O) :=
  ensures_bind.mpr fun _ _ => moveActiveTile_all inv h clock _ _

theorem moveToWorkspace_all (h : m.All P O) (clock : Clock) (window : Option Id) (idx : ℕ)
    (activate : ActivateWindow) :
    Ensures (m.moveToWorkspace clock window idx activate) (All P O) := by
  unfold moveToWorkspace
  refine ensures_bind.mpr fun sourceIdx _ => ensures_bind.mpr fun last _ => ?_
  refine ensures_ite.mpr ⟨fun _ => ensures_pure.mpr h, fun _ => ensures_bind.mpr fun new _ => ?_⟩
  refine ensures_bind.mpr fun follows _ => ensures_bind.mpr ?_
  rw [Vec.ensures_update]
  refine fun ws hws => (inv.takeTile (h.get hws) clock window).mono fun r hr => ?_
  have hrest := h.set hr.2 sourceIdx
  cases hremoved : r.1 with
  | none => exact ensures_pure.mpr hrest
  | some removed =>
    exact ensures_bind.mpr ((addRemoved_all inv hrest clock (hr.1 removed hremoved) _ _).mono
      fun t ht => cleanUpIfStill_all ht)

theorem moveActiveColumn_all (h : m.All P O) (clock : Clock) (newIdx : ℕ) (activate : Bool)
    {moveFloating : Outcome (Monitor W Id)} (hfloating : Ensures moveFloating (All P O)) :
    Ensures (m.moveActiveColumn clock newIdx activate moveFloating) (All P O) := by
  unfold moveActiveColumn
  simp only [ensures_ite, ensures_bind, Vec.ensures_update]
  refine ⟨fun _ => ensures_pure.mpr h, fun _ active _ => ⟨fun _ => hfloating, fun _ ws hws => ?_⟩⟩
  refine (inv.removeActiveColumn (h.get hws) clock).mono fun r hr => ?_
  have hrest := h.set hr.2 m.activeWorkspaceIdx
  cases hcolumn : r.1 with
  | none => exact ensures_pure.mpr hrest
  | some column => exact addColumn_all inv hrest clock newIdx (hr.1 column hcolumn) activate

omit [LayoutElement W Id] [DecidableEq Id] inv in
theorem orElse_all (h : m.All P O) {first : Workspace W Id → Outcome (Workspace W Id × Bool)}
    {second : Monitor W Id → Outcome (Monitor W Id)}
    (hfirst : ∀ ws, P ws → Ensures (first ws) fun r => P r.1)
    (hsecond : ∀ t : Monitor W Id, t.All P O → Ensures (second t) (All P O)) :
    Ensures (m.orElse first second) (All P O) := by
  unfold orElse
  simp only [ensures_bind, Vec.ensures_update, ensures_pure, ensures_ite]
  exact fun ws hws => (hfirst ws (h.get hws)).mono fun r hr =>
    ⟨fun _ => h.set hr _, fun _ => hsecond _ (h.set hr _)⟩

theorem runCommand_all (h : m.All P O) (clock : Clock) (cmd : Command) :
    Ensures (m.runCommand clock cmd) (All P O) := by
  cases cmd with
  | moveDownOrToWorkspaceDown =>
    exact orElse_all h (fun ws hws => inv.moveTowards hws clock .down)
      fun t ht => moveToWorkspaceDown_all inv ht clock true
  | moveUpOrToWorkspaceUp =>
    exact orElse_all h (fun ws hws => inv.moveTowards hws clock .up)
      fun t ht => moveToWorkspaceUp_all inv ht clock true
  | focusWindowOrWorkspaceDown =>
    exact orElse_all h (fun ws hws => inv.focusTowards hws .down)
      fun t ht => switchWorkspaceDown_all ht clock
  | focusWindowOrWorkspaceUp =>
    exact orElse_all h (fun ws hws => inv.focusTowards hws .up)
      fun t ht => switchWorkspaceUp_all ht clock
  | moveToWorkspaceUp focus => exact moveToWorkspaceUp_all inv h clock focus
  | moveToWorkspaceDown focus => exact moveToWorkspaceDown_all inv h clock focus
  | moveColumnToWorkspaceUp activate =>
    exact moveActiveColumn_all inv h clock _ activate (moveToWorkspaceUp_all inv h clock activate)
  | moveColumnToWorkspaceDown activate =>
    exact ensures_bind.mpr fun _ _ => moveActiveColumn_all inv h clock _ activate
      (moveToWorkspaceDown_all inv h clock activate)
  | moveColumnToWorkspace idx activate =>
    exact ensures_bind.mpr fun _ _ => moveActiveColumn_all inv h clock _ activate
      (moveToWorkspace_all inv h clock none idx _)
  | switchWorkspaceUp => exact switchWorkspaceUp_all h clock
  | switchWorkspaceDown => exact switchWorkspaceDown_all h clock
  | switchWorkspace idx => exact switchWorkspace_all h clock idx
  | switchWorkspaceAutoBackAndForth idx => exact switchWorkspaceAutoBackAndForth_all h clock idx
  | switchWorkspacePrevious => exact switchWorkspacePrevious_all h clock
  | moveWorkspaceDown => exact moveWorkspaceDown_all h clock
  | moveWorkspaceUp => exact moveWorkspaceUp_all h clock

/-! ### Drags -/

omit inv [DecidableEq Id] in
omit [LayoutElement W Id] in
theorem dndScroll_all (h : m.All P O) (clock : Clock) (pos : Point) (isScrolling : Bool) :
    Ensures (m.dndScroll clock pos isScrolling) fun r => r.1.All P O := by
  unfold dndScroll
  rw [ensures_bind]
  refine (dndScrollGestureScroll_all h clock pos _).mono fun r hr => ?_
  dsimp only
  split
  · exact ensures_bind.mpr fun _ _ => ensures_bind.mpr fun _ _ => ensures_pure.mpr hr
  · exact ensures_pure.mpr hr

theorem activateHeld_all (h : m.All P O) (clock : Clock) (target : DndHoldTarget Id)
    (config : Option AnimationConfig) :
    Ensures (m.activateHeld clock target config) (All P O) := by
  have hfinish : ∀ workspaces : List (Workspace W Id), (∀ ws ∈ workspaces, P ws) → ∀ idx,
      Ensures (do
        let t ← { m with workspaces }.dndScrollGestureEnd clock
        t.activateWorkspaceWithAnimConfig clock idx config) (All P O) := fun workspaces hws idx =>
    ensures_bind.mpr ((dndScrollGestureEnd_all (m := { m with workspaces })
      ⟨hws, h.options, h.baseOptions⟩ clock).mono
        fun t ht => activateWorkspaceWithAnimConfig_all ht clock idx config)
  unfold activateHeld
  cases target with
  | window id =>
    have happly : ∀ ws ∈ m.workspaces, Ensures (do
        let r ← ws.activateWindow id
        pure (r.1, if r.2 then some () else none)) fun r => P r.1 := fun ws hws =>
      ensures_bind.mpr ((inv.activateWindow (h.workspaces ws hws) id).mono fun r hr =>
        ensures_pure.mpr hr)
    refine ensures_bind.mpr ((Vec.ensures_applyUntil h.workspaces happly).mono fun r hr => ?_)
    exact ensures_bind.mpr fun found _ => hfinish r.1 hr found.1
  | workspace id =>
    exact ensures_bind.mpr fun idx _ => hfinish m.workspaces h.workspaces idx

omit inv [DecidableEq Id] in
omit [LayoutElement W Id] in
theorem updateInsertHint_all (h : m.All P O) (clock : Clock) (data : InteractiveMoveData W) :
    Ensures (m.updateInsertHint clock data) (All P O) :=
  ensures_bind.mpr fun _ _ => ensures_pure.mpr ⟨h.workspaces, h.options, h.baseOptions⟩

theorem dropWorkspace_all (h : m.All P O) (nextId : WorkspaceId) (insertWs : InsertWorkspace) :
    Ensures (m.dropWorkspace nextId insertWs) fun r => r.2.1.All P O := by
  unfold dropWorkspace
  cases insertWs with
  | existing id => exact ensures_bind.mpr fun _ _ => ensures_pure.mpr h
  | newAt idx =>
    refine ensures_ite.mpr ⟨fun _ => ensures_pure.mpr h, fun _ => ensures_bind.mpr fun _ _ => ?_⟩
    refine ensures_ite.mpr ⟨fun _ => ensures_pure.mpr h, fun _ => ensures_bind.mpr ?_⟩
    exact (addWorkspaceAt_all inv h nextId idx).mono fun t ht => ensures_pure.mpr ht

theorem addDropped_all (h : m.All P O) (clock : Clock) {data : InteractiveMoveData W}
    (hdata : Q (.tile data.removed)) (insertWs : InsertWorkspace) (offset : Option Point)
    (wsIdx : ℕ) (allow : Bool) (position : InsertPosition) :
    Ensures (m.addDropped clock data insertWs offset wsIdx allow position) (All P O) := by
  unfold addDropped
  cases position with
  | newColumn columnIdx =>
    exact ensures_bind.mpr fun _ _ => addTile_all inv h clock hdata _ _ _ _ _ _
  | inColumn columnIdx tileIdx => exact addTileToColumn_all inv h clock wsIdx hdata true allow
  | floating =>
    have hsettled : Ensures (m.settledTile clock data insertWs offset wsIdx)
        fun tile => tile.remembered = data.tile.remembered := by
      unfold settledTile
      dsimp only
      split
      · exact ensures_bind.mpr fun _ _ => ensures_pure.mpr rfl
      · exact ensures_pure.mpr rfl
    refine ensures_bind.mpr (hsettled.mono fun tile htile => ensures_bind.mpr fun _ _ => ?_)
    exact addTile_all inv h clock
      (inv.retouch (b := ⟨tile, data.width, data.isFullWidth, true⟩) hdata htile) _ _ _ _ _ _

theorem animateDropped_all (h : m.All P O) (clock : Clock) (window : Id) (zoom : ℚ) (loc : Point) :
    Ensures (m.animateDropped clock window zoom loc) (All P O) := by
  unfold animateDropped
  refine ensures_bind.mpr fun idx _ => ensures_bind.mpr fun _ _ => ?_
  refine onWorkspace_all h idx fun ws hws => ensures_bind.mpr fun _ _ => ensures_pure.mpr ?_
  exact inv.modifyTile hws window fun _ => rfl

theorem dropAt_all (h : m.All P O) (clock : Clock) (nextId : WorkspaceId)
    {data : InteractiveMoveData W} (hdata : Q (.tile data.removed)) (allow : Bool)
    (target : InsertWorkspace × InsertPosition × Option Point) :
    Ensures (m.dropAt clock nextId data allow target) fun r => r.1.All P O := by
  unfold dropAt
  refine ensures_bind.mpr ((dropWorkspace_all inv h nextId target.1).mono fun r hr => ?_)
  refine ensures_bind.mpr ((addDropped_all inv hr clock hdata _ _ _ allow _).mono fun t ht => ?_)
  exact ensures_bind.mpr ((animateDropped_all inv ht clock _ _ _).mono fun u hu =>
    ensures_pure.mpr hu)

end Invariant

end Monitor

end Sol
