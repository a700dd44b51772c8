import Sol.LayoutInvariants

/-!
# Invariants of workspaces, operation by operation

What users and clients ask of the layout, and its upkeep, keep an invariant of workspaces too.

* `runCommand_all`, `moveToOutput_all`, `updateConfig_all` and so on: one operation each.
-/

namespace Sol

open Panicking

variable {W Id : Type} [LayoutElement W Id]

namespace Layout

variable {P : Workspace W Id → Prop} {Q : Held W → Prop} {O : Options → Prop}
  {l : Layout W Id} {ms : List (Monitor W Id)} {p a : ℕ} {wss : List (Workspace W Id)}

omit [LayoutElement W Id] in
/-- What else the layout keeps does not matter. -/
theorem All.aside (h : l.All P Q O) (isActive : Bool) (dnd : Option (DndData Id))
    (overviewOpen : Bool) (overviewProgress : Option OverviewProgress) :
    { l with isActive, dnd, overviewOpen, overviewProgress }.All P Q O :=
  ⟨h.monitors, h.detached, h.moved, h.options⟩

/-! ### Overview -/

omit [LayoutElement W Id] in
theorem setMonitorsOverviewState_all (h : l.All P Q O) (clock : Clock) :
    Ensures (l.setMonitorsOverviewState clock) (All P Q O) := by
  refine mapMonitors_all h fun m hm => ensures_pure.mpr ?_
  apply Monitor.All.setOverviewProgress
  exact ⟨hm.workspaces, hm.options, hm.baseOptions⟩

omit [LayoutElement W Id] in
theorem setOverview_all (h : l.All P Q O) (clock : Clock) (overviewOpen : Bool)
    (overviewProgress : Option OverviewProgress) :
    Ensures ({ l with overviewOpen, overviewProgress }.setMonitorsOverviewState clock)
      (All P Q O) :=
  setMonitorsOverviewState_all (h.aside l.isActive l.dnd overviewOpen overviewProgress) clock

omit [LayoutElement W Id] in
theorem toggleOverview_all (h : l.All P Q O) (clock : Clock) :
    Ensures (l.toggleOverview clock) (All P Q O) := setOverview_all h clock _ _

omit [LayoutElement W Id] in
theorem openOverview_all (h : l.All P Q O) (clock : Clock) :
    Ensures (l.openOverview clock) (All P Q O) :=
  ensures_ite.mpr ⟨fun _ => ensures_pure.mpr h, fun _ => toggleOverview_all h clock⟩

omit [LayoutElement W Id] in
theorem closeOverview_all (h : l.All P Q O) (clock : Clock) :
    Ensures (l.closeOverview clock) (All P Q O) :=
  ensures_ite.mpr ⟨fun _ => ensures_pure.mpr h, fun _ => toggleOverview_all h clock⟩

omit [LayoutElement W Id] in
theorem toggleOverviewToWorkspace_all (h : l.All P Q O) (clock : Clock) (wsIdx : ℕ) :
    Ensures (l.toggleOverviewToWorkspace clock wsIdx) (All P Q O) :=
  ensures_bind.mpr ((onActiveMonitor_all h fun _ hm =>
    Monitor.activateWorkspaceWithAnimConfig_all hm clock wsIdx _).mono
      fun _ ht => toggleOverview_all ht clock)

omit [LayoutElement W Id] in
theorem overviewGestureBegin_all (h : l.All P Q O) (clock : Clock) :
    Ensures (l.overviewGestureBegin clock) (All P Q O) := setOverview_all h clock _ _

omit [LayoutElement W Id] in
theorem overviewGestureUpdate_all (h : l.All P Q O) (clock : Clock) (deltaY : ℚ)
    (timestamp : Duration) :
    Ensures (l.overviewGestureUpdate clock deltaY timestamp) (All P Q O) := by
  unfold overviewGestureUpdate
  split
  · exact ensures_ite.mpr ⟨fun _ => ensures_pure.mpr (h.aside l.isActive l.dnd l.overviewOpen _),
      fun _ => setOverview_all h clock l.overviewOpen _⟩
  · exact ensures_pure.mpr h

omit [LayoutElement W Id] in
theorem overviewGestureEnd_all (h : l.All P Q O) (clock : Clock) :
    Ensures (l.overviewGestureEnd clock) (All P Q O) := by
  unfold overviewGestureEnd
  split
  · exact setOverview_all h clock _ _
  · exact ensures_pure.mpr h

variable [DecidableEq Id] (inv : Invariant P Q O)
include inv

/-! ### Commands -/

theorem runCommand_all (h : l.All P Q O) (clock : Clock) (cmd : Workspace.Command) :
    Ensures (l.runCommand clock cmd) (All P Q O) := by
  have hrun : ∀ cmd : Workspace.Command,
      Ensures (l.onActiveWorkspace (·.runCommand clock cmd)) (All P Q O) :=
    fun cmd => onActiveWorkspace_all h fun _ hws => inv.runCommand hws clock cmd
  unfold runCommand
  split
  · refine onActiveMonitor_all h fun m hm => ensures_ite.mpr ⟨fun _ => ?_, fun _ => ?_⟩
    · exact Monitor.onWorkspace_all hm _ fun _ hws => inv.runCommand hws clock _
    · exact ensures_pure.mpr hm
  · exact hrun _

/-- A dragged window remembers the same presets. -/
theorem changed_all {data : InteractiveMoveData W} (hdata : Q (.tile data.removed))
    {how : Held.Change} (hhow : ∀ removed : RemovedTile W,
      (Held.changeTile removed how).tile.remembered = removed.tile.remembered) :
    Q (.tile (data.change how).removed) :=
  inv.retouch hdata (hhow data.removed)

omit inv in
omit [DecidableEq Id] in
theorem remembered_toggleFloating (removed : RemovedTile W) :
    (Held.changeTile removed .toggleFloating).tile.remembered = removed.tile.remembered := by
  simp only [Held.changeTile, Held.toggleFloating]
  split_ifs <;> rfl

theorem All.runMovedCommand (h : l.All P Q O) {data : InteractiveMoveData W}
    (hdata : Q (.tile data.removed)) (cmd : Workspace.WindowCommand) :
    (l.runMovedCommand data cmd).All P Q O := by
  have htoggled := h.withMoved (changed_all inv hdata (remembered_toggleFloating (W := W)))
  unfold Layout.runMovedCommand
  split
  · exact htoggled
  · split_ifs
    · exact htoggled
    · exact h
  · exact h

omit inv [DecidableEq Id] in
omit [LayoutElement W Id] in
theorem All.of_filter (h : l.All P Q O) {q : InteractiveMoveData W → Bool}
    {data : InteractiveMoveData W} (hdata : l.moved.filter q = some data) :
    Q (.tile data.removed) :=
  h.moved data (Option.filter_eq_some_iff.mp hdata).1

theorem runWindowCommand_all (h : l.All P Q O) (clock : Clock) (window : Option Id)
    (cmd : Workspace.WindowCommand) :
    Ensures (l.runWindowCommand clock window cmd) (All P Q O) := by
  unfold runWindowCommand
  split
  · rename_i hdata
    exact ensures_pure.mpr (h.runMovedCommand inv (h.of_filter hdata) cmd)
  · exact onWindowOrActive_all h window fun _ hws => inv.runWindowCommand hws clock window cmd

theorem runMonitorCommand_all (h : l.All P Q O) (clock : Clock) (cmd : Monitor.Command) :
    Ensures (l.onActiveMonitor (·.runCommand clock cmd)) (All P Q O) :=
  onActiveMonitor_all h fun _ hm => Monitor.runCommand_all inv hm clock cmd

theorem moveToWorkspace_all (h : l.All P Q O) (clock : Clock) (window : Option Id) (idx : ℕ)
    (activate : ActivateWindow) :
    Ensures (l.moveToWorkspace clock window idx activate) (All P Q O) := by
  have hmove : ∀ m : Monitor W Id, m.All P O →
      Ensures (m.moveToWorkspace clock window idx activate) (Monitor.All P O) :=
    fun _ hm => Monitor.moveToWorkspace_all inv hm clock window idx activate
  unfold moveToWorkspace
  refine ensures_ite.mpr ⟨fun _ => ensures_pure.mpr h, fun _ => ?_⟩
  split
  · rename_i hset _
    have hms := h.of_normal hset
    refine ensures_bind.mpr ((Vec.ensures_applyFirst hms fun m hm => hmove m (hms m hm)).mono
      fun found hfound => ensures_bind.mpr (ensures_unwrap.mpr fun ms hsome => ?_))
    exact ensures_pure.mpr (h.withMonitors (hfound ms hsome) _ _)
  · exact ensures_pure.mpr h
  · exact onActiveMonitor_all h hmove

omit inv in
theorem activateBy_all (h : l.All P Q O) (clock : Clock) (window : Id)
    {activate : Workspace W Id → Outcome (Workspace W Id × Bool)}
    (hactivate : ∀ ws, P ws → Ensures (activate ws) fun r => P r.1) :
    Ensures (l.activateBy clock window activate) (All P Q O) := by
  unfold activateBy
  refine ensures_ite.mpr ⟨fun _ => ensures_pure.mpr h, fun _ => ?_⟩
  split
  · rename_i hset
    have hms := h.of_normal hset
    refine ensures_bind.mpr ((Vec.ensures_applyUntil hms fun m hm => ensures_bind.mpr ?_).mono
      fun r hr => ensures_pure.mpr (h.withMonitors hr _ _))
    have hm := hms m hm
    refine (Vec.ensures_applyUntil hm.workspaces fun ws hws => ensures_bind.mpr
      ((hactivate ws (hm.workspaces ws hws)).mono fun r hr => ensures_pure.mpr hr)).mono
        fun r hr => ?_
    have hactivated : { m with workspaces := r.1 }.All P O := ⟨hr, hm.options, hm.baseOptions⟩
    dsimp only
    split
    · exact ensures_pure.mpr hactivated
    · split_ifs
      · exact ensures_pure.mpr hactivated
      · exact ensures_bind.mpr ((Monitor.switchWorkspace_all hactivated clock _).mono
          fun t ht => ensures_pure.mpr ht)
  · exact ensures_pure.mpr h

theorem activateWindow_all (h : l.All P Q O) (clock : Clock) (window : Id) :
    Ensures (l.activateWindow clock window) (All P Q O) :=
  activateBy_all h clock window fun _ hws => inv.activateWindow hws window

theorem activateWindowWithoutRaising_all (h : l.All P Q O) (clock : Clock) (window : Id) :
    Ensures (l.activateWindowWithoutRaising clock window) (All P Q O) :=
  activateBy_all h clock window fun _ hws =>
    ensures_pure.mpr (inv.activateWindowWithoutRaising hws window)

/-! ### Other outputs -/

theorem moveToOutput_all (h : l.All P Q O) (clock : Clock) (window : Option Id) (output : Output)
    (targetWsIdx : Option ℕ) (activate : ActivateWindow) :
    Ensures (l.moveToOutput clock window output targetWsIdx activate) (All P Q O) := by
  unfold moveToOutput
  refine ensures_ite.mpr ⟨fun _ => ensures_pure.mpr h, fun _ => ?_⟩
  split
  · rename_i hset
    have hms := h.of_normal hset
    refine ensures_bind.mpr fun newIdx _ => ensures_bind.mpr fun located _ => ?_
    refine ensures_bind.mpr fun new _ => ensures_ite.mpr ⟨fun _ => ensures_pure.mpr h, fun _ => ?_⟩
    split
    · exact ensures_pure.mpr h
    · refine ensures_bind.mpr fun mon _ => ensures_bind.mpr fun follow _ => ensures_bind.mpr ?_
      refine Vec.ensures_update.mpr fun m hm => ensures_bind.mpr (Vec.ensures_update.mpr ?_)
      have hm := hms m (List.mem_of_getElem? hm)
      refine fun ws hws => (inv.takeTile (hm.get hws) clock window).mono fun r hr => ?_
      have hrest := Vec.forall_mem_set (i := located.1) hms (hm.set hr.2 located.2)
      refine ensures_pure.mpr ?_
      cases hremoved : r.1 with
      | none => exact ensures_pure.mpr (h.withMonitors hrest _ _)
      | some removed =>
        have hstopped : Q (.tile { removed with tile := removed.tile.stopMoveAnimations }) :=
          inv.retouch (hr.1 removed hremoved) rfl
        refine ensures_bind.mpr (Vec.ensures_apply.mpr fun t ht => ?_)
        refine (Monitor.addRemoved_all inv (hrest t (List.mem_of_getElem? ht)) clock hstopped _
          _).mono fun u hu => ensures_bind.mpr (Vec.ensures_apply.mpr fun v hv => ?_)
        have hadded := Vec.forall_mem_set (i := newIdx) hrest hu
        exact (Monitor.cleanUpIfStill_all (hadded v (List.mem_of_getElem? hv))).mono fun x hx =>
          ensures_pure.mpr (h.withMonitors (Vec.forall_mem_set hadded hx) _ _)
  · exact ensures_pure.mpr h

theorem addColumnByIdx_all (h : l.All P Q O) (clock : Clock) (monitorIdx workspaceIdx : ℕ)
    {column : Column W} (hcolumn : Q (.column column)) (activate : Bool) :
    Ensures (l.addColumnByIdx clock monitorIdx workspaceIdx column activate) (All P Q O) := by
  unfold addColumnByIdx
  split
  · rename_i hset
    have hms := h.of_normal hset
    refine ensures_bind.mpr (Vec.ensures_apply.mpr fun m hm => ?_)
    exact (Monitor.addColumn_all inv (hms m (List.mem_of_getElem? hm)) clock workspaceIdx hcolumn
      activate).mono fun t ht => ensures_pure.mpr (h.withMonitors (Vec.forall_mem_set hms ht) _ _)
  · exact ensures_throw

theorem moveColumnToOutput_all (h : l.All P Q O) (clock : Clock) (output : Output)
    (targetWsIdx : Option ℕ) (activate : Bool) :
    Ensures (l.moveColumnToOutput clock output targetWsIdx activate) (All P Q O) := by
  unfold moveColumnToOutput
  split
  · rename_i a hset
    have hms := h.of_normal hset
    refine ensures_bind.mpr fun newIdx _ => ensures_bind.mpr fun current _ => ?_
    refine ensures_bind.mpr fun active _ => ensures_ite.mpr
      ⟨fun _ => moveToOutput_all inv h clock none output none .smart, fun _ => ?_⟩
    refine ensures_bind.mpr (Vec.ensures_update.mpr fun m hm => ensures_bind.mpr ?_)
    have hm := hms m (List.mem_of_getElem? hm)
    refine Vec.ensures_update.mpr fun ws hws => ?_
    refine (inv.removeActiveColumn (hm.get hws) clock).mono fun r hr => ensures_pure.mpr ?_
    have hrest := Vec.forall_mem_set (i := a) hms (hm.set hr.2 m.activeWorkspaceIdx)
    cases hcolumn : r.1 with
    | none => exact ensures_pure.mpr (h.withMonitors hrest _ _)
    | some column =>
      refine ensures_bind.mpr fun target _ => ensures_bind.mpr fun last _ => ?_
      exact addColumnByIdx_all inv (h.withMonitors hrest _ _) clock _ _ (hr.1 column hcolumn)
        activate
  · exact ensures_pure.mpr h

omit inv [DecidableEq Id] in
omit [LayoutElement W Id] in
theorem orElse_all (h : l.All P Q O) {first : Workspace W Id → Outcome (Workspace W Id × Bool)}
    {second : Layout W Id → Outcome (Layout W Id)}
    (hfirst : ∀ ws, P ws → Ensures (first ws) fun r => P r.1)
    (hsecond : ∀ t : Layout W Id, t.All P Q O → Ensures (second t) (All P Q O)) :
    Ensures (l.orElse first second) (All P Q O) := by
  unfold orElse
  split
  · rename_i hset
    have hms := h.of_normal hset
    simp only [ensures_bind, Vec.ensures_update, ensures_pure, ensures_ite]
    intro m hm ws hws
    have hm := hms m (List.mem_of_getElem? hm)
    refine (hfirst ws (hm.get hws)).mono fun r hr => ?_
    have hrest := fun i => Vec.forall_mem_set (i := i) hms (hm.set hr m.activeWorkspaceIdx)
    exact ⟨fun _ => h.withMonitors (hrest _) _ _, fun _ => hsecond _ (h.withMonitors (hrest _) _ _)⟩
  · exact hsecond l h

theorem moveColumnLeftOrToOutput_all (h : l.All P Q O) (clock : Clock) (output : Output) :
    Ensures (l.moveColumnLeftOrToOutput clock output) (All P Q O) :=
  orElse_all h (fun _ hws => inv.moveTowards hws clock .left)
    fun _ ht => moveColumnToOutput_all inv ht clock output none true

theorem moveColumnRightOrToOutput_all (h : l.All P Q O) (clock : Clock) (output : Output) :
    Ensures (l.moveColumnRightOrToOutput clock output) (All P Q O) :=
  orElse_all h (fun _ hws => inv.moveTowards hws clock .right)
    fun _ ht => moveColumnToOutput_all inv ht clock output none true

theorem focusOrOutput_all (h : l.All P Q O) (direction : Workspace.Direction) (output : Output) :
    Ensures (l.orElse (·.focusTowards direction) fun t => pure (t.focusOutput output))
      (All P Q O) :=
  orElse_all h (fun _ hws => inv.focusTowards hws direction)
    fun _ ht => ensures_pure.mpr (ht.focusOutput output)

theorem moveWorkspaceToOutputById_all (h : l.All P Q O) (clock : Clock) (oldIdx : ℕ)
    (oldOutput : Option Output) (newOutput : Output) :
    Ensures (l.moveWorkspaceToOutputById clock oldIdx oldOutput newOutput) (All P Q O) := by
  unfold moveWorkspaceToOutputById
  split
  · rename_i hset
    have hms := h.of_normal hset
    cases oldOutput
    all_goals
      refine ensures_bind.mpr fun currentIdx _ => ?_
      refine ensures_bind.mpr fun targetIdx _ => ensures_bind.mpr (Vec.ensures_get.mpr ?_)
      intro current hcurrent
      have hcurrent := hms current (List.mem_of_getElem? hcurrent)
      refine ensures_ite.mpr ⟨fun _ => ensures_pure.mpr h, fun _ => ensures_ite.mpr
        ⟨fun _ => ensures_pure.mpr ?_, fun _ => ensures_bind.mpr (Vec.ensures_update.mpr ?_)⟩⟩
      · refine h.withMonitors (Vec.forall_mem_set hms ?_) _ _
        exact ⟨Vec.forall_mem_modify hcurrent.workspaces
          (fun ws hws => inv.label hws ws.name _) oldIdx, hcurrent.options, hcurrent.baseOptions⟩
      · refine fun m hm => (Monitor.removeWorkspaceByIdx_all inv
          (hms m (List.mem_of_getElem? hm)) oldIdx).mono fun r hr => ?_
        refine ensures_bind.mpr (Vec.ensures_apply.mpr fun t ht => ?_)
        have hrest := fun i => Vec.forall_mem_set (i := i) hms hr.2
        refine (Monitor.insertWorkspace_all inv (hrest _ t (List.mem_of_getElem? ht)) clock
          (inv.label hr.1 r.1.name _) _ _).mono fun u hu => ensures_pure.mpr ?_
        exact h.withMonitors (Vec.forall_mem_set (hrest _) hu) _ _
  · exact ensures_pure.mpr h

theorem moveWorkspaceToOutput_all (h : l.All P Q O) (clock : Clock) (output : Output) :
    Ensures (l.moveWorkspaceToOutput clock output) (All P Q O) := by
  unfold moveWorkspaceToOutput
  split
  · exact ensures_bind.mpr fun mon _ => moveWorkspaceToOutputById_all inv h clock _ none output
  · exact ensures_pure.mpr h

omit inv [DecidableEq Id] in
omit [LayoutElement W Id] in
theorem moveWorkspaceToIdx_all (h : l.All P Q O) (reference : Option (Option Output × ℕ))
    (newIdx : ℕ) : Ensures (l.moveWorkspaceToIdx reference newIdx) (All P Q O) := by
  unfold moveWorkspaceToIdx
  split
  · exact onMonitorFor_all h _ fun _ hm => Monitor.moveWorkspaceToIdx_all hm _ newIdx
  · exact onActiveMonitor_all h fun _ hm => Monitor.moveWorkspaceToIdx_all hm _ newIdx
  · exact onActiveMonitor_all h fun _ hm => Monitor.moveWorkspaceToIdx_all hm _ newIdx

end Layout

end Sol
