import Sol.DragSpecs
import Sol.LayoutPresets
import Sol.Ledger

/-!
# Windows and indices over runs of the layout

Each operation is described by the windows that it opens and closes, by when it leaves the rows of
workspaces as they are, and by when it leaves the indices in range.  So are runs.

* `step_changed`: what one operation does;
* `ledger_conserves`: no window is lost or held twice in a run, but for those that a
  reloaded configuration drops;
* `reachable_rows`, `reachable_inRange`: the rows and the indices.
-/

namespace Sol

open Panicking

variable {W Id : Type} [LayoutElement W Id] [DecidableEq Id]

namespace Layout

/-! ### Operations -/

/-- The windows that an operation opens. -/
def Op.opens : Op W Id → List Id
  | .addWindow window .. => [LayoutElement.id window]
  | _ => []

/-- The windows that an operation takes out: the one that is closed, and those on the first
workspaces that a configuration drops. -/
def Op.closes (l : Layout W Id) : Op W Id → List Id
  | .removeWindow window => l.closedIds window
  | .updateConfig config => l.droppedIds config.options
  | .updateLayoutConfig output layoutConfig =>
    (l.monitorForOutput output).toList.flatMap (·.droppedByConfig layoutConfig)
  | _ => []

/-- A window stays the same whatever its client does to it. -/
def Op.Lawful : Op W Id → Prop
  | .modifyWindow _ f => ∀ w, LayoutElement.id (f w) = LayoutElement.id w
  | _ => True

/-- The operations that leave the row of workspaces of each monitor as it is. -/
def Op.KeepsRows (l : Layout W Id) : Op W Id → Prop
  | .addOutput .. | .removeOutput _ | .ensureNamedWorkspace _ => False
  | .moveWorkspaceToOutput _ | .moveWorkspaceToOutputById .. | .moveWorkspaceToIdx .. => False
  | .interactiveMoveUpdate .. | .interactiveMoveEnd _ => False
  | .removeWindow window => ¬l.IsHeld window ∧ l.KeepsRows window
  | .updateConfig config =>
    ∀ m ∈ l.monitors, ¬m.DropsFirst (config.options.withMergedLayout m.layoutConfig)
  | .updateLayoutConfig _ layoutConfig => ∀ m ∈ l.monitors, m.layoutConfig = layoutConfig ∨
    ¬m.DropsFirst (m.baseOptions.withMergedLayout layoutConfig)
  | .monitorCommand cmd | .monitorCommandOn _ cmd => ¬cmd.MovesRow
  | _ => True

/-- The operations that leave the indices in range. -/
def Op.KeepsIndices (l : Layout W Id) : Op W Id → Prop
  | .addOutput output _ => l.SparesPrimary output
  | .toggleOverviewToWorkspace wsIdx => ∀ m ∈ l.activeMonitor, wsIdx < m.workspaces.length
  | .monitorCommand cmd => ∀ m ∈ l.activeMonitor, ¬cmd.Overshoots m
  | .monitorCommandOn output cmd =>
    ∀ m ∈ l.monitors, m.output.key = output.key → ¬cmd.Overshoots m
  | .addWindow .. | .moveToOutput .. | .moveColumnToOutput .. => l.HasRoom
  | .moveColumnLeftOrToOutput _ | .moveColumnRightOrToOutput _ | .interactiveMoveEnd _ => l.HasRoom
  | .moveWorkspaceToOutput _ | .moveWorkspaceToOutputById .. => l.HasSpare
  | .moveWorkspaceToIdx reference newIdx => ¬l.Overshoots newIdx reference
  | _ => True

/-- What the callers of an operation see to.  Nothing is told here of drags and frames, which
depend on what is shown where. -/
def Op.Callable (l : Layout W Id) : Op W Id → Prop
  | .addOutput .. => l.CanConnect
  | .removeOutput output => l.HasOutput output
  | .addWindow _ target .. => l.Targets target
  | .removeWindow window => ¬l.IsHeld window ∧ l.CanClose window
  | .command cmd => ∀ ws, l.Concerns none ws → ¬cmd.isUnfinished ws = true
  | .windowCommand window cmd => (∀ w ∈ window, w ∈ l.windowIds) ∧
    ∀ ws, l.Concerns window ws → ¬cmd.isUnfinished ws window = true
  | .commandOn id cmd => (∃ ws ∈ l.workspaces, ws.id = id) ∧
    ∀ ws ∈ l.workspaces, ws.id = id → ¬cmd.isUnfinished ws = true
  | .moveToWorkspace window _ _ => ∀ w ∈ window, w ∈ l.windowIds
  | .moveToOutput window output _ _ => l.HasOutput output ∧ ∀ w ∈ window, w ∈ l.windowIds
  | .moveColumnToOutput output _ _ => l.HasOutput output
  | .moveColumnLeftOrToOutput output | .moveColumnRightOrToOutput output => l.HasOutput output
  | .moveWorkspaceToOutput output => l.HasRoom ∧ l.HasOutput output
  | .moveWorkspaceToOutputById _ oldOutput newOutput =>
    l.HasRoom ∧ l.HasOutput newOutput ∧ ∀ output ∈ oldOutput, l.HasOutput output
  | .toggleWindowedFullscreen window => window ∈ l.windowIds
  | .workspaceSwitchGestureBegin .. | .viewOffsetGestureBegin => l.HasOutputs
  | .refresh _ => l.HeldThere
  | .interactiveMoveBegin .. | .interactiveMoveUpdate .. | .interactiveMoveEnd _ => False
  | .advanceAnimations _ | .updateRenderElements _ => False
  | _ => True

/-- What an operation does to the layout. -/
structure Changed (l : Layout W Id) (op : Op W Id) (t : Layout W Id) : Prop where
  sound : t.Sound
  perm : (op.closes l ++ t.windowIds).Perm (op.opens ++ l.windowIds)
  rows_eq : op.KeepsRows l → t.rows = l.rows
  inRange : op.KeepsIndices l → l.InRange → t.InRange

variable {l t : Layout W Id} {op : Op W Id} {c r g : Prop}

/-- An operation that opens and closes no window. -/
theorem Kept.changed (h : Kept c r [] l t) (hopens : op.opens = []) (hcloses : op.closes l = [])
    (hr : op.KeepsRows l → r) (hc : op.KeepsIndices l → c) : Changed l op t where
  sound := h.sound
  perm := by
    rw [hopens, hcloses]
    exact h.perm
  rows_eq := h.rows_eq ∘ hr
  inRange := h.inRange ∘ hc

/-- An operation that leaves everything in its place. -/
theorem Kept.still (h : Kept True True [] l t) (hopens : op.opens = [])
    (hcloses : op.closes l = []) : Changed l op t :=
  h.changed hopens hcloses (fun _ => trivial) fun _ => trivial

theorem Lost.changed (h : Lost c r (op.closes l) l t) (hopens : op.opens = [])
    (hr : op.KeepsRows l → r) (hc : op.KeepsIndices l → c) : Changed l op t where
  sound := h.sound
  perm := by
    rw [hopens]
    exact h.perm.symm
  rows_eq := h.rows_eq ∘ hr
  inRange := h.inRange ∘ hc

theorem runCommandOn_kept (h : l.Sound) (clock : Clock) (id : WorkspaceId)
    (cmd : Workspace.Command) :
    Guarded ((∃ ws ∈ l.workspaces, ws.id = id) ∧
        ∀ ws ∈ l.workspaces, ws.id = id → ¬cmd.isUnfinished ws = true)
      (l.runCommandOn clock id cmd) (Kept c r [] l) := by
  unfold runCommandOn
  rw [guarded_bind]
  refine (onFirstWorkspace_kept (c := c) (r := r) h fun ws hws hid hwf =>
    ((Workspace.runCommand_rearranged hwf clock cmd).weaken fun hg =>
      hg.2 ws hws (of_decide_eq_true hid)).mono fun _ ht => ht.kept).mono fun found hfound => ?_
  refine guarded_unwrap.mpr ⟨hfound.1, fun hg => hfound.2 ?_⟩
  obtain ⟨ws, hws, hid⟩ := hg.1
  exact ⟨ws, hws, decide_eq_true hid⟩

theorem runMonitorCommandOn_kept (h : l.Sound) (clock : Clock) (output : Output)
    (cmd : Monitor.Command) :
    Guarded l.InRange (l.onMonitorFor output (·.runCommand clock cmd))
      (Kept (∀ m ∈ l.monitors, m.output.key = output.key → ¬cmd.Overshoots m) (¬cmd.MovesRow) []
        l) :=
  onMonitorFor_kept h output fun m hmem hkey hm hin =>
    ((Monitor.runCommand_kept hm clock cmd).weaken hin).mono fun _ ht =>
      ht.weaken (fun hc => hc m hmem hkey) id

/-- What one operation does. -/
theorem step_changed (h : l.Sound) (clock : Clock) (hop : op.Lawful) :
    Guarded (l.InRange ∧ op.Callable l) (l.step clock op) (Changed l op) := by
  have hstill : ∀ {x : Outcome (Layout W Id)} {g : Prop}, Guarded g x (Kept True True [] l) →
      (l.InRange ∧ op.Callable l → g) → op.opens = [] → op.closes l = [] →
        Guarded (l.InRange ∧ op.Callable l) x (Changed l op) :=
    fun hx hg hopens hcloses => (hx.weaken hg).mono fun t ht => ht.still hopens hcloses
  have hframe : ∀ {x : Outcome (Layout W Id)}, Ensures x (Kept True True [] l) →
      ¬op.Callable l → op.opens = [] → op.closes l = [] →
        Guarded (l.InRange ∧ op.Callable l) x (Changed l op) :=
    fun hx hnot hopens hcloses => ⟨hx.mono fun t ht => ht.still hopens hcloses,
      fun hg => absurd hg.2 hnot⟩
  cases op
  -- outputs and the configuration
  case addOutput output layoutConfig =>
    exact ((addOutput_kept h clock output layoutConfig).weaken And.right).mono
      fun t ht => ht.changed rfl rfl id id
  case removeOutput output =>
    exact ((removeOutput_kept h output).weaken id).mono
      fun t ht => ht.changed rfl rfl id fun _ => trivial
  case updateOutputSize output =>
    exact hstill (updateOutputSize_kept h output).guarded id rfl rfl
  case updateLayoutConfig output layoutConfig =>
    exact (updateLayoutConfig_lost h output layoutConfig).guarded.mono
      fun t ht => ht.changed rfl id fun _ => trivial
  case updateConfig config =>
    exact (updateConfig_lost h config.workspaces config.hasPresets_options).guarded.mono
      fun t ht => ht.changed rfl id fun _ => trivial
  case ensureNamedWorkspace wsConfig =>
    exact ((ensureNamedWorkspace_kept h clock wsConfig).weaken And.left).mono
      fun t ht => ht.changed rfl rfl id fun _ => trivial
  case unnameWorkspace name => exact hstill (unnameWorkspace_kept h name) And.left rfl rfl
  case setWorkspaceName name reference =>
    exact hstill (setWorkspaceName_kept h name reference) And.left rfl rfl
  case unsetWorkspaceName reference =>
    exact hstill (unsetWorkspaceName_kept h reference) And.left rfl rfl
  -- windows
  case addWindow window target width height isFullWidth isFloating activate =>
    refine ((addWindow_kept (r := True) h clock window target width height isFullWidth isFloating
      activate).weaken id).mono fun t ht => ⟨ht.sound, ht.perm, fun _ => ht.rows_eq trivial,
        ht.inRange⟩
  case removeWindow window =>
    refine guarded_bind.mpr (((removeWindow_lost h clock window).weaken id).mono
      fun found ht => guarded_pure.mpr ?_)
    exact ht.changed rfl id fun _ => trivial
  case modifyWindow window f => exact hstill (modifyWindow_kept h window hop).guarded id rfl rfl
  case updateWindow window serial =>
    exact hstill (updateWindow_kept h window serial).guarded id rfl rfl
  case descendantsAdded id' => exact hstill (descendantsAdded_kept h id').guarded id rfl rfl
  case activateWindow window => exact hstill (activateWindow_kept h clock window) And.left rfl rfl
  case activateWindowWithoutRaising window =>
    exact hstill (activateWindowWithoutRaising_kept h clock window) And.left rfl rfl
  -- commands
  case command cmd => exact hstill (runCommand_kept h clock cmd) id rfl rfl
  case windowCommand window cmd =>
    exact hstill (runWindowCommand_kept h clock window cmd) id rfl rfl
  case monitorCommand cmd =>
    exact ((runMonitorCommand_kept h clock cmd).weaken And.left).mono
      fun t ht => ht.changed rfl rfl id id
  case monitorCommandOn output cmd =>
    exact ((runMonitorCommandOn_kept h clock output cmd).weaken And.left).mono
      fun t ht => ht.changed rfl rfl id id
  case commandOn id' cmd => exact hstill (runCommandOn_kept h clock id' cmd) And.right rfl rfl
  case moveToWorkspace window idx activate =>
    exact hstill (moveToWorkspace_kept h clock window idx activate) id rfl rfl
  case focusOutput output =>
    exact hstill (guarded_pure.mpr (focusOutput_kept h output)) id rfl rfl
  case moveToOutput window output targetWsIdx activate =>
    exact ((moveToOutput_kept (r := True) h clock window output targetWsIdx activate).weaken
      id).mono fun t ht => ht.changed rfl rfl (fun _ => trivial) id
  case moveColumnToOutput output targetWsIdx activate =>
    exact ((moveColumnToOutput_kept (r := True) h clock output targetWsIdx activate).weaken id).mono
      fun t ht => ht.changed rfl rfl (fun _ => trivial) id
  case moveColumnLeftOrToOutput output =>
    exact ((moveColumnLeftOrToOutput_kept (r := True) h clock output).weaken id).mono
      fun t ht => ht.changed rfl rfl (fun _ => trivial) id
  case moveColumnRightOrToOutput output =>
    exact ((moveColumnRightOrToOutput_kept (r := True) h clock output).weaken id).mono
      fun t ht => ht.changed rfl rfl (fun _ => trivial) id
  case focusWindowUpOrOutput output =>
    exact hstill (focusOrOutput_kept h .up output) And.left rfl rfl
  case focusWindowDownOrOutput output =>
    exact hstill (focusOrOutput_kept h .down output) And.left rfl rfl
  case focusColumnLeftOrOutput output =>
    exact hstill (focusOrOutput_kept h .left output) And.left rfl rfl
  case focusColumnRightOrOutput output =>
    exact hstill (focusOrOutput_kept h .right output) And.left rfl rfl
  case moveWorkspaceToOutput output =>
    exact ((moveWorkspaceToOutput_kept h clock output).weaken id).mono
      fun t ht => ht.changed rfl rfl id id
  case moveWorkspaceToOutputById oldIdx oldOutput newOutput =>
    exact ((moveWorkspaceToOutputById_kept h clock oldIdx oldOutput newOutput).weaken id).mono
      fun t ht => ht.changed rfl rfl id id
  case moveWorkspaceToIdx reference newIdx =>
    exact ((moveWorkspaceToIdx_kept h reference newIdx).weaken And.left).mono
      fun t ht => ht.changed rfl rfl id id
  -- takeovers
  case setFullscreen window isFullscreen =>
    exact hstill (setFullscreen_kept h clock window isFullscreen).guarded id rfl rfl
  case toggleFullscreen window =>
    exact hstill (toggleFullscreen_kept h clock window).guarded id rfl rfl
  case toggleWindowedFullscreen window =>
    exact hstill (toggleWindowedFullscreen_kept h clock window) And.right rfl rfl
  case setMaximized window maximize =>
    exact hstill (setMaximized_kept h clock window maximize).guarded id rfl rfl
  case toggleMaximized window =>
    exact hstill (toggleMaximized_kept h clock window).guarded id rfl rfl
  -- gestures and the overview
  case workspaceSwitchGestureBegin output isTouchpad =>
    exact hstill (workspaceSwitchGestureBegin_kept h clock output isTouchpad) id rfl rfl
  case workspaceSwitchGestureUpdate deltaY timestamp isTouchpad =>
    exact hstill (workspaceSwitchGestureUpdate_kept h clock deltaY timestamp isTouchpad) And.left
      rfl rfl
  case workspaceSwitchGestureEnd isTouchpad =>
    exact hstill (workspaceSwitchGestureEnd_kept h clock isTouchpad) And.left rfl rfl
  case viewOffsetGestureBegin => exact hstill (viewOffsetGestureBegin_kept h) And.right rfl rfl
  case toggleOverview => exact hstill (toggleOverview_kept h clock).guarded id rfl rfl
  case openOverview => exact hstill (openOverview_kept h clock).guarded id rfl rfl
  case closeOverview => exact hstill (closeOverview_kept h clock).guarded id rfl rfl
  case toggleOverviewToWorkspace wsIdx =>
    exact ((toggleOverviewToWorkspace_kept (r := True) h clock wsIdx).weaken And.left).mono
      fun t ht => ht.changed rfl rfl (fun _ => trivial) id
  case overviewGestureBegin => exact hstill (overviewGestureBegin_kept h clock).guarded id rfl rfl
  case overviewGestureUpdate deltaY timestamp =>
    exact hstill (overviewGestureUpdate_kept h clock deltaY timestamp).guarded id rfl rfl
  case overviewGestureEnd => exact hstill (overviewGestureEnd_kept h clock).guarded id rfl rfl
  -- drags
  case interactiveMoveBegin window output startPos =>
    exact hframe (interactiveMoveBegin_kept h clock window output startPos) id rfl rfl
  case interactiveMoveUpdate window delta output pos =>
    exact ⟨(interactiveMoveUpdate_kept h clock window delta output pos).mono
      fun t ht => ht.changed rfl rfl id fun _ => trivial, fun hg => absurd hg.2 id⟩
  case interactiveMoveEnd window =>
    exact ⟨(interactiveMoveEnd_kept h clock window).mono
      fun t ht => ht.changed rfl rfl id id, fun hg => absurd hg.2 id⟩
  case dndUpdate output pos => exact hstill (dndUpdate_kept h clock output pos).guarded id rfl rfl
  case dndEnd => exact hstill (dndEnd_kept h clock) And.left rfl rfl
  case interactiveResizeBegin window edges =>
    exact hstill (interactiveResizeBegin_kept h window edges).guarded id rfl rfl
  case interactiveResizeUpdate window delta =>
    exact hstill (interactiveResizeUpdate_kept h window delta).guarded id rfl rfl
  case interactiveResizeEnd window =>
    exact hstill (interactiveResizeEnd_kept h window).guarded id rfl rfl
  -- frames
  case advanceAnimations hit => exact hframe (advanceAnimations_kept h clock hit) id rfl rfl
  case refresh isActive => exact hstill (refresh_kept h clock isActive) id rfl rfl
  case updateRenderElements output =>
    exact hframe (updateRenderElements_kept h clock output) id rfl rfl

/-! ### Runs -/

omit [DecidableEq Id] in
/-- A layout begins without outputs and without windows. -/
theorem sound_withOptionsAndWorkspaces (nextId : WorkspaceId) (config : Config) :
    (withOptionsAndWorkspaces nextId config.workspaces config.options : Layout W Id).Sound where
  monitors _ hm := absurd hm List.not_mem_nil
  detached ws hws := by
    obtain ⟨i, hi, rfl⟩ := List.mem_mapIdx.mp hws
    exact Workspace.wellFormed_newWithConfigNoOutputs _ _ config.hasPresets_options
  presets := config.hasPresets_options

omit [DecidableEq Id] in
omit [LayoutElement W Id] in
theorem inRange_withOptionsAndWorkspaces (nextId : WorkspaceId) (config : Config) :
    (withOptionsAndWorkspaces nextId config.workspaces config.options : Layout W Id).InRange where
  monitors _ hm := absurd hm List.not_mem_nil
  indices _ _ _ hset := by cases hset

omit [DecidableEq Id] in
theorem windowIds_withOptionsAndWorkspaces (nextId : WorkspaceId) (config : Config) :
    (withOptionsAndWorkspaces nextId config.workspaces config.options : Layout W Id).windowIds =
      [] := by
  rw [windowIds_of_noOutputs rfl, movedIds, List.append_eq_nil_iff]
  refine ⟨List.flatMap_eq_nil_iff.mpr fun ws hws => ?_, rfl⟩
  obtain ⟨i, hi, rfl⟩ := List.mem_mapIdx.mp hws
  rfl

/-- Operations of which it is seen at once that they leave the indices in range. -/
def Op.isTame (l : Layout W Id) : Op W Id → Bool
  | .addOutput .. => l.monitors.isEmpty
  | .addWindow .. => l.monitors.all fun m => decide (2 ≤ m.workspaces.length)
  | .removeWindow _ | .updateConfig _ | .command _ | .openOverview | .advanceAnimations _ => true
  | _ => false

/-- Clients leave the ids of their windows alone. -/
def lawful (_ : Layout W Id) (a : Clock × Op W Id) : Prop := a.2.Lawful

omit [DecidableEq Id] in
theorem Op.lawful_of_isTame {op : Op W Id} (h : op.isTame l = true) : op.Lawful := by
  cases op
  case modifyWindow => cases h
  all_goals trivial

theorem reachable_sound (h : (machine W Id).ReachableBy lawful l) : l.Sound := by
  refine h.invariant ?_ fun l a hl ha =>
    ((step_changed hl a.1 ha).ensures).mono fun t ht => ht.sound
  rintro l ⟨nextId, config, rfl⟩
  exact sound_withOptionsAndWorkspaces nextId config

/-- The windows that were opened in a run are those that are in the layout and those that were
closed on the way; if each was opened once, none is held twice or comes back. -/
theorem ledger_conserves {opened closed : List Id}
    (h : (machine W Id).Ledger lawful (fun _ a => a.2.opens) (fun l a => a.2.closes l) l opened
      closed) :
    (closed ++ l.windowIds).Perm opened ∧
      (opened.Nodup → l.windowIds.Nodup ∧ ∀ w ∈ closed, w ∉ l.windowIds) := by
  have hperm := (h.balance Sound windowIds ?_ fun l a hl ha =>
    ((step_changed hl a.1 ha).ensures).mono fun t ht => ⟨ht.sound, ht.perm⟩).2
  · refine ⟨hperm, fun hnodup => ?_⟩
    obtain ⟨-, hwindows, hapart⟩ := List.nodup_append.mp (hperm.nodup_iff.mpr hnodup)
    exact ⟨hwindows, fun w hw hin => hapart w hw w hin rfl⟩
  · rintro l ⟨nextId, config, rfl⟩
    exact ⟨sound_withOptionsAndWorkspaces nextId config,
      windowIds_withOptionsAndWorkspaces nextId config⟩

end Layout

/-- A layout section that keeps an empty workspace on top. -/
def Sample.abovePart : LayoutPart :=
  ⟨none, none, none, none, none, some true, none, none, none⟩

/-- A window comes to a monitor with an empty workspace on top. -/
def Sample.arrival : List (Clock × Layout.Op Sample.Toplevel ℕ) :=
  [(Sample.clock, .addOutput (Sample.output 1) none),
    (Sample.clock, .addWindow (Sample.toplevel 1) .auto none none false false .yes),
    (Sample.clock, .advanceAnimations none)]

namespace Layout

theorem exists_after_arrival {p : Layout Sample.Toplevel ℕ → Bool}
    (hrun : ((machine Sample.Toplevel ℕ).run (fun l a => a.2.isTame l = true)
      (withOptionsAndWorkspaces 0 [] (Sample.config [Sample.abovePart]).options)
      Sample.arrival).any p = true) :
    ∃ l, (machine Sample.Toplevel ℕ).ReachableBy (fun l a => a.2.isTame l = true) l ∧
      p l = true :=
  Machine.exists_reachableBy Sample.arrival ⟨0, _, rfl⟩ hrun

/-- The configuration that is loaded then has no such workspace, and the window goes. -/
theorem ledger_conserves_reloaded : ∃ (l : Layout Sample.Toplevel ℕ) (opened closed : List ℕ),
    opened = [1, 2] ∧ closed = [1] ∧ (closed ++ l.windowIds).Perm opened ∧ l.windowIds.Nodup := by
  obtain ⟨l, opened, closed, hl, hends⟩ := Machine.exists_ledger (M := machine Sample.Toplevel ℕ)
    (p := fun r => decide (r.2.1 = [1, 2] ∧ r.2.2 = [1]))
    (Sample.arrival ++ [(Sample.clock, .updateConfig (Sample.config [])),
      (Sample.clock, .addWindow (Sample.toplevel 2) .auto none none false false .yes)])
    (show (machine Sample.Toplevel ℕ).initial
      (withOptionsAndWorkspaces 0 [] (Sample.config [Sample.abovePart]).options) from ⟨0, _, rfl⟩)
    (show ((machine Sample.Toplevel ℕ).account (fun l a => a.2.isTame l = true)
      (fun _ a => a.2.opens) (fun l a => a.2.closes l) _ _ _ _).any _ = true by decide +kernel)
  obtain ⟨hopened, hclosed⟩ : opened = [1, 2] ∧ closed = [1] := of_decide_eq_true hends
  obtain ⟨hperm, hnodup⟩ := ledger_conserves (hl.mono fun _ _ ha => Op.lawful_of_isTame ha)
  refine ⟨l, opened, closed, hopened, hclosed, hperm, (hnodup ?_).1⟩
  rw [hopened]
  decide

/-- An operation that neither opens nor closes a window keeps all windows, unless it is an update of
the configuration that drops the first workspace of a monitor with windows on it. -/
theorem reachable_keepsWindows_iff (h : (machine W Id).ReachableBy lawful l) (clock : Clock)
    (op : Op W Id) (hop : op.Lawful) (hopens : op.opens = []) :
    Ensures (l.step clock op) fun t => t.windowIds.Perm l.windowIds ↔ op.closes l = [] := by
  refine ((step_changed (reachable_sound h) clock hop).ensures).mono fun t ht => ?_
  have hperm := ht.perm
  rw [hopens, List.nil_append] at hperm
  constructor
  · intro hsame
    have hlen := (hperm.trans hsame.symm).length_eq
    rw [List.length_append] at hlen
    exact List.eq_nil_of_length_eq_zero (by omega)
  · intro hnone
    rwa [hnone] at hperm

/-- So it is here. -/
theorem reachable_keepsWindows_iff_reloaded : ∃ (l t : Layout Sample.Toplevel ℕ),
    l.windowIds = [1] ∧ l.step Sample.clock (.updateConfig (Sample.config [])) = .ok t ∧
      ¬t.windowIds.Perm l.windowIds := by
  obtain ⟨l, hl, hends⟩ := exists_after_arrival
    (p := fun l => decide (l.windowIds = [1]) &&
      decide ((Op.updateConfig (Sample.config [])).closes l = [1]) &&
      (l.step Sample.clock (.updateConfig (Sample.config []))).isOk) (by decide +kernel)
  simp only [Bool.and_eq_true, decide_eq_true_eq] at hends
  obtain ⟨⟨hwindows, hcloses⟩, hok⟩ := hends
  cases hstep : l.step Sample.clock (.updateConfig (Sample.config [])) with
  | error e => rw [hstep] at hok; cases hok
  | ok t =>
    have hiff := reachable_keepsWindows_iff (hl.mono fun _ _ ha => Op.lawful_of_isTame ha)
      Sample.clock (.updateConfig (Sample.config [])) trivial rfl t hstep
    refine ⟨l, t, hwindows, hstep, fun hsame => ?_⟩
    rw [hiff.mp hsame] at hcloses
    cases hcloses

/-- The operations of a run leave the indices in range. -/
def careful (l : Layout W Id) (a : Clock × Op W Id) : Prop := a.2.Lawful ∧ a.2.KeepsIndices l

omit [DecidableEq Id] in
theorem careful_of_isTame {a : Clock × Op W Id} (h : a.2.isTame l = true) : careful l a := by
  refine ⟨Op.lawful_of_isTame h, ?_⟩
  obtain ⟨clock, op⟩ := a
  cases op
  case addOutput output layoutConfig =>
    intro ms p a m hset hm
    have hnone : ms = [] := (monitors_of_normal hset).symm.trans (List.isEmpty_iff.mp h)
    rw [hnone] at hm
    cases hm
  case addWindow => exact fun m hm _ => of_decide_eq_true (List.all_eq_true.mp h m hm)
  case removeWindow | updateConfig | command | openOverview | advanceAnimations => trivial
  all_goals cases h

theorem reachable_inRange (h : (machine W Id).ReachableBy careful l) : l.Sound ∧ l.InRange := by
  refine h.invariant (P := fun l => l.Sound ∧ l.InRange) ?_ fun l a hl ha =>
    ((step_changed hl.1 a.1 ha.1).ensures).mono fun t ht => ⟨ht.sound, ht.inRange ha.2 hl.2⟩
  rintro l ⟨nextId, config, rfl⟩
  exact ⟨sound_withOptionsAndWorkspaces nextId config,
    inRange_withOptionsAndWorkspaces nextId config⟩

/-- After a run that is careful the indices are in range, and an operation that its callers may call
does not panic. -/
theorem reachable_returns (h : (machine W Id).ReachableBy careful l) :
    l.InRange ∧ ∀ (clock : Clock) (op : Op W Id), op.Lawful → op.Callable l →
      Returns (l.step clock op) fun t => op.KeepsIndices l → t.InRange := by
  obtain ⟨hsound, hin⟩ := reachable_inRange h
  refine ⟨hin, fun clock op hop hcall => ?_⟩
  exact ((step_changed hsound clock hop).returns ⟨hin, hcall⟩).mono fun t ht hkeeps =>
    ht.inRange hkeeps hin

/-- The window that came is closed. -/
theorem reachable_returns_closed : ∃ (l t : Layout Sample.Toplevel ℕ), l.windowIds = [1] ∧
    l.step Sample.clock (.removeWindow 1) = .ok t ∧ t.InRange := by
  obtain ⟨l, hl, hends⟩ := exists_after_arrival
    (p := fun l => decide (l.windowIds = [1]) && l.interactiveMove.isNone &&
      l.monitors.all fun m => decide (4 ≤ m.workspaces.length)) (by decide +kernel)
  simp only [Bool.and_eq_true, decide_eq_true_eq, List.all_eq_true, Option.isNone_iff_eq_none]
    at hends
  obtain ⟨⟨hwindows, hmove⟩, hlen⟩ := hends
  have hheld : ¬l.IsHeld 1 := by
    rintro ⟨delta, ratio, hstarting⟩
    rw [hmove] at hstarting
    cases hstarting
  obtain ⟨t, ht, hin⟩ := (reachable_returns (hl.mono fun _ _ ha => careful_of_isTame ha)).2
    Sample.clock (.removeWindow 1) trivial ⟨hheld, fun m hm _ _ => .inr (hlen m hm)⟩
  exact ⟨l, t, hwindows, ht, hin trivial⟩

end Layout

end Sol
