import Sol.Landing
import Sol.LayoutParts

/-!
# Requests to the layout

The operations of the layout that neither connect outputs nor open, close, or move windows to
other outputs: which windows there are, and which indices are in range, when they are done.

* `runCommand_kept`, `runMonitorCommand_kept`, `runWindowCommand_kept`: commands;
* `refresh_kept`, `advanceAnimations_kept`: what is done for every frame.
-/

namespace Sol

open Panicking

variable {W Id : Type} [LayoutElement W Id]

namespace Monitor

variable {m t : Monitor W Id} {c r : Prop}

/-! ### Moves in the row -/

/-- The active workspace goes from the top to the bottom, and room on top is counted in. -/
def Overshoots (m : Monitor W Id) (oldIdx newIdx : ℕ) : Prop :=
  m.options.layout.emptyWorkspaceAboveFirst = true ∧ m.activeWorkspaceIdx = 0 ∧ oldIdx = 0 ∧
    0 < newIdx ∧ newIdx + 1 = m.workspaces.length

omit [LayoutElement W Id] in
/-- The active index goes out of range exactly then. -/
theorem activeIdxAfterMove_lt_iff {oldIdx newIdx : ℕ} (hne : oldIdx ≠ newIdx)
    (hold : oldIdx < m.workspaces.length) (hnew : newIdx < m.workspaces.length)
    (hactive : m.activeWorkspaceIdx < m.workspaces.length) :
    m.activeIdxAfterMove oldIdx (m.movedIdx oldIdx newIdx) < m.workspaces.length ↔
      ¬m.Overshoots oldIdx newIdx := by
  unfold activeIdxAfterMove movedIdx Overshoots
  cases m.options.layout.emptyWorkspaceAboveFirst with
  | false =>
    simp only [Bool.false_eq_true, false_and, if_false, not_false_iff, iff_true]
    split_ifs <;> omega
  | true =>
    simp only [true_and, gt_iff_lt]
    split_ifs <;> omega

theorem RowMoved.kept (h : m.Sound) {oldIdx newIdx : ℕ} (hmoved : m.RowMoved oldIdx newIdx t) :
    Kept (¬m.Overshoots oldIdx newIdx) False [] m t := by
  rcases hmoved with ⟨-, rfl⟩ | ⟨hne, hold, hnew, rfl⟩
  · exact h.kept_refl
  · have hperm := FocusList.relocated_perm (l := m.workspaces) (i := oldIdx) hnew
    refine ⟨h.reframe _ _ _ fun ws hws => h.workspaces ws (hperm.mem_iff.mp hws),
      hperm.flatMap_right _, rfl, False.elim, fun hc hin => .of_still ?_ rfl⟩
    rw [activeWorkspaceIdx_reframe, workspaces_reframe, FocusList.length_relocated hnew]
    exact (activeIdxAfterMove_lt_iff hne hold hnew hin.active).mpr hc

omit [LayoutElement W Id] in
theorem not_overshoots_up (newIdx : ℕ) (h : newIdx ≤ m.activeWorkspaceIdx) :
    ¬m.Overshoots m.activeWorkspaceIdx newIdx := by
  rintro ⟨-, hactive, -, hpos, -⟩
  omega

/-- The commands that move workspaces. -/
def Command.MovesRow : Command → Prop
  | .moveWorkspaceDown | .moveWorkspaceUp => True
  | _ => False

/-- The move down that goes too far, in a row of two. -/
def Command.Overshoots (m : Monitor W Id) : Command → Prop
  | .moveWorkspaceDown => m.Overshoots m.activeWorkspaceIdx
      (min (m.activeWorkspaceIdx + 1) (m.workspaces.length - 1))
  | _ => False

variable [DecidableEq Id]

theorem runCommand_kept (h : m.Sound) (clock : Clock) (cmd : Command) :
    Guarded m.InRange (m.runCommand clock cmd)
      (Kept (¬cmd.Overshoots m) (¬cmd.MovesRow) [] m) := by
  have hsteady : ∀ {c r : Prop} {x : Outcome (Monitor W Id)},
      (Guarded m.InRange x fun t => Steady True [] m t) → Guarded m.InRange x (Kept c r [] m) :=
    fun hx => hx.mono fun t ht => ht.kept.weaken (fun _ => trivial) id
  have hmoved : ∀ {c r : Prop} {x : Outcome (Monitor W Id)} {source newIdx window focus},
      Guarded (m.activeWorkspaceIdx < m.workspaces.length) x
        (Moved m source newIdx window focus) → Guarded m.InRange x (Kept c r [] m) :=
    fun hx => hsteady ((hx.weaken (·.active)).mono fun t ht => ht.steady h)
  cases cmd <;> simp only [runCommand]
  case moveDownOrToWorkspaceDown => exact hsteady (moveDownOrToWorkspaceDown_steady h clock)
  case moveUpOrToWorkspaceUp => exact hsteady (moveUpOrToWorkspaceUp_steady h clock)
  case focusWindowOrWorkspaceDown => exact hsteady (focusWindowOrWorkspaceDown_steady h clock)
  case focusWindowOrWorkspaceUp => exact hsteady (focusWindowOrWorkspaceUp_steady h clock)
  case moveToWorkspaceUp focus => exact hmoved (moveToWorkspaceUp_spec h clock focus)
  case moveToWorkspaceDown focus => exact hmoved (moveToWorkspaceDown_spec h clock focus)
  case moveColumnToWorkspaceUp activate =>
    exact hmoved (moveColumnToWorkspaceUp_spec h clock activate)
  case moveColumnToWorkspaceDown activate =>
    exact hmoved (moveColumnToWorkspaceDown_spec h clock activate)
  case moveColumnToWorkspace idx activate =>
    exact hmoved (moveColumnToWorkspace_spec h clock idx activate)
  case switchWorkspaceUp => exact hsteady (switchWorkspaceUp_steady h clock)
  case switchWorkspaceDown => exact hsteady (switchWorkspaceDown_steady h clock)
  case switchWorkspace idx => exact hsteady (switchWorkspace_steady h clock idx)
  case switchWorkspaceAutoBackAndForth idx =>
    exact hsteady (switchWorkspaceAutoBackAndForth_steady h clock idx)
  case switchWorkspacePrevious => exact hsteady (switchWorkspacePrevious_steady h clock)
  case moveWorkspaceDown =>
    exact ((moveWorkspaceDown_spec clock).weaken (·.active)).mono fun t ht =>
      (ht.kept h).weaken id fun hr => hr trivial
  case moveWorkspaceUp =>
    exact ((moveWorkspaceUp_spec clock).weaken (·.active)).mono fun t ht =>
      (ht.kept h).weaken (fun _ => not_overshoots_up _ (Nat.sub_le _ _)) fun hr => hr trivial

end Monitor

namespace Layout

variable {l t : Layout W Id} {g c r : Prop}

/-! ### Overview -/

theorem setMonitorsOverviewState_kept (h : l.Sound) (clock : Clock) :
    Returns (l.setMonitorsOverviewState clock) (Kept c r [] l) := by
  refine guarded_true.mp (mapMonitors_kept h fun m _ hm _ => guarded_pure.mpr ?_)
  have hopened : Monitor.Kept c r [] m { m with overviewOpen := l.overviewOpen } :=
    ⟨⟨hm.workspaces, hm.basePresets, hm.presets⟩, .refl _, rfl, fun _ => rfl,
      fun _ hin => ⟨hin.active, hin.center⟩⟩
  exact hopened.then ((Monitor.setOverviewProgress_steady hopened.sound clock _).kept.weaken
    (fun _ => trivial) id)

/-- The overview opens or closes some way. -/
theorem setOverview_kept (h : l.Sound) (clock : Clock) (overviewOpen : Bool)
    (overviewProgress : Option OverviewProgress) :
    Returns ({ l with overviewOpen, overviewProgress }.setMonitorsOverviewState clock)
      (Kept c r [] l) := by
  have hset : Kept c r [] l { l with overviewOpen, overviewProgress } :=
    h.kept_of_monitorSet rfl rfl h.presets
  exact (setMonitorsOverviewState_kept hset.sound clock).mono fun _ ht => hset.then ht

theorem toggleOverview_kept (h : l.Sound) (clock : Clock) :
    Returns (l.toggleOverview clock) (Kept c r [] l) := setOverview_kept h clock _ _

theorem openOverview_kept (h : l.Sound) (clock : Clock) :
    Returns (l.openOverview clock) (Kept c r [] l) := by
  unfold openOverview
  rw [returns_ite]
  exact ⟨fun _ => returns_pure.mpr (.refl h), fun _ => toggleOverview_kept h clock⟩

theorem closeOverview_kept (h : l.Sound) (clock : Clock) :
    Returns (l.closeOverview clock) (Kept c r [] l) := by
  unfold closeOverview
  rw [returns_ite]
  exact ⟨fun _ => returns_pure.mpr (.refl h), fun _ => toggleOverview_kept h clock⟩

theorem toggleOverviewToWorkspace_kept (h : l.Sound) (clock : Clock) (wsIdx : ℕ) :
    Guarded l.InRange (l.toggleOverviewToWorkspace clock wsIdx)
      (Kept (∀ m ∈ l.activeMonitor, wsIdx < m.workspaces.length) r [] l) := by
  unfold toggleOverviewToWorkspace
  simp only [guarded_bind]
  refine (onActiveMonitor_kept h id fun m hactive hm hin => ?_).mono fun t ht =>
    ((toggleOverview_kept ht.sound clock).mono fun u hu => ht.then hu).guarded
  exact ((Monitor.activateWorkspaceWithAnimConfig_steady hm clock wsIdx _).weaken hin).mono
    fun m' hm' => hm'.1.kept.weaken (fun hc => hc m hactive) id

theorem overviewGestureBegin_kept (h : l.Sound) (clock : Clock) :
    Returns (l.overviewGestureBegin clock) (Kept c r [] l) := setOverview_kept h clock _ _

theorem overviewGestureUpdate_kept (h : l.Sound) (clock : Clock) (deltaY : ℚ)
    (timestamp : Duration) :
    Returns (l.overviewGestureUpdate clock deltaY timestamp) (Kept c r [] l) := by
  unfold overviewGestureUpdate
  split
  · simp only [returns_ite, returns_pure]
    exact ⟨fun _ => h.kept_of_monitorSet rfl rfl h.presets, fun _ => setOverview_kept h clock _ _⟩
  · exact returns_pure.mpr (.refl h)

theorem overviewGestureEnd_kept (h : l.Sound) (clock : Clock) :
    Returns (l.overviewGestureEnd clock) (Kept c r [] l) := by
  unfold overviewGestureEnd
  split
  · exact setOverview_kept h clock _ _
  · exact returns_pure.mpr (.refl h)

variable [DecidableEq Id]

/-! ### Commands -/

/-- A command that the active workspace has not implemented panics. -/
theorem runCommand_kept (h : l.Sound) (clock : Clock) (cmd : Workspace.Command) :
    Guarded (l.InRange ∧ ∀ ws, l.Concerns none ws → ¬cmd.isUnfinished ws = true)
      (l.runCommand clock cmd) (Kept c r [] l) := by
  have hrun : ∀ cmd : Workspace.Command,
      Guarded (l.InRange ∧ ∀ ws, l.Concerns none ws → ¬cmd.isUnfinished ws = true)
        (l.onActiveWorkspace (·.runCommand clock cmd)) (Kept c r [] l) := fun cmd =>
    onActiveWorkspace_kept h And.left fun ws hws hwf =>
      ((Workspace.runCommand_rearranged hwf clock cmd).weaken fun hg => hg.2 ws hws).mono
        fun _ ht => ht.kept
  unfold runCommand
  split
  case h_1 direction =>
    refine onActiveMonitor_kept h And.left fun m hactive hm hin => ?_
    rw [guarded_ite]
    refine ⟨fun hlt => ?_, fun _ => guarded_pure.mpr hm.kept_refl⟩
    unfold Monitor.onWorkspace
    simp only [guarded_bind, guarded_pure, Vec.guarded_apply]
    refine ⟨fun ws hws => ?_, fun _ => hlt⟩
    have hconcerns : l.Concerns none ws := by
      rw [Concerns, activeWorkspace, hactive]
      exact hws
    exact ((Workspace.runCommand_rearranged (hm.get hws).1 clock _).weaken fun hg =>
      hg.2 ws hconcerns).mono fun _ ht => hm.kept_workspace hws ht.kept
  case h_2 => exact hrun cmd

omit [DecidableEq Id] in
/-- A dragged window is let float, or tiled. -/
theorem runMovedCommand_kept (h : l.Sound) {data : InteractiveMoveData W}
    (hmoved : l.moved = some data) (cmd : Workspace.WindowCommand) :
    Kept c r [] l (l.runMovedCommand data cmd) := by
  have hchange : Kept c r [] l
      { l with interactiveMove := some (.moving (data.change .toggleFloating)) } := by
    refine h.kept_of_monitorSet rfl ?_ h.presets
    have hid := Held.windowId_change
      (.tile ⟨data.tile, data.width, data.isFullWidth, data.isFloating⟩) .toggleFloating
    rw [movedIds, movedIds, hmoved]
    exact congrArg (fun id => (some id).toList) hid
  cases cmd
  case toggleWindowFloating => exact hchange
  case setWindowFloating floating =>
    unfold runMovedCommand
    dsimp only
    split_ifs
    · exact hchange
    · exact .refl h
  all_goals exact .refl h

/-- A command to a window panics if the window is not there, or has it not implemented. -/
theorem runWindowCommand_kept (h : l.Sound) (clock : Clock) (window : Option Id)
    (cmd : Workspace.WindowCommand) :
    Guarded (l.InRange ∧ (∀ w ∈ window, w ∈ l.windowIds) ∧
        ∀ ws, l.Concerns window ws → ¬cmd.isUnfinished ws window = true)
      (l.runWindowCommand clock window cmd) (Kept c r [] l) := by
  unfold runWindowCommand
  split
  next data hdata =>
    obtain ⟨hmoved, -⟩ := Option.filter_eq_some_iff.mp hdata
    exact guarded_pure.mpr (runMovedCommand_kept h hmoved cmd)
  next hnone =>
    refine onWindowOrActive_kept h And.left (fun hg w hw => ?_) fun ws hws hwf => ?_
    · have hmem := hg.2.1 w hw
      rw [windowIds, List.mem_append] at hmem
      rcases hmem with hmem | hmem
      · exact List.mem_flatMap.mp hmem
      · -- the window would be the dragged one
        rw [Option.mem_toList, Option.map_eq_some_iff] at hmem
        obtain ⟨data, hdata, rfl⟩ := hmem
        rw [Option.mem_def] at hw
        simp [hdata, hw] at hnone
    · refine ((Workspace.runWindowCommand_rearranged hwf clock (fun w hw => ?_) cmd).weaken
        fun hg => hg.2.2 ws hws).mono fun _ ht => ht.kept
      cases hw
      exact hws.2

/-- A command that is handed on to the active monitor. -/
theorem runMonitorCommand_kept (h : l.Sound) (clock : Clock) (cmd : Monitor.Command) :
    Guarded l.InRange (l.onActiveMonitor (·.runCommand clock cmd))
      (Kept (∀ m ∈ l.activeMonitor, ¬cmd.Overshoots m) (¬cmd.MovesRow) [] l) :=
  onActiveMonitor_kept h id fun m hactive hm hin =>
    ((Monitor.runCommand_kept hm clock cmd).weaken hin).mono fun _ ht =>
      ht.weaken (fun hc => hc m hactive) id

theorem moveToWorkspace_kept (h : l.Sound) (clock : Clock) (window : Option Id) (idx : ℕ)
    (activate : ActivateWindow) :
    Guarded (l.InRange ∧ ∀ w ∈ window, w ∈ l.windowIds)
      (l.moveToWorkspace clock window idx activate) (Kept c r [] l) := by
  have hmove : ∀ m : Monitor W Id, m.Sound → (∀ w ∈ window, w ∈ m.windowIds) →
      Guarded m.InRange (m.moveToWorkspace clock window idx activate)
        (Monitor.Kept c r [] m) := fun m hm hw =>
    ((Monitor.moveToWorkspace_spec hm clock window idx activate).weaken fun hin =>
      ⟨hin.active, hw⟩).mono fun t ⟨_, _, ht⟩ =>
        (ht.steady hm).kept.weaken (fun _ => trivial) id
  unfold moveToWorkspace
  rw [guarded_ite]
  refine ⟨fun _ => guarded_pure.mpr (.refl h), fun hmoved => ?_⟩
  cases window with
  | none =>
    exact onActiveMonitor_kept h And.left fun m _ hm hin =>
      (hmove m hm (by simp)).weaken fun hg => hin hg.1
  | some id =>
    cases hset : l.monitorSet with
    | noOutputs wss => exact guarded_pure.mpr (.refl h)
    | normal ms p a =>
      have hmonitors := monitors_of_normal hset
      simp only [guarded_bind, guarded_unwrap, guarded_pure]
      refine Vec.guarded_applyFirst (fun hnone => ⟨by simp, fun hg => ?_⟩) fun i m hm hhas => ?_
      · -- the window is on a monitor, as it is not dragged
        have hmem := hg.2 id rfl
        rw [windowIds_of_normal hset, List.mem_append] at hmem
        rcases hmem with hmem | hmem
        · obtain ⟨m, hm, hw⟩ := List.mem_flatMap.mp hmem
          obtain ⟨ws, hws, hw⟩ := List.mem_flatMap.mp hw
          have hfalse := hnone m hm
          rw [Monitor.hasWindow, List.any_eq_false] at hfalse
          exact absurd (Workspace.hasWindow_iff.mpr hw) (hfalse ws hws)
        · rw [movedIds, Option.mem_toList, Option.map_eq_some_iff] at hmem
          obtain ⟨data, hdata, rfl⟩ := hmem
          simp [isAboutMoved, hdata] at hmoved
      · have hmem : m ∈ l.monitors := hmonitors ▸ List.mem_of_getElem? hm
        have hw : ∀ w ∈ some id, w ∈ m.windowIds := by
          rintro w ⟨⟩
          rw [Monitor.hasWindow, List.any_eq_true] at hhas
          obtain ⟨ws, hws, hw⟩ := hhas
          exact List.mem_flatMap.mpr ⟨ws, hws, Workspace.hasWindow_iff.mp hw⟩
        refine ((hmove m (h.monitors m hmem) hw).weaken fun hg => hg.1.monitors m hmem).mono
          fun m' hm' => ⟨fun ms' hms' => ?_, fun _ => rfl⟩
        cases hms'
        exact h.kept_set hset hm hm' fun _ hl => (hl.indices _ _ _ hset).2

/-- A window is activated, wherever it is. -/
theorem activateBy_kept (h : l.Sound) (clock : Clock) (window : Id)
    {activate : Workspace W Id → Outcome (Workspace W Id × Bool)}
    (hactivate : ∀ ws : Workspace W Id, ws.WellFormed →
      Returns (activate ws) fun r => ws.Rearranged r.1) :
    Guarded l.InRange (l.activateBy clock window activate) (Kept c r [] l) := by
  unfold activateBy
  rw [guarded_ite]
  refine ⟨fun _ => guarded_pure.mpr (.refl h), fun _ => ?_⟩
  cases hset : l.monitorSet with
  | noOutputs wss => exact guarded_pure.mpr (.refl h)
  | normal ms p a =>
    have hmonitors := monitors_of_normal hset
    have hms : ∀ m ∈ ms, m.Sound := hmonitors ▸ h.monitors
    simp only [guarded_bind, guarded_pure]
    refine (Vec.guarded_applyUntil (S := Monitor.Kept c r []) (p := fun _ => False)
      (fun m hm => (hms m hm).kept_refl) fun m hm => ?_).mono fun found hf => ?_
    · have hm' := hms m hm
      simp only [guarded_bind]
      refine (Vec.guarded_applyUntil (S := Workspace.Rearranged) (p := fun _ => False)
        (fun ws hws => (hm'.workspaces ws hws).1.rearranged_refl) fun ws hws => ?_).mono
          fun done hd => ?_
      · simp only [guarded_bind, guarded_pure]
        exact (hactivate ws (hm'.workspaces ws hws).1).guarded.mono
          fun _ hws' => ⟨hws', False.elim⟩
      · have hsteady := hm'.steady_forall₂ hd.1
        have hkept : Monitor.Kept c r [] m { m with workspaces := done.1 } :=
          hsteady.kept.weaken (fun _ => trivial) id
        cases hresult : done.2 with
        | none => exact guarded_pure.mpr ⟨hkept, False.elim⟩
        | some result =>
          simp only [guarded_bind, guarded_pure, guarded_ite]
          refine ⟨fun _ => ⟨hkept, False.elim⟩, fun _ => ?_⟩
          refine ((Monitor.switchWorkspace_steady hsteady.sound clock result.1).weaken fun hl =>
            hsteady.inRange trivial (hl.monitors m (hmonitors ▸ hm))).mono fun t ht =>
              ⟨hkept.then (ht.kept.weaken (fun _ => trivial) id), False.elim⟩
    · refine h.kept_forall₂ hset hf.1 fun _ hl => ?_
      cases hresult : found.2 with
      | none => exact (hl.indices _ _ _ hset).2
      | some result => exact hf.2.1 result hresult

theorem activateWindow_kept (h : l.Sound) (clock : Clock) (window : Id) :
    Guarded l.InRange (l.activateWindow clock window) (Kept c r [] l) :=
  activateBy_kept h clock window fun _ hws => Workspace.activateWindow_rearranged hws window

theorem activateWindowWithoutRaising_kept (h : l.Sound) (clock : Clock) (window : Id) :
    Guarded l.InRange (l.activateWindowWithoutRaising clock window) (Kept c r [] l) :=
  activateBy_kept h clock window fun _ hws =>
    returns_pure.mpr (Workspace.activateWindowWithoutRaising_rearranged hws window)

/-! ### Takeovers -/

omit [DecidableEq Id] in
/-- A change to the dragged tile. -/
theorem Sound.kept_moving (h : l.Sound) {data data' : InteractiveMoveData W}
    (hmoved : l.moved = some data) (hid : data'.tile.windowId = data.tile.windowId) :
    Kept c r [] l { l with interactiveMove := some (.moving data') } := by
  refine h.kept_of_monitorSet rfl ?_ h.presets
  rw [movedIds, movedIds, hmoved]
  exact congrArg (fun id => (some id).toList) hid

theorem modifyWindow_kept (h : l.Sound) (window : Id) {f : W → W}
    (hf : ∀ w, LayoutElement.id (f w) = LayoutElement.id w) :
    Returns (l.modifyWindow window f) (Kept c r [] l) := by
  have hall : ∀ l' : Layout W Id, Kept c r [] l l' →
      Returns (l'.mapWorkspaces fun ws => pure (ws.modifyTile window fun tile =>
        { tile with window := f tile.window })) (Kept c r [] l) := by
    intro l' hl'
    refine guarded_true.mp ((mapWorkspaces_kept hl'.sound fun ws _ hwf =>
      guarded_pure.mpr ?_).mono fun t ht => hl'.then ht)
    have hid : ∀ tile : Tile W,
        ({ tile with window := f tile.window } : Tile W).windowId = tile.windowId :=
      fun tile => hf tile.window
    exact (Workspace.modifyTile_rearranged hwf window hid).1
  unfold modifyWindow
  dsimp only
  cases hmoved : l.moved.filter fun data => data.tile.windowId = window with
  | none => exact hall l (.refl h)
  | some data =>
    obtain ⟨hdata, -⟩ := Option.filter_eq_some_iff.mp hmoved
    exact hall _ (h.kept_moving hdata (hf data.tile.window))

theorem setFullscreen_kept (h : l.Sound) (clock : Clock) (window : Id) (isFullscreen : Bool) :
    Returns (l.setFullscreen clock window isFullscreen) (Kept c r [] l) := by
  unfold setFullscreen
  simp only [returns_ite, returns_pure]
  refine ⟨fun _ => modifyWindow_kept h window fun w => ?_, fun _ => ⟨fun _ => .refl h, fun _ => ?_⟩⟩
  · split_ifs
    · exact LayoutElement.id_requestWindowedFullscreen w false
    · rfl
  · exact guarded_true.mp (onWorkspaceOf_kept h fun ws hws hwf =>
      ((Workspace.setFullscreen_rearranged hwf clock hws.2 isFullscreen).mono
        fun _ ht => ht.kept).guarded)

theorem toggleFullscreen_kept (h : l.Sound) (clock : Clock) (window : Id) :
    Returns (l.toggleFullscreen clock window) (Kept c r [] l) := by
  unfold toggleFullscreen
  simp only [returns_ite, returns_pure]
  exact ⟨fun _ => .refl h, fun _ => guarded_true.mp (onWorkspaceOf_kept h fun ws hws hwf =>
    ((Workspace.toggleFullscreen_rearranged hwf clock hws.2).mono fun _ ht => ht.kept).guarded)⟩

omit [DecidableEq Id] in
/-- The windows of the layout are those with the ids. -/
theorem mem_windowIds_iff {window : Id} : window ∈ l.windowIds ↔
    ∃ w ∈ l.windows, LayoutElement.id w = window := by
  simp only [windowIds, windows, List.mem_append, List.mem_flatMap, Option.mem_toList,
    Option.map_eq_some_iff, Workspace.windowIds, List.mem_map]
  constructor
  · rintro (⟨ws, hws, tile, htile, rfl⟩ | ⟨data, hdata, rfl⟩)
    · exact ⟨tile.window, .inr ⟨ws, hws, tile, htile, rfl⟩, rfl⟩
    · exact ⟨data.tile.window, .inl ⟨data, hdata, rfl⟩, rfl⟩
  · rintro ⟨w, ⟨data, hdata, rfl⟩ | ⟨ws, hws, tile, htile, rfl⟩, rfl⟩
    · exact .inr ⟨data, hdata, rfl⟩
    · exact .inl ⟨ws, hws, tile, htile, rfl⟩

theorem toggleWindowedFullscreen_kept (h : l.Sound) (clock : Clock) (window : Id) :
    Guarded (window ∈ l.windowIds) (l.toggleWindowedFullscreen clock window) (Kept c r [] l) := by
  unfold toggleWindowedFullscreen
  simp only [guarded_bind, guarded_unwrap]
  constructor
  · intro w _
    have hrest : ∀ l' : Layout W Id, Kept c r [] l l' → Guarded (window ∈ l.windowIds)
        (l'.modifyWindow window fun win => LayoutElement.requestWindowedFullscreen win
          (!LayoutElement.isPendingWindowedFullscreen win)) (Kept c r [] l) := fun l' hl' =>
      ((modifyWindow_kept hl'.sound window fun w =>
        LayoutElement.id_requestWindowedFullscreen w _).mono fun _ ht => hl'.then ht).guarded
    simp only [guarded_ite]
    refine ⟨fun _ => ?_, fun _ => hrest l (.refl h)⟩
    rw [guarded_bind]
    exact (onWorkspaceOf_kept h fun ws hws hwf =>
      ((Workspace.setFullscreen_rearranged hwf clock hws.2 false).mono
        fun _ ht => ht.kept).guarded).mono fun t ht => hrest t ht
  · intro hw
    obtain ⟨w, hw, hid⟩ := mem_windowIds_iff.mp hw
    rw [List.find?_isSome]
    exact ⟨w, hw, decide_eq_true hid⟩

theorem setMaximized_kept (h : l.Sound) (clock : Clock) (window : Id) (maximize : Bool) :
    Returns (l.setMaximized clock window maximize) (Kept c r [] l) := by
  unfold setMaximized
  simp only [returns_ite, returns_pure]
  exact ⟨fun _ => .refl h, fun _ => guarded_true.mp (onWorkspaceOf_kept h fun ws hws hwf =>
    ((Workspace.setMaximized_rearranged hwf clock hws.2 maximize).mono fun _ ht => ht.kept).guarded)⟩

theorem toggleMaximized_kept (h : l.Sound) (clock : Clock) (window : Id) :
    Returns (l.toggleMaximized clock window) (Kept c r [] l) := by
  unfold toggleMaximized
  simp only [returns_ite, returns_pure]
  exact ⟨fun _ => .refl h, fun _ => guarded_true.mp (onWorkspaceOf_kept h fun ws hws hwf =>
    ((Workspace.toggleMaximized_rearranged hwf clock hws.2).mono fun _ ht => ht.kept).guarded)⟩

/-! ### Windows -/

theorem descendantsAdded_kept (h : l.Sound) (id : Id) :
    Returns (l.descendantsAdded id) (Kept c r [] l) := by
  have hadd : ∀ wss : List (Workspace W Id), (∀ ws ∈ wss, ws.WellFormed) →
      Guarded True (Vec.applyUntil (fun ws : Workspace W Id => do
        let r ← ws.descendantsAdded id
        pure (r.1, if r.2 then some () else none)) wss)
        fun found => List.Forall₂ Workspace.Rearranged wss found.1 := by
    intro wss hwss
    refine (Vec.guarded_applyUntil (S := Workspace.Rearranged) (p := fun _ => False)
      (fun ws hws => (hwss ws hws).rearranged_refl) fun ws hws => ?_).mono fun found hf => hf.1
    simp only [guarded_bind, guarded_pure]
    exact (Workspace.descendantsAdded_rearranged (hwss ws hws) id).guarded.mono
      fun _ hws' => ⟨hws', False.elim⟩
  unfold descendantsAdded
  refine guarded_true.mp ?_
  cases hset : l.monitorSet with
  | noOutputs wss =>
    have hdetached := detached_of_noOutputs hset
    simp only [guarded_bind, guarded_pure]
    exact (hadd wss (hdetached ▸ h.detached)).mono fun found hre => h.kept_rearranged hset hre
  | normal ms p a =>
    have hmonitors := monitors_of_normal hset
    have hms : ∀ m ∈ ms, m.Sound := hmonitors ▸ h.monitors
    simp only [guarded_bind, guarded_pure]
    refine (Vec.guarded_applyUntil (S := Monitor.Kept c r []) (p := fun _ => False)
      (fun m hm => (hms m hm).kept_refl) fun m hm => ?_).mono fun found hf =>
        h.kept_forall₂ hset hf.1 fun _ hl => (hl.indices _ _ _ hset).2
    simp only [guarded_bind, guarded_pure]
    exact (hadd m.workspaces fun ws hws => ((hms m hm).workspaces ws hws).1).mono fun found hre =>
      ⟨((hms m hm).steady_forall₂ hre).kept.weaken (fun _ => trivial) fun hr => hr, False.elim⟩

theorem updateWindow_kept (h : l.Sound) (window : Id) (serial : Option ℕ) :
    Returns (l.updateWindow window serial) (Kept c r [] l) := by
  unfold updateWindow
  cases hmoved : l.moved.filter fun data => data.tile.windowId = window with
  | some data =>
    obtain ⟨hdata, -⟩ := Option.filter_eq_some_iff.mp hmoved
    refine returns_pure.mpr (h.kept_moving hdata ?_)
    exact Held.windowId_change
      (.tile ⟨data.tile, data.width, data.isFullWidth, data.isFloating⟩) (.update serial)
  | none =>
    exact guarded_true.mp (onWorkspaceOf_kept h fun ws _ hwf =>
      ((Workspace.updateWindow_rearranged hwf window serial).mono fun _ ht => ht.kept).guarded)

theorem interactiveResizeBegin_kept (h : l.Sound) (window : Id) (edges : ResizeEdge) :
    Returns (l.interactiveResizeBegin window edges) (Kept c r [] l) := by
  unfold interactiveResizeBegin
  refine guarded_true.mp (onWorkspaceOf_kept h fun ws _ hwf => ?_)
  simp only [guarded_bind, guarded_pure]
  exact ((Workspace.interactiveResizeBegin_rearranged hwf window edges).mono
    fun _ ht => ht.kept).guarded

theorem interactiveResizeUpdate_kept (h : l.Sound) (window : Id) (delta : Point) :
    Returns (l.interactiveResizeUpdate window delta) (Kept c r [] l) := by
  unfold interactiveResizeUpdate
  simp only [returns_ite, returns_pure]
  refine ⟨fun _ => .refl h, fun _ => guarded_true.mp (onWorkspaceOf_kept h fun ws _ hwf => ?_)⟩
  simp only [guarded_bind, guarded_pure]
  exact ((Workspace.interactiveResizeUpdate_rearranged hwf window delta).mono
    fun _ ht => ht.kept).guarded

theorem interactiveResizeEnd_kept (h : l.Sound) (window : Id) :
    Returns (l.interactiveResizeEnd window) (Kept c r [] l) := by
  unfold interactiveResizeEnd
  simp only [returns_ite, returns_pure]
  exact ⟨fun _ => .refl h, fun _ => guarded_true.mp (onWorkspaceOf_kept h fun ws _ hwf =>
    guarded_pure.mpr (Workspace.interactiveResizeEnd_rearranged hwf (some window)).kept)⟩

end Layout

end Sol
