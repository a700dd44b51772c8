import Sol.Monitors

/-!
# Windows that come to a workspace

A window is put on a workspace of a monitor, by an addition or by a move from
another workspace, and the workspace may be activated along with it.

* `Landed`: the window is on the workspace at `i`, and the workspace at `j` is
  active if one was activated;
* `Carried`: the same after the window was taken from another workspace.

The two indices differ where room is made for an empty workspace on top, which
nobody puts there.
-/

namespace Sol

open Panicking

namespace Monitor

variable {W Id : Type} [LayoutElement W Id] [DecidableEq Id] {m t : Monitor W Id}

/-! ### Landing -/

/-- The active window of the active workspace. -/
def activeWindowId (m : Monitor W Id) : Option Id :=
  m.workspaces[m.activeWorkspaceIdx]?.bind (·.activeId)

/-- A window came to the workspace at `i`; it is active there if `yes`, and the
workspace at `j` is active if `activates`. -/
structure Landed (m : Monitor W Id) (i j : ℕ) (window : Id) (yes activates : Bool)
    (t : Monitor W Id) : Prop where
  steady : Steady (activates = true → j < m.workspaces.length) [window] m t
  active_eq : t.activeWorkspaceIdx = if activates then j else m.activeWorkspaceIdx
  was_active : activates = true →
    m.activeWorkspaceIdx = j ∨ m.activeWorkspaceIdx < m.workspaces.length
  at_target : ∃ ws, t.workspaces[i]? = some ws ∧ window ∈ ws.windowIds ∧
    (yes = true → ws.activeId = some window)
  others : ∀ k, k ≠ i → t.workspaces[k]? = m.workspaces[k]?

/-- A window is added to the workspace at an index. -/
theorem onWorkspace_landed (h : m.Sound) (i j : ℕ) {window : Id} {yes : Bool}
    {f : Workspace W Id → Outcome (Workspace W Id)}
    (hf : ∀ ws, m.workspaces[i]? = some ws → ws.WellFormed → Returns (f ws)
      fun ws' => ws.Added window ws' ∧ (yes = true → ws'.activeId = some window)) :
    Guarded (i < m.workspaces.length) (m.onWorkspace i f) fun t =>
      Landed m i j window yes false t ∧ t.options = m.options := by
  unfold onWorkspace
  simp only [guarded_bind, Vec.guarded_apply, guarded_pure]
  refine ⟨fun ws hws => ?_, fun hi => hi⟩
  refine (hf ws hws (h.get hws).1).guarded.mono fun ws' hws' => ⟨?_, trivial⟩
  obtain ⟨hadded, hyes⟩ := hws'
  have hi : i < m.workspaces.length := (List.getElem?_eq_some_iff.mp hws).1
  have hperm : ws'.windowIds.Perm ([window] ++ ws.windowIds) := hadded.perm
  refine ⟨(h.replace hws ⟨hadded.wellFormed, hadded.output (h.get hws).2⟩ hadded.id_eq
    hperm).weaken fun _ => trivial, rfl, by simp, ⟨ws', ?_, hadded.perm.mem_iff.mpr List.mem_cons_self, hyes⟩,
    fun k hk => ?_⟩
  · exact List.getElem?_set_self hi
  · exact List.getElem?_set_ne (Ne.symm hk)

/-- Activation after landing. -/
theorem Landed.activated {i j : ℕ} {window : Id} {yes : Bool}
    (h : Landed m i j window yes false t) (clock : Clock) :
    Guarded (m.activeWorkspaceIdx < m.workspaces.length) (t.activateWorkspace clock j)
      (Landed m i j window yes true) := by
  have hguard : m.activeWorkspaceIdx < m.workspaces.length →
      t.activeWorkspaceIdx < t.workspaces.length := fun hm => by
    rw [h.active_eq, h.steady.length_eq]
    exact hm
  refine ((activateWorkspaceWithAnimConfig_spec clock j none).weaken hguard).mono fun u hu => ?_
  obtain ⟨hwas, previous, config, rfl⟩ := hu
  rw [h.active_eq, h.steady.length_eq] at hwas
  refine ⟨⟨h.steady.sound.reframe _ _ _ h.steady.sound.workspaces, h.steady.perm, h.steady.ids_eq,
    h.steady.output_eq, fun hj hm => ?_⟩, rfl, fun _ => hwas, h.at_target, h.others⟩
  have ht := h.steady.inRange (by simp) hm
  exact ht.activated (h.steady.length_eq ▸ hj rfl)

/-- A landed window and an activation that may follow. -/
theorem Landed.activateIf {i j : ℕ} {window : Id} {yes activates : Bool}
    (h : Landed m i j window yes false t) (clock : Clock) :
    Guarded (m.activeWorkspaceIdx < m.workspaces.length)
      (if activates = true then t.activateWorkspace clock j else pure t)
      (Landed m i j window yes activates) := by
  rw [guarded_ite]
  refine ⟨fun ha => ha ▸ h.activated clock, fun ha => guarded_pure.mpr ?_⟩
  rw [Bool.not_eq_true] at ha
  exact ha ▸ h

/-! ### Adding -/

/-- The workspace that a target means. -/
def targetIdx (m : Monitor W Id) : MonitorAddWindowTarget Id → Option ℕ
  | .auto => some m.activeWorkspaceIdx
  | .workspace id _ => m.workspaces.findIdx? fun ws => ws.id = id
  | .nextTo window => m.workspaces.findIdx? (·.hasWindow window)

omit [LayoutElement W Id] [DecidableEq Id] in
theorem lt_of_findIdx? {p : Workspace W Id → Bool} {i : ℕ}
    (h : m.workspaces.findIdx? p = some i) : i < m.workspaces.length :=
  (List.findIdx?_eq_some_iff_getElem.mp h).1

theorem resolveAddWindowTarget_spec (target : MonitorAddWindowTarget Id) :
    Guarded ((m.targetIdx target).isSome = true) (m.resolveAddWindowTarget target) fun r =>
      m.targetIdx target = some r.1 ∧ ∀ w, r.2 = .nextTo w → ∀ ws,
        m.workspaces[r.1]? = some ws → w ∈ ws.windowIds := by
  unfold resolveAddWindowTarget targetIdx
  cases target with
  | auto => simp
  | workspace id columnIdx =>
    simp only [guarded_bind, guarded_unwrap, guarded_pure]
    refine ⟨fun i hi => ⟨hi, ?_⟩, fun h => h⟩
    cases columnIdx <;> simp
  | nextTo window =>
    simp only [guarded_bind, guarded_unwrap, guarded_pure]
    refine ⟨fun i hi => ⟨hi, ?_⟩, fun h => h⟩
    rintro w ⟨⟩ ws hws
    obtain ⟨hlt, hhas, -⟩ := List.findIdx?_eq_some_iff_getElem.mp hi
    obtain rfl : m.workspaces[i] = ws := by simpa [hlt] using hws
    exact Workspace.hasWindow_iff.mp hhas

/-- A workspace without a name becomes the output's own with an added window. -/
theorem added_claimFor {ws ws' : Workspace W Id} {window : Id} {yes : Prop} (output : Output)
    (hadded : ws.Added window ws') (hactive : yes → ws'.activeId = some window) :
    ws.Added window (ws'.claimFor output) ∧ (yes → (ws'.claimFor output).activeId = some window) := by
  have hclaim := Workspace.claimFor_rearranged hadded.wellFormed output
  have hsame : (ws'.claimFor output).activeId = ws'.activeId := by
    unfold Workspace.claimFor
    split_ifs <;> rfl
  exact ⟨⟨hclaim.wellFormed, hclaim.perm.trans hadded.perm, hclaim.id_eq.trans hadded.id_eq,
    hclaim.name_eq.trans hadded.name_eq, hclaim.output ∘ hadded.output⟩,
    fun hyes => hsame ▸ hactive hyes⟩

theorem addTile_spec (h : m.Sound) (clock : Clock) (tile : Tile W)
    (target : MonitorAddWindowTarget Id) (activate : ActivateWindow) (allow : Bool)
    (width : ColumnWidth) (isFullWidth isFloating : Bool) :
    Guarded (m.activeWorkspaceIdx < m.workspaces.length ∧ (m.targetIdx target).isSome = true)
      (m.addTile clock tile target activate allow width isFullWidth isFloating) fun t =>
        ∃ i, m.targetIdx target = some i ∧ i < m.workspaces.length ∧
          Landed m i (m.belowTop i) tile.windowId (activate == .yes)
            (allow && activate.mapSmart false) t := by
  unfold addTile
  simp only [guarded_bind, padAround_eq]
  refine ((resolveAddWindowTarget_spec target).weaken And.right).mono fun r hr => ?_
  obtain ⟨hi, hnext⟩ := hr
  have hf : ∀ ws, m.workspaces[r.1]? = some ws → ws.WellFormed →
      Returns (ws.addTile tile r.2 activate width isFullWidth isFloating >>= fun ws =>
        pure (ws.claimFor m.output)) fun ws' => ws.Added tile.windowId ws' ∧
          ((activate == .yes) = true → ws'.activeId = some tile.windowId) := by
    intro ws hws hwf
    simp only [returns_bind, returns_pure]
    exact (Workspace.addTile_spec hwf tile (fun w hw => hnext w hw ws hws) activate width
      isFullWidth isFloating).mono fun ws' hadded =>
        added_claimFor m.output hadded.1 fun hyes => hadded.2 (by simpa using hyes)
  have hlt : m.activeWorkspaceIdx < m.workspaces.length ∧ (m.targetIdx target).isSome = true →
      r.1 < m.workspaces.length := by
    intro hm
    cases target with
    | auto => exact Option.some.inj hi ▸ hm.1
    | workspace id columnIdx => exact lt_of_findIdx? hi
    | nextTo window => exact lt_of_findIdx? hi
  refine ((onWorkspace_landed h r.1 (m.belowTop r.1) hf).weaken hlt).mono fun t hlanded => ?_
  obtain ⟨ht, hoptions⟩ := hlanded
  have hj : t.belowTop r.1 = m.belowTop r.1 := by
    unfold belowTop
    rw [hoptions]
  obtain ⟨ws, hws, -⟩ := ht.at_target
  have hr : r.1 < m.workspaces.length :=
    ht.steady.length_eq ▸ (List.getElem?_eq_some_iff.mp hws).1
  rw [hj]
  exact ((ht.activateIf clock).weaken And.left).mono fun u hu => ⟨r.1, hi, hr, hu⟩

theorem addWindow_spec (h : m.Sound) (clock : Clock) (window : W)
    (target : MonitorAddWindowTarget Id) (activate : ActivateWindow) (width : ColumnWidth)
    (isFullWidth isFloating : Bool) :
    Guarded (m.activeWorkspaceIdx < m.workspaces.length ∧ (m.targetIdx target).isSome = true)
      (m.addWindow clock window target activate width isFullWidth isFloating) fun t =>
        ∃ i, m.targetIdx target = some i ∧ i < m.workspaces.length ∧
          Landed m i (m.belowTop i) (LayoutElement.id window) (activate == .yes)
            (activate.mapSmart false) t := by
  unfold addWindow
  simp only [guarded_bind, Vec.guarded_get]
  refine ⟨fun first _ => ?_, fun hm => Nat.lt_of_le_of_lt (Nat.zero_le _) hm.1⟩
  exact addTile_spec h clock (first.makeTile window) target activate true width isFullWidth isFloating

theorem addColumn_spec (h : m.Sound) (clock : Clock) (i : ℕ) (column : Column W) (activate : Bool) :
    Guarded (m.activeWorkspaceIdx < m.workspaces.length ∧ i < m.workspaces.length)
      (m.addColumn clock i column activate)
        (Landed m i (m.belowTop i) column.windowId activate activate) := by
  unfold addColumn
  simp only [guarded_bind, padAround_eq]
  have hf : ∀ ws, m.workspaces[i]? = some ws → ws.WellFormed →
      Returns (pure ((ws.addColumn column activate).claimFor m.output)) fun ws' =>
        ws.Added column.windowId ws' ∧ (activate = true → ws'.activeId = some column.windowId) := by
    intro ws _ hwf
    have hadded := Workspace.addColumn_spec hwf column activate
    exact returns_pure.mpr (added_claimFor m.output hadded.1 hadded.2)
  refine ((onWorkspace_landed h i (m.belowTop i) hf).weaken And.right).mono fun t hlanded => ?_
  obtain ⟨ht, hoptions⟩ := hlanded
  have hj : t.belowTop i = m.belowTop i := by
    unfold belowTop
    rw [hoptions]
  rw [hj]
  exact (ht.activateIf clock).weaken And.left

/-- Next to a column there is no room to be made. -/
theorem addTileToColumn_spec (h : m.Sound) (clock : Clock) (i : ℕ) (tile : Tile W)
    (activate allow : Bool) :
    Guarded (m.activeWorkspaceIdx < m.workspaces.length ∧ i < m.workspaces.length)
      (m.addTileToColumn clock i tile activate allow)
        (Landed m i i tile.windowId activate (allow && activate)) := by
  unfold addTileToColumn
  simp only [guarded_bind]
  have hf : ∀ ws, m.workspaces[i]? = some ws → ws.WellFormed →
      Returns (pure ((ws.addTileToColumn tile activate).claimFor m.output)) fun ws' =>
        ws.Added tile.windowId ws' ∧ (activate = true → ws'.activeId = some tile.windowId) := by
    intro ws _ hwf
    have hadded := Workspace.addTileToColumn_spec hwf tile activate
    exact returns_pure.mpr (added_claimFor m.output hadded.1 hadded.2)
  exact ((onWorkspace_landed h i i hf).weaken And.right).mono
    fun t ht => (ht.1.activateIf clock).weaken And.left

/-! ### Moving between workspaces -/

/-- A window was taken from the workspace at `source` and landed. -/
structure Carried (m : Monitor W Id) (source i j : ℕ) (window : Id) (yes activates : Bool)
    (t : Monitor W Id) : Prop where
  from_source : ∃ ws ws', m.workspaces[source]? = some ws ∧ ws.Removed window ws' ∧
    Landed { m with workspaces := m.workspaces.set source ws' } i j window yes activates t

/-- A move keeps the windows and the row of workspaces. -/
theorem Carried.steady (h : m.Sound) {source i j : ℕ} {window : Id} {yes activates : Bool}
    (hc : Carried m source i j window yes activates t) :
    Steady (activates = true → j < m.workspaces.length) [] m t := by
  obtain ⟨ws, ws', hws, hr, hland⟩ := hc.from_source
  obtain ⟨-, hperm, hids⟩ := h.replace_removed hws hr
  refine ⟨hland.steady.sound, hland.steady.perm.trans hperm.symm, hland.steady.ids_eq.trans hids,
    hland.steady.output_eq, fun hj hm => hland.steady.inRange ?_ ⟨?_, fun g hg => ?_⟩⟩
  · simpa using hj
  · simpa using hm.active
  · simpa using hm.center g hg

omit [LayoutElement W Id] [DecidableEq Id] in
theorem set_self {i : ℕ} {ws : Workspace W Id} (hws : m.workspaces[i]? = some ws) :
    { m with workspaces := m.workspaces.set i ws } = m := by
  obtain ⟨hi, rfl⟩ := List.getElem?_eq_some_iff.mp hws
  rw [List.set_getElem_self]

omit [LayoutElement W Id] [DecidableEq Id] in
theorem findIdx?_id {k : ℕ} {ws : Workspace W Id} (hws : m.workspaces[k]? = some ws) :
    ∃ i, (m.workspaces.findIdx? fun u => u.id = ws.id) = some i ∧ i < m.workspaces.length := by
  have hsome : (m.workspaces.findIdx? fun u => decide (u.id = ws.id)).isSome = true := by
    rw [List.findIdx?_isSome, List.any_eq_true]
    exact ⟨ws, List.mem_of_getElem? hws, by simp⟩
  obtain ⟨i, hi⟩ := Option.isSome_iff_exists.mp hsome
  exact ⟨i, hi, lt_of_findIdx? hi⟩

/-- What was taken out of the workspace at `source` comes to the workspace with an id. -/
theorem addRemoved_carried (h : m.Sound) (clock : Clock) {source k : ℕ} {ws ws' new : Workspace W Id}
    {removed : RemovedTile W} {window : Id} (hws : m.workspaces[source]? = some ws)
    (hnew : m.workspaces[k]? = some new) (hwindow : removed.tile.windowId = window)
    (hr : ws.Removed window ws') (activate : ActivateWindow) :
    Guarded (m.activeWorkspaceIdx < m.workspaces.length)
      (addRemoved { m with workspaces := m.workspaces.set source ws' } clock removed new.id activate)
      fun t => ∃ i, (m.workspaces.findIdx? fun u => u.id = new.id) = some i ∧
        Carried m source i (m.belowTop i) window (activate == .yes) (activate.mapSmart false) t := by
  obtain ⟨hsound, -, hids⟩ := h.replace_removed hws hr
  -- the ids are as before, and so the workspace is found where it was
  have hfind : ((m.workspaces.set source ws').findIdx? fun u => decide (u.id = new.id)) =
      m.workspaces.findIdx? fun u => u.id = new.id := by
    have := congrArg (List.findIdx? fun i => decide (i = new.id)) hids
    simpa only [workspaceIds, List.findIdx?_map, Function.comp_def] using this
  unfold addRemoved
  refine ((addTile_spec hsound clock removed.tile (.workspace new.id none) activate true
    removed.width removed.isFullWidth removed.isFloating).weaken fun hm => ?_).mono fun t ht => ?_
  · obtain ⟨i, hi, -⟩ := findIdx?_id hnew
    refine ⟨by simpa using hm, ?_⟩
    simp only [targetIdx]
    rw [hfind, hi]
    rfl
  · obtain ⟨i, hi, -, hland⟩ := ht
    refine ⟨i, hfind ▸ hi, ⟨ws, ws', hws, hr, ?_⟩⟩
    rw [hwindow] at hland
    exact hland

omit [LayoutElement W Id] [DecidableEq Id] in
/-- Where no id occurs twice, a workspace is found where it is. -/
theorem findIdx?_eq_of_nodup (hids : m.workspaceIds.Nodup) {k i : ℕ} {new : Workspace W Id}
    (hk : m.workspaces[k]? = some new)
    (hi : (m.workspaces.findIdx? fun u => decide (u.id = new.id)) = some i) : i = k := by
  obtain ⟨hlt, hid, -⟩ := List.findIdx?_eq_some_iff_getElem.mp hi
  obtain ⟨hklt, rfl⟩ := List.getElem?_eq_some_iff.mp hk
  rw [decide_eq_true_eq] at hid
  have hi : i < m.workspaceIds.length := by simpa [workspaceIds] using hlt
  have hk : k < m.workspaceIds.length := by simpa [workspaceIds] using hklt
  have heq : m.workspaceIds[i] = m.workspaceIds[k] := by simpa [workspaceIds] using hid
  exact hids.getElem_inj_iff.mp heq

/-- The window, if there is one, moved from one workspace to another. -/
def Moved (m : Monitor W Id) (source newIdx : ℕ) (window : Option Id) (focus : Bool)
    (t : Monitor W Id) : Prop :=
  (t = m ∧ (newIdx ≠ source → window = none)) ∨
    ∃ i w, newIdx ≠ source ∧ newIdx < m.workspaces.length ∧ (m.workspaceIds.Nodup → i = newIdx) ∧
      window = some w ∧ Carried m source i (m.belowTop i) w focus focus t

/-- A move takes two workspaces, and so the index below the top is in range. -/
theorem Moved.steady (h : m.Sound) {source newIdx : ℕ} {window : Option Id} {focus : Bool}
    (hmoved : Moved m source newIdx window focus t) : Steady True [] m t := by
  rcases hmoved with ⟨rfl, -⟩ | ⟨i, w, hne, hnew, -, -, hc⟩
  · exact h.steady_refl
  · have hsteady := hc.steady h
    obtain ⟨ws, ws', hws, hr, hland⟩ := hc.from_source
    have hsource : source < m.workspaces.length := (List.getElem?_eq_some_iff.mp hws).1
    obtain ⟨u, hu, -⟩ := hland.at_target
    have hi : i < m.workspaces.length :=
      hsteady.length_eq ▸ (List.getElem?_eq_some_iff.mp hu).1
    exact hsteady.weaken fun _ _ => belowTop_lt hi (by omega)

/-- The move of the active window, if there is one, to the workspace at another index. -/
theorem moveActiveTile_spec (h : m.Sound) (clock : Clock) (newIdx : ℕ) (focus : Bool) :
    Guarded (m.activeWorkspaceIdx < m.workspaces.length ∧ newIdx < m.workspaces.length)
      (m.moveActiveTile clock newIdx (if focus then .yes else .smart))
        (Moved m m.activeWorkspaceIdx newIdx m.activeWindowId focus) := by
  unfold moveActiveTile
  simp only [guarded_ite, guarded_bind, guarded_pure, Vec.guarded_get, Vec.guarded_update]
  refine ⟨fun heq => .inl ⟨rfl, fun hne => absurd heq hne⟩, fun hne =>
    ⟨fun new hnew => ⟨fun ws hws => ?_, And.left⟩, And.right⟩⟩
  have hactive : m.activeWindowId = ws.activeId := by
    rw [activeWindowId, hws, Option.bind_some]
  refine (Workspace.removeActiveTile_spec (h.get hws).1 clock).guarded.mono fun r hr => ?_
  rcases hr with ⟨rfl, hempty⟩ | ⟨removed, hsome, hwindow, hr⟩
  · refine guarded_pure.mpr (.inl ⟨set_self hws, fun _ => ?_⟩)
    by_contra hne
    obtain ⟨window, hwindow⟩ := Option.ne_none_iff_exists'.mp hne
    have := Workspace.activeId_mem (h.get hws).1 (hactive ▸ hwindow)
    simp [hempty] at this
  · obtain ⟨o, ws'⟩ := r
    obtain rfl : o = some removed := hsome
    refine ((addRemoved_carried h clock hws hnew rfl hr _).weaken And.left).mono fun t ht => ?_
    obtain ⟨i, hi, hc⟩ := ht
    refine .inr ⟨i, _, hne, (List.getElem?_eq_some_iff.mp hnew).1,
      fun hids => findIdx?_eq_of_nodup hids hnew hi, hactive.trans hwindow, ?_⟩
    cases focus <;> exact hc

theorem moveToWorkspaceUp_spec (h : m.Sound) (clock : Clock) (focus : Bool) :
    Guarded (m.activeWorkspaceIdx < m.workspaces.length) (m.moveToWorkspaceUp clock focus)
      (Moved m m.activeWorkspaceIdx (m.activeWorkspaceIdx - 1) m.activeWindowId focus) :=
  (moveActiveTile_spec h clock _ focus).weaken fun hm => ⟨hm, by omega⟩

theorem moveToWorkspaceDown_spec (h : m.Sound) (clock : Clock) (focus : Bool) :
    Guarded (m.activeWorkspaceIdx < m.workspaces.length) (m.moveToWorkspaceDown clock focus)
      (Moved m m.activeWorkspaceIdx (min (m.activeWorkspaceIdx + 1) (m.workspaces.length - 1))
        m.activeWindowId focus) := by
  unfold moveToWorkspaceDown
  simp only [guarded_bind, guarded_checkedSub]
  exact ⟨fun _ => (moveActiveTile_spec h clock _ focus).weaken fun hm => ⟨hm, by omega⟩,
    fun hm => by omega⟩

/-! ### Moving to a workspace -/

/-- The workspace from which a window, or else the active window, moves. -/
def sourceIdx (m : Monitor W Id) : Option Id → Option ℕ
  | some window => m.workspaces.findIdx? (·.hasWindow window)
  | none => some m.activeWorkspaceIdx

/-- Whether the view follows a window that moves. -/
def follows (m : Monitor W Id) (window : Option Id) : ActivateWindow → Bool
  | .yes => true
  | .no => false
  | .smart => window.isNone || decide (m.activeWindowId = window)

theorem findIdx?_hasWindow {window : Id} (hw : window ∈ m.windowIds) :
    ∃ i, m.workspaces.findIdx? (·.hasWindow window) = some i := by
  obtain ⟨ws, hws, hmem⟩ := List.mem_flatMap.mp hw
  refine Option.isSome_iff_exists.mp ?_
  rw [List.findIdx?_isSome, List.any_eq_true]
  exact ⟨ws, hws, Workspace.hasWindow_iff.mpr hmem⟩

theorem sourceWorkspaceIdx_spec (window : Option Id) :
    Guarded (∀ w ∈ window, w ∈ m.windowIds) (m.sourceWorkspaceIdx window) fun source =>
      m.sourceIdx window = some source ∧
        ∀ w ∈ window, ∀ ws, m.workspaces[source]? = some ws → w ∈ ws.windowIds := by
  unfold sourceWorkspaceIdx sourceIdx
  cases window with
  | none => simp
  | some window =>
    simp only [guarded_unwrap, Option.mem_some_iff, forall_eq']
    refine ⟨fun i hi => ⟨hi, fun ws hws => ?_⟩, fun hw => ?_⟩
    · obtain ⟨hlt, hhas, -⟩ := List.findIdx?_eq_some_iff_getElem.mp hi
      obtain rfl : m.workspaces[i] = ws := by simpa [hlt] using hws
      exact Workspace.hasWindow_iff.mp hhas
    · obtain ⟨i, hi⟩ := findIdx?_hasWindow hw
      rw [hi]
      rfl

theorem followsMoved_spec (window : Option Id) (activate : ActivateWindow) :
    Guarded (m.activeWorkspaceIdx < m.workspaces.length) (m.followsMoved window activate)
      fun follow => follow = m.follows window activate := by
  unfold followsMoved follows
  cases activate with
  | yes => simp
  | no => simp
  | smart =>
    cases window with
    | none => simp
    | some window =>
      simp only [activeWindow, activeWorkspaceRef, guarded_bind, Vec.guarded_get, guarded_pure]
      refine ⟨fun ws hws => ?_, fun hm => hm⟩
      rw [activeWindowId, hws]
      simp [Workspace.activeId]

theorem takeTile_spec {ws : Workspace W Id} (hws : ws.WellFormed) (clock : Clock)
    {window : Option Id} (hw : ∀ w ∈ window, w ∈ ws.windowIds) :
    Returns (takeTile clock window ws) fun r =>
      (r = (none, ws) ∧ window.or ws.activeId = none) ∨
        ∃ removed, r.1 = some removed ∧ window.or ws.activeId = some removed.tile.windowId ∧
          ws.Removed removed.tile.windowId r.2 := by
  unfold takeTile
  cases window with
  | none =>
    refine (Workspace.removeActiveTile_spec hws clock).mono fun r hr => ?_
    rcases hr with ⟨rfl, hempty⟩ | hr
    · refine .inl ⟨rfl, ?_⟩
      rw [Option.none_or]
      by_contra hne
      obtain ⟨id, hid⟩ := Option.ne_none_iff_exists'.mp hne
      have := Workspace.activeId_mem hws hid
      simp [hempty] at this
    · exact .inr hr
  | some window =>
    simp only [returns_bind, returns_pure]
    refine (Workspace.removeTile_spec hws clock (hw window rfl)).mono fun r hr => ?_
    refine .inr ⟨r.1, rfl, ?_, hr.1 ▸ hr.2⟩
    rw [hr.1, Option.some_or]

theorem moveToWorkspace_spec (h : m.Sound) (clock : Clock) (window : Option Id) (idx : ℕ)
    (activate : ActivateWindow) :
    Guarded (m.activeWorkspaceIdx < m.workspaces.length ∧ ∀ w ∈ window, w ∈ m.windowIds)
      (m.moveToWorkspace clock window idx activate) fun t => ∃ source,
        m.sourceIdx window = some source ∧
          Moved m source (min idx (m.workspaces.length - 1)) (window.or m.activeWindowId)
            (m.follows window activate) t := by
  unfold moveToWorkspace
  simp only [guarded_bind, guarded_checkedSub, guarded_ite, guarded_pure, Vec.guarded_get,
    Vec.guarded_update]
  refine ((sourceWorkspaceIdx_spec window).weaken And.right).mono fun source hfound => ?_
  obtain ⟨hsource, hmem⟩ := hfound
  refine ⟨fun hlen => ⟨fun heq => ⟨source, hsource, .inl ⟨rfl, fun hne => absurd heq hne⟩⟩,
    fun hne => ⟨fun new hnew => ?_, fun _ => by omega⟩⟩, fun hm => by omega⟩
  refine ((followsMoved_spec window activate).weaken And.left).mono fun follow hfollow => ?_
  subst hfollow
  have hsource_lt : m.activeWorkspaceIdx < m.workspaces.length → source < m.workspaces.length := by
    intro hm
    cases window with
    | none => exact Option.some.inj hsource ▸ hm
    | some window => exact lt_of_findIdx? hsource
  refine ⟨fun ws hws => ?_, fun hm => hsource_lt hm.1⟩
  -- without a window given, the source is the active workspace
  have hwindow : window.or m.activeWindowId = window.or ws.activeId := by
    cases window with
    | some window => rfl
    | none =>
      obtain rfl : m.activeWorkspaceIdx = source := Option.some.inj hsource
      rw [activeWindowId, hws, Option.bind_some]
  refine (takeTile_spec (h.get hws).1 clock fun w hw => hmem w hw ws hws).guarded.mono fun r hr => ?_
  rcases hr with ⟨rfl, hnone⟩ | ⟨removed, hsome, hactive, hr⟩
  · exact guarded_pure.mpr ⟨source, hsource, .inl ⟨set_self hws, fun _ => hwindow.trans hnone⟩⟩
  · obtain ⟨o, ws'⟩ := r
    obtain rfl : o = some removed := hsome
    simp only [guarded_bind, cleanUpIfStill_eq, guarded_ok]
    refine ((addRemoved_carried h clock hws hnew rfl hr _).weaken And.left).mono fun t ht => ?_
    obtain ⟨i, hi, hc⟩ := ht
    refine ⟨source, hsource, .inr ⟨i, _, hne, (List.getElem?_eq_some_iff.mp hnew).1,
      fun hids => findIdx?_eq_of_nodup hids hnew hi, hwindow.trans hactive, ?_⟩⟩
    generalize m.follows window activate = focus at hc ⊢
    cases focus <;> exact hc

/-! ### Moving columns -/

/-- The active column moves as the active window does. -/
theorem moveActiveColumn_spec (h : m.Sound) (clock : Clock) (newIdx : ℕ) (activate : Bool)
    {moveFloating : Outcome (Monitor W Id)}
    (hfloating : Guarded (m.activeWorkspaceIdx < m.workspaces.length) moveFloating
      (Moved m m.activeWorkspaceIdx newIdx m.activeWindowId activate)) :
    Guarded (m.activeWorkspaceIdx < m.workspaces.length ∧ newIdx < m.workspaces.length)
      (m.moveActiveColumn clock newIdx activate moveFloating)
        (Moved m m.activeWorkspaceIdx newIdx m.activeWindowId activate) := by
  unfold moveActiveColumn activeWorkspaceRef
  simp only [guarded_ite, guarded_bind, guarded_pure, Vec.guarded_get, Vec.guarded_update]
  refine ⟨fun heq => .inl ⟨rfl, fun hne => absurd heq hne⟩, fun hne => ⟨fun active hactive =>
    ⟨fun _ => hfloating.weaken And.left, fun hget => ⟨fun ws hws => ?_, And.left⟩⟩, And.left⟩⟩
  obtain rfl : active = ws := Option.some.inj (hactive.symm.trans hws)
  have hwindow : m.activeWindowId = active.activeId := by
    rw [activeWindowId, hws, Option.bind_some]
  refine (Workspace.removeActiveColumn_spec (h.get hws).1 clock).guarded.mono fun r hr => ?_
  rcases hr with ⟨rfl, hnone⟩ | ⟨column, hsome, hcolumn, hr⟩
  · exact guarded_pure.mpr (.inl ⟨set_self hws, fun _ =>
      hwindow.trans (hnone fun hyes => hget (Workspace.get_iff.mpr hyes))⟩)
  · obtain ⟨o, ws'⟩ := r
    obtain rfl : o = some column := hsome
    obtain ⟨hsound, -, -⟩ := h.replace_removed hws hr
    refine ((addColumn_spec hsound clock newIdx column activate).weaken fun hm => by simpa using hm).mono
      fun t hland => .inr ⟨newIdx, _, hne, ?_, fun _ => rfl, hwindow.trans hcolumn,
        ⟨active, ws', hws, hr, hland⟩⟩
    obtain ⟨u, hu, -⟩ := hland.at_target
    simpa [hland.steady.length_eq] using (List.getElem?_eq_some_iff.mp hu).1

theorem moveColumnToWorkspaceUp_spec (h : m.Sound) (clock : Clock) (activate : Bool) :
    Guarded (m.activeWorkspaceIdx < m.workspaces.length) (m.moveColumnToWorkspaceUp clock activate)
      (Moved m m.activeWorkspaceIdx (m.activeWorkspaceIdx - 1) m.activeWindowId activate) :=
  (moveActiveColumn_spec h clock _ activate (moveToWorkspaceUp_spec h clock activate)).weaken
    fun hm => ⟨hm, by omega⟩

theorem moveColumnToWorkspaceDown_spec (h : m.Sound) (clock : Clock) (activate : Bool) :
    Guarded (m.activeWorkspaceIdx < m.workspaces.length)
      (m.moveColumnToWorkspaceDown clock activate)
        (Moved m m.activeWorkspaceIdx (min (m.activeWorkspaceIdx + 1) (m.workspaces.length - 1))
          m.activeWindowId activate) := by
  unfold moveColumnToWorkspaceDown
  simp only [guarded_bind, guarded_checkedSub]
  exact ⟨fun _ => (moveActiveColumn_spec h clock _ activate
    (moveToWorkspaceDown_spec h clock activate)).weaken fun hm => ⟨hm, by omega⟩, fun hm => by omega⟩

theorem moveColumnToWorkspace_spec (h : m.Sound) (clock : Clock) (idx : ℕ) (activate : Bool) :
    Guarded (m.activeWorkspaceIdx < m.workspaces.length)
      (m.moveColumnToWorkspace clock idx activate)
        (Moved m m.activeWorkspaceIdx (min idx (m.workspaces.length - 1)) m.activeWindowId
          activate) := by
  unfold moveColumnToWorkspace
  simp only [guarded_bind, guarded_checkedSub]
  refine ⟨fun _ => (moveActiveColumn_spec h clock _ activate ?_).weaken fun hm => ⟨hm, by omega⟩,
    fun hm => by omega⟩
  refine ((moveToWorkspace_spec h clock none idx _).weaken fun hm => ⟨hm, by simp⟩).mono
    fun t ht => ?_
  obtain ⟨source, hsource, hmoved⟩ := ht
  obtain rfl : m.activeWorkspaceIdx = source := Option.some.inj hsource
  cases activate <;> exact hmoved

/-! ### Within the workspace or to the next -/

omit [DecidableEq Id] in
theorem orElse_steady (h : m.Sound) {first : Workspace W Id → Outcome (Workspace W Id × Bool)}
    {second : Monitor W Id → Outcome (Monitor W Id)}
    (hfirst : ∀ ws : Workspace W Id, ws.WellFormed → Returns (first ws) fun r => ws.Rearranged r.1)
    (hsecond : ∀ u : Monitor W Id, u.Sound →
      Guarded u.InRange (second u) fun t => Steady True [] u t) :
    Guarded m.InRange (m.orElse first second) fun t => Steady True [] m t := by
  unfold orElse
  simp only [guarded_bind, guarded_pure, guarded_ite, Vec.guarded_update]
  refine ⟨fun ws hws => ?_, fun hm => hm.active⟩
  refine (hfirst ws (h.get hws).1).guarded.mono fun r hr => ?_
  have hsteady := h.replace_rearranged hws hr
  refine ⟨fun _ => hsteady, fun _ => ?_⟩
  exact ((hsecond _ hsteady.sound).weaken (hsteady.inRange trivial)).mono fun t ht => hsteady.then ht

theorem moveDownOrToWorkspaceDown_steady (h : m.Sound) (clock : Clock) :
    Guarded m.InRange (m.moveDownOrToWorkspaceDown clock) fun t => Steady True [] m t :=
  orElse_steady h (fun _ hws => Workspace.moveTowards_rearranged hws clock .down) fun _ hu =>
    ((moveToWorkspaceDown_spec hu clock true).weaken (·.active)).mono fun _ ht => ht.steady hu

theorem moveUpOrToWorkspaceUp_steady (h : m.Sound) (clock : Clock) :
    Guarded m.InRange (m.moveUpOrToWorkspaceUp clock) fun t => Steady True [] m t :=
  orElse_steady h (fun _ hws => Workspace.moveTowards_rearranged hws clock .up) fun _ hu =>
    ((moveToWorkspaceUp_spec hu clock true).weaken (·.active)).mono fun _ ht => ht.steady hu

theorem focusWindowOrWorkspaceDown_steady (h : m.Sound) (clock : Clock) :
    Guarded m.InRange (m.focusWindowOrWorkspaceDown clock) fun t => Steady True [] m t :=
  orElse_steady h (fun _ hws => Workspace.focusTowards_rearranged hws .down) fun _ hu =>
    switchWorkspaceDown_steady hu clock

theorem focusWindowOrWorkspaceUp_steady (h : m.Sound) (clock : Clock) :
    Guarded m.InRange (m.focusWindowOrWorkspaceUp clock) fun t => Steady True [] m t :=
  orElse_steady h (fun _ hws => Workspace.focusTowards_rearranged hws .up) fun _ hu =>
    switchWorkspaceUp_steady hu clock

end Monitor

end Sol
