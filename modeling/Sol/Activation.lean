import Sol.Landing
import Sol.SampleSpace
import Sol.WorkspaceRow

/-!
# Activation along with a window

The operations that put a window on a workspace and activate it there should end
with that workspace active.  They look for the workspace below an empty one on
top if room for one is wanted, and none is there: the workspace below is
activated instead.  `activating_iff` says exactly when it goes well.
-/

namespace Sol

open Panicking

namespace Monitor

variable {W Id : Type}

/-- The operations that put a window on a workspace, with activation. -/
inductive Activating (W Id : Type)
  | addTile (tile : Tile W) (target : MonitorAddWindowTarget Id) (width : ColumnWidth)
    (isFullWidth isFloating : Bool)
  | addColumn (workspaceIdx : ℕ) (column : Column W)
  | addTileToColumn (workspaceIdx : ℕ) (tile : Tile W)
  | moveToWorkspaceUp
  | moveToWorkspaceDown
  | moveToWorkspace (window : Option Id) (idx : ℕ) (activate : ActivateWindow)
  | moveColumnToWorkspaceUp
  | moveColumnToWorkspaceDown
  | moveColumnToWorkspace (idx : ℕ)

variable [LayoutElement W Id] [DecidableEq Id] {m t : Monitor W Id}

def activating (m : Monitor W Id) (clock : Clock) : Activating W Id → Outcome (Monitor W Id)
  | .addTile tile target width isFullWidth isFloating =>
    m.addTile clock tile target .yes true width isFullWidth isFloating
  | .addColumn workspaceIdx column => m.addColumn clock workspaceIdx column true
  | .addTileToColumn workspaceIdx tile => m.addTileToColumn clock workspaceIdx tile true true
  | .moveToWorkspaceUp => m.moveToWorkspaceUp clock true
  | .moveToWorkspaceDown => m.moveToWorkspaceDown clock true
  | .moveToWorkspace window idx activate => m.moveToWorkspace clock window idx activate
  | .moveColumnToWorkspaceUp => m.moveColumnToWorkspaceUp clock true
  | .moveColumnToWorkspaceDown => m.moveColumnToWorkspaceDown clock true
  | .moveColumnToWorkspace idx => m.moveColumnToWorkspace clock idx true

/-- A window that moves to another workspace, and the index of that one. -/
def movedTo (source : Option ℕ) (newIdx : ℕ) (window : Option Id) : Option (Id × ℕ) :=
  source.bind fun source => if newIdx = source then none else window.map (·, newIdx)

/-- The window that an operation puts on another workspace, and its index. -/
def puts (m : Monitor W Id) : Activating W Id → Option (Id × ℕ)
  | .addTile tile target _ _ _ => (m.targetIdx target).map (tile.windowId, ·)
  | .addColumn idx column => if idx < m.workspaces.length then some (column.windowId, idx) else none
  | .addTileToColumn idx tile => if idx < m.workspaces.length then some (tile.windowId, idx) else none
  | .moveToWorkspaceUp | .moveColumnToWorkspaceUp =>
    movedTo (some m.activeWorkspaceIdx) (m.activeWorkspaceIdx - 1) m.activeWindowId
  | .moveToWorkspaceDown | .moveColumnToWorkspaceDown =>
    movedTo (some m.activeWorkspaceIdx) (min (m.activeWorkspaceIdx + 1) (m.workspaces.length - 1))
      m.activeWindowId
  | .moveToWorkspace window idx activate =>
    if m.follows window activate then
      movedTo (m.sourceIdx window) (min idx (m.workspaces.length - 1)) (window.or m.activeWindowId)
    else none
  | .moveColumnToWorkspace idx =>
    movedTo (some m.activeWorkspaceIdx) (min idx (m.workspaces.length - 1)) m.activeWindowId

/-- An added window is a new one. -/
def Activating.Admissible (m : Monitor W Id) : Activating W Id → Prop
  | addTile tile _ _ _ _ => tile.windowId ∉ m.windowIds
  | addColumn _ column => column.windowId ∉ m.windowIds
  | addTileToColumn _ tile => tile.windowId ∉ m.windowIds
  | _ => True

/-- Whether no room is to be made for a workspace on top. -/
def Activating.besideColumn : Activating W Id → Bool
  | addTileToColumn _ _ => true
  | _ => false

/-- The active workspace is the one that has the window, and it is active there. -/
def ActiveOn (window : Id) (t : Monitor W Id) : Prop :=
  ∃ ws, t.workspaces[t.activeWorkspaceIdx]? = some ws ∧ window ∈ ws.windowIds ∧
    ws.activeId = some window

/-! ### Where a window can be -/

/-- The landed window is active if the index that is activated is its own. -/
theorem Landed.activeOn_iff {i j : ℕ} {window : Id} (hland : Landed m i j window true true t)
    (hnodup : (window :: m.windowIds).Nodup) : t.ActiveOn window ↔ j = i := by
  have hactive : t.activeWorkspaceIdx = j := hland.active_eq
  obtain ⟨ws, hws, hmem, hyes⟩ := hland.at_target
  have ht : t.windowIds.Nodup := hland.steady.perm.nodup_iff.mpr hnodup
  unfold ActiveOn
  rw [hactive]
  constructor
  · rintro ⟨u, hu, hmemu, -⟩
    exact Vec.index_unique ht hu hws hmemu hmem
  · rintro rfl
    exact ⟨ws, hws, hmem, hyes rfl⟩

/-- A window was put on the workspace at `target`, and the one at `j` activated. -/
structure PutOn (m : Monitor W Id) (window : Id) (target j : ℕ) (t : Monitor W Id) : Prop where
  activeOn_iff : t.ActiveOn window ↔ j = target
  target_lt : target < m.workspaces.length
  was_active : m.activeWorkspaceIdx = j ∨ m.activeWorkspaceIdx < m.workspaces.length

theorem Landed.putOn {i j : ℕ} {window : Id} (hland : Landed m i j window true true t)
    (hnodup : m.windowIds.Nodup) (hnew : window ∉ m.windowIds) : PutOn m window i j t := by
  obtain ⟨ws, hws, -⟩ := hland.at_target
  exact ⟨hland.activeOn_iff (List.nodup_cons.mpr ⟨hnew, hnodup⟩),
    hland.steady.length_eq ▸ (List.getElem?_eq_some_iff.mp hws).1, hland.was_active rfl⟩

theorem Moved.putOn (h : m.Sound) (hids : m.workspaceIds.Nodup) (hnodup : m.windowIds.Nodup)
    {source newIdx target : ℕ} {window : Option Id} {w : Id}
    (hmoved : Moved m source newIdx window true t)
    (hputs : movedTo (some source) newIdx window = some (w, target)) :
    PutOn m w target (m.belowTop target) t := by
  have hne : newIdx ≠ source := by
    rintro rfl
    simp [movedTo] at hputs
  obtain ⟨rfl, rfl⟩ : window = some w ∧ newIdx = target := by
    simpa [movedTo, hne, Option.map_eq_some_iff] using hputs
  rcases hmoved with ⟨-, hnone⟩ | ⟨i, v, -, hlt, hi, hv, ⟨ws, ws', hws, hr, hland⟩⟩
  · exact absurd (hnone hne) (by simp)
  · obtain rfl : w = v := Option.some.inj hv
    obtain rfl := hi hids
    obtain ⟨-, hperm, -⟩ := h.replace_removed hws hr
    have hput := hland.activeOn_iff (hperm.nodup_iff.mp hnodup)
    exact ⟨hput, hlt, by simpa using hland.was_active rfl⟩

/-! ### When it goes well -/

/-- An operation that puts a window on a workspace does so. -/
theorem activating_spec (h : m.Sound) (hids : m.workspaceIds.Nodup) (hnodup : m.windowIds.Nodup)
    (clock : Clock) (op : Activating W Id) (hop : op.Admissible m) {window : Id} {target : ℕ}
    (hputs : m.puts op = some (window, target)) :
    Guarded (m.activeWorkspaceIdx < m.workspaces.length) (m.activating clock op)
      (PutOn m window target (if op.besideColumn then target else m.belowTop target)) := by
  cases op with
  | addTile tile dest width isFullWidth isFloating =>
    obtain ⟨i, hi, heq⟩ := Option.map_eq_some_iff.mp hputs
    obtain ⟨rfl, rfl⟩ := Prod.mk.inj heq
    refine ((addTile_spec h clock tile dest .yes true width isFullWidth isFloating).weaken
      fun hm => ⟨hm, by rw [hi]; rfl⟩).mono fun t ⟨k, hk, _, hland⟩ => ?_
    obtain rfl : i = k := Option.some.inj (hi.symm.trans hk)
    exact hland.putOn hnodup hop
  | addColumn idx column =>
    obtain ⟨hlt, heq⟩ := Option.ite_none_right_eq_some.mp hputs
    obtain ⟨rfl, rfl⟩ := Prod.mk.inj (Option.some.inj heq)
    exact ((addColumn_spec h clock idx column true).weaken fun hm => ⟨hm, hlt⟩).mono
      fun t hland => hland.putOn hnodup hop
  | addTileToColumn idx tile =>
    obtain ⟨hlt, heq⟩ := Option.ite_none_right_eq_some.mp hputs
    obtain ⟨rfl, rfl⟩ := Prod.mk.inj (Option.some.inj heq)
    exact ((addTileToColumn_spec h clock idx tile true true).weaken fun hm => ⟨hm, hlt⟩).mono
      fun t hland => hland.putOn hnodup hop
  | moveToWorkspaceUp =>
    exact (moveToWorkspaceUp_spec h clock true).mono fun t ht => ht.putOn h hids hnodup hputs
  | moveToWorkspaceDown =>
    exact (moveToWorkspaceDown_spec h clock true).mono fun t ht => ht.putOn h hids hnodup hputs
  | moveToWorkspace given idx activate =>
    obtain ⟨hfollows, hputs⟩ := Option.ite_none_right_eq_some.mp hputs
    obtain ⟨source, hsource, -⟩ := Option.bind_eq_some_iff.mp hputs
    rw [hsource] at hputs
    refine ((moveToWorkspace_spec h clock given idx activate).weaken fun hm => ⟨hm, ?_⟩).mono
      fun t ⟨k, hk, ht⟩ => ?_
    · rintro w rfl
      obtain ⟨hlt, hhas, -⟩ := List.findIdx?_eq_some_iff_getElem.mp hsource
      exact List.mem_flatMap.mpr ⟨_, List.getElem_mem hlt, Workspace.hasWindow_iff.mp hhas⟩
    · obtain rfl : source = k := Option.some.inj (hsource.symm.trans hk)
      rw [hfollows] at ht
      exact ht.putOn h hids hnodup hputs
  | moveColumnToWorkspaceUp =>
    exact (moveColumnToWorkspaceUp_spec h clock true).mono fun t ht => ht.putOn h hids hnodup hputs
  | moveColumnToWorkspaceDown =>
    exact (moveColumnToWorkspaceDown_spec h clock true).mono
      fun t ht => ht.putOn h hids hnodup hputs
  | moveColumnToWorkspace idx =>
    exact (moveColumnToWorkspace_spec h clock idx true).mono
      fun t ht => ht.putOn h hids hnodup hputs

/-- The window that was put on a workspace is active there and then exactly if the
monitor showed some workspace, and no room on top was counted in. -/
theorem activating_iff (h : m.Sound) (hids : m.workspaceIds.Nodup) (hnodup : m.windowIds.Nodup)
    (clock : Clock) (op : Activating W Id) (hop : op.Admissible m) {window : Id} {target : ℕ}
    (hputs : m.puts op = some (window, target)) :
    Returns (m.activating clock op) (ActiveOn window) ↔
      m.activeWorkspaceIdx < m.workspaces.length ∧
        (op.besideColumn = true ∨
          ¬(m.options.layout.emptyWorkspaceAboveFirst = true ∧ target = 0)) := by
  have hspec := activating_spec h hids hnodup clock op hop hputs
  have hindex : (if op.besideColumn then target else m.belowTop target) = target ↔
      (op.besideColumn = true ∨
        ¬(m.options.layout.emptyWorkspaceAboveFirst = true ∧ target = 0)) := by
    unfold belowTop
    split_ifs with hbeside htop <;> simp_all
  constructor
  · rintro ⟨t, ht, hactive⟩
    have hput := hspec.ensures t ht
    have hj := hput.activeOn_iff.mp hactive
    refine ⟨?_, hindex.mp hj⟩
    rcases hput.was_active with hwas | hwas
    · rw [hwas, hj]
      exact hput.target_lt
    · exact hwas
  · rintro ⟨hm, hgood⟩
    exact (hspec.returns hm).mono fun t hput => hput.activeOn_iff.mpr (hindex.mpr hgood)

/-! ### Where it fails -/

instance (window : Id) (t : Monitor W Id) : Decidable (t.ActiveOn window) :=
  decidable_of_iff ((t.workspaces[t.activeWorkspaceIdx]?.any fun ws =>
    decide (window ∈ ws.windowIds ∧ ws.activeId = some window)) = true) (by
      simp [ActiveOn, Option.any_eq_true])

/-- A window opened on the first workspace, and the second one is shown. -/
theorem not_activating : (Sample.paddedMonitor 2 1).puts
      (.addTile (Sample.tile 1) (.workspace 1 none) (.proportion (1 / 2)) false false) = some (1, 0) ∧
    ¬Returns ((Sample.paddedMonitor 2 1).activating Sample.clock
      (.addTile (Sample.tile 1) (.workspace 1 none) (.proportion (1 / 2)) false false))
        (ActiveOn 1) := by
  decide +kernel

theorem sound_paddedMonitor (count active : ℕ) : (Sample.paddedMonitor count active).Sound := by
  have hpresets : Sample.paddedOptions.layout.HasPresets :=
    ⟨List.cons_ne_nil _ _, List.cons_ne_nil _ _⟩
  refine ⟨fun ws hws => ?_, hpresets, hpresets⟩
  obtain ⟨i, -, rfl⟩ := List.mem_map.mp hws
  exact ⟨Workspace.wellFormed_newWithConfig _ _ _ hpresets, rfl⟩

/-- The same on the second workspace. -/
theorem activating_iff_two : Returns ((Sample.paddedMonitor 2 0).activating Sample.clock
    (.addTile (Sample.tile 1) (.workspace 2 none) (.proportion (1 / 2)) false false))
      (ActiveOn 1) := by
  refine (activating_iff (m := Sample.paddedMonitor 2 0) (sound_paddedMonitor 2 0)
    (by decide +kernel) (by decide +kernel) Sample.clock _ ?_
    (show (Sample.paddedMonitor 2 0).puts _ = some (1, 1) by decide +kernel)).mpr
      (by decide +kernel)
  simp only [Activating.Admissible]
  decide +kernel

end Monitor

end Sol
