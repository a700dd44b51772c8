import Sol.OutputSpecs

/-!
# Windows that open and close

A window comes to a workspace of the layout and leaves it again.  Apart from it the windows stay,
and so do the indices; a workspace may go with its last window.

* `addWindow_kept`: a window is opened;
* `removeWindow_lost`: a window is closed.
-/

namespace Sol

open Panicking

variable {W Id : Type} [LayoutElement W Id] [DecidableEq Id]

namespace Workspace

variable {s : Workspace W Id}

theorem setWindowHeight_rearranged (h : s.WellFormed) (clock : Clock) {window : Option Id}
    (hw : ∀ w ∈ window, w ∈ s.windowIds) (change : SizeChange) :
    Returns (s.setWindowHeight window change) s.Rearranged :=
  (runWindowCommand_rearranged h clock hw (.setWindowHeight change)).returns Bool.false_ne_true

end Workspace

namespace Monitor

variable {m t : Monitor W Id} {c r : Prop}

theorem Landed.kept {i j : ℕ} {window : Id} {yes activates : Bool}
    (h : Landed m i j window yes activates t) (hj : c → j < m.workspaces.length) :
    Kept c r [window] m t :=
  h.steady.kept.weaken (fun hc _ => hj hc) id

omit [DecidableEq Id] in
theorem Kept.gains {gain : List Id} {u : Monitor W Id} (h : Kept c r gain m t)
    (h' : Kept c r [] t u) : Kept c r gain m u where
  sound := h'.sound
  perm := h'.perm.trans h.perm
  key_eq := h'.key_eq.trans h.key_eq
  ids_eq := fun hr => (h'.ids_eq hr).trans (h.ids_eq hr)
  inRange := fun hc hm => h'.inRange hc (h.inRange hc hm)

end Monitor

namespace Layout

variable {l t : Layout W Id} {c r : Prop}

omit [DecidableEq Id] in
theorem Kept.gains {gain : List Id} {u : Layout W Id} (h : Kept c r gain l t)
    (h' : Kept c r [] t u) : Kept c r gain l u where
  sound := h'.sound
  perm := h'.perm.trans h.perm
  rows_eq := fun hr => (h'.rows_eq hr).trans (h.rows_eq hr)
  inRange := fun hc hl => h'.inRange hc (h.inRange hc hl)

/-! ### A window opens -/

theorem setInitialHeight_rearranged {ws : Workspace W Id} (h : ws.WellFormed) (clock : Clock)
    {window : Id} (hw : window ∈ ws.windowIds) (height : Option PresetSize) (isFloating : Bool) :
    Returns (setInitialHeight ws window height isFloating) ws.Rearranged := by
  unfold setInitialHeight
  cases height with
  | none => exact returns_pure.mpr h.rearranged_refl
  | some height =>
    refine returns_ite.mpr ⟨fun _ => returns_pure.mpr h.rearranged_refl, fun _ => ?_⟩
    exact Workspace.setWindowHeight_rearranged h clock (by rintro w ⟨⟩; exact hw) _

theorem addWindowToMonitor_kept {m : Monitor W Id} (h : m.Sound) (clock : Clock) (window : W)
    (target : MonitorAddWindowTarget Id) (width height : Option PresetSize)
    (isFullWidth isFloating : Bool) (activate : ActivateWindow) :
    Guarded (m.activeWorkspaceIdx < m.workspaces.length ∧ (m.targetIdx target).isSome = true)
      (addWindowToMonitor m clock window target width height isFullWidth isFloating activate)
      (Monitor.Kept m.HasRoom r [LayoutElement.id window] m) := by
  unfold addWindowToMonitor
  simp only [guarded_bind, Vec.guarded_get]
  refine ((Monitor.resolveAddWindowTarget_spec target).weaken And.right).mono fun found hfound =>
    ⟨fun ws _ => ?_, fun hm => ?_⟩
  · refine (Monitor.addWindow_spec h clock window target activate _ isFullWidth isFloating).mono
      fun t ht => ?_
    obtain ⟨i, -, hi, hland⟩ := ht
    have hkept : Monitor.Kept m.HasRoom r [LayoutElement.id window] m t :=
      hland.kept fun hroom => hroom.belowTop_lt hi
    refine guarded_ite.mpr ⟨fun _ => guarded_pure.mpr hkept, fun _ => ?_⟩
    simp only [guarded_bind, guarded_unwrap, guarded_pure]
    obtain ⟨target, htarget, hmem, -⟩ := hland.at_target
    refine Vec.guarded_applyFirst (fun hnone => ⟨by simp, fun _ => ?_⟩)
      fun k other hother hhas => ?_
    · -- the window was just put there
      have hfalse := hnone target (List.mem_of_getElem? htarget)
      rw [Workspace.hasWindow_iff.mpr hmem] at hfalse
      cases hfalse
    · refine (setInitialHeight_rearranged (hkept.sound.get hother).1 clock
        (Workspace.hasWindow_iff.mp hhas) height isFloating).guarded.mono fun other' hre =>
          ⟨fun wss hwss => ?_, fun _ => rfl⟩
      cases hwss
      exact hkept.gains ((hkept.sound.replace_rearranged hother hre).kept.weaken
        (fun _ => trivial) id)
  · obtain ⟨hidx, -⟩ := hfound
    cases target with
    | auto => exact Option.some.inj hidx ▸ hm.1
    | workspace id columnIdx => exact Monitor.lt_of_findIdx? hidx
    | nextTo window => exact Monitor.lt_of_findIdx? hidx

/-- Whether there is a place that a target means. -/
def Targets (l : Layout W Id) : AddWindowTarget Id → Prop
  | .auto => True
  | .output output => ∃ m ∈ l.monitors, m.output.key = output.key
  | .workspace id => ∃ ws ∈ l.workspaces, ws.id = id
  | .nextTo window => window ∈ l.windowIds

/-- Where room is counted in on top of a monitor, there is some. -/
def HasRoom (l : Layout W Id) : Prop := ∀ m ∈ l.monitors, m.HasRoom

omit [LayoutElement W Id] [DecidableEq Id] in
theorem findIdx?_isSome_of_mem {α : Type} {p : α → Bool} {as : List α} {a : α} (ha : a ∈ as)
    (hp : p a = true) : (as.findIdx? p).isSome = true := by
  rw [List.findIdx?_isSome, List.any_eq_true]
  exact ⟨a, ha, hp⟩

omit [LayoutElement W Id] [DecidableEq Id] in
theorem getElem?_of_findIdx? {α : Type} {p : α → Bool} {as : List α} {i : ℕ}
    (h : as.findIdx? p = some i) : ∃ a, as[i]? = some a ∧ p a = true := by
  obtain ⟨hi, hp, -⟩ := List.findIdx?_eq_some_iff_getElem.mp h
  exact ⟨as[i], List.getElem?_eq_getElem hi, hp⟩

theorem hasWindow_iff {m : Monitor W Id} {window : Id} :
    m.hasWindow window = true ↔ window ∈ m.windowIds := by
  simp only [Monitor.hasWindow, List.any_eq_true, Workspace.hasWindow_iff, Monitor.windowIds,
    List.mem_flatMap]

/-- A window that is not dragged is on a monitor. -/
theorem mem_monitor_of_not_moved {ms : List (Monitor W Id)} {p a : ℕ}
    (hset : l.monitorSet = .normal ms p a) {window : Id} (hw : window ∈ l.windowIds)
    (hmoved : l.isMoved window = false) : ∃ m ∈ ms, m.hasWindow window = true := by
  rw [windowIds_of_normal hset, List.mem_append] at hw
  rcases hw with hw | hw
  · obtain ⟨m, hm, hw⟩ := List.mem_flatMap.mp hw
    exact ⟨m, hm, hasWindow_iff.mpr hw⟩
  · rw [movedIds, Option.mem_toList, Option.map_eq_some_iff] at hw
    obtain ⟨data, hdata, rfl⟩ := hw
    simp [isMoved, hdata] at hmoved

theorem resolveTarget_spec {ms : List (Monitor W Id)} {p a : ℕ}
    (hset : l.monitorSet = .normal ms p a) (target : AddWindowTarget Id) :
    Guarded (l.InRange ∧ l.Targets target) (l.resolveTarget ms a target) fun r =>
      ((l.InRange ∧ l.Targets target) → r.1 < ms.length) ∧
        ∀ m, ms[r.1]? = some m → (m.targetIdx r.2).isSome = true := by
  have hmonitors := monitors_of_normal hset
  have hactive : ∀ hl : l.InRange, a < ms.length := fun hl => (hl.indices _ _ _ hset).2
  unfold resolveTarget
  cases target with
  | auto => exact guarded_pure.mpr ⟨fun hg => hactive hg.1, fun m _ => rfl⟩
  | output output =>
    simp only [guarded_bind, guarded_unwrap, guarded_pure]
    refine ⟨fun i hi => ⟨fun _ => ?_, fun m _ => rfl⟩, fun hg => ?_⟩
    · obtain ⟨m, hm, -⟩ := getElem?_of_findIdx? hi
      exact (List.getElem?_eq_some_iff.mp hm).1
    · obtain ⟨m, hm, hkey⟩ := hg.2
      exact findIdx?_isSome_of_mem (hmonitors ▸ hm) (decide_eq_true hkey)
  | workspace id =>
    simp only [guarded_bind, guarded_unwrap, guarded_pure]
    refine ⟨fun i hi => ⟨fun _ => ?_, fun m hm => ?_⟩, fun hg => ?_⟩
    · obtain ⟨m, hm, -⟩ := getElem?_of_findIdx? hi
      exact (List.getElem?_eq_some_iff.mp hm).1
    · obtain ⟨m', hm', hany⟩ := getElem?_of_findIdx? hi
      obtain rfl : m = m' := Option.some.inj (hm.symm.trans hm')
      exact (List.findIdx?_isSome ..).trans hany
    · obtain ⟨ws, hws, hid⟩ := hg.2
      rw [workspaces, hmonitors, detached_of_normal hset, List.append_nil] at hws
      obtain ⟨m, hm, hws⟩ := List.mem_flatMap.mp hws
      exact findIdx?_isSome_of_mem hm (List.any_eq_true.mpr ⟨ws, hws, decide_eq_true hid⟩)
  | nextTo window =>
    dsimp only
    split
    next data hdata =>
      refine guarded_pure.mpr ⟨fun hg => ?_, fun m _ => rfl⟩
      cases hfind : ms.findIdx? fun m => decide (m.output.key = data.output.key) with
      | none => exact hactive hg.1
      | some i =>
        obtain ⟨m, hm, -⟩ := getElem?_of_findIdx? hfind
        exact (List.getElem?_eq_some_iff.mp hm).1
    next hnone =>
      simp only [guarded_bind, guarded_unwrap, guarded_pure]
      refine ⟨fun i hi => ⟨fun _ => ?_, fun m hm => ?_⟩, fun hg => ?_⟩
      · obtain ⟨m, hm, -⟩ := getElem?_of_findIdx? hi
        exact (List.getElem?_eq_some_iff.mp hm).1
      · obtain ⟨m', hm', hhas⟩ := getElem?_of_findIdx? hi
        obtain rfl : m = m' := Option.some.inj (hm.symm.trans hm')
        exact (List.findIdx?_isSome ..).trans hhas
      · have hmoved : l.isMoved window = false := by
          by_contra hne
          rw [Bool.not_eq_false, isMoved, Option.any_eq_true] at hne
          obtain ⟨data, hdata, heq⟩ := hne
          rw [decide_eq_true_eq] at heq
          rw [hdata, Option.filter_some, if_pos (by simp [heq])] at hnone
          cases hnone
        obtain ⟨m, hm, hhas⟩ := mem_monitor_of_not_moved hset hg.2 hmoved
        exact findIdx?_isSome_of_mem hm hhas

/-! ### Without outputs -/

omit [DecidableEq Id] in
/-- Without outputs there is a workspace at least after it was asked for. -/
theorem Sound.ensureWorkspace (h : l.Sound) {wss : List (Workspace W Id)}
    (hset : l.monitorSet = .noOutputs wss) :
    (∀ ws ∈ (l.ensureWorkspace wss).1, ws.WellFormed) ∧
      (l.ensureWorkspace wss).1.flatMap (·.windowIds) = wss.flatMap (·.windowIds) ∧
        0 < (l.ensureWorkspace wss).1.length := by
  have hdetached : ∀ ws ∈ wss, ws.WellFormed := detached_of_noOutputs hset ▸ h.detached
  unfold Layout.ensureWorkspace
  cases wss with
  | nil =>
    refine ⟨fun ws hws => ?_, ?_, Nat.one_pos⟩
    · rw [List.mem_singleton.mp hws]
      exact Workspace.wellFormed_newWithConfigNoOutputs _ _ h.presets
    · rfl
  | cons ws wss => exact ⟨hdetached, rfl, Nat.zero_lt_succ _⟩

theorem resolveDetachedTarget_spec (h : l.Sound) {wss : List (Workspace W Id)}
    (hset : l.monitorSet = .noOutputs wss) (target : AddWindowTarget Id) :
    Guarded (l.Targets target) (l.resolveDetachedTarget wss target) fun r =>
      (∀ ws ∈ r.1.1, ws.WellFormed) ∧
        r.1.1.flatMap (·.windowIds) = wss.flatMap (·.windowIds) ∧ r.2.1 < r.1.1.length ∧
          ∀ w, r.2.2 = .nextTo w → ∀ ws, r.1.1[r.2.1]? = some ws → w ∈ ws.windowIds := by
  have hdetached := detached_of_noOutputs hset
  have hwf : ∀ ws ∈ wss, ws.WellFormed := hdetached ▸ h.detached
  have hensured := h.ensureWorkspace hset
  have hauto : (∀ ws ∈ (l.ensureWorkspace wss).1, ws.WellFormed) ∧
      (l.ensureWorkspace wss).1.flatMap (·.windowIds) = wss.flatMap (·.windowIds) ∧
        0 < (l.ensureWorkspace wss).1.length ∧
          ∀ w, (WorkspaceAddWindowTarget.auto : WorkspaceAddWindowTarget Id) = .nextTo w →
            ∀ ws, (l.ensureWorkspace wss).1[0]? = some ws → w ∈ ws.windowIds :=
    ⟨hensured.1, hensured.2.1, hensured.2.2, fun w hw => by cases hw⟩
  unfold resolveDetachedTarget
  cases target with
  | auto => exact guarded_pure.mpr hauto
  | output output =>
    rw [guarded_throw]
    rintro ⟨m, hm, -⟩
    rw [monitors_of_noOutputs hset] at hm
    exact absurd hm List.not_mem_nil
  | workspace id =>
    simp only [guarded_bind, guarded_unwrap, guarded_pure]
    refine ⟨fun i hi => ⟨hwf, trivial, ?_, fun w hw => by cases hw⟩, fun hg => ?_⟩
    · obtain ⟨ws, hws, -⟩ := getElem?_of_findIdx? hi
      exact (List.getElem?_eq_some_iff.mp hws).1
    · obtain ⟨ws, hws, hid⟩ := hg
      rw [workspaces, monitors_of_noOutputs hset, hdetached] at hws
      exact findIdx?_isSome_of_mem (by simpa using hws) (decide_eq_true hid)
  | nextTo window =>
    dsimp only
    refine guarded_ite.mpr ⟨fun _ => guarded_pure.mpr hauto, fun hmoved => ?_⟩
    simp only [guarded_bind, guarded_unwrap, guarded_pure]
    refine ⟨fun i hi => ⟨hwf, trivial, ?_, ?_⟩, fun hg => ?_⟩
    · obtain ⟨ws, hws, -⟩ := getElem?_of_findIdx? hi
      exact (List.getElem?_eq_some_iff.mp hws).1
    · rintro w ⟨⟩ ws hws
      obtain ⟨ws', hws', hhas⟩ := getElem?_of_findIdx? hi
      obtain rfl : ws = ws' := Option.some.inj (hws.symm.trans hws')
      exact Workspace.hasWindow_iff.mp hhas
    · have hw : window ∈ l.windowIds := hg
      rw [windowIds_of_noOutputs hset, List.mem_append] at hw
      rcases hw with hw | hw
      · obtain ⟨ws, hws, hw⟩ := List.mem_flatMap.mp hw
        exact findIdx?_isSome_of_mem hws (Workspace.hasWindow_iff.mpr hw)
      · rw [movedIds, Option.mem_toList, Option.map_eq_some_iff] at hw
        obtain ⟨data, hdata, rfl⟩ := hw
        simp [isMoved, hdata] at hmoved

/-- A window is opened where there is a place for it. -/
theorem addWindow_kept (h : l.Sound) (clock : Clock) (window : W) (target : AddWindowTarget Id)
    (width height : Option PresetSize) (isFullWidth isFloating : Bool)
    (activate : ActivateWindow) :
    Guarded (l.InRange ∧ l.Targets target)
      (l.addWindow clock window target width height isFullWidth isFloating activate)
      (Kept l.HasRoom r [LayoutElement.id window] l) := by
  unfold addWindow
  cases hset : l.monitorSet with
  | normal ms p a =>
    have hmonitors := monitors_of_normal hset
    simp only [guarded_bind, guarded_pure, Vec.guarded_apply]
    refine (resolveTarget_spec hset target).mono fun found hfound => ⟨fun m hm => ?_, hfound.1⟩
    have hmem : m ∈ l.monitors := hmonitors ▸ List.mem_of_getElem? hm
    refine ((addWindowToMonitor_kept (r := r) (h.monitors m hmem) clock window found.2 width height
      isFullWidth isFloating activate).weaken fun hg =>
        ⟨(hg.1.monitors m hmem).active, hfound.2 m hm⟩).mono fun m' hm' => ?_
    refine h.kept_set hset hm (hm'.weaken (fun hroom => hroom m hmem) id) fun _ hl => ?_
    split
    · exact (List.getElem?_eq_some_iff.mp hm).1
    · exact (hl.indices _ _ _ hset).2
  | noOutputs wss =>
    simp only [guarded_bind, guarded_pure, Vec.guarded_apply]
    refine ((resolveDetachedTarget_spec h hset target).weaken And.right).mono
      fun found hfound => ⟨fun ws hws => ?_, fun _ => hfound.2.2.1⟩
    obtain ⟨hwf, hids, -, hnext⟩ := hfound
    have hws_wf := hwf ws (List.mem_of_getElem? hws)
    refine (Workspace.addTile_spec hws_wf (ws.makeTile window)
      (fun w hw => hnext w hw ws hws) activate _ isFullWidth isFloating).guarded.mono
        fun added hadded => ?_
    obtain ⟨hadded, -⟩ := hadded
    refine (setInitialHeight_rearranged hadded.wellFormed clock
      (hadded.perm.mem_iff.mpr List.mem_cons_self) height isFloating).guarded.mono
        fun sized hre => ?_
    have hset' : Kept l.HasRoom r [LayoutElement.id window] l
        { l with monitorSet := .noOutputs (found.1.1.set found.2.1 sized) } := by
      refine h.kept_detached hset (Vec.forall_mem_set hwf hre.wellFormed) ?_
      rw [← hids]
      exact Vec.flatMap_set_gain hws (hre.perm.trans hadded.perm)
    exact hset'.gains (hset'.sound.kept_of_monitorSet rfl rfl h.presets)

end Layout

/-! ### A window closes -/

namespace Monitor

variable {m t u : Monitor W Id} {c r : Prop} {lost : List Id}

/-- The workspace of a window that is closed goes along with it. -/
def Vacates (m : Monitor W Id) (window : Id) : Prop :=
  m.workspaceSwitch = none ∧ ∃ i ws, m.workspaces[i]? = some ws ∧ ws.windowIds = [window] ∧
    ws.name = none ∧ i ≠ m.activeWorkspaceIdx ∧ i + 1 ≠ m.workspaces.length

/-- Two workspaces count as empty ones, of which one goes. -/
def Merges (m : Monitor W Id) : Prop :=
  m.options.layout.emptyWorkspaceAboveFirst = true ∧ m.workspaces.length = 2 ∧
    m.workspaceSwitch = none

omit [DecidableEq Id] in
/-- An empty workspace that is not active goes. -/
theorem Sound.kept_erase (h : m.Sound) (hstill : m.workspaceSwitch = none) {i : ℕ}
    {ws : Workspace W Id} (hws : m.workspaces[i]? = some ws) (hempty : ws.windowIds = [])
    (hne : i ≠ m.activeWorkspaceIdx) :
    Kept True False [] m { m with
      workspaces := m.workspaces.eraseIdx i
      activeWorkspaceIdx :=
        if i < m.activeWorkspaceIdx then m.activeWorkspaceIdx - 1 else m.activeWorkspaceIdx } where
  sound := h.reframe _ m.previousWorkspaceId m.workspaceSwitch fun ws hws =>
    h.workspaces ws (List.mem_of_mem_eraseIdx hws)
  perm := by
    obtain ⟨hi, rfl⟩ := List.getElem?_eq_some_iff.mp hws
    have hperm := (List.getElem_cons_eraseIdx_perm hi).flatMap_right (·.windowIds)
    rw [List.flatMap_cons, hempty, List.nil_append] at hperm
    exact hperm
  key_eq := rfl
  ids_eq := False.elim
  inRange := fun _ hm => by
    have hi := (List.getElem?_eq_some_iff.mp hws).1
    have hactive := hm.active
    refine .of_still ?_ hstill
    simp only [List.length_eraseIdx_of_lt hi]
    split <;> omega

omit [DecidableEq Id] in
/-- The second of two empty workspaces goes. -/
theorem Sound.kept_merge (h : m.Sound) (hstill : m.workspaceSwitch = none)
    (hlen : m.workspaces.length = 2) {ws : Workspace W Id} (hws : m.workspaces[1]? = some ws)
    (hempty : ws.windowIds = []) :
    Kept True False [] m { m with
      workspaces := m.workspaces.eraseIdx 1, activeWorkspaceIdx := 0 } where
  sound := h.reframe _ m.previousWorkspaceId m.workspaceSwitch fun ws hws =>
    h.workspaces ws (List.mem_of_mem_eraseIdx hws)
  perm := by
    obtain ⟨hi, rfl⟩ := List.getElem?_eq_some_iff.mp hws
    have hperm := (List.getElem_cons_eraseIdx_perm hi).flatMap_right (·.windowIds)
    rw [List.flatMap_cons, hempty, List.nil_append] at hperm
    exact hperm
  key_eq := rfl
  ids_eq := False.elim
  inRange := fun _ _ => by
    refine .of_still ?_ hstill
    simp only [List.length_eraseIdx_of_lt (hlen ▸ Nat.one_lt_two)]
    omega

omit [DecidableEq Id] in
/-- What closes no window but those of an empty workspace does not lose the row. -/
theorem Lost.dropping {c r : Prop} (h : Lost c r lost m t) (h' : Kept c False [] t u)
    (hr : ¬r) : Lost c r lost m u where
  sound := h'.sound
  perm := h.perm.trans (h'.perm.symm.append_left lost)
  key_eq := h'.key_eq.trans h.key_eq
  ids_eq := fun hr' => absurd hr' hr
  inRange := fun hc hm => h'.inRange hc (h.inRange hc hm)

/-- Where the assertions on two workspaces are not reached. -/
def CanClose (m : Monitor W Id) : Prop :=
  m.options.layout.emptyWorkspaceAboveFirst = true →
    m.workspaceSwitch.isSome = true ∨ 4 ≤ m.workspaces.length

omit [LayoutElement W Id] [DecidableEq Id] in
theorem windowIds_of_not_hasWindowsOrName [LayoutElement W Id] {ws : Workspace W Id}
    (h : ws.hasWindowsOrName = false) : ws.windowIds = [] ∧ ws.name = none := by
  rw [Workspace.hasWindowsOrName, Bool.or_eq_false_iff] at h
  refine ⟨?_, Option.not_isSome_iff_eq_none.mp (by simp [h.2])⟩
  by_contra hne
  rw [Workspace.hasWindows_iff.mpr hne] at h
  cases h.1

omit [DecidableEq Id] in
/-- The row once the window was taken out: the workspace went with it, or is still there. -/
theorem closed_row (h : m.Sound) {window : Id} {idx : ℕ} {ws ws' : Workspace W Id}
    (hws : m.workspaces[idx]? = some ws) (hr : ws.Removed window ws') {n : Monitor W Id}
    (hn : (if (!ws'.hasWindowsOrName && idx != m.activeWorkspaceIdx &&
        idx != (m.workspaces.set idx ws').length - 1 && m.workspaceSwitch.isNone) = true then
      { m with
        workspaces := (m.workspaces.set idx ws').eraseIdx idx
        activeWorkspaceIdx :=
          if idx < m.activeWorkspaceIdx then m.activeWorkspaceIdx - 1 else m.activeWorkspaceIdx }
      else { m with workspaces := m.workspaces.set idx ws' }) = n) :
    Lost True (¬m.Vacates window ∧ ¬m.Merges) [window] m n ∧ n.options = m.options ∧
      n.workspaceSwitch = m.workspaceSwitch ∧
        m.workspaces.length ≤ n.workspaces.length + 1 ∧
          (¬m.Vacates window → n.workspaces.length = m.workspaces.length) := by
  have hidx := (List.getElem?_eq_some_iff.mp hws).1
  have hlost : Lost True (¬m.Vacates window ∧ ¬m.Merges) [window] m
      { m with workspaces := m.workspaces.set idx ws' } := h.lost_workspace hws hr
  split at hn <;> subst hn
  next hgoes =>
    simp only [Bool.and_eq_true, Bool.not_eq_true', bne_iff_ne, List.length_set,
      Option.isNone_iff_eq_none] at hgoes
    obtain ⟨⟨⟨hempty, hactive⟩, hlast⟩, hstill⟩ := hgoes
    obtain ⟨hids, hname⟩ := windowIds_of_not_hasWindowsOrName hempty
    have hvacates : m.Vacates window := by
      have hperm := hr.perm
      rw [hids] at hperm
      exact ⟨hstill, idx, ws, hws, List.perm_singleton.mp hperm, hr.name_eq ▸ hname, hactive,
        by omega⟩
    have hget : (m.workspaces.set idx ws')[idx]? = some ws' := List.getElem?_set_self hidx
    refine ⟨hlost.dropping (hlost.sound.kept_erase hstill hget hids hactive)
      fun hkeeps => hkeeps.1 hvacates, rfl, rfl, ?_, fun hno => absurd hvacates hno⟩
    simp only [List.length_eraseIdx, List.length_set]
    split <;> omega
  next =>
    exact ⟨hlost, rfl, rfl, by simp, fun _ => by simp⟩

theorem removeWindowAt_lost (h : m.Sound) (clock : Clock) {window : Id} {idx : ℕ}
    {ws : Workspace W Id} (hws : m.workspaces[idx]? = some ws) (hw : window ∈ ws.windowIds) :
    Guarded m.CanClose (Layout.removeWindowAt m clock window idx) fun r =>
      r.1.tile.windowId = window ∧ Lost True (¬m.Vacates window ∧ ¬m.Merges) [window] m r.2 := by
  have hidx := (List.getElem?_eq_some_iff.mp hws).1
  unfold Layout.removeWindowAt
  simp only [guarded_bind, Vec.guarded_update, Vec.guarded_get, guarded_checkedSub, hws]
  refine ⟨fun ws₀ hws₀ => ?_, fun _ => hidx⟩
  cases hws₀
  refine (Workspace.removeTile_spec (h.get hws).1 clock hw).guarded.mono fun removed hremoved => ?_
  obtain ⟨hid, hr⟩ := hremoved
  refine ⟨fun ws' hws' => ⟨fun hlen => ?_, fun _ => ?_⟩, fun _ => by simpa using hidx⟩
  · obtain rfl : removed.2 = ws' := by
      rw [List.getElem?_set_self hidx] at hws'
      exact Option.some.inj hws'
    generalize hn : @ite (Monitor W Id) (_ = true) (instDecidableEqBool _ true) _ _ = n
    obtain ⟨hlost, hopts, hswitch, hlen', hsame⟩ := closed_row h hws hr hn
    clear hn
    simp only [guarded_ite, guarded_bind, guarded_pure, Vec.guarded_get, guarded_assert,
      Vec.guarded_remove]
    refine ⟨fun hmerges => ?_, fun _ => ⟨hid, hlost⟩⟩
    simp only [Bool.and_eq_true, beq_iff_eq, Option.isNone_iff_eq_none] at hmerges
    obtain ⟨⟨habove, htwo⟩, hstill⟩ := hmerges
    -- the assertions are reached in a short row only
    have hshort : ¬m.CanClose := fun hcan => by
      rcases hcan (hopts ▸ habove) with hsome | hlong
      · rw [← hswitch, hstill] at hsome
        cases hsome
      · omega
    refine ⟨fun first _ => ⟨fun _ => ⟨fun second hsecond => ⟨fun hempty => ⟨hid, ?_⟩,
      fun hcan => absurd hcan hshort⟩, fun hcan => absurd hcan hshort⟩,
      fun hcan => absurd hcan hshort⟩, fun hcan => absurd hcan hshort⟩
    refine hlost.dropping (hlost.sound.kept_merge hstill htwo hsecond
      (windowIds_of_not_hasWindowsOrName hempty).1) fun hkeeps => hkeeps.2 ⟨hopts ▸ habove, ?_, ?_⟩
    · exact hsame hkeeps.1 ▸ htwo
    · exact hswitch ▸ hstill
  · rw [List.length_set]
    omega

end Monitor

namespace Workspace

variable {s : Workspace W Id}

/-- A window that is let go is where it was. -/
theorem release_rearranged (h : s.WellFormed) (clock : Clock) (window : Id) :
    Returns (s.release clock window) s.Rearranged := by
  have htile : s.Rearranged (s.releaseTile clock window) := by
    unfold releaseTile
    refine (modifyTile_rearranged h window fun tile => ?_).1
    exact Tile.windowId_animateMoveFrom ..
  unfold release
  simp only [returns_ite, returns_bind, returns_pure]
  exact ⟨fun _ => (activateWindow_rearranged htile.wellFormed window).mono
    fun r hr => htile.trans hr, fun _ => htile⟩

end Workspace

namespace Layout

variable {l t : Layout W Id} {c r : Prop}

omit [LayoutElement W Id] [DecidableEq Id] in
theorem mapMonitors_interactiveMove (f : Monitor W Id → Outcome (Monitor W Id)) :
    Ensures (l.mapMonitors f) fun t => t.interactiveMove = l.interactiveMove := by
  unfold mapMonitors
  cases l.monitorSet with
  | normal ms p a =>
    simp only [ensures_bind, ensures_pure]
    exact fun _ _ => trivial
  | noOutputs wss => exact ensures_pure.mpr rfl

omit [LayoutElement W Id] [DecidableEq Id] in
theorem mapWorkspaces_interactiveMove (f : Workspace W Id → Outcome (Workspace W Id)) :
    Ensures (l.mapWorkspaces f) fun t => t.interactiveMove = l.interactiveMove := by
  unfold mapWorkspaces
  cases l.monitorSet with
  | normal ms p a => exact mapMonitors_interactiveMove _
  | noOutputs wss =>
    simp only [ensures_bind, ensures_pure]
    exact fun _ _ => trivial

theorem release_interactiveMove (clock : Clock) (window : Id) :
    Ensures (l.release clock window) fun t => t.interactiveMove = none := by
  unfold release
  rw [ensures_bind]
  refine (mapMonitors_interactiveMove _).mono fun t ht => ?_
  exact (mapWorkspaces_interactiveMove _).mono fun u hu => hu.trans ht

theorem release_kept (h : l.Sound) (hmove : l.moved = none) (clock : Clock) (window : Id) :
    Guarded l.InRange (l.release clock window) (Kept c r [] l) := by
  have hset : Kept c r [] l { l with interactiveMove := none } :=
    h.kept_of_monitorSet rfl (by rw [movedIds, movedIds, hmove]; rfl) h.presets
  unfold release
  simp only [guarded_bind]
  refine (dndScrollGestureEnd_kept hset clock fun hl => ⟨hl.monitors, hl.indices⟩).mono
    fun t ht => ?_
  refine (mapWorkspaces_kept ht.sound fun ws _ hws => ?_).mono fun u hu => ht.then hu
  exact (Workspace.release_rearranged hws clock window).guarded

/-- The window is held by no workspace. -/
def Unplaced (l : Layout W Id) (window : Id) : Prop := ∀ ws ∈ l.workspaces, window ∉ ws.windowIds

/-- No workspace goes along with a window that is closed. -/
def KeepsRows (l : Layout W Id) (window : Id) : Prop :=
  ∀ m ∈ l.monitors, window ∈ m.windowIds → ¬m.Vacates window ∧ ¬m.Merges

/-- No assertion on two workspaces is reached where a window is closed. -/
def CanClose (l : Layout W Id) (window : Id) : Prop :=
  ∀ m ∈ l.monitors, window ∈ m.windowIds → m.CanClose

omit [DecidableEq Id] in
/-- Windows are taken from the workspaces without outputs, and are gone. -/
theorem Sound.lost_detached (h : l.Sound) {wss wss' : List (Workspace W Id)} {lost : List Id}
    (hset : l.monitorSet = .noOutputs wss) (hwf : ∀ ws ∈ wss', ws.WellFormed)
    (hperm : (wss.flatMap (·.windowIds)).Perm (lost ++ wss'.flatMap (·.windowIds))) :
    Lost c r lost l { l with monitorSet := .noOutputs wss' } where
  sound := ⟨fun _ hm => absurd hm List.not_mem_nil, hwf, h.presets⟩
  perm := by
    rw [windowIds_of_noOutputs (l := { l with monitorSet := .noOutputs wss' }) rfl,
      windowIds_of_noOutputs hset, ← List.append_assoc]
    exact hperm.append_right _
  rows_eq := fun _ => by rw [rows, rows, monitors_of_noOutputs hset]; rfl
  inRange := fun _ _ => ⟨fun _ hm => absurd hm List.not_mem_nil, fun _ _ _ heq => by cases heq⟩

/-- Without outputs a workspace goes with its last window. -/
theorem removeDetachedAt_spec {wss : List (Workspace W Id)} (hwf : ∀ ws ∈ wss, ws.WellFormed)
    (clock : Clock) {window : Id} {i : ℕ} {ws : Workspace W Id} (hws : wss[i]? = some ws)
    (hw : window ∈ ws.windowIds) :
    Returns (removeDetachedAt wss clock window i) fun r => r.1.tile.windowId = window ∧
      (∀ ws ∈ r.2, ws.WellFormed) ∧
        (wss.flatMap (·.windowIds)).Perm (window :: r.2.flatMap (·.windowIds)) := by
  have hi := (List.getElem?_eq_some_iff.mp hws).1
  refine guarded_true.mp ?_
  unfold removeDetachedAt
  simp only [guarded_bind, guarded_pure, Vec.guarded_update, Vec.guarded_get, hws]
  refine ⟨fun ws₀ hws₀ => ?_, fun _ => hi⟩
  cases hws₀
  refine (Workspace.removeTile_spec (hwf ws (List.mem_of_getElem? hws)) clock hw).guarded.mono
    fun removed hremoved => ⟨fun ws' hws' => ?_, fun _ => by simpa using hi⟩
  obtain ⟨hid, hr⟩ := hremoved
  obtain rfl : removed.2 = ws' := by
    rw [List.getElem?_set_self hi] at hws'
    exact Option.some.inj hws'
  have hset := Vec.forall_mem_set (i := i) hwf hr.wellFormed
  have hperm := Vec.flatMap_set_loss hws (show List.Perm _ ([window] ++ _) from hr.perm)
  refine ⟨hid, ?_, ?_⟩
  · split
    · exact hset
    · exact fun ws hws => hset ws (List.mem_of_mem_eraseIdx hws)
  · split
    next => exact hperm
    next hempty =>
      rw [Bool.not_eq_true] at hempty
      have hlt : i < (wss.set i removed.2).length := by simpa using hi
      have herased := (List.getElem_cons_eraseIdx_perm hlt).flatMap_right (·.windowIds)
      rw [List.flatMap_cons, List.getElem_set_self,
        (Monitor.windowIds_of_not_hasWindowsOrName hempty).1, List.nil_append] at herased
      exact hperm.trans (herased.symm.cons window)

theorem removeFromWorkspaces_lost (h : l.Sound) (clock : Clock) (window : Id) :
    Guarded (l.CanClose window) (l.removeFromWorkspaces clock window) fun found =>
      (found = (none, l) ∧ l.Unplaced window) ∨ ∃ removed, found.1 = some removed ∧
        removed.tile.windowId = window ∧ Lost True (l.KeepsRows window) [window] l found.2 := by
  unfold removeFromWorkspaces
  cases hset : l.monitorSet with
  | normal ms p a =>
    have hmonitors := monitors_of_normal hset
    dsimp only
    cases hfind : ms.findIdx? (·.hasWindow window) with
    | none =>
      rw [List.findIdx?_eq_none_iff] at hfind
      refine guarded_pure.mpr (.inl ⟨rfl, fun ws hws hw => ?_⟩)
      rw [workspaces, hmonitors, detached_of_normal hset, List.append_nil] at hws
      obtain ⟨m, hm, hws⟩ := List.mem_flatMap.mp hws
      have hhas := hasWindow_iff.mpr (List.mem_flatMap.mpr ⟨ws, hws, hw⟩)
      rw [hfind m hm] at hhas
      cases hhas
    | some i =>
      obtain ⟨m, hm, hhas⟩ := getElem?_of_findIdx? hfind
      have hmem : m ∈ l.monitors := hmonitors ▸ List.mem_of_getElem? hm
      have hw := hasWindow_iff.mp hhas
      simp only [guarded_bind, guarded_pure, Vec.guarded_update, guarded_unwrap]
      refine ⟨fun m' hm' => ⟨fun j hj => ?_, fun _ => ?_⟩,
        fun _ => (List.getElem?_eq_some_iff.mp hm).1⟩
      · obtain rfl : m = m' := Option.some.inj (hm.symm.trans hm')
        obtain ⟨ws, hws, hhas⟩ := getElem?_of_findIdx? hj
        refine ((Monitor.removeWindowAt_lost (h.monitors m hmem) clock hws
          (Workspace.hasWindow_iff.mp hhas)).weaken fun hcan => hcan m hmem hw).mono
            fun removed hr => .inr ⟨removed.1, rfl, hr.1, ?_⟩
        exact h.lost_set hset hm (hr.2.weaken id fun hkeeps => hkeeps m hmem hw)
      · obtain rfl : m = m' := Option.some.inj (hm.symm.trans hm')
        exact (List.findIdx?_isSome ..).trans hhas
  | noOutputs wss =>
    have hdetached := detached_of_noOutputs hset
    dsimp only
    cases hfind : wss.findIdx? (·.hasWindow window) with
    | none =>
      rw [List.findIdx?_eq_none_iff] at hfind
      refine guarded_pure.mpr (.inl ⟨rfl, fun ws hws hw => ?_⟩)
      rw [workspaces, monitors_of_noOutputs hset, hdetached] at hws
      have hhas := Workspace.hasWindow_iff.mpr hw
      rw [hfind ws (by simpa using hws)] at hhas
      cases hhas
    | some i =>
      obtain ⟨ws, hws, hhas⟩ := getElem?_of_findIdx? hfind
      have hwf : ∀ ws ∈ wss, ws.WellFormed := hdetached ▸ h.detached
      simp only [guarded_bind, guarded_pure]
      refine (removeDetachedAt_spec hwf clock hws (Workspace.hasWindow_iff.mp hhas)).guarded.mono
        fun removed hr => .inr ⟨removed.1, rfl, hr.1, ?_⟩
      exact h.lost_detached hset hr.2.1 hr.2.2

/-- What goes when a window is closed. -/
def closedIds (l : Layout W Id) (window : Id) : List Id :=
  if window ∈ l.windowIds then [window] else []

theorem removeFromWorkspaces_closed (h : l.Sound) (clock : Clock) {window : Id}
    (hmoved : l.isMoved window = false) :
    Guarded (l.CanClose window) (l.removeFromWorkspaces clock window) fun found =>
      Lost True (l.KeepsRows window) (l.closedIds window) l found.2 := by
  refine (removeFromWorkspaces_lost h clock window).mono fun found hfound => ?_
  rcases hfound with ⟨rfl, hunplaced⟩ | ⟨removed, -, -, hlost⟩
  · have hnot : window ∉ l.windowIds := by
      intro hw
      rcases List.mem_append.mp hw with hw | hw
      · obtain ⟨ws, hws, hw⟩ := List.mem_flatMap.mp hw
        exact hunplaced ws hws hw
      · rw [Option.mem_toList, Option.map_eq_some_iff] at hw
        obtain ⟨data, hdata, rfl⟩ := hw
        simp [isMoved, hdata] at hmoved
    rw [closedIds, if_neg hnot]
    exact (Kept.refl h).lost
  · have hin : window ∈ l.windowIds :=
      hlost.perm.mem_iff.mpr (List.mem_append_left _ (List.mem_singleton.mpr rfl))
    rwa [closedIds, if_pos hin]

omit [DecidableEq Id] in
/-- A dragged window is let go of. -/
theorem Sound.lost_moved (h : l.Sound) {data : InteractiveMoveData W}
    (hmoved : l.moved = some data) :
    Lost c r [data.tile.windowId] l { l with interactiveMove := none } where
  sound := ⟨h.monitors, h.detached, h.presets⟩
  perm := by
    rw [windowIds_eq, windowIds_eq, movedIds, hmoved, movedIds]
    refine List.perm_append_comm.trans ?_
    rw [show ({ l with interactiveMove := none } : Layout W Id).moved = none from rfl,
      Option.map_none, Option.toList_none, List.append_nil]
    exact .refl _
  rows_eq := fun _ => rfl
  inRange := fun _ hl => ⟨hl.monitors, hl.indices⟩

/-- Whether a window is held, but still in the layout. -/
def IsHeld (l : Layout W Id) (window : Id) : Prop :=
  ∃ delta ratio, l.interactiveMove = some (.starting window delta ratio)

/-- A window that is closed goes, and nothing else. -/
theorem removeWindow_lost (h : l.Sound) (clock : Clock) (window : Id) :
    Guarded (l.InRange ∧ ¬l.IsHeld window ∧ l.CanClose window) (l.removeWindow clock window)
      fun found => Lost True (¬l.IsHeld window ∧ l.KeepsRows window) (l.closedIds window) l
        found.2 := by
  unfold removeWindow
  cases hmove : l.interactiveMove with
  | none =>
    have hmoved : l.isMoved window = false := by simp [isMoved, moved, hmove]
    exact ((removeFromWorkspaces_closed h clock hmoved).weaken (·.2.2)).mono fun found hlost =>
      hlost.weaken id And.right
  | some move =>
    cases move with
    | starting windowId delta ratio =>
      have hmoved : l.moved = none := by simp [moved, hmove]
      have hnot : l.isMoved window = false := by simp [isMoved, hmoved]
      dsimp only
      refine guarded_ite.mpr ⟨fun heq => ?_, fun _ =>
        ((removeFromWorkspaces_closed h clock hnot).weaken (·.2.2)).mono fun found hlost =>
          hlost.weaken id And.right⟩
      subst heq
      have hheld : l.IsHeld windowId := ⟨delta, ratio, hmove⟩
      have hend : l.interactiveMoveEnd clock windowId = l.release clock windowId := by
        simp [interactiveMoveEnd, hmove]
      rw [hend]
      refine ⟨?_, fun hg => absurd hheld hg.2.1⟩
      rw [ensures_bind]
      intro t heq
      have ht := (release_kept (c := True) (r := True) h hmoved clock windowId).ensures t heq
      have htmove : t.interactiveMove = none := release_interactiveMove clock windowId t heq
      have hclosed : t.closedIds windowId = l.closedIds windowId := by
        unfold closedIds
        rw [if_congr ht.perm.mem_iff rfl rfl, List.nil_append]
      refine (removeFromWorkspaces_closed ht.sound clock
        (by simp [isMoved, moved, htmove])).ensures.mono fun found hlost => ?_
      rw [hclosed] at hlost
      exact ⟨hlost.sound, ht.perm.symm.trans hlost.perm, fun hr => absurd hheld hr.1,
        fun hc hl => hlost.inRange trivial (ht.inRange trivial hl)⟩
    | moving data =>
      have hmoved : l.moved = some data := by simp [moved, hmove]
      dsimp only
      refine guarded_ite.mpr ⟨fun heq => ?_, fun hne => ?_⟩
      · subst heq
        -- the window is out of the layout already
        have hin : data.tile.windowId ∈ l.windowIds :=
          List.mem_append_right _ (by simp [hmoved])
        rw [closedIds, if_pos hin]
        have hlost : Lost True (¬l.IsHeld data.tile.windowId ∧ l.KeepsRows data.tile.windowId)
            [data.tile.windowId] l { l with interactiveMove := none } := h.lost_moved hmoved
        unfold removeMoved
        simp only [guarded_bind, guarded_pure]
        refine ((dndScrollGestureEnd_kept (Kept.refl hlost.sound) clock id).weaken fun hg =>
          hlost.inRange trivial hg.1).mono fun t ht => hlost.then ht
      · have hnot : l.isMoved window = false := by
          simp [isMoved, hmoved, hne]
        exact ((removeFromWorkspaces_closed h clock hnot).weaken (·.2.2)).mono fun found hlost =>
          hlost.weaken id And.right

end Layout

end Sol
