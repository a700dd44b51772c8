import Sol.FocusList
import Sol.Monitor
import Sol.WorkspaceRun

/-!
# Operations of a monitor

What each operation of a monitor leaves: which workspaces, in which order, which
index is active.  `Sound` is about the workspaces and survives everything;
`InRange` is about the indices, and some operations lose it.

The postconditions are stated for what an operation returns; its guard says when
it does return.
-/

namespace Sol

open Panicking

namespace Workspace

variable {W Id : Type} [LayoutElement W Id] {s t : Workspace W Id}

theorem id_updateConfig (options : Options) : (s.updateConfig options).id = s.id := rfl

theorem id_setViewSize (scale : ℚ) (size : Size) (workingArea : Rect) :
    (s.setViewSize scale size workingArea).id = s.id := by
  unfold setViewSize
  split_ifs <;> rfl

/-- A workspace attached to a monitor keeps its id and its windows. -/
structure Attached (options : Options) (s t : Workspace W Id) : Prop where
  id_eq : t.id = s.id
  rearranged : s.WellFormed → options.layout.HasPresets → Rearranged s t ∧ t.output.isSome = true

theorem attach_spec (output : Output) (options : Options) :
    Returns (s.attach output options) fun t => Attached options s t := by
  have hset : Returns (s.setOutput (some output)) fun t => t.id = s.id := by
    unfold setOutput
    refine returns_ite.mpr ⟨fun _ => returns_pure.mpr rfl, fun _ => ?_⟩
    simp only [updateOutputSize, returns_bind, returns_unwrap, returns_pure, Option.some.injEq,
      exists_eq_left', id_setViewSize]
  have hre : s.WellFormed → Ensures (s.setOutput (some output)) fun t =>
      Rearranged s t ∧ t.output.isSome = true :=
    fun h => (setOutput_rearranged h output).ensures
  obtain ⟨u, hu, hid⟩ := hset
  unfold attach
  rw [hu]
  refine returns_pure.mpr ⟨hid, fun h hoptions => ?_⟩
  obtain ⟨h1, ho⟩ := hre h u hu
  have h2 := updateConfig_rearranged h1.wellFormed hoptions
  exact ⟨h1.trans h2, h2.output ho⟩

theorem claimFor_rearranged (h : s.WellFormed) (output : Output) :
    Rearranged s (s.claimFor output) := by
  unfold claimFor
  split_ifs
  · exact h.relabel s.layoutConfig s.scale s.viewSize s.workingArea s.output
      (OutputId.new output) fun o => o
  · exact h.rearranged_refl

end Workspace

namespace Monitor

variable {W Id : Type} {m t : Monitor W Id}

/-! ### Ids and indices -/

def workspaceIds (m : Monitor W Id) : List WorkspaceId := m.workspaces.map (·.id)

/-- The id of the active workspace. -/
def activeWorkspaceId (m : Monitor W Id) : Option WorkspaceId :=
  m.workspaceIds[m.activeWorkspaceIdx]?

/-- The indices are those of workspaces, also the one that a gesture is around. -/
structure InRange (m : Monitor W Id) : Prop where
  active : m.activeWorkspaceIdx < m.workspaces.length
  center : ∀ g, m.workspaceSwitch = some (.gesture g) → g.centerIdx < m.workspaces.length

/-- A monitor with other workspaces and another view on them. -/
def reframe (m : Monitor W Id) (workspaces : List (Workspace W Id)) (active : ℕ)
    (previous : Option WorkspaceId) (switch : Option WorkspaceSwitch) : Monitor W Id :=
  { m with
    workspaces, activeWorkspaceIdx := active, previousWorkspaceId := previous
    workspaceSwitch := switch }

section Reframe

variable (workspaces : List (Workspace W Id)) (active : ℕ) (previous : Option WorkspaceId)
  (switch : Option WorkspaceSwitch)

@[simp] theorem workspaces_reframe :
    (m.reframe workspaces active previous switch).workspaces = workspaces := rfl

@[simp] theorem activeWorkspaceIdx_reframe :
    (m.reframe workspaces active previous switch).activeWorkspaceIdx = active := rfl

@[simp] theorem workspaceSwitch_reframe :
    (m.reframe workspaces active previous switch).workspaceSwitch = switch := rfl

@[simp] theorem options_reframe :
    (m.reframe workspaces active previous switch).options = m.options := rfl

@[simp] theorem output_reframe :
    (m.reframe workspaces active previous switch).output = m.output := rfl

@[simp] theorem workspaceIds_reframe :
    (m.reframe workspaces active previous switch).workspaceIds = workspaces.map (·.id) := rfl

end Reframe

/-- Without a switch under way only the active index matters. -/
theorem InRange.of_still (hactive : m.activeWorkspaceIdx < m.workspaces.length)
    (hstill : m.workspaceSwitch = none) : m.InRange :=
  ⟨hactive, fun g hg => by simp [hstill] at hg⟩

theorem length_workspaceIds : m.workspaceIds.length = m.workspaces.length := by
  simp [workspaceIds]

variable [LayoutElement W Id]

/-- What a workspace of a monitor is like. -/
def Hosts (ws : Workspace W Id) : Prop := ws.WellFormed ∧ ws.output.isSome = true

/-- The invariant of a monitor apart from its indices. -/
structure Sound (m : Monitor W Id) : Prop where
  workspaces : ∀ ws ∈ m.workspaces, Hosts ws
  basePresets : m.baseOptions.layout.HasPresets
  presets : m.options.layout.HasPresets

/-- Soundness does not depend on the view. -/
theorem Sound.reframe (h : m.Sound) {workspaces : List (Workspace W Id)} (active : ℕ)
    (previous : Option WorkspaceId) (switch : Option WorkspaceSwitch)
    (hworkspaces : ∀ ws ∈ workspaces, Hosts ws) :
    (m.reframe workspaces active previous switch).Sound :=
  ⟨hworkspaces, h.basePresets, h.presets⟩

theorem Sound.get (h : m.Sound) {i : ℕ} {ws : Workspace W Id} (hws : m.workspaces[i]? = some ws) :
    Hosts ws := h.workspaces ws (List.mem_of_getElem? hws)

omit [LayoutElement W Id] in
theorem cleanUpWorkspaces_of_still (h : m.workspaceSwitch = none) :
    m.cleanUpWorkspaces = .ok m := by
  simp [cleanUpWorkspaces, assert, h]

omit [LayoutElement W Id] in
theorem cleanUpIfStill_eq : m.cleanUpIfStill = .ok m := by
  unfold cleanUpIfStill
  split_ifs with hstill
  · exact cleanUpWorkspaces_of_still (Option.isNone_iff_eq_none.mp hstill)
  · rfl

omit [LayoutElement W Id] in
@[simp] theorem padAround_eq (i : ℕ) : m.padAround i = (m, m.belowTop i) := by
  simp [padAround, addWorkspaceBottom, addWorkspaceTop]

omit [LayoutElement W Id] in
/-- Room on top matters to the first workspace only. -/
theorem belowTop_lt {i : ℕ} (hi : i < m.workspaces.length) (hlen : 2 ≤ m.workspaces.length) :
    m.belowTop i < m.workspaces.length := by
  unfold belowTop
  split_ifs <;> omega

/-- The outcome of an operation that keeps the row of workspaces and adds the
windows `gain`; under `c` it keeps the indices in range. -/
structure Steady (c : Prop) (gain : List Id) (m t : Monitor W Id) : Prop where
  sound : t.Sound
  perm : t.windowIds.Perm (gain ++ m.windowIds)
  ids_eq : t.workspaceIds = m.workspaceIds
  output_eq : t.output = m.output
  inRange : c → m.InRange → t.InRange

theorem Steady.length_eq {c : Prop} {gain : List Id} (h : Steady c gain m t) :
    t.workspaces.length = m.workspaces.length := by
  rw [← length_workspaceIds, h.ids_eq, length_workspaceIds]

theorem Steady.trans {c : Prop} {gain gain' : List Id} {u : Monitor W Id} (h : Steady c gain m t)
    (h' : Steady c gain' t u) : Steady c (gain' ++ gain) m u where
  sound := h'.sound
  perm := by
    rw [List.append_assoc]
    exact h'.perm.trans (h.perm.append_left gain')
  ids_eq := h'.ids_eq.trans h.ids_eq
  output_eq := h'.output_eq.trans h.output_eq
  inRange := fun hc hm => h'.inRange hc (h.inRange hc hm)

/-- After a step that adds no window. -/
theorem Steady.then {c : Prop} {gain : List Id} {u : Monitor W Id} (h : Steady c [] m t)
    (h' : Steady c gain t u) : Steady c gain m u := by
  have := h.trans h'
  rwa [List.append_nil] at this

theorem Steady.weaken {c d : Prop} {gain : List Id} (h : Steady c gain m t) (hdc : d → c) :
    Steady d gain m t :=
  ⟨h.sound, h.perm, h.ids_eq, h.output_eq, fun hd => h.inRange (hdc hd)⟩

/-- Another view on the same workspaces. -/
theorem Sound.steady (h : m.Sound) {c : Prop} {active : ℕ} {previous : Option WorkspaceId}
    {switch : Option WorkspaceSwitch}
    (hview : c → m.InRange → (m.reframe m.workspaces active previous switch).InRange) :
    Steady c [] m (m.reframe m.workspaces active previous switch) :=
  ⟨h.reframe _ _ _ h.workspaces, .refl _, rfl, rfl, hview⟩

theorem Sound.steady_refl (h : m.Sound) {c : Prop} : Steady c [] m m :=
  ⟨h, .refl _, rfl, rfl, fun _ hm => hm⟩

section Replace

variable {i : ℕ} {ws ws' : Workspace W Id}

/-- One workspace is replaced by one with the same id. -/
theorem Sound.replace (h : m.Sound) (hws : m.workspaces[i]? = some ws) (hhosts : Hosts ws')
    (hid : ws'.id = ws.id) {gain : List Id} (hperm : ws'.windowIds.Perm (gain ++ ws.windowIds)) :
    Steady True gain m { m with workspaces := m.workspaces.set i ws' } where
  sound := h.reframe m.activeWorkspaceIdx m.previousWorkspaceId m.workspaceSwitch
    (Vec.forall_mem_set h.workspaces hhosts)
  perm := Vec.flatMap_set_gain hws hperm
  ids_eq := Vec.map_set_eq hws hid
  output_eq := rfl
  inRange := fun _ hm => ⟨by simpa using hm.active, fun g hg => by simpa using hm.center g hg⟩

theorem Sound.replace_rearranged (h : m.Sound) (hws : m.workspaces[i]? = some ws)
    (hre : ws.Rearranged ws') :
    Steady True [] m { m with workspaces := m.workspaces.set i ws' } :=
  h.replace hws ⟨hre.wellFormed, hre.output (h.get hws).2⟩ hre.id_eq hre.perm

/-- A workspace from which a window was taken. -/
theorem Sound.replace_removed (h : m.Sound) (hws : m.workspaces[i]? = some ws) {window : Id}
    (hr : ws.Removed window ws') :
    { m with workspaces := m.workspaces.set i ws' }.Sound ∧
      m.windowIds.Perm (window :: (m.workspaces.set i ws').flatMap (·.windowIds)) ∧
      (m.workspaces.set i ws').map (·.id) = m.workspaceIds := by
  refine ⟨h.reframe _ _ _ (Vec.forall_mem_set h.workspaces ⟨hr.wellFormed, hr.output (h.get hws).2⟩),
    ?_, Vec.map_set_eq hws hr.id_eq⟩
  exact Vec.flatMap_set_loss hws (show List.Perm _ ([window] ++ _) from hr.perm)

end Replace

/-- An operation of one workspace that rearranges it. -/
theorem onWorkspace_steady (h : m.Sound) {c : Prop} (i : ℕ)
    {f : Workspace W Id → Outcome (Workspace W Id)}
    (hf : ∀ ws, m.workspaces[i]? = some ws → ws.WellFormed →
      Guarded c (f ws) fun t => ws.Rearranged t) :
    Guarded (c ∧ i < m.workspaces.length) (m.onWorkspace i f) fun t => Steady True [] m t := by
  unfold onWorkspace
  simp only [guarded_bind, Vec.guarded_apply, guarded_pure]
  refine ⟨fun ws hws => ?_, And.right⟩
  exact ((hf ws hws (h.get hws).1).weaken And.left).mono fun t ht => h.replace_rearranged hws ht

omit [LayoutElement W Id] in
theorem ids_of_forall₂ {l l' : List (Workspace W Id)}
    (h : List.Forall₂ (fun s t => t.id = s.id) l l') : l'.map (·.id) = l.map (·.id) := by
  induction h with
  | nil => rfl
  | cons hid _ ih => rw [List.map_cons, List.map_cons, hid, ih]

theorem perm_of_forall₂ {l l' : List (Workspace W Id)}
    (h : List.Forall₂ (fun s t => t.windowIds.Perm s.windowIds) l l') :
    (l'.flatMap (·.windowIds)).Perm (l.flatMap (·.windowIds)) := by
  induction h with
  | nil => exact .refl _
  | cons hperm _ ih =>
    rw [List.flatMap_cons, List.flatMap_cons]
    exact hperm.append ih

theorem hosts_of_forall₂ {l l' : List (Workspace W Id)} (hl : ∀ ws ∈ l, Hosts ws)
    (h : List.Forall₂ Workspace.Rearranged l l') : ∀ ws ∈ l', Hosts ws := by
  induction h with
  | nil => simp
  | cons hre _ ih =>
    obtain ⟨hs, hl⟩ := List.forall_mem_cons.mp hl
    exact List.forall_mem_cons.mpr ⟨⟨hre.wellFormed, hre.output hs.2⟩, ih hl⟩

/-- Every workspace is rearranged. -/
theorem Sound.steady_forall₂ (h : m.Sound) {workspaces : List (Workspace W Id)}
    (hre : List.Forall₂ Workspace.Rearranged m.workspaces workspaces) :
    Steady True [] m { m with workspaces } where
  sound := h.reframe m.activeWorkspaceIdx m.previousWorkspaceId m.workspaceSwitch
    (hosts_of_forall₂ h.workspaces hre)
  perm := perm_of_forall₂ (hre.imp fun _ _ h => h.perm)
  ids_eq := ids_of_forall₂ (hre.imp fun _ _ h => h.id_eq)
  output_eq := rfl
  inRange := fun _ hm => by
    have hlen := hre.length_eq
    exact ⟨hlen ▸ hm.active, fun g hg => hlen ▸ hm.center g hg⟩

theorem Sound.forall₂_map (h : m.Sound) {f : Workspace W Id → Workspace W Id}
    (hf : ∀ ws : Workspace W Id, ws.WellFormed → ws.Rearranged (f ws)) :
    List.Forall₂ Workspace.Rearranged m.workspaces (m.workspaces.map f) := by
  rw [List.forall₂_map_right_iff, List.forall₂_same]
  exact fun ws hws => hf ws (h.workspaces ws hws).1

/-! ### Activation -/

omit [LayoutElement W Id] in
/-- A gesture that is still under way is around the activated workspace, if it
was not there before. -/
theorem center_switchTo {clock : Clock} {idx : ℕ} {config : AnimationConfig}
    {g : WorkspaceSwitchGesture} (hg : m.switchTo clock idx config = some (.gesture g)) :
    g.centerIdx = idx ∨ m.workspaceSwitch = some (.gesture g) := by
  unfold switchTo at hg
  simp only at hg
  split at hg
  · rename_i g' hswitch
    split_ifs at hg with hdnd
    · left
      simp only [Option.some.injEq, WorkspaceSwitch.gesture.injEq] at hg
      rw [← hg]
      rfl
    · exact .inr hg
    · cases hg
  · split_ifs at hg
    · exact .inr hg
    · cases hg

omit [LayoutElement W Id] in
theorem InRange.activated (h : m.InRange) {clock : Clock} {idx : ℕ} {config : AnimationConfig}
    {previous : Option WorkspaceId} (hidx : idx < m.workspaces.length) :
    (m.reframe m.workspaces idx previous (m.switchTo clock idx config)).InRange := by
  refine ⟨hidx, fun g hg => ?_⟩
  rcases center_switchTo hg with hc | hg
  · exact hc ▸ hidx
  · exact h.center g hg

omit [LayoutElement W Id] in
theorem previousWorkspaceIdAfter_spec (idx : ℕ) :
    Guarded (m.activeWorkspaceIdx < m.workspaces.length) (m.previousWorkspaceIdAfter idx)
      fun _ => m.activeWorkspaceIdx = idx ∨ m.activeWorkspaceIdx < m.workspaces.length := by
  unfold previousWorkspaceIdAfter
  simp only [guarded_ite, guarded_bind, Vec.guarded_get, guarded_pure]
  refine ⟨fun _ => ⟨fun ws hws => .inr ?_, fun h => h⟩, fun heq => .inl (not_ne_iff.mp heq)⟩
  exact (List.getElem?_eq_some_iff.mp hws).1

omit [LayoutElement W Id] in
/-- Another workspace is activated only from one that exists. -/
theorem activateWorkspaceWithAnimConfig_spec (clock : Clock) (idx : ℕ)
    (config : Option AnimationConfig) :
    Guarded (m.activeWorkspaceIdx < m.workspaces.length)
      (m.activateWorkspaceWithAnimConfig clock idx config) fun t =>
        (m.activeWorkspaceIdx = idx ∨ m.activeWorkspaceIdx < m.workspaces.length) ∧
          ∃ previous config,
            t = m.reframe m.workspaces idx previous (m.switchTo clock idx config) := by
  unfold activateWorkspaceWithAnimConfig
  simp only [guarded_bind, guarded_pure]
  exact (previousWorkspaceIdAfter_spec idx).mono fun previous hm => ⟨hm, previous, _, rfl⟩

theorem activateWorkspaceWithAnimConfig_steady (h : m.Sound) (clock : Clock) (idx : ℕ)
    (config : Option AnimationConfig) :
    Guarded m.InRange (m.activateWorkspaceWithAnimConfig clock idx config)
      fun t => Steady (idx < m.workspaces.length) [] m t ∧ t.activeWorkspaceIdx = idx := by
  refine ((activateWorkspaceWithAnimConfig_spec clock idx config).weaken (·.active)).mono
    fun t ht => ?_
  obtain ⟨-, previous, config, rfl⟩ := ht
  exact ⟨h.steady fun hidx hm => hm.activated hidx, rfl⟩

theorem activateWorkspace_steady (h : m.Sound) (clock : Clock) (idx : ℕ) :
    Guarded m.InRange (m.activateWorkspace clock idx)
      fun t => Steady (idx < m.workspaces.length) [] m t ∧ t.activeWorkspaceIdx = idx :=
  activateWorkspaceWithAnimConfig_steady h clock idx none

/-! ### Switching -/

/-- Every switch is the activation of some workspace in range. -/
theorem activate_lt (h : m.Sound) (clock : Clock) {idx : ℕ} (hidx : idx < m.workspaces.length) :
    Guarded m.InRange (m.activateWorkspace clock idx) fun t => Steady True [] m t :=
  (activateWorkspace_steady h clock idx).mono fun _ ht => ht.1.weaken fun _ => hidx

theorem switchWorkspace_steady (h : m.Sound) (clock : Clock) (idx : ℕ) :
    Guarded m.InRange (m.switchWorkspace clock idx) fun t => Steady True [] m t := by
  unfold switchWorkspace
  simp only [guarded_bind, guarded_checkedSub]
  exact ⟨fun hlen => activate_lt h clock (by omega), fun hm => Nat.lt_of_le_of_lt (by omega) hm.active⟩

omit [LayoutElement W Id] in
/-- The clamped index of a drag is in range. -/
theorem clampIdx_lt {n : ℕ} (hn : 1 ≤ n) (x : ℚ) : ⌊clamp 0 (n - 1 : ℕ) x⌋.toNat < n := by
  have hle : clamp 0 (n - 1 : ℕ) x ≤ (n - 1 : ℕ) := min_le_right _ _
  have hfloor : ⌊clamp 0 (n - 1 : ℕ) x⌋ ≤ ((n - 1 : ℕ) : ℤ) := by
    have := (Int.floor_le (clamp 0 (n - 1 : ℕ) x)).trans hle
    exact_mod_cast this
  omega

theorem switchWorkspaceUp_steady (h : m.Sound) (clock : Clock) :
    Guarded m.InRange (m.switchWorkspaceUp clock) fun t => Steady True [] m t := by
  unfold switchWorkspaceUp
  cases m.dragged with
  | some g =>
    simp only [guarded_bind, guarded_checkedSub]
    exact ⟨fun hlen => activate_lt h clock (clampIdx_lt hlen _), fun hm => by have := hm.active; omega⟩
  | none =>
    refine (activateWorkspace_steady h clock _).mono fun t ht => ?_
    exact ⟨ht.1.sound, ht.1.perm, ht.1.ids_eq, ht.1.output_eq, fun _ hm =>
      ht.1.inRange (by have := hm.active; omega) hm⟩

theorem switchWorkspaceDown_steady (h : m.Sound) (clock : Clock) :
    Guarded m.InRange (m.switchWorkspaceDown clock) fun t => Steady True [] m t := by
  unfold switchWorkspaceDown
  simp only [guarded_bind, guarded_checkedSub]
  refine ⟨fun hlen => ?_, fun hm => by have := hm.active; omega⟩
  cases m.dragged with
  | some g => exact activate_lt h clock (clampIdx_lt hlen _)
  | none => exact activate_lt h clock (by omega)

theorem switchWorkspacePrevious_steady (h : m.Sound) (clock : Clock) :
    Guarded m.InRange (m.switchWorkspacePrevious clock) fun t => Steady True [] m t := by
  unfold switchWorkspacePrevious
  cases m.previousWorkspaceIdx with
  | some idx => exact switchWorkspace_steady h clock idx
  | none => exact guarded_pure.mpr h.steady_refl

theorem switchWorkspaceAutoBackAndForth_steady (h : m.Sound) (clock : Clock) (idx : ℕ) :
    Guarded m.InRange (m.switchWorkspaceAutoBackAndForth clock idx)
      fun t => Steady True [] m t := by
  unfold switchWorkspaceAutoBackAndForth
  simp only [guarded_bind, guarded_checkedSub, guarded_ite]
  refine ⟨fun _ => ⟨fun _ => switchWorkspacePrevious_steady h clock,
    fun _ => switchWorkspace_steady h clock _⟩, fun hm => by have := hm.active; omega⟩

/-! ### Gestures -/

/-- The view is handed to a gesture around the active workspace. -/
theorem Sound.steady_gesture (h : m.Sound) {g : WorkspaceSwitchGesture}
    (hg : m.InRange → g.centerIdx < m.workspaces.length) :
    Steady True [] m { m with workspaceSwitch := some (.gesture g) } := by
  refine h.steady (m := m) fun _ hm => ⟨hm.active, ?_⟩
  rintro g' hg'
  obtain rfl : g = g' := by simpa using hg'
  exact hg hm

theorem workspaceSwitchGestureBegin_steady (h : m.Sound) (clock : Clock) (isTouchpad : Bool) :
    Steady True [] m (m.workspaceSwitchGestureBegin clock isTouchpad) :=
  h.steady_gesture fun hm => hm.active

theorem dndScrollGestureBegin_steady (h : m.Sound) (clock : Clock) :
    Steady True [] m (m.dndScrollGestureBegin clock) := by
  unfold dndScrollGestureBegin
  split_ifs
  · exact h.steady_refl
  · exact h.steady_refl
  · exact h.steady_gesture fun hm => hm.active

omit [LayoutElement W Id] in
theorem guarded_clampAsserting {c : Prop} {lo hi x : ℚ} {P : ℚ → Prop} :
    Guarded c (clampAsserting lo hi x) P ↔ (lo ≤ hi → P (clamp lo hi x)) ∧ (c → lo ≤ hi) := by
  unfold clampAsserting
  simp only [guarded_bind, guarded_assert, guarded_pure]

omit [LayoutElement W Id] in
/-- The bounds of a gesture around a workspace are ordered, and those of workspaces. -/
theorem minMax_spec (g : WorkspaceSwitchGesture) (n : ℕ) :
    Guarded (1 ≤ n) (g.minMax n) fun r =>
      1 ≤ n ∧ r.2 ≤ ((n - 1 : ℕ) : ℚ) ∧ (g.centerIdx < n → r.1 ≤ r.2) := by
  unfold WorkspaceSwitchGesture.minMax
  simp only [guarded_bind, guarded_checkedSub, guarded_ite, guarded_pure]
  refine ⟨fun hn => ⟨fun _ => ⟨hn, ?_, fun hc => ?_⟩, fun _ => ⟨hn, le_refl _, fun _ => ?_⟩⟩, fun hn => hn⟩
  · exact_mod_cast min_le_right _ _
  · have : g.centerIdx - 1 ≤ min (g.centerIdx + 1) (n - 1) := by omega
    exact_mod_cast this
  · exact_mod_cast Nat.zero_le _

omit [LayoutElement W Id] in
theorem roundHalfAway_le {x : ℚ} {k : ℤ} (h : x ≤ k) : roundHalfAway x ≤ k := by
  unfold roundHalfAway
  split_ifs
  · refine Int.lt_add_one_iff.mp (Int.floor_lt.mpr ?_)
    push_cast
    linarith
  · exact Int.ceil_le.mpr (by linarith)

theorem workspaceSwitchGestureUpdate_steady (h : m.Sound) (clock : Clock) (deltaY : ℚ)
    (timestamp : Duration) (isTouchpad : Bool) :
    Guarded m.InRange (m.workspaceSwitchGestureUpdate clock deltaY timestamp isTouchpad)
      fun r => Steady True [] m r.1 := by
  unfold workspaceSwitchGestureUpdate
  split
  · rename_i g hg
    simp only [guarded_ite, guarded_bind, guarded_pure, guarded_assert]
    refine ⟨fun _ => h.steady_refl, fun _ => ?_⟩
    refine ((minMax_spec g _).weaken fun hm => Nat.lt_of_le_of_lt (Nat.zero_le _) hm.active).mono
      fun r hr => ⟨fun _ => h.steady_gesture fun hm => hm.center g hg,
        fun hm => hr.2.2 (hm.center g hg)⟩
  · exact guarded_pure.mpr h.steady_refl

omit [LayoutElement W Id] in
theorem dndScrollDelta_spec [LayoutElement W Id] (clock : Clock) (pos : Point) :
    Guarded (0 ≤ m.workingArea.size.h) (m.dndScrollDelta clock pos) fun _ => True := by
  unfold dndScrollDelta
  simp only [guarded_bind, guarded_clampAsserting, guarded_pure]
  exact ⟨fun _ => ⟨fun _ => trivial, fun h => by linarith⟩, fun h => h⟩

/-- A drag scrolls on an output whose working area has a height. -/
theorem dndScrollGestureScroll_steady (h : m.Sound) (clock : Clock) (pos : Point) (speed : ℚ) :
    Guarded (m.InRange ∧ 0 ≤ m.workingArea.size.h) (m.dndScrollGestureScroll clock pos speed)
      fun r => Steady True [] m r.1 := by
  unfold dndScrollGestureScroll
  split
  · rename_i g hg
    cases g.dndLastEventTime with
    | none => exact guarded_pure.mpr h.steady_refl
    | some lastTime =>
      simp only [guarded_ite, guarded_bind, guarded_pure, guarded_clampAsserting]
      refine ((dndScrollDelta_spec clock pos).weaken And.right).mono fun delta _ => ?_
      refine ⟨fun _ => h.steady_gesture fun hm => hm.center g hg, fun _ =>
        ⟨fun _ => h.steady_gesture fun hm => hm.center g hg, fun _ => ?_⟩⟩
      refine ((minMax_spec _ _).weaken fun hm =>
        Nat.lt_of_le_of_lt (Nat.zero_le _) hm.1.active).mono fun r hr =>
          ⟨fun _ => h.steady_gesture fun hm => hm.center g hg, fun hm => hr.2.2 (hm.1.center g hg)⟩
  · exact guarded_pure.mpr h.steady_refl

theorem workspaceSwitchGestureEnd_steady (h : m.Sound) (clock : Clock) (isTouchpad : Option Bool) :
    Guarded m.InRange (m.workspaceSwitchGestureEnd clock isTouchpad)
      fun r => Steady True [] m r.1 := by
  unfold workspaceSwitchGestureEnd
  split
  · rename_i g hg
    simp only [guarded_ite, guarded_bind, guarded_pure, guarded_clampAsserting]
    refine ⟨fun _ => h.steady_refl, fun _ => ?_⟩
    refine ((minMax_spec g _).weaken fun hm => Nat.lt_of_le_of_lt (Nat.zero_le _) hm.active).mono
      fun r hr => ⟨fun hle => ?_, fun hm => hr.2.2 (hm.center g hg)⟩
    refine ((previousWorkspaceIdAfter_spec _).weaken (·.active)).mono fun previous _ => ?_
    refine h.steady (m := m) fun _ hm => ⟨?_, fun g' hg' => by cases hg'⟩
    -- the index is rounded after it was clamped
    have hround : roundHalfAway (clamp r.1 r.2 (g.startIdx + (g.tracker.push 0
        clock.nowUnadjusted).projectedEndPos / m.gestureTotalHeight g)) ≤
        ((m.workspaces.length - 1 : ℕ) : ℤ) :=
      roundHalfAway_le ((min_le_right _ _).trans (by exact_mod_cast hr.2.1))
    have := hr.1
    simp only [activeWorkspaceIdx_reframe, workspaces_reframe]
    omega
  · exact guarded_pure.mpr h.steady_refl

theorem dndScrollGestureEnd_steady (h : m.Sound) (clock : Clock) :
    Guarded m.InRange (m.dndScrollGestureEnd clock) fun t => Steady True [] m t := by
  unfold dndScrollGestureEnd
  simp only [guarded_ite, guarded_bind, guarded_pure]
  exact ⟨fun _ => workspaceSwitchGestureEnd_steady h clock none, fun _ => h.steady_refl⟩

theorem advanceSwitch_steady (h : m.Sound) (clock : Clock) :
    Returns (m.advanceSwitch clock) fun t => Steady True [] m t := by
  unfold advanceSwitch
  split
  · refine returns_ite.mpr ⟨fun _ => ?_, fun _ => returns_pure.mpr h.steady_refl⟩
    rw [cleanUpWorkspaces_of_still rfl]
    exact returns_ok.mpr (h.steady (m := m) fun _ hm => .of_still hm.active rfl)
  · rename_i g hg
    refine returns_pure.mpr (h.steady_gesture fun hm => ?_)
    have hcenter : (advanceGesture clock g).centerIdx = g.centerIdx := by
      unfold advanceGesture
      cases g.dndLastEventTime with
      | none => rfl
      | some lastTime => by_cases heq : lastTime ≠ clock.nowUnadjusted <;> simp [heq]
    rw [hcenter]
    exact hm.center g hg
  · exact returns_pure.mpr h.steady_refl

theorem advanceAnimations_steady (h : m.Sound) (clock : Clock) :
    Returns (m.advanceAnimations clock) fun t => Steady True [] m t := by
  unfold advanceAnimations
  simp only [returns_bind, returns_pure]
  refine (advanceSwitch_steady h clock).mono fun t ht => ht.then ?_
  exact ht.sound.steady_forall₂
    (ht.sound.forall₂_map fun ws hws => Workspace.advanceAnimations_rearranged hws clock)

theorem setOverviewProgress_steady (h : m.Sound) (clock : Clock)
    (progress : Option MonitorOverviewProgress) :
    Steady True [] m (m.setOverviewProgress clock progress) := by
  unfold setOverviewProgress
  simp only
  split
  · split_ifs
    · exact ⟨⟨h.workspaces, h.basePresets, h.presets⟩, .refl _, rfl, rfl,
        fun _ hm => ⟨hm.active, fun g hg => by cases hg⟩⟩
    · exact ⟨⟨h.workspaces, h.basePresets, h.presets⟩, .refl _, rfl, rfl,
        fun _ hm => ⟨hm.active, hm.center⟩⟩
  · exact ⟨⟨h.workspaces, h.basePresets, h.presets⟩, .refl _, rfl, rfl,
      fun _ hm => ⟨hm.active, hm.center⟩⟩

/-! ### Configuration and output -/

/-- Whether an update to some options removes the first workspace. -/
def DropsFirst (m : Monitor W Id) (options : Options) : Prop :=
  m.options.layout.emptyWorkspaceAboveFirst = true ∧
    options.layout.emptyWorkspaceAboveFirst = false ∧
      1 < m.workspaces.length ∧ m.workspaceSwitch.isNone = true ∧ m.activeWorkspaceIdx ≠ 0

instance (m : Monitor W Id) (options : Options) : Decidable (m.DropsFirst options) := by
  unfold DropsFirst
  infer_instance

/-- The workspaces that an update to some options leaves. -/
def keptWorkspaces (m : Monitor W Id) (options : Options) : List (Workspace W Id) :=
  if m.DropsFirst options then m.workspaces.tail else m.workspaces

/-- The outcome of an update of the configuration. -/
structure Reconfigured (kept : List (Workspace W Id)) (m t : Monitor W Id) : Prop where
  sound : t.Sound
  perm : t.windowIds.Perm (kept.flatMap (·.windowIds))
  ids_eq : t.workspaceIds = kept.map (·.id)
  output_eq : t.output = m.output
  inRange : m.InRange → t.InRange

omit [LayoutElement W Id] in
theorem trimFirst_eq (options : Options) : m.trimFirst options =
    if m.DropsFirst options then
      m.reframe m.workspaces.tail (m.activeWorkspaceIdx - 1) m.previousWorkspaceId m.workspaceSwitch
    else m := by
  unfold trimFirst addWorkspaceTop
  by_cases hdrops : m.DropsFirst options
  · rw [if_pos hdrops]
    obtain ⟨hon, hoff, hlen, hstill, hactive⟩ := hdrops
    rw [if_pos ⟨by simp [hon, hoff], hlen⟩, if_neg (by simp [hoff]), if_pos ⟨hstill, hactive⟩]
    rfl
  · rw [if_neg hdrops]
    split_ifs with hchanged hoff hstill
    · rfl
    · refine absurd ⟨?_, by simpa using hoff, hchanged.2, hstill⟩ hdrops
      cases hon : m.options.layout.emptyWorkspaceAboveFirst <;> simp_all
    · rfl
    · rfl

theorem updateConfig_spec (h : m.Sound) {baseOptions : Options}
    (hoptions : baseOptions.layout.HasPresets) :
    Reconfigured (m.keptWorkspaces (baseOptions.withMergedLayout m.layoutConfig)) m
      (m.updateConfig baseOptions) := by
  have hpresets := Options.hasPresets_withMergedLayout hoptions m.layoutConfig
  have hre : ∀ kept : List (Workspace W Id), (∀ ws ∈ kept, ws ∈ m.workspaces) →
      List.Forall₂ Workspace.Rearranged kept
        (kept.map (·.updateConfig (baseOptions.withMergedLayout m.layoutConfig))) := by
    intro kept hkept
    rw [List.forall₂_map_right_iff, List.forall₂_same]
    exact fun ws hws =>
      Workspace.updateConfig_rearranged (h.workspaces ws (hkept ws hws)).1 hpresets
  unfold updateConfig keptWorkspaces
  simp only [trimFirst_eq]
  split_ifs with hdrops
  · have hre' := hre m.workspaces.tail fun ws => List.mem_of_mem_tail
    refine ⟨⟨hosts_of_forall₂ (fun ws hws => h.workspaces ws (List.mem_of_mem_tail hws)) hre',
      hoptions, hpresets⟩, perm_of_forall₂ (hre'.imp fun _ _ h => h.perm),
      ids_of_forall₂ (hre'.imp fun _ _ h => h.id_eq), rfl, fun hm => ?_⟩
    have hactive := hm.active
    obtain ⟨-, -, hlen, hstill, -⟩ := hdrops
    refine .of_still ?_ (Option.isNone_iff_eq_none.mp hstill)
    simp only [activeWorkspaceIdx_reframe, workspaces_reframe, List.length_map, List.length_tail]
    omega
  · have hre' := hre m.workspaces fun ws hws => hws
    exact ⟨⟨hosts_of_forall₂ h.workspaces hre', hoptions, hpresets⟩,
      perm_of_forall₂ (hre'.imp fun _ _ h => h.perm),
      ids_of_forall₂ (hre'.imp fun _ _ h => h.id_eq), rfl,
      fun hm => ⟨by simpa using hm.active, fun g hg => by simpa using hm.center g hg⟩⟩

theorem updateLayoutConfig_spec (h : m.Sound) (layoutConfig : Option LayoutPart) :
    (m.updateLayoutConfig layoutConfig = m ∧ m.layoutConfig = layoutConfig) ∨
      Reconfigured (m.keptWorkspaces (m.baseOptions.withMergedLayout layoutConfig)) m
        (m.updateLayoutConfig layoutConfig) := by
  unfold updateLayoutConfig
  split_ifs with heq
  · exact .inl ⟨rfl, heq⟩
  · right
    have hm : ({ m with layoutConfig } : Monitor W Id).Sound :=
      ⟨h.workspaces, h.basePresets, h.presets⟩
    have hre := updateConfig_spec hm h.basePresets
    exact ⟨hre.sound, hre.perm, hre.ids_eq, hre.output_eq,
      fun hin => hre.inRange ⟨hin.active, hin.center⟩⟩

/-- The outputs of the workspaces are that of the monitor. -/
theorem updateOutputSize_spec (h : m.Sound) (output : Output) :
    Returns (m.updateOutputSize output) fun t => t.Sound ∧ t.windowIds.Perm m.windowIds ∧
      t.workspaceIds = m.workspaceIds ∧ t.output = output ∧ (m.InRange → t.InRange) := by
  unfold updateOutputSize
  simp only [returns_bind, returns_pure]
  refine (guarded_true.mp (Vec.guarded_mapM (S := Workspace.Rearranged) fun ws hws => ?_)).mono
    fun workspaces hre => ?_
  · obtain ⟨hwf, hout⟩ := h.workspaces ws hws
    obtain ⟨o, ho⟩ := Option.isSome_iff_exists.mp hout
    have hrelabel := hwf.relabel ws.layoutConfig ws.scale ws.viewSize ws.workingArea
      (some output) ws.originalOutput fun _ => rfl
    simp only [ho, Option.map_some]
    exact ((Workspace.updateOutputSize_rearranged hrelabel.wellFormed rfl).mono
      fun t ht => hrelabel.trans ht).guarded
  · have hs := h.steady_forall₂ hre
    exact ⟨⟨hs.sound.workspaces, h.basePresets, h.presets⟩, hs.perm, hs.ids_eq, trivial,
      fun hm => ⟨(hs.inRange trivial hm).active, (hs.inRange trivial hm).center⟩⟩

theorem unnameWorkspace_steady (h : m.Sound) (id : WorkspaceId) :
    Returns (m.unnameWorkspace id) fun r => Steady True [] m r.1 := by
  unfold unnameWorkspace
  cases hidx : m.workspaces.findIdx? fun ws => ws.id = id with
  | none => exact returns_pure.mpr h.steady_refl
  | some i =>
    obtain ⟨hi, -, -⟩ := List.findIdx?_eq_some_iff_getElem.mp hidx
    have hget := List.getElem?_eq_getElem hi
    have hhosts := h.get hget
    have hs := h.replace hget (show Hosts m.workspaces[i].unname from
      ⟨Workspace.unname_wellFormed hhosts.1, hhosts.2⟩) rfl (List.Perm.refl ([] ++ _))
    have hset : m.workspaces.modify i (·.unname) = m.workspaces.set i m.workspaces[i].unname := by
      rw [List.modify_eq_set_getElem?, hget]
      rfl
    simp only [returns_bind, returns_pure, cleanUpIfStill_eq, returns_ok, hset]
    exact hs

end Monitor

end Sol
