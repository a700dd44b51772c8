import Sol.LayoutSpecs

/-!
# Upkeep keeps the layout sound

Gestures, names of workspaces, the configuration, and what is done for every frame.

* `workspaceSwitchGestureEnd_kept`, `setWorkspaceName_kept`, `ensureNamedWorkspace_kept`;
* `updateOptions_reconfigured`: what an update of the configuration leaves;
* `advanceAnimations_kept`, `refresh_kept`: frames.
-/

namespace Sol

open Panicking

variable {W Id : Type} [LayoutElement W Id]

namespace Monitor

variable {m t : Monitor W Id} {c r : Prop}

/-- A workspace comes with its windows. -/
theorem insertWorkspace_kept (h : m.Sound) (clock : Clock) {ws : Workspace W Id}
    (hws : ws.WellFormed) (idx : ℕ) (activate : Bool) :
    Guarded (idx ≤ m.workspaces.length ∧ m.activeWorkspaceIdx < m.workspaces.length)
      (m.insertWorkspace clock ws idx activate) (Kept True False ws.windowIds m) := by
  refine (insertWorkspace_spec clock ws idx activate).mono fun t ht => ?_
  obtain ⟨ws', k, previous, hattached, hk, -, rfl⟩ := ht
  obtain ⟨hre, houtput⟩ := hattached.rearranged hws h.presets
  have hperm := List.perm_insertIdx ws' m.workspaces hk
  refine ⟨h.reframe _ _ _ fun u hu => ?_, ?_, rfl, False.elim, fun _ hin => .of_still ?_ rfl⟩
  · rcases List.mem_cons.mp (hperm.mem_iff.mp hu) with rfl | hu
    · exact ⟨hre.wellFormed, houtput⟩
    · exact h.workspaces u hu
  · exact (hperm.flatMap_right _).trans (hre.perm.append_right _)
  · rw [activeWorkspaceIdx_reframe, workspaces_reframe, List.length_insertIdx_of_le_length hk]
    split_ifs
    · omega
    · exact FocusList.afterInsert_lt hin.active

/-- The windows of the first workspace, where an update removes it. -/
def droppedIds (m : Monitor W Id) (options : Options) : List Id :=
  if m.DropsFirst options then m.workspaces.head?.toList.flatMap (·.windowIds) else []

/-- An update takes out what it drops. -/
theorem Reconfigured.lost {options : Options} (h : Reconfigured (m.keptWorkspaces options) m t) :
    Lost True (¬m.DropsFirst options) (m.droppedIds options) m t := by
  refine ⟨h.sound, ?_, congrArg Output.key h.output_eq, fun hkeeps => ?_, fun _ => h.inRange⟩
  · refine List.Perm.trans (.of_eq ?_) (h.perm.symm.append_left _)
    unfold windowIds droppedIds keptWorkspaces
    split_ifs
    · cases m.workspaces with
      | nil => rfl
      | cons first rest => simp
    · rfl
  · rw [h.ids_eq, keptWorkspaces, if_neg hkeeps]
    rfl

/-- The same after the workspaces were rearranged. -/
theorem updateConfig_lost (h : m.Sound) {baseOptions : Options}
    (hoptions : baseOptions.layout.HasPresets) {wss : List (Workspace W Id)}
    (hre : List.Forall₂ Workspace.Rearranged m.workspaces wss) :
    Lost True (¬m.DropsFirst (baseOptions.withMergedLayout m.layoutConfig))
      (m.droppedIds (baseOptions.withMergedLayout m.layoutConfig)) m
      ({ m with workspaces := wss }.updateConfig baseOptions) := by
  have hsteady := h.steady_forall₂ hre
  have hlost := (updateConfig_spec hsteady.sound hoptions).lost
  have hdrops : ({ m with workspaces := wss } : Monitor W Id).DropsFirst
      (baseOptions.withMergedLayout m.layoutConfig) ↔
        m.DropsFirst (baseOptions.withMergedLayout m.layoutConfig) := by
    unfold DropsFirst
    rw [hre.length_eq]
  have hdropped : (m.droppedIds (baseOptions.withMergedLayout m.layoutConfig)).Perm
      (({ m with workspaces := wss } : Monitor W Id).droppedIds
        (baseOptions.withMergedLayout m.layoutConfig)) := by
    simp only [droppedIds, hdrops]
    split_ifs
    · generalize m.workspaces = workspaces at hre
      cases hre with
      | nil => exact .refl _
      | cons hfirst _ => simpa using hfirst.perm.symm
    · exact .refl _
  exact ⟨hlost.sound, hsteady.perm.symm.trans (hlost.perm.trans (hdropped.symm.append_right _)),
    hlost.key_eq, fun hkeeps => (hlost.ids_eq (hkeeps ∘ hdrops.mp)).trans hsteady.ids_eq,
    fun hc hm => hlost.inRange hc (hsteady.inRange trivial hm)⟩

/-- The windows that other overrides of the output take out. -/
def droppedByConfig (m : Monitor W Id) (layoutConfig : Option LayoutPart) : List Id :=
  if m.layoutConfig = layoutConfig then []
  else m.droppedIds (m.baseOptions.withMergedLayout layoutConfig)

theorem updateLayoutConfig_lost (h : m.Sound) (layoutConfig : Option LayoutPart) :
    Lost True (m.layoutConfig = layoutConfig ∨
        ¬m.DropsFirst (m.baseOptions.withMergedLayout layoutConfig))
      (m.droppedByConfig layoutConfig) m (m.updateLayoutConfig layoutConfig) := by
  unfold droppedByConfig
  by_cases hsame : m.layoutConfig = layoutConfig
  · rw [if_pos hsame, updateLayoutConfig, if_pos hsame]
    exact ⟨h, .refl _, rfl, fun _ => rfl, fun _ hm => hm⟩
  · rw [if_neg hsame]
    rcases updateLayoutConfig_spec h layoutConfig with ⟨-, heq⟩ | hre
    · exact absurd heq hsame
    · obtain ⟨hsound, hperm, hkey, hids, hin⟩ := hre.lost
      exact ⟨hsound, hperm, hkey, fun hr => hids (hr.resolve_left hsame), hin⟩

theorem updateOutputSize_kept (h : m.Sound) {output : Output} (hkey : output.key = m.output.key) :
    Returns (m.updateOutputSize output) (Kept c r [] m) :=
  (updateOutputSize_spec h output).mono fun _ ⟨hsound, hperm, hids, houtput, hin⟩ =>
    ⟨hsound, hperm, houtput ▸ hkey, fun _ => hids, fun _ => hin⟩

end Monitor

namespace Layout

variable {l t : Layout W Id} {g c r : Prop}

/-! ### Gestures -/

/-- Some output is connected. -/
def HasOutputs (l : Layout W Id) : Prop := ∃ ms p a, l.monitorSet = .normal ms p a

omit [LayoutElement W Id] in
theorem not_hasOutputs {wss : List (Workspace W Id)} (h : l.monitorSet = .noOutputs wss) :
    ¬l.HasOutputs := by
  rintro ⟨ms, p, a, hset⟩
  rw [h] at hset
  cases hset

theorem workspaceSwitchGestureBegin_kept (h : l.Sound) (clock : Clock) (output : Output)
    (isTouchpad : Bool) :
    Guarded (l.InRange ∧ l.HasOutputs) (l.workspaceSwitchGestureBegin clock output isTouchpad)
      (Kept c r [] l) := by
  unfold workspaceSwitchGestureBegin
  cases hset : l.monitorSet with
  | noOutputs wss => exact guarded_throw.mpr fun hg => not_hasOutputs hset hg.2
  | normal ms p a =>
    refine mapMonitors_kept h fun m _ hm hin => ?_
    simp only [guarded_ite, guarded_bind, guarded_pure]
    refine ⟨fun _ => ?_, fun _ => ?_⟩
    · exact ((Monitor.workspaceSwitchGestureEnd_steady hm clock none).weaken fun hg =>
        hin hg.1).mono fun _ ht => ht.kept.weaken (fun _ => trivial) id
    · exact (Monitor.workspaceSwitchGestureBegin_steady hm clock isTouchpad).kept.weaken
        (fun _ => trivial) id

/-- An operation that is tried on one monitor after the other. -/
theorem applyUntil_kept {β : Type} (h : l.Sound) {ms : List (Monitor W Id)} {p a : ℕ}
    (hset : l.monitorSet = .normal ms p a) {f : Monitor W Id → Outcome (Monitor W Id × Option β)}
    (hf : ∀ m ∈ l.monitors, m.Sound → (l.InRange → m.InRange) →
      Guarded g (f m) fun found => Monitor.Kept c r [] m found.1) :
    Guarded g (Vec.applyUntil f ms) fun found => Kept c r [] l (l.withMonitors found.1 p a) := by
  have hmonitors := monitors_of_normal hset
  have hms : ∀ m ∈ ms, m.Sound := hmonitors ▸ h.monitors
  refine (Vec.guarded_applyUntil (S := Monitor.Kept c r []) (p := fun _ => False)
    (fun m hm => (hms m hm).kept_refl) fun m hm => ?_).mono fun found hf' =>
      h.kept_forall₂ hset hf'.1 fun _ hl => (hl.indices _ _ _ hset).2
  have hmem : m ∈ l.monitors := hmonitors ▸ hm
  exact (hf m hmem (hms m hm) fun hl => hl.monitors m hmem).mono fun _ ht => ⟨ht, False.elim⟩

theorem workspaceSwitchGestureUpdate_kept (h : l.Sound) (clock : Clock) (deltaY : ℚ)
    (timestamp : Duration) (isTouchpad : Bool) :
    Guarded l.InRange (l.workspaceSwitchGestureUpdate clock deltaY timestamp isTouchpad)
      (Kept c r [] l) := by
  unfold workspaceSwitchGestureUpdate
  cases hset : l.monitorSet with
  | noOutputs wss => exact guarded_pure.mpr (.refl h)
  | normal ms p a =>
    simp only [guarded_bind, guarded_pure]
    exact applyUntil_kept h hset fun m _ hm hin =>
      ((Monitor.workspaceSwitchGestureUpdate_steady hm clock deltaY timestamp isTouchpad).weaken
        hin).mono fun _ ht => ht.kept.weaken (fun _ => trivial) id

theorem workspaceSwitchGestureEnd_kept (h : l.Sound) (clock : Clock) (isTouchpad : Option Bool) :
    Guarded l.InRange (l.workspaceSwitchGestureEnd clock isTouchpad) (Kept c r [] l) := by
  unfold workspaceSwitchGestureEnd
  cases hset : l.monitorSet with
  | noOutputs wss => exact guarded_pure.mpr (.refl h)
  | normal ms p a =>
    simp only [guarded_bind, guarded_pure]
    refine applyUntil_kept h hset fun m _ hm hin => ?_
    simp only [guarded_bind, guarded_pure]
    exact ((Monitor.workspaceSwitchGestureEnd_steady hm clock isTouchpad).weaken hin).mono
      fun _ ht => ht.kept.weaken (fun _ => trivial) id

theorem viewOffsetGestureBegin_kept (h : l.Sound) :
    Guarded l.HasOutputs l.viewOffsetGestureBegin (Kept c r [] l) := by
  unfold viewOffsetGestureBegin
  cases hset : l.monitorSet with
  | noOutputs wss => exact guarded_throw.mpr (not_hasOutputs hset)
  | normal ms p a => exact guarded_pure.mpr (.refl h)

theorem dndUpdate_kept (h : l.Sound) (clock : Clock) (output : Output) (pos : Point) :
    Returns (l.dndUpdate clock output pos) (Kept c r [] l) := by
  have hset : Kept c r [] l { l with dnd := some ⟨output, pos, none⟩ } :=
    h.kept_of_monitorSet rfl rfl h.presets
  unfold dndUpdate
  simp only [returns_ite, returns_pure]
  refine ⟨fun _ => ?_, fun _ => hset⟩
  refine guarded_true.mp ((mapMonitors_kept hset.sound fun m _ hm _ =>
    guarded_pure.mpr ?_).mono fun t ht => hset.then ht)
  exact (Monitor.dndScrollGestureBegin_steady hm clock).kept.weaken (fun _ => trivial) id

/-- The scrolling of a drag ends on all monitors, and `l'` is `l` apart from the drag. -/
theorem dndScrollGestureEnd_kept {l' : Layout W Id} (hset : Kept c r [] l l') (clock : Clock)
    (hin : l.InRange → l'.InRange) :
    Guarded l.InRange (l'.mapMonitors (·.dndScrollGestureEnd clock)) (Kept c r [] l) :=
  (mapMonitors_kept hset.sound fun _ _ hm hm' =>
    ((Monitor.dndScrollGestureEnd_steady hm clock).weaken (hm' ∘ hin)).mono
      fun _ ht => ht.kept.weaken (fun _ => trivial) id).mono fun _ ht => hset.then ht

theorem dndEnd_kept (h : l.Sound) (clock : Clock) :
    Guarded l.InRange (l.dndEnd clock) (Kept c r [] l) := by
  unfold dndEnd
  simp only [guarded_ite, guarded_pure]
  refine ⟨fun _ => .refl h, fun _ => ?_⟩
  have hset : Kept c r [] l { l with dnd := none } := h.kept_of_monitorSet rfl rfl h.presets
  exact dndScrollGestureEnd_kept hset clock fun hl => ⟨hl.monitors, hl.indices⟩

/-! ### Names of workspaces -/

omit [LayoutElement W Id] in
/-- The workspace that is meant is one of the layout. -/
theorem findWorkspaceByRef_spec (reference : Option WorkspaceReference) :
    Guarded l.InRange (l.findWorkspaceByRef reference) fun found =>
      ∀ ws ∈ found, ws ∈ l.workspaces := by
  have hmem : ∀ {ms : List (Monitor W Id)} {p a i : ℕ} {m : Monitor W Id} {ws : Workspace W Id},
      l.monitorSet = .normal ms p a → ms[a]? = some m → m.workspaces[i]? = some ws →
        ws ∈ l.workspaces := by
    intro ms p a i m ws hset hm hws
    have hmon : m ∈ l.monitors := monitors_of_normal hset ▸ List.mem_of_getElem? hm
    exact mem_workspaces_of_monitor hmon (List.mem_of_getElem? hws)
  unfold findWorkspaceByRef
  split
  · split
    next ms p a hset =>
      simp only [Monitor.activeWorkspaceRef, guarded_bind, guarded_pure, Vec.guarded_get]
      refine ⟨fun m hm => ⟨fun ws hws _ hws' => ?_, fun hl => ?_⟩,
        fun hl => (hl.indices _ _ _ hset).2⟩
      · cases hws'
        exact hmem hset hm hws
      · exact (hl.monitors m (monitors_of_normal hset ▸ List.mem_of_getElem? hm)).active
    next => simp
  · split
    next ms p a hset =>
      simp only [guarded_bind, guarded_pure, Vec.guarded_get]
      exact ⟨fun m hm ws hws => hmem hset hm hws, fun hl => (hl.indices _ _ _ hset).2⟩
    next => simp
  · exact guarded_pure.mpr fun ws hws => List.mem_of_find?_eq_some hws
  · exact guarded_pure.mpr fun ws hws => List.mem_of_find?_eq_some hws

omit [LayoutElement W Id] in
theorem checkActiveMonitor_spec : Guarded l.InRange l.checkActiveMonitor fun _ => True := by
  unfold checkActiveMonitor
  split
  next ms p a hset =>
    simp only [guarded_bind, guarded_pure, Vec.guarded_get]
    exact ⟨fun _ _ => trivial, fun hl => (hl.indices _ _ _ hset).2⟩
  next => simp

theorem setWorkspaceName_kept [DecidableEq Id] (h : l.Sound) (name : String)
    (reference : Option WorkspaceReference) :
    Guarded l.InRange (l.setWorkspaceName name reference) (Kept c r [] l) := by
  unfold setWorkspaceName
  simp only [guarded_ite, guarded_bind, guarded_pure]
  refine ⟨fun _ => .refl h, fun _ => (findWorkspaceByRef_spec reference).mono fun found _ => ?_⟩
  cases found with
  | none => exact guarded_pure.mpr (.refl h)
  | some ws =>
    simp only [guarded_bind, guarded_pure]
    refine (onFirstWorkspace_kept (c := c) (r := r) h fun u _ _ hwf =>
      guarded_pure.mpr ?_).mono fun found hfound => checkActiveMonitor_spec.mono fun _ _ => ?_
    · exact ⟨⟨hwf.scrolling, hwf.floating, hwf.floating_of_active, hwf.active_of_empty,
        hwf.basePresets, hwf.presets⟩, .refl _, rfl, id⟩
    · cases found with
      | none => exact .refl h
      | some t => exact hfound.1 t rfl

theorem unnameWorkspaceById_kept (h : l.Sound) (id : WorkspaceId) :
    Returns (l.unnameWorkspaceById id) (Kept c r [] l) := by
  unfold unnameWorkspaceById
  refine guarded_true.mp ?_
  cases hset : l.monitorSet with
  | normal ms p a =>
    simp only [guarded_bind, guarded_pure]
    refine applyUntil_kept h hset fun m _ hm _ => ?_
    simp only [guarded_bind, guarded_pure]
    exact (Monitor.unnameWorkspace_steady hm id).guarded.mono
      fun _ ht => ht.kept.weaken (fun _ => trivial) fun hr => hr
  | noOutputs wss =>
    have hdetached : ∀ ws ∈ wss, ws.WellFormed := detached_of_noOutputs hset ▸ h.detached
    dsimp only
    cases hidx : wss.findIdx? fun ws => ws.id = id with
    | none => exact guarded_pure.mpr (.refl h)
    | some idx =>
      simp only [guarded_bind, guarded_pure, Vec.guarded_get]
      obtain ⟨hlt, -⟩ := List.findIdx?_eq_some_iff_getElem.mp hidx
      refine ⟨fun ws hws => ?_, fun _ => hlt⟩
      split_ifs with hwindows
      · exact h.kept_detached hset (Vec.forall_mem_set hdetached
          (Workspace.unname_wellFormed (hdetached ws (List.mem_of_getElem? hws))))
          (Vec.flatMap_set_gain hws (show List.Perm _ ([] ++ _) from .refl _))
      · -- the workspace that goes is empty
        have hempty : ws.windowIds = [] := by
          rw [Workspace.hasWindows_iff] at hwindows
          exact not_not.mp hwindows
        refine h.kept_detached hset
          (fun ws hws => hdetached ws (List.mem_of_mem_eraseIdx hws)) ?_
        obtain ⟨hlt, rfl⟩ := List.getElem?_eq_some_iff.mp hws
        have hperm := (List.getElem_cons_eraseIdx_perm hlt).flatMap_right (·.windowIds)
        rwa [List.flatMap_cons, hempty, List.nil_append] at hperm

theorem unsetWorkspaceName_kept (h : l.Sound) (reference : Option WorkspaceReference) :
    Guarded l.InRange (l.unsetWorkspaceName reference) (Kept c r [] l) := by
  unfold unsetWorkspaceName
  rw [guarded_bind]
  refine (findWorkspaceByRef_spec reference).mono fun found _ => ?_
  cases found with
  | none => exact guarded_pure.mpr (.refl h)
  | some ws => exact (unnameWorkspaceById_kept h ws.id).guarded

theorem unnameWorkspace_kept (h : l.Sound) (name : String) :
    Guarded l.InRange (l.unnameWorkspace name) (Kept c r [] l) := unsetWorkspaceName_kept h _

theorem ensureNamedWorkspace_kept (h : l.Sound) (clock : Clock) (wsConfig : WorkspaceConfig) :
    Guarded l.InRange (l.ensureNamedWorkspace clock wsConfig) (Kept True False [] l) := by
  unfold ensureNamedWorkspace
  rw [guarded_ite]
  refine ⟨fun _ => guarded_pure.mpr (.refl h), fun _ => ?_⟩
  cases hset : l.monitorSet with
  | noOutputs wss =>
    have hwf : (Workspace.newWithConfigNoOutputs l.nextWorkspaceId (some wsConfig) l.options :
        Workspace W Id).WellFormed :=
      Workspace.wellFormed_newWithConfigNoOutputs l.nextWorkspaceId (some wsConfig) h.presets
    have hkept : Kept True False [] l { l with monitorSet := .noOutputs (_ :: wss) } :=
      h.kept_detached hset
        (List.forall_mem_cons.mpr ⟨hwf, detached_of_noOutputs hset ▸ h.detached⟩) (.refl _)
    exact guarded_pure.mpr (hkept.then (hkept.sound.kept_of_monitorSet rfl rfl h.presets))
  | normal ms p a =>
    have hmonitors := monitors_of_normal hset
    simp only [guarded_bind, guarded_pure, Vec.guarded_apply]
    refine ⟨fun m hm => ?_, fun hl => ?_⟩
    · have hmem : m ∈ l.monitors := hmonitors ▸ List.mem_of_getElem? hm
      refine ((Monitor.insertWorkspace_kept (h.monitors m hmem) clock
        (Workspace.wellFormed_newWithConfig _ _ _ h.presets) 0 false).weaken fun hl =>
          ⟨Nat.zero_le _, (hl.monitors m hmem).active⟩).mono fun t ht => ?_
      have hkept := h.kept_set hset hm ht fun _ hl => (hl.indices _ _ _ hset).2
      exact hkept.then (hkept.sound.kept_of_monitorSet rfl rfl h.presets)
    · obtain ⟨hp, ha⟩ := hl.indices _ _ _ hset
      split
      next name _ =>
        cases hfind : ms.findIdx? fun m => m.output.name.matches name with
        | none => exact hp
        | some i => exact (List.findIdx?_eq_some_iff_getElem.mp hfind).1
      · exact ha

/-! ### Configuration -/

/-- The windows that an update to some options takes out. -/
def droppedIds (l : Layout W Id) (options : Options) : List Id :=
  l.monitors.flatMap fun m => m.droppedIds (options.withMergedLayout m.layoutConfig)

/-- The drag after an update to some options. -/
def updatedMove (l : Layout W Id) (options : Options) : Option (InteractiveMoveState W Id) :=
  match l.moved with
  | some data => some (.moving (data.updateTileConfig options))
  | none => l.interactiveMove

/-- The dragged window is updated, and the options are replaced. -/
theorem Sound.kept_options (h : l.Sound) {options : Options} (hoptions : options.layout.HasPresets)
    {interactiveMove : Option (InteractiveMoveState W Id)}
    (hmove : interactiveMove = l.updatedMove options) :
    Kept c r [] l { l with interactiveMove, options } := by
  refine h.kept_of_monitorSet rfl ?_ hoptions
  subst hmove
  unfold updatedMove
  cases hmoved : l.moved with
  | none =>
    unfold moved at hmoved
    simp only [movedIds, moved, hmoved]
  | some data =>
    simp only [movedIds, hmoved]
    rfl

theorem updateOptions_of_noOutputs {wss : List (Workspace W Id)}
    (hset : l.monitorSet = .noOutputs wss) (options : Options) :
    l.updateOptions options = .ok { l with
      monitorSet := .noOutputs (wss.map (·.updateConfig options))
      interactiveMove := l.updatedMove options
      options } := by
  unfold updateOptions updatedMove
  cases hmoved : l.moved <;> simp [hset, pure, Except.pure, bind, Except.bind]

theorem updateOptions_of_normal {ms : List (Monitor W Id)} {p a : ℕ}
    (hset : l.monitorSet = .normal ms p a) (options : Options) :
    l.updateOptions options = .ok { l with
      monitorSet := .normal (ms.map (·.updateConfig options)) p a
      interactiveMove := l.updatedMove options
      options } := by
  unfold updateOptions updatedMove
  have hmap : ms.mapM (fun m => (pure (m.updateConfig options) : Outcome (Monitor W Id))) =
      .ok (ms.map (·.updateConfig options)) := Vec.mapM_eq_ok_map fun _ _ => rfl
  cases hmoved : l.moved <;> simp only [mapMonitors, hset, hmap] <;> rfl

theorem updateOptions_lost (h : l.Sound) {options : Options} (hoptions : options.layout.HasPresets)
    {f : Workspace W Id → Outcome (Workspace W Id)}
    (hf : ∀ ws : Workspace W Id, ws.WellFormed → Returns (f ws) ws.Rearranged) :
    Returns (l.mapWorkspaces f >>= (·.updateOptions options)) (Lost True
      (∀ m ∈ l.monitors, ¬m.DropsFirst (options.withMergedLayout m.layoutConfig))
      (l.droppedIds options) l) := by
  unfold droppedIds
  rw [returns_bind]
  cases hset : l.monitorSet with
  | noOutputs wss =>
    have hdetached : ∀ ws ∈ wss, ws.WellFormed := detached_of_noOutputs hset ▸ h.detached
    rw [monitors_of_noOutputs hset]
    simp only [mapWorkspaces, hset, returns_bind, returns_pure]
    refine (returns_mapM fun ws hws => hf ws (hdetached ws hws)).mono fun wss' hre => ?_
    have hall : List.Forall₂ Workspace.Rearranged wss (wss'.map (·.updateConfig options)) := by
      rw [List.forall₂_map_right_iff]
      exact hre.imp fun ws ws' hws =>
        hws.trans (Workspace.updateConfig_rearranged hws.wellFormed hoptions)
    rw [updateOptions_of_noOutputs rfl, returns_ok]
    have hkept := h.kept_rearranged (c := True) (r := False) hset hall
    exact ((h.kept_rearranged hset hall).then (hkept.sound.kept_options hoptions rfl)).lost
  | normal ms p a =>
    have hmonitors := monitors_of_normal hset
    rw [hmonitors]
    simp only [mapWorkspaces, mapMonitors, hset, returns_bind, returns_pure]
    have hmap : Returns (ms.mapM fun m => do
        let workspaces ← m.workspaces.mapM f
        pure { m with workspaces }) (List.Forall₂ (fun m m' =>
          Monitor.Lost True
            (∀ m ∈ ms, ¬m.DropsFirst (options.withMergedLayout m.layoutConfig))
            (m.droppedIds (options.withMergedLayout m.layoutConfig)) m
            (m'.updateConfig options)) ms) := by
      refine returns_mapM fun m hm => ?_
      have hsound := h.monitors m (hmonitors ▸ hm)
      simp only [returns_bind, returns_pure]
      refine (returns_mapM fun ws hws => hf ws (hsound.workspaces ws hws).1).mono fun wss hre => ?_
      exact (Monitor.updateConfig_lost hsound hoptions hre).weaken (fun hc => hc) fun hr => hr m hm
    refine hmap.mono fun ms' hms' => ?_
    rw [updateOptions_of_normal rfl, returns_ok]
    have hlost := h.lost_forall₂ hset (List.forall₂_map_right_iff.mpr hms')
    exact hlost.then (hlost.sound.kept_options hoptions rfl)

theorem updateConfig_lost (h : l.Sound) (configs : List WorkspaceConfig) {options : Options}
    (hoptions : options.layout.HasPresets) :
    Returns (l.updateConfig configs options) (Lost True
      (∀ m ∈ l.monitors, ¬m.DropsFirst (options.withMergedLayout m.layoutConfig))
      (l.droppedIds options) l) := by
  refine updateOptions_lost h hoptions fun ws hws => ?_
  split
  · exact returns_pure.mpr (Workspace.updateLayoutConfig_rearranged hws _)
  · exact returns_pure.mpr hws.rearranged_refl

theorem updateLayoutConfig_lost (h : l.Sound) (output : Output)
    (layoutConfig : Option LayoutPart) :
    Returns (l.updateLayoutConfig output layoutConfig) (Lost True
      (∀ m ∈ l.monitors, m.layoutConfig = layoutConfig ∨
        ¬m.DropsFirst (m.baseOptions.withMergedLayout layoutConfig))
      ((l.monitorForOutput output).toList.flatMap (·.droppedByConfig layoutConfig)) l) := by
  unfold updateLayoutConfig onMonitorFor
  cases hset : l.monitorSet with
  | noOutputs wss =>
    rw [monitorForOutput, monitors_of_noOutputs hset]
    exact returns_pure.mpr (Kept.refl h).lost
  | normal ms p a =>
    have hmonitors := monitors_of_normal hset
    rw [monitorForOutput, hmonitors, List.find?_eq_bind_findIdx?_getElem?]
    simp only [Vec.applyFirst, returns_bind]
    cases hfind : ms.findIdx? fun m => m.output.key = output.key with
    | none => exact returns_pure.mpr (returns_pure.mpr (Kept.refl h).lost)
    | some i =>
      obtain ⟨hi, -, -⟩ := List.findIdx?_eq_some_iff_getElem.mp hfind
      have hm : ms[i]? = some ms[i] := List.getElem?_eq_getElem hi
      have hmem : ms[i] ∈ l.monitors := hmonitors ▸ List.getElem_mem hi
      have hlost : Monitor.Lost True (∀ m ∈ ms, m.layoutConfig = layoutConfig ∨
          ¬m.DropsFirst (m.baseOptions.withMergedLayout layoutConfig)) _ ms[i] _ :=
        (Monitor.updateLayoutConfig_lost (h.monitors _ hmem) layoutConfig).weaken id
          fun hr => hr _ (List.getElem_mem hi)
      simp only [Vec.apply, Vec.get, hm, returns_bind, returns_pure, returns_ok, Option.bind_some,
        Option.toList_some, List.flatMap_singleton]
      exact h.lost_set hset hm hlost

/-- A monitor keeps the output that it is for. -/
theorem updateOutputSize_kept (h : l.Sound) (output : Output) :
    Returns (l.updateOutputSize output) (Kept c r [] l) := by
  have hfor : ∀ l' : Layout W Id, Kept c r [] l l' →
      Returns (l'.onMonitorFor output (·.updateOutputSize output)) (Kept c r [] l) := by
    intro l' hl'
    refine guarded_true.mp ((onMonitorFor_kept hl'.sound output fun m _ hkey hm _ => ?_).mono
      fun t ht => hl'.then ht)
    exact (Monitor.updateOutputSize_kept hm hkey.symm).guarded
  unfold updateOutputSize
  dsimp only
  cases hmoved : l.moved with
  | none => exact hfor _ (h.kept_of_monitorSet rfl rfl h.presets)
  | some data =>
    refine hfor _ (h.kept_of_monitorSet rfl ?_ h.presets)
    rw [movedIds, movedIds, hmoved]
    rfl

end Layout

end Sol
