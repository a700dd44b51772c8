import Sol.UpkeepSpecs

/-!
# Frames keep the layout sound

What the compositor does to the layout for every frame it draws.  A drag may scroll the
workspaces, and activate the window or the workspace that it is held over.

* `advanceAnimations_kept`, `refresh_kept`, `updateRenderElements_kept`.

Some of these panic where the geometry is out of order, and so what is said of them is about
the calls that return.
-/

namespace Sol

open Panicking

variable {W Id : Type} [LayoutElement W Id] {c r : Prop}

namespace Monitor

variable {m t : Monitor W Id}

/-- What a drag scrolls is the view. -/
theorem dndScroll_kept (h : m.Sound) (clock : Clock) (pos : Point) (isScrolling : Bool) :
    Ensures (m.dndScroll clock pos isScrolling) fun r' => Kept c r [] m r'.1 := by
  unfold dndScroll
  simp only [ensures_bind]
  refine (dndScrollGestureScroll_steady h clock pos _).ensures.mono fun scrolled ht => ?_
  have hkept : Kept c r [] m scrolled.1 := ht.kept.weaken (fun _ => trivial) fun hr => hr
  split
  · simp only [ensures_bind, ensures_unwrap, ensures_pure]
    exact fun _ _ _ _ => hkept
  · exact ensures_pure.mpr hkept

/-- What is only shown does not matter. -/
theorem Sound.kept_hint (h : m.Sound) (insertHint : Option InsertHint) :
    Kept c r [] m { m with insertHint } :=
  ⟨⟨h.workspaces, h.basePresets, h.presets⟩, .refl _, rfl, fun _ => rfl,
    fun _ hm => ⟨hm.active, hm.center⟩⟩

theorem updateInsertHint_kept (h : m.Sound) (clock : Clock) (data : InteractiveMoveData W) :
    Ensures (m.updateInsertHint clock data) (Kept c r [] m) := by
  unfold updateInsertHint
  simp only [ensures_bind, ensures_pure]
  have hany : Ensures (m.dropPosition clock data) fun _ => True := fun _ _ => trivial
  exact hany.mono fun _ _ => h.kept_hint _

variable [DecidableEq Id]

theorem activateHeld_kept (h : m.Sound) (clock : Clock) (target : DndHoldTarget Id)
    (config : Option AnimationConfig) :
    Ensures (m.activateHeld clock target config) (Kept c r [] m) := by
  -- the workspace that gets active is one of the monitor
  have hactivate : ∀ (t : Monitor W Id) idx, Steady True [] m t → idx < m.workspaces.length →
      Ensures (t.dndScrollGestureEnd clock >>= fun u =>
        u.activateWorkspaceWithAnimConfig clock idx config) (Kept c r [] m) := by
    intro t idx ht hidx
    rw [ensures_bind]
    refine (dndScrollGestureEnd_steady ht.sound clock).ensures.mono fun u hu => ?_
    refine (activateWorkspaceWithAnimConfig_steady hu.sound clock idx config).ensures.mono
      fun v hv => ?_
    have hlen : idx < u.workspaces.length := by
      rw [hu.length_eq, ht.length_eq]
      exact hidx
    exact (ht.then (hu.then (hv.1.weaken fun _ => hlen))).kept.weaken (fun _ => trivial)
      fun hr => hr
  unfold activateHeld
  cases target with
  | window id =>
    simp only [ensures_bind, ensures_unwrap, ensures_pure]
    have huntil := Vec.guarded_applyUntil (c := True) (l := m.workspaces)
      (S := Workspace.Rearranged) (p := fun _ => False)
      (g := fun ws : Workspace W Id => do
        let r ← ws.activateWindow id
        pure (r.1, if r.2 then some () else none))
      (fun ws hws => (h.workspaces ws hws).1.rearranged_refl) fun ws hws => by
        simp only [guarded_bind, guarded_pure]
        exact (Workspace.activateWindow_rearranged (h.workspaces ws hws).1 id).guarded.mono
          fun _ hws' => ⟨hws', False.elim⟩
    refine huntil.ensures.mono fun found hf result hresult => ?_
    exact ensures_bind.mp (hactivate _ result.1 (h.steady_forall₂ hf.1) (hf.2.1 result hresult))
  | workspace id =>
    simp only [ensures_bind, ensures_unwrap, ensures_pure]
    intro idx hidx
    exact ensures_bind.mp (hactivate _ idx h.steady_refl
      (List.findIdx?_eq_some_iff_getElem.mp hidx).1)

/-- The windows are told which of them is active. -/
theorem refresh_kept (h : m.Sound) (clock : Clock) (isActive dragging overviewOpen : Bool) :
    Guarded m.InRange (m.refresh clock isActive dragging overviewOpen) (Kept c r [] m) := by
  have hall : ∀ t : Monitor W Id, Steady True [] m t → Kept c r [] m { t with
      workspaces := t.workspaces.mapIdx fun idx ws =>
        ws.refresh isActive (isActive && idx == t.activeWorkspaceIdx) } := by
    intro t ht
    have hre : List.Forall₂ Workspace.Rearranged t.workspaces (t.workspaces.mapIdx fun idx ws =>
        ws.refresh isActive (isActive && idx == t.activeWorkspaceIdx)) := by
      rw [List.forall₂_iff_get]
      refine ⟨by simp, fun i hi hi' => ?_⟩
      simp only [List.get_eq_getElem, List.getElem_mapIdx]
      exact Workspace.refresh_rearranged (ht.sound.workspaces _ (List.getElem_mem hi)).1 _ _
    exact (ht.then (ht.sound.steady_forall₂ hre)).kept.weaken (fun _ => trivial) fun hr => hr
  unfold refresh
  simp only [guarded_ite, guarded_bind, guarded_pure]
  exact ⟨fun _ => hall _ (dndScrollGestureBegin_steady h clock),
    fun _ => ⟨fun _ => (dndScrollGestureEnd_steady h clock).mono hall,
      fun _ => hall m h.steady_refl⟩⟩

end Monitor

namespace Layout

variable {l t : Layout W Id}

/-! ### Drags -/

/-- Whatever becomes of a dragged tile, it holds the same window. -/
theorem Sound.kept_dragged (h : l.Sound) {f : InteractiveMoveData W → InteractiveMoveData W}
    (hf : ∀ data, (f data).tile.windowId = data.tile.windowId) :
    Kept c r [] l (match l.moved with
      | some data => { l with interactiveMove := some (.moving (f data)) }
      | none => l) := by
  cases hmoved : l.moved with
  | none => exact .refl h
  | some data => exact h.kept_moving hmoved (hf data)

/-- The focus goes to an output. -/
theorem focusOutput_kept (h : l.Sound) (output : Output) : Kept c r [] l (l.focusOutput output) := by
  unfold focusOutput
  cases hset : l.monitorSet with
  | noOutputs wss => exact .refl h
  | normal ms p a =>
    have hmonitors := monitors_of_normal hset
    refine h.kept_withMonitors hset (hmonitors ▸ h.monitors) (.refl _) (fun _ => rfl)
      fun _ hl => ⟨hmonitors ▸ hl.monitors, (hl.indices _ _ _ hset).1, ?_⟩
    cases hfind : ms.findIdx? fun m => m.output.key = output.key with
    | none => exact (hl.indices _ _ _ hset).2
    | some i => exact (List.findIdx?_eq_some_iff_getElem.mp hfind).1

variable [DecidableEq Id]

theorem advanceHold_kept (h : l.Sound) (clock : Clock) (dnd : DndData Id) (mon : Monitor W Id)
    (scrolled : Bool) (hit : Option Id) :
    Ensures (l.advanceHold clock dnd mon scrolled hit) (Kept c r [] l) := by
  have hdnd : ∀ dnd, Kept c r [] l { l with dnd } := fun dnd =>
    h.kept_of_monitorSet rfl rfl h.presets
  unfold advanceHold
  split
  · exact ensures_pure.mpr (hdnd _)
  next target _ =>
    -- what the drag is held over gets active
    have hactivate : ∀ config, Ensures ({ l with dnd := some { dnd with hold := none } }.onMonitorFor
        dnd.output (·.activateHeld clock target config)) (Kept c r [] l) := fun config =>
      (onMonitorFor_kept (g := False) (hdnd _).sound dnd.output fun m _ _ hm _ =>
        ⟨Monitor.activateHeld_kept hm clock target config, False.elim⟩).ensures.mono
          fun t ht => (hdnd _).then ht
    simp only [ensures_ite, ensures_bind, ensures_pure]
    refine ⟨fun _ => (hactivate _).mono fun t ht => ?_, fun _ => hdnd _⟩
    have hfocus := focusOutput_kept (c := c) (r := r) ht.sound dnd.output
    exact (closeOverview_kept hfocus.sound clock).ensures.mono fun u hu => ht.then (hfocus.then hu)

theorem advanceDrag_kept (h : l.Sound) (clock : Clock) (hit : Option Id) :
    Ensures (l.advanceDrag clock hit) (Kept c r [] l) := by
  unfold advanceDrag
  split
  next output pos isScrolling ms p a _ hset =>
    have hmonitors := monitors_of_normal hset
    split
    · exact ensures_pure.mpr (.refl h)
    next i _ =>
      rw [ensures_bind]
      refine Guarded.ensures (c := False) ?_
      rw [Vec.guarded_update]
      refine ⟨fun m hm => ⟨?_, False.elim⟩, False.elim⟩
      simp only [ensures_bind, ensures_pure]
      have hmem : m ∈ l.monitors := hmonitors ▸ List.mem_of_getElem? hm
      refine (Monitor.dndScroll_kept (c := c) (r := r) (h.monitors m hmem) clock pos
        isScrolling).mono fun scrolled hscrolled => ?_
      have hkept := h.kept_set hset hm hscrolled fun _ hl => (hl.indices _ _ _ hset).2
      split
      · rw [ensures_bind, Vec.ensures_get]
        exact fun mon _ => (advanceHold_kept hkept.sound clock _ mon scrolled.2 hit).mono
          fun t ht => hkept.then ht
      · exact ensures_pure.mpr hkept
  · exact ensures_pure.mpr (.refl h)

/-- The view scrolls for a drag, and the animations go on. -/
theorem advanceAnimations_kept (h : l.Sound) (clock : Clock) (hit : Option Id) :
    Ensures (l.advanceAnimations clock hit) (Kept c r [] l) := by
  have hmonitors : ∀ (t : Layout W Id) progress, Kept c r [] l t →
      Ensures (t.mapMonitors fun mon =>
        (mon.setOverviewProgress clock progress).advanceAnimations clock) (Kept c r [] l) := by
    intro t progress ht
    refine (mapMonitors_kept (g := False) ht.sound fun m _ hm _ => ?_).ensures.mono
      fun u hu => ht.then hu
    have hprogress := Monitor.setOverviewProgress_steady hm clock progress
    exact (Monitor.advanceAnimations_steady hprogress.sound clock).guarded.mono fun u hu =>
      (hprogress.then hu).kept.weaken (fun _ => trivial) fun hr => hr
  have hmove := h.kept_dragged (c := c) (r := r) (f := fun data =>
    { data with tile := data.tile.advanceAnimations clock }) fun _ => rfl
  unfold advanceAnimations
  rw [ensures_bind]
  refine (advanceDrag_kept (c := c) (r := r) hmove.sound clock hit).mono fun t ht => ?_
  dsimp only
  split
  · refine hmonitors _ _ ?_
    exact hmove.then (ht.then (ht.sound.kept_of_monitorSet rfl rfl ht.sound.presets))
  · rename_i wss hset
    have hdetached : ∀ ws ∈ wss, ws.WellFormed := detached_of_noOutputs hset ▸ ht.sound.detached
    have hre : List.Forall₂ Workspace.Rearranged wss (wss.map (·.advanceAnimations clock)) := by
      rw [List.forall₂_map_right_iff, List.forall₂_same]
      exact fun ws hws => Workspace.advanceAnimations_rearranged (hdetached ws hws) clock
    have hkept := ht.sound.kept_rearranged (c := c) (r := r) hset hre
    exact ensures_pure.mpr (hmove.then (ht.then (hkept.then
      (hkept.sound.kept_of_monitorSet rfl rfl ht.sound.presets))))

/-! ### The upkeep of windows -/

/-- A window that is held is in some workspace. -/
def HeldThere (l : Layout W Id) : Prop := ∀ window delta ratio,
  l.interactiveMove = some (.starting window delta ratio) →
    ∃ ws ∈ l.workspaces, window ∈ ws.windowIds

theorem checkHeld_spec : Guarded l.HeldThere l.checkHeld fun _ => True := by
  unfold checkHeld
  split
  next window delta ratio hmove _ =>
    simp only [guarded_bind, guarded_unwrap, guarded_pure]
    refine ⟨fun _ _ => trivial, fun hheld => ?_⟩
    obtain ⟨ws, hws, hw⟩ := hheld window delta ratio hmove
    rw [List.find?_isSome]
    exact ⟨ws, hws, Workspace.hasWindow_iff.mpr hw⟩
  · exact guarded_pure.mpr trivial

theorem refresh_kept (h : l.Sound) (clock : Clock) (isActive : Bool) :
    Guarded (l.InRange ∧ l.HeldThere) (l.refresh clock isActive) (Kept c r [] l) := by
  have hactive : Kept True True [] l { l with isActive } := h.kept_of_monitorSet rfl rfl h.presets
  have hmove := hactive.then (hactive.sound.kept_dragged (f := fun data =>
    data.change (.refresh data.output.size.toI32Round)) fun data => Held.windowId_change
      (.tile ⟨data.tile, data.width, data.isFullWidth, data.isFloating⟩) _)
  have hmove' : Kept c r [] l _ := hmove.weaken (fun _ => trivial) fun _ => trivial
  unfold refresh
  rw [guarded_bind]
  refine (checkHeld_spec.weaken And.right).mono fun _ _ => ?_
  dsimp only
  split
  next ms p a hset =>
    have hmonitors := monitors_of_normal hset
    simp only [guarded_bind, guarded_pure]
    refine (Vec.guarded_mapM (S := fun entry t => Monitor.Kept c r [] entry.1 t)
      fun entry hentry => ?_).mono fun ms' hms' => hmove'.then (hmove.sound.kept_forall₂ hset ?_
        fun _ hl => (hl.indices _ _ _ hset).2)
    · have hmem : entry.1 ∈ ms := List.fst_mem_of_mem_zipIdx hentry
      rw [← hmonitors] at hmem
      exact (Monitor.refresh_kept (hmove.sound.monitors _ hmem) clock _ _ _).weaken fun hl =>
        (hmove.inRange trivial hl.1).monitors _ hmem
    · rwa [← List.forall₂_map_left_iff, List.zipIdx_map_fst] at hms'
  next wss hset =>
    have hdetached : ∀ ws ∈ wss, ws.WellFormed :=
      detached_of_noOutputs hset ▸ hmove.sound.detached
    have hre : List.Forall₂ Workspace.Rearranged wss (wss.map (·.refresh false false)) := by
      rw [List.forall₂_map_right_iff, List.forall₂_same]
      exact fun ws hws => Workspace.refresh_rearranged (hdetached ws hws) _ _
    exact guarded_pure.mpr (hmove'.then (hmove.sound.kept_rearranged hset hre))

omit [DecidableEq Id] in
theorem updateInsertHint_kept (h : l.Sound) (clock : Clock) (output : Option Output) :
    Ensures (l.updateInsertHint clock output) (Kept c r [] l) := by
  unfold updateInsertHint
  rw [ensures_bind]
  refine (mapMonitors_kept (g := True) (c := c) (r := r) h fun m _ hm _ =>
    guarded_pure.mpr (hm.kept_hint none)).ensures.mono fun t ht => ?_
  split
  · simp only [ensures_ite, ensures_pure]
    refine ⟨fun _ => ?_, fun _ => ht⟩
    exact (onMonitorFor_kept (g := False) ht.sound _ fun m _ _ hm _ =>
      ⟨Monitor.updateInsertHint_kept hm clock _, False.elim⟩).ensures.mono fun u hu => ht.then hu
  · exact ensures_pure.mpr ht

omit [DecidableEq Id] in
theorem updateRenderElements_kept (h : l.Sound) (clock : Clock) (output : Option Output) :
    Ensures (l.updateRenderElements clock output) (Kept c r [] l) := by
  unfold updateRenderElements
  rw [ensures_bind]
  refine (updateInsertHint_kept (c := c) (r := r) h clock output).mono fun t ht => ?_
  refine (mapMonitors_kept (g := True) ht.sound fun m _ hm _ => guarded_pure.mpr ?_).ensures.mono
    fun u hu => ht.then hu
  split_ifs
  · exact (Monitor.setOverviewProgress_steady hm clock _).kept.weaken (fun _ => trivial)
      fun hr => hr
  · exact hm.kept_refl

end Layout

end Sol
