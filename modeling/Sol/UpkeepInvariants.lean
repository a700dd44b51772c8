import Sol.OperationInvariants

/-!
# Invariants of workspaces, upkeep by upkeep

The requests of windows, gestures, the names of workspaces, the configuration, and what the
compositor does for every frame keep an invariant of workspaces.

* `setFullscreen_all`, `updateConfig_all`, `refresh_all` and so on: one operation each.
-/

namespace Sol

open Panicking

variable {W Id : Type} [LayoutElement W Id]

namespace Layout

variable {P : Workspace W Id → Prop} {Q : Held W → Prop} {O : Options → Prop}
  {l : Layout W Id}

/-! ### Gestures -/

omit [LayoutElement W Id] in
theorem workspaceSwitchGestureBegin_all (h : l.All P Q O) (clock : Clock) (output : Output)
    (isTouchpad : Bool) :
    Ensures (l.workspaceSwitchGestureBegin clock output isTouchpad) (All P Q O) := by
  unfold workspaceSwitchGestureBegin
  split
  · refine mapMonitors_all h fun m hm => ensures_ite.mpr ⟨fun _ => ?_, fun _ => ?_⟩
    · exact ensures_bind.mpr ((Monitor.workspaceSwitchGestureEnd_all hm clock none).mono
        fun r hr => ensures_pure.mpr hr)
    · exact ensures_pure.mpr (hm.withSwitch _)
  · exact ensures_throw

omit [LayoutElement W Id] in
theorem workspaceSwitchGestureUpdate_all (h : l.All P Q O) (clock : Clock) (deltaY : ℚ)
    (timestamp : Duration) (isTouchpad : Bool) :
    Ensures (l.workspaceSwitchGestureUpdate clock deltaY timestamp isTouchpad) (All P Q O) := by
  unfold workspaceSwitchGestureUpdate
  split
  · rename_i hset
    have hms := h.of_normal hset
    exact ensures_bind.mpr ((Vec.ensures_applyUntil hms fun m hm =>
      Monitor.workspaceSwitchGestureUpdate_all (hms m hm) clock deltaY timestamp isTouchpad).mono
        fun r hr => ensures_pure.mpr (h.withMonitors hr _ _))
  · exact ensures_pure.mpr h

omit [LayoutElement W Id] in
theorem workspaceSwitchGestureEnd_all (h : l.All P Q O) (clock : Clock)
    (isTouchpad : Option Bool) :
    Ensures (l.workspaceSwitchGestureEnd clock isTouchpad) (All P Q O) := by
  unfold workspaceSwitchGestureEnd
  split
  · rename_i hset
    have hms := h.of_normal hset
    refine ensures_bind.mpr ((Vec.ensures_applyUntil hms fun m hm => ensures_bind.mpr ?_).mono
      fun r hr => ensures_pure.mpr (h.withMonitors hr _ _))
    exact (Monitor.workspaceSwitchGestureEnd_all (hms m hm) clock isTouchpad).mono
      fun r hr => ensures_pure.mpr hr
  · exact ensures_pure.mpr h

omit [LayoutElement W Id] in
theorem viewOffsetGestureBegin_all (h : l.All P Q O) :
    Ensures l.viewOffsetGestureBegin (All P Q O) := by
  unfold viewOffsetGestureBegin
  split
  · exact ensures_pure.mpr h
  · exact ensures_throw

omit [LayoutElement W Id] in
theorem dndUpdate_all (h : l.All P Q O) (clock : Clock) (output : Output) (pos : Point) :
    Ensures (l.dndUpdate clock output pos) (All P Q O) := by
  have hdnd := h.aside l.isActive (some ⟨output, pos, none⟩) l.overviewOpen l.overviewProgress
  exact ensures_ite.mpr ⟨fun _ => mapMonitors_all hdnd fun _ hm =>
    ensures_pure.mpr (hm.dndScrollGestureBegin clock), fun _ => ensures_pure.mpr hdnd⟩

omit [LayoutElement W Id] in
theorem dndEnd_all (h : l.All P Q O) (clock : Clock) : Ensures (l.dndEnd clock) (All P Q O) :=
  ensures_ite.mpr ⟨fun _ => ensures_pure.mpr h, fun _ =>
    mapMonitors_all (h.aside l.isActive none l.overviewOpen l.overviewProgress)
      fun _ hm => Monitor.dndScrollGestureEnd_all hm clock⟩

variable [DecidableEq Id] (inv : Invariant P Q O)
include inv

/-! ### Requests of windows -/

theorem All.changeMoved (h : l.All P Q O) {q : InteractiveMoveData W → Bool}
    {f : InteractiveMoveData W → InteractiveMoveData W}
    (hf : ∀ data, (f data).tile.remembered = data.tile.remembered) :
    (match l.moved.filter q with
      | some data => { l with interactiveMove := some (.moving (f data)) }
      | none => l).All P Q O := by
  split
  · rename_i data hdata
    exact h.withMoved (inv.retouch (h.of_filter hdata) (hf data))
  · exact h

theorem modifyWindow_all (h : l.All P Q O) (window : Id) (f : W → W) :
    Ensures (l.modifyWindow window f) (All P Q O) := by
  refine mapWorkspaces_all ?_ fun ws hws =>
    ensures_pure.mpr (inv.modifyTile hws window fun _ => rfl)
  exact h.changeMoved inv (f := fun data =>
    { data with tile := { data.tile with window := f data.tile.window } }) fun _ => rfl

theorem setFullscreen_all (h : l.All P Q O) (clock : Clock) (window : Id) (isFullscreen : Bool) :
    Ensures (l.setFullscreen clock window isFullscreen) (All P Q O) :=
  ensures_ite.mpr ⟨fun _ => modifyWindow_all inv h window _, fun _ => ensures_ite.mpr
    ⟨fun _ => ensures_pure.mpr h, fun _ => onWorkspaceOf_all h window fun _ hws =>
      inv.setFullscreen hws clock window isFullscreen⟩⟩

theorem toggleFullscreen_all (h : l.All P Q O) (clock : Clock) (window : Id) :
    Ensures (l.toggleFullscreen clock window) (All P Q O) :=
  ensures_ite.mpr ⟨fun _ => ensures_pure.mpr h, fun _ => onWorkspaceOf_all h window fun _ hws =>
    inv.own hws clock (.toggleFullscreen window) rfl rfl⟩

theorem toggleWindowedFullscreen_all (h : l.All P Q O) (clock : Clock) (window : Id) :
    Ensures (l.toggleWindowedFullscreen clock window) (All P Q O) := by
  have hrequest : ∀ t : Layout W Id, t.All P Q O → Ensures (t.modifyWindow window fun win =>
      LayoutElement.requestWindowedFullscreen win
        (!LayoutElement.isPendingWindowedFullscreen win)) (All P Q O) :=
    fun t ht => modifyWindow_all inv ht window _
  unfold toggleWindowedFullscreen
  refine ensures_bind.mpr fun win _ => ensures_ite.mpr ⟨fun _ => ?_, fun _ => hrequest l h⟩
  exact ensures_bind.mpr ((onWorkspaceOf_all h window fun _ hws =>
    inv.setFullscreen hws clock window false).mono hrequest)

theorem setMaximized_all (h : l.All P Q O) (clock : Clock) (window : Id) (maximize : Bool) :
    Ensures (l.setMaximized clock window maximize) (All P Q O) :=
  ensures_ite.mpr ⟨fun _ => ensures_pure.mpr h, fun _ => onWorkspaceOf_all h window fun _ hws =>
    inv.setMaximized hws clock window maximize⟩

theorem toggleMaximized_all (h : l.All P Q O) (clock : Clock) (window : Id) :
    Ensures (l.toggleMaximized clock window) (All P Q O) :=
  ensures_ite.mpr ⟨fun _ => ensures_pure.mpr h, fun _ => onWorkspaceOf_all h window fun _ hws =>
    inv.own hws clock (.toggleMaximized window) rfl rfl⟩

theorem descendantsAdded_all (h : l.All P Q O) (id : Id) :
    Ensures (l.descendantsAdded id) (All P Q O) := by
  have hadd : ∀ wss : List (Workspace W Id), (∀ ws ∈ wss, P ws) →
      Ensures (Vec.applyUntil (fun ws : Workspace W Id => do
        let r ← ws.descendantsAdded id
        pure (r.1, if r.2 then some () else none)) wss) fun r => ∀ ws ∈ r.1, P ws :=
    fun wss hwss => Vec.ensures_applyUntil hwss fun ws hws => ensures_bind.mpr
      ((inv.descendantsAdded (hwss ws hws) id).mono fun r hr => ensures_pure.mpr hr)
  unfold descendantsAdded
  split
  · rename_i hset
    have hms := h.of_normal hset
    refine ensures_bind.mpr ((Vec.ensures_applyUntil hms fun m hm => ensures_bind.mpr ?_).mono
      fun r hr => ensures_pure.mpr (h.withMonitors hr _ _))
    exact (hadd m.workspaces (hms m hm).workspaces).mono fun r hr =>
      ensures_pure.mpr ⟨hr, (hms m hm).options, (hms m hm).baseOptions⟩
  · rename_i hset
    exact ensures_bind.mpr ((hadd _ (h.of_noOutputs hset)).mono fun r hr =>
      ensures_pure.mpr (h.withDetached hr))

theorem updateWindow_all (h : l.All P Q O) (window : Id) (serial : Option ℕ) :
    Ensures (l.updateWindow window serial) (All P Q O) := by
  unfold updateWindow
  split
  · rename_i data hdata
    exact ensures_pure.mpr (h.withMoved (changed_all inv (h.of_filter hdata) fun _ => rfl))
  · exact onWorkspaceOf_all h window fun _ hws => inv.updateWindow hws window serial

theorem interactiveResizeBegin_all (h : l.All P Q O) (window : Id) (edges : ResizeEdge) :
    Ensures (l.interactiveResizeBegin window edges) (All P Q O) :=
  onWorkspaceOf_all h window fun _ hws => ensures_bind.mpr
    ((inv.interactiveResizeBegin hws window edges).mono fun _ hr => ensures_pure.mpr hr)

theorem interactiveResizeUpdate_all (h : l.All P Q O) (window : Id) (delta : Point) :
    Ensures (l.interactiveResizeUpdate window delta) (All P Q O) :=
  ensures_ite.mpr ⟨fun _ => ensures_pure.mpr h, fun _ => onWorkspaceOf_all h window fun _ hws =>
    ensures_bind.mpr ((inv.interactiveResizeUpdate hws window delta).mono
      fun _ hr => ensures_pure.mpr hr)⟩

theorem interactiveResizeEnd_all (h : l.All P Q O) (window : Id) :
    Ensures (l.interactiveResizeEnd window) (All P Q O) :=
  ensures_ite.mpr ⟨fun _ => ensures_pure.mpr h, fun _ => onWorkspaceOf_all h window fun _ hws =>
    ensures_pure.mpr (inv.interactiveResizeEnd hws (some window))⟩

/-! ### Names of workspaces -/

theorem setWorkspaceName_all (h : l.All P Q O) (name : String)
    (reference : Option WorkspaceReference) :
    Ensures (l.setWorkspaceName name reference) (All P Q O) := by
  unfold setWorkspaceName
  refine ensures_ite.mpr ⟨fun _ => ensures_pure.mpr h, fun _ => ensures_bind.mpr fun found _ => ?_⟩
  cases found with
  | none => exact ensures_pure.mpr h
  | some ws =>
    refine ensures_bind.mpr ((onFirstWorkspace_all h _ fun u hu =>
      ensures_pure.mpr (inv.label hu (some name) u.originalOutput)).mono fun found hfound => ?_)
    refine ensures_bind.mpr fun _ _ => ensures_pure.mpr ?_
    cases found with
    | none => exact h
    | some t => exact hfound t rfl

theorem unnameWorkspaceById_all (h : l.All P Q O) (id : WorkspaceId) :
    Ensures (l.unnameWorkspaceById id) (All P Q O) := by
  unfold unnameWorkspaceById
  split
  · rename_i hset
    have hms := h.of_normal hset
    refine ensures_bind.mpr ((Vec.ensures_applyUntil hms fun m hm => ensures_bind.mpr ?_).mono
      fun r hr => ensures_pure.mpr (h.withMonitors hr _ _))
    exact (Monitor.unnameWorkspace_all inv (hms m hm) id).mono fun r hr => ensures_pure.mpr hr
  · rename_i hset
    have hwss := h.of_noOutputs hset
    split
    · exact ensures_pure.mpr h
    · refine ensures_bind.mpr (Vec.ensures_get.mpr fun ws hws => ensures_pure.mpr ?_)
      refine h.withDetached ?_
      split_ifs
      · exact Vec.forall_mem_set hwss (inv.unname (hwss ws (List.mem_of_getElem? hws)))
      · exact fun u hu => hwss u (List.mem_of_mem_eraseIdx hu)

theorem unsetWorkspaceName_all (h : l.All P Q O) (reference : Option WorkspaceReference) :
    Ensures (l.unsetWorkspaceName reference) (All P Q O) := by
  unfold unsetWorkspaceName
  refine ensures_bind.mpr fun found _ => ?_
  cases found with
  | none => exact ensures_pure.mpr h
  | some ws => exact unnameWorkspaceById_all inv h ws.id

theorem ensureNamedWorkspace_all (h : l.All P Q O) (clock : Clock) (wsConfig : WorkspaceConfig) :
    Ensures (l.ensureNamedWorkspace clock wsConfig) (All P Q O) := by
  unfold ensureNamedWorkspace
  refine ensures_ite.mpr ⟨fun _ => ensures_pure.mpr h, fun _ => ?_⟩
  split
  · rename_i hset
    have hms := h.of_normal hset
    refine ensures_bind.mpr (Vec.ensures_apply.mpr fun m hm => ?_)
    have hmade := inv.make h.options l.nextWorkspaceId (some m.output) (some wsConfig)
    exact (Monitor.insertWorkspace_all inv (hms m (List.mem_of_getElem? hm)) clock hmade _ _).mono
      fun t ht => ensures_pure.mpr (h.withMonitors (Vec.forall_mem_set hms ht) _ _)
  · rename_i hset
    refine ensures_pure.mpr (h.withDetached ?_)
    exact List.forall_mem_cons.mpr ⟨inv.make h.options _ none _, h.of_noOutputs hset⟩

/-! ### Configuration and outputs -/

theorem updateOptions_all (h : l.All P Q O) {options : Options} (hoptions : O options) :
    Ensures (l.updateOptions options) (All P Q O) := by
  have hset : ∀ t : Layout W Id, t.All P Q O → { t with options }.All P Q O :=
    fun t ht => ⟨ht.monitors, ht.detached, ht.moved, hoptions⟩
  have hmoved : (match l.moved with
      | some data => { l with interactiveMove := some (.moving (data.updateTileConfig options)) }
      | none => l).All P Q O := by
    split
    · rename_i data hdata
      exact h.withMoved (updateTileConfig_all inv (h.moved data hdata) hoptions)
    · exact h
  unfold updateOptions
  dsimp only
  split
  · exact ensures_bind.mpr ((mapMonitors_all hmoved fun m hm =>
      ensures_pure.mpr (hm.updateConfig inv hoptions)).mono fun t ht => ensures_pure.mpr (hset t ht))
  · rename_i hdetached
    refine ensures_pure.mpr (hset _ (hmoved.withDetached fun ws hws => ?_))
    obtain ⟨u, hu, rfl⟩ := List.mem_map.mp hws
    exact inv.updateConfig (hmoved.of_noOutputs hdetached u hu) hoptions

theorem updateConfig_all (h : l.All P Q O) (configs : List WorkspaceConfig) {options : Options}
    (hoptions : O options) : Ensures (l.updateConfig configs options) (All P Q O) := by
  refine ensures_bind.mpr ((mapWorkspaces_all h fun ws hws => ?_).mono fun t ht =>
    updateOptions_all inv ht hoptions)
  split
  · exact ensures_pure.mpr (inv.updateLayoutConfig hws _)
  · exact ensures_pure.mpr hws

theorem updateLayoutConfig_all (h : l.All P Q O) (output : Output)
    (layoutConfig : Option LayoutPart) :
    Ensures (l.updateLayoutConfig output layoutConfig) (All P Q O) :=
  onMonitorFor_all h output fun _ hm => ensures_pure.mpr (hm.updateLayoutConfig inv layoutConfig)

theorem updateOutputSize_all (h : l.All P Q O) (output : Output) :
    Ensures (l.updateOutputSize output) (All P Q O) := by
  unfold updateOutputSize
  refine onMonitorFor_all ?_ output fun m hm => Monitor.updateOutputSize_all inv hm output
  refine All.aside ?_ _ _ _ _
  split
  · rename_i data hdata
    exact h.withMoved (inv.retouch (h.moved data hdata) rfl)
  · exact h

/-! ### Frames -/

theorem advanceHold_all (h : l.All P Q O) (clock : Clock) (dnd : DndData Id) (mon : Monitor W Id)
    (scrolled : Bool) (hit : Option Id) :
    Ensures (l.advanceHold clock dnd mon scrolled hit) (All P Q O) := by
  have hdnd : ∀ dnd, { l with dnd }.All P Q O :=
    fun dnd => h.aside l.isActive dnd l.overviewOpen l.overviewProgress
  unfold advanceHold
  split
  · exact ensures_pure.mpr (hdnd _)
  · refine ensures_ite.mpr ⟨fun _ => ensures_bind.mpr ?_, fun _ => ensures_pure.mpr (hdnd _)⟩
    exact (onMonitorFor_all (hdnd _) _ fun m hm => Monitor.activateHeld_all inv hm clock _ _).mono
      fun t ht => closeOverview_all (ht.focusOutput dnd.output) clock

theorem advanceDrag_all (h : l.All P Q O) (clock : Clock) (hit : Option Id) :
    Ensures (l.advanceDrag clock hit) (All P Q O) := by
  unfold advanceDrag
  split
  · rename_i monitors _ _ _ hset
    have hms := h.of_normal hset
    split
    · exact ensures_pure.mpr h
    · refine ensures_bind.mpr (Vec.ensures_update.mpr fun m hm => ensures_bind.mpr ?_)
      refine (Monitor.dndScroll_all (hms m (List.mem_of_getElem? hm)) clock _ _).mono fun r hr => ?_
      have hscrolled : ∀ i p a, { l with monitorSet := .normal (monitors.set i r.1) p a }.All P Q O :=
        fun i p a => h.withMonitors (Vec.forall_mem_set (i := i) hms hr) p a
      refine ensures_pure.mpr ?_
      dsimp only
      split
      · exact ensures_bind.mpr fun _ _ => advanceHold_all inv (hscrolled _ _ _) clock _ _ _ hit
      · exact ensures_pure.mpr (hscrolled _ _ _)
  · exact ensures_pure.mpr h

theorem advanceAnimations_all (h : l.All P Q O) (clock : Clock) (hit : Option Id) :
    Ensures (l.advanceAnimations clock hit) (All P Q O) := by
  unfold advanceAnimations
  refine ensures_bind.mpr (Ensures.mono (P := All P Q O) ?_ fun t ht => ?_)
  · refine advanceDrag_all inv ?_ clock hit
    split
    · rename_i data hdata
      exact h.withMoved (inv.retouch (h.moved data hdata) rfl)
    · exact h
  · have hprogress := fun progress => ht.aside t.isActive t.dnd t.overviewOpen progress
    dsimp only
    split
    · refine mapMonitors_all (hprogress _) fun m hm => ?_
      exact Monitor.advanceAnimations_all inv (hm.setOverviewProgress clock _) clock
    · rename_i hset
      refine ensures_pure.mpr ((ht.withDetached fun ws hws => ?_).aside _ _ _ _)
      obtain ⟨u, hu, rfl⟩ := List.mem_map.mp hws
      exact inv.advanceAnimations (ht.of_noOutputs hset u hu) clock

theorem refresh_all (h : l.All P Q O) (clock : Clock) (isActive : Bool) :
    Ensures (l.refresh clock isActive) (All P Q O) := by
  unfold refresh
  refine ensures_bind.mpr fun _ _ => ?_
  have hactive := h.aside isActive l.dnd l.overviewOpen l.overviewProgress
  have hmoved : ∀ change : InteractiveMoveData W → Held.Change, (∀ data (removed : RemovedTile W),
      (Held.changeTile removed (change data)).tile.remembered = removed.tile.remembered) →
      (match ({ l with isActive } : Layout W Id).moved with
        | some data => { l with
            isActive, interactiveMove := some (.moving (data.change (change data))) }
        | none => { l with isActive }).All P Q O := by
    intro change hchange
    split
    · rename_i data hdata
      exact hactive.withMoved (changed_all inv (hactive.moved data hdata) (hchange data))
    · exact hactive
  specialize hmoved (fun data => .refresh data.output.size.toI32Round) fun _ _ => rfl
  dsimp only at hmoved ⊢
  split
  · rename_i hset
    refine ensures_bind.mpr ((Vec.ensures_mapM fun entry hentry => ?_).mono fun ms hms =>
      ensures_pure.mpr (hmoved.withMonitors hms _ _))
    refine Monitor.refresh_all inv (hmoved.of_normal hset entry.1 ?_) clock _ _ _
    exact List.fst_mem_of_mem_zipIdx hentry
  · rename_i hset
    refine ensures_pure.mpr (hmoved.withDetached fun ws hws => ?_)
    obtain ⟨u, hu, rfl⟩ := List.mem_map.mp hws
    exact inv.refresh (hmoved.of_noOutputs hset u hu) _ _

omit inv [DecidableEq Id] in
omit [LayoutElement W Id] in
theorem updateInsertHint_all (h : l.All P Q O) (clock : Clock) (output : Option Output) :
    Ensures (l.updateInsertHint clock output) (All P Q O) := by
  have hhidden : Ensures (l.mapMonitors fun mon => pure { mon with insertHint := none })
      (All P Q O) := mapMonitors_all h fun m hm =>
    ensures_pure.mpr ⟨hm.workspaces, hm.options, hm.baseOptions⟩
  refine ensures_bind.mpr (hhidden.mono fun t ht => ?_)
  split
  · exact ensures_ite.mpr ⟨fun _ => onMonitorFor_all ht _ fun m hm =>
      Monitor.updateInsertHint_all hm clock _, fun _ => ensures_pure.mpr ht⟩
  · exact ensures_pure.mpr ht

omit inv [DecidableEq Id] in
omit [LayoutElement W Id] in
theorem updateRenderElements_all (h : l.All P Q O) (clock : Clock) (output : Option Output) :
    Ensures (l.updateRenderElements clock output) (All P Q O) := by
  refine ensures_bind.mpr ((updateInsertHint_all h clock output).mono fun t ht => ?_)
  refine mapMonitors_all ht fun m hm => ensures_pure.mpr ?_
  split_ifs
  · exact hm.setOverviewProgress clock _
  · exact hm

end Layout

end Sol
