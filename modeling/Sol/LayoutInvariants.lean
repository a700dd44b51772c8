import Sol.MonitorInvariants

/-!
# Invariants of workspaces in the layout

What a workspace and a window on its way keep, whatever is done to them, the layout keeps of all
workspaces and of the window that is dragged around.

* `addOutput_all`, `addWindow_all`, `interactiveMoveEnd_all` and so on: one operation each.
-/

namespace Sol

open Panicking

variable {W Id : Type} [LayoutElement W Id] [DecidableEq Id]

namespace Layout

/-- `P` holds of the workspaces, `Q` of the dragged window, and `O` of the options. -/
structure All (P : Workspace W Id → Prop) (Q : Held W → Prop) (O : Options → Prop)
    (l : Layout W Id) : Prop where
  monitors : ∀ m ∈ l.monitors, m.All P O
  detached : ∀ ws ∈ l.detached, P ws
  moved : ∀ data ∈ l.moved, Q (.tile data.removed)
  options : O l.options

variable {P : Workspace W Id → Prop} {Q : Held W → Prop} {O : Options → Prop}
  {l : Layout W Id} {ms : List (Monitor W Id)} {p a : ℕ} {wss : List (Workspace W Id)}

omit [LayoutElement W Id] [DecidableEq Id] in
theorem All.workspaces (h : l.All P Q O) : ∀ ws ∈ l.workspaces, P ws := by
  intro ws hws
  rcases List.mem_append.mp hws with hws | hws
  · obtain ⟨m, hm, hws⟩ := List.mem_flatMap.mp hws
    exact (h.monitors m hm).workspaces ws hws
  · exact h.detached ws hws

omit [LayoutElement W Id] [DecidableEq Id] in
theorem All.of_normal (h : l.All P Q O) (hset : l.monitorSet = .normal ms p a) :
    ∀ m ∈ ms, m.All P O := by
  have hmonitors := h.monitors
  unfold Layout.monitors at hmonitors
  rwa [hset] at hmonitors

omit [LayoutElement W Id] [DecidableEq Id] in
theorem All.of_noOutputs (h : l.All P Q O) (hset : l.monitorSet = .noOutputs wss) :
    ∀ ws ∈ wss, P ws := by
  have hdetached := h.detached
  unfold Layout.detached at hdetached
  rwa [hset] at hdetached

omit [LayoutElement W Id] [DecidableEq Id] in
theorem All.withMonitors (h : l.All P Q O) (hms : ∀ m ∈ ms, m.All P O) (p a : ℕ)
    {lastActiveWorkspaceId : List (String × WorkspaceId)} {nextWorkspaceId : WorkspaceId} :
    { l with
      monitorSet := .normal ms p a, lastActiveWorkspaceId, nextWorkspaceId }.All P Q O :=
  ⟨hms, fun _ hws => absurd hws List.not_mem_nil, h.moved, h.options⟩

omit [LayoutElement W Id] [DecidableEq Id] in
theorem All.withDetached (h : l.All P Q O) (hwss : ∀ ws ∈ wss, P ws)
    {lastActiveWorkspaceId : List (String × WorkspaceId)} {nextWorkspaceId : WorkspaceId} :
    { l with monitorSet := .noOutputs wss, lastActiveWorkspaceId, nextWorkspaceId }.All P Q O :=
  ⟨fun _ hm => absurd hm List.not_mem_nil, hwss, h.moved, h.options⟩

omit [LayoutElement W Id] [DecidableEq Id] in
/-- Nothing is dragged. -/
theorem All.withoutMove (h : l.All P Q O) : { l with interactiveMove := none }.All P Q O :=
  ⟨h.monitors, h.detached, (fun _ hdata => nomatch hdata), h.options⟩

omit [LayoutElement W Id] [DecidableEq Id] in
theorem All.withHeld (h : l.All P Q O) (window : Id) (pointerDelta ratio : Point) :
    { l with interactiveMove := some (.starting window pointerDelta ratio) }.All P Q O :=
  ⟨h.monitors, h.detached, (fun _ hdata => nomatch hdata), h.options⟩

omit [LayoutElement W Id] [DecidableEq Id] in
theorem All.withMoved (h : l.All P Q O) {data : InteractiveMoveData W}
    (hdata : Q (.tile data.removed)) :
    { l with interactiveMove := some (.moving data) }.All P Q O :=
  ⟨h.monitors, h.detached, fun _ hd => Option.some.inj hd ▸ hdata, h.options⟩

omit [LayoutElement W Id] [DecidableEq Id] in
theorem All.of_moving (h : l.All P Q O) {data : InteractiveMoveData W}
    (hmove : l.interactiveMove = some (.moving data)) : Q (.tile data.removed) := by
  refine h.moved data ?_
  unfold Layout.moved
  rw [hmove]
  rfl

/-! ### Parts of the layout -/

omit [DecidableEq Id] in
omit [LayoutElement W Id] in
theorem onActiveMonitor_all (h : l.All P Q O) {f : Monitor W Id → Outcome (Monitor W Id)}
    (hf : ∀ m : Monitor W Id, m.All P O → Ensures (f m) (·.All P O)) :
    Ensures (l.onActiveMonitor f) (All P Q O) := by
  unfold onActiveMonitor
  split
  · rename_i hset
    simp only [ensures_bind, Vec.ensures_apply, ensures_pure]
    refine fun m hm => (hf m (h.of_normal hset m (List.mem_of_getElem? hm))).mono fun t ht => ?_
    exact h.withMonitors (Vec.forall_mem_set (h.of_normal hset) ht) _ _
  · exact ensures_pure.mpr h

omit [DecidableEq Id] in
omit [LayoutElement W Id] in
theorem onActiveWorkspace_all (h : l.All P Q O) {f : Workspace W Id → Outcome (Workspace W Id)}
    (hf : ∀ ws, P ws → Ensures (f ws) P) : Ensures (l.onActiveWorkspace f) (All P Q O) :=
  onActiveMonitor_all h fun _ hm => Monitor.onWorkspace_all hm _ hf

omit [DecidableEq Id] in
omit [LayoutElement W Id] in
theorem mapMonitors_all (h : l.All P Q O) {f : Monitor W Id → Outcome (Monitor W Id)}
    (hf : ∀ m : Monitor W Id, m.All P O → Ensures (f m) (·.All P O)) :
    Ensures (l.mapMonitors f) (All P Q O) := by
  unfold mapMonitors
  split
  · rename_i hset
    rw [ensures_bind]
    exact (Vec.ensures_mapM fun m hm => hf m (h.of_normal hset m hm)).mono fun ms hms =>
      ensures_pure.mpr (h.withMonitors hms _ _)
  · exact ensures_pure.mpr h

omit [DecidableEq Id] in
omit [LayoutElement W Id] in
theorem mapWorkspaces_all (h : l.All P Q O) {f : Workspace W Id → Outcome (Workspace W Id)}
    (hf : ∀ ws, P ws → Ensures (f ws) P) : Ensures (l.mapWorkspaces f) (All P Q O) := by
  unfold mapWorkspaces
  split
  · refine mapMonitors_all h fun m hm => ensures_bind.mpr ?_
    exact (Vec.ensures_mapM fun ws hws => hf ws (hm.workspaces ws hws)).mono fun wss hwss =>
      ensures_pure.mpr ⟨hwss, hm.options, hm.baseOptions⟩
  · rename_i hset
    rw [ensures_bind]
    exact (Vec.ensures_mapM fun ws hws => hf ws (h.of_noOutputs hset ws hws)).mono fun wss hwss =>
      ensures_pure.mpr (h.withDetached hwss)

omit [DecidableEq Id] in
omit [LayoutElement W Id] in
theorem onMonitorFor_all (h : l.All P Q O) (output : Output)
    {f : Monitor W Id → Outcome (Monitor W Id)}
    (hf : ∀ m : Monitor W Id, m.All P O → Ensures (f m) (·.All P O)) :
    Ensures (l.onMonitorFor output f) (All P Q O) := by
  unfold onMonitorFor
  split
  · rename_i hset
    have hms := h.of_normal hset
    refine ensures_bind.mpr ((Vec.ensures_applyFirst hms fun m hm => hf m (hms m hm)).mono
      fun found hfound => ?_)
    cases found with
    | none => exact ensures_pure.mpr h
    | some ms => exact ensures_pure.mpr (h.withMonitors (hfound ms rfl) _ _)
  · exact ensures_pure.mpr h

omit [DecidableEq Id] in
omit [LayoutElement W Id] in
theorem onFirstWorkspace_all (h : l.All P Q O) (q : Workspace W Id → Bool)
    {f : Workspace W Id → Outcome (Workspace W Id)} (hf : ∀ ws, P ws → Ensures (f ws) P) :
    Ensures (l.onFirstWorkspace q f) fun found => ∀ t ∈ found, t.All P Q O := by
  unfold onFirstWorkspace
  split
  · rename_i hset
    have hms := h.of_normal hset
    have hstep : ∀ m : Monitor W Id, m.All P O → Ensures (do
        let workspaces ← Vec.applyFirst q f m.workspaces
        pure { m with workspaces := workspaces.getD m.workspaces }) (Monitor.All P O) := by
      refine fun m hm => ensures_bind.mpr ?_
      refine (Vec.ensures_applyFirst hm.workspaces fun ws hws =>
        hf ws (hm.workspaces ws hws)).mono fun found hfound => ensures_pure.mpr ?_
      cases found with
      | none => exact hm
      | some wss => exact ⟨hfound wss rfl, hm.options, hm.baseOptions⟩
    refine ensures_bind.mpr ((Vec.ensures_applyFirst hms fun m hm =>
      hstep m (hms m hm)).mono fun found hfound => ?_)
    refine ensures_pure.mpr fun t ht => ?_
    obtain ⟨ms, hsome, rfl⟩ := Option.mem_map.mp ht
    exact h.withMonitors (hfound ms hsome) _ _
  · rename_i hset
    have hwss := h.of_noOutputs hset
    refine ensures_bind.mpr ((Vec.ensures_applyFirst hwss fun ws hws => hf ws (hwss ws hws)).mono
      fun found hfound => ensures_pure.mpr fun t ht => ?_)
    obtain ⟨wss, hsome, rfl⟩ := Option.mem_map.mp ht
    exact h.withDetached (hfound wss hsome)

theorem onWorkspaceOf_all (h : l.All P Q O) (window : Id)
    {f : Workspace W Id → Outcome (Workspace W Id)} (hf : ∀ ws, P ws → Ensures (f ws) P) :
    Ensures (l.onWorkspaceOf window f) (All P Q O) := by
  unfold onWorkspaceOf
  refine ensures_bind.mpr ((onFirstWorkspace_all h _ hf).mono fun found hfound =>
    ensures_pure.mpr ?_)
  cases found with
  | none => exact h
  | some t => exact hfound t rfl

theorem onWindowOrActive_all (h : l.All P Q O) (window : Option Id)
    {f : Workspace W Id → Outcome (Workspace W Id)} (hf : ∀ ws, P ws → Ensures (f ws) P) :
    Ensures (l.onWindowOrActive window f) (All P Q O) := by
  unfold onWindowOrActive
  cases window with
  | some window =>
    exact ensures_bind.mpr ((onFirstWorkspace_all h _ hf).mono fun found hfound =>
      ensures_unwrap.mpr hfound)
  | none => exact onActiveWorkspace_all h hf

/-! ### Outputs -/

section Invariant

variable (inv : Invariant P Q O)

omit [DecidableEq Id] in
omit [LayoutElement W Id] in
theorem pickBelow_all (output : Output) (i : ℕ) {e : Extraction W Id} (h : e.primary.All P O)
    (hws : ∀ ws ∈ e.workspaces, P ws) : Ensures (Extraction.pickBelow output i e) fun t =>
      t.primary.All P O ∧ ∀ ws ∈ t.workspaces, P ws := by
  induction i generalizing e with
  | zero => exact ensures_pure.mpr ⟨h, hws⟩
  | succ i ih =>
    unfold Extraction.pickBelow
    simp only [ensures_bind, Vec.ensures_get]
    intro ws hmem
    split_ifs
    · refine ih (h.withWorkspaces (fun u hu => ?_) _ _) ?_
      · exact h.workspaces u (List.mem_of_mem_eraseIdx hu)
      · unfold Extraction.pick
        dsimp only
        split_ifs
        · exact List.forall_mem_cons.mpr ⟨h.get hmem, hws⟩
        · exact hws
    · exact ih h hws

include inv

theorem connect_all (h : l.All P Q O) (clock : Clock) (output : Output)
    (hwss : ∀ ws ∈ wss, P ws) (layoutConfig : Option LayoutPart) :
    Ensures (l.connect clock output wss layoutConfig) fun r => r.1.All P O ∧ r.2.All P Q O := by
  unfold connect
  simp only [ensures_bind, ensures_pure]
  refine (Monitor.new_all inv h.options _ output hwss _ layoutConfig).mono fun r hr => ⟨?_, ?_⟩
  · apply Monitor.All.setOverviewProgress
    exact ⟨hr.workspaces, hr.options, hr.baseOptions⟩
  · exact ⟨h.monitors, h.detached, h.moved, h.options⟩

theorem addOutput_all (h : l.All P Q O) (clock : Clock) (output : Output)
    (layoutConfig : Option LayoutPart) :
    Ensures (l.addOutput clock output layoutConfig) (All P Q O) := by
  unfold addOutput
  split
  · rename_i hset
    have hms := h.of_normal hset
    simp only [ensures_bind, Vec.ensures_get, ensures_pure]
    intro primary hprimary
    have hp := hms primary (List.mem_of_getElem? hprimary)
    refine (pickBelow_all output _ hp fun ws hws => absurd hws List.not_mem_nil).mono
      fun taken htaken => ?_
    have hfinish : Ensures taken.finish (Monitor.All P O) := ensures_ite.mpr
      ⟨fun _ => Monitor.cleanUpWorkspaces_all htaken.1, fun _ => ensures_pure.mpr htaken.1⟩
    refine hfinish.mono fun t ht => ?_
    refine (connect_all inv h clock output htaken.2 layoutConfig).mono fun r hr => ?_
    refine hr.2.withMonitors (fun m hm => ?_) _ _
    rcases List.mem_append.mp hm with hm | hm
    · exact Vec.forall_mem_set hms ht m hm
    · exact List.mem_singleton.mp hm ▸ hr.1
  · rename_i hset
    simp only [ensures_bind, ensures_pure]
    refine (connect_all inv h clock output (h.of_noOutputs hset) layoutConfig).mono fun r hr => ?_
    exact hr.2.withMonitors (fun m hm => List.mem_singleton.mp hm ▸ hr.1) _ _

theorem removeOutput_all (h : l.All P Q O) (output : Output) :
    Ensures (l.removeOutput output) (All P Q O) := by
  unfold removeOutput
  split
  · rename_i hset
    have hms := h.of_normal hset
    simp only [ensures_bind, ensures_expect, Vec.ensures_remove]
    intro idx _ m hm
    refine fun active _ => ?_
    refine (Monitor.intoWorkspaces_all inv (hms m (List.mem_of_getElem? hm))).mono
      fun wss hwss => ensures_ite.mpr ⟨fun _ => ensures_pure.mpr ?_, fun _ => ?_⟩
    · refine h.withDetached fun ws hws => ?_
      obtain ⟨u, hu, rfl⟩ := List.mem_map.mp hws
      exact inv.updateConfig (hwss u hu) h.options
    · have hrest : ∀ t ∈ List.eraseIdx _ idx, Monitor.All P O t :=
        fun t ht => hms t (List.mem_of_mem_eraseIdx ht)
      simp only [ensures_bind, Vec.ensures_apply, ensures_pure]
      refine fun primary hprimary => (Monitor.appendWorkspaces_all inv
        (hrest primary (List.mem_of_getElem? hprimary)) hwss).mono fun t ht => ?_
      exact h.withMonitors (Vec.forall_mem_set hrest ht) _ _
  · exact ensures_throw

/-! ### Windows -/

theorem setInitialHeight_all {ws : Workspace W Id} (hws : P ws) (window : Id)
    (height : Option PresetSize) (isFloating : Bool) :
    Ensures (setInitialHeight ws window height isFloating) P := by
  unfold setInitialHeight
  cases height with
  | some height =>
    exact ensures_ite.mpr ⟨fun _ => ensures_pure.mpr hws,
      fun _ => inv.runWindowCommand hws anytime (some window) (.setWindowHeight (.ofPreset height))⟩
  | none => exact ensures_pure.mpr hws

theorem addWindowToMonitor_all {m : Monitor W Id} (h : m.All P O) (clock : Clock) (window : W)
    (target : MonitorAddWindowTarget Id) (width height : Option PresetSize)
    (isFullWidth isFloating : Bool) (activate : ActivateWindow) :
    Ensures (addWindowToMonitor m clock window target width height isFullWidth isFloating activate)
      (Monitor.All P O) := by
  unfold addWindowToMonitor
  refine ensures_bind.mpr fun found _ => ensures_bind.mpr fun ws _ => ensures_bind.mpr ?_
  refine (Monitor.addWindow_all inv h clock window target activate _ isFullWidth
    isFloating).mono fun t ht => ?_
  refine ensures_ite.mpr ⟨fun _ => ensures_pure.mpr ht, fun _ => ensures_bind.mpr ?_⟩
  refine (Vec.ensures_applyFirst ht.workspaces fun ws hws => setInitialHeight_all inv
    (ht.workspaces ws hws) (LayoutElement.id window) height isFloating).mono fun found hfound => ?_
  simp only [ensures_bind, ensures_unwrap, ensures_pure]
  exact fun wss hsome => ⟨hfound wss hsome, ht.options, ht.baseOptions⟩

theorem All.ensureWorkspace (h : l.All P Q O) (hwss : ∀ ws ∈ wss, P ws) :
    ∀ ws ∈ (l.ensureWorkspace wss).1, P ws := by
  unfold Layout.ensureWorkspace
  split_ifs
  · exact fun ws hws => List.mem_singleton.mp hws ▸ inv.make h.options _ none none
  · exact hwss

theorem resolveDetachedTarget_all (h : l.All P Q O) (hwss : ∀ ws ∈ wss, P ws)
    (target : AddWindowTarget Id) :
    Ensures (l.resolveDetachedTarget wss target) fun r => ∀ ws ∈ r.1.1, P ws := by
  unfold resolveDetachedTarget
  cases target with
  | auto => exact ensures_pure.mpr (h.ensureWorkspace inv hwss)
  | output output => exact ensures_throw
  | workspace id => exact ensures_bind.mpr fun _ _ => ensures_pure.mpr hwss
  | nextTo window =>
    exact ensures_ite.mpr ⟨fun _ => ensures_pure.mpr (h.ensureWorkspace inv hwss),
      fun _ => ensures_bind.mpr fun _ _ => ensures_pure.mpr hwss⟩

theorem addWindow_all (h : l.All P Q O) (clock : Clock) (window : W) (target : AddWindowTarget Id)
    (width height : Option PresetSize) (isFullWidth isFloating : Bool)
    (activate : ActivateWindow) :
    Ensures (l.addWindow clock window target width height isFullWidth isFloating activate)
      (All P Q O) := by
  unfold addWindow
  split
  · rename_i hset
    have hms := h.of_normal hset
    refine ensures_bind.mpr fun resolved _ => ensures_bind.mpr (Vec.ensures_apply.mpr ?_)
    refine fun m hm => (addWindowToMonitor_all inv (hms m (List.mem_of_getElem? hm)) clock window
      resolved.2 width height isFullWidth isFloating activate).mono fun t ht => ?_
    exact ensures_pure.mpr (h.withMonitors (Vec.forall_mem_set hms ht) _ _)
  · rename_i hset
    refine ensures_bind.mpr ((resolveDetachedTarget_all inv h (h.of_noOutputs hset) target).mono
      fun resolved hwss => ensures_bind.mpr (Vec.ensures_apply.mpr fun ws hws => ?_))
    have hP := hwss ws (List.mem_of_getElem? hws)
    refine ensures_bind.mpr ((inv.addTile hP (inv.makeTile hP window (ws.resolveScrollingWidth
      window width) isFullWidth isFloating) resolved.2.2 activate _ isFullWidth isFloating).mono
        fun t ht => ?_)
    refine (setInitialHeight_all inv ht _ height isFloating).mono fun u hu => ensures_pure.mpr ?_
    exact h.withDetached (Vec.forall_mem_set hwss hu)

theorem removeWindowAt_all {m : Monitor W Id} (h : m.All P O) (clock : Clock) (window : Id)
    (idx : ℕ) : Ensures (removeWindowAt m clock window idx) fun r =>
      Q (.tile r.1) ∧ r.2.All P O := by
  unfold removeWindowAt
  refine ensures_bind.mpr (Vec.ensures_update.mpr fun ws hws => ?_)
  refine (inv.removeTile (h.get hws) clock window).mono fun r hr => ?_
  have hrest := h.set hr.2 idx
  refine ensures_bind.mpr fun left _ => ensures_bind.mpr fun last _ => ?_
  have htrimmed : ∀ {t : Monitor W Id}, t.All P O → ∀ active,
      { t with workspaces := t.workspaces.eraseIdx idx, activeWorkspaceIdx := active }.All P O :=
    fun ht active => ⟨fun u hu => ht.workspaces u (List.mem_of_mem_eraseIdx hu), ht.options,
      ht.baseOptions⟩
  have hmerged : ∀ {t : Monitor W Id}, t.All P O → Ensures (do
      let first ← Vec.get t.workspaces 0
      assert (first.hasWindowsOrName = false)
      let second ← Vec.remove t.workspaces 1
      assert (second.1.hasWindowsOrName = false)
      pure (r.1, { t with workspaces := second.2, activeWorkspaceIdx := 0 }))
      fun r => Q (.tile r.1) ∧ r.2.All P O := by
    intro t ht
    simp only [ensures_bind, Vec.ensures_get, ensures_assert, Vec.ensures_remove, ensures_pure]
    exact fun _ _ _ second _ _ => ⟨hr.1, fun u hu => ht.workspaces u (List.mem_of_mem_eraseIdx hu),
      ht.options, ht.baseOptions⟩
  dsimp only
  split_ifs
  · exact hmerged (htrimmed hrest _)
  · exact ensures_pure.mpr ⟨hr.1, htrimmed hrest _⟩
  · exact hmerged (htrimmed hrest _)
  · exact ensures_pure.mpr ⟨hr.1, htrimmed hrest _⟩
  · exact hmerged hrest
  · exact ensures_pure.mpr ⟨hr.1, hrest⟩

theorem removeDetachedAt_all (hwss : ∀ ws ∈ wss, P ws) (clock : Clock) (window : Id) (idx : ℕ) :
    Ensures (removeDetachedAt wss clock window idx) fun r =>
      Q (.tile r.1) ∧ ∀ ws ∈ r.2, P ws := by
  unfold removeDetachedAt
  refine ensures_bind.mpr (Vec.ensures_update.mpr fun ws hws => ?_)
  refine (inv.removeTile (hwss ws (List.mem_of_getElem? hws)) clock window).mono fun r hr => ?_
  have hrest := Vec.forall_mem_set (i := idx) hwss hr.2
  refine ensures_bind.mpr fun left _ => ensures_pure.mpr ⟨hr.1, ?_⟩
  split_ifs
  · exact hrest
  · exact fun u hu => hrest u (List.mem_of_mem_eraseIdx hu)

theorem removeFromWorkspaces_all (h : l.All P Q O) (clock : Clock) (window : Id) :
    Ensures (l.removeFromWorkspaces clock window) fun r =>
      (∀ removed ∈ r.1, Q (.tile removed)) ∧ r.2.All P Q O := by
  have hsome : ∀ {removed : RemovedTile W}, Q (.tile removed) →
      ∀ x ∈ some removed, Q (.tile x) := fun hremoved _ hx => Option.some.inj hx ▸ hremoved
  unfold removeFromWorkspaces
  split
  · rename_i hset
    have hms := h.of_normal hset
    split
    · exact ensures_pure.mpr ⟨(fun _ hx => nomatch hx), h⟩
    · refine ensures_bind.mpr (Vec.ensures_update.mpr fun m hm => ensures_bind.mpr fun idx _ => ?_)
      refine (removeWindowAt_all inv (hms m (List.mem_of_getElem? hm)) clock window idx).mono
        fun r hr => ensures_pure.mpr ⟨hsome hr.1, ?_⟩
      exact h.withMonitors (Vec.forall_mem_set hms hr.2) _ _
  · rename_i hset
    split
    · exact ensures_pure.mpr ⟨(fun _ hx => nomatch hx), h⟩
    · exact ensures_bind.mpr ((removeDetachedAt_all inv (h.of_noOutputs hset) clock window _).mono
        fun r hr => ensures_pure.mpr ⟨hsome hr.1, h.withDetached hr.2⟩)

/-! ### Drags -/

omit inv [DecidableEq Id] [LayoutElement W Id] in
/-- The end of a drag begins with that of scrolling. -/
theorem endScrolling_all (h : l.All P Q O) (clock : Clock) :
    Ensures ({ l with interactiveMove := none }.mapMonitors (·.dndScrollGestureEnd clock))
      (All P Q O) :=
  mapMonitors_all h.withoutMove fun _ hm => Monitor.dndScrollGestureEnd_all hm clock

theorem release_all (h : l.All P Q O) (clock : Clock) (window : Id) :
    Ensures (l.release clock window) (All P Q O) := by
  have hrelease : ∀ ws, P ws → Ensures (ws.release clock window) P := by
    intro ws hws
    have hreleased : P (ws.releaseTile clock window) := inv.modifyTile hws window fun _ => rfl
    unfold Workspace.release
    refine ensures_ite.mpr ⟨fun _ => ensures_bind.mpr ?_, fun _ => ensures_pure.mpr hreleased⟩
    exact (inv.activateWindow hreleased window).mono fun r hr => ensures_pure.mpr hr
  exact ensures_bind.mpr ((endScrolling_all h clock).mono fun t ht => mapWorkspaces_all ht hrelease)

theorem drop_all (h : l.All P Q O) (clock : Clock) {data : InteractiveMoveData W}
    (hdata : Q (.tile data.removed)) : Ensures (l.drop clock data) (All P Q O) := by
  unfold drop
  refine ensures_bind.mpr ((endScrolling_all h clock).mono fun t ht => ?_)
  dsimp only
  split
  · rename_i hset
    have hms := ht.of_normal hset
    refine ensures_bind.mpr (Vec.ensures_get.mpr fun m hm => ?_)
    have hdropped := Monitor.dropAt_all inv (hms m (List.mem_of_getElem? hm)) clock
      t.nextWorkspaceId hdata (!t.overviewOpen)
    split_ifs
    all_goals
      refine ensures_bind.mpr fun target _ => ensures_bind.mpr ((hdropped target).mono
        fun r hr => ensures_pure.mpr ?_)
      exact ht.withMonitors (Vec.forall_mem_set hms hr) _ _
  · rename_i hset
    have hwss := ht.ensureWorkspace inv (ht.of_noOutputs hset)
    simp only [ensures_bind, Vec.ensures_apply, ensures_pure]
    refine fun ws hws => ?_
    exact (inv.addTile (hwss ws (List.mem_of_getElem? hws)) hdata _ _ _ _ _).mono fun u hu =>
      ht.withDetached (Vec.forall_mem_set hwss hu)

theorem interactiveMoveEnd_all (h : l.All P Q O) (clock : Clock) (window : Id) :
    Ensures (l.interactiveMoveEnd clock window) (All P Q O) := by
  unfold interactiveMoveEnd
  split
  · exact ensures_pure.mpr h
  · exact ensures_ite.mpr ⟨fun _ => ensures_pure.mpr h, fun _ => release_all inv h clock _⟩
  · rename_i hmove
    exact ensures_ite.mpr ⟨fun _ => ensures_pure.mpr h,
      fun _ => drop_all inv h clock (h.of_moving hmove)⟩

theorem removeWindow_all (h : l.All P Q O) (clock : Clock) (window : Id) :
    Ensures (l.removeWindow clock window) fun r => r.2.All P Q O := by
  have hremoved : ∀ {t : Layout W Id}, t.All P Q O →
      Ensures (t.removeFromWorkspaces clock window) fun r => r.2.All P Q O :=
    fun ht => (removeFromWorkspaces_all inv ht clock window).mono fun r hr => hr.2
  unfold removeWindow
  split
  · exact ensures_ite.mpr ⟨fun _ => ensures_bind.mpr
      ((interactiveMoveEnd_all inv h clock window).mono fun t ht => hremoved ht),
      fun _ => hremoved h⟩
  · exact ensures_ite.mpr ⟨fun _ => ensures_bind.mpr
      ((endScrolling_all h clock).mono fun t ht => ensures_pure.mpr ht), fun _ => hremoved h⟩
  · exact hremoved h

omit inv [DecidableEq Id] in
omit [LayoutElement W Id] in
theorem All.focusOutput (h : l.All P Q O) (output : Output) : (l.focusOutput output).All P Q O := by
  unfold Layout.focusOutput
  split
  · rename_i hset
    exact h.withMonitors (h.of_normal hset) _ _
  · exact h

omit inv in
theorem interactiveMoveBegin_all (h : l.All P Q O) (clock : Clock) (window : Id) (output : Output)
    (startPos : Point) : Ensures (l.interactiveMoveBegin clock window output startPos) (All P Q O) := by
  unfold interactiveMoveBegin
  refine ensures_ite.mpr ⟨fun _ => ensures_pure.mpr h, fun _ => ?_⟩
  split
  · exact ensures_pure.mpr h
  · refine ensures_ite.mpr ⟨fun _ => ensures_pure.mpr h, fun _ => ensures_bind.mpr fun _ _ => ?_⟩
    exact mapMonitors_all (h.withHeld _ _ _) fun m hm =>
      ensures_pure.mpr (hm.dndScrollGestureBegin clock)

/-- What is dragged gets the options of the place where it is. -/
theorem updateTileConfig_all {data : InteractiveMoveData W} (hdata : Q (.tile data.removed))
    {options : Options} (hoptions : O options) :
    Q (.tile (data.updateTileConfig options).removed) :=
  inv.configure hdata _ _ (inv.adjust (inv.mergeLayout (inv.mergeLayout hoptions _) _) _)

theorem pickUp_all (h : l.All P Q O) (clock : Clock) (window : Id) (output : Output)
    (pos ratio : Point) (workspaceConfig : Option (WorkspaceId × LayoutPart)) :
    Ensures (l.pickUp clock window output pos ratio workspaceConfig) (All P Q O) := by
  have hend : ∀ ws, P ws → Ensures (endTakeovers clock window ws) P := fun ws hws =>
    ensures_bind.mpr ((inv.setFullscreen hws clock window false).mono fun t ht =>
      inv.setMaximized ht clock window false)
  unfold pickUp
  refine ensures_bind.mpr fun tilePos _ => ensures_bind.mpr ?_
  refine (onFirstWorkspace_all h.withoutMove _ hend).mono fun found hfound => ?_
  refine ensures_bind.mpr (ensures_unwrap.mpr fun t ht => ensures_bind.mpr ?_)
  refine (removeFromWorkspaces_all inv (hfound t ht) clock window).mono fun r hr => ?_
  refine ensures_bind.mpr (ensures_unwrap.mpr fun removed hremoved => ensures_pure.mpr ?_)
  have hdata : Q (.tile (r.2.movedData removed output pos ratio workspaceConfig).removed) := by
    refine updateTileConfig_all inv ?_ hr.2.options
    exact inv.retouch (hr.1 removed hremoved) rfl
  refine hr.2.withMoved ?_
  split
  · exact inv.retouch hdata rfl
  · exact hdata

theorem pull_all (h : l.All P Q O) (clock : Clock) (window : Id) (pointerDelta ratio delta : Point)
    (output : Output) (pos : Point) :
    Ensures (l.pull clock window pointerDelta ratio delta output pos) (All P Q O) := by
  unfold pull
  refine ensures_bind.mpr fun ws _ => ensures_bind.mpr ?_
  refine Ensures.mono (P := All P Q O) ?_ fun t ht => ?_
  · refine onWorkspaceOf_all h window fun ws hws => ensures_pure.mpr ?_
    exact inv.modifyTile hws window fun _ => rfl
  · exact ensures_ite.mpr ⟨fun _ => ensures_pure.mpr (ht.withHeld _ _ _),
      fun _ => pickUp_all inv (ht.withHeld _ _ _) clock window output pos ratio _⟩

theorem drag_all (h : l.All P Q O) (clock : Clock) {data : InteractiveMoveData W}
    (hdata : Q (.tile data.removed)) (output : Output) (pos : Point) :
    Ensures (l.drag clock data output pos) (All P Q O) := by
  unfold drag
  refine ensures_bind.mpr fun wsId _ => ensures_pure.mpr ?_
  have hfocused := h.focusOutput output
  have hkept : ∀ moved : InteractiveMoveData W, moved.tile = data.tile → Q (.tile moved.removed) :=
    fun moved hmoved => inv.retouch hdata (congrArg Tile.remembered hmoved)
  have hupdated : ∀ (moved : InteractiveMoveData W) options pos, moved.tile = data.tile →
      O options → Q (.tile { moved.updateTileConfig options with
        pointerPosWithinOutput := pos }.removed) :=
    fun moved options pos hmoved hoptions =>
      updateTileConfig_all inv (hkept moved hmoved) hoptions
  split_ifs
  all_goals
    first
    | exact h.withMoved (hkept _ rfl)
    | exact hfocused.withMoved (hkept _ rfl)
    | refine h.withMoved ?_
      apply hupdated
      exacts [rfl, h.options]
    | refine hfocused.withMoved ?_
      apply hupdated
      exacts [rfl, hfocused.options]

theorem interactiveMoveUpdate_all (h : l.All P Q O) (clock : Clock) (window : Id) (delta : Point)
    (output : Output) (pos : Point) :
    Ensures (l.interactiveMoveUpdate clock window delta output pos) (All P Q O) := by
  unfold interactiveMoveUpdate
  split
  · exact ensures_pure.mpr h
  · exact ensures_ite.mpr ⟨fun _ => ensures_pure.mpr h,
      fun _ => pull_all inv h clock _ _ _ delta output pos⟩
  · rename_i hmove
    exact ensures_ite.mpr ⟨fun _ => ensures_pure.mpr h,
      fun _ => drag_all inv h clock (h.of_moving hmove) output pos⟩

end Invariant

end Layout

end Sol
