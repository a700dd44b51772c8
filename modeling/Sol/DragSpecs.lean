import Sol.TransferSpecs

/-!
# Dragged windows

A window that is dragged leaves the layout and comes back.  Wherever it is meanwhile, it is one
of the windows of the layout, and no other window comes or goes.

* `interactiveMoveBegin_kept`, `interactiveMoveUpdate_kept`: a drag begins, and goes on;
* `interactiveMoveEnd_kept`: the window is dropped.
-/

namespace Sol

open Panicking

variable {W Id : Type} [LayoutElement W Id] [DecidableEq Id]

namespace Monitor

variable {m t : Monitor W Id} {c r : Prop}

omit [DecidableEq Id] in
/-- A workspace more, with no window on it. -/
theorem addWorkspaceAt_kept (h : m.Sound) (id : WorkspaceId) (idx : ℕ) :
    Ensures (m.addWorkspaceAt id idx) fun t => Kept True False [] m t ∧
      t.options = m.options ∧ t.workspaces.length = m.workspaces.length + 1 := by
  refine (addWorkspaceAt_spec id idx).ensures.mono fun t ht => ?_
  obtain ⟨hidx, rfl⟩ := ht
  have hlen :=
    List.length_insertIdx_of_le_length hidx (Workspace.new (W := W) id m.output m.options)
  have hperm := List.perm_insertIdx (Workspace.new id m.output m.options) m.workspaces hidx
  refine ⟨⟨h.reframe _ _ _ fun ws hws => ?_, ?_, rfl, False.elim, fun _ hm => ⟨?_, ?_⟩⟩, rfl, hlen⟩
  · rcases List.mem_cons.mp (hperm.mem_iff.mp hws) with rfl | hws
    · exact ⟨Workspace.wellFormed_newWithConfig _ _ _ h.presets, rfl⟩
    · exact h.workspaces ws hws
  · exact hperm.flatMap_right (·.windowIds)
  · rw [activeWorkspaceIdx_reframe, workspaces_reframe, hlen]
    exact FocusList.afterInsert_lt hm.active
  · intro g hg
    rw [workspaceSwitch_reframe, Option.map_eq_some_iff] at hg
    obtain ⟨switch, hswitch, heq⟩ := hg
    rw [workspaces_reframe, hlen]
    cases switch with
    | animation anim => split at heq <;> cases heq
    | gesture g' =>
      have hcenter := hm.center g' hswitch
      split at heq
      · cases heq
        exact Nat.succ_lt_succ hcenter
      · cases heq
        exact Nat.lt_succ_of_lt hcenter

omit [DecidableEq Id] in
/-- The workspace for a dropped window is there, or is made. -/
theorem dropWorkspace_kept (h : m.Sound) (nextId : WorkspaceId) (insertWs : InsertWorkspace) :
    Ensures (m.dropWorkspace nextId insertWs) fun found =>
      Kept True False [] m found.2.1 ∧ (m.HasRoom → found.2.1.HasRoom) := by
  unfold dropWorkspace
  cases insertWs with
  | existing id =>
    exact ensures_bind.mpr fun _ _ => ensures_pure.mpr ⟨h.kept_refl, fun hroom => hroom⟩
  | newAt idx =>
    refine ensures_ite.mpr ⟨fun _ => ensures_pure.mpr ⟨h.kept_refl, id⟩, fun _ =>
      ensures_bind.mpr fun _ _ => ?_⟩
    refine ensures_ite.mpr
      ⟨fun _ => ensures_pure.mpr ⟨h.kept_refl, id⟩, fun _ => ensures_bind.mpr ?_⟩
    refine (addWorkspaceAt_kept h nextId idx).mono fun t ht => ensures_pure.mpr ⟨ht.1, ?_⟩
    intro hroom habove
    rw [ht.2.2]
    have := hroom (ht.2.1 ▸ habove)
    omega

theorem addTile_kept (h : m.Sound) (clock : Clock) (tile : Tile W)
    (target : MonitorAddWindowTarget Id) (activate : ActivateWindow) (allow : Bool)
    (width : ColumnWidth) (isFullWidth isFloating : Bool) :
    Ensures (m.addTile clock tile target activate allow width isFullWidth isFloating)
      (Kept m.HasRoom r [tile.windowId] m) := by
  refine (addTile_spec h clock tile target activate allow width isFullWidth
    isFloating).ensures.mono fun t ht => ?_
  obtain ⟨i, -, hi, hland⟩ := ht
  exact hland.kept fun hroom => hroom.belowTop_lt hi

theorem addDropped_kept (h : m.Sound) (clock : Clock) (data : InteractiveMoveData W)
    (insertWs : InsertWorkspace) (offset : Option Point) (wsIdx : ℕ) (allow : Bool)
    (position : InsertPosition) :
    Ensures (m.addDropped clock data insertWs offset wsIdx allow position)
      (Kept m.HasRoom r [data.tile.windowId] m) := by
  unfold addDropped
  cases position with
  | newColumn columnIdx =>
    exact ensures_bind.mpr fun ws _ => addTile_kept h clock data.tile _ _ _ _ _ _
  | inColumn columnIdx tileIdx =>
    refine (addTileToColumn_spec h clock wsIdx data.tile true allow).ensures.mono fun t hland => ?_
    refine hland.kept fun _ => ?_
    obtain ⟨ws, hws, -⟩ := hland.at_target
    exact hland.steady.length_eq ▸ (List.getElem?_eq_some_iff.mp hws).1
  | floating =>
    have hsettled : Ensures (m.settledTile clock data insertWs offset wsIdx)
        fun tile => tile.windowId = data.tile.windowId := by
      unfold settledTile
      dsimp only
      split
      · exact ensures_bind.mpr fun _ _ => ensures_pure.mpr rfl
      · exact ensures_pure.mpr rfl
    refine ensures_bind.mpr (hsettled.mono fun tile htile => ensures_bind.mpr fun _ _ => ?_)
    exact htile ▸ addTile_kept h clock tile _ _ _ _ _ _

theorem animateDropped_kept (h : m.Sound) (clock : Clock) (window : Id) (zoom : ℚ) (loc : Point) :
    Ensures (m.animateDropped clock window zoom loc) (Kept c r [] m) := by
  unfold animateDropped
  refine ensures_bind.mpr fun idx _ => ensures_bind.mpr fun geo _ => ?_
  refine (onWorkspace_steady (c := False) h idx fun ws _ hws => ?_).ensures.mono fun t ht =>
    ht.kept.weaken (fun _ => trivial) id
  simp only [guarded_bind, guarded_unwrap, guarded_pure]
  refine ⟨fun offset _ => (Workspace.modifyTile_rearranged hws window fun tile => ?_).1, False.elim⟩
  exact Tile.windowId_animateMoveFrom ..

/-- A dropped window is on the monitor. -/
theorem dropAt_kept (h : m.Sound) (clock : Clock) (nextId : WorkspaceId)
    (data : InteractiveMoveData W) (allow : Bool)
    (target : InsertWorkspace × InsertPosition × Option Point) :
    Ensures (m.dropAt clock nextId data allow target) fun found =>
      Kept m.HasRoom False [data.tile.windowId] m found.1 := by
  unfold dropAt
  refine ensures_bind.mpr ((dropWorkspace_kept h nextId target.1).mono fun found hfound => ?_)
  obtain ⟨hmade, hroom⟩ := hfound
  refine ensures_bind.mpr ((addDropped_kept (r := False) hmade.sound clock data _ _ _ allow
    _).mono fun t ht => ?_)
  refine ensures_bind.mpr ((animateDropped_kept (c := m.HasRoom) (r := False) ht.sound clock _ _
    _).mono fun u hu => ensures_pure.mpr ?_)
  exact ((hmade.weaken (fun _ => trivial) id).then (ht.weaken hroom id)).gains hu

end Monitor

namespace Layout

variable {l t : Layout W Id} {c r : Prop}

/-! ### The end of a drag -/

omit [DecidableEq Id] in
/-- What is taken out and put back is where it was. -/
theorem Lost.putBack {lost : List Id} {u : Layout W Id} (h : Lost c r lost l t)
    (h' : Kept c r lost t u) : Kept c r [] l u where
  sound := h'.sound
  perm := h'.perm.trans h.perm.symm
  rows_eq := fun hr => (h'.rows_eq hr).trans (h.rows_eq hr)
  inRange := fun hc hl => h'.inRange hc (h.inRange hc hl)

omit [LayoutElement W Id] [DecidableEq Id] in
theorem dndScrollGestureEnd_options {m : Monitor W Id} (clock : Clock) :
    Ensures (m.dndScrollGestureEnd clock) fun t => t.options = m.options := by
  unfold Monitor.dndScrollGestureEnd Monitor.workspaceSwitchGestureEnd
  simp only [ensures_ite, ensures_bind, ensures_pure]
  refine ⟨fun _ => ?_, fun _ => trivial⟩
  split
  · simp only [ensures_ite, ensures_bind, ensures_pure]
    exact ⟨fun _ => trivial, fun _ _ _ _ _ _ _ => trivial⟩
  · exact ensures_pure.mpr rfl

omit [DecidableEq Id] in
/-- Where the scrolling of a drag ends there is as much room as before. -/
theorem endScrolling_hasRoom (h : l.Sound) (clock : Clock) :
    Ensures (l.mapMonitors (·.dndScrollGestureEnd clock)) fun t => l.HasRoom → t.HasRoom := by
  unfold mapMonitors
  cases hset : l.monitorSet with
  | noOutputs wss => exact ensures_pure.mpr fun hroom => hroom
  | normal ms p a =>
    have hmonitors := monitors_of_normal hset
    have hsame : ∀ m ∈ ms, Guarded False (m.dndScrollGestureEnd clock)
        fun m' => m'.options = m.options ∧ m'.workspaces.length = m.workspaces.length := by
      intro m hm
      refine ⟨fun m' heq => ⟨dndScrollGestureEnd_options clock m' heq, ?_⟩, False.elim⟩
      exact ((Monitor.dndScrollGestureEnd_steady (h.monitors m (hmonitors ▸ hm)) clock).ensures
        m' heq).length_eq
    simp only [ensures_bind, ensures_pure]
    refine (Vec.guarded_mapM hsame).ensures.mono fun ms' hms' hroom m' hm' => ?_
    rw [monitors_of_normal rfl] at hm'
    obtain ⟨m, hm, hopts, hlen⟩ := exists_of_forall₂ hms' hm'
    intro habove
    rw [hlen]
    exact hroom m (hmonitors ▸ hm) (hopts ▸ habove)

/-- The window is dropped: it is taken out of the drag, and put on a workspace. -/
theorem drop_kept (h : l.Sound) (clock : Clock) {data : InteractiveMoveData W}
    (hmoved : l.moved = some data) :
    Ensures (l.drop clock data) (Kept l.HasRoom False [] l) := by
  have hlost : Lost l.HasRoom False [data.tile.windowId] l { l with interactiveMove := none } :=
    h.lost_moved hmoved
  unfold drop
  rw [ensures_bind]
  intro t heq
  have hended : Lost l.HasRoom False [data.tile.windowId] l t := by
    have hkept := (dndScrollGestureEnd_kept (c := l.HasRoom) (r := False) (Kept.refl hlost.sound)
      clock id).ensures t heq
    exact hlost.then hkept
  have hroom : l.HasRoom → t.HasRoom := endScrolling_hasRoom hlost.sound clock t heq
  dsimp only
  split
  next ms p a hset =>
    have hmonitors := monitors_of_normal hset
    refine ensures_bind.mpr (Vec.ensures_get.mpr fun m hm => ?_)
    have hmem : m ∈ t.monitors := hmonitors ▸ List.mem_of_getElem? hm
    have hdropped := Monitor.dropAt_kept (hended.sound.monitors m hmem) clock t.nextWorkspaceId data
      (!t.overviewOpen)
    split_ifs
    all_goals
      refine ensures_bind.mpr fun target _ => ensures_bind.mpr ((hdropped target).mono
        fun found hfound => ensures_pure.mpr (hended.putBack ?_))
      have hweak : Monitor.Kept l.HasRoom False [data.tile.windowId] m found.1 :=
        hfound.weaken (fun hr => hroom hr m hmem) id
      have hset' := hended.sound.kept_set hset hm hweak fun _ hl => (hl.indices _ _ _ hset).2
      exact hset'.gains (hset'.sound.kept_of_monitorSet rfl rfl hended.sound.presets)
  next wss hset =>
    simp only [ensures_bind, Vec.ensures_apply, ensures_pure]
    intro ws hws
    obtain ⟨hwf, hids, -⟩ := hended.sound.ensureWorkspace hset
    refine (Workspace.addTile_spec (hwf ws (List.mem_of_getElem? hws)) data.tile
      (by simp) .yes data.width data.isFullWidth data.isFloating).ensures.mono fun ws' hadded => ?_
    have hset' : Kept l.HasRoom False [data.tile.windowId] t
        { t with monitorSet := .noOutputs ((t.ensureWorkspace wss).1.set 0 ws') } := by
      refine hended.sound.kept_detached hset (Vec.forall_mem_set hwf hadded.1.wellFormed) ?_
      rw [← hids]
      exact Vec.flatMap_set_gain hws hadded.1.perm
    exact hended.putBack (hset'.gains (hset'.sound.kept_of_monitorSet rfl rfl hended.sound.presets))

theorem interactiveMoveEnd_kept (h : l.Sound) (clock : Clock) (window : Id) :
    Ensures (l.interactiveMoveEnd clock window) (Kept l.HasRoom False [] l) := by
  unfold interactiveMoveEnd
  cases hmove : l.interactiveMove with
  | none => exact ensures_pure.mpr (.refl h)
  | some move =>
    cases move with
    | starting windowId delta ratio =>
      refine ensures_ite.mpr ⟨fun _ => ensures_pure.mpr (.refl h), fun _ => ?_⟩
      exact (release_kept h (by simp [moved, hmove]) clock windowId).ensures
    | moving data =>
      refine ensures_ite.mpr ⟨fun _ => ensures_pure.mpr (.refl h), fun _ => ?_⟩
      exact drop_kept h clock (by simp [moved, hmove])

/-! ### The start of a drag -/

omit [DecidableEq Id] in
/-- A window that is held is not out of the layout yet. -/
theorem Sound.kept_held (h : l.Sound) (hmoved : l.moved = none) {window : Id}
    {delta ratio : Point} :
    Kept c r [] l { l with interactiveMove := some (.starting window delta ratio) } :=
  h.kept_of_monitorSet rfl (by rw [movedIds, movedIds, hmoved]; rfl) h.presets

theorem interactiveMoveBegin_kept (h : l.Sound) (clock : Clock) (window : Id) (output : Output)
    (startPos : Point) :
    Ensures (l.interactiveMoveBegin clock window output startPos) (Kept c r [] l) := by
  unfold interactiveMoveBegin
  refine ensures_ite.mpr ⟨fun _ => ensures_pure.mpr (.refl h), fun hnone => ?_⟩
  have hmoved : l.moved = none := by
    rw [Option.not_isSome_iff_eq_none] at hnone
    simp [moved, hnone]
  split
  · exact ensures_pure.mpr (.refl h)
  · refine ensures_ite.mpr ⟨fun _ => ensures_pure.mpr (.refl h), fun _ =>
      ensures_bind.mpr fun _ _ => ?_⟩
    have hheld : ∀ ratio, Kept c r [] l
        { l with interactiveMove := some (.starting window .zero ratio) } :=
      fun ratio => h.kept_held hmoved
    refine (mapMonitors_kept (g := False) (hheld _).sound fun m _ hm _ => guarded_pure.mpr
      ?_).ensures.mono fun t ht => (hheld _).then ht
    exact (Monitor.dndScrollGestureBegin_steady hm clock).kept.weaken (fun _ => trivial) id

omit [LayoutElement W Id] [DecidableEq Id] in
theorem onFirstWorkspace_interactiveMove {p : Workspace W Id → Bool}
    {f : Workspace W Id → Outcome (Workspace W Id)} :
    Ensures (l.onFirstWorkspace p f) fun found =>
      ∀ t ∈ found, t.interactiveMove = l.interactiveMove := by
  unfold onFirstWorkspace
  split
  all_goals
    simp only [ensures_bind, ensures_pure]
    intro found _ t ht
    obtain ⟨_, -, rfl⟩ := Option.map_eq_some_iff.mp ht
    rfl

theorem onWorkspaceOf_interactiveMove {window : Id}
    {f : Workspace W Id → Outcome (Workspace W Id)} :
    Ensures (l.onWorkspaceOf window f) fun t => t.interactiveMove = l.interactiveMove := by
  unfold onWorkspaceOf
  simp only [ensures_bind, ensures_pure]
  refine onFirstWorkspace_interactiveMove.mono fun found hfound => ?_
  cases found with
  | none => rfl
  | some t => exact hfound t rfl

theorem removeFromWorkspaces_interactiveMove (clock : Clock) (window : Id) :
    Ensures (l.removeFromWorkspaces clock window) fun found =>
      found.2.interactiveMove = l.interactiveMove := by
  unfold removeFromWorkspaces
  split
  all_goals
    split
    · exact ensures_pure.mpr rfl
    · simp only [ensures_bind, ensures_pure]
      exact fun _ _ => trivial

/-- The takeovers of a window end where it is. -/
theorem endTakeovers_kept {ws : Workspace W Id} (h : ws.WellFormed) (clock : Clock) {window : Id}
    (hw : window ∈ ws.windowIds) : Returns (endTakeovers clock window ws) ws.Kept := by
  unfold endTakeovers
  rw [returns_bind]
  refine (Workspace.setFullscreen_rearranged h clock hw false).mono fun t ht => ?_
  exact (Workspace.setMaximized_rearranged ht.wellFormed clock (ht.perm.mem_iff.mpr hw)
    false).mono fun u hu => (ht.trans hu).kept

omit [DecidableEq Id] in
/-- A window that was taken out is dragged. -/
theorem Sound.kept_picked (h : l.Sound) (hnone : l.interactiveMove = none)
    (data : InteractiveMoveData W) :
    Kept c r [data.tile.windowId] l { l with interactiveMove := some (.moving data) } where
  sound := ⟨h.monitors, h.detached, h.presets⟩
  perm := by
    have hmoved : l.moved = none := by simp [moved, hnone]
    rw [windowIds_eq, windowIds_eq, movedIds, movedIds, hmoved, Option.map_none, Option.toList_none,
      List.append_nil]
    exact List.perm_append_comm
  rows_eq := fun _ => rfl
  inRange := fun _ hl => ⟨hl.monitors, hl.indices⟩

omit [DecidableEq Id] in
theorem windowId_movedData (removed : RemovedTile W) (output : Output) (pos ratio : Point)
    (workspaceConfig : Option (WorkspaceId × LayoutPart)) :
    (l.movedData removed output pos ratio workspaceConfig).tile.windowId = removed.tile.windowId :=
  Tile.windowId_updateConfig ..

/-- A window leaves the workspaces, and is dragged from then on. -/
theorem pickUp_kept (h : l.Sound) (hmoved : l.moved = none) (clock : Clock) (window : Id)
    (output : Output) (pos ratio : Point) (workspaceConfig : Option (WorkspaceId × LayoutPart)) :
    Ensures (l.pickUp clock window output pos ratio workspaceConfig) (Kept True False [] l) := by
  have hset : Kept True False [] l { l with interactiveMove := none } :=
    h.kept_of_monitorSet rfl (by rw [movedIds, movedIds, hmoved]; rfl) h.presets
  unfold pickUp
  refine ensures_bind.mpr fun tilePos _ => ensures_bind.mpr ?_
  intro found heq
  have hfound := ((onFirstWorkspace_kept (g := True) (c := True) (r := False) hset.sound
    fun ws _ hhas hws => (endTakeovers_kept hws clock
      (Workspace.hasWindow_iff.mp hhas)).guarded).ensures found heq).1
  have hmove := onFirstWorkspace_interactiveMove found heq
  refine ensures_bind.mpr (ensures_unwrap.mpr fun t ht => ensures_bind.mpr ?_)
  have hkept := hset.then (hfound t ht)
  intro taken htaken
  have hnone := removeFromWorkspaces_interactiveMove clock window taken htaken
  rw [hmove t ht] at hnone
  have hlost := (removeFromWorkspaces_lost hkept.sound clock window).ensures taken htaken
  refine ensures_bind.mpr (ensures_unwrap.mpr fun removed hremoved => ensures_pure.mpr ?_)
  rcases hlost with ⟨rfl, -⟩ | ⟨removed', hremoved', hid, hlost⟩
  · cases hremoved
  · obtain rfl : removed = removed' := Option.some.inj (hremoved.symm.trans hremoved')
    refine hkept.then ((hlost.weaken id False.elim).putBack ?_)
    have hpicked : ∀ data : InteractiveMoveData W, data.tile.windowId = window →
        Kept True False [window] taken.2
          { taken.2 with interactiveMove := some (.moving data) } := fun data hdata =>
      hdata ▸ hlost.sound.kept_picked hnone data
    refine hpicked _ ?_
    split
    · exact (Tile.windowId_animateMoveFrom ..).trans ((windowId_movedData ..).trans hid)
    · exact (windowId_movedData ..).trans hid

/-- A held window is pulled, maybe out of the layout. -/
theorem pull_kept (h : l.Sound) (hmoved : l.moved = none) (clock : Clock) (window : Id)
    (pointerDelta ratio delta : Point) (output : Output) (pos : Point) :
    Ensures (l.pull clock window pointerDelta ratio delta output pos) (Kept True False [] l) := by
  unfold pull
  refine ensures_bind.mpr fun ws _ => ensures_bind.mpr ?_
  intro t heq
  have hpulled : Kept True False [] l t := by
    refine (onWorkspaceOf_kept (g := True) h fun ws _ hws => guarded_pure.mpr ?_).ensures t heq
    refine (Workspace.modifyTile_rearranged hws window fun tile => ?_).1.kept
    rfl
  have hsame : t.moved = none := by
    rw [moved, onWorkspaceOf_interactiveMove t heq]
    exact hmoved
  have hheld : ∀ ratio delta, Kept True False [] l
      { t with interactiveMove := some (.starting window delta ratio) } :=
    fun ratio delta => hpulled.then (hpulled.sound.kept_held hsame)
  refine ensures_ite.mpr ⟨fun _ => ensures_pure.mpr (hheld _ _), fun _ => ?_⟩
  exact (pickUp_kept (hheld _ _).sound rfl clock window output pos ratio _).mono
    fun u hu => (hheld _ _).then hu

omit [LayoutElement W Id] [DecidableEq Id] in
theorem focusOutput_moved {output : Output} : (l.focusOutput output).moved = l.moved := by
  unfold focusOutput
  split <;> rfl

omit [DecidableEq Id] in
/-- A dragged window stays the same on its way. -/
theorem drag_kept (h : l.Sound) (clock : Clock) {data : InteractiveMoveData W}
    (hmoved : l.moved = some data) (output : Output) (pos : Point) :
    Ensures (l.drag clock data output pos) (Kept c r [] l) := by
  unfold drag
  refine ensures_bind.mpr fun wsId _ => ensures_pure.mpr ?_
  have hmoving : ∀ (t : Layout W Id) (data' : InteractiveMoveData W), Kept c r [] l t →
      t.moved = some data → data'.tile.windowId = data.tile.windowId →
        Kept c r [] l { t with interactiveMove := some (.moving data') } :=
    fun t data' ht hsame hid => ht.then (ht.sound.kept_moving hsame hid)
  refine hmoving _ _ ?_ ?_ ?_
  · split_ifs
    all_goals first
      | exact focusOutput_kept h output
      | exact .refl h
  · split_ifs
    all_goals first
      | exact focusOutput_moved.trans hmoved
      | exact hmoved
  · split_ifs <;> rfl

theorem interactiveMoveUpdate_kept (h : l.Sound) (clock : Clock) (window : Id) (delta : Point)
    (output : Output) (pos : Point) :
    Ensures (l.interactiveMoveUpdate clock window delta output pos) (Kept True False [] l) := by
  unfold interactiveMoveUpdate
  cases hmove : l.interactiveMove with
  | none => exact ensures_pure.mpr (.refl h)
  | some move =>
    cases move with
    | starting windowId pointerDelta ratio =>
      refine ensures_ite.mpr ⟨fun _ => ensures_pure.mpr (.refl h), fun _ => ?_⟩
      exact pull_kept h (by simp [moved, hmove]) clock windowId pointerDelta ratio delta output pos
    | moving data =>
      refine ensures_ite.mpr ⟨fun _ => ensures_pure.mpr (.refl h), fun _ => ?_⟩
      exact drag_kept h clock (by simp [moved, hmove]) output pos

end Layout

end Sol
