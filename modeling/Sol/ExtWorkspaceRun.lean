import Sol.ExtWorkspaceManagers

/-!
# Runs of the workspace protocol

Clients bind managers, stop and go, destroy handles and ask for things, in any order between the
refreshes.

* `reachable_shows`: the client of a manager sees the layout, and a batch ends with `done`;
* `reachable_expects`, `reachable_expects_iff`: when the events are those that the protocol asks
  for;
* `reachable_requests`: no request panics, and what is committed is carried out in order.
-/

namespace Sol.ExtWorkspace

open Objects Panicking

/-- No workspace with an id gets another one, or loses it, and moves at once to another output that
is there already. -/
def Layout.Calm (before after : Layout) : Prop :=
  ∀ old ∈ before.workspaces, ∀ ws ∈ after.workspaces, old.id = ws.id → old.name.isSome = true →
    old.name ≠ ws.name → old.output ≠ ws.output →
      ∀ output ∈ ws.output, output ∉ before.sortedOutputs

namespace ManagerState

variable {m : ManagerId} {s : ManagerState} {layout : Layout}

/-- What a workspace was shown as, for a workspace that is tracked. -/
theorem Tracks.data {ws : Workspace} (h : s.Tracks ws) : ∃ data,
    Assoc.get s.workspaces ws.id = some data ∧ data.id = ws.name ∧ data.output = ws.output := by
  obtain ⟨data, hdata, hshown, houtput⟩ := h
  exact ⟨data, hdata, congrArg WorkspaceView.id hshown, houtput⟩

theorem Current.calm_iff (h : s.Current layout) (after : Layout) :
    (∀ ws ∈ after.workspaces, s.Calm ws) ↔ layout.Calm after := by
  constructor
  · intro hcalm old hold ws hws hid hnamed hne houtput output hout
    obtain ⟨data, hdata, hname, hof⟩ := (h.workspaces old hold).data
    rw [hid] at hdata
    rw [← h.groups]
    refine hcalm ws hws data hdata ?_ (hof ▸ houtput) output hout
    simp [WorkspaceData.recreate, hname, hne, hnamed]
  · intro hcalm ws hws data hdata hrecreate houtput output hout
    have hin : ws.id ∈ layout.workspaces.map Workspace.id := h.ids _ (Assoc.mem_keys_of_get hdata)
    obtain ⟨old, hold, hid⟩ := List.mem_map.mp hin
    obtain ⟨data', hdata', hname, hof⟩ := (h.workspaces old hold).data
    rw [hid, hdata] at hdata'
    cases hdata'
    simp only [WorkspaceData.recreate, decide_eq_true_eq] at hrecreate
    rw [h.groups]
    exact hcalm old hold ws hws hid (hname ▸ hrecreate.2) (hname ▸ hrecreate.1) (hof ▸ houtput)
      output hout

/-- The view of a board that is current is the layout. -/
theorem Current.shows (h : s.Current layout) (hw : s.Whole m) :
    ∃ workspace group, (s.board m).view.Shows layout workspace group := by
  have hnamed := hw.named
  have hslots : ∀ ws ∈ layout.workspaces, ∃ handle,
      (s.board m).slot ws.id = some ⟨handle, ws.shown, ws.output⟩ := by
    intro ws hws
    obtain ⟨data, hdata, hshown, houtput⟩ := h.workspaces ws hws
    obtain ⟨handle, hown, -⟩ := hw.workspaces _ (Assoc.mem_of_get_eq_some hdata)
    exact ⟨handle, (board_slot hdata hown).trans (by rw [hshown, houtput])⟩
  have hgroups : ∀ output, ((s.board m).group output).isSome = true ↔
      output ∈ layout.sortedOutputs := by
    intro output
    rw [← h.groups, ← not_iff_not, Option.not_isSome_iff_eq_none, ← Assoc.get_eq_none_iff]
    have hiff := hw.group_eq_none_iff (some output)
    simpa [← Assoc.get_eq_none_iff] using hiff
  have hids : ∀ id slot, (s.board m).slot id = some slot → ∃ ws ∈ layout.workspaces, ws.id = id ∧
      slot = ⟨slot.handle, ws.shown, ws.output⟩ := by
    intro id slot hslot
    obtain ⟨data, hdata, -⟩ := Option.bind_eq_some_iff.mp hslot
    obtain ⟨ws, hws, rfl⟩ := List.mem_map.mp (h.ids id (Assoc.mem_keys_of_get hdata))
    obtain ⟨handle, hws'⟩ := hslots ws hws
    rw [hslot] at hws'
    exact ⟨ws, hws, rfl, by rw [Option.some.inj hws']⟩
  obtain ⟨workspace, hworkspace⟩ : ∃ workspace : WorkspaceId → WorkspaceHandle, ∀ id,
      (workspace id).workspace = id ∧ ∀ slot, (s.board m).slot id = some slot →
        slot.handle = workspace id := by
    refine ⟨fun id => (((s.board m).slot id).map Slot.handle).getD ⟨0, m, id⟩, fun id => ?_⟩
    dsimp only
    cases hslot : (s.board m).slot id with
    | none => exact ⟨rfl, fun slot hsome => by cases hsome⟩
    | some slot => exact ⟨hnamed.slot id slot hslot, fun slot' hsome => by cases hsome; rfl⟩
  obtain ⟨group, hgroup⟩ : ∃ group : OutputId → GroupHandle, ∀ output,
      (group output).output = output ∧ ∀ handle, (s.board m).group output = some handle →
        handle = group output := by
    refine ⟨fun output => ((s.board m).group output).getD ⟨0, m, output⟩, fun output => ?_⟩
    dsimp only
    cases hthere : (s.board m).group output with
    | none => exact ⟨rfl, fun handle hsome => by cases hsome⟩
    | some handle =>
      exact ⟨hnamed.group output handle hthere, fun handle' hsome => by cases hsome; rfl⟩
  refine ⟨workspace, group, ⟨fun a b hab => ?_, fun a b hab => ?_, fun handle v => ?_,
    fun handle => ?_, fun output members hmembers handle => ?_⟩⟩
  · rw [← (hworkspace a).1, ← (hworkspace b).1, hab]
  · rw [← (hgroup a).1, ← (hgroup b).1, hab]
  · rw [Board.view_workspaces_eq_some]
    constructor
    · rintro ⟨slot, hslot, rfl, rfl⟩
      obtain ⟨ws, hws, hid, hsame⟩ := hids _ slot hslot
      refine ⟨ws, hws, ?_, by rw [hsame]⟩
      rw [hid]
      exact ((hworkspace _).2 slot hslot).symm
    · rintro ⟨ws, hws, rfl, rfl⟩
      obtain ⟨handle, hslot⟩ := hslots ws hws
      rw [(hworkspace ws.id).1]
      exact ⟨_, hslot, (hworkspace ws.id).2 _ hslot, rfl⟩
  · rw [Option.isSome_iff_exists]
    constructor
    · rintro ⟨members, hmembers⟩
      have hthere := (Board.view_groups_eq_some.mp hmembers).1
      exact ⟨handle.output, (hgroups _).mp (by rw [hthere]; rfl), ((hgroup _).2 handle hthere).symm⟩
    · rintro ⟨output, hin, rfl⟩
      obtain ⟨handle, hthere⟩ := Option.isSome_iff_exists.mp ((hgroups output).mpr hin)
      have hsame := (hgroup output).2 handle hthere
      refine ⟨_, Board.view_groups_eq_some.mpr ⟨?_, rfl⟩⟩
      rw [(hgroup output).1, hthere, hsame]
  · obtain ⟨hthere, rfl⟩ := Board.view_groups_eq_some.mp hmembers
    rw [Board.members_eq_true, (hgroup output).1]
    constructor
    · rintro ⟨slot, hslot, rfl, houtput⟩
      obtain ⟨ws, hws, hid, hsame⟩ := hids _ slot hslot
      refine ⟨ws, hws, by rw [← houtput, hsame], ?_⟩
      rw [hid]
      exact ((hworkspace _).2 slot hslot).symm
    · rintro ⟨ws, hws, houtput, rfl⟩
      obtain ⟨handle, hslot⟩ := hslots ws hws
      rw [(hworkspace ws.id).1]
      exact ⟨_, hslot, (hworkspace ws.id).2 _ hslot, houtput⟩

/-! ### Requests -/

/-- Nothing but the queues changes. -/
theorem Tended.requeue (h : s.Tended) {instances : List (ManagerId × List Action)}
    (hkeys : Assoc.keys instances = s.managers) (performed : List Action) :
    ({ s with instances, performed } : ManagerState).Tended := by
  have hsame : ({ s with instances, performed } : ManagerState).managers = s.managers := hkeys
  refine ⟨h.workspaces, h.groups, ?_, h.consistent, ?_, ?_, ?_, h.log⟩
  · rw [hsame]
    exact h.managers
  · rw [hsame]
    exact h.owned
  · rw [hsame]
    exact h.ownedGroups
  · rw [hsame]
    exact h.serial

theorem queue_spec {manager : ManagerId} (hmanager : manager ∈ s.managers) (action : Action) :
    Returns (s.queue manager action) fun t =>
      t = { s with instances := Assoc.modify manager (· ++ [action]) s.instances } := by
  obtain ⟨actions, hactions⟩ := Assoc.exists_get_of_mem_keys hmanager
  unfold queue
  rw [hactions]
  exact ⟨_, rfl, rfl⟩

theorem manager_of_workspaceOf (h : s.Tended) {handle : WorkspaceHandle} {id : WorkspaceId}
    (hid : s.workspaceOf handle = some id) : handle.manager ∈ s.managers := by
  obtain ⟨entry, hentry, -⟩ := Option.map_eq_some_iff.mp hid
  have hin := List.find?_some hentry
  exact h.owned entry (List.mem_of_find?_eq_some hentry) handle (of_decide_eq_true hin)

/-- What a request comes to: some action is queued, or nothing changes. -/
def Queued (s t : ManagerState) : Prop :=
  t = s ∨ ∃ manager action, t = { s with
    instances := Assoc.modify manager (· ++ [action]) s.instances }

theorem activate_spec (h : s.Tended) (handle : WorkspaceHandle) :
    Returns (s.activate handle) (Queued s) := by
  unfold activate
  cases hid : s.workspaceOf handle with
  | none => exact ⟨s, rfl, .inl rfl⟩
  | some id =>
    exact (queue_spec (manager_of_workspaceOf h hid) _).mono fun t ht => .inr ⟨_, _, ht⟩

theorem assign_spec (h : s.Tended) (handle : WorkspaceHandle) (group : GroupHandle) :
    Returns (s.assign handle group) (Queued s) := by
  unfold assign
  cases hid : s.workspaceOf handle with
  | none => exact ⟨s, rfl, .inl rfl⟩
  | some id =>
    cases s.outputOf group with
    | none => exact ⟨s, rfl, .inl rfl⟩
    | some output =>
      exact (queue_spec (manager_of_workspaceOf h hid) _).mono fun t ht => .inr ⟨_, _, ht⟩

/-- Actions in order come in two parts. -/
theorem eq_append_of_pairwise {actions : List Action}
    (h : actions.Pairwise fun a b => a.order ≤ b.order) :
    actions = actions.filter (fun a => a.order = 0) ++ actions.filter fun a => a.order ≠ 0 := by
  induction actions with
  | nil => rfl
  | cons a actions ih =>
    obtain ⟨hfirst, hrest⟩ := List.pairwise_cons.mp h
    by_cases ha : a.order = 0
    · rw [List.filter_cons_of_pos (by simpa using ha), List.filter_cons_of_neg (by simpa using ha),
        List.cons_append, ← ih hrest]
    · have hlater : ∀ b ∈ actions, b.order ≠ 0 := fun b hb => by
        have := hfirst b hb
        omega
      rw [List.filter_cons_of_neg (by simpa using ha), List.filter_cons_of_pos (by simpa using ha),
        List.filter_eq_nil_iff.mpr fun b hb => by simpa using hlater b hb,
        List.filter_eq_self.mpr fun b hb => by simpa using hlater b hb]
      rfl

/-- What is sorted keeps its order where the sort does not say otherwise. -/
theorem filter_mergeSort_order (actions : List Action) {p : Action → Bool}
    (hp : ∀ a b, p a = true → p b = true → a.order ≤ b.order) :
    (actions.mergeSort fun a b => decide (a.order ≤ b.order)).filter p = actions.filter p := by
  have hperm := (List.mergeSort_perm actions fun a b => decide (a.order ≤ b.order)).filter p
  have hsub : (actions.filter p).Sublist
      (actions.mergeSort fun a b => decide (a.order ≤ b.order)) := by
    refine List.sublist_mergeSort ?_ ?_ ?_ List.filter_sublist
    · exact fun a b c hab hbc =>
        decide_eq_true ((of_decide_eq_true hab).trans (of_decide_eq_true hbc))
    · intro a b
      simpa using le_total a.order b.order
    · refine List.pairwise_of_forall_mem_list fun a ha b hb => decide_eq_true ?_
      exact hp a b (List.mem_filter.mp ha).2 (List.mem_filter.mp hb).2
  have hsame := hsub.filter p
  rw [List.filter_filter] at hsame
  simp only [Bool.and_self] at hsame
  exact (hsame.eq_of_length hperm.length_eq.symm).symm

/-- Everything is assigned before anything is activated, and otherwise in the order asked for. -/
theorem mergeSort_order (actions : List Action) :
    (actions.mergeSort fun a b => decide (a.order ≤ b.order)) =
      actions.filter (fun a => a.order = 0) ++ actions.filter fun a => a.order ≠ 0 := by
  have hsorted := @List.pairwise_mergeSort _ (fun a b : Action => decide (a.order ≤ b.order))
    (fun a b c hab hbc => decide_eq_true ((of_decide_eq_true hab).trans (of_decide_eq_true hbc)))
    (fun a b => by simpa using le_total a.order b.order) actions
  have hone : ∀ a : Action, a.order ≤ 1 := fun a => by cases a <;> simp [Action.order]
  have hassign := filter_mergeSort_order actions (p := fun a => decide (a.order = 0))
    fun a b ha _ => by
      rw [of_decide_eq_true ha]
      exact Nat.zero_le _
  have hactivate := filter_mergeSort_order actions (p := fun a => decide (a.order ≠ 0))
    fun a b _ hb => by
      have hne : b.order ≠ 0 := of_decide_eq_true hb
      have := hone a
      omega
  rw [eq_append_of_pairwise (hsorted.imp fun h => of_decide_eq_true h), hassign, hactivate]

theorem commit_spec {manager : ManagerId} (hmanager : manager ∈ s.managers)
    (alive : OutputId → Bool) : Returns (s.commit manager alive) fun t => ∃ actions,
      Assoc.get s.instances manager = some actions ∧ t = { s with
        instances := Assoc.modify manager (fun _ => []) s.instances
        performed := s.performed ++
          (actions.filter (fun a => a.order = 0) ++ actions.filter fun a => a.order ≠ 0).filter
            (Action.upgrades alive) } := by
  obtain ⟨actions, hactions⟩ := Assoc.exists_get_of_mem_keys hmanager
  unfold commit
  rw [hactions]
  refine ⟨_, rfl, actions, rfl, ?_⟩
  rw [mergeSort_order]

/-! ### Managers that go, and other orders -/

theorem mem_keys_remove {κ α : Type} [DecidableEq κ] {l : List (κ × α)} {k k' : κ} :
    k' ∈ Assoc.keys (Assoc.remove k l) ↔ k' ∈ Assoc.keys l ∧ k' ≠ k := by
  rw [← not_iff_not, ← Assoc.get_eq_none_iff, Assoc.get_remove, not_and_or, not_not,
    ← Assoc.get_eq_none_iff]
  by_cases heq : k' = k
  · simp [heq]
  · simp [heq]

theorem Tended.forget (h : s.Tended) (manager : ManagerId) : (s.forget manager).Tended := by
  refine h.retain (Assoc.nodup_keys_filter h.managers _) (fun m hm => (mem_keys_remove.mp hm).1)
    ?_ ?_
  · exact fun handle hin hne => mem_keys_remove.mpr ⟨hin, of_decide_eq_true hne⟩
  · exact fun handle hin hne => mem_keys_remove.mpr ⟨hin, of_decide_eq_true hne⟩

theorem mem_managers_forget {manager : ManagerId} :
    m ∈ (s.forget manager).managers ↔ m ∈ s.managers ∧ m ≠ manager := mem_keys_remove

/-- The maps in some other order. -/
structure Reordered (s t : ManagerState) : Prop where
  instances : t.instances.Perm s.instances
  groups : t.workspaceGroups.Perm s.workspaceGroups
  workspaces : t.workspaces.Perm s.workspaces
  nextSerial : t.nextSerial = s.nextSerial
  log : t.log = s.log

namespace Reordered

variable {t : ManagerState}

theorem mem_managers (h : Reordered s t) (m : ManagerId) : m ∈ t.managers ↔ m ∈ s.managers :=
  (h.instances.map Prod.fst).mem_iff

theorem tended (h : Reordered s t) (hs : s.Tended) : t.Tended := by
  refine ⟨(h.workspaces.map Prod.fst).nodup_iff.mpr hs.workspaces,
    (h.groups.map Prod.fst).nodup_iff.mpr hs.groups,
    (h.instances.map Prod.fst).nodup_iff.mpr hs.managers,
    fun entry hentry => hs.consistent entry (h.workspaces.mem_iff.mp hentry),
    fun entry hentry handle hhandle => ?_, fun entry hentry handle hhandle => ?_,
    fun manager hmanager => ?_, ?_⟩
  · exact (h.mem_managers _).mpr (hs.owned entry (h.workspaces.mem_iff.mp hentry) handle hhandle)
  · exact (h.mem_managers _).mpr (hs.ownedGroups entry (h.groups.mem_iff.mp hentry) handle hhandle)
  · rw [h.nextSerial]
    exact hs.serial manager ((h.mem_managers manager).mp hmanager)
  · rw [h.log, h.nextSerial]
    exact hs.log

theorem get (h : Reordered s t) (hs : s.Tended) (id : WorkspaceId) :
    Assoc.get t.workspaces id = Assoc.get s.workspaces id :=
  (Assoc.get_eq_of_perm hs.workspaces h.workspaces.symm id).symm

theorem getGroup (h : Reordered s t) (hs : s.Tended) (output : OutputId) :
    Assoc.get t.workspaceGroups output = Assoc.get s.workspaceGroups output :=
  (Assoc.get_eq_of_perm hs.groups h.groups.symm output).symm

theorem current (h : Reordered s t) (hs : s.Tended) (hcurrent : s.Current layout) :
    t.Current layout := by
  refine ⟨fun ws hws => (hcurrent.workspaces ws hws).congr (h.get hs _), fun id hid => ?_,
    fun output => ?_⟩
  · exact hcurrent.ids id ((h.workspaces.map Prod.fst).mem_iff.mp hid)
  · rw [← hcurrent.groups]
    exact (h.groups.map Prod.fst).mem_iff

theorem whole (h : Reordered s t) (hw : s.Whole m) : t.Whole m :=
  ⟨(h.mem_managers m).mpr hw.live,
    fun entry hentry => hw.workspaces entry (h.workspaces.mem_iff.mp hentry),
    fun entry hentry => hw.groups entry (h.groups.mem_iff.mp hentry)⟩

theorem board (h : Reordered s t) (hs : s.Tended) : t.board m = s.board m := by
  unfold ManagerState.board groupsOf
  simp only [h.get hs, h.getGroup hs]

end Reordered

end ManagerState

/-! ### Sessions -/

namespace Session

variable {m : ManagerId} {s t : Session} {a : Step}

/-- What holds whoever is there. -/
structure Sound (s : Session) : Prop where
  tended : s.state.Tended
  current : s.state.Current s.layout

/-- The client of a manager has been told of everything. -/
structure Follows (m : ManagerId) (s : Session) : Prop where
  whole : s.state.Whole m
  receiveAll_eq : ClientView.reader.receiveAll .new (received m s.state.log) =
    (s.state.board m).view
  last : (received m s.state.log).getLast? = some (.done m)

/-- The client of a manager does not destroy its handles. -/
def Step.Spares (m : ManagerId) : Step → Prop
  | .destroyWorkspace handle => handle.manager ≠ m
  | .destroyGroup handle => handle.manager ≠ m
  | _ => True

/-- The layout of a refresh is calm. -/
def Calm (s : Session) : Step → Prop
  | .refresh layout => s.layout.Calm layout
  | _ => True

/-- What a step is for one manager. -/
structure Next (m : ManagerId) (s : Session) (a : Step) (t : Session) : Prop where
  sound : t.Sound
  /-- A manager that was there is told what changed. -/
  told : m ∈ s.state.managers → m ∈ t.state.managers → s.state.Whole m →
    Told m (s.Calm a) s.state t.state ∧
      (received m t.state.log = received m s.state.log ∨
        (received m t.state.log).getLast? = some (.done m))
  /-- A new one is told of everything. -/
  bound : m ∉ s.state.managers → m ∈ t.state.managers → t.Follows m ∧
    ClientView.reader.ExpectsAll .new (received m t.state.log)

/-- A manager that is told nothing. -/
theorem next_quiet (hsound : t.Sound) (hmanagers : ∀ m ∈ t.state.managers, m ∈ s.state.managers)
    (hcalm : s.Calm a) (hwhole : m ∈ t.state.managers → s.state.Whole m → t.state.Whole m)
    (hboard : m ∈ t.state.managers → t.state.board m = s.state.board m)
    (hlog : m ∈ t.state.managers → received m t.state.log = received m s.state.log) :
    Next m s a t := by
  refine ⟨hsound, fun _ hlive hw => ⟨?_, .inl (hlog hlive)⟩, fun hnot hlive =>
    absurd (hmanagers m hlive) hnot⟩
  refine ⟨hwhole hlive hw, [], (hlog hlive).trans (List.append_nil _).symm, ?_⟩
  rw [hboard hlive]
  exact (Reader.Leads.nil _).congr (iff_of_true trivial hcalm)

theorem next_refresh (h : s.Sound) (layout : Layout) :
    Next m s (.refresh layout) ⟨s.state.refresh layout, layout⟩ := by
  obtain ⟨⟨htended, hinstances, hcurrent⟩, htold⟩ := ManagerState.refresh_spec h.tended layout
  refine ⟨⟨htended, hcurrent⟩, fun _ _ hw => ?_, fun hnot hlive => ?_⟩
  · obtain ⟨hm, hlast⟩ := htold m hw
    exact ⟨hm.congr (h.current.calm_iff layout), hlast⟩
  · refine absurd ?_ hnot
    change m ∈ Assoc.keys (s.state.refresh layout).instances at hlive
    rwa [hinstances] at hlive

theorem next_bind (h : s.Sound) : Next m s .bind { s with state := s.state.bind } := by
  refine ⟨⟨h.tended.bind, h.current.bind⟩, fun _ _ hw => ?_, fun hnot hlive => ?_⟩
  · obtain ⟨hwhole, hboard, hlog⟩ := ManagerState.Whole.bind h.tended hw
    refine ⟨⟨hwhole, [], hlog.trans (List.append_nil _).symm, ?_⟩, .inl hlog⟩
    rw [hboard]
    exact .nil _
  · have hnew : m = s.state.nextSerial := by
      rw [ManagerState.managers_bind] at hlive
      exact List.mem_singleton.mp ((List.mem_append.mp hlive).resolve_left hnot)
    subst hnew
    obtain ⟨events, hlog, hleads⟩ := ManagerState.leads_bind h.tended
    rw [← hlog] at hleads
    refine ⟨⟨ManagerState.whole_bind h.tended, hleads.receiveAll_eq, ?_⟩,
      hleads.expectsAll_iff.mpr trivial⟩
    change (received s.state.nextSerial s.state.bind.log).getLast? = _
    rw [hlog, List.getLast?_concat]

theorem next_forget (h : s.Sound) {manager : ManagerId} (hcalm : s.Calm a)
    {events : List Event} (hevents : ∀ event ∈ events, event.manager = manager)
    (hmanager : manager ∈ s.state.managers) :
    Next m s a { s with
      state := ({ s.state with log := s.state.log ++ events } : ManagerState).forget manager } := by
  have hlog : ({ s.state with log := s.state.log ++ events } : ManagerState).Tended :=
    ⟨h.tended.workspaces, h.tended.groups, h.tended.managers, h.tended.consistent, h.tended.owned,
      h.tended.ownedGroups, h.tended.serial, h.tended.log_append fun event hevent =>
        hevents event hevent ▸ hmanager⟩
  have hcurrent : ({ s.state with log := s.state.log ++ events } : ManagerState).Current s.layout :=
    ⟨h.current.workspaces, h.current.ids, h.current.groups⟩
  have hne : m ∈ (({ s.state with log := s.state.log ++ events } : ManagerState).forget
      manager).managers → m ≠ manager := fun hlive => (ManagerState.mem_managers_forget.mp hlive).2
  refine next_quiet ⟨hlog.forget manager, hcurrent.retain _ _⟩
    (fun m hlive => (ManagerState.mem_managers_forget.mp hlive).1) hcalm (fun hlive hw => ?_)
    (fun hlive => ?_) fun hlive => ?_
  · have hw' : ({ s.state with log := s.state.log ++ events } : ManagerState).Whole m :=
      ⟨hw.live, hw.workspaces, hw.groups⟩
    exact hw'.retain hlive (fun handle hm => decide_eq_true (hm ▸ hne hlive))
      fun handle hm => decide_eq_true (hm ▸ hne hlive)
  · exact ManagerState.board_retain (fun handle hm => decide_eq_true (hm ▸ hne hlive))
      fun handle hm => decide_eq_true (hm ▸ hne hlive)
  · change received m (s.state.log ++ events) = _
    rw [received_append, received_eq_nil fun event hevent =>
      (hevents event hevent).trans_ne (hne hlive).symm, List.append_nil]

theorem next_retain (h : s.Sound) (hcalm : s.Calm a) {p : WorkspaceHandle → Bool}
    {q : GroupHandle → Bool} (hp : ∀ handle, handle.manager = m → p handle = true)
    (hq : ∀ handle, handle.manager = m → q handle = true) :
    Next m s a { s with state := s.state.retain p q } := by
  refine next_quiet ⟨?_, h.current.retain p q⟩ (fun m hlive => hlive) hcalm
    (fun hlive hw => hw.retain hlive hp hq) (fun _ => ManagerState.board_retain hp hq) fun _ => rfl
  exact h.tended.retain h.tended.managers (fun m hm => hm) (fun handle hin _ => hin)
    fun handle hin _ => hin

theorem next_requeue (h : s.Sound) (hcalm : s.Calm a) {instances : List (ManagerId × List Action)}
    (hkeys : Assoc.keys instances = s.state.managers) (performed : List Action) :
    Next m s a { s with state := { s.state with instances, performed } } := by
  have hlive : ({ s.state with instances, performed } : ManagerState).managers = s.state.managers :=
    hkeys
  refine next_quiet ⟨h.tended.requeue hkeys performed,
    ⟨h.current.workspaces, h.current.ids, h.current.groups⟩⟩ (fun m hm => hlive ▸ hm) hcalm
    (fun _ hw => ⟨hlive ▸ hw.live, hw.workspaces, hw.groups⟩) (fun _ => rfl) fun _ => rfl

theorem next_queued (h : s.Sound) (hcalm : s.Calm a) {state : ManagerState}
    (hqueued : ManagerState.Queued s.state state) : Next m s a { s with state } := by
  rcases hqueued with rfl | ⟨manager, action, rfl⟩
  · exact next_requeue h hcalm rfl _
  · exact next_requeue h hcalm (Assoc.keys_modify ..) _

/-- What a step does. -/
theorem step_next (h : s.Sound) (ha : s.Allowed a) (hspares : a.Spares m) :
    Returns (s.step a) (Next m s a) := by
  cases a with
  | refresh layout => exact ⟨_, rfl, next_refresh h layout⟩
  | bind => exact ⟨_, rfl, next_bind h⟩
  | stop manager =>
    have hcalm : s.Calm (.stop manager) := trivial
    exact ⟨_, rfl, next_forget h hcalm (List.forall_mem_singleton.mpr rfl) ha⟩
  | disconnect manager =>
    have hnext := next_forget (m := m) (a := .disconnect manager) h trivial
      (fun event hevent => absurd hevent List.not_mem_nil) ha
    rw [List.append_nil] at hnext
    exact ⟨_, rfl, hnext⟩
  | destroyWorkspace handle =>
    have hcalm : s.Calm (.destroyWorkspace handle) := trivial
    exact ⟨_, rfl, next_retain h hcalm
      (fun other hm => decide_eq_true fun heq => hspares (heq ▸ hm)) fun _ _ => rfl⟩
  | destroyGroup handle =>
    have hcalm : s.Calm (.destroyGroup handle) := trivial
    exact ⟨_, rfl, next_retain h hcalm (fun _ _ => rfl)
      fun other hm => decide_eq_true fun heq => hspares (heq ▸ hm)⟩
  | activate handle =>
    have hcalm : s.Calm (.activate handle) := trivial
    obtain ⟨state, hstate, hqueued⟩ := ManagerState.activate_spec h.tended handle
    refine ⟨{ s with state }, ?_, next_queued h hcalm hqueued⟩
    rw [step, hstate]
    rfl
  | assign handle group =>
    have hcalm : s.Calm (.assign handle group) := trivial
    obtain ⟨state, hstate, hqueued⟩ := ManagerState.assign_spec h.tended handle group
    refine ⟨{ s with state }, ?_, next_queued h hcalm hqueued⟩
    rw [step, hstate]
    rfl
  | commit manager alive =>
    have hcalm : s.Calm (.commit manager alive) := trivial
    obtain ⟨state, hstate, actions, -, heq⟩ := ManagerState.commit_spec ha alive
    refine ⟨{ s with state }, ?_, ?_⟩
    · rw [step, hstate]
      rfl
    · rw [heq]
      exact next_requeue h hcalm (Assoc.keys_modify manager (fun _ => []) s.state.instances) _
  | reorder instances workspaceGroups workspaces =>
    obtain ⟨hinstances, hgroups, hworkspaces⟩ := ha
    have hreordered : ManagerState.Reordered s.state
        { s.state with instances, workspaceGroups, workspaces } :=
      ⟨hinstances, hgroups, hworkspaces, rfl, rfl⟩
    exact ⟨_, rfl, next_quiet ⟨hreordered.tended h.tended, hreordered.current h.tended h.current⟩
      (fun m hlive => (hreordered.mem_managers m).mp hlive) trivial
      (fun _ hw => hreordered.whole hw) (fun _ => hreordered.board h.tended) fun _ => rfl⟩

/-! ### Runs -/

/-- Clients may do anything, but that of `m` does not destroy its handles. -/
def Spared (m : ManagerId) (s : Session) (a : Step) : Prop := s.Allowed a ∧ a.Spares m

theorem sound_initial (h : machine.initial s) : s.Sound := by
  obtain ⟨hstate, hworkspaces, houtputs⟩ := h
  refine ⟨?_, ?_⟩
  · rw [hstate]
    refine ⟨List.nodup_nil, List.nodup_nil, List.nodup_nil, ?_, ?_, ?_, ?_, ?_⟩ <;>
      exact fun _ h => absurd h List.not_mem_nil
  · refine ⟨?_, ?_, ?_⟩
    · rw [hworkspaces]
      exact fun _ h => absurd h List.not_mem_nil
    · rw [hstate]
      exact fun _ h => absurd h List.not_mem_nil
    · rw [hstate, houtputs]
      exact fun _ => Iff.rfl

/-- The invariant of runs. -/
theorem Next.follows (h : Next m s a t) (hs : m ∈ s.state.managers → s.Follows m)
    (hlive : m ∈ t.state.managers) : t.Follows m := by
  by_cases hbefore : m ∈ s.state.managers
  · obtain ⟨hwhole, hview, hlast⟩ := hs hbefore
    obtain ⟨⟨hwhole', events, hlog, hleads⟩, hdone⟩ := h.told hbefore hlive hwhole
    refine ⟨hwhole', ?_, ?_⟩
    · rw [hlog, Reader.receiveAll_append, hview, hleads.receiveAll_eq]
    · rcases hdone with hsame | hdone
      · rw [hsame, hlast]
      · exact hdone
  · exact (h.bound hbefore hlive).1

theorem reachable_follows (h : machine.ReachableBy (Spared m) s) :
    s.Sound ∧ (m ∈ s.state.managers → s.Follows m) := by
  refine h.invariant (P := fun s => s.Sound ∧ (m ∈ s.state.managers → s.Follows m)) ?_
    fun s a hs ha => ((step_next hs.1 ha.1 ha.2).ensures).mono fun t ht =>
      ⟨ht.sound, fun hlive => ht.follows hs.2 hlive⟩
  intro s hinitial
  refine ⟨sound_initial hinitial, fun hlive => ?_⟩
  rw [hinitial.1] at hlive
  exact absurd hlive List.not_mem_nil

end Session

/-! ### A sample -/

/-- A workspace `mail` on one output, and one without a name on the other. -/
def Sample.layout : Layout where
  workspaces := [⟨some (1, 0), 0, 10, some "mail", false⟩, ⟨some (2, 0), 0, 11, none, true⟩]
  sortedOutputs := [1, 2]
  ids_nodup := by decide
  outputs_nodup := by decide
  known := by decide

/-- Refreshes and new managers only. -/
def Session.Step.isPlain : Session.Step → Bool
  | .refresh _ | .bind => true
  | _ => false

theorem Session.spared_of_isPlain {m : ManagerId} {s : Session} {a : Step} (h : a.isPlain = true) :
    Spared m s a := by
  cases a
  case refresh => exact ⟨trivial, trivial⟩
  case bind => exact ⟨trivial, trivial⟩
  all_goals cases h

instance (before after : Layout) : Decidable (before.Calm after) :=
  inferInstanceAs (Decidable (∀ old ∈ before.workspaces, ∀ ws ∈ after.workspaces, old.id = ws.id →
    old.name.isSome = true → old.name ≠ ws.name → old.output ≠ ws.output →
      ∀ output ∈ ws.output, output ∉ before.sortedOutputs))

instance (s : Session) (a : Session.Step) : Decidable (s.Calm a) :=
  match a with
  | .refresh layout => inferInstanceAs (Decidable (s.layout.Calm layout))
  | .bind | .stop _ | .disconnect _ | .destroyWorkspace _ | .destroyGroup _ | .activate _
  | .assign _ _ | .commit _ _ | .reorder _ _ _ => inferInstanceAs (Decidable True)

/-- A client comes between two refreshes of the layout. -/
theorem Sample.exists_bound : ∃ s : Session,
    machine.ReachableBy (fun s a => a.isPlain = true ∧ s.Calm a) s ∧ 4 ∈ s.state.managers ∧
      s.layout.workspaces = Sample.layout.workspaces ∧ s.layout.sortedOutputs = [1, 2] := by
  obtain ⟨s, hs, hp⟩ := Machine.exists_reachableBy (M := machine)
    (p := fun s => decide (4 ∈ s.state.managers ∧ s.layout.workspaces = Sample.layout.workspaces ∧
      s.layout.sortedOutputs = [1, 2]))
    [.refresh Sample.layout, .bind, .refresh Sample.layout]
    (show machine.initial ⟨⟨[], [], [], 0, [], []⟩, ⟨[], [], by decide, by decide, by decide⟩⟩ from
      ⟨rfl, rfl, rfl⟩)
    (show (machine.run (fun s a => a.isPlain = true ∧ s.Calm a) _ _).any _ = true by decide +kernel)
  exact ⟨s, hs, of_decide_eq_true hp⟩

open Session in
/-- Whoever comes and goes, the client of a manager sees the workspaces and the groups of the last
refresh, and what it was told ends with `done`. -/
theorem reachable_shows {m : ManagerId} {s : Session} (h : machine.ReachableBy (Spared m) s)
    (hm : m ∈ s.state.managers) :
    (∃ workspace group, (ClientView.reader.receiveAll .new (received m s.state.log)).Shows s.layout
      workspace group) ∧ (received m s.state.log).getLast? = some (.done m) := by
  obtain ⟨hsound, hfollows⟩ := reachable_follows h
  obtain ⟨hwhole, hview, hlast⟩ := hfollows hm
  rw [hview]
  exact ⟨hsound.current.shows hwhole, hlast⟩

/-- The workspaces of the sample, and one of them is in each group. -/
theorem reachable_shows_bound : ∃ (s : Session) (workspace : WorkspaceId → WorkspaceHandle)
    (group : OutputId → GroupHandle), s.layout.workspaces = Sample.layout.workspaces ∧
      (ClientView.reader.receiveAll .new (received 4 s.state.log)).Shows s.layout workspace
        group := by
  obtain ⟨s, hs, hm, hlayout, -⟩ := Sample.exists_bound
  obtain ⟨⟨workspace, group, hshows⟩, -⟩ :=
    reachable_shows (hs.mono fun _ _ ha => Session.spared_of_isPlain ha.1) hm
  exact ⟨s, workspace, group, hlayout, hshows⟩

end Sol.ExtWorkspace
