import Sol.ExtWorkspaceRefresh

/-!
# Managers of the workspaces

What the requests of clients do to the handles of a manager, and what a manager is told that is
bound.

* `board_retain`: handles of others that go;
* `leads_bind`: a new manager is told of everything.
-/

namespace Sol.ExtWorkspace

open Objects Panicking

namespace ManagerState

variable {m : ManagerId} {s : ManagerState} {layout : Layout}

/-! ### Handles that go -/

theorem keys_retain (p : WorkspaceHandle → Bool) (q : GroupHandle → Bool) :
    Assoc.keys (s.retain p q).workspaces = Assoc.keys s.workspaces ∧
      Assoc.keys (s.retain p q).workspaceGroups = Assoc.keys s.workspaceGroups := by
  refine ⟨?_, ?_⟩
  · exact List.map_map.trans rfl
  · exact List.map_map.trans rfl

theorem get_retain (p : WorkspaceHandle → Bool) (q : GroupHandle → Bool) (id : WorkspaceId) :
    Assoc.get (s.retain p q).workspaces id = (Assoc.get s.workspaces id).map fun data =>
      { data with instances := data.instances.filter p } :=
  Assoc.get_map (l := s.workspaces) fun (_ : WorkspaceId) (data : WorkspaceData) =>
    ({ data with instances := data.instances.filter p } : WorkspaceData)

theorem getGroup_retain (p : WorkspaceHandle → Bool) (q : GroupHandle → Bool) (output : OutputId) :
    Assoc.get (s.retain p q).workspaceGroups output =
      (Assoc.get s.workspaceGroups output).map fun handles => handles.filter q :=
  Assoc.get_map (l := s.workspaceGroups) fun (_ : OutputId) (handles : List GroupHandle) =>
    handles.filter q

theorem Tended.retain (h : s.Tended) {instances : List (ManagerId × List Action)}
    {p : WorkspaceHandle → Bool} {q : GroupHandle → Bool}
    (hinstances : (Assoc.keys instances).Nodup) (hsub : ∀ m ∈ Assoc.keys instances, m ∈ s.managers)
    (hp : ∀ handle, handle.manager ∈ s.managers → p handle = true →
      handle.manager ∈ Assoc.keys instances)
    (hq : ∀ handle, handle.manager ∈ s.managers → q handle = true →
      handle.manager ∈ Assoc.keys instances) :
    (({ s with instances := instances } : ManagerState).retain p q).Tended := by
  refine ⟨?_, ?_, hinstances, fun entry hentry => ?_, fun entry hentry handle hhandle => ?_,
    fun entry hentry handle hhandle => ?_, fun manager hmanager => h.serial _ (hsub _ hmanager),
    h.log⟩
  · rw [(keys_retain p q).1]
    exact h.workspaces
  · rw [(keys_retain p q).2]
    exact h.groups
  · obtain ⟨old, hold, rfl⟩ := List.mem_map.mp hentry
    exact ⟨(h.consistent old hold).name, (h.consistent old hold).coordinates⟩
  · obtain ⟨old, hold, rfl⟩ := List.mem_map.mp hentry
    obtain ⟨hmem, hkept⟩ := List.mem_filter.mp hhandle
    exact hp handle (h.owned old hold handle hmem) hkept
  · obtain ⟨old, hold, rfl⟩ := List.mem_map.mp hentry
    obtain ⟨hmem, hkept⟩ := List.mem_filter.mp hhandle
    exact hq handle (h.ownedGroups old hold handle hmem) hkept

theorem own_filter {handles : List WorkspaceHandle} {p : WorkspaceHandle → Bool}
    (hp : ∀ handle, handle.manager = m → p handle = true) :
    own m (handles.filter p) = own m handles := by
  unfold own
  rw [List.filter_filter]
  refine List.filter_congr fun handle _ => ?_
  by_cases hm : handle.manager = m
  · simp [hm, hp handle hm]
  · simp [hm]

theorem ownGroups_filter {handles : List GroupHandle} {q : GroupHandle → Bool}
    (hq : ∀ handle, handle.manager = m → q handle = true) :
    ownGroups m (handles.filter q) = ownGroups m handles := by
  unfold ownGroups
  rw [List.filter_filter]
  refine List.filter_congr fun handle _ => ?_
  by_cases hm : handle.manager = m
  · simp [hm, hq handle hm]
  · simp [hm]

/-- The handles of a manager are kept. -/
theorem Whole.retain (hw : s.Whole m) {instances : List (ManagerId × List Action)}
    (hlive : m ∈ Assoc.keys instances) {p : WorkspaceHandle → Bool} {q : GroupHandle → Bool}
    (hp : ∀ handle, handle.manager = m → p handle = true)
    (hq : ∀ handle, handle.manager = m → q handle = true) :
    (({ s with instances := instances } : ManagerState).retain p q).Whole m := by
  refine ⟨hlive, fun entry hentry => ?_, fun entry hentry => ?_⟩
  · obtain ⟨old, hold, rfl⟩ := List.mem_map.mp hentry
    obtain ⟨handle, hown, hid⟩ := hw.workspaces old hold
    exact ⟨handle, (own_filter hp).trans hown, hid⟩
  · obtain ⟨old, hold, rfl⟩ := List.mem_map.mp hentry
    obtain ⟨handle, hown, hof⟩ := hw.groups old hold
    exact ⟨handle, (ownGroups_filter hq).trans hown, hof⟩

theorem board_retain {instances : List (ManagerId × List Action)} {p : WorkspaceHandle → Bool}
    {q : GroupHandle → Bool} (hp : ∀ handle, handle.manager = m → p handle = true)
    (hq : ∀ handle, handle.manager = m → q handle = true) :
    (({ s with instances := instances } : ManagerState).retain p q).board m = s.board m := by
  unfold board
  congr 1
  · funext id
    rw [get_retain]
    cases Assoc.get s.workspaces id with
    | none => rfl
    | some data => simp [slotOf, own_filter hp, WorkspaceData.shown]
  · funext output
    unfold groupsOf
    rw [getGroup_retain]
    cases Assoc.get s.workspaceGroups output with
    | none => rfl
    | some handles => simp [ownGroups_filter hq]

theorem Current.retain (h : s.Current layout) {instances : List (ManagerId × List Action)}
    (p : WorkspaceHandle → Bool) (q : GroupHandle → Bool) :
    (({ s with instances := instances } : ManagerState).retain p q).Current layout := by
  refine ⟨fun ws hws => ?_, fun id hid => h.ids id ((keys_retain p q).1 ▸ hid), fun output => ?_⟩
  · obtain ⟨data, hdata, hshown, houtput⟩ := h.workspaces ws hws
    refine ⟨{ data with instances := data.instances.filter p }, ?_, hshown, houtput⟩
    rw [get_retain, hdata]
    rfl
  · rw [(keys_retain p q).2]
    exact h.groups output

/-! ### Managers that are bound -/

theorem not_mem_managers (h : s.Tended) : s.nextSerial ∉ s.managers :=
  fun hin => lt_irrefl _ (h.serial _ hin)

theorem managers_bind : s.bind.managers = s.managers ++ [s.nextSerial] := Assoc.keys_append

theorem keys_bind : Assoc.keys s.bind.workspaces = Assoc.keys s.workspaces ∧
    Assoc.keys s.bind.workspaceGroups = Assoc.keys s.workspaceGroups := by
  refine ⟨?_, ?_⟩
  · exact List.map_map.trans rfl
  · exact List.map_map.trans rfl

/-- The events on binding are for the manager that is bound. -/
theorem manager_bind : ∃ events, s.bind.log = s.log ++ events ∧
    ∀ event ∈ events, event.manager = s.nextSerial := by
  refine ⟨_, rfl, ?_⟩
  intro event hevent
  rcases List.mem_append.mp hevent with hevent | hdone
  · rcases List.mem_append.mp hevent with hworkspace | hgroup
    · obtain ⟨entry, -, hworkspace⟩ := List.mem_flatMap.mp hworkspace
      obtain ⟨handle, hhandle, hworkspace⟩ := List.mem_flatMap.mp hworkspace
      obtain ⟨sent, -, rfl⟩ := List.mem_map.mp hworkspace
      rw [List.mem_singleton.mp hhandle]
      rfl
    · obtain ⟨entry, -, hgroup⟩ := List.mem_flatMap.mp hgroup
      obtain ⟨sent, -, rfl⟩ := List.mem_map.mp hgroup
      rfl
  · rw [List.mem_singleton.mp hdone]
    rfl

theorem Tended.bind (h : s.Tended) : s.bind.Tended := by
  obtain ⟨events, hlog, hevents⟩ := manager_bind (s := s)
  refine ⟨?_, ?_, ?_, fun entry hentry => ?_, fun entry hentry handle hhandle => ?_,
    fun entry hentry handle hhandle => ?_, fun manager hmanager => ?_, fun event hevent => ?_⟩
  · rw [keys_bind.1]
    exact h.workspaces
  · rw [keys_bind.2]
    exact h.groups
  · rw [managers_bind]
    exact List.nodup_append.mpr ⟨h.managers, List.nodup_singleton _, fun a ha b hb => by
      rw [List.mem_singleton.mp hb]
      exact fun heq => not_mem_managers h (heq ▸ ha)⟩
  · obtain ⟨old, hold, rfl⟩ := List.mem_map.mp hentry
    exact ⟨(h.consistent old hold).name, (h.consistent old hold).coordinates⟩
  · obtain ⟨old, hold, rfl⟩ := List.mem_map.mp hentry
    rw [managers_bind]
    rcases List.mem_append.mp hhandle with hin | hnew
    · exact List.mem_append_left _ (h.owned old hold handle hin)
    · rw [List.mem_singleton.mp hnew]
      exact List.mem_append_right _ (List.mem_singleton_self _)
  · obtain ⟨old, hold, rfl⟩ := List.mem_map.mp hentry
    rw [managers_bind]
    rcases List.mem_append.mp hhandle with hin | hnew
    · exact List.mem_append_left _ (h.ownedGroups old hold handle hin)
    · rw [List.mem_singleton.mp hnew]
      exact List.mem_append_right _ (List.mem_singleton_self _)
  · rw [managers_bind] at hmanager
    rcases List.mem_append.mp hmanager with hin | hnew
    · exact (h.serial manager hin).trans (Nat.lt_succ_self _)
    · rw [List.mem_singleton.mp hnew]
      exact Nat.lt_succ_self _
  · rw [hlog] at hevent
    rcases List.mem_append.mp hevent with hin | hnew
    · exact (h.log event hin).trans (Nat.lt_succ_self _)
    · rw [hevents event hnew]
      exact Nat.lt_succ_self _

theorem get_bind (id : WorkspaceId) :
    Assoc.get s.bind.workspaces id = (Assoc.get s.workspaces id).map fun data =>
      { data with instances := data.instances ++ [⟨s.nextSerial, s.nextSerial, id⟩] } :=
  Assoc.get_map (l := s.workspaces) fun (id : WorkspaceId) (data : WorkspaceData) =>
    ({ data with instances := data.instances ++ [⟨s.nextSerial, s.nextSerial, id⟩] } :
      WorkspaceData)

theorem getGroup_bind (output : OutputId) :
    Assoc.get s.bind.workspaceGroups output =
      (Assoc.get s.workspaceGroups output).map fun handles =>
        handles ++ [⟨s.nextSerial, s.nextSerial, output⟩] :=
  Assoc.get_map (l := s.workspaceGroups) fun (output : OutputId) (handles : List GroupHandle) =>
    handles ++ [(⟨s.nextSerial, s.nextSerial, output⟩ : GroupHandle)]

theorem Current.bind (h : s.Current layout) : s.bind.Current layout := by
  refine ⟨fun ws hws => ?_, fun id hid => h.ids id (keys_bind.1 ▸ hid), fun output => ?_⟩
  · obtain ⟨data, hdata, hshown, houtput⟩ := h.workspaces ws hws
    refine ⟨{ data with
      instances := data.instances ++ [⟨s.nextSerial, s.nextSerial, ws.id⟩] }, ?_, hshown, houtput⟩
    rw [get_bind, hdata]
    rfl
  · rw [keys_bind.2]
    exact h.groups output

theorem own_append_of_ne {handles : List WorkspaceHandle} {handle : WorkspaceHandle}
    (hne : handle.manager ≠ m) : own m (handles ++ [handle]) = own m handles := by
  unfold own
  rw [List.filter_append, List.filter_cons_of_neg (by simpa using hne), List.filter_nil,
    List.append_nil]

theorem ownGroups_append_of_ne {handles : List GroupHandle} {handle : GroupHandle}
    (hne : handle.manager ≠ m) : ownGroups m (handles ++ [handle]) = ownGroups m handles := by
  unfold ownGroups
  rw [List.filter_append, List.filter_cons_of_neg (by simpa using hne), List.filter_nil,
    List.append_nil]

/-- The other managers are told nothing. -/
theorem Whole.bind (h : s.Tended) (hw : s.Whole m) : s.bind.Whole m ∧
    s.bind.board m = s.board m ∧ received m s.bind.log = received m s.log := by
  have hne : s.nextSerial ≠ m := fun heq => not_mem_managers h (heq ▸ hw.live)
  refine ⟨⟨?_, fun entry hentry => ?_, fun entry hentry => ?_⟩, ?_, ?_⟩
  · rw [managers_bind]
    exact List.mem_append_left _ hw.live
  · obtain ⟨old, hold, rfl⟩ := List.mem_map.mp hentry
    obtain ⟨handle, hown, hid⟩ := hw.workspaces old hold
    exact ⟨handle, (own_append_of_ne hne).trans hown, hid⟩
  · obtain ⟨old, hold, rfl⟩ := List.mem_map.mp hentry
    obtain ⟨handle, hown, hof⟩ := hw.groups old hold
    exact ⟨handle, (ownGroups_append_of_ne hne).trans hown, hof⟩
  · unfold board
    congr 1
    · funext id
      rw [get_bind]
      cases Assoc.get s.workspaces id with
      | none => rfl
      | some data =>
        have hsame : own m (data.instances ++ [⟨s.nextSerial, s.nextSerial, id⟩]) =
            own m data.instances := own_append_of_ne hne
        simp [slotOf, hsame, WorkspaceData.shown]
    · funext output
      unfold groupsOf
      rw [getGroup_bind]
      cases Assoc.get s.workspaceGroups output with
      | none => rfl
      | some handles =>
        have hsame : ownGroups m (handles ++ [⟨s.nextSerial, s.nextSerial, output⟩]) =
            ownGroups m handles := ownGroups_append_of_ne hne
        simp [hsame]
  · obtain ⟨events, hlog, hevents⟩ := manager_bind (s := s)
    rw [hlog, received_append,
      received_eq_nil fun event hevent => (hevents event hevent).trans_ne hne,
      List.append_nil]

/-- Nobody has handles yet of a manager that is not there. -/
theorem own_eq_nil (h : s.Tended) {entry : WorkspaceId × WorkspaceData}
    (hentry : entry ∈ s.workspaces)
    (hm : m ∉ s.managers) : own m entry.2.instances = [] :=
  List.filter_eq_nil_iff.mpr fun handle hhandle heq =>
    hm (of_decide_eq_true heq ▸ h.owned entry hentry handle hhandle)

theorem ownGroups_eq_nil (h : s.Tended) {entry : OutputId × List GroupHandle}
    (hentry : entry ∈ s.workspaceGroups) (hm : m ∉ s.managers) : ownGroups m entry.2 = [] :=
  List.filter_eq_nil_iff.mpr fun handle hhandle heq =>
    hm (of_decide_eq_true heq ▸ h.ownedGroups entry hentry handle hhandle)

theorem own_concat {handles : List WorkspaceHandle} (handle : WorkspaceHandle)
    (hnil : own handle.manager handles = []) :
    own handle.manager (handles ++ [handle]) = [handle] := by
  unfold own at *
  rw [List.filter_append, hnil]
  simp

theorem ownGroups_concat {handles : List GroupHandle} (handle : GroupHandle)
    (hnil : ownGroups handle.manager handles = []) :
    ownGroups handle.manager (handles ++ [handle]) = [handle] := by
  unfold ownGroups at *
  rw [List.filter_append, hnil]
  simp

theorem whole_bind (h : s.Tended) : s.bind.Whole s.nextSerial := by
  have hnot := not_mem_managers h
  refine ⟨?_, fun entry hentry => ?_, fun entry hentry => ?_⟩
  · rw [managers_bind]
    exact List.mem_append_right _ (List.mem_singleton_self _)
  · obtain ⟨old, hold, rfl⟩ := List.mem_map.mp hentry
    exact ⟨_, own_concat ⟨s.nextSerial, s.nextSerial, old.1⟩ (own_eq_nil h hold hnot), rfl⟩
  · obtain ⟨old, hold, rfl⟩ := List.mem_map.mp hentry
    exact ⟨_, ownGroups_concat ⟨s.nextSerial, s.nextSerial, old.1⟩ (ownGroups_eq_nil h hold hnot),
      rfl⟩

theorem slot_bind (h : s.Tended) (id : WorkspaceId) : (s.bind.board s.nextSerial).slot id =
    (Assoc.get s.workspaces id).map fun data =>
      ⟨⟨s.nextSerial, s.nextSerial, id⟩, data.shown, data.output⟩ := by
  change (Assoc.get s.bind.workspaces id).bind _ = _
  rw [get_bind]
  cases hdata : Assoc.get s.workspaces id with
  | none => rfl
  | some data =>
    have hnil := own_eq_nil h (Assoc.mem_of_get_eq_some hdata) (not_mem_managers h)
    have hown := own_concat ⟨s.nextSerial, s.nextSerial, id⟩ hnil
    simp [slotOf, hown, WorkspaceData.shown]

theorem group_bind (h : s.Tended) (output : OutputId) :
    (s.bind.board s.nextSerial).group output =
      (Assoc.get s.workspaceGroups output).map fun _ =>
        ⟨s.nextSerial, s.nextSerial, output⟩ := by
  change (Assoc.get s.bind.workspaceGroups output).bind _ = _
  rw [getGroup_bind]
  cases hhandles : Assoc.get s.workspaceGroups output with
  | none => rfl
  | some handles =>
    have hnil := ownGroups_eq_nil h (Assoc.mem_of_get_eq_some hhandles) (not_mem_managers h)
    have hown := ownGroups_concat ⟨s.nextSerial, s.nextSerial, output⟩ hnil
    simp [hown]

/-- The handles of a new manager for some workspaces and some groups. -/
def bindBoard (n : ℕ) (workspaces : List (WorkspaceId × WorkspaceData)) (groups : Groups) :
    Board where
  slot id := (Assoc.get workspaces id).map fun data => ⟨⟨n, n, id⟩, data.shown, data.output⟩
  group output := (Assoc.get groups output).map fun _ => ⟨n, n, output⟩

theorem named_bindBoard (n : ℕ) (workspaces : List (WorkspaceId × WorkspaceData))
    (groups : Groups) :
    (bindBoard n workspaces groups).Named := by
  refine ⟨fun id slot hslot => ?_, fun output group hgroup => ?_⟩
  · obtain ⟨data, -, rfl⟩ := Option.map_eq_some_iff.mp hslot
    rfl
  · obtain ⟨handles, -, rfl⟩ := Option.map_eq_some_iff.mp hgroup
    rfl

/-- A new manager is told of the workspaces first, -/
theorem leads_bindWorkspaces (n : ℕ) {workspaces : List (WorkspaceId × WorkspaceData)}
    (hnodup : (Assoc.keys workspaces).Nodup) :
    ClientView.reader.Leads True .new
      (workspaces.flatMap fun entry => entry.2.create [⟨n, n, entry.1⟩])
      (bindBoard n workspaces []).view := by
  induction workspaces using List.reverseRecOn with
  | nil => exact .nil _
  | append_singleton workspaces entry ih =>
    rw [Assoc.keys_append, List.nodup_append] at hnodup
    have hnot : entry.1 ∉ Assoc.keys workspaces :=
      fun hin => hnodup.2.2 _ hin _ (List.mem_singleton_self _) rfl
    have hnext : bindBoard n (workspaces ++ [entry]) [] =
        (bindBoard n workspaces []).setSlot entry.1
          (some ⟨⟨n, n, entry.1⟩, entry.2.shown, entry.2.output⟩) := by
      unfold bindBoard Board.setSlot
      congr 1
      funext id
      by_cases heq : id = entry.1
      · subst heq
        simp [Assoc.get_concat hnot]
      · simp [Assoc.get_concat hnot, heq]
    have hnone : (bindBoard n workspaces []).slot entry.1 = none := by
      change (Assoc.get workspaces entry.1).map _ = none
      rw [Assoc.get_eq_none_iff.mpr hnot]
      rfl
    have hid : (⟨n, n, entry.1⟩ : WorkspaceHandle).workspace = entry.1 := rfl
    have hnew := Board.leads_new (named_bindBoard n workspaces []) hnone hid entry.2.leads_events
      entry.2.output
    rw [Board.tellGroup_none _ (by cases entry.2.output <;> rfl), List.append_nil, ← hnext] at hnew
    rw [List.flatMap_append, List.flatMap_singleton, WorkspaceData.create, List.flatMap_singleton]
    exact (ih hnodup.1).append_true hnew

/-- then of the groups, along with the workspaces in them. -/
theorem leads_bindGroups (h : s.Tended) {groups : Groups} (hnodup : (Assoc.keys groups).Nodup) :
    ClientView.reader.Leads True (bindBoard s.nextSerial s.workspaces []).view
      (groups.flatMap fun entry =>
        (.create :: (enters s.bind.workspaces ⟨s.nextSerial, s.nextSerial, entry.1⟩).map .tell).map
          (Event.group ⟨s.nextSerial, s.nextSerial, entry.1⟩))
      (bindBoard s.nextSerial s.workspaces groups).view := by
  have hw := whole_bind h
  induction groups using List.reverseRecOn with
  | nil => exact .nil _
  | append_singleton groups entry ih =>
    rw [Assoc.keys_append, List.nodup_append] at hnodup
    have hnot : entry.1 ∉ Assoc.keys groups :=
      fun hin => hnodup.2.2 _ hin _ (List.mem_singleton_self _) rfl
    have hslot : ∀ id, (bindBoard s.nextSerial s.workspaces groups).slot id =
        (s.bind.board s.nextSerial).slot id := fun id => (slot_bind h id).symm
    have hnone : (bindBoard s.nextSerial s.workspaces groups).group entry.1 = none := by
      change (Assoc.get groups entry.1).map _ = none
      rw [Assoc.get_eq_none_iff.mpr hnot]
      rfl
    have hnext : bindBoard s.nextSerial s.workspaces (groups ++ [entry]) =
        (bindBoard s.nextSerial s.workspaces groups).setGroup entry.1
          (some ⟨s.nextSerial, s.nextSerial, entry.1⟩) := by
      unfold bindBoard Board.setGroup
      congr 1
      funext output
      by_cases heq : output = entry.1
      · subst heq
        simp [Assoc.get_concat hnot]
      · simp [Assoc.get_concat hnot, heq]
    have hof : (⟨s.nextSerial, s.nextSerial, entry.1⟩ : GroupHandle).output = entry.1 := rfl
    have hnamed := named_bindBoard s.nextSerial s.workspaces groups
    have hgroup := Board.leads_createGroup hnamed hof hnone
      (nodup_keys_on h.bind entry.1) (fun id hid => (hslot id).symm ▸ slot_on h.bind hw hid)
      fun id slot hid houtput => mem_keys_on h.bind hw ((hslot id).symm.trans hid) houtput
    have hmanager :
        (⟨s.nextSerial, s.nextSerial, entry.1⟩ : GroupHandle).manager = s.nextSerial := rfl
    rw [← tidings_on h.bind hw entry.1 hmanager fun workspace =>
      .group ⟨s.nextSerial, s.nextSerial, entry.1⟩ (.tell (.workspaceEnter workspace))] at hgroup
    have henters := enters_eq (s := s.bind) ⟨s.nextSerial, s.nextSerial, entry.1⟩
    rw [List.flatMap_append, List.flatMap_singleton, hnext, List.map_cons, henters]
    exact (ih hnodup.1).append_true hgroup

/-- A new manager is told of everything there is. -/
theorem leads_bind (h : s.Tended) : ∃ events,
    received s.nextSerial s.bind.log = events ++ [.done s.nextSerial] ∧
      ClientView.reader.Leads True .new (events ++ [.done s.nextSerial])
        (s.bind.board s.nextSerial).view := by
  have hworkspaces := leads_bindWorkspaces s.nextSerial h.workspaces
  have hgroups := leads_bindGroups h h.groups
  have hboard : bindBoard s.nextSerial s.workspaces s.workspaceGroups =
      s.bind.board s.nextSerial :=
    congrArg₂ Board.mk (funext fun id => (slot_bind h id).symm)
      (funext fun output => (group_bind h output).symm)
  rw [hboard] at hgroups
  have hboth := hworkspaces.append_true hgroups
  refine ⟨_, ?_, hboth.append_true (.single rfl (iff_true_intro trivial))⟩
  obtain ⟨events, hlog, hevents⟩ := manager_bind (s := s)
  have hold : received s.nextSerial s.log = [] :=
    received_eq_nil fun event hevent => (h.log event hevent).ne
  rw [hlog, received_append, hold, List.nil_append, received_of_forall hevents]
  exact (List.append_cancel_left hlog).symm

end ManagerState

end Sol.ExtWorkspace
