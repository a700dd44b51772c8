import Sol.ExtWorkspaceViews

/-!
# What a manager is told

What a client is to see is read off the state, as a board for each manager.  Every part of a refresh
leads from the view of one board to the view of the next.

* `removeWorkspace_told`, `removeGroup_told`: what is gone;
* `addWorkspace_told`, `updateWorkspace_told`: the workspaces that there are;
* `refreshWorkspaceGroup_told`: the groups.
-/

namespace Sol.ExtWorkspace

open Objects Panicking

/-! ### The events of a client -/

section Received

variable {m : ManagerId} {ι : Type}

@[simp] theorem received_nil : received m [] = [] := rfl

@[simp] theorem received_append (events events' : List Event) :
    received m (events ++ events') = received m events ++ received m events' :=
  List.filter_append ..

theorem received_of_forall {events : List Event} (h : ∀ event ∈ events, event.manager = m) :
    received m events = events :=
  List.filter_eq_self.mpr fun event hevent => decide_eq_true (h event hevent)

theorem received_eq_nil {events : List Event} (h : ∀ event ∈ events, event.manager ≠ m) :
    received m events = [] :=
  List.filter_eq_nil_iff.mpr fun event hevent => by simpa using h event hevent

/-- Of the batches, a client gets those that are for it. -/
theorem received_flatMap (as : List ι) (owner : ι → ManagerId) {batch : ι → List Event}
    (h : ∀ a ∈ as, ∀ event ∈ batch a, event.manager = owner a) :
    received m (as.flatMap batch) = (as.filter fun a => owner a = m).flatMap batch := by
  induction as with
  | nil => rfl
  | cons a as ih =>
    rw [List.flatMap_cons, received_append, ih fun a' ha' => h a' (List.mem_cons_of_mem _ ha')]
    by_cases howner : owner a = m
    · rw [List.filter_cons_of_pos (by simpa using howner), List.flatMap_cons,
        received_of_forall fun event hevent => (h a List.mem_cons_self event hevent).trans howner]
    · rw [List.filter_cons_of_neg (by simpa using howner), received_eq_nil fun event hevent =>
        (h a List.mem_cons_self event hevent).trans_ne howner, List.nil_append]

end Received

/-! ### The board of a manager -/

/-- The handles of a manager. -/
def own (m : ManagerId) (handles : List WorkspaceHandle) : List WorkspaceHandle :=
  handles.filter fun handle => handle.manager = m

def ownGroups (m : ManagerId) (handles : List GroupHandle) : List GroupHandle :=
  handles.filter fun handle => handle.manager = m

def WorkspaceData.shown (data : WorkspaceData) : WorkspaceView :=
  ⟨data.id, some data.name, some data.coordinates, some data.state⟩

/-- The name goes with the id and the position. -/
structure WorkspaceData.Consistent (data : WorkspaceData) : Prop where
  name : data.name = data.id.getD (toString (data.coordinates.2 + 1))
  coordinates : data.coordinates.1 = 0

namespace WorkspaceData

variable {data : WorkspaceData} {ws : Workspace}

/-- The first events tell everything. -/
theorem leads_events (data : WorkspaceData) :
    WorkspaceView.reader.Leads True .new data.events data.shown := by
  unfold WorkspaceData.events shown
  cases data.id with
  | none => exact ⟨rfl, by simp [Reader.ExpectsAll, WorkspaceView.reader]⟩
  | some id => exact ⟨rfl, by simp [Reader.ExpectsAll, WorkspaceView.reader, WorkspaceView.new]⟩

/-- An id that is not set anew is the old one, or there was none. -/
theorem id_eq (h : data.recreate ws = false) :
    if data.idSet ws then data.id = none ∧ ws.name.isSome = true else data.id = ws.name := by
  unfold recreate idSet at *
  cases hid : data.id <;> cases hname : ws.name <;> simp_all

/-- What a workspace is told leads to what is shown of it after the refresh. -/
theorem leads_updates (h : data.recreate ws = false) :
    WorkspaceView.reader.Leads True data.shown (data.updates ws) (data.updated ws).shown := by
  have hid : WorkspaceView.reader.Leads True data.shown
      (if data.idSet ws then ws.name.toList.map .id else [])
      ⟨ws.name, some data.name, some data.coordinates, some data.state⟩ := by
    have heq := id_eq h
    split_ifs at heq ⊢ with hset
    · obtain ⟨name, hname⟩ := Option.isSome_iff_exists.mp heq.2
      rw [hname]
      refine .single ?_ (iff_true_intro heq.1)
      rw [shown, heq.1]
      rfl
    · rw [← heq]
      exact .nil _
  have hname : WorkspaceView.reader.Leads True
      ⟨ws.name, some data.name, some data.coordinates, some data.state⟩
      (if data.nameChanged ws then [.name ws.buildName] else [])
      ⟨ws.name, some (data.updated ws).name, some data.coordinates, some data.state⟩ := by
    unfold updated
    dsimp only
    split_ifs
    · exact .single rfl (iff_true_intro trivial)
    · exact .nil _
  have hcoordinates : WorkspaceView.reader.Leads True
      ⟨ws.name, some (data.updated ws).name, some data.coordinates, some data.state⟩
      (if data.coordinatesChanged ws then [.coordinates data.coordinates.1 ws.wsIdx] else [])
      ⟨ws.name, some (data.updated ws).name, some (data.coordinates.1, ws.wsIdx),
        some data.state⟩ := by
    split_ifs with hchanged
    · exact .single rfl (iff_true_intro trivial)
    · have hsame : data.coordinates = (data.coordinates.1, ws.wsIdx) := by
        simpa [coordinatesChanged, Prod.ext_iff] using hchanged
      rw [← hsame]
      exact .nil _
  have hstate : WorkspaceView.reader.Leads True
      ⟨ws.name, some (data.updated ws).name, some (data.coordinates.1, ws.wsIdx), some data.state⟩
      (if data.stateChanged ws then [.state ws.state] else []) (data.updated ws).shown := by
    split_ifs with hchanged
    · exact .single rfl (iff_true_intro trivial)
    · have hsame : data.state = ws.state := by simpa [stateChanged] using hchanged
      rw [hsame]
      exact .nil _
  exact ((hid.append_true hname).append_true hcoordinates).append_true hstate

theorem updates_eq_nil (h : data.somethingChanged ws = false) : data.updates ws = [] := by
  simp only [somethingChanged, Bool.or_eq_false_iff] at h
  simp [updates, h]

/-- The name is what it is to be, also where it was not looked at. -/
theorem Consistent.updated (h : data.Consistent) (ws : Workspace) :
    (data.updated ws).Consistent := by
  refine ⟨?_, h.coordinates⟩
  change (if data.nameChanged ws then ws.buildName else data.name) = ws.buildName
  split_ifs with hchanged
  · rfl
  · rw [nameChanged, Bool.and_eq_true, not_and, decide_eq_true_eq, not_not] at hchanged
    by_cases hcheck : (data.recreate ws ||
        if ws.name.isSome then data.idSet ws else data.coordinatesChanged ws) = true
    · exact hchanged hcheck
    · simp only [Bool.or_eq_true, not_or, Bool.not_eq_true] at hcheck
      have hid := id_eq hcheck.1
      rw [h.name, Workspace.buildName]
      cases hname : ws.name with
      | some name =>
        have hset : data.idSet ws = false := by simpa [hname] using hcheck.2
        rw [hset, if_neg Bool.false_ne_true, hname] at hid
        rw [hid]
        rfl
      | none =>
        have hcoordinates : data.coordinatesChanged ws = false := by simpa [hname] using hcheck.2
        have hsame : data.coordinates.2 = ws.wsIdx := by
          simpa [coordinatesChanged] using hcoordinates
        rw [hname] at hid
        have hnone : data.id = none := by
          cases hset : data.idSet ws with
          | false => rwa [hset, if_neg Bool.false_ne_true] at hid
          | true =>
            rw [hset, if_pos rfl] at hid
            exact hid.1
        rw [hnone, hsame]

theorem Consistent.shown_updated (h : data.Consistent) (ws : Workspace) :
    (data.updated ws).shown = ws.shown := by
  have hname := (h.updated ws).name
  have hcoordinates := h.coordinates
  unfold WorkspaceData.shown Workspace.shown
  rw [hname]
  unfold WorkspaceData.updated
  simp [hcoordinates, Workspace.buildName]

end WorkspaceData

def groupsOf (m : ManagerId) (groups : Groups) (output : OutputId) : Option GroupHandle :=
  (Assoc.get groups output).bind fun handles => (ownGroups m handles).head?

namespace ManagerState

variable (s : ManagerState)

def slotOf (m : ManagerId) (data : WorkspaceData) : Option Slot :=
  (own m data.instances).head?.map fun handle => ⟨handle, data.shown, data.output⟩

/-- What the client of a manager is to see. -/
def board (m : ManagerId) : Board where
  slot id := (Assoc.get s.workspaces id).bind (slotOf m)
  group := groupsOf m s.workspaceGroups

/-- What holds for all managers. -/
structure Tended : Prop where
  workspaces : (Assoc.keys s.workspaces).Nodup
  groups : (Assoc.keys s.workspaceGroups).Nodup
  managers : s.managers.Nodup
  consistent : ∀ entry ∈ s.workspaces, entry.2.Consistent
  owned : ∀ entry ∈ s.workspaces, ∀ handle ∈ entry.2.instances, handle.manager ∈ s.managers
  ownedGroups : ∀ entry ∈ s.workspaceGroups, ∀ handle ∈ entry.2,
    handle.manager ∈ s.managers
  serial : ∀ manager ∈ s.managers, manager < s.nextSerial
  log : ∀ event ∈ s.log, event.manager < s.nextSerial

/-- A manager has one handle for everything. -/
structure Whole (m : ManagerId) : Prop where
  live : m ∈ s.managers
  workspaces : ∀ entry ∈ s.workspaces, ∃ handle,
    own m entry.2.instances = [handle] ∧ handle.workspace = entry.1
  groups : ∀ entry ∈ s.workspaceGroups, ∃ handle,
    ownGroups m entry.2 = [handle] ∧ handle.output = entry.1

end ManagerState

/-- The events that a step sends lead from one board to the other. -/
structure Told (m : ManagerId) (g : Prop) (s t : ManagerState) : Prop where
  whole : t.Whole m
  leads : ∃ events, received m t.log = received m s.log ++ events ∧
    ClientView.reader.Leads g (s.board m).view events (t.board m).view

/-- Managers are distinct. -/
theorem filter_eq_singleton {managers : List ManagerId} {m : ManagerId} (hnodup : managers.Nodup)
    (hm : m ∈ managers) : (managers.filter fun manager => decide (manager = m)) = [m] := by
  rw [List.filter_eq, List.count_eq_one_of_mem hnodup hm]
  rfl

namespace ManagerState

variable {m : ManagerId} {s t : ManagerState} {data : WorkspaceData} {handle : WorkspaceHandle}

theorem Whole.named (h : s.Whole m) : (s.board m).Named := by
  refine ⟨fun id slot hslot => ?_, fun output group hgroup => ?_⟩
  · obtain ⟨data, hdata, hslot⟩ := Option.bind_eq_some_iff.mp hslot
    obtain ⟨handle, hown, hid⟩ := h.workspaces _ (Assoc.mem_of_get_eq_some hdata)
    rw [slotOf, hown] at hslot
    cases hslot
    exact hid
  · obtain ⟨handles, hhandles, hgroup⟩ := Option.bind_eq_some_iff.mp hgroup
    obtain ⟨handle, hown, hof⟩ := h.groups _ (Assoc.mem_of_get_eq_some hhandles)
    rw [hown] at hgroup
    cases hgroup
    exact hof

theorem board_slot {id : WorkspaceId} (hdata : Assoc.get s.workspaces id = some data)
    (hown : own m data.instances = [handle]) :
    (s.board m).slot id = some ⟨handle, data.shown, data.output⟩ := by
  simp [board, hdata, slotOf, hown]

/-- Whoever enters or leaves is told to the group of the manager. -/
theorem received_enterLeave (h : s.Whole m) (hown : own m data.instances = [handle])
    (enter : Bool) :
    received m (data.enterLeave s.workspaceGroups enter) =
      (s.board m).tellGroup (if enter then .workspaceEnter handle else .workspaceLeave handle)
        data.output := by
  unfold WorkspaceData.enterLeave WorkspaceData.pairs Board.tellGroup board groupsOf
  cases houtput : data.output with
  | none => rfl
  | some output =>
    cases hhandles : Assoc.get s.workspaceGroups output with
    | none => simp [hhandles]
    | some handles =>
      obtain ⟨group, howng, hof⟩ := h.groups _ (Assoc.mem_of_get_eq_some hhandles)
      have hmanager : group.manager = m := by
        have hmem : group ∈ ownGroups m handles := howng ▸ List.mem_singleton_self group
        exact of_decide_eq_true (List.mem_filter.mp hmem).2
      simp only [Option.bind_some, hhandles]
      rw [List.map_flatMap, received_flatMap handles GroupHandle.manager]
      · change (ownGroups m handles).flatMap _ = _
        rw [howng]
        simp only [List.flatMap_singleton, hmanager]
        change ((own m data.instances).map _).map _ = _
        rw [hown]
        rfl
      · intro group hgroup event hevent
        obtain ⟨p, hp, rfl⟩ := List.mem_map.mp hevent
        obtain ⟨workspace, -, rfl⟩ := List.mem_map.mp hp
        rfl

/-! ### Events and managers -/

theorem Tended.manager_enterLeave (h : s.Tended) (data : WorkspaceData) (enter : Bool) :
    ∀ event ∈ data.enterLeave s.workspaceGroups enter, event.manager ∈ s.managers := by
  intro event hevent
  obtain ⟨p, hp, rfl⟩ := List.mem_map.mp hevent
  unfold WorkspaceData.pairs at hp
  split at hp
  next handles hhandles =>
    obtain ⟨output, -, hget⟩ := Option.bind_eq_some_iff.mp hhandles
    obtain ⟨group, hgroup, hp⟩ := List.mem_flatMap.mp hp
    obtain ⟨workspace, -, rfl⟩ := List.mem_map.mp hp
    exact h.ownedGroups _ (Assoc.mem_of_get_eq_some hget) group hgroup
  next => cases hp

theorem manager_each {managers : List ManagerId} {handles : List WorkspaceHandle}
    (h : ∀ handle ∈ handles, handle.manager ∈ managers)
    (batch : WorkspaceHandle → List (Sent WorkspaceEvent)) :
    ∀ event ∈ handles.flatMap fun handle => (batch handle).map (Event.workspace handle),
      event.manager ∈ managers := by
  intro event hevent
  obtain ⟨handle, hhandle, hevent⟩ := List.mem_flatMap.mp hevent
  obtain ⟨sent, -, rfl⟩ := List.mem_map.mp hevent
  exact h handle hhandle

/-- Batches on the handles of a workspace. -/
theorem received_each (handles : List WorkspaceHandle)
    (batch : WorkspaceHandle → List (Sent WorkspaceEvent)) :
    received m (handles.flatMap fun handle => (batch handle).map (Event.workspace handle)) =
      (own m handles).flatMap fun handle => (batch handle).map (Event.workspace handle) := by
  refine received_flatMap handles WorkspaceHandle.manager fun handle _ event hevent => ?_
  obtain ⟨sent, -, rfl⟩ := List.mem_map.mp hevent
  rfl

theorem Tended.log_append (h : s.Tended) {events : List Event}
    (hevents : ∀ event ∈ events, event.manager ∈ s.managers) :
    ∀ event ∈ s.log ++ events, event.manager < s.nextSerial := by
  intro event hevent
  rcases List.mem_append.mp hevent with hold | hnew
  · exact h.log event hold
  · exact h.serial _ (hevents event hnew)

/-! ### Workspaces that are gone -/

theorem removeInstances_eq (data : WorkspaceData) (groups : Groups) :
    data.removeInstances groups = data.enterLeave groups false ++
      data.instances.flatMap fun handle => [Sent.destroy].map (Event.workspace handle) := by
  unfold WorkspaceData.removeInstances
  congr 1
  induction data.instances with
  | nil => rfl
  | cons handle handles ih =>
    rw [List.map_cons, List.flatMap_cons, ih]
    rfl

theorem received_removeInstances (hw : s.Whole m) (hown : own m data.instances = [handle]) :
    received m (data.removeInstances s.workspaceGroups) =
      (s.board m).tellGroup (.workspaceLeave handle) data.output ++
        [.workspace handle .destroy] := by
  rw [removeInstances_eq, received_append, received_enterLeave hw hown, received_each, hown]
  rfl

theorem Tended.removeWorkspace (h : s.Tended) {entry : WorkspaceId × WorkspaceData}
    (hentry : Assoc.get s.workspaces entry.1 = some entry.2) :
    (s.removeWorkspace entry).Tended := by
  refine ⟨Assoc.nodup_keys_filter h.workspaces _, h.groups, h.managers, ?_, ?_, h.ownedGroups,
    h.serial, h.log_append ?_⟩
  · exact fun entry hentry => h.consistent entry (List.mem_filter.mp hentry).1
  · exact fun entry hentry => h.owned entry (List.mem_filter.mp hentry).1
  · rw [removeInstances_eq]
    exact List.forall_mem_append.mpr ⟨h.manager_enterLeave _ false,
      manager_each (h.owned _ (Assoc.mem_of_get_eq_some hentry)) _⟩

theorem removeWorkspace_told (hw : s.Whole m) {entry : WorkspaceId × WorkspaceData}
    (hentry : Assoc.get s.workspaces entry.1 = some entry.2) :
    Told m True s (s.removeWorkspace entry) := by
  obtain ⟨id, data⟩ := entry
  have hmem := Assoc.mem_of_get_eq_some hentry
  obtain ⟨handle, hown, hid⟩ := hw.workspaces _ hmem
  have hslot := board_slot hentry hown
  have hboard : (s.removeWorkspace (id, data)).board m = (s.board m).setSlot id none := by
    unfold board Board.setSlot removeWorkspace
    congr 1
    funext id'
    by_cases heq : id' = id
    · subst heq
      simp [Assoc.get_remove]
    · simp [Assoc.get_remove, heq]
  refine ⟨⟨hw.live, ?_, hw.groups⟩, ?_⟩
  · exact fun entry hentry => hw.workspaces entry (List.mem_filter.mp hentry).1
  · refine ⟨_, received_append .., ?_⟩
    rw [received_removeInstances hw hown, hboard]
    have hleave := Board.leads_leave hw.named hslot
    have hnamed : ((s.board m).setSlot id (some ⟨handle, data.shown, none⟩)).Named :=
      hw.named.setSlot fun slot hs => by cases hs; exact hid
    have hdestroy := Board.leads_destroy hnamed (Board.setSlot_slot _) rfl
    rw [Board.setSlot_setSlot] at hdestroy
    exact hleave.append_true hdestroy

/-! ### Groups -/

/-- The workspaces on an output. -/
def on (s : ManagerState) (output : OutputId) : List (WorkspaceId × WorkspaceData) :=
  s.workspaces.filter fun entry => entry.2.output = some output

/-- The slot of a workspace that has one. -/
def slotAt (s : ManagerState) (m : ManagerId) (id : WorkspaceId) : Slot :=
  ((s.board m).slot id).getD ⟨⟨0, m, id⟩, .new, none⟩

theorem Whole.slot_of_mem (h : s.Tended) (hw : s.Whole m) {entry : WorkspaceId × WorkspaceData}
    (hentry : entry ∈ s.workspaces) : (s.board m).slot entry.1 = some (s.slotAt m entry.1) ∧
      own m entry.2.instances = [(s.slotAt m entry.1).handle] ∧
        (s.slotAt m entry.1).output = entry.2.output := by
  obtain ⟨handle, hown, -⟩ := hw.workspaces entry hentry
  have hslot := board_slot ((Assoc.get_eq_some_iff h.workspaces).mpr hentry) hown
  have hat : s.slotAt m entry.1 = ⟨handle, entry.2.shown, entry.2.output⟩ := by
    rw [slotAt, hslot]
    rfl
  rw [hat]
  exact ⟨hslot, hown, rfl⟩

theorem nodup_keys_on (h : s.Tended) (output : OutputId) : (Assoc.keys (s.on output)).Nodup :=
  Assoc.nodup_keys_filter h.workspaces _

theorem slot_on (h : s.Tended) (hw : s.Whole m) {output : OutputId} {id : WorkspaceId}
    (hid : id ∈ Assoc.keys (s.on output)) :
    (s.board m).slot id = some (s.slotAt m id) ∧ (s.slotAt m id).output = some output := by
  obtain ⟨entry, hentry, rfl⟩ := List.mem_map.mp hid
  obtain ⟨hmem, houtput⟩ := List.mem_filter.mp hentry
  obtain ⟨hslot, -, hof⟩ := hw.slot_of_mem h hmem
  exact ⟨hslot, hof.trans (of_decide_eq_true houtput)⟩

theorem mem_keys_on (h : s.Tended) (hw : s.Whole m) {output : OutputId} {id : WorkspaceId}
    {slot : Slot} (hslot : (s.board m).slot id = some slot) (houtput : slot.output = some output) :
    id ∈ Assoc.keys (s.on output) := by
  obtain ⟨data, hdata, -⟩ := Option.bind_eq_some_iff.mp hslot
  have hmem := Assoc.mem_of_get_eq_some hdata
  obtain ⟨hslot', -, hof⟩ := hw.slot_of_mem h hmem
  rw [hslot] at hslot'
  cases hslot'
  have hsame := decide_eq_true (hof.symm.trans houtput)
  exact List.mem_map.mpr ⟨_, List.mem_filter.mpr ⟨hmem, hsame⟩, rfl⟩

/-- What one of the group handles of a manager is told of the workspaces on the output. -/
theorem tidings_on (h : s.Tended) (hw : s.Whole m) (output : OutputId) {group : GroupHandle}
    (hmanager : group.manager = m) (event : WorkspaceHandle → Event) :
    ((s.on output).flatMap fun entry => (entry.2.instances.filter fun workspace =>
        workspace.manager = group.manager).map event) =
      (Assoc.keys (s.on output)).flatMap fun id => [event (s.slotAt m id).handle] := by
  unfold Assoc.keys
  rw [List.flatMap_map]
  refine List.flatMap_congr fun entry hentry => ?_
  obtain ⟨-, hown, -⟩ := hw.slot_of_mem h (List.mem_filter.mp hentry).1
  rw [hmanager]
  change (own m entry.2.instances).map event = _
  rw [hown]
  rfl

theorem Whole.group (hw : s.Whole m) {entry : OutputId × List GroupHandle}
    (hentry : entry ∈ s.workspaceGroups) : ∃ group, ownGroups m entry.2 = [group] ∧
      group.output = entry.1 ∧ group.manager = m := by
  obtain ⟨group, hown, hof⟩ := hw.groups entry hentry
  have hmem : group ∈ ownGroups m entry.2 := hown ▸ List.mem_singleton_self group
  exact ⟨group, hown, hof, of_decide_eq_true (List.mem_filter.mp hmem).2⟩

/-- What is told of a group that goes is told to its manager. -/
theorem manager_removeGroup (workspaces : List (WorkspaceId × WorkspaceData))
    (handle : GroupHandle) :
    ∀ event ∈ (workspaces.flatMap fun entry => (entry.2.instances.filter fun workspace =>
        workspace.manager = handle.manager).map
          fun workspace => Event.group handle (.tell (.workspaceLeave workspace))) ++
            [.group handle .destroy], event.manager = handle.manager := by
  intro event hevent
  rcases List.mem_append.mp hevent with hleave | hdestroy
  · obtain ⟨entry, -, hleave⟩ := List.mem_flatMap.mp hleave
    obtain ⟨workspace, -, rfl⟩ := List.mem_map.mp hleave
    rfl
  · rw [List.mem_singleton.mp hdestroy]
    rfl

theorem Tended.removeGroup (h : s.Tended) {entry : OutputId × List GroupHandle}
    (hentry : Assoc.get s.workspaceGroups entry.1 = some entry.2) :
    (s.removeGroup entry).Tended := by
  refine ⟨h.workspaces, Assoc.nodup_keys_filter h.groups _, h.managers, h.consistent, h.owned, ?_,
    h.serial, h.log_append ?_⟩
  · exact fun entry hentry => h.ownedGroups entry (List.mem_filter.mp hentry).1
  · intro event hevent
    obtain ⟨handle, hhandle, hevent⟩ := List.mem_flatMap.mp hevent
    rw [manager_removeGroup _ handle event hevent]
    exact h.ownedGroups _ (Assoc.mem_of_get_eq_some hentry) handle hhandle

theorem removeGroup_told (h : s.Tended) (hw : s.Whole m) {entry : OutputId × List GroupHandle}
    (hentry : Assoc.get s.workspaceGroups entry.1 = some entry.2) :
    Told m True s (s.removeGroup entry) := by
  obtain ⟨output, handles⟩ := entry
  obtain ⟨group, hown, hof, hmanager⟩ := hw.group (Assoc.mem_of_get_eq_some hentry)
  have hthere : (s.board m).group output = some group := by
    change (Assoc.get s.workspaceGroups output).bind _ = _
    rw [hentry, Option.bind_some, hown]
    rfl
  have hboard : (s.removeGroup (output, handles)).board m = (s.board m).setGroup output none := by
    unfold board Board.setGroup removeGroup groupsOf
    congr 1
    funext output'
    by_cases heq : output' = output
    · subst heq
      simp [Assoc.get_remove]
    · simp [Assoc.get_remove, heq]
  refine ⟨⟨hw.live, hw.workspaces,
    fun entry hentry => hw.groups entry (List.mem_filter.mp hentry).1⟩,
    ?_⟩
  have hreceived := received_flatMap (m := m) handles GroupHandle.manager
    fun handle _ => manager_removeGroup (s.on output) handle
  change _ = (ownGroups m handles).flatMap _ at hreceived
  rw [hown, List.flatMap_singleton, tidings_on h hw output hmanager] at hreceived
  refine ⟨_, (received_append ..).trans (congrArg (received m s.log ++ ·) hreceived), ?_⟩
  rw [hboard]
  exact Board.leads_destroyGroup hw.named hthere (nodup_keys_on h output)
    (fun id hid => slot_on h hw hid) fun id slot hslot houtput => mem_keys_on h hw hslot houtput

theorem ownGroups_groupHandles {managers : List ManagerId} (hnodup : managers.Nodup)
    (hm : m ∈ managers) (serial : ℕ) (output : OutputId) :
    ownGroups m (groupHandles serial managers output) = [⟨serial, m, output⟩] := by
  unfold ownGroups groupHandles
  rw [List.filter_map]
  change (managers.filter fun manager => decide (manager = m)).map _ = _
  rw [filter_eq_singleton hnodup hm]
  rfl

theorem own_workspaceHandles {managers : List ManagerId} (hnodup : managers.Nodup)
    (hm : m ∈ managers) (serial : ℕ) (workspace : WorkspaceId) :
    own m (workspaceHandles serial managers workspace) = [⟨serial, m, workspace⟩] := by
  unfold own workspaceHandles
  rw [List.filter_map]
  change (managers.filter fun manager => decide (manager = m)).map _ = _
  rw [filter_eq_singleton hnodup hm]
  rfl

theorem enters_eq (group : GroupHandle) :
    ((enters s.workspaces group).map .tell).map (Event.group group) =
      (s.on group.output).flatMap fun entry => (entry.2.instances.filter fun workspace =>
        workspace.manager = group.manager).map
          fun workspace => .group group (.tell (.workspaceEnter workspace)) := by
  unfold enters on
  simp only [List.map_flatMap, List.map_map]
  rfl

theorem manager_enters (workspaces : List (WorkspaceId × WorkspaceData)) (handle : GroupHandle) :
    ∀ event ∈ ((enters workspaces handle).map Sent.tell).map (Event.group handle),
      event.manager = handle.manager := by
  intro event hevent
  obtain ⟨sent, -, rfl⟩ := List.mem_map.mp hevent
  rfl

theorem manager_groupHandles (managers : List ManagerId) (serial : ℕ) (output : OutputId) :
    ∀ handle ∈ groupHandles serial managers output, handle.manager ∈ managers := by
  intro handle hhandle
  obtain ⟨manager, hmanager, rfl⟩ := List.mem_map.mp hhandle
  exact hmanager

theorem Tended.refreshWorkspaceGroup (h : s.Tended) (output : OutputId) :
    (s.refreshWorkspaceGroup output).2.Tended := by
  unfold ManagerState.refreshWorkspaceGroup
  cases hget : Assoc.get s.workspaceGroups output with
  | some handles => exact h
  | none =>
    have hmanagers := manager_groupHandles s.managers s.nextSerial output
    refine ⟨h.workspaces, Assoc.nodup_keys_concat h.groups (Assoc.get_eq_none_iff.mp hget),
      h.managers, h.consistent, h.owned, ?_, ?_, ?_⟩
    · exact List.forall_mem_append.mpr ⟨h.ownedGroups, List.forall_mem_singleton.mpr hmanagers⟩
    · exact fun manager hmanager => (h.serial manager hmanager).trans (Nat.lt_succ_self _)
    · refine fun event hevent => (h.log_append (fun event hevent => ?_) event hevent).trans
        (Nat.lt_succ_self _)
      rcases List.mem_append.mp hevent with hcreate | henter
      · obtain ⟨handle, hhandle, rfl⟩ := List.mem_map.mp hcreate
        exact hmanagers handle hhandle
      · obtain ⟨handle, hhandle, hevent⟩ := List.mem_flatMap.mp henter
        rw [manager_enters _ handle event hevent]
        exact hmanagers handle hhandle

/-- An output without a group gets one. -/
theorem refreshWorkspaceGroup_told (h : s.Tended) (hw : s.Whole m) (output : OutputId) :
    Told m True s (s.refreshWorkspaceGroup output).2 := by
  unfold refreshWorkspaceGroup
  cases hget : Assoc.get s.workspaceGroups output with
  | some handles => exact ⟨hw, [], (List.append_nil _).symm, .nil _⟩
  | none =>
    have hnot : output ∉ Assoc.keys s.workspaceGroups := Assoc.get_eq_none_iff.mp hget
    have hown := ownGroups_groupHandles h.managers hw.live s.nextSerial output
    have hcreate : received m ((groupHandles s.nextSerial s.managers output).map
        fun group => .group group .create) = [.group ⟨s.nextSerial, m, output⟩ .create] := by
      unfold received
      rw [List.filter_map]
      change (ownGroups m _).map _ = _
      rw [hown]
      rfl
    have hreceived := received_flatMap (m := m) (groupHandles s.nextSerial s.managers output)
      GroupHandle.manager fun handle _ => manager_enters s.workspaces handle
    change _ = (ownGroups m _).flatMap _ at hreceived
    rw [hown, List.flatMap_singleton, enters_eq, tidings_on h hw output rfl] at hreceived
    have hboard : (s.refreshWorkspaceGroup output).2.board m =
        (s.board m).setGroup output (some ⟨s.nextSerial, m, output⟩) := by
      unfold refreshWorkspaceGroup
      rw [hget]
      unfold board Board.setGroup groupsOf
      congr 1
      funext output'
      by_cases heq : output' = output
      · subst heq
        simp [Assoc.get_concat hnot, hown]
      · simp [Assoc.get_concat hnot, heq]
    unfold refreshWorkspaceGroup at hboard
    rw [hget] at hboard
    refine ⟨⟨hw.live, hw.workspaces, ?_⟩, ?_⟩
    · exact List.forall_mem_append.mpr ⟨hw.groups, List.forall_mem_singleton.mpr ⟨_, hown, rfl⟩⟩
    · refine ⟨_, received_append .., ?_⟩
      rw [received_append, hcreate, hreceived, hboard]
      have hnone : (s.board m).group output = none := by
        change (Assoc.get s.workspaceGroups output).bind _ = _
        rw [hget]
        rfl
      exact Board.leads_createGroup hw.named rfl hnone (nodup_keys_on h output)
        (fun id hid => slot_on h hw hid) fun id slot hslot houtput => mem_keys_on h hw hslot houtput

/-! ### Workspaces that there are -/

/-- A workspace that is told of for the first time. -/
theorem received_create (hown : own m data.instances = [handle]) :
    received m (data.create data.instances) =
      (.create :: data.events.map .tell).map (Event.workspace handle) := by
  unfold WorkspaceData.create
  rw [received_each, hown, List.flatMap_singleton]

theorem manager_workspaceHandles (managers : List ManagerId) (serial : ℕ) (id : WorkspaceId) :
    ∀ handle ∈ workspaceHandles serial managers id, handle.manager ∈ managers := by
  intro handle hhandle
  obtain ⟨manager, hmanager, rfl⟩ := List.mem_map.mp hhandle
  exact hmanager

/-- What is kept of a new workspace. -/
def newData (s : ManagerState) (ws : Workspace) : WorkspaceData :=
  ⟨ws.name, ws.buildName, (0, ws.wsIdx), ws.state,
    workspaceHandles s.nextSerial s.managers ws.id, ws.output⟩

theorem Tended.addWorkspace (h : s.Tended) {ws : Workspace}
    (hnew : Assoc.get s.workspaces ws.id = none) : (s.addWorkspace ws).Tended := by
  have hhandles := manager_workspaceHandles s.managers s.nextSerial ws.id
  refine ⟨Assoc.nodup_keys_concat h.workspaces (Assoc.get_eq_none_iff.mp hnew), h.groups,
    h.managers,
    ?_, ?_, h.ownedGroups, ?_, ?_⟩
  · exact List.forall_mem_append.mpr ⟨h.consistent, List.forall_mem_singleton.mpr ⟨rfl, rfl⟩⟩
  · exact List.forall_mem_append.mpr ⟨h.owned, List.forall_mem_singleton.mpr hhandles⟩
  · exact fun manager hmanager => (h.serial manager hmanager).trans (Nat.lt_succ_self _)
  · refine fun event hevent => (h.log_append (fun event hevent => ?_) event hevent).trans
      (Nat.lt_succ_self _)
    rcases List.mem_append.mp hevent with hcreate | henter
    · exact manager_each hhandles _ event hcreate
    · exact h.manager_enterLeave _ true event henter

theorem addWorkspace_told (h : s.Tended) (hw : s.Whole m) {ws : Workspace}
    (hnew : Assoc.get s.workspaces ws.id = none) : Told m True s (s.addWorkspace ws) := by
  have hnot : ws.id ∉ Assoc.keys s.workspaces := Assoc.get_eq_none_iff.mp hnew
  have hown : own m (s.newData ws).instances = [⟨s.nextSerial, m, ws.id⟩] :=
    own_workspaceHandles h.managers hw.live s.nextSerial ws.id
  have hboard : (s.addWorkspace ws).board m = (s.board m).setSlot ws.id
      (some ⟨⟨s.nextSerial, m, ws.id⟩, (s.newData ws).shown, ws.output⟩) := by
    change ({ s with workspaces := s.workspaces ++ [(ws.id, s.newData ws)] } : ManagerState).board m
      = _
    unfold board Board.setSlot
    congr 1
    funext id
    have hslot : slotOf m (s.newData ws) =
        some ⟨⟨s.nextSerial, m, ws.id⟩, (s.newData ws).shown, ws.output⟩ := by
      rw [slotOf, hown]
      rfl
    by_cases heq : id = ws.id
    · subst heq
      simp [Assoc.get_concat hnot, hslot]
    · simp [Assoc.get_concat hnot, heq]
  refine ⟨⟨hw.live, ?_, hw.groups⟩, ?_⟩
  · exact List.forall_mem_append.mpr ⟨hw.workspaces, List.forall_mem_singleton.mpr ⟨_, hown, rfl⟩⟩
  · have hcreated := received_create hown
    have hentered := received_enterLeave hw hown true
    have hnone : (s.board m).slot ws.id = none := by
      change (Assoc.get s.workspaces ws.id).bind _ = _
      rw [hnew]
      rfl
    refine ⟨_, (received_append ..).trans (congrArg (received m s.log ++ ·)
      ((received_append ..).trans (congrArg₂ (· ++ ·) hcreated hentered))), ?_⟩
    rw [hboard]
    exact Board.leads_new hw.named hnone rfl (s.newData ws).leads_events ws.output

/-- A workspace is not renamed and moved at once to an output with a group. -/
def Calm (s : ManagerState) (ws : Workspace) : Prop :=
  ∀ data, Assoc.get s.workspaces ws.id = some data → data.recreate ws = true →
    data.output ≠ ws.output → ∀ output ∈ ws.output, output ∉ Assoc.keys s.workspaceGroups

theorem Whole.group_eq_none_iff (hw : s.Whole m) (output : Option OutputId) :
    output.bind (s.board m).group = none ↔
      ∀ output' ∈ output, output' ∉ Assoc.keys s.workspaceGroups := by
  cases output with
  | none => simp
  | some output =>
    simp only [Option.bind_some, Option.mem_some_iff, forall_eq', ← Assoc.get_eq_none_iff]
    change (Assoc.get s.workspaceGroups output).bind _ = none ↔ _
    cases hget : Assoc.get s.workspaceGroups output with
    | none => simp
    | some handles =>
      obtain ⟨group, hown, -⟩ := hw.groups _ (Assoc.mem_of_get_eq_some hget)
      simp [hown]

/-- The workspace moved, and its group was told. -/
theorem leads_moved (hw : s.Whole m) {ws : Workspace}
    (hdata : Assoc.get s.workspaces ws.id = some data) (hown : own m data.instances = [handle]) :
    ClientView.reader.Leads True (s.board m).view
      (if data.outputChanged ws then
        (s.board m).tellGroup (.workspaceLeave handle) data.output ++
          (s.board m).tellGroup (.workspaceEnter handle) ws.output else [])
      ((s.board m).setSlot ws.id (some ⟨handle, data.shown, ws.output⟩)).view := by
  have hslot := board_slot hdata hown
  have hid := hw.named.slot _ _ hslot
  split_ifs with hchanged
  · have hnamed : ((s.board m).setSlot ws.id (some ⟨handle, data.shown, none⟩)).Named :=
      hw.named.setSlot fun slot hs => by cases hs; exact hid
    have henter := Board.leads_enter hnamed (Board.setSlot_slot _) rfl ws.output
    rw [Board.setSlot_setSlot] at henter
    exact (Board.leads_leave hw.named hslot).append_true henter
  · have hsame : data.output = ws.output := by simpa [WorkspaceData.outputChanged] using hchanged
    rw [← hsame, Board.setSlot_self hslot]
    exact .nil _

/-- The old handle goes; it leaves the new group, whether it is in it or not. -/
theorem leads_recreated (hw : s.Whole m) {ws : Workspace}
    (hdata : Assoc.get s.workspaces ws.id = some data) (hown : own m data.instances = [handle]) :
    ClientView.reader.Leads (data.output ≠ ws.output → ws.output.bind (s.board m).group = none)
      (s.board m).view
      ((if data.outputChanged ws then (s.board m).tellGroup (.workspaceLeave handle) data.output
        else []) ++ ((s.board m).tellGroup (.workspaceLeave handle) ws.output ++
          [.workspace handle .destroy]))
      ((s.board m).setSlot ws.id none).view := by
  have hslot := board_slot hdata hown
  have hid := hw.named.slot _ _ hslot
  have hnamed : ((s.board m).setSlot ws.id (some ⟨handle, data.shown, none⟩)).Named :=
    hw.named.setSlot fun slot hs => by cases hs; exact hid
  have hdestroy := Board.leads_destroy hnamed (Board.setSlot_slot _) rfl
  rw [Board.setSlot_setSlot] at hdestroy
  split_ifs with hchanged
  · have hne : data.output ≠ ws.output := by simpa [WorkspaceData.outputChanged] using hchanged
    have hother := Board.leads_leaveOther hnamed (Board.setSlot_slot _) rfl ws.output
    refine ((Board.leads_leave hw.named hslot).append (hother.append hdestroy)).congr ?_
    simp [hne]
  · have hsame : data.output = ws.output := by simpa [WorkspaceData.outputChanged] using hchanged
    rw [List.nil_append, ← hsame]
    refine ((Board.leads_leave hw.named hslot).append hdestroy).congr ?_
    simp

theorem mem_modify_const {κ α : Type} [DecidableEq κ] {k : κ} {a : α} {l : List (κ × α)}
    {entry : κ × α} (h : entry ∈ Assoc.modify k (fun _ => a) l) : entry ∈ l ∨ entry = (k, a) := by
  obtain ⟨p, hp, rfl⟩ := List.mem_map.mp h
  split_ifs with heq
  · exact .inr (heq ▸ rfl)
  · exact .inl hp

/-- A workspace with other data, and more events. -/
theorem tended_modify (h : s.Tended) {id : WorkspaceId} {data' : WorkspaceData} {serial : ℕ}
    {events : List Event} (hserial : s.nextSerial ≤ serial) (hconsistent : data'.Consistent)
    (howned : ∀ handle ∈ data'.instances, handle.manager ∈ s.managers)
    (hevents : ∀ event ∈ events, event.manager ∈ s.managers) :
    ({ s with
      workspaces := Assoc.modify id (fun _ => data') s.workspaces
      nextSerial := serial
      log := s.log ++ events } : ManagerState).Tended := by
  refine ⟨?_, h.groups, h.managers, ?_, ?_, h.ownedGroups, ?_, ?_⟩
  · exact (Assoc.keys_modify id (fun _ => data') s.workspaces).symm ▸ h.workspaces
  · intro entry hentry
    rcases mem_modify_const hentry with hold | rfl
    · exact h.consistent entry hold
    · exact hconsistent
  · intro entry hentry
    rcases mem_modify_const hentry with hold | rfl
    · exact h.owned entry hold
    · exact howned
  · exact fun manager hmanager => (h.serial manager hmanager).trans_le hserial
  · exact fun event hevent => (h.log_append hevents event hevent).trans_le hserial

theorem told_modify (hw : s.Whole m) {id : WorkspaceId} {data' : WorkspaceData} {serial : ℕ}
    {events : List Event} {g : Prop} {handle' : WorkspaceHandle}
    (hdata : Assoc.get s.workspaces id = some data) (hown : own m data'.instances = [handle'])
    (hid : handle'.workspace = id)
    (hleads : ClientView.reader.Leads g (s.board m).view (received m events)
      ((s.board m).setSlot id (some ⟨handle', data'.shown, data'.output⟩)).view) :
    Told m g s { s with
      workspaces := Assoc.modify id (fun _ => data') s.workspaces
      nextSerial := serial
      log := s.log ++ events } := by
  have hboard : ({ s with workspaces := Assoc.modify id (fun _ => data') s.workspaces } :
      ManagerState).board m =
        (s.board m).setSlot id (some ⟨handle', data'.shown, data'.output⟩) := by
    unfold board Board.setSlot
    congr 1
    funext id'
    by_cases heq : id' = id
    · subst heq
      simp [Assoc.get_modify, hdata, slotOf, hown]
    · simp [Assoc.get_modify, heq]
  refine ⟨⟨hw.live, fun entry hentry => ?_, hw.groups⟩, received m events,
    received_append .., hboard ▸ hleads⟩
  rcases mem_modify_const hentry with hold | rfl
  · exact hw.workspaces entry hold
  · exact ⟨handle', hown, hid⟩

theorem Tended.updateWorkspace (h : s.Tended) {ws : Workspace}
    (hdata : Assoc.get s.workspaces ws.id = some data) : (s.updateWorkspace data ws).2.Tended := by
  have hmem := Assoc.mem_of_get_eq_some hdata
  have hconsistent := (h.consistent _ hmem).updated ws
  have hmanagers := h.owned _ hmem
  have hmoved : ∀ (data : WorkspaceData) (enter : Bool), ∀ event ∈ (if data.outputChanged ws then
      data.enterLeave s.workspaceGroups enter else []), event.manager ∈ s.managers := by
    intro data enter
    split_ifs
    · exact h.manager_enterLeave data enter
    · exact fun _ hevent => absurd hevent List.not_mem_nil
  unfold ManagerState.updateWorkspace
  cases hrecreate : data.recreate ws with
  | true =>
    have hhandles := manager_workspaceHandles s.managers s.nextSerial ws.id
    refine tended_modify h (Nat.le_succ _) ⟨hconsistent.name, hconsistent.coordinates⟩ hhandles ?_
    refine List.forall_mem_append.mpr ⟨List.forall_mem_append.mpr ⟨List.forall_mem_append.mpr
      ⟨hmoved data false, ?_⟩, manager_each hhandles _⟩, h.manager_enterLeave _ true⟩
    rw [removeInstances_eq]
    exact List.forall_mem_append.mpr ⟨h.manager_enterLeave _ false, manager_each hmanagers _⟩
  | false =>
    refine tended_modify h le_rfl hconsistent hmanagers ?_
    refine List.forall_mem_append.mpr ⟨List.forall_mem_append.mpr ⟨hmoved data false, ?_⟩,
      manager_each hmanagers _⟩
    split_ifs
    · exact h.manager_enterLeave _ true
    · exact fun _ hevent => absurd hevent List.not_mem_nil

theorem updateWorkspace_told (h : s.Tended) (hw : s.Whole m) {ws : Workspace}
    (hdata : Assoc.get s.workspaces ws.id = some data) :
    Told m (s.Calm ws) s (s.updateWorkspace data ws).2 := by
  obtain ⟨handle, hown, hid⟩ := hw.workspaces _ (Assoc.mem_of_get_eq_some hdata)
  have hleave := received_enterLeave hw hown false
  unfold updateWorkspace
  cases hrecreate : data.recreate ws with
  | true =>
    have hown' := own_workspaceHandles h.managers hw.live s.nextSerial ws.id
    refine told_modify hw hdata hown' rfl ?_
    have hgone := leads_recreated hw hdata hown
    have hnone : ((s.board m).setSlot ws.id none).Named :=
      hw.named.setSlot fun slot hs => by cases hs
    have hof : (⟨s.nextSerial, m, ws.id⟩ : WorkspaceHandle).workspace = ws.id := rfl
    have hnew := Board.leads_new hnone (Board.setSlot_slot none) hof (data.updated ws).leads_events
      ws.output
    rw [Board.setSlot_setSlot] at hnew
    have hold : own m (data.updated ws).instances = [handle] := hown
    have hremoved := received_removeInstances hw hold
    have hown'' : own m ({ data.updated ws with
        instances := workspaceHandles s.nextSerial s.managers ws.id } : WorkspaceData).instances =
      [⟨s.nextSerial, m, ws.id⟩] := hown'
    have hcreated := received_create hown''
    have hentered := received_enterLeave hw hown'' true
    have hcalm : (data.output ≠ ws.output → ws.output.bind (s.board m).group = none) ∧ True ↔
        s.Calm ws := by
      rw [and_iff_left trivial, hw.group_eq_none_iff]
      refine ⟨fun hquiet data' hdata' _ => ?_, fun hcalm => hcalm data hdata hrecreate⟩
      rw [hdata] at hdata'
      cases hdata'
      exact hquiet
    have hall := (hgone.append hnew).congr hcalm
    simp only [List.append_assoc] at hall
    simp only [received_append, apply_ite (received m), received_nil, hleave, hremoved]
    rw [hcreated, hentered]
    simp only [List.append_assoc]
    exact hall
  | false =>
    have hcalm : s.Calm ws ↔ True := iff_true_intro fun data' hdata' hagain => by
      rw [hdata] at hdata'
      cases hdata'
      rw [hrecreate] at hagain
      cases hagain
    refine told_modify hw hdata hown hid ?_
    have hold : own m (data.updated ws).instances = [handle] := hown
    have henter := received_enterLeave hw hold true
    have hnamed : ((s.board m).setSlot ws.id (some ⟨handle, data.shown, ws.output⟩)).Named :=
      hw.named.setSlot fun slot hs => by cases hs; exact hid
    have htell := Board.leads_tell hnamed (Board.setSlot_slot _) (data.leads_updates hrecreate)
    rw [Board.setSlot_setSlot] at htell
    simp only [received_append, apply_ite (received m), received_nil, hleave, henter,
      received_each, hown, List.flatMap_singleton]
    refine (((leads_moved hw hdata hown).append_true htell).congr hcalm.symm).of_eq ?_
    cases data.outputChanged ws
    · rfl
    · rfl

end ManagerState

end Sol.ExtWorkspace
