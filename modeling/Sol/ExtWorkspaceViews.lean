import Sol.ExtWorkspace

/-!
# What a client is told of the workspaces

A board is what one client is to see: the handle of each workspace with what it shows and the output
that it is on, and the handle of each group.  The batches of events that a refresh is made of lead
from the view of one board to the view of another.
-/

namespace Sol.ExtWorkspace

open Objects

/-- The workspace, as a reader of the events on its handle: an id is told once. -/
def WorkspaceView.reader : Reader WorkspaceView WorkspaceEvent where
  receive := receive
  Expects self
    | .id _ => self.id = none
    | _ => True

/-! ### Boards -/

/-- A workspace on a board. -/
structure Slot where
  handle : WorkspaceHandle
  view : WorkspaceView
  output : Option OutputId

structure Board where
  slot : WorkspaceId → Option Slot
  group : OutputId → Option GroupHandle

namespace Board

variable (b : Board)

/-- The workspaces on the output of a group are in it. -/
def members (group : GroupHandle) : GroupView := fun workspace =>
  (b.slot workspace.workspace).any fun slot =>
    slot.handle = workspace ∧ slot.output = some group.output

def view : ClientView where
  workspaces handle :=
    ((b.slot handle.workspace).filter fun slot => slot.handle = handle).map Slot.view
  groups handle := ((b.group handle.output).filter (· = handle)).map fun _ => b.members handle

def setSlot (id : WorkspaceId) (slot : Option Slot) : Board :=
  { b with slot := Function.update b.slot id slot }

def setGroup (output : OutputId) (group : Option GroupHandle) : Board :=
  { b with group := Function.update b.group output group }

/-- Some workspaces are not in their groups. -/
def outside (ids : List WorkspaceId) : Board :=
  { b with slot := fun id => (b.slot id).map fun slot =>
      if id ∈ ids then { slot with output := none } else slot }

/-- The event, if the output has a group. -/
def tellGroup (event : GroupEvent) (output : Option OutputId) : List Event :=
  (output.bind b.group).toList.map fun group => .group group (.tell event)

/-- The handles are of the workspaces and of the outputs that they stand for. -/
structure Named : Prop where
  slot : ∀ id slot, b.slot id = some slot → slot.handle.workspace = id
  group : ∀ output group, b.group output = some group → group.output = output

variable {b} {id : WorkspaceId} {slot : Slot} {s : Option Slot} {output : OutputId}
  {group : GroupHandle}

theorem setSlot_setSlot (s s' : Option Slot) :
    (b.setSlot id s).setSlot id s' = b.setSlot id s' := by
  unfold setSlot
  rw [Function.update_idem]

@[simp] theorem setSlot_slot (s : Option Slot) : (b.setSlot id s).slot id = s :=
  Function.update_self ..

theorem setSlot_slot_of_ne {id' : WorkspaceId} (h : id' ≠ id) (s : Option Slot) :
    (b.setSlot id s).slot id' = b.slot id' :=
  Function.update_of_ne h ..

@[simp] theorem setSlot_group (s : Option Slot) : (b.setSlot id s).group = b.group := rfl

@[simp] theorem setGroup_group (g : Option GroupHandle) : (b.setGroup output g).group output = g :=
  Function.update_self ..

theorem setGroup_group_of_ne {output' : OutputId} (h : output' ≠ output) (g : Option GroupHandle) :
    (b.setGroup output g).group output' = b.group output' :=
  Function.update_of_ne h ..

theorem setSlot_self (h : b.slot id = s) : b.setSlot id s = b := by
  subst h
  unfold setSlot
  rw [Function.update_eq_self]

theorem Named.setSlot (h : b.Named) (hs : ∀ slot ∈ s, slot.handle.workspace = id) :
    (b.setSlot id s).Named := by
  refine ⟨fun id' slot' hslot => ?_, h.group⟩
  by_cases heq : id' = id
  · subst heq
    rw [setSlot_slot] at hslot
    exact hs slot' hslot
  · rw [setSlot_slot_of_ne heq] at hslot
    exact h.slot id' slot' hslot

/-! ### The view of a board -/

theorem view_workspaces_eq_some {handle : WorkspaceHandle} {v : WorkspaceView} :
    b.view.workspaces handle = some v ↔
      ∃ slot, b.slot handle.workspace = some slot ∧ slot.handle = handle ∧ slot.view = v := by
  simp [view, Option.filter_eq_some_iff, and_assoc]

theorem view_groups_eq_some {handle : GroupHandle} {members : GroupView} :
    b.view.groups handle = some members ↔
      b.group handle.output = some handle ∧ b.members handle = members := by
  simp only [view, Option.map_eq_some_iff, Option.filter_eq_some_iff, decide_eq_true_eq]
  grind

theorem members_eq_true {workspace : WorkspaceHandle} :
    b.members group workspace = true ↔ ∃ slot, b.slot workspace.workspace = some slot ∧
      slot.handle = workspace ∧ slot.output = some group.output := by
  simp [members, Option.any_eq_true]

/-- A workspace is in a group just if its output has one. -/
theorem placed_iff (h : b.Named) (hslot : b.slot id = some slot) :
    b.view.Placed slot.handle ↔ (slot.output.bind b.group).isSome = true := by
  have hid := h.slot id slot hslot
  constructor
  · rintro ⟨group, members, hgroup, hmember⟩
    obtain ⟨hthere, rfl⟩ := view_groups_eq_some.mp hgroup
    obtain ⟨slot', hslot', -, houtput⟩ := members_eq_true.mp hmember
    rw [hid, hslot] at hslot'
    cases hslot'
    rw [houtput, Option.bind_some, hthere]
    rfl
  · intro hsome
    obtain ⟨group, hgroup⟩ := Option.isSome_iff_exists.mp hsome
    obtain ⟨output, houtput, hgroup⟩ := Option.bind_eq_some_iff.mp hgroup
    have hof := h.group output group hgroup
    exact ⟨group, _, view_groups_eq_some.mpr ⟨hof ▸ hgroup, rfl⟩,
      members_eq_true.mpr ⟨slot, hid ▸ hslot, rfl, hof ▸ houtput⟩⟩

/-- Boards with the same groups and the same workspaces in them look the same. -/
theorem view_groups_congr {b' : Board} (hgroup : b'.group = b.group)
    (hmembers : ∀ group, b.group group.output = some group → b'.members group = b.members group) :
    b'.view.groups = b.view.groups := by
  funext handle
  refine Option.ext fun members => ?_
  rw [view_groups_eq_some, view_groups_eq_some, hgroup]
  grind

/-- One handle stands for the workspace. -/
theorem view_workspaces_setSlot {handle : WorkspaceHandle} (hid : handle.workspace = id)
    (hbefore : ∀ slot ∈ b.slot id, slot.handle = handle)
    (hafter : ∀ slot ∈ s, slot.handle = handle) :
    (b.setSlot id s).view.workspaces =
      Function.update b.view.workspaces handle (s.map Slot.view) := by
  funext handle'
  refine Option.ext fun v => ?_
  rw [view_workspaces_eq_some]
  by_cases heq : handle' = handle
  · rw [heq, Function.update_self, hid, setSlot_slot, Option.map_eq_some_iff]
    grind
  · rw [Function.update_of_ne heq, view_workspaces_eq_some]
    by_cases hid' : handle'.workspace = id
    · rw [hid', setSlot_slot]
      grind
    · rw [setSlot_slot_of_ne hid']

theorem members_setSlot {workspace : WorkspaceHandle} :
    (b.setSlot id s).members group workspace =
      if workspace.workspace = id then
        s.any fun slot => slot.handle = workspace ∧ slot.output = some group.output
      else b.members group workspace := by
  unfold members
  split_ifs with hid
  · rw [hid, setSlot_slot]
  · rw [setSlot_slot_of_ne hid]

/-- What a workspace shows does not matter to the groups. -/
theorem view_groups_setSlot (hbefore : b.slot id = some slot) (slot' : Slot)
    (hhandle : slot'.handle = slot.handle)
    (houtput : ∀ group, b.group group.output = some group →
      (slot'.output = some group.output ↔ slot.output = some group.output)) :
    (b.setSlot id (some slot')).view.groups = b.view.groups := by
  refine view_groups_congr rfl fun group hgroup => funext fun workspace => ?_
  rw [members_setSlot]
  split_ifs with hid
  · subst hid
    simp [members, hbefore, hhandle, houtput group hgroup]
  · rfl

/-- The output of a workspace does not matter to its handle. -/
theorem view_workspaces_setSlot_eq (h : b.Named) (hbefore : b.slot id = some slot) (slot' : Slot)
    (hhandle : slot'.handle = slot.handle) (hview : slot'.view = slot.view) :
    (b.setSlot id (some slot')).view.workspaces = b.view.workspaces := by
  have hid := h.slot id slot hbefore
  rw [view_workspaces_setSlot hid (by grind) (by grind)]
  have hsame : b.view.workspaces slot.handle = some slot.view :=
    view_workspaces_eq_some.mpr ⟨slot, hid ▸ hbefore, rfl, rfl⟩
  rw [Option.map_some, hview, ← hsame, Function.update_eq_self]

/-- One group has other workspaces in it. -/
theorem view_groups_update (b' : Board) (hgroup : b'.group = b.group)
    (hthere : b.group group.output = some group)
    (hother : ∀ group', b.group group'.output = some group' → group' ≠ group →
      b'.members group' = b.members group') :
    b'.view.groups = Function.update b.view.groups group (some (b'.members group)) := by
  funext handle
  refine Option.ext fun members => ?_
  rw [view_groups_eq_some, hgroup]
  by_cases heq : handle = group
  · rw [heq, Function.update_self]
    grind
  · rw [Function.update_of_ne heq, view_groups_eq_some]
    grind

/-! ### What a board is told -/

theorem receive_workspace (v : ClientView) (handle : WorkspaceHandle) (sent : Sent WorkspaceEvent) :
    ClientView.reader.receive v (.workspace handle sent) =
      ⟨Function.update v.workspaces handle
        (knownStep .new WorkspaceView.receive (v.workspaces handle) sent), v.groups⟩ := rfl

theorem receive_group (v : ClientView) (handle : GroupHandle) (sent : Sent GroupEvent) :
    ClientView.reader.receive v (.group handle sent) =
      ⟨v.workspaces, Function.update v.groups handle
        (knownStep .new GroupView.receive (v.groups handle) sent)⟩ := rfl

/-- Tidings on a workspace. -/
theorem leads_tell (h : b.Named) (hslot : b.slot id = some slot) {batch : List WorkspaceEvent}
    {g : Prop} {v : WorkspaceView} (hbatch : WorkspaceView.reader.Leads g slot.view batch v) :
    ClientView.reader.Leads g b.view ((batch.map .tell).map (Event.workspace slot.handle))
      (b.setSlot id (some { slot with view := v })).view := by
  have hid := h.slot id slot hslot
  have hview : b.view.workspaces slot.handle = some slot.view :=
    view_workspaces_eq_some.mpr ⟨slot, hid ▸ hslot, rfl, rfl⟩
  induction batch generalizing b slot g with
  | nil =>
    obtain ⟨rfl, hg⟩ := hbatch
    exact ⟨congrArg view (setSlot_self hslot).symm, hg⟩
  | cons event batch ih =>
    obtain ⟨hv, hg⟩ := hbatch
    have hnamed : (b.setSlot id (some { slot with view := slot.view.receive event })).Named :=
      h.setSlot fun slot' hslot' => by cases hslot'; exact hid
    have hrest := ih hnamed (setSlot_slot _) ⟨hv, Iff.rfl⟩ hid
      (view_workspaces_eq_some.mpr ⟨_, hid ▸ setSlot_slot _, rfl, rfl⟩)
    rw [setSlot_setSlot] at hrest
    refine ((Reader.Leads.single ?_ ?_).append hrest).congr hg
    · refine ClientView.ext ?_ ?_
      · rw [view_workspaces_setSlot hid (by grind) (by grind)]
        rw [receive_workspace, hview]
        rfl
      · exact (view_groups_setSlot hslot { slot with view := slot.view.receive event } rfl
          fun _ _ => Iff.rfl).symm
    · cases event
      all_goals simp [ClientView.reader, ClientView.Expects, WorkspaceView.reader, hview]

/-- A handle for a workspace that had none. -/
theorem leads_create (h : b.Named) (hnone : b.slot id = none) {handle : WorkspaceHandle}
    (hid : handle.workspace = id) {batch : List WorkspaceEvent} {v : WorkspaceView}
    (hbatch : WorkspaceView.reader.Leads True .new batch v) :
    ClientView.reader.Leads True b.view ((.create :: batch.map .tell).map (Event.workspace handle))
      (b.setSlot id (some ⟨handle, v, none⟩)).view := by
  have hunknown : b.view.workspaces handle = none := by
    refine Option.eq_none_iff_forall_ne_some.mpr fun v hv => ?_
    obtain ⟨slot, hslot, -⟩ := view_workspaces_eq_some.mp hv
    rw [hid, hnone] at hslot
    cases hslot
  have hnamed : (b.setSlot id (some ⟨handle, .new, none⟩)).Named :=
    h.setSlot fun slot hslot => by cases hslot; exact hid
  have htell := leads_tell hnamed (setSlot_slot _) hbatch
  rw [setSlot_setSlot] at htell
  refine (Reader.Leads.single ?_ (iff_true_intro hunknown)).append_true htell
  refine ClientView.ext ?_ ?_
  · rw [receive_workspace, hunknown, view_workspaces_setSlot hid (by grind) (by grind)]
    rfl
  · rw [receive_workspace]
    symm
    refine view_groups_congr rfl fun group _ => funext fun workspace => ?_
    rw [members_setSlot]
    split_ifs with hws
    · simp [members, hws, hnone]
    · rfl

theorem members_group (hslot : b.slot id = some slot) (hid : slot.handle.workspace = id)
    (slot' : Slot) (hhandle : slot'.handle = slot.handle) (group : GroupHandle) :
    (b.setSlot id (some slot')).members group = Function.update (b.members group) slot.handle
      (decide (slot'.output = some group.output)) := by
  funext workspace
  rw [members_setSlot]
  by_cases heq : workspace = slot.handle
  · simp [heq, hid, hhandle]
  · rw [Function.update_of_ne heq]
    split_ifs with hws
    · have hne : slot.handle ≠ workspace := fun hsame => heq hsame.symm
      simp [members, hws, hslot, hhandle, hne]
    · rfl

/-- The workspace is now in another group, or in none. -/
theorem view_groups_setOutput (h : b.Named) (hslot : b.slot id = some slot)
    (output : Option OutputId)
    (hthere : b.group group.output = some group)
    (hother : ∀ output', output' ≠ group.output → b.group output' ≠ none →
      (output = some output' ↔ slot.output = some output')) :
    (b.setSlot id (some { slot with output })).view.groups =
      Function.update b.view.groups group
        (some (Function.update (b.members group) slot.handle
          (decide (output = some group.output)))) := by
  have hid := h.slot id slot hslot
  rw [← members_group hslot hid { slot with output } rfl group]
  refine view_groups_update _ rfl hthere fun group' hthere' hne => ?_
  have hne' : group'.output ≠ group.output := fun hsame => hne <| by
    rw [hsame, hthere] at hthere'
    exact (Option.some.inj hthere').symm
  rw [members_group hslot hid { slot with output } rfl group']
  funext workspace
  by_cases heq : workspace = slot.handle
  · subst heq
    rw [Function.update_self]
    have hiff := hother group'.output hne' (by simp [hthere'])
    simp [members, hid, hslot, hiff]
  · rw [Function.update_of_ne heq]

theorem tellGroup_some (event : GroupEvent) (hthere : b.group output = some group) :
    b.tellGroup event (some output) = [.group group (.tell event)] := by
  simp [tellGroup, hthere]

theorem tellGroup_none (event : GroupEvent) {output : Option OutputId}
    (hnone : output.bind b.group = none) : b.tellGroup event output = [] := by
  simp [tellGroup, hnone]

theorem view_setOutput_of_none (h : b.Named) (hslot : b.slot id = some slot)
    {output : Option OutputId} (hbefore : slot.output.bind b.group = none)
    (hafter : output.bind b.group = none) :
    (b.setSlot id (some { slot with output })).view = b.view := by
  refine ClientView.ext (view_workspaces_setSlot_eq h hslot _ rfl rfl)
    (view_groups_setSlot hslot _ rfl fun group hgroup => ?_)
  constructor
  · rintro rfl
    simp [hgroup] at hafter
  · intro hsome
    simp [hsome, hgroup] at hbefore

/-- A workspace comes to a group, if there is one. -/
theorem leads_enter (h : b.Named) (hslot : b.slot id = some slot) (hnone : slot.output = none)
    (output : Option OutputId) :
    ClientView.reader.Leads True b.view (b.tellGroup (.workspaceEnter slot.handle) output)
      (b.setSlot id (some { slot with output })).view := by
  cases hgroup : output.bind b.group with
  | none =>
    rw [tellGroup_none _ hgroup, view_setOutput_of_none h hslot (by simp [hnone]) hgroup]
    exact .nil _
  | some group =>
    obtain ⟨output, rfl, hthere⟩ := Option.bind_eq_some_iff.mp hgroup
    obtain rfl := h.group output group hthere
    have hknown : b.view.groups group = some (b.members group) :=
      view_groups_eq_some.mpr ⟨hthere, rfl⟩
    rw [tellGroup_some _ hthere]
    refine .single (ClientView.ext ?_ ?_) (iff_true_intro ⟨?_, ?_, ?_⟩)
    · exact (view_workspaces_setSlot_eq h hslot { slot with output := some group.output } rfl
        rfl).symm
    · rw [receive_group, hknown, view_groups_setOutput h hslot _ hthere fun output' hne _ => ?_]
      · simp [knownStep, GroupView.receive]
      · simp [hnone, hne.symm]
    · rw [hknown]
      rfl
    · rw [view_workspaces_eq_some.mpr ⟨slot, h.slot id slot hslot ▸ hslot, rfl, rfl⟩]
      rfl
    · simp [placed_iff h hslot, hnone]

/-- A handle for a workspace that had none, and its group. -/
theorem leads_new (h : b.Named) (hnone : b.slot id = none) {handle : WorkspaceHandle}
    (hid : handle.workspace = id) {batch : List WorkspaceEvent} {v : WorkspaceView}
    (hbatch : WorkspaceView.reader.Leads True .new batch v) (output : Option OutputId) :
    ClientView.reader.Leads True b.view
      ((.create :: batch.map .tell).map (Event.workspace handle) ++
        b.tellGroup (.workspaceEnter handle) output)
      (b.setSlot id (some ⟨handle, v, output⟩)).view := by
  have hnamed : (b.setSlot id (some ⟨handle, v, none⟩)).Named :=
    h.setSlot fun slot hslot => by cases hslot; exact hid
  have henter := leads_enter hnamed (setSlot_slot _) rfl output
  rw [setSlot_setSlot] at henter
  exact (leads_create h hnone hid hbatch).append_true henter

/-- It leaves the group, if there is one. -/
theorem leads_leave (h : b.Named) (hslot : b.slot id = some slot) :
    ClientView.reader.Leads True b.view (b.tellGroup (.workspaceLeave slot.handle) slot.output)
      (b.setSlot id (some { slot with output := none })).view := by
  cases hgroup : slot.output.bind b.group with
  | none =>
    rw [tellGroup_none _ hgroup, view_setOutput_of_none h hslot hgroup rfl]
    exact .nil _
  | some group =>
    obtain ⟨output, houtput, hthere⟩ := Option.bind_eq_some_iff.mp hgroup
    obtain rfl := h.group output group hthere
    have hknown : b.view.groups group = some (b.members group) :=
      view_groups_eq_some.mpr ⟨hthere, rfl⟩
    rw [houtput, tellGroup_some _ hthere]
    refine .single (ClientView.ext ?_ ?_) (iff_true_intro ⟨_, hknown, ?_⟩)
    · exact (view_workspaces_setSlot_eq h hslot { slot with output := none } rfl rfl).symm
    · rw [receive_group, hknown, view_groups_setOutput h hslot _ hthere fun output' hne _ => ?_]
      · simp [knownStep, GroupView.receive]
      · simp [houtput, hne.symm]
    · exact members_eq_true.mpr ⟨slot, h.slot id slot hslot ▸ hslot, rfl, houtput⟩

/-- It leaves a group that it is not in. -/
theorem leads_leaveOther (h : b.Named) (hslot : b.slot id = some slot) (hnone : slot.output = none)
    (output : Option OutputId) :
    ClientView.reader.Leads (output.bind b.group = none) b.view
      (b.tellGroup (.workspaceLeave slot.handle) output) b.view := by
  cases hgroup : output.bind b.group with
  | none =>
    rw [tellGroup_none _ hgroup]
    exact (Reader.Leads.nil _).congr (by simp)
  | some group =>
    obtain ⟨output, rfl, hthere⟩ := Option.bind_eq_some_iff.mp hgroup
    obtain rfl := h.group output group hthere
    have hknown : b.view.groups group = some (b.members group) :=
      view_groups_eq_some.mpr ⟨hthere, rfl⟩
    have hnot : b.members group slot.handle = false := by
      rw [Bool.eq_false_iff]
      intro hmember
      obtain ⟨slot', hslot', -, houtput⟩ := members_eq_true.mp hmember
      rw [h.slot id slot hslot, hslot] at hslot'
      cases hslot'
      rw [hnone] at houtput
      cases houtput
    rw [tellGroup_some _ hthere]
    refine .single (ClientView.ext rfl ?_) ⟨?_, fun hcontra => by cases hcontra⟩
    · have hsame : Function.update (b.members group) slot.handle false = b.members group := by
        rw [← hnot, Function.update_eq_self]
      rw [receive_group, hknown]
      change Function.update b.view.groups group
        (some (Function.update (b.members group) slot.handle false)) = _
      rw [hsame, ← hknown, Function.update_eq_self]
    · rintro ⟨members, hmembers, hmember⟩
      rw [hknown] at hmembers
      cases hmembers
      rw [hnot] at hmember
      cases hmember

/-- A handle goes that is in no group. -/
theorem leads_destroy (h : b.Named) (hslot : b.slot id = some slot) (hnone : slot.output = none) :
    ClientView.reader.Leads True b.view [.workspace slot.handle .destroy]
      (b.setSlot id none).view := by
  have hid := h.slot id slot hslot
  refine .single (ClientView.ext ?_ ?_) (iff_true_intro ⟨?_, ?_⟩)
  · rw [receive_workspace, view_workspaces_setSlot hid (by grind) (by grind)]
    rfl
  · rw [receive_workspace]
    symm
    refine view_groups_congr rfl fun group _ => funext fun workspace => ?_
    rw [members_setSlot]
    split_ifs with hws
    · simp [members, hws, hslot, hnone]
    · rfl
  · rw [view_workspaces_eq_some.mpr ⟨slot, hid ▸ hslot, rfl, rfl⟩]
    rfl
  · simp [placed_iff h hslot, hnone]

/-! ### Groups -/

theorem outside_slot {ids : List WorkspaceId} (hslot : b.slot id = some slot) (hin : id ∈ ids) :
    (b.outside ids).slot id = some { slot with output := none } := by
  simp [outside, hslot, hin]

theorem Named.outside (h : b.Named) (ids : List WorkspaceId) : (b.outside ids).Named := by
  refine ⟨fun id slot hslot => ?_, h.group⟩
  obtain ⟨slot', hslot', rfl⟩ := Option.map_eq_some_iff.mp hslot
  have hid := h.slot id slot' hslot'
  split_ifs
  · exact hid
  · exact hid

theorem Named.setGroup (h : b.Named) {g : Option GroupHandle}
    (hg : ∀ group ∈ g, group.output = output) :
    (b.setGroup output g).Named := by
  refine ⟨h.slot, fun output' group hgroup => ?_⟩
  by_cases heq : output' = output
  · subst heq
    rw [setGroup_group] at hgroup
    exact hg group hgroup
  · rw [setGroup_group_of_ne heq] at hgroup
    exact h.group output' group hgroup

/-- A workspace leaves its group, after some others. -/
theorem outside_cons (hslot : b.slot id = some slot) (ids : List WorkspaceId) :
    (b.setSlot id (some { slot with output := none })).outside ids = b.outside (id :: ids) := by
  unfold outside setSlot
  congr 1
  funext id'
  by_cases heq : id' = id
  · subst heq
    simp [hslot]
  · simp [heq]

/-- Some workspaces come to the group of their output, one after the other. -/
theorem leads_enters (h : b.Named) {ids : List WorkspaceId} (hnodup : ids.Nodup)
    {slots : WorkspaceId → Slot}
    (hslots : ∀ id ∈ ids, b.slot id = some (slots id) ∧ (slots id).output = some output) :
    ClientView.reader.Leads True (b.outside ids).view
      (ids.flatMap fun id => b.tellGroup (.workspaceEnter (slots id).handle) (some output))
      b.view := by
  induction ids with
  | nil =>
    have hsame : b.outside [] = b := by
      unfold outside
      simp
    rw [hsame]
    exact .nil _
  | cons id ids ih =>
    obtain ⟨hnot, hnodup⟩ := List.nodup_cons.mp hnodup
    obtain ⟨hslot, houtput⟩ := hslots id List.mem_cons_self
    have hrest := ih hnodup fun id' hid' => hslots id' (List.mem_cons_of_mem _ hid')
    have hafter : (b.outside (id :: ids)).setSlot id (some (slots id)) = b.outside ids := by
      rw [← outside_cons hslot]
      unfold outside setSlot
      congr 1
      funext id'
      by_cases heq : id' = id
      · subst heq
        simp [hslot, hnot]
      · simp [heq]
    have henter := leads_enter (h.outside (id :: ids)) (outside_slot hslot List.mem_cons_self) rfl
      (slots id).output
    rw [hafter, houtput] at henter
    exact henter.append_true hrest

/-- Some workspaces leave the group of their output, one after the other. -/
theorem leads_leaves (h : b.Named) {ids : List WorkspaceId} (hnodup : ids.Nodup)
    {slots : WorkspaceId → Slot}
    (hslots : ∀ id ∈ ids, b.slot id = some (slots id) ∧ (slots id).output = some output) :
    ClientView.reader.Leads True b.view
      (ids.flatMap fun id => b.tellGroup (.workspaceLeave (slots id).handle) (some output))
      (b.outside ids).view := by
  induction ids generalizing b with
  | nil =>
    have hsame : b.outside [] = b := by
      unfold outside
      simp
    rw [hsame]
    exact .nil _
  | cons id ids ih =>
    obtain ⟨hnot, hnodup⟩ := List.nodup_cons.mp hnodup
    obtain ⟨hslot, houtput⟩ := hslots id List.mem_cons_self
    have hnamed : (b.setSlot id (some { slots id with output := none })).Named :=
      h.setSlot fun slot hs => by cases hs; exact h.slot id (slots id) hslot
    have hrest := ih hnamed hnodup fun id' hid' => by
      rw [setSlot_slot_of_ne (ne_of_mem_of_not_mem hid' hnot)]
      exact hslots id' (List.mem_cons_of_mem _ hid')
    rw [outside_cons hslot] at hrest
    have hleave := leads_leave h hslot
    rw [houtput] at hleave
    exact hleave.append_true hrest

/-- Nobody sees where workspaces are that have no group. -/
theorem view_outside {ids : List WorkspaceId}
    (hnone : ∀ id ∈ ids, ∀ slot, b.slot id = some slot → slot.output.bind b.group = none) :
    (b.outside ids).view = b.view := by
  refine ClientView.ext (funext fun handle => ?_) (view_groups_congr rfl fun group hgroup =>
    funext fun workspace => ?_)
  · unfold view outside
    dsimp only
    cases b.slot handle.workspace with
    | none => rfl
    | some slot =>
      by_cases hin : handle.workspace ∈ ids <;> simp [hin, Option.filter_some, apply_ite]
  · unfold members outside
    dsimp only
    cases hslot : b.slot workspace.workspace with
    | none => rfl
    | some slot =>
      by_cases hin : workspace.workspace ∈ ids
      · have hno : slot.output ≠ some group.output := fun hsome => by
          simpa [hsome, hgroup] using hnone _ hin slot hslot
        simp [hin, hno]
      · simp [hin]

theorem members_eq_false_of_output (hnone : ∀ id slot, b.slot id = some slot →
      slot.output ≠ some group.output) (workspace : WorkspaceHandle) :
    b.members group workspace = false := by
  rw [Bool.eq_false_iff]
  intro hmember
  obtain ⟨slot, hslot, -, houtput⟩ := members_eq_true.mp hmember
  exact hnone _ slot hslot houtput

theorem view_groups_setGroup {g : Option GroupHandle} (hof : group.output = output)
    (hbefore : ∀ group', b.group output = some group' → group' = group)
    (hafter : ∀ group', g = some group' → group' = group) :
    (b.setGroup output g).view.groups =
      Function.update b.view.groups group (g.map fun _ => b.members group) := by
  funext handle
  refine Option.ext fun members => ?_
  rw [view_groups_eq_some]
  change _ ∧ b.members handle = members ↔ _
  by_cases heq : handle = group
  · subst heq
    subst hof
    rw [setGroup_group, Function.update_self, Option.map_eq_some_iff]
    grind
  · rw [Function.update_of_ne heq, view_groups_eq_some]
    by_cases hof' : handle.output = output
    · subst hof'
      rw [setGroup_group]
      grind
    · rw [setGroup_group_of_ne hof']

/-- A group for an output that had none, and the workspaces that come to it. -/
theorem leads_createGroup (h : b.Named) (hof : group.output = output)
    (hnone : b.group output = none)
    {ids : List WorkspaceId} (hnodup : ids.Nodup) {slots : WorkspaceId → Slot}
    (hslots : ∀ id ∈ ids, b.slot id = some (slots id) ∧ (slots id).output = some output)
    (hall : ∀ id slot, b.slot id = some slot → slot.output = some output → id ∈ ids) :
    ClientView.reader.Leads True b.view
      (.group group .create :: ids.flatMap fun id =>
        [.group group (.tell (.workspaceEnter (slots id).handle))])
      (b.setGroup output (some group)).view := by
  have hnamed : (b.setGroup output (some group)).Named :=
    h.setGroup fun group' hgroup' => by cases hgroup'; exact hof
  have hthere : (b.setGroup output (some group)).group output = some group :=
    Function.update_self ..
  have henters := leads_enters hnamed hnodup hslots
  simp only [tellGroup_some _ hthere] at henters
  have houtside : (b.outside ids).view = b.view := view_outside fun id hid slot hslot => by
    obtain ⟨hslot', houtput⟩ := hslots id hid
    rw [hslot] at hslot'
    cases hslot'
    rw [houtput, Option.bind_some, hnone]
  have hunknown : (b.outside ids).view.groups group = none := by
    refine Option.eq_none_iff_forall_ne_some.mpr fun members hmembers => ?_
    have hgroup : b.group group.output = some group := (view_groups_eq_some.mp hmembers).1
    rw [hof, hnone] at hgroup
    cases hgroup
  have hempty : (b.outside ids).members group = .new := funext fun workspace => by
    refine members_eq_false_of_output (fun id slot hslot houtput => ?_) workspace
    obtain ⟨slot', hslot', rfl⟩ := Option.map_eq_some_iff.mp hslot
    split_ifs at houtput with hin
    exact hin (hall id slot' hslot' (hof ▸ houtput))
  have hgroups := view_groups_setGroup (b := b.outside ids) (g := some group) hof
    (fun group' hgroup' => by
      change b.group output = some group' at hgroup'
      rw [hnone] at hgroup'
      cases hgroup') fun group' hgroup' => (Option.some.inj hgroup').symm
  have hcreate : ClientView.reader.Leads True (b.outside ids).view [.group group .create]
      ((b.setGroup output (some group)).outside ids).view := by
    refine .single (ClientView.ext rfl ?_) (iff_true_intro hunknown)
    rw [receive_group]
    refine Eq.trans ?_ hgroups.symm
    rw [hempty]
    rfl
  rw [← houtside]
  exact hcreate.append_true henters

/-- A group goes, once all workspaces have left it. -/
theorem leads_destroyGroup (h : b.Named) (hthere : b.group output = some group)
    {ids : List WorkspaceId} (hnodup : ids.Nodup) {slots : WorkspaceId → Slot}
    (hslots : ∀ id ∈ ids, b.slot id = some (slots id) ∧ (slots id).output = some output)
    (hall : ∀ id slot, b.slot id = some slot → slot.output = some output → id ∈ ids) :
    ClientView.reader.Leads True b.view
      ((ids.flatMap fun id => [.group group (.tell (.workspaceLeave (slots id).handle))]) ++
        [.group group .destroy])
      (b.setGroup output none).view := by
  have hof := h.group output group hthere
  have hleaves := leads_leaves h hnodup hslots
  simp only [tellGroup_some _ hthere] at hleaves
  have houtside : ((b.setGroup output none).outside ids).view = (b.setGroup output none).view :=
    view_outside fun id hid slot hslot => by
      obtain ⟨hslot', houtput⟩ := hslots id hid
      change b.slot id = some slot at hslot
      rw [hslot] at hslot'
      cases hslot'
      rw [houtput, Option.bind_some]
      exact setGroup_group none
  rw [← houtside]
  refine hleaves.append_true (.single (ClientView.ext rfl ?_) (iff_true_intro ?_))
  · have hgroups := view_groups_setGroup (b := b.outside ids) (g := none) hof
      (fun group' hgroup' => Option.some.inj (hgroup'.symm.trans hthere)) (by simp)
    rw [receive_group]
    exact hgroups.symm
  · refine ⟨_, view_groups_eq_some.mpr ⟨hof ▸ hthere, rfl⟩, fun workspace => ?_⟩
    refine members_eq_false_of_output (fun id slot hslot houtput => ?_) workspace
    obtain ⟨slot', hslot', rfl⟩ := Option.map_eq_some_iff.mp hslot
    split_ifs at houtput with hin
    exact hin (hall id slot' hslot' (hof ▸ houtput))

end Board

end Sol.ExtWorkspace
