import Mathlib.Data.List.Sort
import Sol.Batches
import Sol.Machine
import Sol.Objects

/-!
# The workspace protocol

Workspace groups are outputs, and every manager of a client has a handle for each group and each
workspace.  A refresh sends what changed since the last one: first the workspaces that are gone,
then the outputs, then the workspaces that there are, and the new outputs last.  What clients ask
for is done when they commit it.

A handle is named by when it was created, its manager, and what it is for; clients do not look into
the names.  The capabilities, which are always the same, and the outputs that a group is told of are
left out.
-/

namespace Sol.ExtWorkspace

open Objects Panicking

abbrev OutputId := ℕ

abbrev WorkspaceId := ℕ

abbrev ManagerId := ℕ

/-! ### Events -/

structure WorkspaceHandle where
  serial : ℕ
  manager : ManagerId
  workspace : WorkspaceId
  deriving DecidableEq

structure GroupHandle where
  serial : ℕ
  manager : ManagerId
  output : OutputId
  deriving DecidableEq

/-- The flags `Active` and `Urgent`. -/
structure WorkspaceState where
  active : Bool
  urgent : Bool
  deriving DecidableEq

inductive WorkspaceEvent
  | id (id : String)
  | name (name : String)
  | coordinates (x y : ℕ)
  | state (state : WorkspaceState)

inductive GroupEvent
  | workspaceEnter (workspace : WorkspaceHandle)
  | workspaceLeave (workspace : WorkspaceHandle)

inductive Event
  | workspace (handle : WorkspaceHandle) (sent : Sent WorkspaceEvent)
  | group (handle : GroupHandle) (sent : Sent GroupEvent)
  | done (manager : ManagerId)
  | finished (manager : ManagerId)

/-! ### Requests -/

/-- What a client asks for. -/
inductive Action
  | assign (workspace : WorkspaceId) (output : OutputId)
  | activate (workspace : WorkspaceId)
  deriving DecidableEq

/-- First everything is assigned (moved across outputs), then activated. -/
def Action.order : Action → ℕ
  | .assign _ _ => 0
  | .activate _ => 1

/-- Some of the outputs are still there. -/
def Action.upgrades (alive : OutputId → Bool) : Action → Bool
  | .assign _ output => alive output
  | .activate _ => true

/-! ### The layout -/

/-- A workspace of the layout, and its monitor: the output and the active workspace there. -/
structure Workspace where
  mon : Option (OutputId × ℕ)
  wsIdx : ℕ
  id : WorkspaceId
  name : Option String
  isUrgent : Bool
  deriving DecidableEq

namespace Workspace

def output (ws : Workspace) : Option OutputId := ws.mon.map Prod.fst

def state (ws : Workspace) : WorkspaceState :=
  ⟨ws.mon.any fun mon => mon.2 = ws.wsIdx, ws.isUrgent⟩

/-- `build_name`. -/
def buildName (ws : Workspace) : String := ws.name.getD (toString (ws.wsIdx + 1))

end Workspace

/-- The workspaces and the outputs of the compositor. -/
structure Layout where
  workspaces : List Workspace
  sortedOutputs : List OutputId
  ids_nodup : (workspaces.map Workspace.id).Nodup
  outputs_nodup : sortedOutputs.Nodup
  known : ∀ ws ∈ workspaces, ∀ output ∈ ws.output, output ∈ sortedOutputs

/-! ### The state -/

structure WorkspaceData where
  id : Option String
  name : String
  coordinates : ℕ × ℕ
  state : WorkspaceState
  instances : List WorkspaceHandle
  output : Option OutputId

abbrev Groups := List (OutputId × List GroupHandle)

structure ManagerState where
  instances : List (ManagerId × List Action)
  workspaceGroups : Groups
  workspaces : List (WorkspaceId × WorkspaceData)
  nextSerial : ℕ
  /-- All events that were sent, and all actions that were carried out. -/
  log : List Event
  performed : List Action

namespace WorkspaceData

variable (data : WorkspaceData)

/-- The first events on a handle. -/
def events : List WorkspaceEvent :=
  data.id.toList.map .id ++
    [.name data.name, .coordinates data.coordinates.1 data.coordinates.2, .state data.state]

/-- The handles of one manager, along with the group handles of the output. -/
def pairs (groups : Groups) : List (GroupHandle × WorkspaceHandle) :=
  match data.output.bind (Assoc.get groups) with
  | some instances => instances.flatMap fun group =>
      (data.instances.filter fun workspace => workspace.manager = group.manager).map (group, ·)
  | none => []

/-- `send_workspace_enter_leave`. -/
def enterLeave (groups : Groups) (enter : Bool) : List Event :=
  (data.pairs groups).map fun p =>
    .group p.1 (.tell (if enter then .workspaceEnter p.2 else .workspaceLeave p.2))

/-- `remove_workspace_instances`. -/
def removeInstances (groups : Groups) : List Event :=
  data.enterLeave groups false ++ data.instances.map fun handle => .workspace handle .destroy

/-- The handles of a workspace for all managers, and the events on them. -/
def create (instances : List WorkspaceHandle) : List Event :=
  instances.flatMap fun handle =>
    (.create :: data.events.map .tell).map (Event.workspace handle)

section Update

variable (ws : Workspace)

/-- The handles are made anew: an id does not change once it is set. -/
def recreate : Bool := data.id ≠ ws.name ∧ data.id.isSome

def idSet : Bool := data.id ≠ ws.name ∧ ¬data.id.isSome

def coordinatesChanged : Bool := data.coordinates.2 ≠ ws.wsIdx

def stateChanged : Bool := data.state ≠ ws.state

def nameChanged : Bool :=
  (data.recreate ws || if ws.name.isSome then data.idSet ws else data.coordinatesChanged ws) &&
    data.name ≠ ws.buildName

def outputChanged : Bool := data.output ≠ ws.output

def somethingChanged : Bool :=
  data.idSet ws || data.nameChanged ws || data.coordinatesChanged ws || data.stateChanged ws

/-- The data after the refresh, with the old handles. -/
def updated : WorkspaceData :=
  { data with
    id := ws.name
    coordinates := (data.coordinates.1, ws.wsIdx)
    state := ws.state
    name := if data.nameChanged ws then ws.buildName else data.name
    output := ws.output }

/-- The events on a handle that stays. -/
def updates : List WorkspaceEvent :=
  (if data.idSet ws then ws.name.toList.map .id else []) ++
    (if data.nameChanged ws then [.name ws.buildName] else []) ++
    (if data.coordinatesChanged ws then [.coordinates data.coordinates.1 ws.wsIdx] else []) ++
    (if data.stateChanged ws then [.state ws.state] else [])

end Update

end WorkspaceData

def workspaceHandles (serial : ℕ) (managers : List ManagerId) (workspace : WorkspaceId) :
    List WorkspaceHandle :=
  managers.map fun manager => ⟨serial, manager, workspace⟩

def groupHandles (serial : ℕ) (managers : List ManagerId) (output : OutputId) :
    List GroupHandle :=
  managers.map fun manager => ⟨serial, manager, output⟩

namespace ManagerState

variable (self : ManagerState)

def managers : List ManagerId := Assoc.keys self.instances

/-! ### Refreshing -/

/-- A workspace that is gone. -/
def removeWorkspace (entry : WorkspaceId × WorkspaceData) : ManagerState :=
  { self with
    workspaces := Assoc.remove entry.1 self.workspaces
    log := self.log ++ entry.2.removeInstances self.workspaceGroups }

/-- A group whose output is gone. -/
def removeGroup (entry : OutputId × List GroupHandle) : ManagerState :=
  let inGroup := self.workspaces.filter fun ws => ws.2.output = some entry.1
  { self with
    workspaceGroups := Assoc.remove entry.1 self.workspaceGroups
    log := self.log ++ entry.2.flatMap fun group =>
      (inGroup.flatMap fun ws =>
        (ws.2.instances.filter fun workspace => workspace.manager = group.manager).map
          fun workspace => .group group (.tell (.workspaceLeave workspace))) ++
      [.group group .destroy] }

/-- The workspace is tracked already. -/
def updateWorkspace (data : WorkspaceData) (ws : Workspace) : Bool × ManagerState :=
  let outputChanged := data.outputChanged ws
  let leave := if outputChanged then data.enterLeave self.workspaceGroups false else []
  let updated := data.updated ws
  if data.recreate ws then
    let instances := workspaceHandles self.nextSerial self.managers ws.id
    let recreated := { updated with instances }
    (true, { self with
      workspaces := Assoc.modify ws.id (fun _ => recreated) self.workspaces
      nextSerial := self.nextSerial + 1
      log := self.log ++ (leave ++ updated.removeInstances self.workspaceGroups ++
        recreated.create instances ++ recreated.enterLeave self.workspaceGroups true) })
  else
    -- a group that is created later is told then
    let enter := if outputChanged then updated.enterLeave self.workspaceGroups true else []
    (outputChanged || data.somethingChanged ws, { self with
      workspaces := Assoc.modify ws.id (fun _ => updated) self.workspaces
      log := self.log ++ (leave ++ enter ++ data.instances.flatMap fun handle =>
        ((data.updates ws).map .tell).map (Event.workspace handle)) })

/-- A new workspace. -/
def addWorkspace (ws : Workspace) : ManagerState :=
  let instances := workspaceHandles self.nextSerial self.managers ws.id
  let data : WorkspaceData :=
    ⟨ws.name, ws.buildName, (0, ws.wsIdx), ws.state, instances, ws.output⟩
  { self with
    workspaces := self.workspaces ++ [(ws.id, data)]
    nextSerial := self.nextSerial + 1
    log := self.log ++ (data.create instances ++ data.enterLeave self.workspaceGroups true) }

def refreshWorkspace (ws : Workspace) : Bool × ManagerState :=
  match Assoc.get self.workspaces ws.id with
  | some data => self.updateWorkspace data ws
  | none => (true, self.addWorkspace ws)

/-- The events of a group: the workspaces that are on its output. -/
def enters (workspaces : List (WorkspaceId × WorkspaceData)) (group : GroupHandle) :
    List GroupEvent :=
  (workspaces.filter fun ws => ws.2.output = some group.output).flatMap fun ws =>
    (ws.2.instances.filter fun workspace => workspace.manager = group.manager).map .workspaceEnter

def refreshWorkspaceGroup (output : OutputId) : Bool × ManagerState :=
  match Assoc.get self.workspaceGroups output with
  | some _ => (false, self)
  | none =>
    let instances := groupHandles self.nextSerial self.managers output
    (true, { self with
      workspaceGroups := self.workspaceGroups ++ [(output, instances)]
      nextSerial := self.nextSerial + 1
      log := self.log ++ ((instances.map fun group => .group group .create) ++
        instances.flatMap fun group =>
          ((enters self.workspaces group).map .tell).map (Event.group group)) })

/-- The next step, and whether anything changed so far. -/
def andThen (acc : Bool × ManagerState) (step : ManagerState → Bool × ManagerState) :
    Bool × ManagerState :=
  (acc.1 || (step acc.2).1, (step acc.2).2)

def refresh (layout : Layout) : ManagerState :=
  let goneWorkspaces := self.workspaces.filter fun entry =>
    entry.1 ∉ layout.workspaces.map Workspace.id
  let self := goneWorkspaces.foldl removeWorkspace self
  let goneGroups := self.workspaceGroups.filter fun entry => entry.1 ∉ layout.sortedOutputs
  let self := goneGroups.foldl removeGroup self
  let acc := (goneWorkspaces ≠ [] || goneGroups ≠ [], self)
  let acc := layout.workspaces.foldl
    (fun acc ws => andThen acc fun self => self.refreshWorkspace ws) acc
  let acc := layout.sortedOutputs.foldl
    (fun acc output => andThen acc fun self => self.refreshWorkspaceGroup output) acc
  if acc.1 then { acc.2 with log := acc.2.log ++ acc.2.managers.map .done } else acc.2

/-! ### Managers -/

/-- A client binds a manager: it is told of everything. -/
def bind : ManagerState :=
  let manager := self.nextSerial
  let workspaces := self.workspaces.map fun entry =>
    (entry.1, { entry.2 with
      instances := entry.2.instances ++ [⟨self.nextSerial, manager, entry.1⟩] })
  let workspaceGroups := self.workspaceGroups.map fun entry =>
    (entry.1, entry.2 ++ [⟨self.nextSerial, manager, entry.1⟩])
  { self with
    instances := self.instances ++ [(manager, [])]
    workspaceGroups
    workspaces
    nextSerial := self.nextSerial + 1
    log := self.log ++
      ((self.workspaces.flatMap fun entry =>
          entry.2.create [⟨self.nextSerial, manager, entry.1⟩]) ++
        (self.workspaceGroups.flatMap fun entry =>
          let group : GroupHandle := ⟨self.nextSerial, manager, entry.1⟩
          (.create :: (enters workspaces group).map .tell).map (Event.group group)) ++
        [.done manager]) }

/-- Keeps some of the handles. -/
def retain (workspace : WorkspaceHandle → Bool) (group : GroupHandle → Bool) : ManagerState :=
  { self with
    workspaceGroups := self.workspaceGroups.map fun entry => (entry.1, entry.2.filter group)
    workspaces := self.workspaces.map fun entry =>
      (entry.1, { entry.2 with instances := entry.2.instances.filter workspace }) }

/-- A manager goes with its handles, as when its client is gone. -/
def forget (manager : ManagerId) : ManagerState :=
  let self := { self with instances := Assoc.remove manager self.instances }
  self.retain (fun workspace => workspace.manager ≠ manager) fun group => group.manager ≠ manager

/-- The request `stop`. -/
def stop (manager : ManagerId) : ManagerState :=
  let self := { self with log := self.log ++ [Event.finished manager] }
  self.forget manager

/-! ### Handles -/

/-- The workspace that a handle is for, unless it is gone. -/
def workspaceOf (handle : WorkspaceHandle) : Option WorkspaceId :=
  (self.workspaces.find? fun entry => handle ∈ entry.2.instances).map Prod.fst

def outputOf (handle : GroupHandle) : Option OutputId :=
  (self.workspaceGroups.find? fun entry => handle ∈ entry.2).map Prod.fst

def queue (manager : ManagerId) (action : Action) : Outcome ManagerState := do
  let _ ← unwrap (Assoc.get self.instances manager)
  pure { self with instances := Assoc.modify manager (· ++ [action]) self.instances }

/-- The request `activate`. -/
def activate (handle : WorkspaceHandle) : Outcome ManagerState :=
  match self.workspaceOf handle with
  | none => pure self
  | some workspace => self.queue handle.manager (.activate workspace)

/-- The request `assign`. -/
def assign (handle : WorkspaceHandle) (group : GroupHandle) : Outcome ManagerState :=
  match self.workspaceOf handle, self.outputOf group with
  | some workspace, some output => self.queue handle.manager (.assign workspace output)
  | _, _ => pure self

/-- The request `commit`; some of the outputs are still there. -/
def commit (manager : ManagerId) (alive : OutputId → Bool) : Outcome ManagerState := do
  let actions ← unwrap (Assoc.get self.instances manager)
  let actions := actions.mergeSort fun a b => decide (a.order ≤ b.order)
  pure { self with
    instances := Assoc.modify manager (fun _ => []) self.instances
    performed := self.performed ++ actions.filter (Action.upgrades alive) }

end ManagerState

/-! ### Clients -/

/-- What is known of a workspace. -/
structure WorkspaceView where
  id : Option String
  name : Option String
  coordinates : Option (ℕ × ℕ)
  state : Option WorkspaceState
  deriving DecidableEq

namespace WorkspaceView

def new : WorkspaceView := ⟨none, none, none, none⟩

def receive (self : WorkspaceView) : WorkspaceEvent → WorkspaceView
  | .id id => { self with id := some id }
  | .name name => { self with name := some name }
  | .coordinates x y => { self with coordinates := some (x, y) }
  | .state state => { self with state := some state }

end WorkspaceView

/-- The workspaces that are in a group. -/
abbrev GroupView := WorkspaceHandle → Bool

namespace GroupView

def new : GroupView := fun _ => false

def receive (self : GroupView) : GroupEvent → GroupView
  | .workspaceEnter workspace => Function.update self workspace true
  | .workspaceLeave workspace => Function.update self workspace false

end GroupView

/-- What a client knows of the workspaces and of the groups, by their handles. -/
@[ext]
structure ClientView where
  workspaces : WorkspaceHandle → Option WorkspaceView
  groups : GroupHandle → Option GroupView

namespace ClientView

def new : ClientView := ⟨fun _ => none, fun _ => none⟩

def receive (self : ClientView) : Event → ClientView
  | .workspace handle sent => { self with
      workspaces := Function.update self.workspaces handle
        (knownStep .new WorkspaceView.receive (self.workspaces handle) sent) }
  | .group handle sent => { self with
      groups := Function.update self.groups handle
        (knownStep .new GroupView.receive (self.groups handle) sent) }
  | .done _ => self
  | .finished _ => self

/-- The workspace is in some group. -/
def Placed (self : ClientView) (workspace : WorkspaceHandle) : Prop :=
  ∃ group members, self.groups group = some members ∧ members workspace = true

/-- What the protocol asks for.  The id of a workspace is told once, a workspace is in one group at
a time, it leaves the group that it is in, and it has left before it goes or the group does. -/
def Expects (self : ClientView) : Event → Prop
  | .workspace handle .create => self.workspaces handle = none
  | .workspace handle (.tell (.id _)) => ∃ v, self.workspaces handle = some v ∧ v.id = none
  | .workspace handle (.tell _) => (self.workspaces handle).isSome = true
  | .workspace handle .destroy =>
    (self.workspaces handle).isSome = true ∧ ¬self.Placed handle
  | .group handle .create => self.groups handle = none
  | .group handle (.tell (.workspaceEnter workspace)) => (self.groups handle).isSome = true ∧
    (self.workspaces workspace).isSome = true ∧ ¬self.Placed workspace
  | .group handle (.tell (.workspaceLeave workspace)) =>
    ∃ members, self.groups handle = some members ∧ members workspace = true
  | .group handle .destroy =>
    ∃ members, self.groups handle = some members ∧ ∀ workspace, members workspace = false
  | .done _ => True
  | .finished _ => True

/-- The client, as a reader of its events. -/
def reader : Reader ClientView Event := ⟨receive, Expects⟩

end ClientView

def Event.manager : Event → ManagerId
  | .workspace handle _ => handle.manager
  | .group handle _ => handle.manager
  | .done manager => manager
  | .finished manager => manager

/-- What the client of a manager receives. -/
def received (manager : ManagerId) (log : List Event) : List Event :=
  log.filter fun event => event.manager = manager

/-- What a workspace is to be shown as. -/
def Workspace.shown (ws : Workspace) : WorkspaceView :=
  ⟨ws.name, some ws.buildName, some (0, ws.wsIdx), some ws.state⟩

/-- The view is the layout: the handles `workspace` and `group` stand for its workspaces and its
outputs, and a workspace is in the group of its output. -/
structure ClientView.Shows (self : ClientView) (layout : Layout)
    (workspace : WorkspaceId → WorkspaceHandle) (group : OutputId → GroupHandle) : Prop where
  workspace_injective : workspace.Injective
  group_injective : group.Injective
  workspaces : ∀ handle view, self.workspaces handle = some view ↔
    ∃ ws ∈ layout.workspaces, workspace ws.id = handle ∧ ws.shown = view
  groups : ∀ handle, (self.groups handle).isSome = true ↔
    ∃ output ∈ layout.sortedOutputs, group output = handle
  members : ∀ output members, self.groups (group output) = some members → ∀ handle,
    members handle = true ↔
      ∃ ws ∈ layout.workspaces, ws.output = some output ∧ workspace ws.id = handle

/-! ### Runs -/

/-- The state, and the layout of the last refresh. -/
structure Session where
  state : ManagerState
  layout : Layout

inductive Session.Step
  | refresh (layout : Layout)
  | bind
  | stop (manager : ManagerId)
  /-- The client of a manager is gone. -/
  | disconnect (manager : ManagerId)
  | destroyWorkspace (handle : WorkspaceHandle)
  | destroyGroup (handle : GroupHandle)
  | activate (handle : WorkspaceHandle)
  | assign (handle : WorkspaceHandle) (group : GroupHandle)
  | commit (manager : ManagerId) (alive : OutputId → Bool)
  /-- The order of the maps is another one. -/
  | reorder (instances : List (ManagerId × List Action)) (workspaceGroups : Groups)
    (workspaces : List (WorkspaceId × WorkspaceData))

def Session.step (self : Session) : Session.Step → Outcome Session
  | .refresh layout => pure ⟨self.state.refresh layout, layout⟩
  | .bind => pure { self with state := self.state.bind }
  | .stop manager => pure { self with state := self.state.stop manager }
  | .disconnect manager => pure { self with state := self.state.forget manager }
  | .destroyWorkspace handle => pure { self with
      state := self.state.retain (· ≠ handle) fun _ => true }
  | .destroyGroup handle => pure { self with
      state := self.state.retain (fun _ => true) (· ≠ handle) }
  | .activate handle => do
    let state ← self.state.activate handle
    pure { self with state }
  | .assign handle group => do
    let state ← self.state.assign handle group
    pure { self with state }
  | .commit manager alive => do
    let state ← self.state.commit manager alive
    pure { self with state }
  | .reorder instances workspaceGroups workspaces => pure { self with
      state := { self.state with instances, workspaceGroups, workspaces } }

def machine : Machine Session Session.Step where
  initial self := self.state = ⟨[], [], [], 0, [], []⟩ ∧ self.layout.workspaces = [] ∧
    self.layout.sortedOutputs = []
  step self step := self.step step

/-- Only managers that are there stop or commit, and maps keep their entries. -/
def Session.Allowed (self : Session) : Session.Step → Prop
  | .stop manager | .disconnect manager | .commit manager _ => manager ∈ self.state.managers
  | .reorder instances workspaceGroups workspaces =>
    instances.Perm self.state.instances ∧ workspaceGroups.Perm self.state.workspaceGroups ∧
      workspaces.Perm self.state.workspaces
  | _ => True

end Sol.ExtWorkspace
