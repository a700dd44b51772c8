import Sol.Panicking
import Sol.Tables

/-!
# The event stream of workspaces

IPC clients follow the workspaces through events.  The server keeps the state that
its events lead to; on a refresh it compares that state with the layout and sends
either one event with all workspaces, or small events for what changed.  A small
event has side effects: an activated workspace deactivates the others of its
output, a focused one takes the focus from all.
-/

namespace Sol.Ipc

open Panicking Tables

/-! ### The state of a client -/

/-- A workspace as clients see it. -/
structure Workspace where
  id : ℕ
  idx : ℕ
  name : Option String
  output : Option String
  isUrgent : Bool
  isActive : Bool
  isFocused : Bool
  activeWindowId : Option ℕ
  deriving DecidableEq, Repr

/-- The events about workspaces. -/
inductive Event
  | workspacesChanged (workspaces : List Workspace)
  | workspaceUrgencyChanged (id : ℕ) (urgent : Bool)
  | workspaceActivated (id : ℕ) (focused : Bool)
  | workspaceActiveWindowChanged (workspaceId : ℕ) (activeWindowId : Option ℕ)
  deriving DecidableEq, Repr

/-- The workspaces by their ids. -/
abbrev WorkspacesState := Std.ExtTreeMap ℕ Workspace compare

namespace WorkspacesState

/-- What an activation does to a workspace. -/
def activated (id : ℕ) (focused : Bool) (output : Option String) (ws : Workspace) : Workspace :=
  let gotActivated := decide (ws.id = id)
  { ws with
    isActive := if ws.output = output then gotActivated else ws.isActive
    isFocused := if focused then gotActivated else ws.isFocused }

def apply (self : WorkspacesState) : Event → Outcome WorkspacesState
  | .workspacesChanged workspaces => pure (table Workspace.id id workspaces)
  | .workspaceUrgencyChanged id urgent =>
    pure (self.map fun _ ws => if ws.id = id then { ws with isUrgent := urgent } else ws)
  | .workspaceActivated id focused => do
    let ws ← expect "activated workspace was missing from the map" self[id]?
    pure (self.map fun _ => activated id focused ws.output)
  | .workspaceActiveWindowChanged workspaceId activeWindowId => do
    let _ ← expect "changed workspace was missing from the map" self[workspaceId]?
    pure (self.modify workspaceId fun ws => { ws with activeWindowId })

/-- Applies events in order. -/
def applyAll (self : WorkspacesState) (events : List Event) : Outcome WorkspacesState :=
  events.foldlM apply self

end WorkspacesState

/-! ### The layout -/

/-- What a refresh reads of a workspace of the layout. -/
structure WorkspaceView where
  id : ℕ
  name : Option String
  isUrgent : Bool
  activeWindow : Option ℕ
  deriving DecidableEq, Repr

structure MonitorView where
  outputName : String
  workspaces : List WorkspaceView
  activeWorkspaceIdx : ℕ
  deriving DecidableEq, Repr

inductive LayoutView
  | normal (monitors : List MonitorView) (activeMonitorIdx : ℕ)
  | noOutputs (workspaces : List WorkspaceView)
  deriving DecidableEq, Repr

namespace LayoutView

/-- A workspace with its monitor and its index there. -/
abbrev Entry := Option MonitorView × ℕ × WorkspaceView

/-- `Layout::workspaces`. -/
def workspaces : LayoutView → List Entry
  | .normal monitors _ => monitors.flatMap fun mon =>
    mon.workspaces.zipIdx.map fun (ws, idx) => (some mon, idx, ws)
  | .noOutputs workspaces => workspaces.zipIdx.map fun (ws, idx) => (none, idx, ws)

/-- `Layout::active_workspace`. -/
def activeWorkspace : LayoutView → Option WorkspaceView
  | .normal monitors activeMonitorIdx =>
    monitors[activeMonitorIdx]?.bind fun mon => mon.workspaces[mon.activeWorkspaceIdx]?
  | .noOutputs _ => none

end LayoutView

/-! ### Refreshing -/

/-- An index as clients count it, within a byte. -/
def ipcIdx (wsIdx : ℕ) : ℕ := if wsIdx + 1 ≤ 255 then wsIdx + 1 else 255

open LayoutView in
/-- A workspace as the full event describes it. -/
def ipcWorkspace (focusedWsId : Option ℕ) : Entry → Workspace
  | (mon, wsIdx, ws) => {
    id := ws.id
    idx := ipcIdx wsIdx
    name := ws.name
    output := mon.map (·.outputName)
    isUrgent := ws.isUrgent
    isActive := mon.any fun mon => mon.activeWorkspaceIdx = wsIdx
    isFocused := some ws.id = focusedWsId
    activeWindowId := ws.activeWindow }

open LayoutView in
/-- The events for what changed of a workspace; none where an event for it would
not do. -/
def entryEvents (ipcWs : Workspace) (focusedWsId : Option ℕ) : Entry → Option (List Event)
  | (mon, wsIdx, ws) =>
    if ipcWs.idx ≠ ipcIdx wsIdx ∨ ipcWs.name ≠ ws.name ∨ ipcWs.output ≠ mon.map (·.outputName) then
      none
    else
      let activeWindow := if ipcWs.activeWindowId ≠ ws.activeWindow then
        [Event.workspaceActiveWindowChanged ws.id ws.activeWindow] else []
      let urgency := if ws.isUrgent ≠ ipcWs.isUrgent then
        [Event.workspaceUrgencyChanged ws.id ws.isUrgent] else []
      let isFocused := decide (some ws.id = focusedWsId)
      let isActive := mon.any fun mon => mon.activeWorkspaceIdx = wsIdx
      let activation := if isFocused && !ipcWs.isFocused then
          [Event.workspaceActivated ws.id true]
        else if isActive && !ipcWs.isActive then [Event.workspaceActivated ws.id false]
        else []
      some (activeWindow ++ urgency ++ activation)

open LayoutView in
/-- The small events, if they can tell all that changed of the workspaces. -/
def smallEvents (state : WorkspacesState) (focusedWsId : Option ℕ) :
    List Entry → Option (List Event)
  | [] => some []
  | entry :: entries => do
    -- none if a new workspace was added
    let ipcWs ← state[entry.2.2.id]?
    let events ← entryEvents ipcWs focusedWsId entry
    return events ++ (← smallEvents state focusedWsId entries)

/-- The events of a refresh. -/
def refreshEvents (state : WorkspacesState) (layout : LayoutView) : List Event :=
  let focusedWsId := layout.activeWorkspace.map (·.id)
  let seen := layout.workspaces.map (·.2.2.id)
  match smallEvents state focusedWsId layout.workspaces with
  | some events =>
    if state.keys.any (· ∉ seen) then
      [.workspacesChanged (layout.workspaces.map (ipcWorkspace focusedWsId))]
    else events
  | none => [.workspacesChanged (layout.workspaces.map (ipcWorkspace focusedWsId))]

/-- `State::ipc_refresh_workspaces`, as far as the state of the server goes. -/
def refreshWorkspaces (state : WorkspacesState) (layout : LayoutView) : Outcome WorkspacesState :=
  state.applyAll (refreshEvents state layout)

/-- The workspaces of a layout as a fresh client is told. -/
def snapshot (layout : LayoutView) : WorkspacesState :=
  table Workspace.id id (layout.workspaces.map
    (ipcWorkspace (layout.activeWorkspace.map (·.id))))

end Sol.Ipc
