import Sol.Vec
import Sol.WindowEvents

/-!
# The event streams of clients

A client that asks for the event stream gets a queue of its own.  It finds there the
events that lead from nothing to the server's state, and from then on every event that
the server sends.  The queue is bounded: a client that falls behind, or that went away,
is disconnected with the next event.
-/

namespace Sol.Ipc

open Panicking Tables

/-! ### The state of the event stream -/

structure KeyboardLayouts where
  names : List String
  currentIdx : ℕ
  deriving DecidableEq, Repr

inductive CastKind
  | pipeWire
  | wlrScreencopy
  deriving DecidableEq, Repr

inductive CastTarget
  | nothing
  | output (name : String)
  | window (id : ℕ)
  deriving DecidableEq, Repr

/-- A screencast. -/
structure Cast where
  streamId : ℕ
  sessionId : ℕ
  kind : CastKind
  target : CastTarget
  isDynamicTarget : Bool
  isActive : Bool
  pid : Option ℤ
  pwNodeId : Option ℕ
  deriving DecidableEq, Repr

/-- All events of the stream. -/
inductive StreamEvent
  | workspaces (event : Event)
  | windows (event : WindowEvent)
  | keyboardLayoutsChanged (keyboardLayouts : KeyboardLayouts)
  | keyboardLayoutSwitched (idx : ℕ)
  | overviewOpenedOrClosed (isOpen : Bool)
  | configLoaded (failed : Bool)
  | screenshotCaptured (path : Option String)
  | castsChanged (casts : List Cast)
  | castStartedOrChanged (cast : Cast)
  | castStopped (streamId : ℕ)
  deriving DecidableEq, Repr

namespace WorkspacesState

/-- The part after an event, with the event if the part ignores it. -/
def applyEvent (self : WorkspacesState) :
    StreamEvent → Outcome (WorkspacesState × Option StreamEvent)
  | .workspaces event => do
    let self ← self.apply event
    pure (self, none)
  | event => pure (self, some event)

/-- A map lists its entries in some order, here and below that of `keys`. -/
def replicate (self : WorkspacesState) (keys : List ℕ) : List StreamEvent :=
  [.workspaces (.workspacesChanged (values self keys))]

end WorkspacesState

namespace WindowsState

def applyEvent (self : WindowsState) : StreamEvent → Outcome (WindowsState × Option StreamEvent)
  | .windows event => do
    let self ← self.apply event
    pure (self, none)
  | event => pure (self, some event)

def replicate (self : WindowsState) (keys : List ℕ) : List StreamEvent :=
  [.windows (.windowsChanged (values self keys))]

end WindowsState

structure KeyboardLayoutsState where
  keyboardLayouts : Option KeyboardLayouts

namespace KeyboardLayoutsState

def applyEvent (self : KeyboardLayoutsState) :
    StreamEvent → Outcome (KeyboardLayoutsState × Option StreamEvent)
  | .keyboardLayoutsChanged keyboardLayouts => pure ({ keyboardLayouts }, none)
  | .keyboardLayoutSwitched idx => do
    let kb ← expect "keyboard layouts must be set before a layout can be switched"
      self.keyboardLayouts
    pure ({ keyboardLayouts := some { kb with currentIdx := idx } }, none)
  | event => pure (self, some event)

def replicate (self : KeyboardLayoutsState) : List StreamEvent :=
  match self.keyboardLayouts with
  | some keyboardLayouts => [.keyboardLayoutsChanged keyboardLayouts]
  | none => []

end KeyboardLayoutsState

structure OverviewState where
  isOpen : Bool

namespace OverviewState

def applyEvent (self : OverviewState) : StreamEvent → Outcome (OverviewState × Option StreamEvent)
  | .overviewOpenedOrClosed isOpen => pure ({ isOpen }, none)
  | event => pure (self, some event)

def replicate (self : OverviewState) : List StreamEvent := [.overviewOpenedOrClosed self.isOpen]

end OverviewState

structure ConfigState where
  failed : Bool

namespace ConfigState

def applyEvent (self : ConfigState) : StreamEvent → Outcome (ConfigState × Option StreamEvent)
  | .configLoaded failed => pure ({ failed }, none)
  | event => pure (self, some event)

def replicate (self : ConfigState) : List StreamEvent := [.configLoaded self.failed]

end ConfigState

/-- The screencasts by their stream ids. -/
abbrev CastsState := Std.ExtTreeMap ℕ Cast compare

namespace CastsState

def applyEvent (self : CastsState) : StreamEvent → Outcome (CastsState × Option StreamEvent)
  | .castsChanged casts => pure (table Cast.streamId id casts, none)
  | .castStartedOrChanged cast => pure (self.insert cast.streamId cast, none)
  | .castStopped streamId => do
    let _ ← expect "stopped cast was missing from the map" self[streamId]?
    pure (self.erase streamId, none)
  | event => pure (self, some event)

def replicate (self : CastsState) (keys : List ℕ) : List StreamEvent :=
  [.castsChanged (values self keys)]

end CastsState

/-- The full state communicated over the event stream. -/
structure EventStreamState where
  workspaces : WorkspacesState
  windows : WindowsState
  keyboardLayouts : KeyboardLayoutsState
  overview : OverviewState
  config : ConfigState
  casts : CastsState

/-- The orders in which the maps of a state list their entries. -/
structure Order where
  workspaces : List ℕ
  windows : List ℕ
  casts : List ℕ

namespace EventStreamState

/-- The state by default initialization. -/
def default : EventStreamState where
  workspaces := ∅
  windows := ∅
  keyboardLayouts := { keyboardLayouts := none }
  overview := { isOpen := false }
  config := { failed := false }
  casts := ∅

/-- Every part in turn gets the event that the parts before ignored. -/
def apply (self : EventStreamState) (event : StreamEvent) :
    Outcome (EventStreamState × Option StreamEvent) := do
  let (workspaces, event) ← self.workspaces.applyEvent event
  let some event := event | return ({ self with workspaces }, none)
  let (windows, event) ← self.windows.applyEvent event
  let some event := event | return ({ self with workspaces, windows }, none)
  let (keyboardLayouts, event) ← self.keyboardLayouts.applyEvent event
  let some event := event | return ({ self with workspaces, windows, keyboardLayouts }, none)
  let (overview, event) ← self.overview.applyEvent event
  let some event := event |
    return ({ self with workspaces, windows, keyboardLayouts, overview }, none)
  let (config, event) ← self.config.applyEvent event
  let some event := event |
    return ({ self with workspaces, windows, keyboardLayouts, overview, config }, none)
  let (casts, event) ← self.casts.applyEvent event
  return ({ workspaces, windows, keyboardLayouts, overview, config, casts }, event)

/-- The state after an event. -/
def next (self : EventStreamState) (event : StreamEvent) : Outcome EventStreamState := do
  let (self, _) ← self.apply event
  pure self

/-- Applies events in order. -/
def applyAll (self : EventStreamState) (events : List StreamEvent) : Outcome EventStreamState :=
  events.foldlM next self

def replicate (self : EventStreamState) (order : Order) : List StreamEvent :=
  self.workspaces.replicate order.workspaces ++ self.windows.replicate order.windows ++
    self.keyboardLayouts.replicate ++ self.overview.replicate ++ self.config.replicate ++
    self.casts.replicate order.casts

end EventStreamState

/-! ### The server and its streams -/

/-- The most events that a client may leave unread. -/
def eventStreamBufferSize : ℕ := 64

inductive TrySendError
  | full
  | closed
  deriving DecidableEq, Repr

/-- The queue of a client, with what it has taken from it.  How many events the server
had sent before the client joined (`since`) is kept to state what the client gets. -/
structure EventStream where
  client : ℕ
  taken : List StreamEvent
  queued : List StreamEvent
  closed : Bool
  since : ℕ

namespace EventStream

/-- `Sender::try_send`, on the channel of the stream. -/
def trySend (self : EventStream) (event : StreamEvent) : Except TrySendError EventStream :=
  if self.closed then .error .closed
  else if eventStreamBufferSize ≤ self.queued.length then .error .full
  else .ok { self with queued := self.queued ++ [event] }

/-- The client takes the first event of its queue. -/
def recv (self : EventStream) : EventStream :=
  match self.queued with
  | [] => self
  | event :: queued => { self with taken := self.taken ++ [event], queued }

/-- The client goes away. -/
def close (self : EventStream) : EventStream := { self with closed := true }

end EventStream

/-- The server; `sent` are the events that it sent so far. -/
structure IpcServer where
  eventStreams : List EventStream
  eventStreamState : EventStreamState
  sent : List StreamEvent

namespace IpcServer

/-- The stream after an attempt to send, and whether it failed. -/
def attempt (event : StreamEvent) (stream : EventStream) : EventStream × Bool :=
  match stream.trySend event with
  | .ok stream => (stream, false)
  | .error _ => (stream, true)

/-- The event goes to every stream; those that did not take it are removed. -/
def sendEvent (self : IpcServer) (event : StreamEvent) : Outcome IpcServer := do
  let attempts := self.eventStreams.map (attempt event)
  let toRemove := Vec.indices (·.2) attempts
  let eventStreams ← toRemove.reverse.foldlM Vec.swapRemove (attempts.map (·.1))
  pure { self with eventStreams, sent := self.sent ++ [event] }

/-- Every change of the state is an event that is applied and then sent. -/
def update (self : IpcServer) (event : StreamEvent) : Outcome IpcServer := do
  let eventStreamState ← self.eventStreamState.next event
  sendEvent { self with eventStreamState } event

/-- The initial burst of events of a stream. -/
def burst (stream : EventStream) : List StreamEvent → Outcome EventStream
  | [] => pure stream
  | event :: events => do
    let stream ← expect "initial event burst had more events than buffer size"
      (stream.trySend event).toOption
    burst stream events

/-- `handle_client`, once the client asked for the event stream. -/
def handleClient (self : IpcServer) (client : ℕ) (order : Order) : Outcome IpcServer := do
  let stream : EventStream :=
    { client, taken := [], queued := [], closed := false, since := self.sent.length }
  -- send the initial state, and add the stream to the list
  let stream ← burst stream (self.eventStreamState.replicate order)
  pure { self with eventStreams := self.eventStreams ++ [stream] }

/-- What a client does to its own stream. -/
def onClient (self : IpcServer) (client : ℕ) (f : EventStream → EventStream) : IpcServer :=
  { self with eventStreams := self.eventStreams.map fun stream =>
      if stream.client = client then f stream else stream }

end IpcServer

end Sol.Ipc
