import Sol.Assoc
import Sol.Panicking

/-!
# The output management protocol

The clients of the protocol are told of the outputs: a head for each output, and a mode
object for each of its modes.  A client that binds is sent everything; after a change of
the outputs every client is sent the differences, each kind of difference on its own.

A client builds its view from the events that it receives.  Configurations, which go the
other way, are left out.
-/

namespace Sol.OutputManagement

open Panicking

/-! ### Outputs -/

structure Mode where
  width : ℕ
  height : ℕ
  refreshRate : ℕ
  isPreferred : Bool
  deriving DecidableEq, Repr

inductive Transform
  | normal
  | rotated90
  | rotated180
  | rotated270
  | flipped
  | flipped90
  | flipped180
  | flipped270
  deriving DecidableEq, Repr

structure LogicalOutput where
  x : ℤ
  y : ℤ
  width : ℕ
  height : ℕ
  scale : ℚ
  transform : Transform
  deriving DecidableEq, Repr

structure Output where
  name : String
  make : String
  model : String
  serial : Option String
  physicalSize : Option (ℕ × ℕ)
  modes : List Mode
  currentMode : Option ℕ
  vrrEnabled : Bool
  logical : Option LogicalOutput
  deriving DecidableEq, Repr

abbrev OutputId := ℕ

abbrev ClientId := ℕ

/-! ### Events -/

/-- What is sent on a head and on its modes, which are numbered under their head. -/
inductive HeadEvent
  | name (name : String)
  | description (description : String)
  | physicalSize (width height : ℕ)
  | mode (mode : ℕ)
  | enabled (enabled : Bool)
  | currentMode (mode : ℕ)
  | position (x y : ℤ)
  | transform (transform : Transform)
  | scale (scale : ℚ)
  | make (make : String)
  | model (model : String)
  | serialNumber (serial : String)
  | adaptiveSync (enabled : Bool)
  | modeSize (mode width height : ℕ)
  | modePreferred (mode : ℕ)
  | modeRefresh (mode refresh : ℕ)
  | modeFinished (mode : ℕ)

inductive Event
  /-- A new head. -/
  | head (head : ℕ)
  | onHead (head : ℕ) (event : HeadEvent)
  | headFinished (head : ℕ)
  | done (serial : ℕ)
  | finished

/-- `refresh_rate.try_into()`, to an `i32`. -/
def refreshI32 (refreshRate : ℕ) : Option ℕ :=
  if refreshRate < 2 ^ 31 then some refreshRate else none

/-! ### The manager -/

/-- A head of a client, with its modes and the number of the next one. -/
structure Head where
  id : ℕ
  version : ℕ
  modes : List ℕ
  nextMode : ℕ

/-- A client, with the events that it was sent. -/
structure ClientData where
  version : ℕ
  heads : List (OutputId × Head)
  nextHead : ℕ
  log : List Event

structure ManagerState where
  serial : ℕ
  clients : List (ClientId × ClientData)
  currentState : List (OutputId × Output)

def evtAdaptiveSyncSince : ℕ := 4
def evtMakeSince : ℕ := 2
def evtModelSince : ℕ := 2
def evtSerialNumberSince : ℕ := 2

namespace ClientData

/-- Sends on the head of an output, if the client has it. -/
def withHead (self : ClientData) (output : OutputId) (f : Head → List HeadEvent × Head) :
    ClientData :=
  match Assoc.get self.heads output with
  | some head =>
    let (events, head') := f head
    { self with
      heads := Assoc.modify output (fun _ => head') self.heads
      log := self.log ++ events.map (.onHead head.id) }
  | none => self

end ClientData

/-- The size and the refresh rate of a mode. -/
def modeEvents (number : ℕ) (mode : Mode) : List HeadEvent :=
  .modeSize number mode.width mode.height ::
    (refreshI32 mode.refreshRate).toList.map (.modeRefresh number)

/-- What `send_new_head` sends of one mode. -/
def newModeEvents (conf : Output) (index : ℕ) (mode : Mode) : List HeadEvent :=
  [.mode index, .modeSize index mode.width mode.height] ++
    (if mode.isPreferred then [.modePreferred index] else []) ++
    (refreshI32 mode.refreshRate).toList.map (.modeRefresh index) ++
    (if some index = conf.currentMode then [.currentMode index] else [])

def logicalEvents (logical : LogicalOutput) : List HeadEvent :=
  [.position logical.x logical.y, .transform logical.transform, .scale logical.scale]

/-- The physical size, if it is one of `i32`. -/
def physicalSizeEvents : Option (ℕ × ℕ) → List HeadEvent
  | some (width, height) =>
    if width < 2 ^ 31 ∧ height < 2 ^ 31 then [.physicalSize width height] else []
  | none => []

/-- The events of a new head. -/
def newHeadEvents (version : ℕ) (conf : Output) : List HeadEvent :=
  [.name conf.name, .description s!"{conf.make} - {conf.model} - {conf.name}"] ++
    physicalSizeEvents conf.physicalSize ++
    (conf.modes.zipIdx.flatMap fun (mode, index) => newModeEvents conf index mode) ++
    (conf.logical.toList.flatMap logicalEvents) ++
    [.enabled conf.currentMode.isSome] ++
    (if evtMakeSince ≤ version then [.make conf.make] else []) ++
    (if evtModelSince ≤ version then [.model conf.model] else []) ++
    (if evtSerialNumberSince ≤ version then conf.serial.toList.map .serialNumber else []) ++
    (if evtAdaptiveSyncSince ≤ version then [.adaptiveSync conf.vrrEnabled] else [])

/-- `send_new_head`. -/
def ClientData.sendNewHead (self : ClientData) (output : OutputId) (conf : Output) : ClientData :=
  let modes := conf.modes.length
  let head : Head := ⟨self.nextHead, self.version, List.range modes, modes⟩
  { self with
    heads := Assoc.remove output self.heads ++ [(output, head)]
    nextHead := self.nextHead + 1
    log := self.log ++ .head head.id :: (newHeadEvents self.version conf).map (.onHead head.id) }

/-- `notify_removed_head`, for one client. -/
def ClientData.removeHead (self : ClientData) (output : OutputId) : ClientData :=
  match Assoc.get self.heads output with
  | some head =>
    { self with
      heads := Assoc.remove output self.heads
      log := self.log ++ head.modes.map (fun mode => .onHead head.id (.modeFinished mode)) ++
        [.headFinished head.id] }
  | none => self

/-! ### Differences -/

def vrrEvents (conf : Output) (head : Head) : List HeadEvent × Head :=
  (if evtAdaptiveSyncSince ≤ head.version then [.adaptiveSync conf.vrrEnabled] else [], head)

/-- Modes are changed in place as far as there are any; then some are added, or the rest
is removed. -/
def modesEvents (conf : Output) (head : Head) : List HeadEvent × Head :=
  let zwlrModesWithModes := head.modes.zip conf.modes
  let leastModesLen := zwlrModesWithModes.length
  let changed := zwlrModesWithModes.flatMap fun (number, mode) => modeEvents number mode
  if leastModesLen < conf.modes.length then
    let added := (conf.modes.drop leastModesLen).zipIdx head.nextMode
    (changed ++ added.flatMap fun (mode, number) => .mode number :: modeEvents number mode,
      { head with
        modes := head.modes ++ added.map (·.2)
        nextMode := head.nextMode + added.length })
  else
    (changed ++ (head.modes.drop leastModesLen).map .modeFinished,
      { head with modes := head.modes.take leastModesLen })

/-- The event of a mode, if there is such a mode. -/
def currentModeEvents (index : ℕ) (head : Head) : List HeadEvent × Head :=
  (head.modes[index]?.toList.map .currentMode, head)

def disabledEvents (head : Head) : List HeadEvent × Head := ([.enabled false], head)

def enabledEvents (index : ℕ) (head : Head) : List HeadEvent × Head :=
  (.enabled true :: (currentModeEvents index head).1, head)

def logicalChangeEvents (old new : LogicalOutput) (head : Head) : List HeadEvent × Head :=
  ((if old.x ≠ new.x ∨ old.y ≠ new.y then [.position new.x new.y] else []) ++
    (if old.scale ≠ new.scale then [.scale new.scale] else []) ++
    (if old.transform ≠ new.transform then [.transform new.transform] else []), head)

def logicalNewEvents (logical : LogicalOutput) (head : Head) : List HeadEvent × Head :=
  (logicalEvents logical, head)

/-- Whether anything changed, and the clients. -/
abbrev Notified := Bool × List (ClientId × ClientData)

namespace Notified

/-- Something changed, and every client is told. -/
def tell (self : Notified) (f : ClientData → ClientData) : Notified :=
  (true, self.2.map fun (id, client) => (id, f client))

/-- Something changed about the head of an output. -/
def tellHead (self : Notified) (output : OutputId) (f : Head → List HeadEvent × Head) :
    Notified :=
  self.tell fun client => client.withHead output f

/-- The differences of an output that there was before. -/
def changes (self : Notified) (output : OutputId) (old conf : Output) : Notified :=
  let self :=
    if old.vrrEnabled ≠ conf.vrrEnabled then self.tellHead output (vrrEvents conf) else self
  let modesChanged := old.modes ≠ conf.modes
  let self := if modesChanged then self.tellHead output (modesEvents conf) else self
  let self :=
    match old.currentMode, conf.currentMode with
    | some oldIndex, some newIndex =>
      if old.modes.length = conf.modes.length ∧ (modesChanged ∨ oldIndex ≠ newIndex) then
        self.tellHead output (currentModeEvents newIndex)
      else self
    | some _, none => self.tellHead output disabledEvents
    | none, some newIndex =>
      if old.modes.length = conf.modes.length then self.tellHead output (enabledEvents newIndex)
      else self
    | none, none => self
  match old.logical, conf.logical with
  | some oldLogical, some newLogical =>
    if oldLogical ≠ newLogical then
      self.tellHead output (logicalChangeEvents oldLogical newLogical)
    else self
  | none, some newLogical => self.tellHead output (logicalNewEvents newLogical)
  -- heads are disabled in the mode difference
  | some _, none => self
  | none, none => self

/-- An output of the new state. -/
def output (currentState : List (OutputId × Output)) (self : Notified)
    (entry : OutputId × Output) : Notified :=
  match Assoc.get currentState entry.1 with
  | some old => self.changes entry.1 old entry.2
  | none => self.tell fun client => client.sendNewHead entry.1 entry.2

/-- An output of the old state. -/
def oldOutput (newState : List (OutputId × Output)) (self : Notified)
    (entry : OutputId × Output) : Notified :=
  match Assoc.get newState entry.1 with
  | some _ => self
  | none => self.tell fun client => client.removeHead entry.1

end Notified

namespace ManagerState

/-- `notify_changes`. -/
def notifyChanges (self : ManagerState) (newState : List (OutputId × Output)) : ManagerState :=
  let notified : Notified := (false, self.clients)
  let notified := newState.foldl (Notified.output self.currentState) notified
  let notified := self.currentState.foldl (Notified.oldOutput newState) notified
  if notified.1 then
    let serial := self.serial + 1
    { serial := serial
      clients := notified.2.map fun (id, client) =>
        (id, { client with log := client.log ++ [.done serial] })
      currentState := newState }
  else { self with clients := notified.2 }

/-- The client data of a client that binds the manager. -/
def newClient (self : ManagerState) (version : ℕ) : ClientData :=
  let empty : ClientData := ⟨version, [], 0, []⟩
  let client := self.currentState.foldl (fun client (entry : OutputId × Output) =>
    client.sendNewHead entry.1 entry.2) empty
  { client with log := client.log ++ [.done self.serial] }

def bind (self : ManagerState) (client : ClientId) (version : ℕ) : ManagerState :=
  { self with
    clients := Assoc.remove client self.clients ++ [(client, self.newClient version)] }

/-- The client stops the manager, or is gone. -/
def stop (self : ManagerState) (client : ClientId) : ManagerState :=
  { self with clients := Assoc.remove client self.clients }

end ManagerState

/-! ### The client -/

/-- A mode object as the client knows it. -/
structure ModeView where
  number : ℕ
  size : Option (ℕ × ℕ)
  refresh : Option ℕ
  preferred : Bool

/-- A head as the client knows it. -/
structure HeadView where
  id : ℕ
  name : Option String
  description : Option String
  physicalSize : Option (ℕ × ℕ)
  modes : List ModeView
  enabled : Option Bool
  currentMode : Option ℕ
  position : Option (ℤ × ℤ)
  transform : Option Transform
  scale : Option ℚ
  make : Option String
  model : Option String
  serialNumber : Option String
  adaptiveSync : Option Bool

/-- A head of which nothing is known yet. -/
def HeadView.new (id : ℕ) : HeadView :=
  ⟨id, none, none, none, [], none, none, none, none, none, none, none, none, none⟩

namespace HeadView

def withMode (self : HeadView) (mode : ℕ) (f : ModeView → ModeView) : HeadView :=
  { self with modes := self.modes.map fun view => if view.number = mode then f view else view }

def receive (self : HeadView) : HeadEvent → HeadView
  | .name name => { self with name := some name }
  | .description description => { self with description := some description }
  | .physicalSize width height => { self with physicalSize := some (width, height) }
  | .mode mode => { self with modes := self.modes ++ [⟨mode, none, none, false⟩] }
  | .enabled enabled => { self with enabled := some enabled }
  | .currentMode mode => { self with currentMode := some mode }
  | .position x y => { self with position := some (x, y) }
  | .transform transform => { self with transform := some transform }
  | .scale scale => { self with scale := some scale }
  | .make make => { self with make := some make }
  | .model model => { self with model := some model }
  | .serialNumber serial => { self with serialNumber := some serial }
  | .adaptiveSync enabled => { self with adaptiveSync := some enabled }
  | .modeSize mode width height => self.withMode mode fun view =>
      { view with size := some (width, height) }
  | .modePreferred mode => self.withMode mode fun view => { view with preferred := true }
  | .modeRefresh mode refresh => self.withMode mode fun view =>
      { view with refresh := some refresh }
  | .modeFinished mode => { self with modes := self.modes.filter fun view => view.number ≠ mode }

def receiveAll (self : HeadView) (events : List HeadEvent) : HeadView := events.foldl receive self

/-- Where the current mode is among the modes; a mode that is finished is none of them. -/
def currentIndex (self : HeadView) : Option ℕ :=
  self.currentMode.bind fun mode => self.modes.findIdx? fun view => view.number = mode

end HeadView

/-- The heads that the client knows. -/
abbrev View := List HeadView

def View.receive (self : View) : Event → View
  | .head head => self ++ [.new head]
  | .onHead head event => self.map fun view => if view.id = head then view.receive event else view
  | .headFinished head => self.filter fun view => view.id ≠ head
  | .done _ => self
  | .finished => self

def ClientData.view (self : ClientData) : View := self.log.foldl View.receive []

/-- What a head tells of its output: its names, the modes, whether it is on, whether it has
adaptive sync; and if it is on, its current mode and its place. -/
structure Shown where
  name : Option String
  description : Option String
  make : Option String
  model : Option String
  serialNumber : Option String
  modes : List (Option (ℕ × ℕ) × Option ℕ)
  enabled : Option Bool
  adaptiveSync : Option Bool
  on : Option (Option ℕ × Option (ℤ × ℤ) × Option Transform × Option ℚ)
  deriving DecidableEq

def HeadView.shown (self : HeadView) : Shown where
  name := self.name
  description := self.description
  make := self.make
  model := self.model
  serialNumber := self.serialNumber
  modes := self.modes.map fun mode => (mode.size, mode.refresh)
  enabled := self.enabled
  adaptiveSync := self.adaptiveSync
  on := if self.enabled = some true
    then some (self.currentIndex, self.position, self.transform, self.scale) else none

end Sol.OutputManagement
