import Sol.Machine
import Sol.Objects

/-!
# The foreign toplevel protocols

Clients are told of the windows through two protocols: a list, with the titles and the app
ids, and a manager, with the states and the outputs besides.  Every window has a handle for
each list and each manager.  A refresh sends what changed since the last one; the focused
window is refreshed last.

Requests on the handles, which act on the windows, are left out, and so are handles that
their client destroys.
-/

namespace Sol.ForeignToplevel

open Objects

abbrev Surface := ℕ

abbrev MappedId := ℕ

abbrev OutputId := ℕ

abbrev ClientId := ℕ

/-- What a client bound to be told of an output. -/
abbrev WlOutput := ℕ

/-! ### Windows -/

/-- The states of `xdg_toplevel`. -/
inductive XdgState
  | maximized
  | fullscreen
  | resizing
  | activated
  | tiledLeft
  | tiledRight
  | tiledTop
  | tiledBottom
  | suspended
  deriving DecidableEq

/-- The states that the managers are told of. -/
inductive State
  | maximized
  | minimized
  | activated
  | fullscreen
  deriving DecidableEq

/-- A window of the layout; without an initial commit it has no current states. -/
structure Window where
  surface : Surface
  id : MappedId
  title : Option String
  appId : Option String
  current : Option (List XdgState)
  output : Option OutputId

def toStateVec (states : List XdgState) (hasFocus : Bool) : List State :=
  (if .maximized ∈ states then [.maximized] else []) ++
    (if .fullscreen ∈ states then [.fullscreen] else []) ++
    (if hasFocus then [.activated] else [])

/-! ### Events -/

/-- What is sent on a handle of a list. -/
inductive ExtEvent
  | identifier (identifier : MappedId)
  | title (title : String)
  | appId (appId : String)
  | done

/-- What is sent on a handle of a manager. -/
inductive WlrEvent
  | title (title : String)
  | appId (appId : String)
  | state (states : List State)
  | outputEnter (output : WlOutput)
  | outputLeave (output : WlOutput)
  | done

def extNames (title appId : Option String) : List ExtEvent :=
  title.toList.map .title ++ appId.toList.map .appId

def wlrNames (title appId : Option String) : List WlrEvent :=
  title.toList.map .title ++ appId.toList.map .appId

/-- A list or a manager that a client bound. -/
structure Manager where
  id : ℕ
  client : ClientId
  deriving DecidableEq

/-- A handle of a window, for a list or a manager. -/
structure Handle where
  id : ℕ
  manager : ℕ
  client : ClientId
  deriving DecidableEq

/-- The number of the next object, and the events of the handles that were sent. -/
structure Display where
  nextObject : ℕ
  extLog : List (Handle × Sent ExtEvent)
  wlrLog : List (Handle × Sent WlrEvent)

/-- `Output::client_outputs`: what the clients bound of the outputs. -/
abbrev ClientOutputs := OutputId → ClientId → List WlOutput

/-- What a client bound of the output of a window. -/
def ClientOutputs.of (clientOutputs : ClientOutputs) (output : Option OutputId)
    (client : ClientId) : List WlOutput :=
  match output with
  | some output => clientOutputs output client
  | none => []

/-! ### Toplevels -/

structure ToplevelData where
  identifier : MappedId
  title : Option String
  appId : Option String
  states : List State
  output : Option OutputId
  extListInstances : List Handle
  wlrManagementInstances : List (Handle × List WlOutput)

namespace ToplevelData

def addExtInstance (self : ToplevelData) (display : Display) (manager : Manager) :
    ToplevelData × Display :=
  let toplevel : Handle := ⟨display.nextObject, manager.id, manager.client⟩
  let events := .identifier self.identifier :: extNames self.title self.appId ++ [.done]
  ({ self with extListInstances := self.extListInstances ++ [toplevel] },
    { display with
      nextObject := display.nextObject + 1
      extLog := display.extLog ++ (.create :: events.map .tell).map (toplevel, ·) })

def addWlrInstance (self : ToplevelData) (clientOutputs : ClientOutputs) (display : Display)
    (manager : Manager) : ToplevelData × Display :=
  let toplevel : Handle := ⟨display.nextObject, manager.id, manager.client⟩
  let outputs := clientOutputs.of self.output manager.client
  let events := wlrNames self.title self.appId ++ [.state self.states] ++
    outputs.map .outputEnter ++ [.done]
  ({ self with wlrManagementInstances := self.wlrManagementInstances ++ [(toplevel, outputs)] },
    { display with
      nextObject := display.nextObject + 1
      wlrLog := display.wlrLog ++ (.create :: events.map .tell).map (toplevel, ·) })

section Update

variable (self : ToplevelData) (window : Window) (states : List State)

/-- The title, if it is another one. -/
def newTitle : Option String := if self.title ≠ window.title then window.title else none

def newAppId : Option String := if self.appId ≠ window.appId then window.appId else none

def somethingChangedForExt : Prop :=
  (self.newTitle window).isSome = true ∨ (self.newAppId window).isSome = true

def somethingChangedForWlr : Prop :=
  (self.newTitle window).isSome = true ∨ (self.newAppId window).isSome = true ∨
    self.states ≠ states ∨ self.output ≠ window.output

instance : Decidable (self.somethingChangedForExt window) :=
  inferInstanceAs (Decidable (_ ∨ _))

instance : Decidable (self.somethingChangedForWlr window states) :=
  inferInstanceAs (Decidable (_ ∨ _))

/-- What a list is sent of a window that is tracked. -/
def extUpdate : List ExtEvent :=
  if self.somethingChangedForExt window then
    extNames (self.newTitle window) (self.newAppId window) ++ [.done]
  else []

/-- What a manager is sent of a window that is tracked. -/
def wlrUpdate (clientOutputs : ClientOutputs) (client : ClientId) (outputs : List WlOutput) :
    List WlrEvent :=
  if self.somethingChangedForWlr window states then
    wlrNames (self.newTitle window) (self.newAppId window) ++
      (if self.states ≠ states then [.state states] else []) ++
      (if self.output ≠ window.output then
        outputs.map .outputLeave ++ (clientOutputs.of window.output client).map .outputEnter
      else []) ++
      [.done]
  else []

/-- The outputs that a handle entered, after the update. -/
def outputsUpdate (clientOutputs : ClientOutputs) (client : ClientId) (outputs : List WlOutput) :
    List WlOutput :=
  if self.output ≠ window.output then clientOutputs.of window.output client else outputs

/-- `refresh_toplevel`, for an existing window. -/
def update (clientOutputs : ClientOutputs) (display : Display) : ToplevelData × Display :=
  ({ self with
      title := window.title
      appId := window.appId
      states := states
      output := window.output
      wlrManagementInstances := self.wlrManagementInstances.map fun i =>
        (i.1, self.outputsUpdate window clientOutputs i.1.client i.2) },
    { display with
      extLog := display.extLog ++ self.extListInstances.flatMap fun instance' =>
        ((self.extUpdate window).map .tell).map (instance', ·)
      wlrLog := display.wlrLog ++ self.wlrManagementInstances.flatMap fun i =>
        ((self.wlrUpdate window states clientOutputs i.1.client i.2).map .tell).map (i.1, ·) })

end Update

/-- `on_output_bound`, for the handles of one window on the output. -/
def enterBound (self : ToplevelData) (client : ClientId) (wlOutput : WlOutput)
    (display : Display) : ToplevelData × Display :=
  ({ self with
      wlrManagementInstances := self.wlrManagementInstances.map fun i =>
        (i.1, if i.1.client = client then i.2 ++ [wlOutput] else i.2) },
    { display with
      wlrLog := display.wlrLog ++ self.wlrManagementInstances.flatMap fun i =>
        ((if i.1.client = client then [.outputEnter wlOutput, .done] else []).map .tell).map
          (i.1, ·) })

end ToplevelData

/-! ### The state -/

structure ForeignToplevelManagerState where
  display : Display
  extListInstances : List Manager
  wlrManagementInstances : List Manager
  toplevels : List (Surface × ToplevelData)

namespace ForeignToplevelManagerState

variable (self : ForeignToplevelManagerState) (clientOutputs : ClientOutputs)

/-- The data of a toplevel is changed, and events are sent. -/
def modify (surface : Surface) (f : ToplevelData → Display → ToplevelData × Display) :
    ForeignToplevelManagerState :=
  match Assoc.get self.toplevels surface with
  | some data =>
    let (data, display) := f data self.display
    { self with
      display := display
      toplevels := Assoc.modify surface (fun _ => data) self.toplevels }
  | none => self

def addExtInstance (surface : Surface) (manager : Manager) : ForeignToplevelManagerState :=
  self.modify surface fun data display => data.addExtInstance display manager

def addWlrInstance (surface : Surface) (manager : Manager) : ForeignToplevelManagerState :=
  self.modify surface fun data display => data.addWlrInstance clientOutputs display manager

/-- A new window.  The entry comes first here, and the handles after it. -/
def track (window : Window) (states : List State) : ForeignToplevelManagerState :=
  let data : ToplevelData :=
    ⟨window.id, window.title, window.appId, states, window.output, [], []⟩
  let self := { self with toplevels := self.toplevels ++ [(window.surface, data)] }
  let self := self.extListInstances.foldl (fun self manager =>
    self.addExtInstance window.surface manager) self
  self.wlrManagementInstances.foldl (fun self manager =>
    self.addWlrInstance clientOutputs window.surface manager) self

def refreshToplevel (window : Window) (current : List XdgState) (hasFocus : Bool) :
    ForeignToplevelManagerState :=
  let states := toStateVec current hasFocus
  match Assoc.get self.toplevels window.surface with
  | some _ => self.modify window.surface fun data display =>
      data.update window states clientOutputs display
  | none => self.track clientOutputs window states

/-- The windows that are gone. -/
def handleClosed (windows : List Window) : ForeignToplevelManagerState :=
  let gone := self.toplevels.filter fun entry => entry.1 ∉ windows.map (·.surface)
  { self with
    display := { self.display with
      extLog := self.display.extLog ++ gone.flatMap fun entry =>
        entry.2.extListInstances.map (·, .destroy)
      wlrLog := self.display.wlrLog ++ gone.flatMap fun entry =>
        entry.2.wlrManagementInstances.map fun instance' => (instance'.1, .destroy) }
    toplevels := self.toplevels.filter fun entry => entry.1 ∈ windows.map (·.surface) }

/-- One of the windows, in their order; the focused one is kept for later. -/
def refreshWindow (focus : Option Surface)
    (acc : ForeignToplevelManagerState × Option Window) (window : Window) :
    ForeignToplevelManagerState × Option Window :=
  match window.current with
  | none => acc
  | some current =>
    if focus = some window.surface then (acc.1, some window)
    else (acc.1.refreshToplevel clientOutputs window current false, acc.2)

def refresh (windows : List Window) (focus : Option Surface) : ForeignToplevelManagerState :=
  let (self, focused) :=
    windows.foldl (refreshWindow clientOutputs focus) (self.handleClosed windows, none)
  match focused with
  | none => self
  | some window =>
    match window.current with
    | none => self
    | some current => self.refreshToplevel clientOutputs window current true

/-- `on_output_bound`. -/
def onOutputBound (output : OutputId) (client : ClientId) (wlOutput : WlOutput) :
    ForeignToplevelManagerState :=
  (Assoc.keys self.toplevels).foldl (fun self surface => self.modify surface fun data display =>
    if data.output = some output then data.enterBound client wlOutput display
    else (data, display)) self

def bindExt (client : ClientId) : ForeignToplevelManagerState :=
  let manager : Manager := ⟨self.display.nextObject, client⟩
  let self := { self with
    display := { self.display with nextObject := self.display.nextObject + 1 } }
  let self := (Assoc.keys self.toplevels).foldl (fun self surface =>
    self.addExtInstance surface manager) self
  { self with extListInstances := self.extListInstances ++ [manager] }

def bindWlr (client : ClientId) : ForeignToplevelManagerState :=
  let manager : Manager := ⟨self.display.nextObject, client⟩
  let self := { self with
    display := { self.display with nextObject := self.display.nextObject + 1 } }
  let self := (Assoc.keys self.toplevels).foldl (fun self surface =>
    self.addWlrInstance clientOutputs surface manager) self
  { self with wlrManagementInstances := self.wlrManagementInstances ++ [manager] }

def stopExt (manager : Manager) : ForeignToplevelManagerState :=
  { self with extListInstances := self.extListInstances.filter (· ≠ manager) }

def stopWlr (manager : Manager) : ForeignToplevelManagerState :=
  { self with wlrManagementInstances := self.wlrManagementInstances.filter (· ≠ manager) }

end ForeignToplevelManagerState

/-! ### Clients -/

/-- What a list tells of a window. -/
structure ExtShown where
  title : Option String
  appId : Option String
  deriving DecidableEq

/-- What is known of a handle: what came since the last `done`, and what was told then. -/
structure ExtView where
  identifier : Option MappedId
  pending : ExtShown
  current : Option ExtShown

namespace ExtView

def new : ExtView := ⟨none, ⟨none, none⟩, none⟩

def receive (self : ExtView) : ExtEvent → ExtView
  | .identifier identifier => { self with identifier := some identifier }
  | .title title => { self with pending := { self.pending with title := some title } }
  | .appId appId => { self with pending := { self.pending with appId := some appId } }
  | .done => { self with current := some self.pending }

end ExtView

/-- What a manager tells of a window. -/
structure WlrShown where
  title : Option String
  appId : Option String
  states : List State
  outputs : List WlOutput

structure WlrView where
  pending : WlrShown
  current : Option WlrShown

namespace WlrView

def new : WlrView := ⟨⟨none, none, [], []⟩, none⟩

def receive (self : WlrView) : WlrEvent → WlrView
  | .title title => { self with pending := { self.pending with title := some title } }
  | .appId appId => { self with pending := { self.pending with appId := some appId } }
  | .state states => { self with pending := { self.pending with states := states } }
  | .outputEnter output => { self with
      pending := { self.pending with outputs := self.pending.outputs ++ [output] } }
  | .outputLeave output => { self with
      pending := { self.pending with outputs := self.pending.outputs.erase output } }
  | .done => { self with current := some self.pending }

/-- The window is activated, as of the last `done` or of what came since. -/
def Activated (self : WlrView) : Prop :=
  .activated ∈ self.pending.states ∨ ∃ shown, self.current = some shown ∧ .activated ∈ shown.states

end WlrView

namespace Manager

/-- The events that the client of a list receives on the handles of it. -/
def extStream (self : Manager) (display : Display) : List (Handle × Sent ExtEvent) :=
  display.extLog.filter fun entry => entry.1.manager = self.id

def wlrStream (self : Manager) (display : Display) : List (Handle × Sent WlrEvent) :=
  display.wlrLog.filter fun entry => entry.1.manager = self.id

end Manager

/-- The handles of a list that are not closed. -/
def extView (stream : List (Handle × Sent ExtEvent)) : List (Handle × ExtView) :=
  view .new ExtView.receive stream

def wlrView (stream : List (Handle × Sent WlrEvent)) : List (Handle × WlrView) :=
  view .new WlrView.receive stream

end Sol.ForeignToplevel
