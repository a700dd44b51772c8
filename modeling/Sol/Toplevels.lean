import Sol.Assoc
import Sol.LayoutSafety
import Sol.NewWindowSize

/-!
# Toplevels before and after they are mapped

A new toplevel is unmapped.  After its first commit it is told how to show itself, in an idle
callback; it may then ask for other modes, and is told again each time.  When it commits a buffer it
opens in the layout, and when it commits none it leaves it, to begin anew.

The pending state of a toplevel, and whether a configure was sent, are kept along with its surface;
they are lost when it is unmapped.  Activation tokens other than their times, decorations, the tiled
state, casts, animations, focus and redraws are left out.
-/

namespace Sol

open Panicking

/-! ### What is looked up in the layout -/

section Lookups

variable {W Id : Type} [LayoutElement W Id]

def Monitor.findNamedWorkspace (self : Monitor W Id) (name : String) : Option (Workspace W Id) :=
  self.workspaces.find? (·.isNamed name)

namespace Layout

/-- `active_monitor_ref`. -/
def activeMonitorRef (self : Layout W Id) : Outcome (Option (Monitor W Id)) :=
  match self.monitorSet with
  | .normal monitors _ activeMonitorIdx => do
    let mon ← Vec.get monitors activeMonitorIdx
    pure (some mon)
  | .noOutputs _ => pure none

/-- `active_workspace`. -/
def activeWorkspaceRef (self : Layout W Id) : Outcome (Option (Workspace W Id)) := do
  match ← self.activeMonitorRef with
  | some mon => do
    let ws ← mon.activeWorkspaceRef
    pure (some ws)
  | none => pure none

def monitorForWorkspace (self : Layout W Id) (name : String) : Option (Monitor W Id) :=
  self.monitors.find? fun mon => mon.workspaces.any (·.isNamed name)

def findWorkspaceByName (self : Layout W Id) (name : String) : Option (Workspace W Id) :=
  self.workspaces.find? (·.isNamed name)

/-- A workspace has the window of a surface. -/
def findIn (workspaces : List (Workspace W Id)) [DecidableEq Id] (surface : Id) : Option W :=
  (workspaces.flatMap fun ws => ws.tiles.map (·.window)).find? fun window =>
    LayoutElement.id window = surface

variable [DecidableEq Id]

def findWindowAndOutput (self : Layout W Id) (surface : Id) : Option (W × Option Output) :=
  match self.moved.filter fun data => data.tile.windowId = surface with
  | some data => some (data.tile.window, some data.output)
  | none =>
    match self.monitorSet with
    | .normal monitors _ _ => monitors.findSome? fun mon =>
        (findIn mon.workspaces surface).map (·, some mon.output)
    | .noOutputs workspaces => (findIn workspaces surface).map (·, none)

end Layout

end Lookups

namespace Shell

/-! ### Window rules -/

/-- The rules for a window, where they are about how it opens. -/
structure ResolvedWindowRules where
  defaultWidth : Option (Option PresetSize)
  defaultHeight : Option (Option PresetSize)
  openOnOutput : Option String
  openOnWorkspace : Option String
  openMaximized : Option Bool
  openMaximizedToEdges : Option Bool
  openFullscreen : Option Bool
  openFloating : Option Bool
  openFocused : Option Bool
  minWidth : Option UInt16
  minHeight : Option UInt16
  maxWidth : Option UInt16
  maxHeight : Option UInt16
  border : BorderRule

/-- The pending state of a toplevel. -/
structure ToplevelState where
  fullscreen : Bool
  maximized : Bool
  size : Option ISize
  bounds : Option ISize
  deriving DecidableEq

def ToplevelState.default : ToplevelState := ⟨false, false, none, none⟩

/-- A toplevel; another one on the same surface has another serial. -/
structure Toplevel (Id : Type) where
  serial : ℕ
  parent : Option Id
  minSize : ISize
  maxSize : ISize
  pending : ToplevelState
  isInitialConfigureSent : Bool

namespace ResolvedWindowRules

def default : ResolvedWindowRules :=
  ⟨none, none, none, none, none, none, none, none, none, none, none, none, none,
    ⟨false, false, none⟩⟩

/-- One extent of `apply_min_size`. -/
def applyMin (bound : Option UInt16) (extent : ℤ) : ℤ :=
  match bound with
  | some x => max extent x.toNat
  | none => extent

/-- One extent of `apply_max_size`; zero is no bound. -/
def applyMax (bound : Option UInt16) (extent : ℤ) : ℤ :=
  match bound with
  | some x => if extent = 0 then x.toNat else if 0 < x.toNat then min extent x.toNat else extent
  | none => extent

variable (self : ResolvedWindowRules)

def applyMinSize (minSize : ISize) : ISize :=
  ⟨applyMin self.minWidth minSize.w, applyMin self.minHeight minSize.h⟩

def applyMaxSize (maxSize : ISize) : ISize :=
  ⟨applyMax self.maxWidth maxSize.w, applyMax self.maxHeight maxSize.h⟩

/-- Dialogs and windows of a fixed height float by default. -/
def computeOpenFloating {Id : Type} (toplevel : Toplevel Id) : Bool :=
  match self.openFloating with
  | some res => res
  | none =>
    let minSize := self.applyMinSize toplevel.minSize
    let maxSize := self.applyMaxSize toplevel.maxSize
    toplevel.parent.isSome || decide (0 < minSize.h ∧ minSize.h = maxSize.h)

end ResolvedWindowRules

/-! ### New windows on a workspace -/

section NewWindow

variable {W Id : Type} [LayoutElement W Id]

/-- One extent of a new floating window; zero leaves it to the window. -/
def resolveNew (border : Border) (size : Option PresetSize) (workingAreaSize : ℚ) : ℤ :=
  match size with
  | some size =>
    let size := match resolvePresetSize size workingAreaSize with
      | .tile size => if border.off then size else size - border.width * 2
      | .window size => size
    max 1 (asI32 ⌊size⌋)
  | none => 0

def floatingNewWindowSize (self : FloatingSpace W Id) (width height : Option PresetSize)
    (rules : ResolvedWindowRules) : ISize :=
  let border := self.options.layout.border.mergedWith rules.border
  ⟨resolveNew border width self.workingArea.size.w, resolveNew border height self.workingArea.size.h⟩

/-- `Workspace::new_window_size`. -/
def newWindowSize (self : Workspace W Id) (width height : Option PresetSize) (isFloating : Bool)
    (rules : ResolvedWindowRules) (minSize maxSize : ISize) : ISize :=
  let size := if isFloating then floatingNewWindowSize self.floating width height rules
    else self.scrolling.newWindowSize
  let minSize := rules.applyMinSize minSize
  let maxSize := rules.applyMaxSize maxSize
  ⟨ensureMinMaxSizeMaybeZero size.w minSize.w maxSize.w,
    if minSize.h = maxSize.h then ensureMinMaxSize size.h minSize.h maxSize.h
    else if 0 < size.h then max size.h minSize.h else size.h⟩

/-- `new_window_toplevel_bounds` of either space. -/
def newWindowToplevelBounds (self : Workspace W Id) (isFloating : Bool)
    (rules : ResolvedWindowRules) : ISize :=
  if isFloating then
    computeToplevelBounds (self.floating.options.layout.border.mergedWith rules.border)
      self.floating.workingArea.size
  else
    let gaps := self.scrolling.options.layout.gaps
    Size.toI32Floor ⟨max (self.scrolling.workingArea.size.w - gaps * 2) 1,
      max (self.scrolling.workingArea.size.h - gaps * 2) 1⟩

/-- `Workspace::configure_new_window`. -/
def configureNewWindow (self : Workspace W Id) (toplevel : Toplevel Id)
    (width height : Option PresetSize) (isFloating : Bool) (rules : ResolvedWindowRules) :
    Toplevel Id :=
  let size :=
    if toplevel.pending.fullscreen then self.viewSize.toI32Round
    else if toplevel.pending.maximized then self.workingArea.size.toI32Round
    else newWindowSize self width height isFloating rules toplevel.minSize toplevel.maxSize
  { toplevel with pending := { toplevel.pending with
      size := some size
      bounds := some (newWindowToplevelBounds self isFloating rules) } }

def resolveDefaultWidth (self : Workspace W Id) (defaultWidth : Option (Option PresetSize))
    (isFloating : Bool) : Option PresetSize :=
  match defaultWidth with
  | some width => width
  | none => if isFloating then none else self.options.layout.defaultColumnWidth

/-- There is no default height. -/
def resolveDefaultHeight (defaultHeight : Option (Option PresetSize)) : Option PresetSize :=
  defaultHeight.getD none

end NewWindow

/-! ### The state -/

/-- What a window was told at first. -/
structure Configured where
  rules : ResolvedWindowRules
  width : Option PresetSize
  height : Option PresetSize
  floatingWidth : Option PresetSize
  floatingHeight : Option PresetSize
  isFullWidth : Bool
  output : Option Output
  workspaceName : Option String
  isPendingMaximized : Bool

inductive InitialConfigureState
  | notConfigured (wantsFullscreen : Option (Option Output)) (wantsMaximized : Bool)
  | configured (data : Configured)

structure Unmapped where
  state : InitialConfigureState
  activationTokenData : Option Duration

namespace Unmapped

def new : Unmapped := ⟨.notConfigured none false, none⟩

def needsInitialConfigure (self : Unmapped) : Bool :=
  match self.state with
  | .notConfigured _ _ => true
  | .configured _ => false

end Unmapped

/-- What toplevels do, and what they are told. -/
inductive Event (Id : Type)
  | created (id : Id)
  /-- A commit without a buffer, before the initial configure. -/
  | committed (id : Id)
  | configure (id : Id) (state : ToplevelState)
  /-- A mapped window is flagged, and is told at the next refresh. -/
  | needsConfigure (id : Id)
  | mapped (id : Id)
  | unmapped (id : Id)
  | destroyed (id : Id)

/-- The unmapped windows and the layout, and the toplevels that there are.  Initial configures are
queued with the serial of their toplevel. -/
structure State (W Id : Type) where
  layout : Layout W Id
  unmappedWindows : List (Id × Unmapped)
  toplevels : List (Id × Toplevel Id)
  idles : List (Id × ℕ)
  nextSerial : ℕ
  log : List (Event Id)

/-- How the window of a toplevel is made once it is mapped, as `Mapped::new` does. -/
class Maps (W Id : Type) [LayoutElement W Id] where
  mapped : Id → Toplevel Id → ResolvedWindowRules → W
  id_mapped : ∀ id toplevel rules, LayoutElement.id (mapped id toplevel rules) = id

namespace State

variable {W Id : Type} [LayoutElement W Id] [DecidableEq Id] (self : State W Id)

/-! ### The monitor and the workspace of a window to be -/

/-- The monitor of the parent, or else the active one; whether it is that of the parent. -/
def fallbackMonitor (parent : Option Id) : Outcome (Option (Monitor W Id × Bool)) :=
  match (parent.bind self.layout.findWindowAndOutput).bind fun found =>
      found.2.bind self.layout.monitorForOutput with
  | some mon => pure (some (mon, true))
  | none => do
    let mon ← self.layout.activeMonitorRef
    pure (mon.map (·, false))

/-- A monitor that was chosen already, or else the one to fall back to. -/
def chosenMonitor (chosen : Option (Monitor W Id)) (parent : Option Id) :
    Outcome (Option (Monitor W Id × Bool)) :=
  match chosen with
  | some mon => pure (some (mon, false))
  | none => self.fallbackMonitor parent

/-- The output to open on; with the parent it is looked for again then. -/
def outputToOpen (mon : Option (Monitor W Id × Bool)) : Option Output :=
  (mon.filter fun mon => !mon.2).map fun mon => mon.1.output

/-- The workspace with a name on the monitor, if a name is given, or else the active one. -/
def workspaceToOpen (mon : Option (Monitor W Id × Bool)) (name : Option String) :
    Outcome (Option (Workspace W Id)) :=
  match name, mon with
  | some name, some mon => pure (mon.1.findNamedWorkspace name)
  | none, some mon => do
    let ws ← mon.1.activeWorkspaceRef
    pure (some ws)
  | _, none => self.layout.activeWorkspaceRef

/-! ### Configures -/

/-- `send_configure`. -/
def sendConfigure (id : Id) (toplevel : Toplevel Id) : State W Id :=
  { self with
    toplevels := Assoc.modify id (fun _ => { toplevel with isInitialConfigureSent := true })
      self.toplevels
    log := self.log ++ [.configure id toplevel.pending] }

/-- A configure for a toplevel that is nowhere to be found. -/
def sendConfigureTo (id : Id) : State W Id :=
  match Assoc.get self.toplevels id with
  | some toplevel => self.sendConfigure id toplevel
  | none => self

def setUnmapped (id : Id) (unmapped : Unmapped) : State W Id :=
  { self with unmappedWindows := Assoc.modify id (fun _ => unmapped) self.unmappedWindows }

/-- The modes at first, by the window rules and by what the window wants. -/
def initialState (rules : ResolvedWindowRules) (wantsFullscreen : Option (Option Output))
    (isPendingMaximized : Bool) (pending : ToplevelState) : ToplevelState :=
  if (wantsFullscreen.isSome && rules.openFullscreen.isNone) ||
      rules.openFullscreen = some true then
    { pending with fullscreen := true }
  else if isPendingMaximized then { pending with maximized := true }
  else pending

/-- The width and the height that a window is told, which may be those for floating windows. -/
def Configured.extents (self : Configured) (isFloating : Bool) :
    Option PresetSize × Option PresetSize :=
  if isFloating then (self.floatingWidth, self.floatingHeight)
  else (if self.isFullWidth then some (.proportion 1) else self.width, self.height)

/-- The monitor for the initial configure. -/
def initialMonitor (rules : ResolvedWindowRules) (outputs : List Output)
    (wantsFullscreen : Option (Option Output)) (parent : Option Id) :
    Outcome (Option (Monitor W Id × Bool)) :=
  let ruled := (rules.openOnWorkspace.bind self.layout.monitorForWorkspace).or
    ((rules.openOnOutput.bind fun name => outputs.find? (·.name.matches name)).bind
      self.layout.monitorForOutput)
  self.chosenMonitor (ruled.or (wantsFullscreen.join.bind self.layout.monitorForOutput)) parent

/-- `send_initial_configure`, with the rules for the window and the outputs of the global space. -/
def sendInitialConfigure (rules : ResolvedWindowRules) (outputs : List Output) (id : Id)
    (unmapped : Unmapped) (toplevel : Toplevel Id) : Outcome (State W Id) :=
  match unmapped.state with
  | .configured _ => pure self
  | .notConfigured wantsFullscreen wantsMaximized => do
    let mon ← self.initialMonitor rules outputs wantsFullscreen toplevel.parent
    let isFloating := rules.computeOpenFloating toplevel
    let data : Configured :=
      { rules
        width := none
        height := none
        floatingWidth := none
        floatingHeight := none
        isFullWidth := rules.openMaximized.getD false
        output := outputToOpen mon
        workspaceName := none
        isPendingMaximized := false }
    let (data, toplevel) ← do
      match ← self.workspaceToOpen mon rules.openOnWorkspace with
      | some ws =>
        let isPendingMaximized := (wantsMaximized && rules.openMaximizedToEdges.isNone) ||
          rules.openMaximizedToEdges = some true
        let data := { data with
          width := resolveDefaultWidth ws rules.defaultWidth false
          height := resolveDefaultHeight rules.defaultHeight
          floatingWidth := resolveDefaultWidth ws rules.defaultWidth true
          floatingHeight := resolveDefaultHeight rules.defaultHeight
          workspaceName := ws.name
          isPendingMaximized }
        let pending := initialState rules wantsFullscreen isPendingMaximized toplevel.pending
        let extents := Configured.extents data isFloating
        pure (data, configureNewWindow ws { toplevel with pending } extents.1 extents.2 isFloating
          rules)
      | none => pure (data, toplevel)
    pure ((self.setUnmapped id { unmapped with state := .configured data }).sendConfigure id
      toplevel)

/-- The callback of a queued initial configure, for a toplevel that may be gone by then. -/
def sendQueued (rules : ResolvedWindowRules) (outputs : List Output) (id : Id) (serial : ℕ) :
    Outcome (State W Id) :=
  match Assoc.get self.toplevels id, Assoc.get self.unmappedWindows id with
  | some toplevel, some unmapped =>
    if toplevel.serial = serial ∧ unmapped.needsInitialConfigure = true then
      self.sendInitialConfigure rules outputs id unmapped toplevel
    else pure self
  | _, _ => pure self

/-- All callbacks that are queued, one after the other, with the rules for each window. -/
def dispatchIdles (rules : Id → ResolvedWindowRules) (outputs : List Output) :
    Outcome (State W Id) :=
  self.idles.foldlM (fun s idle => s.sendQueued (rules idle.1) outputs idle.1 idle.2)
    { self with idles := [] }

/-! ### Requests -/

/-- The modes that a toplevel may ask for. -/
inductive Request
  | maximize
  | unmaximize
  | fullscreen (output : Option Output)
  | unfullscreen

/-- What an unmapped window wants before it is configured. -/
def Request.want (wantsFullscreen : Option (Option Output)) (wantsMaximized : Bool) :
    Request → InitialConfigureState
  | maximize => .notConfigured wantsFullscreen true
  | unmaximize => .notConfigured wantsFullscreen false
  | fullscreen output => .notConfigured (some output) wantsMaximized
  | unfullscreen => .notConfigured none wantsMaximized

/-- The name of the workspace that the window is put back on. -/
def Request.workspaceName (data : Configured) : Request → Option String
  | maximize | fullscreen _ => none
  | unmaximize | unfullscreen => data.workspaceName

/-- The monitor that a request settles on before falling back. -/
def Request.monitor (data : Configured) (request : Request) : Option (Monitor W Id) :=
  match request with
  | .maximize => data.output.bind self.layout.monitorForOutput
  | .fullscreen output => (output.or data.output).bind self.layout.monitorForOutput
  | .unmaximize | .unfullscreen =>
    (data.workspaceName.bind self.layout.monitorForWorkspace).or
      (data.output.bind self.layout.monitorForOutput)

/-- What a request makes of the modes, and of the mode to go back to. -/
def Request.apply (isPendingMaximized : Bool) (pending : ToplevelState) :
    Request → Bool × ToplevelState
  | maximize => (true, if pending.fullscreen then pending else { pending with maximized := true })
  | unmaximize => (false, { pending with maximized := false })
  | fullscreen _ => (isPendingMaximized, { pending with fullscreen := true, maximized := false })
  | unfullscreen => (isPendingMaximized,
      let pending := { pending with fullscreen := false }
      if isPendingMaximized then { pending with maximized := true } else pending)

/-- The sizes that go along with a request; a mode that takes over has its own. -/
def Request.extents (data : Configured) (isFloating : Bool) :
    Request → (Option PresetSize × Option PresetSize) × Bool
  | maximize | fullscreen _ => ((none, none), false)
  | unmaximize | unfullscreen => (Configured.extents data isFloating, isFloating)

/-- A request of an unmapped window that was configured. -/
def reconfigure (id : Id) (unmapped : Unmapped) (data : Configured) (toplevel : Toplevel Id)
    (request : Request) : Outcome (State W Id) := do
  let mon ← self.chosenMonitor (request.monitor self data) toplevel.parent
  let data := { data with output := outputToOpen mon }
  let (data, toplevel) ← do
    match ← self.workspaceToOpen mon (request.workspaceName data) with
    | some ws =>
      let (isPendingMaximized, pending) := request.apply data.isPendingMaximized toplevel.pending
      let (extents, isFloating) := request.extents data (data.rules.computeOpenFloating toplevel)
      pure ({ data with isPendingMaximized },
        configureNewWindow ws { toplevel with pending } extents.1 extents.2 isFloating data.rules)
    | none => pure (data, toplevel)
  pure ((self.setUnmapped id { unmapped with state := .configured data }).sendConfigure id toplevel)

/-- What a request does to a window of the layout. -/
def requestMapped (clock : Clock) (id : Id) (current : Option Output) (request : Request) :
    Outcome (State W Id) := do
  let self := { self with log := self.log ++ [Event.needsConfigure id] }
  match request with
  | .maximize => do
    let layout ← self.layout.setMaximized clock id true
    pure { self with layout }
  | .unmaximize => do
    let layout ← self.layout.setMaximized clock id false
    pure { self with layout }
  | .fullscreen output => do
    let layout ← match output with
      | some output =>
        if current.all (·.key ≠ output.key) then
          self.layout.moveToOutput clock (some id) output none .smart
        else pure self.layout
      | none => pure self.layout
    let layout ← layout.setFullscreen clock id true
    pure { self with layout }
  | .unfullscreen => do
    let layout ← self.layout.setFullscreen clock id false
    pure { self with layout }

/-- `maximize_request`, `unmaximize_request`, `fullscreen_request` and `unfullscreen_request`. -/
def request (clock : Clock) (id : Id) (request : Request) : Outcome (State W Id) :=
  match self.layout.findWindowAndOutput id with
  | some found => self.requestMapped clock id found.2 request
  | none =>
    match Assoc.get self.unmappedWindows id, Assoc.get self.toplevels id with
    | some unmapped, some toplevel =>
      match unmapped.state with
      | .notConfigured wantsFullscreen wantsMaximized =>
        pure (self.setUnmapped id { unmapped with
          state := request.want wantsFullscreen wantsMaximized })
      | .configured data => self.reconfigure id unmapped data toplevel request
    | _, _ => pure (self.sendConfigureTo id)

/-- The requests `set_mode` and `unset_mode` for decorations. -/
def requestMode (id : Id) : State W Id :=
  match Assoc.get self.toplevels id with
  | none => self
  | some toplevel =>
    if toplevel.isInitialConfigureSent then
      match self.layout.findWindowAndOutput id with
      | some _ => { self with log := self.log ++ [.needsConfigure id] }
      | none => self.sendConfigure id toplevel
    else self

/-! ### Commits -/

/-- `XDG_ACTIVATION_TOKEN_TIMEOUT`. -/
def tokenTimeout : Duration := Animation.ofMillis 10000

/-- What a window is mapped with: the rules, width and height, whether it is of full width, its
output and workspace, and whether it is to be maximized. -/
def mapData (unmapped : Unmapped) : Configured :=
  match unmapped.state with
  | .configured data => { data with
      output := data.output.filter fun output => (self.layout.monitorForOutput output).isSome }
  | .notConfigured _ _ => ⟨.default, none, none, none, none, false, none, none, false⟩

/-- Whether the window is activated; `strict` is the policy for new windows. -/
def activateMapped (now : Duration) (strict : Bool) (unmapped : Unmapped)
    (rules : ResolvedWindowRules) : ActivateWindow :=
  match rules.openFocused with
  | some focus => if focus then .yes else .no
  | none =>
    if unmapped.activationTokenData.any fun timestamp => now - timestamp < tokenTimeout then
      .yes
    else if strict then .no else .smart

/-- Where the window opens. -/
def mapTarget (data : Configured) (parent : Option Id) : AddWindowTarget Id :=
  let near := (parent.bind self.layout.findWindowAndOutput).filter fun found =>
    match found.2, data.output with
    | some parentOutput, some output => output.key = parentOutput.key
    | _, _ => true
  match near with
  | some found => .nextTo (LayoutElement.id found.1)
  | none =>
    match data.workspaceName.bind self.layout.findWorkspaceByName, data.output with
    | some ws, _ => .workspace ws.id
    | none, some output => .output output
    | none, none => .auto

variable [Maps W Id]

/-- A toplevel gets mapped. -/
def map (clock : Clock) (now : Duration) (strict : Bool) (id : Id) (unmapped : Unmapped)
    (toplevel : Toplevel Id) : Outcome (State W Id) := do
  let data := self.mapData unmapped
  let isFloating := data.rules.computeOpenFloating toplevel
  let activate := activateMapped now strict unmapped data.rules
  let window : W := Maps.mapped id toplevel data.rules
  let layout ← self.layout.addWindow clock window (self.mapTarget data toplevel.parent) data.width
    data.height data.isFullWidth isFloating activate
  -- fullscreen hides that the window is to be maximized, too
  let layout ←
    if (layout.findWindowAndOutput id).any (fun found =>
        (LayoutElement.pendingSizingMode found.1).isFullscreen) && data.isPendingMaximized then
      layout.setMaximized clock id true
    else pure layout
  pure { self with
    layout
    unmappedWindows := Assoc.remove id self.unmappedWindows
    log := self.log ++ [.mapped id] }

/-- A toplevel gets unmapped, and its surface loses what it was told. -/
def unmap (clock : Clock) (id : Id) : Outcome (State W Id) := do
  let (_, layout) ← self.layout.removeWindow clock id
  pure { self with
    layout
    unmappedWindows := self.unmappedWindows ++ [(id, .new)]
    toplevels := Assoc.modify id (fun toplevel =>
      { toplevel with pending := .default, isInitialConfigureSent := false }) self.toplevels
    log := self.log ++ [.unmapped id] }

/-- A mapped toplevel remains mapped, and may move by the attach offset of its buffer. -/
def commitMapped (clock : Clock) (id : Id) (serial : Option ℕ) (delta : Point) :
    Outcome (State W Id) := do
  let layout ← self.layout.updateWindow id serial
  let layout ←
    if delta.x ≠ 0 ∨ delta.y ≠ 0 then
      layout.runWindowCommand clock (some id)
        (.moveFloatingWindow (.adjustFixed delta.x) (.adjustFixed delta.y) false)
    else pure layout
  pure { self with layout }

/-- What a commit finds: when it comes, whether there is a buffer, the acknowledged serial, and the
attach offset. -/
structure Commit where
  now : Duration
  isMapped : Bool
  serial : Option ℕ
  delta : Point

/-- `CompositorHandler::commit`, for the surface of a toplevel. -/
def commit (clock : Clock) (strict : Bool) (id : Id) (commit : Commit) : Outcome (State W Id) :=
  match Assoc.get self.unmappedWindows id, Assoc.get self.toplevels id with
  | some unmapped, some toplevel =>
    if commit.isMapped then self.map clock commit.now strict id unmapped toplevel
    else if unmapped.needsInitialConfigure then
      pure { self with
        idles := self.idles ++ [(id, toplevel.serial)]
        log := self.log ++ [.committed id] }
    else pure self
  | _, _ =>
    match self.layout.findWindowAndOutput id with
    | some _ =>
      if commit.isMapped then self.commitMapped clock id commit.serial commit.delta
      else self.unmap clock id
    | none => pure self

/-! ### Toplevels that come and go -/

def newToplevel (id : Id) : Outcome (State W Id) := do
  assert ((Assoc.get self.unmappedWindows id).isNone = true)
  let zero : ISize := ⟨0, 0⟩
  pure { self with
    unmappedWindows := self.unmappedWindows ++ [(id, .new)]
    toplevels := self.toplevels ++
      [(id, ⟨self.nextSerial, none, zero, zero, .default, false⟩)]
    nextSerial := self.nextSerial + 1
    log := self.log ++ [.created id] }

/-- `toplevel_destroyed`. -/
def toplevelDestroyed (clock : Clock) (id : Id) : Outcome (State W Id) :=
  let self := { self with
    toplevels := Assoc.remove id self.toplevels
    log := self.log ++ [Event.destroyed id] }
  match Assoc.get self.unmappedWindows id with
  | some _ => pure { self with unmappedWindows := Assoc.remove id self.unmappedWindows }
  | none =>
    match self.layout.findWindowAndOutput id with
    | some _ => do
      let (_, layout) ← self.layout.removeWindow clock id
      pure { self with layout }
    | none => pure self

/-- `parent_changed`: the window of the new parent is raised below its descendants. -/
def parentChanged (id : Id) (parent : Option Id) : Outcome (State W Id) :=
  let self := { self with
    toplevels := Assoc.modify id (fun toplevel => { toplevel with parent }) self.toplevels }
  match parent.bind fun parent => (self.layout.findWindowAndOutput parent).map fun _ => parent with
  | some parent => do
    let layout ← self.layout.descendantsAdded parent
    pure { self with layout }
  | none => pure self

/-- New rules for an unmapped window, once its title or the configuration changes. -/
def updateRules (id : Id) (rules : ResolvedWindowRules) : State W Id :=
  { self with unmappedWindows := Assoc.modify id (fun unmapped =>
      match unmapped.state with
      | .configured data => { unmapped with state := .configured { data with rules } }
      | .notConfigured _ _ => unmapped) self.unmappedWindows }

/-- `request_activation`, of an unmapped window. -/
def requestActivation (id : Id) (now timestamp : Duration) : State W Id :=
  if now - timestamp < tokenTimeout then
    { self with unmappedWindows := Assoc.modify id (fun unmapped =>
        { unmapped with activationTokenData := some timestamp }) self.unmappedWindows }
  else self

end State

/-! ### Runs -/

open State in
inductive Step (W Id : Type)
  | newToplevel (id : Id)
  | parentChanged (id : Id) (parent : Option Id)
  | setMinMaxSize (id : Id) (minSize maxSize : ISize)
  /-- The policy for new windows is that of the configuration. -/
  | commit (strict : Bool) (id : Id) (commit : Commit)
  | dispatchIdles (rules : Id → ResolvedWindowRules) (outputs : List Output)
  | request (id : Id) (request : Request)
  | requestMode (id : Id)
  | requestActivation (id : Id) (now timestamp : Duration)
  | updateRules (id : Id) (rules : ResolvedWindowRules)
  | toplevelDestroyed (id : Id)
  /-- Anything else that happens to the layout. -/
  | layout (op : Layout.Op W Id)

variable {W Id : Type} [LayoutElement W Id] [DecidableEq Id] [Maps W Id]

def step (clock : Clock) (s : State W Id) : Step W Id → Outcome (State W Id)
  | .newToplevel id => s.newToplevel id
  | .parentChanged id parent => s.parentChanged id parent
  | .setMinMaxSize id minSize maxSize => pure { s with
      toplevels := Assoc.modify id (fun toplevel => { toplevel with minSize, maxSize })
        s.toplevels }
  | .commit strict id commit => s.commit clock strict id commit
  | .dispatchIdles rules outputs => s.dispatchIdles rules outputs
  | .request id request => s.request clock id request
  | .requestMode id => pure (s.requestMode id)
  | .requestActivation id now timestamp => pure (s.requestActivation id now timestamp)
  | .updateRules id rules => pure (s.updateRules id rules)
  | .toplevelDestroyed id => s.toplevelDestroyed clock id
  | .layout op => do
    let layout ← s.layout.step clock op
    pure { s with layout }

/-- The shell as a machine; an action is a step and its time. -/
def machine (W Id : Type) [LayoutElement W Id] [DecidableEq Id] [Maps W Id] :
    Machine (State W Id) (Clock × Step W Id) where
  initial s := (Layout.machine W Id).initial s.layout ∧ s.unmappedWindows = [] ∧
    s.toplevels = [] ∧ s.idles = [] ∧ s.log = []
  step s a := step a.1 s a.2

end Shell

end Sol
