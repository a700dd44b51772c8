import Sol.Config

/-!
# Keyboard input

Each key event goes through a filter, which either forwards it to the focused client or
intercepts it, for the mode that the compositor is in or for a bind.  The keys whose
release is to be intercepted too are kept in `suppressed_keys`.

What actions do to the rest of the compositor is a parameter (`Effects`): nothing of it
is read before the filter is done, and only two actions touch the suppressed keys.
Accessibility grabs are left out.
-/

namespace Sol.Input

abbrev Keycode := ℕ

/-- The raw value of a keysym. -/
abbrev Keysym := ℕ

namespace Keysym

def space : Keysym := 0x20
def H : Keysym := 0x48
def L : Keysym := 0x4c
def c : Keysym := 0x63
def h : Keysym := 0x68
def l : Keysym := 0x6c
def p : Keysym := 0x70
def return_ : Keysym := 0xff0d
def escape : Keysym := 0xff1b
def left : Keysym := 0xff51
def up : Keysym := 0xff52
def right : Keysym := 0xff53
def down : Keysym := 0xff54
def switchVt1 : Keysym := 0x1008fe01
def switchVt12 : Keysym := 0x1008fe0c
def powerOff : Keysym := 0x1008ff2a

end Keysym

/-- The flags of `Modifiers`. -/
abbrev Modifiers := BitVec 8

namespace Modifiers

def ctrl : Modifiers := 1
def shift : Modifiers := 1 <<< 1
def alt : Modifiers := 1 <<< 2
def super : Modifiers := 1 <<< 3
def isoLevel3Shift : Modifiers := 1 <<< 4
def isoLevel5Shift : Modifiers := 1 <<< 5
def compositor : Modifiers := 1 <<< 6

def contains (self other : Modifiers) : Bool := self &&& other == other

end Modifiers

/-- The modifiers as the keyboard has them. -/
structure ModifiersState where
  ctrl : Bool
  alt : Bool
  shift : Bool
  logo : Bool
  isoLevel3Shift : Bool
  isoLevel5Shift : Bool
  deriving DecidableEq, Repr

def modifiersFromState (mods : ModifiersState) : Modifiers :=
  (if mods.ctrl then .ctrl else 0) ||| (if mods.shift then .shift else 0) |||
    (if mods.alt then .alt else 0) ||| (if mods.logo then .super else 0) |||
    (if mods.isoLevel3Shift then .isoLevel3Shift else 0) |||
    (if mods.isoLevel5Shift then .isoLevel5Shift else 0)

inductive ModKey
  | ctrl
  | shift
  | alt
  | super
  | isoLevel3Shift
  | isoLevel5Shift
  deriving DecidableEq, Repr

def ModKey.toModifiers : ModKey → Modifiers
  | ctrl => .ctrl
  | shift => .shift
  | alt => .alt
  | super => .super
  | isoLevel3Shift => .isoLevel3Shift
  | isoLevel5Shift => .isoLevel5Shift

/-- The actions that input tells apart; all the others are numbered. -/
inductive Action
  | quit (skipConfirmation : Bool)
  | changeVt (vt : ℤ)
  | suspend
  | powerOffMonitors
  | powerOnMonitors
  | spawn (command : List String)
  | spawnSh (command : String)
  | confirmScreenshot (writeToDisk : Bool)
  | cancelScreenshot
  | screenshotTogglePointer
  | toggleKeyboardShortcutsInhibit
  | switchLayout (next : Bool)
  | focusColumnLeft
  | focusColumnRight
  | focusWindowOrWorkspaceDown
  | focusWindowOrWorkspaceUp
  | moveColumnLeft
  | moveColumnLeftOrToMonitorLeft
  | moveColumnRight
  | moveColumnRightOrToMonitorRight
  | moveWindowUp
  | moveWindowUpOrToWorkspaceUp
  | moveWindowDown
  | moveWindowDownOrToWorkspaceDown
  | moveColumnToMonitorLeft
  | moveColumnToMonitorRight
  | moveColumnToMonitorUp
  | moveColumnToMonitorDown
  | moveColumnToMonitorPrevious
  | moveColumnToMonitorNext
  | moveColumnToMonitor (output : String)
  | moveWindowToMonitorLeft
  | moveWindowToMonitorRight
  | moveWindowToMonitorUp
  | moveWindowToMonitorDown
  | moveWindowToMonitorPrevious
  | moveWindowToMonitorNext
  | moveWindowToMonitor (output : String)
  | setWindowWidth (change : SizeChange)
  | setWindowHeight (change : SizeChange)
  | setColumnWidth (change : SizeChange)
  | nudgeMasterRatio (delta : ℚ)
  | toggleOverview
  | mruConfirm
  | other (index : ℕ)
  deriving DecidableEq, Repr

/-- What triggers a bind: a key, or one of the buttons and scrolls. -/
inductive Trigger
  | keysym (keysym : Keysym)
  | pointer (index : ℕ)
  deriving DecidableEq, Repr

structure Key where
  trigger : Trigger
  modifiers : Modifiers
  deriving DecidableEq, Repr

structure Bind where
  key : Key
  action : Action
  repeats : Bool
  cooldown : Option ℚ
  allowWhenLocked : Bool
  allowInhibiting : Bool
  hotkeyOverlayTitle : Option (Option String)
  deriving DecidableEq, Repr

/-- A bind that the source writes out. -/
def Bind.hardcoded (keysym : Keysym) (action : Action) (repeats : Bool) : Bind where
  key := ⟨.keysym keysym, 0⟩
  action := action
  repeats := repeats
  cooldown := none
  allowWhenLocked := false
  allowInhibiting := false
  hotkeyOverlayTitle := none

/-! ### The modal state -/

inductive PointerGrab
  | pickWindow
  | pickColor
  | dnd
  | other
  deriving DecidableEq, Repr

def PointerGrab.canBeCancelledWithEsc : PointerGrab → Bool
  | pickWindow => true
  | pickColor => true
  | dnd => true
  | other => false

/-- How far the screenshot UI is: with the button down, and the selection being moved by a
touch slot or with Space. -/
inductive ScreenshotUi
  | closed
  | openUp
  | openDown (moveState : Option (Option ℕ))
  deriving DecidableEq, Repr

namespace ScreenshotUi

def isOpen : ScreenshotUi → Bool
  | closed => false
  | _ => true

def setSpaceDown : ScreenshotUi → Bool → ScreenshotUi
  | openDown none, true => openDown (some none)
  | openDown (some none), false => openDown none
  | self, _ => self

/-- The action of a key in the screenshot UI. -/
def keyAction (raw : Keysym) (mods : ModifiersState) : Option Action :=
  if raw = .escape then some .cancelScreenshot
  else if mods.alt ∨ mods.shift then none
  else if ¬mods.ctrl ∧ (raw = .space ∨ raw = .return_) then some (.confirmScreenshot true)
  else if mods.ctrl ∧ raw = .c then some (.confirmScreenshot false)
  else if ¬mods.ctrl ∧ raw = .p then some .screenshotTogglePointer
  else none

def action (self : ScreenshotUi) (raw : Keysym) (mods : ModifiersState) : Option Action :=
  match self with
  | closed => none
  | openUp => keyAction raw mods
  | openDown _ => if raw = .space then none else keyAction raw mods

end ScreenshotUi

structure WindowMruUi where
  isOpen : Bool
  presetOpenedBinds : List Bind
  dynamicOpenedBinds : List Bind
  deriving DecidableEq, Repr

def WindowMruUi.openedBindings (self : WindowMruUi) (mods : Modifiers) : List Bind :=
  (self.presetOpenedBinds ++ self.dynamicOpenedBinds).map fun bind =>
    { bind with key.modifiers := mods }

/-- What the compositor is in, as far as key events depend on it. -/
structure Modes where
  modKey : ModKey
  binds : List Bind
  recentWindowsOn : Bool
  recentWindowsBinds : List Bind
  disablePowerKeyHandling : Bool
  exitConfirmDialogOpen : Bool
  stopped : Bool
  resizeMode : Bool
  windowMruUi : WindowMruUi
  pointerGrab : Option PointerGrab
  screenshotUi : ScreenshotUi
  overviewFocused : Bool
  inhibitingShortcuts : Bool
  locked : Bool
  bindCooldownTimers : List Key
  deriving DecidableEq, Repr

/-- What is done to the rest of the compositor. -/
structure Effects where
  perform : Action → Modes → Modes
  unsetGrab : Modes → Modes
  mruApplyKeyboardCommit : Modes → Modes

structure Niri where
  suppressedKeys : Finset Keycode
  modes : Modes

/-! ### Actions -/

def allowedWhenLocked : Action → Bool
  | .quit _ | .changeVt _ | .suspend | .powerOffMonitors | .powerOnMonitors | .switchLayout _
  | .toggleKeyboardShortcutsInhibit => true
  | _ => false

/-- The effect of an action on the suppressed keys. -/
def Niri.doAction (effects : Effects) (self : Niri) (action : Action) (allowWhenLocked : Bool) :
    Niri :=
  if self.modes.locked ∧ ¬(allowWhenLocked ∨ allowedWhenLocked action) then self
  else
    let modes := effects.perform action self.modes
    match action with
    -- changing VT and suspend may not deliver the key releases
    | .changeVt _ => ⟨∅, modes⟩
    | .suspend => ⟨∅, modes⟩
    | _ => ⟨self.suppressedKeys, modes⟩

def Niri.handleBind (effects : Effects) (self : Niri) (bind : Bind) : Niri :=
  match bind.cooldown with
  | none => self.doAction effects bind.action bind.allowWhenLocked
  | some _ =>
    if self.modes.locked ∧ ¬(bind.allowWhenLocked ∨ allowedWhenLocked bind.action) then self
    else if bind.key ∈ self.modes.bindCooldownTimers then self
    else
      let timers := bind.key :: self.modes.bindCooldownTimers
      Niri.doAction effects { self with modes.bindCooldownTimers := timers } bind.action
        bind.allowWhenLocked

/-! ### Binds -/

def findConfiguredBind (bindings : List Bind) (modKey : ModKey) (trigger : Trigger)
    (mods : ModifiersState) : Option Bind :=
  let modifiers := modifiersFromState mods
  let modifiers :=
    if modifiers.contains modKey.toModifiers then modifiers ||| .compositor else modifiers
  bindings.find? fun bind =>
    let bindModifiers := bind.key.modifiers
    let bindModifiers :=
      if bindModifiers.contains .compositor then bindModifiers ||| modKey.toModifiers
      else if bindModifiers.contains modKey.toModifiers then bindModifiers ||| .compositor
      else bindModifiers
    bind.key.trigger = trigger ∧ bindModifiers = modifiers

def findBind (bindings : List Bind) (modKey : ModKey) (modified : Keysym) (raw : Option Keysym)
    (mods : ModifiersState) (disablePowerKeyHandling : Bool) : Option Bind :=
  if Keysym.switchVt1 ≤ modified ∧ modified ≤ Keysym.switchVt12 then
    some (.hardcoded modified (.changeVt ((modified - Keysym.switchVt1 + 1 : ℕ) : ℤ)) true)
  else if modified = Keysym.powerOff ∧ ¬disablePowerKeyHandling then
    some (.hardcoded modified .suspend true)
  else
    raw.bind fun raw => findConfiguredBind bindings modKey (.keysym raw) mods

def allowedDuringScreenshot : Action → Bool
  | .quit _ | .changeVt _ | .suspend | .powerOffMonitors | .powerOnMonitors | .spawn _
  | .spawnSh _ | .moveColumnLeft | .moveColumnLeftOrToMonitorLeft | .moveColumnRight
  | .moveColumnRightOrToMonitorRight | .moveWindowUp | .moveWindowUpOrToWorkspaceUp
  | .moveWindowDown | .moveWindowDownOrToWorkspaceDown | .moveColumnToMonitorLeft
  | .moveColumnToMonitorRight | .moveColumnToMonitorUp | .moveColumnToMonitorDown
  | .moveColumnToMonitorPrevious | .moveColumnToMonitorNext | .moveColumnToMonitor _
  | .moveWindowToMonitorLeft | .moveWindowToMonitorRight | .moveWindowToMonitorUp
  | .moveWindowToMonitorDown | .moveWindowToMonitorPrevious | .moveWindowToMonitorNext
  | .moveWindowToMonitor _ | .setWindowWidth _ | .setWindowHeight _ | .setColumnWidth _ => true
  | _ => false

def makeBindsIter (modes : Modes) (mods : Modifiers) : List Bind :=
  let mru := modes.windowMruUi
  (if mru.isOpen then [] else modes.binds) ++
    (if modes.recentWindowsOn ∨ mru.isOpen then modes.recentWindowsBinds else []) ++
    (if mru.isOpen then mru.openedBindings mods else [])

def hardcodedOverviewBind (raw : Keysym) (mods : ModifiersState) : Option Bind :=
  if modifiersFromState mods ≠ 0 then none
  else if raw = .escape ∨ raw = .return_ then some (.hardcoded raw .toggleOverview false)
  else if raw = .left then some (.hardcoded raw .focusColumnLeft true)
  else if raw = .right then some (.hardcoded raw .focusColumnRight true)
  else if raw = .up then some (.hardcoded raw .focusWindowOrWorkspaceUp true)
  else if raw = .down then some (.hardcoded raw .focusWindowOrWorkspaceDown true)
  else none

/-! ### The filter -/

inductive FilterResult
  | forward
  | intercept (bind : Option Bind)
  deriving DecidableEq, Repr

/-- A key event, with the state of the keyboard after it. -/
structure KeyEvent where
  keyCode : Keycode
  pressed : Bool
  mods : ModifiersState
  modified : Keysym
  raw : Option Keysym
  deriving DecidableEq, Repr

/-- The bind of a key event: while the screenshot UI is open only a subset of the actions is
allowed, and its own keys are binds. -/
def finalBind (bindings : List Bind) (modKey : ModKey) (event : KeyEvent)
    (screenshotUi : ScreenshotUi) (disablePowerKeyHandling : Bool) : Option Bind :=
  let bind := findBind bindings modKey event.modified event.raw event.mods disablePowerKeyHandling
  if screenshotUi.isOpen ∧ ¬bind.any fun bind => allowedDuringScreenshot bind.action then
    match event.raw with
    | some raw => (screenshotUi.action raw event.mods).map fun action => .hardcoded raw action true
    | none => bind
  else bind

/-- `should_intercept_key`: the result, and the suppressed keys. -/
def shouldInterceptKey (suppressedKeys : Finset Keycode) (bindings : List Bind) (modKey : ModKey)
    (event : KeyEvent) (screenshotUi : ScreenshotUi) (disablePowerKeyHandling : Bool)
    (isInhibitingShortcuts : Bool) : FilterResult × Finset Keycode :=
  if ¬event.pressed ∧ event.keyCode ∉ suppressedKeys then (.forward, suppressedKeys)
  else
    match finalBind bindings modKey event screenshotUi disablePowerKeyHandling, event.pressed with
    | some bind, true =>
      if isInhibitingShortcuts ∧ bind.allowInhibiting then (.forward, suppressedKeys)
      else (.intercept (some bind), insert event.keyCode suppressedKeys)
    | _, false => (.intercept none, suppressedKeys.erase event.keyCode)
    | none, true => (.forward, suppressedKeys)

namespace Niri

/-- The press is not sent to any client. -/
def suppress (self : Niri) (keyCode : Keycode) : Niri :=
  { self with suppressedKeys := insert keyCode self.suppressedKeys }

/-- The release is intercepted if the press was. -/
def release (self : Niri) (keyCode : Keycode) : FilterResult × Niri :=
  if keyCode ∈ self.suppressedKeys then
    (.intercept none, { self with suppressedKeys := self.suppressedKeys.erase keyCode })
  else (.forward, self)

/-- A key in the modal resize mode. -/
def resizeModeKey (effects : Effects) (self : Niri) (raw : Option Keysym) : Niri :=
  if raw = some Keysym.h ∨ raw = some Keysym.H then
    self.doAction effects (.nudgeMasterRatio (-(5 / 100))) false
  else if raw = some Keysym.l ∨ raw = some Keysym.L then
    self.doAction effects (.nudgeMasterRatio (5 / 100)) false
  else if raw = some Keysym.escape then { self with modes.resizeMode := false }
  else self

/-- The filter of `on_keyboard`. -/
def filter (effects : Effects) (self : Niri) (event : KeyEvent) (modKey : ModKey)
    (isInhibitingShortcuts : Bool) : FilterResult × Niri :=
  let modifiers := modifiersFromState event.mods
  if self.modes.exitConfirmDialogOpen ∧ event.pressed then
    let self := if event.raw = some Keysym.return_ then { self with modes.stopped := true } else self
    (.intercept none, self.suppress event.keyCode)
  else if self.modes.resizeMode then
    if event.pressed then
      (.intercept none, (self.suppress event.keyCode).resizeModeKey effects event.raw)
    else self.release event.keyCode
  else if self.modes.windowMruUi.isOpen ∧ ¬event.pressed ∧ modifiers = 0 then
    (self.doAction effects .mruConfirm false).release event.keyCode
  else if event.pressed ∧ event.raw = some Keysym.escape ∧
      self.modes.pointerGrab.any PointerGrab.canBeCancelledWithEsc then
    (.intercept none, Niri.suppress { self with modes := effects.unsetGrab self.modes } event.keyCode)
  else
    let screenshotUi :=
      if event.raw = some Keysym.space then self.modes.screenshotUi.setSpaceDown event.pressed
      else self.modes.screenshotUi
    let modes := { self.modes with screenshotUi := screenshotUi }
    let (res, suppressedKeys) := shouldInterceptKey self.suppressedKeys
      (makeBindsIter modes modifiers) modKey event modes.screenshotUi
      modes.disablePowerKeyHandling isInhibitingShortcuts
    let self : Niri := ⟨suppressedKeys, modes⟩
    match res with
    | .forward =>
      let bind := if self.modes.overviewFocused ∧ event.pressed
        then event.raw.bind fun raw => hardcodedOverviewBind raw event.mods else none
      match bind with
      | some bind => (.intercept (some bind), self.suppress event.keyCode)
      | none => (.forward, { self with modes := effects.mruApplyKeyboardCommit self.modes })
    | res => (res, self)

/-- A key event, without the repeats that it starts and stops: whether it was forwarded,
and the bind that it triggers. -/
def onKeyboard (effects : Effects) (self : Niri) (event : KeyEvent) :
    FilterResult × Option Bind × Niri :=
  let (res, self) := self.filter effects event self.modes.modKey self.modes.inhibitingShortcuts
  match res with
  | .intercept (some bind) =>
    if event.pressed then (res, some bind, self.handleBind effects bind) else (res, none, self)
  | res => (res, none, self)

end Niri

end Sol.Input
