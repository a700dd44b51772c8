import Sol.EventLoop
import Sol.Machine

/-!
# Redrawing outputs, and locking the session

Each output has a redraw state, which says whether a redraw is queued and what the output
waits for.  A redraw hands a frame to the kernel, which answers with a vblank; where there
is nothing to show, or showing it failed, a timer stands in for the vblank.

A lock request waits for the lock surfaces, or for a deadline, and then for a locked frame
on every output; the client is told that the session is locked only after that.

Times are in nanoseconds.  The number of a callback's sequence, the DRM sequence and the
presentation feedback are left out: nothing here depends on them.
-/

namespace Sol.Redraw

open Panicking

abbrev Output := ℕ

abbrev Token := ℕ

/-- The sources that the event loop has for the outputs. -/
inductive Source
  | lockDeadline
  | estimatedVblank (output : Output)
  | throttledVblank (output : Output)
  deriving DecidableEq, Repr

/-! ### The redraw state -/

inductive RedrawState
  | idle
  | queued
  | waitingForVBlank (redrawNeeded : Bool)
  | waitingForEstimatedVBlank (token : Token)
  | waitingForEstimatedVBlankAndQueued (token : Token)
  deriving DecidableEq, Repr

namespace RedrawState

def queueRedraw : RedrawState → RedrawState
  | idle => queued
  | waitingForEstimatedVBlank token => waitingForEstimatedVBlankAndQueued token
  | waitingForVBlank _ => waitingForVBlank true
  | value => value

/-- What `redraw_queued_outputs` looks for, and `redraw` asserts. -/
def isQueued : RedrawState → Bool
  | queued => true
  | waitingForEstimatedVBlankAndQueued _ => true
  | _ => false

/-- The token of the timer that stands in for the vblank. -/
def token : RedrawState → Option Token
  | waitingForEstimatedVBlank token => some token
  | waitingForEstimatedVBlankAndQueued token => some token
  | _ => none

end RedrawState

structure VBlankThrottle where
  lastVblankTimestamp : Option ℕ
  throttleTimerToken : Option Token
  deriving DecidableEq, Repr

namespace VBlankThrottle

/-- The last vblank was less than half a frame ago. -/
def isEarly (self : VBlankThrottle) (refreshInterval : Option ℕ) (timestamp : ℕ) : Bool :=
  match self.lastVblankTimestamp, refreshInterval with
  | some last, some refresh => timestamp - last < refresh / 2
  | _, _ => false

def removeTimer (self : VBlankThrottle) (loop : EventLoop Source) : EventLoop Source :=
  match self.throttleTimerToken with
  | some token => loop.remove token
  | none => loop

/-- Whether the vblank came too early; if so, it is delivered again later. -/
def throttle (self : VBlankThrottle) (loop : EventLoop Source) (output : Output)
    (refreshInterval : Option ℕ) (timestamp : ℕ) : Bool × VBlankThrottle × EventLoop Source :=
  let loop := self.removeTimer loop
  if self.isEarly refreshInterval timestamp then
    let (token, loop) := loop.insertSource (.throttledVblank output)
    (true, ⟨self.lastVblankTimestamp, some token⟩, loop)
  else (false, ⟨some timestamp, none⟩, loop)

end VBlankThrottle

/-! ### Frames -/

inductive RenderTarget
  | output
  | screencast
  | screenCapture
  deriving DecidableEq, Repr

/-- A lock surface, and whether its client has committed a buffer to it. -/
structure LockSurface where
  client : ℕ
  isMapped : Bool
  deriving DecidableEq, Repr

/-- What a frame is put together from; the contents of the session are numbered. -/
inductive Element
  | pointer
  /-- The texture that was captured from a frame. -/
  | screenTransition (frame : List Element) (alpha : ℚ)
  | exitConfirmDialog
  | configErrorNotification
  | lockSurface (surface : LockSurface)
  | lockColor
  | screenshotUi
  | backdrop
  | session (content : ℕ)

structure ScreenTransition where
  fromTexture : RenderTarget → List Element
  startAt : ℕ

namespace ScreenTransition

def DELAY : ℕ := 250000000

def DURATION : ℕ := 500000000

/-- The delay of the action, which may be left out. -/
def delay (delayMs : Option ℕ) : ℕ :=
  match delayMs with
  | some ms => ms * 1000000
  | none => DELAY

def isDone (self : ScreenTransition) (now : ℕ) : Bool := self.startAt + DURATION ≤ now

def render (self : ScreenTransition) (target : RenderTarget) (now : ℕ) : Element :=
  let alpha : ℚ :=
    if self.startAt + DURATION ≤ now then 0
    else if self.startAt ≤ now then 1 - (now - self.startAt : ℕ) / DURATION
    else 1
  .screenTransition (self.fromTexture target) alpha

end ScreenTransition

/-! ### The state -/

inductive LockRenderState
  | unlocked
  | locked
  deriving DecidableEq, Repr

structure OutputState where
  redrawState : RedrawState
  refreshInterval : Option ℕ
  unfinishedAnimationsRemain : Bool
  vblankThrottle : VBlankThrottle
  lockRenderState : LockRenderState
  lockSurface : Option LockSurface
  screenTransition : Option ScreenTransition
  /-- A redraw was requested since the last one began.  The source has no such field. -/
  requested : Bool

/-- A lock request, which is answered with `lock` or dropped. -/
structure SessionLocker where
  id : ℕ
  client : ℕ
  deriving DecidableEq, Repr

inductive LockState
  | unlocked
  | waitingForSurfaces (confirmation : SessionLocker) (deadlineToken : Token)
  | locking (confirmation : SessionLocker)
  | locked (lock : SessionLocker)
  deriving DecidableEq, Repr

/-- What is shown besides the outputs' own state. -/
structure Ui where
  pointerVisible : Bool
  exitConfirmDialogOpen : Bool
  configErrorNotification : Bool
  screenshotUiOpen : Bool
  mruOutput : Option Output
  previewRender : Option RenderTarget
  /-- The windows, the layers, the overview and all else of an unlocked session. -/
  content : Output → RenderTarget → List ℕ

structure Niri where
  outputs : List (Output × OutputState)
  lockState : LockState
  monitorsActive : Bool
  loop : EventLoop Source
  clock : ℕ
  ui : Ui
  /-- The requests so far. -/
  requests : ℕ
  /-- The requests whose client was told that the session is locked, the last first. -/
  confirmed : List SessionLocker

def OutputState.queueRedraw (self : OutputState) : OutputState :=
  { self with redrawState := self.redrawState.queueRedraw, requested := true }

namespace Niri

def setOutput (self : Niri) (output : Output) (state : OutputState) : Niri :=
  { self with outputs := Assoc.modify output (fun _ => state) self.outputs }

/-- Every output's state is updated. -/
def mapOutputs (self : Niri) (f : OutputState → OutputState) : Niri :=
  { self with outputs := self.outputs.map fun p => (p.1, f p.2) }

def queueRedrawAll (self : Niri) : Niri := self.mapOutputs OutputState.queueRedraw

def queueRedraw (self : Niri) (output : Output) : Outcome Niri :=
  match Assoc.get self.outputs output with
  | some state => .ok (self.setOutput output state.queueRedraw)
  | none => .error .unwrapNone

/-! ### The lock -/

def isLocked (self : Niri) : Bool :=
  match self.lockState with
  | .unlocked | .waitingForSurfaces _ _ => false
  | .locking _ | .locked _ => true

/-- The client is told that the session is locked. -/
def confirm (self : Niri) (confirmation : SessionLocker) : Niri :=
  { self with lockState := .locked confirmation, confirmed := confirmation :: self.confirmed }

def closeScreenshotUi (self : Niri) : Niri := { self with ui.screenshotUiOpen := false }

def cancelMru (self : Niri) : Niri :=
  if self.ui.mruOutput = none then self else { self.queueRedrawAll with ui.mruOutput := none }

def lock (self : Niri) (confirmation : SessionLocker) (isAlive : Bool) : Niri :=
  match self.lockState with
  | .waitingForSurfaces _ _ | .locking _ => self
  | .locked _ => if isAlive then self else self.confirm confirmation
  | .unlocked =>
    if self.outputs = [] then self.closeScreenshotUi.confirm confirmation
    else
      let (token, loop) := self.loop.insertSource .lockDeadline
      { self with loop := loop, lockState := .waitingForSurfaces confirmation token }

def continueToLocking (self : Niri) : Niri :=
  match self.lockState with
  | .waitingForSurfaces confirmation token =>
    let self := { self with loop := self.loop.remove token, lockState := .unlocked }
    let self := self.closeScreenshotUi.cancelMru
    if self.outputs = [] then self.confirm confirmation
    else { self with lockState := .locking confirmation }.queueRedrawAll
  | _ => self

def maybeContinueToLocking (self : Niri) : Niri :=
  match self.lockState with
  | .waitingForSurfaces _ _ =>
    if self.outputs.all fun p => p.2.lockSurface.any LockSurface.isMapped
    then self.continueToLocking
    else self
  | _ => self

def unlock (self : Niri) : Niri :=
  let loop := match self.lockState with
    | .waitingForSurfaces _ token => self.loop.remove token
    | _ => self.loop
  let self := { self with loop := loop, lockState := .unlocked }
  (self.mapOutputs fun state => { state with lockSurface := none }).queueRedrawAll

def newLockSurface (self : Niri) (client : ℕ) (output : Output) : Niri :=
  let lock? := match self.lockState with
    | .unlocked => none
    | .waitingForSurfaces confirmation _ => some confirmation
    | .locking confirmation => some confirmation
    | .locked lock => some lock
  match lock?, Assoc.get self.outputs output with
  | some lock, some state =>
    if lock.client = client
    then self.setOutput output { state with lockSurface := some ⟨client, false⟩ }
    else self
  | _, _ => self

/-- A commit to the lock surface of an output, with a buffer or without. -/
def commitLockSurface (self : Niri) (output : Output) (isMapped : Bool) : Outcome Niri :=
  match Assoc.get self.outputs output with
  | some state =>
    match state.lockSurface with
    | some surface =>
      let self := self.setOutput output { state with lockSurface := some { surface with isMapped } }
      match self.lockState with
      | .waitingForSurfaces _ _ => .ok self.maybeContinueToLocking
      | _ => self.queueRedraw output
    | none => .ok self
  | none => .ok self

/-! ### Outputs and monitors -/

/-- What `reposition_outputs` does to the redraw states: the outputs that moved are redrawn. -/
def repositionOutputs (self : Niri) (moved : List Output) : Outcome Niri :=
  moved.foldlM queueRedraw self

def addOutput (self : Niri) (output : Output) (refreshInterval : Option ℕ) (moved : List Output) :
    Outcome Niri :=
  let state : OutputState := {
    redrawState := .idle
    refreshInterval
    unfinishedAnimationsRemain := false
    vblankThrottle := ⟨none, none⟩
    -- nothing was rendered yet, so it is as good as locked
    lockRenderState := if self.isLocked then .locked else .unlocked
    lockSurface := none
    screenTransition := none
    requested := false }
  match Assoc.get self.outputs output with
  | none =>
    { self with outputs := self.outputs ++ [(output, state)] }.repositionOutputs moved
  | some _ => .error .assertionFailed

def allLocked (self : Niri) : Bool := self.outputs.all fun p => p.2.lockRenderState = .locked

/-- The lock once an output is gone. -/
def outputRemoved (self : Niri) : Niri :=
  match self.lockState with
  | .locking confirmation => if self.allLocked then self.confirm confirmation else self
  | _ => self.maybeContinueToLocking

def removeOutput (self : Niri) (output : Output) (moved : List Output) : Outcome Niri := do
  let self ← self.repositionOutputs moved
  match Assoc.get self.outputs output with
  | none => .error .unwrapNone
  | some state =>
    let loop := match state.redrawState.token with
      | some token => self.loop.remove token
      | none => self.loop
    let self := { self with loop := loop, outputs := Assoc.remove output self.outputs }
    let self := self.outputRemoved
    let self := if self.ui.screenshotUiOpen then self.closeScreenshotUi.queueRedrawAll else self
    .ok (if self.ui.mruOutput = some output then self.cancelMru else self)

def deactivateMonitors (self : Niri) : Niri := { self with monitorsActive := false }

def activateMonitors (self : Niri) : Niri :=
  if self.monitorsActive then self else { self with monitorsActive := true }.queueRedrawAll

end Niri

/-! ### Redrawing -/

inductive RenderResult
  | submitted
  | noDamage
  | skipped
  deriving DecidableEq, Repr

/-- How rendering on the TTY goes. -/
inductive RenderOutcome
  /-- No device or surface, another VT, or no renderer. -/
  | unavailable
  /-- Rendering the frame failed, or queueing it. -/
  | failed
  | noDamage
  | submitted
  deriving DecidableEq, Repr

def queueEstimatedVblankTimer (output : Output) (state : OutputState) (loop : EventLoop Source) :
    Outcome (OutputState × EventLoop Source) :=
  match state.redrawState with
  | .idle | .waitingForVBlank _ => .error .unreachableCode
  | .waitingForEstimatedVBlank token | .waitingForEstimatedVBlankAndQueued token =>
    .ok ({ state with redrawState := .waitingForEstimatedVBlank token }, loop)
  | .queued =>
    let (token, loop) := loop.insertSource (.estimatedVblank output)
    .ok ({ state with redrawState := .waitingForEstimatedVBlank token }, loop)

/-- `Tty::render`. -/
def render (output : Output) (state : OutputState) (loop : EventLoop Source) :
    RenderOutcome → Outcome (RenderResult × OutputState × EventLoop Source)
  | .unavailable => .ok (.skipped, state, loop)
  | .failed => do
    let (state, loop) ← queueEstimatedVblankTimer output state loop
    .ok (.skipped, state, loop)
  | .noDamage => do
    let (state, loop) ← queueEstimatedVblankTimer output state loop
    .ok (.noDamage, state, loop)
  | .submitted =>
    let newState := { state with redrawState := .waitingForVBlank false }
    match state.redrawState with
    | .idle | .waitingForVBlank _ | .waitingForEstimatedVBlank _ => .error .unreachableCode
    | .queued => .ok (.submitted, newState, loop)
    | .waitingForEstimatedVBlankAndQueued token => .ok (.submitted, newState, loop.remove token)

/-- What `redraw` makes of the result. -/
def OutputState.rendered (self : OutputState) (res : RenderResult) (monitorsActive isLocked : Bool) :
    OutputState :=
  let self := if res = .skipped then
      { self with redrawState := match self.redrawState.token with
          | some token => .waitingForEstimatedVBlank token
          | none => .idle }
    else self
  if res ≠ .skipped ∨ ¬monitorsActive then
    { self with lockRenderState := if isLocked then .locked else .unlocked }
  else self

namespace Niri

/-- The lock once an output was redrawn. -/
def outputRedrawn (self : Niri) (state : OutputState) : Niri :=
  match self.lockState with
  | .locking confirmation =>
    -- a locked frame was needed on this output
    if state.lockRenderState = .unlocked then { self with lockState := .unlocked }.unlock
    else if self.allLocked then self.confirm confirmation
    else self
  | _ => self

def redraw (self : Niri) (output : Output) (outcome : RenderOutcome) (animationsOngoing : Bool) :
    Outcome Niri := do
  let state ← unwrap (Assoc.get self.outputs output)
  assert (state.redrawState.isQueued = true)
  let state := { state with requested := false }
  let (res, state, loop) ← if self.monitorsActive then
      render output { state with
        unfinishedAnimationsRemain := animationsOngoing || state.screenTransition.isSome }
        self.loop outcome
    else .ok (.skipped, state, self.loop)
  let state := state.rendered res self.monitorsActive self.isLocked
  .ok (({ self with loop := loop }.setOutput output state).outputRedrawn state)

/-! ### VBlanks -/

/-- A vblank, also one that nobody waits for. -/
def onVblank (self : Niri) (output : Output) (time : ℕ) : Niri :=
  match Assoc.get self.outputs output with
  | none => self
  | some state =>
    let (throttled, throttle, loop) :=
      state.vblankThrottle.throttle self.loop output state.refreshInterval time
    let state := { state with vblankThrottle := throttle }
    let self := { self with loop := loop }
    if throttled then self.setOutput output state
    else
      let redrawNeeded := match state.redrawState with
        | .waitingForVBlank redrawNeeded => redrawNeeded
        | _ => true
      let state := { state with redrawState := .idle }
      if redrawNeeded || state.unfinishedAnimationsRemain
      then self.setOutput output state.queueRedraw
      else self.setOutput output state

def onEstimatedVblankTimer (self : Niri) (output : Output) : Outcome Niri :=
  match Assoc.get self.outputs output with
  | none => .ok self
  | some state =>
    match state.redrawState with
    | .idle | .queued | .waitingForVBlank _ => .error .unreachableCode
    | .waitingForEstimatedVBlankAndQueued _ =>
      .ok (self.setOutput output { state with redrawState := .queued })
    | .waitingForEstimatedVBlank _ =>
      let state := { state with redrawState := .idle }
      if state.unfinishedAnimationsRemain then .ok (self.setOutput output state.queueRedraw)
      else .ok (self.setOutput output state)

def onTimer (self : Niri) (token : Token) (time : ℕ) : Outcome Niri :=
  match self.loop.source token with
  | none => .ok self
  | some .lockDeadline => .ok self.continueToLocking
  | some (.estimatedVblank output) => self.onEstimatedVblankTimer output
  | some (.throttledVblank output) => .ok (self.onVblank output time)

/-- A source fires, and is dropped. -/
def fire (self : Niri) (token : Token) (time : ℕ) : Outcome Niri := do
  let self ← self.onTimer token time
  .ok { self with loop := self.loop.remove token }

/-! ### What is rendered -/

def renderInner (self : Niri) (output : Output) (state : OutputState) (target : RenderTarget)
    (includePointer : Bool) : List Element :=
  (if includePointer ∧ self.ui.pointerVisible then [.pointer] else []) ++
  (match state.screenTransition with
    | some transition => [transition.render target self.clock]
    | none => []) ++
  (if self.ui.exitConfirmDialogOpen then [.exitConfirmDialog] else []) ++
  (if self.ui.configErrorNotification then [.configErrorNotification] else []) ++
  if self.isLocked then
    (match state.lockSurface with
      | some surface => [.lockSurface surface]
      | none => []) ++ [.lockColor]
  else if self.ui.screenshotUiOpen then [.screenshotUi, .backdrop]
  else (self.ui.content output target).map .session ++ [.backdrop]

/-- `Niri::render`. -/
def renderOutput (self : Niri) (output : Output) (state : OutputState) (target : RenderTarget)
    (includePointer : Bool) : List Element :=
  let target := if target = .output then self.ui.previewRender.getD target else target
  self.renderInner output state target includePointer

/-- The textures of an output are captured for each target, or there was an error. -/
def doScreenTransition (self : Niri) (failed : List Output) (delayMs : Option ℕ) : Niri :=
  { self with outputs := self.outputs.map fun p =>
      if p.1 ∈ failed then p
      else (p.1, { p.2 with screenTransition := some {
        fromTexture := fun target => self.renderOutput p.1 p.2 target false
        startAt := self.clock + ScreenTransition.delay delayMs } }) }

def advanceAnimations (self : Niri) : Niri :=
  self.mapOutputs fun state =>
    if state.screenTransition.any fun transition => transition.isDone self.clock
    then { state with screenTransition := none }
    else state

/-! ### Runs -/

inductive Step
  | lock (client : ℕ) (isAlive : Bool)
  | newLockSurface (client : ℕ) (output : Output)
  | commitLockSurface (output : Output) (isMapped : Bool)
  | unlock
  | fire (token : Token) (time : ℕ)
  | redraw (output : Output) (outcome : RenderOutcome) (animationsOngoing : Bool)
  | vblank (output : Output) (time : ℕ)
  | queueRedraw (output : Output)
  | queueRedrawAll
  | deactivateMonitors
  | activateMonitors
  | addOutput (output : Output) (refreshInterval : Option ℕ) (moved : List Output)
  | removeOutput (output : Output) (moved : List Output)
  | doScreenTransition (failed : List Output) (delayMs : Option ℕ)
  | advanceAnimations (clock : ℕ)
  /-- The screenshot UI, the recent windows, the overview or anything else changes. -/
  | ui (ui : Ui)

def step (self : Niri) : Step → Outcome Niri
  | .lock client isAlive =>
    .ok (({ self with requests := self.requests + 1 }).lock ⟨self.requests, client⟩ isAlive)
  | .newLockSurface client output => .ok (self.newLockSurface client output)
  | .commitLockSurface output isMapped => self.commitLockSurface output isMapped
  | .unlock => .ok self.unlock.activateMonitors
  | .fire token time => self.fire token time
  | .redraw output outcome animationsOngoing => self.redraw output outcome animationsOngoing
  | .vblank output time => .ok (self.onVblank output time)
  | .queueRedraw output => self.queueRedraw output
  | .queueRedrawAll => .ok self.queueRedrawAll
  | .deactivateMonitors => .ok self.deactivateMonitors
  | .activateMonitors => .ok self.activateMonitors
  | .addOutput output refreshInterval moved => self.addOutput output refreshInterval moved
  | .removeOutput output moved => self.removeOutput output moved
  -- the action is refused while the session is locked
  | .doScreenTransition failed delayMs =>
    .ok (if self.isLocked then self else self.doScreenTransition failed delayMs)
  | .advanceAnimations clock => .ok ({ self with clock := clock }).advanceAnimations
  | .ui ui => .ok { self with ui := ui }

end Niri

def machine : Machine Niri Niri.Step where
  initial self := self.outputs = [] ∧ self.lockState = .unlocked ∧ self.loop.sources = [] ∧
    self.requests = 0 ∧ self.confirmed = []
  step := Niri.step

end Sol.Redraw
