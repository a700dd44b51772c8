import Sol.Machine
import Sol.Vec
import Mathlib.Data.Finset.Basic

/-!
# Screencasts

Casts of windows and outputs, and dynamic casts, whose target is set while they run.  A dynamic
cast is started once there is a target for it.  When a target goes away, its casts are stopped,
but for the dynamic ones, which are switched to `nothing` in an idle callback.

The streams, the sizes and the rendering are left out; what may fail in them is an argument
(`Outcomes`), and so is what D-Bus is told.  `target` of the state is not in the code: it is the
target that was set last for the dynamic casts, or `nothing` once that one has gone away.
-/

namespace Sol.Screencasting

open Panicking

abbrev SessionId := ℕ

abbrev StreamId := ℕ

abbrev Output := ℕ

abbrev WindowId := ℕ

inductive CastTarget
  | nothing
  | output (output : Output)
  | window (id : WindowId)
  deriving DecidableEq, Repr

structure Cast where
  sessionId : SessionId
  streamId : StreamId
  target : CastTarget
  dynamicTarget : Bool
  refresh : ℕ
  deriving DecidableEq, Repr

/-- A dynamic cast that waits for its first target. -/
structure PendingCast where
  sessionId : SessionId
  streamId : StreamId
  deriving DecidableEq, Repr

/-- What fails outside. -/
structure Outcomes where
  /-- No GBM device, or no PipeWire. -/
  prepareFails : Bool
  startFails : StreamId → Bool
  /-- The update of the parameters for a new refresh rate. -/
  updateFails : StreamId → Bool
  /-- The update of the parameters for a new size. -/
  sizeFails : StreamId → Bool

structure State where
  casts : List Cast
  pendingDynamicCasts : List PendingCast
  /-- The windows of the layout. -/
  windows : List WindowId
  mappedCastOutput : WindowId → Option Output
  outputs : Finset Output
  /-- The refresh rate of the current mode. -/
  refresh : Output → ℕ
  /-- The callbacks that are queued for when the event loop is idle. -/
  idle : ℕ
  target : CastTarget

/-- `Cast::set_refresh`: the cast, and whether it went well. -/
def Cast.setRefresh (self : Cast) (refresh : ℕ) (fails : StreamId → Bool) : Cast × Bool :=
  if self.refresh = refresh then (self, true)
  else ({ self with refresh }, !fails self.streamId)

/-- The new target for one of the casts, and whether it is to be redrawn.  The sessions of the
others are collected, but not used. -/
def Cast.setDynamicTarget (self : Cast) (target : CastTarget) (refresh : Option ℕ)
    (fails : StreamId → Bool) : Cast × Bool :=
  if ¬self.dynamicTarget then (self, false)
  else
    match refresh with
    | none => ({ self with target }, true)
    | some refresh =>
      let updated := self.setRefresh refresh fails
      if updated.2 then ({ updated.1 with target }, true) else (updated.1, false)

namespace State

/-- The sessions of all casts are looked at from the last to the first: a removal moves only
those that stay. -/
def stopCast (self : State) (sessionId : SessionId) : Outcome State := do
  let places := Vec.indices (fun cast => cast.sessionId = sessionId) self.casts
  let casts ← places.reverse.foldlM Vec.swapRemove self.casts
  .ok { self with
    casts
    pendingDynamicCasts := self.pendingDynamicCasts.filter fun p => p.sessionId ≠ sessionId }

def stopAll (self : State) (sessionIds : List SessionId) : Outcome State :=
  sessionIds.foldlM stopCast self

/-- The output of a window that may be cast. -/
def castOutput (self : State) (id : WindowId) : Option Output :=
  if id ∈ self.windows then self.mappedCastOutput id else none

/-- The refresh rate for a target; a weak output is upgraded while there is the output. -/
def targetRefresh (self : State) : CastTarget → Option ℕ
  | .nothing => none
  | .output output => if output ∈ self.outputs then some (self.refresh output) else none
  | .window id => (self.castOutput id).map self.refresh

def redrawCast (self : State) (streamId : StreamId) (outcomes : Outcomes) : Outcome State :=
  match self.casts.find? fun cast => cast.streamId = streamId with
  | none => .ok self
  | some cast =>
    match cast.target with
    | .nothing => .ok self
    | .output _ => .ok self
    | .window id =>
      if (self.castOutput id).isSome ∧ outcomes.sizeFails streamId then
        self.stopCast cast.sessionId
      else .ok self

def startPendingDynamicCasts (self : State) (target : CastTarget) (outcomes : Outcomes) :
    Outcome State :=
  if self.pendingDynamicCasts = [] then .ok self
  else
    match target with
    | .nothing => .error (.explicitPanic "dynamic cast starting target must not be Nothing")
    | _ =>
      match self.targetRefresh target with
      | none => .ok self
      | some refresh =>
        let pending := self.pendingDynamicCasts
        let self := { self with pendingDynamicCasts := [] }
        if outcomes.prepareFails then self.stopAll (pending.map PendingCast.sessionId).dedup
        else
          let started := pending.filter fun p => !outcomes.startFails p.streamId
          let failed := pending.filter fun p => outcomes.startFails p.streamId
          let casts := started.map fun p => ⟨p.sessionId, p.streamId, target, true, refresh⟩
          { self with casts := self.casts ++ casts }.stopAll
            (failed.map PendingCast.sessionId).dedup

def setDynamicCastTarget (self : State) (target : CastTarget) (outcomes : Outcomes) :
    Outcome State := do
  let refresh := self.targetRefresh target
  let updated := self.casts.map fun cast =>
    cast.setDynamicTarget target refresh outcomes.updateFails
  let toRedraw := (updated.filter Prod.snd).map fun u => u.1.streamId
  let self := { self with casts := updated.map Prod.fst }
  let self ← toRedraw.foldlM (fun self streamId => self.redrawCast streamId outcomes) self
  if target ≠ .nothing then self.startPendingDynamicCasts target outcomes else .ok self

/-- The dynamic casts are not stopped: they are switched to `nothing` later. -/
def stopCastsForTarget (self : State) (target : CastTarget) : Outcome State := do
  let casts := self.casts.filter fun cast => cast.target = target
  let ids := (casts.filter fun cast => !cast.dynamicTarget).map Cast.sessionId
  let self ← self.stopAll ids
  .ok (if casts.any Cast.dynamicTarget then { self with idle := self.idle + 1 } else self)

/-- The refresh rate of the casts of a window that has another output now; the casts, and the
sessions to stop. -/
def changeOutput (self : State) (id : WindowId) (output : Output) (fails : StreamId → Bool) :
    State × List SessionId :=
  let updated := self.casts.map fun cast =>
    if cast.target = .window id then cast.setRefresh (self.refresh output) fails else (cast, true)
  ({ self with casts := updated.map Prod.fst },
    (updated.filter fun u => !u.2).map fun u => u.1.sessionId)

def changeOutputs (self : State) (changed : List (WindowId × Output)) (fails : StreamId → Bool) :
    State × List SessionId :=
  changed.foldl (fun (self, toStop) (id, output) =>
    let (self, ids) := self.changeOutput id output fails
    (self, toStop ++ ids)) (self, [])

def refreshMappedCastOutputs (self : State) (outputOf : WindowId → Option Output)
    (outcomes : Outcomes) : Outcome State :=
  let changed := self.windows.filterMap fun id =>
    match self.mappedCastOutput id, outputOf id with
    | some old, some output => if old ≠ output then some (id, output) else none
    | _, _ => none
  let mappedCastOutput := fun id =>
    if id ∈ self.windows then (outputOf id).or (self.mappedCastOutput id) else none
  let (self, toStop) :=
    { self with mappedCastOutput }.changeOutputs changed outcomes.updateFails
  self.stopAll toStop

/-! ### Messages, actions and events -/

/-- What a cast is requested of. -/
inductive StreamTargetId
  | output (output : Output)
  | window (id : WindowId)
  /-- The special window of the portal. -/
  | dynamic
  deriving DecidableEq, Repr

def startCast (self : State) (sessionId : SessionId) (streamId : StreamId)
    (target : StreamTargetId) (outcomes : Outcomes) : Outcome State :=
  let start (target : CastTarget) : Outcome State :=
    match self.targetRefresh target with
    | none => self.stopCast sessionId
    | some refresh =>
      if outcomes.prepareFails ∨ outcomes.startFails streamId then self.stopCast sessionId
      else .ok { self with
        casts := self.casts ++ [⟨sessionId, streamId, target, false, refresh⟩] }
  match target with
  | .dynamic => .ok { self with
      pendingDynamicCasts := self.pendingDynamicCasts ++ [⟨sessionId, streamId⟩] }
  | .output output => start (.output output)
  | .window id => start (.window id)

/-- PipeWire is gone. -/
def fatalError (self : State) : Outcome State :=
  self.stopAll (self.pendingDynamicCasts.map PendingCast.sessionId ++
    self.casts.map Cast.sessionId).dedup

/-- The target of the dynamic casts as an action sets it. -/
def setTarget (self : State) (target : CastTarget) (outcomes : Outcomes) : Outcome State :=
  { self with target }.setDynamicCastTarget target outcomes

def setDynamicCastWindowById (self : State) (id : WindowId) (outcomes : Outcomes) :
    Outcome State :=
  if id ∈ self.windows then self.setTarget (.window id) outcomes else .ok self

def setDynamicCastMonitor (self : State) (output : Output) (outcomes : Outcomes) :
    Outcome State :=
  if output ∈ self.outputs then self.setTarget (.output output) outcomes else .ok self

def clearDynamicCastTarget (self : State) (outcomes : Outcomes) : Outcome State :=
  self.setTarget .nothing outcomes

/-- One of the callbacks that `stopCastsForTarget` queued. -/
def runIdle (self : State) (outcomes : Outcomes) : Outcome State :=
  if self.idle = 0 then .ok self
  else { self with idle := self.idle - 1 }.setDynamicCastTarget .nothing outcomes

/-- The target has gone away. -/
def goneAway (self : State) (target : CastTarget) : State :=
  { self with target := if self.target = target then .nothing else self.target }

def closeWindow (self : State) (id : WindowId) : Outcome State :=
  if id ∈ self.windows then do
    let self ← (self.goneAway (.window id)).stopCastsForTarget (.window id)
    .ok { self with windows := self.windows.filter fun w => w ≠ id }
  else .ok self

def removeOutput (self : State) (output : Output) : Outcome State :=
  if output ∈ self.outputs then
    { self with outputs := self.outputs.erase output }.goneAway (.output output)
      |>.stopCastsForTarget (.output output)
  else .ok self

inductive Step
  /-- An output is connected, or has another mode. -/
  | addOutput (output : Output) (refresh : ℕ)
  | removeOutput (output : Output)
  | openWindow (id : WindowId)
  | closeWindow (id : WindowId)
  | refreshMappedCastOutputs (outputOf : WindowId → Option Output) (outcomes : Outcomes)
  | startCast (sessionId : SessionId) (streamId : StreamId) (target : StreamTargetId)
    (outcomes : Outcomes)
  | stopCast (sessionId : SessionId)
  | fatalError
  | redrawCast (streamId : StreamId) (outcomes : Outcomes)
  | setDynamicCastWindowById (id : WindowId) (outcomes : Outcomes)
  | setDynamicCastMonitor (output : Output) (outcomes : Outcomes)
  | clearDynamicCastTarget (outcomes : Outcomes)
  | runIdle (outcomes : Outcomes)

def step (self : State) : Step → Outcome State
  | .addOutput output refresh => .ok { self with
      outputs := insert output self.outputs
      refresh := Function.update self.refresh output refresh }
  | .removeOutput output => self.removeOutput output
  | .openWindow id => .ok { self with windows := self.windows ++ [id] }
  | .closeWindow id => self.closeWindow id
  | .refreshMappedCastOutputs outputOf outcomes => self.refreshMappedCastOutputs outputOf outcomes
  | .startCast sessionId streamId target outcomes =>
    self.startCast sessionId streamId target outcomes
  | .stopCast sessionId => self.stopCast sessionId
  | .fatalError => self.fatalError
  | .redrawCast streamId outcomes => self.redrawCast streamId outcomes
  | .setDynamicCastWindowById id outcomes => self.setDynamicCastWindowById id outcomes
  | .setDynamicCastMonitor output outcomes => self.setDynamicCastMonitor output outcomes
  | .clearDynamicCastTarget outcomes => self.clearDynamicCastTarget outcomes
  | .runIdle outcomes => self.runIdle outcomes

end State

def machine : Machine State State.Step where
  initial self := self.casts = [] ∧ self.pendingDynamicCasts = [] ∧ self.idle = 0 ∧
    self.target = .nothing
  step := State.step

end Sol.Screencasting
