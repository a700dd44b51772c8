import Sol.Assoc
import Sol.Machine
import Mathlib.Data.Finset.Basic

/-!
# Screen copies

A client captures frames through a manager, and copies each of them to a buffer once.  A copy
without damage is rendered at once; a copy with damage waits in the queue of the manager for a
redraw of its output that has some.  A frame is answered with `ready`, maybe after a sync point,
or with `failed`, at the latest when the copy is dropped.

An object of the protocol is not alive any more before its `destroyed` handler runs, which may
come late.  The buffer parameters, the damage tracker and the ids of the cast are left out, and
so is the rendering itself: its outcome is an argument.
-/

namespace Sol.ScreencopyManager

open Panicking

abbrev Client := ℕ

abbrev Manager := ℕ

abbrev Frame := ℕ

abbrev Output := ℕ

inductive Life
  | alive
  /-- Not alive, and the `destroyed` handler did not run yet. -/
  | dead
  | destroyed
  deriving DecidableEq, Repr

structure ScreencopyFrameInfo where
  output : Output
  width : ℤ
  height : ℤ
  deriving DecidableEq, Repr

inductive ScreencopyFrameState
  | failed
  | pending (manager : Manager) (info : ScreencopyFrameInfo) (copied : Bool)
  deriving DecidableEq, Repr

structure FrameObject where
  client : Client
  life : Life
  state : ScreencopyFrameState
  deriving DecidableEq, Repr

structure ManagerObject where
  client : Client
  life : Life
  deriving DecidableEq, Repr

/-- The buffer of a copy request. -/
inductive Buffer
  | dmabuf (isXrgb8888 : Bool) (width height : ℤ)
  | shm (isXrgb8888 : Bool) (width height stride len : ℤ)
  | other
  deriving DecidableEq, Repr

def Buffer.fits (self : Buffer) (info : ScreencopyFrameInfo) : Bool :=
  match self with
  | dmabuf isXrgb8888 width height => isXrgb8888 && width = info.width && height = info.height
  | shm isXrgb8888 width height stride len =>
    isXrgb8888 && width = info.width && height = info.height && stride = info.width * 4 &&
      len = stride * height
  | other => false

structure Screencopy where
  frame : Frame
  info : ScreencopyFrameInfo
  withDamage : Bool
  deriving DecidableEq, Repr

/-- What becomes of a copy that leaves its queue. -/
inductive Effect
  | ready (screencopy : Screencopy)
  /-- The copy is dropped before it was submitted. -/
  | failed (screencopy : Screencopy)
  /-- The copy is submitted by an event source of its sync point. -/
  | waits (screencopy : Screencopy)
  deriving DecidableEq, Repr

def submitAfterSync (screencopy : Screencopy) (sync : Bool) : Effect :=
  if sync then .waits screencopy else .ready screencopy

/-! ### The queue -/

def CAST_TIMEOUT : ℕ := 10000000000

structure ScreencopyCast where
  output : Output
  deadline : ℕ
  deriving DecidableEq, Repr

structure ScreencopyQueue where
  pendingFrames : Finset Frame
  screencopies : List Screencopy
  cast : Option ScreencopyCast
  deriving DecidableEq

namespace ScreencopyQueue

def new : ScreencopyQueue := ⟨∅, [], none⟩

def isEmpty (self : ScreencopyQueue) : Bool := self.pendingFrames = ∅ && self.screencopies = []

def push (self : ScreencopyQueue) (screencopy : Screencopy) (now : ℕ) : ScreencopyQueue where
  pendingFrames := self.pendingFrames
  screencopies := self.screencopies ++ [screencopy]
  cast := match self.cast with
    | some cast =>
      some (if self.screencopies = [] then { cast with output := screencopy.info.output } else cast)
    | none => some ⟨screencopy.info.output, now + CAST_TIMEOUT⟩

def pop (self : ScreencopyQueue) (now : ℕ) : Outcome (Screencopy × ScreencopyQueue) :=
  match self.screencopies with
  | [] => .error .indexOutOfBounds
  | first :: rest => do
    let cast ← unwrap self.cast
    let cast := match rest with
      | next :: _ => { cast with output := next.info.output }
      | [] => { cast with deadline := now + CAST_TIMEOUT }
    .ok (first, { self with screencopies := rest, cast := some cast })

def clearExpiredCast (self : ScreencopyQueue) (now : ℕ) : ScreencopyQueue :=
  if self.screencopies = [] ∧ self.cast.any fun cast => cast.deadline ≤ now
  then { self with cast := none }
  else self

/-- The queue with some of the copies, and the others, which are dropped. -/
def retain (self : ScreencopyQueue) (keep : Screencopy → Bool) (now : ℕ) :
    ScreencopyQueue × List Effect :=
  if self.screencopies = [] then (self, [])
  else
    let screencopies := self.screencopies.filter keep
    let cast := if screencopies = []
      then self.cast.map fun cast => { cast with deadline := now + CAST_TIMEOUT }
      else self.cast
    ({ self with screencopies, cast },
      (self.screencopies.filter fun screencopy => !keep screencopy).map .failed)

def removeOutput (self : ScreencopyQueue) (output : Output) (now : ℕ) :
    ScreencopyQueue × List Effect :=
  self.retain (fun screencopy => screencopy.info.output ≠ output) now

def removeFrame (self : ScreencopyQueue) (frame : Frame) (now : ℕ) :
    ScreencopyQueue × List Effect :=
  { self with pendingFrames := self.pendingFrames.erase frame }.retain
    (fun screencopy => screencopy.frame ≠ frame) now

end ScreencopyQueue

/-! ### The state -/

inductive Answer
  | ready
  | failed
  deriving DecidableEq, Repr

structure State where
  managers : Manager → Option ManagerObject
  frames : Frame → Option FrameObject
  queues : List (Manager × ScreencopyQueue)
  outputs : Finset Output
  /-- The copies that wait for their sync points. -/
  waiting : List Screencopy
  /-- The answers so far, the last first; also those to frames that are not alive any more. -/
  answers : List (Frame × Answer)
  now : ℕ

namespace State

def isAlive (self : State) (manager : Manager) : Bool :=
  match self.managers manager with
  | some object => object.life = .alive
  | none => false

def perform (self : State) : Effect → State
  | .ready screencopy => { self with answers := (screencopy.frame, .ready) :: self.answers }
  | .failed screencopy => { self with answers := (screencopy.frame, .failed) :: self.answers }
  | .waits screencopy => { self with waiting := screencopy :: self.waiting }

def performAll (self : State) (effects : List Effect) : State := effects.foldl perform self

def setQueue (self : State) (manager : Manager) (queue : ScreencopyQueue) : State :=
  { self with queues := Assoc.modify manager (fun _ => queue) self.queues }

def removeQueue (self : State) (manager : Manager) : State :=
  { self with queues := Assoc.remove manager self.queues }

/-- The queue is cleaned up if this was the last object. -/
def cleanUpQueue (self : State) (manager : Manager) (queue : ScreencopyQueue) : State :=
  if queue.isEmpty ∧ ¬self.isAlive manager then self.removeQueue manager
  else self.setQueue manager queue

def cleanupQueues (self : State) : State :=
  { self with queues := self.queues.filter fun p => self.isAlive p.1 || !p.2.isEmpty }

/-- The client is disconnected: none of its objects is alive, and the handlers will run. -/
def disconnect (self : State) (client : Client) : State :=
  { self with
    managers := fun m => (self.managers m).map fun object =>
      if object.client = client ∧ object.life = .alive then { object with life := .dead } else object
    frames := fun f => (self.frames f).map fun object =>
      if object.client = client ∧ object.life = .alive then { object with life := .dead }
      else object }

/-! ### Managers -/

def bind (self : State) (client : Client) (manager : Manager) : State :=
  match self.managers manager with
  | some _ => self
  | none =>
    { self with
      managers := Function.update self.managers manager (some ⟨client, .alive⟩)
      queues := self.queues ++ [(manager, .new)] }

/-- The requests of a manager; there is no frame info where the output does not exist or the
region is not on it. -/
def capture (self : State) (manager : Manager) (frame : Frame)
    (info? : Option ScreencopyFrameInfo) : Outcome State :=
  match self.managers manager, self.frames frame with
  | some ⟨client, .alive⟩, none =>
    match info? with
    | none =>
      .ok { self with
        frames := Function.update self.frames frame (some ⟨client, .alive, .failed⟩)
        answers := (frame, .failed) :: self.answers }
    | some info => do
      let self := { self with
        frames := Function.update self.frames frame
          (some ⟨client, .alive, .pending manager info false⟩) }
      let queue ← unwrap (Assoc.get self.queues manager)
      .ok (self.setQueue manager { queue with pendingFrames := insert frame queue.pendingFrames })
  | _, _ => .ok self

def destroyManager (self : State) (manager : Manager) : State :=
  match self.managers manager with
  | some ⟨client, .alive⟩ =>
    { self with managers := Function.update self.managers manager (some ⟨client, .dead⟩) }
  | _ => self

/-- `destroyed` of a manager. -/
def managerDestroyed (self : State) (manager : Manager) : State :=
  match self.managers manager with
  | some ⟨client, .dead⟩ =>
    let self := { self with
      managers := Function.update self.managers manager (some ⟨client, .destroyed⟩) }
    match Assoc.get self.queues manager with
    | none => self
    | some queue => if queue.isEmpty then self.removeQueue manager else self
  | _ => self

/-! ### Frames -/

/-- How rendering without damage goes. -/
inductive RenderOutcome
  | noRenderer
  | failed
  | rendered (sync : Bool)
  deriving DecidableEq, Repr

def push (self : State) (manager : Manager) (screencopy : Screencopy) : State :=
  match Assoc.get self.queues manager with
  | none => self.perform (.failed screencopy)
  | some queue => self.setQueue manager (queue.push screencopy self.now)

def renderWithoutDamage (self : State) (manager : Manager) (screencopy : Screencopy)
    (outcome : RenderOutcome) : State :=
  match outcome, Assoc.get self.queues manager with
  | .rendered sync, some _ => self.perform (submitAfterSync screencopy sync)
  | _, _ => self.perform (.failed screencopy)

/-- `ScreencopyHandler::frame`. -/
def frame (self : State) (manager : Manager) (screencopy : Screencopy) (outcome : RenderOutcome) :
    State :=
  if screencopy.info.output ∉ self.outputs then self.perform (.failed screencopy)
  else if screencopy.withDamage then self.push manager screencopy
  else self.renderWithoutDamage manager screencopy outcome

/-- The copy requests of a frame. -/
def copy (self : State) (frame : Frame) (buffer : Buffer) (withDamage : Bool)
    (outcome : RenderOutcome) : Outcome State :=
  match self.frames frame with
  | some ⟨client, .alive, .pending manager info copied⟩ =>
    -- both errors of the protocol disconnect the client
    if copied then .ok (self.disconnect client)
    else if ¬buffer.fits info then .ok (self.disconnect client)
    else do
      let self := { self with
        frames := Function.update self.frames frame
          (some ⟨client, .alive, .pending manager info true⟩) }
      let self := self.frame manager ⟨frame, info, withDamage⟩ outcome
      let queue ← unwrap (Assoc.get self.queues manager)
      .ok (self.cleanUpQueue manager
        { queue with pendingFrames := queue.pendingFrames.erase frame })
  | _ => .ok self

def destroyFrame (self : State) (frame : Frame) : State :=
  match self.frames frame with
  | some ⟨client, .alive, state⟩ =>
    { self with frames := Function.update self.frames frame (some ⟨client, .dead, state⟩) }
  | _ => self

/-- `destroyed` of a frame. -/
def frameDestroyed (self : State) (frame : Frame) : State :=
  match self.frames frame with
  | some ⟨client, .dead, state⟩ =>
    let self := { self with
      frames := Function.update self.frames frame (some ⟨client, .destroyed, state⟩) }
    match state with
    | .failed => self
    | .pending manager _ _ =>
      match Assoc.get self.queues manager with
      | none => self
      | some queue =>
        let (queue, effects) := queue.removeFrame frame self.now
        (self.performAll effects).cleanUpQueue manager queue
  | _ => self

/-- The sync point of a copy is reached. -/
def syncDone (self : State) (screencopy : Screencopy) : State :=
  if screencopy ∈ self.waiting then
    { self with waiting := self.waiting.erase screencopy }.perform (.ready screencopy)
  else self

/-! ### Outputs -/

/-- How a redraw goes for the first copy of a queue. -/
inductive RedrawOutcome
  | noDamage
  | failed
  | rendered (sync : Bool)
  deriving DecidableEq, Repr

def redrawQueue (output : Output) (now : ℕ) (queue : ScreencopyQueue) (outcome : RedrawOutcome) :
    Outcome (ScreencopyQueue × List Effect) :=
  match queue.screencopies with
  | [] => .ok (queue, [])
  | first :: _ =>
    if first.info.output ≠ output then .ok (queue, [])
    else
      match outcome with
      | .noDamage => .ok (queue, [])
      | .failed => do
        let (screencopy, queue) ← queue.pop now
        .ok (queue, [.failed screencopy])
      | .rendered sync => do
        let (screencopy, queue) ← queue.pop now
        .ok (queue, [submitAfterSync screencopy sync])

def redrawEntry (output : Output) (now : ℕ) (outcomes : Manager → RedrawOutcome)
    (p : Manager × ScreencopyQueue) : Outcome (Manager × ScreencopyQueue × List Effect) := do
  let (queue, effects) ← redrawQueue output now p.2 (outcomes p.1)
  .ok (p.1, queue, effects)

/-- The queues after a step of each, and what became of their copies; the queues without use
are cleaned up. -/
def withQueues (self : State) (results : List (Manager × ScreencopyQueue × List Effect)) : State :=
  let queues := results.map fun r => (r.1, r.2.1)
  let effects := results.flatMap fun r => r.2.2
  ({ self with queues := queues }.performAll effects).cleanupQueues

/-- The copies with damage, when an output is redrawn. -/
def redraw (self : State) (output : Output) (outcomes : Manager → RedrawOutcome) :
    Outcome State := do
  let results ← self.queues.mapM (redrawEntry output self.now outcomes)
  .ok (self.withQueues results)

def addOutput (self : State) (output : Output) : State :=
  { self with outputs := insert output self.outputs }

def removeOutput (self : State) (output : Output) : State :=
  let results := self.queues.map fun p => (p.1, p.2.removeOutput output self.now)
  { self with outputs := self.outputs.erase output }.withQueues results

def clearExpiredCasts (self : State) (now : ℕ) : State :=
  { self with
    now
    queues := self.queues.map fun p => (p.1, p.2.clearExpiredCast now) }

/-! ### Runs -/

inductive Step
  | bind (client : Client) (manager : Manager)
  | capture (manager : Manager) (frame : Frame) (info? : Option ScreencopyFrameInfo)
  | destroyManager (manager : Manager)
  | managerDestroyed (manager : Manager)
  | copy (frame : Frame) (buffer : Buffer) (withDamage : Bool) (outcome : RenderOutcome)
  | destroyFrame (frame : Frame)
  | frameDestroyed (frame : Frame)
  | disconnect (client : Client)
  | syncDone (screencopy : Screencopy)
  | redraw (output : Output) (outcomes : Manager → RedrawOutcome)
  | addOutput (output : Output)
  | removeOutput (output : Output)
  | clearExpiredCasts (now : ℕ)

def step (self : State) : Step → Outcome State
  | .bind client manager => .ok (self.bind client manager)
  | .capture manager frame info? => self.capture manager frame info?
  | .destroyManager manager => .ok (self.destroyManager manager)
  | .managerDestroyed manager => .ok (self.managerDestroyed manager)
  | .copy frame buffer withDamage outcome => self.copy frame buffer withDamage outcome
  | .destroyFrame frame => .ok (self.destroyFrame frame)
  | .frameDestroyed frame => .ok (self.frameDestroyed frame)
  | .disconnect client => .ok (self.disconnect client)
  | .syncDone screencopy => .ok (self.syncDone screencopy)
  | .redraw output outcomes => self.redraw output outcomes
  | .addOutput output => .ok (self.addOutput output)
  | .removeOutput output => .ok (self.removeOutput output)
  | .clearExpiredCasts now => .ok (self.clearExpiredCasts now)

end State

def machine : Machine State State.Step where
  initial self := (∀ m, self.managers m = none) ∧ (∀ f, self.frames f = none) ∧
    self.queues = [] ∧ self.waiting = [] ∧ self.answers = []
  step := State.step

end Sol.ScreencopyManager
