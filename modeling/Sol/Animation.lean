import Sol.Config

/-!
# Animations and gestures

Animations in exact arithmetic, driven by the layout's clock, and the two
helpers of touchpad gestures: the swipe tracker and the rubber band.
-/

namespace Sol

/-- The clock as one layout operation sees it: its time is fetched once and
kept until the event loop clears it. -/
structure Clock where
  now : Duration
  /-- The time before the adjustment of the rate. -/
  nowUnadjusted : Duration
  rate : ℚ
  completeInstantly : Bool
  deriving DecidableEq, Repr

structure Animation where
  /-- `from`. -/
  start : ℚ
  /-- `to`. -/
  target : ℚ
  initialVelocity : ℚ
  isOff : Bool
  duration : Duration
  /-- Time until the animation first reaches its target. -/
  clampedDuration : Duration
  startTime : Duration
  kind : AnimationKind

namespace Animation

/-- `Duration::from_millis`. -/
def ofMillis (ms : ℕ) : Duration := ms * 1000000

/-- The velocity is scaled by the rate of the clock. -/
def scaledVelocity (clock : Clock) (initialVelocity : ℚ) : ℚ :=
  initialVelocity / max clock.rate (1 / 1000)

def ease (clock : Clock) (start target initialVelocity : ℚ) (durationMs : ℕ) (curve : ℚ → ℚ) :
    Animation where
  start := start
  target := target
  initialVelocity := initialVelocity
  isOff := false
  duration := ofMillis durationMs
  clampedDuration := ofMillis durationMs
  startTime := clock.now
  kind := .easing durationMs curve

def spring (clock : Clock) (start target initialVelocity : ℚ) (shape : SpringShape) : Animation where
  start := start
  target := target
  initialVelocity := initialVelocity
  isOff := false
  duration := shape.duration start target initialVelocity
  clampedDuration := (shape.clampedDuration start target initialVelocity).getD
    (shape.duration start target initialVelocity)
  startTime := clock.now
  kind := .spring shape

/-- `Animation::new`. An animation that is off takes no time. -/
def new (clock : Clock) (start target initialVelocity : ℚ) (config : AnimationConfig) : Animation :=
  let velocity := scaledVelocity clock initialVelocity
  if config.off then
    { ease clock start target velocity 0 id with isOff := true }
  else match config.kind with
    | .easing durationMs curve => ease clock start target velocity durationMs curve
    | .spring shape => spring clock start target velocity shape

/-- Restarts the animation with its own configuration. A spring keeps the
velocity it was started with. -/
def restarted (self : Animation) (clock : Clock) (start target initialVelocity : ℚ) : Animation :=
  if self.isOff then self
  else match self.kind with
    | .easing _ curve =>
      ease clock start target (scaledVelocity clock initialVelocity) (self.duration / 1000000) curve
    | .spring shape => spring clock start target self.initialVelocity shape

def isDone (self : Animation) (clock : Clock) : Bool :=
  clock.completeInstantly || self.startTime + self.duration ≤ clock.now

def isClampedDone (self : Animation) (clock : Clock) : Bool :=
  clock.completeInstantly || self.startTime + self.clampedDuration ≤ clock.now

def valueAt (self : Animation) (clock : Clock) (at_ : Duration) : ℚ :=
  if at_ ≤ self.startTime then self.start
  else if self.startTime + self.duration ≤ at_ then self.target
  else if clock.completeInstantly then self.target
  else
    let passed := at_ - self.startTime
    match self.kind with
    | .easing _ curve =>
      let x := clamp 0 1 (passed.asSecsF64 / self.duration.asSecsF64)
      curve x * (self.target - self.start) + self.start
    | .spring shape =>
      let value := shape.valueAt self.start self.target self.initialVelocity passed
      let range := (self.target - self.start) * 10
      let a := self.start - range
      let b := self.target + range
      if self.start ≤ self.target then clamp a b value else clamp b a value

def value (self : Animation) (clock : Clock) : ℚ := self.valueAt clock clock.now

/-- A value that stops at the target after first reaching it. -/
def clampedValue (self : Animation) (clock : Clock) : ℚ :=
  if self.isClampedDone clock then self.target else self.value clock

def offset (self : Animation) (delta : ℚ) : Animation :=
  { self with start := self.start + delta, target := self.target + delta }

end Animation

/-! ### Swipe tracker -/

structure SwipeTracker.Event where
  delta : ℚ
  timestamp : Duration
  deriving DecidableEq, Repr

structure SwipeTracker where
  history : List SwipeTracker.Event
  pos : ℚ
  deriving DecidableEq, Repr

namespace SwipeTracker

def historyLimit : Duration := 150000000

/-- `DECELERATION_TOUCHPAD.ln()` as a double. -/
def decelerationTouchpadLn : ℚ := -3463963060287649 / 1152921504606846976

def new : SwipeTracker := ⟨[], 0⟩

/-- Drops the events older than the limit, seen from the last one. -/
def trimHistory (self : SwipeTracker) : SwipeTracker :=
  match self.history.getLast? with
  | none => self
  | some last =>
    { self with history :=
        self.history.dropWhile fun first => first.timestamp + historyLimit < last.timestamp }

/-- An event earlier than the last one is ignored. -/
def push (self : SwipeTracker) (delta : ℚ) (timestamp : Duration) : SwipeTracker :=
  match self.history.getLast? with
  | some last =>
    if timestamp < last.timestamp then self
    else trimHistory ⟨self.history ++ [⟨delta, timestamp⟩], self.pos + delta⟩
  | none => trimHistory ⟨[⟨delta, timestamp⟩], self.pos + delta⟩

def velocity (self : SwipeTracker) : ℚ :=
  match self.history.head?, self.history.getLast? with
  | some first, some last =>
    let totalTime := Duration.asSecsF64 (last.timestamp - first.timestamp)
    if totalTime = 0 then 0 else (self.history.map (·.delta)).sum / totalTime
  | _, _ => 0

/-- The position after decelerating to a halt. -/
def projectedEndPos (self : SwipeTracker) : ℚ :=
  self.pos - self.velocity / (1000 * decelerationTouchpadLn)

end SwipeTracker

/-! ### Rubber band -/

structure RubberBand where
  stiffness : ℚ
  limit : ℚ
  deriving DecidableEq, Repr

namespace RubberBand

def band (self : RubberBand) (x : ℚ) : ℚ :=
  (1 - 1 / (x * self.stiffness / self.limit + 1)) * self.limit

def derivative (self : RubberBand) (x : ℚ) : ℚ :=
  self.stiffness * self.limit * self.limit / (self.stiffness * x + self.limit) ^ 2

/-- `RubberBand::clamp`. -/
def clamp (self : RubberBand) (min max x : ℚ) : ℚ :=
  let clamped := Sol.clamp min max x
  let sign := if x < clamped then -1 else 1
  clamped + sign * self.band |x - clamped|

def clampDerivative (self : RubberBand) (min max x : ℚ) : ℚ :=
  if min ≤ x ∧ x ≤ max then 1 else self.derivative |x - Sol.clamp min max x|

end RubberBand

end Sol
