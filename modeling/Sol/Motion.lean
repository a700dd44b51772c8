import Sol.Panicking
import Sol.Animation
import Mathlib.Analysis.SpecialFunctions.Pow.Real
import Mathlib.Analysis.SpecialFunctions.Trigonometric.Deriv

/-!
# The motion of an animation

The curves, the springs and the deceleration that an animation moves along, in real numbers.  Two
of the curves come from a library; they are data here (`Easings`).

* `Animation.valueAt_offset`: an animation that is moved along keeps its course;
* `Animation.new_spec`, `Animation.restarted_spec`: an animation is at first where it starts.
-/

namespace Sol.Motion

open Panicking

/-- `Duration::as_secs_f64`. -/
noncomputable def asSecs (d : Duration) : ℝ := d / 1000000000

/-- `f64::EPSILON`. -/
noncomputable def epsilon : ℝ := 1 / 2 ^ 52

theorem epsilon_pos : 0 < epsilon := by
  unfold epsilon
  norm_num

theorem epsilon_lt : epsilon < 1 / 4 := by
  unfold epsilon
  norm_num

/-- `f32::EPSILON`. -/
noncomputable def epsilon32 : ℝ := 1 / 2 ^ 23

/-- `f64::clamp`. -/
noncomputable def clamp (lo hi x : ℝ) : ℝ := min (max x lo) hi

open Classical in
/-- To the nearest whole number, halves to the even one. -/
noncomputable def roundEven (x : ℝ) : ℕ :=
  let below := ⌊x⌋₊
  let rest := x - below
  if rest < 1 / 2 then below
  else if 1 / 2 < rest then below + 1
  else if Even below then below
  else below + 1

/-- `Duration::MAX`. -/
def maxDuration : Duration := (2 ^ 64 - 1) * 1000000000 + 999999999

open Classical in
/-- `Duration::from_secs_f64`. -/
noncomputable def fromSecs (x : ℝ) : Outcome Duration :=
  if x < 0 ∨ maxDuration < roundEven (x * 1000000000) then
    .error (.explicitPanic "can not convert float seconds to Duration")
  else .ok (roundEven (x * 1000000000))

/-! ### Curves -/

/-- The easing functions of the library. -/
structure Easings where
  easeOutQuad : ℝ → ℝ
  easeOutCubic : ℝ → ℝ

structure CubicBezier where
  x1 : ℝ
  y1 : ℝ
  x2 : ℝ
  y2 : ℝ

namespace CubicBezier

noncomputable def xForT (self : CubicBezier) (t : ℝ) : ℝ :=
  let omt := 1 - t
  3 * omt * omt * t * self.x1 + 3 * omt * t * t * self.x2 + t * t * t

noncomputable def yForT (self : CubicBezier) (t : ℝ) : ℝ :=
  let omt := 1 - t
  3 * omt * omt * t * self.y1 + 3 * omt * t * t * self.y2 + t * t * t

open Classical in
/-- Some rounds of the bisection. -/
noncomputable def bisect (self : CubicBezier) (x : ℝ) : ℕ → ℝ → ℝ → ℝ × ℝ
  | 0, minT, maxT => (minT, maxT)
  | n + 1, minT, maxT =>
    let guessT := (minT + maxT) / 2
    let guessX := self.xForT guessT
    if x < guessX then self.bisect x n minT guessT else self.bisect x n guessT maxT

noncomputable def tForX (self : CubicBezier) (x : ℝ) : ℝ :=
  let (minT, maxT) := self.bisect x 31 0 1
  (minT + maxT) / 2

open Classical in
noncomputable def y (self : CubicBezier) (x : ℝ) : ℝ :=
  if x ≤ epsilon then 0
  else if 1 - epsilon ≤ x then 1
  else self.yForT (self.tForX x)

end CubicBezier

inductive Curve
  | linear
  | easeOutQuad
  | easeOutCubic
  | easeOutExpo
  | cubicBezier (b : CubicBezier)

noncomputable def Curve.y (easings : Easings) : Curve → ℝ → ℝ
  | linear, x => x
  | easeOutQuad, x => easings.easeOutQuad x
  | easeOutCubic, x => easings.easeOutCubic x
  | easeOutExpo, x => 1 - (2 : ℝ) ^ (-10 * x)
  | cubicBezier b, x => b.y x

/-- The default curve of the animations. -/
noncomputable def windCurve : CubicBezier := ⟨5 / 100, 9 / 10, 1 / 10, 105 / 100⟩

/-! ### Springs -/

structure SpringParams where
  damping : ℝ
  mass : ℝ
  stiffness : ℝ
  epsilon : ℝ

noncomputable def SpringParams.new (dampingRatio stiffness epsilon : ℝ) : SpringParams :=
  let dampingRatio := max dampingRatio 0
  let stiffness := max stiffness 0
  let epsilon := max epsilon 0
  let mass := 1
  let criticalDamping := 2 * √(mass * stiffness)
  ⟨dampingRatio * criticalDamping, mass, stiffness, epsilon⟩

structure Spring where
  /-- `from`. -/
  start : ℝ
  /-- `to`. -/
  target : ℝ
  initialVelocity : ℝ
  params : SpringParams

namespace Spring

open Classical in
/-- How far the spring is beyond its target, for how far it was at first. -/
noncomputable def displacement (self : Spring) (x0 t : ℝ) : ℝ :=
  let b := self.params.damping
  let m := self.params.mass
  let k := self.params.stiffness
  let v0 := self.initialVelocity
  let beta := b / (2 * m)
  let omega0 := √(k / m)
  let envelope := Real.exp (-beta * t)
  if |beta - omega0| ≤ epsilon32 then
    -- critically damped
    envelope * (x0 + (beta * x0 + v0) * t)
  else if beta < omega0 then
    -- underdamped
    let omega1 := √(omega0 * omega0 - beta * beta)
    envelope * (x0 * Real.cos (omega1 * t) + (beta * x0 + v0) / omega1 * Real.sin (omega1 * t))
  else
    -- overdamped
    let omega2 := √(beta * beta - omega0 * omega0)
    envelope * (x0 * Real.cosh (omega2 * t) + (beta * x0 + v0) / omega2 * Real.sinh (omega2 * t))

/-- The position at a time in seconds. -/
noncomputable def oscillate (self : Spring) (t : ℝ) : ℝ :=
  self.target + self.displacement (self.start - self.target) t

noncomputable def valueAt (self : Spring) (t : Duration) : ℝ := self.oscillate (asSecs t)

noncomputable def beta (self : Spring) : ℝ := self.params.damping / (2 * self.params.mass)

noncomputable def omega0 (self : Spring) : ℝ := √(self.params.stiffness / self.params.mass)

open Classical in
/-- The next guess of Newton's method, unless it is infinite. -/
noncomputable def newton (self : Spring) (x0 : ℝ) : Option ℝ :=
  let y0 := self.oscillate x0
  let m := (self.oscillate (x0 + 1 / 1000) - y0) / (1 / 1000)
  if m = 0 then none else some ((self.target - y0 + m * x0) / m)

open Classical in
/-- Newton's method from a guess, with so many rounds left. -/
noncomputable def settle (self : Spring) : ℕ → ℝ → Outcome Duration
  | 0, x1 => if self.params.epsilon < |self.target - self.oscillate x1| then .ok 0 else fromSecs x1
  | n + 1, x1 =>
    if self.params.epsilon < |self.target - self.oscillate x1| then
      match self.newton x1 with
      | none => fromSecs x1
      | some x => self.settle n x
    else fromSecs x1

open Classical in
/-- The time until the spring is at rest. -/
noncomputable def duration (self : Spring) : Outcome Duration :=
  let beta := self.beta
  if |beta| ≤ epsilon ∨ beta < 0 then .ok maxDuration
  else if |self.target - self.start| ≤ epsilon then .ok 0
  else
    let omega0 := self.omega0
    let x0 := -Real.log self.params.epsilon / beta
    if |beta - omega0| ≤ epsilon32 ∨ beta < omega0 then fromSecs x0
    else
      match self.newton x0 with
      | none => .error (.explicitPanic "can not convert float seconds to Duration")
      | some x1 => self.settle 1001 x1

/-- The spring is still short of its target. -/
def Short (self : Spring) (y : ℝ) : Prop :=
  (epsilon < self.target - self.start ∧ self.params.epsilon < self.target - y) ∨
    (epsilon < self.start - self.target ∧ self.params.epsilon < y - self.target)

open Classical in
/-- The first millisecond from some one on at which the spring has reached its target, with so many
left. -/
noncomputable def scan (self : Spring) : ℕ → ℕ → Option ℕ
  | 0, i => if self.Short (self.oscillate (i / 1000)) then none else some i
  | n + 1, i => if self.Short (self.oscillate (i / 1000)) then self.scan n (i + 1) else some i

open Classical in
/-- The time until the spring reaches its target. -/
noncomputable def clampedDuration (self : Spring) : Option Duration :=
  let beta := self.beta
  if |beta| ≤ epsilon ∨ beta < 0 then some maxDuration
  else if |self.target - self.start| ≤ epsilon then some 0
  else (self.scan 3000 1).map fun i => i * 1000000

end Spring

/-! ### Animations -/

inductive Kind
  | easing (curve : Curve)
  | spring (spring : Spring)
  | deceleration (initialVelocity decelerationRate : ℝ)

structure Animation where
  /-- `from`. -/
  start : ℝ
  /-- `to`. -/
  target : ℝ
  initialVelocity : ℝ
  isOff : Bool
  duration : Duration
  /-- Time until the animation first reaches its target. -/
  clampedDuration : Duration
  startTime : Duration
  kind : Kind

/-- How an animation is configured. -/
inductive Config.Kind
  | easing (durationMs : ℕ) (curve : Curve)
  | spring (dampingRatio : ℝ) (stiffness : ℕ) (epsilon : ℝ)

structure Config where
  off : Bool
  kind : Config.Kind

/-- What the configuration admits. -/
def Config.Admitted (config : Config) : Prop :=
  match config.kind with
  | .spring dampingRatio stiffness epsilon => (1 / 10 ≤ dampingRatio ∧ dampingRatio ≤ 10) ∧
      1 ≤ stiffness ∧ 1 / 100000 ≤ epsilon ∧ epsilon ≤ 1 / 10
  | .easing _ (.cubicBezier b) => (0 ≤ b.x1 ∧ b.x1 ≤ 1) ∧ 0 ≤ b.x2 ∧ b.x2 ≤ 1
  | .easing _ _ => True

namespace Animation

/-- The velocity is scaled by the rate of the clock. -/
noncomputable def scaled (clock : Clock) (initialVelocity : ℝ) : ℝ :=
  initialVelocity / max (clock.rate : ℝ) (1 / 1000)

def ease (clock : Clock) (start target initialVelocity : ℝ) (durationMs : ℕ) (curve : Curve) :
    Animation where
  start := start
  target := target
  initialVelocity := initialVelocity
  isOff := false
  duration := Sol.Animation.ofMillis durationMs
  -- our current curves never overshoot
  clampedDuration := Sol.Animation.ofMillis durationMs
  startTime := clock.now
  kind := .easing curve

noncomputable def spring (clock : Clock) (spring : Spring) : Outcome Animation := do
  let duration ← spring.duration
  .ok {
    start := spring.start
    target := spring.target
    initialVelocity := spring.initialVelocity
    isOff := false
    duration := duration
    clampedDuration := spring.clampedDuration.getD duration
    startTime := clock.now
    kind := .spring spring }

open Classical in
noncomputable def decelerate (clock : Clock) (start initialVelocity decelerationRate threshold : ℝ) :
    Outcome Animation := do
  let coeff := 1000 * Real.log decelerationRate
  let durationS :=
    if initialVelocity = 0 then 0 else Real.log (-coeff * threshold / |initialVelocity|) / coeff
  let duration ← fromSecs durationS
  .ok {
    start := start
    target := start - initialVelocity / (1000 * Real.log decelerationRate)
    initialVelocity := initialVelocity
    isOff := false
    duration := duration
    clampedDuration := duration
    startTime := clock.now
    kind := .deceleration initialVelocity decelerationRate }

/-- An animation that is off takes no time. -/
noncomputable def new (clock : Clock) (start target initialVelocity : ℝ) (config : Config) :
    Outcome Animation :=
  let initialVelocity := scaled clock initialVelocity
  if config.off then
    .ok { ease clock start target initialVelocity 0 .easeOutCubic with isOff := true }
  else
    match config.kind with
    | .spring dampingRatio stiffness epsilon =>
      spring clock ⟨start, target, initialVelocity, .new dampingRatio stiffness epsilon⟩
    | .easing durationMs curve => .ok (ease clock start target initialVelocity durationMs curve)

/-- Restarts the animation with the configuration that it has. -/
noncomputable def restarted (self : Animation) (clock : Clock)
    (start target initialVelocity : ℝ) : Outcome Animation :=
  if self.isOff then .ok self
  else
    match self.kind with
    | .easing curve =>
      .ok (ease clock start target (scaled clock initialVelocity) (self.duration / 1000000) curve)
    | .spring s => spring clock ⟨start, target, self.initialVelocity, s.params⟩
    | .deceleration initialVelocity decelerationRate =>
      decelerate clock start initialVelocity decelerationRate (1 / 1000)

def isDone (self : Animation) (clock : Clock) : Bool :=
  clock.completeInstantly || self.startTime + self.duration ≤ clock.now

def isClampedDone (self : Animation) (clock : Clock) : Bool :=
  clock.completeInstantly || self.startTime + self.clampedDuration ≤ clock.now

open Classical in
noncomputable def valueAt (self : Animation) (easings : Easings) (clock : Clock) (at_ : Duration) :
    ℝ :=
  if at_ ≤ self.startTime then self.start
  else if self.startTime + self.duration ≤ at_ then self.target
  else if clock.completeInstantly then self.target
  else
    let passed := at_ - self.startTime
    match self.kind with
    | .easing curve =>
      let x := clamp 0 1 (asSecs passed / asSecs self.duration)
      curve.y easings x * (self.target - self.start) + self.start
    | .spring spring =>
      let value := spring.valueAt passed
      -- against numerical instability
      let range := (self.target - self.start) * 10
      let a := self.start - range
      let b := self.target + range
      if self.start ≤ self.target then clamp a b value else clamp b a value
    | .deceleration initialVelocity decelerationRate =>
      let coeff := 1000 * Real.log decelerationRate
      self.start + (decelerationRate ^ (1000 * asSecs passed) - 1) / coeff * initialVelocity

noncomputable def value (self : Animation) (easings : Easings) (clock : Clock) : ℝ :=
  self.valueAt easings clock clock.now

/-- A value that stops at the target after first reaching it. -/
noncomputable def clampedValue (self : Animation) (easings : Easings) (clock : Clock) : ℝ :=
  if self.isClampedDone clock then self.target else self.value easings clock

def offset (self : Animation) (delta : ℝ) : Animation :=
  { self with
    start := self.start + delta
    target := self.target + delta
    kind := match self.kind with
      | .spring s => .spring { s with start := s.start + delta, target := s.target + delta }
      | kind => kind }

/-! ### Animations as they are made -/

/-- What is true of the animation of a spring. -/
structure Springs (anim : Animation) (s : Spring) : Prop where
  start : s.start = anim.start
  target : s.target = anim.target
  beta : epsilon < s.beta
  tolerance : 0 ≤ s.params.epsilon
  clamped : anim.clampedDuration = s.clampedDuration.getD anim.duration ∨ anim.duration = 0

/-- What is true of an animation however it has come about. -/
def Proper (anim : Animation) : Prop :=
  match anim.kind with
  | .easing _ => True
  | .spring s => anim.Springs s
  | .deceleration v r => 0 < r ∧ anim.target = anim.start - v / (1000 * Real.log r)

/-- A spring that is let go at high speed. -/
noncomputable def fastSpring : Spring := ⟨0, 1, 4010, ⟨20, 1, 100, 1 / 10000⟩⟩

/-- An animation of the fast spring, which is done in some time. -/
noncomputable def fastAnimation (duration : Duration) : Animation :=
  ⟨0, 1, 4010, false, duration, 1000000, 0, .spring fastSpring⟩

/-! ### An animation that is moved along -/

variable (easings : Easings) (clock : Clock) (anim : Animation)

theorem clamp_add (lo hi x d : ℝ) : clamp (lo + d) (hi + d) (x + d) = clamp lo hi x + d := by
  unfold clamp
  rw [max_add_add_right, min_add_add_right]

theorem oscillate_offset (s : Spring) (d t : ℝ) :
    Spring.oscillate { s with start := s.start + d, target := s.target + d } t =
      s.oscillate t + d := by
  unfold Spring.oscillate
  rw [add_sub_add_right_eq_sub]
  change s.target + d + s.displacement (s.start - s.target) t = _
  ring

/-- An animation that is moved along keeps its course. -/
theorem valueAt_offset (d : ℝ) (at_ : Duration) :
    (anim.offset d).valueAt easings clock at_ = anim.valueAt easings clock at_ + d := by
  have hrange : anim.target + d - (anim.start + d) = anim.target - anim.start :=
    add_sub_add_right_eq_sub _ _ _
  unfold valueAt offset
  dsimp only
  by_cases hstart : at_ ≤ anim.startTime
  · rw [if_pos hstart, if_pos hstart]
  rw [if_neg hstart, if_neg hstart]
  by_cases hend : anim.startTime + anim.duration ≤ at_
  · rw [if_pos hend, if_pos hend]
  rw [if_neg hend, if_neg hend]
  by_cases hinstant : clock.completeInstantly = true
  · rw [if_pos hinstant, if_pos hinstant]
  rw [if_neg hinstant, if_neg hinstant]
  cases hkind : anim.kind with
  | easing curve =>
    dsimp only
    rw [hrange, add_assoc]
  | deceleration initialVelocity decelerationRate =>
    dsimp only
    ring
  | spring s =>
    dsimp only [Spring.valueAt]
    rw [hrange, oscillate_offset, add_sub_right_comm, add_right_comm anim.target]
    by_cases hle : anim.start ≤ anim.target
    · rw [if_pos hle, if_pos (add_le_add_left hle d), clamp_add]
    · rw [if_neg hle, if_neg (fun h => hle (le_of_add_le_add_right h)), clamp_add]

theorem value_offset (d : ℝ) :
    (anim.offset d).value easings clock = anim.value easings clock + d :=
  valueAt_offset easings clock anim d clock.now

variable {easings clock anim}

/-- Up to its start an animation is where it starts. -/
theorem value_of_le (h : clock.now ≤ anim.startTime) : anim.value easings clock = anim.start :=
  if_pos h

theorem spring_spec {s : Spring} : Ensures (spring clock s) fun anim =>
    anim.value easings clock = s.start ∧ anim.target = s.target ∧ anim.isOff = false := by
  unfold spring
  rw [ensures_bind]
  intro duration _
  exact ensures_ok.mpr ⟨value_of_le le_rfl, rfl, rfl⟩

/-- A new animation is where it starts, and goes to its target. -/
theorem new_spec {start target velocity : ℝ} {config : Config} :
    Ensures (new clock start target velocity config) fun anim =>
      anim.value easings clock = start ∧ anim.target = target ∧ anim.isOff = config.off := by
  unfold new
  cases hoff : config.off with
  | true =>
    rw [if_pos rfl, ensures_ok]
    exact ⟨value_of_le le_rfl, rfl, rfl⟩
  | false =>
    rw [if_neg Bool.false_ne_true]
    cases config.kind with
    | easing durationMs curve => exact ensures_ok.mpr ⟨value_of_le le_rfl, rfl, rfl⟩
    | spring dampingRatio stiffness eps => exact spring_spec

/-- A restarted animation is where it starts, unless animations are off. -/
theorem restarted_spec {start target velocity : ℝ} (hon : anim.isOff = false) :
    Ensures (restarted anim clock start target velocity) fun anim =>
      anim.value easings clock = start ∧ anim.isOff = false := by
  unfold restarted
  rw [if_neg (by rw [hon]; exact Bool.false_ne_true)]
  cases anim.kind with
  | easing curve => exact ensures_ok.mpr ⟨value_of_le le_rfl, rfl⟩
  | spring s => exact spring_spec.mono fun anim h => ⟨h.1, h.2.2⟩
  | deceleration initialVelocity decelerationRate =>
    unfold decelerate
    rw [ensures_bind]
    intro duration _
    exact ensures_ok.mpr ⟨value_of_le le_rfl, rfl⟩

end Animation

end Sol.Motion
