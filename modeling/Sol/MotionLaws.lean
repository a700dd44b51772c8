import Sol.Motion
import Mathlib.Analysis.Complex.ExponentialBounds

/-!
# Animations that stop at their target

The clamped value of an animation is its target from its clamped duration on.  For curves and for
decelerations that is the end of the animation; for springs it is found by looking at every
millisecond of the first three seconds, as good as that is.

* `Clamps`: a value at some time that is not beyond the target, and what follows once the target
  has been reached;
* `made_clamps`: where the clamped values have that.
-/

namespace Sol.Motion

open Panicking

namespace Animation

/-- The animation gets another configuration. -/
noncomputable def replaceConfig (self : Animation) (clock : Clock) (config : Config) :
    Outcome Animation :=
  if config.off then .ok { self with isOff := true, duration := 0, clampedDuration := 0 }
  else
    match config.kind with
    | .spring dampingRatio stiffness epsilon => do
      let anim ← spring clock
        ⟨self.start, self.target, self.initialVelocity, .new dampingRatio stiffness epsilon⟩
      .ok { anim with startTime := self.startTime }
    | .easing durationMs curve =>
      .ok { ease clock self.start self.target self.initialVelocity durationMs curve with
        startTime := self.startTime }

end Animation

/-! ### Animations and times -/

namespace Animation

/-- The animations that there can be: they are made from a configuration, or decelerate, and they
are retargeted, moved along and configured anew on their way. -/
inductive Made : Animation → Prop
  | new {clock : Clock} {start target initialVelocity : ℝ} {config : Config} {anim : Animation}
      (hconfig : config.Admitted)
      (h : Animation.new clock start target initialVelocity config = .ok anim) : Made anim
  | decelerate {clock : Clock} {start initialVelocity decelerationRate threshold : ℝ}
      {anim : Animation} (hrate : 0 < decelerationRate ∧ decelerationRate < 1)
      (h : Animation.decelerate clock start initialVelocity decelerationRate threshold = .ok anim) :
      Made anim
  | restarted {clock : Clock} {start target initialVelocity : ℝ} {anim next : Animation}
      (hanim : Made anim)
      (h : anim.restarted clock start target initialVelocity = .ok next) : Made next
  | replaceConfig {clock : Clock} {config : Config} {anim next : Animation} (hanim : Made anim)
      (hconfig : config.Admitted) (h : anim.replaceConfig clock config = .ok next) : Made next
  | offset {anim : Animation} (hanim : Made anim) (delta : ℝ) : Made (anim.offset delta)

/-- A value that lies beyond the target, seen from the start. -/
def Beyond (self : Animation) (value : ℝ) : Prop :=
  (self.start < self.target ∧ self.target < value) ∨
    (self.target < self.start ∧ value < self.target)

/-- A value that is at the target or beyond it. -/
def Reached (self : Animation) (value : ℝ) : Prop :=
  (self.start ≤ self.target ∧ self.target ≤ value) ∨
    (self.target ≤ self.start ∧ value ≤ self.target)

/-- The clamped value at some time is not beyond the target; and if the target has been reached
then, it is at the target from then on. -/
def Clamps (self : Animation) (easings : Easings) (clock : Clock) (time : Duration) : Prop :=
  ¬self.Beyond (self.clampedValue easings { clock with now := time }) ∧
    (self.Reached (self.value easings { clock with now := time }) → ∀ later, time ≤ later →
      self.clampedValue easings { clock with now := later } = self.target)

/-- The times at which springs are looked at. -/
def Sampled (self : Animation) (time : Duration) : Prop :=
  match self.kind with
  | .spring _ => time ≤ self.startTime ∨ ∃ i, 1 ≤ i ∧ i ≤ 3001 ∧
      time = self.startTime + Sol.Animation.ofMillis i
  | _ => True

/-! ### Before the clamped duration is over -/

/-- While the animation is under way. -/
structure Inside (anim : Animation) (clock : Clock) (time : Duration) : Prop where
  running : clock.completeInstantly = false
  after : anim.startTime < time
  before : time < anim.startTime + anim.duration
  clamped : time < anim.startTime + anim.clampedDuration

/-- Once it is over, or may be taken to be. -/
def Over (self : Animation) (clock : Clock) (time : Duration) : Prop :=
  clock.completeInstantly = true ∨ self.startTime + self.clampedDuration ≤ time ∨
    (self.startTime < time ∧ self.startTime + self.duration ≤ time)

variable {easings : Easings} {clock : Clock} {anim : Animation} {time later : Duration}

theorem Beyond.reached {value : ℝ} (h : anim.Beyond value) : anim.Reached value := by
  rcases h with ⟨hlt, hvalue⟩ | ⟨hlt, hvalue⟩
  · exact .inl ⟨hlt.le, hvalue.le⟩
  · exact .inr ⟨hlt.le, hvalue.le⟩

theorem not_beyond_target : ¬anim.Beyond anim.target := by
  rintro (⟨-, h⟩ | ⟨-, h⟩)
  · exact lt_irrefl _ h
  · exact lt_irrefl _ h

theorem reached_start (h : anim.Reached anim.start) : anim.start = anim.target := by
  rcases h with ⟨hle, hge⟩ | ⟨hge, hle⟩
  · exact le_antisymm hle hge
  · exact le_antisymm hle hge

theorem Over.mono (h : anim.Over clock time) (hle : time ≤ later) : anim.Over clock later := by
  rcases h with h | h | ⟨hafter, h⟩
  · exact .inl h
  · exact .inr (.inl (h.trans hle))
  · exact .inr (.inr ⟨hafter.trans_le hle, h.trans hle⟩)

theorem clampedValue_of_over (h : anim.Over clock time) :
    anim.clampedValue easings { clock with now := time } = anim.target := by
  unfold clampedValue isClampedDone
  dsimp only
  by_cases hdone : (clock.completeInstantly ||
      decide (anim.startTime + anim.clampedDuration ≤ time)) = true
  · rw [if_pos hdone]
  rw [if_neg hdone]
  rw [Bool.or_eq_true, decide_eq_true_eq, not_or] at hdone
  rcases h with h | h | ⟨hafter, h⟩
  · exact absurd h hdone.1
  · exact absurd h hdone.2
  · unfold value valueAt
    rw [if_neg (not_le.mpr hafter), if_pos h]

/-- Before it is over, the value is not clamped. -/
theorem clampedValue_of_not_over (h : ¬anim.Over clock time) :
    anim.clampedValue easings { clock with now := time } =
      anim.value easings { clock with now := time } := by
  have hdone : ¬(clock.completeInstantly ||
      decide (anim.startTime + anim.clampedDuration ≤ time)) = true := by
    rw [Bool.or_eq_true, decide_eq_true_eq]
    rintro (hinstant | hclamped)
    · exact h (.inl hinstant)
    · exact h (.inr (.inl hclamped))
  unfold clampedValue isClampedDone
  exact if_neg hdone

/-- An animation is over, or has not begun, or is under way. -/
theorem time_cases (anim : Animation) (clock : Clock) (time : Duration) :
    anim.Over clock time ∨ time ≤ anim.startTime ∨ anim.Inside clock time := by
  by_cases hover : anim.Over clock time
  · exact .inl hover
  by_cases hstart : time ≤ anim.startTime
  · exact .inr (.inl hstart)
  unfold Over at hover
  push Not at hover
  obtain ⟨hrunning, hclamped, hbefore⟩ := hover
  have hafter : anim.startTime < time := not_le.mp hstart
  exact .inr (.inr ⟨Bool.eq_false_of_not_eq_true hrunning, hafter, hbefore hafter, hclamped⟩)

theorem Inside.not_over (h : anim.Inside clock time) : ¬anim.Over clock time := by
  rintro (hinstant | hclamped | ⟨-, hbefore⟩)
  · rw [h.running] at hinstant
    cases hinstant
  · exact absurd h.clamped (not_lt.mpr hclamped)
  · exact absurd h.before (not_lt.mpr hbefore)

/-- It is enough to look at the times between. -/
theorem clamps_of_inside
    (hstart : anim.start = anim.target → ∀ later, anim.Inside clock later →
      anim.value easings { clock with now := later } = anim.target)
    (hinside : anim.Inside clock time →
      ¬anim.Reached (anim.value easings { clock with now := time }) ∨
      ∀ later, time ≤ later → anim.Inside clock later →
        anim.value easings { clock with now := later } = anim.target) :
    anim.Clamps easings clock time := by
  have hsettled : anim.start = anim.target → ∀ later,
      anim.clampedValue easings { clock with now := later } = anim.target := by
    intro heq later
    by_cases hover : anim.Over clock later
    · exact clampedValue_of_over hover
    rw [clampedValue_of_not_over hover]
    rcases time_cases anim clock later with h | h | h
    · exact absurd h hover
    · have hbegin : anim.value easings { clock with now := later } = anim.start := value_of_le h
      exact hbegin.trans heq
    · exact hstart heq later h
  by_cases hover : anim.Over clock time
  · refine ⟨?_, fun _ later hle => clampedValue_of_over (hover.mono hle)⟩
    rw [clampedValue_of_over hover]
    exact not_beyond_target
  have hvalue : anim.clampedValue easings { clock with now := time } =
      anim.value easings { clock with now := time } := clampedValue_of_not_over hover
  rcases time_cases anim clock time with h | h | h
  · exact absurd h hover
  · have hbegin : anim.value easings { clock with now := time } = anim.start :=
      value_of_le h
    unfold Clamps
    rw [hvalue, hbegin]
    refine ⟨fun hbeyond => ?_, fun hreached later _ => hsettled (reached_start hreached) later⟩
    have heq := reached_start hbeyond.reached
    rw [heq] at hbeyond
    exact not_beyond_target hbeyond
  · rcases hinside h with hnot | hthere
    · exact ⟨fun hbeyond => hnot (hvalue ▸ hbeyond.reached), fun hreached => absurd hreached hnot⟩
    · refine ⟨?_, ?_⟩
      · rw [hvalue, hthere time le_rfl h]
        exact not_beyond_target
      · intro _ later hle
        by_cases hlater : anim.Over clock later
        · exact clampedValue_of_over hlater
        rw [clampedValue_of_not_over hlater]
        rcases time_cases anim clock later with h' | h' | h'
        · exact absurd h' hlater
        · exact absurd (h.after.trans_le hle) (not_lt.mpr h')
        · exact hthere later hle h'

/-! ### Curves -/

end Animation

/-- What the library says about its easing functions. -/
structure Easings.Documented (easings : Easings) : Prop where
  easeOutQuad : ∀ x, 0 ≤ x → x ≤ 1 → easings.easeOutQuad x = 1 - (1 - x) ^ 2
  easeOutCubic : ∀ x, 0 ≤ x → x ≤ 1 → easings.easeOutCubic x = 1 - (1 - x) ^ 3

namespace CubicBezier

/-- Before its end, the curve stays below where it ends. -/
def StaysBelow (b : CubicBezier) : Prop := ∀ t, 0 < t → t < 1 → b.yForT t < 1

/-- How far the curve is from its end. -/
theorem one_sub_yForT (b : CubicBezier) (t : ℝ) :
    1 - b.yForT t = (1 - t) * (1 + t + t ^ 2 - 3 * t * ((1 - t) * b.y1 + t * b.y2)) := by
  unfold yForT
  ring

/-- The bisection stays in its interval, and splits it. -/
theorem bisect_mem (b : CubicBezier) (x : ℝ) (n : ℕ) {lo hi : ℝ} (h : lo < hi) :
    lo ≤ (b.bisect x n lo hi).1 ∧ (b.bisect x n lo hi).1 < (b.bisect x n lo hi).2 ∧
      (b.bisect x n lo hi).2 ≤ hi := by
  induction n generalizing lo hi with
  | zero => exact ⟨le_rfl, h, le_rfl⟩
  | succ n ih =>
    have hleft : lo < (lo + hi) / 2 := by linarith
    have hright : (lo + hi) / 2 < hi := by linarith
    unfold bisect
    dsimp only
    split_ifs
    · obtain ⟨h1, h2, h3⟩ := ih hleft
      exact ⟨h1, h2, h3.trans hright.le⟩
    · obtain ⟨h1, h2, h3⟩ := ih hright
      exact ⟨hleft.le.trans h1, h2, h3⟩

theorem tForX_mem (b : CubicBezier) (x : ℝ) : 0 < b.tForX x ∧ b.tForX x < 1 := by
  obtain ⟨h1, h2, h3⟩ := b.bisect_mem x 31 (zero_lt_one' ℝ)
  unfold tForX
  dsimp only
  exact ⟨by linarith, by linarith⟩

/-- Short of its end, a curve that stays below is below. -/
theorem y_lt_one {b : CubicBezier} (hb : b.StaysBelow) {x : ℝ} (hx : x < 1 - epsilon) :
    b.y x < 1 := by
  unfold y
  split_ifs with h1 h2
  · exact zero_lt_one
  · exact absurd hx (not_lt.mpr h2)
  · obtain ⟨ht0, ht1⟩ := b.tForX_mem x
    exact hb _ ht0 ht1

theorem y_eq_one (b : CubicBezier) {x : ℝ} (hx : 1 - epsilon ≤ x) : b.y x = 1 := by
  have hepsilon := epsilon_lt
  unfold y
  rw [if_neg (by linarith), if_pos hx]

end CubicBezier

/-- The curves that do not overshoot. -/
def Curve.StaysBelow : Curve → Prop
  | .cubicBezier b => b.StaysBelow
  | _ => True

/-- A curve that does not overshoot is below its end until it is there for good. -/
theorem Curve.y_lt_one_or {easings : Easings} (heasings : easings.Documented) {curve : Curve}
    (hcurve : curve.StaysBelow) {x : ℝ} (h0 : 0 < x) (h1 : x < 1) :
    curve.y easings x < 1 ∨ ∀ x', x ≤ x' → curve.y easings x' = 1 := by
  cases curve with
  | linear => exact .inl h1
  | easeOutQuad =>
    have hquad := heasings.easeOutQuad x h0.le h1.le
    exact .inl (hquad.trans_lt (sub_lt_self 1 (pow_pos (sub_pos.mpr h1) 2)))
  | easeOutCubic =>
    have hcubic := heasings.easeOutCubic x h0.le h1.le
    exact .inl (hcubic.trans_lt (sub_lt_self 1 (pow_pos (sub_pos.mpr h1) 3)))
  | easeOutExpo =>
    exact .inl (sub_lt_self 1 (Real.rpow_pos_of_pos zero_lt_two _))
  | cubicBezier b =>
    rcases lt_or_ge x (1 - epsilon) with hx | hx
    · exact .inl (CubicBezier.y_lt_one hcurve hx)
    · exact .inr fun x' hx' => b.y_eq_one (hx.trans hx')

namespace Animation

variable {easings : Easings} {clock : Clock} {anim : Animation} {time later : Duration}

theorem asSecs_le {d e : Duration} (h : d ≤ e) : asSecs d ≤ asSecs e := by
  unfold asSecs
  have hcast : (d : ℝ) ≤ e := by exact_mod_cast h
  exact div_le_div_of_nonneg_right hcast (by norm_num)

theorem asSecs_lt {d e : Duration} (h : d < e) : asSecs d < asSecs e := by
  unfold asSecs
  have hcast : (d : ℝ) < e := by exact_mod_cast h
  exact div_lt_div_of_pos_right hcast (by norm_num)

theorem asSecs_pos {d : Duration} (h : 0 < d) : 0 < asSecs d := by
  unfold asSecs
  have hcast : (0 : ℝ) < d := by exact_mod_cast h
  exact div_pos hcast (by norm_num)

/-- How much of the duration has passed. -/
noncomputable def progress (anim : Animation) (time : Duration) : ℝ :=
  asSecs (time - anim.startTime) / asSecs anim.duration

theorem Inside.passed_pos (h : anim.Inside clock time) : 0 < asSecs (time - anim.startTime) :=
  asSecs_pos (Nat.sub_pos_of_lt h.after)

theorem Inside.progress_pos (h : anim.Inside clock time) : 0 < anim.progress time := by
  have hduration : 0 < anim.duration := Nat.pos_of_lt_add_right (h.after.trans h.before)
  exact div_pos h.passed_pos (asSecs_pos hduration)

theorem Inside.progress_lt_one (h : anim.Inside clock time) : anim.progress time < 1 := by
  have hduration : 0 < anim.duration := Nat.pos_of_lt_add_right (h.after.trans h.before)
  have hpassed : time - anim.startTime < anim.duration :=
    Nat.sub_lt_left_of_lt_add h.after.le h.before
  exact (div_lt_one (asSecs_pos hduration)).mpr (asSecs_lt hpassed)

theorem progress_mono (hle : time ≤ later) : anim.progress time ≤ anim.progress later := by
  have hpassed : time - anim.startTime ≤ later - anim.startTime := Nat.sub_le_sub_right hle _
  have htotal : 0 ≤ asSecs anim.duration := div_nonneg (Nat.cast_nonneg _) (by norm_num)
  exact div_le_div_of_nonneg_right (asSecs_le hpassed) htotal

/-- Under way, the value is that of the curve. -/
theorem value_easing {curve : Curve} (hkind : anim.kind = .easing curve)
    (h : anim.Inside clock time) : anim.value easings { clock with now := time } =
      curve.y easings (anim.progress time) * (anim.target - anim.start) + anim.start := by
  have hclamp : clamp 0 1 (anim.progress time) = anim.progress time := by
    unfold clamp
    rw [max_eq_left h.progress_pos.le, min_eq_left h.progress_lt_one.le]
  unfold value valueAt
  rw [if_neg (not_le.mpr h.after), if_neg (not_le.mpr h.before),
    if_neg (by rw [h.running]; exact Bool.false_ne_true), hkind]
  dsimp only
  rw [← hclamp]
  rfl

/-- A mix of the start and the target reaches the target where it is all of it. -/
theorem reached_mix {y : ℝ} (h : anim.Reached (y * (anim.target - anim.start) + anim.start)) :
    anim.start = anim.target ∨ 1 ≤ y := by
  by_cases heq : anim.start = anim.target
  · exact .inl heq
  refine .inr ?_
  rcases h with ⟨hle, hvalue⟩ | ⟨hle, hvalue⟩
  · have hpos : 0 < anim.target - anim.start := sub_pos.mpr (lt_of_le_of_ne hle heq)
    by_contra hy
    nlinarith [mul_pos (sub_pos.mpr (not_le.mp hy)) hpos]
  · have hneg : 0 < anim.start - anim.target :=
      sub_pos.mpr (lt_of_le_of_ne hle fun h => heq h.symm)
    by_contra hy
    nlinarith [mul_pos (sub_pos.mpr (not_le.mp hy)) hneg]

/-- Curves that do not overshoot are clamped at any time. -/
theorem clamps_of_easing (heasings : easings.Documented) {curve : Curve}
    (hkind : anim.kind = .easing curve) (hcurve : curve.StaysBelow) :
    anim.Clamps easings clock time := by
  have hsettled : anim.start = anim.target → ∀ later, anim.Inside clock later →
      anim.value easings { clock with now := later } = anim.target := by
    intro heq later hlater
    rw [value_easing hkind hlater, heq]
    ring
  refine clamps_of_inside hsettled fun h => ?_
  rcases curve.y_lt_one_or heasings hcurve h.progress_pos h.progress_lt_one with hlt | hthere
  · by_cases heq : anim.start = anim.target
    · exact .inr fun later _ hlater => hsettled heq later hlater
    · refine .inl ?_
      rw [value_easing hkind h]
      intro hreached
      rcases reached_mix hreached with heq' | hge
      · exact heq heq'
      · exact absurd hlt (not_lt.mpr hge)
  · refine .inr fun later hle hlater => ?_
    rw [value_easing hkind hlater, hthere _ (progress_mono hle)]
    ring

/-! ### Decelerations -/

/-- A deceleration never quite reaches its target. -/
theorem clamps_of_deceleration {v r : ℝ} (hkind : anim.kind = .deceleration v r) (hr : 0 < r)
    (htarget : anim.target = anim.start - v / (1000 * Real.log r)) :
    anim.Clamps easings clock time := by
  have hvalue : ∀ later, anim.Inside clock later →
      anim.value easings { clock with now := later } = anim.target +
        r ^ (1000 * asSecs (later - anim.startTime)) * (v / (1000 * Real.log r)) := by
    intro later h
    unfold value valueAt
    rw [if_neg (not_le.mpr h.after), if_neg (not_le.mpr h.before),
      if_neg (by rw [h.running]; exact Bool.false_ne_true), hkind, htarget]
    dsimp only
    ring
  have hsettled : v / (1000 * Real.log r) = 0 → ∀ later, anim.Inside clock later →
      anim.value easings { clock with now := later } = anim.target := by
    intro hzero later h
    rw [hvalue later h, hzero, mul_zero, add_zero]
  refine clamps_of_inside (fun heq => hsettled (by linarith)) fun h => ?_
  by_cases hzero : v / (1000 * Real.log r) = 0
  · exact .inr fun later _ => hsettled hzero later
  refine .inl ?_
  rw [hvalue time h]
  have hpow := Real.rpow_pos_of_pos hr (1000 * asSecs (time - anim.startTime))
  rintro (⟨hle, hreached⟩ | ⟨hle, hreached⟩)
  · have hneg : v / (1000 * Real.log r) < 0 := lt_of_le_of_ne (by linarith) hzero
    linarith [mul_neg_of_pos_of_neg hpow hneg]
  · have hpos : 0 < v / (1000 * Real.log r) := lt_of_le_of_ne (by linarith) fun h => hzero h.symm
    linarith [mul_pos hpow hpos]

end Animation

/-! ### Springs -/

namespace Spring

/-- As long as the scan has not stopped, the spring is short of its target. -/
theorem scan_short (s : Spring) {n i j : ℕ} (hij : i ≤ j) (hjn : j ≤ i + n)
    (hstop : ∀ k, s.scan n i = some k → j < k) : s.Short (s.oscillate (j / 1000)) := by
  induction n generalizing i with
  | zero =>
    obtain rfl : j = i := le_antisymm hjn hij
    by_contra hshort
    exact lt_irrefl _ (hstop j (if_neg hshort))
  | succ n ih =>
    unfold scan at hstop
    by_cases hshort : s.Short (s.oscillate (i / 1000))
    · rw [if_pos hshort] at hstop
      rcases eq_or_lt_of_le hij with rfl | hlt
      · exact hshort
      · exact ih hlt (by omega) hstop
    · rw [if_neg hshort] at hstop
      exact absurd (hstop i rfl) (not_lt.mpr hij)

/-- A damped spring is not taken for one that never comes to rest. -/
theorem not_undamped {s : Spring} (hbeta : epsilon < s.beta) :
    ¬(|s.beta| ≤ epsilon ∨ s.beta < 0) := by
  rintro (habs | hneg)
  · exact absurd ((le_abs_self _).trans habs) (not_le.mpr hbeta)
  · exact absurd (epsilon_pos.trans hbeta) (not_lt.mpr hneg.le)

/-- A damped spring that is not in its place at first is short of it at every millisecond before
the clamped duration is over. -/
theorem short_of_lt {s : Spring} (hbeta : epsilon < s.beta) {duration : Duration} {i : ℕ}
    (h1 : 1 ≤ i) (h3001 : i ≤ 3001)
    (hlt : Sol.Animation.ofMillis i < s.clampedDuration.getD duration) :
    s.Short (s.oscillate (i / 1000)) := by
  unfold clampedDuration at hlt
  dsimp only at hlt
  rw [if_neg (not_undamped hbeta)] at hlt
  split_ifs at hlt with hnear
  · exact absurd hlt (Nat.not_lt_zero _)
  · refine s.scan_short (n := 3000) h1 h3001 fun k hk => ?_
    rw [hk] at hlt
    exact Nat.lt_of_mul_lt_mul_right hlt

/-- A spring that starts in its place is at rest there. -/
theorem clampedDuration_of_eq {s : Spring} (hbeta : epsilon < s.beta) (heq : s.start = s.target) :
    s.clampedDuration = some 0 := by
  have hpos := epsilon_pos
  unfold clampedDuration
  dsimp only
  rw [if_neg (not_undamped hbeta)]
  rw [heq, sub_self, abs_zero, if_pos hpos.le]

end Spring

namespace Animation

variable {easings : Easings} {clock : Clock} {anim : Animation} {time : Duration}

/-- Where the spring is short of the target, so is the value. -/
theorem not_reached_of_short {s : Spring} (hs : anim.Springs s) {y : ℝ} (hshort : s.Short y) :
    ¬anim.Reached (if anim.start ≤ anim.target then
        clamp (anim.start - (anim.target - anim.start) * 10)
          (anim.target + (anim.target - anim.start) * 10) y
      else clamp (anim.target + (anim.target - anim.start) * 10)
        (anim.start - (anim.target - anim.start) * 10) y) := by
  have hpos := epsilon_pos
  have htolerance := hs.tolerance
  unfold Spring.Short at hshort
  rw [hs.start, hs.target] at hshort
  unfold clamp
  rcases hshort with ⟨hspan, hy⟩ | ⟨hspan, hy⟩
  · have hlt : anim.start < anim.target := by linarith
    rw [if_pos hlt.le]
    have hmax : max y (anim.start - (anim.target - anim.start) * 10) < anim.target :=
      max_lt (by linarith) (by linarith)
    rintro (⟨-, hreached⟩ | ⟨hle, -⟩)
    · exact absurd (hreached.trans (min_le_left _ _)) (not_le.mpr hmax)
    · exact absurd hle (not_le.mpr hlt)
  · have hlt : anim.target < anim.start := by linarith
    rw [if_neg (not_le.mpr hlt)]
    have hmin : anim.target < min (max y (anim.target + (anim.target - anim.start) * 10))
        (anim.start - (anim.target - anim.start) * 10) :=
      lt_min (lt_max_of_lt_left (by linarith)) (by linarith)
    rintro (⟨hle, -⟩ | ⟨-, hreached⟩)
    · exact absurd hle (not_le.mpr hlt)
    · exact absurd hreached (not_le.mpr hmin)

/-- Under way, the value is that of the spring, within bounds. -/
theorem value_spring {s : Spring} (hkind : anim.kind = .spring s) (h : anim.Inside clock time) :
    anim.value easings { clock with now := time } =
      if anim.start ≤ anim.target then
        clamp (anim.start - (anim.target - anim.start) * 10)
          (anim.target + (anim.target - anim.start) * 10) (s.valueAt (time - anim.startTime))
      else clamp (anim.target + (anim.target - anim.start) * 10)
        (anim.start - (anim.target - anim.start) * 10) (s.valueAt (time - anim.startTime)) := by
  unfold value valueAt
  rw [if_neg (not_le.mpr h.after), if_neg (not_le.mpr h.before),
    if_neg (by rw [h.running]; exact Bool.false_ne_true), hkind]

/-- Springs are clamped as of each millisecond. -/
theorem clamps_of_spring {s : Spring} (hkind : anim.kind = .spring s) (hs : anim.Springs s)
    (htime : anim.Sampled time) : anim.Clamps easings clock time := by
  have hclamped : ∀ later, anim.Inside clock later →
      anim.clampedDuration = s.clampedDuration.getD anim.duration := by
    intro later h
    rcases hs.clamped with heq | hzero
    · exact heq
    · have hbefore := h.before
      rw [hzero] at hbefore
      exact absurd hbefore (not_lt.mpr h.after.le)
  unfold Sampled at htime
  rw [hkind] at htime
  refine clamps_of_inside ?_ fun h => .inl ?_
  · intro heq later h
    have hrest := Spring.clampedDuration_of_eq hs.beta (hs.start.trans (heq.trans hs.target.symm))
    have hafter := h.clamped
    rw [hclamped later h, hrest] at hafter
    exact absurd hafter (not_lt.mpr h.after.le)
  · rcases htime with hle | ⟨i, h1, h3001, rfl⟩
    · exact absurd h.after (not_lt.mpr hle)
    · have hlt : Sol.Animation.ofMillis i < s.clampedDuration.getD anim.duration := by
        rw [← hclamped _ h]
        exact Nat.lt_of_add_lt_add_left h.clamped
      have hsecs : asSecs (Sol.Animation.ofMillis i) = i / 1000 := by
        unfold asSecs Sol.Animation.ofMillis
        push_cast
        ring
      have hshort : s.Short (s.valueAt (anim.startTime + Sol.Animation.ofMillis i -
          anim.startTime)) := by
        rw [Nat.add_sub_cancel_left]
        unfold Spring.valueAt
        rw [hsecs]
        exact Spring.short_of_lt hs.beta h1 h3001 hlt
      rw [value_spring hkind h]
      exact not_reached_of_short hs hshort

/-! ### Animations as they are made -/

theorem beta_new {dampingRatio stiffness tolerance start target velocity : ℝ}
    (hratio : 1 / 10 ≤ dampingRatio) (hstiffness : 1 ≤ stiffness) :
    epsilon < Spring.beta ⟨start, target, velocity, .new dampingRatio stiffness tolerance⟩ := by
  have hsqrt : 1 ≤ √(1 * max stiffness 0) :=
    Real.one_le_sqrt.mpr ((le_max_of_le_left hstiffness).trans_eq (one_mul _).symm)
  have hratio' : 1 / 10 ≤ max dampingRatio 0 := le_max_of_le_left hratio
  have hproduct : 1 / 10 * 1 ≤ max dampingRatio 0 * √(1 * max stiffness 0) :=
    mul_le_mul hratio' hsqrt zero_le_one (le_max_right _ _)
  unfold Spring.beta SpringParams.new epsilon
  dsimp only
  linarith

theorem proper_spring {s : Spring} (hbeta : epsilon < s.beta) (htolerance : 0 ≤ s.params.epsilon) :
    Ensures (spring clock s) fun anim => anim.kind = .spring s ∧ anim.Springs s := by
  unfold spring
  rw [ensures_bind]
  intro duration _
  exact ensures_ok.mpr ⟨rfl, rfl, rfl, hbeta, htolerance, .inl rfl⟩

/-- A spring as it is configured. -/
theorem proper_of_config {config : Config} (hconfig : config.Admitted) {dampingRatio tolerance : ℝ}
    {stiffness : ℕ} (hkind : config.kind = .spring dampingRatio stiffness tolerance)
    (start target velocity : ℝ) :
    Ensures (spring clock ⟨start, target, velocity, .new dampingRatio stiffness tolerance⟩)
      fun anim => anim.kind = .spring
        ⟨start, target, velocity, .new dampingRatio stiffness tolerance⟩ ∧
          anim.Springs ⟨start, target, velocity, .new dampingRatio stiffness tolerance⟩ := by
  unfold Config.Admitted at hconfig
  rw [hkind] at hconfig
  have hstiffness : (1 : ℝ) ≤ stiffness := by exact_mod_cast hconfig.2.1
  exact proper_spring (beta_new hconfig.1.1 hstiffness) (le_max_right _ _)

theorem proper_new {start target velocity : ℝ} {config : Config} (hconfig : config.Admitted) :
    Ensures (new clock start target velocity config) Proper := by
  unfold new
  cases hoff : config.off with
  | true => exact ensures_ok.mpr trivial
  | false =>
    rw [if_neg Bool.false_ne_true]
    cases hkind : config.kind with
    | easing durationMs curve => exact ensures_ok.mpr trivial
    | spring dampingRatio stiffness tolerance =>
      refine (proper_of_config hconfig hkind _ _ _).mono ?_
      rintro anim ⟨hanim, hsprings⟩
      unfold Proper
      rw [hanim]
      exact hsprings

theorem proper_decelerate {start velocity rate threshold : ℝ} (hrate : 0 < rate) :
    Ensures (decelerate clock start velocity rate threshold) Proper := by
  unfold decelerate
  rw [ensures_bind]
  intro duration _
  exact ensures_ok.mpr ⟨hrate, rfl⟩

theorem proper_restarted {start target velocity : ℝ} (h : anim.Proper) :
    Ensures (anim.restarted clock start target velocity) Proper := by
  unfold restarted
  split_ifs
  · exact ensures_ok.mpr h
  · unfold Proper at h
    cases hkind : anim.kind with
    | easing curve => exact ensures_ok.mpr trivial
    | spring s =>
      rw [hkind] at h
      have hbeta : epsilon < Spring.beta ⟨start, target, anim.initialVelocity, s.params⟩ := h.beta
      refine (proper_spring hbeta h.tolerance).mono ?_
      rintro next ⟨hnext, hsprings⟩
      unfold Proper
      rw [hnext]
      exact hsprings
    | deceleration v r =>
      rw [hkind] at h
      exact proper_decelerate h.1

theorem proper_replaceConfig {config : Config} (hconfig : config.Admitted) (h : anim.Proper) :
    Ensures (anim.replaceConfig clock config) Proper := by
  unfold replaceConfig
  split_ifs
  · refine ensures_ok.mpr ?_
    unfold Proper at h ⊢
    dsimp only
    cases hkind : anim.kind with
    | easing curve => trivial
    | spring s =>
      rw [hkind] at h
      exact ⟨h.start, h.target, h.beta, h.tolerance, .inr rfl⟩
    | deceleration v r =>
      rw [hkind] at h
      exact h
  · cases hkind : config.kind with
    | easing durationMs curve => exact ensures_ok.mpr trivial
    | spring dampingRatio stiffness tolerance =>
      dsimp only
      rw [ensures_bind]
      refine (proper_of_config hconfig hkind _ _ _).mono ?_
      rintro next ⟨hnext, hsprings⟩
      refine ensures_ok.mpr ?_
      unfold Proper
      rw [hnext]
      exact ⟨hsprings.start, hsprings.target, hsprings.beta, hsprings.tolerance, hsprings.clamped⟩

/-- A spring that is moved along takes as long. -/
theorem clampedDuration_offset (s : Spring) (delta : ℝ) :
    Spring.clampedDuration { s with start := s.start + delta, target := s.target + delta } =
      s.clampedDuration := by
  have hshort : ∀ t, Spring.Short { s with start := s.start + delta, target := s.target + delta }
      (Spring.oscillate { s with start := s.start + delta, target := s.target + delta } t) ↔
        s.Short (s.oscillate t) := by
    intro t
    rw [oscillate_offset]
    unfold Spring.Short
    simp only [add_sub_add_right_eq_sub]
  have hscan : ∀ n i, Spring.scan
      { s with start := s.start + delta, target := s.target + delta } n i = s.scan n i := by
    intro n
    induction n with
    | zero =>
      intro i
      unfold Spring.scan
      by_cases h : s.Short (s.oscillate (i / 1000))
      · rw [if_pos h, if_pos ((hshort _).mpr h)]
      · rw [if_neg h, if_neg fun h' => h ((hshort _).mp h')]
    | succ n ih =>
      intro i
      unfold Spring.scan
      by_cases h : s.Short (s.oscillate (i / 1000))
      · rw [if_pos h, if_pos ((hshort _).mpr h), ih]
      · rw [if_neg h, if_neg fun h' => h ((hshort _).mp h')]
  unfold Spring.clampedDuration
  rw [hscan]
  simp only [add_sub_add_right_eq_sub]
  rfl

theorem proper_offset (h : anim.Proper) (delta : ℝ) : (anim.offset delta).Proper := by
  unfold Proper offset at *
  dsimp only
  cases hkind : anim.kind with
  | easing curve => trivial
  | spring s =>
    rw [hkind] at h
    refine ⟨?_, ?_, h.beta, h.tolerance, ?_⟩
    · exact congrArg (· + delta) h.start
    · exact congrArg (· + delta) h.target
    · rw [clampedDuration_offset]
      exact h.clamped
  | deceleration v r =>
    rw [hkind] at h
    refine ⟨h.1, ?_⟩
    rw [h.2]
    ring

theorem Made.proper (h : Made anim) : anim.Proper := by
  induction h with
  | new hconfig h => exact proper_new hconfig _ h
  | decelerate hrate h => exact proper_decelerate hrate.1 _ h
  | restarted _ h ih => exact proper_restarted ih _ h
  | replaceConfig _ hconfig h ih => exact proper_replaceConfig hconfig ih _ h
  | offset _ delta ih => exact proper_offset ih delta

/-- The clamped value of a curve that does not overshoot, or of a deceleration, is not beyond the
target at any time, and is the target once that has been reached; that of a spring as of each
millisecond of the first three seconds. -/
theorem made_clamps (heasings : easings.Documented) (h : Made anim)
    (hcurve : ∀ curve, anim.kind = .easing curve → curve.StaysBelow) (clock : Clock)
    (htime : anim.Sampled time) : anim.Clamps easings clock time := by
  have hproper := h.proper
  unfold Proper at hproper
  cases hkind : anim.kind with
  | easing curve => exact clamps_of_easing heasings hkind (hcurve curve hkind)
  | spring s =>
    rw [hkind] at hproper
    exact clamps_of_spring hkind hproper htime
  | deceleration v r =>
    rw [hkind] at hproper
    exact clamps_of_deceleration hkind hproper.1 hproper.2

/-! ### Examples -/

noncomputable def sampleEasings : Easings :=
  ⟨fun x => 1 - (1 - x) ^ 2, fun x => 1 - (1 - x) ^ 3⟩

def sampleClock : Clock := ⟨0, 0, 1, false⟩

theorem made_clamps_linear : Clamps (ease sampleClock 0 1 0 250 .linear) sampleEasings sampleClock
    100000000 := by
  have hadmitted : Config.Admitted ⟨false, .easing 250 .linear⟩ := trivial
  have hnew : new sampleClock 0 1 0 ⟨false, .easing 250 .linear⟩ =
      .ok (ease sampleClock 0 1 (scaled sampleClock 0) 250 .linear) := rfl
  have hmade := Made.new hadmitted hnew
  have hzero : scaled sampleClock 0 = 0 := zero_div _
  rw [hzero] at hmade
  refine made_clamps ⟨fun _ _ _ => rfl, fun _ _ _ => rfl⟩ hmade ?_ sampleClock trivial
  rintro curve ⟨⟩
  trivial

/-- A number of seconds that is not too large is a duration. -/
theorem exists_fromSecs {x : ℝ} (h0 : 0 ≤ x) (h1 : x ≤ 1000) :
    ∃ d : Duration, fromSecs x = .ok d ∧ ⌊x * 1000000000⌋₊ ≤ d := by
  have hround : ∀ y : ℝ, ⌊y⌋₊ ≤ roundEven y ∧ roundEven y ≤ ⌊y⌋₊ + 1 := by
    intro y
    unfold roundEven
    dsimp only
    split_ifs <;> exact ⟨by omega, by omega⟩
  have hfloor : ⌊x * 1000000000⌋₊ ≤ 1000000000000 := by
    refine Nat.floor_le_of_le ?_
    push_cast
    linarith
  obtain ⟨hle, hge⟩ := hround (x * 1000000000)
  refine ⟨roundEven (x * 1000000000), if_neg ?_, hle⟩
  rintro (hneg | hlarge)
  · exact absurd hneg (not_lt.mpr h0)
  · have hsmall : roundEven (x * 1000000000) ≤ maxDuration :=
      hge.trans ((Nat.add_le_add_right hfloor 1).trans (by decide))
    exact absurd hlarge (not_lt.mpr hsmall)

theorem new_critical : SpringParams.new 1 100 (1 / 10000) = ⟨20, 1, 100, 1 / 10000⟩ := by
  have hsqrt : √(1 * max (100 : ℝ) 0) = 10 := by
    rw [max_eq_left (by norm_num), one_mul]
    exact (Real.sqrt_eq_iff_mul_self_eq (by norm_num) (by norm_num)).mpr (by norm_num)
  unfold SpringParams.new
  dsimp only
  rw [hsqrt, max_eq_left (by norm_num : (0 : ℝ) ≤ 1), max_eq_left (by norm_num : (0 : ℝ) ≤ 100),
    max_eq_left (by norm_num : (0 : ℝ) ≤ 1 / 10000)]
  norm_num

theorem oscillate_fast (t : ℝ) :
    fastSpring.oscillate t = 1 + Real.exp (-10 * t) * (-1 + 4000 * t) := by
  have hsqrt : √((100 : ℝ) / 1) = 10 :=
    (Real.sqrt_eq_iff_mul_self_eq (by norm_num) (by norm_num)).mpr (by norm_num)
  unfold fastSpring Spring.oscillate Spring.displacement
  dsimp only
  rw [hsqrt, if_pos (by unfold epsilon32; norm_num)]
  norm_num

theorem beta_fast : fastSpring.beta = 10 := by
  unfold Spring.beta fastSpring
  norm_num

theorem clampedDuration_fast : fastSpring.clampedDuration = some 1000000 := by
  have hepsilon := epsilon_lt
  have hfirst : ¬fastSpring.Short (fastSpring.oscillate ((1 : ℕ) / 1000)) := by
    have hexp := Real.exp_pos (-10 * ((1 : ℕ) / 1000))
    rw [oscillate_fast]
    unfold fastSpring
    rintro (⟨-, hy⟩ | ⟨hspan, -⟩)
    · dsimp only at hy
      push_cast at hy
      nlinarith
    · dsimp only at hspan
      linarith [epsilon_pos]
  have hscan : fastSpring.scan 3000 1 = some 1 := by
    rw [show (3000 : ℕ) = 2999 + 1 from rfl, Spring.scan, if_neg hfirst]
  unfold Spring.clampedDuration
  rw [beta_fast, hscan]
  dsimp only
  rw [if_neg (by norm_num; linarith), if_neg (by unfold fastSpring; norm_num; linarith)]
  rfl

theorem duration_fast : ∃ d : Duration, fastSpring.duration = .ok d ∧ 1000000 ≤ d := by
  have hlog : 1 ≤ Real.log 10000 := by
    rw [Real.le_log_iff_exp_le (by norm_num)]
    linarith [Real.exp_one_lt_three]
  have hlog' : Real.log 10000 ≤ 10000 := (Real.log_le_sub_one_of_pos (by norm_num)).trans (by norm_num)
  have hinv : Real.log (1 / 10000) = -Real.log 10000 := by
    rw [one_div, Real.log_inv]
  obtain ⟨d, hd, hle⟩ := exists_fromSecs (x := -Real.log (1 / 10000) / 10)
    (by rw [hinv]; linarith) (by rw [hinv]; linarith)
  have hepsilon := epsilon_lt
  refine ⟨d, ?_, ?_⟩
  · have homega : fastSpring.omega0 = 10 := by
      have hsqrt : √((100 : ℝ) / 1) = 10 :=
        (Real.sqrt_eq_iff_mul_self_eq (by norm_num) (by norm_num)).mpr (by norm_num)
      exact hsqrt
    unfold Spring.duration
    rw [beta_fast, homega]
    dsimp only
    rw [if_neg (by norm_num; linarith), if_neg (by unfold fastSpring; norm_num; linarith),
      if_pos (.inl (by unfold epsilon32; norm_num))]
    exact hd
  · refine le_trans ?_ hle
    refine Nat.le_floor ?_
    rw [hinv]
    push_cast
    linarith

theorem made_fast : ∃ duration, 1000000 ≤ duration ∧ Made (fastAnimation duration) := by
  obtain ⟨duration, hduration, hle⟩ := duration_fast
  have hadmitted : Config.Admitted ⟨false, .spring 1 100 (1 / 10000)⟩ := by
    unfold Config.Admitted
    norm_num
  have hscaled : scaled sampleClock 4010 = 4010 := by
    unfold scaled sampleClock
    norm_num
  have hparams : SpringParams.new 1 ((100 : ℕ) : ℝ) (1 / 10000) = ⟨20, 1, 100, 1 / 10000⟩ := by
    push_cast
    exact new_critical
  have hnew : new sampleClock 0 1 4010 ⟨false, .spring 1 100 (1 / 10000)⟩ =
      .ok (fastAnimation duration) := by
    unfold new
    rw [if_neg Bool.false_ne_true]
    dsimp only
    rw [hscaled, hparams]
    change spring sampleClock fastSpring = _
    unfold spring
    rw [hduration, clampedDuration_fast]
    rfl
  exact ⟨duration, hle, .new hadmitted hnew⟩

theorem fast_overshoots {duration : Duration} (h : 1000000 ≤ duration) :
    ¬(fastAnimation duration).Clamps sampleEasings sampleClock 500000 := by
  have hinside : (fastAnimation duration).Inside sampleClock 500000 := by
    refine ⟨rfl, (by decide : (0 : ℕ) < 500000), ?_, (by decide : (500000 : ℕ) < 0 + 1000000)⟩
    change 500000 < 0 + duration
    rw [Nat.zero_add]
    exact lt_of_lt_of_le (by decide) h
  have hnot := hinside.not_over
  have hvalue : 1 < fastSpring.valueAt 500000 := by
    have hexp := Real.exp_pos (-10 * asSecs 500000)
    unfold Spring.valueAt
    rw [oscillate_fast]
    have hsecs : asSecs 500000 = 1 / 2000 := by
      unfold asSecs
      norm_num
    rw [hsecs] at hexp ⊢
    nlinarith
  rintro ⟨hbeyond, -⟩
  refine hbeyond (.inl ⟨zero_lt_one, ?_⟩)
  have hle : (fastAnimation duration).start ≤ (fastAnimation duration).target := zero_le_one
  rw [clampedValue_of_not_over hnot, value_spring rfl hinside, if_pos hle]
  exact lt_min (lt_max_of_lt_left hvalue) (by unfold fastAnimation; norm_num)

end Animation

/-! ### The default curve -/

namespace CubicBezier

theorem bisect_right {b : CubicBezier} {x lo hi : ℝ} (n : ℕ) (h : b.xForT ((lo + hi) / 2) ≤ x) :
    b.bisect x (n + 1) lo hi = b.bisect x n ((lo + hi) / 2) hi := by
  rw [bisect, if_neg (not_lt.mpr h)]

theorem wind_overshoots : 1 < windCurve.y (3 / 4) := by
  have hx : ∀ t, windCurve.xForT t = 3 * (1 - t) * (1 - t) * t * (5 / 100) +
      3 * (1 - t) * t * t * (1 / 10) + t * t * t := fun _ => rfl
  have hsteps : windCurve.bisect (3 / 4) 31 0 1 = windCurve.bisect (3 / 4) 28 (7 / 8) 1 := by
    rw [bisect_right 30 (by rw [hx]; norm_num), bisect_right 29 (by rw [hx]; norm_num),
      bisect_right 28 (by rw [hx]; norm_num)]
    norm_num
  obtain ⟨hlo, hlt, hhi⟩ := windCurve.bisect_mem (3 / 4) 28 (by norm_num : (7 / 8 : ℝ) < 1)
  have hmem : 7 / 8 < windCurve.tForX (3 / 4) ∧ windCurve.tForX (3 / 4) < 1 := by
    unfold tForX
    dsimp only
    rw [hsteps]
    exact ⟨by linarith, by linarith⟩
  have hepsilon := epsilon_lt
  have hgap := windCurve.one_sub_yForT (windCurve.tForX (3 / 4))
  have hrest : 1 + windCurve.tForX (3 / 4) + windCurve.tForX (3 / 4) ^ 2 -
      3 * windCurve.tForX (3 / 4) * ((1 - windCurve.tForX (3 / 4)) * windCurve.y1 +
        windCurve.tForX (3 / 4) * windCurve.y2) < 0 := by
    change 1 + windCurve.tForX (3 / 4) + windCurve.tForX (3 / 4) ^ 2 -
      3 * windCurve.tForX (3 / 4) * ((1 - windCurve.tForX (3 / 4)) * (9 / 10) +
        windCurve.tForX (3 / 4) * (105 / 100)) < 0
    nlinarith [hmem.1, hmem.2]
  unfold y
  rw [if_neg (by linarith), if_neg (by linarith)]
  nlinarith [mul_neg_of_pos_of_neg (sub_pos.mpr hmem.2) hrest]

end CubicBezier

namespace Animation

theorem wind_beyond (velocity : ℝ) :
    ¬(ease sampleClock 0 1 velocity 250 (.cubicBezier windCurve)).Clamps sampleEasings sampleClock
      187500000 := by
  have hinside : (ease sampleClock 0 1 velocity 250 (.cubicBezier windCurve)).Inside sampleClock
      187500000 :=
    ⟨rfl, (by decide : (0 : ℕ) < 187500000), (by decide : (187500000 : ℕ) < 0 + 250 * 1000000),
      (by decide : (187500000 : ℕ) < 0 + 250 * 1000000)⟩
  have hnot := hinside.not_over
  have hprogress : (ease sampleClock 0 1 velocity 250 (.cubicBezier windCurve)).progress
      187500000 = 3 / 4 := by
    have hpassed : asSecs (187500000 - 0) / asSecs (250 * 1000000) = 3 / 4 := by
      unfold asSecs
      norm_num
    exact hpassed
  rintro ⟨hbeyond, -⟩
  refine hbeyond (.inl ⟨zero_lt_one, ?_⟩)
  rw [clampedValue_of_not_over hnot, value_easing rfl hinside, hprogress]
  change 1 < windCurve.y (3 / 4) * (1 - 0) + 0
  linarith [CubicBezier.wind_overshoots]

/-- A spring may pass its target and more between two milliseconds; and the default curve
overshoots. -/
theorem not_clamps_fast_or_wind :
    (∃ anim, Made anim ∧ ¬anim.Clamps sampleEasings sampleClock 500000) ∧
      ∃ anim, Made anim ∧ anim.kind = .easing (.cubicBezier windCurve) ∧
        ¬anim.Clamps sampleEasings sampleClock 187500000 := by
  constructor
  · obtain ⟨duration, hle, hmade⟩ := made_fast
    exact ⟨_, hmade, fast_overshoots hle⟩
  · have hconfig : Config.Admitted ⟨false, .easing 250 (.cubicBezier windCurve)⟩ := by
      unfold Config.Admitted windCurve
      norm_num
    refine ⟨ease sampleClock 0 1 (scaled sampleClock 0) 250 (.cubicBezier windCurve),
      .new hconfig rfl, rfl, ?_⟩
    exact wind_beyond _

end Animation

end Sol.Motion
