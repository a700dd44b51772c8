import Sol.Machine

/-!
# Scroll ticks

Amounts of scrolling are added up, and whole ticks are taken out of the sum.  Floats are rational
numbers here; their conversion to `i16` truncates and saturates, and their remainder has the sign of
what is divided.

* `accumulate_spec`: one amount;
* `reachable_conserves`: what comes in is what went out and what is left.
-/

namespace Sol

open Panicking

/-! ### Truncation -/

/-- The integer part, towards zero. -/
def truncate (x : ℚ) : ℤ := if 0 ≤ x then ⌊x⌋ else ⌈x⌉

/-- `as i16`. -/
def toI16 (x : ℚ) : ℤ := max (-2 ^ 15) (min (truncate x) (2 ^ 15 - 1))

/-- `as i8`, of an integer. -/
def wrapI8 (n : ℤ) : ℤ := n.bmod (2 ^ 8)

/-- The remainder of floats. -/
def remF64 (x y : ℚ) : ℚ := x - y * truncate (x / y)

/-- `f64::clamp`. -/
def clampF64 (x lo hi : ℚ) : Outcome ℚ :=
  if lo ≤ hi then .ok (max lo (min x hi)) else .error (.explicitPanic "min > max")

/-- The quotient of `i16`, towards zero. -/
def divI16 (a b : ℤ) : Outcome ℤ :=
  if b = 0 then .error (.explicitPanic "attempt to divide by zero")
  else if a = -2 ^ 15 ∧ b = -1 then .error .arithmeticOverflow
  else .ok (a.tdiv b)

section Truncation

variable {x : ℚ} {n : ℕ}

theorem truncate_of_nonneg (h : 0 ≤ x) : truncate x = ⌊x⌋ := if_pos h

theorem truncate_neg (x : ℚ) : truncate (-x) = -truncate x := by
  unfold truncate
  rcases lt_trichotomy x 0 with h | rfl | h
  · rw [if_pos (by linarith), if_neg (by linarith), Int.floor_neg]
  · simp
  · rw [if_neg (by linarith), if_pos h.le, Int.ceil_neg]

/-- What is proved for amounts that are not negative holds for all by reflection. -/
theorem reflect {P : ℚ → Prop} (hneg : ∀ x, P x → P (-x)) (h : ∀ x, 0 ≤ x → P x) (x : ℚ) : P x := by
  rcases le_total 0 x with hx | hx
  · exact h x hx
  · rw [← neg_neg x]
    exact hneg _ (h _ (neg_nonneg.mpr hx))

/-- The quotient of the integer part is the integer part of the quotient. -/
theorem tdiv_truncate (x : ℚ) (n : ℕ) : (truncate x).tdiv n = truncate (x / n) := by
  refine reflect (P := fun x => (truncate x).tdiv n = truncate (x / n)) ?_ ?_ x
  · intro x hx
    rw [truncate_neg, Int.neg_tdiv, hx, neg_div, truncate_neg]
  · intro x hx
    rw [truncate_of_nonneg hx, truncate_of_nonneg (div_nonneg hx n.cast_nonneg),
      Int.floor_div_natCast, Int.tdiv_eq_ediv_of_nonneg (Int.floor_nonneg.mpr hx)]

/-- The remainder is smaller than what is divided by. -/
theorem abs_remF64_lt (x : ℚ) {y : ℚ} (hy : 0 < y) : |remF64 x y| < y := by
  refine reflect (P := fun x => |remF64 x y| < y) ?_ ?_ x
  · intro x hx
    rw [remF64, neg_div, truncate_neg, Int.cast_neg, ← abs_neg]
    convert hx using 2
    rw [remF64]
    ring
  · intro x hx
    have hquotient := div_nonneg hx hy.le
    have hle := Int.floor_le (x / y)
    have hlt := Int.lt_floor_add_one (x / y)
    rw [le_div_iff₀ hy] at hle
    rw [div_lt_iff₀ hy] at hlt
    rw [remF64, truncate_of_nonneg hquotient, abs_lt]
    constructor <;> nlinarith

theorem abs_truncate_le (x : ℚ) {m : ℤ} (h : |x| < m + 1) : |truncate x| ≤ m := by
  revert h
  refine reflect (P := fun x => |x| < m + 1 → |truncate x| ≤ m) ?_ ?_ x
  · intro x hx h
    rw [truncate_neg, abs_neg]
    exact hx (abs_neg x ▸ h)
  · intro x hx h
    rw [abs_of_nonneg hx] at h
    rw [truncate_of_nonneg hx, abs_of_nonneg (Int.floor_nonneg.mpr hx), ← Int.lt_add_one_iff,
      Int.floor_lt]
    exact_mod_cast h

/-- The last tick before the limit is not limited. -/
theorem truncate_clamp (h : |x| < 128) : truncate (max (-127) (min x 127)) = truncate x := by
  rw [abs_lt] at h
  rcases lt_or_ge 127 x with hx | hx
  · have hfloor : ⌊x⌋ = 127 :=
      Int.floor_eq_iff.mpr ⟨by push_cast; linarith, by push_cast; linarith⟩
    rw [min_eq_right hx.le, truncate_of_nonneg (by norm_num), truncate_of_nonneg (by linarith),
      hfloor]
    norm_num
  · rw [min_eq_left hx]
    rcases lt_or_ge x (-127) with hx' | hx'
    · have hceil : ⌈x⌉ = -127 := Int.ceil_eq_iff.mpr ⟨by push_cast; linarith, by push_cast; linarith⟩
      rw [max_eq_left hx'.le, truncate, truncate, if_neg (by norm_num), if_neg (by linarith), hceil]
      norm_num
    · rw [max_eq_right hx']

end Truncation

/-! ### The tracker -/

structure ScrollTracker where
  tick : ℚ
  last : ℚ
  acc : ℚ
  deriving DecidableEq

namespace ScrollTracker

def new (tick : ℤ) : ScrollTracker := ⟨tick, 0, 0⟩

variable (self : ScrollTracker)

def changedDirection (amount : ℚ) : Prop :=
  (self.last > 0 ∧ amount < 0) ∨ (self.last < 0 ∧ amount > 0)

instance (amount : ℚ) : Decidable (self.changedDirection amount) :=
  inferInstanceAs (Decidable (_ ∨ _))

/-- What has accumulated with one more amount. -/
def accumulated (amount : ℚ) : ℚ :=
  (if self.changedDirection amount then 0 else self.acc) + amount

def accumulate (amount : ℚ) : Outcome (ℤ × ScrollTracker) := do
  let self : ScrollTracker := ⟨self.tick, amount, self.accumulated amount⟩
  if |self.acc| ≥ self.tick then do
    let clamped ← clampF64 self.acc (-127 * self.tick) (127 * self.tick)
    let ticks ← divI16 (toI16 clamped) (toI16 self.tick)
    pure (wrapI8 ticks, { self with acc := remF64 self.acc self.tick })
  else pure (0, self)

def reset : ScrollTracker := { self with last := 0, acc := 0 }

/-- The ticks are not clamped. -/
def Unsaturated (amount : ℚ) : Prop := |self.accumulated amount| < 128 * self.tick

variable {self} {n : ℕ} {amount : ℚ}

theorem toI16_natCast (hn : n < 2 ^ 7) : toI16 n = n := by
  have htruncate : truncate (n : ℚ) = n := by
    rw [truncate_of_nonneg n.cast_nonneg, Int.floor_natCast]
  rw [toI16, htruncate]
  omega

/-- The whole ticks of an amount that is not clamped. -/
theorem ticks_eq {x : ℚ} (hpos : 0 < n) (hn : n < 2 ^ 7) (hx : |x| < 128 * n) :
    wrapI8 ((toI16 (max (-127 * n) (min x (127 * n)))).tdiv n) = truncate (x / n) := by
  have hncast : (0 : ℚ) < n := Nat.cast_pos.mpr hpos
  have hdiv : |x / n| < 128 := by
    rw [abs_div, abs_of_pos hncast, div_lt_iff₀ hncast]
    exact hx
  have hsmall : |truncate (x / n)| ≤ 127 := abs_truncate_le _ (by push_cast; linarith)
  have hclamped : (truncate (max (-127 * n) (min x (127 * n)))).tdiv n = truncate (x / n) := by
    rw [tdiv_truncate, ← max_div_div_right hncast.le, ← min_div_div_right hncast.le,
      mul_div_cancel_right₀ _ hncast.ne', mul_div_cancel_right₀ _ hncast.ne', truncate_clamp hdiv]
  have hfits : toI16 (max (-127 * n) (min x (127 * n))) =
      truncate (max (-127 * n) (min x (127 * n))) := by
    have hle : |max (-127 * (n : ℚ)) (min x (127 * n))| ≤ 127 * n := by
      rw [abs_le]
      constructor
      · exact (neg_mul (127 : ℚ) n ▸ le_max_left _ _)
      · exact max_le (by linarith) (min_le_right _ _)
    have htruncated := abs_truncate_le (m := 127 * 127)
      (max (-127 * (n : ℚ)) (min x (127 * n))) (by
        have : (n : ℚ) ≤ 127 := by exact_mod_cast Nat.lt_succ_iff.mp hn
        push_cast
        linarith)
    rw [abs_le] at htruncated
    unfold toI16
    omega
  rw [hfits, hclamped]
  rw [abs_le] at hsmall
  unfold wrapI8
  rw [Int.bmod_eq_of_le (by omega) (by omega)]

/-- One amount: what has accumulated are the ticks and what is left, which is less than one. -/
theorem accumulate_spec (htick : self.tick = n) (hpos : 0 < n) (hn : n < 2 ^ 7) (amount : ℚ) :
    Returns (self.accumulate amount) fun r => r.2.tick = n ∧ |r.2.acc| < n ∧
      (self.Unsaturated amount → r.1 * (n : ℚ) + r.2.acc = self.accumulated amount) := by
  have hncast : (0 : ℚ) < n := Nat.cast_pos.mpr hpos
  have hclamp : clampF64 (self.accumulated amount) (-127 * self.tick) (127 * self.tick) =
      .ok (max (-127 * n) (min (self.accumulated amount) (127 * n))) := by
    rw [htick]
    exact if_pos (by linarith)
  have hdiv : ∀ a, divI16 a (toI16 self.tick) = .ok (a.tdiv n) := by
    intro a
    rw [htick, toI16_natCast hn, divI16, if_neg (by omega), if_neg (by omega)]
  unfold accumulate
  simp only [returns_ite, returns_bind, returns_pure, hclamp, hdiv, returns_ok]
  constructor
  · intro _
    refine ⟨htick, htick ▸ abs_remF64_lt _ (htick ▸ hncast), fun h => ?_⟩
    unfold Unsaturated at h
    rw [htick] at h ⊢
    rw [ticks_eq hpos hn h, remF64]
    ring
  · intro h
    rw [ge_iff_le, not_le] at h
    exact ⟨htick, htick ▸ h, fun _ => by simp⟩

/-! ### Conservation -/

/-- A tracker, with the amounts that came in and the ticks that went out since the last reset or
change of direction. -/
structure Tally where
  tracker : ScrollTracker
  amounts : ℚ
  ticks : ℤ
  deriving DecidableEq

inductive Step
  | accumulate (amount : ℚ)
  | reset

namespace Tally

def step (self : Tally) : Step → Outcome Tally
  | .accumulate amount => do
    let (ticks, tracker) ← self.tracker.accumulate amount
    if self.tracker.changedDirection amount then pure ⟨tracker, amount, ticks⟩
    else pure ⟨tracker, self.amounts + amount, self.ticks + ticks⟩
  | .reset => pure ⟨self.tracker.reset, 0, 0⟩

/-- Nothing is lost of the amounts, and less than a tick is kept. -/
structure Conserves (t : Tally) : Prop where
  sum : t.ticks * t.tracker.tick + t.tracker.acc = t.amounts
  small : |t.tracker.acc| < t.tracker.tick

/-- No step saturates. -/
def Allowed (self : Tally) : Step → Prop
  | .accumulate amount => self.tracker.Unsaturated amount
  | .reset => True

/-- The machine of the trackers of one tick size. -/
def machine (tick : ℕ) : Machine Tally Step where
  initial self := self = ⟨new tick, 0, 0⟩
  step := step

variable {self : Tally}

theorem step_conserves (htick : self.tracker.tick = n) (hpos : 0 < n) (hn : n < 2 ^ 7)
    (h : self.Conserves) (s : Step) (hs : self.Allowed s) :
    Returns (self.step s) fun t => t.tracker.tick = n ∧ t.Conserves := by
  have hncast : (0 : ℚ) < n := Nat.cast_pos.mpr hpos
  cases s with
  | accumulate amount =>
    unfold step
    rw [returns_bind]
    refine (accumulate_spec htick hpos hn amount).mono fun r hr => ?_
    obtain ⟨htick', hsmall, hsum⟩ := hr
    have hsum := hsum hs
    simp only [returns_ite, returns_pure]
    refine ⟨fun hchanged => ⟨htick', ?_, htick' ▸ hsmall⟩,
      fun hsame => ⟨htick', ?_, htick' ▸ hsmall⟩⟩
    · rw [accumulated, if_pos hchanged, zero_add] at hsum
      rw [htick']
      exact hsum
    · rw [accumulated, if_neg hsame] at hsum
      have hbefore := h.sum
      rw [htick] at hbefore
      rw [htick', ← hbefore]
      push_cast
      linarith
  | reset => exact returns_pure.mpr ⟨htick, by simp [reset], by simp [reset, htick, hncast]⟩

/-- **Scrolling is conserved.**  In every run without saturation no call panics, and since the last
reset or change of direction the ticks and what is left are the sum of the amounts. -/
theorem reachable_conserves (hpos : 0 < n) (hn : n < 2 ^ 7)
    (h : (machine n).ReachableBy Allowed self) :
    self.Conserves ∧ ∀ s, self.Allowed s → Returns (self.step s) Conserves := by
  have hinv : self.tracker.tick = n ∧ self.Conserves := by
    refine Machine.ReachableBy.invariant
      (P := fun t : Tally => t.tracker.tick = (n : ℚ) ∧ t.Conserves) h ?_ fun t s ht hs =>
        (step_conserves ht.1 hpos hn ht.2 s hs).ensures
    rintro t rfl
    exact ⟨by simp [new], by simp [new], by simpa [new] using hpos⟩
  exact ⟨hinv.2, fun s hs => (step_conserves hinv.1 hpos hn hinv.2 s hs).mono fun _ ht => ht.2⟩

instance (self : Tally) (s : Step) : Decidable (self.Allowed s) := by
  unfold Allowed Unsaturated
  cases s <;> infer_instance

/-- A wheel is turned by more than a tick, and then back. -/
theorem reachable_conserves_wheel :
    ∃ self : Tally, self.ticks = -1 ∧ self.amounts = -200 ∧ self.Conserves := by
  have hrun : ∃ self : Tally, (machine 120).ReachableBy Allowed self ∧
      decide (self.ticks = -1 ∧ self.amounts = -200) = true :=
    Machine.exists_reachableBy [.accumulate 100, .accumulate 50, .accumulate (-200)]
      (show (machine 120).initial ⟨new 120, 0, 0⟩ from rfl) (by decide +kernel)
  obtain ⟨self, hself, hp⟩ := hrun
  obtain ⟨hticks, hamounts⟩ := of_decide_eq_true hp
  exact ⟨self, hticks, hamounts, (reachable_conserves (by decide) (by decide) hself).1⟩

end Tally

end ScrollTracker

end Sol
