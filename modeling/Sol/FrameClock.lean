import Sol.Panicking
import Sol.Config
import Mathlib

/-!
# The frame clock of an output

Frames are presented at multiples of the refresh interval after the last one.  The clock foresees
the next such time; the arithmetic is checked.

A vblank may come early, before the last presentation time as it was told.  The time is then moved
one interval on before the next one is looked for.  If it was exactly the last presentation time,
or is still before it, one interval too much is counted.

* `returns_nextPresentationTime`: the time that is foreseen;
* `nextPresentationTime_iff`: exactly when it is the next one.
-/

namespace Sol

open Panicking

/-! ### Checked arithmetic -/

/-- `Duration::MAX`. -/
def Duration.max : Duration := (2 ^ 64 - 1) * 1000000000 + 999999999

def Duration.asSecs (self : Duration) : ℕ := self / 1000000000

def Duration.subsecNanos (self : Duration) : ℕ := self % 1000000000

/-- The sum of two durations. -/
def Duration.plus (self other : Duration) : Outcome Duration :=
  if self + other ≤ Duration.max then .ok (self + other)
  else .error (.expectFailed "overflow when adding durations")

/-- The difference of two durations. -/
def Duration.minus (self other : Duration) : Outcome Duration :=
  if other ≤ self then .ok (self - other)
  else .error (.expectFailed "overflow when subtracting durations")

/-- The result of an operation on `u64`. -/
def u64 (n : ℕ) : Outcome ℕ := if n < 2 ^ 64 then .ok n else .error .arithmeticOverflow

@[simp] theorem returns_plus {a b : Duration} {P : Duration → Prop} :
    Returns (a.plus b) P ↔ a + b ≤ Duration.max ∧ P (a + b) := by
  by_cases h : a + b ≤ Duration.max <;> simp [Duration.plus, h]

@[simp] theorem returns_minus {a b : Duration} {P : Duration → Prop} :
    Returns (a.minus b) P ↔ b ≤ a ∧ P (a - b) := by
  by_cases h : b ≤ a <;> simp [Duration.minus, h]

@[simp] theorem returns_u64 {n : ℕ} {P : ℕ → Prop} : Returns (u64 n) P ↔ n < 2 ^ 64 ∧ P n := by
  by_cases h : n < 2 ^ 64 <;> simp only [u64, h, if_true, if_false, returns_ok, returns_error,
    true_and, false_and]

structure NonZeroU64 where
  get : ℕ
  pos : 0 < get
  lt : get < 2 ^ 64

/-! ### The clock -/

structure FrameClock where
  lastPresentationTime : Option Duration
  refreshIntervalNs : Option NonZeroU64
  vrr : Bool

namespace FrameClock

/-- The interval is less than a second. -/
def ofInterval (interval : Duration) : Outcome NonZeroU64 := do
  assert (interval.asSecs = 0)
  if h : 0 < interval.subsecNanos then
    .ok ⟨interval.subsecNanos, h,
      (Nat.mod_lt interval (Nat.succ_pos 999999999)).trans (by norm_num)⟩
  else .error .unwrapNone

def new (refreshInterval : Option Duration) (vrr : Bool) : Outcome FrameClock :=
  match refreshInterval with
  | none => .ok ⟨none, none, vrr⟩
  | some interval => do
    let refreshIntervalNs ← ofInterval interval
    .ok ⟨none, some refreshIntervalNs, vrr⟩

def setVrr (self : FrameClock) (vrr : Bool) : FrameClock :=
  if self.vrr = vrr then self else { self with vrr, lastPresentationTime := none }

/-- A time of zero is not known. -/
def presented (self : FrameClock) (presentationTime : Duration) : FrameClock :=
  if presentationTime = 0 then self
  else { self with lastPresentationTime := some presentationTime }

/-- An early vblank is taken for one an interval later. -/
def skipEarly (now last interval : Duration) : Outcome Duration :=
  if now ≤ last then do
    let later ← now.plus interval
    -- two or more early: counted from the last presentation
    if later < last then last.plus interval else .ok later
  else .ok now

/-- The time from the last presentation to the next one. -/
def toNextNs (sinceLast : Duration) (interval : ℕ) : Outcome ℕ := do
  let secs ← u64 (sinceLast.asSecs * 1000000000)
  let sinceLastNs ← u64 (secs + sinceLast.subsecNanos)
  let intervals ← u64 (sinceLastNs / interval + 1)
  u64 (intervals * interval)

def nextPresentationTime (self : FrameClock) (now : Duration) : Outcome Duration :=
  match self.refreshIntervalNs, self.lastPresentationTime with
  | none, _ => .ok now
  | some _, none => .ok now
  | some interval, some last => do
    let now ← skipEarly now last interval.get
    let sinceLast ← now.minus last
    let toNext ← toNextNs sinceLast interval.get
    if self.vrr = true ∧ interval.get < toNext then .ok now else last.plus toNext

/-! ### The time that is foreseen -/

variable {P : ℕ → Prop}

/-- The time to the next multiple of the interval. -/
def toNext (interval since : ℕ) : ℕ := (since / interval + 1) * interval

theorem lt_toNext {interval : ℕ} (hpos : 0 < interval) (since : ℕ) :
    since < toNext interval since :=
  Nat.lt_mul_of_div_lt (Nat.lt_succ_self _) hpos

theorem toNext_le (interval since : ℕ) : toNext interval since ≤ since + interval := by
  unfold toNext
  rw [Nat.succ_mul]
  exact Nat.add_le_add_right (Nat.div_mul_le_self since interval) interval

/-- No multiple of the interval in between. -/
theorem toNext_le_of_lt {interval since k : ℕ} (hpos : 0 < interval) (hk : since < k * interval) :
    toNext interval since ≤ k * interval :=
  Nat.mul_le_mul_right interval ((Nat.div_lt_iff_lt_mul hpos).mpr hk)

theorem toNext_of_lt {interval since : ℕ} (h : since < interval) :
    toNext interval since = interval := by
  unfold toNext
  rw [Nat.div_eq_of_lt h, Nat.zero_add, Nat.one_mul]

theorem toNext_self {interval : ℕ} (hpos : 0 < interval) :
    toNext interval interval = 2 * interval := by
  unfold toNext
  rw [Nat.div_self hpos]

theorem returns_skipEarly {now last interval : ℕ} :
    Returns (skipEarly now last interval) P ↔
      (last < now ∧ P now) ∨
      (now ≤ last ∧ last ≤ now + interval ∧ now + interval ≤ Duration.max ∧ P (now + interval)) ∨
      (now + interval < last ∧ last + interval ≤ Duration.max ∧ P (last + interval)) := by
  unfold skipEarly
  by_cases hearly : now ≤ last
  · rw [if_pos hearly, returns_bind, returns_plus, returns_ite, returns_plus, returns_ok]
    constructor
    · rintro ⟨hmax, htwo, hone⟩
      by_cases hlater : now + interval < last
      · exact .inr (.inr ⟨hlater, htwo hlater⟩)
      · exact .inr (.inl ⟨hearly, not_lt.mp hlater, hmax, hone hlater⟩)
    · rintro (⟨hlate, -⟩ | ⟨-, hlater, hmax, hP⟩ | ⟨hlater, hmax, hP⟩)
      · exact absurd hearly (not_le.mpr hlate)
      · exact ⟨hmax, fun h => absurd hlater (not_le.mpr h), fun _ => hP⟩
      · have hlast : last ≤ last + interval := Nat.le_add_right _ _
        exact ⟨hlater.le.trans (hlast.trans hmax), fun _ => ⟨hmax, hP⟩, fun h => absurd hlater h⟩
  · have hlate : last < now := not_le.mp hearly
    rw [if_neg hearly, returns_ok]
    constructor
    · intro hP
      exact .inl ⟨hlate, hP⟩
    · rintro (⟨-, hP⟩ | ⟨h, -⟩ | ⟨h, -⟩)
      · exact hP
      · exact absurd h hearly
      · exact absurd (le_self_add.trans h.le) hearly

theorem returns_toNextNs {since interval : ℕ} {P : ℕ → Prop} (hpos : 0 < interval) :
    Returns (toNextNs since interval) P ↔
      toNext interval since < 2 ^ 64 ∧ P (toNext interval since) := by
  have hsplit : since / 1000000000 * 1000000000 + since % 1000000000 = since :=
    Nat.div_add_mod' since 1000000000
  have hsince : since < toNext interval since := lt_toNext hpos since
  have hcount : since / interval + 1 ≤ toNext interval since := Nat.le_mul_of_pos_right _ hpos
  unfold toNextNs Duration.asSecs Duration.subsecNanos
  simp only [returns_bind, returns_u64, hsplit]
  constructor
  · rintro ⟨-, -, -, h⟩
    exact h
  · intro h
    exact ⟨by omega, hsince.trans h.1, hcount.trans_lt h.1, h⟩

/-- The time that is foreseen without a variable refresh rate. -/
theorem returns_nextPresentationTime {interval : NonZeroU64} {last now : ℕ} :
    Returns (nextPresentationTime ⟨some last, some interval, false⟩ now) P ↔
      Returns (skipEarly now last interval.get) fun now =>
        last ≤ now ∧ toNext interval.get (now - last) < 2 ^ 64 ∧
          last + toNext interval.get (now - last) ≤ Duration.max ∧
          P (last + toNext interval.get (now - last)) := by
  have hfixed : ∀ t : ℕ, ¬(false = true ∧ interval.get < t) := fun t h => Bool.false_ne_true h.1
  unfold nextPresentationTime
  simp only [returns_bind, returns_minus, returns_toNextNs interval.pos, if_neg (hfixed _),
    returns_plus]

/-! ### The next presentation -/

/-- A time is the next one at which a frame can be presented. -/
structure IsNext (interval last now t : ℕ) : Prop where
  multiple : ∃ k, t = last + k * interval
  later : now < t
  bound : t ≤ max now last + interval

/-- Either the last presentation is over, and a later multiple of the interval can be told; or it
is less than, or just, an interval ahead. -/
def Foreseeable (interval last now : ℕ) : Prop :=
  (last < now ∧ ∃ k, now - last < k * interval ∧ k * interval < 2 ^ 64 ∧
    last + k * interval ≤ Duration.max) ∨
  (now < last ∧ last ≤ now + interval ∧ last + interval ≤ Duration.max)

variable {interval last now : ℕ}

/-- After the last presentation, the next multiple of the interval is the next time. -/
theorem isNext_late (hpos : 0 < interval) (hlate : last < now) :
    IsNext interval last now (last + toNext interval (now - last)) := by
  have hlt : now - last < toNext interval (now - last) := lt_toNext hpos _
  have hle : toNext interval (now - last) ≤ now - last + interval := toNext_le interval _
  exact ⟨⟨_, rfl⟩, by omega, by omega⟩

theorem isNext_early (hearly : now < last) : IsNext interval last now (last + interval) :=
  ⟨⟨1, by rw [one_mul]⟩, hearly.trans_le le_self_add, by omega⟩

/-- Two intervals ahead of a last presentation that is not over. -/
theorem not_isNext_two (hpos : 0 < interval) (hearly : now ≤ last) :
    ¬IsNext interval last now (last + 2 * interval) := by
  rintro ⟨-, -, hbound⟩
  omega

/-- The time that is foreseen is the next one exactly if the last presentation was over, or was
less than, or just, one interval ahead. -/
theorem nextPresentationTime_iff (interval : NonZeroU64) (last now : ℕ) :
    Returns (nextPresentationTime ⟨some last, some interval, false⟩ now)
      (IsNext interval.get last now) ↔ Foreseeable interval.get last now := by
  have hpos : 0 < interval.get := interval.pos
  rw [returns_nextPresentationTime, returns_skipEarly]
  constructor
  · rintro (⟨hlate, -, hfits, hmax, -⟩ | ⟨hle, hlater, -, -, -, hmax, hnext⟩ |
      ⟨htwo, -, -, -, -, hnext⟩)
    · exact .inl ⟨hlate, _, lt_toNext hpos _, hfits, hmax⟩
    · -- an early vblank: at the last presentation itself, one interval too much is counted
      rcases hle.lt_or_eq with hearly | rfl
      · have hone : toNext interval.get (now + interval.get - last) = interval.get :=
          toNext_of_lt (by omega)
        rw [hone] at hmax
        exact .inr ⟨hearly, hlater, hmax⟩
      · rw [Nat.add_sub_cancel_left, toNext_self hpos] at hnext
        exact absurd hnext (not_isNext_two hpos le_rfl)
    · rw [Nat.add_sub_cancel_left, toNext_self hpos] at hnext
      exact absurd hnext (not_isNext_two hpos (le_self_add.trans htwo.le))
  · rintro (⟨hlate, k, hk, hfits, hmax⟩ | ⟨hearly, hlater, hmax⟩)
    · have hle : toNext interval.get (now - last) ≤ k * interval.get := toNext_le_of_lt hpos hk
      exact .inl ⟨hlate, hlate.le, hle.trans_lt hfits,
        (Nat.add_le_add_left hle last).trans hmax, isNext_late hpos hlate⟩
    · have hone : toNext interval.get (now + interval.get - last) = interval.get :=
        toNext_of_lt (by omega)
      refine .inr (.inl ⟨hearly.le, hlater, ?_, hlater, ?_⟩)
      · exact (Nat.add_le_add_right hearly.le _).trans hmax
      · rw [hone]
        exact ⟨interval.lt, hmax, isNext_early hearly⟩

/-- At 60 Hz, a vblank at the very time of the last presentation: the frame after the next one. -/
theorem nextPresentationTime_at_last :
    ¬Returns (nextPresentationTime
      ⟨some 1000000000, some ⟨16666667, by norm_num, by norm_num⟩, false⟩ 1000000000)
      (IsNext 16666667 1000000000 1000000000) := by
  have htwo : nextPresentationTime ⟨some 1000000000,
      some ⟨16666667, by norm_num, by norm_num⟩, false⟩ 1000000000 = .ok 1033333334 := by decide
  rw [htwo, returns_ok]
  exact not_isNext_two (by norm_num) le_rfl

end FrameClock

end Sol
