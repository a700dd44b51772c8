import Mathlib.Tactic

/-!
# Computations that may panic

A computation either returns a value or stops with a panic.  Three readings of a
postcondition are used throughout:

* `Ensures x P`: if `x` returns, the value satisfies `P` (partial correctness);
* `Returns x P`: `x` returns, and the value satisfies `P` (total correctness);
* `Guarded c x P`: if `x` returns, the value satisfies `P`, and where `c` holds
  it does return.

The rules push all of them through `pure`, `throw`, `bind` and conditionals, so
that a body is verified one call at a time, each call by the rule proved for it.
-/

namespace Panicking

/-- The ways in which a computation can stop. -/
inductive Panic
  | unwrapNone
  | expectFailed (message : String)
  | assertionFailed
  | unreachableCode
  | notYetImplemented (message : String)
  | explicitPanic (message : String)
  | indexOutOfBounds
  | arithmeticOverflow
  | remainderByZero
  deriving DecidableEq, Repr

universe u

/-- A returned value or a panic. -/
abbrev Outcome (α : Type u) := Except Panic α

variable {α β : Type u}

/-- `Option::unwrap`. -/
def unwrap : Option α → Outcome α
  | some a => .ok a
  | none => .error .unwrapNone

/-- `Option::expect`. -/
def expect (message : String) : Option α → Outcome α
  | some a => .ok a
  | none => .error (.expectFailed message)

/-- `assert!`. -/
def assert (c : Prop) [Decidable c] : Outcome Unit :=
  if c then .ok () else .error .assertionFailed

/-- Subtraction of machine naturals, checked. -/
def checkedSub (a b : ℕ) : Outcome ℕ :=
  if b ≤ a then .ok (a - b) else .error .arithmeticOverflow

/-- If `x` returns, the value satisfies `P`. -/
def Ensures (x : Outcome α) (P : α → Prop) : Prop := ∀ a, x = .ok a → P a

/-- `x` returns, and the value satisfies `P`. -/
def Returns (x : Outcome α) (P : α → Prop) : Prop := ∃ a, x = .ok a ∧ P a

/-- Whether a computation stops with a panic, for concrete runs. -/
def panicsWith (e : Panic) : Outcome α → Bool
  | .ok _ => false
  | .error panic => panic = e

theorem panicsWith_iff {e : Panic} {x : Outcome α} : panicsWith e x = true ↔ x = .error e := by
  cases x with
  | ok a => exact ⟨Bool.noConfusion, fun h => by cases h⟩
  | error panic => simp [panicsWith]

/-- If `x` returns, the value satisfies `P`; and where `c` holds, `x` returns. -/
def Guarded (c : Prop) (x : Outcome α) (P : α → Prop) : Prop :=
  Ensures x P ∧ (c → Returns x P)

section Rules

variable {x : Outcome α} {f : α → Outcome β} {P Q : α → Prop} {R : β → Prop}

theorem Ensures.mono (h : Ensures x P) (hPQ : ∀ a, P a → Q a) : Ensures x Q :=
  fun a ha => hPQ a (h a ha)

theorem Ensures.and (hP : Ensures x P) (hQ : Ensures x Q) : Ensures x fun a => P a ∧ Q a :=
  fun a ha => ⟨hP a ha, hQ a ha⟩

theorem Returns.mono (h : Returns x P) (hPQ : ∀ a, P a → Q a) : Returns x Q := by
  obtain ⟨a, ha, hP⟩ := h
  exact ⟨a, ha, hPQ a hP⟩

/-- Total correctness is partial correctness of a computation that returns. -/
theorem Returns.ensures (h : Returns x P) : Ensures x P := by
  obtain ⟨a, ha, hP⟩ := h
  intro b hb
  rw [ha] at hb
  cases hb
  exact hP

theorem Returns.and_ensures (h : Returns x P) (hQ : Ensures x Q) :
    Returns x fun a => P a ∧ Q a := by
  obtain ⟨a, ha, hP⟩ := h
  exact ⟨a, ha, hP, hQ a ha⟩

@[simp] theorem ensures_ok {a : α} : Ensures (.ok a) P ↔ P a :=
  ⟨fun h => h a rfl, fun h b hb => by cases hb; exact h⟩

@[simp] theorem ensures_pure {a : α} : Ensures (pure a) P ↔ P a := ensures_ok

@[simp] theorem ensures_error {e : Panic} : Ensures (.error e) P :=
  fun _ h => by cases h

@[simp] theorem ensures_throw {e : Panic} : Ensures (throw e) P := ensures_error

@[simp] theorem ensures_bind :
    Ensures (x >>= f) R ↔ Ensures x fun a => Ensures (f a) R := by
  cases x with
  | ok a => exact (ensures_ok (P := fun a => Ensures (f a) R)).symm
  | error e => exact ⟨fun _ => ensures_error, fun _ => ensures_error⟩

@[simp] theorem ensures_ite {c : Prop} [Decidable c] {y : Outcome α} :
    Ensures (if c then x else y) P ↔ (c → Ensures x P) ∧ (¬c → Ensures y P) := by
  by_cases hc : c <;> simp [hc]

@[simp] theorem returns_ok {a : α} : Returns (.ok a) P ↔ P a :=
  ⟨fun ⟨_, hb, h⟩ => by cases hb; exact h, fun h => ⟨a, rfl, h⟩⟩

@[simp] theorem returns_pure {a : α} : Returns (pure a) P ↔ P a := returns_ok

@[simp] theorem returns_error {e : Panic} : ¬Returns (.error e) P :=
  fun ⟨_, h, _⟩ => by cases h

@[simp] theorem returns_throw {e : Panic} : ¬Returns (throw e) P := returns_error

@[simp] theorem returns_bind :
    Returns (x >>= f) R ↔ Returns x fun a => Returns (f a) R := by
  cases x with
  | ok a => exact (returns_ok (P := fun a => Returns (f a) R)).symm
  | error e => exact ⟨fun h => absurd h returns_error, fun h => absurd h returns_error⟩

@[simp] theorem returns_ite {c : Prop} [Decidable c] {y : Outcome α} :
    Returns (if c then x else y) P ↔ (c → Returns x P) ∧ (¬c → Returns y P) := by
  by_cases hc : c <;> simp [hc]

theorem returns_mapM {R : α → β → Prop} {l : List α} (h : ∀ a ∈ l, Returns (f a) (R a)) :
    Returns (l.mapM f) fun bs => List.Forall₂ R l bs := by
  induction l with
  | nil => exact ⟨[], rfl, .nil⟩
  | cons a l ih =>
    rw [List.forall_mem_cons] at h
    rw [List.mapM_cons, returns_bind]
    refine h.1.mono fun b hb => ?_
    rw [returns_bind]
    refine (ih h.2).mono fun bs hbs => ?_
    exact returns_pure.mpr (.cons hb hbs)

/-- On a concrete computation the postcondition can be evaluated. -/
instance [∀ a, Decidable (P a)] : Decidable (Returns x P) :=
  match x with
  | .ok _ => decidable_of_iff' _ returns_ok
  | .error _ => isFalse returns_error

end Rules

section Guarding

variable {c d : Prop} {x : Outcome α} {f : α → Outcome β} {P Q : α → Prop} {R : β → Prop}

theorem Guarded.ensures (h : Guarded c x P) : Ensures x P := h.1

theorem Guarded.returns (h : Guarded c x P) (hc : c) : Returns x P := h.2 hc

/-- What returns anyway returns under every guard. -/
theorem Returns.guarded (h : Returns x P) : Guarded c x P := ⟨h.ensures, fun _ => h⟩

theorem Guarded.mono (h : Guarded c x P) (hPQ : ∀ a, P a → Q a) : Guarded c x Q :=
  ⟨h.1.mono hPQ, fun hc => (h.2 hc).mono hPQ⟩

theorem guarded_true : Guarded True x P ↔ Returns x P :=
  ⟨fun h => h.2 trivial, Returns.guarded⟩

/-- A stronger guard will do. -/
theorem Guarded.weaken (h : Guarded c x P) (hdc : d → c) : Guarded d x P :=
  ⟨h.1, fun hd => h.2 (hdc hd)⟩

@[simp] theorem guarded_ok {a : α} : Guarded c (.ok a) P ↔ P a := by
  simp only [Guarded, ensures_ok, returns_ok]
  exact ⟨And.left, fun h => ⟨h, fun _ => h⟩⟩

@[simp] theorem guarded_pure {a : α} : Guarded c (pure a) P ↔ P a := guarded_ok

@[simp] theorem guarded_error {e : Panic} : Guarded c (.error e) P ↔ ¬c := by
  simp [Guarded]

@[simp] theorem guarded_throw {e : Panic} : Guarded c (throw e) P ↔ ¬c := guarded_error

@[simp] theorem guarded_bind :
    Guarded c (x >>= f) R ↔ Guarded c x fun a => Guarded c (f a) R := by
  cases x with
  | ok a => exact (guarded_ok (P := fun a => Guarded c (f a) R)).symm
  | error e =>
    change Guarded c (.error e) R ↔ _
    rw [guarded_error, guarded_error]

@[simp] theorem guarded_ite {p : Prop} [Decidable p] {y : Outcome α} :
    Guarded c (if p then x else y) P ↔ (p → Guarded c x P) ∧ (¬p → Guarded c y P) := by
  by_cases hp : p <;> simp [hp]

/-- A computation that returns meets a condition exactly if its value does. -/
theorem Guarded.returns_iff {p : Prop} (h : Guarded c x P) (hc : c) (hPQ : ∀ a, P a → (Q a ↔ p)) :
    Returns x Q ↔ p := by
  obtain ⟨a, rfl, ha⟩ := h.returns hc
  rw [returns_ok]
  exact hPQ a ha

end Guarding

section Primitives

variable {o : Option α} {P : α → Prop} {c : Prop}

@[simp] theorem ensures_unwrap : Ensures (unwrap o) P ↔ ∀ a, o = some a → P a := by
  cases o <;> simp [unwrap]

@[simp] theorem returns_unwrap : Returns (unwrap o) P ↔ ∃ a, o = some a ∧ P a := by
  cases o <;> simp [unwrap]

@[simp] theorem guarded_unwrap :
    Guarded c (unwrap o) P ↔ (∀ a, o = some a → P a) ∧ (c → o.isSome = true) := by
  cases o <;> simp [unwrap]

@[simp] theorem ensures_expect {m : String} :
    Ensures (expect m o) P ↔ ∀ a, o = some a → P a := by
  cases o <;> simp [expect]

@[simp] theorem returns_expect {m : String} :
    Returns (expect m o) P ↔ ∃ a, o = some a ∧ P a := by
  cases o <;> simp [expect]

@[simp] theorem guarded_expect {m : String} :
    Guarded c (expect m o) P ↔ (∀ a, o = some a → P a) ∧ (c → o.isSome = true) := by
  cases o <;> simp [expect]

@[simp] theorem ensures_assert {p : Prop} [Decidable p] {P : Unit → Prop} :
    Ensures (assert p) P ↔ (p → P ()) := by
  by_cases hp : p <;> simp [assert, hp]

@[simp] theorem returns_assert {p : Prop} [Decidable p] {P : Unit → Prop} :
    Returns (assert p) P ↔ p ∧ P () := by
  by_cases hp : p <;> simp [assert, hp]

@[simp] theorem guarded_assert {p : Prop} [Decidable p] {P : Unit → Prop} :
    Guarded c (assert p) P ↔ (p → P ()) ∧ (c → p) := by
  by_cases hp : p <;> simp [assert, hp]

@[simp] theorem ensures_checkedSub {a b : ℕ} {P : ℕ → Prop} :
    Ensures (checkedSub a b) P ↔ (b ≤ a → P (a - b)) := by
  by_cases h : b ≤ a <;> simp [checkedSub, h]

@[simp] theorem returns_checkedSub {a b : ℕ} {P : ℕ → Prop} :
    Returns (checkedSub a b) P ↔ b ≤ a ∧ P (a - b) := by
  by_cases h : b ≤ a <;> simp [checkedSub, h]

@[simp] theorem guarded_checkedSub {a b : ℕ} {P : ℕ → Prop} :
    Guarded c (checkedSub a b) P ↔ (b ≤ a → P (a - b)) ∧ (c → b ≤ a) := by
  by_cases h : b ≤ a <;> simp [checkedSub, h]

end Primitives

end Panicking
