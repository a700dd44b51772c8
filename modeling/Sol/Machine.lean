import Sol.Panicking

/-!
# Machines whose steps may panic

A machine has initial states and a step for each of its actions, which returns
the next state or panics.  `ReachableBy allowed` are the states that runs of
allowed actions reach; `allowed` is what the callers of the machine see to.

* `ReachableBy.invariant`: what holds initially and is kept by every step holds
  of every reachable state;
* `exists_reachableBy`: a concrete run, evaluated.
-/

open Panicking

/-- A state machine whose actions may panic. -/
structure Machine (σ ι : Type) where
  initial : σ → Prop
  step : σ → ι → Outcome σ

namespace Machine

variable {σ ι : Type} (M : Machine σ ι) {allowed : σ → ι → Prop} {s t : σ}

/-- The states that runs of allowed actions reach. -/
inductive ReachableBy (allowed : σ → ι → Prop) : σ → Prop
  | initial {s : σ} (h : M.initial s) : ReachableBy allowed s
  | step {s t : σ} (hs : ReachableBy allowed s) (a : ι) (ha : allowed s a)
    (ht : M.step s a = .ok t) : ReachableBy allowed t

variable {M}

/-- An invariant of the initial states and of the allowed steps holds of every
reachable state. -/
theorem ReachableBy.invariant {P : σ → Prop} (h : M.ReachableBy allowed s)
    (hinitial : ∀ s, M.initial s → P s)
    (hstep : ∀ s a, P s → allowed s a → Ensures (M.step s a) P) : P s := by
  induction h with
  | initial h => exact hinitial _ h
  | step _ a ha ht ih => exact hstep _ a ih ha _ ht

/-- With more allowed, more is reached. -/
theorem ReachableBy.mono {more : σ → ι → Prop} (h : M.ReachableBy allowed s)
    (hmore : ∀ s a, allowed s a → more s a) : M.ReachableBy more s := by
  induction h with
  | initial h => exact .initial h
  | step _ a ha ht ih => exact .step ih a (hmore _ a ha) ht

/-! ### Concrete runs -/

section Runs

variable [∀ s a, Decidable (allowed s a)]

/-- The state that a run of actions reaches, if they are allowed and do not panic. -/
def run (M : Machine σ ι) (allowed : σ → ι → Prop) [∀ s a, Decidable (allowed s a)] (s : σ) :
    List ι → Option σ
  | [] => some s
  | a :: as =>
    if allowed s a then
      match M.step s a with
      | .ok t => run M allowed t as
      | .error _ => none
    else none

theorem reachableBy_run {as : List ι} (hs : M.ReachableBy allowed s)
    (hrun : M.run allowed s as = some t) : M.ReachableBy allowed t := by
  induction as generalizing s with
  | nil => exact Option.some.inj hrun ▸ hs
  | cons a as ih =>
    unfold run at hrun
    split_ifs at hrun with ha
    split at hrun
    · rename_i u hu
      exact ih (.step hs a ha hu) hrun
    · cases hrun

/-- A run that ends in a state with some property shows that such a state is reachable. -/
theorem exists_reachableBy {p : σ → Bool} (as : List ι) (hs : M.initial s)
    (hrun : (M.run allowed s as).any p = true) : ∃ t, M.ReachableBy allowed t ∧ p t = true := by
  cases ht : M.run allowed s as with
  | none => simp [ht] at hrun
  | some t => exact ⟨t, reachableBy_run (.initial hs) ht, by simpa [ht] using hrun⟩

end Runs

end Machine
