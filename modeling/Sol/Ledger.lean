import Sol.Machine

/-!
# Ledgers of runs

The actions of a machine bring things in and take things out.  A ledger is a run along with all
that came in and all that went out on the way.

* `Ledger.balance`: where every step accounts for what it takes in and gives out, so does the run;
* `exists_ledger`: a concrete run, evaluated.
-/

open Panicking
open scoped List

namespace Machine

variable {σ ι α : Type} {M : Machine σ ι} {allowed : σ → ι → Prop} {gain loss : σ → ι → List α}
  {s t : σ} {gained lost : List α}

/-- The state that a run reaches, what came in on the way, and what went out. -/
inductive Ledger (M : Machine σ ι) (allowed : σ → ι → Prop) (gain loss : σ → ι → List α) :
    σ → List α → List α → Prop
  | initial {s : σ} (h : M.initial s) : Ledger M allowed gain loss s [] []
  | step {s t : σ} {gained lost : List α} (hs : Ledger M allowed gain loss s gained lost) (a : ι)
    (ha : allowed s a) (ht : M.step s a = .ok t) :
    Ledger M allowed gain loss t (gained ++ gain s a) (lost ++ loss s a)

/-- With more allowed, a run is still one. -/
theorem Ledger.mono {more : σ → ι → Prop} (h : M.Ledger allowed gain loss s gained lost)
    (hmore : ∀ s a, allowed s a → more s a) : M.Ledger more gain loss s gained lost := by
  induction h with
  | initial h => exact .initial h
  | step _ a ha ht ih => exact .step ih a (hmore _ a ha) ht

/-- If a step accounts for what it brings in and takes out, given an invariant, then so does a run
that begins with nothing. -/
theorem Ledger.balance (h : M.Ledger allowed gain loss s gained lost) (P : σ → Prop)
    (holds : σ → List α)
    (hinitial : ∀ s, M.initial s → P s ∧ holds s = [])
    (hstep : ∀ s a, P s → allowed s a → Ensures (M.step s a) fun t =>
      P t ∧ (loss s a ++ holds t).Perm (gain s a ++ holds s)) :
    P s ∧ (lost ++ holds s).Perm gained := by
  induction h with
  | initial h =>
    obtain ⟨hP, hnil⟩ := hinitial _ h
    exact ⟨hP, by rw [hnil]; exact .refl _⟩
  | @step s t gained lost _ a ha ht ih =>
    obtain ⟨hP, hs⟩ := ih
    obtain ⟨hPt, hperm⟩ := hstep s a hP ha t ht
    refine ⟨hPt, ?_⟩
    have hmoved : (lost ++ (gain s a ++ holds s)).Perm (gain s a ++ (lost ++ holds s)) := by
      rw [← List.append_assoc, ← List.append_assoc]
      exact List.perm_append_comm.append_right _
    calc lost ++ loss s a ++ holds t
        = lost ++ (loss s a ++ holds t) := List.append_assoc ..
      _ ~ lost ++ (gain s a ++ holds s) := hperm.append_left lost
      _ ~ gain s a ++ (lost ++ holds s) := hmoved
      _ ~ gain s a ++ gained := hs.append_left _
      _ ~ gained ++ gain s a := List.perm_append_comm

/-! ### Concrete runs -/

section Runs

variable [∀ s a, Decidable (allowed s a)]

/-- A run of actions along with its ledger, if they are allowed and do not panic. -/
def account (M : Machine σ ι) (allowed : σ → ι → Prop) [∀ s a, Decidable (allowed s a)]
    (gain loss : σ → ι → List α) (s : σ) (gained lost : List α) :
    List ι → Option (σ × List α × List α)
  | [] => some (s, gained, lost)
  | a :: as =>
    if allowed s a then
      match M.step s a with
      | .ok t => account M allowed gain loss t (gained ++ gain s a) (lost ++ loss s a) as
      | .error _ => none
    else none

theorem ledger_account {as : List ι} {final : σ × List α × List α}
    (hs : M.Ledger allowed gain loss s gained lost)
    (hrun : M.account allowed gain loss s gained lost as = some final) :
    M.Ledger allowed gain loss final.1 final.2.1 final.2.2 := by
  induction as generalizing s gained lost with
  | nil => exact Option.some.inj hrun ▸ hs
  | cons a as ih =>
    unfold account at hrun
    split_ifs at hrun with ha
    split at hrun
    next u hu => exact ih (.step hs a ha hu) hrun
    next => cases hrun

/-- A run that ends with some property shows that there is such a ledger. -/
theorem exists_ledger {p : σ × List α × List α → Bool} (as : List ι) (hs : M.initial s)
    (hrun : (M.account allowed gain loss s [] [] as).any p = true) :
    ∃ t gained lost, M.Ledger allowed gain loss t gained lost ∧ p (t, gained, lost) = true := by
  cases hend : M.account allowed gain loss s [] [] as with
  | none => simp [hend] at hrun
  | some final => exact ⟨_, _, _, ledger_account (.initial hs) hend, by simpa [hend] using hrun⟩

end Runs

end Machine
