import Mathlib.Data.List.Basic
import Mathlib.Tactic

/-!
# Placing one after the other

Items are placed one after the other, each where a rule puts it, given the places so far.

* `pairwise_place`: the places keep clear of each other if and only if each of them keeps clear of
  the ones before it, at its turn;
* `along_congr`: a rule may be replaced by another one that agrees with it as long as nothing has
  gone wrong.
-/

namespace Greedy

variable {ι ρ : Type*} {rule rule' : List ρ → ι → ρ} {p q : List ρ → ι → Prop}
  {placed : List ρ} {items : List ι}

def place (rule : List ρ → ι → ρ) (placed : List ρ) : List ι → List ρ
  | [] => placed
  | item :: items => place rule (placed ++ [rule placed item]) items

/-- What holds at the turn of each item. -/
def Along (rule : List ρ → ι → ρ) (p : List ρ → ι → Prop) (placed : List ρ) : List ι → Prop
  | [] => True
  | item :: items => p placed item ∧ Along rule p (placed ++ [rule placed item]) items

def Clear (clash : ρ → ρ → Prop) (placed : List ρ) (r : ρ) : Prop := ∀ s ∈ placed, ¬clash s r

theorem pairwise_concat {clash : ρ → ρ → Prop} {r : ρ} :
    (placed ++ [r]).Pairwise (fun s t => ¬clash s t) ↔
      placed.Pairwise (fun s t => ¬clash s t) ∧ Clear clash placed r := by
  rw [List.pairwise_append]
  constructor
  · rintro ⟨hplaced, -, hclear⟩
    exact ⟨hplaced, fun s hs => hclear s hs r (List.mem_singleton_self r)⟩
  · rintro ⟨hplaced, hclear⟩
    refine ⟨hplaced, List.pairwise_singleton _ r, fun s hs t ht => ?_⟩
    rw [List.mem_singleton.mp ht]
    exact hclear s hs

theorem pairwise_place (clash : ρ → ρ → Prop) :
    (place rule placed items).Pairwise (fun s t => ¬clash s t) ↔
      placed.Pairwise (fun s t => ¬clash s t) ∧
        Along rule (fun placed item => Clear clash placed (rule placed item)) placed items := by
  induction items generalizing placed with
  | nil => exact (and_iff_left trivial).symm
  | cons item items ih =>
    show (place rule (placed ++ [rule placed item]) items).Pairwise _ ↔ _ ∧ _ ∧ _
    rw [ih, pairwise_concat, and_assoc]

theorem along_congr (h : ∀ placed item, p placed item → rule placed item = rule' placed item) :
    Along rule p placed items ↔ Along rule' p placed items := by
  induction items generalizing placed with
  | nil => exact Iff.rfl
  | cons item items ih =>
    refine and_congr_right fun hp => ?_
    rw [← h placed item hp]
    exact ih

theorem along_iff (h : ∀ placed item, p placed item ↔ q placed item) :
    Along rule p placed items ↔ Along rule q placed items := by
  induction items generalizing placed with
  | nil => exact Iff.rfl
  | cons item items ih => exact and_congr (h placed item) ih

theorem along_of_forall (h : ∀ item ∈ items, ∀ placed, p placed item) :
    Along rule p placed items := by
  induction items generalizing placed with
  | nil => exact trivial
  | cons item items ih =>
    rw [List.forall_mem_cons] at h
    exact ⟨h.1 placed, ih h.2⟩

end Greedy
