import Mathlib.Data.List.Basic
import Mathlib.Tactic

/-!
# Lists of writes

All but the last of some entries of a list are deleted.

* `Forgets`: what the deleted writes leave behind is written over by the last one;
* `foldl_keepLast`: then the state after all of the writes is the same without them.
-/

namespace LastWrites

variable {σ α β : Type*} {p : α → Bool} {l : List α} {a : α}

/-- The list without all but the last of the entries with a property. -/
def keepLast (p : α → Bool) : List α → List α
  | [] => []
  | a :: l => if p a && l.any p then keepLast p l else a :: keepLast p l

theorem keepLast_sublist : (keepLast p l).Sublist l := by
  induction l with
  | nil => exact .slnil
  | cons a l ih =>
    rw [keepLast]
    split_ifs
    · exact ih.cons a
    · exact ih.cons_cons a

theorem keepLast_of_any_eq_false (h : l.any p = false) : keepLast p l = l := by
  induction l with
  | nil => rfl
  | cons a l ih =>
    rw [List.any_cons, Bool.or_eq_false_iff] at h
    rw [keepLast, if_neg (by simp [h.1]), ih h.2]

/-- The last entry is kept. -/
theorem getLast?_keepLast : (keepLast p l).getLast? = l.getLast? := by
  induction l with
  | nil => rfl
  | cons a l ih =>
    rw [keepLast]
    split_ifs with h
    · obtain ⟨b, hb, -⟩ := List.any_eq_true.mp (Bool.and_eq_true_iff.mp h).2
      rw [ih, List.getLast?_cons_of_ne_nil (List.ne_nil_of_mem hb)]
    · rw [List.getLast?_cons, List.getLast?_cons, ih]

/-- Entries of another kind are kept. -/
theorem filterMap_keepLast_of_none {f : α → Option β} (h : ∀ a, p a = true → f a = none) :
    (keepLast p l).filterMap f = l.filterMap f := by
  induction l with
  | nil => rfl
  | cons a l ih =>
    rw [keepLast]
    split_ifs with hlast
    · rw [ih, List.filterMap_cons_none (h a (Bool.and_eq_true_iff.mp hlast).1)]
    · rw [List.filterMap_cons, List.filterMap_cons, ih]

/-- Of the entries of the kind the last one is kept. -/
theorem filterMap_keepLast {f : α → Option β} (h : ∀ a, p a = (f a).isSome) :
    (keepLast p l).filterMap f = (l.filterMap f).getLast?.toList := by
  induction l with
  | nil => rfl
  | cons a l ih =>
    rw [keepLast]
    cases hf : f a with
    | none =>
      rw [if_neg (by simp [h a, hf]), List.filterMap_cons_none hf, List.filterMap_cons_none hf, ih]
    | some b =>
      have ha : p a = true := by rw [h a, hf, Option.isSome_some]
      have hany : l.any p = true ↔ l.filterMap f ≠ [] := by
        rw [Ne, List.filterMap_eq_nil_iff, List.any_eq_true]
        push Not
        simp only [h, ← Option.isSome_iff_ne_none]
      rw [List.filterMap_cons_some hf]
      by_cases hlast : l.any p = true
      · rw [if_pos (by rw [ha, hlast, Bool.true_and]), ih,
          List.getLast?_cons_of_ne_nil (hany.mp hlast)]
      · rw [if_neg (by rw [ha, Bool.true_and]; exact hlast), List.filterMap_cons_some hf, ih,
          not_not.mp (mt hany.mpr hlast)]
        rfl

/-- Lists whose entries correspond still do. -/
theorem forall₂_keepLast {R : α → β → Prop} {q : β → Bool} {m : List β}
    (hpq : ∀ a b, R a b → p a = q b) (h : List.Forall₂ R l m) :
    List.Forall₂ R (keepLast p l) (keepLast q m) := by
  have hany : ∀ {l : List α} {m : List β}, List.Forall₂ R l m → l.any p = m.any q := by
    intro l m h
    induction h with
    | nil => rfl
    | cons hab _ ih => rw [List.any_cons, List.any_cons, hpq _ _ hab, ih]
  induction h with
  | nil => exact .nil
  | cons hab hlm ih =>
    rw [keepLast, keepLast, hpq _ _ hab, hany hlm]
    split_ifs
    · exact ih
    · exact .cons hab ih

/-! ### Writes that are written over -/

/-- States that differ by deleted writes: they stay so by other writes, and they are the same after
one more of the writes. -/
structure Forgets (run : σ → α → σ) (p : α → Bool) (Agree : σ → σ → Prop) : Prop where
  refl : ∀ s, Agree s s
  forget : ∀ s t a, p a = true → Agree s t → Agree (run s a) t
  step : ∀ s t a, p a = false → Agree s t → Agree (run s a) (run t a)
  overwrite : ∀ s t a, p a = true → Agree s t → run s a = run t a

variable {run : σ → α → σ} {Agree : σ → σ → Prop}

theorem Forgets.foldl_eq (h : Forgets run p Agree) {s t : σ} (hst : Agree s t)
    (hany : l.any p = true) : l.foldl run s = (keepLast p l).foldl run t := by
  induction l generalizing s t with
  | nil => cases hany
  | cons a l ih =>
    rw [keepLast, List.foldl_cons]
    cases ha : p a with
    | false =>
      rw [List.any_cons, ha, Bool.false_or] at hany
      exact ih (h.step s t a ha hst) hany
    | true =>
      cases hlast : l.any p with
      | true => exact ih (h.forget s t a ha hst) hlast
      | false =>
        rw [keepLast_of_any_eq_false hlast, h.overwrite s t a ha hst]
        rfl

/-- The state is the same without the deleted writes. -/
theorem Forgets.foldl_keepLast (h : Forgets run p Agree) (s : σ) :
    (keepLast p l).foldl run s = l.foldl run s := by
  cases hany : l.any p with
  | false => rw [keepLast_of_any_eq_false hany]
  | true => exact (h.foldl_eq (h.refl s) hany).symm

end LastWrites
