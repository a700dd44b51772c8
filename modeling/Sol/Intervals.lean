import Mathlib.Tactic
import Mathlib.Order.Interval.Set.LinearOrder

/-!
# Lists of intervals

A set of points of a linear order, as the list of the half-open intervals that it
consists of: none empty, in order, and with a gap between any two.

* `Separated`: such a list;
* `Separated.concat`, `Separated.cut`: a new interval and what is left of one;
* `Separated.exists_run`: what is connected in the set is within one interval.
-/

namespace Intervals

variable {α : Type*} [LinearOrder α] {l r : List (α × α)} {s t : α × α} {a b : α}

/-- The points of the intervals. -/
def points (l : List (α × α)) : Set α := {x | ∃ s ∈ l, x ∈ Set.Ico s.1 s.2}

/-- No interval is empty, and there is a gap between each and the next. -/
structure Separated (l : List (α × α)) : Prop where
  proper : ∀ s ∈ l, s.1 < s.2
  gaps : l.Pairwise fun s t => s.2 < t.1

@[simp] theorem points_nil : points ([] : List (α × α)) = ∅ := by
  ext x
  simp [points]

@[simp] theorem points_cons : points (s :: l) = Set.Ico s.1 s.2 ∪ points l := by
  ext x
  simp [points]

@[simp] theorem points_append : points (l ++ r) = points l ∪ points r := by
  ext x
  simp [points, or_and_right, exists_or]

theorem separated_nil : Separated ([] : List (α × α)) := ⟨by simp, .nil⟩

theorem separated_append : Separated (l ++ r) ↔
    Separated l ∧ Separated r ∧ ∀ s ∈ l, ∀ t ∈ r, s.2 < t.1 := by
  constructor
  · rintro ⟨hproper, hgaps⟩
    obtain ⟨hl, hr, hlr⟩ := List.pairwise_append.mp hgaps
    obtain ⟨hproperl, hproperr⟩ := List.forall_mem_append.mp hproper
    exact ⟨⟨hproperl, hl⟩, ⟨hproperr, hr⟩, hlr⟩
  · rintro ⟨hl, hr, hlr⟩
    exact ⟨List.forall_mem_append.mpr ⟨hl.proper, hr.proper⟩,
      List.pairwise_append.mpr ⟨hl.gaps, hr.gaps, hlr⟩⟩

theorem separated_cons : Separated (s :: r) ↔
    s.1 < s.2 ∧ Separated r ∧ ∀ t ∈ r, s.2 < t.1 := by
  constructor
  · rintro ⟨hproper, hgaps⟩
    obtain ⟨hs, hr⟩ := List.forall_mem_cons.mp hproper
    obtain ⟨hlt, hgaps⟩ := List.pairwise_cons.mp hgaps
    exact ⟨hs, ⟨hr, hgaps⟩, hlt⟩
  · rintro ⟨hs, hr, hlt⟩
    exact ⟨List.forall_mem_cons.mpr ⟨hs, hr.proper⟩, List.pairwise_cons.mpr ⟨hlt, hr.gaps⟩⟩

/-- What is left of an interval, on one side of a point. -/
def part (a b : α) : List (α × α) := if a < b then [(a, b)] else []

@[simp] theorem points_part : points (part a b) = Set.Ico a b := by
  unfold part
  split_ifs with hab
  · simp
  · rw [points_nil, Set.Ico_eq_empty hab]

theorem separated_part : Separated (part a b) := by
  unfold part
  split_ifs with hab
  · exact separated_cons.mpr ⟨hab, separated_nil, by simp⟩
  · exact separated_nil

theorem mem_part (h : s ∈ part a b) : s = (a, b) := by
  unfold part at h
  split_ifs at h
  · exact List.mem_singleton.mp h
  · cases h

namespace Separated

theorem of_append_left (h : Separated (l ++ r)) : Separated l := (separated_append.mp h).1

/-- A new interval between two parts of the list. -/
theorem concat (h : Separated (l ++ r)) (hab : a < b) (hl : ∀ s ∈ l, s.2 < a)
    (hr : ∀ t ∈ r, b < t.1) : Separated (l ++ (a, b) :: r) := by
  obtain ⟨hsl, hsr, hlr⟩ := separated_append.mp h
  refine separated_append.mpr ⟨hsl, separated_cons.mpr ⟨hab, hsr, hr⟩, fun s hs => ?_⟩
  exact List.forall_mem_cons.mpr ⟨hl s hs, hlr s hs⟩

/-- The interval in the middle of the list lets go of what is from `a` to `b`. -/
theorem cut (h : Separated (l ++ s :: r)) (hab : a < b) (hleft : a < s.2) (hright : s.1 < b) :
    Separated (l ++ (part s.1 a ++ (part b s.2 ++ r))) := by
  obtain ⟨hsl, hsr, hlr⟩ := separated_append.mp h
  obtain ⟨hs, hr, hsr⟩ := separated_cons.mp hsr
  refine separated_append.mpr ⟨hsl, separated_append.mpr ⟨separated_part,
    separated_append.mpr ⟨separated_part, hr, ?_⟩, ?_⟩, ?_⟩
  · intro t ht u hu
    obtain rfl := mem_part ht
    exact hsr u hu
  · intro t ht u hu
    obtain rfl := mem_part ht
    rcases List.mem_append.mp hu with hu | hu
    · obtain rfl := mem_part hu
      exact hab
    · exact hleft.trans (hsr u hu)
  · intro t ht u hu
    have hts := hlr t ht s List.mem_cons_self
    rcases List.mem_append.mp hu with hu | hu
    · obtain rfl := mem_part hu
      exact hts
    · rcases List.mem_append.mp hu with hu | hu
      · obtain rfl := mem_part hu
        exact hts.trans hright
      · exact hlr t ht u (List.mem_cons_of_mem _ hu)

/-- An interval that has a point in common with another one is that one. -/
theorem eq_of_mem (h : Separated l) (hs : s ∈ l) (ht : t ∈ l) (hle : s.1 ≤ t.2) (hge : t.1 ≤ s.2) :
    s = t := by
  by_contra hne
  obtain ⟨i, hi, rfl⟩ := List.getElem_of_mem hs
  obtain ⟨j, hj, rfl⟩ := List.getElem_of_mem ht
  have hgaps := List.pairwise_iff_getElem.mp h.gaps
  rcases Nat.lt_trichotomy i j with hlt | rfl | hgt
  · exact absurd (hgaps i j hi hj hlt) (not_lt.mpr hge)
  · exact hne rfl
  · exact absurd (hgaps j i hj hi hgt) (not_lt.mpr hle)

/-- Points that follow one another within the set are all in one of the intervals. -/
theorem exists_run (h : Separated l) (hab : a ≤ b) (hrun : Set.Icc a b ⊆ points l) :
    ∃ s ∈ l, s.1 ≤ a ∧ b < s.2 := by
  obtain ⟨s, hs, hsa, has⟩ := hrun ⟨le_rfl, hab⟩
  refine ⟨s, hs, hsa, ?_⟩
  by_contra hle
  obtain ⟨t, ht, hts, hst⟩ := hrun ⟨has.le, not_lt.mp hle⟩
  obtain rfl := h.eq_of_mem hs ht (hsa.trans (has.trans hst).le) hts
  exact lt_irrefl _ hst

end Separated

end Intervals
