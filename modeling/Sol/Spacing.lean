import Mathlib.Tactic

/-!
# Segments with gaps

Segments laid out one after the other between two ends, with the same gap before
the first, between any two neighbours and after the last.

* `Laid.pairwise`: they keep their distance;
* `Laid.exists_mem`: with half a gap around each they leave nothing out;
* `Laid.start_eq`, `Laid.end_eq`, `Laid.next_eq`: what is next to a segment is
  exactly one gap away;
* `laid_range`: segments of one length at equal distances.
-/

namespace Spacing

variable {K : Type*} [Field K] [LinearOrder K] {g a b x : K} {s t : K × K} {segs : List (K × K)}

/-- The segments, each a start and a length, fill the space from `a` to `b`. -/
def Laid (g a b : K) : List (K × K) → Prop
  | [] => a + g = b
  | s :: segs => s.1 = a + g ∧ 0 < s.2 ∧ Laid g (s.1 + s.2) b segs

/-- Before a segment is either the start or another one. -/
theorem Laid.before (h : Laid g a b segs) (hs : s ∈ segs) :
    s.1 = a + g ∨ ∃ t ∈ segs, s.1 = t.1 + t.2 + g := by
  induction segs generalizing a with
  | nil => exact absurd hs List.not_mem_nil
  | cons r segs ih =>
    obtain ⟨hstart, -, hrest⟩ := h
    rcases List.mem_cons.mp hs with rfl | hs
    · exact .inl hstart
    · rcases ih hrest hs with hr | ⟨t, ht, heq⟩
      · exact .inr ⟨r, List.mem_cons_self, hr⟩
      · exact .inr ⟨t, List.mem_cons_of_mem r ht, heq⟩

/-- After a segment is either the end or another one. -/
theorem Laid.after (h : Laid g a b segs) (hs : s ∈ segs) :
    s.1 + s.2 + g = b ∨ ∃ t ∈ segs, t.1 = s.1 + s.2 + g := by
  induction segs generalizing a with
  | nil => exact absurd hs List.not_mem_nil
  | cons r segs ih =>
    obtain ⟨-, -, hrest⟩ := h
    rcases List.mem_cons.mp hs with rfl | hs
    · cases segs with
      | nil => exact .inl hrest
      | cons t segs => exact .inr ⟨t, by simp, hrest.1⟩
    · exact (ih hrest hs).imp_right fun ⟨t, ht, heq⟩ => ⟨t, List.mem_cons_of_mem r ht, heq⟩

theorem laid_range' (hl : 0 < x) (c : K) (k n : ℕ) :
    Laid g (c + k * (x + g) - g) (c + (k + n : ℕ) * (x + g))
      ((List.range' k n).map fun i : ℕ => (c + i * (x + g), x)) := by
  induction n generalizing k with
  | zero => simp [Laid]
  | succ n ih =>
    rw [List.range'_succ, List.map_cons]
    refine ⟨by ring, hl, ?_⟩
    have hk := ih (k + 1)
    have hstart : c + ((k + 1 : ℕ) : K) * (x + g) - g = c + k * (x + g) + x := by push_cast; ring
    rwa [hstart, show k + 1 + n = k + (n + 1) by omega] at hk

/-- Segments of one length at equal distances. -/
theorem laid_range (hl : 0 < x) (c : K) (n : ℕ) :
    Laid g (c - g) (c + n * (x + g)) ((List.range n).map fun i : ℕ => (c + i * (x + g), x)) := by
  have h := laid_range' (g := g) hl c 0 n
  rwa [← List.range_eq_range', Nat.zero_add, Nat.cast_zero, zero_mul, add_zero] at h

variable [IsStrictOrderedRing K]

theorem Laid.bounds (hg : 0 ≤ g) (h : Laid g a b segs) :
    a + g ≤ b ∧ ∀ s ∈ segs, a + g ≤ s.1 ∧ 0 < s.2 ∧ s.1 + s.2 + g ≤ b := by
  induction segs generalizing a with
  | nil => exact ⟨h.le, fun s hs => absurd hs List.not_mem_nil⟩
  | cons s segs ih =>
    obtain ⟨hstart, hpos, hrest⟩ := h
    obtain ⟨hend, hmem⟩ := ih hrest
    refine ⟨by linarith, List.forall_mem_cons.mpr ⟨⟨hstart.ge, hpos, hend⟩, fun t ht => ?_⟩⟩
    obtain ⟨hle, htpos, htend⟩ := hmem t ht
    exact ⟨by linarith, htpos, htend⟩

theorem Laid.pairwise (hg : 0 ≤ g) (h : Laid g a b segs) :
    segs.Pairwise fun s t => s.1 + s.2 + g ≤ t.1 := by
  induction segs generalizing a with
  | nil => exact .nil
  | cons s segs ih =>
    obtain ⟨-, -, hrest⟩ := h
    exact .cons (fun t ht => ((hrest.bounds hg).2 t ht).1) (ih hrest)

/-- With half a gap around each, the segments leave nothing out. -/
theorem Laid.exists_mem (h : Laid g a b segs) (hax : a + g / 2 ≤ x) (hxb : x < b - g / 2) :
    ∃ s ∈ segs, s.1 - g / 2 ≤ x ∧ x < s.1 + s.2 + g / 2 := by
  induction segs generalizing a with
  | nil =>
    have hab : a + g = b := h
    exact absurd hxb (by linarith)
  | cons s segs ih =>
    obtain ⟨hstart, -, hrest⟩ := h
    by_cases hx : x < s.1 + s.2 + g / 2
    · exact ⟨s, List.mem_cons_self, by linarith, hx⟩
    · obtain ⟨t, ht, htx⟩ := ih hrest (not_lt.mp hx)
      exact ⟨t, List.mem_cons_of_mem s ht, htx⟩

/-- A segment with none before it is one gap away from the start. -/
theorem Laid.start_eq (hg : 0 ≤ g) (h : Laid g a b segs) (hs : s ∈ segs)
    (hnone : ∀ t ∈ segs, ¬t.1 + t.2 ≤ s.1) : s.1 = a + g := by
  refine (h.before hs).resolve_right ?_
  rintro ⟨t, ht, heq⟩
  exact hnone t ht (by linarith)

/-- A segment with none after it is one gap away from the end. -/
theorem Laid.end_eq (hg : 0 ≤ g) (h : Laid g a b segs) (hs : s ∈ segs)
    (hnone : ∀ t ∈ segs, ¬s.1 + s.2 ≤ t.1) : s.1 + s.2 + g = b := by
  refine (h.after hs).resolve_right ?_
  rintro ⟨t, ht, heq⟩
  exact hnone t ht (by linarith)

/-- Of two segments one keeps its distance after the other. -/
theorem Laid.eq_or_apart (hg : 0 ≤ g) (h : Laid g a b segs) (hs : s ∈ segs) (ht : t ∈ segs) :
    s = t ∨ s.1 + s.2 + g ≤ t.1 ∨ t.1 + t.2 + g ≤ s.1 := by
  induction segs generalizing a with
  | nil => exact absurd hs List.not_mem_nil
  | cons r segs ih =>
    obtain ⟨-, -, hrest⟩ := h
    have hr : ∀ u ∈ segs, r.1 + r.2 + g ≤ u.1 := fun u hu => ((hrest.bounds hg).2 u hu).1
    rcases List.mem_cons.mp hs with hsr | hsegs
    · rcases List.mem_cons.mp ht with htr | htegs
      · exact .inl (hsr.trans htr.symm)
      · exact .inr (.inl (hsr ▸ hr t htegs))
    · rcases List.mem_cons.mp ht with htr | htegs
      · exact .inr (.inr (htr ▸ hr s hsegs))
      · exact ih hrest hsegs htegs

/-- Two segments with none in between are one gap away from each other. -/
theorem Laid.next_eq (hg : 0 ≤ g) (h : Laid g a b segs) (hs : s ∈ segs) (ht : t ∈ segs)
    (hst : s.1 + s.2 ≤ t.1) (hnone : ∀ u ∈ segs, s.1 + s.2 ≤ u.1 → ¬u.1 + u.2 ≤ t.1) :
    t.1 = s.1 + s.2 + g := by
  obtain ⟨hstart, hpos, -⟩ := (h.bounds hg).2 s hs
  rcases h.before ht with heq | ⟨u, hu, heq⟩
  · exact absurd hst (by linarith)
  have hupos := ((h.bounds hg).2 u hu).2.1
  -- the one before `t` is neither before nor after `s`
  rcases h.eq_or_apart hg hs hu with rfl | hsu | hus
  · exact heq
  · exact absurd (show u.1 + u.2 ≤ t.1 by linarith) (hnone u hu (by linarith))
  · exact absurd hst (by linarith)

end Spacing
