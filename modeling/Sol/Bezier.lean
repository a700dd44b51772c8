import Sol.MotionLaws

/-!
# The bisection of a Bezier curve

The time at which a curve has some x is found by bisection.

* `tForX_spec`: the bracket, and a root next to what is found;
* `xForT_strictMonoOn`: control points between 0 and 1 let x only grow;
* `abs_tForX_sub_le`: then what is found is next to the only root.
-/

namespace Sol.Motion

namespace CubicBezier

variable {b : CubicBezier} {x : ℝ}

/-! ### The bracket -/

/-- The x is between those of the two times, which are in order. -/
structure Brackets (b : CubicBezier) (x : ℝ) (bracket : ℝ × ℝ) : Prop where
  lt : bracket.1 < bracket.2
  left : b.xForT bracket.1 ≤ x
  right : x ≤ b.xForT bracket.2

theorem brackets_unit (h0 : 0 ≤ x) (h1 : x ≤ 1) : b.Brackets x (0, 1) := by
  refine ⟨zero_lt_one, ?_, ?_⟩
  · simpa [xForT] using h0
  · simpa [xForT] using h1

/-- A round keeps the bracket, and halves it. -/
theorem Brackets.bisect {lo hi : ℝ} (h : b.Brackets x (lo, hi)) (n : ℕ) :
    b.Brackets x (b.bisect x n lo hi) ∧
      (b.bisect x n lo hi).2 - (b.bisect x n lo hi).1 = (hi - lo) / 2 ^ n := by
  induction n generalizing lo hi with
  | zero => exact ⟨h, by simp [CubicBezier.bisect]⟩
  | succ n ih =>
    have hlt : lo < hi := h.lt
    unfold CubicBezier.bisect
    by_cases hguess : x < b.xForT ((lo + hi) / 2)
    · have hleft : b.Brackets x (lo, (lo + hi) / 2) :=
        ⟨by change lo < (lo + hi) / 2; linarith, h.left, hguess.le⟩
      obtain ⟨hbrackets, hwidth⟩ := ih hleft
      rw [if_pos hguess]
      refine ⟨hbrackets, hwidth.trans ?_⟩
      rw [pow_succ]
      ring
    · have hright : b.Brackets x ((lo + hi) / 2, hi) :=
        ⟨by change (lo + hi) / 2 < hi; linarith, not_lt.mp hguess, h.right⟩
      obtain ⟨hbrackets, hwidth⟩ := ih hright
      rw [if_neg hguess]
      refine ⟨hbrackets, hwidth.trans ?_⟩
      rw [pow_succ]
      ring

theorem continuous_xForT (b : CubicBezier) : Continuous b.xForT := by
  unfold xForT
  fun_prop

/-- There is a root in a bracket. -/
theorem Brackets.exists_root {bracket : ℝ × ℝ} (h : b.Brackets x bracket) :
    ∃ t ∈ Set.Icc bracket.1 bracket.2, b.xForT t = x :=
  intermediate_value_Icc h.lt.le b.continuous_xForT.continuousOn ⟨h.left, h.right⟩

/-- What is found is in the middle of the last bracket. -/
theorem tForX_eq (b : CubicBezier) (x : ℝ) :
    b.tForX x = ((b.bisect x 31 0 1).1 + (b.bisect x 31 0 1).2) / 2 := rfl

/-- Every round keeps the x between those of the two times, and what is found is as close to a root
as the last bracket is wide. -/
theorem tForX_spec (b : CubicBezier) (h0 : 0 ≤ x) (h1 : x ≤ 1) :
    (∀ n, b.xForT (b.bisect x n 0 1).1 ≤ x ∧ x ≤ b.xForT (b.bisect x n 0 1).2) ∧
      ∃ t, b.xForT t = x ∧
        |b.tForX x - t| ≤ (b.bisect x 31 0 1).2 - (b.bisect x 31 0 1).1 := by
  have hbrackets := fun n => ((brackets_unit (b := b) h0 h1).bisect n).1
  refine ⟨fun n => ⟨(hbrackets n).left, (hbrackets n).right⟩, ?_⟩
  obtain ⟨t, ⟨hlo, hhi⟩, ht⟩ := (hbrackets 31).exists_root
  refine ⟨t, ht, ?_⟩
  rw [tForX_eq, abs_le]
  constructor <;> linarith

/-- The default curve, in the middle of its way. -/
theorem tForX_spec_wind :
    ∃ t, windCurve.xForT t = 1 / 2 ∧ |windCurve.tForX (1 / 2) - t| ≤
      (windCurve.bisect (1 / 2) 31 0 1).2 - (windCurve.bisect (1 / 2) 31 0 1).1 :=
  (tForX_spec windCurve (by norm_num) (by norm_num)).2

/-! ### The only root -/

/-- The slope between two times, for each of the extreme control points. -/
theorem xForT_sub (b : CubicBezier) (s t : ℝ) :
    b.xForT t - b.xForT s = (t - s) *
      ((1 - b.x1) * (1 - b.x2) * (s ^ 2 + s * t + t ^ 2) +
        b.x1 * (1 - b.x2) * (3 * (1 - (s + t)) ^ 2 + (t - s) ^ 2) +
        (1 - b.x1) * b.x2 * (3 * (s + t) - 2 * (s ^ 2 + s * t + t ^ 2)) +
        b.x1 * b.x2 * ((1 - s) ^ 2 + (1 - s) * (1 - t) + (1 - t) ^ 2)) := by
  unfold xForT
  ring

/-- What is between two positive numbers is positive. -/
theorem mix_pos {u p q : ℝ} (hu : u ∈ Set.Icc 0 1) (hp : 0 < p) (hq : 0 < q) :
    0 < (1 - u) * p + u * q := by
  rcases hu.1.eq_or_lt with rfl | hu0
  · simpa using hp
  · exact add_pos_of_nonneg_of_pos (mul_nonneg (sub_nonneg.mpr hu.2) hp.le) (mul_pos hu0 hq)

/-- Control points between 0 and 1 let x only grow. -/
theorem xForT_strictMonoOn (h1 : b.x1 ∈ Set.Icc 0 1) (h2 : b.x2 ∈ Set.Icc 0 1) :
    StrictMonoOn b.xForT (Set.Icc 0 1) := by
  intro s hs t ht hlt
  obtain ⟨hs0, hs1⟩ := hs
  obtain ⟨ht0, ht1⟩ := ht
  have hpos : 0 < t := hs0.trans_lt hlt
  have hst : 0 ≤ s * t := mul_nonneg hs0 ht0
  have hlow : 0 < s ^ 2 + s * t + t ^ 2 := by positivity
  have hmiddle : 0 < 3 * (1 - (s + t)) ^ 2 + (t - s) ^ 2 := by
    have := sub_pos.mpr hlt
    positivity
  have hhigh : 0 < (1 - s) ^ 2 + (1 - s) * (1 - t) + (1 - t) ^ 2 := by
    have hs' : 0 < 1 - s := by linarith
    have ht' : 0 ≤ 1 - t := by linarith
    positivity
  have hlate : 0 < 3 * (s + t) - 2 * (s ^ 2 + s * t + t ^ 2) := by
    nlinarith [mul_nonneg hs0 (sub_nonneg.mpr hs1), mul_nonneg ht0 (sub_nonneg.mpr ht1),
      mul_nonneg hs0 (sub_nonneg.mpr ht1), mul_pos hpos (sub_pos.mpr (hlt.trans_le ht1))]
  have hmix := mix_pos h1 (mix_pos h2 hlow hlate) (mix_pos h2 hmiddle hhigh)
  rw [← sub_pos, xForT_sub]
  refine mul_pos (sub_pos.mpr hlt) (hmix.trans_eq ?_)
  ring

/-- What is found is next to the only root. -/
theorem abs_tForX_sub_le (h1 : b.x1 ∈ Set.Icc 0 1) (h2 : b.x2 ∈ Set.Icc 0 1) {t : ℝ}
    (ht : t ∈ Set.Icc 0 1) : |b.tForX (b.xForT t) - t| ≤ 1 / 2 ^ 31 := by
  have hmono := xForT_strictMonoOn h1 h2
  have hx0 : 0 ≤ b.xForT t := by
    have hle := hmono.monotoneOn (Set.left_mem_Icc.mpr zero_le_one) ht ht.1
    simpa [xForT] using hle
  have hx1 : b.xForT t ≤ 1 := by
    have hle := hmono.monotoneOn ht (Set.right_mem_Icc.mpr zero_le_one) ht.2
    simpa [xForT] using hle
  obtain ⟨hbrackets, hwidth⟩ := (brackets_unit hx0 hx1).bisect 31
  obtain ⟨hlo, hlt, hhi⟩ := b.bisect_mem (b.xForT t) 31 (zero_lt_one' ℝ)
  have hleft := (hmono.le_iff_le ⟨hlo, hlt.le.trans hhi⟩ ht).mp hbrackets.left
  have hright := (hmono.le_iff_le ht ⟨hlo.trans hlt.le, hhi⟩).mp hbrackets.right
  rw [sub_zero] at hwidth
  rw [tForX_eq, abs_le]
  constructor <;> linarith

end CubicBezier

end Sol.Motion
