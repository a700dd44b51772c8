import Sol.Intervals
import Sol.Region

/-!
# What the rectangles of a region are

The spans of a band are separated intervals of the points that the region has in each
row of the band: every rectangle adds its interval, or takes it away.

* `addSpan_spec`, `subtractSpan_spec`: the loops over the spans;
* `bandSpans_spec`: the spans of a band;
* `RegionAttributes.ys_spec`: the edges, and the bands between them;
* `regionToNonOverlappingRects_iff`: the output is the region exactly if no row has
  more points in sequence than an `i32` counts.
-/

namespace Sol

open Panicking Intervals

/-! ### Spans -/

section Spans

variable {l r : List Span} {start stop x1 x2 : ℤ}

theorem addSpan_nil : addSpan 0 r x1 x2 = .ok ((x1, x2) :: r) := Vec.insert_append [] (x1, x2) r

theorem addSpan_append : addSpan (l.length + 1) (l ++ (start, stop) :: r) x1 x2 =
    if stop < x1 then .ok (l ++ (start, stop) :: (x1, x2) :: r)
    else if x2 < start then addSpan l.length (l ++ (start, stop) :: r) x1 x2
    else addSpan l.length (l ++ r) (min x1 start) (max x2 stop) := by
  have hinsert : Vec.insert (l ++ (start, stop) :: r) (l.length + 1) (x1, x2) =
      .ok (l ++ (start, stop) :: (x1, x2) :: r) := by
    have happend := Vec.insert_append (l ++ [(start, stop)]) (x1, x2) r
    simpa using happend
  conv_lhs => unfold addSpan
  rw [Vec.get_append, Vec.remove_append, hinsert]
  rfl

theorem subtractSpan_append : subtractSpan (l.length + 1) (l ++ (start, stop) :: r) x1 x2 =
    if stop ≤ x1 then .ok (l ++ (start, stop) :: r)
    else if x2 ≤ start then subtractSpan l.length (l ++ (start, stop) :: r) x1 x2
    else subtractSpan l.length (l ++ (part start x1 ++ (part x2 stop ++ r))) x1 x2 := by
  conv_lhs => unfold subtractSpan
  rw [Vec.get_append, Vec.remove_append]
  simp only [bind, Except.bind, pure, Except.pure, part]
  split_ifs
  · rfl
  · rfl
  · simp only [Vec.insert_append, List.singleton_append]
  · simp only [Vec.insert_append, List.singleton_append, List.nil_append]
  · simp only [Vec.insert_append, List.singleton_append, List.nil_append]
  · simp only [List.nil_append]

/-- Added are the points of the rectangle: the spans that it touches become one. -/
theorem addSpan_spec (h : Separated (l ++ r)) (hx : x1 < x2) (hr : ∀ t ∈ r, x2 < t.1) :
    Returns (addSpan l.length (l ++ r) x1 x2) fun spans =>
      Separated spans ∧ points spans = points (l ++ r) ∪ Set.Ico x1 x2 := by
  induction l using List.reverseRecOn generalizing r x1 x2 with
  | nil =>
    rw [List.length_nil, addSpan_nil, returns_ok]
    refine ⟨h.concat hx (by simp) hr, ?_⟩
    rw [List.nil_append, points_cons, Set.union_comm]
  | append_singleton l s ih =>
    obtain ⟨start, stop⟩ := s
    rw [List.append_assoc, List.singleton_append] at h ⊢
    obtain ⟨hsl, hsr, hlr⟩ := separated_append.mp h
    obtain ⟨hs, hsr, hst⟩ := separated_cons.mp hsr
    rw [List.length_append, List.length_singleton, addSpan_append]
    split_ifs with hright hleft
    · -- after this span, and so after all those before it
      have hsep : Separated (l ++ [(start, stop)] ++ (x1, x2) :: r) := by
        refine Separated.concat (by simpa using h) hx ?_ hr
        refine List.forall_mem_append.mpr ⟨fun t ht => ?_, by simpa using hright⟩
        exact (hlr t ht _ List.mem_cons_self).trans (hs.trans hright)
      rw [returns_ok]
      refine ⟨by simpa using hsep, ?_⟩
      ext x
      simp only [points_append, points_cons, Set.mem_union]
      tauto
    · exact ih h hx (List.forall_mem_cons.mpr ⟨hleft, hr⟩)
    · -- it touches this span
      have hsep : Separated (l ++ r) :=
        separated_append.mpr ⟨hsl, hsr, fun s hs t ht => hlr s hs t (List.mem_cons_of_mem _ ht)⟩
      have hproper : min x1 start < max x2 stop := (min_le_left _ _).trans_lt (lt_max_of_lt_left hx)
      have hmerge : Set.Ico x1 x2 ∪ Set.Ico start stop = Set.Ico (min x1 start) (max x2 stop) :=
        Set.Ico_union_Ico' (not_lt.mp hleft) (not_lt.mp hright)
      refine (ih hsep hproper fun t ht => max_lt (hr t ht) (hst t ht)).mono fun spans hspans => ?_
      refine ⟨hspans.1, ?_⟩
      rw [hspans.2, ← hmerge]
      ext x
      simp only [points_append, points_cons, Set.mem_union]
      tauto

/-- Subtracted are the points of the rectangle: spans are cut, and some are lost. -/
theorem subtractSpan_spec (h : Separated (l ++ r)) (hx : x1 < x2) :
    Returns (subtractSpan l.length (l ++ r) x1 x2) fun spans =>
      Separated spans ∧ points spans = points l \ Set.Ico x1 x2 ∪ points r := by
  induction l using List.reverseRecOn generalizing r with
  | nil =>
    refine returns_pure.mpr ⟨h, ?_⟩
    rw [List.nil_append, points_nil, Set.empty_sdiff, Set.empty_union]
  | append_singleton l s ih =>
    obtain ⟨start, stop⟩ := s
    rw [List.append_assoc, List.singleton_append] at h ⊢
    obtain ⟨hsl, hsr, hlr⟩ := separated_append.mp h
    obtain ⟨hs, hsr, hst⟩ := separated_cons.mp hsr
    rw [List.length_append, List.length_singleton, subtractSpan_append, points_append,
      points_cons, points_nil, Set.union_empty, Set.union_sdiff_distrib]
    dsimp only at hs ⊢
    split_ifs with hright hleft
    · -- all the spans that are left end before it
      rw [returns_ok]
      refine ⟨h, ?_⟩
      have hl : points l \ Set.Ico x1 x2 = points l := by
        refine sdiff_eq_left.mpr (Set.disjoint_left.mpr ?_)
        rintro x ⟨t, ht, hxt⟩ hx12
        have hlt := hlr t ht _ List.mem_cons_self
        exact absurd (hxt.2.trans (hlt.trans hs)) (not_lt.mpr (hright.trans hx12.1))
      have hspan : Set.Ico start stop \ Set.Ico x1 x2 = Set.Ico start stop := by
        refine sdiff_eq_left.mpr (Set.disjoint_left.mpr fun x hxs hx12 => ?_)
        exact absurd hxs.2 (not_lt.mpr (hright.trans hx12.1))
      rw [hl, hspan, points_append, points_cons, Set.union_assoc]
    · have hspan : Set.Ico start stop \ Set.Ico x1 x2 = Set.Ico start stop := by
        refine sdiff_eq_left.mpr (Set.disjoint_left.mpr fun x hxs hx12 => ?_)
        exact absurd hx12.2 (not_lt.mpr (hleft.trans hxs.1))
      refine (ih h).mono fun spans hspans => ⟨hspans.1, ?_⟩
      rw [hspans.2, hspan, points_cons, Set.union_assoc]
    · rw [not_le] at hright hleft
      have hcut : Set.Ico start stop \ Set.Ico x1 x2 = Set.Ico start x1 ∪ Set.Ico x2 stop := by
        ext x
        simp only [Set.mem_sdiff, Set.mem_union, Set.mem_Ico]
        omega
      refine (ih (h.cut hx hright hleft)).mono fun spans hspans => ⟨hspans.1, ?_⟩
      rw [hspans.2, hcut, points_append, points_append, points_part, points_part,
        Set.union_assoc, Set.union_assoc]

end Spans

/-! ### Points -/

/-- The points of a rectangle. -/
def IRect.Contains (r : IRect) (p : IPoint) : Prop :=
  (r.loc.x ≤ p.x ∧ p.x < r.loc.x + r.size.w) ∧ r.loc.y ≤ p.y ∧ p.y < r.loc.y + r.size.h

/-- The sizes are not negative, and no corner is outside of `i32`. -/
structure IRect.Proper (r : IRect) : Prop where
  width : 0 ≤ r.size.w
  height : 0 ≤ r.size.h
  left : FitsI32 r.loc.x
  top : FitsI32 r.loc.y
  right : FitsI32 (r.loc.x + r.size.w)
  bottom : FitsI32 (r.loc.y + r.size.h)
  widthFits : FitsI32 r.size.w
  heightFits : FitsI32 r.size.h

namespace RegionAttributes

/-- A point is in the region if the last rectangle that contains it is added. -/
def Contains (region : RegionAttributes) (p : IPoint) : Prop :=
  ∃ before r after, region.rects = before ++ (.add, r) :: after ∧ r.Contains p ∧
    ∀ q ∈ after, ¬q.2.Contains p

/-- All the rectangles are proper. -/
def Proper (region : RegionAttributes) : Prop := ∀ q ∈ region.rects, q.2.Proper

variable {rects : List (RectangleKind × IRect)} {kind : RectangleKind} {r : IRect} {p : IPoint}

theorem not_contains_nil : ¬Contains ⟨[]⟩ p := by
  rintro ⟨before, r, after, heq, -⟩
  simp at heq

/-- What the last rectangle says of a point that it contains. -/
theorem contains_concat_of_mem (hr : r.Contains p) :
    Contains ⟨rects ++ [(kind, r)]⟩ p ↔ kind = .add := by
  constructor
  · rintro ⟨before, r', after, heq, hr', hafter⟩
    rcases List.eq_nil_or_concat after with rfl | ⟨after, last, rfl⟩
    · have hlast := List.append_inj_right' heq rfl
      simp only [List.cons.injEq, Prod.mk.injEq] at hlast
      exact hlast.1.1
    · rw [List.concat_eq_append, ← List.cons_append, ← List.append_assoc] at heq
      have hlast := List.append_inj_right' heq rfl
      obtain rfl : (kind, r) = last := by simpa using hlast
      exact absurd hr (hafter (kind, r) (by simp))
  · rintro rfl
    exact ⟨rects, r, [], rfl, hr, by simp⟩

/-- Of other points the rectangles before it decide. -/
theorem contains_concat_of_not_mem (hr : ¬r.Contains p) :
    Contains ⟨rects ++ [(kind, r)]⟩ p ↔ Contains ⟨rects⟩ p := by
  constructor
  · rintro ⟨before, r', after, heq, hr', hafter⟩
    rcases List.eq_nil_or_concat after with rfl | ⟨after, last, rfl⟩
    · have hlast := List.append_inj_right' heq rfl
      simp only [List.cons.injEq, Prod.mk.injEq] at hlast
      exact absurd (hlast.1.2 ▸ hr') hr
    · rw [List.concat_eq_append, ← List.cons_append, ← List.append_assoc] at heq
      have hfirst := List.append_inj_left' heq rfl
      exact ⟨before, r', after, hfirst, hr', fun q hq => hafter q (by simp [hq])⟩
  · rintro ⟨before, r', after, heq, hr', hafter⟩
    have heq : rects = before ++ (.add, r') :: after := heq
    refine ⟨before, r', after ++ [(kind, r)], by simp [heq], hr', ?_⟩
    exact List.forall_mem_append.mpr ⟨hafter, by simpa using hr⟩

/-- Some rectangle contains every point of the region. -/
theorem Contains.exists_mem {region : RegionAttributes} (h : region.Contains p) :
    ∃ q ∈ region.rects, q.2.Contains p := by
  obtain ⟨before, r, after, heq, hr, -⟩ := h
  exact ⟨(.add, r), by simp [heq], hr⟩

end RegionAttributes

/-! ### Bands -/

/-- The edge of no rectangle is strictly within the band from `lo` to `hi`. -/
def Clear (lo hi : ℤ) (r : IRect) : Prop :=
  (r.loc.y ≤ lo ∨ hi ≤ r.loc.y) ∧ (r.loc.y + r.size.h ≤ lo ∨ hi ≤ r.loc.y + r.size.h)

theorem checkedAddI32_eq {a b : ℤ} (h : FitsI32 (a + b)) : checkedAddI32 a b = .ok (a + b) :=
  if_pos h

section Bands

variable {lo hi : ℤ} {rects : List (RectangleKind × IRect)} {spans : List Span}

/-- The spans hold the points of each row of the band. -/
def Holds (lo hi : ℤ) (rects : List (RectangleKind × IRect)) (spans : List Span) : Prop :=
  Separated spans ∧ ∀ x y, lo ≤ y → y < hi →
    (x ∈ points spans ↔ RegionAttributes.Contains ⟨rects⟩ ⟨x, y⟩)

/-- A rectangle without points in the band changes nothing. -/
theorem Holds.skip (h : Holds lo hi rects spans) {kind : RectangleKind} {r : IRect}
    (hr : ∀ x y, lo ≤ y → y < hi → ¬r.Contains ⟨x, y⟩) :
    Holds lo hi (rects ++ [(kind, r)]) spans := by
  refine ⟨h.1, fun x y hlo hhi => (h.2 x y hlo hhi).trans ?_⟩
  exact (RegionAttributes.contains_concat_of_not_mem (hr x y hlo hhi)).symm

theorem bandStep_spec (h : Holds lo hi rects spans) {kind : RectangleKind} {r : IRect}
    (hproper : r.Proper) (hclear : Clear lo hi r) :
    Returns (bandStep lo hi spans (kind, r)) (Holds lo hi (rects ++ [(kind, r)])) := by
  unfold bandStep
  simp only [checkedAddI32_eq hproper.bottom, checkedAddI32_eq hproper.right, returns_ite,
    returns_pure, returns_bind, returns_ok]
  refine ⟨fun hbelow => h.skip fun x y hlo hhi hr => ?_, fun hbelow =>
    ⟨fun habove => h.skip fun x y hlo hhi hr => ?_, fun habove =>
      ⟨fun hempty => h.skip fun x y hlo hhi hr => ?_, fun hempty => ?_⟩⟩⟩
  · exact absurd (hr.2.1.trans_lt hhi) (not_lt.mpr hbelow)
  · exact absurd (hlo.trans_lt hr.2.2) (not_lt.mpr habove)
  · exact absurd (hr.1.1.trans_lt hr.1.2) (not_lt.mpr hempty.ge)
  · -- the rectangle goes across the whole band
    have hacross : r.loc.y ≤ lo ∧ hi ≤ r.loc.y + r.size.h := by
      obtain ⟨htop, hbottom⟩ := hclear
      omega
    have hx : r.loc.x < r.loc.x + r.size.w := by
      have := hproper.width
      omega
    have hmem : ∀ x y, lo ≤ y → y < hi →
        (r.Contains ⟨x, y⟩ ↔ x ∈ Set.Ico r.loc.x (r.loc.x + r.size.w)) := by
      intro x y hlo hhi
      refine ⟨And.left, fun hx => ⟨hx, ?_, ?_⟩⟩
      · exact hacross.1.trans hlo
      · exact hhi.trans_le hacross.2
    have hsep : Separated (spans ++ []) := by simpa using h.1
    cases kind with
    | add =>
      have hspec := addSpan_spec hsep hx (by simp)
      rw [List.append_nil] at hspec
      refine hspec.mono fun spans' hspans => ⟨hspans.1, fun x y hlo hhi => ?_⟩
      rw [hspans.2, Set.mem_union, h.2 x y hlo hhi, ← hmem x y hlo hhi]
      by_cases hr : r.Contains ⟨x, y⟩
      · simp [RegionAttributes.contains_concat_of_mem hr, hr]
      · rw [RegionAttributes.contains_concat_of_not_mem hr]
        simp [hr]
    | subtract =>
      have hspec := subtractSpan_spec hsep hx
      rw [List.append_nil] at hspec
      refine hspec.mono fun spans' hspans => ⟨hspans.1, fun x y hlo hhi => ?_⟩
      rw [hspans.2, points_nil, Set.union_empty, Set.mem_sdiff, h.2 x y hlo hhi,
        ← hmem x y hlo hhi]
      by_cases hr : r.Contains ⟨x, y⟩
      · simp [RegionAttributes.contains_concat_of_mem hr, hr]
      · rw [RegionAttributes.contains_concat_of_not_mem hr]
        simp [hr]

/-- The spans of a band, after all the rectangles. -/
theorem bandSpans_spec (hproper : ∀ q ∈ rects, q.2.Proper)
    (hclear : ∀ q ∈ rects, Clear lo hi q.2) :
    Returns (rects.foldlM (bandStep lo hi) []) (Holds lo hi rects) := by
  induction rects using List.reverseRecOn with
  | nil =>
    refine returns_pure.mpr ⟨separated_nil, fun x y _ _ => ?_⟩
    simp [RegionAttributes.not_contains_nil]
  | append_singleton rects q ih =>
    obtain ⟨hproper, hq⟩ := List.forall_mem_append.mp hproper
    obtain ⟨hclear, hqclear⟩ := List.forall_mem_append.mp hclear
    rw [List.foldlM_append, returns_bind]
    refine (ih hproper hclear).mono fun spans hspans => ?_
    rw [List.foldlM_cons, returns_bind]
    refine (bandStep_spec hspans (hq q (by simp)) (hqclear q (by simp))).mono ?_
    exact fun spans hspans => returns_pure.mpr hspans

end Bands

/-! ### Corners -/

/-- The points between two corners. -/
def Between (c : IPoint × IPoint) (p : IPoint) : Prop :=
  (c.1.x ≤ p.x ∧ p.x < c.2.x) ∧ c.1.y ≤ p.y ∧ p.y < c.2.y

/-- Two pairs of corners one below the other, or in one band with a gap between them. -/
def Apart (c d : IPoint × IPoint) : Prop :=
  c.2.y ≤ d.1.y ∨ c.1.y = d.1.y ∧ c.2.y = d.2.y ∧ c.2.x < d.1.x

/-- The corners of the output, from some row on. -/
structure Tiles (region : RegionAttributes) (lo : ℤ) (corners : List (IPoint × IPoint)) :
    Prop where
  proper : ∀ c ∈ corners, c.1.x < c.2.x ∧ c.1.y < c.2.y ∧ lo ≤ c.1.y
  height : ∀ c ∈ corners, FitsI32 (c.2.y - c.1.y)
  apart : corners.Pairwise Apart
  covers : ∀ p, lo ≤ p.y → (region.Contains p ↔ ∃ c ∈ corners, Between c p)

namespace Tiles

variable {region : RegionAttributes} {lo hi : ℤ} {corners : List (IPoint × IPoint)}
  {c d : IPoint × IPoint} {p : IPoint}

/-- Corners with a point in common are the same. -/
theorem eq_of_between (h : Tiles region lo corners) (hc : c ∈ corners) (hd : d ∈ corners)
    (hrow : c.1.y ≤ p.y ∧ p.y < c.2.y) (hdp : Between d p) (hleft : c.1.x ≤ p.x)
    (hright : p.x ≤ c.2.x) : c = d := by
  by_contra hne
  have hnot : ∀ {a b : IPoint × IPoint}, Apart a b → ¬(a.1.y ≤ p.y ∧ p.y < a.2.y ∧
      b.1.y ≤ p.y ∧ p.y < b.2.y ∧ b.1.x ≤ p.x ∧ p.x ≤ a.2.x) := by
    intro a b hab
    unfold Apart at hab
    omega
  obtain ⟨⟨hdl, hdr⟩, hdt, hdb⟩ := hdp
  obtain ⟨i, hi, rfl⟩ := List.getElem_of_mem hc
  obtain ⟨j, hj, rfl⟩ := List.getElem_of_mem hd
  have hapart := List.pairwise_iff_getElem.mp h.apart
  rcases Nat.lt_trichotomy i j with hlt | rfl | hgt
  · exact hnot (hapart i j hi hj hlt) ⟨hrow.1, hrow.2, hdt, hdb, hdl, hright⟩
  · exact hne rfl
  · exact hnot (hapart j i hj hi hgt) ⟨hdt, hdb, hrow.1, hrow.2, hleft, hdr.le⟩

/-- Points of a row in sequence are all between the same corners. -/
theorem exists_run (h : Tiles region lo corners) (hp : lo ≤ p.y) {n : ℤ} (hn : 0 ≤ n)
    (hrun : ∀ d, 0 ≤ d → d ≤ n → region.Contains ⟨p.x + d, p.y⟩) :
    ∃ c ∈ corners, Between c p ∧ p.x + n < c.2.x := by
  have hfirst := hrun 0 le_rfl hn
  rw [add_zero] at hfirst
  obtain ⟨c, hc, hcp⟩ := (h.covers p hp).mp hfirst
  refine ⟨c, hc, hcp, ?_⟩
  by_contra hlong
  obtain ⟨⟨hleft, hright⟩, hrow⟩ := hcp
  have hnext := hrun (c.2.x - p.x) (by omega) (by omega)
  rw [add_sub_cancel] at hnext
  obtain ⟨d, hd, hdp⟩ := (h.covers ⟨c.2.x, p.y⟩ hp).mp hnext
  obtain rfl := h.eq_of_between hc hd (p := ⟨c.2.x, p.y⟩) hrow hdp (hleft.trans hright.le) le_rfl
  exact lt_irrefl _ hdp.1.2

/-- The corners of a band go before those of the bands below it. -/
theorem cons {spans : List Span} (h : Tiles region hi corners)
    (hspans : Holds lo hi region.rects spans) (hlt : lo < hi)
    (hheight : spans ≠ [] → FitsI32 (hi - lo)) :
    Tiles region lo (spans.map (fun s => (⟨s.1, lo⟩, ⟨s.2, hi⟩)) ++ corners) where
  proper := by
    refine List.forall_mem_append.mpr ⟨List.forall_mem_map.mpr fun s hs => ?_, fun c hc => ?_⟩
    · exact ⟨hspans.1.proper s hs, hlt, le_rfl⟩
    · obtain ⟨hx, hy, hlo⟩ := h.proper c hc
      exact ⟨hx, hy, hlt.le.trans hlo⟩
  height := by
    refine List.forall_mem_append.mpr ⟨List.forall_mem_map.mpr fun s hs => ?_, h.height⟩
    exact hheight (List.ne_nil_of_mem hs)
  apart := by
    refine List.pairwise_append.mpr ⟨List.pairwise_map.mpr ?_, h.apart, ?_⟩
    · exact hspans.1.gaps.imp fun hgap => .inr ⟨rfl, rfl, hgap⟩
    · refine List.forall_mem_map.mpr fun s hs d hd => ?_
      exact .inl (h.proper d hd).2.2
  covers := by
    intro p hp
    simp only [List.mem_append, or_and_right, exists_or]
    rcases lt_or_ge p.y hi with hrow | hrow
    · have hbelow : ¬∃ c ∈ corners, Between c p := by
        rintro ⟨c, hc, hcp⟩
        exact absurd (hcp.2.1.trans_lt hrow) (not_lt.mpr (h.proper c hc).2.2)
      rw [or_iff_left hbelow, ← hspans.2 p.x p.y hp hrow]
      constructor
      · rintro ⟨s, hs, hx⟩
        exact ⟨_, List.mem_map_of_mem hs, hx, hp, hrow⟩
      · rintro ⟨c, hc, hcp⟩
        obtain ⟨s, hs, rfl⟩ := List.mem_map.mp hc
        exact ⟨s, hs, hcp.1⟩
    · have habove : ¬∃ c ∈ spans.map (fun s => ((⟨s.1, lo⟩ : IPoint), (⟨s.2, hi⟩ : IPoint))),
          Between c p := by
        rintro ⟨c, hc, hcp⟩
        obtain ⟨s, hs, rfl⟩ := List.mem_map.mp hc
        exact absurd hcp.2.2 (not_lt.mpr hrow)
      rw [or_iff_right habove]
      exact h.covers p hrow

end Tiles

/-! ### The sweep -/

section Sweep

variable {fromExtremities : IPoint → IPoint → Outcome IRect} {region : RegionAttributes}

/-- The sweep makes one rectangle after the other from the corners, in the order of the
bands. -/
theorem sweep_spec (fromExtremities : IPoint → IPoint → Outcome IRect)
    (hregion : region.Proper) {lo : ℤ} {ys : List ℤ}
    (hsorted : (lo :: ys).Pairwise (· < ·))
    (hedges : ∀ q ∈ region.rects, (q.2.loc.y ≤ lo ∨ q.2.loc.y ∈ ys) ∧
      (q.2.loc.y + q.2.size.h ≤ lo ∨ q.2.loc.y + q.2.size.h ∈ ys)) :
    ∃ corners, Tiles region lo corners ∧ ∀ output,
      sweep fromExtremities region lo ys output = (do
        let rects ← corners.mapM fun c => fromExtremities c.1 c.2
        pure (output ++ rects)) := by
  induction ys generalizing lo with
  | nil =>
    refine ⟨[], ⟨by simp, by simp, .nil, fun p hp => ?_⟩, fun output => by simp [sweep]⟩
    constructor
    · intro hcontains
      obtain ⟨q, hq, hqp⟩ := hcontains.exists_mem
      obtain ⟨-, hbottom | hbottom⟩ := hedges q hq
      · exact absurd (hp.trans_lt hqp.2.2) (not_lt.mpr hbottom)
      · cases hbottom
    · rintro ⟨c, hc, -⟩
      cases hc
  | cons hi ys ih =>
    obtain ⟨hfirst, hsorted⟩ := List.pairwise_cons.mp hsorted
    have hlt := hfirst hi List.mem_cons_self
    have hedge : ∀ y, y ≤ lo ∨ y ∈ hi :: ys → (y ≤ lo ∨ hi ≤ y) ∧ (y ≤ hi ∨ y ∈ ys) := by
      rintro y (hy | hy)
      · exact ⟨.inl hy, .inl (hy.trans hlt.le)⟩
      · rcases List.mem_cons.mp hy with rfl | hy
        · exact ⟨.inr le_rfl, .inl le_rfl⟩
        · exact ⟨.inr ((List.pairwise_cons.mp hsorted).1 y hy).le, .inr hy⟩
    obtain ⟨corners, htiles, hsweep⟩ := ih hsorted fun q hq =>
      ⟨(hedge _ (hedges q hq).1).2, (hedge _ (hedges q hq).2).2⟩
    have hclear : ∀ q ∈ region.rects, Clear lo hi q.2 := fun q hq =>
      ⟨(hedge _ (hedges q hq).1).1, (hedge _ (hedges q hq).2).1⟩
    obtain ⟨spans, hspans, hholds⟩ := bandSpans_spec hregion hclear
    refine ⟨_, htiles.cons hholds hlt fun hne => ?_, fun output => ?_⟩
    · -- some rectangle goes across the band
      obtain ⟨s, hs⟩ := List.exists_mem_of_ne_nil _ hne
      have hmem : s.1 ∈ points spans := ⟨s, hs, le_rfl, hholds.1.proper s hs⟩
      obtain ⟨q, hq, hqp⟩ := ((hholds.2 s.1 lo le_rfl hlt).mp hmem).exists_mem
      obtain ⟨htop, hbottom⟩ := hclear q hq
      obtain ⟨hqlo, hqhi⟩ := hqp.2
      have hfits := (hregion q hq).heightFits
      dsimp only at hqlo hqhi
      unfold FitsI32 at hfits ⊢
      omega
    · unfold sweep
      rw [hspans]
      simp only [List.mapM_append, List.mapM_map, Function.comp_def, hsweep, bind_assoc, pure_bind,
        List.append_assoc]
      rfl

/-- The edges of the rectangles, in order. -/
theorem RegionAttributes.ys_spec
    (hbottoms : ∀ q ∈ region.rects, FitsI32 (q.2.loc.y + q.2.size.h)) : Returns region.ys fun ys =>
    ys.Pairwise (· < ·) ∧ (ys = [] → region.rects = []) ∧ ∀ q ∈ region.rects,
      q.2.loc.y ∈ ys ∧ q.2.loc.y + q.2.size.h ∈ ys := by
  have hmapM : region.rects.mapM (fun q : RectangleKind × IRect => do
      let bottom ← checkedAddI32 q.2.loc.y q.2.size.h
      pure [q.2.loc.y, bottom]) =
      .ok (region.rects.map fun q => [q.2.loc.y, q.2.loc.y + q.2.size.h]) := by
    refine Vec.mapM_eq_ok_map fun q hq => ?_
    rw [checkedAddI32_eq (hbottoms q hq)]
    rfl
  unfold ys
  rw [returns_bind]
  refine ⟨_, hmapM, returns_pure.mpr ?_⟩
  have hmem : ∀ y, y ∈ ((region.rects.map fun q => [q.2.loc.y, q.2.loc.y + q.2.size.h]).flatten.dedup
      ).insertionSort (· ≤ ·) ↔ ∃ q ∈ region.rects, y = q.2.loc.y ∨ y = q.2.loc.y + q.2.size.h := by
    intro y
    rw [List.mem_insertionSort, List.mem_dedup, List.mem_flatten]
    simp
  refine ⟨?_, ?_, fun q hq => ⟨?_, ?_⟩⟩
  · have hle := List.pairwise_insertionSort (· ≤ ·)
      (region.rects.map fun q => [q.2.loc.y, q.2.loc.y + q.2.size.h]).flatten.dedup
    have hne := (List.perm_insertionSort (· ≤ ·) _).nodup_iff.mpr
      (List.nodup_dedup (region.rects.map fun q => [q.2.loc.y, q.2.loc.y + q.2.size.h]).flatten)
    exact (hle.and hne).imp fun h => lt_of_le_of_ne h.1 h.2
  · intro hnil
    refine List.eq_nil_iff_forall_not_mem.mpr fun q hq => ?_
    have hq := (hmem _).mpr ⟨q, hq, .inl rfl⟩
    rw [hnil] at hq
    cases hq
  · exact (hmem _).mpr ⟨q, hq, .inl rfl⟩
  · exact (hmem _).mpr ⟨q, hq, .inr rfl⟩

/-! ### The output -/

/-- What `Rectangle::from_extremities` makes of two corners: a rectangle of `i32` at the
first one, which reaches to the second one unless that is too far away; if it is, the
call may also panic. -/
structure IsFromExtremities (fromExtremities : IPoint → IPoint → Outcome IRect) : Prop where
  returns : ∀ a b, a.x ≤ b.x → a.y ≤ b.y → FitsI32 (b.x - a.x) → FitsI32 (b.y - a.y) →
    Returns (fromExtremities a b) fun _ => True
  loc : ∀ a b, Ensures (fromExtremities a b) fun r => r.loc = a
  width : ∀ a b, Ensures (fromExtremities a b) fun r =>
    FitsI32 r.size.w ∧ (FitsI32 (b.x - a.x) → r.size.w = b.x - a.x)
  height : ∀ a b, Ensures (fromExtremities a b) fun r =>
    FitsI32 r.size.h ∧ (FitsI32 (b.y - a.y) → r.size.h = b.y - a.y)

/-- The output is the region, in rectangles that do not overlap. -/
structure RegionAttributes.Is (region : RegionAttributes) (output : List IRect) : Prop where
  nonempty : ∀ r ∈ output, 0 < r.size.w ∧ 0 < r.size.h
  disjoint : output.Pairwise fun r s => ∀ p, ¬(r.Contains p ∧ s.Contains p)
  union : ∀ p, region.Contains p ↔ ∃ r ∈ output, r.Contains p

/-- No row has more points of the region in sequence than an `i32` counts. -/
def RegionAttributes.Narrow (region : RegionAttributes) : Prop :=
  ∀ p : IPoint, ∃ d, 0 ≤ d ∧ d < 2 ^ 31 ∧ ¬region.Contains ⟨p.x + d, p.y⟩

/-- The rectangle between two corners. -/
def rectBetween (c : IPoint × IPoint) : IRect := ⟨c.1, ⟨c.2.x - c.1.x, c.2.y - c.1.y⟩⟩

theorem rectBetween_contains {c : IPoint × IPoint} {p : IPoint} :
    (rectBetween c).Contains p ↔ Between c p := by
  unfold IRect.Contains Between rectBetween
  simp only [add_sub_cancel]

namespace IsFromExtremities

variable {c : IPoint × IPoint} {r : IRect} {p : IPoint}

/-- Corners that are not too far apart are those of the rectangle. -/
theorem eq_ok (h : IsFromExtremities fromExtremities) (hx : c.1.x ≤ c.2.x) (hy : c.1.y ≤ c.2.y)
    (hwidth : FitsI32 (c.2.x - c.1.x)) (hheight : FitsI32 (c.2.y - c.1.y)) :
    fromExtremities c.1 c.2 = .ok (rectBetween c) := by
  obtain ⟨⟨loc, w, h'⟩, hr, -⟩ := h.returns _ _ hx hy hwidth hheight
  obtain rfl : loc = c.1 := h.loc _ _ _ hr
  obtain rfl : w = c.2.x - c.1.x := (h.width _ _ _ hr).2 hwidth
  obtain rfl : h' = c.2.y - c.1.y := (h.height _ _ _ hr).2 hheight
  exact hr

/-- The rectangle does not reach beyond its corners. -/
theorem between_of_contains (h : IsFromExtremities fromExtremities)
    (hr : fromExtremities c.1 c.2 = .ok r) (hc : c.1.x < c.2.x)
    (hheight : FitsI32 (c.2.y - c.1.y)) (hp : r.Contains p) : Between c p := by
  unfold IRect.Contains at hp
  rw [h.loc _ _ r hr, (h.height _ _ r hr).2 hheight, add_sub_cancel] at hp
  obtain ⟨hfits, heq⟩ := h.width _ _ r hr
  refine ⟨⟨hp.1.1, ?_⟩, hp.2⟩
  by_cases hwidth : FitsI32 (c.2.x - c.1.x)
  · have heq := heq hwidth
    omega
  · unfold FitsI32 at hwidth hfits
    omega

end IsFromExtremities

/-- The corners of the output are not too far apart exactly if the region is narrow. -/
theorem Tiles.narrow_iff {lo : ℤ} {corners : List (IPoint × IPoint)}
    (h : Tiles region lo corners) (hlo : ∀ p, region.Contains p → lo ≤ p.y) :
    region.Narrow ↔ ∀ c ∈ corners, FitsI32 (c.2.x - c.1.x) := by
  constructor
  · intro hnarrow c hc
    obtain ⟨hx, hy, hclo⟩ := h.proper c hc
    obtain ⟨d, hd, hdlt, hnot⟩ := hnarrow c.1
    have hwithin : ¬c.1.x + d < c.2.x := fun hlt =>
      hnot ((h.covers ⟨c.1.x + d, c.1.y⟩ hclo).mpr
        ⟨c, hc, ⟨Int.le_add_of_nonneg_right hd, hlt⟩, le_rfl, hy⟩)
    unfold FitsI32
    omega
  · intro hfits p
    by_contra hall
    push Not at hall
    have hfirst := hlo _ (hall 0 le_rfl (by norm_num))
    obtain ⟨c, hc, hcp, hlong⟩ := h.exists_run (p := p) hfirst (n := 2 ^ 31 - 1) (by norm_num)
      fun d hd hdle => hall d hd (by omega)
    have hwidth := hfits c hc
    obtain ⟨⟨hleft, -⟩, -⟩ := hcp
    unfold FitsI32 at hwidth
    omega

/-- The output is made from the corners of the tiles of the region. -/
theorem exists_tiles (fromExtremities : IPoint → IPoint → Outcome IRect)
    (hregion : region.Proper) : ∃ lo corners, Tiles region lo corners ∧
      (∀ p, region.Contains p → lo ≤ p.y) ∧
        regionToNonOverlappingRects fromExtremities region =
          corners.mapM fun c => fromExtremities c.1 c.2 := by
  obtain ⟨ys, hys, hsorted, hnil, hedges⟩ :=
    RegionAttributes.ys_spec fun q hq => (hregion q hq).bottom
  unfold regionToNonOverlappingRects
  rw [hys]
  cases ys with
  | nil =>
    obtain ⟨rects⟩ := region
    obtain rfl : rects = [] := hnil rfl
    have hnot : ∀ p, ¬RegionAttributes.Contains ⟨[]⟩ p :=
      fun _ => RegionAttributes.not_contains_nil
    exact ⟨0, [], ⟨by simp, by simp, .nil, fun p _ => by simp [hnot]⟩,
      fun p hp => absurd hp (hnot p), rfl⟩
  | cons lo ys =>
    have hmem : ∀ y, y ∈ lo :: ys → y ≤ lo ∨ y ∈ ys := fun y hy =>
      (List.mem_cons.mp hy).imp_left le_of_eq
    obtain ⟨corners, htiles, hsweep⟩ := sweep_spec fromExtremities hregion
      hsorted fun q hq => ⟨hmem _ (hedges q hq).1, hmem _ (hedges q hq).2⟩
    refine ⟨lo, corners, htiles, fun p hp => ?_, ?_⟩
    · obtain ⟨q, hq, hqp⟩ := hp.exists_mem
      rcases List.mem_cons.mp (hedges q hq).1 with heq | htop
      · exact heq ▸ hqp.2.1
      · exact ((List.pairwise_cons.mp hsorted).1 _ htop).le.trans hqp.2.1
    · change sweep fromExtremities region lo ys [] = _
      rw [hsweep]
      simp only [List.nil_append, bind_pure]

/-- The output is the region exactly if the region is narrow. -/
theorem regionToNonOverlappingRects_iff (hfrom : IsFromExtremities fromExtremities)
    (hregion : region.Proper) :
    Returns (regionToNonOverlappingRects fromExtremities region) region.Is ↔ region.Narrow := by
  obtain ⟨lo, corners, htiles, hlo, heq⟩ := exists_tiles fromExtremities hregion
  rw [heq, htiles.narrow_iff hlo]
  constructor
  · rintro ⟨output, houtput, his⟩ c hc
    obtain ⟨hmade, hfrom_corners⟩ := Vec.mem_of_mapM_eq_ok houtput
    obtain ⟨hx, hy, hclo⟩ := htiles.proper c hc
    obtain ⟨r, hr, hcr⟩ := hmade c hc
    by_contra hlong
    -- the first point in the row that the rectangle does not reach
    have hfits := (hfrom.width _ _ r hcr).1
    have hloc := hfrom.loc _ _ r hcr
    have hreach : max 0 r.size.w < c.2.x - c.1.x := by
      unfold FitsI32 at hlong hfits
      omega
    set p : IPoint := ⟨c.1.x + max 0 r.size.w, c.1.y⟩ with hp
    have hcp : Between c p := ⟨⟨by simp [hp], by simp only [hp]; omega⟩, le_rfl, hy⟩
    obtain ⟨s, hs, hsp⟩ := (his.union p).mp ((htiles.covers p hclo).mpr ⟨c, hc, hcp⟩)
    obtain ⟨d, hd, hds⟩ := hfrom_corners s hs
    have hdp := hfrom.between_of_contains hds (htiles.proper d hd).1 (htiles.height d hd) hsp
    obtain rfl := htiles.eq_of_between hc hd hcp.2 hdp hcp.1.1 hcp.1.2.le
    obtain rfl := Except.ok.inj (hcr.symm.trans hds)
    have hright := hsp.1.2
    rw [hloc] at hright
    simp only [hp] at hright
    omega
  · intro hfits
    have hmapM : corners.mapM (fun c => fromExtremities c.1 c.2) =
        .ok (corners.map rectBetween) := by
      refine Vec.mapM_eq_ok_map fun c hc => ?_
      obtain ⟨hx, hy, -⟩ := htiles.proper c hc
      exact hfrom.eq_ok hx.le hy.le (hfits c hc) (htiles.height c hc)
    refine ⟨_, hmapM, ?_, ?_, fun p => ?_⟩
    · refine List.forall_mem_map.mpr fun c hc => ?_
      obtain ⟨hx, hy, -⟩ := htiles.proper c hc
      exact ⟨sub_pos.mpr hx, sub_pos.mpr hy⟩
    · refine List.pairwise_map.mpr (htiles.apart.imp fun {c d} hapart p hboth => ?_)
      rw [rectBetween_contains, rectBetween_contains] at hboth
      obtain ⟨⟨hcx, hcy⟩, hdx, hdy⟩ := hboth
      unfold Apart at hapart
      omega
    · constructor
      · intro hp
        obtain ⟨c, hc, hcp⟩ := (htiles.covers p (hlo p hp)).mp hp
        exact ⟨_, List.mem_map_of_mem hc, rectBetween_contains.mpr hcp⟩
      · rintro ⟨r, hr, hrp⟩
        obtain ⟨c, hc, rfl⟩ := List.mem_map.mp hr
        have hcp := rectBetween_contains.mp hrp
        exact (htiles.covers p ((htiles.proper c hc).2.2.trans hcp.2.1)).mpr ⟨c, hc, hcp⟩

end Sweep

namespace Sample

/-- The rectangle from one corner to the other, with the sizes computed in `i32`. -/
def fromExtremities (a b : IPoint) : Outcome IRect := do
  let w ← checkedAddI32 b.x (-a.x)
  let h ← checkedAddI32 b.y (-a.y)
  pure ⟨a, ⟨w, h⟩⟩

theorem fromExtremities_spec (a b : IPoint) :
    Guarded (FitsI32 (b.x - a.x) ∧ FitsI32 (b.y - a.y)) (fromExtremities a b) fun r =>
      r = ⟨a, ⟨b.x - a.x, b.y - a.y⟩⟩ ∧ FitsI32 (b.x - a.x) ∧ FitsI32 (b.y - a.y) := by
  unfold fromExtremities checkedAddI32
  simp only [guarded_bind, guarded_ite, guarded_ok, guarded_error, guarded_pure, ← sub_eq_add_neg]
  tauto

theorem fromExtremities_is : IsFromExtremities fromExtremities where
  returns a b _ _ hwidth hheight :=
    ((fromExtremities_spec a b).returns ⟨hwidth, hheight⟩).mono fun _ _ => trivial
  loc a b := by
    refine (fromExtremities_spec a b).ensures.mono ?_
    rintro r ⟨rfl, -⟩
    rfl
  width a b := by
    refine (fromExtremities_spec a b).ensures.mono ?_
    rintro r ⟨rfl, hwidth, -⟩
    exact ⟨hwidth, fun _ => rfl⟩
  height a b := by
    refine (fromExtremities_spec a b).ensures.mono ?_
    rintro r ⟨rfl, -, hheight⟩
    exact ⟨hheight, fun _ => rfl⟩

/-- A rectangle without its middle. -/
def frame : RegionAttributes :=
  ⟨[(.add, ⟨⟨0, 0⟩, ⟨20, 20⟩⟩), (.subtract, ⟨⟨5, 5⟩, ⟨10, 10⟩⟩)]⟩

theorem frame_proper : frame.Proper := by
  intro q hq
  fin_cases hq <;> constructor <;> decide

theorem frame_narrow : frame.Narrow := by
  intro p
  refine ⟨max 0 (20 - p.x) % 2 ^ 31, by omega, by omega, fun hcontains => ?_⟩
  obtain ⟨q, hq, hqp⟩ := hcontains.exists_mem
  obtain ⟨⟨hleft, hright⟩, -⟩ := hqp
  fin_cases hq <;> simp only at hleft hright <;> omega

/-- Two rectangles that touch, and that together are wider than an `i32` counts. -/
def wide : RegionAttributes :=
  ⟨[(.add, ⟨⟨-2 ^ 31, 0⟩, ⟨2 ^ 31 - 1, 1⟩⟩), (.add, ⟨⟨-1, 0⟩, ⟨2 ^ 31 - 1, 1⟩⟩)]⟩

theorem wide_proper : wide.Proper := by
  intro q hq
  fin_cases hq <;> constructor <;> decide

end Sample

/-- A frame is taken apart into four rectangles. -/
example : regionToNonOverlappingRects Sample.fromExtremities Sample.frame =
    .ok [⟨⟨0, 0⟩, ⟨20, 5⟩⟩, ⟨⟨0, 5⟩, ⟨5, 10⟩⟩, ⟨⟨15, 5⟩, ⟨5, 10⟩⟩, ⟨⟨0, 15⟩, ⟨20, 5⟩⟩] := by
  decide +kernel

/-- The frame is not too wide. -/
theorem regionToNonOverlappingRects_iff_frame :
    Returns (regionToNonOverlappingRects Sample.fromExtremities Sample.frame) Sample.frame.Is :=
  (regionToNonOverlappingRects_iff Sample.fromExtremities_is Sample.frame_proper).mpr
    Sample.frame_narrow

/-- Two rectangles become one that is too wide. -/
theorem not_regionToNonOverlappingRects : Sample.wide.Proper ∧
    IsFromExtremities Sample.fromExtremities ∧
      ¬Returns (regionToNonOverlappingRects Sample.fromExtremities Sample.wide) Sample.wide.Is := by
  refine ⟨Sample.wide_proper, Sample.fromExtremities_is, ?_⟩
  have hpanics : regionToNonOverlappingRects Sample.fromExtremities Sample.wide =
      .error .arithmeticOverflow := by decide +kernel
  rw [hpanics]
  exact returns_error

end Sol
