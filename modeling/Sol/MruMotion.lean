import Sol.MruView
import Sol.Vec

/-!
# Thumbnails that stay where they are

What goes and what comes moves the strip, the view and the thumbnails, so that those that stay are
drawn where they were.  When a window goes that is not shown, all are moved by its size all the
same.

* `removeWindow_moves`: by how much a removal moves the thumbnails that stay;
* `animateScopeFilterChange_staysPut`: a change of the scope or of the filter moves none.
-/

namespace Sol.Mru

open Panicking

/-! ### Thumbnails that are moved -/

/-- The motion of a thumbnail is not one of animations that are off. -/
def Thumbnail.Animated (u : Thumbnail) : Prop :=
  ∀ move, u.moveAnimation = some move → move.anim.isOff = false

/-- A new motion starts where the thumbnail is. -/
theorem Thumbnail.nextMove_spec (easings : Motion.Easings) {clock : Clock} {u : Thumbnail}
    {config : Motion.Config} (hu : u.Animated) :
    Ensures (u.nextMove clock config) fun anim =>
      anim.value easings clock = 1 ∧ (config.off = false → anim.isOff = false) := by
  unfold nextMove
  cases hmove : u.moveAnimation with
  | some move =>
    exact (Motion.Animation.restarted_spec (hu move hmove)).mono fun anim h => ⟨h.1, fun _ => h.2⟩
  | none => exact Motion.Animation.new_spec.mono fun anim h => ⟨h.1, fun hoff => h.2.2.trans hoff⟩

/-- Moved by some way, from where it is in the middle of an animation. -/
theorem Thumbnail.animateMoveFrom_spec {easings : Motion.Easings} {clock : Clock} {u : Thumbnail}
    {config : Motion.Config} (hu : u.Animated) (d : ℝ) :
    Ensures (u.animateMoveFrom easings clock d config) fun u' => u'.bare = u.bare ∧
      u'.renderOffset easings clock = u.renderOffset easings clock + d ∧
        (config.off = false → u'.Animated) := by
  unfold animateMoveFrom
  rw [ensures_bind]
  refine (nextMove_spec easings hu).mono fun anim hanim => ensures_ok.mpr ⟨rfl, ?_, ?_⟩
  · change (d + u.renderOffset easings clock) * anim.value easings clock = _
    rw [hanim.1, mul_one, add_comm]
  · rintro hoff move ⟨⟩
    exact hanim.2 hoff

namespace Inner

variable {easings : Motion.Easings} {clock : Clock} {s t : Inner} {id : MappedId} {x : ℝ}
  {pre post : List Thumbnail} {u : Thumbnail}

/-! ### Where a thumbnail is drawn -/

/-- The horizontal position at which a thumbnail is drawn. -/
noncomputable def renderedX (s : Inner) (easings : Motion.Easings) (clock : Clock)
    (id : MappedId) : Option ℝ :=
  (s.strip.find? fun entry => entry.1.id = id).map fun entry =>
    (entry.2.loc.x : ℝ) - s.viewPos.current easings clock + entry.1.renderOffset easings clock

/-- How much of the strip some thumbnails take. -/
def extent (s : Inner) (thumbnails : List Thumbnail) : ℚ :=
  ((thumbnails.filter (shows s.wmru.scope s.wmru.appIdFilter)).map s.pitch).sum

theorem placed_cons (x : ℚ) (u : Thumbnail) (l : List Thumbnail) : s.placed x (u :: l) =
    (u, ⟨⟨x, s.round ((s.outputSize.h - (s.previewSize u).h) / 2)⟩, s.previewSize u⟩) ::
      s.placed (x + s.pitch u) l := by
  rw [placed, pitch, add_assoc]

theorem placed_append (x : ℚ) (l m : List Thumbnail) :
    s.placed x (l ++ m) = s.placed x l ++ s.placed (x + (l.map s.pitch).sum) m := by
  induction l generalizing x with
  | nil =>
    rw [List.map_nil, List.sum_nil, add_zero]
    rfl
  | cons u l ih =>
    rw [List.cons_append, placed_cons, placed_cons, ih, List.cons_append, List.map_cons,
      List.sum_cons, add_assoc]

/-- A thumbnail is drawn where those before it end. -/
theorem renderedX_split (hdistinct : (s.wmru.thumbnails.map Thumbnail.id).Nodup)
    (hsplit : s.wmru.thumbnails = pre ++ u :: post) : s.renderedX easings clock u.id =
      if shows s.wmru.scope s.wmru.appIdFilter u = true then
        some ((s.extent pre : ℝ) - s.viewPos.current easings clock +
          u.renderOffset easings clock)
      else none := by
  rw [hsplit, List.map_append, List.map_cons, List.nodup_middle, List.nodup_cons,
    ← List.map_append] at hdistinct
  have hother : ∀ v ∈ pre ++ post, v.id ≠ u.id := fun v hv heq =>
    hdistinct.1 (heq ▸ List.mem_map_of_mem hv)
  have hplaced : ∀ (x : ℚ) (l : List Thumbnail), (∀ v ∈ l, v.id ≠ u.id) →
      (s.placed x l).find? (fun entry => entry.1.id = u.id) = none := by
    intro x l hl
    rw [List.find?_eq_none]
    intro entry hentry
    have hmem : entry.1 ∈ l := placed_map_fst x l ▸ List.mem_map_of_mem hentry
    simpa using hl entry.1 hmem
  have hleft : ∀ v ∈ pre.filter (shows s.wmru.scope s.wmru.appIdFilter), v.id ≠ u.id :=
    fun v hv => hother v (List.mem_append_left _ (List.mem_filter.mp hv).1)
  have hright : ∀ v ∈ post.filter (shows s.wmru.scope s.wmru.appIdFilter), v.id ≠ u.id :=
    fun v hv => hother v (List.mem_append_right _ (List.mem_filter.mp hv).1)
  unfold renderedX strip WindowMru.shown
  rw [hsplit, List.filter_append, placed_append, List.find?_append, hplaced _ _ hleft,
    Option.none_or]
  by_cases hshows : shows s.wmru.scope s.wmru.appIdFilter u = true
  · rw [if_pos hshows, List.filter_cons_of_pos hshows, placed_cons,
      List.find?_cons_of_pos (by simp), Option.map_some, zero_add]
    rfl
  · rw [if_neg hshows, List.filter_cons_of_neg hshows, hplaced _ _ hright, Option.map_none]

/-- A thumbnail that is drawn is one that is shown. -/
theorem exists_split_of_renderedX (h : s.renderedX easings clock id = some x) :
    ∃ pre u post, s.wmru.thumbnails = pre ++ u :: post ∧ u.id = id ∧
      shows s.wmru.scope s.wmru.appIdFilter u = true := by
  obtain ⟨entry, hentry, -⟩ := Option.map_eq_some_iff.mp h
  have hmem : entry.1 ∈ s.wmru.shown :=
    strip_map_fst ▸ List.mem_map_of_mem (List.mem_of_find?_eq_some hentry)
  obtain ⟨hthumbnails, hshows⟩ := List.mem_filter.mp hmem
  obtain ⟨pre, post, hsplit⟩ := List.append_of_mem hthumbnails
  exact ⟨pre, entry.1, post, hsplit, by simpa using List.find?_some hentry, hshows⟩

/-- The thumbnails that are drawn before and after are moved by some way. -/
def MovesBy (s t : Inner) (easings : Motion.Easings) (clock : Clock) (d : ℝ) : Prop :=
  ∀ id x y, s.renderedX easings clock id = some x → t.renderedX easings clock id = some y →
    y = x + d

/-- The thumbnails that are drawn before and after are where they were. -/
def StaysPut (s t : Inner) (easings : Motion.Easings) (clock : Clock) : Prop :=
  ∀ id x y, s.renderedX easings clock id = some x → t.renderedX easings clock id = some y → y = x

/-- It is enough to look for each thumbnail that is drawn at what is before it then. -/
theorem movesBy_of_split {d : ℝ} (hs : (s.wmru.thumbnails.map Thumbnail.id).Nodup)
    (ht : (t.wmru.thumbnails.map Thumbnail.id).Nodup)
    (h : ∀ pre u post, s.wmru.thumbnails = pre ++ u :: post →
      shows s.wmru.scope s.wmru.appIdFilter u = true →
      u.id ∉ t.wmru.thumbnails.map Thumbnail.id ∨
      ∃ pre' u' post', t.wmru.thumbnails = pre' ++ u' :: post' ∧ u'.id = u.id ∧
        (shows t.wmru.scope t.wmru.appIdFilter u' = true →
          (t.extent pre' : ℝ) - t.viewPos.current easings clock + u'.renderOffset easings clock =
            s.extent pre - s.viewPos.current easings clock + u.renderOffset easings clock + d)) :
    s.MovesBy t easings clock d := by
  intro id x y hx hy
  obtain ⟨pre, u, post, hsplit, rfl, hshows⟩ := exists_split_of_renderedX hx
  rw [renderedX_split hs hsplit, if_pos hshows] at hx
  rw [← Option.some.inj hx]
  rcases h pre u post hsplit hshows with hgone | ⟨pre', u', post', hsplit', hid, heq⟩
  · obtain ⟨pre', v, post', hsplit', hid, -⟩ := exists_split_of_renderedX hy
    refine absurd ?_ hgone
    rw [hsplit', ← hid]
    exact List.mem_map_of_mem (List.mem_append_right _ List.mem_cons_self)
  · rw [← hid, renderedX_split ht hsplit'] at hy
    split_ifs at hy with hshows'
    rw [← Option.some.inj hy]
    exact heq hshows'

/-! ### Lists that are moved -/

/-- The parts of a list that has another one at one place. -/
theorem split_cases {α : Type} {l m pre post : List α} {r u : α}
    (h : l ++ r :: m = pre ++ u :: post) :
    (∃ k, l = pre ++ u :: k ∧ post = k ++ r :: m) ∨ (pre = l ∧ u = r ∧ post = m) ∨
      ∃ k, pre = l ++ r :: k ∧ m = k ++ u :: post := by
  rcases List.append_eq_append_iff.mp h with ⟨k, rfl, hk⟩ | ⟨k, rfl, hk⟩
  · cases k with
    | nil =>
      obtain ⟨rfl, rfl⟩ := List.cons.inj hk
      exact .inr (.inl ⟨List.append_nil _, rfl, rfl⟩)
    | cons v k =>
      obtain ⟨rfl, rfl⟩ := List.cons.inj hk
      exact .inr (.inr ⟨k, rfl, rfl⟩)
  · cases k with
    | nil =>
      obtain ⟨rfl, rfl⟩ := List.cons.inj hk
      exact .inr (.inl ⟨(List.append_nil _).symm, rfl, rfl⟩)
    | cons v k =>
      obtain ⟨rfl, rfl⟩ := List.cons.inj hk
      exact .inl ⟨k, rfl, rfl⟩

/-- Related lists are split alike. -/
theorem forall₂_split {α : Type} {R : α → α → Prop} {pre post l : List α} {u : α}
    (h : List.Forall₂ R (pre ++ u :: post) l) : ∃ pre' u' post', l = pre' ++ u' :: post' ∧
      List.Forall₂ R pre pre' ∧ R u u' ∧ List.Forall₂ R post post' := by
  induction pre generalizing l with
  | nil =>
    obtain ⟨u', post', hu, hpost, rfl⟩ := List.forall₂_cons_left_iff.mp h
    exact ⟨[], u', post', rfl, .nil, hu, hpost⟩
  | cons v pre ih =>
    obtain ⟨v', l', hv, hl, rfl⟩ := List.forall₂_cons_left_iff.mp h
    obtain ⟨pre', u', post', rfl, hpre, hu, hpost⟩ := ih hl
    exact ⟨v' :: pre', u', post', rfl, .cons hv hpre, hu, hpost⟩

/-- The same thumbnail, moved by some way if it is shown. -/
structure Shifted (s : Inner) (easings : Motion.Easings) (clock : Clock) (d : ℝ)
    (u u' : Thumbnail) : Prop where
  bare : u'.bare = u.bare
  offset : shows s.wmru.scope s.wmru.appIdFilter u = true →
    u'.renderOffset easings clock = u.renderOffset easings clock + d
  animated : s.config.windowMovement.off = false → u.Animated → u'.Animated

theorem map_bare_eq {l l' : List Thumbnail} {d : ℝ}
    (h : List.Forall₂ (s.Shifted easings clock d) l l') :
    l'.map Thumbnail.bare = l.map Thumbnail.bare := by
  induction h with
  | nil => rfl
  | cons hu _ ih => rw [List.map_cons, List.map_cons, hu.bare, ih]

theorem shifted_refl (u : Thumbnail) : s.Shifted easings clock 0 u u :=
  ⟨rfl, fun _ => (add_zero _).symm, fun _ h => h⟩

/-- The shown thumbnails up to one are moved. -/
theorem moveShownUntil_spec (d : ℝ) (l rest : List Thumbnail)
    (hon : ∀ u ∈ l, u.Animated)
    (hl : ∀ u ∈ l, shows s.wmru.scope s.wmru.appIdFilter u = true → u.id ≠ id)
    (hrest : rest = [] ∨ ∃ r m, rest = r :: m ∧
      shows s.wmru.scope s.wmru.appIdFilter r = true ∧ r.id = id) :
    Ensures (s.moveShownUntil easings clock id d (l ++ rest)) fun l' =>
      ∃ k, l' = k ++ rest ∧ List.Forall₂ (s.Shifted easings clock d) l k := by
  induction l with
  | nil =>
    rcases hrest with rfl | ⟨r, m, rfl, hshows, hid⟩
    · exact ensures_ok.mpr ⟨[], rfl, .nil⟩
    · rw [List.nil_append, moveShownUntil, if_pos hshows, if_pos hid]
      exact ensures_ok.mpr ⟨[], rfl, .nil⟩
  | cons u l ih =>
    rw [List.forall_mem_cons] at hon hl
    have hrest' := ih hon.2 hl.2
    rw [List.cons_append, moveShownUntil]
    by_cases hshows : shows s.wmru.scope s.wmru.appIdFilter u = true
    · rw [if_pos hshows, if_neg (hl.1 hshows), ensures_bind]
      refine (Thumbnail.animateMoveFrom_spec hon.1 d).mono fun u' hu' => ?_
      rw [ensures_bind]
      refine hrest'.mono ?_
      rintro _ ⟨k, rfl, hk⟩
      exact ensures_ok.mpr ⟨u' :: k, rfl,
        .cons ⟨hu'.1, fun _ => hu'.2.1, fun hoff _ => hu'.2.2 hoff⟩ hk⟩
    · rw [if_neg hshows, ensures_bind]
      refine hrest'.mono ?_
      rintro _ ⟨k, rfl, hk⟩
      exact ensures_ok.mpr ⟨u :: k, rfl,
        .cons ⟨rfl, fun h => absurd h hshows, fun _ h => h⟩ hk⟩

/-- What thumbnails take does not depend on animations. -/
theorem extent_congr {l l' : List Thumbnail}
    (h : l'.map Thumbnail.bare = l.map Thumbnail.bare) : s.extent l' = s.extent l := by
  have hbare : ∀ m : List Thumbnail, s.extent m = s.extent (m.map Thumbnail.bare) := by
    intro m
    unfold extent
    rw [List.filter_map, List.map_map]
    rfl
  rw [hbare, h, ← hbare]

theorem extent_append (l m : List Thumbnail) : s.extent (l ++ m) = s.extent l + s.extent m := by
  unfold extent
  rw [List.filter_append, List.map_append, List.sum_append]

theorem extent_cons (u : Thumbnail) (l : List Thumbnail) : s.extent (u :: l) =
    (if shows s.wmru.scope s.wmru.appIdFilter u = true then s.pitch u else 0) + s.extent l := by
  unfold extent
  split_ifs with h
  · rw [List.filter_cons_of_pos h, List.map_cons, List.sum_cons]
  · rw [List.filter_cons_of_neg h, zero_add]

theorem current_offset (viewPos : ViewPos) (d : ℝ) :
    (viewPos.offset d).current easings clock = viewPos.current easings clock + d := by
  cases viewPos with
  | static pos => rfl
  | animation anim => exact Motion.Animation.value_offset easings clock anim d

/-! ### A window goes -/

/-- The state with other thumbnails, whose animations may differ, and another view. -/
structure Rearranged (s t : Inner) : Prop where
  currentId : t.wmru.currentId = s.wmru.currentId
  scope : t.wmru.scope = s.wmru.scope
  appIdFilter : t.wmru.appIdFilter = s.wmru.appIdFilter
  config : t.config = s.config
  outputSize : t.outputSize = s.outputSize
  scale : t.scale = s.scale

theorem extent_same {l : List Thumbnail} (hscope : t.wmru.scope = s.wmru.scope)
    (hfilter : t.wmru.appIdFilter = s.wmru.appIdFilter) (hconfig : t.config = s.config)
    (hsize : t.outputSize = s.outputSize) (hscale : t.scale = s.scale) :
    t.extent l = s.extent l := by
  have hpitch : t.pitch = s.pitch := by
    funext u
    simp only [pitch, previewSize, gap, round, hconfig, hsize, hscale]
  unfold extent
  rw [hscope, hfilter, hpitch]

/-- How far a window that goes moves the thumbnails that stay: one that is not shown by its size. -/
noncomputable def jump (s : Inner) (r : Thumbnail) : ℝ :=
  if shows s.wmru.scope s.wmru.appIdFilter r = true then 0 else s.pitch r

/-- Thumbnails on both sides of one that goes, each side moved by some way, as the view is. -/
structure MadeUp (s t : Inner) (easings : Motion.Easings) (clock : Clock) (l : List Thumbnail)
    (r : Thumbnail) (m : List Thumbnail) (left right view : ℝ) : Prop where
  rearranged : s.Rearranged t
  thumbnails : ∃ l' r' m', t.wmru.thumbnails = l' ++ r' :: m' ∧
    List.Forall₂ (s.Shifted easings clock left) l l' ∧ r'.bare = r.bare ∧
      (s.config.windowMovement.off = false → r.Animated → r'.Animated) ∧
      List.Forall₂ (s.Shifted easings clock right) m m'
  viewPos : t.viewPos.current easings clock = s.viewPos.current easings clock + view
  jumpLeft : left - view = s.jump r
  jumpRight : (∃ u ∈ m, shows s.wmru.scope s.wmru.appIdFilter u = true) → right - view -
    (if shows s.wmru.scope s.wmru.appIdFilter r = true then s.pitch r else 0 : ℚ) = s.jump r

theorem shifted_refl_list (l : List Thumbnail) :
    List.Forall₂ (s.Shifted easings clock 0) l l :=
  List.forall₂_same.mpr fun u _ => shifted_refl u

/-- What is made up for a window that goes. -/
theorem makeUpFor_spec (hs : s.wmru.Valid) (hon : ∀ u ∈ s.wmru.thumbnails, u.Animated)
    {l m : List Thumbnail} {r : Thumbnail} (hsplit : s.wmru.thumbnails = l ++ r :: m) :
    Ensures (s.makeUpFor easings clock r.id r) fun t =>
      ∃ left right view, s.MadeUp t easings clock l r m left right view := by
  have hdistinct := hs.distinct
  rw [hsplit, List.map_append, List.map_cons, List.nodup_middle, List.nodup_cons,
    ← List.map_append] at hdistinct
  have hother : ∀ v ∈ l ++ m, v.id ≠ r.id := fun v hv heq =>
    hdistinct.1 (heq ▸ List.mem_map_of_mem hv)
  rw [hsplit] at hon
  unfold makeUpFor
  by_cases hshows : shows s.wmru.scope s.wmru.appIdFilter r = true
  · have hjump : s.jump r = 0 := if_pos hshows
    dsimp only
    rw [ensures_ite]
    constructor
    · intro _
      rw [ensures_bind, hsplit]
      refine (moveShownUntil_spec (-(s.pitch r : ℝ)) l (r :: m)
        (fun u hu => hon u (List.mem_append_left _ hu))
        (fun u hu _ => hother u (List.mem_append_left _ hu))
        (.inr ⟨r, m, rfl, hshows, rfl⟩)).mono ?_
      rintro _ ⟨k, rfl, hk⟩
      refine ensures_ok.mpr ⟨-(s.pitch r : ℝ), 0, -(s.pitch r : ℝ), ⟨rfl, rfl, rfl, rfl, rfl, rfl⟩,
        ⟨k, r, m, rfl, hk, rfl, fun _ h => h, shifted_refl_list m⟩, current_offset _ _, ?_, ?_⟩
      · rw [hjump, sub_self]
      · intro _
        rw [hjump, if_pos hshows]
        ring
    · intro _
      rw [ensures_bind, hsplit, List.reverse_append, List.reverse_cons, List.append_assoc,
        List.singleton_append]
      refine (moveShownUntil_spec (s.pitch r : ℝ) m.reverse (r :: l.reverse)
        (fun u hu => hon u
          (List.mem_append_right _ (List.mem_cons_of_mem _ (List.mem_reverse.mp hu))))
        (fun u hu _ => hother u (List.mem_append_right _ (List.mem_reverse.mp hu)))
        (.inr ⟨r, l.reverse, rfl, hshows, rfl⟩)).mono ?_
      rintro _ ⟨k, rfl, hk⟩
      refine ensures_ok.mpr ⟨0, s.pitch r, 0, ⟨rfl, rfl, rfl, rfl, rfl, rfl⟩,
        ⟨l, r, k.reverse, by simp, shifted_refl_list l, rfl, fun _ h => h, ?_⟩,
        (add_zero _).symm, ?_, ?_⟩
      · rw [← List.reverse_reverse m]
        exact List.rel_reverse hk
      · rw [hjump, sub_self]
      · intro _
        rw [hjump, if_pos hshows]
        ring
  · have hjump : s.jump r = s.pitch r := if_neg hshows
    -- none of the shown ones is the one that goes
    have hhidden : ∀ u ∈ s.wmru.thumbnails,
        shows s.wmru.scope s.wmru.appIdFilter u = true → u.id ≠ r.id := by
      intro u hu hshown heq
      have hr : r ∈ s.wmru.thumbnails := hsplit ▸ List.mem_append_right _ List.mem_cons_self
      exact hshows (hs.eq_of_id hu hr heq ▸ hshown)
    have hleft : s.wmru.thumbnailLeftOfCurrent r.id = none := by
      unfold WindowMru.thumbnailLeftOfCurrent
      cases hfind : s.wmru.shown.find? fun t => some t.id = s.wmru.currentId ∨ t.id = r.id with
      | none => rfl
      | some u =>
        obtain ⟨hmem, hshown⟩ := List.mem_filter.mp (List.mem_of_find?_eq_some hfind)
        have hfound : some u.id = s.wmru.currentId ∨ u.id = r.id := by
          simpa using List.find?_some hfind
        exact if_pos (hfound.resolve_right (hhidden u hmem hshown))
    rw [hleft, if_neg (by simp), ensures_bind, hsplit, ← List.append_nil (l ++ r :: m).reverse]
    refine (moveShownUntil_spec (s.pitch r : ℝ) (l ++ r :: m).reverse []
      (fun u hu => hon u (List.mem_reverse.mp hu)) ?_ (.inl rfl)).mono ?_
    · intro u hu hshown
      exact hhidden u (hsplit ▸ List.mem_reverse.mp hu) hshown
    · rintro _ ⟨k, rfl, hk⟩
      have hk' : List.Forall₂ (s.Shifted easings clock (s.pitch r)) (l ++ r :: m) k.reverse := by
        rw [← List.reverse_reverse (l ++ r :: m)]
        exact List.rel_reverse hk
      obtain ⟨l', r', m', heq, hl, hr, hm⟩ := forall₂_split hk'
      refine ensures_ok.mpr ⟨s.pitch r, s.pitch r, 0, ⟨rfl, rfl, rfl, rfl, rfl, rfl⟩,
        ⟨l', r', m', by rw [List.append_nil]; exact heq, hl, hr.bare, hr.animated, hm⟩,
        (add_zero _).symm, ?_, ?_⟩
      · rw [hjump, sub_zero]
      · intro _
        rw [hjump, if_neg hshows, sub_zero, Rat.cast_zero, sub_zero]

/-- Nothing is to be made up for the last one that is shown. -/
theorem madeUp_last {l m : List Thumbnail} {r : Thumbnail}
    (hsplit : s.wmru.thumbnails = l ++ r :: m)
    (hshows : shows s.wmru.scope s.wmru.appIdFilter r = true)
    (hlast : ∀ u ∈ m, shows s.wmru.scope s.wmru.appIdFilter u ≠ true) :
    s.MadeUp s easings clock l r m 0 0 0 where
  rearranged := ⟨rfl, rfl, rfl, rfl, rfl, rfl⟩
  thumbnails := ⟨l, r, m, hsplit, shifted_refl_list l, rfl, fun _ h => h, shifted_refl_list m⟩
  viewPos := (add_zero _).symm
  jumpLeft := by rw [sub_self, jump, if_pos hshows]
  jumpRight := fun ⟨u, hu, hshown⟩ => absurd hshown (hlast u hu)

theorem id_of_bare {u' : Thumbnail} (h : u'.bare = u.bare) : u'.id = u.id := by
  have hid := congrArg Thumbnail.id h
  exact hid

theorem map_id_eq {l l' : List Thumbnail} (h : l'.map Thumbnail.bare = l.map Thumbnail.bare) :
    l'.map Thumbnail.id = l.map Thumbnail.id := by
  have hids := congrArg (List.map Thumbnail.id) h
  rw [List.map_map, List.map_map] at hids
  exact hids

/-- Once the window has gone, the thumbnails that stay are where the others leave them. -/
theorem MadeUp.movesBy {l m : List Thumbnail} {r : Thumbnail} {left right view : ℝ}
    (h : s.MadeUp t easings clock l r m left right view) (hs : s.wmru.Valid)
    (hsplit : s.wmru.thumbnails = l ++ r :: m) (currentId : Option MappedId) :
    s.MovesBy { t with wmru := t.wmru.without l.length currentId } easings clock (s.jump r) := by
  obtain ⟨l', r', m', hthumbnails, hl, hr, -, hm⟩ := h.thumbnails
  have hlength : l'.length = l.length := hl.length_eq.symm
  have herase : (t.wmru.without l.length currentId).thumbnails = l' ++ m' := by
    change t.wmru.thumbnails.eraseIdx l.length = _
    rw [hthumbnails, ← hlength, List.eraseIdx_append_of_length_le le_rfl, Nat.sub_self,
      List.eraseIdx_cons_zero]
  have hids : (l' ++ m').map Thumbnail.id = (l ++ m).map Thumbnail.id := by
    rw [List.map_append, List.map_append, map_id_eq (map_bare_eq hl), map_id_eq (map_bare_eq hm)]
  have hdistinct := hs.distinct
  rw [hsplit, List.map_append, List.map_cons, List.nodup_middle, List.nodup_cons,
    ← List.map_append] at hdistinct
  have hextent : ∀ k : List Thumbnail,
      extent { t with wmru := t.wmru.without l.length currentId } k = s.extent k := fun k =>
    extent_same h.rearranged.scope h.rearranged.appIdFilter h.rearranged.config
      h.rearranged.outputSize h.rearranged.scale
  apply movesBy_of_split hs.distinct
  · rw [herase, hids]
    exact hdistinct.2
  intro pre u post hu hshows
  rw [herase]
  rw [hsplit] at hu
  rcases split_cases hu with ⟨k, rfl, rfl⟩ | ⟨rfl, rfl, rfl⟩ | ⟨k, rfl, rfl⟩
  · obtain ⟨pre', u', k', rfl, hpre, hu', -⟩ := forall₂_split hl
    refine .inr ⟨pre', u', k' ++ m', by rw [List.append_assoc, List.cons_append],
      id_of_bare hu'.bare, fun _ => ?_⟩
    rw [hextent, extent_congr (map_bare_eq hpre), hu'.offset hshows, h.viewPos, ← h.jumpLeft]
    ring
  · refine .inl ?_
    rw [hids]
    exact hdistinct.1
  · obtain ⟨k', u', post', rfl, hk, hu', -⟩ := forall₂_split hm
    refine .inr ⟨l' ++ k', u', post', (List.append_assoc _ _ _).symm,
      id_of_bare hu'.bare, fun _ => ?_⟩
    have hjump := h.jumpRight ⟨u, List.mem_append_right _ List.mem_cons_self, hshows⟩
    rw [hextent, extent_append, extent_congr (map_bare_eq hl), extent_congr (map_bare_eq hk),
      extent_append, extent_cons, hu'.offset hshows, h.viewPos, ← hjump]
    push_cast
    ring

/-- The thumbnails are those from before, in motion or not, on the same output. -/
structure Kept (s t : Inner) : Prop where
  thumbnails : ∀ u ∈ t.wmru.thumbnails, ∃ v ∈ s.wmru.thumbnails, u.bare = v.bare ∧
    (s.config.windowMovement.off = false → v.Animated → u.Animated)
  config : t.config = s.config
  outputSize : t.outputSize = s.outputSize
  scale : t.scale = s.scale

theorem Kept.refl (s : Inner) : s.Kept s :=
  ⟨fun u hu => ⟨u, hu, rfl, fun _ h => h⟩, rfl, rfl, rfl⟩

/-- An entry of the second list comes from one of the first. -/
theorem exists_of_forall₂ {α : Type} {R : α → α → Prop} {l l' : List α} {b : α}
    (h : List.Forall₂ R l l') (hb : b ∈ l') : ∃ a ∈ l, R a b := by
  induction h with
  | nil => cases hb
  | cons hab _ ih =>
    rcases List.mem_cons.mp hb with rfl | hmem
    · exact ⟨_, List.mem_cons_self, hab⟩
    · obtain ⟨a, ha, hR⟩ := ih hmem
      exact ⟨a, List.mem_cons_of_mem _ ha, hR⟩

theorem MadeUp.kept {l m : List Thumbnail} {r : Thumbnail} {left right view : ℝ}
    (h : s.MadeUp t easings clock l r m left right view)
    (hsplit : s.wmru.thumbnails = l ++ r :: m) : s.Kept t := by
  obtain ⟨l', r', m', hthumbnails, hl, hr, hanimated, hm⟩ := h.thumbnails
  refine ⟨?_, h.rearranged.config, h.rearranged.outputSize, h.rearranged.scale⟩
  intro u hu
  rw [hsplit]
  rw [hthumbnails] at hu
  rcases List.mem_append.mp hu with hmem | hmem
  · obtain ⟨v, hv, hrest⟩ := exists_of_forall₂ hl hmem
    exact ⟨v, List.mem_append_left _ hv, hrest.bare, hrest.animated⟩
  · rcases List.mem_cons.mp hmem with rfl | hmem
    · exact ⟨r, List.mem_append_right _ List.mem_cons_self, hr, hanimated⟩
    · obtain ⟨v, hv, hrest⟩ := exists_of_forall₂ hm hmem
      exact ⟨v, List.mem_append_right _ (List.mem_cons_of_mem _ hv), hrest.bare, hrest.animated⟩

/-- What is left once the window goes. -/
theorem MadeUp.removed {l m : List Thumbnail} {r : Thumbnail} {left right view : ℝ}
    (h : s.MadeUp t easings clock l r m left right view) (hs : s.wmru.Valid)
    (hsplit : s.wmru.thumbnails = l ++ r :: m) :
    Ensures (t.wmru.removeByIdx l.length) fun removed =>
      s.MovesBy { t with wmru := removed.2 } easings clock (s.jump r) ∧ removed.2.Valid ∧
        s.Kept { t with wmru := removed.2 } ∧
          ∀ id ∈ s.wmru.shownIds, id ≠ r.id → id ∈ removed.2.shownIds := by
  obtain ⟨l', r', m', hthumbnails, hl, hr, -, hm⟩ := h.thumbnails
  have hbare : t.wmru.thumbnails.map Thumbnail.bare = s.wmru.thumbnails.map Thumbnail.bare := by
    rw [hthumbnails, hsplit, List.map_append, List.map_append, List.map_cons, List.map_cons,
      map_bare_eq hl, map_bare_eq hm, hr]
  have halike : s.Alike t := ⟨hbare, h.rearranged.scope, h.rearranged.appIdFilter,
    h.rearranged.config, h.rearranged.outputSize, h.rearranged.scale⟩
  have hget : t.wmru.thumbnails[l.length]? = some r' := by
    rw [hthumbnails, hl.length_eq, List.getElem?_append_right le_rfl, Nat.sub_self]
    rfl
  have ht : t.wmru.Valid := halike.valid h.rearranged.currentId hs
  obtain ⟨currentId, heq, hvalid⟩ := WindowMru.removeByIdx_eq ht hget
  have hkept := h.kept hsplit
  have hshown : ∀ id ∈ s.wmru.shownIds, id ≠ r.id →
      id ∈ (t.wmru.without l.length currentId).shownIds := by
    intro id hid hne
    rw [WindowMru.mem_shownIds_without ht hget, halike.shownIds, id_of_bare hr]
    exact ⟨hid, hne⟩
  rw [heq, ensures_ok]
  exact ⟨h.movesBy hs hsplit currentId, hvalid,
    ⟨fun u hu => hkept.thumbnails u (List.mem_of_mem_eraseIdx hu), hkept.config,
      hkept.outputSize, hkept.scale⟩, hshown⟩

/-- The one that is shown last is the one that goes. -/
theorem hidden_after_last (hs : s.wmru.Valid) {l m : List Thumbnail} {r : Thumbnail}
    (hsplit : s.wmru.thumbnails = l ++ r :: m)
    (hlast : (s.wmru.shown.getLast?.any fun t => t.id = r.id) = true) :
    shows s.wmru.scope s.wmru.appIdFilter r = true ∧
      ∀ u ∈ m, shows s.wmru.scope s.wmru.appIdFilter u ≠ true := by
  obtain ⟨v, hv, hid⟩ : ∃ v, s.wmru.shown.getLast? = some v ∧ v.id = r.id := by
    cases hv : s.wmru.shown.getLast? with
    | none => rw [hv] at hlast; cases hlast
    | some v => rw [hv] at hlast; exact ⟨v, rfl, by simpa using hlast⟩
  have hr : r ∈ s.wmru.thumbnails := hsplit ▸ List.mem_append_right _ List.mem_cons_self
  have hmem := List.mem_filter.mp (List.mem_of_getLast? hv)
  obtain rfl : v = r := hs.eq_of_id hmem.1 hr hid
  refine ⟨hmem.2, ?_⟩
  intro u hu hshows
  have hdistinct := hs.distinct
  rw [hsplit, List.map_append, List.map_cons, List.nodup_middle, List.nodup_cons,
    ← List.map_append] at hdistinct
  have hmem' : u ∈ m.filter (shows s.wmru.scope s.wmru.appIdFilter) :=
    List.mem_filter.mpr ⟨hu, hshows⟩
  have hne : m.filter (shows s.wmru.scope s.wmru.appIdFilter) ≠ [] := List.ne_nil_of_mem hmem'
  have hlast' : s.wmru.shown.getLast? =
      (m.filter (shows s.wmru.scope s.wmru.appIdFilter)).getLast? := by
    unfold WindowMru.shown
    rw [hsplit, List.filter_append, List.filter_cons_of_pos hmem.2, List.append_cons,
      List.getLast?_append, List.getLast?_eq_some_getLast hne, Option.some_or]
  rw [hlast'] at hv
  have hinside : v ∈ m := (List.mem_filter.mp (List.mem_of_getLast? hv)).1
  exact hdistinct.1 (List.mem_map_of_mem (List.mem_append_right _ hinside))

/-- What the removal of a window does. -/
theorem removeWindow_spec (hs : s.wmru.Valid) (hon : ∀ u ∈ s.wmru.thumbnails, u.Animated)
    (id : MappedId) : Ensures (s.removeWindow easings clock id) fun t =>
      (id ∉ s.wmru.thumbnails.map Thumbnail.id ∧ t = s) ∨
      ∃ l r m, s.wmru.thumbnails = l ++ r :: m ∧ r.id = id ∧
        s.MovesBy t easings clock (s.jump r) ∧ t.wmru.Valid ∧ s.Kept t ∧
          ∀ id ∈ s.wmru.shownIds, id ≠ r.id → id ∈ t.wmru.shownIds := by
  unfold removeWindow
  cases hidx : s.wmru.idxOf id with
  | none =>
    refine ensures_ok.mpr (.inl ⟨?_, rfl⟩)
    intro hmem
    obtain ⟨u, hu, hid⟩ := List.mem_map.mp hmem
    have hnone := List.findIdx?_eq_none_iff.mp hidx u hu
    simp [hid] at hnone
  | some idx =>
    obtain ⟨r, hr, rfl⟩ := WindowMru.idxOf_spec hidx
    obtain ⟨l, m, hsplit, rfl⟩ := exists_split_of_getElem? hr
    dsimp only
    rw [hr]
    dsimp only
    rw [ensures_ite]
    constructor
    · intro hlast
      obtain ⟨hshows, hhidden⟩ := hidden_after_last hs hsplit hlast
      rw [ensures_bind, ensures_ok, ensures_bind]
      have hmade : s.MadeUp s easings clock l r m 0 0 0 := madeUp_last hsplit hshows hhidden
      refine (hmade.removed hs hsplit).mono fun removed h => ?_
      exact ensures_ok.mpr (.inr ⟨l, r, m, hsplit, rfl, h⟩)
    · intro _
      rw [ensures_bind]
      refine (makeUpFor_spec hs hon hsplit).mono ?_
      rintro t ⟨left, right, view, h⟩
      rw [ensures_bind]
      refine (h.removed hs hsplit).mono fun removed h => ?_
      exact ensures_ok.mpr (.inr ⟨l, r, m, hsplit, rfl, h⟩)

/-! ### The scope or the filter changes -/

/-- How much less some thumbnails take than before. -/
noncomputable def lost (s : Inner) (matchesOld matchesNew : Thumbnail → Bool)
    (l : List Thumbnail) : ℝ :=
  (((l.filter matchesOld).map s.pitch).sum - ((l.filter matchesNew).map s.pitch).sum : ℚ)

section Staying

variable {matchesOld matchesNew : Thumbnail → Bool}

theorem lost_cons (u : Thumbnail) (l : List Thumbnail) : s.lost matchesOld matchesNew (u :: l) =
    (if matchesOld u = true then s.pitch u else 0 : ℚ) -
      (if matchesNew u = true then s.pitch u else 0 : ℚ) + s.lost matchesOld matchesNew l := by
  have hsum : ∀ p : Thumbnail → Bool, (((u :: l).filter p).map s.pitch).sum =
      (if p u = true then s.pitch u else 0) + ((l.filter p).map s.pitch).sum := by
    intro p
    split_ifs with h
    · rw [List.filter_cons_of_pos h, List.map_cons, List.sum_cons]
    · rw [List.filter_cons_of_neg h, zero_add]
  unfold lost
  rw [hsum, hsum]
  push_cast
  ring

theorem lost_append (l m : List Thumbnail) : s.lost matchesOld matchesNew (l ++ m) =
    s.lost matchesOld matchesNew l + s.lost matchesOld matchesNew m := by
  unfold lost
  rw [List.filter_append, List.filter_append, List.map_append, List.map_append, List.sum_append,
    List.sum_append]
  push_cast
  ring

theorem lost_reverse (l : List Thumbnail) :
    s.lost matchesOld matchesNew l.reverse = s.lost matchesOld matchesNew l := by
  unfold lost
  rw [List.filter_reverse, List.filter_reverse, List.map_reverse, List.map_reverse,
    List.sum_reverse, List.sum_reverse]

/-- A thumbnail that stays is moved along by what those before it have lost. -/
structure Stayed (s : Inner) (easings : Motion.Easings) (clock : Clock) (direction : ℝ)
    (matchesOld matchesNew : Thumbnail → Bool) (delta : ℝ) (l l' : List Thumbnail) : Prop where
  bare : List.Forall₂ (fun u u' => u'.bare = u.bare ∧
    (s.config.windowMovement.off = false → u.Animated → u'.Animated)) l l'
  offset : ∀ pre u post, l = pre ++ u :: post → matchesOld u = true → matchesNew u = true →
    ∃ pre' u' post', l' = pre' ++ u' :: post' ∧ pre'.map Thumbnail.bare = pre.map Thumbnail.bare ∧
      u'.bare = u.bare ∧ u'.renderOffset easings clock = u.renderOffset easings clock +
        direction * (delta + s.lost matchesOld matchesNew pre)

theorem lost_nil : s.lost matchesOld matchesNew [] = 0 := by
  unfold lost
  simp

/-- One more thumbnail in front. -/
theorem Stayed.cons {direction delta next : ℝ} {l l' : List Thumbnail} {v v' : Thumbnail}
    (h : s.Stayed easings clock direction matchesOld matchesNew next l l')
    (hbare : v'.bare = v.bare)
    (hanimated : s.config.windowMovement.off = false → v.Animated → v'.Animated)
    (hoffset : matchesOld v = true → matchesNew v = true → v'.renderOffset easings clock =
      v.renderOffset easings clock + direction * delta)
    (hnext : next = delta + s.lost matchesOld matchesNew [v]) :
    s.Stayed easings clock direction matchesOld matchesNew delta (v :: l) (v' :: l') := by
  refine ⟨.cons ⟨hbare, hanimated⟩ h.bare, ?_⟩
  intro pre u post hsplit hold hnew
  cases pre with
  | nil =>
    obtain ⟨rfl, rfl⟩ := List.cons.inj hsplit
    refine ⟨[], v', l', rfl, rfl, hbare, ?_⟩
    rw [lost_nil, add_zero]
    exact hoffset hold hnew
  | cons w pre =>
    obtain ⟨rfl, hl⟩ := List.cons.inj hsplit
    obtain ⟨pre', u', post', rfl, hpre, hu, hmoved⟩ := h.offset pre u post hl hold hnew
    refine ⟨v' :: pre', u', post', rfl, ?_, hu, ?_⟩
    · rw [List.map_cons, List.map_cons, hbare, hpre]
    · have hlost : delta + s.lost matchesOld matchesNew (v :: pre) =
          next + s.lost matchesOld matchesNew pre := by
        rw [hnext, ← List.singleton_append, lost_append, add_assoc]
      rw [hlost]
      exact hmoved

theorem lost_singleton (v : Thumbnail) : s.lost matchesOld matchesNew [v] =
    (if matchesOld v = true then s.pitch v else 0 : ℚ) -
      (if matchesNew v = true then s.pitch v else 0 : ℚ) := by
  rw [lost_cons, lost_nil, add_zero]

/-- A thumbnail that does not stay is only counted. -/
theorem Stayed.pass {direction delta next : ℝ} {l l' : List Thumbnail} {v : Thumbnail}
    (h : s.Stayed easings clock direction matchesOld matchesNew next l l')
    (hv : ¬(matchesOld v = true ∧ matchesNew v = true))
    (hnext : next = delta + s.lost matchesOld matchesNew [v]) :
    s.Stayed easings clock direction matchesOld matchesNew delta (v :: l) (v :: l') :=
  h.cons rfl (fun _ hon => hon) (fun hold hnew => absurd ⟨hold, hnew⟩ hv) hnext

theorem moveStaying_spec (direction delta : ℝ) (l : List Thumbnail)
    (hon : ∀ u ∈ l, u.Animated) :
    Ensures (s.moveStaying easings clock direction matchesOld matchesNew delta l) fun moved =>
      moved.1 = delta + s.lost matchesOld matchesNew l ∧
        s.Stayed easings clock direction matchesOld matchesNew delta l moved.2 := by
  induction l generalizing delta with
  | nil =>
    rw [moveStaying, ensures_ok, lost_nil]
    refine ⟨(add_zero _).symm, .nil, ?_⟩
    intro pre u post h
    cases pre <;> cases h
  | cons v l ih =>
    rw [List.forall_mem_cons] at hon
    have hlost : ∀ next : ℝ, next = delta + s.lost matchesOld matchesNew [v] →
        next + s.lost matchesOld matchesNew l = delta + s.lost matchesOld matchesNew (v :: l) := by
      rintro next rfl
      have happend : s.lost matchesOld matchesNew (v :: l) =
          s.lost matchesOld matchesNew [v] + s.lost matchesOld matchesNew l := lost_append [v] l
      rw [happend, add_assoc]
    have hsingle : s.lost matchesOld matchesNew [v] = _ := lost_singleton v
    unfold moveStaying
    cases hold : matchesOld v with
    | true =>
      cases hnew : matchesNew v with
      | true =>
        have hnext : delta = delta + s.lost matchesOld matchesNew [v] := by
          rw [hsingle, hold, hnew, sub_self, add_zero]
        dsimp only
        rw [ensures_bind]
        refine (Thumbnail.animateMoveFrom_spec hon.1 (direction * delta)).mono fun v' hv' => ?_
        rw [ensures_bind]
        refine (ih delta hon.2).mono fun moved h => ensures_ok.mpr ⟨?_, ?_⟩
        · exact h.1.trans (hlost delta hnext)
        · exact h.2.cons hv'.1 (fun hoff _ => hv'.2.2 hoff) (fun _ _ => hv'.2.1) hnext
      | false =>
        have hnext : delta + s.pitch v = delta + s.lost matchesOld matchesNew [v] := by
          rw [hsingle, hold, hnew, if_pos rfl, if_neg Bool.false_ne_true, Rat.cast_zero, sub_zero]
        dsimp only
        rw [ensures_bind]
        refine (ih _ hon.2).mono fun moved h => ensures_ok.mpr ⟨?_, ?_⟩
        · exact h.1.trans (hlost _ hnext)
        · exact h.2.pass (by simp [hnew]) hnext
    | false =>
      cases hnew : matchesNew v with
      | true =>
        have hnext : delta - s.pitch v = delta + s.lost matchesOld matchesNew [v] := by
          rw [hsingle, hold, hnew, if_pos rfl, if_neg Bool.false_ne_true, Rat.cast_zero, zero_sub,
            sub_eq_add_neg]
        dsimp only
        rw [ensures_bind]
        refine (ih _ hon.2).mono fun moved h => ensures_ok.mpr ⟨?_, ?_⟩
        · exact h.1.trans (hlost _ hnext)
        · exact h.2.pass (by simp [hold]) hnext
      | false =>
        have hnext : delta = delta + s.lost matchesOld matchesNew [v] := by
          rw [hsingle, hold, hnew, sub_self, add_zero]
        dsimp only
        rw [ensures_bind]
        refine (ih delta hon.2).mono fun moved h => ensures_ok.mpr ⟨?_, ?_⟩
        · exact h.1.trans (hlost delta hnext)
        · exact h.2.pass (by simp [hold]) hnext

end Staying

/-- What the thumbnails have lost is what they take less of the strip. -/
theorem lost_eq {b : Inner} (hconfig : b.config = s.config) (hsize : b.outputSize = s.outputSize)
    (hscale : b.scale = s.scale) (l : List Thumbnail) :
    b.lost (shows s.wmru.scope s.wmru.appIdFilter) (shows b.wmru.scope b.wmru.appIdFilter) l =
      s.extent l - b.extent l := by
  have hpitch : b.pitch = s.pitch := by
    funext u
    simp only [pitch, previewSize, gap, round, hconfig, hsize, hscale]
  unfold lost extent
  rw [hpitch]
  push_cast
  ring

/-- The same thumbnail, where it was. -/
structure Still (easings : Motion.Easings) (clock : Clock) (u u' : Thumbnail) : Prop where
  bare : u'.bare = u.bare
  offset : u'.renderOffset easings clock = u.renderOffset easings clock
  animated : u.Animated → u'.Animated

theorem openAppeared_spec {matchesOld matchesNew : Thumbnail → Bool} (u : Thumbnail) :
    Ensures (s.openAppeared clock matchesOld matchesNew u) (Still easings clock u) := by
  unfold openAppeared
  rw [ensures_ite]
  constructor
  · intro _
    unfold Thumbnail.animateOpen
    rw [ensures_bind]
    intro anim _
    exact ensures_ok.mpr ⟨rfl, rfl, fun h => h⟩
  · intro _
    exact ensures_ok.mpr ⟨rfl, rfl, fun h => h⟩

theorem openAppeared_list (easings : Motion.Easings) {matchesOld matchesNew : Thumbnail → Bool}
    (l : List Thumbnail) :
    Ensures (l.mapM (s.openAppeared clock matchesOld matchesNew))
      (List.Forall₂ (Still easings clock) l) :=
  (Vec.guarded_mapM (c := False) fun u _ => ⟨openAppeared_spec u, False.elim⟩).ensures

theorem still_bare {l l' : List Thumbnail} (h : List.Forall₂ (Still easings clock) l l') :
    l'.map Thumbnail.bare = l.map Thumbnail.bare := by
  induction h with
  | nil => rfl
  | cons hu _ ih => rw [List.map_cons, List.map_cons, hu.bare, ih]

theorem Stayed.map_bare {matchesOld matchesNew : Thumbnail → Bool} {direction delta : ℝ}
    {l l' : List Thumbnail} (h : s.Stayed easings clock direction matchesOld matchesNew delta l l') :
    l'.map Thumbnail.bare = l.map Thumbnail.bare := by
  have hforall := h.bare
  clear h
  induction hforall with
  | nil => rfl
  | cons hv _ ih => rw [List.map_cons, List.map_cons, hv.1, ih]

/-- The places of what has stayed, seen from the other side. -/
theorem Stayed.split {b : Inner} {matchesOld matchesNew : Thumbnail → Bool} {direction : ℝ}
    {l l' : List Thumbnail}
    (h : b.Stayed easings clock direction matchesOld matchesNew 0 l l')
    (hsplit : l = pre ++ u :: post) (hold : matchesOld u = true) (hnew : matchesNew u = true) :
    ∃ pre' u' post', l' = pre' ++ u' :: post' ∧ pre'.map Thumbnail.bare = pre.map Thumbnail.bare ∧
      post'.map Thumbnail.bare = post.map Thumbnail.bare ∧ u'.bare = u.bare ∧
        u'.renderOffset easings clock =
          u.renderOffset easings clock + direction * b.lost matchesOld matchesNew pre := by
  obtain ⟨pre', u', post', hsplit', hpre, hu, hoffset⟩ := h.offset pre u post hsplit hold hnew
  have hbare := h.map_bare
  rw [hsplit', hsplit, List.map_append, List.map_append, hpre, List.map_cons, List.map_cons,
    List.append_cancel_left_eq] at hbare
  rw [zero_add] at hoffset
  exact ⟨pre', u', post', hsplit', hpre, (List.cons.inj hbare).2, hu, hoffset⟩

theorem shows_of_bare {scope : MruScope} {appIdFilter : Option String} {u' : Thumbnail}
    (h : u'.bare = u.bare) : shows scope appIdFilter u' = shows scope appIdFilter u := by
  have hshows := congrArg (shows scope appIdFilter) h
  exact hshows

/-- What stays on both sides of the selected thumbnail is where it was. -/
theorem staying_movesBy {b : Inner} (hs : (s.wmru.thumbnails.map Thumbnail.id).Nodup)
    (hconfig : b.config = s.config) (hsize : b.outputSize = s.outputSize)
    (hscale : b.scale = s.scale) {l m l1 m1 l2 m2 : List Thumbnail} {c c1 : Thumbnail}
    (hsplit : s.wmru.thumbnails = l ++ c :: m)
    (hold : shows s.wmru.scope s.wmru.appIdFilter c = true)
    (hnew : shows b.wmru.scope b.wmru.appIdFilter c = true)
    (hl : List.Forall₂ (Still easings clock) l l1) (hc : Still easings clock c c1)
    (hm : List.Forall₂ (Still easings clock) m m1)
    (hleft : b.Stayed easings clock (-1) (shows s.wmru.scope s.wmru.appIdFilter)
      (shows b.wmru.scope b.wmru.appIdFilter) 0 l1.reverse l2)
    (hright : b.Stayed easings clock 1 (shows s.wmru.scope s.wmru.appIdFilter)
      (shows b.wmru.scope b.wmru.appIdFilter) 0 m1 m2)
    (hthumbnails : t.wmru.thumbnails = l2.reverse ++ c1 :: m2)
    (ht : b.Rearranged t)
    (hview : t.viewPos.current easings clock = s.viewPos.current easings clock -
      b.lost (shows s.wmru.scope s.wmru.appIdFilter) (shows b.wmru.scope b.wmru.appIdFilter) l) :
    s.MovesBy t easings clock 0 := by
  have hlost := lost_eq (s := s) hconfig hsize hscale
  have hextent : ∀ k, t.extent k = b.extent k := fun k =>
    extent_same ht.scope ht.appIdFilter ht.config ht.outputSize ht.scale
  have hleftBare : l2.reverse.map Thumbnail.bare = l.map Thumbnail.bare := by
    rw [List.map_reverse, hleft.map_bare, List.map_reverse, List.reverse_reverse, still_bare hl]
  have hrightBare : m2.map Thumbnail.bare = m.map Thumbnail.bare :=
    hright.map_bare.trans (still_bare hm)
  have hbare : t.wmru.thumbnails.map Thumbnail.bare = s.wmru.thumbnails.map Thumbnail.bare := by
    rw [hthumbnails, hsplit, List.map_append, List.map_append, List.map_cons, List.map_cons,
      hleftBare, hrightBare, hc.bare]
  -- what stays takes as much as before
  have hsame : ∀ v : Thumbnail, shows s.wmru.scope s.wmru.appIdFilter v = true →
      shows b.wmru.scope b.wmru.appIdFilter v = true →
      (s.extent [v] : ℝ) = b.extent [v] := by
    intro v hv hv'
    have hzero := hlost [v]
    rw [lost_singleton, if_pos hv, if_pos hv', sub_self] at hzero
    linarith
  apply movesBy_of_split hs
  · rw [map_id_eq hbare]
    exact hs
  intro pre u post hu hshows
  by_cases hstays : shows b.wmru.scope b.wmru.appIdFilter u = true
  · rw [hsplit] at hu
    rcases split_cases hu with ⟨k, rfl, rfl⟩ | ⟨rfl, rfl, rfl⟩ | ⟨k, rfl, rfl⟩
    · obtain ⟨pre1, u1, k1, rfl, hpre, hu1, hk⟩ := forall₂_split hl
      have hreverse : (pre1 ++ u1 :: k1).reverse = k1.reverse ++ u1 :: pre1.reverse := by simp
      obtain ⟨p, u', q, rfl, -, hq, hu', hoffset⟩ := hleft.split hreverse
        ((shows_of_bare hu1.bare).trans hshows) ((shows_of_bare hu1.bare).trans hstays)
      refine .inr ⟨q.reverse, u', p.reverse ++ c1 :: m2, by rw [hthumbnails]; simp,
        id_of_bare (hu'.trans hu1.bare), fun _ => ?_⟩
      have hqBare : q.reverse.map Thumbnail.bare = pre.map Thumbnail.bare := by
        rw [List.map_reverse, hq, List.map_reverse, List.reverse_reverse, still_bare hpre]
      have happend : pre ++ u :: k = pre ++ ([u] ++ k) := rfl
      have hu := hsame u hshows hstays
      rw [hextent, extent_congr hqBare, hoffset, hu1.offset, hview, lost_reverse, hlost, hlost,
        extent_congr (still_bare hk), extent_congr (still_bare hk), happend, extent_append,
        extent_append, extent_append, extent_append]
      push_cast
      linarith
    · refine .inr ⟨l2.reverse, c1, m2, hthumbnails, id_of_bare hc.bare, fun _ => ?_⟩
      rw [hextent, extent_congr hleftBare, hc.offset, hview, hlost]
      ring
    · obtain ⟨k1, u1, post1, rfl, hk, hu1, -⟩ := forall₂_split hm
      obtain ⟨k2, u', post', rfl, hk2, -, hu', hoffset⟩ := hright.split rfl
        ((shows_of_bare hu1.bare).trans hshows) ((shows_of_bare hu1.bare).trans hstays)
      refine .inr ⟨l2.reverse ++ c1 :: k2, u', post', by rw [hthumbnails]; simp,
        id_of_bare (hu'.trans hu1.bare), fun _ => ?_⟩
      have hkBare : k2.map Thumbnail.bare = k.map Thumbnail.bare := hk2.trans (still_bare hk)
      have hpreBare : (l2.reverse ++ c1 :: k2).map Thumbnail.bare =
          (l ++ ([c] ++ k)).map Thumbnail.bare := by
        rw [List.map_append, List.map_append, List.map_cons, hleftBare, hkBare, hc.bare]
        rfl
      have happend : l ++ c :: k = l ++ ([c] ++ k) := rfl
      have hcSame := hsame c hold hnew
      rw [hextent, extent_congr hpreBare, hoffset, hu1.offset, hview, hlost, hlost,
        extent_congr (still_bare hk), extent_congr (still_bare hk), happend, extent_append,
        extent_append, extent_append, extent_append]
      push_cast
      linarith
  · -- it has disappeared
    rw [hu, List.map_append, List.map_cons] at hbare
    obtain ⟨pre', rest, hsplit', -, hrest⟩ := List.map_eq_append_iff.mp hbare
    obtain ⟨u', post', rfl, hu', -⟩ := List.map_eq_cons_iff.mp hrest
    refine .inr ⟨pre', u', post', hsplit', id_of_bare hu', fun hshown => ?_⟩
    rw [ht.scope, ht.appIdFilter, shows_of_bare hu'] at hshown
    exact absurd hshown hstays

/-- Where nothing is drawn before or after, nothing is moved. -/
theorem movesBy_of_empty {d : ℝ} (h : s.wmru.shown = [] ∨ t.wmru.shown = []) :
    s.MovesBy t easings clock d := by
  have hnone : ∀ (v : Inner) (id : MappedId), v.wmru.shown = [] →
      v.renderedX easings clock id = none := by
    intro v id hv
    unfold renderedX strip
    rw [hv]
    rfl
  intro id x y hx hy
  rcases h with h | h
  · rw [hnone s id h] at hx
    cases hx
  · rw [hnone t id h] at hy
    cases hy

/-- What a change of the scope or of the filter is to find. -/
structure Changing (s b : Inner) : Prop where
  valid : b.wmru.Valid
  keeps : s.wmru.Keeps b.wmru
  thumbnails : b.wmru.thumbnails = s.wmru.thumbnails
  viewPos : b.viewPos = s.viewPos
  config : b.config = s.config
  outputSize : b.outputSize = s.outputSize
  scale : b.scale = s.scale
  nested : (∀ u ∈ s.wmru.thumbnails, shows b.wmru.scope b.wmru.appIdFilter u = true →
      shows s.wmru.scope s.wmru.appIdFilter u = true) ∨
    ∀ u ∈ s.wmru.thumbnails, shows s.wmru.scope s.wmru.appIdFilter u = true →
      shows b.wmru.scope b.wmru.appIdFilter u = true

/-- The thumbnail that is selected after the change was shown before it. -/
theorem Changing.selected {b : Inner} (h : s.Changing b) (hs : s.wmru.Valid)
    (hshown : s.wmru.currentId ≠ none) {c : Thumbnail} (hc : c ∈ s.wmru.thumbnails)
    (hcurrent : b.wmru.currentId = some c.id) :
    shows s.wmru.scope s.wmru.appIdFilter c = true ∧
      shows b.wmru.scope b.wmru.appIdFilter c = true := by
  have hof : ∀ (w : WindowMru), w.Valid → w.thumbnails = s.wmru.thumbnails →
      w.currentId = some c.id → shows w.scope w.appIdFilter c = true := by
    intro w hw hthumbnails hid
    obtain ⟨v, hv, hvc⟩ := List.mem_map.mp (hw.selected c.id hid)
    obtain ⟨hmem, hshows⟩ := List.mem_filter.mp hv
    rw [hs.eq_of_id (hthumbnails ▸ hmem) hc hvc] at hshows
    exact hshows
  have hnew := hof b.wmru h.valid h.thumbnails hcurrent
  refine ⟨?_, hnew⟩
  rcases h.nested with hnarrow | hwiden
  · exact hnarrow c hc hnew
  · -- nothing has disappeared, so the selection is the one from before
    obtain ⟨id, hid⟩ := Option.ne_none_iff_exists'.mp hshown
    obtain ⟨v, hv, rfl⟩ := List.mem_map.mp (hs.selected id hid)
    obtain ⟨hmem, hshows⟩ := List.mem_filter.mp hv
    have hstill : v.id ∈ b.wmru.shownIds := List.mem_map_of_mem
      (List.mem_filter.mpr ⟨h.thumbnails.symm ▸ hmem, hwiden v hmem hshows⟩)
    have hsame := h.keeps v.id hid hstill
    rw [hcurrent] at hsame
    exact hof s.wmru hs rfl (hid.trans hsame.symm)

/-- A change of the scope or of the filter moves no thumbnail that stays. -/
theorem animateScopeFilterChange_spec {b : Inner} (h : s.Changing b) (hs : s.wmru.Valid)
    (hon : ∀ u ∈ s.wmru.thumbnails, u.Animated) {oldFilter : Option (Option String)}
    (hfilter : oldFilter.getD b.wmru.appIdFilter = s.wmru.appIdFilter) :
    Ensures (b.animateScopeFilterChange easings clock s.wmru.currentId.isNone s.wmru.scope oldFilter)
      fun t => s.MovesBy t easings clock 0 ∧ t.wmru.Valid ∧ s.Kept t := by
  unfold animateScopeFilterChange
  cases hcurrent : b.wmru.currentId with
  | none =>
    refine ensures_ok.mpr ⟨movesBy_of_empty (.inr (h.valid.empty hcurrent)), h.valid, ?_,
      h.config, h.outputSize, h.scale⟩
    intro u hu
    exact ⟨u, h.thumbnails ▸ hu, rfl, fun _ hu => hu⟩
  | some id =>
    dsimp only
    rw [ensures_bind, ensures_unwrap]
    intro idx hidx
    obtain ⟨c, hc, rfl⟩ := WindowMru.idxOf_spec hidx
    obtain ⟨l, m, hsplit, rfl⟩ := exists_split_of_getElem? hc
    rw [hfilter, hsplit, ensures_bind]
    refine (openAppeared_list easings _).mono fun opened hopened => ?_
    have hsplit' : s.wmru.thumbnails = l ++ c :: m := h.thumbnails ▸ hsplit
    rw [hsplit'] at hon
    have honOpened : ∀ u ∈ opened, u.Animated := by
      intro u hu
      obtain ⟨v, hv, hstill⟩ := exists_of_forall₂ hopened hu
      exact hstill.animated (hon v hv)
    have hopenedBare := still_bare hopened
    obtain ⟨l1, c1, m1, rfl, hl, hc1, hm⟩ := forall₂_split hopened
    rw [← hsplit] at hopenedBare
    have hopenedKept : ∀ u ∈ l1 ++ c1 :: m1, ∃ v ∈ s.wmru.thumbnails, u.bare = v.bare ∧
        (s.config.windowMovement.off = false → v.Animated → u.Animated) := by
      intro u hu
      obtain ⟨v, hv, hstill⟩ := exists_of_forall₂ hopened hu
      exact ⟨v, hsplit' ▸ hv, hstill.bare, fun _ => hstill.animated⟩
    rw [ensures_ite]
    constructor
    · -- nothing was shown
      intro hempty
      have hnone : s.wmru.currentId = none := Option.isNone_iff_eq_none.mp hempty
      rw [ensures_ok]
      refine ⟨movesBy_of_empty (.inl (hs.empty hnone)), ?_, hopenedKept, h.config, h.outputSize,
        h.scale⟩
      exact Alike.valid (s := b) ⟨hopenedBare, rfl, rfl, rfl, rfl, rfl⟩ rfl h.valid
    · intro hshown
      have hselected := h.selected hs (by simpa using hshown)
        (hsplit' ▸ List.mem_append_right _ List.mem_cons_self) hcurrent
      have hdrop : (l1 ++ c1 :: m1).drop (l.length + 1) = m1 := by
        rw [hl.length_eq, List.drop_length_add_append]
        rfl
      have htake : (l1 ++ c1 :: m1).take l.length = l1 := by
        rw [hl.length_eq, List.take_left]
      have hmid : ((l1 ++ c1 :: m1).drop l.length).take 1 = [c1] := by
        rw [hl.length_eq, List.drop_left]
        rfl
      rw [hdrop, htake, hmid, ensures_bind]
      refine (moveStaying_spec 1 0 m1 fun u hu => honOpened u
        (List.mem_append_right _ (List.mem_cons_of_mem _ hu))).mono fun right hright => ?_
      rw [ensures_bind]
      refine (moveStaying_spec (-1) 0 l1.reverse fun u hu => honOpened u
        (List.mem_append_left _ (List.mem_reverse.mp hu))).mono fun left hleft => ?_
      rw [ensures_ok]
      refine ⟨?_, ?_, ?_⟩
      · refine staying_movesBy
          (b := { b with wmru := { b.wmru with thumbnails := l1 ++ c1 :: m1 } }) hs.distinct h.config
          h.outputSize h.scale hsplit' hselected.1 hselected.2 hl hc1 hm hleft.2 hright.2
          (by simp) ⟨rfl, rfl, rfl, rfl, rfl, rfl⟩ ?_
        have hlost := lost_eq (s := s)
          (b := { b with wmru := { b.wmru with thumbnails := l1 ++ c1 :: m1 } }) h.config
          h.outputSize h.scale
        have hleft' := hleft.1
        rw [lost_reverse, zero_add, hlost, extent_congr (still_bare hl),
          extent_congr (still_bare hl)] at hleft'
        refine (current_offset _ _).trans ?_
        rw [hlost, hleft', ← h.viewPos]
        exact (sub_eq_add_neg _ _).symm
      · refine Alike.valid (s := b) ⟨?_, rfl, rfl, rfl, rfl, rfl⟩ rfl h.valid
        have hleftBare := hleft.2.map_bare
        have hrightBare := hright.2.map_bare
        rw [← hopenedBare]
        simp only [List.map_append, List.map_cons, List.map_reverse, hleftBare,
          hrightBare, List.reverse_reverse, List.append_assoc, List.singleton_append]
      · refine ⟨?_, h.config, h.outputSize, h.scale⟩
        intro u hu
        have hcompose : ∀ v ∈ l1 ++ c1 :: m1, u.bare = v.bare ∧
            (b.config.windowMovement.off = false → v.Animated → u.Animated) →
            ∃ v ∈ s.wmru.thumbnails, u.bare = v.bare ∧
              (s.config.windowMovement.off = false → v.Animated → u.Animated) := by
          intro v hv huv
          obtain ⟨w, hw, hbare, hanimated⟩ := hopenedKept v hv
          exact ⟨w, hw, huv.1.trans hbare,
            fun hoff hwon => huv.2 (h.config.symm ▸ hoff) (hanimated hoff hwon)⟩
        rcases List.mem_append.mp hu with hmem | hmem
        · rcases List.mem_append.mp hmem with hmem | hmem
          · obtain ⟨v, hv, huv⟩ := exists_of_forall₂ hleft.2.bare (List.mem_reverse.mp hmem)
            exact hcompose v (List.mem_append_left _ (List.mem_reverse.mp hv)) huv
          · obtain rfl := List.mem_singleton.mp hmem
            exact hcompose u (List.mem_append_right _ List.mem_cons_self) ⟨rfl, fun _ h => h⟩
        · obtain ⟨v, hv, huv⟩ := exists_of_forall₂ hright.2.bare hmem
          exact hcompose v (List.mem_append_right _ (List.mem_cons_of_mem _ hv)) huv

end Inner

end Sol.Mru
