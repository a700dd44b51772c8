import Sol.MruNavigation
import Sol.MruUi

/-!
# The view of the switcher

The view follows the selected thumbnail: it is moved no further than needed to have the thumbnail
between the two struts.

* `computeViewPos_eq`: the view position for a strip that does not fit;
* `computeViewPos_follows`: what the view does.
-/

namespace Sol.Mru

open Panicking

/-- A thumbnail without its animations. -/
def Thumbnail.bare (t : Thumbnail) : Thumbnail :=
  { t with openAnimation := none, moveAnimation := none }

/-- What is shown depends only on what decides that. -/
theorem WindowMru.shown_map {f : Thumbnail → Thumbnail}
    (hf : ∀ scope appIdFilter t, shows scope appIdFilter (f t) = shows scope appIdFilter t)
    {w v : WindowMru} (hthumbnails : v.thumbnails.map f = w.thumbnails.map f)
    (hscope : v.scope = w.scope) (hfilter : v.appIdFilter = w.appIdFilter) :
    v.shown.map f = w.shown.map f := by
  have hshown : ∀ u : WindowMru, u.shown.map f =
      (u.thumbnails.map f).filter (shows u.scope u.appIdFilter) := by
    intro u
    rw [List.filter_map]
    refine congrArg (List.map f) (List.filter_congr fun t _ => ?_)
    exact (hf u.scope u.appIdFilter t).symm
  rw [hshown, hshown, hthumbnails, hscope, hfilter]

/-- The strip does not depend on animations. -/
theorem WindowMru.shown_bare {w v : WindowMru}
    (hthumbnails : v.thumbnails.map Thumbnail.bare = w.thumbnails.map Thumbnail.bare)
    (hscope : v.scope = w.scope) (hfilter : v.appIdFilter = w.appIdFilter) :
    v.shown.map Thumbnail.bare = w.shown.map Thumbnail.bare :=
  shown_map (f := Thumbnail.bare) (fun _ _ _ => rfl) hthumbnails hscope hfilter

/-- One of the shown thumbnails stays selected where nothing of that is changed. -/
theorem WindowMru.Valid.of_map {f : Thumbnail → Thumbnail} (hid : ∀ t, (f t).id = t.id)
    (hf : ∀ scope appIdFilter t, shows scope appIdFilter (f t) = shows scope appIdFilter t)
    {w v : WindowMru} (hw : w.Valid) (hthumbnails : v.thumbnails.map f = w.thumbnails.map f)
    (hscope : v.scope = w.scope) (hfilter : v.appIdFilter = w.appIdFilter)
    (hcurrent : v.currentId = w.currentId) : v.Valid := by
  have hids : ∀ l : List Thumbnail, l.map Thumbnail.id = (l.map f).map Thumbnail.id := by
    intro l
    rw [List.map_map]
    exact List.map_congr_left fun t _ => (hid t).symm
  have hshown := shown_map hf hthumbnails hscope hfilter
  refine ⟨?_, ?_, ?_⟩
  · rw [hids, hthumbnails, ← hids]
    exact hw.distinct
  · intro id hsome
    have hmem := hw.selected id (hcurrent ▸ hsome)
    rw [shownIds, hids, ← hshown, ← hids] at hmem
    exact hmem
  · intro hnone
    rw [hw.empty (hcurrent ▸ hnone)] at hshown
    exact List.map_eq_nil_iff.mp hshown

namespace Inner

variable {s : Inner} {id : MappedId} {geo : Rect}

/-! ### The strip -/

/-- The place of a thumbnail in the strip. -/
def geoOf (s : Inner) (id : MappedId) : Option Rect :=
  (s.strip.find? fun entry => entry.1.id = id).map Prod.snd

/-- The right end of an entry of the strip. -/
def rightEdge (entry : Thumbnail × Rect) : ℚ := entry.2.loc.x + entry.2.size.w

/-- The right end of the last thumbnail. -/
def stripWidth (s : Inner) : ℚ := (s.strip.getLast?.map rightEdge).getD 0

theorem placed_map_fst (x : ℚ) (thumbnails : List Thumbnail) :
    (s.placed x thumbnails).map Prod.fst = thumbnails := by
  induction thumbnails generalizing x with
  | nil => rfl
  | cons t thumbnails ih =>
    unfold placed
    rw [List.map_cons, ih]

/-- The places depend on the output and on the configuration only. -/
theorem placed_congr {t : Inner} (hsize : t.outputSize = s.outputSize) (hscale : t.scale = s.scale)
    (hconfig : t.config = s.config) (x : ℚ) (thumbnails : List Thumbnail) :
    t.placed x thumbnails = s.placed x thumbnails := by
  induction thumbnails generalizing x with
  | nil => rfl
  | cons thumbnail thumbnails ih =>
    unfold placed
    simp only [ih, previewSize, gap, round, hsize, hscale, hconfig]

/-- The strip does not depend on the view. -/
theorem strip_view (viewPos : ViewPos) : strip { s with viewPos } = s.strip :=
  placed_congr (s := s) (t := { s with viewPos }) rfl rfl rfl 0 s.wmru.shown

theorem strip_map_fst : s.strip.map Prod.fst = s.wmru.shown := placed_map_fst 0 _

/-- No thumbnail has two places. -/
theorem geo_unique (hs : s.wmru.Valid) (hgeo : s.geoOf id = some geo) :
    (∃ entry ∈ s.strip, entry.1.id = id) ∧
      ∀ entry ∈ s.strip, entry.1.id = id → entry.2 = geo := by
  obtain ⟨found, hfound, hsnd⟩ := Option.map_eq_some_iff.mp hgeo
  have hmem : found ∈ s.strip := List.mem_of_find?_eq_some hfound
  have hid : found.1.id = id := by simpa using List.find?_some hfound
  refine ⟨⟨found, hmem, hid⟩, ?_⟩
  intro entry hentry heq
  have hnodup : (s.strip.map fun entry => entry.1.id).Nodup := by
    have hids : (s.strip.map fun entry => entry.1.id) = s.wmru.shownIds := by
      rw [WindowMru.shownIds, ← strip_map_fst, List.map_map]
      rfl
    rw [hids]
    exact hs.shownIds_nodup
  have hsame : entry = found :=
    List.inj_on_of_nodup_map hnodup hentry hmem (heq.trans hid.symm)
  rw [hsame, hsnd]

/-- The measuring ends with the place of the selected thumbnail, and further than the working width
if the strip is. -/
theorem measure_spec {workingWidth : ℚ} (hwidth : geo.size.w ≠ 0)
    (entries : List (Thumbnail × Rect)) (currentGeo : Rect) (width : ℚ)
    (hunique : ∀ entry ∈ entries, entry.1.id = id → entry.2 = geo)
    (hgeo : currentGeo = geo ∨ (currentGeo.size.w = 0 ∧ ∃ entry ∈ entries, entry.1.id = id))
    (hwide : workingWidth < (entries.getLast?.map rightEdge).getD width) :
    (measure id workingWidth entries currentGeo width).1 = geo ∧
      workingWidth < (measure id workingWidth entries currentGeo width).2 := by
  induction entries generalizing currentGeo width with
  | nil =>
    rcases hgeo with rfl | ⟨-, entry, hentry, -⟩
    · exact ⟨rfl, hwide⟩
    · cases hentry
  | cons entry rest ih =>
    obtain ⟨t, place⟩ := entry
    have hrest : ∀ entry ∈ rest, entry.1.id = id → entry.2 = geo := fun entry h =>
      hunique entry (List.mem_cons_of_mem _ h)
    have hwide' : workingWidth < (rest.getLast?.map rightEdge).getD (place.loc.x + place.size.w) := by
      cases rest with
      | nil => exact hwide
      | cons next rest =>
        rw [List.getLast?_cons_cons] at hwide
        exact hwide
    have hnext : (if t.id = id then place else currentGeo) = geo ∨
        ((if t.id = id then place else currentGeo).size.w = 0 ∧ ∃ entry ∈ rest, entry.1.id = id) := by
      by_cases hid : t.id = id
      · rw [if_pos hid]
        exact .inl (hunique (t, place) List.mem_cons_self hid)
      · rw [if_neg hid]
        rcases hgeo with h | ⟨hzero, entry, hentry, heq⟩
        · exact .inl h
        · rcases List.mem_cons.mp hentry with rfl | hmem
          · exact absurd heq hid
          · exact .inr ⟨hzero, entry, hmem, heq⟩
    unfold measure
    dsimp only
    by_cases hstop : (if t.id = id then place else currentGeo).size.w ≠ 0 ∧
        workingWidth < place.loc.x + place.size.w
    · rw [if_pos hstop]
      rcases hnext with h | ⟨hzero, -⟩
      · exact ⟨h, hstop.2⟩
      · exact absurd hzero hstop.1
    · rw [if_neg hstop]
      exact ih _ _ hrest hnext hwide'

/-! ### Animations and the strip -/

theorem placed_bare (x : ℚ) (thumbnails : List Thumbnail) :
    (s.placed x thumbnails).map (Prod.map Thumbnail.bare fun r => r) =
      s.placed x (thumbnails.map Thumbnail.bare) := by
  induction thumbnails generalizing x with
  | nil => rfl
  | cons thumbnail thumbnails ih =>
    unfold placed
    rw [List.map_cons, ih]
    rfl

/-- The same thumbnails but for their animations, on the same output. -/
structure Alike (s t : Inner) : Prop where
  thumbnails : t.wmru.thumbnails.map Thumbnail.bare = s.wmru.thumbnails.map Thumbnail.bare
  scope : t.wmru.scope = s.wmru.scope
  appIdFilter : t.wmru.appIdFilter = s.wmru.appIdFilter
  config : t.config = s.config
  outputSize : t.outputSize = s.outputSize
  scale : t.scale = s.scale

theorem Alike.strip {t : Inner} (h : s.Alike t) :
    t.strip.map (Prod.map Thumbnail.bare fun r => r) =
      s.strip.map (Prod.map Thumbnail.bare fun r => r) := by
  have hshown := WindowMru.shown_bare h.thumbnails h.scope h.appIdFilter
  have ht := placed_bare (s := t) 0 t.wmru.shown
  have hs := placed_bare (s := s) 0 s.wmru.shown
  rw [hshown] at ht
  exact ht.trans ((placed_congr h.outputSize h.scale h.config 0 _).trans hs.symm)

theorem Alike.geoOf {t : Inner} (h : s.Alike t) (id : MappedId) : t.geoOf id = s.geoOf id := by
  have hfind : ∀ u : Inner, u.geoOf id =
      ((u.strip.map (Prod.map Thumbnail.bare fun r => r)).find? fun entry => entry.1.id = id).map
        Prod.snd := by
    intro u
    rw [List.find?_map, Option.map_map]
    rfl
  rw [hfind, hfind, h.strip]

theorem Alike.stripWidth {t : Inner} (h : s.Alike t) : t.stripWidth = s.stripWidth := by
  have hlast : ∀ u : Inner, u.stripWidth =
      ((u.strip.map (Prod.map Thumbnail.bare fun r => r)).getLast?.map rightEdge).getD 0 := by
    intro u
    rw [List.getLast?_map, Option.map_map]
    rfl
  rw [hlast, hlast, h.strip]

/-- Identities do not depend on animations. -/
theorem map_id_bare (l : List Thumbnail) :
    l.map Thumbnail.id = (l.map Thumbnail.bare).map Thumbnail.id := by
  rw [List.map_map]
  rfl

theorem Alike.shownIds {t : Inner} (h : s.Alike t) : t.wmru.shownIds = s.wmru.shownIds := by
  unfold WindowMru.shownIds
  rw [map_id_bare, WindowMru.shown_bare h.thumbnails h.scope h.appIdFilter, ← map_id_bare]

theorem Alike.valid {t : Inner} (h : s.Alike t) (hcurrent : t.wmru.currentId = s.wmru.currentId)
    (hs : s.wmru.Valid) : t.wmru.Valid :=
  hs.of_map (f := Thumbnail.bare) (fun _ => rfl) (fun _ _ _ => rfl) h.thumbnails h.scope
    h.appIdFilter hcurrent

/-! ### The view -/

/-- Whether a place is between the two struts. -/
def InView (s : Inner) (geo : Rect) (pos : ℝ) : Prop :=
  (workingX : ℝ) ≤ geo.loc.x - pos ∧
    geo.loc.x + geo.size.w - pos ≤ s.outputSize.w - (workingX : ℝ)

/-- The view position for a place at the left strut. -/
noncomputable def alignLeft (geo : Rect) : ℝ := geo.loc.x - (workingX : ℝ)

/-- The view position for a place at the right strut. -/
noncomputable def alignRight (s : Inner) (geo : Rect) : ℝ :=
  geo.loc.x + geo.size.w - (s.outputSize.w - (workingX : ℝ))

/-- For a strip that does not fit, the offset of the view from the selected thumbnail counts. -/
theorem computeViewPos_eq (hs : s.wmru.Valid) (hcurrent : s.wmru.currentId = some id)
    (hgeo : s.geoOf id = some geo) (hwidth : geo.size.w ≠ 0)
    (hwide : s.workingWidth < s.stripWidth) :
    s.computeViewPos = computeViewOffset (s.viewPos.target + workingX) s.workingWidth geo.loc.x
      geo.size.w + geo.loc.x - workingX := by
  obtain ⟨hexists, hunique⟩ := geo_unique hs hgeo
  have hmeasure := measure_spec hwidth s.strip ⟨Point.zero, ⟨0, 0⟩⟩ 0 hunique
    (.inr ⟨rfl, hexists⟩) hwide
  unfold computeViewPos
  rw [hcurrent]
  dsimp only
  rw [if_neg (not_le.mpr hmeasure.2), hmeasure.1]

/-- Where there is room for a thumbnail, it is the room between the struts. -/
theorem workingWidth_eq (hpos : 0 < geo.size.w) (hfits : geo.size.w ≤ s.workingWidth) :
    (s.workingWidth : ℝ) = s.outputSize.w - (workingX : ℝ) * 2 := by
  have hwidth : s.workingWidth = s.outputSize.w - workingX * 2 := by
    rcases max_choice (s.outputSize.w - workingX * 2) 0 with h | h
    · exact h
    · exact absurd (h ▸ hpos.trans_le hfits : (0 : ℚ) < 0) (lt_irrefl 0)
  rw [hwidth]
  push_cast
  ring

theorem inView_iff (hpos : 0 < geo.size.w) (hfits : geo.size.w ≤ s.workingWidth) (pos : ℝ) :
    s.InView geo pos ↔ pos + workingX ≤ geo.loc.x ∧
      (geo.loc.x : ℝ) + geo.size.w ≤ pos + workingX + s.workingWidth := by
  rw [workingWidth_eq hpos hfits]
  unfold InView
  constructor
  · rintro ⟨hleft, hright⟩
    exact ⟨by linarith, by linarith⟩
  · rintro ⟨hleft, hright⟩
    exact ⟨by linarith, by linarith⟩

theorem alignLeft_inView (hpos : 0 < geo.size.w) (hfits : geo.size.w ≤ s.workingWidth) :
    s.InView geo (alignLeft geo) := by
  have hfits' : (geo.size.w : ℝ) ≤ s.workingWidth := by exact_mod_cast hfits
  rw [inView_iff hpos hfits]
  unfold alignLeft
  exact ⟨by linarith, by linarith⟩

theorem alignRight_inView (hpos : 0 < geo.size.w) (hfits : geo.size.w ≤ s.workingWidth) :
    s.InView geo (s.alignRight geo) := by
  have hfits' : (geo.size.w : ℝ) ≤ s.workingWidth := by exact_mod_cast hfits
  have hwidth := workingWidth_eq hpos hfits
  rw [inView_iff hpos hfits]
  unfold alignRight
  exact ⟨by linarith, by linarith⟩

/-- What the view does with the place of the selected thumbnail. -/
structure Follows (s : Inner) (geo : Rect) : Prop where
  inView : s.InView geo s.computeViewPos
  unchanged : s.InView geo s.viewPos.target → s.computeViewPos = s.viewPos.target
  aligned : ¬s.InView geo s.viewPos.target →
    s.computeViewPos = alignLeft geo ∨ s.computeViewPos = s.alignRight geo
  nearer : ¬s.InView geo s.viewPos.target → |s.computeViewPos - s.viewPos.target| =
    min |alignLeft geo - s.viewPos.target| |s.alignRight geo - s.viewPos.target|
  settled : ∀ viewPos : ViewPos, viewPos.target = s.computeViewPos →
    computeViewPos { s with viewPos } = s.computeViewPos

section Following

variable (hs : s.wmru.Valid) (hcurrent : s.wmru.currentId = some id)
  (hgeo : s.geoOf id = some geo) (hpos : 0 < geo.size.w) (hwide : s.workingWidth < s.stripWidth)
  (hfits : geo.size.w ≤ s.workingWidth)

include hs hcurrent hgeo hpos hwide hfits

/-- A thumbnail that is in view is left where it is. -/
theorem computeViewPos_inView (hview : s.InView geo s.viewPos.target) :
    s.computeViewPos = s.viewPos.target := by
  have hoffset := (inView_iff hpos hfits _).mp hview
  rw [computeViewPos_eq hs hcurrent hgeo hpos.ne' hwide]
  unfold computeViewOffset
  dsimp only
  rw [if_pos hoffset]
  ring

/-- Else the nearer alignment is taken. -/
theorem computeViewPos_aligned (hview : ¬s.InView geo s.viewPos.target) :
    s.computeViewPos =
      if |alignLeft geo - s.viewPos.target| ≤ |s.alignRight geo - s.viewPos.target| then
        alignLeft geo
      else s.alignRight geo := by
  have hwidth := workingWidth_eq hpos hfits
  have hleft : |s.viewPos.target + (workingX : ℝ) - geo.loc.x| =
      |alignLeft geo - s.viewPos.target| := by
    rw [abs_sub_comm]
    unfold alignLeft
    congr 1
    ring
  have hright : |s.viewPos.target + (workingX : ℝ) + s.workingWidth -
      (geo.loc.x + geo.size.w)| = |s.alignRight geo - s.viewPos.target| := by
    rw [abs_sub_comm]
    unfold alignRight
    rw [hwidth]
    congr 1
    ring
  rw [computeViewPos_eq hs hcurrent hgeo hpos.ne' hwide]
  unfold computeViewOffset
  dsimp only
  rw [if_neg (fun h => hview ((inView_iff hpos hfits _).mpr h)), hleft, hright]
  split_ifs
  · unfold alignLeft
    ring
  · unfold alignRight
    rw [hwidth]
    ring

/-- The view is moved no further than needed to have the selected thumbnail between the struts. -/
theorem computeViewPos_follows : s.Follows geo := by
  have hfollowed : s.InView geo s.computeViewPos := by
    by_cases hview : s.InView geo s.viewPos.target
    · rw [computeViewPos_inView hs hcurrent hgeo hpos hwide hfits hview]
      exact hview
    · rw [computeViewPos_aligned hs hcurrent hgeo hpos hwide hfits hview]
      split_ifs
      · exact alignLeft_inView hpos hfits
      · exact alignRight_inView hpos hfits
  refine ⟨hfollowed, computeViewPos_inView hs hcurrent hgeo hpos hwide hfits, ?_, ?_, ?_⟩
  · intro hview
    rw [computeViewPos_aligned hs hcurrent hgeo hpos hwide hfits hview]
    split_ifs
    · exact .inl rfl
    · exact .inr rfl
  · intro hview
    rw [computeViewPos_aligned hs hcurrent hgeo hpos hwide hfits hview]
    split_ifs with hle
    · exact (min_eq_left hle).symm
    · exact (min_eq_right (not_le.mp hle).le).symm
  · intro viewPos htarget
    have hagain : InView { s with viewPos } geo viewPos.target := htarget ▸ hfollowed
    have hgeo' : geoOf { s with viewPos } id = some geo := by
      rw [geoOf, strip_view]
      exact hgeo
    have hwide' : workingWidth { s with viewPos } < stripWidth { s with viewPos } := by
      rw [stripWidth, strip_view]
      exact hwide
    have hsame := computeViewPos_inView (s := { s with viewPos }) hs hcurrent hgeo' hpos hwide'
      hfits hagain
    exact hsame.trans htarget

end Following

theorem offset_target (viewPos : ViewPos) (delta : ℝ) :
    (viewPos.offset delta).target = viewPos.target + delta := by
  cases viewPos <;> rfl

/-- The view goes to where it would be put again. -/
theorem follow_settled (easings : Motion.Easings) (clock : Clock) (h : s.Follows geo) :
    Ensures (s.follow easings clock) fun t => t.viewPos.target = t.computeViewPos := by
  have hsettled : ∀ viewPos : ViewPos, viewPos.target = s.viewPos.target →
      (viewPos.offset (s.computeViewPos - s.viewPos.target)).target = computeViewPos
        { s with viewPos := viewPos.offset (s.computeViewPos - s.viewPos.target) } := by
    intro viewPos hsame
    have htarget : (viewPos.offset (s.computeViewPos - s.viewPos.target)).target =
        s.computeViewPos := by
      rw [offset_target, hsame]
      ring
    exact htarget.trans (h.settled _ htarget).symm
  unfold follow
  simp only [ensures_bind, ensures_ite, ensures_ok]
  constructor
  · intro _
    unfold ViewPos.animateFrom
    rw [ensures_bind]
    intro anim hanim
    rw [ensures_ok]
    have hnew : anim.value easings clock = _ ∧ anim.target = _ ∧ anim.isOff = _ :=
      Motion.Animation.new_spec anim hanim
    exact hsettled (.animation anim) hnew.2.1
  · intro _
    exact hsettled s.viewPos rfl

/-- After a frame, the view stands or goes where it would be put again. -/
theorem advanceAnimations_settled (easings : Motion.Easings) (clock : Clock) (hs : s.wmru.Valid)
    (hcurrent : s.wmru.currentId = some id) (hgeo : s.geoOf id = some geo)
    (hpos : 0 < geo.size.w) (hwide : s.workingWidth < s.stripWidth)
    (hfits : geo.size.w ≤ s.workingWidth) (hfollow : s.freezeView = false) :
    Ensures (s.advanceAnimations easings clock) fun t =>
      t.viewPos.target = t.computeViewPos := by
  have hbare : (s.advanced clock).wmru.thumbnails.map Thumbnail.bare =
      s.wmru.thumbnails.map Thumbnail.bare := by
    unfold advanced
    rw [List.map_map]
    rfl
  have halike : s.Alike (s.advanced clock) := ⟨hbare, rfl, rfl, rfl, rfl, rfl⟩
  have hfollows : (s.advanced clock).Follows geo :=
    computeViewPos_follows (halike.valid rfl hs) hcurrent ((halike.geoOf id).trans hgeo) hpos
      (halike.stripWidth.symm ▸ hwide) hfits
  have hon : (s.advanced clock).freezeView = false := hfollow
  unfold advanceAnimations
  dsimp only
  rw [hon, if_neg Bool.false_ne_true]
  exact follow_settled easings clock hfollows

/-- Three windows that do not all fit. -/
noncomputable def sampleInner : Inner where
  wmru := .ofThumbnails
    [⟨0, none, true, true, some "editor", ⟨1600, 1200⟩, ⟨480, 1 / 2⟩, none, none⟩,
      ⟨1, none, false, true, some "browser", ⟨1600, 1200⟩, ⟨480, 1 / 2⟩, none, none⟩,
      ⟨2, none, false, false, some "editor", ⟨1600, 1200⟩, ⟨480, 1 / 2⟩, none, none⟩]
  viewPos := .static 500
  freezeView := false
  config := ⟨⟨480, 1 / 2⟩, 30, ⟨false, .easing 220 .linear⟩, ⟨false, .easing 250 .linear⟩⟩
  outputSize := ⟨1920, 1080⟩
  scale := 1

theorem computeViewPos_follows_three : sampleInner.Follows ⟨⟨0, 300⟩, ⟨640, 480⟩⟩ :=
  computeViewPos_follows (WindowMru.ofThumbnails_valid (by decide))
    (rfl : sampleInner.wmru.currentId = some 0) (by decide +kernel) (by norm_num)
    (by decide +kernel) (by decide +kernel)

end Inner

end Sol.Mru
