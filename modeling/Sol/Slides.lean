import Sol.Settings
import Sol.Takeovers

/-!
# Slides

A swap, a removal and a change of the ratio give the tiles other slots at once.  Every tile
that jumps is given an offset that takes it back to where it was, and slides from there: at
that moment no tile is rendered away from its old place by half a pixel or more.

* `columns_springFrom`: each tile slides at most once;
* `springFrom_near`: where the tiles are rendered once they have sprung.
-/

namespace Sol

open Panicking

variable {W Id : Type} [LayoutElement W Id]

/-! ### Animations that have just begun -/

namespace Animation

variable {clock : Clock} {anim : Animation}

theorem value_of_now (h : anim.startTime = clock.now) : anim.value clock = anim.start :=
  if_pos h.ge

variable (clock) (start target velocity : ℚ)

theorem new_begins (config : AnimationConfig) :
    (new clock start target velocity config).startTime = clock.now ∧
      (new clock start target velocity config).start = start ∧
        (config.off = false → (new clock start target velocity config).isOff = false) := by
  unfold new
  dsimp only
  split_ifs with hoff
  · exact ⟨rfl, rfl, fun h => by simp [h] at hoff⟩
  · split <;> exact ⟨rfl, rfl, fun _ => rfl⟩

theorem restarted_begins (h : anim.isOff = false) :
    (anim.restarted clock start target velocity).startTime = clock.now ∧
      (anim.restarted clock start target velocity).start = start ∧
        (anim.restarted clock start target velocity).isOff = false := by
  unfold restarted
  rw [if_neg (by simp [h])]
  split <;> exact ⟨rfl, rfl, rfl⟩

end Animation

/-! ### Tiles on their way -/

namespace Tile

variable {a b : Tile W}

/-- At rest, the offset is that of the slides. -/
theorem renderOffset_at_rest (hrest : a.interactiveMoveOffset = Point.zero) (clock : Clock) :
    a.renderOffset clock = ⟨a.moveXAnimation.elim 0 fun move => move.start * move.anim.value clock,
      a.moveYAnimation.elim 0 fun move => move.start * move.anim.value clock⟩ := by
  rw [renderOffset, hrest]
  exact congrArg₂ Point.mk (add_zero _) (add_zero _)

/-- What a tile is rendered away from its slot by. -/
def motion (tile : Tile W) : Option MoveAnimation × Option MoveAnimation × Point :=
  (tile.moveXAnimation, tile.moveYAnimation, tile.interactiveMoveOffset)

/-- No slide of the tile is one that is switched off. -/
def SlidesOn (tile : Tile W) : Prop :=
  (∀ move ∈ tile.moveXAnimation, move.anim.isOff = false) ∧
    ∀ move ∈ tile.moveYAnimation, move.anim.isOff = false

theorem renderOffset_congr (h : b.motion = a.motion) (clock : Clock) :
    b.renderOffset clock = a.renderOffset clock := by
  obtain ⟨hx, hy, hoffset⟩ : b.moveXAnimation = a.moveXAnimation ∧
      b.moveYAnimation = a.moveYAnimation ∧
      b.interactiveMoveOffset = a.interactiveMoveOffset := by simpa [motion] using h
  rw [renderOffset, renderOffset, hx, hy, hoffset]

theorem slidesOn_congr (h : b.motion = a.motion) : b.SlidesOn ↔ a.SlidesOn := by
  obtain ⟨hx, hy, -⟩ : b.moveXAnimation = a.moveXAnimation ∧
      b.moveYAnimation = a.moveYAnimation ∧
      b.interactiveMoveOffset = a.interactiveMoveOffset := by simpa [motion] using h
  rw [SlidesOn, SlidesOn, hx, hy]

variable (clock : Clock) (start : ℚ) (config : AnimationConfig)

theorem moveAnimation_begins {old : Option MoveAnimation}
    (h : ∀ move ∈ old, move.anim.isOff = false) :
    (moveAnimation clock old start config).anim.value clock = 1 ∧
      (config.off = false → (moveAnimation clock old start config).anim.isOff = false) := by
  cases old with
  | none =>
    obtain ⟨htime, hstart, hoff⟩ := Animation.new_begins clock 1 0 0 config
    exact ⟨(Animation.value_of_now htime).trans hstart, hoff⟩
  | some move =>
    obtain ⟨htime, hstart, hoff⟩ := Animation.restarted_begins clock 1 0 0 (h move rfl)
    exact ⟨(Animation.value_of_now htime).trans hstart, fun _ => hoff⟩

/-- A slide begins where the tile is. -/
theorem renderOffset_animateMoveX (h : ∀ move ∈ a.moveXAnimation, move.anim.isOff = false)
    (hrest : a.interactiveMoveOffset = Point.zero) :
    (a.animateMoveXFromWithConfig clock start config).renderOffset clock =
      ⟨start + (a.renderOffset clock).x, (a.renderOffset clock).y⟩ := by
  rw [renderOffset_at_rest (a := a.animateMoveXFromWithConfig clock start config) hrest]
  simp only [animateMoveXFromWithConfig, Option.elim_some,
    (moveAnimation_begins clock _ config h).1, mul_one]
  rw [renderOffset_at_rest hrest]
  rfl

theorem renderOffset_animateMoveY (h : ∀ move ∈ a.moveYAnimation, move.anim.isOff = false)
    (hrest : a.interactiveMoveOffset = Point.zero) :
    (a.animateMoveYFromWithConfig clock start config).renderOffset clock =
      ⟨(a.renderOffset clock).x, start + (a.renderOffset clock).y⟩ := by
  rw [renderOffset_at_rest (a := a.animateMoveYFromWithConfig clock start config) hrest]
  simp only [animateMoveYFromWithConfig, Option.elim_some,
    (moveAnimation_begins clock _ config h).1, mul_one]
  rw [renderOffset_at_rest hrest]
  rfl

theorem slidesOn_animateMoveX (h : a.SlidesOn) (hconfig : config.off = false) :
    (a.animateMoveXFromWithConfig clock start config).SlidesOn := by
  refine ⟨?_, h.2⟩
  rintro move ⟨⟩
  exact (moveAnimation_begins clock _ config h.1).2 hconfig

theorem slidesOn_animateMoveY (h : a.SlidesOn) (hconfig : config.off = false) :
    (a.animateMoveYFromWithConfig clock start config).SlidesOn := by
  refine ⟨h.1, ?_⟩
  rintro move ⟨⟩
  exact (moveAnimation_begins clock _ config h.2).2 hconfig

end Tile

namespace Column

/-- Two columns of one window, on the same slides. -/
structure SameMotion (c d : Column W) : Prop where
  windowId_eq : c.windowId = d.windowId
  motion_eq : d.tile.motion = c.tile.motion

theorem SameMotion.refl (c : Column W) : SameMotion c c := ⟨rfl, rfl⟩

theorem SameMotion.trans {c d e : Column W} (h : SameMotion c d) (h' : SameMotion d e) :
    SameMotion c e :=
  ⟨h.windowId_eq.trans h'.windowId_eq, h'.motion_eq.trans h.motion_eq⟩

theorem sameMotion_fillSlot (c : Column W) (size : Size) : SameMotion c (c.fillSlot size) := by
  refine ⟨(windowId_fillSlot c size).symm, ?_⟩
  unfold fillSlot
  split_ifs <;> rfl

theorem SameMotion.slidesOn {c d : Column W} (h : SameMotion c d) (hc : c.tile.SlidesOn) :
    d.tile.SlidesOn := (Tile.slidesOn_congr h.motion_eq).mpr hc

end Column

namespace ScrollingSpace

/-! ### One slide -/

/-- The part of a jump that a slide makes up for. -/
def caught (delta : ℚ) : ℚ := if |delta| ≥ 1 / 2 then delta else 0

theorem caught_near (delta : ℚ) : |caught delta - delta| < 1 / 2 := by
  unfold caught
  split_ifs with h
  · norm_num
  · rw [zero_sub, abs_neg]
    exact not_le.mp h

section Slide

variable (clock : Clock) (config : AnimationConfig) (delta : Point) (c : Column W)

variable {c} (hon : c.tile.SlidesOn)

include hon

theorem renderOffset_slide (hrest : c.tile.interactiveMoveOffset = Point.zero) :
    (slide clock config delta c).tile.renderOffset clock =
      ⟨caught delta.x + (c.tile.renderOffset clock).x,
        caught delta.y + (c.tile.renderOffset clock).y⟩ := by
  let slid := if |delta.x| ≥ 1 / 2 then c.tile.animateMoveXFromWithConfig clock delta.x config
    else c.tile
  have hx : slid.renderOffset clock =
      ⟨caught delta.x + (c.tile.renderOffset clock).x, (c.tile.renderOffset clock).y⟩ := by
    dsimp only [slid]
    unfold caught
    split_ifs
    · exact Tile.renderOffset_animateMoveX clock _ config hon.1 hrest
    · rw [zero_add]
  -- a slide along one axis leaves the other one alone
  have hslid : slid.moveYAnimation = c.tile.moveYAnimation ∧
      slid.interactiveMoveOffset = c.tile.interactiveMoveOffset := by
    dsimp only [slid]
    split_ifs <;> exact ⟨rfl, rfl⟩
  change (if |delta.y| ≥ 1 / 2 then slid.animateMoveYFromWithConfig clock delta.y config
    else slid).renderOffset clock = _
  unfold caught at hx ⊢
  by_cases hy : |delta.y| ≥ 1 / 2
  · rw [if_pos hy, if_pos hy, Tile.renderOffset_animateMoveY clock _ config (hslid.1 ▸ hon.2)
      (hslid.2.trans hrest), hx]
  · rw [if_neg hy, if_neg hy, hx, zero_add]

theorem slidesOn_slide (hconfig : config.off = false) :
    (slide clock config delta c).tile.SlidesOn := by
  unfold slide
  dsimp only
  split_ifs
  · exact Tile.slidesOn_animateMoveY clock _ config
      (Tile.slidesOn_animateMoveX clock _ config hon hconfig) hconfig
  · exact Tile.slidesOn_animateMoveY clock _ config hon hconfig
  · exact Tile.slidesOn_animateMoveX clock _ config hon hconfig
  · exact hon

end Slide

/-! ### All slides -/

variable {s t u : ScrollingSpace W}

/-- The origins of the slots. -/
def origins (s : ScrollingSpace W) : List Point := s.columnLayout.map (·.2.1)

theorem columnLayout_congr (hslots : s.slots = t.slots) (hsettings : s.settings = t.settings) :
    s.columnLayout = t.columnLayout := by
  have hmaster := isSome_master_congr hslots
  have harea : s.workingArea = t.workingArea := congrArg (·.2.1) hsettings
  have hoptions : s.options = t.options := congrArg (·.2.2.2.2) hsettings
  unfold columnLayout
  rw [length_stack_congr hslots, masterRatio_congr hslots, harea, hoptions]
  cases hs : s.master <;> cases ht : t.master <;> simp [hs, ht] at hmaster ⊢

theorem fst_columnLayout (h : s.WellFormed) {i : ℕ} {slot : ℕ × Point × Size}
    (hslot : s.columnLayout[i]? = some slot) : slot.1 = i := by
  have hi : i < s.columns.length :=
    length_columnLayout h ▸ (List.getElem?_eq_some_iff.mp hslot).1
  have hfst := congrArg (·[i]?) (map_fst_columnLayout h)
  simp only [List.getElem?_map, hslot, Option.map_some, List.getElem?_range hi] at hfst
  exact Option.some.inj hfst

theorem mem_slotOrigins (h : s.WellFormed) {i : ℕ} {id : Id} {p : Point} :
    (i, id, p) ∈ s.slotOrigins ↔ ∃ c, s.columns[i]? = some c ∧ c.windowId = id ∧
      s.origins[i]? = some p := by
  unfold slotOrigins origins
  simp only [List.mem_filterMap, columnByUnifiedIdx_eq h, List.getElem?_map, Option.map_eq_some_iff]
  constructor
  · rintro ⟨slot, hmem, c, hc, heq⟩
    obtain ⟨k, hk⟩ := List.mem_iff_getElem?.mp hmem
    obtain ⟨rfl, rfl, rfl⟩ : slot.1 = i ∧ c.windowId = id ∧ slot.2.1 = p := by simpa using heq
    exact ⟨c, hc, rfl, slot, by rw [fst_columnLayout h hk, hk], rfl⟩
  · rintro ⟨c, hc, rfl, slot, hslot, rfl⟩
    have hi := fst_columnLayout h hslot
    exact ⟨slot, List.mem_of_getElem? hslot, c, by rw [hi, hc], by rw [hi]⟩

variable [DecidableEq Id]

theorem modifyFirst_eq_map {window : Id} (f : Column W → Column W) {cols : List (Column W)}
    (h : (cols.map (·.windowId)).Nodup) :
    modifyFirst window f cols = cols.map fun c => if c.windowId = window then f c else c := by
  induction cols with
  | nil => rfl
  | cons c cols ih =>
    obtain ⟨hnot, hcols⟩ := List.nodup_cons.mp h
    unfold modifyFirst at ih ⊢
    rw [List.findIdx?_cons, List.map_cons]
    by_cases hc : c.windowId = window
    · have hrest : (cols.map fun c => if c.windowId = window then f c else c) = cols := by
        rw [List.map_congr_left, List.map_id']
        intro d hd
        exact if_neg fun hdw => hnot (List.mem_map.mpr ⟨d, hd, hdw.trans hc.symm⟩)
      simp [hc, hrest]
    · have ih := ih hcols
      rw [if_neg hc]
      cases hfind : cols.findIdx? fun col => decide (col.windowId = window) with
      | none => simpa [hc, hfind] using ih
      | some i => simpa [hc, hfind] using ih

theorem columns_modifyColumnById_of_nodup (h : s.windowIds.Nodup) (window : Id)
    (f : Column W → Column W) :
    (s.modifyColumnById window f).columns =
      s.columns.map fun c => if c.windowId = window then f c else c := by
  unfold windowIds columns at h
  unfold modifyColumnById columns
  cases hm : s.master with
  | none =>
    rw [hm] at h
    simpa [modifyColumnById, hm] using modifyFirst_eq_map f h
  | some m =>
    rw [hm] at h
    obtain ⟨hnot, hstack⟩ := List.nodup_cons.mp h
    by_cases hw : m.windowId = window
    · have hrest : (s.stack.map fun c => if c.windowId = window then f c else c) = s.stack := by
        rw [List.map_congr_left, List.map_id']
        intro d hd
        exact if_neg fun hdw => hnot (List.mem_map.mpr ⟨d, hd, hdw.trans hw.symm⟩)
      simp [hw, hrest]
    · simpa [hw] using modifyFirst_eq_map f hstack

/-- What is done to a column when a tile that was at the origin of an entry slides. -/
def sprung (clock : Clock) (config : AnimationConfig) (post : List (ℕ × Id × Point))
    (entry : ℕ × Id × Point) (c : Column W) : Column W :=
  if c.windowId = entry.2.1 then
    match post.find? fun slot => slot.2.1 = entry.2.1 with
    | none => c
    | some slot => slide clock config (entry.2.2 - slot.2.2) c
  else c

@[simp] theorem windowId_sprung (clock : Clock) (config : AnimationConfig)
    (post : List (ℕ × Id × Point)) (entry : ℕ × Id × Point) (c : Column W) :
    (sprung clock config post entry c).windowId = c.windowId := by
  unfold sprung
  split_ifs
  · split
    · rfl
    · exact windowId_slide _ _ _ _
  · rfl

/-- The slides are those of the single columns. -/
theorem columns_springFrom (h : s.windowIds.Nodup) (clock : Clock) (pre : List (ℕ × Id × Point)) :
    (s.springFrom clock pre).columns = s.columns.map fun c =>
      pre.foldl (fun c entry => sprung clock s.options.animations.tileMovement s.slotOrigins entry c)
        c := by
  unfold springFrom
  generalize s.slotOrigins = post
  generalize s.options.animations.tileMovement = config
  induction pre generalizing s with
  | nil => simp
  | cons entry pre ih =>
    have hids : (springTile clock config post s entry).windowIds = s.windowIds :=
      windowIds_congr (slots_springTile s clock config post entry)
    have hcols : (springTile clock config post s entry).columns =
        s.columns.map (sprung clock config post entry) := by
      unfold springTile sprung
      cases post.find? fun slot => slot.2.1 = entry.2.1 with
      | none => simp
      | some slot => exact columns_modifyColumnById_of_nodup h _ _
    rw [List.foldl_cons, ih (hids ▸ h), hcols, List.map_map]
    rfl

/-- Of entries for different windows, at most one concerns a column. -/
theorem foldl_sprung (clock : Clock) (config : AnimationConfig) (post : List (ℕ × Id × Point))
    {pre : List (ℕ × Id × Point)} (hpre : (pre.map (·.2.1)).Nodup) (c : Column W) :
    pre.foldl (fun c entry => sprung clock config post entry c) c =
      match pre.find? fun entry => entry.2.1 = c.windowId with
      | none => c
      | some entry => sprung clock config post entry c := by
  induction pre generalizing c with
  | nil => rfl
  | cons entry pre ih =>
    obtain ⟨hnot, hrest⟩ := List.nodup_cons.mp hpre
    rw [List.foldl_cons, ih hrest, windowId_sprung, List.find?_cons]
    by_cases hc : entry.2.1 = c.windowId
    · have hnone : (pre.find? fun e => decide (e.2.1 = c.windowId)) = none := by
        rw [List.find?_eq_none]
        intro e he heq
        exact hnot (List.mem_map.mpr ⟨e, he, (of_decide_eq_true heq).trans hc.symm⟩)
      simp [hc, hnone]
    · have hself : sprung clock config post entry c = c := if_neg fun h => hc h.symm
      simp [hc, hself]

omit [DecidableEq Id] in
/-- The slots with what is in them. -/
theorem filterMap_columnLayout {β : Type} (h : s.WellFormed) (f : Column W → Point × Size → β) :
    (s.columnLayout.filterMap fun slot =>
        (s.columnByUnifiedIdx slot.1).map fun col => f col slot.2) =
      (s.columns.zip (s.columnLayout.map Prod.snd)).map fun entry => f entry.1 entry.2 := by
  have hindices : s.columnLayout.map Prod.fst = List.range' 0 s.columns.length := by
    rw [map_fst_columnLayout h, List.range_eq_range']
  have hzip := Vec.filterMap_getElem? [] s.columns hindices
  rw [← hzip, List.map_filterMap]
  simp only [columnByUnifiedIdx_eq h, List.nil_append, Option.map_map, Function.comp_def]

omit [DecidableEq Id] in
theorem map_windowId_slots (h : s.WellFormed) :
    (s.columns.zip (s.columnLayout.map Prod.snd)).map (fun entry => entry.1.windowId) =
      s.windowIds := by
  have hlength : s.columns.length ≤ (s.columnLayout.map Prod.snd).length := by
    simp [length_columnLayout h]
  have hfst := List.map_fst_zip hlength
  rw [windowIds, ← hfst, List.map_map]
  simp [Function.comp_def, hfst]

omit [DecidableEq Id] in
theorem map_slotOrigins (h : s.WellFormed) : s.slotOrigins.map (·.2.1) = s.windowIds := by
  rw [← map_windowId_slots h, ← filterMap_columnLayout h fun col _ => col.windowId, slotOrigins,
    List.map_filterMap]
  simp [Function.comp_def]

/-! ### Where the tiles are rendered -/

/-- The slots of the windows, with the offsets of their tiles. -/
def renderedPositions (s : ScrollingSpace W) (clock : Clock) : List (Id × Point) :=
  s.columnLayout.filterMap fun (unifiedIdx, pos, _) =>
    (s.columnByUnifiedIdx unifiedIdx).map fun col =>
      (col.windowId, pos + col.tile.renderOffset clock)

/-- Where the tile of a window is rendered. -/
def renderedAt (s : ScrollingSpace W) (clock : Clock) (window : Id) : Option Point :=
  ((s.renderedPositions clock).find? fun entry => entry.1 = window).map (·.2)

/-- Less than half a pixel apart on each axis. -/
def Near (p q : Point) : Prop := |q.x - p.x| < 1 / 2 ∧ |q.y - p.y| < 1 / 2

theorem find?_of_nodup {α : Type} {f : α → Id} {l : List α} (h : (l.map f).Nodup) {a : α}
    (ha : a ∈ l) : (l.find? fun b => f b = f a) = some a := by
  obtain ⟨b, hb⟩ := Option.isSome_iff_exists.mp (List.find?_isSome.mpr
    ⟨a, ha, decide_eq_true rfl⟩ : (l.find? fun b => decide (f b = f a)).isSome = true)
  have heq : b = a := List.inj_on_of_nodup_map h (List.mem_of_find?_eq_some hb) ha
    (by simpa using List.find?_some hb)
  exact hb.trans (congrArg some heq)

theorem renderedAt_eq (h : s.WellFormed) (hnodup : s.windowIds.Nodup) (clock : Clock) {i : ℕ}
    {c : Column W} {p : Point} (hc : s.columns[i]? = some c) (hp : s.origins[i]? = some p) :
    s.renderedAt clock c.windowId = some (p + c.tile.renderOffset clock) := by
  have hpositions : s.renderedPositions clock =
      (s.columns.zip (s.columnLayout.map Prod.snd)).map fun entry =>
        (entry.1.windowId, entry.2.1 + entry.1.tile.renderOffset clock) :=
    filterMap_columnLayout h fun col slot => (col.windowId, slot.1 + col.tile.renderOffset clock)
  have hids : ((s.renderedPositions clock).map Prod.fst).Nodup := by
    rw [hpositions, List.map_map]
    change ((s.columns.zip (s.columnLayout.map Prod.snd)).map fun entry =>
      entry.1.windowId).Nodup
    rwa [map_windowId_slots h]
  have hmem : (c.windowId, p + c.tile.renderOffset clock) ∈ s.renderedPositions clock := by
    obtain ⟨slot, hslot, rfl⟩ : ∃ slot, s.columnLayout[i]? = some slot ∧ slot.2.1 = p := by
      simpa [origins] using hp
    rw [hpositions, List.mem_map]
    refine ⟨(c, slot.2), List.mem_of_getElem? (i := i) ?_, rfl⟩
    rw [List.getElem?_zip_eq_some]
    exact ⟨hc, by rw [List.getElem?_map, hslot]; rfl⟩
  rw [renderedAt, find?_of_nodup hids hmem]
  rfl

/-- The windows that are left are in other slots, but have not slid. -/
structure Reseated (s u : ScrollingSpace W) : Prop where
  wellFormed : u.WellFormed
  nodup : u.windowIds.Nodup
  columns : Traced Column.SameMotion s.columns u.columns

omit [DecidableEq Id] in
theorem origins_getElem? (h : s.WellFormed) {i : ℕ} {c : Column W} (hc : s.columns[i]? = some c) :
    ∃ p, s.origins[i]? = some p := by
  have hi : i < s.origins.length := by
    rw [origins, List.length_map, length_columnLayout h]
    exact (List.getElem?_eq_some_iff.mp hc).1
  exact ⟨_, List.getElem?_eq_getElem hi⟩

section Spring

variable (h : s.WellFormed) (hnodup : s.windowIds.Nodup) (hu : Reseated s u)
  {p : ℕ × Id × Point → Bool}
  (hp : ∀ entry ∈ s.slotOrigins, entry.2.1 ∈ u.windowIds → p entry = true) (clock : Clock)
  {c d : Column W} {j k : ℕ} {old new : Point}

include h hnodup hu hp

/-- A tile that was in one slot slides to the one it is in. -/
theorem getElem?_springFrom (hc : s.columns[j]? = some c) (hd : u.columns[k]? = some d)
    (hid : c.windowId = d.windowId) (hold : s.origins[j]? = some old)
    (hnew : u.origins[k]? = some new) :
    (u.springFrom clock (s.slotOrigins.filter p)).columns[k]? =
      some (slide clock u.options.animations.tileMovement (old - new) d) := by
  have hbefore : (j, d.windowId, old) ∈ s.slotOrigins := (mem_slotOrigins h).mpr ⟨c, hc, hid, hold⟩
  have hafter : (k, d.windowId, new) ∈ u.slotOrigins :=
    (mem_slotOrigins hu.wellFormed).mpr ⟨d, hd, rfl, hnew⟩
  have hpre : ((s.slotOrigins.filter p).map (·.2.1)).Nodup :=
    (map_slotOrigins h ▸ hnodup).sublist (List.filter_sublist.map _)
  have hfind := find?_of_nodup hpre (List.mem_filter.mpr
    ⟨hbefore, hp _ hbefore (List.mem_map_of_mem (List.mem_of_getElem? hd))⟩)
  have hpost := find?_of_nodup (f := fun slot : ℕ × Id × Point => slot.2.1)
    (by rw [map_slotOrigins hu.wellFormed]; exact hu.nodup) hafter
  rw [columns_springFrom hu.nodup, List.getElem?_map, hd, Option.map_some,
    foldl_sprung _ _ _ hpre, hfind]
  simp only [sprung, if_true]
  rw [hpost]

/-- Once the tiles have sprung from their old slots, they are rendered near their old places. -/
theorem springFrom_near (hon : ∀ c ∈ s.columns, c.tile.SlidesOn)
    (hrest : ∀ c ∈ s.columns, c.tile.interactiveMoveOffset = Point.zero) {window : Id}
    (hwindow : window ∈ u.windowIds) :
    ∃ a b, s.renderedAt clock window = some a ∧
      (u.springFrom clock (s.slotOrigins.filter p)).renderedAt clock window = some b ∧
        Near a b := by
  have hslots := slots_springFrom u clock (s.slotOrigins.filter p)
  have hlayout := columnLayout_congr hslots (settings_springFrom clock (s.slotOrigins.filter p))
  obtain ⟨d, hd, rfl⟩ := List.mem_map.mp hwindow
  obtain ⟨c, hc, hid, hmotion⟩ := hu.columns d hd
  obtain ⟨k, hk⟩ := List.mem_iff_getElem?.mp hd
  obtain ⟨j, hj⟩ := List.mem_iff_getElem?.mp hc
  obtain ⟨new, hnew⟩ := origins_getElem? hu.wellFormed hk
  obtain ⟨old, hold⟩ := origins_getElem? h hj
  have hond : d.tile.SlidesOn := (Tile.slidesOn_congr hmotion).mpr (hon c hc)
  have hrestd : d.tile.interactiveMoveOffset = c.tile.interactiveMoveOffset :=
    congrArg (·.2.2) hmotion
  have hrendered := renderedAt_eq (hu.wellFormed.congr hslots.symm)
    (windowIds_congr hslots ▸ hu.nodup) clock
    (getElem?_springFrom h hnodup hu hp clock hj hk hid hold hnew)
    (by rw [origins, hlayout]; exact hnew)
  rw [windowId_slide, renderOffset_slide clock _ _ hond (hrestd.trans (hrest c hc)),
    Tile.renderOffset_congr hmotion] at hrendered
  refine ⟨_, _, hid ▸ renderedAt_eq h hnodup clock hj hold, hrendered, ?_, ?_⟩
  · have hx := caught_near (old - new).x
    change |new.x + (caught (old - new).x + _) - (old.x + _)| < _
    convert hx using 2
    change _ = caught (old - new).x - (old.x - new.x)
    ring
  · have hy := caught_near (old - new).y
    change |new.y + (caught (old - new).y + _) - (old.y + _)| < _
    convert hy using 2
    change _ = caught (old - new).y - (old.y - new.y)
    ring

/-- No slide is switched off after a spring whose configuration is on. -/
theorem springFrom_slidesOn (hon : ∀ c ∈ s.columns, c.tile.SlidesOn)
    (hconfig : u.options.animations.tileMovement.off = false) :
    ∀ e ∈ (u.springFrom clock (s.slotOrigins.filter p)).columns, e.tile.SlidesOn := by
  intro e he
  obtain ⟨k, hk⟩ := List.mem_iff_getElem?.mp he
  have hlen : k < u.columns.length := by
    have := (List.getElem?_eq_some_iff.mp hk).1
    rwa [columns_springFrom hu.nodup, List.length_map] at this
  have hd : u.columns[k]? = some u.columns[k] := List.getElem?_eq_getElem hlen
  obtain ⟨c, hc, hid, hmotion⟩ := hu.columns _ (List.getElem_mem hlen)
  obtain ⟨j, hj⟩ := List.mem_iff_getElem?.mp hc
  obtain ⟨new, hnew⟩ := origins_getElem? hu.wellFormed hd
  obtain ⟨old, hold⟩ := origins_getElem? h hj
  rw [getElem?_springFrom h hnodup hu hp clock hj hd hid hold hnew, Option.some.injEq] at hk
  rw [← hk]
  exact slidesOn_slide clock _ _ ((Tile.slidesOn_congr hmotion).mpr (hon c hc)) hconfig

end Spring

end ScrollingSpace

end Sol
