import Sol.Slides

/-!
# Slides along runs

No operation of the tiling space makes a tile jump that slides: not the animated moves, not the
removals, and not a change of the ratio, in the middle of earlier slides or not.

* `rendered_near`: as long as the animations are on.
-/

namespace Sol

open Panicking

variable {W Id : Type} [LayoutElement W Id]

namespace ScrollingSpace

open Column

variable {s t u : ScrollingSpace W}

theorem seated_of_subset {l l' : List (Column W)} (h : ∀ d ∈ l', d ∈ l) :
    Traced SameMotion l l' := fun d hd => ⟨d, h d hd, .refl d⟩

theorem Traced.seat {l l' l'' : List (Column W)} (h : Traced SameMotion l l')
    (h' : Traced SameMotion l' l'') : Traced SameMotion l l'' := h.trans h' fun _ _ _ => .trans

theorem updateTileSizes_seated (h : s.WellFormed) :
    Traced SameMotion s.columns s.updateTileSizes.columns :=
  (updateTileSizes_traced h).mono fun c _ ⟨size, hd⟩ => hd ▸ sameMotion_fillSlot c size

/-! ### Moves -/

/-- What a move does that may be animated. -/
structure Shuffled (s : ScrollingSpace W) (r : ScrollingSpace W × Bool) : Prop where
  columns : Traced SameMotion s.columns r.1.columns
  unchanged : r.2 = false → r.1 = s

theorem shuffled_refl : Shuffled s (s, false) :=
  ⟨seated_of_subset fun _ hd => hd, fun _ => rfl⟩

theorem moveLeft_shuffled (h : s.WellFormed) : Ensures s.moveLeft (Shuffled s) := by
  by_cases hf : ∃ i, s.focus = .stack i
  · obtain ⟨i, hf⟩ := hf
    have hi := h.focus_stack i hf
    obtain ⟨m, hm⟩ := h.master_of_row hi
    have htraded : s.Rearranged (s.trade s.stack[i] m i .master (some i)) :=
      h.trade_rearranged hm hi (.inl rfl) (.inr rfl)
    rw [moveLeft_of_stack hm hf hi, ensures_ok]
    refine ⟨Traced.seat (seated_of_subset fun d hd => ?_)
      (updateTileSizes_seated htraded.wellFormed), fun hfalse => by cases hfalse⟩
    rw [perm_trade hm hi] at hd
    exact (FocusList.exchanged_perm _ _ _).mem_iff.mp hd
  · rw [moveLeft_of_not_stack (not_exists.mp hf), ensures_ok]
    exact shuffled_refl

theorem moveRight_shuffled (h : s.WellFormed) : Ensures s.moveRight (Shuffled s) := by
  by_cases hf : s.focus = .master ∧ s.stack ≠ []
  · have hi := rememberedRow_lt hf.2
    obtain ⟨m, hm⟩ := h.master_of_row hi
    have htraded : s.Rearranged (s.trade s.stack[s.rememberedRow] m s.rememberedRow
        (.stack s.rememberedRow) s.lastStackIdx) :=
      h.trade_rearranged hm hi (.inr rfl) (.inl rfl)
    rw [moveRight_of_master hm hf.1 hf.2 hi, ensures_ok]
    refine ⟨Traced.seat (seated_of_subset fun d hd => ?_)
      (updateTileSizes_seated htraded.wellFormed), fun hfalse => by cases hfalse⟩
    rw [perm_trade hm hi] at hd
    exact (FocusList.exchanged_perm _ _ _).mem_iff.mp hd
  · rw [moveRight_of_not_master (by tauto), ensures_ok]
    exact shuffled_refl

/-- A new order of the stack keeps the columns. -/
theorem traced_of_perm {stack : List (Column W)} (hperm : stack.Perm s.stack) (focus : Focus) :
    Traced SameMotion s.columns ({ s with stack, focus } : ScrollingSpace W).columns :=
  seated_of_subset fun _ hd => (hperm.append_left _).mem_iff.mp hd

theorem moveDown_shuffled : Ensures s.moveDown (Shuffled s) := by
  by_cases hf : ∃ i, s.focus = .stack i ∧ i + 1 < s.stack.length
  · obtain ⟨i, hf, hi⟩ := hf
    rw [moveDown_of_stack hf hi, ensures_ok]
    exact ⟨traced_of_perm (FocusList.exchanged_perm _ _ _) _, fun hfalse => by cases hfalse⟩
  · push Not at hf
    rw [moveDown_of_not_stack hf, ensures_ok]
    exact shuffled_refl

theorem moveUp_shuffled (h : s.WellFormed) : Ensures s.moveUp (Shuffled s) := by
  by_cases hf : ∃ i, s.focus = .stack (i + 1)
  · obtain ⟨i, hf⟩ := hf
    have hi := h.focus_stack _ hf
    rw [moveUp_of_stack hf hi, ensures_ok]
    exact ⟨traced_of_perm (FocusList.exchanged_perm _ _ _) _, fun hfalse => by cases hfalse⟩
  · rw [moveUp_of_not_stack, ensures_ok]
    · exact shuffled_refl
    · rintro (_ | i) hi
      · rfl
      · exact absurd ⟨i, hi⟩ hf

theorem moveColumnToLast_seated :
    Ensures s.moveColumnToLast fun t => Traced SameMotion s.columns t.columns := by
  by_cases hf : ∃ i, s.focus = .stack i ∧ i + 1 < s.stack.length
  · obtain ⟨i, hf, hi⟩ := hf
    rw [moveColumnToLast_of_stack hf hi, ensures_ok]
    exact traced_of_perm (FocusList.relocated_perm (by omega)) _
  · push Not at hf
    rw [moveColumnToLast_of_not_stack hf, ensures_ok]
    exact shuffled_refl.columns

/-! ### Springs -/

variable [DecidableEq Id]

/-- The tiles that were taken to other slots have sprung from their old ones. -/
def Sprung (clock : Clock) (s t : ScrollingSpace W) : Prop :=
  ∃ u, Reseated s u ∧ u.settings = s.settings ∧ ∃ p : ℕ × Id × Point → Bool,
    (∀ entry ∈ s.slotOrigins, entry.2.1 ∈ u.windowIds → p entry = true) ∧
      t = u.springFrom clock (s.slotOrigins.filter p)

theorem swapWithSpring_sprung (hnodup : s.windowIds.Nodup) (clock : Clock)
    {mutate : ScrollingSpace W → Outcome (ScrollingSpace W × Bool)}
    (hmoved : Ensures (mutate s) fun r => Moved s r.1)
    (hsettings : Ensures (mutate s) fun r => r.1.settings = s.settings)
    (hmutate : Ensures (mutate s) (Shuffled s)) :
    Ensures (s.swapWithSpring clock mutate) fun r => r.1 = s ∨ Sprung clock s r.1 := by
  unfold swapWithSpring
  simp only [ensures_bind]
  intro r hr
  have hmoved := hmoved r hr
  have hshuffled := hmutate r hr
  obtain ⟨u, changed⟩ := r
  cases changed with
  | false => exact ensures_pure.mpr (.inl (hshuffled.unchanged rfl))
  | true =>
    refine ensures_pure.mpr (.inr ⟨u, ⟨hmoved.wellFormed, hmoved.perm.nodup_iff.mpr hnodup,
      hshuffled.columns⟩, hsettings _ hr, fun _ => true, fun _ _ _ => rfl, ?_⟩)
    rw [List.filter_true]

theorem nudgeMasterRatio_sprung (h : s.WellFormed) (hnodup : s.windowIds.Nodup) (clock : Clock)
    (delta : ℚ) : s.nudgeMasterRatio clock delta = s ∨
      Sprung clock s (s.nudgeMasterRatio clock delta) := by
  unfold nudgeMasterRatio
  dsimp only
  split_ifs
  · exact .inl rfl
  · let nudged : ScrollingSpace W :=
      { s with masterRatio := clamp (15 / 100) (85 / 100) (s.masterRatio + delta) }
    have hratio : nudged.WellFormed := by
      refine wellFormed_iff.mpr ⟨?_, (wellFormed_iff.mp h).2⟩
      exact ⟨le_min (le_max_right _ _) (by norm_num), min_le_right _ _⟩
    have hslots : nudged.updateTileSizes.slots = nudged.slots := slots_updateTileSizes _
    refine .inr ⟨nudged.updateTileSizes, ⟨hratio.congr hslots.symm, ?_,
      updateTileSizes_seated hratio⟩, settings_updateTileSizes, fun _ => true, fun _ _ _ => rfl, ?_⟩
    · rw [windowIds_congr hslots]
      exact hnodup
    · rw [List.filter_true]

theorem takeColumnAt_sprung (h : s.WellFormed) (hnodup : s.windowIds.Nodup) (clock : Clock)
    (i : ℕ) : Ensures (s.takeColumnAt clock i) fun r => Sprung clock s r.2 := by
  unfold takeColumnAt
  simp only [ensures_bind, ensures_pure]
  intro r hr
  obtain ⟨hremoved, hcols, -⟩ := detachColumnAt_kept h i r hr
  have hi : i < s.columns.length := (List.getElem?_eq_some_iff.mp hremoved).1
  have hdetached := (detachColumnAt_spec h hi).ensures r hr
  have hslots : r.2.updateTileSizes.slots = r.2.slots := slots_updateTileSizes _
  have hids : r.2.updateTileSizes.windowIds = s.windowIds.eraseIdx i :=
    (windowIds_congr hslots).trans hdetached.windowIds_eq
  refine ⟨r.2.updateTileSizes, ⟨hdetached.wellFormed.congr hslots.symm, ?_, ?_⟩,
    settings_updateTileSizes.trans (detachColumnAt_settings i r hr), _, ?_, rfl⟩
  · rw [hids]
    exact hnodup.eraseIdx i
  · refine Traced.seat (seated_of_subset fun d hd => ?_)
      (updateTileSizes_seated hdetached.wellFormed)
    rw [hcols] at hd
    exact List.mem_of_mem_eraseIdx hd
  · rintro ⟨j, id, p⟩ hentry hleft
    obtain ⟨c, hc, rfl, -⟩ := (mem_slotOrigins h).mp hentry
    refine decide_eq_true fun hji => ?_
    subst hji
    rw [hids, List.mem_eraseIdx_iff_getElem] at hleft
    obtain ⟨k, hk, hne, hid⟩ := hleft
    have hj : s.windowIds[j]? = some c.windowId := by
      rw [windowIds, List.getElem?_map, hc, Option.map_some]
    exact hne ((List.getElem?_inj hk hnodup).mp
      ((List.getElem?_eq_getElem hk).trans ((congrArg some hid).trans hj.symm)))

/-- The swaps, the removals and the changes of the ratio. -/
def Op.Springs : Op W Id → Prop
  | .moveLeftAnimated | .moveRightAnimated | .moveDownAnimated | .moveUpAnimated => True
  | .removeActiveTile | .removeTile _ | .removeTileByIdx _ => True
  | .removeActiveColumn | .removeColumnByIdx _ => True
  | .nudgeMasterRatio _ => True
  | _ => False

theorem step_sprung (h : s.WellFormed) (hnodup : s.windowIds.Nodup) (clock : Clock) {op : Op W Id}
    (hop : op.Springs) : Ensures (s.step clock op) fun t => t = s ∨ Sprung clock s t := by
  have htake : ∀ i, Ensures (s.takeColumnAt clock i) fun r => r.2 = s ∨ Sprung clock s r.2 :=
    fun i => (takeColumnAt_sprung h hnodup clock i).mono fun _ hr => .inr hr
  have htile : ∀ window, Ensures (s.removeTile clock window) fun r => r.2 = s ∨ Sprung clock s r.2 := by
    intro window
    unfold removeTile removeTileByIdx
    simp only [ensures_bind, ensures_expect, ensures_pure]
    exact fun i _ => htake i
  cases op <;> simp only [Op.Springs] at hop <;> simp only [step, ensures_bind, ensures_pure]
  case moveLeftAnimated =>
    exact swapWithSpring_sprung hnodup clock (moveLeft_moved h).ensures moveLeft_settings
      (moveLeft_shuffled h)
  case moveRightAnimated =>
    exact swapWithSpring_sprung hnodup clock (moveRight_moved h).ensures moveRight_settings
      (moveRight_shuffled h)
  case moveDownAnimated =>
    exact swapWithSpring_sprung hnodup clock (moveDown_moved h).ensures moveDown_settings
      moveDown_shuffled
  case moveUpAnimated =>
    exact swapWithSpring_sprung hnodup clock (moveUp_moved h).ensures moveUp_settings
      (moveUp_shuffled h)
  case removeActiveTile =>
    unfold removeActiveTile
    cases s.focusedColumn with
    | none => exact ensures_pure.mpr (.inl rfl)
    | some col =>
      simp only [ensures_bind, ensures_pure]
      exact htile col.windowId
  case removeTile window => exact htile window
  case removeTileByIdx columnIdx =>
    unfold removeTileByIdx
    simp only [ensures_bind, ensures_pure]
    exact htake columnIdx
  case removeActiveColumn =>
    unfold removeActiveColumn
    cases s.activeColumnIdxInternal with
    | none => exact ensures_pure.mpr (.inl rfl)
    | some idx =>
      simp only [ensures_bind, ensures_pure]
      exact htake idx
  case removeColumnByIdx columnIdx => exact htake columnIdx
  case nudgeMasterRatio delta => exact nudgeMasterRatio_sprung h hnodup clock delta

/-! ### Slides that are on -/

omit [DecidableEq Id] in
/-- Tiles on the same slides have none that is switched off. -/
theorem slidesOn_of_traced {l l' : List (Column W)} {R : Column W → Column W → Prop}
    (h : Traced R l l') (hR : ∀ c d, R c d → c.tile.SlidesOn → d.tile.SlidesOn)
    (hon : ∀ c ∈ l, c.tile.SlidesOn) : ∀ d ∈ l', d.tile.SlidesOn := h.forall hon hR

omit [DecidableEq Id] in
theorem motion_setFullscreen (c : Column W) (isFullscreen : Bool) :
    (c.setFullscreen isFullscreen).1.tile.motion = c.tile.motion := by
  unfold Column.setFullscreen
  split_ifs <;> rfl

omit [DecidableEq Id] in
theorem motion_setMaximized (c : Column W) (maximize : Bool) (size : Size) :
    (c.setMaximized maximize size).1.tile.motion = c.tile.motion := by
  unfold Column.setMaximized
  split_ifs <;> rfl

omit [DecidableEq Id] in
theorem motion_newWithTile (tile : Tile W) (viewSize : Size) (workingArea parentArea : Rect)
    (scale : ℚ) (width : ColumnWidth) (isFullWidth : Bool) :
    (newWithTile tile viewSize workingArea parentArea scale width isFullWidth).tile.motion =
      tile.motion := by
  unfold newWithTile
  split
  · rfl
  · exact motion_setMaximized _ _ _
  · exact motion_setFullscreen _ _

omit [DecidableEq Id] in
theorem addColumn_slidesOn (h : s.WellFormed) (hon : ∀ c ∈ s.columns, c.tile.SlidesOn)
    {column : Column W} (hcolumn : column.tile.SlidesOn) (activate : Bool) :
    ∀ d ∈ (s.addColumn column activate).columns, d.tile.SlidesOn := by
  intro d hd
  rcases (addColumn_traced h column activate).1 d hd with ⟨size, rfl⟩ | ⟨c, hc, size, rfl⟩
  · exact (sameMotion_fillSlot _ size).slidesOn
      ((Tile.slidesOn_congr (by rfl : _ = column.tile.motion)).mpr hcolumn)
  · refine (sameMotion_fillSlot _ size).slidesOn ((Tile.slidesOn_congr ?_).mpr (hon c hc))
    exact (motion_setMaximized _ _ _).trans (motion_setFullscreen _ _)

/-- The tile that an operation adds. -/
def Op.addedTile : Op W Id → Option (Tile W)
  | .addTile tile .. | .addTileToColumn tile _ | .addTileRightOf tile .. => some tile
  | .addColumn column _ => some column.tile
  | _ => none

omit [DecidableEq Id] in
/-- A takeover, or the end of one, has no tile slide. -/
theorem slidesOn_of_taken {l : List (Column W)} {f : Column W → Column W} {i : ℕ} {value : Bool}
    (hf : ∀ c, (f c).tile.motion = c.tile.motion) (hon : ∀ c ∈ s.columns, c.tile.SlidesOn)
    (h : if value then l = s.columns.modify i f
      else Traced (fun c d => ∃ size, d = c.fillSlot size) (s.columns.modify i f) l) :
    ∀ d ∈ l, d.tile.SlidesOn := by
  have hmodified : ∀ d ∈ s.columns.modify i f, d.tile.SlidesOn := by
    let Keeps (c d : Column W) : Prop := d.tile.motion = c.tile.motion
    have htraced : Traced Keeps s.columns (s.columns.modify i f) :=
      traced_modify (fun c => (hf c : Keeps c (f c))) (fun c => (rfl : Keeps c c)) i
    exact slidesOn_of_traced htraced (fun c d hcd => (Tile.slidesOn_congr hcd).mpr) hon
  cases value with
  | true => exact (show l = _ from h) ▸ hmodified
  | false =>
    refine slidesOn_of_traced (show Traced _ _ l from h) ?_ hmodified
    rintro c _ ⟨size, rfl⟩
    exact (sameMotion_fillSlot c size).slidesOn

theorem step_slidesOn (h : s.WellFormed) (hnodup : s.windowIds.Nodup)
    (hon : ∀ c ∈ s.columns, c.tile.SlidesOn)
    (hconfig : s.options.animations.tileMovement.off = false) (clock : Clock) {op : Op W Id}
    (hadded : ∀ tile ∈ op.addedTile, tile.SlidesOn) :
    Ensures (s.step clock op) fun t => ∀ d ∈ t.columns, d.tile.SlidesOn := by
  by_cases hsprings : op.Springs
  · refine (step_sprung h hnodup clock hsprings).mono fun t ht => ?_
    rcases ht with rfl | ⟨u, hu, hsettings, p, hp, rfl⟩
    · exact hon
    · have hoptions : u.options = s.options := congrArg (·.2.2.2.2) hsettings
      exact springFrom_slidesOn h hnodup hu hp clock hon (hoptions ▸ hconfig)
  by_cases hfocus : op.IsFocus
  · refine (step_refocused clock hfocus).mono fun t ht => ?_
    obtain ⟨focus, row, rfl⟩ := ht
    exact hon
  have hshuffled : ∀ {r : ScrollingSpace W × Bool}, Shuffled s r →
      ∀ d ∈ r.1.columns, d.tile.SlidesOn :=
    fun hr => slidesOn_of_traced hr.columns (fun _ _ => SameMotion.slidesOn) hon
  have hnew : ∀ {tile : Tile W}, tile.SlidesOn → ∀ width isFullWidth,
      (newWithTile tile s.viewSize s.workingArea s.parentArea s.scale width
        isFullWidth).tile.SlidesOn := fun ht width isFullWidth =>
    (Tile.slidesOn_congr (motion_newWithTile _ _ _ _ _ width isFullWidth)).mpr ht
  cases op <;> simp only [Op.Springs, Op.IsFocus, not_true_eq_false] at hsprings hfocus <;>
    simp only [step, ensures_bind, ensures_pure]
  case addTile tile activate width isFullWidth =>
    exact addColumn_slidesOn h hon (hnew (hadded tile rfl) _ _) activate
  case addTileToColumn tile activate =>
    exact addColumn_slidesOn h hon (hnew (hadded tile rfl) _ _) activate
  case addTileRightOf tile activate width isFullWidth =>
    exact addColumn_slidesOn h hon (hnew (hadded tile rfl) _ _) activate
  case addColumn column activate => exact addColumn_slidesOn h hon (hadded _ rfl) activate
  case moveLeft => exact (moveLeft_shuffled h).mono fun _ hr => hshuffled hr
  case moveRight => exact (moveRight_shuffled h).mono fun _ hr => hshuffled hr
  case moveDown => exact moveDown_shuffled.mono fun _ hr => hshuffled hr
  case moveUp => exact (moveUp_shuffled h).mono fun _ hr => hshuffled hr
  case moveColumnToFirst =>
    unfold moveColumnToFirst
    split
    · simp only [ensures_bind, ensures_pure]
      exact (moveLeft_shuffled h).mono fun _ hr => hshuffled hr
    · exact ensures_pure.mpr hon
  case moveColumnToLast =>
    exact moveColumnToLast_seated.mono fun _ ht =>
      slidesOn_of_traced ht (fun _ _ => SameMotion.slidesOn) hon
  case swapWindowInDirection direction =>
    unfold swapWindowInDirection
    cases direction with
    | left =>
      simp only [ensures_bind, ensures_pure]
      exact (moveLeft_shuffled h).mono fun _ hr => hshuffled hr
    | right =>
      simp only [ensures_bind, ensures_pure]
      exact (moveRight_shuffled h).mono fun _ hr => hshuffled hr
  case updateConfig viewSize parentArea scale options =>
    refine slidesOn_of_traced (updateConfig_traced h viewSize parentArea scale options).1 ?_ hon
    rintro c _ ⟨size, rfl⟩ hc
    exact (sameMotion_fillSlot _ size).slidesOn
      ((Tile.slidesOn_congr (by rfl : _ = c.tile.motion)).mpr hc)
  case setFullscreen window isFullscreen =>
    refine (setFullscreen_traced h window isFullscreen).mono fun r hr => ?_
    rcases hr with ⟨-, hr⟩ | ⟨i, -, -, hr⟩
    · exact hr ▸ hon
    · let f (c : Column W) := (c.setFullscreen isFullscreen).1
      have htaken : if isFullscreen then r.1.columns = s.columns.modify i f
          else Traced (fun c d => ∃ size, d = c.fillSlot size) (s.columns.modify i f) r.1.columns := by
        cases isFullscreen <;> exact hr
      exact slidesOn_of_taken (fun c => motion_setFullscreen c _) hon htaken
  case setMaximized window maximize =>
    refine (setMaximized_traced h window maximize).mono fun r hr => ?_
    rcases hr with ⟨-, hr⟩ | ⟨i, -, -, hr⟩
    · exact hr ▸ hon
    · let f (c : Column W) := (c.setMaximized maximize s.workingArea.size).1
      have htaken : if maximize then r.1.columns = s.columns.modify i f
          else Traced (fun c d => ∃ size, d = c.fillSlot size) (s.columns.modify i f) r.1.columns := by
        cases maximize <;> exact hr
      exact slidesOn_of_taken (fun c => motion_setMaximized c _ _) hon htaken
  case updateWindow window serial =>
    refine slidesOn_of_traced (updateWindow_traced window serial).1 ?_ hon
    rintro c d (rfl | rfl) hc
    · exact hc
    · exact hc
  case advanceAnimations =>
    refine slidesOn_of_traced (advanceAnimations_traced clock).1 ?_ hon
    rintro c _ rfl hc
    exact ⟨fun move hmove => hc.1 move (Option.mem_filter_iff.mp hmove).1,
      fun move hmove => hc.2 move (Option.mem_filter_iff.mp hmove).1⟩
  case refresh isActive isFocused =>
    refine slidesOn_of_traced (refresh_traced isActive isFocused).1 ?_ hon
    rintro c _ ⟨activated, rfl⟩ hc
    exact hc

/-! ### Runs -/

/-- What is added slides with the animations on, and they are on in the options. -/
def Op.Animated (s : ScrollingSpace W) (op : Op W Id) : Prop :=
  s.options.animations.tileMovement.off = false ∧ ∀ tile ∈ op.addedTile, tile.SlidesOn

/-- No tile is rendered off its slide, as a rubber band does. -/
def AtRest (s : ScrollingSpace W) : Prop :=
  ∀ c ∈ s.columns, c.tile.interactiveMoveOffset = Point.zero

/-- Every window of the later space is rendered near its place in the earlier one. -/
def RenderedNear (clock : Clock) (s t : ScrollingSpace W) : Prop :=
  ∀ window ∈ t.windowIds, ∃ a b, s.renderedAt clock window = some a ∧
    t.renderedAt clock window = some b ∧ Near a b

omit [LayoutElement W Id] [DecidableEq Id] in
theorem near_refl (p : Point) : Near p p := by simp [Near]

theorem renderedNear_refl (h : s.WellFormed) (hnodup : s.windowIds.Nodup) (clock : Clock) :
    RenderedNear clock s s := by
  intro window hwindow
  obtain ⟨c, hc, rfl⟩ := List.mem_map.mp hwindow
  obtain ⟨i, hi⟩ := List.mem_iff_getElem?.mp hc
  obtain ⟨p, hp⟩ := origins_getElem? h hi
  have hrendered := renderedAt_eq h hnodup clock hi hp
  exact ⟨_, _, hrendered, hrendered, near_refl _⟩

theorem Sprung.renderedNear {clock : Clock} (h : s.WellFormed) (hnodup : s.windowIds.Nodup)
    (hon : ∀ c ∈ s.columns, c.tile.SlidesOn) (hrest : s.AtRest) (hsprung : Sprung clock s t) :
    RenderedNear clock s t := by
  obtain ⟨u, hu, -, p, hp, rfl⟩ := hsprung
  intro window hwindow
  rw [windowIds_congr (slots_springFrom u clock _)] at hwindow
  exact springFrom_near h hnodup hu hp clock hon hrest hwindow

/-- The slides of a space are on, and its windows are apart. -/
structure Sliding (s : ScrollingSpace W) : Prop where
  wellFormed : s.WellFormed
  nodup : s.windowIds.Nodup
  slidesOn : ∀ c ∈ s.columns, c.tile.SlidesOn

theorem sliding_of_animated
    (h : (machine W Id).ReachableBy (fun s a => a.2.Callable s ∧ a.2.Animated s) s) :
    Sliding s := by
  refine Machine.ReachableBy.invariant h ?_ ?_
  · rintro s ⟨viewSize, parentArea, scale, options, rfl⟩
    exact ⟨wellFormed_new viewSize parentArea scale options, List.nodup_nil,
      fun c hc => absurd hc List.not_mem_nil⟩
  · rintro s a hs ⟨hcallable, hconfig, hadded⟩
    have hapart := step_nodup hs.wellFormed hs.nodup a.1 hcallable
    have hslides := step_slidesOn hs.wellFormed hs.nodup hs.slidesOn hconfig a.1 hadded
    exact (hapart.ensures.and hslides).mono fun t ht => ⟨ht.1.1, ht.1.2, ht.2⟩

/-- At the moment of a swap, of a removal or of a change of the ratio, every window that is left
is rendered less than half a pixel away from its old place, in the middle of slides or not. -/
theorem rendered_near
    (h : (machine W Id).ReachableBy (fun s a => a.2.Callable s ∧ a.2.Animated s) s)
    (hrest : s.AtRest) (clock : Clock) {op : Op W Id} (hop : op.Callable s)
    (hsprings : op.Springs) : Returns (s.step clock op) (RenderedNear clock s) := by
  have hs := sliding_of_animated h
  have hnear : Ensures (s.step clock op) (RenderedNear clock s) := by
    refine (step_sprung hs.wellFormed hs.nodup clock hsprings).mono fun t ht => ?_
    rcases ht with rfl | hsprung
    · exact renderedNear_refl hs.wellFormed hs.nodup clock
    · exact hsprung.renderedNear hs.wellFormed hs.nodup hs.slidesOn hrest
  exact ((step_nodup hs.wellFormed hs.nodup clock hop).and_ensures hnear).mono fun t ht => ht.2

instance (s : ScrollingSpace W) (op : Op W Id) : Decidable (op.Animated s) := by
  unfold Op.Animated Tile.SlidesOn
  infer_instance

instance (s : ScrollingSpace W) : Decidable s.AtRest := by
  unfold AtRest
  infer_instance

end ScrollingSpace

/-- Slides of a tenth of a second. -/
def Sample.slidingOptions : Options :=
  { options with
    animations := { options.animations with tileMovement := ⟨false, .easing 100 fun x => x⟩ } }

/-- The time at which half of such a slide is over. -/
def Sample.midway : Clock := ⟨50000000, 50000000, 1, false⟩

/-- Opens the windows from 1 to 3, then has the border between master and stack move. -/
def Sample.sliding : List (Clock × ScrollingSpace.Op Toplevel ℕ) :=
  [(clock, .addTile (tile 1) true (.proportion (1 / 2)) false),
    (clock, .addTile (tile 2) true (.proportion (1 / 2)) false),
    (clock, .addTile (tile 3) true (.proportion (1 / 2)) false),
    (clock, .nudgeMasterRatio (1 / 10))]

namespace ScrollingSpace

/-- The other windows are rendered near their old places as the third one goes, in mid-slide. -/
theorem rendered_near_sliding : ∃ s t : ScrollingSpace Sample.Toplevel,
    s.step Sample.midway (.removeTile 3) = .ok t ∧ t.windowIds = [1, 2] ∧
      RenderedNear Sample.midway s t := by
  let removed (s : ScrollingSpace Sample.Toplevel) : Option (List ℕ) :=
    (s.step Sample.midway (.removeTile 3)).toOption.map (·.windowIds)
  obtain ⟨s, hs, hp⟩ := Machine.exists_reachableBy (M := machine Sample.Toplevel ℕ)
    (p := fun s => decide (s.AtRest ∧ (Op.removeTile 3 : Op Sample.Toplevel ℕ).Callable s ∧
      removed s = some [1, 2]))
    Sample.sliding ⟨_, _, _, _, rfl⟩
    (show ((machine Sample.Toplevel ℕ).run (fun s a => a.2.Callable s ∧ a.2.Animated s)
      (.new ⟨1920, 1080⟩ ⟨⟨0, 0⟩, ⟨1920, 1080⟩⟩ 1 Sample.slidingOptions) _).any _ = true by
        decide +kernel)
  obtain ⟨hrest, hcallable, hids⟩ := of_decide_eq_true hp
  obtain ⟨t, ht, hnear⟩ := rendered_near hs hrest Sample.midway hcallable trivial
  have hremoved : removed s = some t.windowIds := congrArg (·.toOption.map (·.windowIds)) ht
  exact ⟨s, t, ht, Option.some.inj (hremoved.symm.trans hids), hnear⟩

end ScrollingSpace

end Sol
