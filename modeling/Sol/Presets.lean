import Sol.Settings

/-!
# The presets of a window

A floating window that was resized by toggling through the presets remembers which one it has, also
while it is tiled, dragged, or on its way to another workspace.  What it remembers is a preset of its
tile's options: a tile that gets options with other presets forgets it.

* `togglePreset_spec`: the preset that a toggle selects is there;
* `toggleWindowWidth_spec`, `toggleWindowHeight_spec`: the toggles find every window that is there.
-/

namespace Sol

open Panicking

variable {W Id : Type}

/-! ### Tiles -/

namespace Tile

/-- The remembered presets are there in the options. -/
structure Fits (tile : Tile W) : Prop where
  width : ∀ i ∈ tile.floatingPresetWidthIdx, i < tile.options.layout.presetColumnWidths.length
  height : ∀ i ∈ tile.floatingPresetHeightIdx, i < tile.options.layout.presetWindowHeights.length

/-- The options are the given ones, too. -/
structure FitsIn (options : Options) (tile : Tile W) : Prop extends tile.Fits where
  options_eq : tile.options = options

/-- The remembered presets, and the options. -/
def remembered (self : Tile W) : Option ℕ × Option ℕ × Options :=
  (self.floatingPresetWidthIdx, self.floatingPresetHeightIdx, self.options)

variable {a b : Tile W} {options : Options}

theorem Fits.congr (h : a.Fits) (hb : b.remembered = a.remembered) : b.Fits := by
  simp only [remembered, Prod.mk.injEq] at hb
  obtain ⟨hwidth, hheight, hoptions⟩ := hb
  refine ⟨?_, ?_⟩
  · rw [hwidth, hoptions]
    exact h.width
  · rw [hheight, hoptions]
    exact h.height

theorem FitsIn.congr (h : a.FitsIn options) (hb : b.remembered = a.remembered) :
    b.FitsIn options :=
  ⟨h.toFits.congr hb, (congrArg (·.2.2) hb).trans h.options_eq⟩

/-- A tile that was resized by other means has no preset. -/
theorem FitsIn.forgetWidth (h : a.FitsIn options) (window : W) :
    { a with floatingPresetWidthIdx := none, window }.FitsIn options :=
  ⟨⟨(fun _ hi => nomatch hi), h.height⟩, h.options_eq⟩

theorem FitsIn.forgetHeight (h : a.FitsIn options) (window : W) :
    { a with floatingPresetHeightIdx := none, window }.FitsIn options :=
  ⟨⟨h.width, fun _ hi => nomatch hi⟩, h.options_eq⟩

theorem FitsIn.selectWidth (h : a.FitsIn options) {i : ℕ}
    (hi : i < options.layout.presetColumnWidths.length) :
    { a with floatingPresetWidthIdx := some i }.FitsIn options := by
  refine ⟨⟨?_, h.height⟩, h.options_eq⟩
  rintro _ ⟨⟩
  exact h.options_eq ▸ hi

theorem FitsIn.selectHeight (h : a.FitsIn options) {i : ℕ}
    (hi : i < options.layout.presetWindowHeights.length) :
    { a with floatingPresetHeightIdx := some i }.FitsIn options := by
  refine ⟨⟨h.width, ?_⟩, h.options_eq⟩
  rintro _ ⟨⟩
  exact h.options_eq ▸ hi

variable [LayoutElement W Id]

theorem fits_new (window : W) (viewSize : Size) (scale : ℚ) (options : Options) :
    (new window viewSize scale options).Fits := ⟨(fun _ hi => nomatch hi), (fun _ hi => nomatch hi)⟩

/-- Presets that changed are forgotten. -/
theorem Fits.updateConfig (h : a.Fits) (viewSize : Size) (scale : ℚ) (options : Options) :
    (a.updateConfig viewSize scale options).FitsIn options := by
  refine ⟨⟨?_, ?_⟩, rfl⟩
  · intro i hi
    unfold Tile.updateConfig at hi
    dsimp only at hi
    split_ifs at hi with hchanged
    · cases hi
    · exact lt_of_lt_of_eq (h.width i hi) (congrArg List.length (not_not.mp hchanged))
  · intro i hi
    unfold Tile.updateConfig at hi
    dsimp only at hi
    split_ifs at hi with hchanged
    · cases hi
    · exact lt_of_lt_of_eq (h.height i hi) (congrArg List.length (not_not.mp hchanged))

end Tile

/-- A toggle selects one of the presets. -/
theorem togglePreset_spec {presets : List PresetSize} (h : presets ≠ []) (selected : Option ℕ)
    (forwards : Bool) (available currentWindow currentTile : ℚ) :
    Returns (togglePreset presets selected forwards available currentWindow currentTile)
      (· < presets.length) := by
  have hlen : 0 < presets.length := List.length_pos_iff.mpr h
  unfold togglePreset
  cases selected with
  | some idx =>
    have hmod : ∀ step, (idx + step) % presets.length < presets.length :=
      fun step => Nat.mod_lt _ hlen
    have hselected : ∀ step, Returns (if presets.length = 0 then throw .remainderByZero
        else pure ((idx + step) % presets.length)) (· < presets.length) :=
      fun step => returns_ite.mpr ⟨fun h0 => absurd h0 hlen.ne', fun _ => returns_pure.mpr (hmod step)⟩
    cases forwards with
    | true => exact hselected 1
    | false =>
      have hstep : Returns (checkedSub presets.length 1) fun _ => True :=
        returns_checkedSub.mpr ⟨hlen, trivial⟩
      exact returns_bind.mpr (hstep.mono fun step _ => hselected step)
  | none =>
    cases forwards with
    | true =>
      refine returns_pure.mpr ?_
      cases hfound : List.findIdx? _ _ with
      | none => exact hlen
      | some i =>
        have hlt := (List.findIdx?_eq_some_iff_getElem.mp hfound).1
        rwa [List.length_map] at hlt
    | false =>
      dsimp only
      rw [if_neg Bool.false_ne_true]
      cases List.findIdx? _ _ with
      | none => exact returns_checkedSub.mpr ⟨hlen, Nat.sub_lt hlen one_pos⟩
      | some i => exact returns_pure.mpr (by omega)

/-! ### The tiling space -/

namespace ScrollingSpace

/-- The remembered presets of all tiles are there. -/
def Fits (s : ScrollingSpace W) : Prop := ∀ c ∈ s.columns, c.tile.Fits

variable {s t : ScrollingSpace W}

theorem fits_iff : s.Fits ↔ (∀ m ∈ s.master, m.tile.Fits) ∧ ∀ c ∈ s.stack, c.tile.Fits := by
  simp only [Fits, columns, List.mem_append, Option.mem_toList]
  exact ⟨fun h => ⟨fun m hm => h m (.inl hm), fun c hc => h c (.inr hc)⟩,
    fun h c hc => hc.elim (h.1 c) (h.2 c)⟩

theorem Fits.of_subset (h : s.Fits) (hsub : ∀ c ∈ t.columns, c ∈ s.columns) : t.Fits :=
  fun c hc => h c (hsub c hc)

variable [LayoutElement W Id]

theorem remembered_fillSlot (c : Column W) (size : Size) :
    (c.fillSlot size).tile.remembered = c.tile.remembered := by
  unfold Column.fillSlot
  split_ifs <;> rfl

theorem remembered_slide (clock : Clock) (config : AnimationConfig) (delta : Point)
    (c : Column W) : (slide clock config delta c).tile.remembered = c.tile.remembered := by
  unfold slide
  dsimp only
  split_ifs <;> rfl

theorem remembered_setFullscreen (c : Column W) (isFullscreen : Bool) :
    (c.setFullscreen isFullscreen).1.tile.remembered = c.tile.remembered := by
  unfold Column.setFullscreen
  split_ifs <;> rfl

theorem remembered_setMaximized (c : Column W) (maximize : Bool) (size : Size) :
    (c.setMaximized maximize size).1.tile.remembered = c.tile.remembered := by
  unfold Column.setMaximized
  split_ifs <;> rfl

theorem remembered_newWithTile (tile : Tile W) (viewSize : Size) (workingArea parentArea : Rect)
    (scale : ℚ) (width : ColumnWidth) (isFullWidth : Bool) :
    (Column.newWithTile tile viewSize workingArea parentArea scale width
      isFullWidth).tile.remembered = tile.remembered := by
  unfold Column.newWithTile
  split
  · rfl
  · exact remembered_setMaximized _ _ _
  · exact remembered_setFullscreen _ _

theorem remembered_settled {c d : Column W} (h : Column.Settled c d) :
    d.tile.remembered = c.tile.remembered := by
  induction h with
  | refl => rfl
  | fill _ size ih => exact (remembered_fillSlot _ size).trans ih
  | slide _ clock config delta ih => exact (remembered_slide clock config delta _).trans ih

theorem Fits.settle (h : s.Fits) (ht : Traced Column.Settled s.columns t.columns) : t.Fits :=
  ht.forall h fun _ _ hcd hc => hc.congr (remembered_settled hcd)

theorem Fits.mapColumns (h : s.Fits) {f : Column W → Column W}
    (hf : ∀ c, c.tile.Fits → (f c).tile.Fits) : (s.mapColumns f).Fits := by
  intro d hd
  rw [columns_mapColumns] at hd
  obtain ⟨c, hc, rfl⟩ := List.mem_map.mp hd
  exact hf c (h c hc)

theorem fits_fillSlots {l : List (Column W)} (h : ∀ c ∈ l, c.tile.Fits) (sizes : List Size) :
    ∀ c ∈ fillSlots sizes l, c.tile.Fits := by
  induction l generalizing sizes with
  | nil => cases sizes <;> exact fun _ hc => absurd hc List.not_mem_nil
  | cons c l ih =>
    obtain ⟨hc, hl⟩ := List.forall_mem_cons.mp h
    cases sizes with
    | nil => exact h
    | cons size sizes =>
      exact List.forall_mem_cons.mpr ⟨hc.congr (remembered_fillSlot c size), ih hl sizes⟩

theorem Fits.updateTileSizes (h : s.Fits) : s.updateTileSizes.Fits := by
  unfold Fits
  rw [columns_updateTileSizes]
  exact fits_fillSlots h _

theorem Fits.modifyColumnAt (h : s.Fits) {f : Column W → Column W}
    (hf : ∀ c, c.tile.Fits → (f c).tile.Fits) (i : ℕ) : (s.modifyColumnAt i f).Fits := by
  obtain ⟨hmaster, hstack⟩ := fits_iff.mp h
  unfold ScrollingSpace.modifyColumnAt
  split_ifs
  · refine fits_iff.mpr ⟨fun m hm => ?_, hstack⟩
    obtain ⟨m', hm', rfl⟩ := Option.mem_map.mp hm
    exact hf m' (hmaster m' hm')
  · exact fits_iff.mpr ⟨hmaster, Vec.forall_mem_modify hstack hf _⟩

theorem Fits.addColumn (h : s.Fits) {column : Column W} (hcolumn : column.tile.Fits)
    (activate : Bool) : (s.addColumn column activate).Fits := by
  have hended : (s.mapColumns fun col => col.endTakeover s.workingArea.size).Fits :=
    h.mapColumns fun c hc => hc.congr
      ((remembered_setMaximized _ _ _).trans (remembered_setFullscreen _ _))
  obtain ⟨hmaster, hstack⟩ := fits_iff.mp hended
  have hnew := (hcolumn.updateConfig s.viewSize s.scale s.options).toFits
  unfold ScrollingSpace.addColumn
  refine Fits.updateTileSizes ?_
  unfold placeColumn
  split
  · refine fits_iff.mpr ⟨?_, hstack⟩
    rintro _ ⟨⟩
    exact hnew
  · refine fits_iff.mpr ⟨hmaster, fun c hc => ?_⟩
    rcases List.mem_append.mp hc with hc | hc
    · exact hstack c hc
    · exact List.mem_singleton.mp hc ▸ hnew

theorem Fits.addTile (h : s.Fits) {tile : Tile W} (htile : tile.Fits) (activate : Bool)
    (width : ColumnWidth) (isFullWidth : Bool) : (s.addTile tile activate width isFullWidth).Fits :=
  h.addColumn (htile.congr (remembered_newWithTile tile _ _ _ _ _ _)) activate

theorem Fits.addTileToColumn (h : s.Fits) {tile : Tile W} (htile : tile.Fits) (activate : Bool) :
    (s.addTileToColumn tile activate).Fits :=
  h.addColumn (htile.congr (remembered_newWithTile tile _ _ _ _ _ _)) activate

theorem Fits.updateConfig (h : s.Fits) (viewSize : Size) (parentArea : Rect) (scale : ℚ)
    (options : Options) : (s.updateConfig viewSize parentArea scale options).Fits := by
  unfold ScrollingSpace.updateConfig
  refine Fits.updateTileSizes ?_
  intro c hc
  have hmapped := h.mapColumns (f := fun col => col.updateConfig viewSize
    (computeWorkingArea parentArea scale options.layout.struts) parentArea scale options)
    fun c hc => (hc.updateConfig viewSize scale options).toFits
  exact hmapped c hc

theorem Fits.advanceAnimations (h : s.Fits) (clock : Clock) : (s.advanceAnimations clock).Fits :=
  h.mapColumns fun _ hc => hc.congr rfl

theorem Fits.refresh (h : s.Fits) (isActive isFocused : Bool) :
    (s.refresh isActive isFocused).Fits := by
  refine (refresh_traced isActive isFocused).1.forall h ?_
  rintro c _ ⟨activated, rfl⟩ hc
  exact hc.congr rfl

/-! #### Moves -/

theorem moveLeft_fits (h : s.Fits) : Ensures s.moveLeft fun r => r.1.Fits := by
  obtain ⟨hmaster, hstack⟩ := fits_iff.mp h
  unfold moveLeft
  split
  · simp only [ensures_bind, Vec.ensures_remove]
    intro c hc
    have hrest : ∀ d ∈ s.stack.eraseIdx ‹_›, d.tile.Fits :=
      fun d hd => hstack d (List.mem_of_mem_eraseIdx hd)
    have hpromoted := hstack c (List.mem_of_getElem? hc)
    have hfits : ∀ stack : List (Column W), (∀ d ∈ stack, d.tile.Fits) → ∀ focus row,
        { s with master := some c, stack, focus, lastStackIdx := row }.Fits := by
      intro stack hs focus row
      refine fits_iff.mpr ⟨?_, hs⟩
      rintro _ ⟨⟩
      exact hpromoted
    split
    · rename_i oldMaster hold
      refine ensures_bind.mpr (Vec.ensures_insert.mpr fun hle => ensures_pure.mpr ?_)
      refine (hfits _ (fun d hd => ?_) _ _).updateTileSizes
      rcases List.mem_cons.mp ((List.perm_insertIdx _ _ hle).mem_iff.mp hd) with rfl | hd
      · exact hmaster _ hold
      · exact hrest d hd
    · exact ensures_pure.mpr (hfits _ hrest _ _).updateTileSizes
  · exact ensures_pure.mpr h

theorem moveRight_fits (h : s.Fits) : Ensures s.moveRight fun r => r.1.Fits := by
  obtain ⟨hmaster, hstack⟩ := fits_iff.mp h
  unfold moveRight
  split
  · split_ifs
    · exact ensures_pure.mpr h
    · dsimp only
      split
      · exact ensures_pure.mpr h
      · rename_i oldMaster hold
        simp only [ensures_bind, Vec.ensures_remove, Vec.ensures_insert, ensures_pure]
        intro c hc hle
        refine Fits.updateTileSizes (fits_iff.mpr ⟨?_, fun d hd => ?_⟩)
        · rintro _ ⟨⟩
          exact hstack c (List.mem_of_getElem? hc)
        · rcases List.mem_cons.mp ((List.perm_insertIdx _ _ hle).mem_iff.mp hd) with rfl | hd
          · exact hmaster _ hold
          · exact hstack d (List.mem_of_mem_eraseIdx hd)
  · exact ensures_pure.mpr h

omit [LayoutElement W Id] in
theorem swap_fits (h : s.Fits) (i j : ℕ) :
    Ensures (Vec.swap s.stack i j) fun stack => ∀ focus row,
      { s with stack, focus, lastStackIdx := row }.Fits := by
  obtain ⟨hmaster, hstack⟩ := fits_iff.mp h
  rw [Vec.ensures_swap]
  intro a b ha hb focus row
  refine fits_iff.mpr ⟨hmaster, ?_⟩
  exact Vec.forall_mem_set (Vec.forall_mem_set hstack (hstack b (List.mem_of_getElem? hb)))
    (hstack a (List.mem_of_getElem? ha))

omit [LayoutElement W Id] in
theorem moveDown_fits (h : s.Fits) : Ensures s.moveDown fun r => r.1.Fits := by
  unfold moveDown
  split
  · rw [ensures_ite, ensures_bind]
    exact ⟨fun _ => (swap_fits h _ _).mono fun stack hs => ensures_pure.mpr (hs _ _),
      fun _ => ensures_pure.mpr h⟩
  · exact ensures_pure.mpr h

omit [LayoutElement W Id] in
theorem moveUp_fits (h : s.Fits) : Ensures s.moveUp fun r => r.1.Fits := by
  unfold moveUp
  split
  · rw [ensures_ite, ensures_bind]
    exact ⟨fun _ => (swap_fits h _ _).mono fun stack hs => ensures_pure.mpr (hs _ _),
      fun _ => ensures_pure.mpr h⟩
  · exact ensures_pure.mpr h

theorem moveColumnToFirst_fits (h : s.Fits) : Ensures s.moveColumnToFirst Fits := by
  unfold moveColumnToFirst
  split
  · simp only [ensures_bind, ensures_pure]
    exact moveLeft_fits h
  · exact ensures_pure.mpr h

omit [LayoutElement W Id] in
theorem moveColumnToLast_fits (h : s.Fits) : Ensures s.moveColumnToLast Fits := by
  obtain ⟨hmaster, hstack⟩ := fits_iff.mp h
  unfold moveColumnToLast
  split
  · simp only [ensures_ite, ensures_bind, Vec.ensures_remove, ensures_pure]
    refine ⟨fun _ c hc => fits_iff.mpr ⟨hmaster, fun d hd => ?_⟩, fun _ => h⟩
    rcases List.mem_append.mp hd with hd | hd
    · exact hstack d (List.mem_of_mem_eraseIdx hd)
    · exact List.mem_singleton.mp hd ▸ hstack c (List.mem_of_getElem? hc)
  · exact ensures_pure.mpr h

theorem swapWindowInDirection_fits (h : s.Fits) (direction : ScrollDirection) :
    Ensures (s.swapWindowInDirection direction) Fits := by
  unfold swapWindowInDirection
  cases direction with
  | left => exact ensures_bind.mpr ((moveLeft_fits h).mono fun _ hr => ensures_pure.mpr hr)
  | right => exact ensures_bind.mpr ((moveRight_fits h).mono fun _ hr => ensures_pure.mpr hr)

theorem Refocused.fits (ht : Refocused s t) (h : s.Fits) : t.Fits := by
  obtain ⟨focus, row, rfl⟩ := ht
  exact h

section ById

variable [DecidableEq Id]

theorem Fits.springFrom (h : s.Fits) (clock : Clock) (pre : List (ℕ × Id × Point)) :
    (s.springFrom clock pre).Fits := h.settle (springFrom_traced clock pre)

theorem Fits.modifyColumnById (h : s.Fits) {f : Column W → Column W}
    (hf : ∀ c, (f c).tile.remembered = c.tile.remembered) (window : Id) :
    (s.modifyColumnById window f).Fits := by
  have htraced := modifyColumnById_traced (s := s) (f := f)
    (R := fun c d => d.tile.remembered = c.tile.remembered) hf (fun _ => rfl) window
  exact htraced.forall h fun _ _ hcd hc => hc.congr hcd

theorem swapWithSpring_fits (clock : Clock)
    {mutate : ScrollingSpace W → Outcome (ScrollingSpace W × Bool)}
    (hmutate : Ensures (mutate s) fun r => r.1.Fits) :
    Ensures (s.swapWithSpring clock mutate) fun r => r.1.Fits := by
  unfold swapWithSpring
  simp only [ensures_bind, ensures_ite, ensures_pure]
  exact hmutate.mono fun r hr => ⟨fun _ => hr.springFrom clock _, fun _ => hr⟩

theorem Fits.nudgeMasterRatio (h : s.Fits) (clock : Clock) (delta : ℚ) :
    (s.nudgeMasterRatio clock delta).Fits := by
  unfold ScrollingSpace.nudgeMasterRatio
  dsimp only
  split_ifs
  · exact h
  · refine Fits.springFrom (Fits.updateTileSizes ?_) clock _
    exact h

/-! #### Removals -/

omit [DecidableEq Id] in
theorem detachColumnAt_fits (h : s.Fits) (i : ℕ) :
    Ensures (s.detachColumnAt i) fun r => r.1.tile.Fits ∧ r.2.Fits := by
  obtain ⟨hmaster, hstack⟩ := fits_iff.mp h
  have hfocus : ∀ {u : ScrollingSpace W}, u.Fits → ∀ j, (u.updateFocusAfterRemoval j).Fits := by
    intro u hu j
    obtain ⟨focus, heq⟩ := u.updateFocusAfterRemoval_eq j
    rw [heq]
    exact hu
  unfold detachColumnAt
  rw [ensures_ite]
  refine ⟨fun _ => ?_, fun _ => ?_⟩
  · rw [ensures_bind, ensures_expect]
    intro m hm
    cases hrest : s.stack with
    | nil => exact ensures_pure.mpr ⟨hmaster m hm, hfocus (fits_iff.mpr ⟨by simp, by simp⟩) 0⟩
    | cons c cs =>
      rw [hrest] at hstack
      obtain ⟨hc, hcs⟩ := List.forall_mem_cons.mp hstack
      refine ensures_pure.mpr ⟨hmaster m hm, hfocus (fits_iff.mpr ⟨?_, hcs⟩) 0⟩
      rintro _ ⟨⟩
      exact hc
  · simp only [ensures_bind, Vec.ensures_remove, ensures_pure]
    intro c hc
    have hrest : ∀ d ∈ s.stack.eraseIdx (i - 1), d.tile.Fits :=
      fun d hd => hstack d (List.mem_of_mem_eraseIdx hd)
    have hfits : { s with stack := s.stack.eraseIdx (i - 1) }.Fits :=
      fits_iff.mpr ⟨hmaster, hrest⟩
    exact ⟨hstack c (List.mem_of_getElem? hc), hfocus hfits i⟩

theorem takeColumnAt_fits (h : s.Fits) (clock : Clock) (i : ℕ) :
    Ensures (s.takeColumnAt clock i) fun r => r.1.tile.Fits ∧ r.2.Fits := by
  unfold takeColumnAt
  simp only [ensures_bind, ensures_pure]
  exact (detachColumnAt_fits h i).mono fun r hr => ⟨hr.1, hr.2.updateTileSizes.springFrom clock _⟩

theorem removeTile_fits (h : s.Fits) (clock : Clock) (window : Id) :
    Ensures (s.removeTile clock window) fun r => r.1.tile.Fits ∧ r.2.Fits := by
  unfold removeTile removeTileByIdx
  simp only [ensures_bind, ensures_expect, ensures_pure]
  exact fun i _ => takeColumnAt_fits h clock i

theorem removeActiveTile_fits (h : s.Fits) (clock : Clock) :
    Ensures (s.removeActiveTile clock) fun r => (∀ removed ∈ r.1, removed.tile.Fits) ∧ r.2.Fits := by
  unfold removeActiveTile
  split
  · exact ensures_pure.mpr ⟨(fun _ hr => nomatch hr), h⟩
  · simp only [ensures_bind, ensures_pure]
    refine (removeTile_fits h clock _).mono fun r hr => ⟨?_, hr.2⟩
    rintro _ ⟨⟩
    exact hr.1

theorem removeActiveColumn_fits (h : s.Fits) (clock : Clock) :
    Ensures (s.removeActiveColumn clock) fun r => (∀ column ∈ r.1, column.tile.Fits) ∧ r.2.Fits := by
  unfold removeActiveColumn
  split
  · exact ensures_pure.mpr ⟨(fun _ hr => nomatch hr), h⟩
  · simp only [ensures_bind, ensures_pure]
    refine (takeColumnAt_fits h clock _).mono fun r hr => ⟨?_, hr.2⟩
    rintro _ ⟨⟩
    exact hr.1

/-! #### Takeovers and windows -/

theorem setFullscreen_fits (h : s.Fits) (window : Id) (isFullscreen : Bool) :
    Ensures (s.setFullscreen window isFullscreen) fun r => r.1.Fits := by
  unfold setFullscreen
  split
  · exact ensures_pure.mpr h
  · simp only [ensures_bind, ensures_expect, ensures_pure]
    intro col _
    have hset := h.modifyColumnAt (f := fun col => (col.setFullscreen isFullscreen).1)
      (fun c hc => hc.congr (remembered_setFullscreen c isFullscreen))
    split_ifs
    · exact hset _
    · exact (hset _).updateTileSizes

theorem setMaximized_fits (h : s.Fits) (window : Id) (maximize : Bool) :
    Ensures (s.setMaximized window maximize) fun r => r.1.Fits := by
  unfold setMaximized
  split
  · exact ensures_pure.mpr h
  · simp only [ensures_bind, ensures_expect, ensures_pure]
    intro col _
    have hset := h.modifyColumnAt
      (f := fun col => (col.setMaximized maximize s.workingArea.size).1)
      (fun c hc => hc.congr (remembered_setMaximized c maximize _))
    split_ifs
    · exact hset _
    · exact (hset _).updateTileSizes

theorem Fits.updateWindow (h : s.Fits) (window : Id) (serial : Option ℕ) :
    (s.updateWindow window serial).Fits :=
  h.modifyColumnById (by intro c; cases serial <;> rfl) window

end ById

end ScrollingSpace

/-! ### The floating space -/

namespace FloatingSpace

/-- The tiles have the options of the space, which have presets, and what they remember is there. -/
structure FitsIn (options : Options) (s : FloatingSpace W Id) : Prop where
  presets : options.layout.HasPresets
  options_eq : s.options = options
  tiles : ∀ tile ∈ s.tiles, tile.FitsIn options

variable {s t : FloatingSpace W Id} {options : Options}

theorem FitsIn.retile (h : s.FitsIn options) {tiles : List (Tile W)}
    (htiles : ∀ tile ∈ tiles, tile.FitsIn options) : { s with tiles }.FitsIn options :=
  ⟨h.presets, h.options_eq, htiles⟩

/-- What else is kept of the tiles, and which one is active, does not matter. -/
theorem FitsIn.relabel (h : s.FitsIn options) (data : List Data) (activeWindowId : Option Id)
    (interactiveResize : Option (InteractiveResize Id)) :
    { s with data, activeWindowId, interactiveResize }.FitsIn options :=
  ⟨h.presets, h.options_eq, h.tiles⟩

theorem FitsIn.set (h : s.FitsIn options) {tile : Tile W} (htile : tile.FitsIn options) (i : ℕ) :
    { s with tiles := s.tiles.set i tile }.FitsIn options :=
  h.retile (Vec.forall_mem_set h.tiles htile)

theorem FitsIn.setWithData (h : s.FitsIn options) {tile : Tile W} (htile : tile.FitsIn options)
    (i : ℕ) (data : List Data) : { s with tiles := s.tiles.set i tile, data }.FitsIn options :=
  (h.set htile i).relabel data s.activeWindowId s.interactiveResize

theorem FitsIn.getElem? (h : s.FitsIn options) {i : ℕ} {tile : Tile W}
    (htile : s.tiles[i]? = some tile) : tile.FitsIn options :=
  h.tiles tile (List.mem_of_getElem? htile)

theorem FitsIn.modify (h : s.FitsIn options) {f : Tile W → Tile W}
    (hf : ∀ tile, (f tile).remembered = tile.remembered) (i : ℕ) :
    { s with tiles := s.tiles.modify i f }.FitsIn options :=
  h.retile (Vec.forall_mem_modify h.tiles (fun tile htile => htile.congr (hf tile)) i)

theorem FitsIn.mapTiles (h : s.FitsIn options) {f : Tile W → Tile W}
    (hf : ∀ tile, (f tile).remembered = tile.remembered) : (s.mapTiles f).FitsIn options := by
  refine h.retile fun tile htile => ?_
  obtain ⟨a, ha, rfl⟩ := List.mem_map.mp htile
  exact (h.tiles a ha).congr (hf a)

/-! #### Stacking -/

theorem raiseWindow_fits (h : s.FitsIn options) (i j : ℕ) :
    Ensures (s.raiseWindow i j) (FitsIn options) := by
  unfold raiseWindow
  simp only [ensures_bind, ensures_assert, Vec.ensures_remove, Vec.ensures_insert, ensures_pure]
  refine fun _ a ha d _ hlt _ => ⟨h.presets, h.options_eq, fun b hb => ?_⟩
  rcases List.mem_cons.mp ((List.perm_insertIdx a _ hlt).mem_iff.mp hb) with rfl | hb
  · exact h.getElem? ha
  · exact h.tiles b (List.mem_of_mem_eraseIdx hb)

theorem raiseAll_fits (h : s.FitsIn options) (idx : ℕ) (ds : List ℕ) :
    Ensures (s.raiseAll idx ds) (FitsIn options) := by
  induction ds generalizing s idx with
  | nil => exact ensures_pure.mpr h
  | cons d ds ih =>
    unfold raiseAll
    rw [ensures_bind]
    exact (raiseWindow_fits h d idx).mono fun t ht => ih ht (idx + 1)

variable [LayoutElement W Id]

theorem bringUpDescendantsOf_fits (h : s.FitsIn options) (idx : ℕ) :
    Ensures (s.bringUpDescendantsOf idx) (FitsIn options) := by
  unfold bringUpDescendantsOf
  simp only [ensures_bind, Vec.ensures_get]
  exact fun tile _ => raiseAll_fits h idx _

/-- A tile that comes in gets the options of the space. -/
theorem addTileAt_fits (h : s.FitsIn options) (idx : ℕ) {tile : Tile W} (htile : tile.Fits)
    (activate : Bool) : Ensures (s.addTileAt idx tile activate) (FitsIn options) := by
  have hupdated : (tile.updateConfig s.viewSize s.scale s.options).FitsIn options :=
    ⟨(htile.updateConfig s.viewSize s.scale s.options).toFits, h.options_eq⟩
  have hadded : ∀ window, Tile.FitsIn options
      { tile.updateConfig s.viewSize s.scale s.options with window } := fun _ => hupdated.congr rfl
  unfold addTileAt
  simp only [ensures_bind, Vec.ensures_insert]
  intro _ hlt
  apply bringUpDescendantsOf_fits
  refine ⟨h.presets, h.options_eq, fun b hb => ?_⟩
  rcases List.mem_cons.mp ((List.perm_insertIdx _ _ hlt).mem_iff.mp hb) with rfl | hb
  · exact hadded _
  · exact h.tiles b hb

theorem FitsIn.updateConfig (h : s.FitsIn options) (viewSize : Size) (workingArea : Rect)
    (scale : ℚ) {options' : Options} (hpresets : options'.layout.HasPresets) :
    (s.updateConfig viewSize workingArea scale options').FitsIn options' := by
  refine ⟨hpresets, rfl, fun b hb => ?_⟩
  obtain ⟨a, ha, rfl⟩ := List.mem_map.mp hb
  exact (h.tiles a ha).toFits.updateConfig viewSize scale options'

omit [LayoutElement W Id] in
theorem FitsIn.advanceAnimations (h : s.FitsIn options) (clock : Clock) :
    (s.advanceAnimations clock).FitsIn options := h.mapTiles fun _ => rfl

section ById

variable [DecidableEq Id]

theorem FitsIn.refresh (h : s.FitsIn options) (isActive isFocused : Bool) :
    (s.refresh isActive isFocused).FitsIn options := by
  refine h.mapTiles fun tile => ?_
  unfold refreshTile
  dsimp only
  split <;> rfl

omit [DecidableEq Id] in
theorem addTile_fits (h : s.FitsIn options) {tile : Tile W} (htile : tile.Fits) (activate : Bool) :
    Ensures (s.addTile tile activate) (FitsIn options) := addTileAt_fits h 0 htile activate

theorem addTileAbove_fits (h : s.FitsIn options) (above : Id) {tile : Tile W} (htile : tile.Fits)
    (activate : Bool) : Ensures (s.addTileAbove above tile activate) (FitsIn options) := by
  unfold addTileAbove
  simp only [ensures_bind, ensures_unwrap, Vec.ensures_get]
  intro i _ d _
  refine addTileAt_fits h i ?_ activate
  exact htile.congr rfl

theorem removeTile_fits (h : s.FitsIn options) (id : Id) :
    Ensures (s.removeTile id) fun r => r.1.tile.Fits ∧ r.2.FitsIn options := by
  unfold removeTile removeTileByIdx
  simp only [ensures_bind, ensures_unwrap, Vec.ensures_remove, ensures_pure]
  intro i _ a ha d _
  have hany : Ensures (s.activeAfterRemoval a (s.tiles.eraseIdx i)) fun _ => True :=
    fun _ _ => trivial
  refine hany.mono fun active _ => ⟨(h.getElem? ha).toFits.congr rfl, h.presets, h.options_eq, ?_⟩
  exact fun b hb => h.tiles b (List.mem_of_mem_eraseIdx hb)

theorem removeActiveTile_fits (h : s.FitsIn options) : Ensures s.removeActiveTile fun r =>
    (∀ removed ∈ r.1, removed.tile.Fits) ∧ r.2.FitsIn options := by
  unfold removeActiveTile
  split
  · exact ensures_pure.mpr ⟨(fun _ hr => nomatch hr), h⟩
  · simp only [ensures_bind, ensures_pure]
    refine (removeTile_fits h _).mono fun r hr => ⟨?_, hr.2⟩
    rintro _ ⟨⟩
    exact hr.1

/-! #### Focus -/

theorem activateWindow_fits (h : s.FitsIn options) (id : Id) :
    Ensures (s.activateWindow id) fun r => r.1.FitsIn options := by
  unfold activateWindow
  split
  · exact ensures_pure.mpr h
  · simp only [ensures_bind, ensures_pure]
    exact (raiseWindow_fits h _ 0).mono fun t ht =>
      bringUpDescendantsOf_fits (ht.relabel t.data (some id) t.interactiveResize) 0

theorem activateWindowWithoutRaising_fits (h : s.FitsIn options) (id : Id) :
    (s.activateWindowWithoutRaising id).1.FitsIn options := by
  unfold activateWindowWithoutRaising
  split_ifs
  · exact h.relabel s.data (some id) s.interactiveResize
  · exact h

theorem activateFound_fits (h : s.FitsIn options) (found : Option (Tile W × ℚ)) :
    Ensures (s.activateFound found) fun r => r.1.FitsIn options := by
  unfold activateFound
  split
  · exact ensures_pure.mpr h
  · simp only [ensures_bind, ensures_pure]
    exact activateWindow_fits h _

theorem focusDirectional_fits (h : s.FitsIn options) (distance : Point → Point → ℚ) :
    Ensures (s.focusDirectional distance) fun r => r.1.FitsIn options := by
  unfold focusDirectional
  split
  · exact ensures_pure.mpr h
  · simp only [ensures_bind, ensures_unwrap, Vec.ensures_get]
    exact fun _ _ _ _ => activateFound_fits h _

theorem focusLeast_fits (h : s.FitsIn options) (coordinate : Point → ℚ) :
    Ensures (s.focusLeast coordinate) (FitsIn options) := by
  unfold focusLeast
  simp only [ensures_bind, ensures_pure]
  exact activateFound_fits h _

theorem focusGreatest_fits (h : s.FitsIn options) (coordinate : Point → ℚ) :
    Ensures (s.focusGreatest coordinate) (FitsIn options) := by
  unfold focusGreatest
  simp only [ensures_bind, ensures_pure]
  exact activateFound_fits h _

/-! #### Sizes -/

omit [LayoutElement W Id] in
theorem FitsIn.interactiveResizeEnd (h : s.FitsIn options) (window : Option Id) :
    (s.interactiveResizeEnd window).FitsIn options := by
  unfold FloatingSpace.interactiveResizeEnd
  split
  · exact h
  · split_ifs
    · exact h.relabel s.data s.activeWindowId none
    · exact h

theorem setWindowWidth_fits (h : s.FitsIn options) (id : Option Id) (change : SizeChange)
    (animate : Bool) : Ensures (s.setWindowWidth id change animate) (FitsIn options) := by
  unfold setWindowWidth
  split
  · exact ensures_pure.mpr h
  · simp only [ensures_bind, ensures_unwrap, Vec.ensures_get, ensures_pure]
    exact fun i _ a ha => h.set ((h.getElem? ha).forgetWidth _) i

theorem setWindowHeight_fits (h : s.FitsIn options) (id : Option Id) (change : SizeChange)
    (animate : Bool) : Ensures (s.setWindowHeight id change animate) (FitsIn options) := by
  unfold setWindowHeight
  split
  · exact ensures_pure.mpr h
  · simp only [ensures_bind, ensures_unwrap, Vec.ensures_get, ensures_pure]
    exact fun i _ a ha => h.set ((h.getElem? ha).forgetHeight _) i

/-- A window that is there can be resized. -/
theorem setWindowWidth_returns (h : s.FitsIn options) {id : Id} {i : ℕ} (hi : s.idxOf id = some i)
    (change : SizeChange) (animate : Bool) :
    Returns (s.setWindowWidth (some id) change animate) fun t =>
      t.FitsIn options ∧ t.tiles.length = s.tiles.length := by
  have hlt := (List.findIdx?_eq_some_iff_getElem.mp hi).1
  have hget := List.getElem?_eq_getElem hlt
  unfold setWindowWidth
  simp only [target, Option.some_or, returns_bind, returns_unwrap, Vec.returns_get, returns_pure]
  exact ⟨i, hi, _, hget, h.set ((h.getElem? hget).forgetWidth _) i, List.length_set⟩

theorem setWindowHeight_returns (h : s.FitsIn options) {id : Id} {i : ℕ} (hi : s.idxOf id = some i)
    (change : SizeChange) (animate : Bool) :
    Returns (s.setWindowHeight (some id) change animate) fun t =>
      t.FitsIn options ∧ t.tiles.length = s.tiles.length := by
  have hlt := (List.findIdx?_eq_some_iff_getElem.mp hi).1
  have hget := List.getElem?_eq_getElem hlt
  unfold setWindowHeight
  simp only [target, Option.some_or, returns_bind, returns_unwrap, Vec.returns_get, returns_pure]
  exact ⟨i, hi, _, hget, h.set ((h.getElem? hget).forgetHeight _) i, List.length_set⟩

/-- The toggle of a width selects a preset, unless it is about a window that is not there. -/
theorem toggleWindowWidth_spec (h : s.FitsIn options) (id : Option Id) (forwards : Bool) :
    Returns (s.toggleWindowWidth id forwards) (FitsIn options) ∨
      s.toggleWindowWidth id forwards = .error .unwrapNone := by
  unfold toggleWindowWidth
  cases s.target id with
  | none => exact .inl (returns_pure.mpr h)
  | some id =>
    dsimp only
    cases hi : s.idxOf id with
    | none => exact .inr rfl
    | some i =>
      have hlt := (List.findIdx?_eq_some_iff_getElem.mp hi).1
      simp only [returns_bind, returns_unwrap, Vec.returns_get, Vec.returns_modify, returns_pure]
      refine .inl ⟨i, rfl, _, List.getElem?_eq_getElem hlt, ?_⟩
      rw [h.options_eq]
      refine (togglePreset_spec h.presets.widths _ _ _ _ _).mono fun k hk => ?_
      refine ⟨_, List.getElem?_eq_getElem hk, ?_⟩
      refine (setWindowWidth_returns h hi _ true).mono fun t ht => ?_
      have hget := List.getElem?_eq_getElem (ht.2.symm ▸ hlt)
      exact ⟨_, hget, (ht.1.set ((ht.1.getElem? hget).selectWidth hk) i).interactiveResizeEnd _⟩

theorem toggleWindowHeight_spec (h : s.FitsIn options) (id : Option Id) (forwards : Bool) :
    Returns (s.toggleWindowHeight id forwards) (FitsIn options) ∨
      s.toggleWindowHeight id forwards = .error .unwrapNone := by
  unfold toggleWindowHeight
  cases s.target id with
  | none => exact .inl (returns_pure.mpr h)
  | some id =>
    dsimp only
    cases hi : s.idxOf id with
    | none => exact .inr rfl
    | some i =>
      have hlt := (List.findIdx?_eq_some_iff_getElem.mp hi).1
      simp only [returns_bind, returns_unwrap, Vec.returns_get, Vec.returns_modify, returns_pure]
      refine .inl ⟨i, rfl, _, List.getElem?_eq_getElem hlt, ?_⟩
      rw [h.options_eq]
      refine (togglePreset_spec h.presets.heights _ _ _ _ _).mono fun k hk => ?_
      refine ⟨_, List.getElem?_eq_getElem hk, ?_⟩
      refine (setWindowHeight_returns h hi _ true).mono fun t ht => ?_
      have hget := List.getElem?_eq_getElem (ht.2.symm ▸ hlt)
      exact ⟨_, hget, (ht.1.set ((ht.1.getElem? hget).selectHeight hk) i).interactiveResizeEnd _⟩

theorem toggleWindowWidth_fits (h : s.FitsIn options) (id : Option Id) (forwards : Bool) :
    Ensures (s.toggleWindowWidth id forwards) (FitsIn options) := by
  rcases toggleWindowWidth_spec h id forwards with hreturns | hfails
  · exact hreturns.ensures
  · exact hfails ▸ ensures_error

theorem toggleWindowHeight_fits (h : s.FitsIn options) (id : Option Id) (forwards : Bool) :
    Ensures (s.toggleWindowHeight id forwards) (FitsIn options) := by
  rcases toggleWindowHeight_spec h id forwards with hreturns | hfails
  · exact hreturns.ensures
  · exact hfails ▸ ensures_error

theorem interactiveResizeBegin_fits (h : s.FitsIn options) (window : Id) (edges : ResizeEdge) :
    Ensures (s.interactiveResizeBegin window edges) fun r => r.1.FitsIn options := by
  unfold interactiveResizeBegin
  simp only [ensures_ite, ensures_bind, ensures_unwrap, ensures_pure]
  exact ⟨fun _ => h, fun _ tile _ => h.relabel s.data s.activeWindowId _⟩

theorem interactiveResizeUpdate_fits (h : s.FitsIn options) (window : Id) (delta : Point) :
    Ensures (s.interactiveResizeUpdate window delta) fun r => r.1.FitsIn options := by
  unfold interactiveResizeUpdate
  split
  · exact ensures_pure.mpr h
  · rename_i resize _
    have hwidth : Ensures (s.resizeUpdateWidth resize delta) (FitsIn options) :=
      ensures_ite.mpr ⟨fun _ => setWindowWidth_fits h _ _ _, fun _ => ensures_pure.mpr h⟩
    have hheight : ∀ t : FloatingSpace W Id, t.FitsIn options →
        Ensures (t.resizeUpdateHeight resize delta) (FitsIn options) := fun t ht =>
      ensures_ite.mpr ⟨fun _ => setWindowHeight_fits ht _ _ _, fun _ => ensures_pure.mpr ht⟩
    simp only [ensures_ite, ensures_bind, ensures_pure]
    exact ⟨fun _ => h, fun _ => hwidth.mono fun t ht => hheight t ht⟩

/-! #### Moves, and windows -/

omit [LayoutElement W Id] [DecidableEq Id] in
theorem moveAndAnimate_fits (h : s.FitsIn options) (clock : Clock) (i : ℕ) (pos : Point) :
    Ensures (s.moveAndAnimate clock i pos) (FitsIn options) := by
  unfold moveAndAnimate
  simp only [ensures_bind, Vec.ensures_get, ensures_pure]
  intro a ha d _
  refine h.setWithData ?_ i _
  split_ifs
  · exact (h.getElem? ha).congr rfl
  · exact h.getElem? ha

omit [LayoutElement W Id] in
theorem moveTo_fits (h : s.FitsIn options) (clock : Clock) (i : ℕ) (pos : Point) (animate : Bool) :
    Ensures (s.moveTo clock i pos animate) (FitsIn options) := by
  unfold moveTo
  cases animate with
  | true =>
    exact ensures_bind.mpr ((moveAndAnimate_fits h clock i pos).mono fun t ht =>
      ensures_pure.mpr (ht.interactiveResizeEnd none))
  | false =>
    refine ensures_bind.mpr (Vec.ensures_modify.mpr fun d _ => ?_)
    exact ensures_pure.mpr
      ((h.relabel _ s.activeWindowId s.interactiveResize).interactiveResizeEnd none)

theorem moveBy_fits (h : s.FitsIn options) (clock : Clock) (amount : Point) :
    Ensures (s.moveBy clock amount) (FitsIn options) := by
  unfold moveBy
  split
  · exact ensures_pure.mpr h
  · simp only [ensures_bind, ensures_unwrap, Vec.ensures_get]
    exact fun _ _ _ _ => moveTo_fits h clock _ _ true

theorem moveWindow_fits (h : s.FitsIn options) (clock : Clock) (id : Option Id)
    (x y : PositionChange) (animate : Bool) :
    Ensures (s.moveWindow clock id x y animate) (FitsIn options) := by
  unfold moveWindow
  split
  · exact ensures_pure.mpr h
  · simp only [ensures_bind, ensures_unwrap, Vec.ensures_get]
    exact fun _ _ _ _ => moveTo_fits h clock _ _ animate

theorem centerWindow_fits (h : s.FitsIn options) (clock : Clock) (id : Option Id) :
    Ensures (s.centerWindow clock id) (FitsIn options) := by
  unfold centerWindow
  split
  · exact ensures_pure.mpr h
  · simp only [ensures_bind, ensures_unwrap, Vec.ensures_get]
    exact fun _ _ _ _ => moveTo_fits h clock _ _ true

theorem descendantsAdded_fits (h : s.FitsIn options) (id : Id) :
    Ensures (s.descendantsAdded id) fun r => r.1.FitsIn options := by
  unfold descendantsAdded
  split
  · exact ensures_pure.mpr h
  · simp only [ensures_bind, ensures_pure]
    exact bringUpDescendantsOf_fits h _

theorem updateWindow_fits (h : s.FitsIn options) (id : Id) (serial : Option ℕ) :
    Ensures (s.updateWindow id serial) fun r => r.1.FitsIn options := by
  unfold updateWindow
  split
  · exact ensures_pure.mpr h
  · simp only [ensures_bind, Vec.ensures_get, ensures_pure]
    intro a ha d _
    refine h.setWithData ?_ _ _
    exact (h.getElem? ha).congr (by cases serial <;> rfl)

end ById

end FloatingSpace

end Sol
