import Sol.Steady

/-!
# The settings of the spaces

The areas, the scale and the options that a space lays its windows out by.  Only a new
configuration changes them, and a workspace hands its own to both of its spaces.

* `ScrollingSpace.step_settings`: what leaves the settings of the tiling space alone.
-/

namespace Sol

open Panicking

namespace ScrollingSpace

variable {W Id : Type} [LayoutElement W Id] {s t : ScrollingSpace W}

/-- The view, the two areas, the scale and the options. -/
def settings (s : ScrollingSpace W) : Size × Rect × Rect × ℚ × Options :=
  (s.viewSize, s.workingArea, s.parentArea, s.scale, s.options)

@[simp] theorem settings_mapColumns (f : Column W → Column W) :
    (s.mapColumns f).settings = s.settings := rfl

@[simp] theorem settings_updateTileSizes : s.updateTileSizes.settings = s.settings := by
  unfold updateTileSizes
  cases s.master <;> rfl

@[simp] theorem settings_modifyColumnAt (f : Column W → Column W) (i : ℕ) :
    (s.modifyColumnAt i f).settings = s.settings := by
  unfold modifyColumnAt
  split_ifs <;> rfl

@[simp] theorem settings_placeColumn (column : Column W) (activate : Bool) :
    (s.placeColumn column activate).settings = s.settings := by
  unfold placeColumn
  cases s.master <;> rfl

@[simp] theorem settings_updateFocusAfterRemoval (i : ℕ) :
    (s.updateFocusAfterRemoval i).settings = s.settings := by
  obtain ⟨focus, h⟩ := s.updateFocusAfterRemoval_eq i
  rw [h]
  rfl

@[simp] theorem settings_addColumn (column : Column W) (activate : Bool) :
    (s.addColumn column activate).settings = s.settings := by
  simp [addColumn]

theorem detachColumnAt_settings (i : ℕ) :
    Ensures (s.detachColumnAt i) fun r => r.2.settings = s.settings := by
  unfold detachColumnAt
  rw [ensures_ite]
  refine ⟨fun _ => ?_, fun _ => ?_⟩
  · rw [ensures_bind, ensures_expect]
    intro m _
    cases s.stack with
    | nil => exact ensures_pure.mpr (settings_updateFocusAfterRemoval 0)
    | cons c cs => exact ensures_pure.mpr (settings_updateFocusAfterRemoval 0)
  · rw [ensures_bind, Vec.ensures_remove]
    exact fun c _ => ensures_pure.mpr (settings_updateFocusAfterRemoval i)

theorem moveLeft_settings : Ensures s.moveLeft fun r => r.1.settings = s.settings := by
  unfold moveLeft
  split
  · rw [ensures_bind, Vec.ensures_remove]
    intro c _
    cases s.master with
    | none => exact ensures_pure.mpr settings_updateTileSizes
    | some m =>
      simp only [ensures_bind, Vec.ensures_insert, ensures_pure]
      exact fun _ => settings_updateTileSizes
  · exact ensures_pure.mpr rfl

theorem moveRight_settings : Ensures s.moveRight fun r => r.1.settings = s.settings := by
  unfold moveRight
  split
  · rw [ensures_ite]
    refine ⟨fun _ => ensures_pure.mpr rfl, fun _ => ?_⟩
    cases s.master with
    | none => exact ensures_pure.mpr rfl
    | some m =>
      simp only [ensures_bind, Vec.ensures_remove, Vec.ensures_insert, ensures_pure]
      exact fun _ _ _ => settings_updateTileSizes
  · exact ensures_pure.mpr rfl

theorem moveDown_settings : Ensures s.moveDown fun r => r.1.settings = s.settings := by
  have hany : ∀ x : Outcome (List (Column W)), Ensures x fun _ => True := fun _ _ _ => trivial
  unfold moveDown
  split
  · simp only [ensures_ite, ensures_bind, ensures_pure]
    exact ⟨fun _ => (hany _).mono fun _ _ => rfl, fun _ => trivial⟩
  · exact ensures_pure.mpr rfl

theorem moveUp_settings : Ensures s.moveUp fun r => r.1.settings = s.settings := by
  have hany : ∀ x : Outcome (List (Column W)), Ensures x fun _ => True := fun _ _ _ => trivial
  unfold moveUp
  split
  · simp only [ensures_ite, ensures_bind, ensures_pure]
    exact ⟨fun _ => (hany _).mono fun _ _ => rfl, fun _ => trivial⟩
  · exact ensures_pure.mpr rfl

theorem moveColumnToFirst_settings :
    Ensures s.moveColumnToFirst fun t => t.settings = s.settings := by
  unfold moveColumnToFirst
  split
  · simp only [ensures_bind, ensures_pure]
    exact moveLeft_settings
  · exact ensures_pure.mpr rfl

theorem moveColumnToLast_settings :
    Ensures s.moveColumnToLast fun t => t.settings = s.settings := by
  unfold moveColumnToLast
  split
  · simp only [ensures_ite, ensures_bind, Vec.ensures_remove, ensures_pure]
    exact ⟨fun _ _ _ => rfl, fun _ => trivial⟩
  · exact ensures_pure.mpr rfl

theorem swapWindowInDirection_settings (direction : ScrollDirection) :
    Ensures (s.swapWindowInDirection direction) fun t => t.settings = s.settings := by
  unfold swapWindowInDirection
  cases direction
  all_goals simp only [ensures_bind, ensures_pure]
  case left => exact moveLeft_settings
  case right => exact moveRight_settings

section ById

variable [DecidableEq Id]

@[simp] theorem settings_modifyColumnById (window : Id) (f : Column W → Column W) :
    (s.modifyColumnById window f).settings = s.settings := by
  unfold modifyColumnById
  split_ifs <;> rfl

@[simp] theorem settings_springFrom (clock : Clock) (pre : List (ℕ × Id × Point)) :
    (s.springFrom clock pre).settings = s.settings := by
  unfold springFrom
  generalize s.slotOrigins = post
  generalize s.options.animations.tileMovement = config
  induction pre generalizing s with
  | nil => rfl
  | cons entry pre ih =>
    rw [List.foldl_cons, ih]
    unfold springTile
    split <;> simp

theorem takeColumnAt_settings (clock : Clock) (i : ℕ) :
    Ensures (s.takeColumnAt clock i) fun r => r.2.settings = s.settings := by
  unfold takeColumnAt
  simp only [ensures_bind, ensures_pure, settings_springFrom, settings_updateTileSizes]
  exact detachColumnAt_settings i

theorem removeTile_settings (clock : Clock) (window : Id) :
    Ensures (s.removeTile clock window) fun r => r.2.settings = s.settings := by
  unfold removeTile removeTileByIdx
  simp only [ensures_bind, ensures_expect, ensures_pure]
  exact fun i _ => takeColumnAt_settings clock i

theorem removeActiveTile_settings (clock : Clock) :
    Ensures (s.removeActiveTile clock) fun r => r.2.settings = s.settings := by
  unfold removeActiveTile
  cases s.focusedColumn with
  | none => exact ensures_pure.mpr rfl
  | some col =>
    simp only [ensures_bind, ensures_pure]
    exact removeTile_settings clock _

theorem removeActiveColumn_settings (clock : Clock) :
    Ensures (s.removeActiveColumn clock) fun r => r.2.settings = s.settings := by
  unfold removeActiveColumn
  cases s.activeColumnIdxInternal with
  | none => exact ensures_pure.mpr rfl
  | some idx =>
    simp only [ensures_bind, ensures_pure]
    exact takeColumnAt_settings clock idx

theorem swapWithSpring_settings (clock : Clock)
    {mutate : ScrollingSpace W → Outcome (ScrollingSpace W × Bool)}
    (h : Ensures (mutate s) fun r => r.1.settings = s.settings) :
    Ensures (s.swapWithSpring clock mutate) fun r => r.1.settings = s.settings := by
  unfold swapWithSpring
  simp only [ensures_bind, ensures_ite, ensures_pure, settings_springFrom]
  exact h.mono fun r hr => ⟨fun _ => hr, fun _ => hr⟩

theorem nudgeMasterRatio_settings (clock : Clock) (delta : ℚ) :
    (s.nudgeMasterRatio clock delta).settings = s.settings := by
  unfold nudgeMasterRatio
  dsimp only
  split_ifs
  · rfl
  · rw [settings_springFrom, settings_updateTileSizes]
    rfl

theorem setFullscreen_settings (window : Id) (isFullscreen : Bool) :
    Ensures (s.setFullscreen window isFullscreen) fun r => r.1.settings = s.settings := by
  unfold setFullscreen
  cases s.position window with
  | none => exact ensures_pure.mpr rfl
  | some i =>
    simp only [ensures_bind, ensures_expect, ensures_pure]
    intro _ _
    split_ifs <;> simp

theorem setMaximized_settings (window : Id) (maximize : Bool) :
    Ensures (s.setMaximized window maximize) fun r => r.1.settings = s.settings := by
  unfold setMaximized
  cases s.position window with
  | none => exact ensures_pure.mpr rfl
  | some i =>
    simp only [ensures_bind, ensures_expect, ensures_pure]
    intro _ _
    split_ifs <;> simp

omit [DecidableEq Id] in
theorem Refocused.settings_eq (h : Refocused s t) : t.settings = s.settings := by
  obtain ⟨focus, last, rfl⟩ := h
  rfl

/-- The operations that hand over new settings. -/
def Op.isConfig : Op W Id → Bool
  | .updateConfig .. => true
  | _ => false

theorem step_settings (clock : Clock) {op : Op W Id} (hop : op.isConfig = false) :
    Ensures (s.step clock op) fun t => t.settings = s.settings := by
  by_cases hfocus : op.IsFocus
  · exact (step_refocused clock hfocus).mono fun t ht => ht.settings_eq
  cases op <;> simp only [Op.IsFocus, not_true_eq_false, Op.isConfig, reduceCtorEq] at hfocus hop <;>
    simp only [step, removeTileByIdx, removeColumnByIdx, ensures_bind, ensures_pure]
  case addTile => exact settings_addColumn _ _
  case addTileToColumn => exact settings_addColumn _ _
  case addTileRightOf => exact settings_addColumn _ _
  case addColumn => exact settings_addColumn _ _
  case removeActiveTile => exact removeActiveTile_settings clock
  case removeTile window => exact removeTile_settings clock window
  case removeTileByIdx i => exact takeColumnAt_settings clock i
  case removeActiveColumn => exact removeActiveColumn_settings clock
  case removeColumnByIdx i => exact takeColumnAt_settings clock i
  case moveLeft => exact moveLeft_settings
  case moveRight => exact moveRight_settings
  case moveDown => exact moveDown_settings
  case moveUp => exact moveUp_settings
  case moveLeftAnimated => exact swapWithSpring_settings clock moveLeft_settings
  case moveRightAnimated => exact swapWithSpring_settings clock moveRight_settings
  case moveDownAnimated => exact swapWithSpring_settings clock moveDown_settings
  case moveUpAnimated => exact swapWithSpring_settings clock moveUp_settings
  case moveColumnToFirst => exact moveColumnToFirst_settings
  case moveColumnToLast => exact moveColumnToLast_settings
  case swapWindowInDirection direction => exact swapWindowInDirection_settings direction
  case nudgeMasterRatio delta => exact nudgeMasterRatio_settings clock delta
  case setFullscreen window isFullscreen => exact setFullscreen_settings window isFullscreen
  case setMaximized window maximize => exact setMaximized_settings window maximize
  case updateWindow window serial => exact settings_modifyColumnById window _
  case advanceAnimations => rfl
  case refresh => rfl

end ById

end ScrollingSpace

namespace FloatingSpace

variable {W Id : Type} [LayoutElement W Id] {s t : FloatingSpace W Id}

/-- The view, the working area, the scale and the options. -/
def settings (s : FloatingSpace W Id) : Size × Rect × ℚ × Options :=
  (s.viewSize, s.workingArea, s.scale, s.options)

omit [LayoutElement W Id] in
theorem raiseWindow_settings (i j : ℕ) :
    Ensures (s.raiseWindow i j) fun t => t.settings = s.settings := by
  unfold raiseWindow
  simp only [ensures_bind, ensures_assert, Vec.ensures_remove, Vec.ensures_insert, ensures_pure]
  exact fun _ _ _ _ _ _ _ => rfl

omit [LayoutElement W Id] in
theorem raiseAll_settings (idx : ℕ) (ds : List ℕ) :
    Ensures (s.raiseAll idx ds) fun t => t.settings = s.settings := by
  induction ds generalizing s idx with
  | nil => exact ensures_pure.mpr rfl
  | cons d ds ih =>
    unfold raiseAll
    rw [ensures_bind]
    exact (raiseWindow_settings d idx).mono fun t ht => (ih (idx + 1)).mono fun u hu => hu.trans ht

theorem bringUpDescendantsOf_settings (idx : ℕ) :
    Ensures (s.bringUpDescendantsOf idx) fun t => t.settings = s.settings := by
  unfold bringUpDescendantsOf
  simp only [ensures_bind, Vec.ensures_get]
  exact fun _ _ => raiseAll_settings idx _

theorem addTileAt_settings (idx : ℕ) (tile : Tile W) (activate : Bool) :
    Ensures (s.addTileAt idx tile activate) fun t => t.settings = s.settings := by
  unfold addTileAt
  simp only [ensures_bind, Vec.ensures_insert]
  exact fun _ _ => bringUpDescendantsOf_settings _

section ById

variable [DecidableEq Id]

theorem addTileAbove_settings (above : Id) (tile : Tile W) (activate : Bool) :
    Ensures (s.addTileAbove above tile activate) fun t => t.settings = s.settings := by
  unfold addTileAbove
  simp only [ensures_bind, ensures_unwrap, Vec.ensures_get]
  exact fun _ _ _ _ => addTileAt_settings _ _ activate

theorem removeTile_settings (id : Id) :
    Ensures (s.removeTile id) fun r => r.2.settings = s.settings := by
  have hany : ∀ x : Outcome (Option Id), Ensures x fun _ => True := fun _ _ _ => trivial
  unfold removeTile removeTileByIdx
  simp only [ensures_bind, ensures_unwrap, Vec.ensures_remove, ensures_pure]
  exact fun _ _ _ _ _ _ => (hany _).mono fun _ _ => rfl

theorem removeActiveTile_settings :
    Ensures s.removeActiveTile fun r => r.2.settings = s.settings := by
  unfold removeActiveTile
  cases s.activeWindowId with
  | none => exact ensures_pure.mpr rfl
  | some id =>
    simp only [ensures_bind, ensures_pure]
    exact removeTile_settings id

theorem activateWindow_settings (id : Id) :
    Ensures (s.activateWindow id) fun r => r.1.settings = s.settings := by
  unfold activateWindow
  split
  · exact ensures_pure.mpr rfl
  · simp only [ensures_bind, ensures_pure]
    exact (raiseWindow_settings _ 0).mono fun t ht =>
      (bringUpDescendantsOf_settings 0).mono fun u hu => hu.trans ht

theorem activateWindowWithoutRaising_settings (id : Id) :
    (s.activateWindowWithoutRaising id).1.settings = s.settings := by
  unfold activateWindowWithoutRaising
  split_ifs <;> rfl

theorem activateFound_settings (found : Option (Tile W × ℚ)) :
    Ensures (s.activateFound found) fun r => r.1.settings = s.settings := by
  unfold activateFound
  split
  · exact ensures_pure.mpr rfl
  · simp only [ensures_bind, ensures_pure]
    exact activateWindow_settings _

theorem focusDirectional_settings (distance : Point → Point → ℚ) :
    Ensures (s.focusDirectional distance) fun r => r.1.settings = s.settings := by
  unfold focusDirectional
  split
  · exact ensures_pure.mpr rfl
  · simp only [ensures_bind, ensures_unwrap, Vec.ensures_get]
    exact fun _ _ _ _ => activateFound_settings _

theorem focusLeast_settings (coordinate : Point → ℚ) :
    Ensures (s.focusLeast coordinate) fun t => t.settings = s.settings := by
  unfold focusLeast
  simp only [ensures_bind, ensures_pure]
  exact activateFound_settings _

theorem focusGreatest_settings (coordinate : Point → ℚ) :
    Ensures (s.focusGreatest coordinate) fun t => t.settings = s.settings := by
  unfold focusGreatest
  simp only [ensures_bind, ensures_pure]
  exact activateFound_settings _

theorem setWindowWidth_settings (id : Option Id) (change : SizeChange) (animate : Bool) :
    Ensures (s.setWindowWidth id change animate) fun t => t.settings = s.settings := by
  unfold setWindowWidth
  split
  · exact ensures_pure.mpr rfl
  · simp only [ensures_bind, ensures_unwrap, Vec.ensures_get, ensures_pure]
    exact fun _ _ _ _ => rfl

theorem setWindowHeight_settings (id : Option Id) (change : SizeChange) (animate : Bool) :
    Ensures (s.setWindowHeight id change animate) fun t => t.settings = s.settings := by
  unfold setWindowHeight
  split
  · exact ensures_pure.mpr rfl
  · simp only [ensures_bind, ensures_unwrap, Vec.ensures_get, ensures_pure]
    exact fun _ _ _ _ => rfl

omit [LayoutElement W Id] in
theorem interactiveResizeEnd_settings (window : Option Id) :
    (s.interactiveResizeEnd window).settings = s.settings := by
  unfold interactiveResizeEnd
  split
  · rfl
  · split_ifs <;> rfl

theorem toggleWindowWidth_settings (id : Option Id) (forwards : Bool) :
    Ensures (s.toggleWindowWidth id forwards) fun t => t.settings = s.settings := by
  have hany : ∀ x : Outcome ℕ, Ensures x fun _ => True := fun _ _ _ => trivial
  unfold toggleWindowWidth
  split
  · exact ensures_pure.mpr rfl
  · simp only [ensures_bind, ensures_unwrap, Vec.ensures_get, Vec.ensures_modify, ensures_pure]
    intro _ _ _ _
    refine (hany _).mono fun _ _ _ _ => ?_
    exact (setWindowWidth_settings _ _ true).mono fun t ht _ _ =>
      (interactiveResizeEnd_settings _).trans ht

theorem toggleWindowHeight_settings (id : Option Id) (forwards : Bool) :
    Ensures (s.toggleWindowHeight id forwards) fun t => t.settings = s.settings := by
  have hany : ∀ x : Outcome ℕ, Ensures x fun _ => True := fun _ _ _ => trivial
  unfold toggleWindowHeight
  split
  · exact ensures_pure.mpr rfl
  · simp only [ensures_bind, ensures_unwrap, Vec.ensures_get, Vec.ensures_modify, ensures_pure]
    intro _ _ _ _
    refine (hany _).mono fun _ _ _ _ => ?_
    exact (setWindowHeight_settings _ _ true).mono fun t ht _ _ =>
      (interactiveResizeEnd_settings _).trans ht

theorem interactiveResizeBegin_settings (window : Id) (edges : ResizeEdge) :
    Ensures (s.interactiveResizeBegin window edges) fun r => r.1.settings = s.settings := by
  unfold interactiveResizeBegin
  simp only [ensures_ite, ensures_bind, ensures_unwrap, ensures_pure]
  exact ⟨fun _ => trivial, fun _ _ _ => rfl⟩

theorem interactiveResizeUpdate_settings (window : Id) (delta : Point) :
    Ensures (s.interactiveResizeUpdate window delta) fun r => r.1.settings = s.settings := by
  unfold interactiveResizeUpdate
  split
  · exact ensures_pure.mpr rfl
  · rename_i resize _
    have hwidth : Ensures (s.resizeUpdateWidth resize delta) fun t => t.settings = s.settings :=
      ensures_ite.mpr ⟨fun _ => setWindowWidth_settings _ _ _, fun _ => ensures_pure.mpr rfl⟩
    have hheight : ∀ t : FloatingSpace W Id,
        Ensures (t.resizeUpdateHeight resize delta) fun u => u.settings = t.settings := fun t =>
      ensures_ite.mpr ⟨fun _ => setWindowHeight_settings _ _ _, fun _ => ensures_pure.mpr rfl⟩
    simp only [ensures_ite, ensures_bind, ensures_pure]
    exact ⟨fun _ => trivial,
      fun _ => hwidth.mono fun t ht => (hheight t).mono fun u hu => hu.trans ht⟩

omit [LayoutElement W Id] in
theorem moveTo_settings (clock : Clock) (i : ℕ) (pos : Point) (animate : Bool) :
    Ensures (s.moveTo clock i pos animate) fun t => t.settings = s.settings := by
  unfold moveTo moveAndAnimate
  cases animate
  all_goals
    simp only [Bool.false_eq_true, if_true, if_false, ensures_bind, Vec.ensures_get,
      Vec.ensures_modify, ensures_pure, interactiveResizeEnd_settings]
  case false => exact fun _ _ => rfl
  case true => exact fun _ _ _ _ => rfl

theorem moveBy_settings (clock : Clock) (amount : Point) :
    Ensures (s.moveBy clock amount) fun t => t.settings = s.settings := by
  unfold moveBy
  split
  · exact ensures_pure.mpr rfl
  · simp only [ensures_bind, ensures_unwrap, Vec.ensures_get]
    exact fun _ _ _ _ => moveTo_settings clock _ _ true

theorem moveWindow_settings (clock : Clock) (id : Option Id) (x y : PositionChange)
    (animate : Bool) : Ensures (s.moveWindow clock id x y animate) fun t =>
      t.settings = s.settings := by
  unfold moveWindow
  split
  · exact ensures_pure.mpr rfl
  · simp only [ensures_bind, ensures_unwrap, Vec.ensures_get]
    exact fun _ _ _ _ => moveTo_settings clock _ _ animate

theorem centerWindow_settings (clock : Clock) (id : Option Id) :
    Ensures (s.centerWindow clock id) fun t => t.settings = s.settings := by
  unfold centerWindow
  split
  · exact ensures_pure.mpr rfl
  · simp only [ensures_bind, ensures_unwrap, Vec.ensures_get]
    exact fun _ _ _ _ => moveTo_settings clock _ _ true

theorem descendantsAdded_settings (id : Id) :
    Ensures (s.descendantsAdded id) fun r => r.1.settings = s.settings := by
  unfold descendantsAdded
  split
  · exact ensures_pure.mpr rfl
  · simp only [ensures_bind, ensures_pure]
    exact bringUpDescendantsOf_settings _

theorem updateWindow_settings (id : Id) (serial : Option ℕ) :
    Ensures (s.updateWindow id serial) fun r => r.1.settings = s.settings := by
  unfold updateWindow
  split
  · exact ensures_pure.mpr rfl
  · simp only [ensures_bind, Vec.ensures_get, ensures_pure]
    exact fun _ _ _ _ => rfl

end ById

end FloatingSpace

namespace Workspace

variable {W Id : Type} {s t : Workspace W Id}

/-- The settings of the two spaces, and the workspace's own. -/
structure SameSettings (s t : Workspace W Id) : Prop where
  scrolling : t.scrolling.settings = s.scrolling.settings
  floating : t.floating.settings = s.floating.settings
  viewSize_eq : t.viewSize = s.viewSize
  workingArea_eq : t.workingArea = s.workingArea
  scale_eq : t.scale = s.scale
  options_eq : t.options = s.options
  baseOptions_eq : t.baseOptions = s.baseOptions
  layoutConfig_eq : t.layoutConfig = s.layoutConfig

theorem SameSettings.refl (s : Workspace W Id) : SameSettings s s :=
  ⟨rfl, rfl, rfl, rfl, rfl, rfl, rfl, rfl⟩

theorem SameSettings.trans {u : Workspace W Id} (h : SameSettings s t) (h' : SameSettings t u) :
    SameSettings s u where
  scrolling := h'.scrolling.trans h.scrolling
  floating := h'.floating.trans h.floating
  viewSize_eq := h'.viewSize_eq.trans h.viewSize_eq
  workingArea_eq := h'.workingArea_eq.trans h.workingArea_eq
  scale_eq := h'.scale_eq.trans h.scale_eq
  options_eq := h'.options_eq.trans h.options_eq
  baseOptions_eq := h'.baseOptions_eq.trans h.baseOptions_eq
  layoutConfig_eq := h'.layoutConfig_eq.trans h.layoutConfig_eq

/-- New contents of the two spaces. -/
theorem sameSettings_of_spaces {scrolling : ScrollingSpace W} {floating : FloatingSpace W Id}
    (hscrolling : scrolling.settings = s.scrolling.settings)
    (hfloating : floating.settings = s.floating.settings) (active : FloatingActive) :
    SameSettings s { s with scrolling, floating, floatingIsActive := active } :=
  ⟨hscrolling, hfloating, rfl, rfl, rfl, rfl, rfl, rfl⟩

theorem sameSettings_scrolling {scrolling : ScrollingSpace W}
    (h : scrolling.settings = s.scrolling.settings) : SameSettings s { s with scrolling } :=
  sameSettings_of_spaces h rfl s.floatingIsActive

theorem sameSettings_floating {floating : FloatingSpace W Id}
    (h : floating.settings = s.floating.settings) : SameSettings s { s with floating } :=
  sameSettings_of_spaces rfl h s.floatingIsActive

theorem updateFocusFloatingTilingAfterRemoving_settings (removedFromFloating : Bool) :
    SameSettings s (s.updateFocusFloatingTilingAfterRemoving removedFromFloating) := by
  unfold updateFocusFloatingTilingAfterRemoving
  split_ifs
  · exact sameSettings_of_spaces rfl rfl _
  · exact .refl s
  · exact sameSettings_of_spaces rfl rfl _
  · exact .refl s

theorem SameSettings.afterRemoving (h : SameSettings s t) (removedFromFloating : Bool) :
    SameSettings s (t.updateFocusFloatingTilingAfterRemoving removedFromFloating) :=
  h.trans (updateFocusFloatingTilingAfterRemoving_settings removedFromFloating)

theorem switchFocusFloatingTiling_settings : SameSettings s s.switchFocusFloatingTiling := by
  unfold switchFocusFloatingTiling
  split_ifs
  · exact .refl s
  · exact .refl s
  · exact sameSettings_of_spaces rfl rfl _
  · exact sameSettings_of_spaces rfl rfl _

theorem focusFloating_settings : SameSettings s s.focusFloating := by
  unfold focusFloating
  split_ifs
  · exact switchFocusFloatingTiling_settings
  · exact .refl s

theorem focusTiling_settings : SameSettings s s.focusTiling := by
  unfold focusTiling
  split_ifs
  · exact switchFocusFloatingTiling_settings
  · exact .refl s

theorem orElse_settings {first : Workspace W Id → Outcome (Workspace W Id × Bool)}
    {second : Workspace W Id → Outcome (Workspace W Id)}
    (hfirst : Ensures (first s) fun r => SameSettings s r.1)
    (hsecond : ∀ t, Ensures (second t) (SameSettings t)) :
    Ensures (s.orElse first second) (SameSettings s) := by
  unfold orElse
  simp only [ensures_bind, ensures_ite, ensures_pure]
  exact hfirst.mono fun r hr => ⟨fun _ => hr, fun _ => (hsecond r.1).mono fun _ => hr.trans⟩

section ById

variable [LayoutElement W Id] [DecidableEq Id]

theorem onSpaceOf_settings (window : Option Id)
    {f : FloatingSpace W Id → Outcome (FloatingSpace W Id)}
    {g : ScrollingSpace W → Outcome (ScrollingSpace W)}
    (hf : Ensures (f s.floating) fun t => t.settings = s.floating.settings)
    (hg : Ensures (g s.scrolling) fun t => t.settings = s.scrolling.settings) :
    Ensures (s.onSpaceOf window f g) (SameSettings s) := by
  unfold onSpaceOf
  simp only [ensures_ite, ensures_bind, ensures_pure]
  exact ⟨fun _ => hf.mono fun _ => sameSettings_floating,
    fun _ => hg.mono fun _ => sameSettings_scrolling⟩

theorem trySpaceOf_settings (window : Option Id)
    {f : FloatingSpace W Id → Outcome (FloatingSpace W Id × Bool)}
    {g : ScrollingSpace W → Outcome (ScrollingSpace W × Bool)}
    (hf : Ensures (f s.floating) fun r => r.1.settings = s.floating.settings)
    (hg : Ensures (g s.scrolling) fun r => r.1.settings = s.scrolling.settings) :
    Ensures (s.trySpaceOf window f g) fun r => SameSettings s r.1 := by
  unfold trySpaceOf
  simp only [ensures_ite, ensures_bind, ensures_pure]
  exact ⟨fun _ => hf.mono fun _ => sameSettings_floating,
    fun _ => hg.mono fun _ => sameSettings_scrolling⟩

theorem addTile_settings (tile : Tile W) (target : WorkspaceAddWindowTarget Id)
    (activate : ActivateWindow) (width : ColumnWidth) (isFullWidth isFloating : Bool) :
    Ensures (s.addTile tile target activate width isFullWidth isFloating) (SameSettings s) := by
  have hany : ∀ x : Outcome Bool, Ensures x fun _ => True := fun _ _ _ => trivial
  have htiled : ∀ tile activate, SameSettings s (s.addTiled tile activate width isFullWidth) :=
    fun tile activate => sameSettings_of_spaces (ScrollingSpace.settings_addColumn _ _) rfl _
  have hnext : ∀ nextTo tile activate, Ensures (s.addFloatingNextTo nextTo tile activate)
      fun t => t.settings = s.floating.settings := by
    intro nextTo tile activate
    unfold addFloatingNextTo
    rw [ensures_ite]
    refine ⟨fun _ => FloatingSpace.addTileAbove_settings _ _ _, fun _ => ?_⟩
    rw [ensures_bind, ensures_unwrap]
    exact fun _ _ => FloatingSpace.addTileAt_settings 0 _ _
  unfold addTile
  cases target
  all_goals simp only [ensures_ite, ensures_bind, ensures_pure]
  case auto =>
    refine ⟨fun _ => ?_, fun _ => htiled _ _⟩
    exact (FloatingSpace.addTileAt_settings 0 _ _).mono fun _ ht => sameSettings_of_spaces rfl ht _
  case newColumnAt => exact htiled _ _
  case nextTo nextTo =>
    refine (hany _).mono fun activate _ => ⟨fun _ => ?_, fun _ => htiled _ _⟩
    exact (hnext nextTo _ activate).mono fun _ ht => sameSettings_of_spaces rfl ht _

theorem removeTile_settings (clock : Clock) (id : Id) :
    Ensures (s.removeTile clock id) fun r => SameSettings s r.2 := by
  unfold removeTile
  simp only [ensures_ite, ensures_bind, ensures_pure]
  refine ⟨fun _ => ?_, fun _ => ?_⟩
  · exact (FloatingSpace.removeTile_settings id).mono fun r hr =>
      (sameSettings_floating hr).afterRemoving true
  · exact (ScrollingSpace.removeTile_settings clock id).mono fun r hr =>
      (sameSettings_scrolling hr).afterRemoving false

theorem removeActiveTile_settings (clock : Clock) :
    Ensures (s.removeActiveTile clock) fun r => SameSettings s r.2 := by
  unfold removeActiveTile
  simp only [ensures_ite, ensures_bind]
  refine ⟨fun _ => ?_, fun _ => ?_⟩
  · refine FloatingSpace.removeActiveTile_settings.mono fun r ht => ?_
    obtain ⟨removed, t⟩ := r
    cases removed with
    | none => exact ensures_pure.mpr (.refl s)
    | some removed => exact ensures_pure.mpr ((sameSettings_floating ht).afterRemoving true)
  · refine (ScrollingSpace.removeActiveTile_settings clock).mono fun r ht => ?_
    obtain ⟨removed, t⟩ := r
    cases removed with
    | none => exact ensures_pure.mpr (.refl s)
    | some removed => exact ensures_pure.mpr ((sameSettings_scrolling ht).afterRemoving false)

theorem removeActiveColumn_settings (clock : Clock) :
    Ensures (s.removeActiveColumn clock) fun r => SameSettings s r.2 := by
  unfold removeActiveColumn
  simp only [ensures_ite, ensures_bind, ensures_pure]
  refine ⟨fun _ => .refl s, fun _ => ?_⟩
  refine (ScrollingSpace.removeActiveColumn_settings clock).mono fun r ht => ?_
  obtain ⟨removed, t⟩ := r
  cases removed with
  | none => exact ensures_pure.mpr (.refl s)
  | some removed => exact ensures_pure.mpr ((sameSettings_scrolling ht).afterRemoving false)

/-! ### Commands -/

theorem focusTowards_settings (direction : Direction) :
    Ensures (s.focusTowards direction) fun r => SameSettings s r.1 := by
  cases direction
  case left =>
    exact trySpaceOf_settings none (g := fun a => pure a.focusLeft)
      (FloatingSpace.focusDirectional_settings _)
      (ensures_pure.mpr ScrollingSpace.focusLeft_refocused.settings_eq)
  case right =>
    exact trySpaceOf_settings none (g := fun a => pure a.focusRight)
      (FloatingSpace.focusDirectional_settings _)
      (ensures_pure.mpr ScrollingSpace.focusRight_refocused.settings_eq)
  case up =>
    exact trySpaceOf_settings none (g := fun a => pure a.focusUp)
      (FloatingSpace.focusDirectional_settings _)
      (ensures_pure.mpr ScrollingSpace.focusUp_refocused.settings_eq)
  case down =>
    exact trySpaceOf_settings none (g := fun a => pure a.focusDown)
      (FloatingSpace.focusDirectional_settings _)
      (ensures_pure.mpr ScrollingSpace.focusDown_refocused.settings_eq)

/-- A focus operation in the tiling space, or one of the floating space. -/
theorem onSpaceOf_focus_settings (op : ScrollingSpace.Op W Id)
    {f : FloatingSpace W Id → Outcome (FloatingSpace W Id)}
    (hf : Ensures (f s.floating) fun t => t.settings = s.floating.settings) (hop : op.IsFocus)
    (clock : Clock) {g : ScrollingSpace W → Outcome (ScrollingSpace W)}
    (hg : g s.scrolling = s.scrolling.step clock op) :
    Ensures (s.onSpaceOf none f g) (SameSettings s) :=
  onSpaceOf_settings none hf (hg ▸ (ScrollingSpace.step_refocused clock hop).mono
    fun _ ht => ht.settings_eq)

theorem focusColumnFirst_settings (clock : Clock) : Ensures s.focusColumnFirst (SameSettings s) :=
  onSpaceOf_focus_settings .focusColumnFirst (FloatingSpace.focusLeast_settings _) trivial clock rfl

theorem focusColumnLast_settings (clock : Clock) : Ensures s.focusColumnLast (SameSettings s) :=
  onSpaceOf_focus_settings .focusColumnLast (FloatingSpace.focusGreatest_settings _) trivial clock
    rfl

theorem focusWindowTop_settings (clock : Clock) : Ensures s.focusWindowTop (SameSettings s) :=
  onSpaceOf_focus_settings .focusTop (FloatingSpace.focusLeast_settings _) trivial clock rfl

theorem focusWindowBottom_settings (clock : Clock) :
    Ensures s.focusWindowBottom (SameSettings s) :=
  onSpaceOf_focus_settings .focusBottom (FloatingSpace.focusGreatest_settings _) trivial clock rfl

/-- A move of the active window in its space. -/
theorem trySpaceOf_move_settings (clock : Clock) (amount : Point)
    {m : ScrollingSpace W → Outcome (ScrollingSpace W × Bool)}
    (hm : Ensures (m s.scrolling) fun r => r.1.settings = s.scrolling.settings) :
    Ensures (s.trySpaceOf none (alwaysDone (·.moveBy clock amount)) m)
      fun r => SameSettings s r.1 :=
  trySpaceOf_settings none (ensures_alwaysDone (P := fun t => t.settings = s.floating.settings)
    (FloatingSpace.moveBy_settings clock amount)) hm

theorem moveTowards_settings (clock : Clock) (direction : Direction) :
    Ensures (s.moveTowards clock direction) fun r => SameSettings s r.1 := by
  cases direction
  case left => exact trySpaceOf_move_settings clock _ ScrollingSpace.moveLeft_settings
  case right => exact trySpaceOf_move_settings clock _ ScrollingSpace.moveRight_settings
  case up => exact trySpaceOf_move_settings clock _ ScrollingSpace.moveUp_settings
  case down => exact trySpaceOf_move_settings clock _ ScrollingSpace.moveDown_settings

theorem moveTowardsAnimated_settings (clock : Clock) (direction : Direction) :
    Ensures (s.moveTowardsAnimated clock direction) fun r => SameSettings s r.1 := by
  cases direction
  case left =>
    exact trySpaceOf_move_settings clock _ (m := (·.moveLeftAnimated clock))
      (ScrollingSpace.swapWithSpring_settings clock ScrollingSpace.moveLeft_settings)
  case right =>
    exact trySpaceOf_move_settings clock _ (m := (·.moveRightAnimated clock))
      (ScrollingSpace.swapWithSpring_settings clock ScrollingSpace.moveRight_settings)
  case up =>
    exact trySpaceOf_move_settings clock _ (m := (·.moveUpAnimated clock))
      (ScrollingSpace.swapWithSpring_settings clock ScrollingSpace.moveUp_settings)
  case down =>
    exact trySpaceOf_move_settings clock _ (m := (·.moveDownAnimated clock))
      (ScrollingSpace.swapWithSpring_settings clock ScrollingSpace.moveDown_settings)

theorem runCommand_settings (clock : Clock) (cmd : Command) :
    Ensures (s.runCommand clock cmd) (SameSettings s) := by
  have hdirection : ∀ distance, Ensures (silently (·.focusDirectional distance) s.floating)
      fun t => t.settings = s.floating.settings :=
    fun distance => ensures_silently (FloatingSpace.focusDirectional_settings distance)
  have hstay : Ensures (pure s.floating) fun t => t.settings = s.floating.settings :=
    ensures_pure.mpr rfl
  have hstay' : Ensures (pure s.scrolling) fun t => t.settings = s.scrolling.settings :=
    ensures_pure.mpr rfl
  cases cmd
  case focus direction =>
    exact ensures_silently (f := fun t : Workspace W Id => t.focusTowards direction)
      (focusTowards_settings direction)
  case focusColumnFirst => exact focusColumnFirst_settings clock
  case focusColumnLast => exact focusColumnLast_settings clock
  case focusColumnRightOrFirst =>
    exact orElse_settings (focusTowards_settings .right) fun _ => focusColumnFirst_settings clock
  case focusColumnLeftOrLast =>
    exact orElse_settings (focusTowards_settings .left) fun _ => focusColumnLast_settings clock
  case focusColumn index =>
    refine ensures_pure.mpr (focusTiling_settings.trans (sameSettings_scrolling ?_))
    have hrefocused := ScrollingSpace.step_refocused (s := s.focusTiling.scrolling) clock
      (show (ScrollingSpace.Op.focusColumn index : ScrollingSpace.Op W Id).IsFocus from trivial)
    exact (ensures_pure.mp hrefocused).settings_eq
  case focusDownOrLeft =>
    exact onSpaceOf_focus_settings .focusDownOrLeft (hdirection _) trivial clock
      (g := fun a => pure a.focusDownOrLeft) rfl
  case focusDownOrRight =>
    exact onSpaceOf_focus_settings .focusDownOrRight (hdirection _) trivial clock
      (g := fun a => pure a.focusDownOrRight) rfl
  case focusUpOrLeft =>
    exact onSpaceOf_focus_settings .focusUpOrLeft (hdirection _) trivial clock
      (g := fun a => pure a.focusUpOrLeft) rfl
  case focusUpOrRight =>
    exact onSpaceOf_focus_settings .focusUpOrRight (hdirection _) trivial clock
      (g := fun a => pure a.focusUpOrRight) rfl
  case focusWindowTop => exact focusWindowTop_settings clock
  case focusWindowBottom => exact focusWindowBottom_settings clock
  case focusWindowDownOrTop =>
    exact orElse_settings (focusTowards_settings .down) fun _ => focusWindowTop_settings clock
  case focusWindowUpOrBottom =>
    exact orElse_settings (focusTowards_settings .up) fun _ => focusWindowBottom_settings clock
  case focusFloating => exact ensures_pure.mpr focusFloating_settings
  case focusTiling => exact ensures_pure.mpr focusTiling_settings
  case switchFocusFloatingTiling => exact ensures_pure.mpr switchFocusFloatingTiling_settings
  case move direction =>
    exact ensures_silently (f := fun t : Workspace W Id => t.moveTowards clock direction)
      (moveTowards_settings clock direction)
  case moveAnimated direction =>
    exact ensures_silently (f := fun t : Workspace W Id => t.moveTowardsAnimated clock direction)
      (moveTowardsAnimated_settings clock direction)
  case moveColumnToFirst =>
    exact onSpaceOf_settings none hstay ScrollingSpace.moveColumnToFirst_settings
  case moveColumnToLast =>
    exact onSpaceOf_settings none hstay ScrollingSpace.moveColumnToLast_settings
  case swapWindowInDirection direction =>
    exact onSpaceOf_settings none (g := (·.swapWindowInDirection direction)) hstay
      (ScrollingSpace.swapWindowInDirection_settings direction)
  case consumeIntoColumn => exact onSpaceOf_settings none hstay ensures_throw
  case expelFromColumn => exact onSpaceOf_settings none hstay ensures_throw
  case centerColumn =>
    exact onSpaceOf_settings none (f := (·.centerWindow clock none))
      (FloatingSpace.centerWindow_settings clock none) hstay'
  case toggleWidth forwards =>
    exact onSpaceOf_settings none (f := (·.toggleWindowWidth none forwards))
      (FloatingSpace.toggleWindowWidth_settings none forwards) hstay'
  case setColumnWidth change =>
    exact onSpaceOf_settings none (f := (·.setWindowWidth none change true))
      (FloatingSpace.setWindowWidth_settings none change true) hstay'
  case nudgeMasterRatio delta =>
    exact ensures_pure.mpr (sameSettings_scrolling
      (ScrollingSpace.nudgeMasterRatio_settings clock delta))

/-! ### Floating and takeovers -/

theorem modifyTile_settings (window : Id) (f : Tile W → Tile W) :
    SameSettings s (s.modifyTile window f) := by
  unfold modifyTile
  split
  · exact sameSettings_floating rfl
  · exact sameSettings_scrolling (ScrollingSpace.settings_modifyColumnById window _)

theorem toggleWindowFloating_settings (clock : Clock) (id : Option Id) :
    Ensures (s.toggleWindowFloating clock id) (SameSettings s) := by
  have hunfloat : ∀ id targetIsActive,
      Ensures (s.unfloat id targetIsActive) (SameSettings s) := by
    intro id targetIsActive
    unfold unfloat
    simp only [ensures_bind, ensures_pure]
    exact (FloatingSpace.removeTile_settings id).mono fun r hr =>
      sameSettings_of_spaces (ScrollingSpace.settings_addColumn _ _) hr _
  have hfloat : ∀ id targetIsActive renderPos,
      Ensures (s.float clock id targetIsActive renderPos) (SameSettings s) := by
    intro id targetIsActive renderPos
    unfold float
    simp only [ensures_bind, ensures_pure]
    exact (ScrollingSpace.removeTile_settings clock id).mono fun r hr =>
      (FloatingSpace.addTileAt_settings 0 _ _).mono fun _ ht => sameSettings_of_spaces hr ht _
  unfold toggleWindowFloating
  dsimp only
  split
  · exact ensures_pure.mpr (.refl s)
  · unfold changeSpace
    simp only [ensures_bind, ensures_unwrap, ensures_ite, ensures_pure]
    intro renderPos _
    exact ⟨fun _ => (hunfloat _ _).mono fun t ht _ _ => ht.trans (modifyTile_settings _ _),
      fun _ => (hfloat _ _ _).mono fun t ht _ _ => ht.trans (modifyTile_settings _ _)⟩

theorem setWindowFloating_settings (clock : Clock) (id : Option Id) (floating : Bool) :
    Ensures (s.setWindowFloating clock id floating) (SameSettings s) := by
  unfold setWindowFloating
  rw [ensures_ite]
  exact ⟨fun _ => ensures_pure.mpr (.refl s), fun _ => toggleWindowFloating_settings clock id⟩

theorem takeOver_settings (window : Id) (restoreToFloating : Bool)
    {set : ScrollingSpace W → Outcome (ScrollingSpace W × Bool)}
    (hset : Ensures (set s.scrolling) fun r => r.1.settings = s.scrolling.settings) :
    Ensures (s.takeOver window restoreToFloating set) (SameSettings s) := by
  unfold takeOver
  simp only [ensures_bind, ensures_unwrap, ensures_ite, ensures_pure]
  intro _ _
  refine hset.mono fun r hr _ _ => ⟨fun _ => sameSettings_scrolling ?_,
    fun _ => sameSettings_scrolling hr⟩
  exact (ScrollingSpace.settings_modifyColumnById window _).trans hr

theorem setFullscreen_settings (clock : Clock) (window : Id) (isFullscreen : Bool) :
    Ensures (s.setFullscreen clock window isFullscreen) (SameSettings s) := by
  have htake : ∀ (t : Workspace W Id) restore, Ensures (t.takeOver window restore
      fun scrolling => scrolling.setFullscreen window isFullscreen) (SameSettings t) :=
    fun t restore => takeOver_settings window restore
      (ScrollingSpace.setFullscreen_settings window isFullscreen)
  unfold setFullscreen
  simp only [ensures_ite, ensures_bind, ensures_unwrap, ensures_pure]
  refine ⟨fun _ => ⟨fun _ => ?_, fun _ => .refl s⟩,
    fun _ => ⟨fun _ => htake s false, fun _ _ _ => ⟨fun _ => ?_, fun _ => htake s false⟩⟩⟩
  · exact (toggleWindowFloating_settings clock (some window)).mono fun t ht =>
      (htake t true).mono fun _ => ht.trans
  · exact toggleWindowFloating_settings clock (some window)

theorem setMaximized_settings (clock : Clock) (window : Id) (maximize : Bool) :
    Ensures (s.setMaximized clock window maximize) (SameSettings s) := by
  have htake : ∀ (t : Workspace W Id) restore, Ensures (t.takeOver window restore
      fun scrolling => scrolling.setMaximized window maximize) (SameSettings t) :=
    fun t restore => takeOver_settings window restore
      (ScrollingSpace.setMaximized_settings window maximize)
  unfold setMaximized
  simp only [ensures_ite, ensures_bind, ensures_unwrap, ensures_pure]
  refine ⟨fun _ => ⟨fun _ => ?_, fun _ => .refl s⟩,
    fun _ => ⟨fun _ => htake s false, fun _ _ _ => ⟨fun _ => ?_, fun _ => htake s false⟩⟩⟩
  · exact (toggleWindowFloating_settings clock (some window)).mono fun t ht =>
      (htake t true).mono fun _ => ht.trans
  · exact toggleWindowFloating_settings clock (some window)

theorem moveFloatingWindow_settings (clock : Clock) (id : Option Id) (x y : PositionChange)
    (animate : Bool) : Ensures (s.moveFloatingWindow clock id x y animate) (SameSettings s) := by
  have hany : ∀ x : Outcome (Option (Tile W)), Ensures x fun _ => True := fun _ _ _ => trivial
  unfold moveFloatingWindow
  simp only [ensures_ite, ensures_bind, ensures_pure]
  refine ⟨fun _ => (FloatingSpace.moveWindow_settings clock id x y animate).mono
    fun _ => sameSettings_floating, fun _ => (hany _).mono fun tile _ => ?_⟩
  cases tile with
  | none => exact ensures_pure.mpr (.refl s)
  | some tile =>
    simp only
    cases (s.floating.storedOrDefaultTilePos tile).or _ with
    | none => exact ensures_pure.mpr (.refl s)
    | some pos => exact ensures_pure.mpr (sameSettings_scrolling
        (ScrollingSpace.settings_modifyColumnById _ _))

theorem runWindowCommand_settings (clock : Clock) (window : Option Id) (cmd : WindowCommand) :
    Ensures (s.runWindowCommand clock window cmd) (SameSettings s) := by
  have hstay : Ensures (pure s.floating) fun t => t.settings = s.floating.settings :=
    ensures_pure.mpr rfl
  have hstay' : Ensures (pure s.scrolling) fun t => t.settings = s.scrolling.settings :=
    ensures_pure.mpr rfl
  cases cmd
  case toggleWindowFloating => exact toggleWindowFloating_settings clock window
  case setWindowFloating floating => exact setWindowFloating_settings clock window floating
  case consumeOrExpelWindowLeft => exact onSpaceOf_settings window hstay ensures_throw
  case consumeOrExpelWindowRight => exact onSpaceOf_settings window hstay ensures_throw
  case centerWindow =>
    exact onSpaceOf_settings window (f := (·.centerWindow clock window))
      (FloatingSpace.centerWindow_settings clock window) hstay'
  case setWindowWidth change =>
    exact onSpaceOf_settings window (f := (·.setWindowWidth window change true))
      (FloatingSpace.setWindowWidth_settings window change true) hstay'
  case setWindowHeight change =>
    exact onSpaceOf_settings window (f := (·.setWindowHeight window change true))
      (FloatingSpace.setWindowHeight_settings window change true) hstay'
  case toggleWindowWidth forwards =>
    exact onSpaceOf_settings window (f := (·.toggleWindowWidth window forwards))
      (FloatingSpace.toggleWindowWidth_settings window forwards) hstay'
  case toggleWindowHeight forwards =>
    exact onSpaceOf_settings window (f := (·.toggleWindowHeight window forwards))
      (FloatingSpace.toggleWindowHeight_settings window forwards) hstay'
  case moveFloatingWindow x y animate => exact moveFloatingWindow_settings clock window x y animate

/-! ### Operations -/

theorem activateWindow_settings (window : Id) :
    Ensures (s.activateWindow window) fun r => SameSettings s r.1 := by
  have hscrolling :=
    (ScrollingSpace.activateWindow_refocused (s := s.scrolling) window).settings_eq
  unfold activateWindow
  rw [ensures_bind]
  refine (FloatingSpace.activateWindow_settings window).mono fun r hr => ?_
  simp only [ensures_ite, ensures_pure]
  exact ⟨fun _ => sameSettings_of_spaces rfl hr _, fun _ =>
    ⟨fun _ => sameSettings_of_spaces hscrolling hr _,
      fun _ => sameSettings_of_spaces hscrolling hr s.floatingIsActive⟩⟩

theorem activateWindowWithoutRaising_settings (window : Id) :
    SameSettings s (s.activateWindowWithoutRaising window).1 := by
  have hscrolling :=
    (ScrollingSpace.activateWindow_refocused (s := s.scrolling) window).settings_eq
  have hfloating :=
    FloatingSpace.activateWindowWithoutRaising_settings (s := s.floating) window
  unfold activateWindowWithoutRaising
  simp only
  split_ifs
  · exact sameSettings_of_spaces rfl hfloating _
  · exact sameSettings_of_spaces hscrolling hfloating _
  · exact sameSettings_of_spaces hscrolling hfloating s.floatingIsActive

theorem updateWindow_settings (window : Id) (serial : Option ℕ) :
    Ensures (s.updateWindow window serial) (SameSettings s) := by
  unfold updateWindow
  rw [ensures_bind]
  refine (FloatingSpace.updateWindow_settings window serial).mono fun r hr => ?_
  simp only [ensures_ite, ensures_pure]
  exact ⟨fun _ => sameSettings_floating hr, fun _ => sameSettings_of_spaces
    (ScrollingSpace.settings_modifyColumnById window _) hr s.floatingIsActive⟩

theorem interactiveResizeEnd_settings (window : Option Id) :
    SameSettings s (s.interactiveResizeEnd window) := by
  unfold interactiveResizeEnd
  split
  · split_ifs
    · exact sameSettings_floating (FloatingSpace.interactiveResizeEnd_settings _)
    · exact .refl s
  · exact sameSettings_floating (FloatingSpace.interactiveResizeEnd_settings _)

/-- The operations that hand over new settings. -/
def Op.isConfig : Op W Id → Bool
  | .updateConfig _ | .updateLayoutConfig _ | .setOutput _ | .updateOutputSize => true
  | _ => false

theorem step_settings (clock : Clock) {op : Op W Id} (hop : op.isConfig = false) :
    Ensures (s.step clock op) (SameSettings s) := by
  cases op <;> simp only [Op.isConfig, reduceCtorEq] at hop <;>
    simp only [step, ensures_bind, ensures_pure]
  case addTile tile target activate width isFullWidth isFloating =>
    exact addTile_settings tile target activate width isFullWidth isFloating
  case addTileToColumn =>
    exact sameSettings_of_spaces (ScrollingSpace.settings_addColumn _ _) rfl _
  case addColumn => exact sameSettings_of_spaces (ScrollingSpace.settings_addColumn _ _) rfl _
  case removeTile id => exact removeTile_settings clock id
  case removeActiveTile => exact removeActiveTile_settings clock
  case removeActiveColumn => exact removeActiveColumn_settings clock
  case command cmd => exact runCommand_settings clock cmd
  case windowCommand window cmd => exact runWindowCommand_settings clock window cmd
  case setFullscreen window isFullscreen => exact setFullscreen_settings clock window isFullscreen
  case toggleFullscreen window =>
    unfold toggleFullscreen
    simp only [ensures_bind, ensures_unwrap]
    exact fun _ _ => setFullscreen_settings clock window _
  case setMaximized window maximize => exact setMaximized_settings clock window maximize
  case toggleMaximized window => exact setMaximized_settings clock window _
  case activateWindow window => exact activateWindow_settings window
  case activateWindowWithoutRaising window => exact activateWindowWithoutRaising_settings window
  case descendantsAdded id =>
    unfold descendantsAdded
    simp only [ensures_bind, ensures_pure]
    exact (FloatingSpace.descendantsAdded_settings id).mono fun _ => sameSettings_floating
  case updateWindow window serial => exact updateWindow_settings window serial
  case refresh => exact ⟨rfl, rfl, rfl, rfl, rfl, rfl, rfl, rfl⟩
  case advanceAnimations => exact ⟨rfl, rfl, rfl, rfl, rfl, rfl, rfl, rfl⟩
  case interactiveResizeBegin window edges =>
    exact trySpaceOf_settings _ (FloatingSpace.interactiveResizeBegin_settings window edges)
      (ensures_pure.mpr rfl)
  case interactiveResizeUpdate window delta =>
    exact trySpaceOf_settings _ (FloatingSpace.interactiveResizeUpdate_settings window delta)
      (ensures_pure.mpr rfl)
  case interactiveResizeEnd window => exact interactiveResizeEnd_settings window
  case unname => exact ⟨rfl, rfl, rfl, rfl, rfl, rfl, rfl, rfl⟩

/-! ### New settings -/

/-- Both spaces have the settings of the workspace, and its options are the base options with its
own, adjusted for its scale. -/
structure Tuned (s : Workspace W Id) : Prop where
  scrolling : s.scrolling.settings = (s.viewSize,
    computeWorkingArea s.workingArea s.scale s.options.layout.struts, s.workingArea, s.scale,
    s.options)
  floating : s.floating.settings = (s.viewSize, s.workingArea, s.scale, s.options)
  options : s.options = (s.baseOptions.withMergedLayout s.layoutConfig).adjustedForScale s.scale

omit [LayoutElement W Id] [DecidableEq Id] in
theorem SameSettings.tuned (hs : s.Tuned) (h : SameSettings s t) : t.Tuned where
  scrolling := by
    rw [h.scrolling, hs.scrolling, h.viewSize_eq, h.workingArea_eq, h.scale_eq, h.options_eq]
  floating := by
    rw [h.floating, hs.floating, h.viewSize_eq, h.workingArea_eq, h.scale_eq, h.options_eq]
  options := by
    rw [h.options_eq, hs.options, h.baseOptions_eq, h.layoutConfig_eq, h.scale_eq]

omit [DecidableEq Id] in
theorem tuned_updateConfig (baseOptions : Options) : (s.updateConfig baseOptions).Tuned where
  scrolling := ScrollingSpace.settings_updateTileSizes
  floating := rfl
  options := rfl

omit [DecidableEq Id] in
theorem Tuned.setViewSize (hs : s.Tuned) (scale : ℚ) (size : Size) (workingArea : Rect) :
    (s.setViewSize scale size workingArea).Tuned := by
  unfold Workspace.setViewSize
  split_ifs with hsame hscale
  · exact hs
  · exact tuned_updateConfig _
  · refine ⟨ScrollingSpace.settings_updateTileSizes, rfl, ?_⟩
    rw [← not_not.mp hscale]
    exact hs.options

omit [DecidableEq Id] in
theorem Tuned.updateOutputSize (hs : s.Tuned) : Ensures s.updateOutputSize Tuned := by
  unfold Workspace.updateOutputSize
  simp only [ensures_bind, ensures_unwrap, ensures_pure]
  exact fun output _ => hs.setViewSize _ _ _

omit [DecidableEq Id] in
theorem Tuned.setOutput (hs : s.Tuned) (output : Option Output) :
    Ensures (s.setOutput output) Tuned := by
  unfold Workspace.setOutput
  rw [ensures_ite]
  refine ⟨fun _ => ensures_pure.mpr hs, fun _ => ?_⟩
  cases output with
  | none => exact ensures_pure.mpr ⟨hs.scrolling, hs.floating, hs.options⟩
  | some output => exact Tuned.updateOutputSize ⟨hs.scrolling, hs.floating, hs.options⟩

theorem Tuned.step (hs : s.Tuned) (clock : Clock) (op : Op W Id) :
    Ensures (s.step clock op) Tuned := by
  by_cases hop : op.isConfig = false
  · exact (step_settings clock hop).mono fun t ht => ht.tuned hs
  cases op <;> simp only [Op.isConfig, not_true_eq_false] at hop
  case updateConfig baseOptions => exact ensures_pure.mpr (tuned_updateConfig baseOptions)
  case updateLayoutConfig layoutConfig =>
    refine ensures_pure.mpr ?_
    unfold Workspace.updateLayoutConfig
    split_ifs
    · exact hs
    · exact tuned_updateConfig _
  case setOutput output => exact hs.setOutput output
  case updateOutputSize => exact hs.updateOutputSize

/-- **The settings.**  In every reachable workspace both spaces have its settings. -/
theorem Reachable.tuned (h : Reachable s) : s.Tuned := by
  refine Machine.ReachableBy.invariant h ?_ fun s a hs _ => hs.step a.1 a.2
  rintro s ⟨id, config, options, -, ⟨output, rfl⟩ | rfl⟩
  · exact ⟨rfl, rfl, rfl⟩
  · exact ⟨rfl, rfl, rfl⟩

end ById

end Workspace

end Sol
