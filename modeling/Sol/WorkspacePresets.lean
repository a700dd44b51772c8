import Sol.Presets
import Sol.Desk

/-!
# Presets in a workspace

The two spaces of a workspace keep the remembered presets within the presets that there are, and so
does what moves tiles from one to the other, out of the workspace, or into it.

* `step_fits`, `take_fits`, `place_fits`: the operations of a workspace;
* `Fits.toggleWidth` and so on: the toggles find every window that is there.
-/

namespace Sol

open Panicking

variable {W Id : Type} [LayoutElement W Id]

/-- The tile of what is held fits. -/
def Held.Fits : Held W → Prop
  | .tile removed => removed.tile.Fits
  | .column col => col.tile.Fits

namespace Workspace

variable {s t : Workspace W Id} {options : Options}

/-- What the tiles of both spaces remember is there; the floating tiles have the given options. -/
structure FitsIn (options : Options) (s : Workspace W Id) : Prop where
  scrolling : s.scrolling.Fits
  floating : s.floating.FitsIn options

omit [LayoutElement W Id] in
theorem FitsIn.activate (h : s.FitsIn options) (active : FloatingActive) :
    { s with floatingIsActive := active }.FitsIn options := ⟨h.scrolling, h.floating⟩

omit [LayoutElement W Id] in
theorem FitsIn.withScrolling (h : s.FitsIn options) {scrolling : ScrollingSpace W}
    (hs : scrolling.Fits) : { s with scrolling }.FitsIn options := ⟨hs, h.floating⟩

omit [LayoutElement W Id] in
theorem FitsIn.withFloating (h : s.FitsIn options) {floating : FloatingSpace W Id}
    (hs : floating.FitsIn options) : { s with floating }.FitsIn options := ⟨h.scrolling, hs⟩

omit [LayoutElement W Id] in
theorem FitsIn.afterRemoving (h : s.FitsIn options) (removedFromFloating : Bool) :
    (s.updateFocusFloatingTilingAfterRemoving removedFromFloating).FitsIn options := by
  unfold updateFocusFloatingTilingAfterRemoving
  split_ifs
  · exact h.activate _
  · exact h
  · exact h.activate _
  · exact h

omit [LayoutElement W Id] in
theorem FitsIn.switchFocusFloatingTiling (h : s.FitsIn options) :
    s.switchFocusFloatingTiling.FitsIn options := by
  unfold Workspace.switchFocusFloatingTiling
  split_ifs
  · exact h
  · exact h
  · exact h.activate _
  · exact h.activate _

omit [LayoutElement W Id] in
theorem FitsIn.focusFloating (h : s.FitsIn options) : s.focusFloating.FitsIn options := by
  unfold Workspace.focusFloating
  split_ifs
  · exact h.switchFocusFloatingTiling
  · exact h

omit [LayoutElement W Id] in
theorem FitsIn.focusTiling (h : s.FitsIn options) : s.focusTiling.FitsIn options := by
  unfold Workspace.focusTiling
  split_ifs
  · exact h.switchFocusFloatingTiling
  · exact h

variable [DecidableEq Id]

theorem onSpaceOf_fits (h : s.FitsIn options) (window : Option Id)
    {f : FloatingSpace W Id → Outcome (FloatingSpace W Id)}
    {g : ScrollingSpace W → Outcome (ScrollingSpace W)}
    (hf : Ensures (f s.floating) (·.FitsIn options)) (hg : Ensures (g s.scrolling) (·.Fits)) :
    Ensures (s.onSpaceOf window f g) (FitsIn options) := by
  unfold onSpaceOf
  simp only [ensures_ite, ensures_bind, ensures_pure]
  exact ⟨fun _ => hf.mono fun _ => h.withFloating, fun _ => hg.mono fun _ => h.withScrolling⟩

theorem trySpaceOf_fits (h : s.FitsIn options) (window : Option Id)
    {f : FloatingSpace W Id → Outcome (FloatingSpace W Id × Bool)}
    {g : ScrollingSpace W → Outcome (ScrollingSpace W × Bool)}
    (hf : Ensures (f s.floating) fun r => r.1.FitsIn options)
    (hg : Ensures (g s.scrolling) fun r => r.1.Fits) :
    Ensures (s.trySpaceOf window f g) fun r => r.1.FitsIn options := by
  unfold trySpaceOf
  simp only [ensures_ite, ensures_bind, ensures_pure]
  exact ⟨fun _ => hf.mono fun _ => h.withFloating, fun _ => hg.mono fun _ => h.withScrolling⟩

omit [DecidableEq Id] [LayoutElement W Id] in
theorem orElse_fits {first : Workspace W Id → Outcome (Workspace W Id × Bool)}
    {second : Workspace W Id → Outcome (Workspace W Id)}
    (hfirst : Ensures (first s) fun r => r.1.FitsIn options)
    (hsecond : ∀ t, t.FitsIn options → Ensures (second t) (FitsIn options)) :
    Ensures (s.orElse first second) (FitsIn options) := by
  unfold orElse
  simp only [ensures_bind, ensures_ite, ensures_pure]
  exact hfirst.mono fun r hr => ⟨fun _ => hr, fun _ => hsecond r.1 hr⟩

/-! ### In and out -/

theorem addTile_fits (h : s.FitsIn options) {tile : Tile W} (htile : tile.Fits)
    (target : WorkspaceAddWindowTarget Id) (activate : ActivateWindow) (width : ColumnWidth)
    (isFullWidth isFloating : Bool) :
    Ensures (s.addTile tile target activate width isFullWidth isFloating) (FitsIn options) := by
  have hany : ∀ x : Outcome Bool, Ensures x fun _ => True := fun _ _ _ => trivial
  have hrestored : { tile with restoreToFloating := isFloating }.Fits := htile.congr rfl
  have htiled : ∀ activate, (s.addTiled { tile with restoreToFloating := isFloating } activate width
      isFullWidth).FitsIn options :=
    fun activate => ⟨h.scrolling.addTile hrestored activate width isFullWidth, h.floating⟩
  have hfloating : ∀ {floating : FloatingSpace W Id} activate, floating.FitsIn options →
      (s.withFloatingAdded floating activate).FitsIn options := fun _ hf => ⟨h.scrolling, hf⟩
  have hnext : ∀ nextTo activate, Ensures (s.addFloatingNextTo nextTo
      { tile with restoreToFloating := isFloating } activate) (·.FitsIn options) := by
    intro nextTo activate
    unfold addFloatingNextTo
    rw [ensures_ite]
    refine ⟨fun _ => FloatingSpace.addTileAbove_fits h.floating nextTo hrestored activate,
      fun _ => ?_⟩
    rw [ensures_bind, ensures_unwrap]
    intro _ _
    refine FloatingSpace.addTile_fits h.floating ?_ activate
    exact hrestored.congr rfl
  unfold addTile
  cases target
  all_goals simp only [ensures_ite, ensures_bind, ensures_pure]
  case auto =>
    exact ⟨fun _ => (FloatingSpace.addTile_fits h.floating hrestored _).mono
      fun _ hf => hfloating _ hf, fun _ => htiled _⟩
  case newColumnAt => exact htiled _
  case nextTo nextTo =>
    exact (hany _).mono fun activate _ =>
      ⟨fun _ => (hnext nextTo activate).mono fun _ hf => hfloating _ hf, fun _ => htiled _⟩

theorem removeTile_fits (h : s.FitsIn options) (clock : Clock) (id : Id) :
    Ensures (s.removeTile clock id) fun r => r.1.tile.Fits ∧ r.2.FitsIn options := by
  unfold removeTile
  simp only [ensures_ite, ensures_bind, ensures_pure]
  exact ⟨fun _ => (FloatingSpace.removeTile_fits h.floating id).mono fun r hr =>
      ⟨hr.1, (h.withFloating hr.2).afterRemoving true⟩,
    fun _ => (ScrollingSpace.removeTile_fits h.scrolling clock id).mono fun r hr =>
      ⟨hr.1, (h.withScrolling hr.2).afterRemoving false⟩⟩

theorem removeActiveTile_fits (h : s.FitsIn options) (clock : Clock) :
    Ensures (s.removeActiveTile clock) fun r =>
      (∀ removed ∈ r.1, removed.tile.Fits) ∧ r.2.FitsIn options := by
  unfold removeActiveTile
  simp only [ensures_ite, ensures_bind]
  refine ⟨fun _ => ?_, fun _ => ?_⟩
  · refine (FloatingSpace.removeActiveTile_fits h.floating).mono fun r ht => ?_
    obtain ⟨removed, t⟩ := r
    cases removed with
    | none => exact ensures_pure.mpr ⟨ht.1, h⟩
    | some removed => exact ensures_pure.mpr ⟨ht.1, (h.withFloating ht.2).afterRemoving true⟩
  · refine (ScrollingSpace.removeActiveTile_fits h.scrolling clock).mono fun r ht => ?_
    obtain ⟨removed, t⟩ := r
    cases removed with
    | none => exact ensures_pure.mpr ⟨ht.1, h⟩
    | some removed => exact ensures_pure.mpr ⟨ht.1, (h.withScrolling ht.2).afterRemoving false⟩

theorem removeActiveColumn_fits (h : s.FitsIn options) (clock : Clock) :
    Ensures (s.removeActiveColumn clock) fun r =>
      (∀ column ∈ r.1, column.tile.Fits) ∧ r.2.FitsIn options := by
  unfold removeActiveColumn
  simp only [ensures_ite, ensures_bind, ensures_pure]
  refine ⟨fun _ => ⟨(fun _ hr => absurd hr (Option.not_mem_none _)), h⟩, fun _ => ?_⟩
  refine (ScrollingSpace.removeActiveColumn_fits h.scrolling clock).mono fun r ht => ?_
  obtain ⟨column, t⟩ := r
  cases column with
  | none => exact ensures_pure.mpr ⟨ht.1, h⟩
  | some column => exact ensures_pure.mpr ⟨ht.1, (h.withScrolling ht.2).afterRemoving false⟩

/-! ### Commands -/

theorem focusTowards_fits (h : s.FitsIn options) (direction : Direction) :
    Ensures (s.focusTowards direction) fun r => r.1.FitsIn options := by
  cases direction
  case left =>
    exact trySpaceOf_fits h none (g := fun a => pure a.focusLeft)
      (FloatingSpace.focusDirectional_fits h.floating _)
      (ensures_pure.mpr (ScrollingSpace.focusLeft_refocused.fits h.scrolling))
  case right =>
    exact trySpaceOf_fits h none (g := fun a => pure a.focusRight)
      (FloatingSpace.focusDirectional_fits h.floating _)
      (ensures_pure.mpr (ScrollingSpace.focusRight_refocused.fits h.scrolling))
  case up =>
    exact trySpaceOf_fits h none (g := fun a => pure a.focusUp)
      (FloatingSpace.focusDirectional_fits h.floating _)
      (ensures_pure.mpr (ScrollingSpace.focusUp_refocused.fits h.scrolling))
  case down =>
    exact trySpaceOf_fits h none (g := fun a => pure a.focusDown)
      (FloatingSpace.focusDirectional_fits h.floating _)
      (ensures_pure.mpr (ScrollingSpace.focusDown_refocused.fits h.scrolling))

/-- A focus operation in the tiling space, or one of the floating space. -/
theorem onSpaceOf_focus_fits (h : s.FitsIn options) (clock : Clock) (op : ScrollingSpace.Op W Id)
    (hop : op.IsFocus) {f : FloatingSpace W Id → Outcome (FloatingSpace W Id)}
    (hf : Ensures (f s.floating) (·.FitsIn options))
    {g : ScrollingSpace W → Outcome (ScrollingSpace W)}
    (hg : g s.scrolling = s.scrolling.step clock op) :
    Ensures (s.onSpaceOf none f g) (FitsIn options) :=
  onSpaceOf_fits h none hf (hg ▸ (ScrollingSpace.step_refocused clock hop).mono
    fun _ ht => ht.fits h.scrolling)

theorem focusColumnFirst_fits (h : s.FitsIn options) (clock : Clock) :
    Ensures s.focusColumnFirst (FitsIn options) :=
  onSpaceOf_focus_fits h clock .focusColumnFirst trivial
    (FloatingSpace.focusLeast_fits h.floating _) rfl

theorem focusColumnLast_fits (h : s.FitsIn options) (clock : Clock) :
    Ensures s.focusColumnLast (FitsIn options) :=
  onSpaceOf_focus_fits h clock .focusColumnLast trivial
    (FloatingSpace.focusGreatest_fits h.floating _) rfl

theorem focusWindowTop_fits (h : s.FitsIn options) (clock : Clock) :
    Ensures s.focusWindowTop (FitsIn options) :=
  onSpaceOf_focus_fits h clock .focusTop trivial
    (FloatingSpace.focusLeast_fits h.floating _) rfl

theorem focusWindowBottom_fits (h : s.FitsIn options) (clock : Clock) :
    Ensures s.focusWindowBottom (FitsIn options) :=
  onSpaceOf_focus_fits h clock .focusBottom trivial
    (FloatingSpace.focusGreatest_fits h.floating _) rfl

/-- A move of the active window in its space. -/
theorem trySpaceOf_move_fits (h : s.FitsIn options) (clock : Clock) (amount : Point)
    {m : ScrollingSpace W → Outcome (ScrollingSpace W × Bool)}
    (hm : Ensures (m s.scrolling) fun r => r.1.Fits) :
    Ensures (s.trySpaceOf none (alwaysDone (·.moveBy clock amount)) m)
      fun r => r.1.FitsIn options :=
  trySpaceOf_fits h none (ensures_alwaysDone (P := (·.FitsIn options))
    (FloatingSpace.moveBy_fits h.floating clock amount)) hm

theorem moveTowards_fits (h : s.FitsIn options) (clock : Clock) (direction : Direction) :
    Ensures (s.moveTowards clock direction) fun r => r.1.FitsIn options := by
  cases direction
  case left => exact trySpaceOf_move_fits h clock _ (ScrollingSpace.moveLeft_fits h.scrolling)
  case right => exact trySpaceOf_move_fits h clock _ (ScrollingSpace.moveRight_fits h.scrolling)
  case up => exact trySpaceOf_move_fits h clock _ (ScrollingSpace.moveUp_fits h.scrolling)
  case down => exact trySpaceOf_move_fits h clock _ (ScrollingSpace.moveDown_fits h.scrolling)

theorem moveTowardsAnimated_fits (h : s.FitsIn options) (clock : Clock) (direction : Direction) :
    Ensures (s.moveTowardsAnimated clock direction) fun r => r.1.FitsIn options := by
  cases direction
  case left =>
    exact trySpaceOf_move_fits h clock _ (m := (·.moveLeftAnimated clock))
      (ScrollingSpace.swapWithSpring_fits clock (ScrollingSpace.moveLeft_fits h.scrolling))
  case right =>
    exact trySpaceOf_move_fits h clock _ (m := (·.moveRightAnimated clock))
      (ScrollingSpace.swapWithSpring_fits clock (ScrollingSpace.moveRight_fits h.scrolling))
  case up =>
    exact trySpaceOf_move_fits h clock _ (m := (·.moveUpAnimated clock))
      (ScrollingSpace.swapWithSpring_fits clock (ScrollingSpace.moveUp_fits h.scrolling))
  case down =>
    exact trySpaceOf_move_fits h clock _ (m := (·.moveDownAnimated clock))
      (ScrollingSpace.swapWithSpring_fits clock (ScrollingSpace.moveDown_fits h.scrolling))

theorem runCommand_fits (h : s.FitsIn options) (clock : Clock) (cmd : Command) :
    Ensures (s.runCommand clock cmd) (FitsIn options) := by
  have hdirection : ∀ distance, Ensures (silently (·.focusDirectional distance) s.floating)
      (·.FitsIn options) :=
    fun distance => ensures_silently (FloatingSpace.focusDirectional_fits h.floating distance)
  have hfloating : Ensures (pure s.floating) (·.FitsIn options) := ensures_pure.mpr h.floating
  have hscrolling : Ensures (pure s.scrolling) (·.Fits) := ensures_pure.mpr h.scrolling
  cases cmd
  case focus direction =>
    exact ensures_silently (f := fun t : Workspace W Id => t.focusTowards direction)
      (focusTowards_fits h direction)
  case focusColumnFirst => exact focusColumnFirst_fits h clock
  case focusColumnLast => exact focusColumnLast_fits h clock
  case focusColumnRightOrFirst =>
    exact orElse_fits (focusTowards_fits h .right) fun _ ht => focusColumnFirst_fits ht clock
  case focusColumnLeftOrLast =>
    exact orElse_fits (focusTowards_fits h .left) fun _ ht => focusColumnLast_fits ht clock
  case focusColumn index =>
    have hrefocused := ScrollingSpace.step_refocused (s := s.focusTiling.scrolling) clock
      (show (ScrollingSpace.Op.focusColumn index : ScrollingSpace.Op W Id).IsFocus from trivial)
    exact ensures_pure.mpr (h.focusTiling.withScrolling
      ((ensures_pure.mp hrefocused).fits h.focusTiling.scrolling))
  case focusDownOrLeft =>
    exact onSpaceOf_focus_fits h clock .focusDownOrLeft trivial (hdirection _)
      (g := fun a => pure a.focusDownOrLeft) rfl
  case focusDownOrRight =>
    exact onSpaceOf_focus_fits h clock .focusDownOrRight trivial (hdirection _)
      (g := fun a => pure a.focusDownOrRight) rfl
  case focusUpOrLeft =>
    exact onSpaceOf_focus_fits h clock .focusUpOrLeft trivial (hdirection _)
      (g := fun a => pure a.focusUpOrLeft) rfl
  case focusUpOrRight =>
    exact onSpaceOf_focus_fits h clock .focusUpOrRight trivial (hdirection _)
      (g := fun a => pure a.focusUpOrRight) rfl
  case focusWindowTop => exact focusWindowTop_fits h clock
  case focusWindowBottom => exact focusWindowBottom_fits h clock
  case focusWindowDownOrTop =>
    exact orElse_fits (focusTowards_fits h .down) fun _ ht => focusWindowTop_fits ht clock
  case focusWindowUpOrBottom =>
    exact orElse_fits (focusTowards_fits h .up) fun _ ht => focusWindowBottom_fits ht clock
  case focusFloating => exact ensures_pure.mpr h.focusFloating
  case focusTiling => exact ensures_pure.mpr h.focusTiling
  case switchFocusFloatingTiling => exact ensures_pure.mpr h.switchFocusFloatingTiling
  case move direction =>
    exact ensures_silently (f := fun t : Workspace W Id => t.moveTowards clock direction)
      (moveTowards_fits h clock direction)
  case moveAnimated direction =>
    exact ensures_silently (f := fun t : Workspace W Id => t.moveTowardsAnimated clock direction)
      (moveTowardsAnimated_fits h clock direction)
  case moveColumnToFirst =>
    exact onSpaceOf_fits h none hfloating (ScrollingSpace.moveColumnToFirst_fits h.scrolling)
  case moveColumnToLast =>
    exact onSpaceOf_fits h none hfloating (ScrollingSpace.moveColumnToLast_fits h.scrolling)
  case swapWindowInDirection direction =>
    exact onSpaceOf_fits h none (g := (·.swapWindowInDirection direction)) hfloating
      (ScrollingSpace.swapWindowInDirection_fits h.scrolling direction)
  case consumeIntoColumn => exact onSpaceOf_fits h none hfloating ensures_throw
  case expelFromColumn => exact onSpaceOf_fits h none hfloating ensures_throw
  case centerColumn =>
    exact onSpaceOf_fits h none (f := (·.centerWindow clock none))
      (FloatingSpace.centerWindow_fits h.floating clock none) hscrolling
  case toggleWidth forwards =>
    exact onSpaceOf_fits h none (f := (·.toggleWindowWidth none forwards))
      (FloatingSpace.toggleWindowWidth_fits h.floating none forwards) hscrolling
  case setColumnWidth change =>
    exact onSpaceOf_fits h none (f := (·.setWindowWidth none change true))
      (FloatingSpace.setWindowWidth_fits h.floating none change true) hscrolling
  case nudgeMasterRatio delta =>
    exact ensures_pure.mpr (h.withScrolling (h.scrolling.nudgeMasterRatio clock delta))

/-! ### Floating and takeovers -/

theorem FitsIn.modifyTile (h : s.FitsIn options) (window : Id) {f : Tile W → Tile W}
    (hf : ∀ tile, (f tile).remembered = tile.remembered) :
    (s.modifyTile window f).FitsIn options := by
  unfold Workspace.modifyTile
  split
  · exact h.withFloating (h.floating.modify hf _)
  · exact h.withScrolling (h.scrolling.modifyColumnById (fun c => hf c.tile) window)

theorem toggleWindowFloating_fits (h : s.FitsIn options) (clock : Clock) (id : Option Id) :
    Ensures (s.toggleWindowFloating clock id) (FitsIn options) := by
  have hunfloat : ∀ id targetIsActive,
      Ensures (s.unfloat id targetIsActive) (FitsIn options) := by
    intro id targetIsActive
    unfold unfloat
    simp only [ensures_bind, ensures_pure]
    exact (FloatingSpace.removeTile_fits h.floating id).mono fun r hr =>
      ⟨h.scrolling.addTile hr.1 targetIsActive _ _, hr.2⟩
  have hfloat : ∀ id targetIsActive renderPos,
      Ensures (s.float clock id targetIsActive renderPos) (FitsIn options) := by
    intro id targetIsActive renderPos
    unfold float
    simp only [ensures_bind, ensures_pure]
    refine (ScrollingSpace.removeTile_fits h.scrolling clock id).mono fun r hr => ?_
    refine (FloatingSpace.addTile_fits h.floating ?_ targetIsActive).mono fun _ hf => ⟨hr.2, hf⟩
    exact hr.1.congr rfl
  unfold toggleWindowFloating
  dsimp only
  split
  · exact ensures_pure.mpr h
  · unfold changeSpace
    simp only [ensures_bind, ensures_unwrap, ensures_ite, ensures_pure]
    intro renderPos _
    exact ⟨fun _ => (hunfloat _ _).mono fun t ht _ _ => ht.modifyTile _ fun _ => rfl,
      fun _ => (hfloat _ _ _).mono fun t ht _ _ => ht.modifyTile _ fun _ => rfl⟩

theorem takeOver_fits (h : s.FitsIn options) (window : Id) (restoreToFloating : Bool)
    {set : ScrollingSpace W → Outcome (ScrollingSpace W × Bool)}
    (hset : Ensures (set s.scrolling) fun r => r.1.Fits) :
    Ensures (s.takeOver window restoreToFloating set) (FitsIn options) := by
  unfold takeOver
  simp only [ensures_bind, ensures_unwrap, ensures_ite, ensures_pure]
  intro _ _
  refine hset.mono fun r hr _ _ => ⟨fun _ => h.withScrolling ?_, fun _ => h.withScrolling hr⟩
  apply hr.modifyColumnById
  exact fun _ => rfl

theorem setFullscreen_fits (h : s.FitsIn options) (clock : Clock) (window : Id)
    (isFullscreen : Bool) :
    Ensures (s.setFullscreen clock window isFullscreen) (FitsIn options) := by
  have htake : ∀ (t : Workspace W Id) restore, t.FitsIn options → Ensures (t.takeOver window restore
      fun scrolling => scrolling.setFullscreen window isFullscreen) (FitsIn options) :=
    fun t restore ht => takeOver_fits ht window restore
      (ScrollingSpace.setFullscreen_fits ht.scrolling window isFullscreen)
  unfold setFullscreen
  simp only [ensures_ite, ensures_bind, ensures_unwrap, ensures_pure]
  refine ⟨fun _ => ⟨fun _ => ?_, fun _ => h⟩, fun _ => ⟨fun _ => htake s false h, fun _ _ _ =>
    ⟨fun _ => toggleWindowFloating_fits h clock (some window), fun _ => htake s false h⟩⟩⟩
  exact (toggleWindowFloating_fits h clock (some window)).mono fun t ht => htake t true ht

theorem setMaximized_fits (h : s.FitsIn options) (clock : Clock) (window : Id) (maximize : Bool) :
    Ensures (s.setMaximized clock window maximize) (FitsIn options) := by
  have htake : ∀ (t : Workspace W Id) restore, t.FitsIn options → Ensures (t.takeOver window restore
      fun scrolling => scrolling.setMaximized window maximize) (FitsIn options) :=
    fun t restore ht => takeOver_fits ht window restore
      (ScrollingSpace.setMaximized_fits ht.scrolling window maximize)
  unfold setMaximized
  simp only [ensures_ite, ensures_bind, ensures_unwrap, ensures_pure]
  refine ⟨fun _ => ⟨fun _ => ?_, fun _ => h⟩, fun _ => ⟨fun _ => htake s false h, fun _ _ _ =>
    ⟨fun _ => toggleWindowFloating_fits h clock (some window), fun _ => htake s false h⟩⟩⟩
  exact (toggleWindowFloating_fits h clock (some window)).mono fun t ht => htake t true ht

theorem moveFloatingWindow_fits (h : s.FitsIn options) (clock : Clock) (id : Option Id)
    (x y : PositionChange) (animate : Bool) :
    Ensures (s.moveFloatingWindow clock id x y animate) (FitsIn options) := by
  have hany : ∀ x : Outcome (Option (Tile W)), Ensures x fun _ => True := fun _ _ _ => trivial
  unfold moveFloatingWindow
  simp only [ensures_ite, ensures_bind, ensures_pure]
  refine ⟨fun _ => (FloatingSpace.moveWindow_fits h.floating clock id x y animate).mono
    fun _ => h.withFloating, fun _ => (hany _).mono fun tile _ => ?_⟩
  cases tile with
  | none => exact ensures_pure.mpr h
  | some tile =>
    simp only
    cases (s.floating.storedOrDefaultTilePos tile).or _ with
    | none => exact ensures_pure.mpr h
    | some pos =>
      refine ensures_pure.mpr (h.withScrolling ?_)
      apply h.scrolling.modifyColumnById
      exact fun _ => rfl

theorem runWindowCommand_fits (h : s.FitsIn options) (clock : Clock) (window : Option Id)
    (cmd : WindowCommand) : Ensures (s.runWindowCommand clock window cmd) (FitsIn options) := by
  have hfloating : Ensures (pure s.floating) (·.FitsIn options) := ensures_pure.mpr h.floating
  have hscrolling : Ensures (pure s.scrolling) (·.Fits) := ensures_pure.mpr h.scrolling
  cases cmd
  case toggleWindowFloating => exact toggleWindowFloating_fits h clock window
  case setWindowFloating floating =>
    exact ensures_ite.mpr ⟨fun _ => ensures_pure.mpr h,
      fun _ => toggleWindowFloating_fits h clock window⟩
  case consumeOrExpelWindowLeft => exact onSpaceOf_fits h window hfloating ensures_throw
  case consumeOrExpelWindowRight => exact onSpaceOf_fits h window hfloating ensures_throw
  case centerWindow =>
    exact onSpaceOf_fits h window (f := (·.centerWindow clock window))
      (FloatingSpace.centerWindow_fits h.floating clock window) hscrolling
  case setWindowWidth change =>
    exact onSpaceOf_fits h window (f := (·.setWindowWidth window change true))
      (FloatingSpace.setWindowWidth_fits h.floating window change true) hscrolling
  case setWindowHeight change =>
    exact onSpaceOf_fits h window (f := (·.setWindowHeight window change true))
      (FloatingSpace.setWindowHeight_fits h.floating window change true) hscrolling
  case toggleWindowWidth forwards =>
    exact onSpaceOf_fits h window (f := (·.toggleWindowWidth window forwards))
      (FloatingSpace.toggleWindowWidth_fits h.floating window forwards) hscrolling
  case toggleWindowHeight forwards =>
    exact onSpaceOf_fits h window (f := (·.toggleWindowHeight window forwards))
      (FloatingSpace.toggleWindowHeight_fits h.floating window forwards) hscrolling
  case moveFloatingWindow x y animate => exact moveFloatingWindow_fits h clock window x y animate

/-! ### Operations -/

theorem activateWindow_fits (h : s.FitsIn options) (window : Id) :
    Ensures (s.activateWindow window) fun r => r.1.FitsIn options := by
  have hscrolling := (ScrollingSpace.activateWindow_refocused window).fits h.scrolling
  unfold activateWindow
  rw [ensures_bind]
  refine (FloatingSpace.activateWindow_fits h.floating window).mono fun r hr => ?_
  simp only [ensures_ite, ensures_pure]
  exact ⟨fun _ => ⟨h.scrolling, hr⟩, fun _ => ⟨fun _ => ⟨hscrolling, hr⟩, fun _ => ⟨hscrolling, hr⟩⟩⟩

theorem FitsIn.activateWindowWithoutRaising (h : s.FitsIn options) (window : Id) :
    (s.activateWindowWithoutRaising window).1.FitsIn options := by
  have hscrolling := (ScrollingSpace.activateWindow_refocused window).fits h.scrolling
  have hfloating := FloatingSpace.activateWindowWithoutRaising_fits h.floating window
  unfold Workspace.activateWindowWithoutRaising
  simp only
  split_ifs
  · exact ⟨h.scrolling, hfloating⟩
  · exact ⟨hscrolling, hfloating⟩
  · exact ⟨hscrolling, hfloating⟩

theorem updateWindow_fits (h : s.FitsIn options) (window : Id) (serial : Option ℕ) :
    Ensures (s.updateWindow window serial) (FitsIn options) := by
  unfold updateWindow
  rw [ensures_bind]
  refine (FloatingSpace.updateWindow_fits h.floating window serial).mono fun r hr => ?_
  simp only [ensures_ite, ensures_pure]
  exact ⟨fun _ => h.withFloating hr, fun _ => ⟨h.scrolling.updateWindow window serial, hr⟩⟩

theorem FitsIn.interactiveResizeEnd (h : s.FitsIn options) (window : Option Id) :
    (s.interactiveResizeEnd window).FitsIn options := by
  unfold Workspace.interactiveResizeEnd
  split
  · split_ifs
    · exact h.withFloating (h.floating.interactiveResizeEnd _)
    · exact h
  · exact h.withFloating (h.floating.interactiveResizeEnd _)

theorem descendantsAdded_fits (h : s.FitsIn options) (id : Id) :
    Ensures (s.descendantsAdded id) fun r => r.1.FitsIn options := by
  unfold descendantsAdded
  simp only [ensures_bind, ensures_pure]
  exact (FloatingSpace.descendantsAdded_fits h.floating id).mono fun _ => h.withFloating

theorem toggleFullscreen_fits (h : s.FitsIn options) (clock : Clock) (window : Id) :
    Ensures (s.toggleFullscreen clock window) (FitsIn options) := by
  unfold toggleFullscreen
  simp only [ensures_bind, ensures_unwrap]
  exact fun _ _ => setFullscreen_fits h clock window _

/-- The operations that neither add nor take out a window, nor hand over settings. -/
theorem step_fitsIn (h : s.FitsIn options) (clock : Clock) {op : Op W Id} (hown : op.IsOwn = true)
    (hop : op.isConfig = false) : Ensures (s.step clock op) (FitsIn options) := by
  cases op <;> simp only [Op.IsOwn, Op.isConfig, Bool.false_eq_true, reduceCtorEq] at hown hop <;>
    simp only [step, ensures_bind, ensures_pure]
  case command cmd => exact runCommand_fits h clock cmd
  case windowCommand window cmd => exact runWindowCommand_fits h clock window cmd
  case setFullscreen window isFullscreen => exact setFullscreen_fits h clock window isFullscreen
  case toggleFullscreen window => exact toggleFullscreen_fits h clock window
  case setMaximized window maximize => exact setMaximized_fits h clock window maximize
  case toggleMaximized window => exact setMaximized_fits h clock window _
  case activateWindow window => exact activateWindow_fits h window
  case activateWindowWithoutRaising window => exact h.activateWindowWithoutRaising window
  case descendantsAdded id => exact descendantsAdded_fits h id
  case updateWindow window serial => exact updateWindow_fits h window serial
  case refresh isActive isFocused =>
    exact ⟨h.scrolling.refresh _ _, h.floating.refresh _ _⟩
  case advanceAnimations =>
    exact ⟨h.scrolling.advanceAnimations clock, h.floating.advanceAnimations clock⟩
  case interactiveResizeBegin window edges =>
    exact trySpaceOf_fits h _ (FloatingSpace.interactiveResizeBegin_fits h.floating window edges)
      (ensures_pure.mpr h.scrolling)
  case interactiveResizeUpdate window delta =>
    exact trySpaceOf_fits h _ (FloatingSpace.interactiveResizeUpdate_fits h.floating window delta)
      (ensures_pure.mpr h.scrolling)
  case interactiveResizeEnd window => exact h.interactiveResizeEnd window
  case unname => exact ⟨h.scrolling, h.floating⟩

/-! ### Settings -/

/-- The options have presets, and what the tiles remember is there. -/
structure Fits (s : Workspace W Id) : Prop extends s.FitsIn s.options where
  basePresets : s.baseOptions.layout.HasPresets

omit [LayoutElement W Id] [DecidableEq Id] in
theorem Fits.tiles (hs : s.Fits) : ∀ tile ∈ s.tiles, tile.Fits := by
  intro tile htile
  rcases List.mem_append.mp htile with htile | htile
  · obtain ⟨c, hc, rfl⟩ := List.mem_map.mp htile
    exact hs.scrolling c hc
  · exact (hs.floating.tiles tile htile).toFits

omit [LayoutElement W Id] [DecidableEq Id] in
theorem SameSettings.fits (h : SameSettings s t) (hs : s.Fits) (ht : t.FitsIn s.options) :
    t.Fits :=
  ⟨h.options_eq.symm ▸ ht, h.baseOptions_eq.symm ▸ hs.basePresets⟩

omit [LayoutElement W Id] [DecidableEq Id] in
theorem Fits.relabel (hs : s.Fits) (layoutConfig : Option LayoutPart) (scale : ℚ) (viewSize : Size)
    (workingArea : Rect) (output : Option Output) (originalOutput : OutputId)
    (name : Option String) :
    { s with layoutConfig, scale, viewSize, workingArea, output, originalOutput, name }.Fits :=
  ⟨⟨hs.scrolling, hs.floating⟩, hs.basePresets⟩

omit [DecidableEq Id] in
theorem Fits.updateConfig (hs : s.Fits) {baseOptions : Options}
    (hbase : baseOptions.layout.HasPresets) : (s.updateConfig baseOptions).Fits := by
  have hpresets := Options.hasPresets_adjustedForScale
    (Options.hasPresets_withMergedLayout hbase s.layoutConfig) s.scale
  exact ⟨⟨hs.scrolling.updateConfig _ _ _ _, hs.floating.updateConfig _ _ _ hpresets⟩, hbase⟩

omit [DecidableEq Id] in
theorem Fits.updateLayoutConfig (hs : s.Fits) (layoutConfig : Option LayoutPart) :
    (s.updateLayoutConfig layoutConfig).Fits := by
  unfold Workspace.updateLayoutConfig
  split_ifs
  · exact hs
  · exact (hs.relabel layoutConfig s.scale s.viewSize s.workingArea s.output s.originalOutput
      s.name).updateConfig hs.basePresets

omit [DecidableEq Id] in
theorem Fits.setViewSize (hs : s.Fits) (scale : ℚ) (size : Size) (workingArea : Rect) :
    (s.setViewSize scale size workingArea).Fits := by
  unfold Workspace.setViewSize
  split_ifs
  · exact hs
  · exact (hs.relabel s.layoutConfig scale size workingArea s.output s.originalOutput
      s.name).updateConfig hs.basePresets
  · exact ⟨⟨hs.scrolling.updateConfig _ _ _ _, hs.floating.updateConfig _ _ _ hs.floating.presets⟩,
      hs.basePresets⟩

omit [DecidableEq Id] in
theorem Fits.updateOutputSize (hs : s.Fits) : Ensures s.updateOutputSize Fits := by
  unfold Workspace.updateOutputSize
  simp only [ensures_bind, ensures_unwrap, ensures_pure]
  exact fun output _ => hs.setViewSize _ _ _

omit [DecidableEq Id] in
theorem Fits.setOutput (hs : s.Fits) (output : Option Output) : Ensures (s.setOutput output) Fits := by
  unfold Workspace.setOutput
  rw [ensures_ite]
  refine ⟨fun _ => ensures_pure.mpr hs, fun _ => ?_⟩
  have hset := fun originalOutput => hs.relabel s.layoutConfig s.scale s.viewSize s.workingArea
    output originalOutput s.name
  cases output with
  | none => exact ensures_pure.mpr (hset s.originalOutput)
  | some output => exact (hset _).updateOutputSize

/-! ### What the layout does to workspaces -/

/-- The operations that neither add nor take out a window. -/
theorem step_fits (hs : s.Fits) (clock : Clock) {op : Op W Id} (hown : op.IsOwn = true)
    (hoptions : ∀ baseOptions ∈ op.newOptions, baseOptions.layout.HasPresets) :
    Ensures (s.step clock op) Fits := by
  by_cases hop : op.isConfig = false
  · exact ((step_settings clock hop).and (step_fitsIn hs.toFitsIn clock hown hop)).mono
      fun t ht => ht.1.fits hs ht.2
  cases op <;> simp only [Op.isConfig, not_true_eq_false] at hop
  case updateConfig baseOptions => exact ensures_pure.mpr (hs.updateConfig (hoptions _ rfl))
  case updateLayoutConfig layoutConfig => exact ensures_pure.mpr (hs.updateLayoutConfig layoutConfig)
  case setOutput output => exact hs.setOutput output
  case updateOutputSize => exact hs.updateOutputSize

omit [DecidableEq Id] in
omit [LayoutElement W Id] in
theorem fits_makeWorkspace (id : WorkspaceId) (output : Option Output)
    (config : Option WorkspaceConfig) {baseOptions : Options}
    (h : baseOptions.layout.HasPresets) :
    (Desk.makeWorkspace id output config baseOptions : Workspace W Id).Fits := by
  have hpresets := fun scale => Options.hasPresets_adjustedForScale
    (Options.hasPresets_withMergedLayout h (config.bind (·.layout))) scale
  cases output with
  | some output =>
    exact ⟨⟨fun c hc => absurd hc List.not_mem_nil,
      hpresets _, rfl, fun tile htile => absurd htile List.not_mem_nil⟩, h⟩
  | none =>
    exact ⟨⟨fun c hc => absurd hc List.not_mem_nil,
      hpresets _, rfl, fun tile htile => absurd htile List.not_mem_nil⟩, h⟩

omit [DecidableEq Id] in
theorem resizeOutput_fits (hs : s.Fits) (output : Output) : Ensures (s.resizeOutput output) Fits :=
  (hs.relabel s.layoutConfig s.scale s.viewSize s.workingArea (s.output.map fun _ => output)
    s.originalOutput s.name).updateOutputSize

theorem Fits.modifyTile (hs : s.Fits) (window : Id) {f : Tile W → Tile W}
    (hf : ∀ tile, (f tile).remembered = tile.remembered) : (s.modifyTile window f).Fits :=
  (modifyTile_settings window f).fits hs (hs.toFitsIn.modifyTile window hf)

theorem take_fits (hs : s.Fits) (clock : Clock) (what : Take Id) :
    Ensures (s.take clock what) fun r => (∀ held ∈ r.1, held.Fits) ∧ r.2.Fits := by
  cases what with
  | tile id =>
    simp only [take, ensures_bind, ensures_pure]
    refine ((removeTile_settings clock id).and (removeTile_fits hs.toFitsIn clock id)).mono
      fun r hr => ⟨?_, hr.1.fits hs hr.2.2⟩
    rintro _ ⟨⟩
    exact hr.2.1
  | activeTile =>
    simp only [take, ensures_bind, ensures_pure]
    refine ((removeActiveTile_settings clock).and (removeActiveTile_fits hs.toFitsIn clock)).mono
      fun r hr => ⟨fun held hheld => ?_, hr.1.fits hs hr.2.2⟩
    obtain ⟨removed, hremoved, rfl⟩ := Option.mem_map.mp hheld
    exact hr.2.1 removed hremoved
  | activeColumn =>
    simp only [take, ensures_bind, ensures_pure]
    refine ((removeActiveColumn_settings clock).and
      (removeActiveColumn_fits hs.toFitsIn clock)).mono
        fun r hr => ⟨fun held hheld => ?_, hr.1.fits hs hr.2.2⟩
    obtain ⟨column, hcolumn, rfl⟩ := Option.mem_map.mp hheld
    exact hr.2.1 column hcolumn

theorem place_fits (hs : s.Fits) {held : Held W} (hheld : held.Fits) (how : Place Id) :
    Ensures (s.place held how) Fits := by
  cases held with
  | tile removed =>
    cases how with
    | tile target activate isFloating =>
      exact ((addTile_settings removed.tile target activate removed.width removed.isFullWidth
        isFloating).and (addTile_fits hs.toFitsIn hheld target activate removed.width
          removed.isFullWidth isFloating)).mono fun t ht => ht.1.fits hs ht.2
    | tileInColumn activate =>
      exact ensures_pure.mpr ⟨⟨hs.scrolling.addTileToColumn hheld activate, hs.floating⟩,
        hs.basePresets⟩
    | column activate => exact ensures_throw
  | column col =>
    cases how with
    | column activate =>
      exact ensures_pure.mpr ⟨⟨hs.scrolling.addColumn hheld activate, hs.floating⟩,
        hs.basePresets⟩
    | tile target activate isFloating => exact ensures_throw
    | tileInColumn activate => exact ensures_throw

/-! ### Toggles -/

/-- A toggle in the floating space selects a preset, unless it is about a window that is not
there; the tiling space has none. -/
theorem onSpaceOf_toggle (hs : s.Fits) (window : Option Id)
    {f : FloatingSpace W Id → Outcome (FloatingSpace W Id)}
    (hset : Ensures (s.onSpaceOf window f pure) (SameSettings s))
    (h : Returns (f s.floating) (·.FitsIn s.options) ∨ f s.floating = .error .unwrapNone) :
    Returns (s.onSpaceOf window f pure) Fits ∨
      s.onSpaceOf window f pure = .error .unwrapNone := by
  have hfits : ∀ {x : Outcome (Workspace W Id)}, Ensures x (SameSettings s) →
      Returns x (FitsIn s.options) → Returns x Fits := fun hx hr =>
    (hr.and_ensures hx).mono fun t ht => ht.2.fits hs ht.1
  unfold onSpaceOf at hset ⊢
  split_ifs at hset ⊢ with hfloating
  · rcases h with h | h
    · exact .inl (hfits hset (returns_bind.mpr (h.mono fun t ht =>
        returns_pure.mpr (hs.toFitsIn.withFloating ht))))
    · exact .inr (by rw [h]; rfl)
  · exact .inl (hfits hset (returns_pure.mpr hs.toFitsIn))

theorem toggleWidth_spec (hs : s.Fits) (clock : Clock) (forwards : Bool) :
    Returns (s.runCommand clock (.toggleWidth forwards)) Fits ∨
      s.runCommand clock (.toggleWidth forwards) = .error .unwrapNone :=
  onSpaceOf_toggle hs none (f := (·.toggleWindowWidth none forwards))
    (runCommand_settings clock (.toggleWidth forwards))
    (FloatingSpace.toggleWindowWidth_spec hs.floating none forwards)

theorem toggleWindowWidth_spec (hs : s.Fits) (clock : Clock) (window : Option Id)
    (forwards : Bool) :
    Returns (s.runWindowCommand clock window (.toggleWindowWidth forwards)) Fits ∨
      s.runWindowCommand clock window (.toggleWindowWidth forwards) = .error .unwrapNone :=
  onSpaceOf_toggle hs window (f := (·.toggleWindowWidth window forwards))
    (runWindowCommand_settings clock window (.toggleWindowWidth forwards))
    (FloatingSpace.toggleWindowWidth_spec hs.floating window forwards)

theorem toggleWindowHeight_spec (hs : s.Fits) (clock : Clock) (window : Option Id)
    (forwards : Bool) :
    Returns (s.runWindowCommand clock window (.toggleWindowHeight forwards)) Fits ∨
      s.runWindowCommand clock window (.toggleWindowHeight forwards) = .error .unwrapNone :=
  onSpaceOf_toggle hs window (f := (·.toggleWindowHeight window forwards))
    (runWindowCommand_settings clock window (.toggleWindowHeight forwards))
    (FloatingSpace.toggleWindowHeight_spec hs.floating window forwards)

end Workspace

end Sol
