import Sol.FloatingRestack
import Sol.Machine
import Sol.SampleSpace

/-!
# Runs of the floating space

The operations of the floating space as steps, with those of the clients of its windows.  Along
every run the data follow the tiles, and windows stay above their parents, as long as no window
descends from itself.

* `step_sound`, `step_normal`: one step;
* `reachable_verified`: what the code's own check of the space asks for.
-/

namespace Sol

open Panicking Lineage ClientOwned

variable {W Id : Type} [LayoutElement W Id] [ClientOwned W] [DecidableEq Id]

namespace FloatingSpace

variable {s t u : FloatingSpace W Id}

/-! ### Steps -/

/-- The operations of the floating space, and those of the clients of its windows. -/
inductive Op (W Id : Type)
  | addTile (tile : Tile W) (activate : Bool)
  | addTileAbove (above : Id) (tile : Tile W) (activate : Bool)
  | removeTile (id : Id)
  | removeActiveTile
  | activateWindow (id : Id)
  | activateWindowWithoutRaising (id : Id)
  | focusLeft
  | focusRight
  | focusUp
  | focusDown
  | focusLeftmost
  | focusRightmost
  | focusTopmost
  | focusBottommost
  | setWindowWidth (id : Option Id) (change : SizeChange) (animate : Bool)
  | setWindowHeight (id : Option Id) (change : SizeChange) (animate : Bool)
  | toggleWindowWidth (id : Option Id) (forwards : Bool)
  | toggleWindowHeight (id : Option Id) (forwards : Bool)
  | interactiveResizeBegin (window : Id) (edges : ResizeEdge)
  | interactiveResizeUpdate (window : Id) (delta : Point)
  | interactiveResizeEnd (window : Option Id)
  | moveLeft
  | moveRight
  | moveUp
  | moveDown
  | moveWindow (id : Option Id) (x y : PositionChange) (animate : Bool)
  | centerWindow (id : Option Id)
  | descendantsAdded (id : Id)
  | parentChanged (window : Id) (change : W → W)
  | commit (window : Id) (change : W → W) (serial : Option ℕ)
  | refresh (isActive isFocused : Bool)
  | advanceAnimations
  | updateConfig (viewSize : Size) (workingArea : Rect) (scale : ℚ) (options : Options)

/-- One operation, at the time the clock shows. -/
def step (clock : Clock) (s : FloatingSpace W Id) : Op W Id → Outcome (FloatingSpace W Id)
  | .addTile tile activate => s.addTile tile activate
  | .addTileAbove above tile activate => s.addTileAbove above tile activate
  | .removeTile id => do return (← s.removeTile id).2
  | .removeActiveTile => do return (← s.removeActiveTile).2
  | .activateWindow id => do return (← s.activateWindow id).1
  | .activateWindowWithoutRaising id => pure (s.activateWindowWithoutRaising id).1
  | .focusLeft => do return (← s.focusLeft).1
  | .focusRight => do return (← s.focusRight).1
  | .focusUp => do return (← s.focusUp).1
  | .focusDown => do return (← s.focusDown).1
  | .focusLeftmost => s.focusLeftmost
  | .focusRightmost => s.focusRightmost
  | .focusTopmost => s.focusTopmost
  | .focusBottommost => s.focusBottommost
  | .setWindowWidth id change animate => s.setWindowWidth id change animate
  | .setWindowHeight id change animate => s.setWindowHeight id change animate
  | .toggleWindowWidth id forwards => s.toggleWindowWidth id forwards
  | .toggleWindowHeight id forwards => s.toggleWindowHeight id forwards
  | .interactiveResizeBegin window edges => do return (← s.interactiveResizeBegin window edges).1
  | .interactiveResizeUpdate window delta => do return (← s.interactiveResizeUpdate window delta).1
  | .interactiveResizeEnd window => pure (s.interactiveResizeEnd window)
  | .moveLeft => s.moveLeft clock
  | .moveRight => s.moveRight clock
  | .moveUp => s.moveUp clock
  | .moveDown => s.moveDown clock
  | .moveWindow id x y animate => s.moveWindow clock id x y animate
  | .centerWindow id => s.centerWindow clock id
  | .descendantsAdded id => do return (← s.descendantsAdded id).1
  | .parentChanged window change => s.parentChanged window change
  | .commit window change serial => s.commit window change serial
  | .refresh isActive isFocused => pure (s.refresh isActive isFocused)
  | .advanceAnimations => pure (s.advanceAnimations clock)
  | .updateConfig viewSize workingArea scale options =>
    pure (s.updateConfig viewSize workingArea scale options)

/-- The windows that an operation is about. -/
def Op.subjects : Op W Id → List Id
  | .addTileAbove above _ _ => [above]
  | .removeTile id => [id]
  | .setWindowWidth id _ _ | .setWindowHeight id _ _ => id.toList
  | .toggleWindowWidth id _ | .toggleWindowHeight id _ => id.toList
  | .interactiveResizeBegin window _ => [window]
  | .moveWindow id _ _ _ | .centerWindow id => id.toList
  | _ => []

/-- The tile that an operation adds. -/
def Op.addedTile : Op W Id → Option (Tile W)
  | .addTile tile _ | .addTileAbove _ tile _ => some tile
  | _ => none

/-- The options that an operation hands over. -/
def Op.newOptions : Op W Id → Option Options
  | .updateConfig _ _ _ options => some options
  | _ => none

/-- The windows and their parents once an operation is done. -/
def Op.newLineage (s : FloatingSpace W Id) : Op W Id → List (Id × Option Id)
  | .addTile tile _ | .addTileAbove _ tile _ => tile.kin :: s.lineage
  | .parentChanged window change => (s.withClient window change).lineage
  | _ => s.lineage

/-- Clients change of their windows what the operation is about, and nothing else. -/
def Op.ClientKeeps (s : FloatingSpace W Id) : Op W Id → Prop
  | .commit window change _ =>
    ∀ tile ∈ s.tiles, tile.windowId = window → Commits tile.window (change tile.window)
  | .parentChanged window change =>
    ∀ tile ∈ s.tiles, tile.windowId = window → Reparented tile.window (change tile.window)
  | _ => True

/-- What the callers see to: the windows that an operation is about are there. -/
structure Op.Called (s : FloatingSpace W Id) (op : Op W Id) : Prop where
  subjects : ∀ window ∈ op.subjects, window ∈ s.windowIds
  options : ∀ options ∈ op.newOptions, options.layout.HasPresets
  client : op.ClientKeeps s

/-- Moreover a window that is added is not there, and no window descends from itself. -/
structure Op.Admissible (s : FloatingSpace W Id) (op : Op W Id) : Prop extends
    op.Called s where
  added : ∀ tile ∈ op.addedTile, tile.windowId ∉ s.windowIds
  acyclic : Acyclic (op.newLineage s)

/-- The floating space as a machine; an action is an operation and the time it is done at. -/
def machine (W Id : Type) [LayoutElement W Id] [ClientOwned W] [DecidableEq Id] :
    Machine (FloatingSpace W Id) (Clock × Op W Id) where
  initial s := ∃ viewSize workingArea scale options, options.layout.HasPresets ∧
    s = new viewSize workingArea scale options
  step s a := s.step a.1 a.2

/-- The spaces that runs from an empty one reach. -/
def Reachable (s : FloatingSpace W Id) : Prop :=
  (machine W Id).ReachableBy (fun s a => a.2.Admissible s) s

/-- The spaces that runs reach in which windows may be there twice, or descend from themselves. -/
def Attained (s : FloatingSpace W Id) : Prop :=
  (machine W Id).ReachableBy (fun s a => a.2.Called s) s

theorem Reachable.attained (h : Reachable s) : Attained s := h.mono fun _ _ => (·.toCalled)

/-- A step keeps the data up to date. -/
theorem step_synced (hs : Synced s) (clock : Clock) {op : Op W Id} (hop : op.Called s) :
    Ensures (s.step clock op) Synced := by
  have htouched : ∀ {t : FloatingSpace W Id}, Touched s t → Synced t := fun ht => ht.synced hs
  have hclient := hop.client
  cases op <;> simp only [step, ensures_bind, ensures_pure]
  case addTile tile activate => exact addTileAt_synced hs 0 tile activate
  case addTileAbove above tile activate =>
    unfold addTileAbove
    simp only [ensures_bind, ensures_unwrap, Vec.ensures_get]
    exact fun i _ d _ => addTileAt_synced hs i _ activate
  case removeTile id => exact removeTile_synced hs id
  case removeActiveTile =>
    unfold removeActiveTile
    split
    · exact ensures_pure.mpr hs
    · simp only [ensures_bind, ensures_pure]
      exact removeTile_synced hs _
  case activateWindow id => exact activateWindow_synced hs id
  case activateWindowWithoutRaising id =>
    exact htouched (activateWindowWithoutRaising_touched id)
  case focusLeft | focusRight | focusUp | focusDown => exact focusDirectional_synced hs _
  case focusLeftmost | focusTopmost => exact focusLeast_synced hs _
  case focusRightmost | focusBottommost => exact focusGreatest_synced hs _
  case setWindowWidth id change animate =>
    exact (setWindowWidth_touched id change animate).mono fun _ => htouched
  case setWindowHeight id change animate =>
    exact (setWindowHeight_touched id change animate).mono fun _ => htouched
  case toggleWindowWidth id forwards =>
    exact (toggleWindowWidth_touched id forwards).mono fun _ => htouched
  case toggleWindowHeight id forwards =>
    exact (toggleWindowHeight_touched id forwards).mono fun _ => htouched
  case interactiveResizeBegin window edges =>
    exact (interactiveResizeBegin_touched window edges).mono fun _ => htouched
  case interactiveResizeUpdate window delta =>
    exact (interactiveResizeUpdate_touched window delta).mono fun _ => htouched
  case interactiveResizeEnd window => exact htouched (interactiveResizeEnd_touched window)
  case moveLeft | moveRight | moveUp | moveDown =>
    exact (moveBy_touched clock _).mono fun _ => htouched
  case moveWindow id x y animate =>
    exact (moveWindow_touched clock id x y animate).mono fun _ => htouched
  case centerWindow id => exact (centerWindow_touched clock id).mono fun _ => htouched
  case descendantsAdded id => exact descendantsAdded_synced hs id
  case parentChanged window change => exact parentChanged_synced hs hclient
  case commit window change serial =>
    exact (commit_touched hclient serial).mono fun _ => htouched
  case refresh isActive isFocused => exact htouched (refresh_touched isActive isFocused)
  case advanceAnimations => exact htouched (advanceAnimations_touched clock)
  case updateConfig viewSize workingArea scale options =>
    exact htouched (updateConfig_touched viewSize workingArea scale options)

theorem attained_synced (h : Attained s) : Synced s := by
  refine Machine.ReachableBy.invariant h ?_ fun s a hs ha => step_synced hs a.1 ha
  rintro s ⟨viewSize, workingArea, scale, options, -, rfl⟩
  exact fun entry hentry => absurd hentry List.not_mem_nil

/-- The invariant of the runs. -/
structure Sound (s : FloatingSpace W Id) : Prop where
  wellFormed : s.WellFormed
  tended : Tended s
  acyclic : Acyclic s.lineage

/-- A step keeps the data up to date and the windows above their parents. -/
theorem step_tended (hs : Sound s) (clock : Clock) {op : Op W Id} (hop : op.Admissible s) :
    Ensures (s.step clock op) fun t => Tended t ∧ ∀ a ∈ t.lineage, a ∈ op.newLineage s := by
  have hlen := hs.wellFormed.length_data
  have hrestacked : ∀ {t : FloatingSpace W Id}, Tended t ∧ t.lineage.Perm s.lineage →
      Tended t ∧ ∀ a ∈ t.lineage, a ∈ s.lineage := fun ht => ⟨ht.1, fun _ => ht.2.mem_iff.mp⟩
  have htouched : ∀ {t : FloatingSpace W Id}, Touched s t →
      Tended t ∧ ∀ a ∈ t.lineage, a ∈ s.lineage :=
    fun ht => ⟨hs.tended.touched ht, fun _ ha => ht.lineage_eq ▸ ha⟩
  cases op <;> simp only [step, ensures_bind, ensures_pure]
  case addTile tile activate =>
    exact (addTileAt_tended hlen hs.tended 0 tile (hop.added tile rfl) hop.acyclic activate).mono
      fun t ht => ⟨ht.1, fun _ => ht.2.mem_iff.mp⟩
  case addTileAbove above tile activate =>
    exact (addTileAbove_tended hlen hs.tended above (hop.added tile rfl) hop.acyclic activate).mono
      fun t ht => ⟨ht.1, fun _ => ht.2.mem_iff.mp⟩
  case removeTile id => exact removeTile_tended hs.tended id
  case removeActiveTile => exact removeActiveTile_tended hs.tended
  case activateWindow id =>
    exact (activateWindow_tended hlen hs.tended hs.acyclic id).mono fun _ => hrestacked
  case activateWindowWithoutRaising id =>
    exact htouched (activateWindowWithoutRaising_touched id)
  case focusLeft | focusRight | focusUp | focusDown =>
    exact (focusDirectional_tended hlen hs.tended hs.acyclic _).mono fun _ => hrestacked
  case focusLeftmost | focusTopmost =>
    exact (focusLeast_tended hlen hs.tended hs.acyclic _).mono fun _ => hrestacked
  case focusRightmost | focusBottommost =>
    exact (focusGreatest_tended hlen hs.tended hs.acyclic _).mono fun _ => hrestacked
  case setWindowWidth id change animate =>
    exact (setWindowWidth_touched id change animate).mono fun _ => htouched
  case setWindowHeight id change animate =>
    exact (setWindowHeight_touched id change animate).mono fun _ => htouched
  case toggleWindowWidth id forwards =>
    exact (toggleWindowWidth_touched id forwards).mono fun _ => htouched
  case toggleWindowHeight id forwards =>
    exact (toggleWindowHeight_touched id forwards).mono fun _ => htouched
  case interactiveResizeBegin window edges =>
    exact (interactiveResizeBegin_touched window edges).mono fun _ => htouched
  case interactiveResizeUpdate window delta =>
    exact (interactiveResizeUpdate_touched window delta).mono fun _ => htouched
  case interactiveResizeEnd window => exact htouched (interactiveResizeEnd_touched window)
  case moveLeft | moveRight | moveUp | moveDown =>
    exact (moveBy_touched clock _).mono fun _ => htouched
  case moveWindow id x y animate =>
    exact (moveWindow_touched clock id x y animate).mono fun _ => htouched
  case centerWindow id => exact (centerWindow_touched clock id).mono fun _ => htouched
  case descendantsAdded id =>
    exact (descendantsAdded_tended hlen hs.tended.nodup hs.acyclic
      (hs.tended.stacked.imp fun hnot hchild => absurd hchild hnot)).mono fun _ => hrestacked
  case parentChanged window change =>
    exact (parentChanged_tended hlen hs.tended hop.client hop.acyclic).mono
      fun t ht => ⟨ht.1, fun _ => ht.2.mem_iff.mp⟩
  case commit window change serial =>
    exact (commit_touched hop.client serial).mono fun _ => htouched
  case refresh isActive isFocused => exact htouched (refresh_touched isActive isFocused)
  case advanceAnimations => exact htouched (advanceAnimations_touched clock)
  case updateConfig viewSize workingArea scale options =>
    exact htouched (updateConfig_touched viewSize workingArea scale options)

omit [ClientOwned W] in
theorem withClient_wellFormed (h : s.WellFormed) {window : Id} {change : W → W}
    (hid : ∀ tile ∈ s.tiles, tile.windowId = window →
      LayoutElement.id (change tile.window) = LayoutElement.id tile.window) :
    (s.withClient window change).WellFormed := by
  have hids := windowIds_withClient hid
  cases hidx : s.idxOf window with
  | none =>
    rw [withClient_of_absent change hidx]
    exact h
  | some idx =>
    have htile := List.getElem?_eq_getElem (lt_of_idxOf hidx)
    rw [withClient_of_idxOf change hidx htile] at hids ⊢
    exact (h.retouch hids rfl h.hasPresets).wellFormed

/-- A step keeps the active window and the one that is resized among the windows. -/
theorem step_wellFormed (h : s.WellFormed) (clock : Clock) {op : Op W Id} (hop : op.Called s) :
    Ensures (s.step clock op) WellFormed := by
  have htarget : ∀ {id : Option Id}, op.subjects = id.toList → ∀ w ∈ id, w ∈ s.windowIds :=
    fun hid w hw => hop.subjects w (hid ▸ Option.mem_toList.mpr hw)
  have hsubject : ∀ {w}, op.subjects = [w] → w ∈ s.windowIds :=
    fun hw => hop.subjects _ (hw ▸ List.mem_singleton_self _)
  have hclient := hop.client
  cases op <;> simp only [step, ensures_bind, ensures_pure]
  case addTile tile activate => exact (addTile_spec h tile activate).ensures.mono fun _ => (·.wellFormed)
  case addTileAbove above tile activate =>
    exact (addTileAbove_spec h (hsubject rfl) tile activate).ensures.mono fun _ => (·.wellFormed)
  case removeTile id =>
    exact (removeTile_spec h (hsubject rfl)).ensures.mono fun _ => (·.wellFormed)
  case removeActiveTile =>
    refine (removeActiveTile_spec h).ensures.mono fun r hr => ?_
    rcases hr with ⟨rfl, -⟩ | ⟨_, _, -, -, hremoved⟩
    · exact h
    · exact hremoved.wellFormed
  case activateWindow id => exact (activateWindow_spec h id).ensures.mono fun _ hr => hr.1.wellFormed
  case activateWindowWithoutRaising id =>
    exact (activateWindowWithoutRaising_rearranged h id).wellFormed
  case focusLeft | focusRight | focusUp | focusDown =>
    exact (focusDirectional_rearranged h _).ensures.mono fun _ => (·.wellFormed)
  case focusLeftmost | focusTopmost =>
    exact (focusLeast_rearranged h _).ensures.mono fun _ => (·.wellFormed)
  case focusRightmost | focusBottommost =>
    exact (focusGreatest_rearranged h _).ensures.mono fun _ => (·.wellFormed)
  case setWindowWidth id change animate =>
    exact (setWindowWidth_retouched h (htarget rfl) change animate).ensures.mono
      fun _ ht => ht.1.wellFormed
  case setWindowHeight id change animate =>
    exact (setWindowHeight_retouched h (htarget rfl) change animate).ensures.mono
      fun _ ht => ht.1.wellFormed
  case toggleWindowWidth id forwards =>
    exact (toggleWindowWidth_rearranged h (htarget rfl) forwards).ensures.mono
      fun _ => (·.wellFormed)
  case toggleWindowHeight id forwards =>
    exact (toggleWindowHeight_rearranged h (htarget rfl) forwards).ensures.mono
      fun _ => (·.wellFormed)
  case interactiveResizeBegin window edges =>
    exact (interactiveResizeBegin_rearranged h (hsubject rfl) edges).ensures.mono
      fun _ => (·.wellFormed)
  case interactiveResizeUpdate window delta =>
    exact (interactiveResizeUpdate_rearranged h window delta).ensures.mono fun _ => (·.wellFormed)
  case interactiveResizeEnd window => exact (interactiveResizeEnd_rearranged h window).wellFormed
  case moveLeft | moveRight | moveUp | moveDown =>
    exact (moveBy_rearranged h clock _).ensures.mono fun _ => (·.wellFormed)
  case moveWindow id x y animate =>
    exact (moveWindow_rearranged h clock (htarget rfl) x y animate).ensures.mono
      fun _ => (·.wellFormed)
  case centerWindow id =>
    exact (centerWindow_rearranged h clock (htarget rfl)).ensures.mono fun _ => (·.wellFormed)
  case descendantsAdded id =>
    exact (descendantsAdded_rearranged h id).ensures.mono fun _ => (·.wellFormed)
  case parentChanged window change =>
    have hchanged := withClient_wellFormed h fun tile htile hid => (hclient tile htile hid).id_eq
    unfold parentChanged
    split
    · exact ensures_pure.mpr hchanged
    · simp only [ensures_bind, ensures_pure]
      exact (descendantsAdded_rearranged hchanged _).ensures.mono fun _ => (·.wellFormed)
  case commit window change serial =>
    have hchanged := withClient_wellFormed h fun tile htile hid => (hclient tile htile hid).id_eq
    unfold commit
    simp only [ensures_bind, ensures_pure]
    exact (updateWindow_rearranged hchanged window serial).ensures.mono fun _ hr => hr.1.wellFormed
  case refresh isActive isFocused => exact (refresh_rearranged h isActive isFocused).wellFormed
  case advanceAnimations => exact (advanceAnimations_rearranged h clock).wellFormed
  case updateConfig viewSize workingArea scale options =>
    exact (updateConfig_rearranged h viewSize workingArea scale (hop.options options rfl)).wellFormed

theorem step_sound (hs : Sound s) (clock : Clock) {op : Op W Id} (hop : op.Admissible s) :
    Ensures (s.step clock op) Sound :=
  ((step_wellFormed hs.wellFormed clock hop.toCalled).and (step_tended hs clock hop)).mono
    fun _ ht => ⟨ht.1, ht.2.1, hop.acyclic.mono ht.2.2⟩

theorem reachable_sound (h : Reachable s) : Sound s := by
  refine Machine.ReachableBy.invariant h ?_ fun s a hs ha => step_sound hs a.1 ha
  rintro s ⟨viewSize, workingArea, scale, options, hpresets, rfl⟩
  refine ⟨wellFormed_new viewSize workingArea scale hpresets, ⟨?_, ?_⟩, ?_⟩
  · exact List.nodup_nil
  · exact .nil
  · exact acyclic_of_rank (fun _ => 0) fun a ha => absurd ha List.not_mem_nil

/-! ### Modes -/

/-- No window is pending for a takeover. -/
def Normal (s : FloatingSpace W Id) : Prop :=
  ∀ tile ∈ s.tiles, LayoutElement.pendingSizingMode tile.window = .normal

omit [ClientOwned W] in
theorem withClient_normal (h : Normal s) {window : Id} {change : W → W}
    (hmode : ∀ tile ∈ s.tiles, tile.windowId = window →
      LayoutElement.pendingSizingMode (change tile.window) =
        LayoutElement.pendingSizingMode tile.window) : Normal (s.withClient window change) := by
  cases hidx : s.idxOf window with
  | none =>
    rw [withClient_of_absent change hidx]
    exact h
  | some idx =>
    obtain ⟨hlt, hwindow, -⟩ := List.findIdx?_eq_some_iff_getElem.mp hidx
    rw [withClient_of_idxOf change hidx (List.getElem?_eq_getElem hlt)]
    have hmem := List.getElem_mem hlt
    exact Vec.forall_mem_set h ((hmode _ hmem (of_decide_eq_true hwindow)).trans (h _ hmem))

/-- A window that is added is asked for its floating size. -/
theorem step_normal [PendsLastMode W] (h : Normal s) (clock : Clock) {op : Op W Id}
    (hop : op.Called s) : Ensures (s.step clock op) Normal := by
  have hsteady : ∀ {t : FloatingSpace W Id}, s.Steady t → Normal t := fun ht => ht.isNormal h
  have hadded : ∀ idx tile activate, Ensures (s.addTileAt idx tile activate) Normal := by
    intro idx tile activate
    refine (addTileAt_tiles idx tile activate).mono fun t ht b hb => ?_
    rcases ht.2 b hb with hold | ⟨size, rfl⟩
    · exact h b hold
    · exact PendsLastMode.requestSizeOnce _ _ _
  have hclient := hop.client
  cases op <;> simp only [step, ensures_bind, ensures_pure]
  case addTile tile activate => exact hadded 0 tile activate
  case addTileAbove above tile activate =>
    unfold addTileAbove
    simp only [ensures_bind, ensures_unwrap, Vec.ensures_get]
    exact fun i _ d _ => hadded i _ activate
  case removeTile id => exact (removeTile_takenOut id).mono fun _ hr => hsteady hr.steady
  case removeActiveTile =>
    unfold removeActiveTile
    split
    · exact ensures_pure.mpr h
    · simp only [ensures_bind, ensures_pure]
      exact (removeTile_takenOut _).mono fun _ hr => hsteady hr.steady
  case activateWindow id => exact (activateWindow_steady id).mono fun _ => hsteady
  case activateWindowWithoutRaising id => exact hsteady (activateWindowWithoutRaising_steady id)
  case focusLeft | focusRight | focusUp | focusDown =>
    exact (focusDirectional_steady _).mono fun _ => hsteady
  case focusLeftmost | focusTopmost => exact (focusLeast_steady _).mono fun _ => hsteady
  case focusRightmost | focusBottommost => exact (focusGreatest_steady _).mono fun _ => hsteady
  case setWindowWidth id change animate =>
    exact (setWindowWidth_steady id change animate).mono fun _ => hsteady
  case setWindowHeight id change animate =>
    exact (setWindowHeight_steady id change animate).mono fun _ => hsteady
  case toggleWindowWidth id forwards =>
    exact (toggleWindowWidth_steady id forwards).mono fun _ => hsteady
  case toggleWindowHeight id forwards =>
    exact (toggleWindowHeight_steady id forwards).mono fun _ => hsteady
  case interactiveResizeBegin window edges =>
    exact (interactiveResizeBegin_steady window edges).mono fun _ => hsteady
  case interactiveResizeUpdate window delta =>
    exact (interactiveResizeUpdate_steady window delta).mono fun _ => hsteady
  case interactiveResizeEnd window => exact hsteady (interactiveResizeEnd_steady window)
  case moveLeft | moveRight | moveUp | moveDown =>
    exact (moveBy_steady clock _).mono fun _ => hsteady
  case moveWindow id x y animate =>
    exact (moveWindow_steady clock id x y animate).mono fun _ => hsteady
  case centerWindow id => exact (centerWindow_steady clock id).mono fun _ => hsteady
  case descendantsAdded id => exact (descendantsAdded_steady id).mono fun _ => hsteady
  case parentChanged window change =>
    have hchanged := withClient_normal h fun tile htile hid => (hclient tile htile hid).mode_eq
    unfold parentChanged
    split
    · exact ensures_pure.mpr hchanged
    · simp only [ensures_bind, ensures_pure]
      exact (descendantsAdded_steady _).mono fun _ ht => ht.isNormal hchanged
  case commit window change serial =>
    have hchanged := withClient_normal h fun tile htile hid => (hclient tile htile hid).mode_eq
    unfold commit
    simp only [ensures_bind, ensures_pure]
    exact (updateWindow_steady window serial).mono fun _ hr => hr.isNormal hchanged
  case refresh isActive isFocused => exact hsteady (refresh_steady isActive isFocused)
  case advanceAnimations => exact hsteady (advanceAnimations_steady clock)
  case updateConfig viewSize workingArea scale options =>
    intro tile htile
    obtain ⟨a, ha, rfl⟩ := List.mem_map.mp htile
    exact h a ha

theorem reachable_normal [PendsLastMode W] (h : Reachable s) : Normal s := by
  refine Machine.ReachableBy.invariant h ?_ fun s a hs ha => step_normal hs a.1 ha.toCalled
  rintro s ⟨viewSize, workingArea, scale, options, -, rfl⟩
  exact fun tile htile => absurd htile List.not_mem_nil

/-! ### The check of the space -/

/-- The window at one place of the stack is a child of the one at the other. -/
def ChildAt (s : FloatingSpace W Id) (i j : ℕ) : Prop :=
  ∃ a b, s.tiles[i]? = some a ∧ s.tiles[j]? = some b ∧
    LayoutElement.isChildOf a.window b.window = true

/-- What `verify_invariants` checks. -/
structure Verified (s : FloatingSpace W Id) : Prop where
  length_eq : s.tiles.length = s.data.length
  upToDate : ∀ entry ∈ s.entries,
    (entry.2.update entry.1).updateConfig s.workingArea = entry.2
  active_isSome : s.activeWindowId.isSome = true ↔ s.tiles ≠ []
  active_mem : ∀ id, s.activeWindowId = some id → id ∈ s.windowIds
  resize_mem : ∀ resize, s.interactiveResize = some resize → resize.window ∈ s.windowIds
  above : ∀ i j, Relation.TransGen s.ChildAt i j → i < j
  normal : Normal s

/-- In every reachable space the data follow the tiles, the active window and the one that is
resized are there, and every window is above its ancestors and in the normal mode. -/
theorem reachable_verified [PendsLastMode W] (h : Reachable s) : Verified s := by
  obtain ⟨hwf, htended, hacyclic⟩ := reachable_sound h
  refine ⟨hwf.length_data.symm, fun entry hentry => ?_, ?_, hwf.active_mem, hwf.resize_mem,
    fun i j hchain => ?_, reachable_normal h⟩
  · obtain ⟨hsize, harea, -⟩ := attained_synced h.attained entry hentry
    rw [Data.update, if_pos hsize, Data.updateConfig, if_pos harea]
  · rw [← not_iff_not, ne_eq, not_not, ← hwf.active_eq_none]
    simp
  · have hkin : ∀ k l, s.ChildAt k l → Lineage.ChildAt s.lineage k l := by
      rintro k l ⟨a, b, ha, hb, hab⟩
      refine ⟨a.kin, b.kin, ?_, ?_, (isChildOf_iff _ _).mp hab⟩
      · rw [lineage, List.getElem?_map, ha, Option.map_some]
      · rw [lineage, List.getElem?_map, hb, Option.map_some]
    exact lt_of_transGen htended.stacked hacyclic (Relation.TransGen.mono hkin i j hchain)

/-! ### A run -/

instance (w w' : W) : Decidable (Commits w w') :=
  decidable_of_iff (LayoutElement.id w' = LayoutElement.id w ∧ parent w' = parent w ∧
    LayoutElement.pendingSizingMode w' = LayoutElement.pendingSizingMode w)
    ⟨fun h => ⟨h.1, h.2.1, h.2.2⟩, fun h => ⟨h.1, h.2, h.3⟩⟩

instance (w w' : W) : Decidable (Reparented w w') :=
  decidable_of_iff (LayoutElement.id w' = LayoutElement.id w ∧
    LayoutElement.size w' = LayoutElement.size w ∧
    LayoutElement.pendingSizingMode w' = LayoutElement.pendingSizingMode w)
    ⟨fun h => ⟨h.1, h.2.1, h.2.2⟩, fun h => ⟨h.1, h.2, h.3⟩⟩

instance (s : FloatingSpace W Id) (op : Op W Id) : Decidable (op.ClientKeeps s) := by
  cases op <;> unfold Op.ClientKeeps <;> infer_instance

/-- Callers and clients see to what they have to, and parents come before their children. -/
def Op.Ranked (rank : Id → ℕ) (s : FloatingSpace W Id) (op : Op W Id) : Prop :=
  (∀ window ∈ op.subjects, window ∈ s.windowIds) ∧
    (∀ tile ∈ op.addedTile, tile.windowId ∉ s.windowIds) ∧
      (∀ options ∈ op.newOptions, options.layout.HasPresets) ∧ op.ClientKeeps s ∧
        ∀ a ∈ op.newLineage s, ∀ b ∈ a.2, rank b < rank a.1

instance (rank : Id → ℕ) (s : FloatingSpace W Id) (op : Op W Id) :
    Decidable (op.Ranked rank s) := by
  unfold Op.Ranked
  infer_instance

theorem Op.Ranked.admissible {rank : Id → ℕ} {op : Op W Id} (h : op.Ranked rank s) :
    op.Admissible s :=
  ⟨⟨h.1, h.2.2.1, h.2.2.2.1⟩, h.2.1, acyclic_of_rank rank h.2.2.2.2⟩

/-- A concrete run, evaluated. -/
theorem exists_reachable {p : FloatingSpace W Id → Bool} (rank : Id → ℕ)
    (as : List (Clock × Op W Id)) {s₀ : FloatingSpace W Id} (hs₀ : (machine W Id).initial s₀)
    (hrun : ((machine W Id).run (fun s a => a.2.Ranked rank s) s₀ as).any p = true) :
    ∃ s, Reachable s ∧ p s = true := by
  obtain ⟨s, hs, hp⟩ := Machine.exists_reachableBy as hs₀ hrun
  exact ⟨s, hs.mono fun _ _ => Op.Ranked.admissible, hp⟩

end FloatingSpace

/-- A floating window with a parent. -/
def Sample.dialog (n parent : ℕ) : Tile Toplevel :=
  { tile n with window := { toplevel n with parent := some parent } }

/-- A floating space without windows. -/
def Sample.desktop : FloatingSpace Toplevel ℕ :=
  .new ⟨1920, 1080⟩ ⟨⟨0, 0⟩, ⟨1920, 1080⟩⟩ 1 options

/-- Opens a window with a dialog that has a dialog, and another window over them, that becomes a
dialog of the last one when the first one has been raised again. -/
def Sample.dialogs : List (Clock × FloatingSpace.Op Toplevel ℕ) :=
  [(clock, .addTile (tile 1) true), (clock, .addTile (dialog 2 1) true),
    (clock, .addTile (dialog 3 2) false), (clock, .addTile (tile 4) true),
    (clock, .activateWindow 1), (clock, .interactiveResizeBegin 2 ⟨false, true, false, true⟩),
    (clock, .parentChanged 4 fun w => { w with parent := some 3 }),
    (clock, .updateConfig ⟨1280, 720⟩ ⟨⟨0, 40⟩, ⟨1280, 680⟩⟩ 1 options)]

namespace FloatingSpace

/-- The dialogs are above their parents, and the raised window is below them all. -/
theorem reachable_verified_dialogs : ∃ s : FloatingSpace Sample.Toplevel ℕ, Verified s ∧
    s.windowIds = [4, 3, 2, 1] ∧ s.activeWindowId = some 1 := by
  obtain ⟨s, hs, hp⟩ := exists_reachable id Sample.dialogs
    (p := fun s => decide (s.windowIds = [4, 3, 2, 1] ∧ s.activeWindowId = some 1))
    (show (machine Sample.Toplevel ℕ).initial Sample.desktop from
      ⟨_, _, _, _, by decide, rfl⟩) (by decide +kernel)
  exact ⟨s, reachable_verified hs, of_decide_eq_true hp⟩

end FloatingSpace

end Sol
