import Sol.Spaces

/-!
# Commands of a workspace

What a workspace can be told without adding or removing a window: the commands
to its focused space, and the commands about one of its windows, which also move
it between the spaces.  Every command but the unfinished ones returns, and it
rearranges the workspace.
-/

namespace Sol

open Panicking

namespace Workspace

variable {W Id : Type}

theorem alwaysDone_spec {f : FloatingSpace W Id → Outcome (FloatingSpace W Id)}
    {floating : FloatingSpace W Id} {P : FloatingSpace W Id → Prop} (h : Returns (f floating) P) :
    Returns (alwaysDone f floating) fun r => P r.1 := by
  unfold alwaysDone
  simpa only [returns_bind, returns_pure] using h

theorem silently_spec {σ : Type} {f : σ → Outcome (σ × Bool)} {s : σ} {P : σ → Prop}
    (h : Returns (f s) fun r => P r.1) : Returns (silently f s) P := by
  unfold silently
  simpa only [returns_bind, returns_pure] using h

variable [LayoutElement W Id] {s t : Workspace W Id}

/-! ### Focus between the spaces -/

theorem orElse_rearranged {first : Workspace W Id → Outcome (Workspace W Id × Bool)}
    {second : Workspace W Id → Outcome (Workspace W Id)}
    (hfirst : Returns (first s) fun r => Rearranged s r.1)
    (hsecond : ∀ t, t.WellFormed → Returns (second t) fun u => Rearranged t u) :
    Returns (s.orElse first second) fun t => Rearranged s t := by
  unfold orElse
  rw [returns_bind]
  refine hfirst.mono fun r hr => ?_
  rw [returns_ite]
  exact ⟨fun _ => returns_pure.mpr hr,
    fun _ => (hsecond r.1 hr.wellFormed).mono fun t ht => hr.trans ht⟩

theorem switchFocusFloatingTiling_rearranged (h : s.WellFormed) :
    Rearranged s s.switchFocusFloatingTiling := by
  unfold switchFocusFloatingTiling
  split_ifs with hfloating hscrolling hactive
  · exact h.rearranged_refl
  · exact h.rearranged_refl
  · have hcols : s.scrolling.columns ≠ [] := fun hnil =>
      hscrolling (ScrollingSpace.isEmpty_iff.mpr hnil)
    exact ⟨⟨h.scrolling, h.floating, by simp, fun hnil _ => absurd hnil hcols, h.basePresets,
      h.presets⟩, .refl _, rfl, rfl, fun o => o⟩
  · have htiles : s.floating.tiles ≠ [] := by simpa [FloatingSpace.isEmpty] using hfloating
    exact ⟨⟨h.scrolling, h.floating, fun _ => htiles, fun _ _ => rfl, h.basePresets, h.presets⟩,
      .refl _, rfl, rfl, fun o => o⟩

theorem focusFloating_rearranged (h : s.WellFormed) : Rearranged s s.focusFloating := by
  unfold focusFloating
  split_ifs
  · exact switchFocusFloatingTiling_rearranged h
  · exact h.rearranged_refl

theorem focusTiling_rearranged (h : s.WellFormed) : Rearranged s s.focusTiling := by
  unfold focusTiling
  split_ifs
  · exact switchFocusFloatingTiling_rearranged h
  · exact h.rearranged_refl

theorem focusColumn_rearranged (h : s.WellFormed) (index : ℕ) :
    Rearranged s (s.focusColumn index) := by
  have ht := focusTiling_rearranged h
  exact ht.trans (ht.wellFormed.rearranged_scrolling
    (ScrollingSpace.focusColumn_rearranged ht.wellFormed.scrolling index))

/-- The space with an activated window is not empty, and may become the active one. -/
theorem WellFormed.rearranged_active (h : s.WellFormed) {scrolling : ScrollingSpace W}
    {floating : FloatingSpace W Id} {active : FloatingActive}
    (hs : s.scrolling.Rearranged scrolling) (hf : s.floating.Rearranged floating)
    (hyes : active = .yes → floating.tiles ≠ [])
    (hempty : active ≠ .yes → scrolling.columns ≠ []) :
    Rearranged s { s with scrolling, floating, floatingIsActive := active } := by
  refine ⟨⟨hs.wellFormed, hf.wellFormed, hyes, ?_, h.basePresets, h.presets⟩, ?_, rfl, rfl, fun o => o⟩
  · intro hnil _
    by_contra hne
    exact hempty hne hnil
  · rw [windowIds_eq, windowIds_eq]
    exact hs.perm.append hf.perm

theorem tiles_ne_nil {floating : FloatingSpace W Id} {id : Id} (h : id ∈ floating.windowIds) :
    floating.tiles ≠ [] := by
  intro hnil
  simp [FloatingSpace.windowIds, hnil] at h

theorem columns_ne_nil {scrolling : ScrollingSpace W} {id : Id} (h : id ∈ scrolling.windowIds) :
    scrolling.columns ≠ [] := by
  intro hnil
  simp [ScrollingSpace.windowIds, hnil] at h

variable [DecidableEq Id]

/-! ### Operations of one space -/

theorem targetsFloating_mem {window : Option Id} (h : s.targetsFloating window = true) :
    ∀ w ∈ window, w ∈ s.floating.windowIds := by
  rintro w ⟨⟩
  exact FloatingSpace.hasWindow_iff.mp h

theorem onSpaceOf_rearranged (h : s.WellFormed) (window : Option Id)
    {f : FloatingSpace W Id → Outcome (FloatingSpace W Id)}
    {g : ScrollingSpace W → Outcome (ScrollingSpace W)}
    (hf : s.targetsFloating window = true → Returns (f s.floating) s.floating.Rearranged)
    (hg : s.targetsFloating window = false → Returns (g s.scrolling) s.scrolling.Rearranged) :
    Returns (s.onSpaceOf window f g) fun t => Rearranged s t := by
  unfold onSpaceOf
  simp only [returns_ite, returns_bind, returns_pure]
  constructor
  · exact fun hw => (hf hw).mono fun floating => h.rearranged_floating
  · exact fun hw => (hg (Bool.not_eq_true _ ▸ hw)).mono fun scrolling => h.rearranged_scrolling

theorem trySpaceOf_rearranged (h : s.WellFormed) (window : Option Id)
    {f : FloatingSpace W Id → Outcome (FloatingSpace W Id × Bool)}
    {g : ScrollingSpace W → Outcome (ScrollingSpace W × Bool)}
    (hf : s.targetsFloating window = true →
      Returns (f s.floating) fun r => s.floating.Rearranged r.1)
    (hg : s.targetsFloating window = false →
      Returns (g s.scrolling) fun r => s.scrolling.Rearranged r.1) :
    Returns (s.trySpaceOf window f g) fun r => Rearranged s r.1 := by
  unfold trySpaceOf
  simp only [returns_ite, returns_bind, returns_pure]
  constructor
  · exact fun hw => (hf hw).mono fun r => h.rearranged_floating
  · exact fun hw => (hg (Bool.not_eq_true _ ▸ hw)).mono fun r => h.rearranged_scrolling

/-! ### Activation -/

theorem mem_of_activateWindow {scrolling : ScrollingSpace W} {window : Id}
    (h : (scrolling.activateWindow window).2 = true) : window ∈ scrolling.windowIds := by
  unfold ScrollingSpace.activateWindow at h
  cases hp : scrolling.position window with
  | none => simp [hp] at h
  | some i =>
    obtain ⟨hlt, hcol, -⟩ := List.findIdx?_eq_some_iff_getElem.mp hp
    exact List.mem_map.mpr ⟨scrolling.columns[i], List.getElem_mem hlt, by simpa using hcol⟩

/-- Activation by id; it succeeds on the windows of the workspace. -/
theorem activateWindow_rearranged (h : s.WellFormed) (window : Id) :
    Returns (s.activateWindow window) fun r => Rearranged s r.1 := by
  unfold activateWindow
  rw [returns_bind]
  refine (FloatingSpace.activateWindow_spec h.floating window).mono fun r hr => ?_
  obtain ⟨hre, hmem, -⟩ := hr
  have hscroll := ScrollingSpace.activateWindow_rearranged h.scrolling window
  simp only [returns_ite, returns_pure]
  refine ⟨fun hr2 => ?_, fun hr2 => ⟨fun hs2 => ?_, fun _ => ?_⟩⟩
  · have hw := hre.perm.mem_iff.mpr (hmem.mp hr2)
    exact h.rearranged_active h.scrolling.rearranged_refl hre (fun _ => tiles_ne_nil hw)
      (by simp)
  · have hw := hscroll.perm.mem_iff.mpr (mem_of_activateWindow hs2)
    exact h.rearranged_active hscroll hre (by simp) fun _ => columns_ne_nil hw
  · exact h.rearranged hscroll hre rfl h.basePresets h.presets rfl rfl fun o => o

theorem activateWindowWithoutRaising_rearranged (h : s.WellFormed) (window : Id) :
    Rearranged s (s.activateWindowWithoutRaising window).1 := by
  have hfloat := FloatingSpace.activateWindowWithoutRaising_rearranged h.floating window
  have hscroll := ScrollingSpace.activateWindow_rearranged h.scrolling window
  unfold activateWindowWithoutRaising
  simp only
  split_ifs with hf hs
  · have hw : window ∈ s.floating.windowIds := by
      unfold FloatingSpace.activateWindowWithoutRaising at hf
      split_ifs at hf with hc
      obtain ⟨i, hi⟩ := Option.isSome_iff_exists.mp hc
      exact FloatingSpace.mem_of_idxOf hi
    exact h.rearranged_active h.scrolling.rearranged_refl hfloat
      (fun _ => tiles_ne_nil (hfloat.perm.mem_iff.mpr hw)) (by simp)
  · have hw := hscroll.perm.mem_iff.mpr (mem_of_activateWindow hs)
    refine h.rearranged_active hscroll hfloat ?_ fun _ => columns_ne_nil hw
    intro hyes
    cases hactive : s.floatingIsActive <;> simp [hactive] at hyes
  · exact h.rearranged hscroll hfloat rfl h.basePresets h.presets rfl rfl fun o => o

/-! ### Floating and tiling a window -/

theorem modifyTile_rearranged (h : s.WellFormed) (window : Id) {f : Tile W → Tile W}
    (hf : ∀ tile, (f tile).windowId = tile.windowId) :
    Rearranged s (s.modifyTile window f) ∧
      (s.modifyTile window f).scrolling.windowIds = s.scrolling.windowIds := by
  unfold modifyTile
  cases hidx : s.floating.idxOf window with
  | some i =>
    have hids := Vec.map_modify_eq (g := Tile.windowId) hf i s.floating.tiles
    exact ⟨h.rearranged_floating (h.floating.retouch hids rfl h.floating.hasPresets), rfl⟩
  | none =>
    have hslots := ScrollingSpace.slots_modifyColumnById s.scrolling
      (f := fun col => { col with tile := f col.tile }) (fun col => hf col.tile) window
    exact ⟨h.rearranged_scrolling ((h.scrolling.moved_of_slots hslots.symm).toRearranged),
      ScrollingSpace.windowIds_congr hslots⟩

/-- A floating window that is tiled stays in the workspace. When it does not
take the focus along, another floating window has it. -/
theorem unfloat_spec (h : s.WellFormed) {id : Id} (hid : id ∈ s.floating.windowIds)
    {targetIsActive : Bool} (hactive : targetIsActive = false → s.activeId ≠ some id) :
    Returns (s.unfloat id targetIsActive) fun t =>
      Rearranged s t ∧ id ∈ t.scrolling.windowIds := by
  unfold unfloat
  simp only [returns_bind, returns_pure]
  refine (FloatingSpace.removeTile_spec h.floating hid).mono fun r hr => ?_
  obtain ⟨hwf, hrow⟩ := ScrollingSpace.addColumn_spec h.scrolling (Column.newWithTile r.1.tile
    s.scrolling.viewSize s.scrolling.workingArea s.scrolling.parentArea s.scrolling.scale r.1.width
    r.1.isFullWidth) targetIsActive
  have hids := congrArg FocusList.items hrow
  change ScrollingSpace.windowIds _ = s.scrolling.windowIds ++ [_] at hids
  rw [Column.windowId_newWithTile, hr.windowId_eq] at hids
  have hmem : id ∈ (s.scrolling.addTile r.1.tile targetIsActive r.1.width
      r.1.isFullWidth).windowIds := by
    change id ∈ ScrollingSpace.windowIds (ScrollingSpace.addColumn _ _ _)
    simp [hids]
  refine ⟨⟨⟨hwf, hr.wellFormed, ?_, ?_, h.basePresets, h.presets⟩, ?_, rfl, rfl, fun o => o⟩, hmem⟩
  · intro hyes
    cases htarget : targetIsActive with
    | true => simp [addTiled, htarget] at hyes
    | false =>
      have hyes' : s.floatingIsActive = .yes := by simpa [addTiled, htarget] using hyes
      have hne := hactive htarget
      rw [activeId_of_floating h hyes'] at hne
      obtain ⟨w, hw⟩ := Option.ne_none_iff_exists'.mp
        (mt h.floating.active_eq_none.mp (tiles_ne_nil hid))
      rcases List.mem_cons.mp (hr.perm.mem_iff.mp (h.floating.active_mem w hw)) with heq | hrest
      · exact absurd (heq ▸ hw) hne
      · exact tiles_ne_nil hrest
  · intro hnil
    exact absurd hnil (columns_ne_nil hmem)
  · rw [windowIds_eq, windowIds_eq]
    change (ScrollingSpace.windowIds (ScrollingSpace.addColumn _ _ _) ++ _).Perm _
    rw [hids, List.append_assoc]
    exact (hr.perm.symm).append_left _

/-- A tiled window that floats stays in the workspace. When it does not take the
focus along, another window keeps it. -/
theorem float_spec (h : s.WellFormed) (clock : Clock) {id : Id} (hid : id ∈ s.scrolling.windowIds)
    {targetIsActive : Bool} (hactive : targetIsActive = false → s.activeId ≠ some id)
    (renderPos : Point) :
    Returns (s.float clock id targetIsActive renderPos) fun t => Rearranged s t := by
  unfold float
  simp only [returns_bind, returns_pure]
  refine (removeTiled_spec h clock hid).mono fun r hr => ?_
  obtain ⟨hwindow, hwf, hperm⟩ := hr
  refine (FloatingSpace.addTile_spec h.floating _ targetIsActive).mono fun floating hf => ?_
  have hfids : floating.windowIds.Perm (id :: s.floating.windowIds) := by
    rw [← hwindow]
    exact hf.perm
  have hne : floating.tiles ≠ [] := tiles_ne_nil (hfids.mem_iff.mpr List.mem_cons_self)
  refine ⟨⟨hwf, hf.wellFormed, fun _ => hne, ?_, h.basePresets, h.presets⟩, ?_, rfl, rfl, fun o => o⟩
  · intro hnil _
    cases htarget : targetIsActive with
    | true => simp
    | false =>
      by_contra hno
      have hno' : s.floatingIsActive ≠ .yes := by simpa using hno
      have hlast : s.scrolling.windowIds.Perm [id] := by
        have hempty := ScrollingSpace.windowIds_eq_nil.mpr hnil
        rw [hempty] at hperm
        exact hperm
      obtain ⟨w, hw, hactive'⟩ := h.scrolling.activeId_isSome (columns_ne_nil hid)
      rw [hlast.mem_iff, List.mem_singleton] at hw
      exact hactive htarget (by rw [activeId_of_tiling hno', hactive', hw])
  · rw [windowIds_eq, windowIds_eq]
    calc
      List.Perm (r.2.windowIds ++ floating.windowIds) (r.2.windowIds ++ (id :: s.floating.windowIds)) := hfids.append_left _
      List.Perm _ (id :: r.2.windowIds ++ s.floating.windowIds) := List.perm_middle
      List.Perm _ (s.scrolling.windowIds ++ s.floating.windowIds) := hperm.symm.append_right _

theorem changeSpace_spec (h : s.WellFormed) (clock : Clock) {id : Id} (hid : id ∈ s.windowIds)
    {targetIsActive : Bool} (hactive : targetIsActive = false → s.activeId ≠ some id)
    (renderPos : Point) :
    Returns (s.changeSpace clock id targetIsActive renderPos) fun t =>
      Rearranged s t ∧ (id ∈ s.floating.windowIds → id ∈ t.scrolling.windowIds) := by
  unfold changeSpace
  rw [returns_ite]
  constructor
  · intro hf
    exact (unfloat_spec h (FloatingSpace.hasWindow_iff.mp hf) hactive).mono
      fun t ht => ⟨ht.1, fun _ => ht.2⟩
  · intro hf
    exact (float_spec h clock (mem_scrolling hid hf) hactive renderPos).mono
      fun t ht => ⟨ht, fun hmem => absurd (FloatingSpace.hasWindow_iff.mpr hmem) hf⟩

/-- A toggled window stays in the workspace; one that was floating is tiled. -/
theorem toggleWindowFloating_spec (h : s.WellFormed) (clock : Clock) {id : Option Id}
    (hid : ∀ w ∈ id, w ∈ s.windowIds) :
    Returns (s.toggleWindowFloating clock id) fun t => Rearranged s t ∧
      ∀ w ∈ id, w ∈ s.floating.windowIds → w ∈ t.scrolling.windowIds := by
  unfold toggleWindowFloating
  simp only
  cases htarget : id.or (s.activeWindow.map LayoutElement.id) with
  | none =>
    have hnone : id = none := (Option.or_eq_none_iff.mp htarget).1
    exact returns_pure.mpr ⟨h.rearranged_refl, by simp [hnone]⟩
  | some w =>
    have hw : w ∈ s.windowIds := by
      cases id with
      | none => exact activeId_mem h htarget
      | some w' => exact hid w (by simpa using htarget)
    have hactive : (id.all fun id => decide (some id = s.activeWindow.map LayoutElement.id)) =
        false → s.activeId ≠ some w := by
      intro hall heq
      cases id with
      | none => simp at hall
      | some w' =>
        obtain rfl : w' = w := by simpa using htarget
        simp only [Option.all_some, decide_eq_false_iff_not] at hall
        exact hall heq.symm
    obtain ⟨pos, hpos⟩ := renderPosOf_isSome h clock hw
    simp only [returns_bind, returns_unwrap, returns_pure]
    refine ⟨pos, hpos, (changeSpace_spec h clock hw hactive pos).mono fun t ht => ?_⟩
    obtain ⟨pos', hpos'⟩ := unroundedPosOf_isSome ht.1.wellFormed clock
      (ht.1.perm.mem_iff.mpr hw)
    obtain ⟨hre, hids⟩ := modifyTile_rearranged ht.1.wellFormed w
      (f := fun tile => tile.animateMoveFrom clock (pos - pos'))
      fun tile => Tile.windowId_animateMoveFrom tile clock _
    refine ⟨pos', hpos', ht.1.trans hre, ?_⟩
    rintro w' ⟨⟩ hfloat
    obtain rfl : w' = w := by simpa using htarget
    rw [hids]
    exact ht.2 hfloat

theorem setWindowFloating_rearranged (h : s.WellFormed) (clock : Clock) {id : Option Id}
    (hid : ∀ w ∈ id, w ∈ s.windowIds) (floating : Bool) :
    Returns (s.setWindowFloating clock id floating) fun t => Rearranged s t := by
  unfold setWindowFloating
  rw [returns_ite]
  exact ⟨fun _ => returns_pure.mpr h.rearranged_refl,
    fun _ => (toggleWindowFloating_spec h clock hid).mono fun t ht => ht.1⟩

/-! ### Takeovers -/

theorem find?_tiled {scrolling : ScrollingSpace W} {id : Id} (h : id ∈ scrolling.windowIds) :
    ∃ tile, (scrolling.tiles.find? fun tile => tile.windowId = id) = some tile := by
  obtain ⟨col, hcol, hid⟩ := List.mem_map.mp h
  refine Option.isSome_iff_exists.mp ?_
  rw [List.find?_isSome]
  exact ⟨col.tile, List.mem_map_of_mem hcol, decide_eq_true hid⟩

/-- Setting the takeover of a tiled window rearranges nothing else. -/
theorem takeOver_rearranged (h : s.WellFormed) {window : Id} (hw : window ∈ s.scrolling.windowIds)
    (restoreToFloating : Bool) {set : ScrollingSpace W → Outcome (ScrollingSpace W × Bool)}
    (hset : Returns (set s.scrolling) fun r => s.scrolling.Rearranged r.1) :
    Returns (s.takeOver window restoreToFloating set) fun t => Rearranged s t := by
  obtain ⟨tile, htile⟩ := find?_tiled hw
  unfold takeOver
  simp only [returns_bind, returns_unwrap, returns_ite, returns_pure]
  refine ⟨tile, htile, hset.mono fun r hr => ?_⟩
  obtain ⟨tile', htile'⟩ := find?_tiled (hr.perm.mem_iff.mpr hw)
  refine ⟨tile', htile', fun _ => ?_, fun _ => h.rearranged_scrolling hr⟩
  exact h.rearranged_scrolling (hr.congr (ScrollingSpace.slots_modifyColumnById r.1
    (f := fun col => { col with tile := { col.tile with restoreToFloating } })
    (fun col => rfl) window).symm)

/-- A floating window is tiled before it takes over. -/
theorem toggle_takeOver_rearranged (h : s.WellFormed) (clock : Clock) {window : Id}
    (hw : window ∈ s.floating.windowIds) {set : ScrollingSpace W → Outcome (ScrollingSpace W × Bool)}
    (hset : ∀ a : ScrollingSpace W, a.WellFormed → Returns (set a) fun r => a.Rearranged r.1) :
    Returns (s.toggleWindowFloating clock (some window) >>= fun t => t.takeOver window true set)
      fun t => Rearranged s t := by
  have hmem : ∀ w ∈ some window, w ∈ s.windowIds := by
    rintro w ⟨⟩
    exact mem_windowIds.mpr (.inr hw)
  rw [returns_bind]
  refine (toggleWindowFloating_spec h clock hmem).mono fun t ht => ?_
  exact (takeOver_rearranged ht.1.wellFormed (ht.2 window rfl hw) true
    (hset _ ht.1.wellFormed.scrolling)).mono fun u hu => ht.1.trans hu

theorem setFullscreen_rearranged (h : s.WellFormed) (clock : Clock) {window : Id}
    (hw : window ∈ s.windowIds) (isFullscreen : Bool) :
    Returns (s.setFullscreen clock window isFullscreen) fun t => Rearranged s t := by
  have hset : ∀ a : ScrollingSpace W, a.WellFormed →
      Returns (a.setFullscreen window isFullscreen) fun r => a.Rearranged r.1 :=
    fun a ha => (ScrollingSpace.setFullscreen_moved ha window isFullscreen).mono
      fun _ hr => hr.toRearranged
  have hmem : ∀ w ∈ some window, w ∈ s.windowIds := by
    rintro w ⟨⟩
    exact hw
  unfold setFullscreen
  simp only
  split_ifs with hf hfull hfull
  · exact toggle_takeOver_rearranged h clock (FloatingSpace.hasWindow_iff.mp hf) hset
  · exact returns_pure.mpr h.rearranged_refl
  · exact takeOver_rearranged h (mem_scrolling hw hf) false (hset _ h.scrolling)
  · obtain ⟨col, hcol, hid⟩ := List.mem_map.mp (mem_scrolling hw hf)
    have hsome : (s.scrolling.columns.find? fun col => decide (col.windowId = window)).isSome := by
      rw [List.find?_isSome]
      exact ⟨col, hcol, by simpa using hid⟩
    obtain ⟨found, hfound⟩ := Option.isSome_iff_exists.mp hsome
    simp only [returns_bind, returns_unwrap, returns_ite]
    exact ⟨found, hfound,
      fun _ => (toggleWindowFloating_spec h clock hmem).mono fun t ht => ht.1,
      fun _ => takeOver_rearranged h (mem_scrolling hw hf) false (hset _ h.scrolling)⟩

theorem setMaximized_rearranged (h : s.WellFormed) (clock : Clock) {window : Id}
    (hw : window ∈ s.windowIds) (maximize : Bool) :
    Returns (s.setMaximized clock window maximize) fun t => Rearranged s t := by
  have hset : ∀ a : ScrollingSpace W, a.WellFormed →
      Returns (a.setMaximized window maximize) fun r => a.Rearranged r.1 :=
    fun a ha => (ScrollingSpace.setMaximized_moved ha window maximize).mono
      fun _ hr => hr.toRearranged
  have hmem : ∀ w ∈ some window, w ∈ s.windowIds := by
    rintro w ⟨⟩
    exact hw
  unfold setMaximized
  simp only
  split_ifs with hf hmax hmax
  · exact toggle_takeOver_rearranged h clock (FloatingSpace.hasWindow_iff.mp hf) hset
  · exact returns_pure.mpr h.rearranged_refl
  · exact takeOver_rearranged h (mem_scrolling hw hf) false (hset _ h.scrolling)
  · obtain ⟨tile, htile⟩ := find?_tiled (mem_scrolling hw hf)
    simp only [returns_bind, returns_unwrap, returns_ite]
    exact ⟨tile, htile,
      fun _ => (toggleWindowFloating_spec h clock hmem).mono fun t ht => ht.1,
      fun _ => takeOver_rearranged h (mem_scrolling hw hf) false (hset _ h.scrolling)⟩

theorem toggleFullscreen_rearranged (h : s.WellFormed) (clock : Clock) {window : Id}
    (hw : window ∈ s.windowIds) :
    Returns (s.toggleFullscreen clock window) fun t => Rearranged s t := by
  obtain ⟨tile, htile, hid⟩ := List.mem_map.mp hw
  have hsome : (s.tiles.find? fun tile => decide (tile.windowId = window)).isSome := by
    rw [List.find?_isSome]
    exact ⟨tile, htile, by simpa using hid⟩
  obtain ⟨found, hfound⟩ := Option.isSome_iff_exists.mp hsome
  unfold toggleFullscreen
  simp only [returns_bind, returns_unwrap]
  exact ⟨found, hfound, setFullscreen_rearranged h clock hw _⟩

theorem moveFloatingWindow_rearranged (h : s.WellFormed) (clock : Clock) {id : Option Id}
    (hid : ∀ w ∈ id, w ∈ s.windowIds) (x y : PositionChange) (animate : Bool) :
    Returns (s.moveFloatingWindow clock id x y animate) fun t => Rearranged s t := by
  have htarget : s.targetsFloating id = false → Returns (s.tiledTarget id) fun _ => True := by
    intro hf
    unfold tiledTarget
    cases id with
    | none => simp
    | some w =>
      have hnot : ¬s.floating.hasWindow w = true := by
        simpa [targetsFloating] using hf
      obtain ⟨tile, htile⟩ := find?_tiled (mem_scrolling (hid w rfl) hnot)
      simp only [returns_bind, returns_unwrap, returns_pure]
      exact ⟨tile, htile, trivial⟩
  unfold moveFloatingWindow
  rw [returns_ite]
  constructor
  · intro hf
    simp only [returns_bind, returns_pure]
    exact (FloatingSpace.moveWindow_rearranged h.floating clock (targetsFloating_mem hf) x y
      animate).mono fun floating => h.rearranged_floating
  · intro hf
    rw [returns_bind]
    refine (htarget (Bool.not_eq_true _ ▸ hf)).mono fun tile _ => ?_
    cases tile with
    | none => exact returns_pure.mpr h.rearranged_refl
    | some tile =>
      simp only
      cases (s.floating.storedOrDefaultTilePos tile).or _ with
      | none => exact returns_pure.mpr h.rearranged_refl
      | some pos =>
        refine returns_pure.mpr (h.rearranged_scrolling (h.scrolling.moved_of_slots ?_).toRearranged)
        refine (ScrollingSpace.slots_modifyColumnById s.scrolling ?_ _).symm
        exact fun col => rfl

/-! ### Updates of windows -/

theorem descendantsAdded_rearranged (h : s.WellFormed) (id : Id) :
    Returns (s.descendantsAdded id) fun r => Rearranged s r.1 := by
  unfold descendantsAdded
  simp only [returns_bind, returns_pure]
  exact (FloatingSpace.descendantsAdded_rearranged h.floating id).mono
    fun r => h.rearranged_floating

theorem updateWindow_rearranged (h : s.WellFormed) (window : Id) (serial : Option ℕ) :
    Returns (s.updateWindow window serial) fun t => Rearranged s t := by
  unfold updateWindow
  rw [returns_bind]
  refine (FloatingSpace.updateWindow_rearranged h.floating window serial).mono fun r hr => ?_
  rw [returns_ite]
  refine ⟨fun _ => returns_pure.mpr (h.rearranged_floating hr.1), fun _ => returns_pure.mpr ?_⟩
  exact h.rearranged (ScrollingSpace.updateWindow_moved h.scrolling window serial).toRearranged hr.1 rfl
    h.basePresets h.presets rfl rfl fun o => o

theorem refresh_rearranged (h : s.WellFormed) (isActive isFocused : Bool) :
    Rearranged s (s.refresh isActive isFocused) :=
  h.rearranged (ScrollingSpace.refresh_moved h.scrolling _ _).toRearranged
    (FloatingSpace.refresh_rearranged h.floating _ _) rfl h.basePresets h.presets rfl rfl fun o => o

theorem interactiveResizeEnd_rearranged (h : s.WellFormed) (window : Option Id) :
    Rearranged s (s.interactiveResizeEnd window) := by
  unfold interactiveResizeEnd
  cases window with
  | none =>
    exact h.rearranged_floating (FloatingSpace.interactiveResizeEnd_rearranged h.floating none)
  | some w =>
    simp only
    split_ifs
    · exact h.rearranged_floating (FloatingSpace.interactiveResizeEnd_rearranged h.floating _)
    · exact h.rearranged_refl

theorem interactiveResizeBegin_rearranged (h : s.WellFormed) (window : Id) (edges : ResizeEdge) :
    Returns (s.interactiveResizeBegin window edges) fun r => Rearranged s r.1 :=
  trySpaceOf_rearranged h (some window)
    (fun hf => FloatingSpace.interactiveResizeBegin_rearranged h.floating
      (targetsFloating_mem hf window rfl) edges)
    fun _ => returns_pure.mpr h.scrolling.rearranged_refl

theorem interactiveResizeUpdate_rearranged (h : s.WellFormed) (window : Id) (delta : Point) :
    Returns (s.interactiveResizeUpdate window delta) fun r => Rearranged s r.1 :=
  trySpaceOf_rearranged h (some window)
    (fun _ => FloatingSpace.interactiveResizeUpdate_rearranged h.floating window delta)
    fun _ => returns_pure.mpr h.scrolling.rearranged_refl

theorem toggleMaximized_rearranged (h : s.WellFormed) (clock : Clock) {window : Id}
    (hw : window ∈ s.windowIds) :
    Returns (s.toggleMaximized clock window) fun t => Rearranged s t :=
  setMaximized_rearranged h clock hw _

/-! ### Steps of the focused space -/

/-- A step of the focus in its space. -/
theorem trySpaceOf_focus (h : s.WellFormed) (distance : Point → Point → ℚ)
    {g : ScrollingSpace W → ScrollingSpace W × Bool}
    (hg : s.scrolling.Rearranged (g s.scrolling).1) :
    Returns (s.trySpaceOf none (·.focusDirectional distance) fun a => pure (g a))
      fun r => Rearranged s r.1 :=
  trySpaceOf_rearranged h none
    (fun _ => FloatingSpace.focusDirectional_rearranged h.floating distance)
    fun _ => returns_pure.mpr hg

theorem focusTowards_rearranged (h : s.WellFormed) (direction : Direction) :
    Returns (s.focusTowards direction) fun r => Rearranged s r.1 := by
  cases direction
  case left =>
    exact trySpaceOf_focus h _ (g := (·.focusLeft)) (ScrollingSpace.focusLeft_rearranged h.scrolling)
  case right =>
    exact trySpaceOf_focus h _ (g := (·.focusRight))
      (ScrollingSpace.focusRight_rearranged h.scrolling)
  case up =>
    exact trySpaceOf_focus h _ (g := (·.focusUp)) (ScrollingSpace.focusUp_rearranged h.scrolling)
  case down =>
    exact trySpaceOf_focus h _ (g := (·.focusDown))
      (ScrollingSpace.focusDown_rearranged h.scrolling)

/-- A move of the active window in its space. -/
theorem trySpaceOf_move (h : s.WellFormed) (clock : Clock) (amount : Point)
    {m : ScrollingSpace W → Outcome (ScrollingSpace W × Bool)}
    (hm : Returns (m s.scrolling) fun r => s.scrolling.Moved r.1) :
    Returns (s.trySpaceOf none (alwaysDone (·.moveBy clock amount)) m) fun r => Rearranged s r.1 :=
  trySpaceOf_rearranged h none
    (fun _ => alwaysDone_spec (FloatingSpace.moveBy_rearranged h.floating clock amount))
    fun _ => hm.mono fun _ hr => hr.toRearranged

theorem moveTowards_rearranged (h : s.WellFormed) (clock : Clock) (direction : Direction) :
    Returns (s.moveTowards clock direction) fun r => Rearranged s r.1 := by
  cases direction
  case left =>
    exact trySpaceOf_move h clock _ (m := (·.moveLeft)) (ScrollingSpace.moveLeft_moved h.scrolling)
  case right =>
    exact trySpaceOf_move h clock _ (m := (·.moveRight)) (ScrollingSpace.moveRight_moved h.scrolling)
  case up =>
    exact trySpaceOf_move h clock _ (m := (·.moveUp)) (ScrollingSpace.moveUp_moved h.scrolling)
  case down =>
    exact trySpaceOf_move h clock _ (m := (·.moveDown)) (ScrollingSpace.moveDown_moved h.scrolling)

/-- The same with springs. -/
theorem moveTowardsAnimated_rearranged (h : s.WellFormed) (clock : Clock) (direction : Direction) :
    Returns (s.moveTowardsAnimated clock direction) fun r => Rearranged s r.1 := by
  cases direction
  case left =>
    exact trySpaceOf_move h clock _ (m := (·.moveLeftAnimated clock))
      (ScrollingSpace.swapWithSpring_moved clock (ScrollingSpace.moveLeft_moved h.scrolling))
  case right =>
    exact trySpaceOf_move h clock _ (m := (·.moveRightAnimated clock))
      (ScrollingSpace.swapWithSpring_moved clock (ScrollingSpace.moveRight_moved h.scrolling))
  case up =>
    exact trySpaceOf_move h clock _ (m := (·.moveUpAnimated clock))
      (ScrollingSpace.swapWithSpring_moved clock (ScrollingSpace.moveUp_moved h.scrolling))
  case down =>
    exact trySpaceOf_move h clock _ (m := (·.moveDownAnimated clock))
      (ScrollingSpace.swapWithSpring_moved clock (ScrollingSpace.moveDown_moved h.scrolling))

/-- Focus on one end of the focused space. -/
theorem onSpaceOf_focus (h : s.WellFormed)
    {f : FloatingSpace W Id → Outcome (FloatingSpace W Id)} {g : ScrollingSpace W → ScrollingSpace W}
    (hf : Returns (f s.floating) s.floating.Rearranged) (hg : s.scrolling.Rearranged (g s.scrolling)) :
    Returns (s.onSpaceOf none f fun a => pure (g a)) fun t => Rearranged s t :=
  onSpaceOf_rearranged h none (fun _ => hf) fun _ => returns_pure.mpr hg

/-- A resize or a move of a floating window. -/
theorem onSpaceOf_floating (h : s.WellFormed) (window : Option Id)
    {f : FloatingSpace W Id → Outcome (FloatingSpace W Id)}
    (hf : (∀ w ∈ window, w ∈ s.floating.windowIds) → Returns (f s.floating) s.floating.Rearranged) :
    Returns (s.onSpaceOf window f pure) fun t => Rearranged s t :=
  onSpaceOf_rearranged h window (fun hw => hf (targetsFloating_mem hw))
    fun _ => returns_pure.mpr h.scrolling.rearranged_refl

/-! ### Commands -/

/-- What the tiling space has not implemented panics there, and does nothing in
the floating space. -/
theorem unfinished_rearranged (h : s.WellFormed) (window : Option Id) {e : Panic} :
    Guarded (¬(!s.targetsFloating window) = true) (s.onSpaceOf window pure fun _ => throw e)
      fun t => Rearranged s t := by
  unfold onSpaceOf
  simp only [guarded_ite, guarded_bind, guarded_pure, guarded_throw]
  exact ⟨fun _ => h.rearranged_refl, fun hw => by simpa using hw⟩

theorem runCommand_rearranged (h : s.WellFormed) (clock : Clock) (cmd : Command) :
    Guarded (¬cmd.isUnfinished s = true) (s.runCommand clock cmd) fun t => Rearranged s t := by
  have hfirst : ∀ t : Workspace W Id, t.WellFormed →
      Returns t.focusColumnFirst fun u => Rearranged t u :=
    fun t ht => onSpaceOf_focus ht (FloatingSpace.focusLeast_rearranged ht.floating _)
      (ScrollingSpace.focusColumnFirst_rearranged ht.scrolling)
  have hlast : ∀ t : Workspace W Id, t.WellFormed →
      Returns t.focusColumnLast fun u => Rearranged t u :=
    fun t ht => onSpaceOf_focus ht (FloatingSpace.focusGreatest_rearranged ht.floating _)
      (ScrollingSpace.focusColumnLast_rearranged ht.scrolling)
  have htop : ∀ t : Workspace W Id, t.WellFormed →
      Returns t.focusWindowTop fun u => Rearranged t u :=
    fun t ht => onSpaceOf_focus ht (FloatingSpace.focusLeast_rearranged ht.floating _)
      (ScrollingSpace.focusTop_rearranged ht.scrolling)
  have hbottom : ∀ t : Workspace W Id, t.WellFormed →
      Returns t.focusWindowBottom fun u => Rearranged t u :=
    fun t ht => onSpaceOf_focus ht (FloatingSpace.focusGreatest_rearranged ht.floating _)
      (ScrollingSpace.focusBottom_rearranged ht.scrolling)
  have hdirection : ∀ distance, Returns (silently (·.focusDirectional distance) s.floating)
      s.floating.Rearranged :=
    fun distance => silently_spec (FloatingSpace.focusDirectional_rearranged h.floating distance)
  cases cmd
  -- the two commands that the tiling space lacks
  case consumeIntoColumn => exact unfinished_rearranged h none
  case expelFromColumn => exact unfinished_rearranged h none
  all_goals refine Returns.guarded ?_
  case focus direction =>
    exact silently_spec (f := fun t : Workspace W Id => t.focusTowards direction)
      (focusTowards_rearranged h direction)
  case focusColumnFirst => exact hfirst s h
  case focusColumnLast => exact hlast s h
  case focusColumnRightOrFirst => exact orElse_rearranged (focusTowards_rearranged h .right) hfirst
  case focusColumnLeftOrLast => exact orElse_rearranged (focusTowards_rearranged h .left) hlast
  case focusColumn index => exact returns_pure.mpr (focusColumn_rearranged h index)
  case focusDownOrLeft =>
    exact onSpaceOf_focus h (hdirection _) (ScrollingSpace.ite_rearranged
      (ScrollingSpace.focusDown_rearranged h.scrolling)
      (ScrollingSpace.focusLeft_rearranged h.scrolling))
  case focusDownOrRight =>
    exact onSpaceOf_focus h (hdirection _) (ScrollingSpace.ite_rearranged
      (ScrollingSpace.focusDown_rearranged h.scrolling)
      (ScrollingSpace.focusRight_rearranged h.scrolling))
  case focusUpOrLeft =>
    exact onSpaceOf_focus h (hdirection _) (ScrollingSpace.ite_rearranged
      (ScrollingSpace.focusUp_rearranged h.scrolling)
      (ScrollingSpace.focusLeft_rearranged h.scrolling))
  case focusUpOrRight =>
    exact onSpaceOf_focus h (hdirection _) (ScrollingSpace.ite_rearranged
      (ScrollingSpace.focusUp_rearranged h.scrolling)
      (ScrollingSpace.focusRight_rearranged h.scrolling))
  case focusWindowTop => exact htop s h
  case focusWindowBottom => exact hbottom s h
  case focusWindowDownOrTop => exact orElse_rearranged (focusTowards_rearranged h .down) htop
  case focusWindowUpOrBottom => exact orElse_rearranged (focusTowards_rearranged h .up) hbottom
  case focusFloating => exact returns_pure.mpr (focusFloating_rearranged h)
  case focusTiling => exact returns_pure.mpr (focusTiling_rearranged h)
  case switchFocusFloatingTiling =>
    exact returns_pure.mpr (switchFocusFloatingTiling_rearranged h)
  case move direction =>
    exact silently_spec (f := fun t : Workspace W Id => t.moveTowards clock direction)
      (moveTowards_rearranged h clock direction)
  case moveAnimated direction =>
    exact silently_spec (f := fun t : Workspace W Id => t.moveTowardsAnimated clock direction)
      (moveTowardsAnimated_rearranged h clock direction)
  case moveColumnToFirst =>
    exact onSpaceOf_rearranged h none (fun _ => returns_pure.mpr h.floating.rearranged_refl)
      fun _ => (ScrollingSpace.moveColumnToFirst_moved h.scrolling).mono
        fun _ ht => ht.toRearranged
  case moveColumnToLast =>
    exact onSpaceOf_rearranged h none (fun _ => returns_pure.mpr h.floating.rearranged_refl)
      fun _ => (ScrollingSpace.moveColumnToLast_moved h.scrolling).mono
        fun _ ht => ht.toRearranged
  case swapWindowInDirection direction =>
    exact onSpaceOf_rearranged h none (g := (·.swapWindowInDirection direction))
      (fun _ => returns_pure.mpr h.floating.rearranged_refl)
      fun _ => (ScrollingSpace.swapWindowInDirection_moved h.scrolling direction).mono
        fun _ ht => ht.toRearranged
  case centerColumn =>
    exact onSpaceOf_floating h none (f := (·.centerWindow clock none)) fun hf =>
      FloatingSpace.centerWindow_rearranged h.floating clock hf
  case toggleWidth forwards =>
    exact onSpaceOf_floating h none (f := (·.toggleWindowWidth none forwards)) fun hf =>
      FloatingSpace.toggleWindowWidth_rearranged h.floating hf forwards
  case setColumnWidth change =>
    exact onSpaceOf_floating h none (f := (·.setWindowWidth none change true)) fun hf =>
      (FloatingSpace.setWindowWidth_retouched h.floating hf change true).mono
        fun _ ht => ht.1
  case nudgeMasterRatio delta =>
    exact returns_pure.mpr (h.rearranged_scrolling
      (ScrollingSpace.nudgeMasterRatio_moved h.scrolling clock delta).toRearranged)

theorem runWindowCommand_rearranged (h : s.WellFormed) (clock : Clock) {window : Option Id}
    (hw : ∀ w ∈ window, w ∈ s.windowIds) (cmd : WindowCommand) :
    Guarded (¬cmd.isUnfinished s window = true) (s.runWindowCommand clock window cmd)
      fun t => Rearranged s t := by
  cases cmd
  case consumeOrExpelWindowLeft => exact unfinished_rearranged h window
  case consumeOrExpelWindowRight => exact unfinished_rearranged h window
  all_goals refine Returns.guarded ?_
  case centerWindow =>
    exact onSpaceOf_floating h window (f := (·.centerWindow clock window)) fun hf =>
      FloatingSpace.centerWindow_rearranged h.floating clock hf
  case setWindowWidth change =>
    exact onSpaceOf_floating h window (f := (·.setWindowWidth window change true)) fun hf =>
      (FloatingSpace.setWindowWidth_retouched h.floating hf change true).mono fun _ ht => ht.1
  case setWindowHeight change =>
    exact onSpaceOf_floating h window (f := (·.setWindowHeight window change true)) fun hf =>
      (FloatingSpace.setWindowHeight_retouched h.floating hf change true).mono fun _ ht => ht.1
  case toggleWindowWidth forwards =>
    exact onSpaceOf_floating h window (f := (·.toggleWindowWidth window forwards)) fun hf =>
      FloatingSpace.toggleWindowWidth_rearranged h.floating hf forwards
  case toggleWindowHeight forwards =>
    exact onSpaceOf_floating h window (f := (·.toggleWindowHeight window forwards)) fun hf =>
      FloatingSpace.toggleWindowHeight_rearranged h.floating hf forwards
  case toggleWindowFloating =>
    exact (toggleWindowFloating_spec h clock hw).mono fun _ ht => ht.1
  case setWindowFloating floating => exact setWindowFloating_rearranged h clock hw floating
  case moveFloatingWindow x y animate =>
    exact moveFloatingWindow_rearranged h clock hw x y animate

end Workspace

end Sol
