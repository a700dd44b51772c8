import Sol.Machine
import Sol.MruMotion

/-!
# The life of an open switcher

The switcher opens on the windows that there are.  It is advanced, its scope and its filter are
changed, the pointer moves over it, windows get other sizes and go.  With animations on, its
thumbnails are at any time in motion or at rest (`Sound`), and

* `sound_of_reachable`: they are in every state that is reached;
* `change_staysPut_iff`: when a change leaves those that stay where they are drawn.
-/

namespace Sol.Mru

open Panicking

inductive MruDirection
  | forward
  | backward
  deriving DecidableEq, Repr

namespace Inner

/-! ### Events -/

/-- What happens to an open switcher. -/
inductive Event
  | advanceAnimations
  | advance (direction : MruDirection) (filter : Option MruFilter)
  | setScope (scope : MruScope)
  /-- The pointer moves, over a thumbnail or not. -/
  | pointerMotion (under : Option MappedId)
  | first
  | last
  | updateWindow (id : MappedId) (size : ISize)
  | updateConfig (config : MruConfig)
  /-- The output gets another mode or scale. -/
  | resizeOutput (outputSize : Size) (scale : ℚ)
  | removeWindow (id : MappedId)

/-- To the next window, or to the one before. -/
def go (self : Inner) (direction : MruDirection) : Outcome Inner := do
  let wmru ←
    match direction with
    | .forward => self.wmru.forward
    | .backward => self.wmru.backward
  .ok { self with wmru }

noncomputable def advance (self : Inner) (easings : Motion.Easings) (clock : Clock)
    (direction : MruDirection) (filter : Option MruFilter) : Outcome Inner := do
  let self := { self with freezeView := false }
  let self ←
    match filter with
    | some filter => self.setFilter easings clock filter
    | none => .ok self
  self.go direction

def pointerMotion (self : Inner) (under : Option MappedId) : Inner :=
  let self := { self with freezeView := true }
  match under with
  | some id => { self with wmru := self.wmru.setCurrent id }
  | none => self

noncomputable def step (easings : Motion.Easings) (self : Inner) (action : Clock × Event) :
    Outcome Inner :=
  match action.2 with
  | .advanceAnimations => self.advanceAnimations easings action.1
  | .advance direction filter => self.advance easings action.1 direction filter
  | .setScope scope => { self with freezeView := false }.setScope easings action.1 scope
  | .pointerMotion under => .ok (self.pointerMotion under)
  | .first => .ok { self with freezeView := false, wmru := self.wmru.first }
  | .last => .ok { self with freezeView := false, wmru := self.wmru.last }
  | .updateWindow id size => .ok (self.updateWindow id size)
  | .updateConfig config => .ok (self.updateConfig config)
  | .resizeOutput outputSize scale => .ok { self with outputSize, scale }
  | .removeWindow id => self.removeWindow easings action.1 id

/-- A window as the switcher first finds it: what is on the current workspace is on the current
output. -/
structure Fresh (t : Thumbnail) : Prop where
  nested : t.onCurrentWorkspace = true → t.onCurrentOutput = true
  openAnimation : t.openAnimation = none
  moveAnimation : t.moveAnimation = none

/-- The switcher opens on windows, with some scope, filter and selection. -/
def Opens (s : Inner) : Prop :=
  ∃ windows ops wmru config outputSize scale, (windows.map Thumbnail.id).Nodup ∧
    (∀ t ∈ windows, Fresh t) ∧ (WindowMru.new windows).run ops = .ok wmru ∧
    config.windowMovement.off = false ∧ s = opened wmru config outputSize scale

noncomputable def machine (easings : Motion.Easings) : Machine Inner (Clock × Event) where
  initial := Opens
  step := step easings

/-- Animations stay enabled. -/
def Enabled (_ : Inner) (action : Clock × Event) : Prop :=
  ∀ config, action.2 = .updateConfig config → config.windowMovement.off = false

/-! ### The invariant -/

variable {easings : Motion.Easings} {clock : Clock} {s t : Inner} {id : MappedId}

/-- One of the shown thumbnails is selected, and all can be moved. -/
structure Sound (s : Inner) : Prop where
  valid : s.wmru.Valid
  nested : ∀ u ∈ s.wmru.thumbnails, u.onCurrentWorkspace = true → u.onCurrentOutput = true
  animated : ∀ u ∈ s.wmru.thumbnails, u.Animated
  enabled : s.config.windowMovement.off = false

theorem Sound.of_kept (hs : s.Sound) (h : s.Kept t) (hvalid : t.wmru.Valid) : t.Sound := by
  refine ⟨hvalid, ?_, ?_, h.config ▸ hs.enabled⟩
  · intro u hu hworkspace
    obtain ⟨v, hv, hbare, -⟩ := h.thumbnails u hu
    have hsame := congrArg Thumbnail.onCurrentWorkspace hbare
    have houtput := congrArg Thumbnail.onCurrentOutput hbare
    exact houtput.trans (hs.nested v hv (hsame.symm.trans hworkspace))
  · intro u hu
    obtain ⟨v, hv, -, hanimated⟩ := h.thumbnails u hu
    exact hanimated hs.enabled (hs.animated v hv)

/-- Another selection is all that a way through the strip makes. -/
theorem Sound.of_thumbnails (hs : s.Sound) (hvalid : t.wmru.Valid)
    (hthumbnails : t.wmru.thumbnails = s.wmru.thumbnails)
    (hconfig : t.config.windowMovement.off = false) : t.Sound := by
  refine ⟨hvalid, ?_, ?_, hconfig⟩
  · rw [hthumbnails]
    exact hs.nested
  · rw [hthumbnails]
    exact hs.animated

/-! ### The scope and the filter -/

/-- A wider scope shows more. -/
theorem shows_scope_nested (hs : s.Sound) (scope scope' : MruScope)
    (appIdFilter : Option String) :
    (∀ u ∈ s.wmru.thumbnails, shows scope' appIdFilter u = true →
      shows scope appIdFilter u = true) ∨
    ∀ u ∈ s.wmru.thumbnails, shows scope appIdFilter u = true →
      shows scope' appIdFilter u = true := by
  have hnested := hs.nested
  cases scope <;> cases scope' <;> simp only [shows]
  all_goals grind

/-- A filter that is taken off, or put on, shows more, or less. -/
theorem shows_filter_nested (scope : MruScope) {appIdFilter appIdFilter' : Option String}
    (h : appIdFilter' = none ∨ appIdFilter = none) :
    (∀ u ∈ s.wmru.thumbnails, shows scope appIdFilter' u = true →
      shows scope appIdFilter u = true) ∨
    ∀ u ∈ s.wmru.thumbnails, shows scope appIdFilter u = true →
      shows scope appIdFilter' u = true := by
  have hless : ∀ appId u, shows scope appId u = true → shows scope none u = true := by
    intro appId u hu
    unfold shows at hu ⊢
    dsimp only at hu ⊢
    split_ifs at hu ⊢
    rfl
  rcases h with rfl | rfl
  · exact .inr fun u _ => hless appIdFilter u
  · exact .inl fun u _ => hless appIdFilter' u

/-- What there is to animate after the scope or the filter has changed. -/
theorem changing_of_refiltered {wmru : WindowMru} {scope : MruScope} {appIdFilter : Option String}
    (h : s.wmru.Refiltered wmru scope appIdFilter)
    (hnested : (∀ u ∈ s.wmru.thumbnails, shows scope appIdFilter u = true →
      shows s.wmru.scope s.wmru.appIdFilter u = true) ∨
      ∀ u ∈ s.wmru.thumbnails, shows s.wmru.scope s.wmru.appIdFilter u = true →
        shows scope appIdFilter u = true) : s.Changing { s with wmru } where
  valid := h.valid
  keeps := h.keeps
  thumbnails := h.thumbnails
  viewPos := rfl
  config := rfl
  outputSize := rfl
  scale := rfl
  nested := by
    rw [h.scope, h.appIdFilter]
    exact hnested

theorem movesBy_refl : s.MovesBy s easings clock 0 := by
  intro id x y hx hy
  rw [hx] at hy
  rw [add_zero]
  exact (Option.some.inj hy).symm

/-- A change of the scope moves no thumbnail that stays. -/
theorem setScope_spec (hs : s.Sound) (scope : MruScope) :
    Ensures (s.setScope easings clock scope) fun t => s.MovesBy t easings clock 0 ∧ t.Sound := by
  unfold setScope
  rw [ensures_bind]
  refine (WindowMru.setScope_spec hs.valid scope).ensures.mono ?_
  rintro ⟨old, wmru⟩ (⟨-, heq⟩ | ⟨-, hold, hchanged⟩)
  · obtain ⟨rfl, rfl⟩ := Prod.mk.inj heq
    exact ensures_ok.mpr ⟨movesBy_refl, hs⟩
  · cases hold
    have hchanging : s.Changing { s with wmru } := changing_of_refiltered hchanged
      (shows_scope_nested hs s.wmru.scope scope s.wmru.appIdFilter)
    have hfilter : (none : Option (Option String)).getD wmru.appIdFilter = s.wmru.appIdFilter :=
      hchanged.appIdFilter
    refine (animateScopeFilterChange_spec hchanging hs.valid hs.animated hfilter).mono ?_
    rintro t ⟨hmoves, hvalid, hkept⟩
    exact ⟨hmoves, hs.of_kept hkept hvalid⟩

/-- Nor does a change of the filter. -/
theorem setFilter_spec (hs : s.Sound) (filter : MruFilter) :
    Ensures (s.setFilter easings clock filter) fun t => s.MovesBy t easings clock 0 ∧ t.Sound := by
  unfold setFilter
  rw [ensures_bind]
  refine (WindowMru.setFilter_spec hs.valid filter).ensures.mono ?_
  rintro ⟨old, wmru⟩ (heq | ⟨appIdFilter, hold, hnone, hchanged⟩)
  · obtain ⟨rfl, rfl⟩ := Prod.mk.inj heq
    exact ensures_ok.mpr ⟨movesBy_refl, hs⟩
  · cases hold
    have hchanging : s.Changing { s with wmru } :=
      changing_of_refiltered hchanged (shows_filter_nested s.wmru.scope hnone)
    have hfilter : (some s.wmru.appIdFilter).getD wmru.appIdFilter = s.wmru.appIdFilter := rfl
    have hscope : wmru.scope = s.wmru.scope := hchanged.scope
    dsimp only
    rw [hscope]
    refine (animateScopeFilterChange_spec hchanging hs.valid hs.animated hfilter).mono ?_
    rintro t ⟨hmoves, hvalid, hkept⟩
    exact ⟨hmoves, hs.of_kept hkept hvalid⟩

/-! ### Runs -/

/-- A way forward or backward selects another window, and no more. -/
theorem go_sound (hs : s.Sound) (direction : MruDirection) : Ensures (s.go direction) Sound := by
  have hmove : ∀ move : Outcome WindowMru, Ensures move WindowMru.Valid →
      Ensures move (fun wmru => wmru.thumbnails = s.wmru.thumbnails) →
      Ensures (move >>= fun wmru => Except.ok (ε := Panic) { s with wmru }) Sound := by
    intro move hvalid hsame
    rw [ensures_bind]
    refine (hvalid.and hsame).mono fun wmru h => ensures_ok.mpr ?_
    exact hs.of_thumbnails h.1 h.2 hs.enabled
  cases direction with
  | forward =>
    exact hmove _ (WindowMru.forward_valid hs.valid).ensures WindowMru.forward_thumbnails
  | backward =>
    exact hmove _ (WindowMru.backward_valid hs.valid).ensures WindowMru.backward_thumbnails

/-- A new frame drops the motions that are done, and moves the view. -/
theorem advanceAnimations_sound (hs : s.Sound) :
    Ensures (s.advanceAnimations easings clock) Sound := by
  have hbare : (s.advanced clock).wmru.thumbnails.map Thumbnail.bare =
      s.wmru.thumbnails.map Thumbnail.bare := by
    unfold advanced
    rw [List.map_map]
    rfl
  have halike : s.Alike (s.advanced clock) := ⟨hbare, rfl, rfl, rfl, rfl, rfl⟩
  have hkept : s.Kept (s.advanced clock) := by
    refine ⟨?_, rfl, rfl, rfl⟩
    intro u hu
    obtain ⟨v, hv, rfl⟩ := List.mem_map.mp hu
    refine ⟨v, hv, rfl, fun _ hanimated move hmove => ?_⟩
    exact hanimated move (Option.filter_eq_some_iff.mp hmove).1
  have hadvanced : (s.advanced clock).Sound := hs.of_kept hkept (halike.valid rfl hs.valid)
  unfold advanceAnimations
  dsimp only
  rw [ensures_ite]
  refine ⟨fun _ => ensures_ok.mpr hadvanced, fun _ => ?_⟩
  have hmoved : ∀ viewPos : ViewPos, Sound { s.advanced clock with viewPos } := fun viewPos =>
    hadvanced.of_thumbnails hadvanced.valid rfl hadvanced.enabled
  unfold follow
  simp only [ensures_bind, ensures_ite, ensures_ok]
  exact ⟨fun _ viewPos _ => hmoved _, fun _ => hmoved _⟩

/-- A thumbnail without its size and the configuration of that. -/
def outline (u : Thumbnail) : Thumbnail := { u with size := ⟨0, 0⟩, config := ⟨0, 0⟩ }

/-- The sizes of the thumbnails make no difference. -/
theorem Sound.of_outline {wmru : WindowMru} {config : MruConfig} {viewPos : ViewPos}
    {freezeView : Bool} {outputSize : Size} {scale : ℚ} (hs : s.Sound)
    (hthumbnails : wmru.thumbnails.map outline = s.wmru.thumbnails.map outline)
    (hscope : wmru.scope = s.wmru.scope) (hfilter : wmru.appIdFilter = s.wmru.appIdFilter)
    (hcurrent : wmru.currentId = s.wmru.currentId) (hconfig : config.windowMovement.off = false) :
    Sound ⟨wmru, viewPos, freezeView, config, outputSize, scale⟩ := by
  have hfrom : ∀ u ∈ wmru.thumbnails, ∃ v ∈ s.wmru.thumbnails, outline v = outline u := by
    intro u hu
    have hmem : outline u ∈ s.wmru.thumbnails.map outline :=
      hthumbnails ▸ List.mem_map_of_mem hu
    exact List.mem_map.mp hmem
  refine ⟨hs.valid.of_map (f := outline) (fun _ => rfl) (fun _ _ _ => rfl) hthumbnails hscope
    hfilter hcurrent, ?_, ?_, hconfig⟩
  · intro u hu hworkspace
    obtain ⟨v, hv, hsame⟩ := hfrom u hu
    have hworkspace' := congrArg Thumbnail.onCurrentWorkspace hsame
    have houtput := congrArg Thumbnail.onCurrentOutput hsame
    exact houtput.symm.trans (hs.nested v hv (hworkspace'.trans hworkspace))
  · intro u hu move hmove
    obtain ⟨v, hv, hsame⟩ := hfrom u hu
    have hanimation := congrArg Thumbnail.moveAnimation hsame
    exact hs.animated v hv move (hanimation.trans hmove)

theorem updateWindow_sound (hs : s.Sound) (id : MappedId) (size : ISize) :
    (s.updateWindow id size).Sound := by
  have houtline : ∀ idx, (s.wmru.thumbnails.modify idx fun t => { t with size }).map outline =
      s.wmru.thumbnails.map outline := by
    intro idx
    apply List.ext_getElem?
    intro i
    rw [List.getElem?_map, List.getElem?_map, List.getElem?_modify]
    cases s.wmru.thumbnails[i]? with
    | none => rfl
    | some u =>
      simp only [Option.map_eq_map, Option.map_some]
      split_ifs <;> rfl
  unfold updateWindow
  cases s.wmru.idxOf id with
  | none => exact hs
  | some idx =>
    dsimp only
    cases s.wmru.thumbnailLeftOfCurrent id with
    | none => exact hs.of_outline (houtline idx) rfl rfl rfl hs.enabled
    | some prev => exact hs.of_outline (houtline idx) rfl rfl rfl hs.enabled

theorem updateConfig_sound (hs : s.Sound) {config : MruConfig}
    (hconfig : config.windowMovement.off = false) : (s.updateConfig config).Sound := by
  refine hs.of_outline ?_ rfl rfl rfl hconfig
  rw [List.map_map]
  rfl

theorem pointerMotion_sound (hs : s.Sound) (under : Option MappedId) :
    (s.pointerMotion under).Sound := by
  cases under with
  | none => exact hs.of_thumbnails hs.valid rfl hs.enabled
  | some id =>
    refine hs.of_thumbnails (WindowMru.setCurrent_valid hs.valid id) ?_ hs.enabled
    change (s.wmru.setCurrent id).thumbnails = _
    unfold WindowMru.setCurrent
    split_ifs <;> rfl

theorem advance_sound (hs : s.Sound) (direction : MruDirection) (filter : Option MruFilter) :
    Ensures (s.advance easings clock direction filter) Sound := by
  have hthawed : Sound { s with freezeView := false } := hs.of_thumbnails hs.valid rfl hs.enabled
  unfold advance
  cases filter with
  | none => exact go_sound hthawed direction
  | some filter =>
    dsimp only
    rw [ensures_bind]
    exact (setFilter_spec hthawed filter).mono fun t ht => go_sound ht.2 direction

/-- Every event leaves the thumbnails so that they can be moved. -/
theorem step_sound (hs : s.Sound) {action : Clock × Event} (ha : Enabled s action) :
    Ensures (step easings s action) Sound := by
  obtain ⟨clock, event⟩ := action
  have hthawed : Sound { s with freezeView := false } := hs.of_thumbnails hs.valid rfl hs.enabled
  cases event with
  | advanceAnimations => exact advanceAnimations_sound hs
  | advance direction filter => exact advance_sound hs direction filter
  | setScope scope => exact (setScope_spec hthawed scope).mono fun t ht => ht.2
  | pointerMotion under => exact ensures_ok.mpr (pointerMotion_sound hs under)
  | first =>
    exact ensures_ok.mpr (hs.of_thumbnails
      (WindowMru.restarted_valid s.wmru.scope s.wmru.appIdFilter hs.valid) rfl hs.enabled)
  | last =>
    exact ensures_ok.mpr (hs.of_thumbnails (WindowMru.last_valid hs.valid) rfl hs.enabled)
  | updateWindow id size => exact ensures_ok.mpr (updateWindow_sound hs id size)
  | updateConfig config => exact ensures_ok.mpr (updateConfig_sound hs (ha config rfl))
  | resizeOutput outputSize scale =>
    exact ensures_ok.mpr (hs.of_thumbnails hs.valid rfl hs.enabled)
  | removeWindow id =>
    refine (removeWindow_spec hs.valid hs.animated id).mono ?_
    rintro t (⟨-, rfl⟩ | ⟨l, r, m, -, -, -, hvalid, hkept, -⟩)
    · exact hs
    · exact hs.of_kept hkept hvalid

/-- No window comes up before the switcher is open. -/
theorem windows_subset {w : WindowMru} (hw : w.Valid) (op : WindowMru.Op) :
    Ensures (w.step op) fun v => v.thumbnails ⊆ w.thumbnails := by
  cases op with
  | forward => exact WindowMru.forward_thumbnails.mono fun v hv => hv ▸ List.Subset.refl _
  | backward => exact WindowMru.backward_thumbnails.mono fun v hv => hv ▸ List.Subset.refl _
  | first => exact ensures_ok.mpr (List.Subset.refl _)
  | last => exact ensures_ok.mpr (List.Subset.refl _)
  | setCurrent id =>
    refine ensures_ok.mpr ?_
    unfold WindowMru.setCurrent
    split_ifs <;> exact List.Subset.refl _
  | setScope scope =>
    rw [WindowMru.step, ensures_bind]
    refine (WindowMru.setScope_spec hw scope).ensures.mono ?_
    rintro r (⟨-, rfl⟩ | ⟨-, -, hr⟩)
    · exact ensures_ok.mpr (List.Subset.refl _)
    · exact ensures_ok.mpr (hr.thumbnails ▸ List.Subset.refl _)
  | setFilter filter =>
    rw [WindowMru.step, ensures_bind]
    refine (WindowMru.setFilter_spec hw filter).ensures.mono ?_
    rintro r (rfl | ⟨_, -, -, hr⟩)
    · exact ensures_ok.mpr (List.Subset.refl _)
    · exact ensures_ok.mpr (hr.thumbnails ▸ List.Subset.refl _)
  | remove id =>
    unfold WindowMru.step
    dsimp only
    cases hidx : w.idxOf id with
    | none => exact ensures_ok.mpr (List.Subset.refl _)
    | some idx =>
      obtain ⟨removed, hremoved, -⟩ := WindowMru.idxOf_spec hidx
      obtain ⟨currentId, heq, -⟩ := WindowMru.removeByIdx_eq hw hremoved
      dsimp only
      rw [heq]
      exact ensures_ok.mpr (List.eraseIdx_subset)

theorem run_subset {w : WindowMru} (hw : w.Valid) (ops : List WindowMru.Op) :
    Ensures (w.run ops) fun v => v.Valid ∧ v.thumbnails ⊆ w.thumbnails := by
  induction ops generalizing w with
  | nil => exact ensures_ok.mpr ⟨hw, List.Subset.refl _⟩
  | cons op ops ih =>
    rw [WindowMru.run, ensures_bind]
    refine ((WindowMru.step_valid hw op).ensures.and (windows_subset hw op)).mono ?_
    rintro v ⟨hv, hsubset⟩
    exact (ih hv).mono fun u hu => ⟨hu.1, List.Subset.trans hu.2 hsubset⟩

/-- The switcher opens with its thumbnails at rest. -/
theorem opens_sound (h : s.Opens) : s.Sound := by
  obtain ⟨windows, ops, wmru, config, outputSize, scale, hdistinct, hfresh, hrun, henabled, rfl⟩ := h
  obtain ⟨hvalid, hsubset⟩ := run_subset (WindowMru.new_valid hdistinct) ops wmru hrun
  have hmem : ∀ u ∈ wmru.thumbnails, Fresh u := fun u hu =>
    hfresh u ((List.mergeSort_perm windows _).mem_iff.mp (hsubset hu))
  refine ⟨hvalid, fun u hu => (hmem u hu).nested, ?_, henabled⟩
  intro u hu move hmove
  rw [(hmem u hu).moveAnimation] at hmove
  cases hmove

/-- In every state that is reached, one of the shown thumbnails is selected, and all can be moved. -/
theorem sound_of_reachable (h : (machine easings).ReachableBy Enabled s) : s.Sound :=
  h.invariant (fun _ => opens_sound) fun _ _ hs ha => step_sound hs ha

/-! ### What stays where it is drawn -/

/-- The changes after which thumbnails are to stay where they are drawn. -/
inductive Change
  | removeWindow (id : MappedId)
  | setScope (scope : MruScope)
  | setFilter (filter : MruFilter)

noncomputable def change (s : Inner) (easings : Motion.Easings) (clock : Clock) :
    Change → Outcome Inner
  | .removeWindow id => s.removeWindow easings clock id
  | .setScope scope => s.setScope easings clock scope
  | .setFilter filter => s.setFilter easings clock filter

/-- A window goes that takes room but is not shown, while others are. -/
def RemovesHidden (s : Inner) : Change → Prop
  | .removeWindow id => s.wmru.shown ≠ [] ∧ ∃ r ∈ s.wmru.thumbnails, r.id = id ∧
      shows s.wmru.scope s.wmru.appIdFilter r = false ∧ s.pitch r ≠ 0
  | .setScope _ => False
  | .setFilter _ => False

theorem exists_renderedX (easings : Motion.Easings) (clock : Clock) (h : id ∈ s.wmru.shownIds) :
    ∃ x, s.renderedX easings clock id = some x := by
  have hsome : (s.strip.find? fun entry => entry.1.id = id).isSome = true := by
    rw [WindowMru.shownIds, ← strip_map_fst, List.map_map] at h
    obtain ⟨entry, hentry, hid⟩ := List.mem_map.mp h
    exact List.find?_isSome.mpr ⟨entry, hentry, decide_eq_true hid⟩
  obtain ⟨entry, hentry⟩ := Option.isSome_iff_exists.mp hsome
  unfold renderedX
  rw [hentry]
  exact ⟨_, rfl⟩

theorem MovesBy.staysPut (h : s.MovesBy t easings clock 0) : s.StaysPut t easings clock :=
  fun id x y hx hy => (h id x y hx hy).trans (add_zero x)

/-- Where a thumbnail is drawn before and after, it is seen whether it stays. -/
theorem MovesBy.staysPut_iff {d : ℝ} (h : s.MovesBy t easings clock d) (hid : id ∈ s.wmru.shownIds)
    (hid' : id ∈ t.wmru.shownIds) : s.StaysPut t easings clock ↔ d = 0 := by
  constructor
  · intro hstays
    obtain ⟨x, hx⟩ := exists_renderedX easings clock hid
    obtain ⟨y, hy⟩ := exists_renderedX easings clock hid'
    exact left_eq_add.mp ((hstays id x y hx hy).symm.trans (h id x y hx hy))
  · rintro rfl
    exact h.staysPut

theorem removeWindow_staysPut (hs : s.Sound) (id : MappedId) :
    Ensures (s.removeWindow easings clock id) fun t =>
      s.StaysPut t easings clock ↔ ¬s.RemovesHidden (.removeWindow id) := by
  refine (removeWindow_spec hs.valid hs.animated id).mono ?_
  rintro t (⟨hnone, rfl⟩ | ⟨l, r, m, hsplit, rfl, hmoves, -, -, hshown⟩)
  · refine iff_of_true movesBy_refl.staysPut ?_
    rintro ⟨-, r, hr, rfl, -⟩
    exact hnone (List.mem_map_of_mem hr)
  have hr : r ∈ s.wmru.thumbnails := hsplit ▸ List.mem_append_right _ List.mem_cons_self
  have honly : ∀ v ∈ s.wmru.thumbnails, v.id = r.id → v = r := fun v hv hid =>
    hs.valid.eq_of_id hv hr hid
  unfold jump at hmoves
  by_cases hshows : shows s.wmru.scope s.wmru.appIdFilter r = true
  · rw [if_pos hshows] at hmoves
    refine iff_of_true hmoves.staysPut ?_
    rintro ⟨-, v, hv, hid, hhidden, -⟩
    rw [honly v hv hid, hshows] at hhidden
    cases hhidden
  · rw [if_neg hshows] at hmoves
    have hhidden : shows s.wmru.scope s.wmru.appIdFilter r = false :=
      Bool.eq_false_of_not_eq_true hshows
    cases hempty : s.wmru.shown with
    | nil =>
      refine iff_of_true (movesBy_of_empty (.inl hempty)).staysPut ?_
      rintro ⟨hne, -⟩
      exact hne hempty
    | cons u rest =>
      -- a thumbnail that is shown shows it
      have hu : u ∈ s.wmru.shown := hempty ▸ List.mem_cons_self
      have huid : u.id ∈ s.wmru.shownIds := List.mem_map_of_mem hu
      have hother : u.id ≠ r.id := by
        intro hid
        obtain ⟨hmem, hushows⟩ := List.mem_filter.mp hu
        rw [honly u hmem hid] at hushows
        exact hshows hushows
      rw [hmoves.staysPut_iff huid (hshown u.id huid hother)]
      constructor
      · rintro hzero ⟨-, v, hv, hid, -, hpitch⟩
        rw [honly v hv hid] at hpitch
        exact hpitch (by exact_mod_cast hzero)
      · intro hnot
        by_contra hne
        refine hnot ⟨hempty ▸ List.cons_ne_nil u rest, r, hr, rfl, hhidden, ?_⟩
        exact fun hzero => hne (by rw [hzero]; exact Rat.cast_zero)

/-- In every state that is reached with animations on, a change leaves the thumbnails that stay
where they are drawn, unless it is that a hidden window goes. -/
theorem change_staysPut_iff (h : (machine easings).ReachableBy Enabled s) (clock : Clock)
    (change : Change) : Ensures (s.change easings clock change) fun t =>
      s.StaysPut t easings clock ↔ ¬s.RemovesHidden change := by
  have hs := sound_of_reachable h
  cases change with
  | removeWindow id => exact removeWindow_staysPut hs id
  | setScope scope =>
    exact (setScope_spec hs scope).mono fun t ht => iff_of_true ht.1.staysPut not_false
  | setFilter filter =>
    exact (setFilter_spec hs filter).mono fun t ht => iff_of_true ht.1.staysPut not_false

/-- Three windows, the last one on another output. -/
def sampleWindows : List Thumbnail :=
  [⟨0, some 30, true, true, some "editor", ⟨1600, 1200⟩, ⟨480, 1 / 2⟩, none, none⟩,
    ⟨1, some 20, true, true, some "browser", ⟨1600, 1200⟩, ⟨480, 1 / 2⟩, none, none⟩,
    ⟨2, some 10, false, false, some "editor", ⟨1600, 1200⟩, ⟨480, 1 / 2⟩, none, none⟩]

def sampleConfig : MruConfig :=
  ⟨⟨480, 1 / 2⟩, 30, ⟨false, .easing 220 .linear⟩, ⟨false, .easing 250 .linear⟩⟩

/-- The switcher on the windows of an output. -/
noncomputable def sampleOpened : Inner :=
  opened ⟨sampleWindows, some 0, .output, none⟩ sampleConfig ⟨1920, 1080⟩ 1

theorem sampleOpened_opens : sampleOpened.Opens := by
  have hnew : WindowMru.new sampleWindows = .ofThumbnails sampleWindows := by
    unfold WindowMru.new
    rw [List.mergeSort_of_pairwise (by decide)]
  refine ⟨sampleWindows, [.setScope .output], ⟨sampleWindows, some 0, .output, none⟩, sampleConfig,
    ⟨1920, 1080⟩, 1, by decide, ?_, ?_, rfl, rfl⟩
  · intro t ht
    simp only [sampleWindows, List.mem_cons, List.not_mem_nil, or_false] at ht
    rcases ht with rfl | rfl | rfl
    all_goals exact ⟨by decide, rfl, rfl⟩
  · rw [hnew]
    rfl

noncomputable def sampleEasings : Motion.Easings :=
  ⟨fun x => 1 - (1 - x) ^ 2, fun x => 1 - (1 - x) ^ 3⟩

/-- A window on another output goes while the windows of this one are shown, and they all jump. -/
theorem removeWindow_of_other_output : (machine sampleEasings).ReachableBy Enabled sampleOpened ∧
    ∃ t, sampleOpened.change sampleEasings ⟨500, 500, 1, false⟩ (.removeWindow 2) = .ok t ∧
      ¬sampleOpened.StaysPut t sampleEasings ⟨500, 500, 1, false⟩ := by
  have hreach : (machine sampleEasings).ReachableBy Enabled sampleOpened :=
    .initial sampleOpened_opens
  have hhidden : sampleOpened.RemovesHidden (.removeWindow 2) := by
    refine ⟨List.cons_ne_nil _ _, sampleWindows[2], List.getElem_mem (by decide), rfl, rfl, ?_⟩
    decide +kernel
  refine ⟨hreach, _, rfl, fun hstays => ?_⟩
  exact (removeWindow_staysPut (opens_sound sampleOpened_opens) 2 _ rfl).mp hstays hhidden

theorem change_staysPut_sample : Ensures
    (sampleOpened.change sampleEasings ⟨500, 500, 1, false⟩ (.removeWindow 1)) fun t =>
      sampleOpened.StaysPut t sampleEasings ⟨500, 500, 1, false⟩ ↔
        ¬sampleOpened.RemovesHidden (.removeWindow 1) :=
  change_staysPut_iff (.initial sampleOpened_opens) ⟨500, 500, 1, false⟩ (.removeWindow 1)

end Inner

end Sol.Mru
