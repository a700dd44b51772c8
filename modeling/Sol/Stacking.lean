import Sol.Floating

/-!
# The stacking order of the floating space

What each operation of the floating space does to its windows:

* restacking permutes the tiles together with their data;
* an addition adds one window, a removal takes one out, and the active window
  changes only where it has to;
* everything else leaves the windows as they are.

Along all of them the space stays well formed, so that no operation panics.
-/

namespace Sol

open Panicking

/-- With presets to choose from, a toggle chooses one of them. -/
theorem togglePreset_lt {presets : List PresetSize} (h : presets ≠ []) (selected : Option ℕ)
    (forwards : Bool) (available currentWindow currentTile : ℚ) :
    Returns (togglePreset presets selected forwards available currentWindow currentTile)
      fun i => i < presets.length := by
  have hpos : 0 < presets.length := List.length_pos_iff.mpr h
  have hfind : ∀ (rs : List ResolvedSize) (p : ResolvedSize → Bool) (i : ℕ),
      rs.findIdx? p = some i → i < rs.length :=
    fun rs p i hi => (List.findIdx?_eq_some_iff_getElem.mp hi).1
  unfold togglePreset
  cases selected with
  | some idx =>
    cases forwards
    all_goals
      simp only [Bool.false_eq_true, if_true, if_false, returns_bind, returns_pure,
        returns_checkedSub, returns_ite, returns_throw]
    · exact ⟨hpos, by omega, fun _ => Nat.mod_lt _ hpos⟩
    · exact ⟨by omega, fun _ => Nat.mod_lt _ hpos⟩
  | none =>
    cases forwards with
    | true =>
      simp only [if_true, returns_pure]
      cases hi : List.findIdx? _ _ with
      | none => simpa using hpos
      | some i => simpa using hfind _ _ _ hi
    | false =>
      simp only [Bool.false_eq_true, if_false]
      split
      · rw [returns_pure]
        omega
      · rw [returns_checkedSub]
        omega

namespace FloatingSpace

variable {W Id : Type} {s t : FloatingSpace W Id}

/-! ### Restacking -/

/-- The outcome of changing the stacking order. -/
structure Restacked (s t : FloatingSpace W Id) : Prop where
  perm : t.tiles.Perm s.tiles
  length_data : t.data.length = t.tiles.length
  rest_eq : t = { s with tiles := t.tiles, data := t.data }

theorem Restacked.refl (h : s.data.length = s.tiles.length) : Restacked s s := ⟨.refl _, h, rfl⟩

theorem Restacked.trans {u : FloatingSpace W Id} (h : Restacked s t) (h' : Restacked t u) :
    Restacked s u := by
  refine ⟨h'.perm.trans h.perm, h'.length_data, ?_⟩
  rw [h'.rest_eq, h.rest_eq]

theorem Restacked.activeWindowId_eq (h : Restacked s t) : t.activeWindowId = s.activeWindowId := by
  rw [h.rest_eq]

theorem Restacked.interactiveResize_eq (h : Restacked s t) :
    t.interactiveResize = s.interactiveResize := by
  rw [h.rest_eq]

theorem Restacked.options_eq (h : Restacked s t) : t.options = s.options := by
  rw [h.rest_eq]

theorem raiseWindow_spec (h : s.data.length = s.tiles.length) {i j : ℕ} (hij : j ≤ i)
    (hi : i < s.tiles.length) : Returns (s.raiseWindow i j) fun t => Restacked s t := by
  have hd : i < s.data.length := h ▸ hi
  have htiles : (s.tiles.eraseIdx i).length = s.tiles.length - 1 := List.length_eraseIdx_of_lt hi
  have hdata : (s.data.eraseIdx i).length = s.data.length - 1 := List.length_eraseIdx_of_lt hd
  unfold raiseWindow
  simp only [returns_bind, returns_assert, Vec.returns_remove, Vec.returns_insert, returns_pure]
  refine ⟨hij, s.tiles[i], List.getElem?_eq_getElem hi, s.data[i], List.getElem?_eq_getElem hd,
    by omega, by omega, ?_, ?_, rfl⟩
  · exact (List.perm_insertIdx _ _ (by omega)).trans (List.getElem_cons_eraseIdx_perm hi)
  · simp only
    rw [List.length_insertIdx_of_le_length (by omega), List.length_insertIdx_of_le_length (by omega)]
    omega

/-- Raising tiles from front to back leaves the others where they are looked for. -/
theorem raiseAll_spec {ds : List ℕ} {idx : ℕ} (h : s.data.length = s.tiles.length)
    (hsorted : ds.Pairwise (· < ·)) (hds : ∀ d ∈ ds, idx ≤ d ∧ d < s.tiles.length) :
    Returns (s.raiseAll idx ds) fun t => Restacked s t := by
  induction ds generalizing s idx with
  | nil => simpa [raiseAll] using Restacked.refl h
  | cons d ds ih =>
    rw [List.pairwise_cons] at hsorted
    obtain ⟨hidx, hd⟩ := hds d (by simp)
    unfold raiseAll
    rw [returns_bind]
    refine (raiseWindow_spec h hidx hd).mono fun t ht => ?_
    refine (ih ht.length_data hsorted.2 fun d' hd' => ?_).mono fun u hu => ht.trans hu
    have := hsorted.1 d' hd'
    rw [ht.perm.length_eq]
    exact ⟨by omega, (hds d' (by simp [hd'])).2⟩

variable [LayoutElement W Id]

theorem Restacked.perm_windowIds (h : Restacked s t) : t.windowIds.Perm s.windowIds :=
  h.perm.map _

/-- The descendants are found among the tiles below. -/
theorem descendantsOf_sublist (tiles : List (Tile W)) (win : W) (is : List ℕ) :
    (descendantsOf tiles win is).Sublist is := by
  induction is with
  | nil => exact .slnil
  | cons i is ih =>
    unfold descendantsOf
    dsimp only
    split
    · split_ifs
      · exact ih.cons_cons i
      · exact ih.cons i
    · exact ih.cons i

theorem bringUpDescendantsOf_spec (h : s.data.length = s.tiles.length) {idx : ℕ}
    (hi : idx < s.tiles.length) :
    Returns (s.bringUpDescendantsOf idx) fun t => Restacked s t := by
  unfold bringUpDescendantsOf
  simp only [returns_bind, Vec.returns_get]
  refine ⟨s.tiles[idx], List.getElem?_eq_getElem hi, ?_⟩
  have hsub := descendantsOf_sublist s.tiles s.tiles[idx].window
    ((List.range s.tiles.length).drop (idx + 1))
  refine raiseAll_spec h ((List.pairwise_lt_range.drop).sublist hsub) fun d hd => ?_
  obtain ⟨k, hk, hkd⟩ := List.mem_iff_getElem.mp (hsub.subset hd)
  simp only [List.length_drop, List.length_range] at hk
  rw [List.getElem_drop, List.getElem_range] at hkd
  omega

/-! ### The invariant -/

/-- The invariant of the floating space. -/
structure WellFormed (s : FloatingSpace W Id) : Prop where
  length_data : s.data.length = s.tiles.length
  active_eq_none : s.activeWindowId = none ↔ s.tiles = []
  active_mem : ∀ id, s.activeWindowId = some id → id ∈ s.windowIds
  resize_mem : ∀ r, s.interactiveResize = some r → r.window ∈ s.windowIds
  hasPresets : s.options.layout.HasPresets

theorem wellFormed_new (viewSize : Size) (workingArea : Rect) (scale : ℚ) {options : Options}
    (h : options.layout.HasPresets) :
    (new viewSize workingArea scale options : FloatingSpace W Id).WellFormed := by
  refine ⟨rfl, by simp [new], ?_, ?_, h⟩ <;> simp [new]

theorem WellFormed.data_of_tile (h : s.WellFormed) {i : ℕ} (hi : i < s.tiles.length) :
    ∃ d, s.data[i]? = some d :=
  ⟨_, List.getElem?_eq_getElem (h.length_data ▸ hi)⟩

theorem WellFormed.restacked (hs : s.WellFormed) (h : Restacked s t) : t.WellFormed where
  length_data := h.length_data
  active_eq_none := by
    rw [h.activeWindowId_eq, hs.active_eq_none, ← List.length_eq_zero_iff,
      ← List.length_eq_zero_iff (l := t.tiles), h.perm.length_eq]
  active_mem id hid :=
    h.perm_windowIds.mem_iff.mpr (hs.active_mem id (h.activeWindowId_eq ▸ hid))
  resize_mem r hr :=
    h.perm_windowIds.mem_iff.mpr (hs.resize_mem r (h.interactiveResize_eq ▸ hr))
  hasPresets := h.options_eq ▸ hs.hasPresets

/-! ### Adding -/

/-- The outcome of adding a window. -/
structure Added (s : FloatingSpace W Id) (window : Id) (activate : Bool)
    (t : FloatingSpace W Id) : Prop where
  wellFormed : t.WellFormed
  perm : t.windowIds.Perm (window :: s.windowIds)
  active_eq : t.activeWindowId =
    if activate || s.tiles.isEmpty then some window else s.activeWindowId

theorem addTileAt_spec (h : s.WellFormed) {idx : ℕ} (hidx : idx ≤ s.tiles.length) (tile : Tile W)
    (activate : Bool) :
    Returns (s.addTileAt idx tile activate) fun t => Added s tile.windowId activate t := by
  unfold addTileAt
  simp only [returns_bind, Vec.returns_insert]
  set added : Tile W := { tile.updateConfig s.viewSize s.scale s.options with
    window := LayoutElement.requestSizeOnce (tile.updateConfig s.viewSize s.scale s.options).window
      (addedWindowSize (tile.updateConfig s.viewSize s.scale s.options)) true } with hadded
  have hid : added.windowId = tile.windowId := by
    simp only [hadded, Tile.windowId, LayoutElement.id_requestSizeOnce]
    exact Tile.windowId_updateConfig tile _ _ _
  set at_ := ((s.tiles.take idx).findIdx? fun tileAbove =>
    LayoutElement.isChildOf added.window tileAbove.window).getD idx with hat
  have hle : at_ ≤ s.tiles.length := by
    rw [hat]
    cases hfind : (s.tiles.take idx).findIdx? fun tileAbove =>
        LayoutElement.isChildOf added.window tileAbove.window with
    | none => simpa using hidx
    | some i =>
      have := (List.findIdx?_eq_some_iff_getElem.mp hfind).1
      simp only [List.length_take] at this
      simp only [Option.getD_some]
      omega
  refine ⟨h.length_data ▸ hle, hle, ?_⟩
  refine (bringUpDescendantsOf_spec ?_ ?_).mono fun t ht => ?_
  · simp only
    rw [List.length_insertIdx_of_le_length hle,
      List.length_insertIdx_of_le_length (h.length_data ▸ hle), h.length_data]
  · simp only
    rw [List.length_insertIdx_of_le_length hle]
    omega
  · have hperm : t.windowIds.Perm (tile.windowId :: s.windowIds) := by
      refine ht.perm_windowIds.trans ?_
      simp only [windowIds, ← hid, ← List.map_cons (f := Tile.windowId)]
      exact (List.perm_insertIdx added s.tiles hle).map _
    have hactive : t.activeWindowId =
        if activate || s.tiles.isEmpty then some tile.windowId else s.activeWindowId := by
      rw [ht.activeWindowId_eq, ← hid]
    refine ⟨⟨ht.length_data, ?_, ?_, ?_, ht.options_eq ▸ h.hasPresets⟩, hperm, hactive⟩
    · have hne : t.tiles ≠ [] := by
        intro hnil
        simp [windowIds, hnil] at hperm
      refine iff_of_false ?_ hne
      rw [hactive]
      split_ifs with hc
      · simp
      · rw [h.active_eq_none]
        simpa using (by simpa using hc : activate = false ∧ ¬s.tiles = []).2
    · intro id hid
      rw [hactive] at hid
      rw [hperm.mem_iff]
      split_ifs at hid with hc
      · simp [Option.some.inj hid]
      · exact List.mem_cons_of_mem _ (h.active_mem id hid)
    · intro r hr
      rw [hperm.mem_iff]
      exact List.mem_cons_of_mem _ (h.resize_mem r (ht.interactiveResize_eq ▸ hr))

theorem addTile_spec (h : s.WellFormed) (tile : Tile W) (activate : Bool) :
    Returns (s.addTile tile activate) fun t => Added s tile.windowId activate t :=
  addTileAt_spec h (Nat.zero_le _) tile activate

/-! ### Rearranging -/

/-- The outcome of an operation that adds and removes no window. -/
structure Rearranged (s t : FloatingSpace W Id) : Prop where
  wellFormed : t.WellFormed
  perm : t.windowIds.Perm s.windowIds

theorem WellFormed.rearranged_refl (h : s.WellFormed) : Rearranged s s := ⟨h, .refl _⟩

theorem Rearranged.trans {u : FloatingSpace W Id} (h : Rearranged s t) (h' : Rearranged t u) :
    Rearranged s u := ⟨h'.wellFormed, h'.perm.trans h.perm⟩

theorem WellFormed.rearranged (hs : s.WellFormed) (h : Restacked s t) : Rearranged s t :=
  ⟨hs.restacked h, h.perm_windowIds⟩

/-- Another active window, or the end of a resize, rearranges nothing. -/
theorem WellFormed.reactivate (h : s.WellFormed) {id : Id} (hid : id ∈ s.windowIds) :
    Rearranged s { s with activeWindowId := some id } := by
  refine ⟨⟨h.length_data, ?_, ?_, h.resize_mem, h.hasPresets⟩, .refl _⟩
  · refine iff_of_false (by simp) ?_
    rintro hnil
    have htiles : s.tiles = [] := hnil
    simp [windowIds, htiles] at hid
  · rintro _ ⟨⟩
    exact hid

/-- Tiles updated in place, with their data, keep their windows. -/
theorem WellFormed.retouch (h : s.WellFormed) {tiles : List (Tile W)} {data : List Data}
    (htiles : tiles.map (·.windowId) = s.windowIds) (hdata : data.length = s.data.length)
    {viewSize : Size} {workingArea : Rect} {scale : ℚ} {options : Options}
    (hoptions : options.layout.HasPresets) :
    Rearranged s { s with tiles, data, viewSize, workingArea, scale, options } := by
  have hlen : tiles.length = s.tiles.length := by
    simpa [windowIds] using congrArg List.length htiles
  refine ⟨⟨?_, ?_, ?_, ?_, hoptions⟩, by rw [windowIds, htiles]⟩
  · rw [hlen, hdata, h.length_data]
  · refine h.active_eq_none.trans ?_
    rw [← List.length_eq_zero_iff, ← List.length_eq_zero_iff (l := tiles), hlen]
  · intro id hid
    rw [windowIds, htiles]
    exact h.active_mem id hid
  · intro r hr
    rw [windowIds, htiles]
    exact h.resize_mem r hr

/-- One tile updated in place. -/
theorem windowIds_set {i : ℕ} {tile tile' : Tile W} (hi : s.tiles[i]? = some tile)
    (hid : tile'.windowId = tile.windowId) :
    (s.tiles.set i tile').map (·.windowId) = s.windowIds := by
  obtain ⟨hlt, rfl⟩ := List.getElem?_eq_some_iff.mp hi
  have hlt' : i < (s.tiles.map (·.windowId)).length := by simpa using hlt
  have hself : s.tiles[i].windowId = (s.tiles.map (·.windowId))[i] := by simp
  rw [windowIds, List.map_set, hid, hself, List.set_getElem_self]

/-- One tile updated in place keeps the windows in their order. -/
theorem WellFormed.retouch_at (h : s.WellFormed) {i : ℕ} {tile tile' : Tile W}
    (hi : s.tiles[i]? = some tile) (hid : tile'.windowId = tile.windowId) :
    Rearranged s { s with tiles := s.tiles.set i tile' } ∧
      ({ s with tiles := s.tiles.set i tile' } : FloatingSpace W Id).windowIds = s.windowIds :=
  ⟨h.retouch (windowIds_set hi hid) rfl h.hasPresets, windowIds_set hi hid⟩

/-- A tile that kept its place can be updated again. -/
theorem Rearranged.retouch_idx {i : ℕ} (h : Rearranged s t) (hids : t.windowIds = s.windowIds)
    (hi : i < s.tiles.length) {f : Tile W → Tile W} (hf : ∀ tile, (f tile).windowId = tile.windowId) :
    Returns (Vec.modify t.tiles i f) fun tiles =>
      Rearranged s { t with tiles } := by
  have hlt : i < t.tiles.length := by
    have hlen : t.tiles.length = s.tiles.length := by
      simpa [windowIds] using congrArg List.length hids
    omega
  rw [Vec.returns_modify]
  refine ⟨t.tiles[i], List.getElem?_eq_getElem hlt, h.trans ?_⟩
  exact h.wellFormed.retouch (windowIds_set (List.getElem?_eq_getElem hlt) (hf _)) rfl
    h.wellFormed.hasPresets

theorem mapTiles_rearranged (h : s.WellFormed) {f : Tile W → Tile W}
    (hf : ∀ tile, (f tile).windowId = tile.windowId) : Rearranged s (s.mapTiles f) :=
  h.retouch (by simp [windowIds, Function.comp_def, hf]) rfl h.hasPresets

theorem updateConfig_rearranged (h : s.WellFormed) (viewSize : Size) (workingArea : Rect)
    (scale : ℚ) {options : Options} (hoptions : options.layout.HasPresets) :
    Rearranged s (s.updateConfig viewSize workingArea scale options) :=
  h.retouch (by simp [windowIds, Function.comp_def]) (by simp [h.length_data]) hoptions

theorem advanceAnimations_rearranged (h : s.WellFormed) (clock : Clock) :
    Rearranged s (s.advanceAnimations clock) :=
  mapTiles_rearranged h fun tile => Tile.windowId_advanceAnimations tile clock

/-- An operation is about the active window, or about a window that is there. -/
theorem target_mem (h : s.WellFormed) {id : Option Id} (hid : ∀ w ∈ id, w ∈ s.windowIds) {w : Id}
    (hw : s.target id = some w) : w ∈ s.windowIds := by
  unfold target at hw
  cases id with
  | none => exact h.active_mem w (by simpa using hw)
  | some w' => exact hid w (by simpa using hw)

/-! ### Windows by their ids -/

variable [DecidableEq Id]

/-- A window that is there has an index. -/
theorem idxOf_of_mem {id : Id} (h : id ∈ s.windowIds) :
    ∃ i < s.tiles.length, s.idxOf id = some i ∧ s.windowIds[i]? = some id := by
  obtain ⟨tile, htile, hid⟩ := List.mem_map.mp h
  have hsome : (s.idxOf id).isSome := by
    rw [idxOf, List.findIdx?_isSome, List.any_eq_true]
    exact ⟨tile, htile, by simpa using hid⟩
  obtain ⟨i, hi⟩ := Option.isSome_iff_exists.mp hsome
  obtain ⟨hlt, hp, -⟩ := List.findIdx?_eq_some_iff_getElem.mp hi
  refine ⟨i, hlt, hi, ?_⟩
  rw [windowIds, List.getElem?_map, List.getElem?_eq_getElem hlt]
  simpa using hp

theorem mem_of_idxOf {id : Id} {i : ℕ} (h : s.idxOf id = some i) : id ∈ s.windowIds := by
  obtain ⟨hlt, hp, -⟩ := List.findIdx?_eq_some_iff_getElem.mp h
  exact List.mem_map.mpr ⟨s.tiles[i], List.getElem_mem hlt, by simpa using hp⟩

theorem lt_of_idxOf {id : Id} {i : ℕ} (h : s.idxOf id = some i) : i < s.tiles.length :=
  (List.findIdx?_eq_some_iff_getElem.mp h).1

theorem hasWindow_iff {id : Id} : s.hasWindow id = true ↔ id ∈ s.windowIds := by
  simp [hasWindow, windowIds]

theorem addTileAbove_spec (h : s.WellFormed) {above : Id} (habove : above ∈ s.windowIds)
    (tile : Tile W) (activate : Bool) :
    Returns (s.addTileAbove above tile activate) fun t => Added s tile.windowId activate t := by
  obtain ⟨i, hi, hidx, -⟩ := idxOf_of_mem habove
  obtain ⟨d, hd⟩ := h.data_of_tile hi
  unfold addTileAbove
  simp only [returns_bind, returns_unwrap, Vec.returns_get]
  exact ⟨i, hidx, d, hd, addTileAt_spec h hi.le _ activate⟩

/-! ### Removing -/

/-- The outcome of taking out a window. -/
structure Removed (s : FloatingSpace W Id) (window : Id) (removed : RemovedTile W)
    (t : FloatingSpace W Id) : Prop where
  wellFormed : t.WellFormed
  windowId_eq : removed.tile.windowId = window
  perm : s.windowIds.Perm (window :: t.windowIds)

/-- What is active after a removal is one of the remaining windows, if there are any. -/
theorem activeAfterRemoval_spec {tile : Tile W} {tiles : List (Tile W)} (h : s.activeWindowId ≠ none)
    (hactive : ∀ id, s.activeWindowId = some id →
      id = tile.windowId ∨ id ∈ tiles.map (·.windowId)) :
    Returns (s.activeAfterRemoval tile tiles) fun active =>
      (active = none ↔ tiles = []) ∧ ∀ id, active = some id → id ∈ tiles.map (·.windowId) := by
  unfold activeAfterRemoval
  cases tiles with
  | nil => simp
  | cons topmost rest =>
    by_cases hremoved : s.activeWindowId = some tile.windowId
    · simp only [List.isEmpty_cons, Bool.false_eq_true, if_false, hremoved, if_true, returns_bind,
        Vec.returns_get, returns_pure]
      exact ⟨topmost, rfl, by simp, by simp⟩
    · simp only [List.isEmpty_cons, Bool.false_eq_true, if_false, hremoved, returns_pure]
      refine ⟨iff_of_false h (by simp), fun id hid => ?_⟩
      rcases hactive id hid with rfl | hmem
      · exact absurd hid hremoved
      · exact hmem

theorem removeTileByIdx_spec (h : s.WellFormed) {i : ℕ} {window : Id}
    (hi : s.windowIds[i]? = some window) :
    Returns (s.removeTileByIdx i) fun r => Removed s window r.1 r.2 := by
  have hlt : i < s.tiles.length := by simpa [windowIds] using (List.getElem?_eq_some_iff.mp hi).1
  have hd : i < s.data.length := h.length_data ▸ hlt
  have hwindow : s.tiles[i].windowId = window := by simpa [windowIds, hlt] using hi
  have hperm : s.windowIds.Perm (window :: (s.tiles.eraseIdx i).map (·.windowId)) := by
    rw [← hwindow, ← List.map_cons (f := Tile.windowId)]
    exact ((List.getElem_cons_eraseIdx_perm hlt).symm).map _
  have hdata : (s.data.eraseIdx i).length = (s.tiles.eraseIdx i).length := by
    rw [List.length_eraseIdx_of_lt hlt, List.length_eraseIdx_of_lt hd, h.length_data]
  have hsome : s.activeWindowId ≠ none := by
    rw [ne_eq, h.active_eq_none]
    exact List.ne_nil_of_length_pos (by omega)
  unfold removeTileByIdx
  simp only [returns_bind, Vec.returns_remove, returns_pure]
  refine ⟨s.tiles[i], List.getElem?_eq_getElem hlt, s.data[i], List.getElem?_eq_getElem hd, ?_⟩
  refine (activeAfterRemoval_spec hsome fun id hid => ?_).mono fun active hactive => ?_
  · rw [hwindow]
    exact List.mem_cons.mp (hperm.mem_iff.mp (h.active_mem id hid))
  · refine ⟨⟨hdata, hactive.1, hactive.2, ?_, h.hasPresets⟩, hwindow, hperm⟩
    intro r hr
    obtain ⟨hr, hne⟩ := Option.filter_eq_some_iff.mp hr
    rcases List.mem_cons.mp (hperm.mem_iff.mp (h.resize_mem r hr)) with heq | hmem
    · exact absurd (hwindow.trans heq.symm) (by simpa using hne)
    · exact hmem

theorem removeTile_spec (h : s.WellFormed) {window : Id} (hw : window ∈ s.windowIds) :
    Returns (s.removeTile window) fun r => Removed s window r.1 r.2 := by
  obtain ⟨i, -, hidx, hi⟩ := idxOf_of_mem hw
  unfold removeTile
  simp only [returns_bind, returns_unwrap]
  exact ⟨i, hidx, removeTileByIdx_spec h hi⟩

/-- The outcome of taking out the active window, if there is one. -/
theorem removeActiveTile_spec (h : s.WellFormed) :
    Returns s.removeActiveTile fun r => (r = (none, s) ∧ s.activeWindowId = none) ∨
      ∃ removed window, r.1 = some removed ∧ s.activeWindowId = some window ∧
        Removed s window removed r.2 := by
  unfold removeActiveTile
  cases hactive : s.activeWindowId with
  | none => exact returns_pure.mpr (.inl ⟨rfl, rfl⟩)
  | some window =>
    simp only [returns_bind, returns_pure]
    exact (removeTile_spec h (h.active_mem window hactive)).mono
      fun r hr => .inr ⟨r.1, window, rfl, rfl, hr⟩

theorem interactiveResizeEnd_rearranged (h : s.WellFormed) (window : Option Id) :
    Rearranged s (s.interactiveResizeEnd window) := by
  unfold interactiveResizeEnd
  split
  · exact h.rearranged_refl
  · split_ifs
    · exact ⟨⟨h.length_data, h.active_eq_none, h.active_mem, by simp, h.hasPresets⟩, .refl _⟩
    · exact h.rearranged_refl

theorem refresh_rearranged (h : s.WellFormed) (isActive isFocused : Bool) :
    Rearranged s (s.refresh isActive isFocused) := by
  refine mapTiles_rearranged h fun tile => ?_
  unfold refreshTile
  dsimp only
  split <;> simp [Tile.windowId]

/-! ### Focus -/

theorem activateWindowWithoutRaising_rearranged (h : s.WellFormed) (id : Id) :
    Rearranged s (s.activateWindowWithoutRaising id).1 := by
  unfold activateWindowWithoutRaising
  split_ifs with hc
  · obtain ⟨i, hi⟩ := Option.isSome_iff_exists.mp hc
    exact h.reactivate (mem_of_idxOf hi)
  · exact h.rearranged_refl

/-- Activation of a window that is there makes it the active one. -/
theorem activateWindow_spec (h : s.WellFormed) (id : Id) :
    Returns (s.activateWindow id) fun r => Rearranged s r.1 ∧
      (r.2 = true ↔ id ∈ s.windowIds) ∧ (r.2 = true → r.1.activeWindowId = some id) := by
  unfold activateWindow
  cases hidx : s.idxOf id with
  | none =>
    have hnot : id ∉ s.windowIds := by
      intro hmem
      obtain ⟨i, -, hi, -⟩ := idxOf_of_mem hmem
      simp [hidx] at hi
    simpa [hnot] using h.rearranged_refl
  | some i =>
    have hmem := mem_of_idxOf hidx
    have hlt := lt_of_idxOf hidx
    simp only [returns_bind]
    refine (raiseWindow_spec h.length_data (Nat.zero_le i) hlt).mono fun t ht => ?_
    have hact := (h.restacked ht).reactivate (ht.perm_windowIds.mem_iff.mpr hmem)
    have hpos : 0 < t.tiles.length := by
      rw [ht.perm.length_eq]
      omega
    refine (bringUpDescendantsOf_spec hact.wellFormed.length_data hpos).mono fun u hu => ?_
    rw [returns_pure]
    exact ⟨((h.rearranged ht).trans hact).trans (hact.wellFormed.rearranged hu), by simp [hmem],
      fun _ => hu.activeWindowId_eq⟩

theorem activateFound_rearranged (h : s.WellFormed) (found : Option (Tile W × ℚ)) :
    Returns (s.activateFound found) fun r => Rearranged s r.1 := by
  unfold activateFound
  split
  · simpa using h.rearranged_refl
  · simp only [returns_bind, returns_pure]
    exact (activateWindow_spec h _).mono fun r hr => hr.1

/-- The active window has a tile, with its data. -/
theorem WellFormed.active_idx (h : s.WellFormed) {id : Id} (hid : id ∈ s.windowIds) :
    ∃ i tile d, s.idxOf id = some i ∧ s.tiles[i]? = some tile ∧ s.data[i]? = some d := by
  obtain ⟨i, hi, hidx, -⟩ := idxOf_of_mem hid
  obtain ⟨d, hd⟩ := h.data_of_tile hi
  exact ⟨i, s.tiles[i], d, hidx, List.getElem?_eq_getElem hi, hd⟩

theorem focusDirectional_rearranged (h : s.WellFormed) (distance : Point → Point → ℚ) :
    Returns (s.focusDirectional distance) fun r => Rearranged s r.1 := by
  unfold focusDirectional
  cases hactive : s.activeWindowId with
  | none => simpa using h.rearranged_refl
  | some id =>
    obtain ⟨i, tile, d, hidx, -, hd⟩ := h.active_idx (h.active_mem id hactive)
    simp only [returns_bind, returns_unwrap, Vec.returns_get]
    exact ⟨i, hidx, d, hd, activateFound_rearranged h _⟩

theorem focusLeast_rearranged (h : s.WellFormed) (coordinate : Point → ℚ) :
    Returns (s.focusLeast coordinate) fun t => Rearranged s t := by
  unfold focusLeast
  simp only [returns_bind, returns_pure]
  exact activateFound_rearranged h _

theorem focusGreatest_rearranged (h : s.WellFormed) (coordinate : Point → ℚ) :
    Returns (s.focusGreatest coordinate) fun t => Rearranged s t := by
  unfold focusGreatest
  simp only [returns_bind, returns_pure]
  exact activateFound_rearranged h _

/-! ### Sizes -/

theorem setWindowWidth_retouched (h : s.WellFormed) {id : Option Id}
    (hid : ∀ w ∈ id, w ∈ s.windowIds) (change : SizeChange) (animate : Bool) :
    Returns (s.setWindowWidth id change animate) fun t =>
      Rearranged s t ∧ t.windowIds = s.windowIds := by
  unfold setWindowWidth
  cases hw : s.target id with
  | none => exact returns_pure.mpr ⟨h.rearranged_refl, rfl⟩
  | some w =>
    obtain ⟨i, tile, d, hidx, htile, -⟩ := h.active_idx (target_mem h hid hw)
    simp only [returns_bind, returns_unwrap, Vec.returns_get, returns_pure]
    exact ⟨i, hidx, tile, htile, h.retouch_at htile (by simp [Tile.windowId])⟩

theorem setWindowHeight_retouched (h : s.WellFormed) {id : Option Id}
    (hid : ∀ w ∈ id, w ∈ s.windowIds) (change : SizeChange) (animate : Bool) :
    Returns (s.setWindowHeight id change animate) fun t =>
      Rearranged s t ∧ t.windowIds = s.windowIds := by
  unfold setWindowHeight
  cases hw : s.target id with
  | none => exact returns_pure.mpr ⟨h.rearranged_refl, rfl⟩
  | some w =>
    obtain ⟨i, tile, d, hidx, htile, -⟩ := h.active_idx (target_mem h hid hw)
    simp only [returns_bind, returns_unwrap, Vec.returns_get, returns_pure]
    exact ⟨i, hidx, tile, htile, h.retouch_at htile (by simp [Tile.windowId])⟩

theorem toggleWindowWidth_rearranged (h : s.WellFormed) {id : Option Id}
    (hid : ∀ w ∈ id, w ∈ s.windowIds) (forwards : Bool) :
    Returns (s.toggleWindowWidth id forwards) fun t => Rearranged s t := by
  unfold toggleWindowWidth
  cases hw : s.target id with
  | none => simpa using h.rearranged_refl
  | some w =>
    have hmem := target_mem h hid hw
    obtain ⟨i, tile, d, hidx, htile, -⟩ := h.active_idx hmem
    simp only [returns_bind, returns_unwrap, Vec.returns_get, returns_pure]
    refine ⟨i, hidx, tile, htile, (togglePreset_lt h.hasPresets.widths _ _ _ _ _).mono fun k hk => ?_⟩
    refine ⟨_, List.getElem?_eq_getElem hk, ?_⟩
    have hmem' : ∀ w' ∈ some w, w' ∈ s.windowIds := by simpa using hmem
    refine (setWindowWidth_retouched h hmem' _ true).mono fun t ht => ?_
    refine (ht.1.retouch_idx ht.2 (lt_of_idxOf hidx)
      (f := fun tile => { tile with floatingPresetWidthIdx := some k }) fun tile => rfl).mono
      fun tiles htiles => ?_
    exact htiles.trans (interactiveResizeEnd_rearranged htiles.wellFormed _)

theorem toggleWindowHeight_rearranged (h : s.WellFormed) {id : Option Id}
    (hid : ∀ w ∈ id, w ∈ s.windowIds) (forwards : Bool) :
    Returns (s.toggleWindowHeight id forwards) fun t => Rearranged s t := by
  unfold toggleWindowHeight
  cases hw : s.target id with
  | none => simpa using h.rearranged_refl
  | some w =>
    have hmem := target_mem h hid hw
    obtain ⟨i, tile, d, hidx, htile, -⟩ := h.active_idx hmem
    simp only [returns_bind, returns_unwrap, Vec.returns_get, returns_pure]
    refine ⟨i, hidx, tile, htile, (togglePreset_lt h.hasPresets.heights _ _ _ _ _).mono fun k hk => ?_⟩
    refine ⟨_, List.getElem?_eq_getElem hk, ?_⟩
    have hmem' : ∀ w' ∈ some w, w' ∈ s.windowIds := by simpa using hmem
    refine (setWindowHeight_retouched h hmem' _ true).mono fun t ht => ?_
    refine (ht.1.retouch_idx ht.2 (lt_of_idxOf hidx)
      (f := fun tile => { tile with floatingPresetHeightIdx := some k }) fun tile => rfl).mono
      fun tiles htiles => ?_
    exact htiles.trans (interactiveResizeEnd_rearranged htiles.wellFormed _)

/-- A resize begins on a window that is there. -/
theorem interactiveResizeBegin_rearranged (h : s.WellFormed) {window : Id}
    (hw : window ∈ s.windowIds) (edges : ResizeEdge) :
    Returns (s.interactiveResizeBegin window edges) fun r => Rearranged s r.1 := by
  unfold interactiveResizeBegin
  split_ifs
  · simpa using h.rearranged_refl
  · obtain ⟨tile, htile, hid⟩ := List.mem_map.mp hw
    have hsome : (s.tiles.find? fun tile => decide (tile.windowId = window)).isSome := by
      rw [List.find?_isSome]
      exact ⟨tile, htile, by simpa using hid⟩
    obtain ⟨found, hfound⟩ := Option.isSome_iff_exists.mp hsome
    simp only [returns_bind, returns_unwrap, returns_pure]
    refine ⟨found, hfound, ⟨h.length_data, h.active_eq_none, h.active_mem, ?_, h.hasPresets⟩,
      .refl _⟩
    rintro r ⟨⟩
    exact hw

theorem interactiveResizeUpdate_rearranged (h : s.WellFormed) (window : Id) (delta : Point) :
    Returns (s.interactiveResizeUpdate window delta) fun r => Rearranged s r.1 := by
  unfold interactiveResizeUpdate
  cases hresize : s.interactiveResize with
  | none => exact returns_pure.mpr h.rearranged_refl
  | some resize =>
    have hmem := h.resize_mem resize hresize
    have hwidth : Returns (s.resizeUpdateWidth resize delta) fun t => Rearranged s t := by
      unfold resizeUpdateWidth
      refine returns_ite.mpr ⟨fun _ => ?_, fun _ => returns_pure.mpr h.rearranged_refl⟩
      exact (setWindowWidth_retouched h (by simpa using hmem) _ _).mono fun t ht => ht.1
    have hheight : ∀ t, Rearranged s t →
        Returns (t.resizeUpdateHeight resize delta) fun u => Rearranged s u := by
      intro t ht
      have hmem' := ht.perm.mem_iff.mpr hmem
      unfold resizeUpdateHeight
      refine returns_ite.mpr ⟨fun _ => ?_, fun _ => returns_pure.mpr ht⟩
      exact (setWindowHeight_retouched ht.wellFormed (by simpa using hmem') _ _).mono
        fun u hu => ht.trans hu.1
    simp only [returns_ite, returns_pure, returns_bind]
    exact ⟨fun _ => h.rearranged_refl, fun _ => hwidth.mono hheight⟩

/-! ### Moving -/

omit [DecidableEq Id] in
theorem moveAndAnimate_rearranged (h : s.WellFormed) (clock : Clock) {i : ℕ}
    (hi : i < s.tiles.length) (pos : Point) :
    Returns (s.moveAndAnimate clock i pos) fun t => Rearranged s t := by
  obtain ⟨d, hd⟩ := h.data_of_tile hi
  unfold moveAndAnimate
  simp only [returns_bind, Vec.returns_get, returns_pure]
  refine ⟨s.tiles[i], List.getElem?_eq_getElem hi, d, hd, ?_⟩
  refine h.retouch (windowIds_set (List.getElem?_eq_getElem hi) ?_) (by simp) h.hasPresets
  split_ifs
  · exact Tile.windowId_animateMoveFrom _ _ _
  · rfl

theorem moveTo_rearranged (h : s.WellFormed) (clock : Clock) {i : ℕ} (hi : i < s.tiles.length)
    (pos : Point) (animate : Bool) :
    Returns (s.moveTo clock i pos animate) fun t => Rearranged s t := by
  obtain ⟨d, hd⟩ := h.data_of_tile hi
  have hend : ∀ t : FloatingSpace W Id, Rearranged s t →
      Rearranged s (t.interactiveResizeEnd none) :=
    fun t ht => ht.trans (interactiveResizeEnd_rearranged ht.wellFormed none)
  unfold moveTo
  cases animate with
  | true =>
    simp only [if_true, returns_bind, returns_pure]
    exact (moveAndAnimate_rearranged h clock hi pos).mono hend
  | false =>
    simp only [Bool.false_eq_true, if_false, returns_bind, Vec.returns_modify, returns_pure]
    have hids : s.tiles.map (·.windowId) = s.windowIds := rfl
    exact ⟨d, hd, hend _ (h.retouch hids (by simp) h.hasPresets)⟩

theorem moveBy_rearranged (h : s.WellFormed) (clock : Clock) (amount : Point) :
    Returns (s.moveBy clock amount) fun t => Rearranged s t := by
  unfold moveBy
  cases hactive : s.activeWindowId with
  | none => simpa using h.rearranged_refl
  | some id =>
    obtain ⟨i, tile, d, hidx, -, hd⟩ := h.active_idx (h.active_mem id hactive)
    simp only [returns_bind, returns_unwrap, Vec.returns_get]
    exact ⟨i, hidx, d, hd, moveTo_rearranged h clock (lt_of_idxOf hidx) _ _⟩

theorem moveWindow_rearranged (h : s.WellFormed) (clock : Clock) {id : Option Id}
    (hid : ∀ w ∈ id, w ∈ s.windowIds) (x y : PositionChange) (animate : Bool) :
    Returns (s.moveWindow clock id x y animate) fun t => Rearranged s t := by
  unfold moveWindow
  cases hw : s.target id with
  | none => simpa using h.rearranged_refl
  | some w =>
    obtain ⟨i, tile, d, hidx, -, hd⟩ := h.active_idx (target_mem h hid hw)
    simp only [returns_bind, returns_unwrap, Vec.returns_get]
    exact ⟨i, hidx, d, hd, moveTo_rearranged h clock (lt_of_idxOf hidx) _ _⟩

theorem centerWindow_rearranged (h : s.WellFormed) (clock : Clock) {id : Option Id}
    (hid : ∀ w ∈ id, w ∈ s.windowIds) :
    Returns (s.centerWindow clock id) fun t => Rearranged s t := by
  unfold centerWindow
  cases hw : s.target id with
  | none => simpa using h.rearranged_refl
  | some w =>
    obtain ⟨i, tile, d, hidx, -, hd⟩ := h.active_idx (target_mem h hid hw)
    simp only [returns_bind, returns_unwrap, Vec.returns_get]
    exact ⟨i, hidx, d, hd, moveTo_rearranged h clock (lt_of_idxOf hidx) _ _⟩

/-! ### Updates of windows -/

theorem descendantsAdded_rearranged (h : s.WellFormed) (id : Id) :
    Returns (s.descendantsAdded id) fun r => Rearranged s r.1 := by
  unfold descendantsAdded
  cases hidx : s.idxOf id with
  | none => simpa using h.rearranged_refl
  | some i =>
    simp only [returns_bind, returns_pure]
    exact (bringUpDescendantsOf_spec h.length_data (lt_of_idxOf hidx)).mono
      fun t ht => h.rearranged ht

theorem updateWindow_rearranged (h : s.WellFormed) (id : Id) (serial : Option ℕ) :
    Returns (s.updateWindow id serial) fun r => Rearranged s r.1 ∧
      (r.2 = true ↔ id ∈ s.windowIds) := by
  unfold updateWindow
  cases hidx : s.idxOf id with
  | none =>
    have hnot : id ∉ s.windowIds := by
      intro hmem
      obtain ⟨i, -, hi, -⟩ := idxOf_of_mem hmem
      simp [hidx] at hi
    simpa [hnot] using h.rearranged_refl
  | some i =>
    have hi := lt_of_idxOf hidx
    obtain ⟨d, hd⟩ := h.data_of_tile hi
    simp only [returns_bind, Vec.returns_get, returns_pure]
    refine ⟨s.tiles[i], List.getElem?_eq_getElem hi, d, hd, ?_, by simp [mem_of_idxOf hidx]⟩
    refine h.retouch (windowIds_set (List.getElem?_eq_getElem hi) ?_) (by simp) h.hasPresets
    cases serial <;> simp [Tile.windowId, Tile.updateWindow]

end FloatingSpace

end Sol
