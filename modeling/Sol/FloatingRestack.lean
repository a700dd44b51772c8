import Sol.FloatingSync

/-!
# Restacking in the floating space

What puts the tiles of the floating space in another order, adds one or takes one out, and what
the clients do to their windows: a commit, and a window's new parent.  Afterwards the data follow
the tiles again, and the windows are above their parents.

* `activateWindow_tended`, `insert_tended`, `removeTileByIdx_tended`;
* `descendantsAdded_tended`, `parentChanged_tended`: a window with a new parent is above it.
-/

namespace Sol

open Panicking Lineage ClientOwned

variable {W Id : Type} [LayoutElement W Id] [ClientOwned W] [DecidableEq Id]

namespace FloatingSpace

variable {s t u : FloatingSpace W Id}

/-! ### Operations that restack -/

section Restack

variable (h : s.data.length = s.tiles.length) (hs : Tended s) (hacyclic : Acyclic s.lineage)

include h hs hacyclic

theorem activateWindow_tended (id : Id) :
    Ensures (s.activateWindow id) fun r => Tended r.1 ∧ r.1.lineage.Perm s.lineage := by
  unfold activateWindow
  cases hidx : s.idxOf id with
  | none => exact ensures_pure.mpr ⟨hs, .refl _⟩
  | some idx =>
    obtain ⟨pre, top, below, hentries, rfl⟩ := exists_entry h (lt_of_idxOf hidx)
    have hraise := raiseWindow_withEntries (s := s) [] pre below top
    simp only [List.nil_append, List.length_nil, Nat.zero_add] at hraise
    rw [← hentries, withEntries_entries h] at hraise
    have hperm : (top :: (pre ++ below)).Perm s.entries := hentries ▸ List.perm_middle.symm
    have hkin := map_kin_entries h
    have hothers : Stacked ((pre ++ below).map kin) := by
      refine List.Pairwise.sublist ?_ hs.stacked
      rw [← hkin, hentries]
      exact ((List.sublist_cons_self top below).append_left pre).map kin
    have hcycle : Acyclic ((top :: (pre ++ below)).map kin) := by
      refine hacyclic.mono fun a ha => ?_
      rw [← hkin]
      exact (hperm.map kin).mem_iff.mp ha
    simp only [ensures_bind, ensures_pure]
    refine hraise.ensures.mono fun t ht => ?_
    subst ht
    refine (bringUpDescendantsOf_stacked { s with activeWindowId := some id } [] (pre ++ below) top
      hothers hcycle (by simp)).ensures.mono fun u hraised => ?_
    obtain ⟨l, hu, hl, hstacked⟩ := hraised
    have hordered := ordered_withEntries h (hl.trans hperm) hstacked (some id)
    exact hu ▸ ⟨hordered.tended hs.nodup, hordered.lineage⟩

theorem activateFound_tended (found : Option (Tile W × ℚ)) :
    Ensures (s.activateFound found) fun r => Tended r.1 ∧ r.1.lineage.Perm s.lineage := by
  unfold activateFound
  split
  · exact ensures_pure.mpr ⟨hs, .refl _⟩
  · simp only [ensures_bind, ensures_pure]
    exact activateWindow_tended h hs hacyclic _

theorem focusDirectional_tended (distance : Point → Point → ℚ) :
    Ensures (s.focusDirectional distance) fun r => Tended r.1 ∧ r.1.lineage.Perm s.lineage := by
  unfold focusDirectional
  split
  · exact ensures_pure.mpr ⟨hs, .refl _⟩
  · simp only [ensures_bind, ensures_unwrap, Vec.ensures_get]
    exact fun _ _ _ _ => activateFound_tended h hs hacyclic _

theorem focusLeast_tended (coordinate : Point → ℚ) :
    Ensures (s.focusLeast coordinate) fun t => Tended t ∧ t.lineage.Perm s.lineage := by
  unfold focusLeast
  simp only [ensures_bind, ensures_pure]
  exact activateFound_tended h hs hacyclic _

theorem focusGreatest_tended (coordinate : Point → ℚ) :
    Ensures (s.focusGreatest coordinate) fun t => Tended t ∧ t.lineage.Perm s.lineage := by
  unfold focusGreatest
  simp only [ensures_bind, ensures_pure]
  exact activateFound_tended h hs hacyclic _

end Restack

/-! ### Adding and removing -/

theorem removeTileByIdx_tended (hs : Tended s) (i : ℕ) : Ensures (s.removeTileByIdx i) fun r =>
    Tended r.2 ∧ ∀ a ∈ r.2.lineage, a ∈ s.lineage := by
  unfold removeTileByIdx
  simp only [ensures_bind, Vec.ensures_remove, ensures_pure]
  intro tile _ d _ active _
  have hlineage : (s.tiles.eraseIdx i).map Tile.kin = s.lineage.eraseIdx i := by
    rw [lineage, List.eraseIdx_map]
  have hids : (s.tiles.eraseIdx i).map Tile.windowId = s.windowIds.eraseIdx i := by
    rw [windowIds, List.eraseIdx_map]
  refine ⟨⟨?_, ?_⟩, fun a ha => ?_⟩
  · show ((s.tiles.eraseIdx i).map Tile.windowId).Nodup
    rw [hids]
    exact hs.nodup.eraseIdx i
  · show Stacked ((s.tiles.eraseIdx i).map Tile.kin)
    rw [hlineage]
    exact hs.stacked.sublist (List.eraseIdx_sublist ..)
  · change a ∈ (s.tiles.eraseIdx i).map Tile.kin at ha
    rw [hlineage] at ha
    exact List.mem_of_mem_eraseIdx ha

theorem removeTile_tended (hs : Tended s) (id : Id) : Ensures (s.removeTile id) fun r =>
    Tended r.2 ∧ ∀ a ∈ r.2.lineage, a ∈ s.lineage := by
  unfold removeTile
  simp only [ensures_bind, ensures_unwrap]
  exact fun i _ => removeTileByIdx_tended hs i

theorem removeActiveTile_tended (hs : Tended s) : Ensures s.removeActiveTile fun r =>
    Tended r.2 ∧ ∀ a ∈ r.2.lineage, a ∈ s.lineage := by
  unfold removeActiveTile
  split
  · exact ensures_pure.mpr ⟨hs, fun _ => id⟩
  · simp only [ensures_bind, ensures_pure]
    exact removeTile_tended hs _

/-- Nothing before the first element with a property, up to an index, has it. -/
theorem forall_mem_take_findIdx? {α : Type} (p : α → Bool) (l : List α) (idx : ℕ) :
    ∀ a ∈ l.take (((l.take idx).findIdx? p).getD idx), p a = false := by
  intro a ha
  cases hfind : (l.take idx).findIdx? p with
  | none =>
    rw [hfind] at ha
    exact List.findIdx?_eq_none_iff.mp hfind a ha
  | some i =>
    rw [hfind, Option.getD_some] at ha
    obtain ⟨hi, -, hbefore⟩ := List.findIdx?_eq_some_iff_getElem.mp hfind
    obtain ⟨j, hj, rfl⟩ := List.mem_iff_getElem.mp ha
    rw [List.length_take] at hi hj
    have := hbefore j (by omega)
    simpa using this

omit [LayoutElement W Id] [ClientOwned W] [DecidableEq Id] in
theorem insertIdx_withEntries (h : s.data.length = s.tiles.length) {i : ℕ}
    (hi : i ≤ s.tiles.length) (entry : Tile W × Data) :
    { s with tiles := s.tiles.insertIdx i entry.1, data := s.data.insertIdx i entry.2 } =
      s.withEntries (s.entries.take i ++ entry :: s.entries.drop i) := by
  have hlen : (s.entries.take i).length = i := by
    rw [List.length_take, entries, List.length_zip, h, min_self, min_eq_left hi]
  have hmap : ∀ {β : Type} (f : Tile W × Data → β), (s.entries.map f).insertIdx i (f entry) =
      (s.entries.take i ++ entry :: s.entries.drop i).map f := by
    intro β f
    have hinsert := insertIdx_append ((s.entries.take i).map f) ((s.entries.drop i).map f) (f entry)
    rw [← List.map_append, List.take_append_drop, List.length_map, hlen] at hinsert
    rw [hinsert, List.map_append, List.map_cons]
  have htiles : s.entries.map Prod.fst = s.tiles := List.map_fst_zip h.ge
  have hdata : s.entries.map Prod.snd = s.data := List.map_snd_zip h.le
  rw [withEntries, ← hmap, ← hmap, htiles, hdata]

/-- An inserted window is above its parent, and is brought up with its descendants. -/
theorem insert_tended (h : s.data.length = s.tiles.length) (hs : Tended s) {i : ℕ}
    (hi : i ≤ s.tiles.length) (entry : Tile W × Data)
    (hnew : entry.1.windowId ∉ s.windowIds) (hacyclic : Acyclic (kin entry :: s.lineage))
    (htop : ∀ tile ∈ s.tiles.take i, LayoutElement.isChildOf entry.1.window tile.window = false)
    (active : Option Id) :
    Ensures (({ s with
      tiles := s.tiles.insertIdx i entry.1
      data := s.data.insertIdx i entry.2
      activeWindowId := active } : FloatingSpace W Id).bringUpDescendantsOf i) fun t =>
        Tended t ∧ t.lineage.Perm (kin entry :: s.lineage) := by
  have hlen : (s.entries.take i).length = i := by
    rw [List.length_take, entries, List.length_zip, h, min_self, min_eq_left hi]
  have hperm : (s.entries.take i ++ entry :: s.entries.drop i).Perm (entry :: s.entries) := by
    refine List.perm_middle.trans (List.Perm.of_eq ?_)
    rw [List.take_append_drop]
  have hinserted := insertIdx_withEntries (s := { s with activeWindowId := active }) h hi entry
  have hkin := map_kin_entries h
  have hbrought := bringUpDescendantsOf_stacked { s with activeWindowId := active }
    (s.entries.take i) (s.entries.drop i) entry ?_ ?_ ?_
  · rw [hlen] at hbrought
    rw [hinserted]
    refine hbrought.ensures.mono fun t hraised => ?_
    obtain ⟨l, rfl, hl, hstacked⟩ := hraised
    have hentries := hl.trans hperm
    have hlineage : (l.map kin).Perm (kin entry :: s.lineage) := by
      rw [← hkin]
      exact hentries.map kin
    have hline : (({ s with activeWindowId := active } : FloatingSpace W Id).withEntries l).lineage =
        l.map kin := lineage_withEntries l
    refine ⟨⟨?_, by rw [hline]; exact hstacked⟩, by rw [hline]; exact hlineage⟩
    · rw [← map_fst_lineage, hline, (hlineage.map Prod.fst).nodup_iff, List.map_cons,
        map_fst_lineage]
      exact List.nodup_cons.mpr ⟨hnew, hs.nodup⟩
  · rw [List.take_append_drop, hkin]
    exact hs.stacked
  · refine hacyclic.mono fun a ha => ?_
    have hmem := (hperm.map kin).mem_iff.mp ha
    rwa [List.map_cons, hkin] at hmem
  · intro e he hchild
    have htile : e.1 ∈ s.tiles.take i := by
      have hfst : s.entries.map Prod.fst = s.tiles := List.map_fst_zip h.ge
      rw [← hfst, ← List.map_take]
      exact List.mem_map_of_mem he
    have := htop e.1 htile
    rw [(ClientOwned.isChildOf_iff _ _).mpr hchild] at this
    cases this

theorem addTileAt_tended (h : s.data.length = s.tiles.length) (hs : Tended s) (idx : ℕ)
    (tile : Tile W) (hnew : tile.windowId ∉ s.windowIds)
    (hacyclic : Acyclic (tile.kin :: s.lineage)) (activate : Bool) :
    Ensures (s.addTileAt idx tile activate) fun t =>
      Tended t ∧ t.lineage.Perm (tile.kin :: s.lineage) := by
  unfold addTileAt
  simp only [ensures_bind, Vec.ensures_insert]
  set added : Tile W := { tile.updateConfig s.viewSize s.scale s.options with
    window := LayoutElement.requestSizeOnce (tile.updateConfig s.viewSize s.scale s.options).window
      (addedWindowSize (tile.updateConfig s.viewSize s.scale s.options)) true } with hadded
  have hkin : added.kin = tile.kin := kin_request rfl
  have hid : added.windowId = tile.windowId := congrArg Prod.fst hkin
  intro _ hle
  rw [← hkin] at hacyclic ⊢
  exact insert_tended h hs hle (added, _) (hid ▸ hnew) hacyclic
    (forall_mem_take_findIdx? _ s.tiles idx) _

theorem addTileAbove_tended (h : s.data.length = s.tiles.length) (hs : Tended s) (above : Id)
    {tile : Tile W} (hnew : tile.windowId ∉ s.windowIds)
    (hacyclic : Acyclic (tile.kin :: s.lineage)) (activate : Bool) :
    Ensures (s.addTileAbove above tile activate) fun t =>
      Tended t ∧ t.lineage.Perm (tile.kin :: s.lineage) := by
  unfold addTileAbove
  simp only [ensures_bind, ensures_unwrap, Vec.ensures_get]
  intro i _ d _
  have hadded := fun floatingPos => addTileAt_tended h hs i
    { tile with floatingPos } hnew hacyclic activate
  exact hadded _

/-! ### What clients do -/

omit [ClientOwned W] in
/-- A window as its client has made it. -/
def withClient (s : FloatingSpace W Id) (window : Id) (change : W → W) : FloatingSpace W Id :=
  match s.idxOf window with
  | none => s
  | some idx => { s with
      tiles := s.tiles.modify idx fun tile => { tile with window := change tile.window } }

/-- A commit of a client, and the update of its window that follows. -/
def commit (s : FloatingSpace W Id) (window : Id) (change : W → W) (serial : Option ℕ) :
    Outcome (FloatingSpace W Id) := do
  let (s, _) ← (s.withClient window change).updateWindow window serial
  pure s

/-- The parent that a client gives its window. -/
def newParent (s : FloatingSpace W Id) (window : Id) (change : W → W) : Option Id :=
  (s.idxOf window).bind fun idx => s.tiles[idx]?.bind fun tile => parent (change tile.window)

/-- A client gives its window another parent (`parent_changed`): the parent's descendants are
brought up. -/
def parentChanged (s : FloatingSpace W Id) (window : Id) (change : W → W) :
    Outcome (FloatingSpace W Id) :=
  match s.newParent window change with
  | none => pure (s.withClient window change)
  | some newParent => do
    let (s, _) ← (s.withClient window change).descendantsAdded newParent
    pure s

omit [ClientOwned W] in
theorem withClient_of_idxOf {window : Id} {idx : ℕ} {tile : Tile W} (change : W → W)
    (hidx : s.idxOf window = some idx) (htile : s.tiles[idx]? = some tile) :
    s.withClient window change =
      { s with tiles := s.tiles.set idx { tile with window := change tile.window } } := by
  simp only [withClient, hidx]
  rw [List.modify_eq_set_getElem?, htile]
  rfl

omit [ClientOwned W] in
theorem withClient_of_absent {window : Id} (change : W → W) (hidx : s.idxOf window = none) :
    s.withClient window change = s := by
  simp only [withClient, hidx]

omit [ClientOwned W] in
theorem idxOf_congr (h : t.windowIds = s.windowIds) (window : Id) :
    t.idxOf window = s.idxOf window := by
  have hids : ∀ u : FloatingSpace W Id,
      u.idxOf window = u.windowIds.findIdx? fun id => id = window := by
    intro u
    rw [windowIds, List.findIdx?_map]
    rfl
  rw [hids, hids, h]

omit [ClientOwned W] in
/-- The window, its tile and whether it keeps its id. -/
theorem windowIds_withClient {window : Id} {change : W → W}
    (hid : ∀ tile ∈ s.tiles, tile.windowId = window →
      LayoutElement.id (change tile.window) = LayoutElement.id tile.window) :
    (s.withClient window change).windowIds = s.windowIds := by
  cases hidx : s.idxOf window with
  | none => rw [withClient_of_absent change hidx]
  | some idx =>
    obtain ⟨hlt, hwindow, -⟩ := List.findIdx?_eq_some_iff_getElem.mp hidx
    rw [withClient_of_idxOf change hidx (List.getElem?_eq_getElem hlt)]
    exact windowIds_set (List.getElem?_eq_getElem hlt)
      (hid _ (List.getElem_mem hlt) (of_decide_eq_true hwindow))

/-- What a commit of a client leaves of its window. -/
structure Commits (w w' : W) : Prop where
  id_eq : LayoutElement.id w' = LayoutElement.id w
  parent_eq : parent w' = parent w
  mode_eq : LayoutElement.pendingSizingMode w' = LayoutElement.pendingSizingMode w

/-- What a new parent leaves of a window. -/
structure Reparented (w w' : W) : Prop where
  id_eq : LayoutElement.id w' = LayoutElement.id w
  size_eq : LayoutElement.size w' = LayoutElement.size w
  mode_eq : LayoutElement.pendingSizingMode w' = LayoutElement.pendingSizingMode w

theorem commit_touched {window : Id} {change : W → W}
    (hchange : ∀ tile ∈ s.tiles, tile.windowId = window → Commits tile.window (change tile.window))
    (serial : Option ℕ) : Ensures (s.commit window change serial) (Touched s) := by
  unfold commit
  simp only [ensures_bind, ensures_pure]
  have hids := windowIds_withClient fun tile htile hid => (hchange tile htile hid).id_eq
  cases hidx : s.idxOf window with
  | none =>
    rw [withClient_of_absent change hidx]
    simp only [updateWindow, hidx, ensures_pure]
    exact .refl s
  | some idx =>
    obtain ⟨hlt, hwindow, -⟩ := List.findIdx?_eq_some_iff_getElem.mp hidx
    have htile := List.getElem?_eq_getElem hlt
    have hcommits := hchange _ (List.getElem_mem hlt) (of_decide_eq_true hwindow)
    have hidx' := (idxOf_congr hids window).trans hidx
    rw [withClient_of_idxOf change hidx htile] at hidx' ⊢
    simp only [updateWindow, hidx', ensures_bind, Vec.ensures_get, ensures_pure]
    intro tile htile' d hd
    rw [List.getElem?_set_self hlt, Option.some.injEq] at htile'
    subst htile'
    rw [List.set_set]
    refine touched_set htile hd ?_ fun hsync => ?_
    · cases serial <;>
        simp [Tile.kin, Tile.windowId, Tile.updateWindow, hcommits.id_eq, hcommits.parent_eq]
    · generalize LayoutElement.interactiveResizeData (W := W) _ = resize
      cases resize with
      | none => exact inSync_update hsync.workingArea_eq hsync.recomputed
      | some resize =>
        exact inSync_setLogicalPos (size_update d _)
          ((workingArea_update d _).trans hsync.workingArea_eq) _

/-- When only children of one window are below their parent, they are brought up again. -/
theorem descendantsAdded_tended (h : s.data.length = s.tiles.length) (hnodup : s.windowIds.Nodup)
    (hacyclic : Acyclic s.lineage) {id : Id}
    (hstacked : s.lineage.Pairwise fun above below => ChildOf below above → above.1 = id) :
    Ensures (s.descendantsAdded id) fun r => Tended r.1 ∧ r.1.lineage.Perm s.lineage := by
  unfold descendantsAdded
  cases hidx : s.idxOf id with
  | none =>
    refine ensures_pure.mpr ⟨⟨hnodup, ?_⟩, .refl _⟩
    refine hstacked.imp_of_mem fun {above below} habove _ hbelow hchild => ?_
    have hmem : id ∈ s.windowIds := by
      rw [← map_fst_lineage, ← hbelow hchild]
      exact List.mem_map_of_mem habove
    obtain ⟨idx, -, hfound, -⟩ := idxOf_of_mem hmem
    cases hidx.symm.trans hfound
  | some idx =>
    obtain ⟨hlt, hid, -⟩ := List.findIdx?_eq_some_iff_getElem.mp hidx
    obtain ⟨pre, top, below, hentries, rfl⟩ := exists_entry h hlt
    have hkin := map_kin_entries h
    rw [hentries] at hkin
    have htop : (kin top).1 = id := by
      have hget : s.lineage[pre.length]? = some (kin top) := by
        rw [← hkin, List.getElem?_map, List.getElem?_append_right le_rfl, Nat.sub_self]
        rfl
      rw [lineage, List.getElem?_map, List.getElem?_eq_getElem hlt] at hget
      exact (congrArg Prod.fst (Option.some.inj hget)).symm.trans (of_decide_eq_true hid)
    have hothers : ∀ entry ∈ pre ++ below, (kin entry).1 ≠ id := by
      rw [← map_fst_lineage, ← hkin, List.map_map, List.map_append, List.map_cons,
        List.nodup_middle, ← List.map_append, List.nodup_cons] at hnodup
      refine fun entry hentry heq => hnodup.1 ?_
      rw [Function.comp_apply, htop, ← heq]
      exact List.mem_map_of_mem (f := Prod.fst ∘ kin) hentry
    rw [← hkin, List.pairwise_map] at hstacked
    have hsub : (pre ++ below).Sublist (pre ++ top :: below) :=
      (List.sublist_cons_self top below).append_left pre
    have hbrought := bringUpDescendantsOf_stacked s pre below top ?_ (hkin ▸ hacyclic) ?_
    · rw [← hentries, withEntries_entries h] at hbrought
      simp only [ensures_bind, ensures_pure]
      refine hbrought.ensures.mono fun t hraised => ?_
      obtain ⟨l, ht, hl, hgood⟩ := hraised
      have hordered := ordered_withEntries h (hentries ▸ hl) hgood s.activeWindowId
      exact ht ▸ ⟨hordered.tended hnodup, hordered.lineage⟩
    · rw [Stacked, List.pairwise_map]
      exact (hstacked.sublist hsub).imp_of_mem fun habove _ himp hchild =>
        hothers _ habove (himp hchild)
    · intro entry hentry hchild
      have hpair := (List.pairwise_append.mp hstacked).2.2 entry hentry top List.mem_cons_self
      exact hothers entry (List.mem_append_left _ hentry) (hpair hchild)

theorem parentChanged_synced (hs : Synced s) {window : Id} {change : W → W}
    (hchange : ∀ tile ∈ s.tiles, tile.windowId = window →
      Reparented tile.window (change tile.window)) :
    Ensures (s.parentChanged window change) Synced := by
  have hchanged : Synced (s.withClient window change) := by
    cases hidx : s.idxOf window with
    | none =>
      rw [withClient_of_absent change hidx]
      exact hs
    | some idx =>
      obtain ⟨hlt, hwindow, -⟩ := List.findIdx?_eq_some_iff_getElem.mp hidx
      have hreparented := hchange _ (List.getElem_mem hlt) (of_decide_eq_true hwindow)
      rw [withClient_of_idxOf change hidx (List.getElem?_eq_getElem hlt)]
      exact synced_setTile (List.getElem?_eq_getElem hlt)
        (tileSize_congr hreparented.size_eq rfl) hs
  unfold parentChanged
  split
  · exact ensures_pure.mpr hchanged
  · simp only [ensures_bind, ensures_pure]
    exact descendantsAdded_synced hchanged _

/-- A parent whose descendants are brought up is below them again. -/
theorem parentChanged_tended (h : s.data.length = s.tiles.length) (hs : Tended s) {window : Id}
    {change : W → W} (hchange : ∀ tile ∈ s.tiles, tile.windowId = window →
      Reparented tile.window (change tile.window))
    (hacyclic : Acyclic (s.withClient window change).lineage) :
    Ensures (s.parentChanged window change) fun t =>
      Tended t ∧ t.lineage.Perm (s.withClient window change).lineage := by
  have hids := windowIds_withClient fun tile htile hid => (hchange tile htile hid).id_eq
  unfold parentChanged
  cases hidx : s.idxOf window with
  | none =>
    have hnone : s.newParent window change = none := by rw [newParent, hidx, Option.bind_none]
    rw [hnone, withClient_of_absent change hidx]
    exact ensures_pure.mpr ⟨hs, .refl _⟩
  | some idx =>
    obtain ⟨hlt, hwindow, -⟩ := List.findIdx?_eq_some_iff_getElem.mp hidx
    have htile := List.getElem?_eq_getElem hlt
    have hreparented := hchange _ (List.getElem_mem hlt) (of_decide_eq_true hwindow)
    let changed : Tile W := { s.tiles[idx] with window := change s.tiles[idx].window }
    have hnew : s.newParent window change = changed.kin.2 := by
      rw [newParent, hidx, Option.bind_some, htile]
      rfl
    have hwithClient : s.withClient window change = { s with tiles := s.tiles.set idx changed } :=
      withClient_of_idxOf change hidx htile
    have hset : (s.withClient window change).lineage.Pairwise
        fun above below => ChildOf below above → below = changed.kin := by
      rw [hwithClient, lineage, List.map_set]
      refine pairwise_set hs.stacked (a := s.tiles[idx].kin) ?_ hreparented.id_eq
      rw [lineage, List.getElem?_map, htile]
      rfl
    have hlen : (s.withClient window change).data.length =
        (s.withClient window change).tiles.length := by
      rw [hwithClient]
      simpa using h
    rw [hnew]
    cases hparent : changed.kin.2 with
    | none =>
      refine ensures_pure.mpr ⟨⟨hids ▸ hs.nodup, hset.imp fun himp hchild => ?_⟩, .refl _⟩
      rw [himp hchild, ChildOf, hparent] at hchild
      cases hchild
    | some newParent =>
      simp only [ensures_bind, ensures_pure]
      refine descendantsAdded_tended hlen (hids ▸ hs.nodup) hacyclic
        (hset.imp fun {above below} himp hchild => ?_)
      rw [himp hchild, ChildOf, hparent] at hchild
      exact (Option.some.inj hchild).symm

end FloatingSpace

end Sol
