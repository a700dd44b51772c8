import Sol.Lineage
import Sol.Requests

/-!
# Dialogs in the floating space

The tiles of the floating space with their data, and the windows' parents.  Tiles are moved
together with their data, and a window that is raised takes its dialogs along.

* `bringUpDescendantsOf_entries`: which entries are brought up, and in which order;
* `Tended`: what is kept of the entries.
-/

namespace Sol

open Panicking Lineage

variable {W Id : Type} [LayoutElement W Id]

/-- Windows that are resized, and that are given parents, by their clients alone. -/
class ClientOwned (W : Type) {Id : outParam Type} [LayoutElement W Id] where
  parent : W → Option Id
  isChildOf_iff : ∀ w p : W,
    LayoutElement.isChildOf w p = true ↔ parent w = some (LayoutElement.id p)
  parent_requestSizeOnce : ∀ w size animate,
    parent (LayoutElement.requestSizeOnce w size animate) = parent w
  parent_setActivated : ∀ w active, parent (LayoutElement.setActivated w active) = parent w
  parent_setActiveInColumn : ∀ w active, parent (LayoutElement.setActiveInColumn w active) = parent w
  parent_setFloating : ∀ w floating, parent (LayoutElement.setFloating w floating) = parent w
  parent_setBounds : ∀ w bounds, parent (LayoutElement.setBounds w bounds) = parent w
  parent_setInteractiveResize : ∀ w data,
    parent (LayoutElement.setInteractiveResize w data) = parent w
  parent_sendPendingConfigure : ∀ w, parent (LayoutElement.sendPendingConfigure w) = parent w
  parent_onCommit : ∀ w serial, parent (LayoutElement.onCommit w serial) = parent w
  size_requestSizeOnce : ∀ (w : W) size animate,
    LayoutElement.size (LayoutElement.requestSizeOnce w size animate) = LayoutElement.size w
  size_setActivated : ∀ (w : W) active,
    LayoutElement.size (LayoutElement.setActivated w active) = LayoutElement.size w
  size_setActiveInColumn : ∀ (w : W) active,
    LayoutElement.size (LayoutElement.setActiveInColumn w active) = LayoutElement.size w
  size_setFloating : ∀ (w : W) floating,
    LayoutElement.size (LayoutElement.setFloating w floating) = LayoutElement.size w
  size_setBounds : ∀ (w : W) bounds,
    LayoutElement.size (LayoutElement.setBounds w bounds) = LayoutElement.size w
  size_setInteractiveResize : ∀ (w : W) data,
    LayoutElement.size (LayoutElement.setInteractiveResize w data) = LayoutElement.size w
  size_sendPendingConfigure : ∀ w : W,
    LayoutElement.size (LayoutElement.sendPendingConfigure w) = LayoutElement.size w

attribute [simp] ClientOwned.parent_requestSizeOnce ClientOwned.parent_setActivated
  ClientOwned.parent_setActiveInColumn ClientOwned.parent_setFloating ClientOwned.parent_setBounds
  ClientOwned.parent_setInteractiveResize ClientOwned.parent_sendPendingConfigure
  ClientOwned.parent_onCommit ClientOwned.size_requestSizeOnce ClientOwned.size_setActivated
  ClientOwned.size_setActiveInColumn ClientOwned.size_setFloating ClientOwned.size_setBounds
  ClientOwned.size_setInteractiveResize ClientOwned.size_sendPendingConfigure

instance : ClientOwned Sample.Toplevel where
  parent w := w.parent
  isChildOf_iff _ _ := beq_iff_eq
  parent_requestSizeOnce _ _ _ := rfl
  parent_setActivated _ _ := rfl
  parent_setActiveInColumn _ _ := rfl
  parent_setFloating _ _ := rfl
  parent_setBounds _ _ := rfl
  parent_setInteractiveResize _ _ := rfl
  parent_sendPendingConfigure _ := rfl
  parent_onCommit _ _ := rfl
  size_requestSizeOnce _ _ _ := rfl
  size_setActivated _ _ := rfl
  size_setActiveInColumn _ _ := rfl
  size_setFloating _ _ := rfl
  size_setBounds _ _ := rfl
  size_setInteractiveResize _ _ := rfl
  size_sendPendingConfigure _ := rfl

/-- A window, and its parent. -/
def Tile.kin [ClientOwned W] (tile : Tile W) : Id × Option Id :=
  (tile.windowId, ClientOwned.parent tile.window)

namespace FloatingSpace

variable {s t u : FloatingSpace W Id}

/-- The tiles with their data. -/
def entries (s : FloatingSpace W Id) : List (Tile W × Data) := List.zip s.tiles s.data

/-- The space with other tiles. -/
def withEntries (s : FloatingSpace W Id) (l : List (Tile W × Data)) : FloatingSpace W Id :=
  { s with tiles := l.map Prod.fst, data := l.map Prod.snd }

omit [LayoutElement W Id] in
@[simp] theorem entries_withEntries (l : List (Tile W × Data)) : (s.withEntries l).entries = l :=
  (List.zip_of_prod rfl rfl).symm

omit [LayoutElement W Id] in
theorem withEntries_entries (h : s.data.length = s.tiles.length) :
    s.withEntries s.entries = s := by
  unfold withEntries entries
  rw [List.map_fst_zip h.ge, List.map_snd_zip h.le]

omit [LayoutElement W Id] in
theorem mem_entries {entry : Tile W × Data} :
    entry ∈ s.entries ↔ ∃ i : ℕ, s.tiles[i]? = some entry.1 ∧ s.data[i]? = some entry.2 := by
  rw [entries, List.mem_iff_getElem?]
  exact exists_congr fun i => List.getElem?_zip_eq_some

omit [LayoutElement W Id] in
/-- The entry of a tile, with what is above it and what is below it. -/
theorem exists_entry (h : s.data.length = s.tiles.length) {idx : ℕ} (hi : idx < s.tiles.length) :
    ∃ pre top below, s.entries = pre ++ top :: below ∧ pre.length = idx := by
  have hlt : idx < s.entries.length := by
    rw [entries, List.length_zip, h, min_self]
    exact hi
  refine ⟨s.entries.take idx, s.entries[idx], s.entries.drop (idx + 1), ?_, ?_⟩
  · rw [List.getElem_cons_drop, List.take_append_drop]
  · rw [List.length_take, min_eq_left hlt.le]

/-! ### Bringing up descendants -/

theorem insertIdx_append {α : Type} (pre l : List α) (x : α) :
    (pre ++ l).insertIdx pre.length x = pre ++ x :: l := by
  induction pre with
  | nil => rfl
  | cons a pre ih => exact congrArg (a :: ·) ih

theorem eraseIdx_append {α : Type} (pre l : List α) (x : α) :
    (pre ++ x :: l).eraseIdx pre.length = pre ++ l := by
  rw [List.eraseIdx_append_of_length_le le_rfl, Nat.sub_self, List.eraseIdx_cons_zero]

omit [LayoutElement W Id] in
/-- A tile is raised with its data. -/
theorem raiseWindow_withEntries (pre mid l : List (Tile W × Data)) (entry : Tile W × Data) :
    Returns ((s.withEntries (pre ++ mid ++ entry :: l)).raiseWindow (pre.length + mid.length)
      pre.length) fun t => t = s.withEntries (pre ++ entry :: (mid ++ l)) := by
  have hget : (pre ++ mid ++ entry :: l)[pre.length + mid.length]? = some entry := by
    rw [List.getElem?_append_right (by simp)]
    simp
  have herase : ∀ {β : Type} (f : Tile W × Data → β),
      ((pre ++ mid ++ entry :: l).map f).eraseIdx (pre.length + mid.length) =
        pre.map f ++ (mid ++ l).map f := by
    intro β f
    have := eraseIdx_append ((pre ++ mid).map f) (l.map f) (f entry)
    simpa using this
  have hinsert : ∀ {β : Type} (f : Tile W × Data → β),
      (pre.map f ++ (mid ++ l).map f).insertIdx pre.length (f entry) =
        (pre ++ entry :: (mid ++ l)).map f := by
    intro β f
    have := insertIdx_append (pre.map f) ((mid ++ l).map f) (f entry)
    simpa using this
  unfold raiseWindow
  simp only [withEntries, returns_bind, returns_assert, Vec.returns_remove, Vec.returns_insert,
    returns_pure, List.getElem?_map, hget, herase]
  exact ⟨Nat.le_add_right _ _, entry.1, rfl, entry.2, rfl, by simp, by simp,
    congrArg₂ (fun tiles data => { s with tiles, data }) (hinsert Prod.fst) (hinsert Prod.snd)⟩

/-! ### Bringing up descendants -/

/-- The window of an entry, and its parent. -/
abbrev kin [ClientOwned W] (entry : Tile W × Data) : Id × Option Id := entry.1.kin

section BringUp

variable [ClientOwned W] [DecidableEq Id]

/-- The descendants of a window among the entries below it, and the other entries. -/
abbrev splitBelow (top : Tile W × Data) (below : List (Tile W × Data)) :
    List (Tile W × Data) × List (Tile W × Data) := split kin top below

theorem splitBelow_cons (top entry : Tile W × Data) (below : List (Tile W × Data)) :
    splitBelow top (entry :: below) =
      if ChildOf (kin entry) (kin top) ∨
          ∃ b ∈ (splitBelow top below).1, ChildOf (kin entry) (kin b) then
        (entry :: (splitBelow top below).1, (splitBelow top below).2)
      else ((splitBelow top below).1, entry :: (splitBelow top below).2) := split_cons entry below

variable {top : Tile W × Data} {tiles : List (Tile W)}

/-- Whether a tile descends from the raised one shows in the ones found below it. -/
theorem descendantsOf_cons {entry : Tile W × Data} {below : List (Tile W × Data)} {k : ℕ}
    {is : List ℕ} (hk : tiles[k]? = some entry.1)
    (hfound : (descendantsOf tiles top.1.window is).filterMap (tiles[·]?) =
      (splitBelow top below).1.map Prod.fst) :
    descendantsOf tiles top.1.window (k :: is) =
      if ChildOf (kin entry) (kin top) ∨
          ∃ b ∈ (splitBelow top below).1, ChildOf (kin entry) (kin b) then
        k :: descendantsOf tiles top.1.window is
      else descendantsOf tiles top.1.window is := by
  have hany : ∀ p : Tile W → Bool,
      ((descendantsOf tiles top.1.window is).any fun j => tiles[j]?.any p) =
        ((descendantsOf tiles top.1.window is).filterMap (tiles[·]?)).any p := by
    intro p
    rw [List.any_filterMap]
    refine congrArg _ (funext fun j => ?_)
    cases tiles[j]? <;> rfl
  rw [descendantsOf]
  simp only [hk]
  refine if_congr ?_ rfl rfl
  rw [Bool.or_eq_true, hany, hfound, List.any_map, List.any_eq_true]
  exact or_congr (ClientOwned.isChildOf_iff _ _) (exists_congr fun _ =>
    and_congr_right fun _ => ClientOwned.isChildOf_iff _ _)

/-- The first of the tiles from an index on, and the tiles behind it. -/
theorem drop_succ {entry : Tile W × Data} {below : List (Tile W × Data)} {k : ℕ}
    (h : tiles.drop k = (entry :: below).map Prod.fst) :
    tiles[k]? = some entry.1 ∧ tiles.drop (k + 1) = below.map Prod.fst := by
  rw [← List.head?_drop, ← List.tail_drop, h]
  exact ⟨rfl, rfl⟩

/-- What the code searches for, among the tiles from an index on. -/
theorem descendantsOf_split (below : List (Tile W × Data)) {k : ℕ}
    (hbelow : tiles.drop k = below.map Prod.fst) :
    (descendantsOf tiles top.1.window (List.range' k below.length)).filterMap (tiles[·]?) =
      (splitBelow top below).1.map Prod.fst := by
  induction below generalizing k with
  | nil => rfl
  | cons entry below ih =>
    obtain ⟨hk, htail⟩ := drop_succ hbelow
    rw [List.length_cons, List.range'_succ, descendantsOf_cons hk (ih htail), splitBelow_cons]
    split_ifs
    · rw [List.filterMap_cons, hk, List.map_cons, ih htail]
    · exact ih htail

/-- The descendants are raised one after the other, past what is between. -/
theorem raiseAll_withEntries (top : Tile W × Data) (below pre mid : List (Tile W × Data)) {k : ℕ}
    (hk : pre.length + mid.length = k) (hbelow : tiles.drop k = below.map Prod.fst) :
    Returns ((s.withEntries (pre ++ mid ++ below)).raiseAll pre.length
      (descendantsOf tiles top.1.window (List.range' k below.length))) fun t =>
        t = s.withEntries (pre ++ (splitBelow top below).1 ++
          (mid ++ (splitBelow top below).2)) := by
  induction below generalizing pre mid k with
  | nil =>
    refine returns_pure.mpr ?_
    simp [split]
  | cons entry below ih =>
    subst hk
    obtain ⟨htile, htail⟩ := drop_succ hbelow
    rw [List.length_cons, List.range'_succ, descendantsOf_cons htile (descendantsOf_split _ htail),
      splitBelow_cons]
    split_ifs
    · unfold raiseAll
      rw [returns_bind]
      refine (raiseWindow_withEntries pre mid below entry).mono fun t ht => ?_
      subst ht
      have hnext := ih (pre ++ [entry]) mid (by simp; omega) htail
      simpa using hnext
    · have hnext := ih pre (mid ++ [entry]) (by simp; omega) htail
      simpa using hnext

/-- A window's descendants are put above it, in their order. -/
theorem bringUpDescendantsOf_entries (pre below : List (Tile W × Data)) (top : Tile W × Data) :
    Returns ((s.withEntries (pre ++ top :: below)).bringUpDescendantsOf pre.length) fun t =>
      t = s.withEntries (pre ++ (splitBelow top below).1 ++
        top :: (splitBelow top below).2) := by
  have htop : (s.withEntries (pre ++ top :: below)).tiles[pre.length]? = some top.1 := by
    simp [withEntries]
  have hbelow : (s.withEntries (pre ++ top :: below)).tiles.drop (pre.length + 1) =
      below.map Prod.fst := by
    simp only [withEntries, List.map_append, List.map_cons]
    rw [← List.drop_drop, List.drop_left' (List.length_map _), List.drop_one, List.tail_cons]
  have hrange : (List.range (s.withEntries (pre ++ top :: below)).tiles.length).drop
      (pre.length + 1) = List.range' (pre.length + 1) below.length := by
    simp only [withEntries, List.length_map, List.length_append, List.length_cons,
      List.range_eq_range', List.drop_range']
    congr 1 <;> omega
  unfold bringUpDescendantsOf
  simp only [returns_bind, Vec.returns_get]
  refine ⟨top.1, htop, ?_⟩
  rw [hrange]
  have hraised := raiseAll_withEntries (s := s) top below pre [top] rfl hbelow
  simpa using hraised

/-- What is below nothing of its own is above all of its descendants' places at once. -/
theorem bringUpDescendantsOf_stacked (s : FloatingSpace W Id) (pre below : List (Tile W × Data))
    (top : Tile W × Data) (hstacked : Stacked ((pre ++ below).map kin))
    (hacyclic : Acyclic ((pre ++ top :: below).map kin))
    (htop : ∀ entry ∈ pre, ¬ChildOf (kin top) (kin entry)) :
    Returns ((s.withEntries (pre ++ top :: below)).bringUpDescendantsOf pre.length) fun t =>
      ∃ l, t = s.withEntries l ∧ l.Perm (pre ++ top :: below) ∧ Stacked (l.map kin) := by
  refine (bringUpDescendantsOf_entries pre below top).mono fun t ht => ⟨_, ht, ?_, ?_⟩
  · rw [List.append_assoc]
    exact (List.perm_middle.trans ((perm_split below).cons top)).append_left pre
  · exact stacked_bringUp hstacked hacyclic htop

end BringUp

/-! ### What is kept of the entries -/

section Tended

variable [ClientOwned W]

/-- The windows and their parents, in stacking order. -/
def lineage (s : FloatingSpace W Id) : List (Id × Option Id) := s.tiles.map Tile.kin

/-- The data of a tile are up to date. -/
structure InSync (area : Rect) (entry : Tile W × Data) : Prop where
  size_eq : entry.2.size = entry.1.tileSize
  workingArea_eq : entry.2.workingArea = area
  recomputed : entry.2.recomputeLogicalPos = entry.2

omit [ClientOwned W] in
/-- All data are up to date. -/
def Synced (s : FloatingSpace W Id) : Prop := ∀ entry ∈ s.entries, InSync s.workingArea entry

/-- The windows are apart, and stacked above their parents. -/
structure Tended (s : FloatingSpace W Id) : Prop where
  nodup : s.windowIds.Nodup
  stacked : Stacked s.lineage

/-- The windows in a good order. -/
structure Ordered (s t : FloatingSpace W Id) : Prop where
  lineage : t.lineage.Perm s.lineage
  stacked : Stacked t.lineage

/-- The entries in their order, with the same windows. -/
structure Touched (s t : FloatingSpace W Id) : Prop where
  lineage_eq : t.lineage = s.lineage
  synced : Synced s → Synced t

theorem map_fst_lineage : s.lineage.map Prod.fst = s.windowIds := by
  rw [lineage, List.map_map]
  rfl

theorem lineage_withEntries (l : List (Tile W × Data)) : (s.withEntries l).lineage = l.map kin := by
  simp [lineage, withEntries, Function.comp_def]

theorem map_kin_entries (h : s.data.length = s.tiles.length) : s.entries.map kin = s.lineage := by
  rw [← lineage_withEntries (s := s), withEntries_entries h]

theorem Ordered.tended (h : Ordered s t) (hnodup : s.windowIds.Nodup) : Tended t := by
  refine ⟨?_, h.stacked⟩
  rw [← map_fst_lineage, (h.lineage.map _).nodup_iff, map_fst_lineage]
  exact hnodup

theorem Tended.touched (hs : Tended s) (h : Touched s t) : Tended t := by
  refine ⟨?_, h.lineage_eq ▸ hs.stacked⟩
  rw [← map_fst_lineage, h.lineage_eq, map_fst_lineage]
  exact hs.nodup

theorem Touched.refl (s : FloatingSpace W Id) : Touched s s := ⟨rfl, id⟩

theorem Touched.trans (h : Touched s t) (h' : Touched t u) : Touched s u :=
  ⟨h'.lineage_eq.trans h.lineage_eq, fun hs => h'.synced (h.synced hs)⟩

/-- Other fields of the space do not matter. -/
theorem touched_of_eq (htiles : t.tiles = s.tiles) (hdata : t.data = s.data)
    (harea : t.workingArea = s.workingArea) : Touched s t := by
  refine ⟨by rw [lineage, htiles, lineage], ?_⟩
  have hentries : t.entries = s.entries := congrArg₂ List.zip htiles hdata
  rw [Synced, Synced, hentries, harea]
  exact id

/-- The space with its entries in another order. -/
theorem ordered_withEntries (h : s.data.length = s.tiles.length) {l : List (Tile W × Data)}
    (hl : l.Perm s.entries) (hstacked : Stacked (l.map kin)) (id : Option Id) :
    Ordered s ({ s with activeWindowId := id }.withEntries l) := by
  refine ⟨?_, ?_⟩
  · rw [lineage_withEntries, ← map_kin_entries h]
    exact hl.map _
  · rw [lineage_withEntries]
    exact hstacked

theorem lineage_set {i : ℕ} {tile tile' : Tile W} {data : List Data}
    (htile : s.tiles[i]? = some tile) (hkin : tile'.kin = tile.kin) :
    ({ s with tiles := s.tiles.set i tile', data } : FloatingSpace W Id).lineage = s.lineage := by
  obtain ⟨hlt, rfl⟩ := List.getElem?_eq_some_iff.mp htile
  rw [lineage, lineage, List.map_set, hkin, ← List.map_set, List.set_getElem_self]

/-- A tile changed with its data, in its place. -/
theorem touched_set {i : ℕ} {tile tile' : Tile W} {d d' : Data} (htile : s.tiles[i]? = some tile)
    (hd : s.data[i]? = some d) (hkin : tile'.kin = tile.kin)
    (hsync : InSync s.workingArea (tile, d) → InSync s.workingArea (tile', d')) :
    Touched s { s with tiles := s.tiles.set i tile', data := s.data.set i d' } := by
  refine ⟨lineage_set htile hkin, fun hs entry hentry => ?_⟩
  obtain ⟨j, hj, hj'⟩ := mem_entries.mp hentry
  simp only [List.getElem?_set] at hj hj'
  split_ifs at hj hj' with hij hlt hlt'
  · obtain ⟨rfl, rfl⟩ : tile' = entry.1 ∧ d' = entry.2 := ⟨Option.some.inj hj, Option.some.inj hj'⟩
    exact hsync (hs (tile, d) (mem_entries.mpr ⟨i, htile, hd⟩))
  · exact hs entry (mem_entries.mpr ⟨j, hj, hj'⟩)

omit [ClientOwned W] in
/-- A tile of the same size needs no other data. -/
theorem synced_setTile {i : ℕ} {tile tile' : Tile W} (htile : s.tiles[i]? = some tile)
    (hsize : tile'.tileSize = tile.tileSize)
    (hs : Synced s) : Synced { s with tiles := s.tiles.set i tile' } := by
  intro entry hentry
  obtain ⟨j, hj, hd⟩ := mem_entries.mp hentry
  simp only [List.getElem?_set] at hj
  split_ifs at hj with hij hlt
  · subst hij
    have hsync := hs (tile, entry.2) (mem_entries.mpr ⟨i, htile, hd⟩)
    refine ⟨?_, hsync.workingArea_eq, hsync.recomputed⟩
    rw [← Option.some.inj hj, hsize]
    exact hsync.size_eq
  · exact hs entry (mem_entries.mpr ⟨j, hj, hd⟩)

/-- A tile changed without its data. -/
theorem touched_setTile {i : ℕ} {tile tile' : Tile W} (htile : s.tiles[i]? = some tile)
    (hkin : tile'.kin = tile.kin) (hsize : tile'.tileSize = tile.tileSize) :
    Touched s { s with tiles := s.tiles.set i tile' } :=
  ⟨lineage_set htile hkin, synced_setTile htile hsize⟩

/-- All tiles are changed, without their data. -/
theorem touched_mapTiles {f : Tile W → Tile W} (hkin : ∀ tile, (f tile).kin = tile.kin)
    (hsize : ∀ tile, (f tile).tileSize = tile.tileSize) : Touched s (s.mapTiles f) := by
  refine ⟨?_, fun hs entry hentry => ?_⟩
  · simp [lineage, mapTiles, Function.comp_def, hkin]
  · obtain ⟨i, hi, hd⟩ := mem_entries.mp hentry
    obtain ⟨tile, htile, heq⟩ := Option.map_eq_some_iff.mp ((List.getElem?_map ..).symm.trans hi)
    have hsync := hs (tile, entry.2) (mem_entries.mpr ⟨i, htile, hd⟩)
    refine ⟨?_, hsync.workingArea_eq, hsync.recomputed⟩
    rw [← heq, hsize]
    exact hsync.size_eq

end Tended

end FloatingSpace

end Sol
