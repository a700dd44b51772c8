import Sol.WindowMru
import Mathlib.Data.List.Cycle
import Mathlib.Data.List.Rotate

/-!
# Navigation among the recent windows

Going forward and backward among the thumbnails that are shown goes round in both directions.

* `forward_eq`, `backward_eq`: the next and the previous one of the round;
* `run_valid`: one of the shown thumbnails is selected in every run, if there are any;
* `run_navigates`: the laws of navigation hold at every point of a run.
-/

namespace Sol.Mru

open Panicking

/-! ### Rounds -/

section Rounds

variable {α : Type} [DecidableEq α] {l : List α} {a : α}

/-- One further than an element is the next one, or past the end. -/
theorem dropWhile_getD (h : a ∈ l) (d : α) :
    ((l.dropWhile fun b => b ≠ a)[1]?).getD d = l.nextOr a d := by
  induction l with
  | nil => cases h
  | cons x l ih =>
    by_cases hx : a = x
    · subst hx
      rw [List.dropWhile_cons_of_neg (by simp)]
      cases l with
      | nil => rfl
      | cons y l => rw [List.nextOr_self_cons_cons]; rfl
    · have hmem : a ∈ l := (List.mem_cons.mp h).resolve_left hx
      rw [List.dropWhile_cons_of_pos (by simpa using Ne.symm hx), ih hmem,
        List.nextOr_cons_of_ne _ _ _ _ hx]

/-- One that is its own next one is alone. -/
theorem eq_singleton_of_next (hnodup : l.Nodup) (h : a ∈ l) (hnext : l.next a h = a) :
    l = [a] := by
  obtain ⟨i, hi, rfl⟩ := List.getElem_of_mem h
  rw [List.next_getElem l hnodup i hi, hnodup.getElem_inj_iff] at hnext
  have hlength : l.length = 1 := by
    rcases Nat.lt_or_ge (i + 1) l.length with hlt | hge
    · rw [Nat.mod_eq_of_lt hlt] at hnext
      omega
    · have hlast : i + 1 = l.length := by omega
      rw [hlast, Nat.mod_self] at hnext
      omega
  obtain ⟨b, rfl⟩ := List.length_eq_one_iff.mp hlength
  have hzero : i = 0 := by simpa using hi
  subst hzero
  rfl

/-- Counted round and round. -/
def spot (l : List α) (h : 0 < l.length) (k : ℕ) : α := l.get ⟨k % l.length, Nat.mod_lt _ h⟩

omit [DecidableEq α] in
theorem spot_mem (h : 0 < l.length) (k : ℕ) : spot l h k ∈ l := List.get_mem _ _

theorem next_spot (hnodup : l.Nodup) (h : 0 < l.length) (k : ℕ) :
    l.next (spot l h k) (spot_mem h k) = spot l h (k + 1) := by
  have hnext := List.next_getElem l hnodup (k % l.length) (Nat.mod_lt _ h)
  have hmod : (k % l.length + 1) % l.length = (k + 1) % l.length := Nat.mod_add_mod _ _ _
  unfold spot
  simp only [List.get_eq_getElem]
  rw [hnext]
  simp only [hmod]

omit [DecidableEq α] in
/-- A whole round is a rotation. -/
theorem map_spot (h : 0 < l.length) (i : ℕ) :
    ((List.range l.length).map fun k => spot l h (i + k)) = l.rotate i := by
  apply List.ext_getElem
  · simp
  · intro k hk hk'
    simp only [List.getElem_map, List.getElem_range, spot, List.get_eq_getElem,
      List.getElem_rotate, Nat.add_comm i k]

omit [DecidableEq α] in
theorem exists_split_of_getElem? {i : ℕ} (h : l[i]? = some a) :
    ∃ pre post, l = pre ++ a :: post ∧ pre.length = i := by
  obtain ⟨hi, rfl⟩ := List.getElem?_eq_some_iff.mp h
  refine ⟨l.take i, l.drop (i + 1), ?_, List.length_take_of_le hi.le⟩
  rw [← List.drop_eq_getElem_cons hi, List.take_append_drop]

end Rounds

namespace WindowMru

variable {s t : WindowMru} {id : MappedId}

/-- The windows that are shown. -/
def shownIds (s : WindowMru) : List MappedId := s.shown.map Thumbnail.id

/-- One of the shown thumbnails is selected, if there are any. -/
structure Valid (s : WindowMru) : Prop where
  distinct : (s.thumbnails.map Thumbnail.id).Nodup
  selected : ∀ id, s.currentId = some id → id ∈ s.shownIds
  empty : s.currentId = none → s.shown = []

theorem Valid.shownIds_nodup (h : s.Valid) : s.shownIds.Nodup :=
  h.distinct.sublist (List.filter_sublist.map _)

/-! ### Forward and backward -/

/-- The next one of the round. -/
theorem advance_eq {shown : List Thumbnail} (h : id ∈ shown.map Thumbnail.id) :
    (shown.dropWhile fun t => t.id ≠ id)[1]?.elim (shown.head?.map Thumbnail.id)
      (fun next => some next.id) = some ((shown.map Thumbnail.id).next id h) := by
  have hids := dropWhile_getD h ((shown.map Thumbnail.id).get ⟨0, List.length_pos_of_mem h⟩)
  have hmap : ((shown.map Thumbnail.id).dropWhile fun b => b ≠ id) =
      (shown.dropWhile fun t => t.id ≠ id).map Thumbnail.id := by
    rw [List.dropWhile_map]
    rfl
  rw [hmap, List.getElem?_map] at hids
  unfold List.next
  rw [← hids]
  cases (shown.dropWhile fun t => t.id ≠ id)[1]? with
  | some next => rfl
  | none =>
    cases shown with
    | nil => cases h
    | cons first shown => rfl

theorem forward_eq (hcurrent : s.currentId = some id) (h : id ∈ s.shownIds) :
    s.forward = .ok { s with currentId := some (s.shownIds.next id h) } := by
  have hnext := advance_eq h
  unfold forward
  rw [hcurrent]
  dsimp only
  cases hone : (s.shown.dropWhile fun t => t.id ≠ id)[1]? with
  | some next =>
    rw [hone] at hnext
    dsimp only [Option.elim] at hnext ⊢
    rw [hnext]
    rfl
  | none =>
    rw [hone] at hnext
    dsimp only [Option.elim] at hnext ⊢
    obtain ⟨first, hfirst, hid⟩ := Option.map_eq_some_iff.mp hnext
    change _ = Except.ok { s with currentId := some ((s.shown.map Thumbnail.id).next id h) }
    rw [hfirst, ← hid]
    rfl

theorem forward_of_none (h : s.currentId = none) : s.forward = .ok s := by
  unfold forward
  rw [h]

theorem backward_of_none (h : s.currentId = none) : s.backward = .ok s := by
  unfold backward
  rw [h]

theorem mem_reverse_ids (h : id ∈ s.shownIds) : id ∈ s.shown.reverse.map Thumbnail.id := by
  rw [List.map_reverse]
  exact List.mem_reverse.mpr h

theorem backward_eq (hs : s.Valid) (hcurrent : s.currentId = some id) (h : id ∈ s.shownIds) :
    s.backward = .ok { s with currentId := some (s.shownIds.prev id h) } := by
  have hprev : (s.shown.reverse.map Thumbnail.id).next id (mem_reverse_ids h) =
      s.shownIds.prev id h := by
    simp only [List.map_reverse]
    exact List.next_reverse_eq_prev s.shownIds hs.shownIds_nodup id h
  have hnext := advance_eq (mem_reverse_ids h)
  unfold backward
  rw [hcurrent]
  dsimp only
  rw [hprev] at hnext
  cases hone : (s.shown.reverse.dropWhile fun t => t.id ≠ id)[1]? with
  | some next =>
    rw [hone] at hnext
    dsimp only [Option.elim] at hnext ⊢
    rw [hnext]
  | none =>
    rw [hone] at hnext
    dsimp only [Option.elim] at hnext ⊢
    obtain ⟨last, hlast, hid⟩ := Option.map_eq_some_iff.mp hnext
    rw [List.head?_reverse] at hlast
    rw [hlast, ← hid]
    rfl

/-! ### The nearest one -/

/-- A thumbnail that is shown, with the others to its left and right. -/
theorem exists_split (h : id ∈ s.shownIds) : ∃ pre t post, s.thumbnails = pre ++ t :: post ∧
    t.id = id ∧ shows s.scope s.appIdFilter t = true := by
  obtain ⟨t, ht, hid⟩ := List.mem_map.mp h
  obtain ⟨hmem, hshows⟩ := List.mem_filter.mp ht
  obtain ⟨pre, post, hsplit⟩ := List.append_of_mem hmem
  exact ⟨pre, t, post, hsplit, hid, hshows⟩

/-- The thumbnail with an id is the only one that can be found. -/
theorem findShown_eq (hs : s.Valid) {pre post : List Thumbnail} {t : Thumbnail}
    (hsplit : s.thumbnails = pre ++ t :: post) (hshows : shows s.scope s.appIdFilter t = true) :
    s.findShown t.id = some (t, pre.length) := by
  have hdistinct := hs.distinct
  rw [hsplit, List.map_append, List.map_cons, List.nodup_append] at hdistinct
  have hleft : ∀ u ∈ pre, u.id ≠ t.id := fun u hu =>
    hdistinct.2.2 u.id (List.mem_map_of_mem hu) t.id List.mem_cons_self
  unfold findShown shownWithIdx
  rw [hsplit, List.zipIdx_append, List.zipIdx_cons, List.filter_append, List.find?_append,
    List.find?_eq_none.mpr]
  · rw [Option.none_or, List.filter_cons_of_pos (by exact hshows), List.find?_cons_of_pos (by simp),
      Nat.zero_add]
  · intro entry hentry
    have hmem := (List.mem_filter.mp hentry).1
    simpa using hleft entry.1 (List.fst_mem_of_mem_zipIdx hmem)

/-- The ones up to an index. -/
theorem takeWhile_shownWithIdx {pre post : List Thumbnail} {t : Thumbnail}
    (hsplit : s.thumbnails = pre ++ t :: post) (hshows : shows s.scope s.appIdFilter t = true) :
    (s.shownWithIdx.takeWhile fun entry => entry.2 ≤ pre.length) =
      pre.zipIdx.filter (fun entry => shows s.scope s.appIdFilter entry.1) ++
        [(t, pre.length)] := by
  unfold shownWithIdx
  rw [hsplit, List.zipIdx_append, List.zipIdx_cons, List.filter_append,
    List.takeWhile_append_of_pos, List.filter_cons_of_pos (by exact hshows), Nat.zero_add,
    List.takeWhile_cons_of_pos (by simp)]
  · congr 2
    cases hrest : (post.zipIdx (pre.length + 1)).filter
        fun entry => shows s.scope s.appIdFilter entry.1 with
    | nil => rfl
    | cons entry rest =>
      have hmem : entry ∈ post.zipIdx (pre.length + 1) :=
        (List.mem_filter.mp (hrest ▸ List.mem_cons_self)).1
      have hle : pre.length + 1 ≤ entry.2 := List.le_snd_of_mem_zipIdx hmem
      rw [List.takeWhile_cons_of_neg (by simp; omega)]
  · intro entry hentry
    have hlt := List.snd_lt_of_mem_zipIdx (List.mem_filter.mp hentry).1
    simp only [decide_eq_true_eq]
    omega

/-- The selected thumbnail is kept, where it is still shown. -/
theorem nearest_eq {pre post : List Thumbnail} {t : Thumbnail}
    (hsplit : s.thumbnails = pre ++ t :: post) (hshows : shows s.scope s.appIdFilter t = true) :
    s.nearest pre.length = some t.id := by
  unfold nearest
  rw [takeWhile_shownWithIdx hsplit hshows, List.foldl_append]
  rfl

theorem firstId_mem (h : s.firstId = some id) : id ∈ s.shownIds := by
  obtain ⟨first, hfirst, rfl⟩ := Option.map_eq_some_iff.mp h
  exact List.mem_map_of_mem (List.mem_of_head? hfirst)

theorem shown_of_firstId (h : s.firstId = none) : s.shown = [] :=
  List.head?_eq_none_iff.mp (Option.map_eq_none_iff.mp h)

/-- The nearest one is shown. -/
theorem nearest_mem {idx : ℕ} :
    (∀ id, s.nearest idx = some id → id ∈ s.shownIds) ∧ (s.nearest idx = none → s.shown = []) := by
  unfold nearest
  rcases List.eq_nil_or_concat (s.shownWithIdx.takeWhile fun entry => entry.2 ≤ idx) with
    hnil | ⟨entries, entry, hlast⟩
  · rw [hnil]
    exact ⟨fun id => firstId_mem, shown_of_firstId⟩
  · have hentry : entry ∈ s.shownWithIdx := by
      refine (List.takeWhile_sublist fun entry : Thumbnail × ℕ => entry.2 ≤ idx).subset ?_
      rw [hlast, List.concat_eq_append]
      exact List.mem_append_right _ List.mem_cons_self
    obtain ⟨hmem, hshows⟩ := List.mem_filter.mp hentry
    have hshown : entry.1 ∈ s.shown :=
      List.mem_filter.mpr ⟨List.fst_mem_of_mem_zipIdx hmem, hshows⟩
    rw [hlast, List.concat_eq_append, List.foldl_append]
    constructor
    · rintro id ⟨⟩
      exact List.mem_map_of_mem hshown
    · rintro ⟨⟩

/-! ### A change of the scope or of the filter -/

/-- The selected thumbnail stays selected while it is shown. -/
def Keeps (s t : WindowMru) : Prop :=
  ∀ id, s.currentId = some id → id ∈ t.shownIds → t.currentId = some id

/-- Another scope and filter, with the nearest one to an index selected. -/
def refiltered (s : WindowMru) (scope : MruScope) (appIdFilter : Option String) (idx : ℕ) :
    WindowMru :=
  let changed := { s with scope, appIdFilter }
  { changed with currentId := changed.nearest idx }

/-- Another scope and filter, with the first one selected. -/
def restarted (s : WindowMru) (scope : MruScope) (appIdFilter : Option String) : WindowMru :=
  let changed := { s with scope, appIdFilter }
  { changed with currentId := changed.firstId }

variable (scope : MruScope) (appIdFilter : Option String)

theorem restarted_valid (hs : s.Valid) : (s.restarted scope appIdFilter).Valid :=
  ⟨hs.distinct, fun _ => firstId_mem (s := { s with scope, appIdFilter }),
    shown_of_firstId (s := { s with scope, appIdFilter })⟩

theorem refiltered_valid (hs : s.Valid) (idx : ℕ) :
    (s.refiltered scope appIdFilter idx).Valid :=
  ⟨hs.distinct, (nearest_mem (s := { s with scope, appIdFilter })).1,
    (nearest_mem (s := { s with scope, appIdFilter })).2⟩

/-- The only thumbnail with its id. -/
theorem Valid.eq_of_id (hs : s.Valid) {t u : Thumbnail} (ht : t ∈ s.thumbnails)
    (hu : u ∈ s.thumbnails) (h : t.id = u.id) : t = u :=
  List.inj_on_of_nodup_map hs.distinct ht hu h

theorem refiltered_keeps (hs : s.Valid) {pre post : List Thumbnail} {u : Thumbnail}
    (hsplit : s.thumbnails = pre ++ u :: post) (hcurrent : s.currentId = some u.id) :
    s.Keeps (s.refiltered scope appIdFilter pre.length) := by
  intro id hid hshown
  obtain rfl : u.id = id := Option.some.inj (hcurrent.symm.trans hid)
  obtain ⟨v, hv, hvu⟩ := List.mem_map.mp hshown
  obtain ⟨hmem, hshows⟩ := List.mem_filter.mp hv
  have heq : v = u := hs.eq_of_id hmem (hsplit ▸ List.mem_append_right _ List.mem_cons_self) hvu
  rw [heq] at hshows
  exact nearest_eq (s := { s with scope, appIdFilter }) hsplit hshows

/-- The selected thumbnail is found. -/
theorem exists_found (hs : s.Valid) (hcurrent : s.currentId = some id) :
    ∃ pre u post, s.thumbnails = pre ++ u :: post ∧ u.id = id ∧
      shows s.scope s.appIdFilter u = true ∧ s.findShown id = some (u, pre.length) := by
  obtain ⟨pre, u, post, hsplit, rfl, hshows⟩ := exists_split (hs.selected id hcurrent)
  exact ⟨pre, u, post, hsplit, rfl, hshows, findShown_eq hs hsplit hshows⟩

/-- What a change of the scope or of the filter comes to: nothing, or another selection. -/
structure Refiltered (s t : WindowMru) (scope : MruScope) (appIdFilter : Option String) : Prop where
  valid : t.Valid
  keeps : s.Keeps t
  thumbnails : t.thumbnails = s.thumbnails
  scope : t.scope = scope
  appIdFilter : t.appIdFilter = appIdFilter

theorem setScope_spec (hs : s.Valid) (scope : MruScope) : Returns (s.setScope scope) fun r =>
    (s.scope = scope ∧ r = (none, s)) ∨
      (s.scope ≠ scope ∧ r.1 = some s.scope ∧ s.Refiltered r.2 scope s.appIdFilter) := by
  unfold setScope
  by_cases hscope : s.scope = scope
  · rw [if_pos hscope, returns_ok]
    exact .inl ⟨hscope, rfl⟩
  · rw [if_neg hscope]
    cases hcurrent : s.currentId with
    | none =>
      rw [returns_ok]
      refine .inr ⟨hscope, rfl, restarted_valid scope s.appIdFilter hs, ?_, rfl, rfl,
        rfl⟩
      intro id hid
      rw [hcurrent] at hid
      cases hid
    | some id =>
      obtain ⟨pre, u, post, hsplit, rfl, -, hfound⟩ := exists_found hs hcurrent
      dsimp only
      rw [hfound, returns_bind, returns_unwrap]
      refine ⟨_, rfl, ?_⟩
      rw [returns_ok]
      exact .inr ⟨hscope, rfl, refiltered_valid scope s.appIdFilter hs _,
        refiltered_keeps scope s.appIdFilter hs hsplit hcurrent, rfl, rfl, rfl⟩

/-- A filter is put on or taken off. -/
theorem setFilter_spec (hs : s.Valid) (filter : MruFilter) : Returns (s.setFilter filter) fun r =>
    r = (none, s) ∨ ∃ appIdFilter, r.1 = some s.appIdFilter ∧
      (appIdFilter = none ∨ s.appIdFilter = none) ∧ s.Refiltered r.2 s.scope appIdFilter := by
  unfold setFilter
  by_cases hsame : s.appIdFilter.isSome = decide (filter = .appId)
  · rw [if_pos hsame, returns_ok]
    exact .inl rfl
  rw [if_neg hsame]
  cases hcurrent : s.currentId with
  | none =>
    cases filter with
    | appId =>
      rw [returns_ok]
      exact .inl rfl
    | all =>
      obtain ⟨old, hold⟩ : ∃ old, s.appIdFilter = some old :=
        Option.ne_none_iff_exists'.mp (by simpa using hsame)
      dsimp only
      rw [hold, returns_bind, returns_expect]
      refine ⟨old, rfl, ?_⟩
      rw [returns_ok]
      refine .inr ⟨none, rfl, .inl rfl, restarted_valid s.scope none hs, ?_, rfl, rfl, rfl⟩
      intro id hid
      rw [hcurrent] at hid
      cases hid
  | some id =>
    obtain ⟨pre, u, post, hsplit, rfl, -, hfound⟩ := exists_found hs hcurrent
    dsimp only
    rw [hfound, returns_bind, returns_unwrap]
    refine ⟨_, rfl, ?_⟩
    cases filter with
    | all =>
      obtain ⟨old, hold⟩ : ∃ old, s.appIdFilter = some old :=
        Option.ne_none_iff_exists'.mp (by simpa using hsame)
      dsimp only
      rw [hold, returns_bind, returns_expect]
      refine ⟨old, rfl, ?_⟩
      rw [returns_ok]
      exact .inr ⟨none, rfl, .inl rfl, refiltered_valid s.scope none hs _,
        refiltered_keeps s.scope none hs hsplit hcurrent, rfl, rfl, rfl⟩
    | appId =>
      have hnone : s.appIdFilter = none := by simpa using hsame
      dsimp only
      cases happ : u.appId with
      | none =>
        rw [returns_ok]
        exact .inl rfl
      | some appId =>
        rw [returns_bind, returns_assert]
        refine ⟨hnone, ?_⟩
        rw [returns_ok]
        exact .inr ⟨some appId, by rw [hnone], .inr hnone,
          refiltered_valid s.scope (some appId) hs _,
          refiltered_keeps s.scope (some appId) hs hsplit hcurrent, rfl, rfl, rfl⟩

/-! ### Removal -/

/-- The windows without one of them, and another one selected. -/
def without (s : WindowMru) (idx : ℕ) (currentId : Option MappedId) : WindowMru :=
  { s with currentId, thumbnails := s.thumbnails.eraseIdx idx }

/-- What is shown once a window has been removed. -/
theorem mem_shownIds_without (hs : s.Valid) {removed : Thumbnail} {idx : ℕ}
    (hidx : s.thumbnails[idx]? = some removed) (currentId : Option MappedId) :
    id ∈ (s.without idx currentId).shownIds ↔ id ∈ s.shownIds ∧ id ≠ removed.id := by
  obtain ⟨pre, post, hsplit, rfl⟩ := exists_split_of_getElem? hidx
  have hdistinct := hs.distinct
  rw [hsplit, List.map_append, List.map_cons, List.nodup_middle, List.nodup_cons,
    ← List.map_append] at hdistinct
  have hmem : ∀ t, t ∈ (s.without pre.length currentId).shown ↔ t ∈ s.shown ∧ t.id ≠ removed.id := by
    intro t
    have herase : s.thumbnails.eraseIdx pre.length = pre ++ post := by
      rw [hsplit, List.eraseIdx_append_of_length_le le_rfl, Nat.sub_self, List.eraseIdx_cons_zero]
    have hleft : t ∈ pre ++ post → t.id ≠ removed.id := fun ht heq =>
      hdistinct.1 (heq ▸ List.mem_map_of_mem ht)
    have hright : t ∈ s.thumbnails ↔ t = removed ∨ t ∈ pre ++ post := by
      rw [hsplit, List.mem_append, List.mem_cons, List.mem_append]
      tauto
    unfold shown
    rw [List.mem_filter, List.mem_filter, hright]
    change t ∈ s.thumbnails.eraseIdx pre.length ∧ _ ↔ _
    rw [herase]
    constructor
    · rintro ⟨ht, hshows⟩
      exact ⟨⟨.inr ht, hshows⟩, hleft ht⟩
    · rintro ⟨⟨rfl | ht, hshows⟩, hne⟩
      · exact absurd rfl hne
      · exact ⟨ht, hshows⟩
  unfold shownIds
  simp only [List.mem_map, hmem]
  constructor
  · rintro ⟨t, ⟨ht, hne⟩, rfl⟩
    exact ⟨⟨t, ht, rfl⟩, hne⟩
  · rintro ⟨⟨t, ht, rfl⟩, hne⟩
    exact ⟨t, ⟨ht, hne⟩, rfl⟩

theorem without_distinct (hs : s.Valid) (idx : ℕ) :
    ((s.thumbnails.eraseIdx idx).map Thumbnail.id).Nodup :=
  hs.distinct.sublist ((List.eraseIdx_sublist _ _).map _)

/-- The next one is selected when the selected one is removed, if there is another one. -/
theorem removeByIdx_eq (hs : s.Valid) {removed : Thumbnail} {idx : ℕ}
    (hidx : s.thumbnails[idx]? = some removed) : ∃ currentId,
      s.removeByIdx idx = .ok (removed, s.without idx currentId) ∧
        (s.without idx currentId).Valid := by
  unfold removeByIdx
  rw [hidx]
  dsimp only
  by_cases hcurrent : s.currentId = some removed.id
  · have hshown : removed.id ∈ s.shownIds := hs.selected _ hcurrent
    rw [if_pos hcurrent, forward_eq hcurrent hshown]
    by_cases hnext : s.shownIds.next removed.id hshown = removed.id
    · -- the last one that is shown
      have hsingle : s.shownIds = [removed.id] :=
        eq_singleton_of_next hs.shownIds_nodup hshown hnext
      refine ⟨none, ?_, without_distinct hs idx, ?_, ?_⟩
      · change Except.ok (removed, _) = _
        rw [if_pos (congrArg some hnext)]
        rfl
      · rintro id ⟨⟩
      · intro _
        rw [List.eq_nil_iff_forall_not_mem]
        intro t ht
        obtain ⟨hmem, hne⟩ :=
          (mem_shownIds_without hs hidx none).mp (List.mem_map_of_mem ht)
        rw [hsingle, List.mem_singleton] at hmem
        exact hne hmem
    · refine ⟨some (s.shownIds.next removed.id hshown), ?_, without_distinct hs idx, ?_, ?_⟩
      · change Except.ok (removed, _) = _
        rw [if_neg (fun h => hnext (Option.some.inj h))]
        rfl
      · rintro id ⟨⟩
        exact (mem_shownIds_without hs hidx _).mpr ⟨List.next_mem _ _ _, hnext⟩
      · rintro ⟨⟩
  · rw [if_neg hcurrent]
    refine ⟨s.currentId, ?_, without_distinct hs idx, ?_, ?_⟩
    · change Except.ok (removed, _) = _
      rw [if_neg hcurrent]
      rfl
    · intro id hid
      refine (mem_shownIds_without hs hidx _).mpr ⟨hs.selected id hid, ?_⟩
      rintro rfl
      exact hcurrent hid
    · intro hnone
      rw [List.eq_nil_iff_forall_not_mem]
      intro t ht
      have hmem := ((mem_shownIds_without hs hidx _).mp (List.mem_map_of_mem ht)).1
      rw [shownIds, hs.empty hnone] at hmem
      cases hmem

/-! ### Every step and every run -/

/-- Another of the shown thumbnails may be selected. -/
theorem select_valid (hs : s.Valid) (h : id ∈ s.shownIds) :
    Valid { s with currentId := some id } :=
  ⟨hs.distinct, fun _ hid => Option.some.inj hid ▸ h, fun hnone => by cases hnone⟩

theorem forward_valid (hs : s.Valid) : Returns s.forward Valid := by
  cases hcurrent : s.currentId with
  | none => exact ⟨s, forward_of_none hcurrent, hs⟩
  | some id =>
    have hshown : id ∈ s.shownIds := hs.selected id hcurrent
    rw [forward_eq hcurrent hshown, returns_ok]
    exact select_valid hs (List.next_mem _ _ _)

theorem backward_valid (hs : s.Valid) : Returns s.backward Valid := by
  cases hcurrent : s.currentId with
  | none => exact ⟨s, backward_of_none hcurrent, hs⟩
  | some id =>
    have hshown : id ∈ s.shownIds := hs.selected id hcurrent
    rw [backward_eq hs hcurrent hshown, returns_ok]
    exact select_valid hs (List.prev_mem _ _ _)

theorem forward_thumbnails : Ensures s.forward fun t => t.thumbnails = s.thumbnails := by
  unfold forward
  cases s.currentId with
  | none => exact ensures_ok.mpr rfl
  | some id =>
    dsimp only
    split
    · exact ensures_ok.mpr rfl
    · rw [ensures_bind]
      exact fun _ _ => ensures_ok.mpr rfl

theorem backward_thumbnails : Ensures s.backward fun t => t.thumbnails = s.thumbnails := by
  unfold backward
  cases s.currentId with
  | none => exact ensures_ok.mpr rfl
  | some id =>
    dsimp only
    split
    · exact ensures_ok.mpr rfl
    · rw [ensures_bind]
      exact fun _ _ => ensures_ok.mpr rfl

theorem last_valid (hs : s.Valid) : s.last.Valid := by
  refine ⟨hs.distinct, ?_, ?_⟩
  · intro id hid
    obtain ⟨t, ht, rfl⟩ := Option.map_eq_some_iff.mp hid
    exact List.mem_map_of_mem (List.mem_of_getLast? ht)
  · intro hnone
    exact List.getLast?_eq_none_iff.mp (Option.map_eq_none_iff.mp hnone)

theorem setCurrent_valid (hs : s.Valid) (id : MappedId) : (s.setCurrent id).Valid := by
  unfold setCurrent
  split_ifs with h
  · obtain ⟨t, ht, hid⟩ := List.any_eq_true.mp h
    exact select_valid hs (of_decide_eq_true hid ▸ List.mem_map_of_mem ht)
  · exact hs

theorem idxOf_spec {idx : ℕ} (h : s.idxOf id = some idx) :
    ∃ t, s.thumbnails[idx]? = some t ∧ t.id = id := by
  obtain ⟨hidx, hid, -⟩ := List.findIdx?_eq_some_iff_getElem.mp h
  exact ⟨s.thumbnails[idx], List.getElem?_eq_getElem hidx, of_decide_eq_true hid⟩

/-- No step panics, and one of the shown thumbnails stays selected. -/
theorem step_valid (hs : s.Valid) (op : Op) : Returns (s.step op) Valid := by
  cases op with
  | forward => exact forward_valid hs
  | backward => exact backward_valid hs
  | first => exact returns_ok.mpr (restarted_valid s.scope s.appIdFilter hs)
  | last => exact returns_ok.mpr (last_valid hs)
  | setCurrent id => exact returns_ok.mpr (setCurrent_valid hs id)
  | setScope scope =>
    rw [step, returns_bind]
    refine (setScope_spec hs scope).mono fun r hr => returns_ok.mpr ?_
    rcases hr with ⟨-, rfl⟩ | ⟨-, -, hr⟩
    · exact hs
    · exact hr.valid
  | setFilter filter =>
    rw [step, returns_bind]
    refine (setFilter_spec hs filter).mono fun r hr => returns_ok.mpr ?_
    rcases hr with rfl | ⟨_, -, -, hr⟩
    · exact hs
    · exact hr.valid
  | remove id =>
    simp only [step]
    cases hidx : s.idxOf id with
    | none => exact returns_ok.mpr hs
    | some idx =>
      obtain ⟨removed, hremoved, -⟩ := idxOf_spec hidx
      obtain ⟨currentId, heq, hvalid⟩ := removeByIdx_eq hs hremoved
      dsimp only
      rw [heq]
      exact returns_ok.mpr hvalid

theorem run_valid (hs : s.Valid) (ops : List Op) : Returns (s.run ops) Valid := by
  induction ops generalizing s with
  | nil => exact returns_ok.mpr hs
  | cons op ops ih =>
    rw [run, returns_bind]
    exact (step_valid hs op).mono fun t ht => ih ht

theorem ofThumbnails_valid {thumbnails : List Thumbnail}
    (h : (thumbnails.map Thumbnail.id).Nodup) : (ofThumbnails thumbnails).Valid := by
  have hshown : (ofThumbnails thumbnails).shown = thumbnails :=
    List.filter_eq_self.mpr fun t _ => rfl
  refine ⟨h, ?_, ?_⟩
  · intro id hid
    unfold shownIds
    rw [hshown]
    obtain ⟨first, hfirst, rfl⟩ := Option.map_eq_some_iff.mp hid
    exact List.mem_map_of_mem (List.mem_of_head? hfirst)
  · intro hnone
    rw [hshown]
    exact List.head?_eq_none_iff.mp (Option.map_eq_none_iff.mp hnone)

/-- The windows of the workspaces. -/
theorem new_valid {windows : List Thumbnail} (h : (windows.map Thumbnail.id).Nodup) :
    (new windows).Valid :=
  ofThumbnails_valid (((List.mergeSort_perm windows _).map _).nodup_iff.mpr h)

/-! ### The laws of navigation -/

/-- What is selected on a way forward, and the end of it. -/
def tour (s : WindowMru) : ℕ → Outcome (List (Option MappedId) × WindowMru)
  | 0 => .ok ([], s)
  | n + 1 => do
    let next ← s.forward
    let (ids, t) ← next.tour n
    .ok (s.currentId :: ids, t)

/-- The laws of navigation. -/
structure Navigates (s : WindowMru) : Prop where
  backward_forward : Returns (do let t ← s.forward; t.backward) (· = s)
  forward_backward : Returns (do let t ← s.backward; t.forward) (· = s)
  tour : Returns (s.tour s.shown.length) fun r => r.1.Perm (s.shownIds.map some) ∧ r.2 = s
  scope : ∀ scope, Returns (s.setScope scope) fun r => s.Keeps r.2
  filter : ∀ filter, Returns (s.setFilter filter) fun r => s.Keeps r.2

/-- The way forward goes from spot to spot. -/
theorem tour_eq (hs : s.Valid) (h : 0 < s.shownIds.length) (n i : ℕ)
    (hcurrent : s.currentId = some (spot s.shownIds h i)) : s.tour n =
      .ok ((List.range n).map fun k => some (spot s.shownIds h (i + k)),
        { s with currentId := some (spot s.shownIds h (i + n)) }) := by
  induction n generalizing s i with
  | zero =>
    unfold tour
    rw [Nat.add_zero, ← hcurrent]
    rfl
  | succ n ih =>
    have hnext := forward_eq hcurrent (spot_mem h i)
    rw [next_spot hs.shownIds_nodup h i] at hnext
    have hrest := ih (s := { s with currentId := some (spot s.shownIds h (i + 1)) })
      (select_valid hs (spot_mem h _)) h (i + 1) rfl
    have hshift : ∀ k, i + 1 + k = i + (k + 1) := fun k => by omega
    have hids : ((List.range (n + 1)).map fun k => some (spot s.shownIds h (i + k))) =
        s.currentId :: (List.range n).map fun k => some (spot s.shownIds h (i + (k + 1))) := by
      rw [List.range_succ_eq_map, List.map_cons, List.map_map, hcurrent]
      rfl
    unfold tour
    rw [hnext]
    change (do let (ids, t) ← tour _ n; Except.ok (s.currentId :: ids, t)) = _
    rw [hrest, hids]
    simp only [hshift]
    rfl

/-- A whole round comes back to where it started. -/
theorem tour_round (hs : s.Valid) : Returns (s.tour s.shown.length) fun r =>
    r.1.Perm (s.shownIds.map some) ∧ r.2 = s := by
  have hlength : s.shown.length = s.shownIds.length := (List.length_map _).symm
  cases hcurrent : s.currentId with
  | none =>
    have hempty : s.shown = [] := hs.empty hcurrent
    rw [hempty]
    refine ⟨([], s), rfl, ?_, rfl⟩
    rw [shownIds, hempty]
    exact List.Perm.nil
  | some id =>
    have hshown : id ∈ s.shownIds := hs.selected id hcurrent
    obtain ⟨i, hi, hid⟩ := List.getElem_of_mem hshown
    have h : 0 < s.shownIds.length := Nat.zero_lt_of_lt hi
    have hspot : spot s.shownIds h i = id := by
      unfold spot
      simp only [List.get_eq_getElem, Nat.mod_eq_of_lt hi]
      exact hid
    have hback : spot s.shownIds h (i + s.shownIds.length) = id := by
      rw [← hspot]
      unfold spot
      simp only [Nat.add_mod_right]
    have htour := tour_eq hs h s.shownIds.length i (by rw [hspot]; exact hcurrent)
    rw [hlength, htour, returns_ok]
    refine ⟨?_, ?_⟩
    · have hround : ((List.range s.shownIds.length).map fun k => some (spot s.shownIds h (i + k))) =
          (s.shownIds.rotate i).map some := by
        rw [← map_spot h i, List.map_map]
        rfl
      dsimp only
      rw [hround]
      exact (List.rotate_perm _ _).map some
    · dsimp only
      rw [hback, ← hcurrent]

theorem backward_forward (hs : s.Valid) : Returns (do let t ← s.forward; t.backward) (· = s) := by
  cases hcurrent : s.currentId with
  | none =>
    rw [forward_of_none hcurrent]
    exact ⟨s, backward_of_none hcurrent, rfl⟩
  | some id =>
    have hshown : id ∈ s.shownIds := hs.selected id hcurrent
    have hmem := List.next_mem s.shownIds id hshown
    have hprev := List.prev_next s.shownIds hs.shownIds_nodup id hshown
    rw [forward_eq hcurrent hshown]
    refine ⟨_, backward_eq (select_valid hs hmem) rfl hmem, ?_⟩
    change { s with currentId := some (s.shownIds.prev (s.shownIds.next id hshown) hmem) } = s
    rw [hprev, ← hcurrent]

theorem forward_backward (hs : s.Valid) : Returns (do let t ← s.backward; t.forward) (· = s) := by
  cases hcurrent : s.currentId with
  | none =>
    rw [backward_of_none hcurrent]
    exact ⟨s, forward_of_none hcurrent, rfl⟩
  | some id =>
    have hshown : id ∈ s.shownIds := hs.selected id hcurrent
    have hmem := List.prev_mem s.shownIds id hshown
    have hnext := List.next_prev s.shownIds hs.shownIds_nodup id hshown
    rw [backward_eq hs hcurrent hshown]
    refine ⟨_, forward_eq (s := { s with currentId := some (s.shownIds.prev id hshown) }) rfl hmem,
      ?_⟩
    change { s with currentId := some (s.shownIds.next (s.shownIds.prev id hshown) hmem) } = s
    rw [hnext, ← hcurrent]

/-- A valid selection can be navigated. -/
theorem Valid.navigates (hs : s.Valid) : s.Navigates where
  backward_forward := backward_forward hs
  forward_backward := forward_backward hs
  tour := tour_round hs
  scope scope := (setScope_spec hs scope).mono fun r hr => by
    rcases hr with ⟨-, rfl⟩ | ⟨-, -, hr⟩
    · exact fun _ hid _ => hid
    · exact hr.keeps
  filter filter := (setFilter_spec hs filter).mono fun r hr => by
    rcases hr with rfl | ⟨_, -, -, hr⟩
    · exact fun _ hid _ => hid
    · exact hr.keeps

/-- In every run over windows with distinct ids nothing panics, one of the shown thumbnails is
selected exactly if there are any, and the laws of navigation hold. -/
theorem run_navigates (thumbnails : List Thumbnail)
    (hdistinct : (thumbnails.map Thumbnail.id).Nodup) (ops : List Op) :
    Returns ((ofThumbnails thumbnails).run ops) fun s =>
      (∀ id, s.currentId = some id → id ∈ s.shownIds) ∧ (s.currentId = none ↔ s.shown = []) ∧
        s.Navigates := by
  refine (run_valid (ofThumbnails_valid hdistinct) ops).mono fun s hs => ?_
  refine ⟨hs.selected, ⟨hs.empty, ?_⟩, hs.navigates⟩
  intro hshown
  cases hcurrent : s.currentId with
  | none => rfl
  | some id =>
    have hmem : id ∈ s.shownIds := hs.selected id hcurrent
    rw [shownIds, hshown] at hmem
    cases hmem

/-- Two windows of an application and one of another. -/
def sampleThumbnails : List Thumbnail :=
  [⟨0, none, true, true, some "editor", ⟨800, 600⟩, ⟨480, 1 / 2⟩, none, none⟩,
    ⟨1, none, false, true, some "browser", ⟨800, 600⟩, ⟨480, 1 / 2⟩, none, none⟩,
    ⟨2, none, false, false, some "editor", ⟨800, 600⟩, ⟨480, 1 / 2⟩, none, none⟩]

theorem run_navigates_three :
    Returns ((ofThumbnails sampleThumbnails).run
      [.backward, .setFilter .appId, .setScope .workspace, .forward, .remove 0, .setFilter .all])
      fun s => (∀ id, s.currentId = some id → id ∈ s.shownIds) ∧
        (s.currentId = none ↔ s.shown = []) ∧ s.Navigates :=
  run_navigates sampleThumbnails (by decide) _

end WindowMru

end Sol.Mru
