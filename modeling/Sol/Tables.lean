import Std.Data.ExtTreeMap.Lemmas
import Mathlib.Data.List.Nodup

/-!
# Tables

Maps that are tabulated from a list of records with distinct keys.  A record's
entry is a function of the record, and so an update of the map is an update of
that function.

* `getElem?_table`, `eq_table_iff`: what a table holds;
* `map_table`, `modify_table`: updates of all entries and of one;
* `Keyed`: maps whose records stand under their own keys, and that their records,
  listed in any order, give again (`Keyed.table_values`).
-/

namespace Tables

open Std

universe u

variable {κ α β : Type u} [Ord κ] [TransOrd κ] [LawfulEqOrd κ] {key : α → κ} {g g' : α → β}
  {l : List α} {t : ExtTreeMap κ β compare}

/-- The map with the entry `g a` for each record `a`. -/
def table (key : α → κ) (g : α → β) (l : List α) : ExtTreeMap κ β compare :=
  .ofList (l.map fun a => (key a, g a)) compare

theorem getElem?_table (hl : (l.map key).Nodup) {a : α} (ha : a ∈ l) :
    (table key g l)[key a]? = some (g a) := by
  refine ExtTreeMap.getElem?_ofList_of_mem (ReflCmp.compare_self) ?_
    (List.mem_map_of_mem (f := fun a => (key a, g a)) ha)
  rw [List.pairwise_map]
  rw [List.Nodup, List.pairwise_map] at hl
  exact hl.imp fun hne heq => hne (LawfulEqCmp.eq_of_compare heq)

theorem getElem?_table_of_not_mem {k : κ} (hk : k ∉ l.map key) : (table key g l)[k]? = none := by
  classical
  let _ : BEq κ := instBEqOfDecidableEq
  have : LawfulBEqCmp (compare : κ → κ → Ordering) :=
    ⟨fun {a b} => by rw [LawfulEqCmp.compare_eq_iff_eq, beq_iff_eq]⟩
  refine ExtTreeMap.getElem?_ofList_of_contains_eq_false ?_
  simpa [Function.comp_def] using hk

theorem eq_table_iff (hl : (l.map key).Nodup) :
    t = table key g l ↔ (∀ a ∈ l, t[key a]? = some (g a)) ∧ ∀ k ∉ l.map key, t[k]? = none := by
  constructor
  · rintro rfl
    exact ⟨fun a ha => getElem?_table hl ha, fun k hk => getElem?_table_of_not_mem hk⟩
  · rintro ⟨hmem, hnot⟩
    ext1 k
    by_cases hk : k ∈ l.map key
    · obtain ⟨a, ha, rfl⟩ := List.mem_map.mp hk
      rw [hmem a ha, getElem?_table hl ha]
    · rw [hnot k hk, getElem?_table_of_not_mem hk]

theorem table_congr (hl : (l.map key).Nodup) (h : ∀ a ∈ l, g a = g' a) :
    table key g l = table key g' l :=
  (eq_table_iff hl).mpr ⟨fun a ha => (getElem?_table hl ha).trans (congrArg some (h a ha)),
    fun _ hk => getElem?_table_of_not_mem hk⟩

theorem map_table (hl : (l.map key).Nodup) (f : κ → β → β) :
    (table key g l).map f = table key (fun a => f (key a) (g a)) l := by
  refine (eq_table_iff hl).mpr ⟨fun a ha => ?_, fun k hk => ?_⟩
  · rw [ExtTreeMap.getElem?_map, getElem?_table hl ha]
    rfl
  · rw [ExtTreeMap.getElem?_map, getElem?_table_of_not_mem hk]
    rfl

theorem modify_table [DecidableEq κ] (hl : (l.map key).Nodup) (k : κ) (f : β → β) :
    (table key g l).modify k f = table key (fun a => if key a = k then f (g a) else g a) l := by
  refine (eq_table_iff hl).mpr ⟨fun a ha => ?_, fun k' hk' => ?_⟩
  · rw [ExtTreeMap.getElem?_modify]
    by_cases hk : key a = k
    · subst hk
      simp [getElem?_table hl ha]
    · have hne : ¬compare k (key a) = .eq := fun h => hk (LawfulEqCmp.eq_of_compare h).symm
      rw [if_neg hne, if_neg hk, getElem?_table hl ha]
  · rw [ExtTreeMap.getElem?_modify]
    split_ifs with hk
    · obtain rfl := LawfulEqCmp.eq_of_compare hk
      rw [getElem?_table_of_not_mem hk']
      rfl
    · exact getElem?_table_of_not_mem hk'

/-! ### Records under their own keys -/

section Keyed

variable {key : α → κ} {t : ExtTreeMap κ α compare}

/-- Every record of the map stands under its own key. -/
def Keyed (key : α → κ) (t : ExtTreeMap κ α compare) : Prop := ∀ k a, t[k]? = some a → key a = k

omit [LawfulEqOrd κ] in
theorem keyed_empty : Keyed key ∅ := by
  intro k a ha
  simp at ha

theorem Keyed.insert (h : Keyed key t) {k : κ} {a : α} (ha : key a = k) :
    Keyed key (t.insert k a) := by
  intro k' a' ha'
  rw [ExtTreeMap.getElem?_insert] at ha'
  split_ifs at ha' with hk
  · obtain rfl := LawfulEqCmp.eq_of_compare hk
    exact Option.some.inj ha' ▸ ha
  · exact h k' a' ha'

omit [LawfulEqOrd κ] in
theorem Keyed.erase (h : Keyed key t) (k : κ) : Keyed key (t.erase k) := by
  intro k' a ha
  rw [ExtTreeMap.getElem?_erase] at ha
  split_ifs at ha
  exact h k' a ha

theorem Keyed.map (h : Keyed key t) {f : κ → α → α} (hf : ∀ k a, key (f k a) = key a) :
    Keyed key (t.map f) := by
  intro k a ha
  rw [ExtTreeMap.getElem?_map] at ha
  obtain ⟨a', ha', rfl⟩ := Option.map_eq_some_iff.mp ha
  rw [hf, h k a' ha']

theorem Keyed.modify (h : Keyed key t) (k : κ) {f : α → α} (hf : ∀ a, key (f a) = key a) :
    Keyed key (t.modify k f) := by
  intro k' a ha
  rw [ExtTreeMap.getElem?_modify] at ha
  split_ifs at ha with hk
  · obtain rfl := LawfulEqCmp.eq_of_compare hk
    obtain ⟨a', ha', rfl⟩ := Option.map_eq_some_iff.mp ha
    rw [hf, h _ a' ha']
  · exact h k' a ha

/-- A table of records is keyed, even where records share a key. -/
theorem keyed_table (key : α → κ) (l : List α) : Keyed key (table key id l) := by
  suffices h : ∀ t, Keyed key t → Keyed key (t.insertMany (l.map fun a => (key a, a))) by
    have hempty := h ∅ keyed_empty
    rwa [← ExtTreeMap.ofList_eq_insertMany_empty] at hempty
  induction l with
  | nil => exact fun t ht => by rwa [List.map_nil, ExtTreeMap.insertMany_nil]
  | cons a l ih =>
    intro t ht
    rw [List.map_cons, ExtTreeMap.insertMany_cons]
    exact ih _ (ht.insert rfl)

/-- The records of the map in the order that `keys` lists them. -/
def values (t : ExtTreeMap κ α compare) (keys : List κ) : List α := keys.filterMap (t[·]?)

/-- The records of a keyed map, listed in any order, give the map again. -/
theorem Keyed.table_values (h : Keyed key t) {keys : List κ} (hkeys : keys.Perm t.keys) :
    table key id (values t keys) = t := by
  have hnodup : keys.Nodup := hkeys.nodup_iff.mpr ExtTreeMap.nodup_keys
  have hmem : ∀ k, k ∈ keys ↔ t[k]? ≠ none := by
    intro k
    rw [hkeys.mem_iff, ExtTreeMap.mem_keys, ExtTreeMap.mem_iff_isSome_getElem?,
      Option.isSome_iff_ne_none]
  have hmap : (values t keys).map key = keys := by
    have hall : ∀ l : List κ, (∀ k ∈ l, t[k]? ≠ none) → (values t l).map key = l := by
      intro l hl
      induction l with
      | nil => rfl
      | cons k l ih =>
        obtain ⟨a, ha⟩ := Option.ne_none_iff_exists'.mp (hl k List.mem_cons_self)
        have hrest := ih fun k' hk' => hl k' (List.mem_cons_of_mem _ hk')
        unfold values at hrest ⊢
        rw [List.filterMap_cons, ha, List.map_cons, h k a ha, hrest]
    exact hall keys fun k hk => (hmem k).mp hk
  refine ((eq_table_iff (by rw [hmap]; exact hnodup)).mpr ⟨fun a ha => ?_, fun k hk => ?_⟩).symm
  · obtain ⟨k, -, hka⟩ := List.mem_filterMap.mp ha
    rw [h k a hka, hka]
    rfl
  · rw [hmap, hmem] at hk
    exact not_not.mp hk

end Keyed

end Tables
