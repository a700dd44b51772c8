import Mathlib.Data.List.Nodup
import Mathlib.Data.List.Perm.Basic
import Mathlib.Tactic

/-!
# Association lists

Maps as lists of entries with distinct keys, in whatever order they are kept: access,
update, removal and insertion at the end.

* `get_modify`, `get_remove`, `get_concat`: what is under a key after each of them;
* `perm_of_get_eq`: maps with the same entries differ in their order only.
-/

namespace Assoc

variable {κ α β : Type*} {l r : List (κ × α)} {k k' : κ} {a : α}

/-- The keys, in order. -/
def keys (l : List (κ × α)) : List κ := l.map Prod.fst

section Access

variable [DecidableEq κ]

/-- What is under a key. -/
def get (l : List (κ × α)) (k : κ) : Option α := (l.find? fun p => p.1 = k).map Prod.snd

/-- The value under a key is updated. -/
def modify (k : κ) (f : α → α) (l : List (κ × α)) : List (κ × α) :=
  l.map fun p => if p.1 = k then (p.1, f p.2) else p

/-- The entry of a key is dropped. -/
def remove (k : κ) (l : List (κ × α)) : List (κ × α) := l.filter fun p => p.1 ≠ k

end Access

@[simp] theorem keys_nil : keys ([] : List (κ × α)) = [] := rfl

@[simp] theorem keys_cons {p : κ × α} : keys (p :: l) = p.1 :: keys l := rfl

@[simp] theorem keys_append : keys (l ++ r) = keys l ++ keys r := List.map_append

@[simp] theorem keys_modify [DecidableEq κ] (k : κ) (f : α → α) (l : List (κ × α)) :
    keys (modify k f l) = keys l := by
  unfold keys modify
  rw [List.map_map]
  refine List.map_congr_left fun p _ => ?_
  simp only [Function.comp_apply]
  split_ifs <;> rfl

theorem nodup_keys_filter (h : (keys l).Nodup) (p : κ × α → Bool) : (keys (l.filter p)).Nodup :=
  h.sublist (List.filter_sublist.map _)

theorem nodup_keys_concat (h : (keys l).Nodup) (hk : k ∉ keys l) :
    (keys (l ++ [(k, a)])).Nodup := by
  rw [keys_append]
  refine List.nodup_append.mpr ⟨h, List.nodup_singleton k, ?_⟩
  simpa using fun x hx => ne_of_mem_of_not_mem hx hk

variable [DecidableEq κ]

@[simp] theorem get_nil : get ([] : List (κ × α)) k = none := rfl

@[simp] theorem get_cons {p : κ × α} : get (p :: l) k = if p.1 = k then some p.2 else get l k := by
  unfold get
  rw [List.find?_cons]
  by_cases hp : p.1 = k <;> simp [hp]

theorem get_append : get (l ++ r) k = (get l k).or (get r k) := by
  induction l with
  | nil => rfl
  | cons p l ih =>
    rw [List.cons_append, get_cons, get_cons, ih]
    split_ifs <;> rfl

theorem mem_of_get_eq_some (h : get l k = some a) : (k, a) ∈ l := by
  unfold get at h
  obtain ⟨⟨k', a'⟩, hfind, rfl⟩ := Option.map_eq_some_iff.mp h
  have hk := List.find?_some hfind
  obtain rfl : k' = k := by simpa using hk
  exact List.mem_of_find?_eq_some hfind

theorem get_eq_none_iff : get l k = none ↔ k ∉ keys l := by
  unfold get keys
  simp only [Option.map_eq_none_iff, List.find?_eq_none, decide_eq_true_eq, List.mem_map, not_exists,
    not_and]

/-- Beside other entries, the first one may be written first. -/
theorem get_cons_or {p : κ × α} (hp : p.1 ∉ keys l) (T : κ → Option α) :
    (fun k => (get (p :: l) k).or (T k)) =
      fun k => (get l k).or (Function.update T p.1 (some p.2) k) := by
  funext k
  rw [get_cons]
  by_cases heq : p.1 = k
  · rw [if_pos heq, ← heq, get_eq_none_iff.mpr hp, Function.update_self]
    rfl
  · rw [if_neg heq, Function.update_of_ne (Ne.symm heq)]

theorem get_eq_some_iff (h : (keys l).Nodup) : get l k = some a ↔ (k, a) ∈ l := by
  refine ⟨mem_of_get_eq_some, fun hmem => ?_⟩
  induction l with
  | nil => cases hmem
  | cons p l ih =>
    rw [keys_cons, List.nodup_cons] at h
    rw [get_cons]
    rcases List.mem_cons.mp hmem with rfl | hmem
    · exact if_pos rfl
    · have hne : p.1 ≠ k := by
        rintro rfl
        exact h.1 (List.mem_map.mpr ⟨_, hmem, rfl⟩)
      rw [if_neg hne]
      exact ih h.2 hmem

theorem mem_keys_of_get (h : get l k = some a) : k ∈ keys l :=
  List.mem_map_of_mem (f := Prod.fst) (mem_of_get_eq_some h)

theorem exists_get_of_mem_keys (h : k ∈ keys l) : ∃ a, get l k = some a := by
  cases hget : get l k with
  | none => exact absurd h (get_eq_none_iff.mp hget)
  | some a => exact ⟨a, rfl⟩

theorem get_map (f : κ → α → β) :
    get (l.map fun p => (p.1, f p.1 p.2)) k = (get l k).map (f k) := by
  induction l with
  | nil => rfl
  | cons p l ih =>
    rw [List.map_cons, get_cons, get_cons, ih]
    split_ifs with hp
    · subst hp
      rfl
    · rfl

theorem get_modify (f : α → α) :
    get (modify k f l) k' = if k' = k then (get l k').map f else get l k' := by
  have hmodify : modify k f l = l.map fun p => (p.1, (if p.1 = k then f else id) p.2) := by
    unfold modify
    refine List.map_congr_left fun p _ => ?_
    split_ifs <;> rfl
  rw [hmodify, get_map fun i => if i = k then f else id]
  split_ifs
  · rfl
  · rw [Option.map_id_fun, id_eq]

theorem modify_modify (f g : α → α) :
    modify k f (modify k g l) = modify k (fun a => f (g a)) l := by
  unfold modify
  rw [List.map_map]
  refine List.map_congr_left fun p _ => ?_
  rw [Function.comp_apply]
  by_cases hp : p.1 = k
  · rw [if_pos hp, if_pos hp, if_pos hp]
  · rw [if_neg hp, if_neg hp, if_neg hp]

theorem remove_modify (f : α → α) : remove k (modify k f l) = remove k l := by
  unfold remove modify
  induction l with
  | nil => rfl
  | cons p l ih =>
    rw [List.map_cons, List.filter_cons, List.filter_cons, ih]
    by_cases hp : p.1 = k
    · rw [if_pos hp, if_neg (by simpa using hp), if_neg (by simpa using hp)]
    · rw [if_neg hp]

/-- An update with what is there. -/
theorem modify_self (h : (keys l).Nodup) (hk : get l k = some a) :
    modify k (fun _ => a) l = l := by
  unfold modify
  refine (List.map_congr_left fun p hp => ?_).trans (List.map_id l)
  split_ifs with heq
  · have hget : get l p.1 = some p.2 := (get_eq_some_iff h).mpr hp
    rw [heq, hk] at hget
    rw [Option.some.inj hget]
    rfl
  · rfl

/-- A list around the entry of a key. -/
theorem exists_split (h : (keys l).Nodup) (hk : get l k = some a) : ∃ before after,
    l = before ++ (k, a) :: after ∧ ∀ f, modify k f l = before ++ (k, f a) :: after := by
  obtain ⟨before, after, rfl⟩ := List.append_of_mem (mem_of_get_eq_some hk)
  refine ⟨before, after, rfl, fun f => ?_⟩
  rw [keys_append, keys_cons, List.nodup_append, List.nodup_cons] at h
  obtain ⟨-, ⟨hafter, -⟩, hbefore⟩ := h
  have hsame : ∀ r : List (κ × α), k ∉ keys r → modify k f r = r := by
    intro r hr
    refine (List.map_congr_left fun p hp => if_neg ?_).trans (List.map_id r)
    rintro rfl
    exact hr (List.mem_map_of_mem hp)
  have hmodify : modify k f (before ++ (k, a) :: after) =
      modify k f before ++ (k, f a) :: modify k f after := by
    unfold modify
    rw [List.map_append, List.map_cons, if_pos rfl]
  rw [hmodify, hsame before fun hmem => hbefore _ hmem _ List.mem_cons_self rfl,
    hsame after hafter]

theorem get_filter (p : κ → Bool) :
    get (l.filter fun q => p q.1) k = if p k then get l k else none := by
  induction l with
  | nil => simp
  | cons q l ih =>
    rw [List.filter_cons]
    by_cases hq : q.1 = k
    · subst hq
      cases hp : p q.1 <;> simp [hp, ih]
    · cases hp : p q.1 <;> simp [hq, ih]

theorem get_remove : get (remove k l) k' = if k' = k then none else get l k' := by
  have hfilter := get_filter (l := l) (k := k') fun i => decide (i ≠ k)
  unfold remove
  rw [hfilter]
  by_cases h : k' = k <;> simp [h]

theorem get_concat (h : k ∉ keys l) :
    get (l ++ [(k, a)]) k' = if k' = k then some a else get l k' := by
  rw [get_append, get_cons, get_nil]
  split_ifs with h1 h2 h2
  · rw [← h1, get_eq_none_iff.mpr h]
    rfl
  · exact absurd h1.symm h2
  · exact absurd h2.symm h1
  · rw [Option.or_none]

/-- Maps with the same entries differ in their order only. -/
theorem perm_of_get_eq (hl : (keys l).Nodup) (hr : (keys r).Nodup)
    (h : ∀ k, get l k = get r k) : l.Perm r := by
  refine (List.perm_ext_iff_of_nodup hl.of_map hr.of_map).mpr fun p => ?_
  obtain ⟨k, a⟩ := p
  rw [← get_eq_some_iff hl, ← get_eq_some_iff hr, h k]

theorem get_eq_of_perm (hl : (keys l).Nodup) (h : l.Perm r) (k : κ) : get l k = get r k := by
  have hr : (keys r).Nodup := (h.map Prod.fst).nodup_iff.mp hl
  refine Option.ext fun a => ?_
  rw [get_eq_some_iff hl, get_eq_some_iff hr, h.mem_iff]

end Assoc
