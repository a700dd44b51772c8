import Sol.Panicking

/-!
# Growable arrays

Lists with the indexing discipline of a growable array: access, removal,
insertion and exchange panic outside the bounds.  Each operation comes with the
list it leaves and with the fact that it only rearranges the elements.
-/

namespace Vec

open Panicking

universe u v

variable {α : Type u}

/-- `v[i]`. -/
def get (l : List α) (i : ℕ) : Outcome α :=
  match l[i]? with
  | some a => .ok a
  | none => .error .indexOutOfBounds

/-- `v.remove(i)`: the removed element and what is left. -/
def remove (l : List α) (i : ℕ) : Outcome (α × List α) :=
  match l[i]? with
  | some a => .ok (a, l.eraseIdx i)
  | none => .error .indexOutOfBounds

/-- `v.insert(i, a)`. -/
def insert (l : List α) (i : ℕ) (a : α) : Outcome (List α) :=
  if i ≤ l.length then .ok (l.insertIdx i a) else .error .indexOutOfBounds

/-- `v[i] = f(v[i])`, as a mutable borrow of one element. -/
def modify (l : List α) (i : ℕ) (f : α → α) : Outcome (List α) :=
  match l[i]? with
  | some a => .ok (l.set i (f a))
  | none => .error .indexOutOfBounds

/-- A call that borrows `v[i]` mutably, with its result. -/
def update {β : Type u} (l : List α) (i : ℕ) (f : α → Outcome (β × α)) : Outcome (β × List α) := do
  let a ← get l i
  let (b, a) ← f a
  pure (b, l.set i a)

/-- A call without a result that borrows `v[i]` mutably. -/
def apply (l : List α) (i : ℕ) (f : α → Outcome α) : Outcome (List α) := do
  let a ← get l i
  let a ← f a
  pure (l.set i a)

/-- A call that borrows the first element with some property mutably, if there is one. -/
def applyFirst (p : α → Bool) (f : α → Outcome α) (l : List α) : Outcome (Option (List α)) :=
  match l.findIdx? p with
  | some i => do
    let l ← apply l i f
    pure (some l)
  | none => pure none

/-- A call that borrows one element after the other mutably, until one gives a result;
with the index of that element. -/
def applyUntil {β : Type u} (f : α → Outcome (α × Option β)) :
    List α → Outcome (List α × Option (ℕ × β))
  | [] => pure ([], none)
  | a :: l => do
    let (a, found) ← f a
    match found with
    | some b => pure (a :: l, some (0, b))
    | none => do
      let (l, found) ← applyUntil f l
      pure (a :: l, found.map fun (i, b) => (i + 1, b))

/-- `v.swap(i, j)`. -/
def swap (l : List α) (i j : ℕ) : Outcome (List α) :=
  match l[i]?, l[j]? with
  | some a, some b => .ok ((l.set i b).set j a)
  | _, _ => .error .indexOutOfBounds

/-- `v.swap_remove(i)`: the last element takes the place of the removed one. -/
def swapRemove (l : List α) (i : ℕ) : Outcome (List α) :=
  match l[i]?, l.getLast? with
  | some _, some last => .ok ((l.set i last).dropLast)
  | _, _ => .error .indexOutOfBounds

/-- The places of the elements with some property, in order. -/
def indices (p : α → Bool) (l : List α) : List ℕ := (l.zipIdx.filter fun (a, _) => p a).map (·.2)

/-! ### Rules -/

section Rules

variable {l : List α} {i j : ℕ} {a : α} {f : α → α} {P : α → Prop} {Q : List α → Prop}
  {R : α × List α → Prop} {c : Prop}

@[simp] theorem ensures_get : Ensures (get l i) P ↔ ∀ a, l[i]? = some a → P a := by
  unfold get
  cases h : l[i]? <;> simp

@[simp] theorem returns_get : Returns (get l i) P ↔ ∃ a, l[i]? = some a ∧ P a := by
  unfold get
  cases h : l[i]? <;> simp

@[simp] theorem guarded_get :
    Guarded c (get l i) P ↔ (∀ a, l[i]? = some a → P a) ∧ (c → i < l.length) := by
  unfold get
  by_cases h : i < l.length <;> simp [h]

@[simp] theorem ensures_remove :
    Ensures (remove l i) R ↔ ∀ a, l[i]? = some a → R (a, l.eraseIdx i) := by
  unfold remove
  cases h : l[i]? <;> simp

@[simp] theorem returns_remove :
    Returns (remove l i) R ↔ ∃ a, l[i]? = some a ∧ R (a, l.eraseIdx i) := by
  unfold remove
  cases h : l[i]? <;> simp

@[simp] theorem guarded_remove : Guarded c (remove l i) R ↔
    (∀ a, l[i]? = some a → R (a, l.eraseIdx i)) ∧ (c → i < l.length) := by
  unfold remove
  by_cases h : i < l.length <;> simp [h]

@[simp] theorem ensures_insert :
    Ensures (insert l i a) Q ↔ (i ≤ l.length → Q (l.insertIdx i a)) := by
  by_cases h : i ≤ l.length <;> simp [insert, h]

@[simp] theorem returns_insert :
    Returns (insert l i a) Q ↔ i ≤ l.length ∧ Q (l.insertIdx i a) := by
  by_cases h : i ≤ l.length <;> simp [insert, h]

@[simp] theorem guarded_insert : Guarded c (insert l i a) Q ↔
    (i ≤ l.length → Q (l.insertIdx i a)) ∧ (c → i ≤ l.length) := by
  by_cases h : i ≤ l.length <;> simp [insert, h]

@[simp] theorem ensures_modify :
    Ensures (modify l i f) Q ↔ ∀ a, l[i]? = some a → Q (l.set i (f a)) := by
  unfold modify
  cases h : l[i]? <;> simp

@[simp] theorem returns_modify :
    Returns (modify l i f) Q ↔ ∃ a, l[i]? = some a ∧ Q (l.set i (f a)) := by
  unfold modify
  cases h : l[i]? <;> simp

@[simp] theorem guarded_update {β : Type u} {g : α → Outcome (β × α)} {S : β × List α → Prop} :
    Guarded c (update l i g) S ↔
      (∀ a, l[i]? = some a → Guarded c (g a) fun r => S (r.1, l.set i r.2)) ∧
        (c → i < l.length) := by
  simp only [update, guarded_bind, guarded_get, guarded_pure]

@[simp] theorem guarded_apply {g : α → Outcome α} :
    Guarded c (apply l i g) Q ↔
      (∀ a, l[i]? = some a → Guarded c (g a) fun b => Q (l.set i b)) ∧ (c → i < l.length) := by
  simp only [apply, guarded_bind, guarded_get, guarded_pure]

@[simp] theorem ensures_update {β : Type u} {g : α → Outcome (β × α)} {S : β × List α → Prop} :
    Ensures (update l i g) S ↔
      ∀ a, l[i]? = some a → Ensures (g a) fun r => S (r.1, l.set i r.2) := by
  simp only [update, ensures_bind, ensures_get, ensures_pure]

@[simp] theorem ensures_apply {g : α → Outcome α} :
    Ensures (apply l i g) Q ↔ ∀ a, l[i]? = some a → Ensures (g a) fun b => Q (l.set i b) := by
  simp only [apply, ensures_bind, ensures_get, ensures_pure]

@[simp] theorem ensures_swap :
    Ensures (swap l i j) Q ↔
      ∀ a b, l[i]? = some a → l[j]? = some b → Q ((l.set i b).set j a) := by
  unfold swap
  by_cases hi : i < l.length <;> by_cases hj : j < l.length <;> simp [hi, hj]

@[simp] theorem guarded_swap : Guarded c (swap l i j) Q ↔
    (∀ a b, l[i]? = some a → l[j]? = some b → Q ((l.set i b).set j a)) ∧
      (c → i < l.length ∧ j < l.length) := by
  unfold swap
  by_cases hi : i < l.length <;> by_cases hj : j < l.length <;> simp [hi, hj]

/-- A call for each element, in order. -/
theorem guarded_mapM {β : Type u} {g : α → Outcome β} {S : α → β → Prop}
    (h : ∀ a ∈ l, Guarded c (g a) (S a)) : Guarded c (l.mapM g) (List.Forall₂ S l) := by
  induction l with
  | nil => simp
  | cons a l ih =>
    obtain ⟨ha, hl⟩ := List.forall_mem_cons.mp h
    rw [List.mapM_cons]
    simp only [guarded_bind, guarded_pure]
    exact ha.mono fun b hb => (ih hl).mono fun bs hbs => .cons hb hbs

/-- A call for the first element with some property. -/
theorem guarded_applyFirst {p : α → Bool} {g : α → Outcome α} {S : Option (List α) → Prop}
    (hnone : (∀ a ∈ l, p a = false) → S none)
    (hsome : ∀ i a, l[i]? = some a → p a = true →
      Guarded c (g a) fun b => S (some (l.set i b))) : Guarded c (applyFirst p g l) S := by
  unfold applyFirst
  cases hfind : l.findIdx? p with
  | none =>
    rw [List.findIdx?_eq_none_iff] at hfind
    exact guarded_pure.mpr (hnone hfind)
  | some i =>
    obtain ⟨hi, hp, -⟩ := List.findIdx?_eq_some_iff_getElem.mp hfind
    simp only [guarded_bind, guarded_apply, guarded_pure]
    refine ⟨fun a ha => hsome i a ha ?_, fun _ => hi⟩
    obtain ⟨-, rfl⟩ := List.getElem?_eq_some_iff.mp ha
    exact hp

/-- Calls that go on until one gives a result, which they do if one is to. -/
theorem guarded_applyUntil {β : Type u} {g : α → Outcome (α × Option β)} {S : α → α → Prop}
    {p : α → Prop} (hrefl : ∀ a ∈ l, S a a)
    (h : ∀ a ∈ l, Guarded c (g a) fun r => S a r.1 ∧ (p a → r.2.isSome = true)) :
    Guarded c (applyUntil g l) fun r => List.Forall₂ S l r.1 ∧
      (∀ found ∈ r.2, found.1 < l.length) ∧ ((∃ a ∈ l, p a) → r.2.isSome = true) := by
  induction l with
  | nil => simp [applyUntil]
  | cons a l ih =>
    obtain ⟨ha, hl⟩ := List.forall_mem_cons.mp h
    obtain ⟨-, hrefl⟩ := List.forall_mem_cons.mp hrefl
    unfold applyUntil
    rw [guarded_bind]
    refine ha.mono ?_
    rintro ⟨b, found⟩ ⟨hb, hfound⟩
    cases found with
    | some result =>
      exact guarded_pure.mpr ⟨.cons hb (List.forall₂_same.mpr hrefl), by simp, by simp⟩
    | none =>
      simp only [guarded_bind, guarded_pure]
      refine (ih hrefl hl).mono ?_
      rintro ⟨rest, found⟩ ⟨hrest, hlt, hsome⟩
      refine ⟨.cons hb hrest, ?_, ?_⟩
      · simp only [Option.mem_map, List.length_cons]
        rintro _ ⟨⟨i, result⟩, hmem, rfl⟩
        exact Nat.succ_lt_succ (hlt _ hmem)
      · rintro ⟨x, hx, hpx⟩
        rw [Option.isSome_map]
        rcases List.mem_cons.mp hx with rfl | hx
        · exact absurd (hfound hpx) (by simp)
        · exact hsome ⟨x, hx, hpx⟩

theorem mapM_eq_ok_map {β : Type u} {g : α → Outcome β} {f : α → β}
    (h : ∀ a ∈ l, g a = .ok (f a)) : l.mapM g = .ok (l.map f) := by
  induction l with
  | nil => rfl
  | cons a l ih =>
    obtain ⟨ha, hl⟩ := List.forall_mem_cons.mp h
    rw [List.mapM_cons, ha, ih hl]
    rfl

/-- What a call for each element gives comes from the elements. -/
theorem mem_of_mapM_eq_ok {β : Type u} {g : α → Outcome β} {out : List β}
    (h : l.mapM g = .ok out) :
    (∀ a ∈ l, ∃ b ∈ out, g a = .ok b) ∧ ∀ b ∈ out, ∃ a ∈ l, g a = .ok b := by
  induction l generalizing out with
  | nil =>
    obtain rfl := Except.ok.inj h
    simp
  | cons a l ih =>
    rw [List.mapM_cons] at h
    obtain ⟨b, hb, h⟩ := returns_bind.mp ⟨out, h, rfl⟩
    obtain ⟨bs, hbs, h⟩ := returns_bind.mp h
    obtain rfl := returns_pure.mp h
    obtain ⟨hl, hout⟩ := ih hbs
    constructor
    · refine List.forall_mem_cons.mpr ⟨⟨b, List.mem_cons_self, hb⟩, fun x hx => ?_⟩
      obtain ⟨y, hy, hxy⟩ := hl x hx
      exact ⟨y, List.mem_cons_of_mem _ hy, hxy⟩
    · refine List.forall_mem_cons.mpr ⟨⟨a, List.mem_cons_self, hb⟩, fun y hy => ?_⟩
      obtain ⟨x, hx, hxy⟩ := hout y hy
      exact ⟨x, List.mem_cons_of_mem _ hx, hxy⟩

theorem remove_eq_ok (h : l[i]? = some a) : remove l i = .ok (a, l.eraseIdx i) := by
  simp [remove, h]

theorem get_append (l : List α) (a : α) (r : List α) : get (l ++ a :: r) l.length = .ok a := by
  simp [get]

theorem remove_append (l : List α) (a : α) (r : List α) :
    remove (l ++ a :: r) l.length = .ok (a, l ++ r) := by
  have hget : (l ++ a :: r)[l.length]? = some a := by simp
  rw [remove_eq_ok hget, List.eraseIdx_append_of_length_le le_rfl, Nat.sub_self,
    List.eraseIdx_cons_zero]

theorem insert_append (l : List α) (a : α) (r : List α) :
    insert (l ++ r) l.length a = .ok (l ++ a :: r) := by
  unfold insert
  rw [if_pos (by simp)]
  induction l with
  | nil => simp
  | cons b l ih => simpa using ih

theorem swap_eq_ok {b : α} (hi : l[i]? = some a) (hj : l[j]? = some b) :
    swap l i j = .ok ((l.set i b).set j a) := by
  simp [swap, hi, hj]

/-- What is put back in the place of a removed element replaces it. -/
theorem insertIdx_eraseIdx_self (h : i < l.length) :
    (l.eraseIdx i).insertIdx i a = l.set i a := by
  induction l generalizing i with
  | nil => simp at h
  | cons b l ih =>
    cases i with
    | zero => rfl
    | succ i =>
      rw [List.eraseIdx_cons_succ, List.insertIdx_succ_cons, List.set_cons_succ,
        ih (Nat.lt_of_succ_lt_succ h)]

/-- Updating an element in place keeps what the update keeps of each element. -/
theorem map_modify_eq {β : Type u} {g : α → β} (hf : ∀ a, g (f a) = g a) (i : ℕ) (l : List α) :
    (l.modify i f).map g = l.map g := by
  apply List.ext_getElem?
  intro j
  rw [List.getElem?_map, List.getElem?_map, List.getElem?_modify]
  split_ifs <;> simp [Option.map_map, Function.comp_def, hf]

/-- Replacing an element by one that agrees with it on `g`. -/
theorem map_set_eq {β : Type u} {g : α → β} {b : α} (ha : l[i]? = some a) (hab : g b = g a) :
    (l.set i b).map g = l.map g := by
  obtain ⟨hi, rfl⟩ := List.getElem?_eq_some_iff.mp ha
  rw [List.map_set, hab, ← List.map_set, List.set_getElem_self]

theorem forall_mem_set {b : α} (hl : ∀ x ∈ l, P x) (hb : P b) : ∀ x ∈ l.set i b, P x := by
  intro x hx
  rcases List.mem_or_eq_of_mem_set hx with h | rfl
  · exact hl x h
  · exact hb

/-! ### What holds of every element -/

theorem forall_mem_modify (hl : ∀ a ∈ l, P a) (hf : ∀ a, P a → P (f a)) (i : ℕ) :
    ∀ b ∈ l.modify i f, P b := by
  intro b hb
  obtain ⟨j, hj, rfl⟩ := List.getElem_of_mem hb
  rw [List.getElem_modify]
  split_ifs
  · exact hf _ (hl _ (List.getElem_mem _))
  · exact hl _ (List.getElem_mem _)

theorem ensures_mapM {β : Type u} {g : α → Outcome β} {S : β → Prop}
    (h : ∀ a ∈ l, Ensures (g a) S) : Ensures (l.mapM g) fun bs => ∀ b ∈ bs, S b := by
  induction l with
  | nil => exact ensures_pure.mpr fun _ hb => absurd hb List.not_mem_nil
  | cons a l ih =>
    obtain ⟨ha, hl⟩ := List.forall_mem_cons.mp h
    rw [List.mapM_cons]
    simp only [ensures_bind, ensures_pure]
    exact ha.mono fun b hb => (ih hl).mono fun bs hbs => List.forall_mem_cons.mpr ⟨hb, hbs⟩

theorem ensures_applyFirst {p : α → Bool} {g : α → Outcome α} (hl : ∀ a ∈ l, P a)
    (h : ∀ a ∈ l, Ensures (g a) P) :
    Ensures (applyFirst p g l) fun found => ∀ l' ∈ found, ∀ a ∈ l', P a := by
  unfold applyFirst
  cases l.findIdx? p with
  | none => exact ensures_pure.mpr fun _ hl' => nomatch hl'
  | some i =>
    simp only [ensures_bind, ensures_apply, ensures_pure]
    refine fun a ha => (h a (List.mem_of_getElem? ha)).mono fun b hb l' hl' => ?_
    cases hl'
    exact forall_mem_set hl hb

theorem ensures_applyUntil {β : Type u} {g : α → Outcome (α × Option β)} (hl : ∀ a ∈ l, P a)
    (h : ∀ a ∈ l, Ensures (g a) fun r => P r.1) :
    Ensures (applyUntil g l) fun r => ∀ a ∈ r.1, P a := by
  induction l with
  | nil => exact ensures_pure.mpr hl
  | cons a l ih =>
    obtain ⟨-, hrest⟩ := List.forall_mem_cons.mp hl
    obtain ⟨ha, hg⟩ := List.forall_mem_cons.mp h
    unfold applyUntil
    rw [ensures_bind]
    refine ha.mono ?_
    rintro ⟨b, found⟩ hb
    cases found with
    | some result => exact ensures_pure.mpr (List.forall_mem_cons.mpr ⟨hb, hrest⟩)
    | none =>
      simp only [ensures_bind, ensures_pure]
      exact (ih hrest hg).mono fun r hr => List.forall_mem_cons.mpr ⟨hb, hr⟩

/-- Among parts without a common element an element is in one part only. -/
theorem index_unique {β : Type u} {f : α → List β} {a b : α} (h : (l.flatMap f).Nodup) {j : ℕ}
    (hi : l[i]? = some a) (hj : l[j]? = some b) {x : β} (ha : x ∈ f a) (hb : x ∈ f b) : i = j := by
  have hpairwise := (List.nodup_flatMap.mp h).2
  obtain ⟨hilt, rfl⟩ := List.getElem?_eq_some_iff.mp hi
  obtain ⟨hjlt, rfl⟩ := List.getElem?_eq_some_iff.mp hj
  rw [List.pairwise_iff_getElem] at hpairwise
  rcases Nat.lt_trichotomy i j with hlt | heq | hgt
  · exact absurd hb (hpairwise i j hilt hjlt hlt ha)
  · exact heq
  · exact absurd ha (hpairwise j i hjlt hilt hgt hb)

/-- What the parts of a replaced element gain and lose. -/
theorem flatMap_set_perm {β : Type u} (f : α → List β) {b : α} (ha : l[i]? = some a) :
    (f a ++ (l.set i b).flatMap f).Perm (f b ++ l.flatMap f) := by
  obtain ⟨hi, rfl⟩ := List.getElem?_eq_some_iff.mp ha
  have hset := (List.set_perm_cons_eraseIdx hi b).flatMap_right f
  have hget := (List.getElem_cons_eraseIdx_perm hi).flatMap_right f
  rw [List.flatMap_cons] at hset hget
  calc
    List.Perm (f l[i] ++ (l.set i b).flatMap f) (f l[i] ++ (f b ++ (l.eraseIdx i).flatMap f)) :=
      hset.append_left _
    List.Perm _ (f b ++ (f l[i] ++ (l.eraseIdx i).flatMap f)) := by
      rw [← List.append_assoc, ← List.append_assoc]
      exact List.perm_append_comm.append_right _
    List.Perm _ (f b ++ l.flatMap f) := hget.append_left _

/-- What a replaced element gains all of them gain. -/
theorem flatMap_set_gain {β : Type u} {f : α → List β} {b : α} {gain : List β}
    (ha : l[i]? = some a) (hb : (f b).Perm (gain ++ f a)) :
    ((l.set i b).flatMap f).Perm (gain ++ l.flatMap f) := by
  refine (List.perm_append_left_iff (f a)).mp ?_
  calc
    List.Perm (f a ++ (l.set i b).flatMap f) (f b ++ l.flatMap f) := flatMap_set_perm f ha
    List.Perm _ (gain ++ f a ++ l.flatMap f) := hb.append_right _
    List.Perm _ (f a ++ (gain ++ l.flatMap f)) := by
      rw [← List.append_assoc]
      exact List.perm_append_comm.append_right _

/-- What a replaced element loses all of them lose. -/
theorem flatMap_set_loss {β : Type u} {f : α → List β} {b : α} {lost : List β}
    (ha : l[i]? = some a) (hb : (f a).Perm (lost ++ f b)) :
    (l.flatMap f).Perm (lost ++ (l.set i b).flatMap f) := by
  have hback : ((l.set i b).set i a).flatMap f = l.flatMap f := by
    obtain ⟨hi, rfl⟩ := List.getElem?_eq_some_iff.mp ha
    rw [List.set_set, List.set_getElem_self]
  obtain ⟨hi, -⟩ := List.getElem?_eq_some_iff.mp ha
  rw [← hback]
  exact flatMap_set_gain (List.getElem?_set_self hi) hb

end Rules

/-! ### Removal of several elements -/

theorem indices_concat (p : α → Bool) (l : List α) (a : α) :
    indices p (l ++ [a]) = indices p l ++ if p a then [l.length] else [] := by
  unfold indices
  rw [List.zipIdx_append, List.filter_append, List.map_append]
  cases hp : p a <;> simp [hp]

theorem swapRemove_append (l : List α) (a : α) (r : List α) :
    ∃ r', swapRemove (l ++ a :: r) l.length = .ok (l ++ r') ∧ r'.Perm r := by
  unfold swapRemove
  cases r using List.reverseRecOn with
  | nil => exact ⟨[], by simp, .refl _⟩
  | append_singleton r last =>
    refine ⟨last :: r, ?_, List.perm_append_singleton last r |>.symm⟩
    have hget : (l ++ a :: (r ++ [last]))[l.length]? = some a := by simp
    have hlast : (l ++ a :: (r ++ [last])).getLast? = some last := by
      rw [← List.cons_append, ← List.append_assoc, List.getLast?_concat]
    have hset : (l ++ a :: (r ++ [last])).set l.length last = (l ++ last :: r) ++ [last] := by simp
    simp only [hget, hlast]
    rw [hset, List.dropLast_concat]

/-- Elements that are removed from the last to the first, each by the last one taking its
place: the others are left, in some order. -/
theorem foldlM_swapRemove {β : Type u} (p : α → Bool) (f : α → β) (l : List α) (r : List β) :
    ∃ r', (indices p l).reverse.foldlM swapRemove (l.map f ++ r) = .ok r' ∧
      r'.Perm ((l.filter fun a => !p a).map f ++ r) := by
  induction l using List.reverseRecOn generalizing r with
  | nil => exact ⟨r, rfl, .refl _⟩
  | append_singleton l a ih =>
    rw [indices_concat, List.map_append, List.append_assoc, List.filter_append, List.map_append]
    cases hp : p a with
    | false =>
      obtain ⟨r', hfold, hperm⟩ := ih (f a :: r)
      refine ⟨r', ?_, ?_⟩
      · simpa using hfold
      · simpa [hp] using hperm
    | true =>
      obtain ⟨r₁, hremove, hperm₁⟩ := swapRemove_append (l.map f) (f a) r
      obtain ⟨r', hfold, hperm⟩ := ih r₁
      refine ⟨r', ?_, hperm.trans ?_⟩
      · rw [List.length_map] at hremove
        simp only [if_true, List.reverse_append, List.reverse_singleton, List.foldlM_cons,
          List.map_cons, List.map_nil, List.singleton_append, hremove]
        exact hfold
      · simpa [hp] using hperm₁.append_left _

/-! ### Lists of indices -/

/-- Elements that are looked up by their index, each in its turn. -/
theorem filterMap_getElem? {β : Type v} (pre xs : List α) {l : List (ℕ × β)}
    (h : l.map Prod.fst = List.range' pre.length xs.length) :
    (l.filterMap fun entry => (pre ++ xs)[entry.1]?.map fun x => (x, entry.2)) =
      xs.zip (l.map Prod.snd) := by
  induction xs generalizing pre l with
  | nil =>
    rw [List.length_nil, List.range'_zero, List.map_eq_nil_iff] at h
    rw [h, List.filterMap_nil, List.zip_nil_left]
  | cons x xs ih =>
    rw [List.length_cons, List.range'_succ, List.map_eq_cons_iff] at h
    obtain ⟨entry, rest, rfl, hentry, hrest⟩ := h
    have hx : (pre ++ x :: xs)[entry.1]? = some x := by simp [hentry]
    have ih' := ih (pre ++ [x]) (l := rest) (by simpa using hrest)
    rw [List.append_assoc, List.singleton_append] at ih'
    rw [List.filterMap_cons, hx, ih', List.map_cons, List.zip_cons_cons]
    rfl

/-- What is found among the elements that are there. -/
theorem findSome?_filterMap {β γ : Type v} (g : α → Option β) (f : β → Option γ)
    (l : List α) : (l.filterMap g).findSome? f = l.findSome? fun a => (g a).bind f := by
  induction l with
  | nil => rfl
  | cons a l ih =>
    cases hg : g a with
    | none => rw [List.filterMap_cons_none hg, List.findSome?_cons, hg, ih]; rfl
    | some b => rw [List.filterMap_cons_some hg, List.findSome?_cons, List.findSome?_cons, hg, ih]; rfl

end Vec
