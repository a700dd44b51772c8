import Mathlib.Tactic
import Mathlib.Data.List.InsertIdx

/-!
# Lists with a focus

A list together with the position that is focused.  The focus is a position, so
whoever changes the list has to move it; the operations here move it so that
the focused element stays the same one.

* `insertAt`, `eraseAt`: the positions behind shift by one;
* `exchange`: two elements trade places;
* `relocate`: one element moves, and those in between shift.
-/

universe u

/-- A list and the focused position in it. -/
structure FocusList (α : Type u) where
  items : List α
  focus : Option ℕ

namespace FocusList

variable {α : Type u}

/-- The focused element. -/
def focused (l : FocusList α) : Option α := l.focus.bind fun i => l.items[i]?

/-- Exactly the empty list has no focus, and the focus is a position of the list. -/
structure Valid (l : FocusList α) : Prop where
  focus_eq_none : l.focus = none ↔ l.items = []
  focus_lt : ∀ i, l.focus = some i → i < l.items.length

/-! ### Positions -/

/-- Where a position goes when an element is inserted at `i`. -/
def afterInsert (i c : ℕ) : ℕ := if i ≤ c then c + 1 else c

/-- Where a position goes when the element at `i` is erased. -/
def afterErase (i c : ℕ) : ℕ := if i < c then c - 1 else c

/-- Where a position goes when those at `i` and `j` trade places. -/
def afterExchange (i j c : ℕ) : ℕ := if c = i then j else if c = j then i else c

/-- Where a position goes when the element at `i` moves to `j`. -/
def afterRelocate (i j c : ℕ) : ℕ :=
  if c = i then j else afterInsert j (afterErase i c)

theorem getElem?_insertIdx_afterInsert {l : List α} {i c : ℕ} (a : α) :
    (l.insertIdx i a)[afterInsert i c]? = l[c]? := by
  unfold afterInsert
  split_ifs with h
  · rw [List.getElem?_insertIdx_of_gt (by omega), Nat.add_sub_cancel]
  · exact List.getElem?_insertIdx_of_lt (by omega)

theorem getElem?_eraseIdx_afterErase {l : List α} {i c : ℕ} (hic : c ≠ i) :
    (l.eraseIdx i)[afterErase i c]? = l[c]? := by
  unfold afterErase
  split_ifs with h
  · rw [List.getElem?_eraseIdx_of_ge (by omega), Nat.sub_add_cancel (by omega)]
  · exact List.getElem?_eraseIdx_of_lt (by omega)

theorem afterInsert_lt {n i c : ℕ} (hc : c < n) : afterInsert i c < n + 1 := by
  unfold afterInsert
  split_ifs <;> omega

theorem afterErase_lt {n i c : ℕ} (hc : c < n) (hi : i < n) (hic : c ≠ i) :
    afterErase i c < n - 1 := by
  unfold afterErase
  split_ifs <;> omega

/-! ### Elements -/

/-- The list with the elements at `i` and `j` exchanged. -/
def exchanged (l : List α) (i j : ℕ) : List α :=
  match l[i]?, l[j]? with
  | some a, some b => (l.set i b).set j a
  | _, _ => l

/-- The list with the element at `i` moved to `j`. -/
def relocated (l : List α) (i j : ℕ) : List α :=
  match l[i]? with
  | some a => (l.eraseIdx i).insertIdx j a
  | none => l

theorem exchanged_of_lt {l : List α} {i j : ℕ} (hi : i < l.length) (hj : j < l.length) :
    exchanged l i j = (l.set i l[j]).set j l[i] := by
  simp [exchanged, hi, hj]

theorem exchanged_perm (l : List α) (i j : ℕ) : (exchanged l i j).Perm l := by
  by_cases h : i < l.length ∧ j < l.length
  · rw [exchanged_of_lt h.1 h.2]
    exact List.set_set_perm h.1 h.2
  · have : exchanged l i j = l := by
      unfold exchanged
      rcases not_and_or.mp h with hi | hj
      · simp [List.getElem?_eq_none (not_lt.mp hi)]
      · cases l[i]? <;> simp [List.getElem?_eq_none (not_lt.mp hj)]
    rw [this]

@[simp] theorem length_exchanged (l : List α) (i j : ℕ) : (exchanged l i j).length = l.length :=
  (exchanged_perm l i j).length_eq

/-- What stands where after an exchange. -/
theorem getElem?_exchanged {l : List α} {i j : ℕ} (hi : i < l.length) (hj : j < l.length) (c : ℕ) :
    (exchanged l i j)[c]? = l[afterExchange i j c]? := by
  rw [exchanged_of_lt hi hj]
  unfold afterExchange
  by_cases hcj : j = c
  · subst hcj
    by_cases hij : j = i
    · subst hij
      simp [hj]
    · simp [hij, hi, hj]
  · by_cases hci : i = c
    · subst hci
      simp [hcj, hi, hj]
    · simp [hcj, hci, Ne.symm hcj, Ne.symm hci]

theorem afterExchange_self (i j c : ℕ) : afterExchange i j (afterExchange i j c) = c := by
  unfold afterExchange
  split_ifs <;> omega

/-- Exchanging twice changes nothing. -/
theorem exchanged_exchanged {l : List α} {i j : ℕ} (hi : i < l.length) (hj : j < l.length) :
    exchanged (exchanged l i j) i j = l := by
  apply List.ext_getElem?
  intro c
  rw [getElem?_exchanged (by simpa using hi) (by simpa using hj), getElem?_exchanged hi hj,
    afterExchange_self]

theorem exchanged_cons (a : α) (l : List α) (i j : ℕ) :
    exchanged (a :: l) (i + 1) (j + 1) = a :: exchanged l i j := by
  unfold exchanged
  simp only [List.getElem?_cons_succ]
  cases l[i]? <;> cases l[j]? <;> simp

theorem map_exchanged {β : Type u} (f : α → β) (l : List α) (i j : ℕ) :
    (exchanged l i j).map f = exchanged (l.map f) i j := by
  unfold exchanged
  simp only [List.getElem?_map]
  cases l[i]? <;> cases l[j]? <;> simp [List.map_set]

/-- Carrying an element to the end. -/
theorem relocated_last {l : List α} {i : ℕ} (hi : i < l.length) :
    relocated l i (l.length - 1) = l.eraseIdx i ++ [l[i]] := by
  unfold relocated
  rw [List.getElem?_eq_getElem hi, ← List.length_eraseIdx_of_lt hi]
  simp

theorem relocated_perm {l : List α} {i j : ℕ} (hj : j < l.length) : (relocated l i j).Perm l := by
  unfold relocated
  split
  · rename_i a h
    obtain ⟨hi, rfl⟩ := List.getElem?_eq_some_iff.mp h
    have hlen : j ≤ (l.eraseIdx i).length := by
      rw [List.length_eraseIdx_of_lt hi]
      omega
    exact (List.perm_insertIdx _ _ hlen).trans (List.getElem_cons_eraseIdx_perm hi)
  · rfl

@[simp] theorem length_relocated {l : List α} {i j : ℕ} (hj : j < l.length) :
    (relocated l i j).length = l.length := (relocated_perm hj).length_eq

/-- What stands where after a relocation. -/
theorem getElem?_relocated {l : List α} {i j c : ℕ} (hi : i < l.length) (hj : j < l.length)
    (hc : c < l.length) : (relocated l i j)[afterRelocate i j c]? = l[c]? := by
  have hlen : (l.eraseIdx i).length = l.length - 1 := List.length_eraseIdx_of_lt hi
  unfold relocated afterRelocate
  rw [List.getElem?_eq_getElem hi]
  split_ifs with hci
  · subst hci
    rw [List.getElem?_insertIdx_self, if_pos (by omega), List.getElem?_eq_getElem hi]
  · exact (getElem?_insertIdx_afterInsert _).trans (getElem?_eraseIdx_afterErase hci)

theorem afterRelocate_lt {n i j c : ℕ} (hi : i < n) (hj : j < n) (hc : c < n) :
    afterRelocate i j c < n := by
  unfold afterRelocate afterInsert afterErase
  split_ifs <;> omega

/-- Between neighbours an exchange is a relocation. -/
theorem exchanged_eq_relocated {l : List α} {i j : ℕ} (hi : i < l.length) (hj : j < l.length)
    (hadjacent : j = i + 1 ∨ i = j + 1) : exchanged l i j = relocated l i j := by
  apply List.ext_getElem?
  intro c
  by_cases hc : c < l.length
  · have hback : afterRelocate i j (afterExchange i j c) = c := by
      unfold afterRelocate afterExchange afterInsert afterErase
      split_ifs <;> omega
    have hlt : afterExchange i j c < l.length := by
      unfold afterExchange
      split_ifs <;> omega
    rw [getElem?_exchanged hi hj, ← getElem?_relocated hi hj hlt, hback]
  · rw [List.getElem?_eq_none (by simpa using hc),
      List.getElem?_eq_none (by simpa [length_relocated hj] using hc)]

/-- In a list without repetitions the position of an element is the only one. -/
theorem position_unique {l : List α} (hl : l.Nodup) {i j : ℕ} (hi : i < l.length) :
    l[j]? = l[i]? ↔ j = i := by
  constructor
  · intro h
    rw [List.getElem?_eq_getElem hi] at h
    obtain ⟨hj, heq⟩ := List.getElem?_eq_some_iff.mp h
    exact (hl.getElem_inj_iff).mp heq
  · rintro rfl
    rfl

/-! ### Operations -/

def insertAt (l : FocusList α) (i : ℕ) (a : α) : FocusList α :=
  ⟨l.items.insertIdx i a, l.focus.map (afterInsert i)⟩

def eraseAt (l : FocusList α) (i : ℕ) : FocusList α :=
  ⟨l.items.eraseIdx i, l.focus.map (afterErase i)⟩

def exchange (l : FocusList α) (i j : ℕ) : FocusList α :=
  ⟨exchanged l.items i j, l.focus.map (afterExchange i j)⟩

def relocate (l : FocusList α) (i j : ℕ) : FocusList α :=
  ⟨relocated l.items i j, l.focus.map (afterRelocate i j)⟩

/-- The list with a new last element, which takes the focus when `activate` says
so or when it is the only one. -/
def append (l : FocusList α) (a : α) (activate : Bool) : FocusList α :=
  ⟨l.items ++ [a], if activate then some l.items.length else l.focus.or (some 0)⟩

def focusOn (l : FocusList α) (i : ℕ) : FocusList α := { l with focus := some i }

/-- The focused element is an element. -/
theorem mem_of_focused {l : FocusList α} {a : α} (h : l.focused = some a) : a ∈ l.items := by
  unfold focused at h
  cases hf : l.focus with
  | none => simp [hf] at h
  | some i =>
    rw [hf] at h
    exact List.mem_of_getElem? h

/-- A valid list has a focused element unless it is empty. -/
theorem Valid.focused_isSome {l : FocusList α} (h : l.Valid) (hne : l.items ≠ []) :
    ∃ a, l.focused = some a := by
  unfold focused
  cases hf : l.focus with
  | none => exact absurd (h.focus_eq_none.mp hf) hne
  | some i =>
    have hi := h.focus_lt i hf
    exact ⟨l.items[i], by simp [hi]⟩

/-- Appending without activation keeps the focused element, if there is one. -/
theorem focused_append {l : FocusList α} {a b : α} (h : l.focused = some a) :
    (l.append b false).focused = some a := by
  unfold focused append at *
  cases hf : l.focus with
  | none => simp [hf] at h
  | some i =>
    rw [hf] at h
    have hi : i < l.items.length := (List.getElem?_eq_some_iff.mp h).1
    simpa [List.getElem?_append_left hi] using h

/-- An insertion keeps the focused element. -/
theorem focused_insertAt (l : FocusList α) (i : ℕ) (a : α) :
    (l.insertAt i a).focused = l.focused := by
  unfold focused insertAt
  cases l.focus with
  | none => rfl
  | some c => simpa using getElem?_insertIdx_afterInsert a

/-- The removal of another element keeps the focused one. -/
theorem focused_eraseAt {l : FocusList α} {i : ℕ} (hi : l.focus ≠ some i) :
    (l.eraseAt i).focused = l.focused := by
  unfold focused eraseAt
  cases hf : l.focus with
  | none => rfl
  | some c =>
    have hc : c ≠ i := fun h => hi (by rw [hf, h])
    simpa using getElem?_eraseIdx_afterErase hc

/-- An exchange keeps the focused element, which moves. -/
theorem focused_exchange {l : FocusList α} {i j : ℕ} (hi : i < l.items.length)
    (hj : j < l.items.length) : (l.exchange i j).focused = l.focused := by
  unfold focused exchange
  cases l.focus with
  | none => rfl
  | some c =>
    change (exchanged l.items i j)[afterExchange i j c]? = l.items[c]?
    rw [getElem?_exchanged hi hj, afterExchange_self]

/-- A relocation keeps the focused element. -/
theorem focused_relocate {l : FocusList α} (h : l.Valid) {i j : ℕ} (hi : i < l.items.length)
    (hj : j < l.items.length) : (l.relocate i j).focused = l.focused := by
  unfold focused relocate
  cases hf : l.focus with
  | none => rfl
  | some c => exact getElem?_relocated hi hj (h.focus_lt c hf)

end FocusList
