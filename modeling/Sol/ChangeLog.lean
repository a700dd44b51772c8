import Mathlib.Data.List.Chain
import Mathlib.Data.List.Nodup

/-!
# Logs of changes

A value that is stamped now and then gives a list of stamped values.  Its log keeps of
them those that differ from the value before, and as much is known from the log as from
the list: the value at the end, and the log of what comes after any point.

* `lastValue_changes`: the last value of the log is that of the list;
* `changes_append`: the log of a list is the log up to a point and the log from there;
* `isChain_changes`: no value of the log repeats the one before.
-/

namespace ChangeLog

universe u

variable {ι β : Type u} {c v : β} {s : ι} {l l' : List (ι × β)}

/-- The value at the end of the list, `c` if there is none. -/
def lastValue (c : β) (l : List (ι × β)) : β := (l.getLast?.map (·.2)).getD c

@[simp] theorem lastValue_nil : lastValue c ([] : List (ι × β)) = c := rfl

@[simp] theorem lastValue_concat : lastValue c (l ++ [(s, v)]) = v := by
  simp [lastValue]

theorem lastValue_append : lastValue c (l ++ l') = lastValue (lastValue c l) l' := by
  unfold lastValue
  rw [List.getLast?_append]
  cases l'.getLast? <;> rfl

theorem lastValue_cons : lastValue c ((s, v) :: l) = lastValue v l := by
  rw [← List.singleton_append, lastValue_append]
  rfl

variable [DecidableEq β]

/-- The stamped values that differ from the value before, at first from `c`. -/
def changes (c : β) : List (ι × β) → List (ι × β)
  | [] => []
  | (s, v) :: l => if v = c then changes c l else (s, v) :: changes v l

theorem changes_cons : changes c ((s, v) :: l) =
    if v = c then changes c l else (s, v) :: changes v l := rfl

theorem changes_sublist (c : β) (l : List (ι × β)) : (changes c l).Sublist l := by
  induction l generalizing c with
  | nil => exact List.Sublist.slnil
  | cons a l ih =>
    obtain ⟨s, v⟩ := a
    rw [changes_cons]
    split_ifs with hv
    · exact (ih c).cons _
    · exact (ih v).cons_cons _

/-- The log knows the value at the end. -/
theorem lastValue_changes (c : β) (l : List (ι × β)) :
    lastValue c (changes c l) = lastValue c l := by
  induction l generalizing c with
  | nil => rfl
  | cons a l ih =>
    obtain ⟨s, v⟩ := a
    rw [lastValue_cons, changes_cons]
    split_ifs with hv
    · rw [ih, hv]
    · rw [lastValue_cons, ih]

theorem changes_append (c : β) (l l' : List (ι × β)) :
    changes c (l ++ l') = changes c l ++ changes (lastValue c l) l' := by
  induction l generalizing c with
  | nil => rfl
  | cons a l ih =>
    obtain ⟨s, v⟩ := a
    rw [List.cons_append, lastValue_cons, changes_cons, changes_cons]
    split_ifs with hv
    · rw [ih, hv]
    · rw [ih, List.cons_append]

/-- One more value is logged if it differs from the last one. -/
theorem changes_concat (c : β) (l : List (ι × β)) (s : ι) (v : β) :
    changes c (l ++ [(s, v)]) =
      if lastValue c (changes c l) ≠ v then changes c l ++ [(s, v)] else changes c l := by
  rw [changes_append, lastValue_changes]
  by_cases hv : v = lastValue c l
  · simp [changes, hv]
  · simp [changes, hv, Ne.symm hv]

theorem isChain_changes (c : β) (l : List (ι × β)) :
    (c :: (changes c l).map (·.2)).IsChain (· ≠ ·) := by
  induction l generalizing c with
  | nil => exact List.isChain_singleton c
  | cons a l ih =>
    obtain ⟨s, v⟩ := a
    rw [changes_cons]
    split_ifs with hv
    · exact ih c
    · rw [List.map_cons, List.isChain_cons_cons]
      exact ⟨Ne.symm hv, ih v⟩

end ChangeLog
