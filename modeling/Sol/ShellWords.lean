import Sol.SolConf

/-!
# The words of a command

A command is split into words at its blanks.  A word in quotes, with `\` before the quotes and
the `\` in it, may have any characters, and may be empty.

* `Splitter.run_quoted`: a quoted word is read as the word;
* `shellSplit_of_joined`: quoted words with blanks between them are split into the words.
-/

namespace Sol.SolConf

open Chars

/-! ### Quoting -/

/-- A character within quotes. -/
def escape (c : Char) : Text := if c = '\\' ∨ c = '"' then ['\\', c] else [c]

/-- A word in quotes. -/
def quoted (word : Text) : Text := '"' :: (word.flatMap escape ++ ['"'])

/-- A run of blanks. -/
def IsGap (gap : Text) : Prop := gap ≠ [] ∧ ∀ c ∈ gap, c = ' ' ∨ c = '\t'

/-- A text that joins words in quotes by runs of blanks. -/
inductive Joined : List Text → Text → Prop
  | nil : Joined [] []
  | single (word : Text) : Joined [word] (quoted word)
  | cons (word : Text) {next : Text} {words : List Text} {gap text : Text} (hgap : IsGap gap)
    (htext : Joined (next :: words) text) :
      Joined (word :: next :: words) (quoted word ++ (gap ++ text))

/-! ### Splitting -/

namespace Splitter

variable {s : Splitter} {word gap text : Text}

theorem run_escape (hs : s.inQuote = true) (c : Char) :
    s.run ('\\' :: c :: text) = { s with cur := s.cur ++ [c] }.run text := by
  rw [run.eq_def]
  dsimp only
  rw [if_pos ⟨rfl, hs⟩]

theorem run_quote : s.run ('"' :: text) =
    { s with inQuote := !s.inQuote, hadToken := true }.run text := by
  rw [run.eq_def]
  dsimp only
  rw [if_neg (by simp), if_pos rfl]

theorem run_plain (hs : s.inQuote = true) (ht : s.hadToken = true) {c : Char} (hescape : c ≠ '\\')
    (hquote : c ≠ '"') : s.run (c :: text) = { s with cur := s.cur ++ [c] }.run text := by
  rw [run.eq_def]
  dsimp only
  rw [if_neg fun h => hescape h.1, if_neg hquote, if_neg fun h => h.2 hs, ← ht]

theorem run_blank (hs : s.inQuote = false) {c : Char} (hc : c = ' ' ∨ c = '\t') :
    s.run (c :: text) = (if s.hadToken then
      { s with out := s.out ++ [s.cur], cur := [], hadToken := false } else s).run text := by
  have hescape : ¬(c = '\\' ∧ s.inQuote = true) := by simp [hs]
  have hquote : c ≠ '"' := by rcases hc with rfl | rfl <;> decide
  rw [run.eq_def]
  dsimp only
  rw [if_neg hescape, if_neg hquote, if_pos ⟨hc, by simp [hs]⟩]
  split_ifs <;> rfl

/-- Within quotes a word is read to its end. -/
theorem run_escaped (hs : s.inQuote = true) (ht : s.hadToken = true) (word text : Text) :
    s.run (word.flatMap escape ++ text) = { s with cur := s.cur ++ word }.run text := by
  induction word generalizing s with
  | nil => rw [List.flatMap_nil, List.nil_append, List.append_nil]
  | cons c word ih =>
    have hone : s.run (escape c ++ (word.flatMap escape ++ text)) =
        { s with cur := s.cur ++ [c] }.run (word.flatMap escape ++ text) := by
      by_cases hc : c = '\\' ∨ c = '"'
      · rw [escape, if_pos hc]
        exact run_escape hs c
      · obtain ⟨hescape, hquote⟩ := not_or.mp hc
        rw [escape, if_neg hc]
        exact run_plain hs ht hescape hquote
    rw [List.flatMap_cons, List.append_assoc, hone, ih (by exact hs) (by exact ht),
      List.append_assoc, List.singleton_append]

/-- A word in quotes is read as the word. -/
theorem run_quoted (hs : s.inQuote = false) (word text : Text) :
    s.run (quoted word ++ text) = { s with cur := s.cur ++ word, hadToken := true }.run text := by
  unfold quoted
  rw [List.cons_append, List.append_assoc, run_quote, run_escaped (by simp [hs]) rfl,
    List.singleton_append, run_quote]
  simp only [Bool.not_not]

/-- Blanks end a word once. -/
theorem run_gap (hs : s.inQuote = false) (hgap : IsGap gap) (text : Text) :
    s.run (gap ++ text) = (if s.hadToken then
      { s with out := s.out ++ [s.cur], cur := [], hadToken := false } else s).run text := by
  obtain ⟨hne, hblank⟩ := hgap
  induction gap generalizing s with
  | nil => exact absurd rfl hne
  | cons c gap ih =>
    rw [List.forall_mem_cons] at hblank
    rw [List.cons_append, run_blank hs hblank.1]
    cases gap with
    | nil => rfl
    | cons d gap =>
      cases ht : s.hadToken with
      | false =>
        rw [if_neg Bool.false_ne_true, ih hs (List.cons_ne_nil _ _) hblank.2, ht]
        rfl
      | true =>
        rw [if_pos rfl, ih (by exact hs) (List.cons_ne_nil _ _) hblank.2]
        rfl

end Splitter

/-- What a command is split into from some point on. -/
def splitFrom (s : Splitter) (text : Text) : Option (List Text) :=
  match s.run text with
  | none => none
  | some s => if s.inQuote then none else if s.hadToken then some (s.out ++ [s.cur]) else some s.out

theorem splitFrom_of_joined {words : List Text} {text : Text} (h : Joined words text)
    (out : List Text) : splitFrom ⟨out, [], false, false⟩ text = some (out ++ words) := by
  induction h generalizing out with
  | nil => simp [splitFrom, Splitter.run]
  | single word =>
    have hrun := Splitter.run_quoted (s := ⟨out, [], false, false⟩) rfl word []
    rw [List.append_nil] at hrun
    unfold splitFrom
    rw [hrun]
    simp [Splitter.run]
  | @cons word next words gap text hgap _ ih =>
    have hrun : Splitter.run ⟨out, [], false, false⟩ (quoted word ++ (gap ++ text)) =
        Splitter.run ⟨out ++ [word], [], false, false⟩ text := by
      rw [Splitter.run_quoted rfl, Splitter.run_gap rfl hgap]
      rfl
    have hnext := ih (out ++ [word])
    unfold splitFrom at hnext ⊢
    rw [hrun, hnext, List.append_assoc, List.singleton_append]

/-- Quoting is undone by splitting, whatever the blanks between the words. -/
theorem shellSplit_of_joined {words : List Text} {text : Text} (h : Joined words text) :
    shellSplit text = some words := splitFrom_of_joined h []

/-- An empty word, one with blanks, and one with quotes and a `\`. -/
theorem shellSplit_of_joined_three :
    shellSplit "\"\"  \"a\tb c\"\t\"\\\"\\\\\"".toList =
      some ["".toList, "a\tb c".toList, "\"\\".toList] := by
  have hblanks : IsGap [' ', ' '] := by simp [IsGap]
  have htab : IsGap ['\t'] := by simp [IsGap]
  exact shellSplit_of_joined (.cons _ hblanks (.cons _ htab (.single _)))

end Sol.SolConf
