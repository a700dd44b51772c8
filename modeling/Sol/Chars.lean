import Mathlib.Data.List.DropRight
import Mathlib.Tactic

/-!
# Texts

The operations of a string library on lists of characters: lines, separators, trimming, ASCII
case and the numbers of machine words.

* `splitOnce_append`, `takeWhile_append`: what stands before the first separator;
* `trim_pad`: blanks around a text that has none at its ends.
-/

namespace Chars

abbrev Text := List Char

/-- The property `White_Space`. -/
def isWhitespace (c : Char) : Bool :=
  let n := c.toNat
  (9 ≤ n && n ≤ 13) || n = 0x20 || n = 0x85 || n = 0xA0 || n = 0x1680 ||
    (0x2000 ≤ n && n ≤ 0x200A) || n = 0x2028 || n = 0x2029 || n = 0x202F || n = 0x205F || n = 0x3000

def trimStart (text : Text) : Text := text.dropWhile isWhitespace

def trimEnd (text : Text) : Text := text.rdropWhile isWhitespace

def trim (text : Text) : Text := trimEnd (trimStart text)

/-- The parts between the separators; there is always one. -/
def split (separator : Char) : Text → List Text
  | [] => [[]]
  | c :: text =>
    match split separator text with
    | [] => [[c]]
    | part :: parts => if c = separator then [] :: part :: parts else (c :: part) :: parts

/-- The parts with separators between them. -/
def join (separator : Char) : List Text → Text
  | [] => []
  | [part] => part
  | part :: parts => part ++ separator :: join separator parts

/-- At most `n + 1` parts: the last one keeps its separators. -/
def splitn (separator : Char) : ℕ → Text → List Text
  | 0, text => [text]
  | n + 1, text =>
    let before := text.takeWhile (· ≠ separator)
    match text.dropWhile (· ≠ separator) with
    | [] => [before]
    | _ :: after => before :: splitn separator n after

def splitOnce (separator : Char) (text : Text) : Option (Text × Text) :=
  match text.dropWhile (· ≠ separator) with
  | [] => none
  | _ :: after => some (text.takeWhile (· ≠ separator), after)

/-- A line may end with a carriage return before its line feed; what follows the last line feed is
no line if it is empty. -/
def lines (text : Text) : List Text :=
  let parts := split '\n' text
  let stripped := parts.dropLast.map fun line =>
    if line.getLast? = some '\r' then line.dropLast else line
  match parts.getLast? with
  | some [] => stripped
  | some last => stripped ++ [last]
  | none => stripped

def toAsciiLowercase (text : Text) : Text := text.map Char.toLower

def toAsciiUppercase (text : Text) : Text := text.map Char.toUpper

def isDigit (c : Char) : Bool := '0' ≤ c && c ≤ '9'

/-- The number that decimal digits stand for. -/
def digitsValue (digits : Text) : ℕ :=
  digits.foldl (fun value digit => 10 * value + (digit.toNat - '0'.toNat)) 0

inductive IntErrorKind
  | empty
  | invalidDigit
  | posOverflow
  deriving DecidableEq, Repr

/-- The number that digits after others stand for. -/
def parseDigits (bits value : ℕ) : Text → Except IntErrorKind ℕ
  | [] => .ok value
  | c :: digits =>
    if ¬isDigit c then .error .invalidDigit
    else
      let value := 10 * value + (c.toNat - '0'.toNat)
      if 2 ^ bits ≤ value then .error .posOverflow else parseDigits bits value digits

/-- An unsigned number of some bits, maybe with a plus sign. -/
def parseUnsigned (bits : ℕ) (text : Text) : Except IntErrorKind ℕ :=
  match text with
  | [] => .error .empty
  | ['+'] => .error .invalidDigit
  | '+' :: digits => parseDigits bits 0 digits
  | digits => parseDigits bits 0 digits

/-! ### Separators -/

variable {separator : Char} {before after text : Text} {c : Char}

theorem takeWhile_append (h : separator ∉ before) :
    (before ++ separator :: after).takeWhile (· ≠ separator) = before := by
  induction before with
  | nil => simp
  | cons c before ih =>
    rw [List.mem_cons, not_or] at h
    rw [List.cons_append, List.takeWhile_cons, if_pos (by simpa using Ne.symm h.1), ih h.2]

theorem dropWhile_append (h : separator ∉ before) :
    (before ++ separator :: after).dropWhile (· ≠ separator) = separator :: after := by
  induction before with
  | nil => simp
  | cons c before ih =>
    rw [List.mem_cons, not_or] at h
    rw [List.cons_append, List.dropWhile_cons, if_pos (by simpa using Ne.symm h.1), ih h.2]

theorem takeWhile_of_notMem (h : separator ∉ text) : text.takeWhile (· ≠ separator) = text := by
  rw [List.takeWhile_eq_self_iff]
  intro c hc
  exact decide_eq_true (ne_of_mem_of_not_mem hc h)

theorem splitOnce_append (h : separator ∉ before) :
    splitOnce separator (before ++ separator :: after) = some (before, after) := by
  unfold splitOnce
  rw [dropWhile_append h, takeWhile_append h]

theorem splitn_append {n : ℕ} (h : separator ∉ before) :
    splitn separator (n + 1) (before ++ separator :: after) =
      before :: splitn separator n after := by
  rw [splitn]
  simp only [dropWhile_append h, takeWhile_append h]

theorem split_ne_nil (separator : Char) (text : Text) : split separator text ≠ [] := by
  cases text with
  | nil => exact List.cons_ne_nil _ _
  | cons c text =>
    rw [split]
    split
    · exact List.cons_ne_nil _ _
    · split_ifs <;> exact List.cons_ne_nil _ _

theorem notMem_of_mem_split : ∀ part ∈ split separator text, separator ∉ part := by
  induction text with
  | nil => simp [split]
  | cons c text ih =>
    obtain ⟨first, parts, hsplit⟩ := List.exists_cons_of_ne_nil (split_ne_nil separator text)
    rw [hsplit, List.forall_mem_cons] at ih
    rw [split, hsplit]
    dsimp only
    split_ifs with hc
    · exact List.forall_mem_cons.mpr ⟨List.not_mem_nil, List.forall_mem_cons.mpr ih⟩
    · refine List.forall_mem_cons.mpr ⟨?_, ih.2⟩
      exact List.not_mem_cons_of_ne_of_not_mem (Ne.symm hc) ih.1

theorem split_of_notMem (h : separator ∉ text) : split separator text = [text] := by
  induction text with
  | nil => rfl
  | cons c text ih =>
    rw [List.mem_cons, not_or] at h
    rw [split, ih h.2]
    exact if_neg (Ne.symm h.1)

theorem split_append (h : separator ∉ before) :
    split separator (before ++ separator :: after) = before :: split separator after := by
  induction before with
  | nil =>
    obtain ⟨first, parts, hsplit⟩ := List.exists_cons_of_ne_nil (split_ne_nil separator after)
    rw [List.nil_append, split, hsplit]
    exact if_pos rfl
  | cons c before ih =>
    rw [List.mem_cons, not_or] at h
    rw [List.cons_append, split, ih h.2]
    exact if_neg (Ne.symm h.1)

/-- Parts without separators can be joined. -/
theorem split_join {parts : List Text} (hne : parts ≠ [])
    (h : ∀ part ∈ parts, separator ∉ part) : split separator (join separator parts) = parts := by
  induction parts with
  | nil => exact absurd rfl hne
  | cons part parts ih =>
    rw [List.forall_mem_cons] at h
    cases parts with
    | nil => exact split_of_notMem h.1
    | cons next parts =>
      rw [join, split_append h.1, ih (List.cons_ne_nil _ _) h.2]
      exact nofun

/-! ### Blanks -/

theorem trimStart_pad {pad : Text} (hpad : ∀ c ∈ pad, isWhitespace c = true) :
    trimStart (pad ++ text) = trimStart text := by
  unfold trimStart
  induction pad with
  | nil => rfl
  | cons c pad ih =>
    rw [List.forall_mem_cons] at hpad
    rw [List.cons_append, List.dropWhile_cons, if_pos hpad.1, ih hpad.2]

theorem trimEnd_pad {pad : Text} (hpad : ∀ c ∈ pad, isWhitespace c = true) :
    trimEnd (text ++ pad) = trimEnd text := by
  unfold trimEnd List.rdropWhile
  rw [List.reverse_append]
  congr 1
  exact trimStart_pad fun c hc => hpad c (List.mem_reverse.mp hc)

theorem trim_pad {pad : Text} (hpad : ∀ c ∈ pad, isWhitespace c = true) :
    trim (text ++ pad) = trim text := by
  unfold trim
  rw [trimStart, List.dropWhile_append]
  split_ifs with hempty
  · rw [List.dropWhile_eq_nil_iff.mpr hpad, trimStart, List.isEmpty_iff.mp hempty]
  · exact trimEnd_pad hpad

/-- A text that does not begin with a blank. -/
theorem trimStart_cons (hc : isWhitespace c = false) : trimStart (c :: text) = c :: text := by
  unfold trimStart
  rw [List.dropWhile_cons, if_neg (by rw [hc]; exact Bool.false_ne_true)]

theorem trimEnd_concat (hc : isWhitespace c = false) : trimEnd (text ++ [c]) = text ++ [c] := by
  unfold trimEnd
  rw [List.rdropWhile_concat, if_neg (by rw [hc]; exact Bool.false_ne_true)]

/-- What is left by trimming, and what was dropped after it. -/
theorem exists_trimEnd (text : Text) : ∃ pad, text = trimEnd text ++ pad ∧
    ∀ c ∈ pad, isWhitespace c = true := by
  refine ⟨text.rtakeWhile isWhitespace, ?_, fun c hc => List.mem_rtakeWhile_imp hc⟩
  exact List.rdropWhile_append_rtakeWhile.symm

end Chars
