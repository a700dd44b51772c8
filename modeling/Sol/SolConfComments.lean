import Sol.SolConfBounds

/-!
# Comments in sol configurations

A comment is taken off a line before anything else is done with it, so a `#` in a value ends the
value.

* `keyValue_line`: the key and the value of a line;
* `shellSplit_eq_none`: a command that ends inside of quotes is malformed;
* `comments_spec`: a colour with its `#` is rejected, and so is a command with a `#` inside of
  quotes.
-/

namespace Chars

variable {text before after : Text} {c : Char}

theorem dropWhile_append_of_not {p : Char → Bool} (hc : p c = false) :
    (before ++ c :: after).dropWhile p = before.dropWhile p ++ c :: after := by
  induction before with
  | nil =>
    rw [List.nil_append, List.dropWhile_cons, if_neg (by rw [hc]; exact Bool.false_ne_true)]
    rfl
  | cons a before ih =>
    rw [List.cons_append, List.dropWhile_cons, List.dropWhile_cons]
    split_ifs
    · exact ih
    · rfl

theorem trimStart_append (hc : isWhitespace c = false) :
    trimStart (before ++ c :: after) = trimStart before ++ c :: after :=
  dropWhile_append_of_not hc

theorem trimEnd_append (hc : isWhitespace c = false) :
    trimEnd (before ++ c :: after) = before ++ c :: trimEnd after := by
  unfold trimEnd List.rdropWhile
  rw [List.reverse_append, List.reverse_cons, List.append_assoc, List.singleton_append,
    dropWhile_append_of_not hc, List.reverse_append, List.reverse_cons, List.reverse_reverse,
    List.append_assoc, List.singleton_append]

theorem notMem_of_blank {pad : Text} (hpad : ∀ c ∈ pad, isWhitespace c = true)
    (hc : isWhitespace c = false) : c ∉ pad := by
  intro hmem
  have hblank := hpad c hmem
  rw [hc] at hblank
  cases hblank

/-- Only blanks are dropped from the start. -/
theorem exists_trimStart (text : Text) : ∃ pad, text = pad ++ trimStart text ∧
    ∀ c ∈ pad, isWhitespace c = true :=
  ⟨text.takeWhile isWhitespace, (List.takeWhile_append_dropWhile ..).symm, fun _ hc =>
    List.mem_takeWhile_imp hc⟩

end Chars

namespace Sol.SolConf

open Chars Floats

variable {C : Type} {library : Library C} {config config' : Config C} {value : Text}

/-! ### Quotes -/

/-- Where a text ends. -/
inductive Quote
  | outside
  | inside
  /-- After a `\` inside of quotes. -/
  | escaped
  deriving DecidableEq, Repr

def Quote.next (self : Quote) (c : Char) : Quote :=
  match self with
  | outside => if c = '"' then inside else outside
  | inside => if c = '"' then outside else if c = '\\' then escaped else inside
  | escaped => inside

def quoteFrom (quote : Quote) (text : Text) : Quote := text.foldl Quote.next quote

def quoteAfter (text : Text) : Quote := quoteFrom .outside text

theorem quoteFrom_append {quote : Quote} {text text' : Text} :
    quoteFrom quote (text ++ text') = quoteFrom (quoteFrom quote text) text' := List.foldl_append

theorem next_outside_of_blank {c : Char} (hc : isWhitespace c = true) :
    Quote.outside.next c = .outside := by
  unfold Quote.next
  refine if_neg ?_
  rintro rfl
  cases hc

theorem quoteFrom_blank {pad : Text} (hpad : ∀ c ∈ pad, isWhitespace c = true) :
    quoteFrom .outside pad = .outside := by
  induction pad with
  | nil => rfl
  | cons c pad ih =>
    rw [List.forall_mem_cons] at hpad
    show quoteFrom (Quote.outside.next c) pad = .outside
    rw [next_outside_of_blank hpad.1]
    exact ih hpad.2

/-- Blanks at the ends do not lead out of the quotes. -/
theorem quoteAfter_trimEnd {text : Text} (h : quoteAfter text ≠ .outside) :
    quoteAfter (trimEnd text) ≠ .outside := by
  obtain ⟨pad, htext, hpad⟩ := exists_trimEnd text
  intro hout
  refine h ?_
  rw [htext, quoteAfter, quoteFrom_append, show quoteFrom .outside _ = _ from hout]
  exact quoteFrom_blank hpad

theorem quoteAfter_trim {text : Text} (h : quoteAfter text ≠ .outside) :
    quoteAfter (trim text) ≠ .outside := by
  obtain ⟨pad, htext, hpad⟩ := exists_trimStart text
  refine quoteAfter_trimEnd ?_
  rw [htext, quoteAfter, quoteFrom_append, quoteFrom_blank hpad] at h
  exact h

def Splitter.quote (self : Splitter) : Quote := if self.inQuote then .inside else .outside

/-- Most of the characters change nothing. -/
theorem next_quote {splitter : Splitter} {c : Char}
    (hescape : ¬(c = '\\' ∧ splitter.inQuote = true)) (hquote : c ≠ '"') :
    splitter.quote.next c = splitter.quote := by
  unfold Splitter.quote
  cases hin : splitter.inQuote with
  | false => exact if_neg hquote
  | true =>
    have hc : c ≠ '\\' := fun heq => hescape ⟨heq, hin⟩
    show (if c = '"' then _ else if c = '\\' then _ else _) = _
    rw [if_neg hquote, if_neg hc]
    rfl

/-- The splitter is left inside of quotes by a text that ends there. -/
theorem inQuote_of_run {splitter splitter' : Splitter} {text : Text}
    (h : quoteFrom splitter.quote text ≠ .outside) (hrun : splitter.run text = some splitter') :
    splitter'.inQuote = true := by
  fun_induction Splitter.run splitter text with
  | case1 splitter =>
    cases hrun
    unfold Splitter.quote at h
    by_contra hout
    rw [if_neg hout] at h
    exact h rfl
  | case2 splitter c hc => cases hrun
  | case3 splitter c hc next text ih =>
    refine ih ?_ hrun
    obtain ⟨rfl, hin⟩ := hc
    unfold Splitter.quote at h ⊢
    rw [if_pos hin] at h ⊢
    exact h
  | case4 splitter text hescape ih =>
    refine ih ?_ hrun
    unfold Splitter.quote at h ⊢
    cases hin : splitter.inQuote <;> rw [hin] at h <;> exact h
  | case5 splitter c text hescape hquote hblank htoken ih =>
    refine ih ?_ hrun
    have hnext := next_quote hescape hquote
    show quoteFrom splitter.quote text ≠ .outside
    rw [← hnext]
    exact h
  | case6 splitter c text hescape hquote hblank htoken ih =>
    refine ih ?_ hrun
    rw [← next_quote hescape hquote]
    exact h
  | case7 splitter c text hescape hquote hblank ih =>
    refine ih ?_ hrun
    have hnext := next_quote hescape hquote
    show quoteFrom splitter.quote text ≠ .outside
    rw [← hnext]
    exact h

theorem shellSplit_eq_none {text : Text} (h : quoteAfter text ≠ .outside) :
    shellSplit text = none := by
  unfold shellSplit
  cases hrun : Splitter.run ⟨[], [], false, false⟩ text with
  | none => rfl
  | some splitter =>
    have hstart : quoteFrom (Splitter.quote ⟨[], [], false, false⟩) text ≠ .outside := h
    have hin : splitter.inQuote = true := inQuote_of_run hstart hrun
    exact if_pos hin

theorem parseCommand_eq_error {text : Text} (h : quoteAfter text ≠ .outside) :
    parseCommand text = .error .malformedQuoting := by
  unfold parseCommand
  rw [shellSplit_eq_none h]

/-! ### Lines -/

/-- A key, and what follows the `=`, with blanks around the key. -/
def lineOf (indent : Text) (key : String) (gap rest : Text) : Text :=
  indent ++ key.toList ++ gap ++ '=' :: rest

/-- A key without blanks and separators. -/
def PlainKey (key : String) : Prop :=
  (∃ c text, key.toList = c :: text ∧ isWhitespace c = false) ∧
    (∃ text c, key.toList = text ++ [c] ∧ isWhitespace c = false) ∧ '#' ∉ key.toList ∧
      '=' ∉ key.toList

variable {indent gap rest : Text} {key : String}

theorem stripLine_line (hindent : ∀ c ∈ indent, isWhitespace c = true)
    (hgap : ∀ c ∈ gap, isWhitespace c = true) (hkey : PlainKey key) :
    stripLine (lineOf indent key gap rest) =
      key.toList ++ gap ++ '=' :: trimEnd (rest.takeWhile (· ≠ '#')) := by
  obtain ⟨⟨c, text, hcons, hc⟩, -, hhash, -⟩ := hkey
  have hplain : '#' ∉ indent ++ key.toList ++ gap := by
    rw [List.mem_append, List.mem_append, not_or, not_or]
    exact ⟨⟨notMem_of_blank hindent rfl, hhash⟩, notMem_of_blank hgap rfl⟩
  have htake : (lineOf indent key gap rest).takeWhile (· ≠ '#') =
      indent ++ (key.toList ++ gap ++ '=' :: rest.takeWhile (· ≠ '#')) := by
    unfold lineOf
    rw [List.takeWhile_append_of_pos fun a ha =>
      decide_eq_true (ne_of_mem_of_not_mem ha hplain), List.takeWhile_cons, if_pos (by decide),
      List.append_assoc, List.append_assoc, List.append_assoc]
  unfold stripLine trim
  rw [htake, trimStart_pad hindent, hcons, List.cons_append, List.cons_append, trimStart_cons hc,
    ← List.cons_append, ← List.cons_append, trimEnd_append (by decide)]

theorem keyValue_line (hgap : ∀ c ∈ gap, isWhitespace c = true) (hkey : PlainKey key) :
    keyValue (key.toList ++ gap ++ '=' :: rest) = some (key.toList, trim rest) := by
  obtain ⟨⟨c, text, hcons, hc⟩, ⟨text', c', hconcat, hc'⟩, -, heq⟩ := hkey
  have hplain : '=' ∉ key.toList ++ gap := by
    rw [List.mem_append, not_or]
    exact ⟨heq, notMem_of_blank hgap rfl⟩
  have htrim : trim (key.toList ++ gap) = key.toList := by
    unfold trim
    have hstart : trimStart (key.toList ++ gap) = key.toList ++ gap := by
      rw [hcons, List.cons_append, trimStart_cons hc]
    rw [hstart, trimEnd_pad hgap, hconcat, trimEnd_concat hc']
  unfold keyValue
  rw [splitOnce_append hplain, Option.map_some, htrim]

/-- A line with a setting, whatever is behind its comment sign. -/
theorem parseLine_line (setting : Setting) {lineno : ℕ}
    (hindent : ∀ c ∈ indent, isWhitespace c = true) (hgap : ∀ c ∈ gap, isWhitespace c = true)
    (hkey : PlainKey key) (hsetting : Setting.ofKey key.toList = some setting) :
    parseLine library config lineno (lineOf indent key gap rest) =
      match apply library config (trim (trimEnd (rest.takeWhile (· ≠ '#')))) setting with
      | .ok config => .ok config
      | .error error => .error (.failedToApply lineno key.toList error) := by
  have happly (value : Text) : applySetting library config key.toList value =
      apply library config value setting := by
    unfold applySetting
    rw [hsetting]
  unfold parseLine
  rw [stripLine_line hindent hgap hkey]
  dsimp only
  rw [if_neg (by simp), keyValue_line hgap hkey]
  let finish (result : Result (Config C)) : Except Error (Config C) := match result with
    | .ok config => .ok config
    | .error error => .error (.failedToApply lineno key.toList error)
  exact congrArg finish (happly _)

def Error.lineno : Error → ℕ
  | .expectedKeyValue lineno _ => lineno
  | .failedToApply lineno _ _ => lineno

theorem lineno_of_parseLine {lineno : ℕ} {rawLine : Text} {error : Error}
    (h : parseLine library config lineno rawLine = .error error) : error.lineno = lineno := by
  unfold parseLine at h
  dsimp only at h
  split_ifs at h
  split at h
  · cases h
    rfl
  · split at h
    · cases h
    · cases h
      rfl

/-- An error in one of the lines from one on says so. -/
theorem le_lineno_of_parseLines {lineno : ℕ} {rawLines : List Text} {error : Error}
    (h : parseLines library config lineno rawLines = .error error) : lineno ≤ error.lineno := by
  induction rawLines generalizing config lineno with
  | nil => cases h
  | cons rawLine rawLines ih =>
    rw [parseLines] at h
    cases hline : parseLine library config lineno rawLine with
    | ok config₁ =>
      rw [hline] at h
      exact (Nat.le_succ lineno).trans (ih h)
    | error error₁ =>
      rw [hline] at h
      cases h
      exact (lineno_of_parseLine hline).ge

/-! ### Colours -/

def isHexDigit (c : Char) : Bool :=
  (48 ≤ c.toNat && c.toNat ≤ 57) || (65 ≤ c.toNat && c.toNat ≤ 70) ||
    (97 ≤ c.toNat && c.toNat ≤ 102)

theorem not_isWhitespace_of_isHexDigit {c : Char} (h : isHexDigit c = true) :
    isWhitespace c = false := by
  unfold isHexDigit at h
  unfold isWhitespace
  simp only [Bool.or_eq_true, Bool.and_eq_true, decide_eq_true_eq] at h
  simp only [Bool.or_eq_false_iff, Bool.and_eq_false_iff, decide_eq_false_iff_not]
  omega

/-- A line with a colour in hexadecimal digits. -/
structure ColorLine where
  indent : Text
  gap : Text
  pad : Text
  color : Text
  trailing : Text
  blank : ∀ c ∈ indent ++ gap ++ pad ++ trailing, isWhitespace c = true
  digits : ∀ c ∈ color, isHexDigit c = true
  nonempty : color ≠ []

/-- The line with the colour after its sign or without a sign. -/
def ColorLine.line (self : ColorLine) (sign : Text) : Text :=
  lineOf self.indent "border_color" self.gap (self.pad ++ sign ++ self.color ++ self.trailing)

theorem plainKey_of_decide {key : String} (h : (key.toList.head?.any fun c => !isWhitespace c) ∧
    (key.toList.getLast?.any fun c => !isWhitespace c) ∧ '#' ∉ key.toList ∧ '=' ∉ key.toList) :
    PlainKey key := by
  obtain ⟨hhead, hlast, hhash, heq⟩ := h
  refine ⟨?_, ?_, hhash, heq⟩
  · cases htext : key.toList with
    | nil => rw [htext] at hhead; cases hhead
    | cons c text =>
      rw [htext] at hhead
      exact ⟨c, text, rfl, by simpa using hhead⟩
  · obtain ⟨c, hc, hblank⟩ := Option.any_eq_true _ _ |>.mp hlast
    obtain ⟨text, htext⟩ := List.getLast?_eq_some_iff.mp hc
    exact ⟨text, c, htext, by simpa using hblank⟩

theorem borderColor_key : PlainKey "border_color" := plainKey_of_decide (by decide +kernel)

section Line

variable (line : ColorLine)

theorem ColorLine.blank_indent : ∀ c ∈ line.indent, isWhitespace c = true :=
  fun c hc => line.blank c (by simp [hc])

theorem ColorLine.blank_gap : ∀ c ∈ line.gap, isWhitespace c = true :=
  fun c hc => line.blank c (by simp [hc])

theorem ColorLine.blank_pad : ∀ c ∈ line.pad, isWhitespace c = true :=
  fun c hc => line.blank c (by simp [hc])

theorem ColorLine.blank_trailing : ∀ c ∈ line.trailing, isWhitespace c = true :=
  fun c hc => line.blank c (by simp [hc])

theorem ColorLine.hash_notMem : '#' ∉ line.color := by
  intro hmem
  have hdigit := line.digits '#' hmem
  revert hdigit
  decide

/-- A colour is trimmed. -/
theorem ColorLine.trim_value :
    trim (trimEnd (line.pad ++ line.color ++ line.trailing)) = line.color := by
  obtain ⟨text, c, hconcat⟩ : ∃ text c, line.color = text ++ [c] :=
    ⟨_, _, (List.dropLast_append_getLast line.nonempty).symm⟩
  have hlast : isWhitespace c = false :=
    not_isWhitespace_of_isHexDigit (line.digits c (by rw [hconcat]; simp))
  obtain ⟨c', text', hcons⟩ := List.exists_cons_of_ne_nil line.nonempty
  have hfirst : isWhitespace c' = false :=
    not_isWhitespace_of_isHexDigit (line.digits c' (by rw [hcons]; simp))
  have hend : trimEnd (line.pad ++ line.color) = line.pad ++ line.color := by
    rw [hconcat, ← List.append_assoc, trimEnd_concat hlast]
  have hcolor : trimEnd line.color = line.color := by
    rw [hconcat, trimEnd_concat hlast]
  unfold trim
  rw [trimEnd_pad line.blank_trailing, hend, trimStart_pad line.blank_pad, hcons,
    trimStart_cons hfirst, ← hcons, hcolor]

theorem parseLine_color (config : Config C) (lineno : ℕ)
    (hcolor : library.parseColor ('#' :: line.color) ≠ none) :
    ∃ config', parseLine library config lineno (line.line []) = .ok config' := by
  obtain ⟨color, hcolor⟩ := Option.ne_none_iff_exists'.mp hcolor
  have hplain : '#' ∉ line.pad ++ line.color ++ line.trailing := by
    rw [List.mem_append, List.mem_append, not_or, not_or]
    exact ⟨⟨notMem_of_blank line.blank_pad rfl, line.hash_notMem⟩,
      notMem_of_blank line.blank_trailing rfl⟩
  have hhead : line.color.head? ≠ some '#' :=
    fun heq => line.hash_notMem (List.mem_of_mem_head? heq)
  unfold ColorLine.line
  rw [List.append_nil, parseLine_line .borderColor line.blank_indent line.blank_gap
    borderColor_key (by decide +kernel), takeWhile_of_notMem hplain, line.trim_value]
  have happly : SolConf.color library line.color = .ok color := by
    unfold SolConf.color
    dsimp only
    rw [if_neg hhead, hcolor]
  unfold apply
  dsimp only
  rw [happly]
  exact ⟨_, rfl⟩

theorem parseLine_color_sign (config : Config C) (lineno : ℕ)
    (hsign : library.parseColor ['#'] = none) :
    parseLine library config lineno (line.line ['#']) =
      .error (.failedToApply lineno "border_color".toList (.invalidColor [])) := by
  have hplain : '#' ∉ line.pad := notMem_of_blank line.blank_pad rfl
  have hpad : trim (trimEnd line.pad) = [] := by
    have hend : trimEnd line.pad = [] := by
      have htrim : trimEnd ([] ++ line.pad) = trimEnd [] := trimEnd_pad line.blank_pad
      exact htrim
    rw [hend]
    rfl
  unfold ColorLine.line
  rw [List.append_assoc, List.append_assoc, List.singleton_append,
    parseLine_line .borderColor line.blank_indent line.blank_gap borderColor_key
      (by decide +kernel), takeWhile_append hplain, hpad]
  have happly : SolConf.color library [] = .error (.invalidColor []) := by
    unfold SolConf.color
    dsimp only
    rw [if_neg nofun, hsign]
  unfold apply
  dsimp only
  rw [happly]
  rfl

end Line

/-! ### Commands -/

/-- A line whose first `#` is inside of the quotes of a command. -/
inductive QuotedHash : Text → Prop
  | execOnce (indent gap before after : Text) (hindent : ∀ c ∈ indent, isWhitespace c = true)
    (hgap : ∀ c ∈ gap, isWhitespace c = true) (hbefore : '#' ∉ before)
    (hquote : quoteAfter before ≠ .outside) :
    QuotedHash (lineOf indent "exec-once" gap (before ++ '#' :: after))
  | bind (indent gap mods key action before after : Text)
    (hindent : ∀ c ∈ indent, isWhitespace c = true) (hgap : ∀ c ∈ gap, isWhitespace c = true)
    (hparts : ∀ part ∈ [mods, key, action], ',' ∉ part ∧ '#' ∉ part)
    (haction : trim action = "exec".toList) (hbefore : '#' ∉ before)
    (hquote : quoteAfter before ≠ .outside) :
    QuotedHash (lineOf indent "bind" gap
      (mods ++ ',' :: (key ++ ',' :: (action ++ ',' :: (before ++ '#' :: after)))))

theorem parseAction_exec {rest : Text} (hquote : quoteAfter rest ≠ .outside) :
    parseAction "exec".toList rest = .error .malformedQuoting := by
  unfold parseAction
  rw [if_pos rfl, parseCommand_eq_error hquote]
  rfl

/-- A bind of a command that ends inside of quotes. -/
theorem parseBind_exec (library : Library C) {mods key action before : Text}
    (hparts : ∀ part ∈ [mods, key, action], ',' ∉ part) (haction : trim action = "exec".toList)
    (hquote : quoteAfter before ≠ .outside) : ∃ error,
      parseBind library (mods ++ ',' :: (key ++ ',' :: (action ++ ',' :: before))) =
        .error error := by
  simp only [List.forall_mem_cons, List.not_mem_nil, false_imp_iff, imp_true_iff,
    and_true] at hparts
  obtain ⟨hmods, hkey, hact⟩ := hparts
  have hsplit : (splitn ',' 3 (mods ++ ',' :: (key ++ ',' :: (action ++ ',' :: before)))).map trim =
      [trim mods, trim key, "exec".toList, trim before] := by
    rw [splitn_append hmods, splitn_append hkey, splitn_append hact, splitn, ← haction]
    rfl
  unfold parseBind
  rw [hsplit]
  dsimp only
  unfold parseBindParts
  rw [parseAction_exec (quoteAfter_trim (quoteAfter_trim hquote))]
  cases parseModifiers (trim mods) with
  | error error => exact ⟨error, rfl⟩
  | ok modifiers =>
    cases parseTrigger library (trim key) with
    | error error => exact ⟨error, rfl⟩
    | ok keysym => exact ⟨_, rfl⟩

theorem comma_notBlank : isWhitespace ',' = false := by decide

theorem takeWhile_bind {mods key action before after : Text}
    (hparts : ∀ part ∈ [mods, key, action], '#' ∉ part) (hbefore : '#' ∉ before) :
    (mods ++ ',' :: (key ++ ',' :: (action ++ ',' :: (before ++ '#' :: after)))).takeWhile
        (· ≠ '#') =
      mods ++ ',' :: (key ++ ',' :: (action ++ ',' :: before)) := by
  simp only [List.forall_mem_cons, List.not_mem_nil, false_imp_iff, imp_true_iff,
    and_true] at hparts
  obtain ⟨hmods, hkey, hact⟩ := hparts
  have hplain : '#' ∉ mods ++ ',' :: (key ++ ',' :: (action ++ ',' :: before)) := by
    simp [hmods, hkey, hact, hbefore]
  have hassoc : mods ++ ',' :: (key ++ ',' :: (action ++ ',' :: (before ++ '#' :: after))) =
      (mods ++ ',' :: (key ++ ',' :: (action ++ ',' :: before))) ++ '#' :: after := by
    simp
  rw [hassoc, takeWhile_append hplain]

theorem parseLine_quotedHash (library : Library C) (config : Config C) (lineno : ℕ)
    {rawLine : Text} (h : QuotedHash rawLine) :
    ∃ error, parseLine library config lineno rawLine = .error error := by
  cases h with
  | execOnce indent gap before after hindent hgap hbefore hquote =>
    rw [parseLine_line .execOnce hindent hgap
      (plainKey_of_decide (by decide +kernel)) (by decide +kernel), takeWhile_append hbefore]
    unfold apply
    dsimp only
    rw [parseCommand_eq_error (quoteAfter_trim (quoteAfter_trimEnd hquote))]
    exact ⟨_, rfl⟩
  | bind indent gap mods key action before after hindent hgap hparts haction hbefore hquote =>
    have hvalue : trim (trimEnd ((mods ++ ',' :: (key ++ ',' :: (action ++ ',' ::
        (before ++ '#' :: after)))).takeWhile (· ≠ '#'))) =
          trimStart mods ++ ',' :: (key ++ ',' :: (action ++ ',' :: trimEnd (trimEnd before))) := by
      rw [takeWhile_bind (fun part hpart => (hparts part hpart).2) hbefore]
      unfold trim
      simp only [trimEnd_append comma_notBlank, trimStart_append comma_notBlank]
    have hparts' : ∀ part ∈ [trimStart mods, key, action], ',' ∉ part := by
      rw [List.forall_mem_cons] at hparts ⊢
      refine ⟨fun hmem => hparts.1.1 ?_, fun part hpart => (hparts.2 part hpart).1⟩
      exact (List.dropWhile_suffix _).subset hmem
    obtain ⟨error, hbind⟩ := parseBind_exec library hparts' haction
      (quoteAfter_trimEnd (quoteAfter_trimEnd hquote))
    rw [parseLine_line .bind hindent hgap
      (plainKey_of_decide (by decide +kernel)) (by decide +kernel), hvalue]
    unfold apply
    dsimp only
    rw [hbind]
    exact ⟨_, rfl⟩

/-! ### Texts -/

/-- The two texts differ in the sign before the colour of a line. -/
structure SignTexts (line : ColorLine) (before after : List Text) (signed plain : Text) :
    Prop where
  signed_lines : lines signed = before ++ line.line ['#'] :: after
  plain_lines : lines plain = before ++ line.line [] :: after

/-- The colour with its sign ends the parsing of a text, unless an earlier line did. -/
theorem parseSol_sign {line : ColorLine} {before after : List Text} {signed plain : Text}
    (hsign : library.parseColor ['#'] = none)
    (hcolor : library.parseColor ('#' :: line.color) ≠ none)
    (h : SignTexts line before after signed plain) :
    parseSol library signed = parseSol library plain ↔
      ∃ error, parseLines library (.initial library) 1 before = .error error := by
  unfold parseSol
  rw [h.signed_lines, h.plain_lines, parseLines_append, parseLines_append]
  cases hbefore : parseLines library (.initial library) 1 before with
  | error error => exact ⟨fun _ => ⟨error, rfl⟩, fun _ => rfl⟩
  | ok config =>
    refine ⟨fun heq => ?_, nofun⟩
    obtain ⟨config', hplain⟩ := parseLine_color line config (1 + before.length) hcolor
    have hsigned := parseLine_color_sign line config (1 + before.length) hsign
    have hright : parseLines library config' (1 + before.length + 1) after =
        .error (.failedToApply (1 + before.length) "border_color".toList (.invalidColor [])) := by
      change (parseLine library config _ _ >>= _) = (parseLine library config _ _ >>= _) at heq
      rw [hplain, hsigned] at heq
      exact heq.symm
    have hle := le_lineno_of_parseLines hright
    exact absurd hle (Nat.not_succ_le_self _)

/-- A text with a `#` inside of the quotes of a command is not accepted. -/
theorem parseSol_quotedHash {text rawLine : Text} (hline : rawLine ∈ lines text)
    (h : QuotedHash rawLine) (config : Config C) : parseSol library text ≠ .ok config := by
  intro hparse
  obtain ⟨before, after, hsplit⟩ := List.append_of_mem hline
  unfold parseSol at hparse
  rw [hsplit, parseLines_append] at hparse
  obtain ⟨config₁, -, hafter⟩ := bind_eq_ok.mp hparse
  obtain ⟨config₂, hok, -⟩ := bind_eq_ok.mp hafter
  obtain ⟨error, herror⟩ := parseLine_quotedHash library config₁ (1 + before.length) h
  rw [herror] at hok
  cases hok

/-- If a lone `#` is no colour, then writing the sign of a colour changes what a text parses to,
unless an earlier line is rejected; and a text with a `#` inside of the quotes of a command is
never accepted. -/
theorem comments_spec (library : Library C) (hsign : library.parseColor ['#'] = none) :
    (∀ line before after signed plain, library.parseColor ('#' :: line.color) ≠ none →
      SignTexts line before after signed plain →
        (parseSol library signed = parseSol library plain ↔
          ∃ error, parseLines library (.initial library) 1 before = .error error)) ∧
    ∀ text, (∃ rawLine ∈ lines text, QuotedHash rawLine) →
      ∀ config, parseSol library text ≠ .ok config :=
  ⟨fun _ _ _ _ _ hcolor h => parseSol_sign hsign hcolor h,
    fun _ ⟨_, hline, h⟩ config => parseSol_quotedHash hline h config⟩

namespace Sample

/-- The colours are those of six or eight hexadecimal digits. -/
def hexColors : Library Text where
  parseColor
    | '#' :: digits =>
      if digits.all isHexDigit ∧ digits.length ∈ [6, 8] then some (toAsciiLowercase digits)
      else none
    | _ => none
  fromRgba8Unpremul _ _ _ _ := "7fc8ffff".toList
  keysymFromName _ := noSymbol

def yellow : ColorLine where
  indent := []
  gap := [' ']
  pad := [' ']
  color := "ffff00".toList
  trailing := []
  blank := List.all_eq_true.mp (by decide +kernel)
  digits := List.all_eq_true.mp (by decide +kernel)
  nonempty := by decide +kernel

def signed : Text := "border_color = #ffff00".toList

def plain : Text := "border_color = ffff00".toList

def quoted : Text := "exec-once = notify-send \"a # b\"".toList

theorem quoted_hash : QuotedHash quoted :=
  .execOnce [] [' '] " notify-send \"a ".toList " b\"".toList (List.all_eq_true.mp (by decide))
    (List.all_eq_true.mp (by decide)) (by decide) (by decide)

end Sample

theorem comments_spec_hexColors :
    (parseSol Sample.hexColors Sample.signed = parseSol Sample.hexColors Sample.plain ↔
      ∃ error, parseLines Sample.hexColors (.initial Sample.hexColors) 1 [] = .error error) ∧
    ∀ config, parseSol Sample.hexColors Sample.quoted ≠ .ok config := by
  have hspec := comments_spec Sample.hexColors (by decide +kernel)
  refine ⟨hspec.1 Sample.yellow [] [] Sample.signed Sample.plain (by decide +kernel)
    ⟨by decide +kernel, by decide +kernel⟩, hspec.2 Sample.quoted ⟨Sample.quoted, ?_, ?_⟩⟩
  · have hlines : lines Sample.quoted = [Sample.quoted] := by decide +kernel
    rw [hlines]
    exact List.mem_singleton_self _
  · exact Sample.quoted_hash

/-- A colour is accepted only without its sign, and a command only without a `#` in its quotes. -/
theorem not_comments :
    (parseSol Sample.hexColors Sample.plain).toOption.any (fun config =>
      decide (config.layout.focusRing.activeColor = "ffff00".toList)) ∧
    (parseSol Sample.hexColors Sample.signed).isOk = false ∧
    (parseSol Sample.hexColors Sample.quoted).isOk = false ∧
    shellSplit "notify-send \"a # b\"".toList = some ["notify-send".toList, "a # b".toList] := by
  decide +kernel

end Sol.SolConf
