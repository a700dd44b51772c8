import Sol.ScrollingRun

/-!
# What becomes of the columns

The operations of the tiling space seen from its columns.  Most of them only
put the columns in another order, give them new slots and slide them there:
`Settled`.  The others take one out, add one, change one's takeover, or talk to
the windows.

Each operation is described by the columns that its columns come from.
-/

namespace Sol

open Panicking

variable {W Id : Type} [LayoutElement W Id]

/-! ### One column -/

namespace Column

/-- A column that was given slots and slid, any number of times. -/
inductive Settled (c : Column W) : Column W → Prop
  | refl : Settled c c
  | fill {d : Column W} (h : Settled c d) (size : Size) : Settled c (d.fillSlot size)
  | slide {d : Column W} (h : Settled c d) (clock : Clock) (config : AnimationConfig)
    (delta : Point) : Settled c (ScrollingSpace.slide clock config delta d)

theorem Settled.trans {c d e : Column W} (h : Settled c d) (h' : Settled d e) : Settled c e := by
  induction h' with
  | refl => exact h
  | fill _ size ih => exact ih.fill size
  | slide _ clock config delta ih => exact ih.slide clock config delta

end Column

namespace ScrollingSpace

variable {s t u : ScrollingSpace W}

open Column

/-- Every column of the second list comes from one of the first. -/
def Traced (R : Column W → Column W → Prop) (l l' : List (Column W)) : Prop :=
  ∀ d ∈ l', ∃ c ∈ l, R c d

section Traced

variable {R S T : Column W → Column W → Prop} {l l' l'' : List (Column W)}

theorem Traced.trans (h : Traced R l l') (h' : Traced S l' l'')
    (hRS : ∀ c d e, R c d → S d e → T c e) : Traced T l l'' := by
  intro e he
  obtain ⟨d, hd, hde⟩ := h' e he
  obtain ⟨c, hc, hcd⟩ := h d hd
  exact ⟨c, hc, hRS c d e hcd hde⟩

theorem Traced.mono (h : Traced R l l') (hRS : ∀ c d, R c d → S c d) : Traced S l l' :=
  fun d hd => (h d hd).imp fun c hc => ⟨hc.1, hRS c d hc.2⟩

/-- What the columns keep holds of all if it held of all. -/
theorem Traced.forall {P : Column W → Prop} (h : Traced R l l') (hP : ∀ c ∈ l, P c)
    (hR : ∀ c d, R c d → P c → P d) : ∀ d ∈ l', P d := by
  intro d hd
  obtain ⟨c, hc, hcd⟩ := h d hd
  exact hR c d hcd (hP c hc)

theorem traced_of_subset (h : ∀ d ∈ l', d ∈ l) : Traced Settled l l' :=
  fun d hd => ⟨d, h d hd, .refl⟩

theorem traced_refl (l : List (Column W)) : Traced Settled l l := traced_of_subset fun _ h => h

/-- Columns that have settled may settle again. -/
theorem Traced.settle (h : Traced Settled l l') (h' : Traced Settled l' l'') :
    Traced Settled l l'' := h.trans h' fun _ _ _ => Settled.trans

theorem traced_map {f : Column W → Column W} (hf : ∀ c, R c (f c)) : Traced R l (l.map f) := by
  intro d hd
  obtain ⟨c, hc, rfl⟩ := List.mem_map.mp hd
  exact ⟨c, hc, hf c⟩

theorem traced_modify {f : Column W → Column W} (hf : ∀ c, R c (f c)) (hrefl : ∀ c, R c c) (i : ℕ) :
    Traced R l (l.modify i f) := by
  intro d hd
  obtain ⟨j, hj, rfl⟩ := List.getElem_of_mem hd
  rw [List.getElem_modify]
  split_ifs
  · exact ⟨_, List.getElem_mem _, hf _⟩
  · exact ⟨_, List.getElem_mem _, hrefl _⟩

end Traced

/-! ### Slots and slides -/

theorem columns_mapColumns (f : Column W → Column W) :
    (s.mapColumns f).columns = s.columns.map f := by
  cases hm : s.master <;> simp [columns, mapColumns, hm]

theorem columns_updateTileSizes :
    s.updateTileSizes.columns = fillSlots (s.columnLayout.map (·.2.2)) s.columns := by
  unfold updateTileSizes columns
  cases hm : s.master with
  | none => rfl
  | some m => cases s.columnLayout.map (·.2.2) <;> cases s.stack <;> rfl

theorem length_columnLayout (h : s.WellFormed) : s.columnLayout.length = s.columns.length := by
  unfold columnLayout columns
  rcases h.cases with ⟨hm, hs, -⟩ | ⟨m, hm, -⟩
  · simp [hm, hs]
  · by_cases hs : s.stack = []
    · simp [hm, hs]
    · simp [hm, hs]

theorem map_fst_columnLayout (h : s.WellFormed) :
    s.columnLayout.map Prod.fst = List.range s.columns.length := by
  unfold columnLayout columns
  rcases h.cases with ⟨hm, hs, -⟩ | ⟨m, hm, -⟩
  · simp [hm, hs]
  · by_cases hs : s.stack = []
    · simp [hm, hs]
    · have hlen : s.stack.length ≠ 0 := fun h0 => hs (List.length_eq_zero_iff.mp h0)
      simp [hm, hlen, List.range_succ_eq_map, Function.comp_def]

/-- Where there are slots for all, all are given theirs. -/
theorem traced_fillSlots {sizes : List Size} {l : List (Column W)} (h : l.length ≤ sizes.length) :
    Traced (fun c d => ∃ size, d = c.fillSlot size) l (fillSlots sizes l) := by
  induction l generalizing sizes with
  | nil => cases sizes <;> simp [fillSlots, Traced]
  | cons c l ih =>
    cases sizes with
    | nil => simp at h
    | cons size sizes =>
      intro d hd
      rcases List.mem_cons.mp hd with rfl | hd
      · exact ⟨c, List.mem_cons_self, size, rfl⟩
      · obtain ⟨c', hc', hd⟩ := ih (Nat.le_of_succ_le_succ h) d hd
        exact ⟨c', List.mem_cons_of_mem _ hc', hd⟩

theorem updateTileSizes_traced (h : s.WellFormed) :
    Traced (fun c d => ∃ size, d = c.fillSlot size) s.columns s.updateTileSizes.columns := by
  rw [columns_updateTileSizes]
  exact traced_fillSlots (by simp [length_columnLayout h])

theorem updateTileSizes_settles (h : s.WellFormed) :
    Traced Settled s.columns s.updateTileSizes.columns :=
  (updateTileSizes_traced h).mono fun _ _ ⟨size, hd⟩ => hd ▸ Settled.refl.fill size

theorem columns_modifyColumnAt (h : s.WellFormed) (f : Column W → Column W) (i : ℕ) :
    (s.modifyColumnAt i f).columns = s.columns.modify i f := by
  unfold modifyColumnAt columns
  rcases h.cases with ⟨hm, hs, -⟩ | ⟨m, hm, -⟩
  · split_ifs <;> simp [hm, hs]
  · cases i with
    | zero => simp [hm]
    | succ i => simp [hm]

section ById

variable [DecidableEq Id]

theorem modifyColumnById_traced {R : Column W → Column W → Prop} {f : Column W → Column W}
    (hf : ∀ c, R c (f c)) (hrefl : ∀ c, R c c) (window : Id) :
    Traced R s.columns (s.modifyColumnById window f).columns := by
  unfold modifyColumnById columns
  split_ifs
  · intro d hd
    rcases List.mem_append.mp hd with hd | hd
    · obtain ⟨m, hm, rfl⟩ : ∃ m, s.master = some m ∧ f m = d := by simpa using hd
      exact ⟨m, by simp [hm], hf m⟩
    · exact ⟨d, List.mem_append_right _ hd, hrefl d⟩
  · intro d hd
    rcases List.mem_append.mp hd with hd | hd
    · exact ⟨d, List.mem_append_left _ hd, hrefl d⟩
    · have hstack : Traced R s.stack (modifyFirst window f s.stack) := by
        unfold modifyFirst
        split
        · exact traced_modify hf hrefl _
        · exact fun d hd => ⟨d, hd, hrefl d⟩
      obtain ⟨c, hc, hcd⟩ := hstack d hd
      exact ⟨c, List.mem_append_right _ hc, hcd⟩

theorem springTile_traced (clock : Clock) (config : AnimationConfig)
    (post : List (ℕ × Id × Point)) (entry : ℕ × Id × Point) :
    Traced Settled s.columns (springTile clock config post s entry).columns := by
  unfold springTile
  split
  · exact traced_refl _
  · exact modifyColumnById_traced (fun c => Settled.refl.slide clock config _) (fun _ => .refl) _

theorem springFrom_traced (clock : Clock) (pre : List (ℕ × Id × Point)) :
    Traced Settled s.columns (s.springFrom clock pre).columns := by
  -- by induction on the tiles still to slide
  unfold springFrom
  generalize s.slotOrigins = post
  generalize s.options.animations.tileMovement = config
  induction pre generalizing s with
  | nil => exact traced_refl _
  | cons entry pre ih =>
    rw [List.foldl_cons]
    exact (springTile_traced clock config post entry).settle ih

end ById

/-! ### The view -/

/-- What takeovers are sized by. -/
def view (s : ScrollingSpace W) : Size × Rect := (s.viewSize, s.workingArea)

@[simp] theorem view_mapColumns (f : Column W → Column W) : (s.mapColumns f).view = s.view := rfl

@[simp] theorem view_updateTileSizes : s.updateTileSizes.view = s.view := by
  unfold updateTileSizes
  cases s.master <;> rfl

@[simp] theorem view_modifyColumnAt (f : Column W → Column W) (i : ℕ) :
    (s.modifyColumnAt i f).view = s.view := by
  unfold modifyColumnAt
  split_ifs <;> rfl

@[simp] theorem view_placeColumn (column : Column W) (activate : Bool) :
    (s.placeColumn column activate).view = s.view := by
  unfold placeColumn
  cases s.master <;> rfl

/-- After a removal only the focus is fixed. -/
theorem updateFocusAfterRemoval_eq (i : ℕ) :
    ∃ focus, s.updateFocusAfterRemoval i = { s with focus } := by
  unfold updateFocusAfterRemoval
  dsimp only
  repeat' split
  all_goals exact ⟨_, rfl⟩

section ById

variable [DecidableEq Id]

@[simp] theorem view_modifyColumnById (window : Id) (f : Column W → Column W) :
    (s.modifyColumnById window f).view = s.view := by
  unfold modifyColumnById
  split_ifs <;> rfl

@[simp] theorem view_springFrom (clock : Clock) (pre : List (ℕ × Id × Point)) :
    (s.springFrom clock pre).view = s.view := by
  unfold springFrom
  generalize s.slotOrigins = post
  generalize s.options.animations.tileMovement = config
  induction pre generalizing s with
  | nil => rfl
  | cons entry pre ih =>
    rw [List.foldl_cons, ih]
    unfold springTile
    split <;> simp

end ById

/-! ### Operations -/

/-- The outcome of an operation that only has the columns settle. -/
structure Kept (l : List (Column W)) (s t : ScrollingSpace W) : Prop where
  columns : Traced Settled l t.columns
  view_eq : t.view = s.view

theorem kept_refl : Kept s.columns s s := ⟨traced_refl _, rfl⟩

theorem Kept.then {l : List (Column W)} (h : Kept l s t) (h' : Kept t.columns t u) : Kept l s u :=
  ⟨h.columns.settle h'.columns, h'.view_eq.trans h.view_eq⟩

theorem updateTileSizes_kept (h : s.WellFormed) : Kept s.columns s s.updateTileSizes :=
  ⟨updateTileSizes_settles h, view_updateTileSizes⟩

theorem springFrom_kept [DecidableEq Id] (clock : Clock) (pre : List (ℕ × Id × Point)) :
    Kept s.columns s (s.springFrom clock pre) :=
  ⟨springFrom_traced clock pre, view_springFrom clock pre⟩

/-- A removal leaves the other columns. -/
theorem detachColumnAt_kept (h : s.WellFormed) (i : ℕ) :
    Ensures (s.detachColumnAt i) fun r =>
      s.columns[i]? = some r.1 ∧ r.2.columns = s.columns.eraseIdx i ∧ r.2.view = s.view := by
  unfold detachColumnAt
  rcases h.cases with ⟨hm, hs, -⟩ | ⟨m, hm, -⟩
  · simp only [hm, hs, ensures_ite, ensures_bind, ensures_expect, Vec.ensures_remove]
    simp
  · simp only [hm]
    cases i with
    | zero =>
      simp only [if_true, ensures_bind, ensures_expect, Option.some.injEq, forall_eq']
      cases hs : s.stack with
      | nil =>
        obtain ⟨focus, hfocus⟩ := updateFocusAfterRemoval_eq
          (s := { s with master := none, stack := [] }) 0
        rw [ensures_pure, hfocus]
        exact ⟨by simp [columns, hm], by simp [columns, hm, hs], rfl⟩
      | cons promoted stack =>
        obtain ⟨focus, hfocus⟩ := updateFocusAfterRemoval_eq
          (s := { s with master := some promoted, stack }) 0
        rw [ensures_pure, hfocus]
        exact ⟨by simp [columns, hm], by simp [columns, hm, hs], rfl⟩
    | succ j =>
      simp only [Nat.add_one_ne_zero, if_false, ensures_bind, Vec.ensures_remove, ensures_pure,
        Nat.add_sub_cancel]
      intro col hcol
      obtain ⟨focus, hfocus⟩ := updateFocusAfterRemoval_eq
        (s := { s with master := some m, stack := s.stack.eraseIdx j }) (j + 1)
      rw [hfocus]
      exact ⟨by simpa [columns, hm] using hcol, by simp [columns, hm], rfl⟩

theorem takeColumnAt_kept [DecidableEq Id] (h : s.WellFormed) (clock : Clock) (i : ℕ) :
    Ensures (s.takeColumnAt clock i) fun r =>
      s.columns[i]? = some r.1 ∧ Kept (s.columns.eraseIdx i) s r.2 := by
  unfold takeColumnAt
  simp only [ensures_bind, ensures_pure]
  intro r hr
  obtain ⟨hremoved, hcols, hview⟩ := detachColumnAt_kept h i r hr
  have hi : i < s.columns.length := (List.getElem?_eq_some_iff.mp hremoved).1
  have hwf : r.2.WellFormed := ((detachColumnAt_spec h hi).ensures r hr).wellFormed
  refine ⟨hremoved, ?_⟩
  have hleft : Kept (s.columns.eraseIdx i) s r.2 := ⟨hcols ▸ traced_refl _, hview⟩
  exact (hleft.then (updateTileSizes_kept hwf)).then (springFrom_kept clock _)

/-! ### Moves -/

theorem perm_trade {m : Column W} {i : ℕ} (hm : s.master = some m) (hi : i < s.stack.length)
    (focus : Focus) (memory : Option ℕ) :
    (s.trade s.stack[i] m i focus memory).columns = FocusList.exchanged s.columns 0 (i + 1) := by
  have hcols : s.columns = m :: s.stack := by simp [columns, hm]
  rw [hcols, FocusList.exchanged_of_lt (by simp) (by simpa using hi)]
  simp [columns, trade]

theorem moveLeft_kept (h : s.WellFormed) : Ensures s.moveLeft fun r => Kept s.columns s r.1 := by
  by_cases hf : ∃ i, s.focus = .stack i
  · obtain ⟨i, hf⟩ := hf
    have hi := h.focus_stack i hf
    obtain ⟨m, hm⟩ := h.master_of_row hi
    have htraded : s.Rearranged (s.trade s.stack[i] m i .master (some i)) :=
      h.trade_rearranged hm hi (.inl rfl) (.inr rfl)
    rw [moveLeft_of_stack hm hf hi, ensures_ok]
    have hkept : Kept s.columns s (s.trade s.stack[i] m i .master (some i)) :=
      ⟨traced_of_subset fun d hd => by
        rw [perm_trade hm hi] at hd
        exact (FocusList.exchanged_perm _ _ _).mem_iff.mp hd, rfl⟩
    exact hkept.then (updateTileSizes_kept htraded.wellFormed)
  · rw [moveLeft_of_not_stack (not_exists.mp hf), ensures_ok]
    exact kept_refl

theorem moveRight_kept (h : s.WellFormed) : Ensures s.moveRight fun r => Kept s.columns s r.1 := by
  by_cases hf : s.focus = .master ∧ s.stack ≠ []
  · have hi := rememberedRow_lt hf.2
    obtain ⟨m, hm⟩ := h.master_of_row hi
    have htraded : s.Rearranged (s.trade s.stack[s.rememberedRow] m s.rememberedRow
        (.stack s.rememberedRow) s.lastStackIdx) :=
      h.trade_rearranged hm hi (.inr rfl) (.inl rfl)
    rw [moveRight_of_master hm hf.1 hf.2 hi, ensures_ok]
    have hkept : Kept s.columns s (s.trade s.stack[s.rememberedRow] m s.rememberedRow
        (.stack s.rememberedRow) s.lastStackIdx) :=
      ⟨traced_of_subset fun d hd => by
        rw [perm_trade hm hi] at hd
        exact (FocusList.exchanged_perm _ _ _).mem_iff.mp hd, rfl⟩
    exact hkept.then (updateTileSizes_kept htraded.wellFormed)
  · rw [moveRight_of_not_master (by tauto), ensures_ok]
    exact kept_refl

/-- A new order of the stack keeps the columns. -/
theorem kept_of_perm {stack : List (Column W)} (hperm : stack.Perm s.stack) (focus : Focus) :
    Kept s.columns s { s with stack, focus } :=
  ⟨traced_of_subset fun _ hd => (hperm.append_left _).mem_iff.mp hd, rfl⟩

theorem moveDown_kept : Ensures s.moveDown fun r => Kept s.columns s r.1 := by
  by_cases hf : ∃ i, s.focus = .stack i ∧ i + 1 < s.stack.length
  · obtain ⟨i, hf, hi⟩ := hf
    rw [moveDown_of_stack hf hi, ensures_ok]
    exact kept_of_perm (FocusList.exchanged_perm _ _ _) _
  · push Not at hf
    rw [moveDown_of_not_stack hf, ensures_ok]
    exact kept_refl

theorem moveUp_kept (h : s.WellFormed) : Ensures s.moveUp fun r => Kept s.columns s r.1 := by
  by_cases hf : ∃ i, s.focus = .stack (i + 1)
  · obtain ⟨i, hf⟩ := hf
    have hi := h.focus_stack _ hf
    rw [moveUp_of_stack hf hi, ensures_ok]
    exact kept_of_perm (FocusList.exchanged_perm _ _ _) _
  · rw [moveUp_of_not_stack, ensures_ok]
    · exact kept_refl
    · rintro (_ | i) hi
      · rfl
      · exact absurd ⟨i, hi⟩ hf

theorem moveColumnToFirst_kept (h : s.WellFormed) :
    Ensures s.moveColumnToFirst fun t => Kept s.columns s t := by
  unfold moveColumnToFirst
  split
  · simp only [ensures_bind, ensures_pure]
    exact moveLeft_kept h
  · exact ensures_pure.mpr kept_refl

theorem moveColumnToLast_kept :
    Ensures s.moveColumnToLast fun t => Kept s.columns s t := by
  by_cases hf : ∃ i, s.focus = .stack i ∧ i + 1 < s.stack.length
  · obtain ⟨i, hf, hi⟩ := hf
    rw [moveColumnToLast_of_stack hf hi, ensures_ok]
    exact kept_of_perm (FocusList.relocated_perm (by omega)) _
  · push Not at hf
    rw [moveColumnToLast_of_not_stack hf, ensures_ok]
    exact kept_refl

theorem swapWindowInDirection_kept (h : s.WellFormed) (direction : ScrollDirection) :
    Ensures (s.swapWindowInDirection direction) fun t => Kept s.columns s t := by
  unfold swapWindowInDirection
  cases direction with
  | left => simpa only [ensures_bind, ensures_pure] using moveLeft_kept h
  | right => simpa only [ensures_bind, ensures_pure] using moveRight_kept h

section ById

variable [DecidableEq Id]

theorem swapWithSpring_kept (clock : Clock)
    {mutate : ScrollingSpace W → Outcome (ScrollingSpace W × Bool)}
    (hmutate : Ensures (mutate s) fun r => Kept s.columns s r.1) :
    Ensures (s.swapWithSpring clock mutate) fun r => Kept s.columns s r.1 := by
  unfold swapWithSpring
  simp only [ensures_bind]
  refine hmutate.mono fun r hr => ?_
  obtain ⟨u, changed⟩ := r
  cases changed with
  | true => exact ensures_pure.mpr (hr.then (springFrom_kept clock _))
  | false => exact ensures_pure.mpr hr

theorem step_moved_kept (h : s.WellFormed) (clock : Clock) {op : Op W Id} (hop : op.IsMove) :
    Ensures (s.step clock op) fun t => Kept s.columns s t := by
  cases op <;> simp only [Op.IsMove] at hop <;> simp only [step, ensures_bind, ensures_pure]
  case moveLeft => exact moveLeft_kept h
  case moveRight => exact moveRight_kept h
  case moveDown => exact moveDown_kept
  case moveUp => exact moveUp_kept h
  case moveLeftAnimated => exact swapWithSpring_kept clock (moveLeft_kept h)
  case moveRightAnimated => exact swapWithSpring_kept clock (moveRight_kept h)
  case moveDownAnimated => exact swapWithSpring_kept clock moveDown_kept
  case moveUpAnimated => exact swapWithSpring_kept clock (moveUp_kept h)
  case moveColumnToFirst => exact moveColumnToFirst_kept h
  case moveColumnToLast => exact moveColumnToLast_kept
  case swapWindowInDirection direction => exact swapWindowInDirection_kept h direction

/-! ### Focus -/

/-- Another focus and another remembered row. -/
def Refocused (s t : ScrollingSpace W) : Prop :=
  ∃ focus row, t = { s with focus, lastStackIdx := row }

theorem refocused_refl : Refocused s s := ⟨s.focus, s.lastStackIdx, rfl⟩

theorem refocused_ite {c : Prop} [Decidable c] (ht : Refocused s t) (hu : Refocused s u) :
    Refocused s (if c then t else u) := by
  split_ifs
  · exact ht
  · exact hu

theorem focusLeft_refocused : Refocused s s.focusLeft.1 := by
  unfold focusLeft
  split
  · split
    · exact ⟨_, _, rfl⟩
    · exact refocused_refl
  · exact refocused_refl

theorem focusRight_refocused : Refocused s s.focusRight.1 := by
  unfold focusRight
  split
  · split
    · exact refocused_refl
    · exact ⟨_, s.lastStackIdx, rfl⟩
  · exact refocused_refl

theorem focusDown_refocused : Refocused s s.focusDown.1 := by
  unfold focusDown
  split
  · split
    · exact ⟨_, s.lastStackIdx, rfl⟩
    · exact refocused_refl
  · split
    · exact refocused_refl
    · exact ⟨_, s.lastStackIdx, rfl⟩
  · exact refocused_refl

theorem focusUp_refocused : Refocused s s.focusUp.1 := by
  unfold focusUp
  split
  · split
    · exact ⟨_, s.lastStackIdx, rfl⟩
    · exact refocused_refl
  · exact refocused_refl

theorem activateWindow_refocused (window : Id) : Refocused s (s.activateWindow window).1 := by
  unfold activateWindow
  split
  · exact refocused_refl
  · split <;> exact ⟨_, s.lastStackIdx, rfl⟩

theorem step_refocused (clock : Clock) {op : Op W Id} (hop : op.IsFocus) :
    Ensures (s.step clock op) (Refocused s) := by
  cases op <;> simp only [Op.IsFocus] at hop <;> simp only [step, ensures_pure]
  case activateWindow window => exact activateWindow_refocused window
  case focusLeft => exact focusLeft_refocused
  case focusRight => exact focusRight_refocused
  case focusColumnFirst =>
    exact refocused_ite ⟨.master, s.lastStackIdx, rfl⟩ refocused_refl
  case focusColumnLast =>
    exact refocused_ite ⟨_, s.lastStackIdx, rfl⟩
      (refocused_ite ⟨.master, s.lastStackIdx, rfl⟩ refocused_refl)
  case focusColumn index =>
    exact refocused_ite (refocused_ite ⟨.master, s.lastStackIdx, rfl⟩ refocused_refl)
      (refocused_ite ⟨_, s.lastStackIdx, rfl⟩ refocused_refl)
  case focusDown => exact focusDown_refocused
  case focusUp => exact focusUp_refocused
  case focusDownOrLeft => exact refocused_ite focusDown_refocused focusLeft_refocused
  case focusDownOrRight => exact refocused_ite focusDown_refocused focusRight_refocused
  case focusUpOrLeft => exact refocused_ite focusUp_refocused focusLeft_refocused
  case focusUpOrRight => exact refocused_ite focusUp_refocused focusRight_refocused
  case focusTop =>
    unfold focusTop
    split
    · exact ⟨_, s.lastStackIdx, rfl⟩
    · exact refocused_refl
  case focusBottom => exact refocused_ite refocused_refl ⟨_, s.lastStackIdx, rfl⟩

omit [DecidableEq Id] in
theorem Refocused.kept (h : Refocused s t) : Kept s.columns s t := by
  obtain ⟨focus, row, rfl⟩ := h
  exact ⟨traced_refl _, rfl⟩

theorem nudgeMasterRatio_kept (h : s.WellFormed) (clock : Clock) (delta : ℚ) :
    Kept s.columns s (s.nudgeMasterRatio clock delta) := by
  unfold nudgeMasterRatio
  dsimp only
  split_ifs
  · exact kept_refl
  · have hratio : ({ s with masterRatio := clamp (15 / 100) (85 / 100) (s.masterRatio + delta) } :
        ScrollingSpace W).WellFormed := by
      refine wellFormed_iff.mpr ⟨?_, (wellFormed_iff.mp h).2⟩
      exact ⟨le_min (le_max_right _ _) (by norm_num), min_le_right _ _⟩
    have hkept := updateTileSizes_kept hratio
    exact Kept.then ⟨hkept.columns, hkept.view_eq⟩ (springFrom_kept clock _)

/-- A removal, where there is something to remove. -/
theorem step_removed_kept (h : s.WellFormed) (clock : Clock) {op : Op W Id} {i : ℕ}
    (hi : op.removedIdx s = some i) :
    Ensures (s.step clock op) fun t => Kept (s.columns.eraseIdx i) s t := by
  have htake : Ensures (s.takeColumnAt clock i) fun r => Kept (s.columns.eraseIdx i) s r.2 :=
    (takeColumnAt_kept h clock i).mono fun _ hr => hr.2
  cases op <;> simp only [Op.removedIdx, reduceCtorEq, Option.some.injEq] at hi <;>
    simp only [step, removeActiveTile, removeTile, removeTileByIdx, removeActiveColumn,
      removeColumnByIdx, ensures_bind, ensures_pure]
  case removeActiveTile =>
    obtain ⟨col, hc, hp⟩ := Option.bind_eq_some_iff.mp hi
    simp only [hc, hp, expect, ensures_bind, ensures_ok, ensures_pure]
    exact htake
  case removeTile window =>
    simp only [hi, expect, ensures_ok]
    exact htake
  case removeTileByIdx columnIdx => exact hi ▸ htake
  case removeActiveColumn =>
    simp only [hi, ensures_bind, ensures_pure]
    exact htake
  case removeColumnByIdx columnIdx => exact hi ▸ htake

end ById

/-! ### Additions and configuration -/

theorem columns_placeColumn (h : s.WellFormed) (column : Column W) (activate : Bool) :
    (s.placeColumn column activate).columns = s.columns ++ [column] := by
  unfold placeColumn columns
  rcases h.cases with ⟨hm, hs, -⟩ | ⟨m, hm, -⟩
  · simp [hm, hs]
  · simp [hm]

/-- The column that an addition leaves in the place of another one. -/
def Superseded (area : Size) (c d : Column W) : Prop :=
  ∃ size, d = (c.endTakeover area).fillSlot size

/-- The column that comes of one that is added to a space. -/
def Admitted (s : ScrollingSpace W) (column d : Column W) : Prop :=
  ∃ size, d = (column.updateConfig s.viewSize s.workingArea s.parentArea s.scale
    s.options).fillSlot size

theorem addColumn_traced (h : s.WellFormed) (column : Column W) (activate : Bool) :
    (∀ d ∈ (s.addColumn column activate).columns, s.Admitted column d ∨
      ∃ c ∈ s.columns, Superseded s.workingArea.size c d) ∧
      (s.addColumn column activate).view = s.view := by
  have hend := slots_endTakeovers (s := s) s.workingArea.size
  have hplaced := (placeColumn_spec (h.congr hend.symm)
    (column.updateConfig s.viewSize s.workingArea s.parentArea s.scale s.options) activate).1
  have hcols := columns_placeColumn (h.congr hend.symm)
    (column.updateConfig s.viewSize s.workingArea s.parentArea s.scale s.options) activate
  refine ⟨fun d hd => ?_, ?_⟩
  · obtain ⟨c, hc, size, rfl⟩ := updateTileSizes_traced hplaced d hd
    rw [hcols, columns_mapColumns] at hc
    rcases List.mem_append.mp hc with hc | hc
    · obtain ⟨c', hc', rfl⟩ := List.mem_map.mp hc
      exact .inr ⟨c', hc', size, rfl⟩
    · exact .inl ⟨size, by rw [List.mem_singleton.mp hc]⟩
  · unfold addColumn
    simp

theorem updateConfig_traced (h : s.WellFormed) (viewSize : Size) (parentArea : Rect) (scale : ℚ)
    (options : Options) :
    Traced (fun c d => ∃ size, d = (c.updateConfig viewSize
        (computeWorkingArea parentArea scale options.layout.struts) parentArea scale
          options).fillSlot size)
      s.columns (s.updateConfig viewSize parentArea scale options).columns ∧
      (s.updateConfig viewSize parentArea scale options).view =
        (viewSize, computeWorkingArea parentArea scale options.layout.struts) := by
  have hslots := slots_mapColumns s (f := fun col : Column W => col.updateConfig viewSize
    (computeWorkingArea parentArea scale options.layout.struts) parentArea scale options)
    fun col => Column.windowId_updateConfig col _ _ _ _ _
  have hwf : ScrollingSpace.WellFormed { s.mapColumns (fun col : Column W => col.updateConfig viewSize
      (computeWorkingArea parentArea scale options.layout.struts) parentArea scale options) with
        viewSize := viewSize
        workingArea := computeWorkingArea parentArea scale options.layout.struts
        parentArea := parentArea, scale := scale, options := options } :=
    (h.congr hslots.symm).congr rfl
  refine ⟨fun d hd => ?_, ?_⟩
  · obtain ⟨c, hc, size, rfl⟩ := updateTileSizes_traced hwf d hd
    obtain ⟨c', hc', rfl⟩ := List.mem_map.mp (columns_mapColumns (s := s) _ ▸ hc)
    exact ⟨c', hc', size, rfl⟩
  · unfold updateConfig
    rw [view_updateTileSizes]
    rfl

/-! ### Takeovers -/

section ById

variable [DecidableEq Id]

/-- A takeover that begins changes the column of the window; the end of one gives
it a slot besides, and the others theirs. -/
theorem setFullscreen_traced (h : s.WellFormed) (window : Id) (isFullscreen : Bool) :
    Ensures (s.setFullscreen window isFullscreen) fun r =>
      (s.position window = none ∧ r.1 = s) ∨ ∃ i, s.position window = some i ∧
        r.1.view = s.view ∧
          if isFullscreen then
            r.1.columns = s.columns.modify i fun c => (c.setFullscreen true).1
          else Traced (fun c d => ∃ size, d = c.fillSlot size)
            (s.columns.modify i fun c => (c.setFullscreen false).1) r.1.columns := by
  unfold setFullscreen
  cases hp : s.position window with
  | none => exact ensures_pure.mpr (.inl ⟨rfl, rfl⟩)
  | some i =>
    simp only [ensures_bind, ensures_expect, ensures_pure]
    intro col _
    have hslots : (s.modifyColumnAt i fun col => (col.setFullscreen isFullscreen).1).slots =
        s.slots := slots_modifyColumnAt s (fun col => Column.windowId_setFullscreen col _) i
    refine .inr ⟨i, rfl, ?_, ?_⟩
    · cases isFullscreen <;> simp
    · cases isFullscreen with
      | true => exact columns_modifyColumnAt h _ i
      | false =>
        have hfill := updateTileSizes_traced (h.congr hslots.symm)
        rwa [columns_modifyColumnAt h] at hfill

theorem setMaximized_traced (h : s.WellFormed) (window : Id) (maximize : Bool) :
    Ensures (s.setMaximized window maximize) fun r =>
      (s.position window = none ∧ r.1 = s) ∨ ∃ i, s.position window = some i ∧
        r.1.view = s.view ∧
          if maximize then
            r.1.columns = s.columns.modify i fun c => (c.setMaximized true s.workingArea.size).1
          else Traced (fun c d => ∃ size, d = c.fillSlot size)
            (s.columns.modify i fun c => (c.setMaximized false s.workingArea.size).1)
              r.1.columns := by
  unfold setMaximized
  cases hp : s.position window with
  | none => exact ensures_pure.mpr (.inl ⟨rfl, rfl⟩)
  | some i =>
    simp only [ensures_bind, ensures_expect, ensures_pure]
    intro col _
    have hslots : (s.modifyColumnAt i fun col =>
        (col.setMaximized maximize s.workingArea.size).1).slots = s.slots :=
      slots_modifyColumnAt s (fun col => Column.windowId_setMaximized col _ _) i
    refine .inr ⟨i, rfl, ?_, ?_⟩
    · cases maximize <;> simp
    · cases maximize with
      | true => exact columns_modifyColumnAt h _ i
      | false =>
        have hfill := updateTileSizes_traced (h.congr hslots.symm)
        rwa [columns_modifyColumnAt h] at hfill

/-! ### Talking to the windows -/

/-- What a commit of its window does to a column. -/
def committedColumn (serial : Option ℕ) (c : Column W) : Column W :=
  let w := match serial with
    | some serial => LayoutElement.onCommit c.tile.window serial
    | none => c.tile.window
  { c with tile := { c.tile with window := w }.updateWindow }

theorem updateWindow_traced (window : Id) (serial : Option ℕ) :
    Traced (fun c d => d = c ∨ d = committedColumn serial c) s.columns
      (s.updateWindow window serial).columns ∧ (s.updateWindow window serial).view = s.view :=
  ⟨modifyColumnById_traced (fun _ => .inr rfl) (fun _ => .inl rfl) window,
    view_modifyColumnById window _⟩

end ById

theorem advanceAnimations_traced (clock : Clock) :
    Traced (fun c d => d = { c with tile := c.tile.advanceAnimations clock }) s.columns
      (s.advanceAnimations clock).columns ∧ (s.advanceAnimations clock).view = s.view := by
  refine ⟨?_, rfl⟩
  unfold advanceAnimations
  rw [columns_mapColumns]
  exact traced_map fun _ => rfl

theorem refresh_traced (isActive isFocused : Bool) :
    Traced (fun c d => ∃ activated, d = s.refreshColumn activated c) s.columns
      (s.refresh isActive isFocused).columns ∧ (s.refresh isActive isFocused).view = s.view := by
  refine ⟨fun d hd => ?_, rfl⟩
  unfold refresh columns at hd
  rcases List.mem_append.mp hd with hd | hd
  · obtain ⟨m, hm, rfl⟩ : ∃ m, s.master = some m ∧ s.refreshColumn _ m = d := by simpa using hd
    exact ⟨m, by simp [columns, hm], _, rfl⟩
  · obtain ⟨i, hi, rfl⟩ := List.mem_mapIdx.mp hd
    exact ⟨s.stack[i], List.mem_append_right _ (List.getElem_mem hi), _, rfl⟩

end ScrollingSpace

end Sol
