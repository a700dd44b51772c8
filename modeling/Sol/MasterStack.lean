import Sol.Slots

/-!
# The master-stack invariant

Every operation of the tiling space keeps the representation well formed and
does not panic.  The operations are specified by what they do to the space as a
list with a focus:

* a removal erases one position, and a focus elsewhere stays on its window;
* an addition appends one window;
* a move exchanges two positions or carries one to the end, the focus along.
-/

namespace Sol

open Panicking

namespace ScrollingSpace

variable {W Id : Type} [LayoutElement W Id] {s t : ScrollingSpace W}

/-- A well-formed space is empty, or has a master and a focused slot. -/
theorem wellFormed_iff : s.WellFormed ↔
    (15 / 100 ≤ s.masterRatio ∧ s.masterRatio ≤ 85 / 100) ∧
      ((s.master = none ∧ s.stack = [] ∧ s.focus = .empty) ∨
        ∃ m, s.master = some m ∧
          (s.focus = .master ∨ ∃ i < s.stack.length, s.focus = .stack i)) := by
  constructor
  · intro h
    refine ⟨h.ratio_mem, ?_⟩
    cases hm : s.master with
    | none =>
      have hs : s.stack = [] := by
        by_contra hne
        simpa [hm] using h.master_of_stack hne
      exact .inl ⟨rfl, hs, h.focus_empty.mpr (by simp [columns, hm, hs])⟩
    | some m =>
      refine .inr ⟨m, rfl, ?_⟩
      cases hf : s.focus with
      | empty => simpa [columns, hm] using h.focus_empty.mp hf
      | master => exact .inl rfl
      | stack i => exact .inr ⟨i, h.focus_stack i hf, rfl⟩
  · rintro ⟨hr, ⟨hm, hs, hf⟩ | ⟨m, hm, hf | ⟨i, hi, hf⟩⟩⟩
    all_goals
      constructor <;> simp_all [columns]

/-- The cases of a well-formed space, with the positions that are focused. -/
theorem WellFormed.cases (h : s.WellFormed) :
    (s.master = none ∧ s.stack = [] ∧ s.focus = .empty) ∨
      ∃ m, s.master = some m ∧ (s.focus = .master ∨ ∃ i < s.stack.length, s.focus = .stack i) :=
  (wellFormed_iff.mp h).2

/-- A space with a stack row has a master. -/
theorem WellFormed.master_of_row (h : s.WellFormed) {i : ℕ} (hi : i < s.stack.length) :
    ∃ m, s.master = some m :=
  Option.isSome_iff_exists.mp (h.master_of_stack (List.ne_nil_of_length_pos (by omega)))

/-- A space with a master is well formed when its focus is a slot. -/
theorem WellFormed.occupied (h : s.WellFormed) {m : Column W} (hm : t.master = some m)
    (hf : t.focus = .master ∨ ∃ i < t.stack.length, t.focus = .stack i)
    (hr : t.masterRatio = s.masterRatio) : t.WellFormed :=
  wellFormed_iff.mpr ⟨hr ▸ h.ratio_mem, .inr ⟨m, hm, hf⟩⟩

theorem wellFormed_new (viewSize : Size) (parentArea : Rect) (scale : ℚ) (options : Options) :
    (new viewSize parentArea scale options : ScrollingSpace W).WellFormed :=
  wellFormed_iff.mpr ⟨by norm_num [new], .inl ⟨rfl, rfl, rfl⟩⟩

theorem windowIds_of_master {m : Column W} (hm : s.master = some m) :
    s.windowIds = m.windowId :: s.stack.map (·.windowId) := by
  simp [windowIds, columns, hm]

theorem length_columns_of_master {m : Column W} (hm : s.master = some m) :
    s.columns.length = s.stack.length + 1 := by
  simp [columns, hm, Nat.add_comm]

/-- The row of a well-formed space is a list with a valid focus. -/
theorem WellFormed.valid_row (h : s.WellFormed) : s.row.Valid := by
  rcases h.cases with ⟨hm, hs, hf⟩ | ⟨m, hm, hf | ⟨i, hi, hf⟩⟩
  · constructor <;> simp [row, windowIds, columns, activeColumnIdxInternal, hm, hs, hf]
  · constructor <;> simp [row, windowIds, columns, activeColumnIdxInternal, hm, hf]
  · constructor <;> simp [row, windowIds, columns, activeColumnIdxInternal, hm, hf, hi]

/-- The id of the active window. -/
def activeId (s : ScrollingSpace W) : Option Id := s.activeWindow.map LayoutElement.id

/-- The focused element of the row is the active window. -/
theorem WellFormed.focused_row (h : s.WellFormed) : s.row.focused = s.activeId := by
  unfold activeId
  rcases h.cases with ⟨hm, hs, hf⟩ | ⟨m, hm, hf | ⟨i, hi, hf⟩⟩
  · simp [row, activeColumnIdxInternal, FocusList.focused, activeWindow, focusedColumn, hf]
  · simp [row, windowIds, columns, activeColumnIdxInternal, FocusList.focused, activeWindow,
      focusedColumn, hf, hm, Column.windowId, Tile.windowId]
  · simp [row, windowIds, columns, activeColumnIdxInternal, FocusList.focused, activeWindow,
      focusedColumn, hf, hm, hi, Column.windowId, Tile.windowId]

/-! ### Removal -/

/-- The outcome of taking out the column at `i`. -/
structure Detached (s : ScrollingSpace W) (i : ℕ) (removed : Column W) (t : ScrollingSpace W) :
    Prop where
  wellFormed : t.WellFormed
  removed_eq : s.columns[i]? = some removed
  windowIds_eq : t.windowIds = s.windowIds.eraseIdx i
  lastStackIdx_eq : t.lastStackIdx = s.lastStackIdx
  row_eq : s.activeColumnIdxInternal ≠ some i → t.row = s.row.eraseAt i

theorem Detached.congr {i : ℕ} {removed : Column W} {u : ScrollingSpace W}
    (h : Detached s i removed t) (htu : t.slots = u.slots) : Detached s i removed u where
  wellFormed := h.wellFormed.congr htu
  removed_eq := h.removed_eq
  windowIds_eq := windowIds_congr htu ▸ h.windowIds_eq
  lastStackIdx_eq := lastStackIdx_congr htu ▸ h.lastStackIdx_eq
  row_eq := row_congr htu ▸ h.row_eq

/-- What is left is described by its columns and its focus. -/
theorem WellFormed.detached (h : s.WellFormed) {i : ℕ} {removed m : Column W}
    {stack : List (Column W)} {focus : Focus} (hremoved : s.columns[i]? = some removed)
    (hcols : m :: stack = s.columns.eraseIdx i)
    (hf : focus = .master ∨ ∃ k < stack.length, focus = .stack k)
    (hrow : ∀ c, s.activeColumnIdxInternal = some c → c ≠ i →
      ({ s with focus } : ScrollingSpace W).activeColumnIdxInternal =
        some (FocusList.afterErase i c)) :
    Detached s i removed { s with master := some m, stack, focus } := by
  have hids : ({ s with master := some m, stack, focus } : ScrollingSpace W).windowIds =
      s.windowIds.eraseIdx i := by
    rw [windowIds_of_master rfl, ← List.map_cons (f := Column.windowId), hcols, windowIds,
      List.eraseIdx_map]
  refine ⟨h.occupied rfl hf rfl, hremoved, hids, rfl, fun hi => ?_⟩
  have hfocus : s.activeColumnIdxInternal ≠ none := by
    rcases h.cases with ⟨hm, hs, -⟩ | ⟨m, -, hf | ⟨k, -, hf⟩⟩
    · simp [columns, hm, hs] at hremoved
    · simp [activeColumnIdxInternal, hf]
    · simp [activeColumnIdxInternal, hf]
  obtain ⟨c, hc⟩ := Option.ne_none_iff_exists'.mp hfocus
  have hci : c ≠ i := fun e => hi (by rw [hc, e])
  unfold row FocusList.eraseAt
  rw [hids, hc]
  exact congrArg _ (hrow c hc hci)

theorem Detached.activeId_eq {i : ℕ} {c : Column W} (h : s.WellFormed) (hd : Detached s i c t)
    (hi : s.activeColumnIdxInternal ≠ some i) : t.activeId = s.activeId := by
  rw [← hd.wellFormed.focused_row, ← h.focused_row, hd.row_eq hi]
  exact FocusList.focused_eraseAt hi

/-- What is left when the master goes has its first stack column as the master. -/
theorem Detached.promoted {c : Column W} (h : s.WellFormed) (hd : Detached s 0 c t) :
    t.master.map (·.windowId) = s.stack.head?.map (·.windowId) := by
  have hids := hd.windowIds_eq
  rcases h.cases with ⟨hm, hs, -⟩ | ⟨m, hm, -⟩
  · simpa [columns, hm, hs] using hd.removed_eq
  · rw [windowIds_of_master hm, List.eraseIdx_zero, List.tail_cons] at hids
    rcases hd.wellFormed.cases with ⟨hm', hs', -⟩ | ⟨m', hm', -⟩
    · simp [windowIds, columns, hm', hs'] at hids
      simp [hm', hids]
    · rw [windowIds_of_master hm'] at hids
      cases hs : s.stack with
      | nil => simp [hs] at hids
      | cons p rest =>
        rw [hs, List.map_cons, List.cons.injEq] at hids
        simp [hm', hids.1]

/-- The focus once the master is gone and the first stack column promoted. -/
theorem updateFocusAfterRemoval_zero {p : Column W} (hm : s.master = some p)
    (hf : ∀ i, s.focus = .stack (i + 1) → i < s.stack.length) :
    s.updateFocusAfterRemoval 0 = { s with focus :=
      match s.focus with
      | .stack (i + 1) => .stack i
      | _ => .master } := by
  rcases s with ⟨master, stack, focus⟩
  subst hm
  unfold updateFocusAfterRemoval
  rcases focus with _ | _ | _ | i
  · rfl
  · rfl
  · simp
  · simp [show i < stack.length from hf i rfl]

/-- The focus once a stack column is gone, below an occupied master slot. -/
theorem updateFocusAfterRemoval_succ {m : Column W} (hm : s.master = some m) (j : ℕ) :
    s.updateFocusAfterRemoval (j + 1) = { s with focus :=
      match s.focus with
      | .stack i =>
        if j = i ∧ i = 0 then if s.stack = [] then .master else .stack 0
        else if j ≤ i then .stack (i - 1) else .stack i
      | _ => .master } := by
  rcases s with ⟨master, stack, focus⟩
  subst hm
  unfold updateFocusAfterRemoval
  rcases focus with _ | _ | i
  · rfl
  · rfl
  · rcases lt_trichotomy j i with hji | rfl | hji
    · simp [hji.ne, hji, hji.le]
    · rcases j with _ | j
      · cases stack <;> simp
      · simp
    · simp [hji.ne', hji.not_gt, hji.not_ge]

/-- Taking out the master promotes the first stack column. -/
theorem detachColumnAt_zero_spec (h : s.WellFormed) (hi : 0 < s.columns.length) :
    Returns (s.detachColumnAt 0) fun r => Detached s 0 r.1 r.2 := by
  obtain ⟨m, hm, hf⟩ : ∃ m, s.master = some m ∧
      (s.focus = .master ∨ ∃ i < s.stack.length, s.focus = .stack i) := by
    rcases h.cases with ⟨hm, hs, -⟩ | hocc
    · simp [columns, hm, hs] at hi
    · exact hocc
  have hremoved : s.columns[0]? = some m := by simp [columns, hm]
  unfold detachColumnAt
  cases hs : s.stack with
  | nil =>
    have hf : s.focus = .master := by
      rcases hf with hf | ⟨i, hi, hf⟩
      · exact hf
      · simp [hs] at hi
    simp only [↓reduceIte, hm, returns_bind, returns_expect, Option.some.injEq, exists_eq_left',
      returns_pure]
    refine ⟨wellFormed_iff.mpr ⟨h.ratio_mem, .inl ?_⟩, hremoved, ?_, rfl, ?_⟩
    · simp [updateFocusAfterRemoval]
    · simp [updateFocusAfterRemoval, windowIds, columns, hm, hs]
    · simp [activeColumnIdxInternal, hf]
  | cons p rest =>
    simp only [↓reduceIte, hm, returns_bind, returns_expect, Option.some.injEq, exists_eq_left',
      returns_pure]
    have hlt : ∀ i, s.focus = .stack (i + 1) → i < rest.length := by
      intro i hi
      simpa [hs] using h.focus_stack _ hi
    rw [updateFocusAfterRemoval_zero rfl hlt]
    refine h.detached hremoved (by simp [columns, hm, hs]) ?_ ?_
    · rcases hf with hf | ⟨_ | i, hi, hf⟩
      · simp [hf]
      · simp [hf]
      · simp [hf, hlt i hf]
    · intro c hc hc0
      rcases hf with hf | ⟨_ | i, hi, hf⟩
      · simp [activeColumnIdxInternal, hf] at hc
        omega
      · simp [activeColumnIdxInternal, hf] at hc ⊢
        simp [← hc, FocusList.afterErase]
      · simp [activeColumnIdxInternal, hf] at hc ⊢
        simp [← hc, FocusList.afterErase]

/-- Taking out a stack column closes its row. -/
theorem detachColumnAt_succ_spec (h : s.WellFormed) {j : ℕ} (hi : j + 1 < s.columns.length) :
    Returns (s.detachColumnAt (j + 1)) fun r => Detached s (j + 1) r.1 r.2 := by
  obtain ⟨m, hm, hf⟩ : ∃ m, s.master = some m ∧
      (s.focus = .master ∨ ∃ i < s.stack.length, s.focus = .stack i) := by
    rcases h.cases with ⟨hm, hs, -⟩ | hocc
    · simp [columns, hm, hs] at hi
    · exact hocc
  have hj : j < s.stack.length := by
    rw [length_columns_of_master hm] at hi
    omega
  have hget : s.stack[j]? = some s.stack[j] := List.getElem?_eq_getElem hj
  have hlen : (s.stack.eraseIdx j).length = s.stack.length - 1 := List.length_eraseIdx_of_lt hj
  unfold detachColumnAt
  simp only [Nat.add_one_ne_zero, ↓reduceIte, Nat.add_sub_cancel, returns_bind,
    Vec.returns_remove, hget, Option.some.injEq, exists_eq_left', returns_pure]
  rw [updateFocusAfterRemoval_succ (s := { s with stack := s.stack.eraseIdx j }) hm,
    show ({ s with stack := s.stack.eraseIdx j } : ScrollingSpace W).master = some m from hm]
  refine h.detached (by simp [columns, hm, hj]) (by simp [columns, hm]) ?_ ?_
  · rcases hf with hf | ⟨i, hi, hf⟩
    · simp [hf]
    · rcases lt_trichotomy j i with hji | rfl | hji
      · have hlt : i - 1 < s.stack.length - 1 := by omega
        simp [hf, hji.ne, hji.le, hlen, hlt]
      · rcases j with _ | j
        · by_cases he : s.stack.tail = []
          · simp [hf, he]
          · have hpos : 0 < s.stack.length - 1 := by simpa using List.length_pos_iff.mpr he
            simp [hf, he, hpos]
        · have hlt : j < s.stack.length - 1 := by omega
          simp [hf, hlen, hlt]
      · have hlt : i < s.stack.length - 1 := by omega
        simp [hf, hji.ne', hji.not_ge, hlen, hlt]
  · intro c hc hcj
    rcases hf with hf | ⟨i, hi, hf⟩
    · simp [activeColumnIdxInternal, hf] at hc ⊢
      simp [← hc, FocusList.afterErase]
    · simp only [activeColumnIdxInternal, hf, Option.some.injEq] at hc
      have hne : j ≠ i := by omega
      rcases lt_or_gt_of_ne hne with hji | hji
      · simp only [activeColumnIdxInternal, hf, hne, false_and, ↓reduceIte, hji.le, ← hc,
          FocusList.afterErase, Option.some.injEq]
        rw [if_pos (by omega)]
        omega
      · simp [activeColumnIdxInternal, hf, hne, hji.not_ge, ← hc, FocusList.afterErase, hji.le]

theorem detachColumnAt_spec (h : s.WellFormed) {i : ℕ} (hi : i < s.columns.length) :
    Returns (s.detachColumnAt i) fun r => Detached s i r.1 r.2 := by
  cases i with
  | zero => exact detachColumnAt_zero_spec h hi
  | succ j => exact detachColumnAt_succ_spec h hi

/-! ### Addition -/

theorem slots_endTakeovers (size : Size) :
    (s.mapColumns fun col => col.endTakeover size).slots = s.slots :=
  slots_mapColumns s fun col => Column.windowId_endTakeover col size

/-- Placing a column appends its window. -/
theorem placeColumn_spec (h : s.WellFormed) (col : Column W) (activate : Bool) :
    (s.placeColumn col activate).WellFormed ∧
      (s.placeColumn col activate).row = s.row.append col.windowId activate := by
  unfold placeColumn
  rcases h.cases with ⟨hm, hs, hf⟩ | ⟨m, hm, hf | ⟨i, hi, hf⟩⟩
  · simp only [hm]
    refine ⟨h.occupied rfl (.inl (by simp [hf])) rfl, ?_⟩
    cases activate <;>
      simp [row, windowIds, columns, activeColumnIdxInternal, FocusList.append, hm, hs, hf]
  · simp only [hm]
    refine ⟨h.occupied rfl ?_ rfl, ?_⟩
    · cases activate <;> simp [hf]
    · cases activate <;>
        simp [row, windowIds, columns, activeColumnIdxInternal, FocusList.append, hm, hf]
  · simp only [hm]
    refine ⟨h.occupied rfl ?_ rfl, ?_⟩
    · cases activate
      · exact .inr ⟨i, by simp; omega, by simp [hf]⟩
      · simp
    · cases activate <;>
        simp [row, windowIds, columns, activeColumnIdxInternal, FocusList.append, hm, hf]

/-- Adding a column appends its window. -/
theorem addColumn_spec (h : s.WellFormed) (col : Column W) (activate : Bool) :
    (s.addColumn col activate).WellFormed ∧
      (s.addColumn col activate).row = s.row.append col.windowId activate := by
  have hend := slots_endTakeovers (s := s) s.workingArea.size
  have hplace := placeColumn_spec (h.congr hend.symm)
    (col.updateConfig s.viewSize s.workingArea s.parentArea s.scale s.options) activate
  rw [row_congr hend, Column.windowId_updateConfig] at hplace
  have hsize : (s.addColumn col activate).slots = _ := slots_updateTileSizes _
  exact ⟨hplace.1.congr hsize.symm, (row_congr hsize).trans hplace.2⟩

/-- An added column leaves the memory alone and does not shorten the stack. -/
theorem lastStackIdx_addColumn (col : Column W) (activate : Bool) :
    (s.addColumn col activate).lastStackIdx = s.lastStackIdx ∧
      s.stack.length ≤ (s.addColumn col activate).stack.length := by
  have hsize : (s.addColumn col activate).slots = _ := slots_updateTileSizes _
  rw [lastStackIdx_congr hsize, length_stack_congr hsize]
  unfold placeColumn mapColumns
  cases s.master <;> simp

/-! ### Focus -/

/-- The outcome of an operation that adds and removes no window. -/
structure Rearranged (s t : ScrollingSpace W) : Prop where
  wellFormed : t.WellFormed
  perm : t.windowIds.Perm s.windowIds
  length_stack : t.stack.length = s.stack.length
  lastStackIdx : t.lastStackIdx = s.lastStackIdx ∨ ∃ i < t.stack.length, t.lastStackIdx = some i

theorem WellFormed.rearranged_refl (h : s.WellFormed) : Rearranged s s :=
  ⟨h, .refl _, rfl, .inl rfl⟩

theorem Rearranged.congr {u : ScrollingSpace W} (h : Rearranged s t) (htu : t.slots = u.slots) :
    Rearranged s u where
  wellFormed := h.wellFormed.congr htu
  perm := windowIds_congr htu ▸ h.perm
  length_stack := length_stack_congr htu ▸ h.length_stack
  lastStackIdx := by
    rw [← lastStackIdx_congr htu, ← length_stack_congr htu]
    exact h.lastStackIdx

/-- The focus may go to the master or to a stack row that is there. -/
theorem WellFormed.refocus (h : s.WellFormed) {focus : Focus} {row : Option ℕ}
    (hf : (focus = .master ∧ s.master.isSome) ∨ ∃ i < s.stack.length, focus = .stack i)
    (hrow : row = s.lastStackIdx ∨ ∃ i < s.stack.length, row = some i) :
    Rearranged s { s with focus, lastStackIdx := row } := by
  have hm : s.master.isSome := by
    rcases hf with ⟨-, hm⟩ | ⟨i, hi, -⟩
    · exact hm
    · exact h.master_of_stack (List.ne_nil_of_length_pos (by omega))
  obtain ⟨m, hm⟩ := Option.isSome_iff_exists.mp hm
  exact ⟨h.occupied hm (hf.imp_left And.left) rfl, .refl _, rfl, hrow⟩

theorem focusLeft_rearranged (h : s.WellFormed) : Rearranged s s.focusLeft.1 := by
  unfold focusLeft
  cases hf : s.focus with
  | empty => exact h.rearranged_refl
  | master => exact h.rearranged_refl
  | stack i =>
    have hi := h.focus_stack i hf
    dsimp only
    split_ifs with hm
    · exact h.refocus (.inl ⟨rfl, hm⟩) (.inr ⟨i, hi, rfl⟩)
    · exact h.rearranged_refl

theorem rememberedRow_lt (hs : s.stack ≠ []) : s.rememberedRow < s.stack.length := by
  have hpos := List.length_pos_iff.mpr hs
  unfold rememberedRow
  rcases s.lastStackIdx with _ | i
  · simpa using hpos
  · by_cases hi : i < s.stack.length <;> simp [Option.filter, hi, hpos]

theorem focusRight_rearranged (h : s.WellFormed) : Rearranged s s.focusRight.1 := by
  unfold focusRight
  cases hf : s.focus with
  | empty => exact h.rearranged_refl
  | stack i => exact h.rearranged_refl
  | master =>
    dsimp only
    split_ifs with hs
    · exact h.rearranged_refl
    · exact h.refocus (.inr ⟨_, rememberedRow_lt (by simpa using hs), rfl⟩) (.inl rfl)

theorem focusColumnFirst_rearranged (h : s.WellFormed) : Rearranged s s.focusColumnFirst := by
  unfold focusColumnFirst
  split_ifs with hm
  · exact h.refocus (.inl ⟨rfl, hm⟩) (.inl rfl)
  · exact h.rearranged_refl

theorem focusColumnLast_rearranged (h : s.WellFormed) : Rearranged s s.focusColumnLast := by
  unfold focusColumnLast
  split_ifs with hs hm
  · have hpos : 0 < s.stack.length := List.length_pos_iff.mpr (by simpa using hs)
    exact h.refocus (.inr ⟨_, by omega, rfl⟩) (.inl rfl)
  · exact h.refocus (.inl ⟨rfl, hm⟩) (.inl rfl)
  · exact h.rearranged_refl

theorem focusColumn_rearranged (h : s.WellFormed) (index : ℕ) :
    Rearranged s (s.focusColumn index) := by
  unfold focusColumn
  split_ifs with h0 hm hi
  · exact h.refocus (.inl ⟨rfl, hm⟩) (.inl rfl)
  · exact h.rearranged_refl
  · exact h.refocus (.inr ⟨_, hi, rfl⟩) (.inl rfl)
  · exact h.rearranged_refl

theorem focusDown_rearranged (h : s.WellFormed) : Rearranged s s.focusDown.1 := by
  unfold focusDown
  cases hf : s.focus with
  | empty => exact h.rearranged_refl
  | stack i =>
    dsimp only
    split_ifs with hi
    · exact h.refocus (.inr ⟨_, hi, rfl⟩) (.inl rfl)
    · exact h.rearranged_refl
  | master =>
    dsimp only
    split_ifs with hs
    · exact h.rearranged_refl
    · have hpos : 0 < s.stack.length := List.length_pos_iff.mpr (by simpa using hs)
      exact h.refocus (.inr ⟨_, hpos, rfl⟩) (.inl rfl)

theorem focusUp_rearranged (h : s.WellFormed) : Rearranged s s.focusUp.1 := by
  unfold focusUp
  cases hf : s.focus with
  | empty => exact h.rearranged_refl
  | master => exact h.rearranged_refl
  | stack i =>
    have hi := h.focus_stack i hf
    dsimp only
    split_ifs with hi0
    · exact h.refocus (.inr ⟨_, by omega, rfl⟩) (.inl rfl)
    · exact h.rearranged_refl

theorem focusTop_rearranged (h : s.WellFormed) : Rearranged s s.focusTop := by
  unfold focusTop
  cases hf : s.focus with
  | empty => exact h.rearranged_refl
  | master => exact h.rearranged_refl
  | stack i =>
    have hi := h.focus_stack i hf
    exact h.refocus (.inr ⟨0, by omega, rfl⟩) (.inl rfl)

theorem focusBottom_rearranged (h : s.WellFormed) : Rearranged s s.focusBottom := by
  unfold focusBottom
  split_ifs with hs
  · exact h.rearranged_refl
  · have hpos : 0 < s.stack.length := List.length_pos_iff.mpr (by simpa using hs)
    exact h.refocus (.inr ⟨_, by omega, rfl⟩) (.inl rfl)

/-- A vertical focus step that falls back on a horizontal one. -/
theorem ite_rearranged {c : Prop} [Decidable c] {u : ScrollingSpace W} (ht : Rearranged s t)
    (hu : Rearranged s u) : Rearranged s (if c then t else u) := by
  split_ifs
  · exact ht
  · exact hu

/-! ### Moves -/

/-- The space once the master `m` and the column `p` of row `i` have traded places. -/
def trade (s : ScrollingSpace W) (p m : Column W) (i : ℕ) (focus : Focus) (memory : Option ℕ) :
    ScrollingSpace W :=
  { s with master := some p, stack := s.stack.set i m, focus, lastStackIdx := memory }

section Trade

variable {m : Column W} {i : ℕ} {focus : Focus} {memory : Option ℕ}

theorem windowIds_trade (hm : s.master = some m) (hi : i < s.stack.length) :
    (s.trade s.stack[i] m i focus memory).windowIds =
      FocusList.exchanged s.windowIds 0 (i + 1) := by
  rw [windowIds_of_master rfl, windowIds_of_master hm,
    FocusList.exchanged_of_lt (by simp) (by simpa using hi)]
  simp [trade]

/-- A trade in which the focus goes along exchanges two positions of the row. -/
theorem row_trade (hm : s.master = some m) (hi : i < s.stack.length)
    (hf : (focus = .master ∧ s.focus = .stack i) ∨ (focus = .stack i ∧ s.focus = .master)) :
    (s.trade s.stack[i] m i focus memory).row = s.row.exchange 0 (i + 1) := by
  unfold row FocusList.exchange
  rw [windowIds_trade hm hi]
  rcases hf with ⟨rfl, hf⟩ | ⟨rfl, hf⟩
  · simp [activeColumnIdxInternal, trade, hf, FocusList.afterExchange]
  · simp [activeColumnIdxInternal, trade, hf, FocusList.afterExchange]

theorem WellFormed.trade_rearranged (h : s.WellFormed) (hm : s.master = some m)
    (hi : i < s.stack.length) (hf : focus = .master ∨ focus = .stack i)
    (hmemory : memory = s.lastStackIdx ∨ memory = some i) :
    Rearranged s (s.trade s.stack[i] m i focus memory) where
  wellFormed := h.occupied rfl (hf.imp_right fun hf => ⟨i, by simpa [trade] using hi, hf⟩) rfl
  perm := by
    rw [windowIds_trade hm hi]
    exact FocusList.exchanged_perm _ _ _
  length_stack := by simp [trade]
  lastStackIdx := hmemory.imp_right fun hmemory => ⟨i, by simpa [trade] using hi, hmemory⟩

end Trade

/-- Promotion: the focused stack column becomes the master, the master takes its row. -/
theorem moveLeft_of_stack {m : Column W} (hm : s.master = some m) {i : ℕ}
    (hf : s.focus = .stack i) (hi : i < s.stack.length) :
    s.moveLeft = .ok ((s.trade s.stack[i] m i .master (some i)).updateTileSizes, true) := by
  have hlen : i ≤ (s.stack.eraseIdx i).length := by
    rw [List.length_eraseIdx_of_lt hi]
    omega
  unfold moveLeft
  rw [hf]
  dsimp only
  rw [Vec.remove_eq_ok (List.getElem?_eq_getElem hi)]
  simp only [hm, Vec.insert, hlen, if_true, Vec.insertIdx_eraseIdx_self hi, bind, Except.bind,
    pure, Except.pure, trade]

theorem moveLeft_of_not_stack (hf : ∀ i, s.focus ≠ .stack i) : s.moveLeft = .ok (s, false) := by
  unfold moveLeft
  cases h : s.focus with
  | empty => rfl
  | master => rfl
  | stack i => exact absurd h (hf i)

/-- The master takes the remembered row, the column there becomes the master. -/
theorem moveRight_of_master {m : Column W} (hm : s.master = some m) (hf : s.focus = .master)
    (hs : s.stack ≠ []) (hi : s.rememberedRow < s.stack.length) :
    s.moveRight = .ok ((s.trade s.stack[s.rememberedRow] m s.rememberedRow
      (.stack s.rememberedRow) s.lastStackIdx).updateTileSizes, true) := by
  have hlen : s.rememberedRow ≤ (s.stack.eraseIdx s.rememberedRow).length := by
    rw [List.length_eraseIdx_of_lt hi]
    omega
  unfold moveRight
  rw [hf]
  simp only [List.isEmpty_iff, hs, if_false, hm]
  rw [Vec.remove_eq_ok (List.getElem?_eq_getElem hi)]
  simp only [Vec.insert, hlen, if_true, Vec.insertIdx_eraseIdx_self hi, bind, Except.bind,
    pure, Except.pure, trade]

theorem moveRight_of_not_master (hf : s.focus ≠ .master ∨ s.stack = []) :
    s.moveRight = .ok (s, false) := by
  unfold moveRight
  cases hfoc : s.focus with
  | empty => rfl
  | stack i => rfl
  | master =>
    have hs : s.stack = [] := hf.resolve_left fun hne => hne hfoc
    simp [hs]
    rfl

/-- The space once the stack rows `i` and `j` have traded places, the focus on `j`. -/
def swapRows (s : ScrollingSpace W) (i j : ℕ) : ScrollingSpace W :=
  { s with stack := FocusList.exchanged s.stack i j, focus := .stack j }

section SwapRows

variable {m : Column W} {i j : ℕ}

theorem windowIds_swapRows (hm : s.master = some m) :
    (s.swapRows i j).windowIds = FocusList.exchanged s.windowIds (i + 1) (j + 1) := by
  rw [windowIds_of_master (s := s.swapRows i j) hm, windowIds_of_master hm,
    FocusList.exchanged_cons, ← FocusList.map_exchanged]
  rfl

theorem row_swapRows (hm : s.master = some m) (hf : s.focus = .stack i) :
    (s.swapRows i j).row = s.row.exchange (i + 1) (j + 1) := by
  unfold row FocusList.exchange
  rw [windowIds_swapRows hm]
  simp [activeColumnIdxInternal, swapRows, hf, FocusList.afterExchange]

theorem WellFormed.swapRows_rearranged (h : s.WellFormed) (hm : s.master = some m)
    (hj : j < s.stack.length) : Rearranged s (s.swapRows i j) where
  wellFormed := h.occupied hm (.inr ⟨j, by simpa [swapRows] using hj, rfl⟩) rfl
  perm := by
    rw [windowIds_swapRows hm]
    exact FocusList.exchanged_perm _ _ _
  length_stack := by simp [swapRows]
  lastStackIdx := .inl rfl

theorem swap_eq_exchanged {l : List (Column W)} (hi : i < l.length) (hj : j < l.length) :
    Vec.swap l i j = .ok (FocusList.exchanged l i j) := by
  rw [Vec.swap_eq_ok (List.getElem?_eq_getElem hi) (List.getElem?_eq_getElem hj),
    FocusList.exchanged_of_lt hi hj]

theorem moveDown_of_stack (hf : s.focus = .stack i) (hi : i + 1 < s.stack.length) :
    s.moveDown = .ok (s.swapRows i (i + 1), true) := by
  unfold moveDown
  rw [hf]
  simp only [hi, if_true, swap_eq_exchanged (show i < s.stack.length by omega) hi, bind,
    Except.bind, pure, Except.pure, swapRows]

theorem moveDown_of_not_stack (hf : ∀ i, s.focus = .stack i → s.stack.length ≤ i + 1) :
    s.moveDown = .ok (s, false) := by
  unfold moveDown
  cases h : s.focus with
  | empty => rfl
  | master => rfl
  | stack i =>
    simp only [(hf i h).not_gt, if_false]
    rfl

theorem moveUp_of_stack (hf : s.focus = .stack (i + 1)) (hi : i + 1 < s.stack.length) :
    s.moveUp = .ok (s.swapRows (i + 1) i, true) := by
  unfold moveUp
  rw [hf]
  simp only [Nat.zero_lt_succ, if_true, Nat.add_sub_cancel,
    swap_eq_exchanged hi (show i < s.stack.length by omega), bind, Except.bind, pure, Except.pure,
    swapRows, gt_iff_lt]

theorem moveUp_of_not_stack (hf : ∀ i, s.focus = .stack i → i = 0) :
    s.moveUp = .ok (s, false) := by
  unfold moveUp
  cases h : s.focus with
  | empty => rfl
  | master => rfl
  | stack i =>
    rw [hf i h]
    rfl

end SwapRows

/-- The space once row `i` has moved to the bottom of the stack, and the focus with it. -/
def sinkRow (s : ScrollingSpace W) (i : ℕ) : ScrollingSpace W :=
  { s with
    stack := FocusList.relocated s.stack i (s.stack.length - 1)
    focus := .stack (s.stack.length - 1) }

section SinkRow

variable {m : Column W} {i : ℕ}

theorem row_sinkRow (hm : s.master = some m) (hf : s.focus = .stack i)
    (hi : i < s.stack.length) :
    (s.sinkRow i).row = s.row.relocate (i + 1) (s.windowIds.length - 1) := by
  have hlen : s.windowIds.length = s.stack.length + 1 := by simp [windowIds_of_master hm]
  have hids : (s.sinkRow i).windowIds =
      FocusList.relocated s.windowIds (i + 1) (s.windowIds.length - 1) := by
    rw [windowIds_of_master (s := s.sinkRow i) hm, FocusList.relocated_last (by omega)]
    simp only [sinkRow, FocusList.relocated_last hi]
    simp [windowIds_of_master hm, List.eraseIdx_map]
  unfold row FocusList.relocate
  rw [hids, hlen]
  simp [activeColumnIdxInternal, sinkRow, hf, FocusList.afterRelocate]
  omega

theorem WellFormed.sinkRow_rearranged (h : s.WellFormed) (hm : s.master = some m)
    (hi : i < s.stack.length) : Rearranged s (s.sinkRow i) where
  wellFormed := by
    have hlen : (s.sinkRow i).stack.length = s.stack.length :=
      (FocusList.relocated_perm (by omega)).length_eq
    exact h.occupied hm (.inr ⟨s.stack.length - 1, by omega, rfl⟩) rfl
  perm := by
    have hperm : (s.sinkRow i).stack.Perm s.stack := FocusList.relocated_perm (by omega)
    rw [windowIds_of_master (s := s.sinkRow i) hm, windowIds_of_master hm]
    exact (hperm.map _).cons _
  length_stack := (FocusList.relocated_perm (by omega)).length_eq
  lastStackIdx := .inl rfl

theorem moveColumnToLast_of_stack (hf : s.focus = .stack i) (hi : i + 1 < s.stack.length) :
    s.moveColumnToLast = .ok (s.sinkRow i) := by
  have hi' : i < s.stack.length := by omega
  unfold moveColumnToLast
  rw [hf]
  simp only [hi, if_true]
  rw [Vec.remove_eq_ok (List.getElem?_eq_getElem hi')]
  simp only [bind, Except.bind, pure, Except.pure, sinkRow, FocusList.relocated_last hi',
    List.length_append, List.length_eraseIdx_of_lt hi', List.length_singleton]
  rw [Nat.sub_add_cancel (by omega)]

theorem moveColumnToLast_of_not_stack (hf : ∀ i, s.focus = .stack i → s.stack.length ≤ i + 1) :
    s.moveColumnToLast = .ok s := by
  unfold moveColumnToLast
  cases h : s.focus with
  | empty => rfl
  | master => rfl
  | stack i =>
    simp only [(hf i h).not_gt, if_false]
    rfl

end SinkRow

/-! ### Every move keeps the focus on its window -/

/-- The outcome of a move. -/
structure Moved (s t : ScrollingSpace W) : Prop extends Rearranged s t where
  activeId_eq : t.activeId = s.activeId

theorem WellFormed.moved_refl (h : s.WellFormed) : Moved s s :=
  ⟨h.rearranged_refl, rfl⟩

theorem Moved.congr {u : ScrollingSpace W} (h : Moved s t) (htu : t.slots = u.slots) :
    Moved s u := by
  refine ⟨h.toRearranged.congr htu, ?_⟩
  rw [← (h.wellFormed.congr htu).focused_row, ← row_congr htu, h.wellFormed.focused_row,
    h.activeId_eq]

/-- An exchange of two positions, the focus along, is a move. -/
theorem Rearranged.moved_of_exchange (h : s.WellFormed) (ht : Rearranged s t) {i j : ℕ}
    (hi : i < s.windowIds.length) (hj : j < s.windowIds.length)
    (hrow : t.row = s.row.exchange i j) : Moved s t := by
  refine ⟨ht, ?_⟩
  rw [← ht.wellFormed.focused_row, ← h.focused_row, hrow]
  exact FocusList.focused_exchange hi hj

theorem moveLeft_moved (h : s.WellFormed) : Returns s.moveLeft fun r => Moved s r.1 := by
  by_cases hf : ∃ i, s.focus = .stack i
  · obtain ⟨i, hf⟩ := hf
    have hi := h.focus_stack i hf
    obtain ⟨m, hm⟩ := h.master_of_row hi
    have hlen : s.windowIds.length = s.stack.length + 1 := by simp [windowIds_of_master hm]
    have hmoved := (h.trade_rearranged hm hi (.inl rfl) (.inr rfl)).moved_of_exchange h
      (by omega) (by omega) (row_trade hm hi (.inl ⟨rfl, hf⟩))
    rw [moveLeft_of_stack hm hf hi]
    exact ⟨_, rfl, hmoved.congr (by simp)⟩
  · rw [moveLeft_of_not_stack (not_exists.mp hf)]
    exact ⟨_, rfl, h.moved_refl⟩

theorem moveRight_moved (h : s.WellFormed) : Returns s.moveRight fun r => Moved s r.1 := by
  by_cases hf : s.focus = .master ∧ s.stack ≠ []
  · have hi := rememberedRow_lt hf.2
    obtain ⟨m, hm⟩ := h.master_of_row hi
    have hlen : s.windowIds.length = s.stack.length + 1 := by simp [windowIds_of_master hm]
    have hmoved := (h.trade_rearranged hm hi (.inr rfl) (.inl rfl)).moved_of_exchange h
      (by omega) (by omega) (row_trade hm hi (.inr ⟨rfl, hf.1⟩))
    rw [moveRight_of_master hm hf.1 hf.2 hi]
    exact ⟨_, rfl, hmoved.congr (by simp)⟩
  · rw [moveRight_of_not_master (by tauto)]
    exact ⟨_, rfl, h.moved_refl⟩

theorem moveDown_moved (h : s.WellFormed) : Returns s.moveDown fun r => Moved s r.1 := by
  by_cases hf : ∃ i, s.focus = .stack i ∧ i + 1 < s.stack.length
  · obtain ⟨i, hf, hi⟩ := hf
    obtain ⟨m, hm⟩ := h.master_of_row hi
    have hlen : s.windowIds.length = s.stack.length + 1 := by simp [windowIds_of_master hm]
    rw [moveDown_of_stack hf hi]
    exact ⟨_, rfl, (h.swapRows_rearranged hm hi).moved_of_exchange h (by omega) (by omega)
      (row_swapRows hm hf)⟩
  · push Not at hf
    rw [moveDown_of_not_stack hf]
    exact ⟨_, rfl, h.moved_refl⟩

theorem moveUp_moved (h : s.WellFormed) : Returns s.moveUp fun r => Moved s r.1 := by
  by_cases hf : ∃ i, s.focus = .stack (i + 1)
  · obtain ⟨i, hf⟩ := hf
    have hi := h.focus_stack _ hf
    obtain ⟨m, hm⟩ := h.master_of_row hi
    have hlen : s.windowIds.length = s.stack.length + 1 := by simp [windowIds_of_master hm]
    rw [moveUp_of_stack hf hi]
    exact ⟨_, rfl, (h.swapRows_rearranged hm (by omega)).moved_of_exchange h (by omega) (by omega)
      (row_swapRows hm hf)⟩
  · rw [moveUp_of_not_stack]
    · exact ⟨_, rfl, h.moved_refl⟩
    · rintro (_ | i) hi
      · rfl
      · exact absurd ⟨i, hi⟩ hf

theorem moveColumnToFirst_moved (h : s.WellFormed) :
    Returns s.moveColumnToFirst fun t => Moved s t := by
  unfold moveColumnToFirst
  split
  · simp only [returns_bind, returns_pure]
    exact moveLeft_moved h
  · simpa using h.moved_refl

theorem moveColumnToLast_moved (h : s.WellFormed) :
    Returns s.moveColumnToLast fun t => Moved s t := by
  by_cases hf : ∃ i, s.focus = .stack i ∧ i + 1 < s.stack.length
  · obtain ⟨i, hf, hi⟩ := hf
    have hi' : i < s.stack.length := by omega
    obtain ⟨m, hm⟩ := h.master_of_row hi
    have hlen : s.windowIds.length = s.stack.length + 1 := by simp [windowIds_of_master hm]
    have hrow : s.row.items.length = s.windowIds.length := rfl
    have ht := h.sinkRow_rearranged hm hi'
    rw [moveColumnToLast_of_stack hf hi]
    refine ⟨_, rfl, ht, ?_⟩
    rw [← ht.wellFormed.focused_row, ← h.focused_row, row_sinkRow hm hf hi']
    exact FocusList.focused_relocate h.valid_row (by omega) (by omega)
  · push Not at hf
    rw [moveColumnToLast_of_not_stack hf]
    exact ⟨_, rfl, h.moved_refl⟩

theorem swapWindowInDirection_moved (h : s.WellFormed) (direction : ScrollDirection) :
    Returns (s.swapWindowInDirection direction) fun t => Moved s t := by
  unfold swapWindowInDirection
  cases direction with
  | left => simpa only [returns_bind, returns_pure] using moveLeft_moved h
  | right => simpa only [returns_bind, returns_pure] using moveRight_moved h

/-! ### Sizes -/

/-- What changes no slot moves nothing. -/
theorem WellFormed.moved_of_slots (h : s.WellFormed) (hst : s.slots = t.slots) : Moved s t :=
  h.moved_refl.congr hst

theorem updateConfig_moved (h : s.WellFormed) (viewSize : Size) (parentArea : Rect)
    (scale : ℚ) (options : Options) :
    Moved s (s.updateConfig viewSize parentArea scale options) := by
  apply h.moved_of_slots
  unfold updateConfig
  rw [slots_updateTileSizes]
  exact (slots_mapColumns s fun col => Column.windowId_updateConfig col _ _ _ _ _).symm

theorem advanceAnimations_moved (h : s.WellFormed) (clock : Clock) :
    Moved s (s.advanceAnimations clock) := by
  apply h.moved_of_slots
  symm
  apply slots_mapColumns
  intro col
  exact Tile.windowId_advanceAnimations col.tile clock

theorem windowId_refreshColumn (activated : Bool) (col : Column W) :
    (s.refreshColumn activated col).windowId = col.windowId := by
  simp [refreshColumn, Column.windowId, Tile.windowId]

theorem refresh_moved (h : s.WellFormed) (isActive isFocused : Bool) :
    Moved s (s.refresh isActive isFocused) := by
  have hstack : ∀ f : ℕ → Bool, (s.stack.mapIdx fun i col => s.refreshColumn (f i) col).map
      (·.windowId) = s.stack.map (·.windowId) := by
    intro f
    apply List.ext_getElem?
    intro i
    simp [Function.comp_def, windowId_refreshColumn]
  apply h.moved_of_slots
  simp [slots, refresh, Function.comp_def, windowId_refreshColumn, hstack]

/-! ### Windows by their ids -/

variable [DecidableEq Id]

theorem activateWindow_rearranged (h : s.WellFormed) (window : Id) :
    Rearranged s (s.activateWindow window).1 := by
  unfold activateWindow
  cases hp : s.position window with
  | none => exact h.rearranged_refl
  | some idx =>
    have hidx : idx < s.columns.length := (List.findIdx?_eq_some_iff_findIdx_eq.mp hp).1
    rcases h.cases with ⟨hm, hs, -⟩ | ⟨m, hm, -⟩
    · simp [columns, hm, hs] at hidx
    · rw [length_columns_of_master hm] at hidx
      cases idx with
      | zero =>
        simpa only [hm] using h.refocus (.inl ⟨rfl, by simp [hm]⟩) (.inl rfl)
      | succ i =>
        simpa only [hm] using h.refocus (.inr ⟨i, by omega, rfl⟩) (.inl rfl)

/-- Removing any column of a well-formed space returns it and leaves the others. -/
theorem takeColumnAt_spec (h : s.WellFormed) (clock : Clock) {i : ℕ}
    (hi : i < s.columns.length) :
    Returns (s.takeColumnAt clock i) fun r => Detached s i r.1 r.2 := by
  unfold takeColumnAt
  simp only [returns_bind, returns_pure]
  exact (detachColumnAt_spec h hi).mono fun r hr => hr.congr (by simp)

end ScrollingSpace

end Sol
