import Sol.Machine
import Sol.MasterStack

/-!
# Runs of the tiling space

The operations of the tiling space as steps, and what holds along every run of
them: the representation stays well formed and no step panics.
-/

namespace Sol

open Panicking

namespace ScrollingSpace

/-- The operations of the tiling space. -/
inductive Op (W Id : Type)
  | addTile (tile : Tile W) (activate : Bool) (width : ColumnWidth) (isFullWidth : Bool)
  | addTileToColumn (tile : Tile W) (activate : Bool)
  | addTileRightOf (tile : Tile W) (activate : Bool) (width : ColumnWidth) (isFullWidth : Bool)
  | addColumn (column : Column W) (activate : Bool)
  | removeActiveTile
  | removeTile (window : Id)
  | removeTileByIdx (columnIdx : ℕ)
  | removeActiveColumn
  | removeColumnByIdx (columnIdx : ℕ)
  | activateWindow (window : Id)
  | focusLeft
  | focusRight
  | focusColumnFirst
  | focusColumnLast
  | focusColumn (index : ℕ)
  | focusDown
  | focusUp
  | focusDownOrLeft
  | focusDownOrRight
  | focusUpOrLeft
  | focusUpOrRight
  | focusTop
  | focusBottom
  | moveLeft
  | moveRight
  | moveDown
  | moveUp
  | moveLeftAnimated
  | moveRightAnimated
  | moveDownAnimated
  | moveUpAnimated
  | moveColumnToFirst
  | moveColumnToLast
  | swapWindowInDirection (direction : ScrollDirection)
  | updateConfig (viewSize : Size) (parentArea : Rect) (scale : ℚ) (options : Options)
  | nudgeMasterRatio (delta : ℚ)
  | setFullscreen (window : Id) (isFullscreen : Bool)
  | setMaximized (window : Id) (maximize : Bool)
  | updateWindow (window : Id) (serial : Option ℕ)
  | advanceAnimations
  | refresh (isActive isFocused : Bool)

variable {W Id : Type} [LayoutElement W Id] {s t : ScrollingSpace W}

/-! ### What a step does -/

/-- A step rearranges the columns, adds one at the end or takes one out. -/
inductive Stepped (s t : ScrollingSpace W) : Prop
  | rearranged (h : Rearranged s t)
  | added (window : Id) (activate : Bool) (wellFormed : t.WellFormed)
      (row_eq : t.row = s.row.append window activate)
      (lastStackIdx_eq : t.lastStackIdx = s.lastStackIdx)
      (length_stack : s.stack.length ≤ t.stack.length)
  | removed (i : ℕ) (column : Column W) (h : Detached s i column t)

theorem Stepped.wellFormed (h : Stepped s t) : t.WellFormed := by
  cases h with
  | rearranged h => exact h.wellFormed
  | added _ _ h _ _ _ => exact h
  | removed _ _ h => exact h.wellFormed

/-! ### Steps -/

variable [DecidableEq Id]

/-- One operation, at the time the clock shows. -/
def step (clock : Clock) (s : ScrollingSpace W) : Op W Id → Outcome (ScrollingSpace W)
  | .addTile tile activate width isFullWidth => pure (s.addTile tile activate width isFullWidth)
  | .addTileToColumn tile activate => pure (s.addTileToColumn tile activate)
  | .addTileRightOf tile activate width isFullWidth =>
    pure (s.addTileRightOf tile activate width isFullWidth)
  | .addColumn column activate => pure (s.addColumn column activate)
  | .removeActiveTile => do return (← s.removeActiveTile clock).2
  | .removeTile window => do return (← s.removeTile clock window).2
  | .removeTileByIdx columnIdx => do return (← s.removeTileByIdx clock columnIdx).2
  | .removeActiveColumn => do return (← s.removeActiveColumn clock).2
  | .removeColumnByIdx columnIdx => do return (← s.removeColumnByIdx clock columnIdx).2
  | .activateWindow window => pure (s.activateWindow window).1
  | .focusLeft => pure s.focusLeft.1
  | .focusRight => pure s.focusRight.1
  | .focusColumnFirst => pure s.focusColumnFirst
  | .focusColumnLast => pure s.focusColumnLast
  | .focusColumn index => pure (s.focusColumn index)
  | .focusDown => pure s.focusDown.1
  | .focusUp => pure s.focusUp.1
  | .focusDownOrLeft => pure s.focusDownOrLeft
  | .focusDownOrRight => pure s.focusDownOrRight
  | .focusUpOrLeft => pure s.focusUpOrLeft
  | .focusUpOrRight => pure s.focusUpOrRight
  | .focusTop => pure s.focusTop
  | .focusBottom => pure s.focusBottom
  | .moveLeft => do return (← s.moveLeft).1
  | .moveRight => do return (← s.moveRight).1
  | .moveDown => do return (← s.moveDown).1
  | .moveUp => do return (← s.moveUp).1
  | .moveLeftAnimated => do return (← s.moveLeftAnimated clock).1
  | .moveRightAnimated => do return (← s.moveRightAnimated clock).1
  | .moveDownAnimated => do return (← s.moveDownAnimated clock).1
  | .moveUpAnimated => do return (← s.moveUpAnimated clock).1
  | .moveColumnToFirst => s.moveColumnToFirst
  | .moveColumnToLast => s.moveColumnToLast
  | .swapWindowInDirection direction => s.swapWindowInDirection direction
  | .updateConfig viewSize parentArea scale options =>
    pure (s.updateConfig viewSize parentArea scale options)
  | .nudgeMasterRatio delta => pure (s.nudgeMasterRatio clock delta)
  | .setFullscreen window isFullscreen => do return (← s.setFullscreen window isFullscreen).1
  | .setMaximized window maximize => do return (← s.setMaximized window maximize).1
  | .updateWindow window serial => pure (s.updateWindow window serial)
  | .advanceAnimations => pure (s.advanceAnimations clock)
  | .refresh isActive isFocused => pure (s.refresh isActive isFocused)

/-- What the callers of an operation see to: a window or a column that is to be
removed is there. -/
def Op.Admissible (s : ScrollingSpace W) : Op W Id → Prop
  | .removeTile window => window ∈ s.windowIds
  | .removeTileByIdx columnIdx => columnIdx < s.columns.length
  | .removeColumnByIdx columnIdx => columnIdx < s.columns.length
  | _ => True

instance (s : ScrollingSpace W) (op : Op W Id) : Decidable (op.Admissible s) := by
  cases op <;> unfold Op.Admissible <;> infer_instance

/-- The tiling space as a machine; an action is an operation and the time it is done at. -/
def machine (W Id : Type) [LayoutElement W Id] [DecidableEq Id] :
    Machine (ScrollingSpace W) (Clock × Op W Id) where
  initial s := ∃ viewSize parentArea scale options, s = new viewSize parentArea scale options
  step s a := s.step a.1 a.2

/-- The spaces that runs from an empty one reach. -/
def Reachable (s : ScrollingSpace W) : Prop :=
  (machine W Id).ReachableBy (fun s a => a.2.Admissible s) s

/-! ### Removals -/

theorem removeTileByIdx_spec (h : s.WellFormed) (clock : Clock) {i : ℕ}
    (hi : i < s.columns.length) :
    Returns (s.removeTileByIdx clock i) fun r => ∃ c, c.tile = r.1.tile ∧ Detached s i c r.2 := by
  unfold removeTileByIdx
  simp only [returns_bind, returns_pure]
  exact (takeColumnAt_spec h clock hi).mono fun r hr => ⟨r.1, rfl, hr⟩

theorem position_of_mem {window : Id} (h : window ∈ s.windowIds) :
    ∃ i < s.columns.length, s.position window = some i ∧ s.windowIds[i]? = some window := by
  obtain ⟨col, hcol, hid⟩ := List.mem_map.mp h
  have hsome : (s.position window).isSome := by
    rw [position, List.findIdx?_isSome, List.any_eq_true]
    exact ⟨col, hcol, by simpa using hid⟩
  obtain ⟨i, hi⟩ := Option.isSome_iff_exists.mp hsome
  obtain ⟨hlt, hp, -⟩ := List.findIdx?_eq_some_iff_getElem.mp hi
  refine ⟨i, hlt, hi, ?_⟩
  rw [windowIds, List.getElem?_map, List.getElem?_eq_getElem hlt]
  simpa using hp

theorem removeTile_spec (h : s.WellFormed) (clock : Clock) {window : Id}
    (hw : window ∈ s.windowIds) :
    Returns (s.removeTile clock window) fun r =>
      ∃ i c, s.position window = some i ∧ c.tile = r.1.tile ∧ Detached s i c r.2 := by
  obtain ⟨i, hi, hp, -⟩ := position_of_mem hw
  unfold removeTile
  simp only [returns_bind, returns_expect]
  refine ⟨i, hp, (removeTileByIdx_spec h clock hi).mono fun r hr => ?_⟩
  obtain ⟨c, hc, hd⟩ := hr
  exact ⟨i, c, hp, hc, hd⟩

theorem focusedColumn_mem {col : Column W} (h : s.focusedColumn = some col) :
    col ∈ s.columns := by
  unfold focusedColumn at h
  unfold columns
  cases hf : s.focus with
  | empty => simp [hf] at h
  | master => simp [hf] at h; simp [h]
  | stack i =>
    simp only [hf] at h
    exact List.mem_append_right _ (List.mem_of_getElem? h)

theorem activeColumnIdx_lt (h : s.WellFormed) {i : ℕ} (hi : s.activeColumnIdxInternal = some i) :
    i < s.columns.length := by
  rcases h.cases with ⟨-, -, hf⟩ | ⟨m, hm, hf | ⟨k, hk, hf⟩⟩
  · simp [activeColumnIdxInternal, hf] at hi
  · simp [activeColumnIdxInternal, hf] at hi
    simp [length_columns_of_master hm, ← hi]
  · simp [activeColumnIdxInternal, hf] at hi
    simp [length_columns_of_master hm, ← hi, hk]

/-! ### Springs, sizes and modes -/

/-- Springs do not change what a swap does to the slots. -/
theorem swapWithSpring_moved (clock : Clock)
    {mutate : ScrollingSpace W → Outcome (ScrollingSpace W × Bool)}
    (hmutate : Returns (mutate s) fun r => Moved s r.1) :
    Returns (s.swapWithSpring clock mutate) fun r => Moved s r.1 := by
  unfold swapWithSpring
  simp only [returns_bind]
  refine hmutate.mono fun r hr => ?_
  obtain ⟨u, changed⟩ := r
  cases changed with
  | true => simpa using hr.congr (by simp)
  | false => simpa using hr

theorem nudgeMasterRatio_moved (h : s.WellFormed) (clock : Clock) (delta : ℚ) :
    Moved s (s.nudgeMasterRatio clock delta) := by
  unfold nudgeMasterRatio
  dsimp only
  split_ifs
  · exact h.moved_refl
  · have hratio : ({ s with masterRatio := clamp (15 / 100) (85 / 100) (s.masterRatio + delta) } :
        ScrollingSpace W).WellFormed := by
      refine wellFormed_iff.mpr ⟨?_, (wellFormed_iff.mp h).2⟩
      exact ⟨le_min (le_max_right _ _) (by norm_num), min_le_right _ _⟩
    exact Moved.congr ⟨⟨hratio, .refl _, rfl, .inl rfl⟩, rfl⟩ (by simp)

theorem columnByUnifiedIdx_isSome (h : s.WellFormed) {i : ℕ} (hi : i < s.columns.length) :
    (s.columnByUnifiedIdx i).isSome := by
  rcases h.cases with ⟨hm, hs, -⟩ | ⟨m, hm, -⟩
  · simp [columns, hm, hs] at hi
  · rw [length_columns_of_master hm] at hi
    cases i with
    | zero => simp [columnByUnifiedIdx, hm]
    | succ i => simpa [columnByUnifiedIdx] using Nat.lt_of_succ_lt_succ hi

theorem columnByUnifiedIdx_eq (h : s.WellFormed) (i : ℕ) :
    s.columnByUnifiedIdx i = s.columns[i]? := by
  unfold columnByUnifiedIdx columns
  rcases h.cases with ⟨hm, hs, -⟩ | ⟨m, hm, -⟩
  · simp [hm, hs]
  · cases i with
    | zero => simp [hm]
    | succ i => simp [hm]

theorem position_lt {window : Id} {i : ℕ} (h : s.position window = some i) :
    i < s.columns.length := (List.findIdx?_eq_some_iff_getElem.mp h).1

theorem setFullscreen_moved (h : s.WellFormed) (window : Id) (isFullscreen : Bool) :
    Returns (s.setFullscreen window isFullscreen) fun r => Moved s r.1 := by
  unfold setFullscreen
  cases hp : s.position window with
  | none => simpa using h.moved_refl
  | some i =>
    obtain ⟨col, hcol⟩ := Option.isSome_iff_exists.mp (columnByUnifiedIdx_isSome h (position_lt hp))
    simp only [returns_bind, returns_expect, hcol, Option.some.injEq, exists_eq_left', returns_pure]
    have hslots : (s.modifyColumnAt i fun col => (col.setFullscreen isFullscreen).1).slots =
        s.slots := slots_modifyColumnAt s (fun col => Column.windowId_setFullscreen col _) i
    apply h.moved_of_slots
    cases isFullscreen <;> simp [hslots]

theorem setMaximized_moved (h : s.WellFormed) (window : Id) (maximize : Bool) :
    Returns (s.setMaximized window maximize) fun r => Moved s r.1 := by
  unfold setMaximized
  cases hp : s.position window with
  | none => simpa using h.moved_refl
  | some i =>
    obtain ⟨col, hcol⟩ := Option.isSome_iff_exists.mp (columnByUnifiedIdx_isSome h (position_lt hp))
    simp only [returns_bind, returns_expect, hcol, Option.some.injEq, exists_eq_left', returns_pure]
    have hslots : (s.modifyColumnAt i fun col =>
        (col.setMaximized maximize s.workingArea.size).1).slots = s.slots :=
      slots_modifyColumnAt s (fun col => Column.windowId_setMaximized col _ _) i
    apply h.moved_of_slots
    cases maximize <;> simp [hslots]

theorem updateWindow_moved (h : s.WellFormed) (window : Id) (serial : Option ℕ) :
    Moved s (s.updateWindow window serial) := by
  apply h.moved_of_slots
  refine (slots_modifyColumnById s (fun col => ?_) window).symm
  cases serial <;> simp [Column.windowId, Tile.windowId, Tile.updateWindow]

/-! ### Every step -/

/-- The column that an operation takes out. -/
def Op.removedIdx (s : ScrollingSpace W) : Op W Id → Option ℕ
  | .removeActiveTile => s.focusedColumn.bind fun col => s.position col.windowId
  | .removeTile window => s.position window
  | .removeTileByIdx columnIdx => some columnIdx
  | .removeActiveColumn => s.activeColumnIdxInternal
  | .removeColumnByIdx columnIdx => some columnIdx
  | _ => none

/-- The window that an operation adds, and whether it activates it. -/
def Op.addedWindow : Op W Id → Option (Id × Bool)
  | .addTile tile activate _ _ => some (tile.windowId, activate)
  | .addTileToColumn tile activate => some (tile.windowId, activate)
  | .addTileRightOf tile activate _ _ => some (tile.windowId, activate)
  | .addColumn column activate => some (column.windowId, activate)
  | _ => none

/-- An operation with a column to take out takes out that one. -/
theorem step_removed (h : s.WellFormed) (clock : Clock) {op : Op W Id} (hop : op.Admissible s)
    {i : ℕ} (hi : op.removedIdx s = some i) :
    Returns (s.step clock op) fun t => ∃ c, Detached s i c t := by
  have htile : ∀ window ∈ s.windowIds, s.position window = some i →
      Returns (s.removeTile clock window) fun r => ∃ c, Detached s i c r.2 := by
    intro window hw hp
    refine (removeTile_spec h clock hw).mono fun r hr => ?_
    obtain ⟨j, c, hj, -, hd⟩ := hr
    rw [hp, Option.some.injEq] at hj
    exact ⟨c, hj ▸ hd⟩
  cases op <;> simp only [Op.removedIdx, reduceCtorEq, Option.some.injEq] at hi
  case removeActiveTile =>
    obtain ⟨col, hc, hp⟩ := Option.bind_eq_some_iff.mp hi
    simp only [step, removeActiveTile, hc, returns_bind, returns_pure]
    exact htile _ (List.mem_map_of_mem (focusedColumn_mem hc)) hp
  case removeTile window =>
    simp only [step, returns_bind, returns_pure]
    exact htile window hop hi
  case removeTileByIdx columnIdx =>
    subst hi
    simp only [step, returns_bind, returns_pure]
    exact (removeTileByIdx_spec h clock hop).mono fun r hr => hr.imp fun _ hc => hc.2
  case removeActiveColumn =>
    simp only [step, removeActiveColumn, hi, returns_bind, returns_pure]
    exact (takeColumnAt_spec h clock (activeColumnIdx_lt h hi)).mono fun r hd => ⟨r.1, hd⟩
  case removeColumnByIdx columnIdx =>
    subst hi
    simp only [step, removeColumnByIdx, returns_bind, returns_pure]
    exact (takeColumnAt_spec h clock hop).mono fun r hd => ⟨r.1, hd⟩

/-- An operation with a window to add appends it. -/
theorem step_added (h : s.WellFormed) (clock : Clock) {op : Op W Id} {window : Id}
    {activate : Bool} (hw : op.addedWindow = some (window, activate)) :
    ∃ t, s.step clock op = .ok t ∧ t.WellFormed ∧ t.row = s.row.append window activate ∧
      t.lastStackIdx = s.lastStackIdx ∧ s.stack.length ≤ t.stack.length := by
  have hadd : ∀ col : Column W, col.windowId = window →
      (s.addColumn col activate).WellFormed ∧
        (s.addColumn col activate).row = s.row.append window activate ∧
        (s.addColumn col activate).lastStackIdx = s.lastStackIdx ∧
        s.stack.length ≤ (s.addColumn col activate).stack.length := by
    rintro col rfl
    obtain ⟨hwf, hrow⟩ := addColumn_spec h col activate
    exact ⟨hwf, hrow, lastStackIdx_addColumn col activate⟩
  cases op <;> simp only [Op.addedWindow, reduceCtorEq, Option.some.injEq, Prod.mk.injEq] at hw
  all_goals
    obtain ⟨hid, rfl⟩ := hw
    exact ⟨_, rfl, hadd _ (by simpa using hid)⟩

/-- The operations that move columns. -/
def Op.IsMove : Op W Id → Prop
  | .moveLeft | .moveRight | .moveDown | .moveUp => True
  | .moveLeftAnimated | .moveRightAnimated | .moveDownAnimated | .moveUpAnimated => True
  | .moveColumnToFirst | .moveColumnToLast | .swapWindowInDirection _ => True
  | _ => False

/-- A move moves the columns and keeps the focus on its window. -/
theorem step_moved (h : s.WellFormed) (clock : Clock) {op : Op W Id} (hop : op.IsMove) :
    Returns (s.step clock op) fun t => Moved s t := by
  cases op <;> simp only [Op.IsMove] at hop <;> simp only [step, returns_bind, returns_pure]
  case moveLeft => exact moveLeft_moved h
  case moveRight => exact moveRight_moved h
  case moveDown => exact moveDown_moved h
  case moveUp => exact moveUp_moved h
  case moveLeftAnimated => exact swapWithSpring_moved clock (moveLeft_moved h)
  case moveRightAnimated => exact swapWithSpring_moved clock (moveRight_moved h)
  case moveDownAnimated => exact swapWithSpring_moved clock (moveDown_moved h)
  case moveUpAnimated => exact swapWithSpring_moved clock (moveUp_moved h)
  case moveColumnToFirst => exact moveColumnToFirst_moved h
  case moveColumnToLast => exact moveColumnToLast_moved h
  case swapWindowInDirection direction => exact swapWindowInDirection_moved h direction

/-- The operations that only move the focus. -/
def Op.IsFocus : Op W Id → Prop
  | .activateWindow _ | .focusLeft | .focusRight | .focusColumnFirst | .focusColumnLast => True
  | .focusColumn _ | .focusDown | .focusUp | .focusDownOrLeft | .focusDownOrRight => True
  | .focusUpOrLeft | .focusUpOrRight | .focusTop | .focusBottom => True
  | _ => False

theorem step_focused (h : s.WellFormed) (clock : Clock) {op : Op W Id} (hop : op.IsFocus) :
    Returns (s.step clock op) fun t => Rearranged s t := by
  cases op <;> simp only [Op.IsFocus] at hop <;> simp only [step, returns_pure]
  case activateWindow window => exact activateWindow_rearranged h window
  case focusLeft => exact focusLeft_rearranged h
  case focusRight => exact focusRight_rearranged h
  case focusColumnFirst => exact focusColumnFirst_rearranged h
  case focusColumnLast => exact focusColumnLast_rearranged h
  case focusColumn index => exact focusColumn_rearranged h index
  case focusDown => exact focusDown_rearranged h
  case focusUp => exact focusUp_rearranged h
  case focusDownOrLeft => exact ite_rearranged (focusDown_rearranged h) (focusLeft_rearranged h)
  case focusDownOrRight => exact ite_rearranged (focusDown_rearranged h) (focusRight_rearranged h)
  case focusUpOrLeft => exact ite_rearranged (focusUp_rearranged h) (focusLeft_rearranged h)
  case focusUpOrRight => exact ite_rearranged (focusUp_rearranged h) (focusRight_rearranged h)
  case focusTop => exact focusTop_rearranged h
  case focusBottom => exact focusBottom_rearranged h

/-- An operation that neither adds, removes nor focuses keeps the focused window. -/
theorem step_steady (h : s.WellFormed) (clock : Clock) {op : Op W Id}
    (hremoved : op.removedIdx s = none) (hadded : op.addedWindow = none) (hfocus : ¬op.IsFocus)
    (hop : op.Admissible s) : Returns (s.step clock op) fun t => Moved s t := by
  by_cases hmove : op.IsMove
  · exact step_moved h clock hmove
  cases op <;> simp only [Op.IsMove, Op.IsFocus, not_true_eq_false] at hmove hfocus <;>
    simp only [Op.addedWindow, reduceCtorEq] at hadded <;>
    simp only [step, returns_pure, returns_bind]
  case removeActiveTile =>
    have hc : s.focusedColumn = none := by
      by_contra hne
      obtain ⟨col, hc⟩ := Option.ne_none_iff_exists'.mp hne
      obtain ⟨i, -, hp, -⟩ := position_of_mem (List.mem_map_of_mem (focusedColumn_mem hc))
      simp [Op.removedIdx, hc, hp] at hremoved
    simpa [removeActiveTile, hc] using h.moved_refl
  case removeTile window =>
    obtain ⟨i, -, hp, -⟩ := position_of_mem hop
    simp [Op.removedIdx, hp] at hremoved
  case removeTileByIdx columnIdx => simp [Op.removedIdx] at hremoved
  case removeActiveColumn =>
    have hnone : s.activeColumnIdxInternal = none := hremoved
    simpa [removeActiveColumn, hnone] using h.moved_refl
  case removeColumnByIdx columnIdx => simp [Op.removedIdx] at hremoved
  case updateConfig viewSize parentArea scale options =>
    exact updateConfig_moved h viewSize parentArea scale options
  case nudgeMasterRatio delta => exact nudgeMasterRatio_moved h clock delta
  case setFullscreen window isFullscreen => exact setFullscreen_moved h window isFullscreen
  case setMaximized window maximize => exact setMaximized_moved h window maximize
  case updateWindow window serial => exact updateWindow_moved h window serial
  case advanceAnimations => exact advanceAnimations_moved h clock
  case refresh isActive isFocused => exact refresh_moved h isActive isFocused

/-- An operation that neither adds nor removes rearranges the columns. -/
theorem step_rearranged (h : s.WellFormed) (clock : Clock) {op : Op W Id}
    (hremoved : op.removedIdx s = none) (hadded : op.addedWindow = none)
    (hop : op.Admissible s) : Returns (s.step clock op) fun t => Rearranged s t := by
  by_cases hfocus : op.IsFocus
  · exact step_focused h clock hfocus
  · exact (step_steady h clock hremoved hadded hfocus hop).mono fun t ht => ht.toRearranged

/-- Every admissible operation returns. -/
theorem step_stepped (h : s.WellFormed) (clock : Clock) {op : Op W Id} (hop : op.Admissible s) :
    Returns (s.step clock op) fun t => Stepped s t := by
  cases hremoved : op.removedIdx s with
  | some i =>
    exact (step_removed h clock hop hremoved).mono fun t ⟨c, hd⟩ => .removed i c hd
  | none =>
    cases hadded : op.addedWindow with
    | some added =>
      obtain ⟨t, ht, hwf, hrow, hlast, hlen⟩ := step_added h clock hadded
      exact ⟨t, ht, .added _ _ hwf hrow hlast hlen⟩
    | none => exact (step_rearranged h clock hremoved hadded hop).mono fun t ht => .rearranged ht

/-- Every reachable space is well formed. -/
theorem Reachable.wellFormed (h : Reachable s) : s.WellFormed := by
  refine Machine.ReachableBy.invariant h ?_ ?_
  · rintro s ⟨viewSize, parentArea, scale, options, rfl⟩
    exact wellFormed_new viewSize parentArea scale options
  · intro s a hs ha
    exact (step_stepped hs a.1 ha).ensures.mono fun t ht => ht.wellFormed

end ScrollingSpace

end Sol
