import Sol.Takeovers

/-!
# Takeovers and the focus

A takeover hides every other column, and so its column should be the focused one.
Removals, moves and additions with activation see to that: an added column ends
every takeover, and the others keep the focus on its window.  A focus move does
not: it leaves the takeover where it is and the keyboard goes to a hidden window.

* `step_leavesSlot`: which focus moves leave a slot;
* `focusedTakeover_iff`: the column that takes over is the focused one as long as
  no focus move leaves its slot.
-/

namespace Sol

open Panicking

namespace ScrollingSpace

variable {W Id : Type} [LayoutElement W Id] {s t : ScrollingSpace W}

open Column

/-- The column that takes over is the focused one. -/
def FocusedTakeover (s : ScrollingSpace W) : Prop :=
  ∀ i area, s.takeover = some (i, area) → s.activeColumnIdxInternal = some i

/-- The windows that take over are the focused one. -/
def Watched (s : ScrollingSpace W) : Prop :=
  ∀ c ∈ s.columns, c.takesOver = true → s.activeId = some c.windowId

theorem Watched.focusedTakeover (h : s.WellFormed) (hnodup : s.windowIds.Nodup)
    (hw : Watched s) : FocusedTakeover s := by
  intro i area htake
  obtain ⟨c, hc, htakes⟩ := takesOver_of_takeover htake
  have hactive := hw c (List.mem_of_getElem? hc) htakes
  rw [← h.focused_row] at hactive
  obtain ⟨j, hj, hid⟩ := Option.bind_eq_some_iff.mp hactive
  have hi : s.windowIds[i]? = some c.windowId := by simp [windowIds, hc]
  have hlt := (List.getElem?_eq_some_iff.mp hi).1
  exact (FocusList.position_unique hnodup hlt).mp (hid.trans hi.symm) ▸ hj

/-- Without a takeover there is nothing to watch. -/
theorem watched_of_takeover_none (h : s.takeover = none) : Watched s := by
  intro c hc htakes
  have := takeover_isSome hc htakes
  simp [h] at this

/-- Windows that may have ended their takeovers are watched as before. -/
theorem Watched.of_traced (hw : Watched s) {R : Column W → Column W → Prop}
    (ht : Traced R s.columns t.columns) (hactive : t.activeId = s.activeId)
    (hid : ∀ c d, R c d → d.windowId = c.windowId)
    (htakes : ∀ c d, R c d → d.takesOver = true →
      c.takesOver = true ∨ s.activeId = some c.windowId) : Watched t := by
  intro d hd hdt
  obtain ⟨c, hc, hcd⟩ := ht d hd
  rw [hactive, hid c d hcd]
  exact (htakes c d hcd hdt).elim (hw c hc) id

/-! ### Steps -/

variable [DecidableEq Id]

/-- Whether a focus move leaves the slot `i`, if it is the focused one. -/
def Op.LeavesSlot (s : ScrollingSpace W) (i : ℕ) : Op W Id → Prop
  | .activateWindow window => ∃ j ∈ s.position window, j ≠ i
  | .focusLeft => 0 < i
  | .focusRight => i = 0 ∧ 1 < s.columns.length
  | .focusColumnFirst => 0 < i
  | .focusColumnLast => i + 1 < s.columns.length
  | .focusColumn index => index < s.columns.length ∧ index ≠ i
  | .focusDown => i + 1 < s.columns.length
  | .focusUp => 1 < i
  | .focusDownOrLeft => i + 1 < s.columns.length ∨ 0 < i
  | .focusDownOrRight => i + 1 < s.columns.length
  | .focusUpOrLeft => 0 < i
  | .focusUpOrRight => 1 < i ∨ i = 0 ∧ 1 < s.columns.length
  | .focusTop => 1 < i
  | .focusBottom => i + 1 < s.columns.length
  | _ => False

instance (s : ScrollingSpace W) (i : ℕ) (op : Op W Id) : Decidable (op.LeavesSlot s i) := by
  apply Op.casesOn (motive := fun op => Decidable (op.LeavesSlot s i)) op <;> intros <;>
    unfold Op.LeavesSlot <;> infer_instance

section Slot

variable {i : ℕ}

omit [DecidableEq Id] in
theorem WellFormed.slot_cases (h : s.WellFormed) (hi : s.activeColumnIdxInternal = some i) :
    ∃ m, s.master = some m ∧ s.columns.length = s.stack.length + 1 ∧
      (s.focus = .master ∧ i = 0 ∨ ∃ k < s.stack.length, s.focus = .stack k ∧ i = k + 1) := by
  rcases h.cases with ⟨-, -, hf⟩ | ⟨m, hm, hf⟩
  · simp [activeColumnIdxInternal, hf] at hi
  · refine ⟨m, hm, length_columns_of_master hm, ?_⟩
    rcases hf with hf | ⟨k, hk, hf⟩ <;> simp only [activeColumnIdxInternal, hf, Option.some.injEq] at hi
    · exact .inl ⟨hf, hi.symm⟩
    · exact .inr ⟨k, hk, hf, hi.symm⟩

omit [DecidableEq Id] in
theorem focusLeft_slot (h : s.WellFormed) (hi : s.activeColumnIdxInternal = some i) :
    s.focusLeft.1.activeColumnIdxInternal = some 0 := by
  obtain ⟨m, hm, -, ⟨hf, rfl⟩ | ⟨k, -, hf, -⟩⟩ := h.slot_cases hi
  · simpa [focusLeft, hf] using hi
  · simp [focusLeft, hf, hm, activeColumnIdxInternal]

omit [DecidableEq Id] in
theorem focusRight_slot (h : s.WellFormed) (hi : s.activeColumnIdxInternal = some i) :
    s.focusRight.1.activeColumnIdxInternal =
      some (if i = 0 ∧ 1 < s.columns.length then s.rememberedRow + 1 else i) := by
  obtain ⟨m, hm, hlen, ⟨hf, rfl⟩ | ⟨k, -, hf, rfl⟩⟩ := h.slot_cases hi
  · cases hs : s.stack with
    | nil => simpa [focusRight, hf, hs, hlen] using hi
    | cons c l => simp [focusRight, hf, hs, hlen, activeColumnIdxInternal]
  · simpa [focusRight, hf] using hi

omit [DecidableEq Id] in
theorem focusDown_slot (h : s.WellFormed) (hi : s.activeColumnIdxInternal = some i) :
    s.focusDown = (s.focusDown.1, decide (i + 1 < s.columns.length)) ∧
      s.focusDown.1.activeColumnIdxInternal =
        some (if i + 1 < s.columns.length then i + 1 else i) := by
  obtain ⟨m, hm, hlen, ⟨hf, rfl⟩ | ⟨k, -, hf, rfl⟩⟩ := h.slot_cases hi
  · cases hs : s.stack with
    | nil => simpa [focusDown, hf, hs, hlen] using hi
    | cons c l => simp [focusDown, hf, hs, hlen, activeColumnIdxInternal]
  · by_cases hk : k + 1 < s.stack.length
    · simp [focusDown, hf, hlen, hk, activeColumnIdxInternal]
    · simpa [focusDown, hf, hlen, hk] using hi

omit [DecidableEq Id] in
theorem focusUp_slot (h : s.WellFormed) (hi : s.activeColumnIdxInternal = some i) :
    s.focusUp = (s.focusUp.1, decide (1 < i)) ∧
      s.focusUp.1.activeColumnIdxInternal = some (if 1 < i then i - 1 else i) := by
  obtain ⟨m, hm, hlen, ⟨hf, rfl⟩ | ⟨k, -, hf, rfl⟩⟩ := h.slot_cases hi
  · simpa [focusUp, hf] using hi
  · cases k with
    | zero => simpa [focusUp, hf] using hi
    | succ k => simp [focusUp, hf, activeColumnIdxInternal]

omit [DecidableEq Id] in
theorem focusColumnFirst_slot (h : s.WellFormed) (hi : s.activeColumnIdxInternal = some i) :
    s.focusColumnFirst.activeColumnIdxInternal = some 0 := by
  obtain ⟨m, hm, -⟩ := h.slot_cases hi
  simp [focusColumnFirst, hm, activeColumnIdxInternal]

omit [DecidableEq Id] in
theorem focusColumnLast_slot (h : s.WellFormed) (hi : s.activeColumnIdxInternal = some i) :
    s.focusColumnLast.activeColumnIdxInternal = some (s.columns.length - 1) := by
  obtain ⟨m, hm, hlen, -⟩ := h.slot_cases hi
  cases hs : s.stack <;> simp [focusColumnLast, hm, hs, hlen, activeColumnIdxInternal]

omit [DecidableEq Id] in
theorem focusColumn_slot (h : s.WellFormed) (hi : s.activeColumnIdxInternal = some i) (index : ℕ) :
    (s.focusColumn index).activeColumnIdxInternal =
      some (if index < s.columns.length then index else i) := by
  obtain ⟨m, hm, hlen, -⟩ := h.slot_cases hi
  cases index with
  | zero => simp [focusColumn, hm, hlen, activeColumnIdxInternal]
  | succ index =>
    by_cases hindex : index < s.stack.length
    · simp [focusColumn, hindex, hlen, activeColumnIdxInternal]
    · simpa [focusColumn, hindex, hlen] using hi

omit [DecidableEq Id] in
theorem focusTop_slot (h : s.WellFormed) (hi : s.activeColumnIdxInternal = some i) :
    s.focusTop.activeColumnIdxInternal = some (min i 1) := by
  obtain ⟨m, hm, -, ⟨hf, rfl⟩ | ⟨k, -, hf, rfl⟩⟩ := h.slot_cases hi
  · simpa [focusTop, hf] using hi
  · simp [focusTop, hf, activeColumnIdxInternal]

omit [DecidableEq Id] in
theorem focusBottom_slot (h : s.WellFormed) (hi : s.activeColumnIdxInternal = some i) :
    s.focusBottom.activeColumnIdxInternal = some (s.columns.length - 1) := by
  obtain ⟨m, hm, hlen, ⟨hf, rfl⟩ | ⟨k, hk, hf, rfl⟩⟩ := h.slot_cases hi
  · cases hs : s.stack with
    | nil => simpa [focusBottom, hs, hlen] using hi
    | cons c l => simp [focusBottom, hs, hlen, activeColumnIdxInternal]
  · cases hs : s.stack with
    | nil => simp [hs] at hk
    | cons c l => simp [focusBottom, hs, hlen, activeColumnIdxInternal]

theorem activateWindow_slot (h : s.WellFormed) (hi : s.activeColumnIdxInternal = some i)
    (window : Id) : (s.activateWindow window).1.activeColumnIdxInternal =
      some ((s.position window).getD i) := by
  obtain ⟨m, hm, -⟩ := h.slot_cases hi
  unfold activateWindow
  cases hp : s.position window with
  | none => simpa using hi
  | some j => cases j <;> simp [hm, activeColumnIdxInternal]

/-- A focus move leaves the slots that it should. -/
theorem step_leavesSlot (h : s.WellFormed) (clock : Clock) {op : Op W Id} (hop : op.IsFocus)
    (hi : s.activeColumnIdxInternal = some i) :
    Ensures (s.step clock op) fun t => t.activeColumnIdxInternal ≠ some i ↔ op.LeavesSlot s i := by
  obtain ⟨hdown, hdownSlot⟩ := focusDown_slot h hi
  obtain ⟨hup, hupSlot⟩ := focusUp_slot h hi
  have hlt := activeColumnIdx_lt h hi
  cases op <;> simp only [Op.IsFocus] at hop <;>
    simp only [step, ensures_pure, Op.LeavesSlot]
  case activateWindow window =>
    rw [activateWindow_slot h hi]
    cases s.position window <;> simp
  case focusLeft => simp [focusLeft_slot h hi]
  case focusRight =>
    rw [focusRight_slot h hi]
    split_ifs with hcond
    · simp [hcond]
    · simp [hcond]
  case focusColumnFirst => simp [focusColumnFirst_slot h hi]
  case focusColumnLast => simp [focusColumnLast_slot h hi]; omega
  case focusColumn index =>
    rw [focusColumn_slot h hi]
    split_ifs with hcond <;> simp [hcond]
  case focusDown =>
    rw [hdownSlot]
    split_ifs with hcond <;> simp [hcond]
  case focusUp =>
    rw [hupSlot]
    split_ifs with hcond
    · simp [hcond]; omega
    · simp [hcond]
  case focusDownOrLeft =>
    unfold focusDownOrLeft
    rw [hdown]
    by_cases hcond : i + 1 < s.columns.length
    · simp [hcond, hdownSlot]
    · simp [hcond, focusLeft_slot h hi]
  case focusDownOrRight =>
    unfold focusDownOrRight
    rw [hdown]
    by_cases hcond : i + 1 < s.columns.length
    · simp [hcond, hdownSlot]
    · have hright : ¬(i = 0 ∧ 1 < s.columns.length) := by omega
      simp [hcond, focusRight_slot h hi, hright]
  case focusUpOrLeft =>
    unfold focusUpOrLeft
    rw [hup]
    by_cases hcond : 1 < i
    · simp [hcond, hupSlot]; omega
    · simp [hcond, focusLeft_slot h hi]
  case focusUpOrRight =>
    unfold focusUpOrRight
    rw [hup]
    by_cases hcond : 1 < i
    · simp [hcond, hupSlot]; omega
    · rw [if_neg (by simpa using hcond), focusRight_slot h hi]
      split_ifs with hright
      · simp [hright]
      · simp [hcond, hright]
  case focusTop => simp [focusTop_slot h hi]
  case focusBottom => simp [focusBottom_slot h hi]; omega

end Slot

/-! ### Runs -/

/-- Whether an operation only adds windows with activation and only requests
takeovers of the focused one. -/
def Op.ActsOnFocus (s : ScrollingSpace W) (op : Op W Id) : Prop :=
  (∀ added ∈ op.addedWindow, added.2 = true) ∧
    ∀ request ∈ op.takeoverRequest, s.activeId = some request.1

/-- Whether an operation does not move the focus away from a column that takes over. -/
def Op.StaysAtTakeover (s : ScrollingSpace W) (op : Op W Id) : Prop :=
  ∀ taken ∈ s.takeover, ¬op.LeavesSlot s taken.1

/-- A removal keeps the focus on a window that takes over, unless it takes it out. -/
theorem step_removed_watched (h : s.WellFormed) (hnodup : s.windowIds.Nodup) (hw : Watched s)
    (clock : Clock) {op : Op W Id} (hop : op.Admissible s) {i : ℕ} (hi : op.removedIdx s = some i) :
    Ensures (s.step clock op) Watched := by
  refine ((step_removed h clock hop hi).ensures.and (step_removed_kept h clock hi)).mono ?_
  rintro t ⟨⟨removed, hd⟩, hkept⟩ d hd' hdt
  obtain ⟨c, hc, hcd⟩ := hkept.columns d hd'
  obtain ⟨j, hji, hj⟩ := List.mem_eraseIdx_iff_getElem?.mp hc
  have hactive := hw c (List.mem_of_mem_eraseIdx hc) (hcd.sameFlags.takesOver_eq ▸ hdt)
  rw [hcd.sameFlags.windowId_eq, hd.activeId_eq h ?_, hactive]
  intro hfocus
  rw [← h.focused_row] at hactive
  have hid : s.windowIds[i]? = some c.windowId := by
    simpa [FocusList.focused, row, hfocus] using hactive
  have hjd : s.windowIds[j]? = some c.windowId := by simp [windowIds, hj]
  exact hji ((FocusList.position_unique hnodup (List.getElem?_eq_some_iff.mp hid).1).mp
    (hjd.trans hid.symm))

/-- An added window that is activated is the one to watch. -/
theorem step_added_watched (h : s.WellFormed) (clock : Clock) {op : Op W Id} {window : Id}
    (hadded : op.addedWindow = some (window, true)) : Ensures (s.step clock op) Watched := by
  obtain ⟨t, ht, hwf, hrow, -⟩ := step_added h clock hadded
  have hactive : t.activeId = some window := by
    rw [← hwf.focused_row, hrow]
    simp [FocusList.append, FocusList.focused]
  intro t' ht' d hd hdt
  obtain rfl : t = t' := by
    rw [ht] at ht'
    exact Except.ok.inj ht'
  rw [hactive, step_added_alone h clock hadded t ht d hd hdt]

/-- A request for the focused window is watched. -/
theorem step_requested_watched (h : s.WellFormed) (hw : Watched s) (clock : Clock) {op : Op W Id}
    {window : Id} {value : Bool} (hrequest : op.takeoverRequest = some (window, value))
    (hfocused : s.activeId = some window) : Ensures (s.step clock op) Watched := by
  have hsteady : Returns (s.step clock op) (Moved s) := by
    cases op <;> simp only [Op.takeoverRequest, reduceCtorEq] at hrequest <;>
      exact step_steady h clock rfl rfl (by simp [Op.IsFocus]) trivial
  refine (hsteady.ensures.and (step_requested h clock hrequest)).mono fun t hboth => ?_
  obtain ⟨hmoved, ht⟩ := hboth
  refine hw.of_traced ht hmoved.activeId_eq (fun c d hcd => hcd.windowId_eq) fun c d hcd hd => ?_
  rcases hcd.takesOver hd with hc | ⟨-, rfl⟩
  · exact .inl hc
  · exact .inr hfocused

/-- A focus move keeps the focus on what takes over exactly if it stays there. -/
theorem step_focused_watched (h : s.WellFormed) (hnodup : s.windowIds.Nodup) (hw : Watched s)
    (clock : Clock) {op : Op W Id} (hfocus : op.IsFocus) (hop : op.Callable s) :
    Returns (s.step clock op) fun t => (FocusedTakeover t ↔ op.StaysAtTakeover s) ∧
      (op.StaysAtTakeover s → Watched t) := by
  have hspec := step_refocused (s := s) clock hfocus
  cases htake : s.takeover with
  | none =>
    refine ((step_nodup h hnodup clock hop).and_ensures hspec).mono ?_
    rintro t ⟨-, focus, row, ht⟩
    have hnone : t.takeover = none := by rw [← htake, ht]; rfl
    refine ⟨iff_of_true ?_ ?_, fun _ => watched_of_takeover_none hnone⟩
    · intro i area htaken
      simp [hnone] at htaken
    · intro taken htaken
      simp [htake] at htaken
  | some taken =>
    obtain ⟨i, area⟩ := taken
    have hactive := hw.focusedTakeover h hnodup i area htake
    have hstays : op.StaysAtTakeover s ↔ ¬op.LeavesSlot s i := by simp [Op.StaysAtTakeover, htake]
    refine ((step_nodup h hnodup clock hop).and_ensures
      (hspec.and (step_leavesSlot h clock hfocus hactive))).mono ?_
    rintro t ⟨⟨hwf, -⟩, ⟨focus, memory, ht⟩, hleaves⟩
    have hsame : t.takeover = s.takeover := by rw [ht]; rfl
    have hcols : t.columns = s.columns := by rw [ht]; rfl
    rw [hstays, ← hleaves, not_not]
    constructor
    · rw [FocusedTakeover, hsame, htake]
      simp
    · intro hslot c hc htakes
      have hrow : t.row = s.row := by
        unfold ScrollingSpace.row windowIds
        rw [hslot, hactive, hcols]
      rw [← hwf.focused_row, hrow, h.focused_row]
      exact hw c (hcols ▸ hc) htakes

/-- A step keeps the focus on what takes over exactly if it does not move it away. -/
theorem step_watched (h : s.WellFormed) (hnodup : s.windowIds.Nodup) (hw : Watched s)
    (clock : Clock) {op : Op W Id} (hop : op.Callable s) (hacts : op.ActsOnFocus s) :
    Returns (s.step clock op) fun t => (FocusedTakeover t ↔ op.StaysAtTakeover s) ∧
      (op.StaysAtTakeover s → Watched t) := by
  by_cases hfocus : op.IsFocus
  · exact step_focused_watched h hnodup hw clock hfocus hop
  · have hstay : op.StaysAtTakeover s := by
      intro taken _ hleaves
      cases op <;> simp_all [Op.LeavesSlot, Op.IsFocus]
    have hwatched : Ensures (s.step clock op) Watched := by
      cases hremoved : op.removedIdx s with
      | some i => exact step_removed_watched h hnodup hw clock hop.1 hremoved
      | none =>
        cases hadded : op.addedWindow with
        | some added =>
          obtain ⟨window, activate⟩ := added
          obtain rfl : activate = true := hacts.1 _ hadded
          exact step_added_watched h clock hadded
        | none =>
          cases hrequest : op.takeoverRequest with
          | some request => exact step_requested_watched h hw clock hrequest (hacts.2 _ hrequest)
          | none =>
            refine ((step_steady h clock hremoved hadded hfocus hop.1).ensures.and
              (step_traced h clock hadded hrequest hop.1)).mono fun t hboth => ?_
            obtain ⟨hmoved, ht⟩ := hboth
            exact hw.of_traced ht hmoved.activeId_eq (fun c d hcd => hcd.windowId_eq)
              fun c d hcd hd => .inl (hcd.takesOver_eq ▸ hd)
    refine ((step_nodup h hnodup clock hop).and_ensures hwatched).mono fun t hboth => ?_
    obtain ⟨ht, hwt⟩ := hboth
    exact ⟨iff_of_true (hwt.focusedTakeover ht.1 ht.2) hstay, fun _ => hwt⟩

/-- In every run in which no focus move leaves a takeover, the column that takes
over is the focused one; and a step keeps it so exactly if it keeps to that. -/
theorem focusedTakeover_iff :
    (∀ s : ScrollingSpace W, (machine W Id).ReachableBy
        (fun s a => a.2.Callable s ∧ a.2.ActsOnFocus s ∧ a.2.StaysAtTakeover s) s →
          FocusedTakeover s) ∧
      ∀ (s : ScrollingSpace W) (a : Clock × Op W Id), (machine W Id).ReachableBy
          (fun s a => a.2.Callable s ∧ a.2.ActsOnFocus s ∧ a.2.StaysAtTakeover s) s →
        a.2.Callable s → a.2.ActsOnFocus s →
          Returns ((machine W Id).step s a) fun t => FocusedTakeover t ↔ a.2.StaysAtTakeover s := by
  have hrun : ∀ s : ScrollingSpace W, (machine W Id).ReachableBy
      (fun s a => a.2.Callable s ∧ a.2.ActsOnFocus s ∧ a.2.StaysAtTakeover s) s →
        (s.WellFormed ∧ s.windowIds.Nodup) ∧ Watched s := by
    intro s hs
    refine Machine.ReachableBy.invariant
      (P := fun s => (s.WellFormed ∧ s.windowIds.Nodup) ∧ Watched s) hs ?_ ?_
    · rintro s ⟨viewSize, parentArea, scale, options, rfl⟩
      exact ⟨⟨wellFormed_new viewSize parentArea scale options, List.nodup_nil⟩,
        fun c hc => absurd hc List.not_mem_nil⟩
    · rintro s a ⟨⟨hwf, hnodup⟩, hw⟩ ⟨hcallable, hacts, hstays⟩
      have hstep := step_watched hwf hnodup hw a.1 hcallable hacts
      exact ((step_nodup hwf hnodup a.1 hcallable).ensures.and hstep.ensures).mono
        fun t ht => ⟨ht.1, ht.2.2 hstays⟩
  constructor
  · intro s hs
    obtain ⟨⟨hwf, hnodup⟩, hw⟩ := hrun s hs
    exact hw.focusedTakeover hwf hnodup
  · intro s a hs hcallable hacts
    obtain ⟨⟨hwf, hnodup⟩, hw⟩ := hrun s hs
    exact (step_watched hwf hnodup hw a.1 hcallable hacts).mono fun t ht => ht.1

instance (s : ScrollingSpace W) (op : Op W Id) : Decidable (op.ActsOnFocus s) := by
  unfold Op.ActsOnFocus
  infer_instance

instance (s : ScrollingSpace W) (op : Op W Id) : Decidable (op.StaysAtTakeover s) := by
  unfold Op.StaysAtTakeover
  infer_instance

/-- Two windows, the second one fullscreen, and the focus goes to the first. -/
theorem not_focusedTakeover : ∃ s : ScrollingSpace Sample.Toplevel,
    (machine Sample.Toplevel ℕ).ReachableBy (fun s a => a.2.Callable s ∧ a.2.ActsOnFocus s) s ∧
      ¬FocusedTakeover s := by
  obtain ⟨s, hs, hp⟩ := Machine.exists_reachableBy (M := machine Sample.Toplevel ℕ)
    (p := fun s => decide (s.takeover.map (·.1) = some 1 ∧ s.activeColumnIdxInternal = some 0))
    (Sample.takeovers [.setFullscreen 2 true, .focusLeft]) ⟨_, _, _, _, rfl⟩
    (show ((machine Sample.Toplevel ℕ).run (fun s a => a.2.Callable s ∧ a.2.ActsOnFocus s)
      (.new ⟨1920, 1080⟩ ⟨⟨0, 0⟩, ⟨1920, 1080⟩⟩ 1 Sample.options) _).any _ = true by decide +kernel)
  refine ⟨s, hs, fun h => ?_⟩
  obtain ⟨htake, hactive⟩ := of_decide_eq_true hp
  obtain ⟨⟨i, area⟩, htaken, rfl⟩ := Option.map_eq_some_iff.mp htake
  simp [h _ _ htaken] at hactive

/-- The takeover ends before the focus moves, and the other window takes over. -/
theorem focusedTakeover_iff_two : ∃ s : ScrollingSpace Sample.Toplevel, FocusedTakeover s ∧
    s.takeover.map (·.1) = some 0 := by
  obtain ⟨s, hs, hp⟩ := Machine.exists_reachableBy (M := machine Sample.Toplevel ℕ)
    (p := fun s => decide (s.takeover.map (·.1) = some 0))
    (Sample.takeovers [.setFullscreen 2 true, .setFullscreen 2 false, .focusLeft,
      .setMaximized 1 true])
    ⟨_, _, _, _, rfl⟩
    (show ((machine Sample.Toplevel ℕ).run
      (fun s a => a.2.Callable s ∧ a.2.ActsOnFocus s ∧ a.2.StaysAtTakeover s)
      (.new ⟨1920, 1080⟩ ⟨⟨0, 0⟩, ⟨1920, 1080⟩⟩ 1 Sample.options) _).any _ = true by decide +kernel)
  exact ⟨s, focusedTakeover_iff.1 s hs, of_decide_eq_true hp⟩

end ScrollingSpace

end Sol
