import Sol.SampleSpace

/-!
# The remembered stack row

Leaving the stack for the master remembers the row, so that the focus can come
back to it.  Nothing adjusts the remembered row when a column is taken out:

* it stays in range as long as no column is taken out while the last row is the
  remembered one;
* it leads back to its window exactly when no window above it has been closed
  in between, or when all of them have been and the stack has become too short
  for the row, so that the top row is taken instead.
-/

namespace Sol

open Panicking

namespace ScrollingSpace

variable {W Id : Type} [LayoutElement W Id] {s t : ScrollingSpace W}

/-- The remembered row is a row of the stack. -/
def MemoryInRange (s : ScrollingSpace W) : Prop :=
  ∀ k, s.lastStackIdx = some k → k < s.stack.length

theorem WellFormed.length_stack (h : s.WellFormed) : s.stack.length = s.windowIds.length - 1 := by
  rcases h.cases with ⟨hm, hs, -⟩ | ⟨m, hm, -⟩
  · simp [windowIds, columns, hm, hs]
  · simp [windowIds_of_master hm]

theorem Detached.length_stack (h : s.WellFormed) {i : ℕ} {c : Column W}
    (hd : Detached s i c t) : t.stack.length = s.stack.length - 1 := by
  have hlt : i < s.windowIds.length := by
    simpa [windowIds] using (List.getElem?_eq_some_iff.mp hd.removed_eq).1
  rw [hd.wellFormed.length_stack, hd.windowIds_eq, List.length_eraseIdx_of_lt hlt, h.length_stack]

theorem activeColumnIdx_eq_zero_iff : s.activeColumnIdxInternal = some 0 ↔ s.focus = .master := by
  unfold activeColumnIdxInternal
  cases s.focus <;> simp

/-- The active window of a focused stack row. -/
theorem WellFormed.activeId_of_stack (h : s.WellFormed) {i : ℕ} (hf : s.focus = .stack i) :
    s.activeId = s.windowIds[i + 1]? := by
  rw [← h.focused_row]
  simp [FocusList.focused, row, activeColumnIdxInternal, hf]

/-! ### What the memory stands for -/

/-- The master has the focus and row `k` is remembered, for a window that has moved
up to `row` because `above` windows above it have been closed. -/
structure Remembers (k : ℕ) (w : Id) (t : ScrollingSpace W) (row above : ℕ) : Prop where
  wellFormed : t.WellFormed
  focus_eq : t.focus = .master
  lastStackIdx_eq : t.lastStackIdx = some k
  row_add : row + above = k
  window_eq : t.windowIds[row + 1]? = some w

theorem Remembers.closed {k row above i : ℕ} {w : Id} {u : ScrollingSpace W} {c : Column W}
    (h : Remembers k w t row above) (hd : Detached t (i + 1) c u) {row' above' : ℕ}
    (hrow' : row' + above' = k) (hw : (t.windowIds.eraseIdx (i + 1))[row' + 1]? = some w) :
    Remembers k w u row' above' where
  wellFormed := hd.wellFormed
  focus_eq := by
    have hne : t.activeColumnIdxInternal ≠ some (i + 1) := by
      rw [activeColumnIdx_eq_zero_iff.mpr h.focus_eq]
      simp
    have hfocus := congrArg FocusList.focus (hd.row_eq hne)
    apply activeColumnIdx_eq_zero_iff.mp
    refine hfocus.trans ?_
    change t.activeColumnIdxInternal.map _ = _
    rw [activeColumnIdx_eq_zero_iff.mpr h.focus_eq]
    rfl
  lastStackIdx_eq := hd.lastStackIdx_eq.trans h.lastStackIdx_eq
  row_add := hrow'
  window_eq := hd.windowIds_eq ▸ hw

/-- Leaving row `k` for the master remembers it. -/
theorem WellFormed.remembers (h : s.WellFormed) {k : ℕ} {w : Id} (hf : s.focus = .stack k)
    (hw : s.activeId = some w) : Remembers k w s.focusLeft.1 k 0 := by
  have hleft : s.focusLeft.1 = { s with lastStackIdx := some k, focus := .master } := by
    obtain ⟨m, hm⟩ := h.master_of_row (h.focus_stack k hf)
    simp [focusLeft, hf, hm]
  have hwf := (focusLeft_rearranged h : @Rearranged W Id _ s _).wellFormed
  rw [hleft] at hwf ⊢
  exact ⟨hwf, rfl, rfl, rfl, (h.activeId_of_stack hf).symm.trans hw⟩

/-- Going right from the remembered state leads to the remembered row if it is
there, else to the top row. -/
theorem Remembers.focusRight {k row above : ℕ} {w : Id} (h : Remembers k w t row above) :
    t.focusRight.1.activeId = t.windowIds[(if k < t.stack.length then k else 0) + 1]? ∧
      row < t.stack.length := by
  have hlt := (List.getElem?_eq_some_iff.mp h.window_eq).1
  have hlen : t.stack.length = t.windowIds.length - 1 := h.wellFormed.length_stack
  have hrow : row < t.stack.length := by omega
  have hs : t.stack ≠ [] := List.ne_nil_of_length_pos (by omega)
  have hremembered : t.rememberedRow = if k < t.stack.length then k else 0 := by
    by_cases hk : k < t.stack.length <;> simp [rememberedRow, h.lastStackIdx_eq, Option.filter, hk]
  have hright : t.focusRight.1 = { t with focus := .stack t.rememberedRow } := by
    simp [ScrollingSpace.focusRight, h.focus_eq, hs]
  have hwf := (focusRight_rearranged h.wellFormed : @Rearranged W Id _ t _).wellFormed
  refine ⟨?_, hrow⟩
  rw [hright] at hwf ⊢
  rw [hwf.activeId_of_stack rfl, hremembered]
  rfl

/-- Going right finds the window again. -/
def ComesBack (t : ScrollingSpace W) (k above : ℕ) : Prop :=
  above = 0 ∨ above = k ∧ t.stack.length ≤ k

theorem Remembers.comesBack {k row above : ℕ} {w : Id} (h : Remembers k w t row above)
    (hback : ComesBack t k above) : t.focusRight.1.activeId = some w := by
  obtain ⟨hright, hrow⟩ := h.focusRight
  have hadd := h.row_add
  rw [hright, ← h.window_eq]
  rcases hback with hzero | ⟨hall, hlen⟩
  · rw [if_pos (by omega), show k = row by omega]
  · rw [if_neg (by omega), show row = 0 by omega]

theorem Remembers.comesBack_of_nodup {k row above : ℕ} {w : Id} (h : Remembers k w t row above)
    (hnodup : t.windowIds.Nodup) (hw : t.focusRight.1.activeId = some w) :
    ComesBack t k above := by
  obtain ⟨hright, hrow⟩ := h.focusRight
  have hadd := h.row_add
  have hsame : (if k < t.stack.length then k else 0) + 1 = row + 1 := by
    have heq := hright.symm.trans (hw.trans h.window_eq.symm)
    have hlt := (List.getElem?_eq_some_iff.mp h.window_eq).1
    exact ((List.getElem?_inj hlt hnodup).mp heq.symm).symm
  unfold ComesBack
  split_ifs at hsame <;> omega

/-! ### The memory along runs -/

variable [DecidableEq Id]

/-- No column is taken out while the last row is the remembered one. -/
def Op.SparesMemory (s : ScrollingSpace W) (op : Op W Id) : Prop :=
  ∀ i k, op.removedIdx s = some i → s.lastStackIdx = some k → k + 1 < s.stack.length

/-- After a step the remembered row is in range just when the step spared it. -/
theorem memoryInRange_step_iff (h : s.WellFormed) (hs : s.MemoryInRange) (clock : Clock)
    {op : Op W Id} (hop : op.Admissible s) (ht : s.step clock op = .ok t) :
    t.MemoryInRange ↔ op.SparesMemory s := by
  cases hremoved : op.removedIdx s with
  | some i =>
    obtain ⟨c, hd⟩ := (step_removed h clock hop hremoved).ensures _ ht
    unfold MemoryInRange Op.SparesMemory
    rw [hd.lastStackIdx_eq, hd.length_stack h, hremoved]
    constructor
    · intro hrange i k _ hk
      have := hrange k hk
      omega
    · intro hspares k hk
      have := hspares i k rfl hk
      omega
  | none =>
    have hspares : op.SparesMemory s := by
      intro i k hi
      simp [hremoved] at hi
    refine iff_of_true ?_ hspares
    intro k hk
    cases hadded : op.addedWindow with
    | some added =>
      obtain ⟨u, hu, -, -, hlast, hlen⟩ := step_added h clock hadded
      obtain rfl : u = t := Except.ok.inj (hu.symm.trans ht)
      have := hs k (hlast ▸ hk)
      omega
    | none =>
      have hre := (step_rearranged h clock hremoved hadded hop).ensures _ ht
      rcases hre.lastStackIdx with hlast | ⟨i, hi, hlast⟩
      · rw [hre.length_stack]
        exact hs k (hlast ▸ hk)
      · obtain rfl : i = k := Option.some.inj (hlast.symm.trans hk)
        exact hi

/-! ### Windows opened and closed while the master is focused -/

/-- From `s`, with a window in row `k`, windows are opened without activation and
other stack windows are closed.  In `t` the window is in `row`, and `above` of
the closed ones stood above it. -/
inductive Meanwhile (s : ScrollingSpace W) (k : ℕ) : ScrollingSpace W → ℕ → ℕ → Prop
  | start : Meanwhile s k s k 0
  | opened {t u : ScrollingSpace W} {row above : ℕ} (h : Meanwhile s k t row above)
      (clock : Clock) (op : Op W Id) (window : Id) (hop : op.addedWindow = some (window, false))
      (hu : t.step clock op = .ok u) : Meanwhile s k u row above
  | closedBelow {t u : ScrollingSpace W} {row above : ℕ} (h : Meanwhile s k t row above)
      (clock : Clock) (op : Op W Id) (hop : op.Admissible t) (j : ℕ)
      (hj : op.removedIdx t = some (j + 1)) (hrow : row < j) (hu : t.step clock op = .ok u) :
      Meanwhile s k u row above
  | closedAbove {t u : ScrollingSpace W} {row above : ℕ} (h : Meanwhile s k t row above)
      (clock : Clock) (op : Op W Id) (hop : op.Admissible t) (j : ℕ)
      (hj : op.removedIdx t = some (j + 1)) (hrow : j < row) (hu : t.step clock op = .ok u) :
      Meanwhile s k u (row - 1) (above + 1)

theorem Meanwhile.remembers {k row above : ℕ} {w : Id} (hs : Remembers k w s k 0)
    (h : Meanwhile s k t row above) : Remembers k w t row above := by
  induction h with
  | start => exact hs
  | @opened t u row above _ clock op window hop hu ih =>
    obtain ⟨v, hv, hwf, hrow, hlast, -⟩ := step_added ih.wellFormed clock hop
    obtain rfl : v = u := Except.ok.inj (hv.symm.trans hu)
    have hfocus := congrArg FocusList.focus hrow
    have hids : v.windowIds = t.windowIds ++ [window] := congrArg FocusList.items hrow
    have hactive := activeColumnIdx_eq_zero_iff.mpr ih.focus_eq
    refine ⟨hwf, ?_, hlast.trans ih.lastStackIdx_eq, ih.row_add, ?_⟩
    · apply activeColumnIdx_eq_zero_iff.mp
      refine hfocus.trans ?_
      change t.activeColumnIdxInternal.or (some 0) = _
      rw [hactive]
      rfl
    · have hlt := (List.getElem?_eq_some_iff.mp ih.window_eq).1
      rw [hids, List.getElem?_append_left hlt]
      exact ih.window_eq
  | closedBelow _ clock op hop j hj hrow hu ih =>
    obtain ⟨c, hd⟩ := (step_removed ih.wellFormed clock hop hj).ensures _ hu
    refine ih.closed hd ih.row_add ?_
    rw [List.getElem?_eraseIdx_of_lt (by omega)]
    exact ih.window_eq
  | @closedAbove t u row above _ clock op hop j hj hrow hu ih =>
    obtain ⟨c, hd⟩ := (step_removed ih.wellFormed clock hop hj).ensures _ hu
    have hadd := ih.row_add
    refine ih.closed hd (by omega) ?_
    rw [List.getElem?_eraseIdx_of_ge (by omega), Nat.sub_add_cancel (by omega)]
    exact ih.window_eq

/-- **The remembered row.**  As long as every step spares the memory, the
remembered row is in range, and a step that does not spare it takes the row out
of range; and after the master has been focused from a row, going right finds
the row's window again just when none of the windows above it has been closed,
or all have been and the stack has become too short. -/
theorem rememberedRow_inRange_and_comesBack :
    (∀ s : ScrollingSpace W, (machine W Id).ReachableBy
      (fun s a => a.2.Admissible s ∧ a.2.SparesMemory s) s → s.MemoryInRange) ∧
    (∀ (s : ScrollingSpace W) (clock : Clock) (op : Op W Id) (t : ScrollingSpace W),
      Reachable s → s.MemoryInRange → op.Admissible s → s.step clock op = .ok t →
      (t.MemoryInRange ↔ op.SparesMemory s)) ∧
    (∀ (s t : ScrollingSpace W) (k row above : ℕ) (w : Id), Reachable s → s.focus = .stack k →
      s.activeId = some w → Meanwhile s.focusLeft.1 k t row above →
      (ComesBack t k above → t.focusRight.1.activeId = some w) ∧
      (t.windowIds.Nodup → t.focusRight.1.activeId = some w → ComesBack t k above)) := by
  refine ⟨?_, ?_, ?_⟩
  · intro s hs
    refine (Machine.ReachableBy.invariant (P := fun s => s.WellFormed ∧ s.MemoryInRange) hs ?_ ?_).2
    · rintro s ⟨viewSize, parentArea, scale, options, rfl⟩
      exact ⟨wellFormed_new viewSize parentArea scale options, by simp [MemoryInRange, new]⟩
    · rintro s ⟨clock, op⟩ ⟨hwf, hmem⟩ ⟨hop, hspares⟩ t ht
      exact ⟨((step_stepped hwf clock hop).ensures t ht).wellFormed,
        (memoryInRange_step_iff hwf hmem clock hop ht).mpr hspares⟩
  · intro s clock op t hs hmem hop ht
    exact memoryInRange_step_iff hs.wellFormed hmem clock hop ht
  · intro s t k row above w hs hf hw ht
    have hremembers := ht.remembers (hs.wellFormed.remembers hf hw)
    exact ⟨hremembers.comesBack, hremembers.comesBack_of_nodup⟩

/-- Three windows, the last one focused: opening a fourth from the master, one
comes back to the last row. -/
theorem rememberedRow_inRange_and_comesBack_three :
    Returns ((Sample.space 3).focusLeft.1.step Sample.clock
      (.addTile (Sample.tile 4) false (.proportion (1 / 2)) false)) fun t =>
        t.MemoryInRange ∧ t.focusRight.1.activeId = some 3 := by
  obtain ⟨hrun, -, hback⟩ := rememberedRow_inRange_and_comesBack (W := Sample.Toplevel)
  have hspares : ∀ n, (machine Sample.Toplevel ℕ).ReachableBy
      (fun s a => a.2.Admissible s ∧ a.2.SparesMemory s) (Sample.space n) := by
    intro n
    induction n with
    | zero => exact .initial ⟨_, _, _, _, rfl⟩
    | succ n ih =>
      exact .step ih (Sample.clock, .addTile (Sample.tile (n + 1)) true (.proportion (1 / 2)) false)
        ⟨trivial, fun i k hi => by cases hi⟩ rfl
  refine ⟨_, rfl, hrun _ (.step (.step (hspares 3) (Sample.clock, .focusLeft)
    ⟨trivial, fun i k hi => by cases hi⟩ rfl) (Sample.clock, .addTile (Sample.tile 4) false
      (.proportion (1 / 2)) false) ⟨trivial, fun i k hi => by cases hi⟩ rfl), ?_⟩
  exact (hback (Sample.space 3) _ 1 1 0 3 (Sample.reachable_space 3) (by decide +kernel)
    (by decide +kernel) (.opened .start Sample.clock
      (.addTile (Sample.tile 4) false (.proportion (1 / 2)) false) 4 rfl rfl)).1 (.inl rfl)

/-- Three windows, the master focused from the last row: with the second window
closed, the memory is out of range.  Four windows, the master focused from the
middle row: with the second window closed, going right leads to the fourth. -/
theorem not_rememberedRow_inRange_and_comesBack :
    ¬(∀ s : ScrollingSpace Sample.Toplevel, Reachable s → s.MemoryInRange) ∧
    ¬(∀ (s t : ScrollingSpace Sample.Toplevel) (k row above : ℕ) (w : ℕ), Reachable s →
      s.focus = .stack k → s.activeId = some w → Meanwhile s.focusLeft.1 k t row above →
      t.focusRight.1.activeId = some w) := by
  constructor
  · intro hrange
    obtain ⟨t, ht, hlast, hlen⟩ : Returns ((Sample.space 3).focusLeft.1.step Sample.clock
        (.removeTile 2)) fun t => t.lastStackIdx = some 1 ∧ t.stack.length = 1 := by
      decide +kernel
    have hreach : Reachable t :=
      .step (.step (Sample.reachable_space 3) (Sample.clock, .focusLeft) trivial rfl)
        (Sample.clock, .removeTile 2) (by decide +kernel) ht
    have := hrange t hreach 1 hlast
    omega
  · intro hback
    have hreach : Reachable (Sample.space 4).focusUp.1 :=
      .step (Sample.reachable_space 4) (Sample.clock, .focusUp) trivial rfl
    obtain ⟨t, ht, hactive⟩ : Returns ((Sample.space 4).focusUp.1.focusLeft.1.step Sample.clock
        (.removeTile 2)) fun t => t.focusRight.1.activeId = some 4 := by
      decide +kernel
    have hclosed : Meanwhile (Sample.space 4).focusUp.1.focusLeft.1 1 t 0 1 :=
      .closedAbove .start Sample.clock (.removeTile 2) (by decide +kernel) 0 (by decide +kernel)
        (by decide) ht
    have hw := hback _ t 1 0 1 3 hreach (by decide +kernel) (by decide +kernel) hclosed
    rw [hactive] at hw
    cases hw

end ScrollingSpace

end Sol
