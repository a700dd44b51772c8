import Sol.ScrollingRun
import Sol.SampleSpace

/-!
# Laws of the tiling space

* The master-stack representation stays well formed, and no operation panics.
* Removing another column, or adding one without activation, keeps the focus on
  its window; a removal keeps the order of the rest.
* Moves permute the columns and keep the focus on its window; a move to the left
  and one to the right undo each other.
* The remembered row is in range, and leads back to its window, as long as the
  columns that are closed leave it alone.
-/

namespace Sol

open Panicking

namespace ScrollingSpace

variable {W Id : Type} [LayoutElement W Id] {s t : ScrollingSpace W}

/-! ### Promotion and demotion -/

/-- An operation that promotes the focused row. -/
def Promotes (f : ScrollingSpace W → Outcome (ScrollingSpace W × Bool)) : Prop :=
  ∀ s, s.WellFormed →
    (∀ i, s.focus = .stack i → Returns (f s) fun r =>
      r.2 = true ∧ r.1.WellFormed ∧ r.1.slots = s.slots.trade i .master (some i)) ∧
    ((∀ i, s.focus ≠ .stack i) → f s = .ok (s, false))

/-- An operation that demotes the focused master to the remembered row. -/
def Demotes (f : ScrollingSpace W → Outcome (ScrollingSpace W × Bool)) : Prop :=
  ∀ s, s.WellFormed →
    (s.focus = .master ∧ s.stack ≠ [] → Returns (f s) fun r =>
      r.2 = true ∧ r.1.WellFormed ∧
        r.1.slots = s.slots.trade s.rememberedRow (.stack s.rememberedRow) s.lastStackIdx) ∧
    (s.focus ≠ .master ∨ s.stack = [] → f s = .ok (s, false))

theorem slots_trade {m : Column W} (hm : s.master = some m) {i : ℕ} (hi : i < s.stack.length)
    (focus : Focus) (memory : Option ℕ) :
    (s.trade s.stack[i] m i focus memory).slots = s.slots.trade i focus memory := by
  simp [slots, trade, Slots.trade, hm, hi]

theorem moveLeft_promotes : Promotes (moveLeft (W := W)) := by
  intro s h
  refine ⟨fun i hf => ?_, fun hf => moveLeft_of_not_stack hf⟩
  have hi := h.focus_stack i hf
  obtain ⟨m, hm⟩ := h.master_of_row hi
  rw [moveLeft_of_stack hm hf hi]
  refine ⟨_, rfl, rfl, ?_, ?_⟩
  · exact (h.trade_rearranged hm hi (.inl rfl) (.inr rfl)).wellFormed.congr (by simp)
  · rw [slots_updateTileSizes, slots_trade hm hi]

theorem moveRight_demotes : Demotes (moveRight (W := W)) := by
  intro s h
  refine ⟨fun ⟨hf, hs⟩ => ?_, fun hf => moveRight_of_not_master hf⟩
  have hi := rememberedRow_lt hs
  obtain ⟨m, hm⟩ := h.master_of_row hi
  rw [moveRight_of_master hm hf hs hi]
  refine ⟨_, rfl, rfl, ?_, ?_⟩
  · exact (h.trade_rearranged hm hi (.inr rfl) (.inl rfl)).wellFormed.congr (by simp)
  · rw [slots_updateTileSizes, slots_trade hm hi]

/-- What a demotion does after a promotion that changed something. -/
theorem Promotes.demote {f g : ScrollingSpace W → Outcome (ScrollingSpace W × Bool)}
    (hf : Promotes f) (hg : Demotes g) (h : s.WellFormed) (ht : f s = .ok (t, true)) :
    Returns (g t) fun r => r.2 = true ∧ r.1.slots.arrangement = s.slots.arrangement := by
  obtain ⟨i, hfoc⟩ : ∃ i, s.focus = .stack i := by
    by_contra hne
    rw [(hf s h).2 (not_exists.mp hne)] at ht
    cases ht
  have hi := h.focus_stack i hfoc
  obtain ⟨m, hm⟩ := h.master_of_row hi
  obtain ⟨-, htwf, hslots⟩ := ((hf s h).1 i hfoc).ensures _ ht
  have hlen : t.stack.length = s.stack.length := by
    simpa [slots, Slots.trade, hm] using congrArg (fun x => x.stack.length) hslots
  have hlast : t.lastStackIdx = some i := congrArg Slots.lastStackIdx hslots
  have hrow : t.rememberedRow = i := by
    simp [rememberedRow, hlast, Option.filter, hlen, hi]
  have hts : t.stack ≠ [] := List.ne_nil_of_length_pos (by omega)
  refine ((hg t htwf).1 ⟨congrArg Slots.focus hslots, hts⟩).mono fun r hr => ⟨hr.1, ?_⟩
  rw [hr.2.2, hslots, hrow, ← hfoc]
  exact Slots.arrangement_trade_trade s.slots (by simp [slots, hm]; rfl) (by simpa [slots] using hi)
    _ _ _

/-- What a promotion does after a demotion that changed something. -/
theorem Demotes.promote {f g : ScrollingSpace W → Outcome (ScrollingSpace W × Bool)}
    (hf : Promotes f) (hg : Demotes g) (h : s.WellFormed) (ht : g s = .ok (t, true)) :
    Returns (f t) fun r => r.2 = true ∧ r.1.slots.arrangement = s.slots.arrangement := by
  obtain ⟨hfoc, hs⟩ : s.focus = .master ∧ s.stack ≠ [] := by
    by_contra hne
    rw [(hg s h).2 (by tauto)] at ht
    cases ht
  have hi := rememberedRow_lt hs
  obtain ⟨m, hm⟩ := h.master_of_row hi
  obtain ⟨-, htwf, hslots⟩ := ((hg s h).1 ⟨hfoc, hs⟩).ensures _ ht
  refine ((hf t htwf).1 _ (congrArg Slots.focus hslots)).mono fun r ⟨hr, _, hrs⟩ => ⟨hr, ?_⟩
  rw [hrs, hslots, ← hfoc]
  exact Slots.arrangement_trade_trade s.slots (by simp [slots, hm]; rfl) (by simpa [slots] using hi)
    _ _ _

variable [DecidableEq Id]

/-- **The master-stack representation.**  In every reachable space the focus is
empty exactly when there are no columns and names an occupied slot otherwise, a
stack has a master, and the share of the master is in its range; and every
operation, on what its callers pass, returns. -/
theorem reachable_wellFormed (h : Reachable s) :
    ((s.focus = .empty ↔ s.columns = []) ∧ (s.focus = .master → s.master.isSome) ∧
      (∀ i, s.focus = .stack i → i < s.stack.length) ∧ (s.stack ≠ [] → s.master.isSome) ∧
      15 / 100 ≤ s.masterRatio ∧ s.masterRatio ≤ 85 / 100) ∧
    (∀ (clock : Clock) (op : Op W Id), op.Admissible s →
      Returns (s.step clock op) fun t => Reachable t) ∧
    ∀ (clock : Clock) (i : ℕ), i < s.columns.length →
      Returns (s.takeColumnAt clock i) fun r => r.2.WellFormed := by
  have hwf := h.wellFormed
  refine ⟨⟨hwf.focus_empty, hwf.focus_master, hwf.focus_stack, hwf.master_of_stack,
    hwf.ratio_mem⟩, ?_, ?_⟩
  · intro clock op hop
    obtain ⟨t, ht, -⟩ := step_stepped hwf clock hop
    exact ⟨t, ht, .step h (clock, op) hop ht⟩
  · intro clock i hi
    exact (takeColumnAt_spec hwf clock hi).mono fun r hr => hr.wellFormed

/-- Three windows: the focus is on the second stack row, and a promotion returns. -/
theorem reachable_wellFormed_three :
    1 < (Sample.space 3).stack.length ∧
      Returns ((Sample.space 3).step Sample.clock .moveLeft) fun t => Reachable t := by
  obtain ⟨⟨-, -, hstack, -⟩, hstep, -⟩ := reachable_wellFormed (Sample.reachable_space 3)
  exact ⟨hstack 1 (by decide +kernel), hstep Sample.clock .moveLeft trivial⟩

/-- **Focus and order.**  The removal of a column that is not focused, and an
addition without activation, keep the focused window; every removal keeps the
order of the remaining columns, so that the first stack column succeeds a removed
master; and the removal of the focused one of several columns leaves one of the
others focused. -/
theorem focus_after_removal_and_addition (h : Reachable s) (clock : Clock) (op : Op W Id)
    (hop : op.Admissible s) :
    (∀ i, op.removedIdx s = some i → Returns (s.step clock op) fun t =>
      t.windowIds = s.windowIds.eraseIdx i ∧
      (i = 0 → t.master.map (·.windowId) = s.stack.head?.map (·.windowId)) ∧
      (s.activeColumnIdxInternal ≠ some i → t.activeId = s.activeId) ∧
      (2 ≤ s.columns.length → ∃ w ∈ s.windowIds.eraseIdx i, t.activeId = some w)) ∧
    (∀ window, op.addedWindow = some (window, false) → Returns (s.step clock op) fun t =>
      t.windowIds = s.windowIds ++ [window] ∧
      (s.activeId ≠ none → t.activeId = s.activeId)) := by
  have hwf := h.wellFormed
  constructor
  · intro i hi
    refine (step_removed hwf clock hop hi).mono fun t ⟨c, hd⟩ => ?_
    refine ⟨hd.windowIds_eq, ?_, hd.activeId_eq hwf, ?_⟩
    · rintro rfl
      exact hd.promoted hwf
    · intro hlen
      have hlt : i < s.columns.length := (List.getElem?_eq_some_iff.mp hd.removed_eq).1
      have hne : t.row.items ≠ [] := by
        change t.windowIds ≠ []
        rw [hd.windowIds_eq]
        apply List.ne_nil_of_length_pos
        rw [List.length_eraseIdx_of_lt (by simpa [windowIds] using hlt)]
        simp only [windowIds, List.length_map]
        omega
      obtain ⟨w, hw⟩ := hd.wellFormed.valid_row.focused_isSome hne
      refine ⟨w, ?_, ?_⟩
      · rw [← hd.windowIds_eq]
        exact FocusList.mem_of_focused hw
      · rw [← hw, hd.wellFormed.focused_row]
  · intro window hw
    obtain ⟨t, ht, htwf, hrow, -⟩ := step_added hwf clock hw
    refine ⟨t, ht, congrArg FocusList.items hrow, fun hne => ?_⟩
    rw [← hwf.focused_row] at hne ⊢
    rw [← htwf.focused_row, hrow]
    obtain ⟨w, hw⟩ := Option.ne_none_iff_exists'.mp hne
    rw [hw]
    exact FocusList.focused_append hw

/-- Closing the master of three windows while the last one is focused. -/
theorem focus_after_removal_and_addition_three :
    Returns ((Sample.space 3).step Sample.clock (.removeTile 1)) fun t =>
      t.windowIds = [2, 3] ∧ t.master.map (·.windowId) = some 2 ∧ t.activeId = some 3 := by
  have hids : (Sample.space 3).windowIds = [1, 2, 3] := by decide +kernel
  have hpos : (Sample.space 3).position 1 = some 0 := by decide +kernel
  have hfocus : (Sample.space 3).activeColumnIdxInternal ≠ some 0 := by decide +kernel
  have hactive : (Sample.space 3).activeId = some 3 := by decide +kernel
  have hhead : (Sample.space 3).stack.head?.map (·.windowId) = some 2 := by decide +kernel
  refine ((focus_after_removal_and_addition (Sample.reachable_space 3) Sample.clock (.removeTile 1)
    (by decide +kernel)).1 0 hpos).mono fun t ⟨hrest, hmaster, hkeep, _⟩ => ?_
  exact ⟨by rw [hrest, hids]; rfl, by rw [hmaster rfl, hhead], by rw [hkeep hfocus, hactive]⟩

/-! ### Moves -/

theorem swapWithSpring_promotes (clock : Clock)
    {f : ScrollingSpace W → Outcome (ScrollingSpace W × Bool)} (hf : Promotes f) :
    Promotes fun s => s.swapWithSpring clock f := by
  intro s h
  unfold swapWithSpring
  refine ⟨fun i hi => ?_, fun hs => ?_⟩
  · simp only [returns_bind]
    refine ((hf s h).1 i hi).mono fun ⟨t, changed⟩ ⟨hc, hwf, hslots⟩ => ?_
    simp only at hc
    subst hc
    simp only [if_true, returns_pure, slots_springFrom, true_and]
    exact ⟨hwf.congr (by simp), hslots⟩
  · dsimp only
    rw [(hf s h).2 hs]
    rfl

theorem swapWithSpring_demotes (clock : Clock)
    {f : ScrollingSpace W → Outcome (ScrollingSpace W × Bool)} (hf : Demotes f) :
    Demotes fun s => s.swapWithSpring clock f := by
  intro s h
  unfold swapWithSpring
  refine ⟨fun hs => ?_, fun hs => ?_⟩
  · simp only [returns_bind]
    refine ((hf s h).1 hs).mono fun ⟨t, changed⟩ ⟨hc, hwf, hslots⟩ => ?_
    simp only at hc
    subst hc
    simp only [if_true, returns_pure, slots_springFrom, true_and]
    exact ⟨hwf.congr (by simp), hslots⟩
  · dsimp only
    rw [(hf s h).2 hs]
    rfl

/-- **Moves.**  Every move permutes the windows and keeps the focused one; a
promoted row leaves its slot to the old master; and a move to the left and one
to the right, plain or animated, undo each other. -/
theorem moves_permute_and_undo (h : Reachable s) (clock clock' : Clock) :
    (∀ op : Op W Id, op.IsMove → Returns (s.step clock op) fun t =>
      t.windowIds.Perm s.windowIds ∧ t.activeId = s.activeId) ∧
    (∀ i, s.focus = .stack i → Returns s.moveLeft fun r =>
      r.1.slots.master = s.slots.stack[i]? ∧ r.1.focus = .master ∧
      ∃ m, s.slots.master = some m ∧ r.1.slots.stack = s.slots.stack.set i m) ∧
    (∀ t, s.moveLeft = .ok (t, true) → Returns t.moveRight fun r =>
      r.1.slots.arrangement = s.slots.arrangement) ∧
    (∀ t, s.moveRight = .ok (t, true) → Returns t.moveLeft fun r =>
      r.1.slots.arrangement = s.slots.arrangement) ∧
    (∀ t, s.moveLeftAnimated clock = .ok (t, true) → Returns (t.moveRightAnimated clock') fun r =>
      r.1.slots.arrangement = s.slots.arrangement) ∧
    (∀ t, s.moveRightAnimated clock = .ok (t, true) → Returns (t.moveLeftAnimated clock') fun r =>
      r.1.slots.arrangement = s.slots.arrangement) := by
  have hwf := h.wellFormed
  have hleft := fun c : Clock => swapWithSpring_promotes c (moveLeft_promotes (W := W))
  have hright := fun c : Clock => swapWithSpring_demotes c (moveRight_demotes (W := W))
  refine ⟨?_, ?_, ?_, ?_, ?_, ?_⟩
  · intro op hop
    exact (step_moved hwf clock hop).mono fun t ht => ⟨ht.perm, ht.activeId_eq⟩
  · intro i hi
    refine ((moveLeft_promotes s hwf).1 i hi).mono fun r ⟨_, _, hslots⟩ => ?_
    obtain ⟨m, hm⟩ := hwf.master_of_row (hwf.focus_stack i hi)
    rw [hslots]
    exact ⟨rfl, congrArg Slots.focus hslots, m.windowId, by simp [slots, hm],
      by simp [Slots.trade, slots, hm]⟩
  · intro t ht
    exact (moveLeft_promotes.demote moveRight_demotes hwf ht).mono fun r hr => hr.2
  · intro t ht
    exact (moveRight_demotes.promote moveLeft_promotes hwf ht).mono fun r hr => hr.2
  · intro t ht
    exact ((hleft clock).demote (hright clock') hwf ht).mono fun r hr => hr.2
  · intro t ht
    exact ((hright clock).promote (hleft clock') hwf ht).mono fun r hr => hr.2

/-- Three windows: promoting the last one and demoting it again. -/
theorem moves_permute_and_undo_three :
    Returns (Sample.space 3).moveLeft fun r =>
      r.1.slots.master = some 3 ∧ r.1.slots.stack = [2, 1] ∧
      (r.2 = true → Returns r.1.moveRight fun u => u.1.slots.arrangement = (some 1, [2, 3],
        .stack 1)) := by
  have harr : (Sample.space 3).slots.arrangement = (some 1, [2, 3], .stack 1) := by decide +kernel
  obtain ⟨-, hpromote, hundo, -⟩ :=
    moves_permute_and_undo (Sample.reachable_space 3) Sample.clock Sample.clock
  obtain ⟨r, hr, hmaster, -, m, hm, hstack⟩ := hpromote 1 (congrArg (fun a => a.2.2) harr)
  have hslots : (Sample.space 3).slots.stack = [2, 3] := congrArg (fun a => a.2.1) harr
  have hone : m = 1 := Option.some.inj (hm.symm.trans (congrArg Prod.fst harr))
  refine ⟨r, hr, by rw [hmaster, hslots]; rfl, by rw [hstack, hslots, hone]; rfl, fun hc => ?_⟩
  obtain ⟨t, changed⟩ := r
  simp only at hc
  subst hc
  exact (hundo t hr).mono fun u hu => hu.trans harr

end ScrollingSpace

end Sol
