import Sol.Monitors
import Sol.Sample

/-!
# The row of workspaces

Workspaces are inserted, removed and moved within a monitor.  Each operation is
described by the row and the active index that it leaves.

The functions around these operations used to insert an empty workspace on top
when `empty_workspace_above_first` is on.  They do not any more, but the indices
are still moved along, and so the operations act on the workspace they are asked
for only if that one is not the first: `actsAsAsked_iff` says exactly when.
-/

namespace Sol

open Panicking

namespace Monitor

variable {W Id : Type} {m t : Monitor W Id}

/-! ### What is left -/

/-- The workspace with the active index moved to another place, without a switch. -/
theorem settleOn_spec (clock : Clock) (idx : ℕ) :
    Guarded (m.activeWorkspaceIdx < m.workspaces.length) (m.settleOn clock idx) fun t =>
      t = m.reframe m.workspaces idx m.previousWorkspaceId none := by
  unfold settleOn activateWorkspace
  simp only [guarded_bind]
  refine (activateWorkspaceWithAnimConfig_spec clock idx none).mono fun t ht => ?_
  obtain ⟨-, previous, config, rfl⟩ := ht
  rw [cleanUpWorkspaces_of_still rfl]
  exact guarded_ok.mpr rfl

variable [LayoutElement W Id]

omit [LayoutElement W Id] in
theorem addWorkspaceAt_spec (id : WorkspaceId) (idx : ℕ) :
    Guarded (idx ≤ m.workspaces.length) (m.addWorkspaceAt id idx) fun t =>
      idx ≤ m.workspaces.length ∧ t = m.reframe
        (m.workspaces.insertIdx idx (Workspace.new id m.output m.options))
        (FocusList.afterInsert idx m.activeWorkspaceIdx) m.previousWorkspaceId
        (m.workspaceSwitch.map fun switch =>
          if (idx : ℚ) ≤ switch.targetIdx then switch.offsetOne else switch) := by
  unfold addWorkspaceAt
  simp only [guarded_bind, guarded_pure, Vec.guarded_insert]
  exact ⟨fun hidx => ⟨hidx, rfl⟩, fun hidx => hidx⟩

/-- The workspace at an index is taken out, or the one below it if room was to be
made on top. -/
theorem removeWorkspaceByIdx_spec (idx : ℕ) :
    Guarded (m.belowTop idx < m.workspaces.length) (m.removeWorkspaceByIdx idx) fun r =>
      ∃ ws, m.workspaces[m.belowTop idx]? = some ws ∧ r.1 = { ws with output := none } ∧
        r.2 = m.reframe (m.workspaces.eraseIdx (m.belowTop idx))
          (if m.belowTop idx ≤ m.activeWorkspaceIdx ∧ 0 < m.activeWorkspaceIdx then
            m.activeWorkspaceIdx - 1 else m.activeWorkspaceIdx)
          m.previousWorkspaceId none := by
  unfold removeWorkspaceByIdx
  simp only [guarded_bind, guarded_pure, guarded_checkedSub, Vec.guarded_remove, padAround_eq]
  refine ⟨fun _ => ⟨fun ws hws => ?_, fun hm => hm⟩, fun hm => by omega⟩
  rw [Workspace.setOutput_none, cleanUpWorkspaces_of_still rfl]
  exact guarded_ok.mpr (guarded_ok.mpr ⟨ws, hws, rfl, rfl⟩)

omit [LayoutElement W Id] in
theorem insertionIdx_spec (idx : ℕ) :
    Guarded (idx ≤ m.workspaces.length ∧ 1 ≤ m.workspaces.length) (m.insertionIdx idx) fun k =>
      k = m.belowTop (if idx = m.workspaces.length then idx - 1 else idx) := by
  unfold insertionIdx
  simp only [guarded_ite, guarded_bind, guarded_pure, guarded_checkedSub]
  refine ⟨fun heq => ⟨fun _ => by rw [if_pos heq], fun hm => by omega⟩, fun hne => by rw [if_neg hne]⟩

/-- A workspace is inserted; activated or not, no switch is under way. -/
theorem insertWorkspace_spec (clock : Clock) (ws : Workspace W Id) (idx : ℕ) (activate : Bool) :
    Guarded (idx ≤ m.workspaces.length ∧ m.activeWorkspaceIdx < m.workspaces.length)
      (m.insertWorkspace clock ws idx activate) fun t => ∃ ws' k previous,
        Workspace.Attached m.options ws ws' ∧ k ≤ m.workspaces.length ∧
          k = m.belowTop (if idx = m.workspaces.length then idx - 1 else idx) ∧
          t = m.reframe (m.workspaces.insertIdx k ws')
            (if activate then k else FocusList.afterInsert k m.activeWorkspaceIdx) previous none := by
  unfold insertWorkspace
  simp only [guarded_bind, Vec.guarded_insert]
  refine (Workspace.attach_spec m.output m.options).guarded.mono fun ws' hws' => ?_
  refine ((insertionIdx_spec idx).weaken fun hm => ⟨hm.1, by omega⟩).mono fun k hk => ?_
  refine ⟨fun hlen => ?_, fun hm => ?_⟩
  · unfold activateInserted
    rw [guarded_ite]
    constructor
    · intro hactivate
      have hspec := (activateWorkspaceWithAnimConfig_spec (m := m.reframe
        (m.workspaces.insertIdx k ws') (FocusList.afterInsert k m.activeWorkspaceIdx)
        m.previousWorkspaceId none) clock k none)
      refine (hspec.weaken fun hm => ?_).mono fun t ht => ?_
      · rw [activeWorkspaceIdx_reframe, workspaces_reframe, List.length_insertIdx_of_le_length hlen]
        exact FocusList.afterInsert_lt hm.2
      · obtain ⟨-, previous, config, rfl⟩ := ht
        rw [cleanUpWorkspaces_of_still rfl]
        exact guarded_ok.mpr ⟨ws', k, previous, hws', hlen, hk, by rw [if_pos hactivate]; rfl⟩
    · intro hactivate
      rw [guarded_pure, cleanUpWorkspaces_of_still rfl]
      exact guarded_ok.mpr ⟨ws', k, _, hws', hlen, hk, by rw [if_neg hactivate]; rfl⟩
  · subst hk
    unfold belowTop
    split_ifs <;> omega

/-- Workspaces are inserted above the last one, which stays active if it was. -/
theorem appendWorkspaces_spec (given : List (Workspace W Id)) :
    Guarded (1 ≤ m.workspaces.length) (m.appendWorkspaces given) fun t =>
      (given = [] ∧ t = m) ∨ ∃ given' last rest, given ≠ [] ∧
        List.Forall₂ (Workspace.Attached m.options) given given' ∧
          m.workspaces = rest ++ [last] ∧
            t = m.reframe (rest ++ given' ++ [last])
              (if m.activeWorkspaceIdx = rest.length then rest.length + given'.length
                else m.activeWorkspaceIdx) m.previousWorkspaceId none := by
  unfold appendWorkspaces
  simp only [guarded_ite, guarded_pure, guarded_bind, guarded_checkedSub, Vec.guarded_remove]
  refine ⟨fun hnil => .inl ⟨List.isEmpty_iff.mp hnil, trivial⟩, fun hne => ?_⟩
  refine (Vec.guarded_mapM (S := Workspace.Attached m.options) fun ws _ =>
    (Workspace.attach_spec m.output m.options).guarded).mono fun given' hgiven => ?_
  refine ⟨fun hlen => ⟨fun last hlast => ?_, fun hm => by omega⟩, fun hm => hm⟩
  have hne' : m.workspaces ≠ [] := List.ne_nil_of_length_pos hlen
  have hdrop : m.workspaces.eraseIdx (m.workspaces.length - 1) = m.workspaces.dropLast :=
    List.eraseIdx_length_sub_one
  have hsplit : m.workspaces = m.workspaces.dropLast ++ [last] := by
    have := List.dropLast_append_getLast hne'
    obtain ⟨-, rfl⟩ := List.getElem?_eq_some_iff.mp hlast
    rw [List.getLast_eq_getElem] at this
    exact this.symm
  rw [hdrop]
  have hcount : m.workspaces.length - 1 = m.workspaces.dropLast.length := by simp
  rw [hcount, cleanUpWorkspaces_of_still rfl]
  refine guarded_ok.mpr (.inr ⟨given', last, m.workspaces.dropLast, ?_, hgiven, hsplit, ?_⟩)
  · simpa using hne
  · simp only [addWorkspaceTop, ite_self]
    split_ifs <;> simp [reframe]

/-- The workspace at `oldIdx` went to `newIdx`; the active index follows, as far
as no room was to be made on top. -/
def RowMoved (m : Monitor W Id) (oldIdx newIdx : ℕ) (t : Monitor W Id) : Prop :=
  (oldIdx = newIdx ∧ t = m) ∨
    (oldIdx ≠ newIdx ∧ oldIdx < m.workspaces.length ∧ newIdx < m.workspaces.length ∧
      t = m.reframe (FocusList.relocated m.workspaces oldIdx newIdx)
        (m.activeIdxAfterMove oldIdx (m.movedIdx oldIdx newIdx)) m.previousWorkspaceId none)

omit [LayoutElement W Id] in
/-- The active workspace trades places with a neighbour, and an index is activated. -/
theorem swapThenSettle_spec (clock : Clock) (newIdx idx : ℕ)
    (hneighbour : m.activeWorkspaceIdx < m.workspaces.length →
      (newIdx = m.activeWorkspaceIdx + 1 ∨ m.activeWorkspaceIdx = newIdx + 1) ∧
        idx = m.movedIdx m.activeWorkspaceIdx newIdx) :
    Guarded (m.activeWorkspaceIdx < m.workspaces.length ∧ newIdx < m.workspaces.length)
      (Vec.swap m.workspaces m.activeWorkspaceIdx newIdx) fun workspaces =>
        Guarded (m.activeWorkspaceIdx < m.workspaces.length)
          (settleOn { m with workspaces } clock idx) (RowMoved m m.activeWorkspaceIdx newIdx) := by
  rw [Vec.guarded_swap]
  refine ⟨fun a b ha hb => ?_, fun hm => hm⟩
  obtain ⟨hi, rfl⟩ := List.getElem?_eq_some_iff.mp ha
  obtain ⟨hj, rfl⟩ := List.getElem?_eq_some_iff.mp hb
  obtain ⟨hadjacent, hidx⟩ := hneighbour hi
  rw [← FocusList.exchanged_of_lt hi hj, FocusList.exchanged_eq_relocated hi hj hadjacent]
  refine ((settleOn_spec clock idx).weaken fun hm => by
    simpa [FocusList.length_relocated hj] using hm).mono fun t ht => ?_
  refine .inr ⟨by omega, hi, hj, ?_⟩
  rw [ht, hidx]
  simp [activeIdxAfterMove, reframe]

omit [LayoutElement W Id] in
theorem moveWorkspaceDown_spec (clock : Clock) :
    Guarded (m.activeWorkspaceIdx < m.workspaces.length) (m.moveWorkspaceDown clock)
      (RowMoved m m.activeWorkspaceIdx
        (min (m.activeWorkspaceIdx + 1) (m.workspaces.length - 1))) := by
  unfold moveWorkspaceDown
  rw [guarded_bind, guarded_checkedSub]
  refine ⟨fun hlen => ?_, fun hm => by omega⟩
  simp only [addWorkspaceTop, addWorkspaceBottom, ite_self, guarded_ite]
  refine ⟨fun heq => guarded_pure.mpr (.inl ⟨heq.symm, rfl⟩), fun hne => ?_⟩
  generalize hnew : min (m.activeWorkspaceIdx + 1) (m.workspaces.length - 1) = newIdx at *
  rw [guarded_bind]
  by_cases htop : m.options.layout.emptyWorkspaceAboveFirst ∧ m.activeWorkspaceIdx = 0
  · refine ((swapThenSettle_spec clock newIdx (newIdx + 1) fun hm => ⟨by omega, ?_⟩).weaken
      fun hm => ⟨hm, by omega⟩).mono fun workspaces hsettle => ?_
    · simp only [movedIdx, if_pos (show newIdx > m.activeWorkspaceIdx by omega), if_pos htop]
    · rw [if_pos htop]
      exact hsettle
  · refine ((swapThenSettle_spec clock newIdx newIdx fun hm => ⟨by omega, ?_⟩).weaken
      fun hm => ⟨hm, by omega⟩).mono fun workspaces hsettle => ?_
    · simp only [movedIdx, if_pos (show newIdx > m.activeWorkspaceIdx by omega), if_neg htop]
    · rw [if_neg htop]
      exact hsettle

omit [LayoutElement W Id] in
theorem moveWorkspaceUp_spec (clock : Clock) :
    Guarded (m.activeWorkspaceIdx < m.workspaces.length) (m.moveWorkspaceUp clock)
      (RowMoved m m.activeWorkspaceIdx (m.activeWorkspaceIdx - 1)) := by
  unfold moveWorkspaceUp
  simp only [addWorkspaceTop, addWorkspaceBottom, ite_self, guarded_ite]
  refine ⟨fun heq => guarded_pure.mpr (.inl ⟨heq.symm, rfl⟩), fun hne => ?_⟩
  generalize hnew : m.activeWorkspaceIdx - 1 = newIdx at *
  rw [guarded_bind]
  by_cases htop : m.options.layout.emptyWorkspaceAboveFirst ∧ newIdx = 0
  · refine ((swapThenSettle_spec clock newIdx (newIdx + 1) fun hm => ⟨by omega, ?_⟩).weaken
      fun hm => ⟨hm, by omega⟩).mono fun workspaces hsettle => ?_
    · simp only [movedIdx, if_neg (show ¬newIdx > m.activeWorkspaceIdx by omega), if_pos htop]
    · rw [if_pos htop]
      exact hsettle
  · refine ((swapThenSettle_spec clock newIdx newIdx fun hm => ⟨by omega, ?_⟩).weaken
      fun hm => ⟨hm, by omega⟩).mono fun workspaces hsettle => ?_
    · simp only [movedIdx, if_neg (show ¬newIdx > m.activeWorkspaceIdx by omega), if_neg htop]
    · rw [if_neg htop]
      exact hsettle

omit [LayoutElement W Id] in
theorem moveWorkspaceToIdx_spec (oldIdx newIdx : ℕ) :
    Returns (m.moveWorkspaceToIdx oldIdx newIdx) fun t =>
      (m.workspaces.length ≤ oldIdx ∧ t = m) ∨
        (oldIdx < m.workspaces.length ∧
          RowMoved m oldIdx (min newIdx (m.workspaces.length - 1)) t) := by
  unfold moveWorkspaceToIdx
  simp only [returns_ite, returns_pure, returns_bind, Vec.returns_remove, Vec.returns_insert]
  refine ⟨fun hold => .inl ⟨hold, trivial⟩, fun hold => ?_⟩
  rw [not_le] at hold
  refine ⟨fun heq => .inr ⟨hold, .inl ⟨heq, rfl⟩⟩, fun hne => ?_⟩
  have hnew : min newIdx (m.workspaces.length - 1) < m.workspaces.length := by omega
  refine ⟨m.workspaces[oldIdx], List.getElem?_eq_getElem hold, ?_, ?_⟩
  · rw [List.length_eraseIdx_of_lt hold]
    omega
  · rw [cleanUpWorkspaces_of_still rfl]
    refine returns_ok.mpr (.inr ⟨hold, .inr ⟨hne, hold, hnew, ?_⟩⟩)
    rw [FocusList.relocated, List.getElem?_eq_getElem hold]
    rfl

/-! ### The workspace asked for -/

/-- The operations on the row of workspaces. -/
inductive RowOp (W Id : Type)
  | addWorkspaceAt (id : WorkspaceId) (idx : ℕ)
  | insertWorkspace (ws : Workspace W Id) (idx : ℕ)
  | removeWorkspaceByIdx (idx : ℕ)
  | appendWorkspaces (workspaces : List (Workspace W Id))
  | moveWorkspaceUp
  | moveWorkspaceDown
  | moveWorkspaceToIdx (oldIdx newIdx : ℕ)

/-- The indices that callers give. -/
def RowOp.Admissible (m : Monitor W Id) : RowOp W Id → Prop
  | addWorkspaceAt _ idx => idx ≤ m.workspaces.length
  | insertWorkspace _ idx => idx ≤ m.workspaces.length
  | removeWorkspaceByIdx idx => idx < m.workspaces.length
  | _ => True

/-- The row `l` with the same active workspace. -/
def KeepsActive (m : Monitor W Id) (l : List WorkspaceId) (t : Monitor W Id) : Prop :=
  t.workspaceIds = l ∧ t.activeWorkspaceId = m.activeWorkspaceId

/-- An operation acts on the workspace it is asked for, keeps the others in
order, and keeps the active workspace. -/
def ActsAsAsked (m : Monitor W Id) (clock : Clock) : RowOp W Id → Prop
  | .addWorkspaceAt id idx =>
    Returns (m.addWorkspaceAt id idx) (m.KeepsActive (m.workspaceIds.insertIdx idx id))
  | .insertWorkspace ws idx => Returns (m.insertWorkspace clock ws idx false) fun t =>
      ∃ k ≤ m.workspaces.length, m.KeepsActive (m.workspaceIds.insertIdx k ws.id) t
  | .removeWorkspaceByIdx idx => Returns (m.removeWorkspaceByIdx idx) fun r =>
      (∃ ws, m.workspaces[idx]? = some ws ∧ r.1 = { ws with output := none }) ∧
        r.2.workspaceIds = m.workspaceIds.eraseIdx idx ∧
          (idx ≠ m.activeWorkspaceIdx → r.2.activeWorkspaceId = m.activeWorkspaceId)
  | .appendWorkspaces workspaces => Returns (m.appendWorkspaces workspaces) (m.KeepsActive
      (m.workspaceIds.take (m.workspaces.length - 1) ++ workspaces.map (·.id) ++
        m.workspaceIds.drop (m.workspaces.length - 1)))
  | .moveWorkspaceUp => Returns (m.moveWorkspaceUp clock) (m.KeepsActive
      (FocusList.relocated m.workspaceIds m.activeWorkspaceIdx (m.activeWorkspaceIdx - 1)))
  | .moveWorkspaceDown => Returns (m.moveWorkspaceDown clock) (m.KeepsActive
      (FocusList.relocated m.workspaceIds m.activeWorkspaceIdx
        (min (m.activeWorkspaceIdx + 1) (m.workspaces.length - 1))))
  | .moveWorkspaceToIdx oldIdx newIdx => Returns (m.moveWorkspaceToIdx oldIdx newIdx) (m.KeepsActive
      (FocusList.relocated m.workspaceIds oldIdx (min newIdx (m.workspaces.length - 1))))

/-- Whether the first workspace is spared by a move from `oldIdx` to `newIdx`. -/
def SparesMoved (m : Monitor W Id) (oldIdx newIdx : ℕ) : Prop :=
  m.options.layout.emptyWorkspaceAboveFirst = false ∨ oldIdx = newIdx ∨
    (oldIdx < newIdx ∧
      ¬(oldIdx = 0 ∧ (m.activeWorkspaceIdx = 0 ∨ m.activeWorkspaceIdx = newIdx + 1))) ∨
    (newIdx < oldIdx ∧
      ¬(newIdx = 0 ∧ (m.activeWorkspaceIdx = oldIdx ∨ m.activeWorkspaceIdx = 0)))

/-- When no room on top is counted in: always without the option, and else if
the first workspace is neither removed nor moved or moved to. -/
def RowOp.SparesFirst (m : Monitor W Id) : RowOp W Id → Prop
  | removeWorkspaceByIdx idx => m.options.layout.emptyWorkspaceAboveFirst = false ∨ idx ≠ 0
  | moveWorkspaceUp => m.options.layout.emptyWorkspaceAboveFirst = false ∨ m.activeWorkspaceIdx ≠ 1
  | moveWorkspaceDown => m.options.layout.emptyWorkspaceAboveFirst = false ∨
      m.activeWorkspaceIdx ≠ 0 ∨ m.workspaces.length = 1
  | moveWorkspaceToIdx oldIdx newIdx => m.workspaces.length ≤ oldIdx ∨
      m.SparesMoved oldIdx (min newIdx (m.workspaces.length - 1))
  | _ => True

omit [LayoutElement W Id] in
theorem map_id_relocated (l : List (Workspace W Id)) (i j : ℕ) :
    (FocusList.relocated l i j).map (·.id) = FocusList.relocated (l.map (·.id)) i j := by
  unfold FocusList.relocated
  rw [List.getElem?_map]
  cases l[i]? with
  | none => rfl
  | some ws => simp only [Option.map_some, List.map_insertIdx, List.eraseIdx_map]

omit [LayoutElement W Id] in
/-- The index that follows a move is the right one exactly if the first workspace
is spared. -/
theorem activeIdxAfterMove_iff {oldIdx newIdx : ℕ} (hne : oldIdx ≠ newIdx) :
    m.activeIdxAfterMove oldIdx (m.movedIdx oldIdx newIdx) =
        FocusList.afterRelocate oldIdx newIdx m.activeWorkspaceIdx ↔ m.SparesMoved oldIdx newIdx := by
  unfold activeIdxAfterMove movedIdx SparesMoved FocusList.afterRelocate FocusList.afterInsert
    FocusList.afterErase
  cases m.options.layout.emptyWorkspaceAboveFirst with
  | false =>
    simp only [Bool.false_eq_true, false_and, if_false, true_or, iff_true]
    split_ifs <;> omega
  | true =>
    simp only [true_and, Bool.true_eq_false, false_or, gt_iff_lt]
    split_ifs <;> omega

theorem relocated_self {l : List WorkspaceId} {i : ℕ} (hi : i < l.length) :
    FocusList.relocated l i i = l := by
  rw [FocusList.relocated, List.getElem?_eq_getElem hi]
  exact (Vec.insertIdx_eraseIdx_self hi).trans (List.set_getElem_self hi)

omit [LayoutElement W Id] in
/-- A move keeps the active workspace exactly if it spares the first one. -/
theorem keepsActive_relocated (hids : m.workspaceIds.Nodup)
    (hactive : m.activeWorkspaceIdx < m.workspaces.length) {oldIdx newIdx : ℕ}
    (hmoved : RowMoved m oldIdx newIdx t) (hold : oldIdx < m.workspaces.length) :
    m.KeepsActive (FocusList.relocated m.workspaceIds oldIdx newIdx) t ↔
      m.SparesMoved oldIdx newIdx := by
  rw [← length_workspaceIds] at hactive hold
  rcases hmoved with ⟨rfl, rfl⟩ | ⟨hne, -, hnew, rfl⟩
  · rw [relocated_self hold]
    exact ⟨fun _ => .inr (.inl rfl), fun _ => ⟨rfl, rfl⟩⟩
  · rw [← length_workspaceIds] at hnew
    have hrow : (m.reframe (FocusList.relocated m.workspaces oldIdx newIdx)
        (m.activeIdxAfterMove oldIdx (m.movedIdx oldIdx newIdx)) m.previousWorkspaceId
        none).workspaceIds = FocusList.relocated m.workspaceIds oldIdx newIdx :=
      map_id_relocated _ _ _
    have hperm := FocusList.relocated_perm (l := m.workspaceIds) (i := oldIdx) hnew
    rw [← activeIdxAfterMove_iff hne, KeepsActive, activeWorkspaceId, activeWorkspaceId, hrow,
      ← FocusList.getElem?_relocated hold hnew hactive, activeWorkspaceIdx_reframe]
    rw [FocusList.position_unique (hperm.nodup_iff.mpr hids)]
    · exact ⟨And.right, fun h => ⟨rfl, h⟩⟩
    · rw [FocusList.length_relocated hnew]
      exact FocusList.afterRelocate_lt hold hnew hactive

omit [LayoutElement W Id] in
/-- An insertion keeps the active workspace. -/
theorem keepsActive_insertIdx {ws : Workspace W Id} (k : ℕ) (previous : Option WorkspaceId)
    (switch : Option WorkspaceSwitch) :
    m.KeepsActive (m.workspaceIds.insertIdx k ws.id)
      (m.reframe (m.workspaces.insertIdx k ws) (FocusList.afterInsert k m.activeWorkspaceIdx)
        previous switch) := by
  have hrow : (m.workspaces.insertIdx k ws).map (·.id) = m.workspaceIds.insertIdx k ws.id :=
    List.map_insertIdx ..
  refine ⟨hrow, ?_⟩
  rw [activeWorkspaceId, workspaceIds_reframe, hrow, activeWorkspaceIdx_reframe,
    FocusList.getElem?_insertIdx_afterInsert]
  rfl

omit [LayoutElement W Id] in
/-- A removal at the index that is asked for. -/
theorem activeId_eraseIdx {i : ℕ} (hi : i ≠ m.activeWorkspaceIdx) :
    (m.workspaceIds.eraseIdx i)[if i ≤ m.activeWorkspaceIdx ∧ 0 < m.activeWorkspaceIdx then
      m.activeWorkspaceIdx - 1 else m.activeWorkspaceIdx]? = m.activeWorkspaceId := by
  have hafter : (if i ≤ m.activeWorkspaceIdx ∧ 0 < m.activeWorkspaceIdx then
      m.activeWorkspaceIdx - 1 else m.activeWorkspaceIdx) =
        FocusList.afterErase i m.activeWorkspaceIdx := by
    unfold FocusList.afterErase
    split_ifs <;> omega
  rw [hafter, FocusList.getElem?_eraseIdx_afterErase (Ne.symm hi)]
  rfl

/-- The workspace asked for is removed unless it is the first one and room is
counted in above it. -/
theorem removes_iff (clock : Clock) (hids : m.workspaceIds.Nodup) {idx : ℕ}
    (hidx : idx < m.workspaces.length) :
    m.ActsAsAsked clock (.removeWorkspaceByIdx idx) ↔
      (m.options.layout.emptyWorkspaceAboveFirst = false ∨ idx ≠ 0) := by
  by_cases htop : m.options.layout.emptyWorkspaceAboveFirst = false ∨ idx ≠ 0
  · have hbelow : m.belowTop idx = idx := by
      rw [belowTop, if_neg]
      rintro ⟨hon, hzero⟩
      rcases htop with hoff | hne
      · simp [hoff] at hon
      · exact hne hzero
    refine iff_of_true ?_ htop
    refine ((removeWorkspaceByIdx_spec idx).returns (hbelow.symm ▸ hidx)).mono fun r hr => ?_
    rw [hbelow] at hr
    obtain ⟨ws, hws, hremoved, hleft⟩ := hr
    rw [hleft, activeWorkspaceId, workspaceIds_reframe, activeWorkspaceIdx_reframe,
      ← List.eraseIdx_map]
    exact ⟨⟨ws, hws, hremoved⟩, rfl, activeId_eraseIdx⟩
  · refine iff_of_false ?_ htop
    rintro ⟨r, hr, -, hrow, -⟩
    obtain ⟨hon, hzero⟩ := not_or.mp htop
    obtain rfl : idx = 0 := not_ne_iff.mp hzero
    have hbelow : m.belowTop 0 = 1 := by simp [belowTop, hon]
    -- the workspace below is taken instead
    obtain ⟨ws, hws, -, hleft⟩ := (removeWorkspaceByIdx_spec 0).ensures r hr
    rw [hbelow] at hws hleft
    rw [hleft, workspaceIds_reframe, ← List.eraseIdx_map] at hrow
    have hone : 1 < m.workspaceIds.length := by
      rw [length_workspaceIds]
      exact (List.getElem?_eq_some_iff.mp hws).1
    have hfirst := congrArg (·[0]?) hrow
    simp only [List.getElem?_eraseIdx_of_lt Nat.zero_lt_one,
      List.getElem?_eraseIdx_of_ge (le_refl 0)] at hfirst
    exact absurd ((FocusList.position_unique hids hone).mp hfirst) (by omega)

omit [LayoutElement W Id] in
/-- The last workspace stays the last and stays active if it was. -/
theorem keepsActive_append {given : List (Workspace W Id)}
    (hactive : m.activeWorkspaceIdx < m.workspaces.length) {given' rest : List (Workspace W Id)}
    {last : Workspace W Id} (hgiven : given'.map (·.id) = given.map (·.id))
    (hsplit : m.workspaces = rest ++ [last]) :
    m.KeepsActive (m.workspaceIds.take (m.workspaces.length - 1) ++ given.map (·.id) ++
        m.workspaceIds.drop (m.workspaces.length - 1))
      (m.reframe (rest ++ given' ++ [last])
        (if m.activeWorkspaceIdx = rest.length then rest.length + given'.length
          else m.activeWorkspaceIdx) m.previousWorkspaceId none) := by
  have hids : m.workspaceIds = rest.map (·.id) ++ [last.id] := by simp [workspaceIds, hsplit]
  have hcount : m.workspaces.length - 1 = (rest.map (·.id)).length := by simp [hsplit]
  have hlength : m.workspaces.length = rest.length + 1 := by simp [hsplit]
  refine ⟨?_, ?_⟩
  · rw [hids, hcount, List.take_left, List.drop_left, workspaceIds_reframe, ← hgiven]
    simp
  · rw [activeWorkspaceId, activeWorkspaceId, hids, workspaceIds_reframe,
      activeWorkspaceIdx_reframe]
    split_ifs with hlast
    · simp [hlast]
    · have hlt : m.activeWorkspaceIdx < rest.length := by omega
      simp [List.getElem?_append_left, hlt, Nat.lt_add_right]

/-- The operations act on the workspace they are asked for and keep the active
one exactly if they spare the first workspace. -/
theorem actsAsAsked_iff (clock : Clock) (hids : m.workspaceIds.Nodup)
    (hactive : m.activeWorkspaceIdx < m.workspaces.length) (op : RowOp W Id)
    (hop : op.Admissible m) : m.ActsAsAsked clock op ↔ op.SparesFirst m := by
  cases op with
  | addWorkspaceAt id idx =>
    refine (addWorkspaceAt_spec id idx).returns_iff hop fun t ht => ?_
    obtain ⟨-, rfl⟩ := ht
    exact iff_of_true (keepsActive_insertIdx idx _ _) trivial
  | insertWorkspace ws idx =>
    refine (insertWorkspace_spec clock ws idx false).returns_iff ⟨hop, hactive⟩
      fun t ht => ?_
    obtain ⟨ws', k, previous, hws', hk, -, rfl⟩ := ht
    refine iff_of_true ⟨k, hk, ?_⟩ trivial
    rw [← hws'.id_eq]
    exact keepsActive_insertIdx k previous none
  | removeWorkspaceByIdx idx => exact removes_iff clock hids hop
  | appendWorkspaces given =>
    refine (appendWorkspaces_spec given).returns_iff (by omega) fun t ht => ?_
    refine iff_of_true ?_ trivial
    rcases ht with ⟨rfl, rfl⟩ | ⟨given', last, rest, -, hgiven, hsplit, rfl⟩
    · rw [List.map_nil, List.append_nil, List.take_append_drop]
      exact ⟨rfl, rfl⟩
    · exact keepsActive_append hactive (ids_of_forall₂ (hgiven.imp fun _ _ h => h.id_eq)) hsplit
  | moveWorkspaceUp =>
    refine (moveWorkspaceUp_spec clock).returns_iff hactive fun t ht => ?_
    rw [keepsActive_relocated hids hactive ht hactive]
    exact or_congr_right (by omega)
  | moveWorkspaceDown =>
    refine (moveWorkspaceDown_spec clock).returns_iff hactive fun t ht => ?_
    rw [keepsActive_relocated hids hactive ht hactive]
    exact or_congr_right (by omega)
  | moveWorkspaceToIdx oldIdx newIdx =>
    refine (guarded_true.mpr (moveWorkspaceToIdx_spec oldIdx newIdx)).returns_iff trivial
      fun t ht => ?_
    rcases ht with ⟨hold, rfl⟩ | ⟨hold, hmoved⟩
    · refine iff_of_true ⟨?_, rfl⟩ (.inl hold)
      rw [FocusList.relocated, List.getElem?_eq_none (length_workspaceIds.symm ▸ hold)]
    · rw [keepsActive_relocated hids hactive hmoved hold]
      exact (or_iff_right (not_le.mpr hold)).symm

/-! ### Where it fails -/

instance (m : Monitor W Id) (l : List WorkspaceId) (t : Monitor W Id) :
    Decidable (m.KeepsActive l t) := by
  unfold KeepsActive
  infer_instance

end Monitor

/-- A monitor with empty workspaces, with room wanted on top. -/
def Sample.paddedMonitor (count active : ℕ) : Monitor Sample.Toplevel ℕ where
  output := output 1
  workspaces := Monitor.freshWorkspaces 1 (output 1) paddedOptions count
  activeWorkspaceIdx := active
  previousWorkspaceId := none
  workspaceSwitch := none
  insertHint := none
  overviewOpen := false
  overviewProgress := none
  scale := 1
  viewSize := ⟨1920, 1080⟩
  workingArea := ⟨⟨0, 0⟩, ⟨1920, 1080⟩⟩
  baseOptions := paddedOptions
  options := paddedOptions
  layoutConfig := none

namespace Monitor

/-- The second of three workspaces moves up, and the one below it is active. -/
theorem not_actsAsAsked : ∃ (m : Monitor Sample.Toplevel ℕ) (op : RowOp Sample.Toplevel ℕ),
    m.workspaceIds.Nodup ∧ m.activeWorkspaceIdx < m.workspaces.length ∧ op.Admissible m ∧
      ¬m.ActsAsAsked Sample.clock op := by
  refine ⟨Sample.paddedMonitor 3 1, .moveWorkspaceUp, by decide +kernel, by decide +kernel, trivial, ?_⟩
  unfold ActsAsAsked
  decide +kernel

theorem actsAsAsked_iff_three : (Sample.paddedMonitor 3 2).ActsAsAsked Sample.clock .moveWorkspaceUp ∧
    ¬(Sample.paddedMonitor 3 0).ActsAsAsked Sample.clock .moveWorkspaceDown := by
  have h2 := actsAsAsked_iff (m := Sample.paddedMonitor 3 2) Sample.clock (by decide +kernel)
    (by decide +kernel) .moveWorkspaceUp trivial
  have h0 := actsAsAsked_iff (m := Sample.paddedMonitor 3 0) Sample.clock (by decide +kernel)
    (by decide +kernel) .moveWorkspaceDown trivial
  rw [h2, h0]
  simp only [RowOp.SparesFirst]
  decide +kernel

end Monitor

end Sol
