import Sol.EventStream
import Sol.Machine

/-!
# Replaying the event stream

The events of a refresh lead a client from the workspaces of one layout to those
of the next, whichever of the two ways the refresh takes.  With small events the
workspaces are brought up to date one after another; an output's active workspace
settles all the others of the output, and the focused one settles all.

* `Valid.consistent`: what holds among the workspaces of a layout;
* `progress`: the state once the small events of some workspaces were applied;
* `Matched.applyAll_news`: the small events lead to the new workspaces;
* `refresh_replays`: what holds after any number of refreshes.
-/

namespace Sol.Ipc

open Panicking Tables WorkspacesState

/-! ### The workspaces of one layout -/

/-- What holds among the workspaces of a layout. -/
structure Consistent (l : List Workspace) : Prop where
  ids : (l.map Workspace.id).Nodup
  active_unique : ∀ a ∈ l, ∀ b ∈ l, a.isActive = true → b.isActive = true →
    a.output = b.output → a = b
  active_output : ∀ a ∈ l, a.isActive = true → a.output ≠ none
  focused_active : ∀ a ∈ l, a.isFocused = true → a.isActive = true
  focused_unique : ∀ a ∈ l, ∀ b ∈ l, a.isFocused = true → b.isFocused = true → a = b
  active_exists : ∀ a ∈ l, a.output ≠ none → ∃ b ∈ l, b.isActive = true ∧ b.output = a.output
  focused_exists : ∀ a ∈ l, a.output ≠ none → ∃ b ∈ l, b.isFocused = true

namespace LayoutView

def monitors : LayoutView → List MonitorView
  | .normal monitors _ => monitors
  | .noOutputs _ => []

/-- What holds of the layout: workspaces have ids of their own, outputs names of
their own, and every monitor an active workspace. -/
structure Valid (layout : LayoutView) : Prop where
  ids : (layout.workspaces.map (·.2.2.id)).Nodup
  outputNames : (layout.monitors.map (·.outputName)).Nodup
  active_lt : ∀ mon ∈ layout.monitors, mon.activeWorkspaceIdx < mon.workspaces.length
  activeMonitor_lt : ∀ monitors i, layout = .normal monitors i → i < monitors.length

theorem valid_noOutputs : (noOutputs []).Valid where
  ids := by simp [workspaces]
  outputNames := by simp [monitors]
  active_lt := by simp [monitors]
  activeMonitor_lt := by simp

theorem mem_workspaces_normal {monitors : List MonitorView} {i : ℕ} {entry : Entry} :
    entry ∈ (normal monitors i).workspaces ↔ ∃ mon ∈ monitors,
      ∃ idx ws, mon.workspaces[idx]? = some ws ∧ entry = (some mon, idx, ws) := by
  simp only [workspaces, List.mem_flatMap, List.mem_map]
  constructor
  · rintro ⟨mon, hmon, ⟨ws, idx⟩, hmem, rfl⟩
    exact ⟨mon, hmon, idx, ws, List.mem_zipIdx_iff_getElem?.mp hmem, rfl⟩
  · rintro ⟨mon, hmon, idx, ws, hws, rfl⟩
    exact ⟨mon, hmon, (ws, idx), List.mem_zipIdx_iff_getElem?.mpr hws, rfl⟩

/-- The ids of the workspaces tell the entries apart. -/
theorem Valid.entry_eq {layout : LayoutView} (h : layout.Valid) {e e' : Entry}
    (he : e ∈ layout.workspaces) (he' : e' ∈ layout.workspaces) (hid : e.2.2.id = e'.2.2.id) :
    e = e' := List.inj_on_of_nodup_map h.ids he he' hid

/-- The entry of the active workspace of a monitor. -/
theorem Valid.active_entry {monitors : List MonitorView} {i : ℕ} (h : (normal monitors i).Valid)
    {mon : MonitorView} (hmon : mon ∈ monitors) :
    ∃ ws, mon.workspaces[mon.activeWorkspaceIdx]? = some ws ∧
      (some mon, mon.activeWorkspaceIdx, ws) ∈ (normal monitors i).workspaces := by
  have hlt := h.active_lt mon hmon
  exact ⟨_, List.getElem?_eq_getElem hlt,
    mem_workspaces_normal.mpr ⟨mon, hmon, _, _, List.getElem?_eq_getElem hlt, rfl⟩⟩

/-- The focused workspace is the active one of the active monitor. -/
theorem Valid.focused_entry {monitors : List MonitorView} {i : ℕ} (h : (normal monitors i).Valid) :
    ∃ mon ∈ monitors, ∃ ws, (normal monitors i).activeWorkspace = some ws ∧
      (some mon, mon.activeWorkspaceIdx, ws) ∈ (normal monitors i).workspaces := by
  have hi := h.activeMonitor_lt monitors i rfl
  obtain ⟨ws, hws, hmem⟩ := h.active_entry (List.getElem_mem hi)
  exact ⟨_, List.getElem_mem hi, ws, by simp [activeWorkspace, List.getElem?_eq_getElem hi, hws],
    hmem⟩

theorem Valid.consistent {layout : LayoutView} (h : layout.Valid) :
    Consistent (layout.workspaces.map (ipcWorkspace (layout.activeWorkspace.map (·.id)))) := by
  have hids : ((layout.workspaces.map (ipcWorkspace (layout.activeWorkspace.map (·.id)))).map
      Workspace.id).Nodup := by
    rw [List.map_map]
    exact h.ids
  cases layout with
  | noOutputs workspaces =>
    have hinactive : ∀ a ∈ (noOutputs workspaces).workspaces.map (ipcWorkspace none),
        a.isActive = false ∧ a.isFocused = false ∧ a.output = none := by
      rintro a ha
      obtain ⟨entry, hentry, rfl⟩ := List.mem_map.mp ha
      obtain ⟨⟨ws, idx⟩, -, rfl⟩ := List.mem_map.mp hentry
      exact ⟨rfl, by simp [ipcWorkspace], rfl⟩
    refine ⟨hids, ?_, ?_, ?_, ?_, ?_, ?_⟩
    · intro a ha b _ hactive
      simp [(hinactive a ha).1] at hactive
    · intro a ha hactive
      simp [(hinactive a ha).1] at hactive
    · intro a ha hfocused
      simp [(hinactive a ha).2.1] at hfocused
    · intro a ha b _ hfocused
      simp [(hinactive a ha).2.1] at hfocused
    · intro a ha hout
      exact absurd (hinactive a ha).2.2 hout
    · intro a ha hout
      exact absurd (hinactive a ha).2.2 hout
  | normal monitors i =>
    obtain ⟨focusedMon, hfocusedMon, focusedWs, hfocused, hfocusedMem⟩ := h.focused_entry
    rw [hfocused] at hids ⊢
    simp only [Option.map_some] at hids ⊢
    have hmem : ∀ a ∈ (normal monitors i).workspaces.map (ipcWorkspace (some focusedWs.id)),
        ∃ mon ∈ monitors, ∃ idx ws, mon.workspaces[idx]? = some ws ∧
          (some mon, idx, ws) ∈ (normal monitors i).workspaces ∧
          a = ipcWorkspace (some focusedWs.id) (some mon, idx, ws) := by
      intro a ha
      obtain ⟨entry, hentry, rfl⟩ := List.mem_map.mp ha
      obtain ⟨mon, hmon, idx, ws, hws, rfl⟩ := mem_workspaces_normal.mp hentry
      exact ⟨mon, hmon, idx, ws, hws, hentry, rfl⟩
    -- the focused workspace is one entry
    have hfocusedEq : ∀ mon idx ws, (some mon, idx, ws) ∈ (normal monitors i).workspaces →
        (ipcWorkspace (some focusedWs.id) (some mon, idx, ws)).isFocused = true →
        mon = focusedMon ∧ idx = focusedMon.activeWorkspaceIdx ∧ ws = focusedWs := by
      intro mon idx ws hentry hws
      have hid : ws.id = focusedWs.id := by simpa [ipcWorkspace] using hws
      simpa using h.entry_eq hentry hfocusedMem hid
    refine ⟨hids, ?_, ?_, ?_, ?_, ?_, ?_⟩
    · intro a ha b hb hactive hactive' hout
      obtain ⟨mon, hmon, idx, ws, hws, -, rfl⟩ := hmem a ha
      obtain ⟨mon', hmon', idx', ws', hws', -, rfl⟩ := hmem b hb
      obtain rfl : mon = mon' :=
        List.inj_on_of_nodup_map h.outputNames hmon hmon' (by simpa [ipcWorkspace] using hout)
      obtain rfl : mon.activeWorkspaceIdx = idx := by simpa [ipcWorkspace] using hactive
      obtain rfl : mon.activeWorkspaceIdx = idx' := by simpa [ipcWorkspace] using hactive'
      rw [Option.some.inj (hws.symm.trans hws')]
    · intro a ha _
      obtain ⟨mon, -, idx, ws, -, -, rfl⟩ := hmem a ha
      simp [ipcWorkspace]
    · intro a ha hws
      obtain ⟨mon, -, idx, ws, -, hentry, rfl⟩ := hmem a ha
      obtain ⟨rfl, rfl, -⟩ := hfocusedEq mon idx ws hentry hws
      simp [ipcWorkspace]
    · intro a ha b hb hws hws'
      obtain ⟨mon, -, idx, ws, -, hentry, rfl⟩ := hmem a ha
      obtain ⟨mon', -, idx', ws', -, hentry', rfl⟩ := hmem b hb
      obtain ⟨rfl, rfl, rfl⟩ := hfocusedEq mon idx ws hentry hws
      obtain ⟨rfl, rfl, rfl⟩ := hfocusedEq mon' idx' ws' hentry' hws'
      rfl
    · intro a ha _
      obtain ⟨mon, hmon, idx, ws, -, -, rfl⟩ := hmem a ha
      obtain ⟨active, -, hactive⟩ := h.active_entry hmon
      exact ⟨_, List.mem_map_of_mem hactive, by simp [ipcWorkspace], rfl⟩
    · intro a _ _
      exact ⟨_, List.mem_map_of_mem hfocusedMem, by simp [ipcWorkspace]⟩

end LayoutView

/-! ### Small events -/

/-- The small events that lead from what a client knows of a workspace to what it is. -/
def deltas (old new : Workspace) : List Event :=
  (if old.activeWindowId ≠ new.activeWindowId then
    [.workspaceActiveWindowChanged new.id new.activeWindowId] else []) ++
  (if new.isUrgent ≠ old.isUrgent then [.workspaceUrgencyChanged new.id new.isUrgent] else []) ++
  if new.isFocused && !old.isFocused then [.workspaceActivated new.id true]
  else if new.isActive && !old.isActive then [.workspaceActivated new.id false]
  else []

/-- What the state holds for the id of a workspace. -/
def known (state : WorkspacesState) (ws : Workspace) : Workspace := (state[ws.id]?).getD ws

theorem entryEvents_eq {old : Workspace} {focusedWsId : Option ℕ} {entry : LayoutView.Entry}
    {events : List Event} (h : entryEvents old focusedWsId entry = some events) :
    (old.idx = (ipcWorkspace focusedWsId entry).idx ∧
      old.name = (ipcWorkspace focusedWsId entry).name ∧
      old.output = (ipcWorkspace focusedWsId entry).output) ∧
    events = deltas old (ipcWorkspace focusedWsId entry) := by
  obtain ⟨mon, idx, ws⟩ := entry
  by_cases hchanged : old.idx ≠ ipcIdx idx ∨ old.name ≠ ws.name ∨
      old.output ≠ mon.map (·.outputName)
  · simp only [entryEvents] at h
    rw [if_pos hchanged] at h
    cases h
  · simp only [entryEvents] at h
    rw [if_neg hchanged] at h
    push Not at hchanged
    exact ⟨hchanged, (Option.some.inj h).symm⟩

/-- Small events are sent only for workspaces that the client knows, in their
places and under their names. -/
theorem smallEvents_eq {state : WorkspacesState} {focusedWsId : Option ℕ}
    {entries : List LayoutView.Entry} {events : List Event}
    (h : smallEvents state focusedWsId entries = some events) :
    (∀ a ∈ entries.map (ipcWorkspace focusedWsId), state[a.id]? = some (known state a) ∧
      (known state a).idx = a.idx ∧ (known state a).name = a.name ∧
      (known state a).output = a.output) ∧
    events = (entries.map (ipcWorkspace focusedWsId)).flatMap fun a => deltas (known state a) a := by
  induction entries generalizing events with
  | nil => exact ⟨by simp, by simpa [smallEvents] using h.symm⟩
  | cons entry entries ih =>
    obtain ⟨old, hold, h⟩ := Option.bind_eq_some_iff.mp h
    obtain ⟨first, hfirst, h⟩ := Option.bind_eq_some_iff.mp h
    obtain ⟨rest, hrest, h⟩ := Option.bind_eq_some_iff.mp h
    obtain ⟨hsame, hfirst⟩ := entryEvents_eq hfirst
    obtain ⟨hrests, hrest⟩ := ih hrest
    have hknown : known state (ipcWorkspace focusedWsId entry) = old := by
      change (state[entry.2.2.id]?).getD _ = old
      rw [hold]
      rfl
    rw [List.map_cons]
    constructor
    · intro a ha
      rcases List.mem_cons.mp ha with rfl | ha
      · rw [hknown]
        exact ⟨hold, hsame⟩
      · exact hrests a ha
    · rw [List.flatMap_cons, hknown, ← hfirst, ← hrest]
      exact (Option.some.inj h).symm

/-! ### From the known workspaces to the new ones -/

/-- The workspaces of a layout, with what is known of each: the known ones hang
together, and stand in the same places. -/
structure Matched (known : Workspace → Workspace) (news : List Workspace) : Prop where
  consistent : Consistent news
  id_eq : ∀ a ∈ news, (known a).id = a.id
  idx_eq : ∀ a ∈ news, (known a).idx = a.idx
  name_eq : ∀ a ∈ news, (known a).name = a.name
  output_eq : ∀ a ∈ news, (known a).output = a.output
  active_unique : ∀ a ∈ news, ∀ b ∈ news, (known a).isActive = true → (known b).isActive = true →
    a.output = b.output → a = b
  active_output : ∀ a ∈ news, (known a).isActive = true → a.output ≠ none
  focused_active : ∀ a ∈ news, (known a).isFocused = true → (known a).isActive = true
  focused_unique : ∀ a ∈ news, ∀ b ∈ news, (known a).isFocused = true →
    (known b).isFocused = true → a = b

/-- The state once the small events of the workspaces `done` were applied: an active
workspace among them settled its output, a focused one settled the focus. -/
def progress (known : Workspace → Workspace) (done : List Workspace) (a : Workspace) :
    Workspace :=
  { a with
    isUrgent := if a ∈ done then a.isUrgent else (known a).isUrgent
    activeWindowId := if a ∈ done then a.activeWindowId else (known a).activeWindowId
    isActive := if ∃ b ∈ done, b.isActive = true ∧ b.output = a.output then a.isActive
      else (known a).isActive
    isFocused := if ∃ b ∈ done, b.isFocused = true then a.isFocused else (known a).isFocused }

namespace Matched

variable {g : Workspace → Workspace} {news done : List Workspace} {a b : Workspace}

theorem id_inj (h : Matched g news) (ha : a ∈ news) (hb : b ∈ news) (hid : a.id = b.id) : a = b :=
  List.inj_on_of_nodup_map h.consistent.ids ha hb hid

theorem progress_nil (h : Matched g news) (ha : a ∈ news) : progress g [] a = g a := by
  have hid := h.id_eq a ha
  have hidx := h.idx_eq a ha
  have hname := h.name_eq a ha
  have hout := h.output_eq a ha
  cases hg : g a
  simp_all [progress]

theorem progress_all (h : Matched g news) (ha : a ∈ news) : progress g news a = a := by
  have hactive : (if ∃ b ∈ news, b.isActive = true ∧ b.output = a.output then a.isActive
      else (g a).isActive) = a.isActive := by
    split_ifs with hex
    · rfl
    · -- no workspace of the output is active: it is no output
      have hout : a.output = none := by
        by_contra hout
        exact hex (h.consistent.active_exists a ha hout)
      have hnew : a.isActive = false := by
        by_contra hactive
        exact h.consistent.active_output a ha (by simpa using hactive) hout
      have hold : (g a).isActive = false := by
        by_contra hactive
        exact h.active_output a ha (by simpa using hactive) hout
      rw [hnew, hold]
  have hfocused : (if ∃ b ∈ news, b.isFocused = true then a.isFocused else (g a).isFocused) =
      a.isFocused := by
    split_ifs with hex
    · rfl
    · have hnew : a.isFocused = false := by
        by_contra hfocused
        exact hex ⟨a, ha, by simpa using hfocused⟩
      have hold : (g a).isFocused = false := by
        by_contra hfocused
        have hactive := h.focused_active a ha (by simpa using hfocused)
        exact hex (h.consistent.focused_exists a ha (h.active_output a ha hactive))
      rw [hnew, hold]
  unfold progress
  rw [hactive, hfocused, if_pos ha, if_pos ha]

/-- An activation of an active workspace. -/
theorem activated_isActive (h : Matched g news) (ha : a ∈ news) (hb : b ∈ news)
    (hactive : b.isActive = true) (hout : a.output = b.output) :
    decide (a.id = b.id) = a.isActive := by
  by_cases hab : a = b
  · subst hab
    simp [hactive]
  · have hid : a.id ≠ b.id := fun hid => hab (h.id_inj ha hb hid)
    have hnew : a.isActive = false := by
      by_contra hact
      exact hab (h.consistent.active_unique a ha b hb (by simpa using hact) hactive hout)
    rw [hnew, decide_eq_false hid]

theorem activated_isFocused (h : Matched g news) (ha : a ∈ news) (hb : b ∈ news)
    (hfocused : b.isFocused = true) : decide (a.id = b.id) = a.isFocused := by
  by_cases hab : a = b
  · subst hab
    simp [hfocused]
  · have hid : a.id ≠ b.id := fun hid => hab (h.id_inj ha hb hid)
    have hnew : a.isFocused = false := by
      by_contra hact
      exact hab (h.consistent.focused_unique a ha b hb (by simpa using hact) hfocused)
    rw [hnew, decide_eq_false hid]

/-- A workspace that was active already settles its output without an event. -/
theorem isActive_eq_of_known (h : Matched g news) (ha : a ∈ news) (hb : b ∈ news)
    (hactive : b.isActive = true) (hknown : (g b).isActive = true) (hout : b.output = a.output) :
    (g a).isActive = a.isActive := by
  by_cases hab : a = b
  · subst hab
    rw [hactive, hknown]
  · have hnew : a.isActive = false := by
      by_contra hact
      exact hab (h.consistent.active_unique a ha b hb (by simpa using hact) hactive hout.symm)
    have hold : (g a).isActive = false := by
      by_contra hact
      exact hab (h.active_unique a ha b hb (by simpa using hact) hknown hout.symm)
    rw [hnew, hold]

theorem isFocused_eq_of_known (h : Matched g news) (ha : a ∈ news) (hb : b ∈ news)
    (hfocused : b.isFocused = true) (hknown : (g b).isFocused = true) :
    (g a).isFocused = a.isFocused := by
  by_cases hab : a = b
  · subst hab
    rw [hfocused, hknown]
  · have hnew : a.isFocused = false := by
      by_contra hact
      exact hab (h.consistent.focused_unique a ha b hb (by simpa using hact) hfocused)
    have hold : (g a).isFocused = false := by
      by_contra hact
      exact hab (h.focused_unique a ha b hb (by simpa using hact) hknown)
    rw [hnew, hold]

/-! ### One event -/

variable {k : Workspace → Workspace}

theorem apply_activeWindow (h : Matched g news) (hb : b ∈ news) (w : Option ℕ) :
    apply (table Workspace.id k news) (.workspaceActiveWindowChanged b.id w) =
      .ok (table Workspace.id
        (fun a => if a.id = b.id then { k a with activeWindowId := w } else k a) news) := by
  simp only [apply]
  rw [getElem?_table h.consistent.ids hb, modify_table h.consistent.ids]
  rfl

theorem apply_urgency (h : Matched g news) (hid : ∀ a ∈ news, (k a).id = a.id) (id : ℕ)
    (urgent : Bool) :
    apply (table Workspace.id k news) (.workspaceUrgencyChanged id urgent) =
      .ok (table Workspace.id
        (fun a => if a.id = id then { k a with isUrgent := urgent } else k a) news) := by
  simp only [apply]
  rw [map_table h.consistent.ids]
  refine congrArg Except.ok (table_congr h.consistent.ids fun a ha => ?_)
  rw [hid a ha]

theorem apply_activated (h : Matched g news) (hb : b ∈ news) (focused : Bool) :
    apply (table Workspace.id k news) (.workspaceActivated b.id focused) =
      .ok (table Workspace.id (fun a => activated b.id focused (k b).output (k a)) news) := by
  simp only [apply]
  rw [getElem?_table h.consistent.ids hb]
  exact congrArg Except.ok (map_table h.consistent.ids _)

/-! ### The events of one workspace -/

/-- What the events of the workspace `b` make of the entry of `a`. -/
def settled (b : Workspace) (k : Workspace → Workspace) (a : Workspace) : Workspace :=
  { k a with
    isUrgent := if a.id = b.id then b.isUrgent else (k a).isUrgent
    activeWindowId := if a.id = b.id then b.activeWindowId else (k a).activeWindowId
    isActive := if b.isActive = true ∧ b.output = a.output then a.isActive else (k a).isActive
    isFocused := if b.isFocused = true then a.isFocused else (k a).isFocused }

/-- The state `k` is between what was known and what is new. -/
structure Between (g k : Workspace → Workspace) (news : List Workspace) : Prop where
  id_eq : ∀ a ∈ news, (k a).id = a.id
  output_eq : ∀ a ∈ news, (k a).output = a.output
  isUrgent : ∀ a ∈ news, (k a).isUrgent = (g a).isUrgent ∨ (k a).isUrgent = a.isUrgent
  activeWindowId : ∀ a ∈ news,
    (k a).activeWindowId = (g a).activeWindowId ∨ (k a).activeWindowId = a.activeWindowId
  isActive : ∀ a ∈ news, (k a).isActive = (g a).isActive ∨ (k a).isActive = a.isActive
  isFocused : ∀ a ∈ news, (k a).isFocused = (g a).isFocused ∨ (k a).isFocused = a.isFocused

theorem applyAll_activeWindow (h : Matched g news) (hk : Between g k news) (hb : b ∈ news) :
    applyAll (table Workspace.id k news) (if (g b).activeWindowId ≠ b.activeWindowId then
        [.workspaceActiveWindowChanged b.id b.activeWindowId] else []) =
      .ok (table Workspace.id (fun a => { k a with
        activeWindowId := if a.id = b.id then b.activeWindowId else (k a).activeWindowId })
        news) := by
  split_ifs with hchanged
  · change (apply _ _ >>= pure) = _
    rw [bind_pure, h.apply_activeWindow hb]
    refine congrArg Except.ok (table_congr h.consistent.ids fun a _ => ?_)
    split_ifs <;> rfl
  · refine congrArg Except.ok (table_congr h.consistent.ids fun a ha => ?_)
    split_ifs with hid
    · obtain rfl := h.id_inj ha hb hid
      have hsame : (k a).activeWindowId = a.activeWindowId := by
        rcases hk.activeWindowId a ha with hold | hnew
        · rw [hold, not_not.mp hchanged]
        · exact hnew
      rw [← hsame]
    · rfl

theorem applyAll_urgency (h : Matched g news) (hk : Between g k news) (hb : b ∈ news) :
    applyAll (table Workspace.id k news) (if b.isUrgent ≠ (g b).isUrgent then
        [.workspaceUrgencyChanged b.id b.isUrgent] else []) =
      .ok (table Workspace.id (fun a => { k a with
        isUrgent := if a.id = b.id then b.isUrgent else (k a).isUrgent }) news) := by
  split_ifs with hchanged
  · change (apply _ _ >>= pure) = _
    rw [bind_pure, h.apply_urgency hk.id_eq]
    refine congrArg Except.ok (table_congr h.consistent.ids fun a _ => ?_)
    split_ifs <;> rfl
  · refine congrArg Except.ok (table_congr h.consistent.ids fun a ha => ?_)
    split_ifs with hid
    · obtain rfl := h.id_inj ha hb hid
      have hsame : (k a).isUrgent = a.isUrgent := by
        rcases hk.isUrgent a ha with hold | hnew
        · rw [hold, not_not.mp hchanged]
        · exact hnew
      rw [← hsame]
    · rfl

theorem applyAll_activation (h : Matched g news) (hk : Between g k news) (hb : b ∈ news) :
    applyAll (table Workspace.id k news)
        (if b.isFocused && !(g b).isFocused then [.workspaceActivated b.id true]
        else if b.isActive && !(g b).isActive then [.workspaceActivated b.id false]
        else []) =
      .ok (table Workspace.id (fun a => { k a with
        isActive := if b.isActive = true ∧ b.output = a.output then a.isActive
          else (k a).isActive
        isFocused := if b.isFocused = true then a.isFocused else (k a).isFocused }) news) := by
  -- where the focus was there already, or is elsewhere, the entries agree on it
  have hkeep : ¬(b.isFocused = true ∧ (g b).isFocused = false) → ∀ a ∈ news,
      (k a).isFocused = if b.isFocused = true then a.isFocused else (k a).isFocused := by
    intro hnot a ha
    split_ifs with hfocused
    · have hknown : (g b).isFocused = true := by simpa [hfocused] using hnot
      rcases hk.isFocused a ha with hold | hnew
      · rw [hold, h.isFocused_eq_of_known ha hb hfocused hknown]
      · exact hnew
    · rfl
  have hactivated : b.isActive = true → ∀ a ∈ news,
      (if (k a).output = (k b).output then decide ((k a).id = b.id) else (k a).isActive) =
        if b.isActive = true ∧ b.output = a.output then a.isActive else (k a).isActive := by
    intro hactive a ha
    rw [hk.output_eq a ha, hk.output_eq b hb, hk.id_eq a ha]
    by_cases hout : a.output = b.output
    · rw [if_pos hout, if_pos ⟨hactive, hout.symm⟩, h.activated_isActive ha hb hactive hout]
    · rw [if_neg hout, if_neg fun hand => hout hand.2.symm]
  by_cases hfocus : (b.isFocused && !(g b).isFocused) = true
  · rw [if_pos hfocus]
    simp only [Bool.and_eq_true, Bool.not_eq_true'] at hfocus
    have hactive := h.consistent.focused_active b hb hfocus.1
    change (apply _ _ >>= pure) = _
    rw [bind_pure, h.apply_activated hb]
    refine congrArg Except.ok (table_congr h.consistent.ids fun a ha => ?_)
    simp only [activated, if_true]
    rw [hactivated hactive a ha, if_pos hfocus.1, hk.id_eq a ha,
      h.activated_isFocused ha hb hfocus.1]
  · rw [if_neg hfocus]
    simp only [Bool.and_eq_true, Bool.not_eq_true'] at hfocus
    by_cases hactivate : (b.isActive && !(g b).isActive) = true
    · rw [if_pos hactivate]
      simp only [Bool.and_eq_true, Bool.not_eq_true'] at hactivate
      change (apply _ _ >>= pure) = _
      rw [bind_pure, h.apply_activated hb]
      refine congrArg Except.ok (table_congr h.consistent.ids fun a ha => ?_)
      simp only [activated]
      rw [hactivated hactivate.1 a ha, if_neg Bool.false_ne_true, ← hkeep hfocus a ha]
    · rw [if_neg hactivate]
      simp only [Bool.and_eq_true, Bool.not_eq_true'] at hactivate
      refine congrArg Except.ok (table_congr h.consistent.ids fun a ha => ?_)
      have hsame : (k a).isActive =
          if b.isActive = true ∧ b.output = a.output then a.isActive else (k a).isActive := by
        split_ifs with hactive
        · have hknown : (g b).isActive = true := by simpa [hactive.1] using hactivate
          rcases hk.isActive a ha with hold | hnew
          · rw [hold, h.isActive_eq_of_known ha hb hactive.1 hknown hactive.2]
          · exact hnew
        · rfl
      rw [← hsame, ← hkeep hfocus a ha]

theorem applyAll_deltas (h : Matched g news) (hk : Between g k news) (hb : b ∈ news) :
    applyAll (table Workspace.id k news) (deltas (g b) b) =
      .ok (table Workspace.id (settled b k) news) := by
  unfold deltas
  have hwindow := h.applyAll_activeWindow hk hb
  set k₁ : Workspace → Workspace := fun a => { k a with
    activeWindowId := if a.id = b.id then b.activeWindowId else (k a).activeWindowId } with hk₁
  have hbetween₁ : Between g k₁ news := by
    refine ⟨hk.id_eq, hk.output_eq, hk.isUrgent, fun a ha => ?_, hk.isActive, hk.isFocused⟩
    simp only [hk₁]
    split_ifs with hid
    · exact .inr (by rw [h.id_inj ha hb hid])
    · exact hk.activeWindowId a ha
  have hurgency := h.applyAll_urgency hbetween₁ hb
  set k₂ : Workspace → Workspace := fun a => { k₁ a with
    isUrgent := if a.id = b.id then b.isUrgent else (k₁ a).isUrgent } with hk₂
  have hbetween₂ : Between g k₂ news := by
    refine ⟨hk.id_eq, hk.output_eq, fun a ha => ?_, hbetween₁.activeWindowId, hk.isActive,
      hk.isFocused⟩
    simp only [hk₂]
    split_ifs with hid
    · exact .inr (by rw [h.id_inj ha hb hid])
    · exact hk.isUrgent a ha
  have hactivation := h.applyAll_activation hbetween₂ hb
  unfold applyAll at *
  rw [List.foldlM_append, List.foldlM_append, hwindow]
  exact (congrArg (· >>= _) hurgency).trans hactivation

/-! ### All workspaces -/

theorem between_progress : Between g (progress g done) news := by
  refine ⟨fun _ _ => rfl, fun _ _ => rfl, ?_, ?_, ?_, ?_⟩ <;> intro a _ <;>
    simp only [progress] <;> split_ifs <;> simp

theorem settled_progress (h : Matched g news) (ha : a ∈ news) (hb : b ∈ news) :
    settled b (progress g done) a = progress g (done ++ [b]) a := by
  have hid : a.id = b.id ↔ a = b := ⟨h.id_inj ha hb, fun hab => hab ▸ rfl⟩
  have hmem : a ∈ done ++ [b] ↔ a = b ∨ a ∈ done := by
    rw [List.mem_append, List.mem_singleton, or_comm]
  have hactive : (∃ c ∈ done ++ [b], c.isActive = true ∧ c.output = a.output) ↔
      (b.isActive = true ∧ b.output = a.output) ∨
        ∃ c ∈ done, c.isActive = true ∧ c.output = a.output := by
    simp [or_and_right, exists_or, or_comm]
  have hfocused : (∃ c ∈ done ++ [b], c.isFocused = true) ↔
      b.isFocused = true ∨ ∃ c ∈ done, c.isFocused = true := by
    simp [or_and_right, exists_or, or_comm]
  simp only [settled, progress, hid, hmem, hactive, hfocused]
  by_cases hab : a = b
  · subst hab
    simp only [if_true, true_or, ite_or]
  · simp only [hab, if_false, false_or, ite_or]

theorem applyAll_progress (h : Matched g news) {rest : List Workspace}
    (done : List Workspace) (hrest : ∀ b ∈ rest, b ∈ news) :
    applyAll (table Workspace.id (progress g done) news) (rest.flatMap fun b => deltas (g b) b) =
      .ok (table Workspace.id (progress g (done ++ rest)) news) := by
  induction rest generalizing done with
  | nil =>
    rw [List.append_nil]
    rfl
  | cons b rest ih =>
    have hb := hrest b List.mem_cons_self
    have hfirst := h.applyAll_deltas between_progress hb (k := progress g done)
    rw [table_congr h.consistent.ids fun a ha => h.settled_progress ha hb] at hfirst
    have hothers := ih (done ++ [b]) fun c hc => hrest c (List.mem_cons_of_mem _ hc)
    rw [List.append_assoc, List.singleton_append] at hothers
    unfold applyAll at *
    rw [List.flatMap_cons, List.foldlM_append, hfirst]
    exact hothers

/-- The small events of all workspaces lead from the known workspaces to the new ones. -/
theorem applyAll_news (h : Matched g news) :
    applyAll (table Workspace.id g news) (news.flatMap fun b => deltas (g b) b) =
      .ok (table Workspace.id id news) := by
  have hstart : table Workspace.id g news = table Workspace.id (progress g []) news :=
    table_congr h.consistent.ids fun a ha => (h.progress_nil ha).symm
  rw [hstart, h.applyAll_progress [] fun _ hb => hb, List.nil_append]
  exact congrArg Except.ok (table_congr h.consistent.ids fun a ha => h.progress_all ha)

end Matched

/-! ### Refreshing -/

/-- What is known of the workspaces of a layout hangs together if it comes from a
layout itself. -/
theorem matched_of_table {olds news : List Workspace} (hold : Consistent olds)
    (hnew : Consistent news)
    (h : ∀ a ∈ news,
      (table Workspace.id id olds)[a.id]? = some (known (table Workspace.id id olds) a) ∧
      (known (table Workspace.id id olds) a).idx = a.idx ∧
      (known (table Workspace.id id olds) a).name = a.name ∧
      (known (table Workspace.id id olds) a).output = a.output) :
    Matched (known (table Workspace.id id olds)) news := by
  set g := known (table Workspace.id id olds)
  have hmem : ∀ a ∈ news, g a ∈ olds ∧ (g a).id = a.id := by
    intro a ha
    by_cases hid : a.id ∈ olds.map Workspace.id
    · obtain ⟨o, ho, hoid⟩ := List.mem_map.mp hid
      have hget := getElem?_table (g := id) hold.ids ho
      rw [hoid, (h a ha).1] at hget
      obtain rfl := Option.some.inj hget
      exact ⟨ho, hoid⟩
    · have hget := (h a ha).1
      rw [getElem?_table_of_not_mem hid] at hget
      cases hget
  have hinj : ∀ a ∈ news, ∀ b ∈ news, g a = g b → a = b := fun a ha b hb hab =>
    List.inj_on_of_nodup_map hnew.ids ha hb
      (by rw [← (hmem a ha).2, hab, (hmem b hb).2])
  have hout : ∀ a ∈ news, (g a).output = a.output := fun a ha => (h a ha).2.2.2
  refine ⟨hnew, fun a ha => (hmem a ha).2, fun a ha => (h a ha).2.1, fun a ha => (h a ha).2.2.1,
    hout, ?_, ?_, ?_, ?_⟩
  · intro a ha b hb hactive hactive' hab
    refine hinj a ha b hb (hold.active_unique _ (hmem a ha).1 _ (hmem b hb).1 hactive hactive' ?_)
    rw [hout a ha, hout b hb, hab]
  · intro a ha hactive
    rw [← hout a ha]
    exact hold.active_output _ (hmem a ha).1 hactive
  · intro a ha
    exact hold.focused_active _ (hmem a ha).1
  · intro a ha b hb hfocused hfocused'
    exact hinj a ha b hb
      (hold.focused_unique _ (hmem a ha).1 _ (hmem b hb).1 hfocused hfocused')

theorem refreshWorkspaces_snapshot {old layout : LayoutView} (hold : old.Valid)
    (hnew : layout.Valid) : refreshWorkspaces (snapshot old) layout = .ok (snapshot layout) := by
  have hfull : (snapshot old).applyAll [.workspacesChanged (layout.workspaces.map
      (ipcWorkspace (layout.activeWorkspace.map (·.id))))] = .ok (snapshot layout) := rfl
  unfold refreshWorkspaces refreshEvents
  dsimp only
  split
  · rename_i events hevents
    split_ifs with hremoved
    · exact hfull
    · obtain ⟨hknown, rfl⟩ := smallEvents_eq hevents
      have hmatched := matched_of_table hold.consistent hnew.consistent hknown
      have hstate : snapshot old = table Workspace.id (known (snapshot old))
          (layout.workspaces.map (ipcWorkspace (layout.activeWorkspace.map (·.id)))) := by
        refine (eq_table_iff hnew.consistent.ids).mpr ⟨fun a ha => (hknown a ha).1, ?_⟩
        intro id hid
        by_contra hsome
        refine hremoved (List.any_eq_true.mpr ⟨id, ?_, ?_⟩)
        · rw [Std.ExtTreeMap.mem_keys, Std.ExtTreeMap.mem_iff_isSome_getElem?]
          exact Option.isSome_iff_ne_none.mpr hsome
        · rw [List.map_map] at hid
          exact decide_eq_true hid
      have hnews := hmatched.applyAll_news
      exact (congrArg (applyAll · _) hstate).trans hnews
  · exact hfull

/-- The server over its refreshes: it starts without workspaces. -/
def server : Machine WorkspacesState LayoutView where
  initial state := state = ∅
  step := refreshWorkspaces

/-- After any number of refreshes, the events of the next one lead to the workspaces
of the layout. -/
theorem refresh_replays {state : WorkspacesState} {layout : LayoutView}
    (hstate : server.ReachableBy (fun _ l => l.Valid) state) (hlayout : layout.Valid) :
    state.applyAll (refreshEvents state layout) = .ok (snapshot layout) := by
  have hsnapshot : ∃ old : LayoutView, old.Valid ∧ state = snapshot old := by
    refine hstate.invariant (P := fun state => ∃ old : LayoutView, old.Valid ∧ state = snapshot old)
      ?_ ?_
    · rintro _ rfl
      exact ⟨.noOutputs [], LayoutView.valid_noOutputs, rfl⟩
    · rintro _ layout ⟨old, hold, rfl⟩ hlayout next hnext
      have hreturns := refreshWorkspaces_snapshot hold hlayout
      exact ⟨layout, hlayout, Except.ok.inj (hnext.symm.trans hreturns)⟩
  obtain ⟨old, hold, rfl⟩ := hsnapshot
  exact refreshWorkspaces_snapshot hold hlayout

/-! ### A concrete run -/

namespace Sample

/-- Two outputs: the first with the workspaces 1 and 2, the second with 3 and 4. -/
def twoOutputs (active : ℕ) (activeMonitorIdx : ℕ) (urgent : Bool) : LayoutView :=
  .normal [
    { outputName := "eDP-1"
      workspaces := [⟨1, some "web", urgent, some 10⟩, ⟨2, none, false, none⟩]
      activeWorkspaceIdx := active },
    { outputName := "DP-1"
      workspaces := [⟨3, none, false, some 11⟩, ⟨4, none, false, none⟩]
      activeWorkspaceIdx := 0 }] activeMonitorIdx

theorem twoOutputs_valid {active activeMonitorIdx : ℕ} (hactive : active < 2)
    (hmonitor : activeMonitorIdx < 2) (urgent : Bool) :
    (twoOutputs active activeMonitorIdx urgent).Valid where
  ids := by simp [twoOutputs, LayoutView.workspaces]
  outputNames := by simp [twoOutputs, LayoutView.monitors]
  active_lt := by simpa [twoOutputs, LayoutView.monitors] using hactive
  activeMonitor_lt := by
    rintro monitors i heq
    cases heq
    simpa using hmonitor

end Sample

open Sample in
theorem refresh_replays_two :
    (snapshot (twoOutputs 0 0 true)).applyAll
        (refreshEvents (snapshot (twoOutputs 0 0 true)) (twoOutputs 1 1 false)) =
      .ok (snapshot (twoOutputs 1 1 false)) ∧
    refreshEvents (snapshot (twoOutputs 0 0 true)) (twoOutputs 1 1 false) =
      [.workspaceUrgencyChanged 1 false, .workspaceActivated 2 false,
        .workspaceActivated 3 true] := by
  have hfirst : (twoOutputs 0 0 true).Valid := twoOutputs_valid (by decide) (by decide) true
  refine ⟨refresh_replays (.step (.initial rfl) (twoOutputs 0 0 true) hfirst ?_)
    (twoOutputs_valid (by decide) (by decide) false), by decide +kernel⟩
  exact refreshWorkspaces_snapshot LayoutView.valid_noOutputs hfirst

end Sol.Ipc
