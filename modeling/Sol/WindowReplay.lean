import Sol.WindowEvents
import Sol.Machine

/-!
# Replaying the event stream of windows

The events of a refresh lead a client from the windows it knows to those of the
layout.  The windows are brought up to date one after another, but for their places
and for the focus: a window that gets the focus settles the focus of all others, and
until then the old focus stays.  The places come next, then the windows that are gone
are dropped, and a focus that went to no window is taken away last.

* `Leads`: what events do to the windows that a client knows;
* `windowsAfter`: the windows once the events of some of them were applied;
* `refreshWindows_snapshot`: one refresh;
* `refreshWindows_replays`: any number of them.
-/

namespace Sol.Ipc

open Panicking Tables WindowsState

/-- The windows that a client knows, by their ids. -/
abbrev Known := ℕ → Option Window

/-- Every window stands under its own id. -/
def Keyed (known : Known) : Prop := ∀ k win, known k = some win → win.id = k

/-- The events lead a client without panicking from some windows to others. -/
def Leads (known : Known) (events : List WindowEvent) (known' : Known) : Prop :=
  ∀ state : WindowsState, (∀ k, state[k]? = known k) →
    ∃ state', state.applyAll events = .ok state' ∧ ∀ k, state'[k]? = known' k

namespace Leads

variable {known known₁ known₂ known' : Known} {events events₁ events₂ : List WindowEvent}

theorem nil : Leads known [] known := fun state h => ⟨state, rfl, h⟩

theorem append (h₁ : Leads known events₁ known₁) (h₂ : Leads known₁ events₂ known₂) :
    Leads known (events₁ ++ events₂) known₂ := by
  intro state hstate
  obtain ⟨state₁, happly₁, hstate₁⟩ := h₁ state hstate
  obtain ⟨state₂, happly₂, hstate₂⟩ := h₂ state₁ hstate₁
  refine ⟨state₂, ?_, hstate₂⟩
  unfold applyAll at *
  rw [List.foldlM_append, happly₁]
  exact happly₂

theorem of_apply {event : WindowEvent}
    (h : ∀ state : WindowsState, (∀ k, state[k]? = known k) →
      ∃ state', state.apply event = .ok state' ∧ ∀ k, state'[k]? = known' k) :
    Leads known [event] known' := by
  intro state hstate
  obtain ⟨state', happly, hstate'⟩ := h state hstate
  refine ⟨state', ?_, hstate'⟩
  change (state.apply event >>= pure) = _
  rw [bind_pure, happly]

theorem congr (h : Leads known events known₁) (heq : ∀ k, known₁ k = known' k) :
    Leads known events known' := by
  obtain rfl : known₁ = known' := funext heq
  exact h

/-- An event that is sent only where it is news. -/
theorem ite {c : Prop} [Decidable c] (hsent : c → Leads known events known')
    (hskipped : ¬c → ∀ k, known k = known' k) :
    Leads known (if c then events else []) known' := by
  by_cases hc : c
  · rw [if_pos hc]
    exact hsent hc
  · rw [if_neg hc]
    exact nil.congr (hskipped hc)

end Leads

/-! ### Single events -/

section Events

variable {known : Known}

theorem leads_opened (hkeyed : Keyed known) (window : Window) :
    Leads known [.windowOpenedOrChanged window] fun k =>
      if k = window.id then some window
      else if window.isFocused then (known k).map fun win => { win with isFocused := false }
      else known k := by
  refine Leads.of_apply fun state hstate => ⟨_, rfl, fun k => ?_⟩
  have hinsert : (state.insert window.id window)[k]? =
      if k = window.id then some window else known k := by
    rw [Std.ExtTreeMap.getElem?_insert, hstate k]
    simp only [Std.LawfulEqCmp.compare_eq_iff_eq, eq_comm (a := window.id)]
  split_ifs with hfocused hk hk
  · rw [Std.ExtTreeMap.getElem?_map, hinsert, if_pos hk]
    simp
  · rw [Std.ExtTreeMap.getElem?_map, hinsert, if_neg hk]
    cases hwin : known k with
    | none => rfl
    | some win => simp [hkeyed k win hwin, hk]
  · rw [hinsert, if_pos hk]
  · rw [hinsert, if_neg hk]

theorem leads_closed {id : ℕ} (hid : known id ≠ none) :
    Leads known [.windowClosed id] fun k => if k = id then none else known k := by
  refine Leads.of_apply fun state hstate => ⟨state.erase id, ?_, fun k => ?_⟩
  · obtain ⟨win, hwin⟩ := Option.ne_none_iff_exists'.mp hid
    simp only [apply, hstate id, hwin]
    rfl
  · rw [Std.ExtTreeMap.getElem?_erase, hstate k]
    simp only [Std.LawfulEqCmp.compare_eq_iff_eq, eq_comm (a := id)]

theorem leads_focusChanged (hkeyed : Keyed known) (id : Option ℕ) :
    Leads known [.windowFocusChanged id] fun k =>
      (known k).map fun win => { win with isFocused := some k = id } := by
  refine Leads.of_apply fun state hstate => ⟨_, rfl, fun k => ?_⟩
  rw [Std.ExtTreeMap.getElem?_map, hstate k]
  cases hwin : known k with
  | none => rfl
  | some win => simp [hkeyed k win hwin]

/-- The windows with that of an id changed. -/
def touched (known : Known) (id : ℕ) (f : Window → Window) : Known := fun k =>
  (known k).map fun win => if k = id then f win else win

theorem Keyed.touched (hkeyed : Keyed known) (id : ℕ) {f : Window → Window}
    (hf : ∀ win, (f win).id = win.id) : Keyed (touched known id f) := by
  intro k win hwin
  obtain ⟨win', hwin', rfl⟩ := Option.map_eq_some_iff.mp hwin
  split_ifs
  · exact (hf win').trans (hkeyed k win' hwin')
  · exact hkeyed k win' hwin'

theorem leads_focusTimestampChanged (hkeyed : Keyed known) (id : ℕ) (time : Option Timestamp) :
    Leads known [.windowFocusTimestampChanged id time]
      (touched known id fun win => { win with focusTimestamp := time }) := by
  refine Leads.of_apply fun state hstate => ⟨_, rfl, fun k => ?_⟩
  rw [Std.ExtTreeMap.getElem?_map, hstate k]
  cases hwin : known k with
  | none => simp [touched, hwin]
  | some win => simp [touched, hwin, hkeyed k win hwin]

theorem leads_urgencyChanged (hkeyed : Keyed known) (id : ℕ) (urgent : Bool) :
    Leads known [.windowUrgencyChanged id urgent]
      (touched known id fun win => { win with isUrgent := urgent }) := by
  refine Leads.of_apply fun state hstate => ⟨_, rfl, fun k => ?_⟩
  rw [Std.ExtTreeMap.getElem?_map, hstate k]
  cases hwin : known k with
  | none => simp [touched, hwin]
  | some win => simp [touched, hwin, hkeyed k win hwin]

/-- A change of one window that is sent only where it is news. -/
theorem Leads.touched {id : ℕ} {f : Window → Window} {events : List WindowEvent} {c : Prop}
    [Decidable c] (hsent : Leads known events (Ipc.touched known id f))
    (hskipped : ¬c → ∀ win, known id = some win → f win = win) :
    Leads known (if c then events else []) (Ipc.touched known id f) := by
  refine Leads.ite (fun _ => hsent) (fun hc k => ?_)
  unfold Ipc.touched
  cases hwin : known k with
  | none => rfl
  | some win =>
    by_cases hk : k = id
    · subst hk
      simp [hskipped hc win hwin]
    · simp [hk]

/-- The place that a batch of changes leaves a window at. -/
def relocated (changes : List (ℕ × WindowLayout)) (k : ℕ) (win : Window) : Window :=
  changes.foldl (fun win change => if change.1 = k then { win with layout := change.2 } else win)
    win

theorem changeLayouts_known {changes : List (ℕ × WindowLayout)}
    (hchanges : ∀ change ∈ changes, known change.1 ≠ none) {state : WindowsState}
    (hstate : ∀ k, state[k]? = known k) :
    ∃ state', state.changeLayouts changes = .ok state' ∧
      ∀ k, state'[k]? = (known k).map (relocated changes k) := by
  induction changes generalizing known state with
  | nil => exact ⟨state, rfl, fun k => by rw [hstate k]; exact Option.map_id'.symm⟩
  | cons change changes ih =>
    obtain ⟨id, update⟩ := change
    obtain ⟨win, hwin⟩ := Option.ne_none_iff_exists'.mp (hchanges _ List.mem_cons_self)
    have hmodify : ∀ k, (state.modify id fun win => { win with layout := update })[k]? =
        (known k).map fun win => if id = k then { win with layout := update } else win := by
      intro k
      rw [Std.ExtTreeMap.getElem?_modify, hstate k]
      by_cases hk : id = k
      · subst hk
        simp [hstate]
      · simp [Std.LawfulEqCmp.compare_eq_iff_eq, hk]
    obtain ⟨state', happly, hstate'⟩ := ih (fun change hmem => by
      simpa using hchanges change (List.mem_cons_of_mem _ hmem)) hmodify
    refine ⟨state', ?_, fun k => ?_⟩
    · rw [changeLayouts, hstate id, hwin]
      exact happly
    · rw [hstate' k, Option.map_map]
      rfl

theorem leads_layoutsChanged {changes : List (ℕ × WindowLayout)}
    (hchanges : ∀ change ∈ changes, known change.1 ≠ none) :
    Leads known [.windowLayoutsChanged changes] fun k => (known k).map (relocated changes k) :=
  Leads.of_apply fun _ hstate => changeLayouts_known hchanges hstate

/-- Windows that are dropped one after another. -/
theorem leads_allClosed {ids : List ℕ} (hids : ids.Nodup) (hknown : ∀ id ∈ ids, known id ≠ none) :
    Leads known (ids.map .windowClosed) fun k => if k ∈ ids then none else known k := by
  induction ids generalizing known with
  | nil => exact Leads.nil.congr fun k => by simp
  | cons id ids ih =>
    rw [List.nodup_cons] at hids
    have hfirst := leads_closed (hknown id List.mem_cons_self)
    have hothers := @ih (fun k => if k = id then none else known k) hids.2 fun k hk => by
      have hne : k ≠ id := fun heq => hids.1 (heq ▸ hk)
      simpa [hne] using hknown k (List.mem_cons_of_mem _ hk)
    refine (hfirst.append hothers).congr fun k => ?_
    by_cases hk : k = id <;> simp [hk]

end Events

/-! ### The windows one after another -/

/-- Whether a window is sent as a whole. -/
def isReplaced (old new : Window) : Bool :=
  old.workspaceId ≠ new.workspaceId || old.isFloating ≠ new.isFloating ||
    old.title ≠ new.title || old.appId ≠ new.appId

/-- The events that lead from what a client knows of a window to what it is, but for
its place. -/
def windowNews (old : Option Window) (new : Window) : List WindowEvent :=
  match old with
  | none => [.windowOpenedOrChanged new]
  | some win =>
    if isReplaced win new then [.windowOpenedOrChanged new]
    else
      (if new.isFocused && !win.isFocused then [.windowFocusChanged (some new.id)] else []) ++
      (if new.focusTimestamp ≠ win.focusTimestamp then
        [.windowFocusTimestampChanged new.id new.focusTimestamp] else []) ++
      if new.isUrgent ≠ win.isUrgent then [.windowUrgencyChanged new.id new.isUrgent] else []

theorem windowEvents_eq (state : WindowsState) (mapped : MappedView) (workspaceId : Option ℕ)
    (layout : WindowLayout) : windowEvents state mapped workspaceId layout =
      windowNews state[mapped.id]? (makeIpcWindow mapped workspaceId layout) := by
  unfold windowEvents
  split <;> rename_i hwin <;> rw [hwin] <;> rfl

/-- The change of a window's place, unless the window is sent as a whole. -/
def layoutNews (old : Option Window) (new : Window) : Option (ℕ × WindowLayout) :=
  match old with
  | none => none
  | some win =>
    if isReplaced win new then none
    else if win.layout ≠ new.layout then some (new.id, new.layout) else none

theorem layoutChange_eq (state : WindowsState) (mapped : MappedView) (workspaceId : Option ℕ)
    (layout : WindowLayout) : layoutChange state mapped workspaceId layout =
      layoutNews state[mapped.id]? (makeIpcWindow mapped workspaceId layout) := by
  unfold layoutChange
  split <;> rename_i hwin <;> rw [hwin] <;> rfl

/-- A window after its events, while the focus is not settled. -/
def refreshed (old : Option Window) (new : Window) : Window :=
  match old with
  | none => new
  | some win =>
    if isReplaced win new then new
    else { win with isUrgent := new.isUrgent, focusTimestamp := new.focusTimestamp }

/-- Whether a window among those done has the focus. -/
def hasFocused (done : List Window) : Bool := done.any (·.isFocused)

/-- A window, with its focus where that is settled. -/
def withFocus (settled focused : Bool) (win : Window) : Window :=
  { win with isFocused := if settled then focused else win.isFocused }

/-- The windows once the events of the windows `done` were applied. -/
def windowsAfter (old : Known) (done : List Window) : Known := fun k =>
  match done.find? (·.id = k) with
  | some new => some (withFocus (hasFocused done) new.isFocused (refreshed (old k) new))
  | none => (old k).map (withFocus (hasFocused done) false)

/-- What a client knows, and the windows of a layout. -/
structure Matching (old : Known) (news : List Window) : Prop where
  ids : (news.map Window.id).Nodup
  keyed : Keyed old
  old_focused : ∀ k k' win win', old k = some win → old k' = some win' →
    win.isFocused = true → win'.isFocused = true → k = k'
  new_focused : ∀ a ∈ news, ∀ b ∈ news, a.isFocused = true → b.isFocused = true → a = b
  pid : ∀ a ∈ news, ∀ win, old a.id = some win → win.pid = a.pid

namespace Matching

variable {old : Known} {news done rest : List Window} {a b : Window}

theorem id_inj (h : Matching old news) (ha : a ∈ news) (hb : b ∈ news) (hid : a.id = b.id) :
    a = b :=
  List.inj_on_of_nodup_map h.ids ha hb hid

theorem refreshed_id (h : Matching old news) (a : Window) : (refreshed (old a.id) a).id = a.id := by
  unfold refreshed
  split
  · rfl
  · rename_i win hwin
    split_ifs
    · rfl
    · exact h.keyed _ win hwin

/-- A window that is not focused, and was not, stays so. -/
theorem refreshed_isFocused (ha : a.isFocused = false)
    (hold : ∀ win, old a.id = some win → win.isFocused = false) :
    (refreshed (old a.id) a).isFocused = false := by
  unfold refreshed
  split
  · exact ha
  · rename_i win hwin
    split_ifs
    · exact ha
    · exact hold win hwin

theorem find?_id {k : ℕ} (hfind : done.find? (·.id = k) = some a) : a ∈ done ∧ a.id = k :=
  ⟨List.mem_of_find?_eq_some hfind, by simpa using List.find?_some hfind⟩

theorem keyed_windowsAfter (h : Matching old news) : Keyed (windowsAfter old done) := by
  intro k win hwin
  unfold windowsAfter at hwin
  split at hwin
  · rename_i new hfind
    obtain ⟨-, rfl⟩ := find?_id hfind
    obtain rfl := Option.some.inj hwin
    exact h.refreshed_id new
  · obtain ⟨win', hwin', rfl⟩ := Option.map_eq_some_iff.mp hwin
    exact h.keyed k win' hwin'

theorem windowsAfter_nil : windowsAfter old [] = old := by
  funext k
  change (old k).map (withFocus false false) = old k
  cases old k <;> rfl

/-- The next window is not among those done. -/
theorem find?_next (h : Matching old (done ++ b :: rest)) : done.find? (·.id = b.id) = none := by
  rw [List.find?_eq_none]
  intro a ha hid
  have hids := h.ids
  rw [List.map_append, List.map_cons, List.nodup_append] at hids
  exact hids.2.2 _ (List.mem_map_of_mem ha) _ List.mem_cons_self (by simpa using hid)

theorem find?_append (h : Matching old (done ++ b :: rest)) (k : ℕ) :
    (done ++ [b]).find? (·.id = k) = if k = b.id then some b else done.find? (·.id = k) := by
  rw [List.find?_append]
  split_ifs with hk
  · rw [hk, h.find?_next]
    simp
  · have hne : b.id ≠ k := Ne.symm hk
    simp [hne]

/-- Another window that has the focus along with the next one does not exist. -/
theorem not_isFocused (h : Matching old (done ++ b :: rest)) (hb : b.isFocused = true)
    (ha : a ∈ done) : a.isFocused = false := by
  by_contra hfocused
  have heq := h.new_focused a (by simp [ha]) b (by simp) (by simpa using hfocused) hb
  have hnext := h.find?_next
  rw [List.find?_eq_none] at hnext
  exact hnext a ha (by simp [heq])

theorem hasFocused_append : hasFocused (done ++ [b]) = (hasFocused done || b.isFocused) := by
  simp [hasFocused]

/-- With the next window focused, no window was before. -/
theorem hasFocused_eq_false (h : Matching old (done ++ b :: rest)) (hb : b.isFocused = true) :
    hasFocused done = false := by
  rw [hasFocused, List.any_eq_false]
  intro a ha
  simp [h.not_isFocused hb ha]

/-- The windows once the next window is done, too. -/
theorem windowsAfter_append (h : Matching old (done ++ b :: rest)) (k : ℕ) :
    windowsAfter old (done ++ [b]) k =
      if k = b.id then
        some (withFocus (hasFocused done || b.isFocused) b.isFocused (refreshed (old b.id) b))
      else if b.isFocused then
        (windowsAfter old done k).map fun win => { win with isFocused := false }
      else windowsAfter old done k := by
  have hfind := h.find?_append k
  unfold windowsAfter
  rw [hfind, hasFocused_append]
  split_ifs with hk hb
  · rw [hk]
  · cases hnew : done.find? (·.id = k) with
    | none =>
      change (old k).map _ = ((old k).map _).map _
      rw [Option.map_map]
      simp only [hb, Bool.or_true]
      rfl
    | some new =>
      have hnot := h.not_isFocused hb (find?_id hnew).1
      simp [withFocus, hb, hnot]
  · simp [hb]

/-- What is known of the next window. -/
theorem windowsAfter_next (h : Matching old (done ++ b :: rest)) :
    windowsAfter old done b.id = (old b.id).map (withFocus (hasFocused done) false) := by
  unfold windowsAfter
  rw [h.find?_next]

/-- Where the focused window had the focus before, no other one has it. -/
theorem windowsAfter_kept (h : Matching old (done ++ b :: rest)) {win a : Window}
    (hwin : old b.id = some win) (hb : b.isFocused = true) (hfocused : win.isFocused = true) {k : ℕ}
    (hk : k ≠ b.id) (ha : windowsAfter old done k = some a) : a.isFocused = false := by
  have hold : ∀ k' win', old k' = some win' → k' ≠ b.id → win'.isFocused = false := by
    intro k' win' hwin' hne
    by_contra hfocused'
    exact hne (h.old_focused _ _ _ _ hwin' hwin (by simpa using hfocused') hfocused)
  unfold windowsAfter at ha
  rw [h.hasFocused_eq_false hb] at ha
  split at ha
  · rename_i new hfind
    obtain ⟨hmem, rfl⟩ := find?_id hfind
    obtain rfl := Option.some.inj ha
    exact refreshed_isFocused (h.not_isFocused hb hmem) fun win' hwin' => hold _ _ hwin' hk
  · obtain ⟨win', hwin', rfl⟩ := Option.map_eq_some_iff.mp ha
    exact hold _ _ hwin' hk

theorem leads_focus (h : Matching old (done ++ b :: rest)) {win : Window}
    (hwin : old b.id = some win) :
    Leads (windowsAfter old done)
      (if (b.isFocused && !win.isFocused) = true then [.windowFocusChanged (some b.id)] else [])
      fun k => (windowsAfter old done k).map fun a =>
        { a with isFocused := if b.isFocused then decide (k = b.id) else a.isFocused } := by
  refine Leads.ite (fun hnews => ?_) (fun hskipped k => ?_)
  · simp only [Bool.and_eq_true] at hnews
    refine (leads_focusChanged h.keyed_windowsAfter (some b.id)).congr fun k => ?_
    simp [hnews.1]
  · cases hknown : windowsAfter old done k with
    | none => rfl
    | some a =>
      by_cases hb : b.isFocused = true
      · have hfocused : win.isFocused = true := by simpa [hb] using hskipped
        by_cases hk : k = b.id
        · subst hk
          rw [h.windowsAfter_next, hwin, h.hasFocused_eq_false hb] at hknown
          obtain rfl := Option.some.inj hknown
          simp [withFocus, hb, hfocused]
        · simp [hb, hk, ← h.windowsAfter_kept hwin hb hfocused hk hknown]
      · simp [hb]

theorem leads_window (h : Matching old (done ++ b :: rest)) :
    Leads (windowsAfter old done) (windowNews (old b.id) b) (windowsAfter old (done ++ [b])) := by
  have hnext := h.find?_next
  have hwhole : refreshed (old b.id) b = b →
      Leads (windowsAfter old done) [.windowOpenedOrChanged b]
        (windowsAfter old (done ++ [b])) := by
    intro hrefreshed
    refine (leads_opened h.keyed_windowsAfter b).congr fun k => ?_
    rw [h.windowsAfter_append k, hrefreshed]
    have hfocus : withFocus (hasFocused done || b.isFocused) b.isFocused b = b := by
      unfold withFocus
      split_ifs <;> rfl
    rw [hfocus]
  cases hwin : old b.id with
  | none => exact hwhole (by rw [hwin]; rfl)
  | some win =>
    by_cases hreplaced : isReplaced win b = true
    · have hrefreshed : refreshed (old b.id) b = b := by
        rw [hwin]
        simp [refreshed, hreplaced]
      simpa [windowNews, hreplaced] using hwhole hrefreshed
    · have hfocus := h.leads_focus hwin
      have hnext := h.windowsAfter_next
      rw [hwin] at hnext
      set known₁ : Known := fun k => (windowsAfter old done k).map fun a =>
        { a with isFocused := if b.isFocused then decide (k = b.id) else a.isFocused } with hknown₁
      have hkeyed : Keyed known₁ := by
        intro k a ha
        obtain ⟨a', ha', rfl⟩ := Option.map_eq_some_iff.mp ha
        exact h.keyed_windowsAfter k a' ha'
      set known₂ : Known := touched known₁ b.id fun a =>
        { a with focusTimestamp := b.focusTimestamp } with hknown₂
      have hkeyed₂ : Keyed known₂ := hkeyed.touched b.id fun _ => rfl
      have htime : Leads known₁ (if b.focusTimestamp ≠ win.focusTimestamp then
          [.windowFocusTimestampChanged b.id b.focusTimestamp] else []) known₂ := by
        refine Leads.touched (leads_focusTimestampChanged hkeyed _ _) fun hskipped a ha => ?_
        have hsame : b.focusTimestamp = win.focusTimestamp := by simpa using hskipped
        simp only [hknown₁, hnext] at ha
        obtain rfl := Option.some.inj ha
        simp [withFocus, hsame]
      have hurgency : Leads known₂ (if b.isUrgent ≠ win.isUrgent then
          [.windowUrgencyChanged b.id b.isUrgent] else [])
          (touched known₂ b.id fun a => { a with isUrgent := b.isUrgent }) := by
        refine Leads.touched (leads_urgencyChanged hkeyed₂ _ _) fun hskipped a ha => ?_
        have hsame : b.isUrgent = win.isUrgent := by simpa using hskipped
        simp only [hknown₂, hknown₁, touched, hnext] at ha
        obtain rfl := Option.some.inj ha
        simp [withFocus, hsame]
      have hall := (hfocus.append htime).append hurgency
      simp only [windowNews, if_neg hreplaced]
      refine hall.congr fun k => ?_
      rw [h.windowsAfter_append k]
      by_cases hk : k = b.id
      · subst hk
        simp only [touched, hknown₂, hknown₁, hnext, hwin, refreshed, if_neg hreplaced]
        cases b.isFocused <;> cases hasFocused done <;> simp [withFocus]
      · simp only [touched, hknown₂, hknown₁, hk, if_false]
        cases b.isFocused <;> simp [Function.comp_def]
/-- All windows one after another. -/
theorem leads_windows (h : Matching old (done ++ rest)) :
    Leads (windowsAfter old done) (rest.flatMap fun b => windowNews (old b.id) b)
      (windowsAfter old (done ++ rest)) := by
  induction rest generalizing done with
  | nil =>
    rw [List.append_nil]
    exact Leads.nil
  | cons b rest ih =>
    have hassoc : done ++ b :: rest = (done ++ [b]) ++ rest := by simp
    rw [List.flatMap_cons]
    refine h.leads_window.append ?_
    rw [hassoc] at h ⊢
    exact ih h

/-! ### Places, windows that are gone, and the focus that is gone -/

theorem layoutNews_id {o : Option Window} {change : ℕ × WindowLayout}
    (h : layoutNews o a = some change) : o ≠ none ∧ change = (a.id, a.layout) := by
  unfold layoutNews at h
  split at h
  · cases h
  · split_ifs at h
    exact ⟨by simp, (Option.some.inj h).symm⟩

theorem relocated_eq_of_forall_ne {changes : List (ℕ × WindowLayout)} {k : ℕ}
    (h : ∀ change ∈ changes, change.1 ≠ k) (win : Window) : relocated changes k win = win := by
  induction changes with
  | nil => rfl
  | cons change changes ih =>
    unfold relocated
    rw [List.foldl_cons, if_neg (h change List.mem_cons_self)]
    exact ih fun change hmem => h change (List.mem_cons_of_mem _ hmem)

/-- A window is moved to its new place, once. -/
theorem relocated_filterMap (h : (news.map Window.id).Nodup) (ha : a ∈ news) (win : Window) :
    relocated (news.filterMap fun b => layoutNews (old b.id) b) a.id win =
      match layoutNews (old a.id) a with
      | none => win
      | some change => { win with layout := change.2 } := by
  induction news generalizing win with
  | nil => cases ha
  | cons b news ih =>
    rw [List.map_cons, List.nodup_cons] at h
    have hother : ∀ c ∈ news, c.id ≠ b.id := fun c hc hid => h.1 (hid ▸ List.mem_map_of_mem hc)
    rw [List.filterMap_cons]
    rcases List.mem_cons.mp ha with rfl | ha
    · have hrest : ∀ change ∈ news.filterMap (fun b => layoutNews (old b.id) b),
          change.1 ≠ a.id := by
        intro change hmem
        obtain ⟨c, hc, hchange⟩ := List.mem_filterMap.mp hmem
        rw [(layoutNews_id hchange).2]
        exact hother c hc
      cases hnews : layoutNews (old a.id) a with
      | none => exact relocated_eq_of_forall_ne hrest win
      | some change =>
        obtain ⟨-, rfl⟩ := layoutNews_id hnews
        have hkept := relocated_eq_of_forall_ne hrest { win with layout := a.layout }
        simpa [relocated] using hkept
    · have hne := hother a ha
      cases hnews : layoutNews (old b.id) b with
      | none => exact ih h.2 ha win
      | some change =>
        obtain ⟨-, rfl⟩ := layoutNews_id hnews
        have hkept := ih h.2 ha win
        simpa [relocated, hne.symm] using hkept

/-- The windows of the layout after all events but the last: the focus may still be
the old one, if it is to be none. -/
def placed (old : Known) (news : List Window) : Known := fun k =>
  (news.find? (·.id = k)).map fun new =>
    withFocus (!hasFocused news) (refreshed (old k) new).isFocused new

theorem windowsAfter_placed (h : Matching old news) (ha : a ∈ news) :
    relocated (news.filterMap fun b => layoutNews (old b.id) b) a.id
        (withFocus (hasFocused news) a.isFocused (refreshed (old a.id) a)) =
      withFocus (!hasFocused news) (refreshed (old a.id) a).isFocused a := by
  rw [relocated_filterMap h.ids ha]
  cases hwin : old a.id with
  | none => cases hasFocused news <;> rfl
  | some win =>
    by_cases hreplaced : isReplaced win a = true
    · simp only [layoutNews, refreshed, if_pos hreplaced]
      cases hasFocused news <;> rfl
    · have hsame : win.workspaceId = a.workspaceId ∧ win.isFloating = a.isFloating ∧
          win.title = a.title ∧ win.appId = a.appId := by
        simpa [isReplaced, and_assoc] using hreplaced
      obtain ⟨hworkspace, hfloating, htitle, happ⟩ := hsame
      have hid := h.keyed _ win hwin
      have hpid := h.pid a ha win hwin
      obtain ⟨⟩ := win
      obtain ⟨⟩ := a
      simp only at hworkspace hfloating htitle happ hid hpid
      simp only [layoutNews, refreshed, if_neg hreplaced]
      subst hworkspace hfloating htitle happ hid hpid
      split_ifs with hlayout <;> cases hasFocused news <;> simp_all [withFocus]

/-- The windows of the layout, by their ids. -/
def listed (news : List Window) : Known := fun k => news.find? (·.id = k)

theorem find?_eq_some_iff (h : Matching old news) {k : ℕ} :
    news.find? (·.id = k) = some a ↔ a ∈ news ∧ a.id = k := by
  refine ⟨find?_id, ?_⟩
  rintro ⟨ha, rfl⟩
  cases hfind : news.find? (·.id = a.id) with
  | none =>
    rw [List.find?_eq_none] at hfind
    exact absurd (by simp) (hfind a ha)
  | some b =>
    obtain ⟨hb, hid⟩ := find?_id hfind
    rw [h.id_inj hb ha hid]

theorem leads_layouts (h : Matching old news) :
    Leads (windowsAfter old news)
      (if (news.filterMap fun b => layoutNews (old b.id) b).isEmpty then []
        else [.windowLayoutsChanged (news.filterMap fun b => layoutNews (old b.id) b)])
      fun k => (windowsAfter old news k).map
        (relocated (news.filterMap fun b => layoutNews (old b.id) b) k) := by
  split_ifs with hempty
  · rw [List.isEmpty_iff] at hempty
    refine Leads.nil.congr fun k => ?_
    rw [hempty]
    exact Option.map_id'.symm
  · refine leads_layoutsChanged fun change hmem => ?_
    obtain ⟨b, hb, hchange⟩ := List.mem_filterMap.mp hmem
    rw [(layoutNews_id hchange).2]
    unfold windowsAfter
    rw [h.find?_eq_some_iff.mpr ⟨hb, rfl⟩]
    simp

/-- The windows once all were brought up to date and those that are gone were dropped. -/
theorem leads_placed (h : Matching old news) {ids : List ℕ} (hids : ids.Nodup)
    (hgone : ∀ k, k ∈ ids ↔ old k ≠ none ∧ k ∉ news.map Window.id) :
    Leads old (news.flatMap (fun b => windowNews (old b.id) b) ++
      (if (news.filterMap fun b => layoutNews (old b.id) b).isEmpty then []
        else [.windowLayoutsChanged (news.filterMap fun b => layoutNews (old b.id) b)]) ++
      ids.map .windowClosed) (placed old news) := by
  have hnone : ∀ k, news.find? (·.id = k) = none ↔ k ∉ news.map Window.id := by
    intro k
    simp only [List.find?_eq_none, List.mem_map, decide_eq_true_eq, not_exists, not_and]
  have hlive := leads_windows (List.nil_append news ▸ h : Matching old ([] ++ news))
  rw [windowsAfter_nil, List.nil_append] at hlive
  refine ((hlive.append h.leads_layouts).append (leads_allClosed hids fun k hk => ?_)).congr
    fun k => ?_
  · obtain ⟨hold, hnew⟩ := (hgone k).mp hk
    unfold windowsAfter
    rw [(hnone k).mpr hnew]
    simpa using hold
  · unfold placed windowsAfter
    cases hfind : news.find? (·.id = k) with
    | none =>
      by_cases hold : old k = none
      · simp [hold]
      · have hk := (hgone k).mpr ⟨hold, (hnone k).mp hfind⟩
        simp [hk]
    | some a =>
      obtain ⟨ha, rfl⟩ := find?_id hfind
      have hk : a.id ∉ ids := fun hk => ((hgone a.id).mp hk).2 (List.mem_map_of_mem ha)
      rw [if_neg hk]
      exact congrArg some (h.windowsAfter_placed ha)

/-- The events of a refresh lead to the windows of the layout. -/
theorem leads_news (h : Matching old news) {ids : List ℕ} (hids : ids.Nodup)
    (hgone : ∀ k, k ∈ ids ↔ old k ≠ none ∧ k ∉ news.map Window.id) {wasFocused : Bool}
    (hfocused : wasFocused = true ↔ ∃ k win, old k = some win ∧ win.isFocused = true) :
    Leads old (news.flatMap (fun b => windowNews (old b.id) b) ++
      (if (news.filterMap fun b => layoutNews (old b.id) b).isEmpty then []
        else [.windowLayoutsChanged (news.filterMap fun b => layoutNews (old b.id) b)]) ++
      ids.map .windowClosed ++
      if !hasFocused news && wasFocused then [.windowFocusChanged none] else []) (listed news) := by
  have hkeyed : Keyed (placed old news) := by
    intro k win hwin
    obtain ⟨a, ha, rfl⟩ := Option.map_eq_some_iff.mp hwin
    exact (find?_id ha).2
  refine (h.leads_placed hids hgone).append ?_
  refine Leads.ite (fun hlost => ?_) (fun hkept k => ?_)
  · -- the focus went to no window
    refine (leads_focusChanged hkeyed none).congr fun k => ?_
    unfold placed listed
    cases hfind : news.find? (·.id = k) with
    | none => rfl
    | some a =>
      have hnot : a.isFocused = false := by
        have hsettled : hasFocused news = false := by simp_all
        rw [hasFocused, List.any_eq_false] at hsettled
        simpa using hsettled a (find?_id hfind).1
      simp [withFocus, ← hnot]
  · unfold placed listed
    cases hfind : news.find? (·.id = k) with
    | none => rfl
    | some a =>
      obtain ⟨ha, rfl⟩ := find?_id hfind
      cases hsettled : hasFocused news with
      | true => simp [withFocus]
      | false =>
        -- nothing was focused before
        have hnot : a.isFocused = false := by
          rw [hasFocused, List.any_eq_false] at hsettled
          simpa using hsettled a ha
        have hnone : (refreshed (old a.id) a).isFocused = false := by
          refine refreshed_isFocused hnot fun win hwin => ?_
          by_contra hwas
          have : wasFocused = true := hfocused.mpr ⟨a.id, win, hwin, by simpa using hwas⟩
          simp [hsettled, this] at hkept
        simp [withFocus, hnone, ← hnot]

end Matching

/-! ### Refreshing -/

namespace WindowsView

/-- The windows of a view as clients see them. -/
def windows (view : WindowsView) : List Window :=
  view.map fun (mapped, wsId, layout) => makeIpcWindow mapped wsId layout

/-- What holds of the layout: its windows have ids of their own, and at most one of
them has the focus. -/
structure Valid (view : WindowsView) : Prop where
  ids : (view.map (·.1.id)).Nodup
  focused : ∀ a ∈ view, ∀ b ∈ view, a.1.isFocused = true → b.1.isFocused = true → a.1.id = b.1.id

variable {view : WindowsView}

theorem Valid.windows_ids (h : view.Valid) : (view.windows.map Window.id).Nodup := by
  rw [windows, List.map_map]
  exact h.ids

theorem Valid.windows_focused (h : view.Valid) {a b : Window} (ha : a ∈ view.windows)
    (hb : b ∈ view.windows) (hfocused : a.isFocused = true) (hfocused' : b.isFocused = true) :
    a = b := by
  refine List.inj_on_of_nodup_map h.windows_ids ha hb ?_
  obtain ⟨x, hx, rfl⟩ := List.mem_map.mp ha
  obtain ⟨y, hy, rfl⟩ := List.mem_map.mp hb
  exact h.focused x hx y hy hfocused hfocused'

end WindowsView

/-- A refresh that the server may go through: the pids of its windows are those that
it knows, and the map lists its entries in some order. -/
structure Refreshable (state : WindowsState) (keys : List ℕ) (view : WindowsView) : Prop where
  valid : view.Valid
  keys : keys.Perm state.keys
  pid : ∀ a ∈ view, ∀ win, state[a.1.id]? = some win → win.pid = a.1.pid

theorem refreshWindowEvents_eq (state : WindowsState) (keys : List ℕ) (view : WindowsView) :
    refreshWindowEvents state keys view =
      view.windows.flatMap (fun b => windowNews state[b.id]? b) ++
      (if (view.windows.filterMap fun b => layoutNews state[b.id]? b).isEmpty then []
        else [.windowLayoutsChanged (view.windows.filterMap fun b => layoutNews state[b.id]? b)]) ++
      (keys.filter (· ∉ view.windows.map Window.id)).map .windowClosed ++
      if !hasFocused view.windows && keys.any fun id => state[id]?.any (·.isFocused) then
        [.windowFocusChanged none] else [] := by
  simp only [refreshWindowEvents, windowEvents_eq, layoutChange_eq, WindowsView.windows, hasFocused,
    List.flatMap_map, List.filterMap_map, List.any_map, List.map_map, Function.comp_def]
  rfl

/-- The state holds windows as they were listed by some layout. -/
def Listed (state : WindowsState) : Prop :=
  ∃ olds : WindowsView, olds.Valid ∧ ∀ k, state[k]? = Matching.listed olds.windows k

theorem getElem?_snapshot {view : WindowsView} (h : view.Valid) (k : ℕ) :
    (windowsSnapshot view)[k]? = Matching.listed view.windows k := by
  unfold Matching.listed
  cases hfind : view.windows.find? (·.id = k) with
  | none =>
    refine getElem?_table_of_not_mem fun hk => ?_
    rw [List.find?_eq_none] at hfind
    obtain ⟨a, ha, rfl⟩ := List.mem_map.mp hk
    exact hfind a ha (by simp)
  | some a =>
    obtain ⟨ha, rfl⟩ := Matching.find?_id hfind
    exact getElem?_table h.windows_ids ha

theorem Refreshable.matching {state : WindowsState} {keys : List ℕ} {view : WindowsView}
    (h : Refreshable state keys view) (hstate : Listed state) :
    Matching (fun k => state[k]?) view.windows := by
  obtain ⟨olds, holds, hlisted⟩ := hstate
  have hmem : ∀ {k win}, state[k]? = some win → win ∈ olds.windows ∧ win.id = k := by
    intro k win hwin
    rw [hlisted k] at hwin
    exact Matching.find?_id hwin
  refine ⟨h.valid.windows_ids, fun k win hwin => (hmem hwin).2, ?_, ?_, ?_⟩
  · intro k k' win win' hwin hwin' hfocused hfocused'
    obtain ⟨hin, rfl⟩ := hmem hwin
    obtain ⟨hin', rfl⟩ := hmem hwin'
    rw [holds.windows_focused hin hin' hfocused hfocused']
  · exact fun a ha b hb => h.valid.windows_focused ha hb
  · intro a ha win hwin
    obtain ⟨x, hx, rfl⟩ := List.mem_map.mp ha
    exact h.pid x hx win hwin

/-- One refresh. -/
theorem refreshWindows_snapshot {state : WindowsState} {keys : List ℕ} {view : WindowsView}
    (hstate : Listed state) (h : Refreshable state keys view) :
    refreshWindows state keys view = .ok (windowsSnapshot view) := by
  have hmatching := h.matching hstate
  have hkeys : ∀ k, k ∈ keys ↔ state[k]? ≠ none := by
    intro k
    rw [h.keys.mem_iff, Std.ExtTreeMap.mem_keys, Std.ExtTreeMap.mem_iff_isSome_getElem?,
      Option.isSome_iff_ne_none]
  have hgone : ∀ k, k ∈ keys.filter (· ∉ view.windows.map Window.id) ↔
      state[k]? ≠ none ∧ k ∉ view.windows.map Window.id := by
    intro k
    rw [List.mem_filter, hkeys k, decide_eq_true_eq]
  have hfocused : (keys.any fun id => state[id]?.any (·.isFocused)) = true ↔
      ∃ (k : ℕ) (win : Window), state[k]? = some win ∧ win.isFocused = true := by
    simp only [List.any_eq_true, Option.any_eq_true]
    constructor
    · rintro ⟨k, -, win, hwin, hfocused⟩
      exact ⟨k, win, hwin, hfocused⟩
    · rintro ⟨k, win, hwin, hfocused⟩
      exact ⟨k, (hkeys k).mpr (by simp [hwin]), win, hwin, hfocused⟩
  have hnodup : keys.Nodup := h.keys.nodup_iff.mpr Std.ExtTreeMap.nodup_keys
  obtain ⟨state', happly, hstate'⟩ := hmatching.leads_news (hnodup.filter _) hgone hfocused state
    fun _ => rfl
  rw [refreshWindows, refreshWindowEvents_eq, happly]
  refine congrArg Except.ok (Std.ExtTreeMap.ext_getElem? fun k => ?_)
  rw [hstate' k, getElem?_snapshot h.valid]

/-- The server over its refreshes: it starts without windows. -/
def windowServer : Machine WindowsState (List ℕ × WindowsView) where
  initial state := state = ∅
  step state action := refreshWindows state action.1 action.2

/-- After any number of refreshes, the events of the next one lead to the windows of
the layout. -/
theorem refreshWindows_replays {state : WindowsState} {keys : List ℕ} {view : WindowsView}
    (hstate : windowServer.ReachableBy (fun s a => Refreshable s a.1 a.2) state)
    (h : Refreshable state keys view) :
    state.applyAll (refreshWindowEvents state keys view) = .ok (windowsSnapshot view) := by
  have hlisted : Listed state := by
    refine hstate.invariant ?_ ?_
    · rintro _ rfl
      exact ⟨[], ⟨by simp, by simp⟩, fun k => by simp [Matching.listed, WindowsView.windows]⟩
    · rintro s ⟨keys, view⟩ hs h next hnext
      have hreturns := refreshWindows_snapshot hs h
      obtain rfl := Except.ok.inj (hnext.symm.trans hreturns)
      exact ⟨view, h.valid, getElem?_snapshot h.valid⟩
  exact refreshWindows_snapshot hlisted h

/-! ### A concrete run -/

namespace Sample

/-- A window of the first workspace. -/
def mappedView (id : ℕ) (title : String) (isFocused : Bool) : MappedView where
  id := id
  title := some title
  appId := some "term"
  pid := some 100
  isFocused := isFocused
  isFloating := false
  isUrgent := false
  focusTimestamp := none

/-- A place in a column. -/
def place (column : ℕ) : WindowLayout where
  posInScrollingLayout := some (column, 1)
  tileSize := (800, 600)
  windowSize := (796, 596)
  tilePosInWorkspaceView := none
  windowOffsetInTile := (2, 2)

/-- Two windows, the second with the focus. -/
def twoWindows : WindowsView :=
  [(mappedView 1 "shell" false, some 1, place 1), (mappedView 2 "editor" true, some 1, place 2)]

/-- The second window closed, the first moved, and a new one took the focus. -/
def windowReplaced : WindowsView :=
  [(mappedView 1 "shell" false, some 1, place 2), (mappedView 3 "browser" true, some 1, place 1)]

theorem twoWindows_valid : twoWindows.Valid := ⟨by decide, by decide⟩

theorem windowReplaced_valid : windowReplaced.Valid := ⟨by decide, by decide⟩

theorem twoWindows_refreshable : Refreshable ∅ [] twoWindows :=
  ⟨twoWindows_valid, by decide, by simp⟩

theorem windowReplaced_refreshable :
    Refreshable (windowsSnapshot twoWindows) [2, 1] windowReplaced :=
  ⟨windowReplaced_valid, by decide +kernel, by decide +kernel⟩

end Sample

open Sample in
theorem refreshWindows_replays_replaced :
    (windowsSnapshot twoWindows).applyAll
        (refreshWindowEvents (windowsSnapshot twoWindows) [2, 1] windowReplaced) =
      .ok (windowsSnapshot windowReplaced) ∧
    refreshWindowEvents (windowsSnapshot twoWindows) [2, 1] windowReplaced =
      [.windowOpenedOrChanged (makeIpcWindow (mappedView 3 "browser" true) (some 1) (place 1)),
        .windowLayoutsChanged [(1, place 2)], .windowClosed 2] := by
  refine ⟨refreshWindows_replays (.step (.initial rfl) ([], twoWindows) twoWindows_refreshable ?_)
    windowReplaced_refreshable, by decide +kernel⟩
  exact refreshWindows_snapshot ⟨[], ⟨by simp, by simp⟩, fun k => by simp [Matching.listed,
    WindowsView.windows]⟩ twoWindows_refreshable

end Sol.Ipc
