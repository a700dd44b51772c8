import Sol.EventLoop
import Sol.LockedKeys
import Sol.Animation

/-!
# The focus timestamps of the windows

A window gets a timestamp when it is focused for the first time.  From then on it gets a new one
only some time after it has been focused, or with the next key, and what is to be committed then
is remembered until the next window waits for that.

Focus that goes from the window to something that does not wait leaves the commit pending.

* `step_inv`: a pending commit is of when its window got the focus, if the window has it still;
* `lawful_iff_settled`: a run keeps to the law of the timestamps exactly if every commit finds the
  focus on its window.
-/

namespace Sol.Recents

open Sol.Input (KeyboardFocus ClientSurface)

abbrev MappedId := ℕ

structure Mapped where
  surface : ClientSurface
  isFocused : Bool
  focusTimestamp : Option Duration
  /-- Whether the window is being moved, and so on no workspace. -/
  moving : Bool
  deriving DecidableEq, Repr

structure PendingMruCommit where
  id : MappedId
  token : ℕ
  stamp : Duration
  deriving DecidableEq, Repr

/-- The windows and the focus, and the timers with their deadlines. -/
structure Niri where
  windows : List (MappedId × Mapped)
  nextId : MappedId
  keyboardFocus : KeyboardFocus
  pendingMruCommit : Option PendingMruCommit
  eventLoop : EventLoop Duration
  debounceMs : ℕ

namespace Niri

/-- `Niri::new`, with the configuration that there is. -/
def new (debounceMs : ℕ) : Niri where
  windows := []
  nextId := 0
  keyboardFocus := .layout none
  pendingMruCommit := none
  eventLoop := .empty
  debounceMs := debounceMs

/-- `find_window_and_output_mut`. -/
def findWindow (self : Niri) (surface : ClientSurface) : Option (MappedId × Mapped) :=
  self.windows.find? fun entry => entry.2.surface = surface

def modifyWindow (self : Niri) (id : MappedId) (f : Mapped → Mapped) : Niri :=
  { self with windows := Assoc.modify id f self.windows }

/-- `set_is_focused`, if there is such a window. -/
def setIsFocused (self : Niri) (surface : ClientSurface) (isFocused : Bool) : Niri :=
  match self.findWindow surface with
  | some (id, _) => self.modifyWindow id fun mapped => { mapped with isFocused }
  | none => self

/-- `set_focus_timestamp`. -/
def setFocusTimestamp (self : Niri) (id : MappedId) (timestamp : Duration) : Niri :=
  self.modifyWindow id fun mapped => { mapped with focusTimestamp := some timestamp }

/-- The commit is remembered in place of the one before. -/
def awaitCommit (self : Niri) (id : MappedId) (stamp debounce : Duration) : Niri :=
  let (token, eventLoop) := self.eventLoop.insertSource (stamp + debounce)
  let eventLoop :=
    match self.pendingMruCommit with
    | some replaced => eventLoop.remove replaced.token
    | none => eventLoop
  { self with eventLoop, pendingMruCommit := some ⟨id, token, stamp⟩ }

/-- A window is focused. -/
def focusWindow (self : Niri) (surface : ClientSurface) (stamp : Duration) : Niri :=
  match self.findWindow surface with
  | none => self
  | some (id, mapped) =>
    let self := self.setIsFocused surface true
    let debounce := Animation.ofMillis self.debounceMs
    if mapped.focusTimestamp = none ∨ debounce = 0 then
      self.setFocusTimestamp id stamp
    else self.awaitCommit id stamp debounce

/-- The window that has the focus is told that it has it no longer. -/
def unfocusWindow (self : Niri) : Niri :=
  match self.keyboardFocus with
  | .layout (some surface) => self.setIsFocused surface false
  | _ => self

/-- `update_keyboard_focus`, with the focus that has been computed. -/
def updateKeyboardFocus (self : Niri) (focus : KeyboardFocus) (now : Duration) : Niri :=
  if self.keyboardFocus = focus then self
  else
    match focus with
    | .layout (some surface) =>
      { self.unfocusWindow.focusWindow surface now with keyboardFocus := focus }
    | _ => { self.unfocusWindow with keyboardFocus := focus }

def mruApplyKeyboardCommit (self : Niri) : Niri :=
  match self.pendingMruCommit with
  | none => self
  | some pending =>
    let self := {
      self with pendingMruCommit := none, eventLoop := self.eventLoop.remove pending.token }
    match Assoc.get self.windows pending.id with
    | some mapped =>
      -- the windows of the workspaces only
      if mapped.moving then self else self.setFocusTimestamp pending.id pending.stamp
    | none => self

/-- Whether a timer is due. -/
def isDue (self : Niri) (token : ℕ) (now : Duration) : Bool :=
  (self.eventLoop.source token).any fun deadline => deadline ≤ now

/-- A timer fires, if it is due, and is dropped. -/
def fire (self : Niri) (token : ℕ) (now : Duration) : Niri :=
  if self.isDue token now then
    let self := self.mruApplyKeyboardCommit
    { self with eventLoop := self.eventLoop.remove token }
  else self

/-! ### Runs -/

inductive Event
  | updateKeyboardFocus (focus : KeyboardFocus)
  | timer (token : ℕ)
  /-- A key gets through to a client, or the recent windows are asked for. -/
  | keyboardCommit
  | openWindow (surface : ClientSurface)
  | closeWindow (id : MappedId)
  /-- An interactive move of the window starts or ends. -/
  | setMoving (id : MappedId) (moving : Bool)
  | debounce (ms : ℕ)
  deriving DecidableEq, Repr

def step (self : Niri) (event : Event) (now : Duration) : Niri :=
  match event with
  | .updateKeyboardFocus focus => self.updateKeyboardFocus focus now
  | .timer token => self.fire token now
  | .keyboardCommit => self.mruApplyKeyboardCommit
  | .openWindow surface =>
    { self with
      windows := self.windows ++ [(self.nextId, ⟨surface, false, none, false⟩)]
      nextId := self.nextId + 1 }
  | .closeWindow id => { self with windows := Assoc.remove id self.windows }
  | .setMoving id moving => self.modifyWindow id fun mapped => { mapped with moving }
  | .debounce ms => { self with debounceMs := ms }

/-- The focus timestamp of a window. -/
def stampOf (self : Niri) (id : MappedId) : Option Duration :=
  (Assoc.get self.windows id).bind Mapped.focusTimestamp

/-- Whether an event has the pending commit applied. -/
def Commits (self : Niri) (now : Duration) : Event → Prop
  | .timer token => self.isDue token now = true
  | .keyboardCommit => True
  | _ => False

end Niri

/-- The focus from each step on, the last step first. -/
structure Recorded where
  niri : Niri
  time : Duration
  past : List (Duration × KeyboardFocus)

namespace Recorded

open Niri

def start (debounceMs : ℕ) (time : Duration) : Recorded := ⟨.new debounceMs, time, []⟩

def step (s : Recorded) (action : Duration × Event) : Recorded :=
  let niri := s.niri.step action.2 action.1
  ⟨niri, action.1, (action.1, niri.keyboardFocus) :: s.past⟩

/-- A property of the steps of a run. -/
def Along (P : Recorded → Duration × Event → Prop) (s : Recorded) : List (Duration × Event) → Prop
  | [] => True
  | action :: actions => P s action ∧ (s.step action).Along P actions

/-- Time does not go back, the debounce time is not zero, and a surface has one window. -/
structure Allowed (s : Recorded) (action : Duration × Event) : Prop where
  time : s.time ≤ action.1
  debounce : action.2 ≠ .debounce 0
  surface : ∀ surface, action.2 = .openWindow surface → s.niri.findWindow surface = none

/-- A surface has kept the focus that it got at some time. -/
def Held (past : List (Duration × KeyboardFocus)) (surface : ClientSurface) (stamp : Duration) :
    Prop :=
  ∃ recent older, past = recent ++ (stamp, .layout (some surface)) :: older ∧
    ∀ entry ∈ recent, entry.2 = .layout (some surface)

/-- A window with a timestamp gets a new one, or is put before another window, only if it has kept
the focus from then on. -/
structure Lawful (s : Recorded) (action : Duration × Event) : Prop where
  restamped : ∀ id w a b, Assoc.get s.niri.windows id = some w → w.focusTimestamp = some a →
    (s.step action).niri.stampOf id = some b → b ≠ a → Held s.past w.surface b
  overtaking : ∀ id w a b other c d, Assoc.get s.niri.windows id = some w →
    w.focusTimestamp = some a → (s.step action).niri.stampOf id = some b →
    s.niri.stampOf other = some c → (s.step action).niri.stampOf other = some d →
    a ≤ c → d < b → Held s.past w.surface b

/-- A commit that gives a window another timestamp finds the focus on it. -/
def Settled (s : Recorded) (action : Duration × Event) : Prop :=
  s.niri.Commits action.1 action.2 → ∀ pending w, s.niri.pendingMruCommit = some pending →
    Assoc.get s.niri.windows pending.id = some w → w.moving = false →
    w.focusTimestamp ≠ some pending.stamp → s.niri.keyboardFocus = .layout (some w.surface)

/-! ### The invariant -/

variable {s t : Recorded} {n : Niri} {time now : Duration}
  {past : List (Duration × KeyboardFocus)} {id : MappedId} {w : Mapped}

/-- What is true of the pending commit. -/
structure Awaits (n : Niri) (time : Duration) (past : List (Duration × KeyboardFocus))
    (pending : PendingMruCommit) : Prop where
  id_lt : pending.id < n.nextId
  stamp_le : pending.stamp ≤ time
  stamped : ∀ w, Assoc.get n.windows pending.id = some w →
    ∃ a, w.focusTimestamp = some a ∧ a ≤ pending.stamp
  held : ∀ w, Assoc.get n.windows pending.id = some w →
    n.keyboardFocus = .layout (some w.surface) → Held past w.surface pending.stamp

structure Inv (s : Recorded) : Prop where
  nodup : (Assoc.keys s.niri.windows).Nodup
  fresh : ∀ id ∈ Assoc.keys s.niri.windows, id < s.niri.nextId
  surfaces : ∀ id id' w w', Assoc.get s.niri.windows id = some w →
    Assoc.get s.niri.windows id' = some w' → w.surface = w'.surface → id = id'
  debounce : s.niri.debounceMs ≠ 0
  stamp_le : ∀ id a, s.niri.stampOf id = some a → a ≤ s.time
  pending : ∀ pending, s.niri.pendingMruCommit = some pending →
    Awaits s.niri s.time s.past pending

theorem inv_start {debounceMs : ℕ} (h : debounceMs ≠ 0) (time : Duration) :
    (start debounceMs time).Inv where
  nodup := List.nodup_nil
  fresh := fun _ h => by cases h
  surfaces := fun _ _ _ _ h => by cases h
  debounce := h
  stamp_le := fun _ _ h => by cases h
  pending := fun _ h => by cases h

theorem Inv.later (h : Inv ⟨n, time, past⟩) (hnow : time ≤ now) : Inv ⟨n, now, past⟩ := by
  refine ⟨h.nodup, h.fresh, h.surfaces, h.debounce,
    fun id a ha => (h.stamp_le id a ha).trans hnow, ?_⟩
  intro pending hpending
  have hawaits := h.pending pending hpending
  exact ⟨hawaits.id_lt, hawaits.stamp_le.trans hnow, hawaits.stamped, hawaits.held⟩

/-- Time passes, with the focus where it is. -/
theorem Inv.pass (h : Inv ⟨n, time, past⟩) (hnow : time ≤ now) :
    Inv ⟨n, now, (now, n.keyboardFocus) :: past⟩ := by
  have hlater := h.later hnow
  refine ⟨hlater.nodup, hlater.fresh, hlater.surfaces, hlater.debounce, hlater.stamp_le, ?_⟩
  intro pending hpending
  have hawaits := hlater.pending pending hpending
  refine ⟨hawaits.id_lt, hawaits.stamp_le, hawaits.stamped, ?_⟩
  intro w hw hfocus
  obtain ⟨recent, older, rfl, hrecent⟩ := hawaits.held w hw hfocus
  refine ⟨(now, n.keyboardFocus) :: recent, older, rfl, ?_⟩
  intro entry hentry
  rcases List.mem_cons.mp hentry with rfl | hmem
  · exact hfocus
  · exact hrecent entry hmem

/-- A window changes, but for its surface and its timestamp. -/
theorem Inv.modifyWindow (h : Inv ⟨n, time, past⟩) (id : MappedId) {f : Mapped → Mapped}
    (hsurface : ∀ w, (f w).surface = w.surface)
    (hstamp : ∀ w, (f w).focusTimestamp = w.focusTimestamp) :
    Inv ⟨n.modifyWindow id f, time, past⟩ := by
  have hget : ∀ k w', Assoc.get (n.modifyWindow id f).windows k = some w' →
      ∃ w, Assoc.get n.windows k = some w ∧ w'.surface = w.surface ∧
        w'.focusTimestamp = w.focusTimestamp := by
    intro k w' hw'
    unfold Niri.modifyWindow at hw'
    rw [Assoc.get_modify] at hw'
    split_ifs at hw' with hk
    · obtain ⟨w, hw, rfl⟩ := Option.map_eq_some_iff.mp hw'
      exact ⟨w, hw, hsurface w, hstamp w⟩
    · exact ⟨w', hw', rfl, rfl⟩
  refine ⟨?_, ?_, ?_, h.debounce, ?_, ?_⟩
  · exact (Assoc.keys_modify id f n.windows).symm ▸ h.nodup
  · exact (Assoc.keys_modify id f n.windows).symm ▸ h.fresh
  · intro k k' w' v' hw' hv' hsame
    obtain ⟨w, hw, hws, -⟩ := hget k w' hw'
    obtain ⟨v, hv, hvs, -⟩ := hget k' v' hv'
    exact h.surfaces k k' w v hw hv (hws.symm.trans (hsame.trans hvs))
  · intro k a ha
    obtain ⟨w', hw', hstamp'⟩ := Option.bind_eq_some_iff.mp ha
    obtain ⟨w, hw, -, hsame⟩ := hget k w' hw'
    exact h.stamp_le k a (Option.bind_eq_some_iff.mpr ⟨w, hw, hsame ▸ hstamp'⟩)
  · intro pending hpending
    have hawaits := h.pending pending hpending
    refine ⟨hawaits.id_lt, hawaits.stamp_le, ?_, ?_⟩
    · intro w' hw'
      obtain ⟨w, hw, -, hsame⟩ := hget _ w' hw'
      rw [hsame]
      exact hawaits.stamped w hw
    · intro w' hw' hfocus
      obtain ⟨w, hw, hsame, -⟩ := hget _ w' hw'
      rw [hsame] at hfocus ⊢
      exact hawaits.held w hw hfocus

/-! ### The focus changes -/

theorem findWindow_some (hn : (Assoc.keys n.windows).Nodup) {surface : ClientSurface}
    (h : n.findWindow surface = some (id, w)) :
    Assoc.get n.windows id = some w ∧ w.surface = surface :=
  ⟨(Assoc.get_eq_some_iff hn).mpr (List.mem_of_find?_eq_some h), by
    simpa using List.find?_some h⟩

theorem findWindow_none {surface : ClientSurface} (h : n.findWindow surface = none)
    (hw : Assoc.get n.windows id = some w) : w.surface ≠ surface := by
  have hnone := List.find?_eq_none.mp h _ (Assoc.mem_of_get_eq_some hw)
  simpa using hnone

theorem Inv.setIsFocused (h : Inv ⟨n, time, past⟩) (surface : ClientSurface) (isFocused : Bool) :
    Inv ⟨n.setIsFocused surface isFocused, time, past⟩ := by
  unfold Niri.setIsFocused
  split
  · exact h.modifyWindow _ (fun _ => rfl) fun _ => rfl
  · exact h

/-- The focus goes to where no window is that awaits a commit. -/
theorem Inv.refocus (h : Inv ⟨n, time, past⟩) (hnow : time ≤ now) {focus : KeyboardFocus}
    (hfocus : ∀ pending w, n.pendingMruCommit = some pending →
      Assoc.get n.windows pending.id = some w → focus ≠ .layout (some w.surface)) :
    Inv ⟨{ n with keyboardFocus := focus }, now, (now, focus) :: past⟩ := by
  have hlater := h.later hnow
  refine ⟨hlater.nodup, hlater.fresh, hlater.surfaces, hlater.debounce, hlater.stamp_le, ?_⟩
  intro pending hpending
  have hawaits := hlater.pending pending hpending
  exact ⟨hawaits.id_lt, hawaits.stamp_le, hawaits.stamped,
    fun w hw heq => absurd heq (hfocus pending w hpending hw)⟩

theorem keys_setFocusTimestamp (stamp : Duration) :
    Assoc.keys (n.setFocusTimestamp id stamp).windows = Assoc.keys n.windows := by
  have hkeys := Assoc.keys_modify id
    (fun mapped : Mapped => { mapped with focusTimestamp := some stamp }) n.windows
  exact hkeys

theorem get_setFocusTimestamp (hw : Assoc.get n.windows id = some w) (stamp : Duration)
    (k : MappedId) : Assoc.get (n.setFocusTimestamp id stamp).windows k =
      if k = id then some { w with focusTimestamp := some stamp } else Assoc.get n.windows k := by
  unfold Niri.setFocusTimestamp Niri.modifyWindow
  rw [Assoc.get_modify]
  split_ifs with hk
  · rw [hk, hw]
    rfl
  · rfl

theorem stampOf_setFocusTimestamp {stamp : Duration} (hw : Assoc.get n.windows id = some w)
    (k : MappedId) : (n.setFocusTimestamp id stamp).stampOf k =
      if k = id then some stamp else n.stampOf k := by
  unfold Niri.stampOf
  rw [get_setFocusTimestamp hw]
  split_ifs <;> rfl

theorem stampOf_setFocusTimestamp_ne {k : MappedId} {stamp : Duration} (hk : k ≠ id) :
    (n.setFocusTimestamp id stamp).stampOf k = n.stampOf k := by
  unfold Niri.stampOf Niri.setFocusTimestamp Niri.modifyWindow
  rw [Assoc.get_modify, if_neg hk]

/-- The surfaces are those from before. -/
theorem exists_of_setFocusTimestamp {stamp : Duration} (hw : Assoc.get n.windows id = some w)
    {k : MappedId} {v : Mapped}
    (hv : Assoc.get (n.setFocusTimestamp id stamp).windows k = some v) :
    ∃ v', Assoc.get n.windows k = some v' ∧ v'.surface = v.surface := by
  rw [get_setFocusTimestamp hw] at hv
  split_ifs at hv with hk
  · exact ⟨w, hk ▸ hw, by rw [← Option.some.inj hv]⟩
  · exact ⟨v, hv, rfl⟩

/-- A window gets a timestamp, and awaits no commit. -/
theorem Inv.setFocusTimestamp (h : Inv ⟨n, time, past⟩) {stamp : Duration} (hstamp : stamp ≤ time)
    (hw : Assoc.get n.windows id = some w)
    (hother : ∀ pending, n.pendingMruCommit = some pending → pending.id ≠ id) :
    Inv ⟨n.setFocusTimestamp id stamp, time, past⟩ := by
  refine ⟨?_, ?_, ?_, h.debounce, ?_, ?_⟩
  · change (Assoc.keys (n.setFocusTimestamp id stamp).windows).Nodup
    rw [keys_setFocusTimestamp]
    exact h.nodup
  · change ∀ k ∈ Assoc.keys (n.setFocusTimestamp id stamp).windows, _
    rw [keys_setFocusTimestamp]
    exact h.fresh
  · intro k k' v u hv hu hsame
    obtain ⟨v', hv', hvs⟩ := exists_of_setFocusTimestamp hw hv
    obtain ⟨u', hu', hus⟩ := exists_of_setFocusTimestamp hw hu
    exact h.surfaces k k' v' u' hv' hu' (hvs.trans (hsame.trans hus.symm))
  · intro k a ha
    change (n.setFocusTimestamp id stamp).stampOf k = some a at ha
    rw [stampOf_setFocusTimestamp hw] at ha
    split_ifs at ha
    · exact Option.some.inj ha ▸ hstamp
    · exact h.stamp_le k a ha
  · intro pending hpending
    have hawaits := h.pending pending hpending
    have hget := get_setFocusTimestamp hw stamp pending.id
    rw [if_neg (hother pending hpending)] at hget
    exact ⟨hawaits.id_lt, hawaits.stamp_le, fun v hv => hawaits.stamped v (hget.symm.trans hv),
      fun v hv => hawaits.held v (hget.symm.trans hv)⟩

/-- The focus goes to a window without a timestamp, which gets one. -/
theorem Inv.stamp (h : Inv ⟨n, time, past⟩) (hnow : time ≤ now)
    (hw : Assoc.get n.windows id = some w) (hnone : w.focusTimestamp = none) :
    Inv ⟨{ n.setFocusTimestamp id now with keyboardFocus := .layout (some w.surface) }, now,
      (now, .layout (some w.surface)) :: past⟩ := by
  have hother : ∀ pending, n.pendingMruCommit = some pending → pending.id ≠ id := by
    intro pending hpending heq
    obtain ⟨a, ha, -⟩ := (h.pending pending hpending).stamped w (heq ▸ hw)
    rw [hnone] at ha
    cases ha
  refine ((h.later hnow).setFocusTimestamp le_rfl hw hother).refocus le_rfl ?_
  intro pending v hpending hv heq
  have hne := hother pending hpending
  rw [get_setFocusTimestamp hw, if_neg hne] at hv
  have hsame : w.surface = v.surface := Option.some.inj (KeyboardFocus.layout.inj heq)
  exact hne (h.surfaces id pending.id w v hw hv hsame).symm

/-- The focus goes to a window that has a timestamp, and another commit is awaited. -/
theorem Inv.await (h : Inv ⟨n, time, past⟩) (hnow : time ≤ now)
    (hw : Assoc.get n.windows id = some w) {a : Duration} (ha : w.focusTimestamp = some a)
    (debounce : Duration) :
    Inv ⟨{ n.awaitCommit id now debounce with keyboardFocus := .layout (some w.surface) }, now,
      (now, .layout (some w.surface)) :: past⟩ := by
  refine ⟨h.nodup, h.fresh, h.surfaces, h.debounce,
    fun id a ha => (h.stamp_le id a ha).trans hnow, ?_⟩
  intro pending hpending
  obtain rfl := Option.some.inj hpending
  refine ⟨h.fresh id (Assoc.mem_keys_of_get hw), le_rfl, ?_, ?_⟩
  · intro v hv
    obtain rfl := Option.some.inj (hw.symm.trans hv)
    have hle := h.stamp_le id a (Option.bind_eq_some_iff.mpr ⟨w, hw, ha⟩)
    exact ⟨a, ha, hle.trans hnow⟩
  · intro v hv _
    obtain rfl := Option.some.inj (hw.symm.trans hv)
    exact ⟨[], past, rfl, fun _ h => by cases h⟩

theorem ofMillis_ne_zero {ms : ℕ} (h : ms ≠ 0) : Animation.ofMillis ms ≠ 0 :=
  Nat.mul_ne_zero h (by decide)

theorem Inv.focusWindow (h : Inv ⟨n, time, past⟩) (hnow : time ≤ now) (surface : ClientSurface) :
    Inv ⟨{ n.focusWindow surface now with keyboardFocus := .layout (some surface) }, now,
      (now, .layout (some surface)) :: past⟩ := by
  unfold Niri.focusWindow
  cases hfind : n.findWindow surface with
  | none =>
    refine h.refocus hnow fun pending w _ hw heq => ?_
    have hsame : surface = w.surface := Option.some.inj (KeyboardFocus.layout.inj heq)
    exact findWindow_none hfind hw hsame.symm
  | some found =>
    obtain ⟨id, w⟩ := found
    obtain ⟨hw, rfl⟩ := findWindow_some h.nodup hfind
    have hfocused : Inv ⟨n.setIsFocused w.surface true, time, past⟩ := h.setIsFocused _ _
    have hw' : Assoc.get (n.setIsFocused w.surface true).windows id =
        some { w with isFocused := true } := by
      unfold Niri.setIsFocused Niri.modifyWindow
      rw [hfind]
      dsimp only
      rw [Assoc.get_modify, if_pos rfl, hw]
      rfl
    have hdebounce : Animation.ofMillis (n.setIsFocused w.surface true).debounceMs ≠ 0 :=
      ofMillis_ne_zero hfocused.debounce
    dsimp only
    cases hstamp : w.focusTimestamp with
    | none =>
      rw [if_pos (.inl rfl)]
      exact hfocused.stamp (w := { w with isFocused := true }) hnow hw' hstamp
    | some a =>
      rw [if_neg (by simpa using hdebounce)]
      exact hfocused.await (w := { w with isFocused := true }) hnow hw' hstamp _

theorem Inv.unfocusWindow (h : Inv ⟨n, time, past⟩) : Inv ⟨n.unfocusWindow, time, past⟩ := by
  unfold Niri.unfocusWindow
  split
  · exact h.setIsFocused _ _
  · exact h

/-- The invariant outlasts a change of the focus. -/
theorem Inv.updateKeyboardFocus (h : Inv ⟨n, time, past⟩) (hnow : time ≤ now)
    (focus : KeyboardFocus) : Inv ⟨n.updateKeyboardFocus focus now, now,
      (now, (n.updateKeyboardFocus focus now).keyboardFocus) :: past⟩ := by
  unfold Niri.updateKeyboardFocus
  by_cases hsame : n.keyboardFocus = focus
  · rw [if_pos hsame]
    exact h.pass hnow
  rw [if_neg hsame]
  have hunfocused : Inv ⟨n.unfocusWindow, time, past⟩ := h.unfocusWindow
  cases focus with
  | layout surface =>
    cases surface with
    | some surface => exact hunfocused.focusWindow hnow surface
    | none => exact hunfocused.refocus hnow fun _ _ _ _ => nofun
  | _ => exact hunfocused.refocus hnow fun _ _ _ _ => nofun

/-! ### Commits -/

/-- What a commit comes to: nothing, or the timestamp that was taken goes to its window. -/
theorem commit_cases (n : Niri) :
    (n.pendingMruCommit = none ∧ n.mruApplyKeyboardCommit = n) ∨
    ∃ pending loop, n.pendingMruCommit = some pending ∧
      (((∀ w, Assoc.get n.windows pending.id = some w → w.moving = true) ∧
        n.mruApplyKeyboardCommit = { n with pendingMruCommit := none, eventLoop := loop }) ∨
      ∃ w, Assoc.get n.windows pending.id = some w ∧ w.moving = false ∧
        n.mruApplyKeyboardCommit = Niri.setFocusTimestamp
          { n with pendingMruCommit := none, eventLoop := loop } pending.id pending.stamp) := by
  unfold Niri.mruApplyKeyboardCommit
  cases hpending : n.pendingMruCommit with
  | none => exact .inl ⟨rfl, rfl⟩
  | some pending =>
    refine .inr ⟨pending, n.eventLoop.remove pending.token, rfl, ?_⟩
    dsimp only
    cases hw : Assoc.get n.windows pending.id with
    | none => exact .inl ⟨nofun, rfl⟩
    | some w =>
      dsimp only
      cases hmoving : w.moving with
      | true =>
        refine .inl ⟨?_, rfl⟩
        rintro v ⟨⟩
        exact hmoving
      | false => exact .inr ⟨w, rfl, hmoving, rfl⟩

theorem Inv.withdraw (h : Inv ⟨n, time, past⟩) (loop : EventLoop Duration) :
    Inv ⟨{ n with pendingMruCommit := none, eventLoop := loop }, time, past⟩ :=
  ⟨h.nodup, h.fresh, h.surfaces, h.debounce, h.stamp_le, nofun⟩

/-- The invariant outlasts a commit. -/
theorem Inv.commit (h : Inv ⟨n, time, past⟩) : Inv ⟨n.mruApplyKeyboardCommit, time, past⟩ := by
  rcases commit_cases n with ⟨-, heq⟩ | ⟨pending, loop, hpending, ⟨-, heq⟩ | ⟨w, hw, -, heq⟩⟩
  · rw [heq]
    exact h
  · rw [heq]
    exact h.withdraw loop
  · rw [heq]
    exact (h.withdraw loop).setFocusTimestamp (h.pending pending hpending).stamp_le hw nofun

theorem Inv.loop (h : Inv ⟨n, time, past⟩) (loop : EventLoop Duration) :
    Inv ⟨{ n with eventLoop := loop }, time, past⟩ :=
  ⟨h.nodup, h.fresh, h.surfaces, h.debounce, h.stamp_le, fun pending hpending =>
    have hawaits := h.pending pending hpending
    ⟨hawaits.id_lt, hawaits.stamp_le, hawaits.stamped, hawaits.held⟩⟩

/-! ### Windows come and go -/

theorem Inv.openWindow (h : Inv ⟨n, time, past⟩) {surface : ClientSurface}
    (hnone : n.findWindow surface = none) :
    Inv ⟨n.step (.openWindow surface) now, time, past⟩ := by
  have hnew : n.nextId ∉ Assoc.keys n.windows := fun hmem => (h.fresh _ hmem).false
  have hget : ∀ k v, Assoc.get (n.step (.openWindow surface) now).windows k = some v →
      (k = n.nextId ∧ v = ⟨surface, false, none, false⟩) ∨ Assoc.get n.windows k = some v := by
    intro k v hv
    change Assoc.get (n.windows ++ [(n.nextId, _)]) k = some v at hv
    rw [Assoc.get_concat hnew] at hv
    split_ifs at hv with hk
    · exact .inl ⟨hk, (Option.some.inj hv).symm⟩
    · exact .inr hv
  have hold : ∀ k v, k < n.nextId → Assoc.get (n.step (.openWindow surface) now).windows k = some v →
      Assoc.get n.windows k = some v := by
    intro k v hk hv
    rcases hget k v hv with ⟨rfl, -⟩ | hv
    · exact absurd hk (lt_irrefl _)
    · exact hv
  refine ⟨Assoc.nodup_keys_concat h.nodup hnew, ?_, ?_, h.debounce, ?_, ?_⟩
  · intro k hk
    change k ∈ Assoc.keys (n.windows ++ [(n.nextId, _)]) at hk
    rw [Assoc.keys_append, List.mem_append] at hk
    rcases hk with hk | hk
    · exact (h.fresh k hk).trans (Nat.lt_succ_self _)
    · rw [List.mem_singleton.mp hk]
      exact Nat.lt_succ_self _
  · intro k k' v u hv hu hsame
    rcases hget k v hv with ⟨rfl, rfl⟩ | hv <;> rcases hget k' u hu with ⟨rfl, rfl⟩ | hu
    · rfl
    · exact absurd hsame.symm (findWindow_none hnone hu)
    · exact absurd hsame (findWindow_none hnone hv)
    · exact h.surfaces k k' v u hv hu hsame
  · intro k a ha
    obtain ⟨v, hv, hstamp⟩ := Option.bind_eq_some_iff.mp ha
    rcases hget k v hv with ⟨-, rfl⟩ | hv
    · cases hstamp
    · exact h.stamp_le k a (Option.bind_eq_some_iff.mpr ⟨v, hv, hstamp⟩)
  · intro pending hpending
    have hawaits := h.pending pending hpending
    exact ⟨hawaits.id_lt.trans (Nat.lt_succ_self _), hawaits.stamp_le,
      fun v hv => hawaits.stamped v (hold _ v hawaits.id_lt hv),
      fun v hv => hawaits.held v (hold _ v hawaits.id_lt hv)⟩

theorem Inv.closeWindow (h : Inv ⟨n, time, past⟩) (id : MappedId) :
    Inv ⟨n.step (.closeWindow id) now, time, past⟩ := by
  have hget : ∀ k v, Assoc.get (n.step (.closeWindow id) now).windows k = some v →
      Assoc.get n.windows k = some v := by
    intro k v hv
    change Assoc.get (Assoc.remove id n.windows) k = some v at hv
    rw [Assoc.get_remove] at hv
    split_ifs at hv
    exact hv
  refine ⟨Assoc.nodup_keys_filter h.nodup _, ?_, ?_, h.debounce, ?_, ?_⟩
  · exact fun k hk => h.fresh k ((List.filter_sublist.map Prod.fst).subset hk)
  · exact fun k k' v u hv hu => h.surfaces k k' v u (hget k v hv) (hget k' u hu)
  · intro k a ha
    obtain ⟨v, hv, hstamp⟩ := Option.bind_eq_some_iff.mp ha
    exact h.stamp_le k a (Option.bind_eq_some_iff.mpr ⟨v, hget k v hv, hstamp⟩)
  · intro pending hpending
    have hawaits := h.pending pending hpending
    exact ⟨hawaits.id_lt, hawaits.stamp_le, fun v hv => hawaits.stamped v (hget _ v hv),
      fun v hv => hawaits.held v (hget _ v hv)⟩

/-! ### Every step -/

theorem step_inv (h : s.Inv) {action : Duration × Event} (ha : s.Allowed action) :
    (s.step action).Inv := by
  obtain ⟨n, time, past⟩ := s
  obtain ⟨now, event⟩ := action
  have hnow : time ≤ now := ha.time
  cases event with
  | updateKeyboardFocus focus => exact h.updateKeyboardFocus hnow focus
  | timer token =>
    refine Inv.pass ?_ hnow
    change Inv ⟨n.fire token now, time, past⟩
    unfold Niri.fire
    split_ifs
    · exact h.commit.loop _
    · exact h
  | keyboardCommit => exact h.commit.pass hnow
  | openWindow surface => exact (h.openWindow (ha.surface surface rfl)).pass hnow
  | closeWindow id => exact (h.closeWindow id).pass hnow
  | setMoving id moving =>
    exact (h.modifyWindow id (f := fun mapped => { mapped with moving }) (fun _ => rfl)
      fun _ => rfl).pass hnow
  | debounce ms =>
    refine Inv.pass ?_ hnow
    exact ⟨h.nodup, h.fresh, h.surfaces, fun hzero => ha.debounce (by rw [← hzero]; rfl), h.stamp_le,
      fun pending hpending =>
        have hawaits := h.pending pending hpending
        ⟨hawaits.id_lt, hawaits.stamp_le, hawaits.stamped, hawaits.held⟩⟩

/-! ### The law of the timestamps -/

theorem stampOf_modifyWindow {f : Mapped → Mapped}
    (hf : ∀ w, (f w).focusTimestamp = w.focusTimestamp) (k : MappedId) :
    (n.modifyWindow id f).stampOf k = n.stampOf k := by
  unfold Niri.stampOf Niri.modifyWindow
  rw [Assoc.get_modify]
  split_ifs
  · cases Assoc.get n.windows k with
    | none => rfl
    | some w => exact hf w
  · rfl

theorem stampOf_setIsFocused (surface : ClientSurface) (isFocused : Bool) (k : MappedId) :
    (n.setIsFocused surface isFocused).stampOf k = n.stampOf k := by
  unfold Niri.setIsFocused
  split
  · exact stampOf_modifyWindow (f := fun mapped => { mapped with isFocused }) (fun _ => rfl) k
  · rfl

/-- A window that has a timestamp keeps it when the focus changes. -/
theorem stampOf_focusWindow (h : Inv ⟨n, time, past⟩) (surface : ClientSurface) {k : MappedId}
    {a : Duration} (ha : n.stampOf k = some a) :
    (n.focusWindow surface now).stampOf k = some a := by
  unfold Niri.focusWindow
  cases hfind : n.findWindow surface with
  | none => exact ha
  | some found =>
    obtain ⟨id, w⟩ := found
    obtain ⟨hw, rfl⟩ := findWindow_some h.nodup hfind
    have hfocused := stampOf_setIsFocused (n := n) w.surface true k
    dsimp only
    rw [ite_or, if_neg (ofMillis_ne_zero (h.setIsFocused w.surface true).debounce)]
    split_ifs with hnone
    · have hne : k ≠ id := by
        rintro rfl
        obtain ⟨v, hv, hstamp⟩ := Option.bind_eq_some_iff.mp ha
        rw [Option.some.inj (hw.symm.trans hv), hstamp] at hnone
        cases hnone
      exact (stampOf_setFocusTimestamp_ne hne).trans (hfocused.trans ha)
    · exact hfocused.trans ha

theorem stampOf_updateKeyboardFocus (h : Inv ⟨n, time, past⟩) (focus : KeyboardFocus)
    {k : MappedId} {a : Duration} (ha : n.stampOf k = some a) :
    (n.updateKeyboardFocus focus now).stampOf k = some a := by
  have hunfocused : n.unfocusWindow.stampOf k = some a := by
    unfold Niri.unfocusWindow
    split
    · exact (stampOf_setIsFocused _ _ k).trans ha
    · exact ha
  unfold Niri.updateKeyboardFocus
  split_ifs
  · exact ha
  · split
    · exact stampOf_focusWindow h.unfocusWindow _ hunfocused
    · exact hunfocused

/-- Only commits change the timestamp of a window that has one. -/
theorem stampOf_of_not_commits (h : s.Inv) {action : Duration × Event}
    (hnot : ¬s.niri.Commits action.1 action.2) {a b : Duration} (ha : s.niri.stampOf id = some a)
    (hb : (s.step action).niri.stampOf id = some b) : b = a := by
  obtain ⟨n, time, past⟩ := s
  obtain ⟨now, event⟩ := action
  have hof : (n.step event now).stampOf id = some a → b = a := fun h =>
    Option.some.inj (hb.symm.trans h)
  cases event with
  | updateKeyboardFocus focus => exact hof (stampOf_updateKeyboardFocus h focus ha)
  | timer token =>
    have hidle : ¬n.isDue token now = true := hnot
    refine hof ?_
    unfold Niri.step Niri.fire
    dsimp only
    rw [if_neg hidle]
    exact ha
  | keyboardCommit => exact absurd trivial hnot
  | openWindow surface =>
    have hnew : n.nextId ∉ Assoc.keys n.windows := fun hmem => (h.fresh _ hmem).false
    obtain ⟨w, hw, hstamp⟩ := Option.bind_eq_some_iff.mp ha
    refine hof (Option.bind_eq_some_iff.mpr ⟨w, ?_, hstamp⟩)
    change Assoc.get (n.windows ++ [(n.nextId, _)]) id = some w
    rw [Assoc.get_append, hw, Option.some_or]
  | closeWindow k =>
    obtain ⟨w, hw, hstamp⟩ := Option.bind_eq_some_iff.mp hb
    change Assoc.get (Assoc.remove k n.windows) id = some w at hw
    rw [Assoc.get_remove] at hw
    split_ifs at hw
    have hold : n.stampOf id = some b := Option.bind_eq_some_iff.mpr ⟨w, hw, hstamp⟩
    exact Option.some.inj (hold.symm.trans ha)
  | setMoving k moving =>
    exact hof ((stampOf_modifyWindow (f := fun mapped => { mapped with moving })
      (fun _ => rfl) id).trans ha)
  | debounce ms => exact hof ha

/-- A step that commits does to the timestamps what the commit does. -/
theorem stampOf_of_commits {action : Duration × Event}
    (hcommits : s.niri.Commits action.1 action.2) (k : MappedId) :
    (s.step action).niri.stampOf k = s.niri.mruApplyKeyboardCommit.stampOf k := by
  obtain ⟨now, event⟩ := action
  cases event with
  | keyboardCommit => rfl
  | timer token =>
    have hdue : s.niri.isDue token now = true := hcommits
    change (s.niri.fire token now).stampOf k = _
    unfold Niri.fire
    rw [if_pos hdue]
    rfl
  | _ => exact hcommits.elim

/-- A surface that is held has the focus. -/
theorem Held.focus {surface : ClientSurface} {stamp : Duration} (h : Held s.past surface stamp)
    (hcurrent : ∀ entry ∈ s.past.head?, entry.2 = s.niri.keyboardFocus) :
    s.niri.keyboardFocus = .layout (some surface) := by
  obtain ⟨recent, older, hpast, hrecent⟩ := h
  rw [hpast] at hcurrent
  cases recent with
  | nil => exact (hcurrent _ rfl).symm
  | cons entry recent =>
    rw [← hrecent entry List.mem_cons_self]
    exact (hcurrent entry rfl).symm

/-- A commit gives no window, or that of the commit, another timestamp. -/
theorem stampOf_commit (n : Niri) :
    ((∀ k, n.mruApplyKeyboardCommit.stampOf k = n.stampOf k) ∧
      ∀ pending w, n.pendingMruCommit = some pending →
        Assoc.get n.windows pending.id = some w → w.moving = true) ∨
    ∃ pending w, n.pendingMruCommit = some pending ∧
      Assoc.get n.windows pending.id = some w ∧ w.moving = false ∧
      ∀ k, n.mruApplyKeyboardCommit.stampOf k =
        if k = pending.id then some pending.stamp else n.stampOf k := by
  rcases commit_cases n with ⟨hnone, heq⟩ | ⟨pending, loop, hpending, ⟨hmoving, heq⟩ |
    ⟨w, hw, hmoving, heq⟩⟩
  · refine .inl ⟨fun k => by rw [heq], fun pending w hpending => ?_⟩
    rw [hnone] at hpending
    cases hpending
  · refine .inl ⟨fun k => by rw [heq]; rfl, fun pending' w hpending' hw => ?_⟩
    obtain rfl := Option.some.inj (hpending.symm.trans hpending')
    exact hmoving w hw
  · refine .inr ⟨pending, w, hpending, hw, hmoving, fun k => ?_⟩
    rw [heq]
    exact stampOf_setFocusTimestamp
      (n := { n with pendingMruCommit := none, eventLoop := loop }) hw k

/-- A timestamp is only ever replaced by a later one. -/
theorem stampOf_mono (h : s.Inv) {action : Duration × Event} {a b : Duration}
    (ha : s.niri.stampOf id = some a) (hb : (s.step action).niri.stampOf id = some b) :
    a ≤ b := by
  by_cases hcommits : s.niri.Commits action.1 action.2
  · rw [stampOf_of_commits hcommits] at hb
    rcases stampOf_commit s.niri with ⟨hsame, -⟩ | ⟨pending, w, hpending, hw, -, hstamp⟩
    · exact (Option.some.inj (ha.symm.trans ((hsame id).symm.trans hb))).le
    · rw [hstamp] at hb
      split_ifs at hb with hid
      · subst hid
        obtain ⟨c, hc, hle⟩ := (h.pending pending hpending).stamped w hw
        have hac : s.niri.stampOf pending.id = some c :=
          Option.bind_eq_some_iff.mpr ⟨w, hw, hc⟩
        rw [Option.some.inj (ha.symm.trans hac), ← Option.some.inj hb]
        exact hle
      · exact (Option.some.inj (ha.symm.trans hb)).le
  · exact (stampOf_of_not_commits h hcommits ha hb).ge

/-- A step keeps to the law exactly if a commit in it finds the focus on its window. -/
theorem lawful_iff (h : s.Inv) (hcurrent : ∀ entry ∈ s.past.head?, entry.2 = s.niri.keyboardFocus)
    (action : Duration × Event) : s.Lawful action ↔ s.Settled action := by
  constructor
  · intro hlawful hcommits pending w hpending hw hmoving hne
    obtain ⟨a, ha, -⟩ := (h.pending pending hpending).stamped w hw
    have hstamp : (s.step action).niri.stampOf pending.id = some pending.stamp := by
      rw [stampOf_of_commits hcommits]
      rcases stampOf_commit s.niri with ⟨-, hstill⟩ | ⟨pending', -, hpending', -, -, hstamp⟩
      · rw [hstill pending w hpending hw] at hmoving
        cases hmoving
      · obtain rfl := Option.some.inj (hpending.symm.trans hpending')
        exact (hstamp _).trans (if_pos rfl)
    have hheld := hlawful.restamped pending.id w a pending.stamp hw ha hstamp fun heq =>
      hne (heq ▸ ha)
    exact hheld.focus hcurrent
  · intro hsettled
    have hrestamped : ∀ id w a b, Assoc.get s.niri.windows id = some w →
        w.focusTimestamp = some a → (s.step action).niri.stampOf id = some b → b ≠ a →
          Held s.past w.surface b := by
      intro id w a b hw ha hb hne
      have hold : s.niri.stampOf id = some a := Option.bind_eq_some_iff.mpr ⟨w, hw, ha⟩
      by_cases hcommits : s.niri.Commits action.1 action.2
      · rw [stampOf_of_commits hcommits] at hb
        rcases stampOf_commit s.niri with ⟨hsame, -⟩ | ⟨pending, v, hpending, hv, hstill, hstamp⟩
        · exact absurd (Option.some.inj (hb.symm.trans ((hsame id).trans hold))) hne
        · rw [hstamp] at hb
          split_ifs at hb with hid
          · subst hid
            obtain rfl := Option.some.inj (hw.symm.trans hv)
            obtain rfl := Option.some.inj hb
            have hother : w.focusTimestamp ≠ some pending.stamp := fun heq =>
              hne (Option.some.inj (heq.symm.trans ha))
            exact (h.pending pending hpending).held w hw
              (hsettled hcommits pending w hpending hw hstill hother)
          · exact absurd (Option.some.inj (hb.symm.trans hold)) hne
      · exact absurd (stampOf_of_not_commits h hcommits hold hb) hne
    refine ⟨hrestamped, ?_⟩
    intro id w a b other c d hw ha hb hc hd hac hdb
    have hcd : c ≤ d := stampOf_mono h hc hd
    exact hrestamped id w a b hw ha hb (hac.trans_lt (hcd.trans_lt hdb)).ne'

theorem along_lawful_iff {actions : List (Duration × Event)} (h : s.Inv)
    (hcurrent : ∀ entry ∈ s.past.head?, entry.2 = s.niri.keyboardFocus)
    (hallowed : s.Along Allowed actions) :
    s.Along Lawful actions ↔ s.Along Settled actions := by
  induction actions generalizing s with
  | nil => exact Iff.rfl
  | cons action actions ih =>
    have hnext : ∀ entry ∈ (s.step action).past.head?, entry.2 = (s.step action).niri.keyboardFocus := by
      rintro entry ⟨⟩
      rfl
    exact and_congr (lawful_iff h hcurrent action)
      (ih (step_inv h hallowed.1) hnext hallowed.2)

/-- With a debounce time, a run keeps to the law of the timestamps exactly if every commit that
gives a window another one finds the focus on it. -/
theorem lawful_iff_settled (debounceMs : ℕ) (hdebounce : debounceMs ≠ 0) (time : Duration)
    (actions : List (Duration × Event))
    (hallowed : (start debounceMs time).Along Allowed actions) :
    (start debounceMs time).Along Lawful actions ↔ (start debounceMs time).Along Settled actions :=
  along_lawful_iff (inv_start hdebounce time) nofun hallowed

/-- Two windows are opened, and the first one is focused again. -/
def sampleActions : List (Duration × Event) :=
  [(0, .openWindow 7), (0, .updateKeyboardFocus (.layout (some 7))),
    (1000000000, .openWindow 8), (1000000000, .updateKeyboardFocus (.layout (some 8))),
    (5000000000, .updateKeyboardFocus (.layout (some 7)))]

/-- The first window is focused until the debounce time is over. -/
theorem lawful_iff_settled_two : (start 750 0).Along Lawful
    (sampleActions ++ [(5750000000, .timer 0)]) := by
  refine (lawful_iff_settled 750 (by decide) 0 _ ?_).mpr ?_
  · exact ⟨⟨by decide, by decide, by rintro _ ⟨⟩; rfl⟩, ⟨by decide, by decide, nofun⟩,
      ⟨by decide, by decide, by rintro _ ⟨⟩; rfl⟩, ⟨by decide, by decide, nofun⟩,
      ⟨by decide, by decide, nofun⟩, ⟨by decide, by decide, nofun⟩, trivial⟩
  · refine ⟨nofun, nofun, nofun, nofun, nofun, ?_, trivial⟩
    rintro - pending w ⟨⟩ ⟨⟩ - -
    rfl

/-- The overview is opened shortly after the window has been focused, and the window is put first
all the same. -/
theorem not_lawful_in_passing :
    (start 750 0).Along Allowed (sampleActions ++ [(5050000000, .updateKeyboardFocus .overview),
      (5750000000, .timer 0)]) ∧
    ¬(start 750 0).Along Lawful (sampleActions ++ [(5050000000, .updateKeyboardFocus .overview),
      (5750000000, .timer 0)]) := by
  have hallowed : (start 750 0).Along Allowed (sampleActions ++
      [(5050000000, .updateKeyboardFocus .overview), (5750000000, .timer 0)]) :=
    ⟨⟨by decide, by decide, by rintro _ ⟨⟩; rfl⟩, ⟨by decide, by decide, nofun⟩,
      ⟨by decide, by decide, by rintro _ ⟨⟩; rfl⟩, ⟨by decide, by decide, nofun⟩,
      ⟨by decide, by decide, nofun⟩, ⟨by decide, by decide, nofun⟩, ⟨by decide, by decide, nofun⟩,
      trivial⟩
  refine ⟨hallowed, fun hlawful => ?_⟩
  have hsettled := (along_lawful_iff (inv_start (by decide) 0) nofun hallowed).mp hlawful
  obtain ⟨-, -, -, -, -, -, htimer, -⟩ := hsettled
  have hfocus := htimer (of_decide_eq_true (by decide +kernel) : Niri.isDue _ _ _ = true) ⟨0, 0, 5000000000⟩ ⟨7, false, some 0, false⟩ rfl rfl rfl (by decide)
  cases hfocus

end Recorded

end Sol.Recents
