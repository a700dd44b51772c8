import Sol.SuppressedKeys

/-!
# Keys that must get through

Changing VT must work in every mode, and the keys of a locked session go to the lock screen.
Locking closes the screenshot UI, and an open one is never locked over; the modal resize mode
is left by Escape only, and a lock does not end it.

* `Modes.Keeps`: what no change of the modes breaks, kept by every step;
* `reachable_inv`: the screenshot UI is closed while the session is locked;
* `press_passes_iff`: when a press gets through.
-/

namespace Sol.Input

open Panicking

/-- A surface of a client. -/
abbrev ClientSurface := ℕ

inductive KeyboardFocus
  | layout (surface : Option ClientSurface)
  | layerShell (surface : ClientSurface)
  | lockScreen (surface : Option ClientSurface)
  | screenshotUi
  | exitConfirmDialog
  | overview
  | mru
  deriving DecidableEq, Repr

def KeyboardFocus.isOverview : KeyboardFocus → Bool
  | overview => true
  | _ => false

/-- What changes the modal state, besides keys. -/
inductive Change
  /-- The session is locked, with no outputs to redraw. -/
  | lock
  /-- The lock surfaces are ready, or the deadline has expired. -/
  | continueToLocking
  | unlock
  | enterResizeMode
  | openScreenshotUi
  /-- Anything that happens in the screenshot UI, closing it included. -/
  | screenshotUi (ui : ScreenshotUi)
  | openMru (presetOpenedBinds dynamicOpenedBinds : List Bind)
  | closeMru
  | exitConfirmDialog (isOpen : Bool)
  | setGrab (grab : Option PointerGrab)
  | inhibitShortcuts (inhibiting : Bool)
  | cooldownOver (key : Key)
  | config (modKey : ModKey) (binds recentWindowsBinds : List Bind)
      (recentWindowsOn disablePowerKeyHandling : Bool)

def Modes.change (modes : Modes) : Change → Modes
  | .lock => if modes.locked then modes else { modes with locked := true, screenshotUi := .closed }
  | .continueToLocking =>
    { modes with locked := true, screenshotUi := .closed, windowMruUi.isOpen := false }
  | .unlock => { modes with locked := false }
  | .enterResizeMode => { modes with resizeMode := true }
  | .openScreenshotUi =>
    if modes.locked ∨ modes.screenshotUi.isOpen then modes
    else { modes with screenshotUi := .openUp, pointerGrab := none }
  | .screenshotUi ui =>
    if modes.screenshotUi.isOpen then { modes with screenshotUi := ui } else modes
  | .openMru preset dynamic => { modes with windowMruUi := ⟨true, preset, dynamic⟩ }
  | .closeMru => { modes with windowMruUi.isOpen := false }
  | .exitConfirmDialog isOpen => { modes with exitConfirmDialogOpen := isOpen }
  | .setGrab grab => { modes with pointerGrab := grab }
  | .inhibitShortcuts inhibiting => { modes with inhibitingShortcuts := inhibiting }
  | .cooldownOver key =>
    { modes with bindCooldownTimers := modes.bindCooldownTimers.filter (· ≠ key) }
  | .config modKey binds recentWindowsBinds recentWindowsOn disablePowerKeyHandling =>
    { modes with modKey, binds, recentWindowsBinds, recentWindowsOn, disablePowerKeyHandling }

/-- Which modes an action changes is up to the rest of the compositor. -/
def modalEffects (changes : Action → Modes → List Change) : Effects where
  perform action modes := (changes action modes).foldl Modes.change modes
  unsetGrab modes := { modes with pointerGrab := none }
  mruApplyKeyboardCommit modes := modes

/-- The input state with the focus of the keyboard. -/
structure Session where
  niri : Niri
  keyboardFocus : KeyboardFocus
  /-- The surface of the lock screen that would be focused. -/
  lockSurfaceFocus : Option ClientSurface
  /-- The focus if it is left to the overview, the layers and the windows. -/
  layoutFocus : KeyboardFocus

namespace Session

inductive Event
  | key (event : KeyEvent)
  /-- A bind that repeats, or that is triggered by something else than a key. -/
  | bind (bind : Bind)
  /-- An action that is asked for otherwise. -/
  | action (action : Action) (allowWhenLocked : Bool)
  | change (change : Change)
  | lockSurfaceFocus (surface : Option ClientSurface)
  | layoutFocus (focus : KeyboardFocus)
  /-- The end of a turn of the event loop. -/
  | refresh

def currentFocus (self : Session) : KeyboardFocus :=
  let modes := self.niri.modes
  if modes.exitConfirmDialogOpen then .exitConfirmDialog
  else if modes.locked then .lockScreen self.lockSurfaceFocus
  else if modes.screenshotUi.isOpen then .screenshotUi
  else if modes.windowMruUi.isOpen then .mru
  else self.layoutFocus

def updateKeyboardFocus (self : Session) : Session :=
  { self with
    keyboardFocus := self.currentFocus
    niri.modes.overviewFocused := self.currentFocus.isOverview }

def step (effects : Effects) (self : Session) : Event → Session
  | .key event => { self with niri := (self.niri.onKeyboard effects event).2.2 }
  | .bind bind => { self with niri := self.niri.handleBind effects bind }
  | .action action allowWhenLocked =>
    { self with niri := self.niri.doAction effects action allowWhenLocked }
  | .change change => { self with niri.modes := self.niri.modes.change change }
  | .lockSurfaceFocus surface => { self with lockSurfaceFocus := surface }
  | .layoutFocus focus => { self with layoutFocus := focus }
  | .refresh => self.updateKeyboardFocus

def machine (changes : Action → Modes → List Change) : Machine Session Event where
  initial self := self.niri.modes.locked = false ∧
    self.niri.modes.overviewFocused = self.keyboardFocus.isOverview
  step self event := .ok (self.step (modalEffects changes) event)

end Session

/-! ### What every step keeps -/

/-- While the session is locked the screenshot UI is closed. -/
def Modes.LockedOver (modes : Modes) : Prop := modes.locked = true → modes.screenshotUi = .closed

/-- The modes after a step that does not move the keyboard focus. -/
structure Modes.Keeps (before after : Modes) : Prop where
  lockedOver : before.LockedOver → after.LockedOver
  overviewFocused : after.overviewFocused = before.overviewFocused

namespace Modes.Keeps

theorem refl (modes : Modes) : modes.Keeps modes := ⟨id, rfl⟩

theorem trans {m₁ m₂ m₃ : Modes} (h₁ : m₁.Keeps m₂) (h₂ : m₂.Keeps m₃) : m₁.Keeps m₃ :=
  ⟨h₂.lockedOver ∘ h₁.lockedOver, h₂.overviewFocused.trans h₁.overviewFocused⟩

/-- Modes that differ in neither the lock nor the screenshot UI. -/
theorem of_eq {m₁ m₂ : Modes} (hlocked : m₂.locked = m₁.locked)
    (hui : m₂.screenshotUi = m₁.screenshotUi) (hover : m₂.overviewFocused = m₁.overviewFocused) :
    m₁.Keeps m₂ := by
  refine ⟨?_, hover⟩
  intro h hlocked'
  rw [hui]
  exact h (hlocked ▸ hlocked')

theorem change (modes : Modes) (change : Change) : modes.Keeps (modes.change change) := by
  cases change with
  | lock =>
    show modes.Keeps (if _ then _ else _)
    split_ifs
    · exact refl modes
    · exact ⟨fun _ _ => rfl, rfl⟩
  | continueToLocking => exact ⟨fun _ _ => rfl, rfl⟩
  | unlock => exact ⟨fun _ => nofun, rfl⟩
  | openScreenshotUi =>
    show modes.Keeps (if _ then _ else _)
    split_ifs with h
    · exact refl modes
    · refine ⟨fun _ hlocked => ?_, rfl⟩
      exact absurd (Or.inl hlocked) h
  | screenshotUi ui =>
    show modes.Keeps (if _ then _ else _)
    split_ifs with h
    · refine ⟨fun hover hlocked => ?_, rfl⟩
      have hclosed : modes.screenshotUi = .closed := hover hlocked
      rw [hclosed] at h
      nomatch h
    · exact refl modes
  | enterResizeMode => exact of_eq rfl rfl rfl
  | openMru => exact of_eq rfl rfl rfl
  | closeMru => exact of_eq rfl rfl rfl
  | exitConfirmDialog => exact of_eq rfl rfl rfl
  | setGrab => exact of_eq rfl rfl rfl
  | inhibitShortcuts => exact of_eq rfl rfl rfl
  | cooldownOver => exact of_eq rfl rfl rfl
  | config => exact of_eq rfl rfl rfl

theorem changes (modes : Modes) (changes : List Change) :
    modes.Keeps (changes.foldl Modes.change modes) := by
  induction changes generalizing modes with
  | nil => exact refl modes
  | cons first rest ih => exact (change modes first).trans (ih _)

theorem setSpaceDown (modes : Modes) (down : Bool) :
    modes.Keeps { modes with screenshotUi := modes.screenshotUi.setSpaceDown down } := by
  refine ⟨?_, rfl⟩
  intro h hlocked
  have hclosed : modes.screenshotUi = .closed := h hlocked
  show modes.screenshotUi.setSpaceDown down = .closed
  rw [hclosed]
  rfl

end Modes.Keeps

section Keeps

variable (changes : Action → Modes → List Change) (self : Niri)

theorem doAction_keeps (action : Action) (allowWhenLocked : Bool) :
    self.modes.Keeps (self.doAction (modalEffects changes) action allowWhenLocked).modes := by
  unfold Niri.doAction
  split_ifs
  · exact .refl _
  · have hperform : self.modes.Keeps ((modalEffects changes).perform action self.modes) :=
      Modes.Keeps.changes _ _
    dsimp only
    split <;> exact hperform

theorem handleBind_keeps (bind : Bind) :
    self.modes.Keeps (self.handleBind (modalEffects changes) bind).modes := by
  unfold Niri.handleBind
  cases bind.cooldown with
  | none => exact doAction_keeps changes self _ _
  | some cooldown =>
    dsimp only
    split_ifs
    · exact .refl _
    · exact .refl _
    · have htimers : self.modes.Keeps { self.modes with
          bindCooldownTimers := bind.key :: self.modes.bindCooldownTimers } := .of_eq rfl rfl rfl
      exact htimers.trans (doAction_keeps changes ⟨self.suppressedKeys, _⟩ _ _)

theorem resizeModeKey_keeps (raw : Option Keysym) :
    self.modes.Keeps (self.resizeModeKey (modalEffects changes) raw).modes := by
  unfold Niri.resizeModeKey
  split_ifs
  · exact doAction_keeps changes self _ _
  · exact doAction_keeps changes self _ _
  · exact .of_eq rfl rfl rfl
  · exact .refl _

theorem release_modes (keyCode : Keycode) : (self.release keyCode).2.modes = self.modes := by
  unfold Niri.release
  split_ifs <;> rfl

theorem filter_keeps (event : KeyEvent) (modKey : ModKey) (isInhibitingShortcuts : Bool) :
    self.modes.Keeps
      (self.filter (modalEffects changes) event modKey isInhibitingShortcuts).2.modes := by
  unfold Niri.filter
  dsimp only
  by_cases hexit : self.modes.exitConfirmDialogOpen = true ∧ event.pressed = true
  · rw [if_pos hexit]
    split_ifs
    · exact .of_eq rfl rfl rfl
    · exact .of_eq rfl rfl rfl
  rw [if_neg hexit]
  by_cases hresize : self.modes.resizeMode = true
  · rw [if_pos hresize]
    split_ifs
    · exact resizeModeKey_keeps changes (self.suppress event.keyCode) event.raw
    · rw [release_modes]
      exact .refl _
  rw [if_neg hresize]
  by_cases hmru : self.modes.windowMruUi.isOpen = true ∧ ¬event.pressed = true ∧
      modifiersFromState event.mods = 0
  · rw [if_pos hmru, release_modes]
    exact doAction_keeps changes self _ _
  rw [if_neg hmru]
  by_cases hgrab : event.pressed = true ∧ event.raw = some Keysym.escape ∧
      self.modes.pointerGrab.any PointerGrab.canBeCancelledWithEsc = true
  · rw [if_pos hgrab]
    exact .of_eq rfl rfl rfl
  rw [if_neg hgrab]
  have hspace : self.modes.Keeps { self.modes with
      screenshotUi := if event.raw = some Keysym.space
        then self.modes.screenshotUi.setSpaceDown event.pressed else self.modes.screenshotUi } := by
    split_ifs
    · exact .setSpaceDown _ _
    · exact .refl _
  generalize shouldInterceptKey _ _ _ _ _ _ _ = r
  obtain ⟨res, suppressedKeys⟩ := r
  cases res with
  | intercept bind => exact hspace
  | forward =>
    dsimp only
    split <;> exact hspace

theorem onKeyboard_keeps (event : KeyEvent) :
    self.modes.Keeps (self.onKeyboard (modalEffects changes) event).2.2.modes := by
  have hfilter := filter_keeps changes self event self.modes.modKey self.modes.inhibitingShortcuts
  unfold Niri.onKeyboard
  generalize self.filter (modalEffects changes) event self.modes.modKey
    self.modes.inhibitingShortcuts = r at hfilter ⊢
  obtain ⟨res, niri⟩ := r
  cases res with
  | forward => exact hfilter
  | intercept bind =>
    cases bind with
    | none => exact hfilter
    | some bind =>
      dsimp only
      split_ifs
      · exact hfilter.trans (handleBind_keeps changes niri bind)
      · exact hfilter

end Keeps

namespace Session

/-- What holds in every state of a run. -/
structure Inv (session : Session) : Prop where
  lockedOver : session.niri.modes.LockedOver
  overviewFocused : session.niri.modes.overviewFocused = session.keyboardFocus.isOverview

theorem Inv.of_keeps {s t : Session} (h : s.Inv) (hmodes : s.niri.modes.Keeps t.niri.modes)
    (hfocus : t.keyboardFocus = s.keyboardFocus) : t.Inv where
  lockedOver := hmodes.lockedOver h.lockedOver
  overviewFocused := by rw [hmodes.overviewFocused, h.overviewFocused, hfocus]

theorem Inv.step {s : Session} (h : s.Inv) (changes : Action → Modes → List Change)
    (event : Event) : (s.step (modalEffects changes) event).Inv := by
  cases event with
  | key event => exact h.of_keeps (onKeyboard_keeps changes s.niri event) rfl
  | bind bind => exact h.of_keeps (handleBind_keeps changes s.niri bind) rfl
  | action action allow => exact h.of_keeps (doAction_keeps changes s.niri action allow) rfl
  | change change => exact h.of_keeps (.change _ change) rfl
  | lockSurfaceFocus surface => exact h.of_keeps (.refl _) rfl
  | layoutFocus focus => exact h.of_keeps (.refl _) rfl
  | refresh => exact ⟨h.lockedOver, rfl⟩

theorem reachable_inv {changes : Action → Modes → List Change} {s : Session}
    (h : (machine changes).ReachableBy (fun _ _ => True) s) : s.Inv := by
  refine h.invariant ?_ ?_
  · rintro s ⟨hlocked, hfocus⟩
    refine ⟨fun h => ?_, hfocus⟩
    rw [hlocked] at h
    nomatch h
  · intro s event hinv _
    exact ensures_ok.mpr (hinv.step changes event)

end Session

/-! ### What gets through -/

/-- The key changes VT, whatever the binds are. -/
def KeyEvent.switchesVt (event : KeyEvent) : Prop :=
  Keysym.switchVt1 ≤ event.modified ∧ event.modified ≤ Keysym.switchVt12

/-- The press matches none of the binds that are in force. -/
def Modes.NoBind (modes : Modes) (event : KeyEvent) : Prop :=
  findBind (makeBindsIter modes (modifiersFromState event.mods)) modes.modKey event.modified
    event.raw event.mods modes.disablePowerKeyHandling = none

/-- The press cancels a grab of the pointer. -/
def Modes.CancelsGrab (modes : Modes) (event : KeyEvent) : Prop :=
  event.raw = some Keysym.escape ∧
    modes.pointerGrab.any PointerGrab.canBeCancelledWithEsc = true

section Press

variable {effects : Effects} {niri : Niri} {event : KeyEvent}

/-- The result of a press that no mode captures. -/
theorem filter_press (hpressed : event.pressed = true)
    (hexit : niri.modes.exitConfirmDialogOpen = false) (hresize : niri.modes.resizeMode = false)
    (hgrab : ¬niri.modes.CancelsGrab event) (modKey : ModKey) (isInhibitingShortcuts : Bool) :
    (niri.filter effects event modKey isInhibitingShortcuts).1 =
      match (shouldInterceptKey niri.suppressedKeys
        (makeBindsIter niri.modes (modifiersFromState event.mods)) modKey event
        (if event.raw = some Keysym.space then niri.modes.screenshotUi.setSpaceDown event.pressed
          else niri.modes.screenshotUi)
        niri.modes.disablePowerKeyHandling isInhibitingShortcuts).1 with
      | .forward =>
        match (if niri.modes.overviewFocused ∧ event.pressed
          then event.raw.bind fun raw => hardcodedOverviewBind raw event.mods else none) with
        | some bind => .intercept (some bind)
        | none => .forward
      | res => res := by
  unfold Niri.filter
  dsimp only
  rw [if_neg (by simp [hexit]), if_neg (by simp [hresize]), if_neg (by simp [hpressed]),
    if_neg (fun h => hgrab h.2)]
  have hbinds : ∀ ui : ScreenshotUi, makeBindsIter { niri.modes with screenshotUi := ui }
      (modifiersFromState event.mods) = makeBindsIter niri.modes (modifiersFromState event.mods) :=
    fun _ => rfl
  rw [hbinds]
  generalize shouldInterceptKey _ _ _ _ _ _ _ = r
  obtain ⟨res, suppressedKeys⟩ := r
  cases res with
  | intercept bind => rfl
  | forward =>
    dsimp only
    split <;> rename_i hbind <;> rw [hbind]

/-- A press in the resize mode goes nowhere. -/
theorem filter_resizeMode (hpressed : event.pressed = true)
    (hexit : niri.modes.exitConfirmDialogOpen = false) (hresize : niri.modes.resizeMode = true)
    (modKey : ModKey) (isInhibitingShortcuts : Bool) :
    (niri.filter effects event modKey isInhibitingShortcuts).1 = .intercept none := by
  unfold Niri.filter
  dsimp only
  rw [if_neg (by simp [hexit]), if_pos hresize, if_pos hpressed]

/-- A press that cancels a grab goes nowhere. -/
theorem filter_cancelsGrab (hpressed : event.pressed = true)
    (hexit : niri.modes.exitConfirmDialogOpen = false)
    (hgrab : niri.modes.CancelsGrab event) (modKey : ModKey) (isInhibitingShortcuts : Bool) :
    (niri.filter effects event modKey isInhibitingShortcuts).1 = .intercept none := by
  by_cases hresize : niri.modes.resizeMode = true
  · exact filter_resizeMode hpressed hexit hresize modKey isInhibitingShortcuts
  · unfold Niri.filter
    dsimp only
    rw [if_neg (by simp [hexit]), if_neg hresize, if_neg (by simp [hpressed]),
      if_pos ⟨hpressed, hgrab⟩]

theorem onKeyboard_fst (niri : Niri) (event : KeyEvent) : (niri.onKeyboard effects event).1 =
    (niri.filter effects event niri.modes.modKey niri.modes.inhibitingShortcuts).1 := by
  unfold Niri.onKeyboard
  generalize niri.filter effects event niri.modes.modKey niri.modes.inhibitingShortcuts = r
  obtain ⟨res, niri'⟩ := r
  cases res with
  | forward => rfl
  | intercept bind =>
    cases bind with
    | none => rfl
    | some bind =>
      dsimp only
      split_ifs <;> rfl

/-- The bind that changes VT. -/
def KeyEvent.vtBind (event : KeyEvent) : Bind :=
  .hardcoded event.modified (.changeVt ((event.modified - Keysym.switchVt1 + 1 : ℕ) : ℤ)) true

/-- Neither the screenshot UI nor the configured binds come before changing VT. -/
theorem finalBind_switchesVt (h : event.switchesVt) (bindings : List Bind) (modKey : ModKey)
    (ui : ScreenshotUi) (disablePowerKeyHandling : Bool) :
    finalBind bindings modKey event ui disablePowerKeyHandling = some event.vtBind := by
  have hfind : findBind bindings modKey event.modified event.raw event.mods
      disablePowerKeyHandling = some event.vtBind := if_pos h
  unfold finalBind
  rw [hfind]
  dsimp only
  rw [if_neg]
  rintro ⟨-, hnot⟩
  exact hnot rfl

/-- Nothing inhibits changing VT. -/
theorem shouldInterceptKey_switchesVt (hpressed : event.pressed = true) (h : event.switchesVt)
    (suppressedKeys : Finset Keycode) (bindings : List Bind) (modKey : ModKey)
    (ui : ScreenshotUi) (disablePowerKeyHandling isInhibitingShortcuts : Bool) :
    (shouldInterceptKey suppressedKeys bindings modKey event ui disablePowerKeyHandling
      isInhibitingShortcuts).1 = .intercept (some event.vtBind) := by
  unfold shouldInterceptKey
  rw [if_neg (by simp [hpressed]), finalBind_switchesVt h, hpressed]
  dsimp only
  rw [if_neg]
  rintro ⟨-, hinhibit⟩
  nomatch hinhibit

/-- With the screenshot UI closed, only binds are intercepted. -/
theorem shouldInterceptKey_noBind (hpressed : event.pressed = true) {modes : Modes}
    (hnone : modes.NoBind event) (suppressedKeys : Finset Keycode) (isInhibitingShortcuts : Bool) :
    (shouldInterceptKey suppressedKeys (makeBindsIter modes (modifiersFromState event.mods))
      modes.modKey event .closed modes.disablePowerKeyHandling isInhibitingShortcuts).1 =
      .forward := by
  have hfinal : finalBind (makeBindsIter modes (modifiersFromState event.mods)) modes.modKey event
      .closed modes.disablePowerKeyHandling = none := by
    unfold finalBind
    dsimp only
    rw [if_neg (by simp [ScreenshotUi.isOpen])]
    exact hnone
  unfold shouldInterceptKey
  rw [if_neg (by simp [hpressed]), hfinal, hpressed]

end Press

namespace Session

section Passes

variable {changes : Action → Modes → List Change} {session : Session} {event : KeyEvent}

/-- Whether a press is to get through: it changes VT, or the session is locked. -/
def Urgent (session : Session) (event : KeyEvent) : Prop :=
  event.switchesVt ∨ session.niri.modes.locked = true ∧ session.niri.modes.NoBind event

/-- The press gets through: it changes VT, and what no bind takes goes to the lock screen. -/
structure Passes (effects : Effects) (session : Session) (event : KeyEvent) : Prop where
  switchesVt : event.switchesVt →
    (session.niri.onKeyboard effects event).1 = .intercept (some event.vtBind)
  locked : session.niri.modes.locked = true → session.niri.modes.NoBind event →
    (session.niri.onKeyboard effects event).1 = .forward ∧
      session.keyboardFocus = .lockScreen session.lockSurfaceFocus

/-- No mode that outlives a lock captures the press, and the keyboard focus is up to date. -/
structure Clear (session : Session) (event : KeyEvent) : Prop where
  resizeMode : session.Urgent event → session.niri.modes.resizeMode = false
  grab : session.Urgent event → ¬session.niri.modes.CancelsGrab event
  focus : session.niri.modes.locked = true → session.niri.modes.NoBind event →
    session.keyboardFocus = session.currentFocus

theorem currentFocus_locked (hexit : session.niri.modes.exitConfirmDialogOpen = false)
    (hlocked : session.niri.modes.locked = true) :
    session.currentFocus = .lockScreen session.lockSurfaceFocus := by
  unfold currentFocus
  dsimp only
  rw [if_neg (by simp [hexit]), if_pos hlocked]

/-- A press that no mode captures gets through. -/
theorem Clear.passes (hinv : session.Inv) {effects : Effects} (hpressed : event.pressed = true)
    (hexit : session.niri.modes.exitConfirmDialogOpen = false) (h : session.Clear event) :
    session.Passes effects event where
  switchesVt hvt := by
    rw [onKeyboard_fst, filter_press hpressed hexit (h.resizeMode (.inl hvt)) (h.grab (.inl hvt)),
      shouldInterceptKey_switchesVt hpressed hvt]
  locked hlocked hnone := by
    have hfocus : session.keyboardFocus = .lockScreen session.lockSurfaceFocus :=
      (h.focus hlocked hnone).trans (currentFocus_locked hexit hlocked)
    refine ⟨?_, hfocus⟩
    have hclosed : session.niri.modes.screenshotUi = .closed := hinv.lockedOver hlocked
    have hover : session.niri.modes.overviewFocused = false := by
      rw [hinv.overviewFocused, hfocus]
      rfl
    have hspace : (if event.raw = some Keysym.space
        then session.niri.modes.screenshotUi.setSpaceDown event.pressed
        else session.niri.modes.screenshotUi) = .closed := by
      rw [hclosed]
      split_ifs <;> rfl
    rw [onKeyboard_fst, filter_press hpressed hexit (h.resizeMode (.inr ⟨hlocked, hnone⟩))
      (h.grab (.inr ⟨hlocked, hnone⟩)), hspace, shouldInterceptKey_noBind hpressed hnone]
    dsimp only
    rw [if_neg (by simp [hover])]

/-- A press that a mode captures does not. -/
theorem Passes.not_captured {effects : Effects} (h : session.Passes effects event)
    (hurgent : session.Urgent event) :
    (session.niri.onKeyboard effects event).1 ≠ .intercept none := by
  intro hnone
  rcases hurgent with hvt | ⟨hlocked, hbind⟩
  · have hvt := h.switchesVt hvt
    rw [hnone] at hvt
    nomatch hvt
  · have hforward := (h.locked hlocked hbind).1
    rw [hnone] at hforward
    nomatch hforward

theorem Passes.clear {effects : Effects} (hpressed : event.pressed = true)
    (hexit : session.niri.modes.exitConfirmDialogOpen = false)
    (h : session.Passes effects event) : session.Clear event where
  resizeMode hurgent := by
    by_contra hresize
    refine h.not_captured hurgent ?_
    rw [onKeyboard_fst]
    exact filter_resizeMode hpressed hexit (by simpa using hresize) _ _
  grab hurgent := by
    intro hgrab
    refine h.not_captured hurgent ?_
    rw [onKeyboard_fst]
    exact filter_cancelsGrab hpressed hexit hgrab _ _
  focus hlocked hnone := by
    rw [currentFocus_locked hexit hlocked]
    exact (h.locked hlocked hnone).2

/-- In every run, a press gets through exactly if no resize mode and no grab captures it and
the focus was updated since the lock. -/
theorem press_passes_iff (h : (machine changes).ReachableBy (fun _ _ => True) session)
    (hpressed : event.pressed = true)
    (hexit : session.niri.modes.exitConfirmDialogOpen = false) :
    session.Passes (modalEffects changes) event ↔ session.Clear event :=
  ⟨fun hpasses => hpasses.clear hpressed hexit,
    fun hclear => hclear.passes (reachable_inv h) hpressed hexit⟩

end Passes

/-! ### A lock in the resize mode, and one without -/

namespace Sample

/-- One action enters the resize mode. -/
def changes : Action → Modes → List Change
  | .other 0, _ => [.enterResizeMode]
  | _, _ => []

def session : Session := ⟨⟨∅, Input.Sample.modes⟩, .layout none, some 7, .layout none⟩

/-- A press without modifiers. -/
def press (keysym : Keysym) : KeyEvent :=
  ⟨keysym, true, ⟨false, false, false, false, false, false⟩, keysym, some keysym⟩

theorem initial : (machine changes).initial session := ⟨rfl, rfl⟩

end Sample

/-- Nothing gets through a lock that comes in the resize mode, and VT cannot be changed. -/
theorem not_press_passes : ∃ session : Session,
    (machine Sample.changes).ReachableBy (fun _ _ => True) session ∧
      session.niri.modes.exitConfirmDialogOpen = false ∧
      ¬session.Passes (modalEffects Sample.changes) (Sample.press Keysym.switchVt1) ∧
      ¬session.Passes (modalEffects Sample.changes) (Sample.press Keysym.c) := by
  obtain ⟨session, hsession, hp⟩ := Machine.exists_reachableBy (M := machine Sample.changes)
    (p := fun session => decide (session.niri.modes.exitConfirmDialogOpen = false ∧
      session.niri.modes.locked = true ∧
      findBind (makeBindsIter session.niri.modes 0) session.niri.modes.modKey Keysym.c
        (some Keysym.c) (Sample.press Keysym.c).mods
        session.niri.modes.disablePowerKeyHandling = none ∧
      ∀ keysym ∈ [Keysym.switchVt1, Keysym.c], (session.niri.onKeyboard
        (modalEffects Sample.changes) (Sample.press keysym)).1 = .intercept none))
    [.action (.other 0) false, .change .continueToLocking, .refresh] Sample.initial
    (show ((machine Sample.changes).run (fun _ _ => True) _ _).any _ = true by decide +kernel)
  obtain ⟨hexit, hlocked, hnone, hkeys⟩ := of_decide_eq_true hp
  refine ⟨session, hsession, hexit, fun hvt => ?_, fun hkey => ?_⟩
  · refine hvt.not_captured (.inl ?_) (hkeys _ (by simp))
    exact ⟨by decide, by decide⟩
  · exact hkey.not_captured (.inr ⟨hlocked, hnone⟩) (hkeys _ (by simp))

/-- Locked in no mode, the session leaves the keys to the lock screen. -/
theorem press_passes_iff_locked : ∃ session : Session, session.niri.modes.locked = true ∧
    (session.niri.onKeyboard (modalEffects Sample.changes) (Sample.press Keysym.c)).1 = .forward ∧
      session.keyboardFocus = .lockScreen (some 7) := by
  obtain ⟨session, hsession, hp⟩ := Machine.exists_reachableBy (M := machine Sample.changes)
    (p := fun session => decide (session.niri.modes.exitConfirmDialogOpen = false ∧
      session.niri.modes.locked = true ∧ session.niri.modes.resizeMode = false ∧
      session.niri.modes.pointerGrab = none ∧ session.lockSurfaceFocus = some 7 ∧
      session.keyboardFocus = session.currentFocus ∧
      findBind (makeBindsIter session.niri.modes 0) session.niri.modes.modKey Keysym.c
        (some Keysym.c) (Sample.press Keysym.c).mods
        session.niri.modes.disablePowerKeyHandling = none))
    [.change .continueToLocking, .refresh] Sample.initial
    (show ((machine Sample.changes).run (fun _ _ => True) _ _).any _ = true by decide +kernel)
  obtain ⟨hexit, hlocked, hresize, hgrab, hsurface, hfocus, hnone⟩ := of_decide_eq_true hp
  have hclear : session.Clear (Sample.press Keysym.c) :=
    ⟨fun _ => hresize, fun _ h => by simp [Modes.CancelsGrab, hgrab] at h, fun _ _ => hfocus⟩
  have hpasses := (press_passes_iff hsession rfl hexit).mpr hclear
  exact ⟨session, hlocked, hsurface ▸ hpasses.locked hlocked hnone⟩

end Session

end Sol.Input
