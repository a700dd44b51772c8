import Sol.Keyboard
import Sol.Machine

/-!
# Releases go where the presses went

The suppressed keys are those whose press was intercepted and that were not released
since: each mode adds the key of a press that it intercepts, and takes it back with the
release, in whatever mode that comes.  Changing VT and suspending forget them all.

* `filter_pressed`, `filter_released`: what the filter does to the suppressed keys;
* `held`: the suppressed keys from the history of the events;
* `forwards_release_iff`: whether a release is forwarded.
-/

namespace Sol.Input

open Panicking

/-- The action clears the suppressed keys. -/
def Action.clears : Action → Bool
  | .changeVt _ | .suspend => true
  | _ => false

/-- The bind is not on cooldown, and its action clears the suppressed keys. -/
def Niri.clearedBy (self : Niri) (bind : Bind) : Bool :=
  bind.action.clears && (bind.cooldown.isNone || bind.key ∉ self.modes.bindCooldownTimers)

/-! ### The suppressed keys -/

section Effects

variable (effects : Effects) (self : Niri)

@[simp] theorem doAction_suppressedKeys (action : Action) (allowWhenLocked : Bool) :
    (self.doAction effects action allowWhenLocked).suppressedKeys =
      if action.clears then ∅ else self.suppressedKeys := by
  unfold Niri.doAction
  -- both actions are allowed when locked
  cases action <;> simp [allowedWhenLocked, Action.clears] <;> split_ifs <;> rfl

theorem handleBind_suppressedKeys (bind : Bind) : (self.handleBind effects bind).suppressedKeys =
    if self.clearedBy bind then ∅ else self.suppressedKeys := by
  unfold Niri.handleBind Niri.clearedBy
  cases bind.cooldown with
  | none => simp
  | some cooldown =>
    dsimp only
    by_cases hlocked : self.modes.locked ∧ ¬(bind.allowWhenLocked ∨ allowedWhenLocked bind.action)
    · -- what clears the keys is never stopped by the lock
      have hclears : bind.action.clears = false := by
        revert hlocked
        cases bind.action <;> simp [allowedWhenLocked, Action.clears]
      rw [if_pos hlocked, hclears]
      simp
    · rw [if_neg hlocked]
      by_cases htimer : bind.key ∈ self.modes.bindCooldownTimers
      · simp [htimer]
      · simp [htimer]

@[simp] theorem resizeModeKey_suppressedKeys (raw : Option Keysym) :
    (self.resizeModeKey effects raw).suppressedKeys = self.suppressedKeys := by
  unfold Niri.resizeModeKey
  split_ifs
  · exact doAction_suppressedKeys effects self _ _
  · exact doAction_suppressedKeys effects self _ _
  · rfl
  · rfl

end Effects

section Filter

variable {effects : Effects} {self : Niri} {event : KeyEvent} {modKey : ModKey}
  {isInhibitingShortcuts : Bool}

/-- A press is intercepted exactly if its key becomes suppressed. -/
def Suppresses (self : Niri) (keyCode : Keycode) (r : FilterResult × Finset Keycode) : Prop :=
  r.2 = if r.1 = .forward then self.suppressedKeys else insert keyCode self.suppressedKeys

/-- A release is intercepted exactly if its key was suppressed. -/
def Frees (self : Niri) (keyCode : Keycode) (r : FilterResult × Finset Keycode) : Prop :=
  (r.1 = .forward ↔ keyCode ∉ self.suppressedKeys) ∧ r.2 = self.suppressedKeys.erase keyCode

theorem release_frees (self : Niri) (keyCode : Keycode) :
    Frees self keyCode ((self.release keyCode).1, (self.release keyCode).2.suppressedKeys) := by
  unfold Niri.release Frees
  split_ifs with hmem
  · simp [hmem]
  · simp [hmem]

theorem shouldInterceptKey_pressed (hpressed : event.pressed = true) (bindings : List Bind)
    (screenshotUi : ScreenshotUi) (disablePowerKeyHandling : Bool) :
    Suppresses self event.keyCode (shouldInterceptKey self.suppressedKeys bindings modKey event
      screenshotUi disablePowerKeyHandling isInhibitingShortcuts) := by
  unfold shouldInterceptKey Suppresses
  rw [if_neg (by simp [hpressed]), hpressed]
  cases finalBind bindings modKey event screenshotUi disablePowerKeyHandling with
  | none => simp
  | some bind =>
    dsimp only
    split_ifs <;> simp_all

theorem shouldInterceptKey_released (hpressed : event.pressed = false) (bindings : List Bind)
    (screenshotUi : ScreenshotUi) (disablePowerKeyHandling : Bool) :
    Frees self event.keyCode (shouldInterceptKey self.suppressedKeys bindings modKey event
      screenshotUi disablePowerKeyHandling isInhibitingShortcuts) := by
  unfold shouldInterceptKey Frees
  rw [hpressed]
  by_cases hmem : event.keyCode ∈ self.suppressedKeys
  · rw [if_neg (by simp [hmem])]
    cases finalBind bindings modKey event screenshotUi disablePowerKeyHandling <;> simp [hmem]
  · rw [if_pos (by simp [hmem])]
    simp [hmem]

theorem suppress_suppresses {niri : Niri} (h : niri.suppressedKeys = self.suppressedKeys)
    (keyCode : Keycode) (bind : Option Bind) :
    Suppresses self keyCode (.intercept bind, (niri.suppress keyCode).suppressedKeys) := by
  unfold Suppresses Niri.suppress
  rw [if_neg (by simp), h]

/-- What the filter does with a press. -/
theorem filter_pressed (hpressed : event.pressed = true) :
    Suppresses self event.keyCode
      ((self.filter effects event modKey isInhibitingShortcuts).1,
        (self.filter effects event modKey isInhibitingShortcuts).2.suppressedKeys) := by
  unfold Niri.filter
  simp only [hpressed, not_true_eq_false, false_and, and_false, and_true, if_true, if_false,
    true_and]
  by_cases hexit : self.modes.exitConfirmDialogOpen = true
  · rw [if_pos hexit]
    refine suppress_suppresses ?_ _ _
    split_ifs <;> rfl
  rw [if_neg hexit]
  by_cases hresize : self.modes.resizeMode = true
  · rw [if_pos hresize, resizeModeKey_suppressedKeys]
    exact suppress_suppresses rfl _ _
  rw [if_neg hresize]
  by_cases hgrab : event.raw = some Keysym.escape ∧
      self.modes.pointerGrab.any PointerGrab.canBeCancelledWithEsc = true
  · rw [if_pos hgrab]
    exact suppress_suppresses rfl _ _
  rw [if_neg hgrab]
  generalize hr : shouldInterceptKey _ _ _ _ _ _ _ = r
  have hspec : Suppresses self event.keyCode r := hr ▸ shouldInterceptKey_pressed hpressed _ _ _
  obtain ⟨res, suppressedKeys⟩ := r
  cases res with
  | intercept bind => exact hspec
  | forward =>
    have hsame : suppressedKeys = self.suppressedKeys := hspec
    dsimp only
    split
    · exact suppress_suppresses hsame _ _
    · exact hspec

/-- What the filter does with a release. -/
theorem filter_released (hpressed : event.pressed = false) :
    Frees self event.keyCode
      ((self.filter effects event modKey isInhibitingShortcuts).1,
        (self.filter effects event modKey isInhibitingShortcuts).2.suppressedKeys) := by
  unfold Niri.filter
  simp only [hpressed, Bool.false_eq_true, not_false_eq_true, and_false, false_and, true_and,
    if_false]
  by_cases hresize : self.modes.resizeMode = true
  · rw [if_pos hresize]
    exact release_frees self _
  rw [if_neg hresize]
  by_cases hmru : self.modes.windowMruUi.isOpen = true ∧ modifiersFromState event.mods = 0
  · rw [if_pos hmru]
    have hfrees := release_frees (self.doAction effects .mruConfirm false) event.keyCode
    unfold Frees at hfrees ⊢
    rw [doAction_suppressedKeys] at hfrees
    exact hfrees
  rw [if_neg hmru]
  generalize hr : shouldInterceptKey _ _ _ _ _ _ _ = r
  have hspec : Frees self event.keyCode r := hr ▸ shouldInterceptKey_released hpressed _ _ _
  obtain ⟨res, suppressedKeys⟩ := r
  cases res with
  | intercept bind => exact hspec
  | forward => exact hspec

end Filter

/-! ### Runs -/

/-- What there is to remember of a run. -/
inductive Entry
  /-- An event of a key, and whether it was forwarded to the client. -/
  | key (keyCode : Keycode) (pressed forwarded : Bool)
  /-- The suppressed keys were forgotten. -/
  | cleared
  deriving DecidableEq, Repr

/-- The compositor, with what happened so far, the last first. -/
structure Run where
  niri : Niri
  log : List Entry

inductive Step
  /-- A key event. -/
  | key (event : KeyEvent)
  /-- A bind that repeats, or that is triggered by something else than a key. -/
  | bind (bind : Bind)
  /-- An action that is asked for otherwise. -/
  | action (action : Action) (allowWhenLocked : Bool)
  /-- Anything else that changes the modal state. -/
  | modes (modes : Modes)

namespace Run

def handleBind (effects : Effects) (run : Run) (bind : Bind) : Run :=
  ⟨run.niri.handleBind effects bind,
    if run.niri.clearedBy bind then .cleared :: run.log else run.log⟩

def step (effects : Effects) (run : Run) : Step → Run
  | .key event =>
    let (res, niri) := run.niri.filter effects event run.niri.modes.modKey
      run.niri.modes.inhibitingShortcuts
    let run : Run := ⟨niri, .key event.keyCode event.pressed (res = .forward) :: run.log⟩
    match res with
    | .intercept (some bind) => if event.pressed then run.handleBind effects bind else run
    | _ => run
  | .bind bind => run.handleBind effects bind
  | .action action allowWhenLocked =>
    ⟨run.niri.doAction effects action allowWhenLocked,
      if action.clears then .cleared :: run.log else run.log⟩
  | .modes modes => { run with niri.modes := modes }

/-- The step of a key event is `on_keyboard`. -/
theorem step_key_niri (effects : Effects) (run : Run) (event : KeyEvent) :
    (run.step effects (.key event)).niri = (run.niri.onKeyboard effects event).2.2 := by
  unfold step Niri.onKeyboard
  dsimp only
  generalize run.niri.filter effects event run.niri.modes.modKey
    run.niri.modes.inhibitingShortcuts = r
  obtain ⟨res, niri⟩ := r
  cases res with
  | forward => rfl
  | intercept bind =>
    cases bind with
    | none => rfl
    | some bind =>
      dsimp only
      split_ifs <;> rfl

end Run

/-- Whether the key was pressed or released last. -/
def lastState (keyCode : Keycode) : List Entry → Option Bool
  | [] => none
  | .cleared :: log => lastState keyCode log
  | .key k pressed _ :: log => if k = keyCode then some pressed else lastState keyCode log

/-- The press of the key was intercepted, and its release is to be. -/
def held (keyCode : Keycode) : List Entry → Bool
  | [] => false
  | .cleared :: _ => false
  | .key k pressed forwarded :: log =>
    if k = keyCode then pressed && !forwarded else held keyCode log

/-- The presses and the releases of each key alternate. -/
def Alternates (run : Run) : Step → Prop
  | .key event => lastState event.keyCode run.log ≠ some event.pressed
  | _ => True

def machine (effects : Effects) : Machine Run Step where
  initial run := run.niri.suppressedKeys = ∅ ∧ run.log = []
  step run step := .ok (run.step effects step)

/-- The suppressed keys are those whose press was intercepted, and the releases went where
the presses had gone. -/
structure Run.Inv (run : Run) : Prop where
  suppressed : ∀ k, k ∈ run.niri.suppressedKeys ↔ held k run.log = true
  releases : ∀ after k forwarded log, run.log = after ++ .key k false forwarded :: log →
    forwarded = !held k log

theorem held_eq_false {keyCode : Keycode} {log : List Entry}
    (h : lastState keyCode log ≠ some true) : held keyCode log = false := by
  induction log with
  | nil => rfl
  | cons entry log ih =>
    cases entry with
    | cleared => rfl
    | key k pressed forwarded =>
      unfold held
      unfold lastState at h
      split_ifs at h ⊢ with hk
      · simp_all
      · exact ih h

namespace Run.Inv

variable {effects : Effects} {run : Run}

/-- Another entry, which is not of a release. -/
theorem releases_cons (h : run.Inv) {entry : Entry} (hentry : ∀ k f, entry ≠ .key k false f)
    {after : List Entry} {k : Keycode} {forwarded : Bool} {log : List Entry}
    (hlog : entry :: run.log = after ++ .key k false forwarded :: log) :
    forwarded = !held k log := by
  cases after with
  | nil => exact absurd (List.cons.inj hlog).1 (hentry _ _)
  | cons first after => exact h.releases after k forwarded log (List.cons.inj hlog).2

theorem cleared (h : run.Inv) {niri : Niri} (hniri : niri.suppressedKeys = ∅) :
    Run.Inv ⟨niri, .cleared :: run.log⟩ where
  suppressed k := by simp [hniri, held]
  releases _ _ _ _ hlog := h.releases_cons (by simp) hlog

theorem same (h : run.Inv) {niri : Niri} (hniri : niri.suppressedKeys = run.niri.suppressedKeys) :
    Run.Inv ⟨niri, run.log⟩ where
  suppressed k := by rw [hniri, h.suppressed k]
  releases := h.releases

theorem handleBind (h : run.Inv) (bind : Bind) : (run.handleBind effects bind).Inv := by
  have hkeys := handleBind_suppressedKeys effects run.niri bind
  unfold Run.handleBind
  split_ifs at hkeys ⊢
  · exact h.cleared hkeys
  · exact h.same hkeys

theorem press (h : run.Inv) {niri : Niri} {k : Keycode} {forwarded : Bool}
    (hlast : lastState k run.log ≠ some true) (hniri : niri.suppressedKeys =
      if forwarded then run.niri.suppressedKeys else insert k run.niri.suppressedKeys) :
    Run.Inv ⟨niri, .key k true forwarded :: run.log⟩ where
  suppressed k' := by
    have hnot := held_eq_false hlast
    unfold held
    rw [hniri]
    split_ifs with hforwarded hk hk
    · subst hk
      simp [h.suppressed, hnot, hforwarded]
    · exact h.suppressed k'
    · subst hk
      simp [hforwarded]
    · rw [Finset.mem_insert, h.suppressed k', or_iff_right (Ne.symm hk)]
  releases _ _ _ _ hlog := h.releases_cons (by simp) hlog

theorem release (h : run.Inv) {niri : Niri} {k : Keycode} {forwarded : Bool}
    (hforwarded : forwarded = true ↔ k ∉ run.niri.suppressedKeys)
    (hniri : niri.suppressedKeys = run.niri.suppressedKeys.erase k) :
    Run.Inv ⟨niri, .key k false forwarded :: run.log⟩ where
  suppressed k' := by
    unfold held
    rw [hniri, Finset.mem_erase]
    split_ifs with hk
    · simp [hk]
    · rw [h.suppressed k', and_iff_right (Ne.symm hk)]
  releases after k' forwarded' log hlog := by
    cases after with
    | nil =>
      obtain ⟨hentry, rfl⟩ := List.cons.inj hlog
      obtain ⟨rfl, -, rfl⟩ := Entry.key.inj hentry
      rw [h.suppressed k] at hforwarded
      cases hheld : held k run.log <;> simp_all
    | cons first after => exact h.releases after k' forwarded' log (List.cons.inj hlog).2

theorem step (h : run.Inv) {step : Step} (hstep : Alternates run step) :
    (run.step effects step).Inv := by
  cases step with
  | bind bind => exact h.handleBind bind
  | modes modes => exact h.same rfl
  | action action allowWhenLocked =>
    have hkeys := doAction_suppressedKeys effects run.niri action allowWhenLocked
    unfold Run.step
    dsimp only
    split_ifs at hkeys ⊢
    · exact h.cleared hkeys
    · exact h.same hkeys
  | key event =>
    have hlast : lastState event.keyCode run.log ≠ some event.pressed := hstep
    have hinv : Run.Inv ⟨(run.niri.filter effects event run.niri.modes.modKey
        run.niri.modes.inhibitingShortcuts).2, .key event.keyCode event.pressed
        ((run.niri.filter effects event run.niri.modes.modKey
          run.niri.modes.inhibitingShortcuts).1 = .forward) :: run.log⟩ := by
      cases hpressed : event.pressed with
      | true =>
        refine h.press (hpressed ▸ hlast) ?_
        simp only [decide_eq_true_eq]
        exact filter_pressed hpressed
      | false =>
        have hfrees : Frees run.niri event.keyCode
            ((run.niri.filter effects event run.niri.modes.modKey
              run.niri.modes.inhibitingShortcuts).1,
              (run.niri.filter effects event run.niri.modes.modKey
                run.niri.modes.inhibitingShortcuts).2.suppressedKeys) := filter_released hpressed
        obtain ⟨hforward, hkeys⟩ := hfrees
        refine h.release ?_ hkeys
        rw [decide_eq_true_eq]
        exact hforward
    unfold Run.step
    dsimp only
    split
    · split_ifs
      · exact hinv.handleBind _
      · exact hinv
    · exact hinv

end Run.Inv

theorem machine_inv {effects : Effects} {run : Run}
    (h : (machine effects).ReachableBy Alternates run) : run.Inv := by
  refine h.invariant ?_ ?_
  · rintro run ⟨hkeys, hlog⟩
    exact ⟨fun k => by simp [hkeys, hlog, held], fun after k f log heq => by simp [hlog] at heq⟩
  · intro run step hinv hstep
    exact ensures_ok.mpr (hinv.step hstep)

/-- Whether a release is intercepted, by the events between it and the press. -/
theorem held_append {keyCode : Keycode} {forwarded : Bool} {between log : List Entry}
    (h : ∀ pressed f, .key keyCode pressed f ∉ between) :
    held keyCode (between ++ .key keyCode true forwarded :: log) = true ↔
      forwarded = false ∧ .cleared ∉ between := by
  induction between with
  | nil => simp [held]
  | cons entry between ih =>
    have ih := ih fun pressed f hmem => h pressed f (List.mem_cons_of_mem _ hmem)
    cases entry with
    | cleared => simp [held]
    | key k pressed f =>
      have hk : k ≠ keyCode := fun hk => h pressed f (hk ▸ List.mem_cons_self)
      rw [List.cons_append]
      unfold held
      rw [if_neg hk, ih]
      simp

/-- The release of a key is forwarded exactly if the press before it was, or the keys
were forgotten in between. -/
theorem forwards_release_iff {effects : Effects} {run : Run}
    (h : (machine effects).ReachableBy Alternates run) {keyCode : Keycode}
    {released pressed : Bool} {after between before : List Entry}
    (hlog : run.log =
      after ++ .key keyCode false released :: (between ++ .key keyCode true pressed :: before))
    (hbetween : ∀ p f, .key keyCode p f ∉ between) :
    released = true ↔ pressed = true ∨ .cleared ∈ between := by
  have hreleased := (machine_inv h).releases _ _ _ _ hlog
  have hheld : held keyCode (between ++ .key keyCode true pressed :: before) = true ↔
      pressed = false ∧ .cleared ∉ between := held_append hbetween
  rw [hreleased]
  cases hval : held keyCode (between ++ .key keyCode true pressed :: before) with
  | true =>
    obtain ⟨rfl, hnot⟩ := hheld.mp hval
    simp [hnot]
  | false =>
    have hnot := mt hheld.mpr (by simp [hval])
    cases pressed with
    | true => simp
    | false => simpa using hnot

/-! ### Runs of two events -/

namespace Sample

def effects : Effects where
  perform _ modes := modes
  unsetGrab modes := { modes with pointerGrab := none }
  mruApplyKeyboardCommit modes := modes

/-- No mode, and no binds. -/
def modes : Modes where
  modKey := .super
  binds := []
  recentWindowsOn := false
  recentWindowsBinds := []
  disablePowerKeyHandling := false
  exitConfirmDialogOpen := false
  stopped := false
  resizeMode := false
  windowMruUi := ⟨false, [], []⟩
  pointerGrab := none
  screenshotUi := .closed
  overviewFocused := false
  inhibitingShortcuts := false
  locked := false
  bindCooldownTimers := []

/-- A key without modifiers. -/
def key (keysym : Keysym) (pressed : Bool) : Step :=
  .key ⟨keysym, pressed, ⟨false, false, false, false, false, false⟩, keysym, some keysym⟩

theorem initial (modes : Modes) : (machine effects).initial ⟨⟨∅, modes⟩, []⟩ := ⟨rfl, rfl⟩

end Sample

instance (run : Run) (step : Step) : Decidable (Alternates run step) := by
  unfold Alternates
  split <;> infer_instance

/-- The press changes VT, and the release, if it is delivered, goes to the client. -/
theorem not_forwards_release : ∃ run : Run,
    (machine Sample.effects).ReachableBy Alternates run ∧
      run.log = [.key Keysym.switchVt1 false true, .cleared,
        .key Keysym.switchVt1 true false] := by
  obtain ⟨run, hrun, hp⟩ := Machine.exists_reachableBy (M := machine Sample.effects)
    (p := fun run => decide (run.log = [.key Keysym.switchVt1 false true, .cleared,
      .key Keysym.switchVt1 true false]))
    [Sample.key Keysym.switchVt1 true, Sample.key Keysym.switchVt1 false]
    (Sample.initial Sample.modes)
    (show ((machine Sample.effects).run Alternates _ _).any _ = true by decide +kernel)
  exact ⟨run, hrun, of_decide_eq_true hp⟩

/-- Escape leaves the resize mode, and its release goes to nobody. -/
theorem forwards_release_iff_resizeMode : ∃ (run : Run) (released : Bool) (log : List Entry),
    run.niri.modes.resizeMode = false ∧ run.log = .key Keysym.escape false released :: log ∧
      released = false := by
  obtain ⟨run, hrun, hp⟩ := Machine.exists_reachableBy (M := machine Sample.effects)
    (p := fun run => decide (run.niri.modes.resizeMode = false ∧ ∃ released ∈ [true, false],
      run.log = [.key Keysym.escape false released, .key Keysym.escape true false]))
    [Sample.key Keysym.escape true, Sample.key Keysym.escape false]
    (Sample.initial { Sample.modes with resizeMode := true })
    (show ((machine Sample.effects).run Alternates _ _).any _ = true by decide +kernel)
  obtain ⟨hmode, released, -, hlog⟩ := of_decide_eq_true hp
  have happend : run.log = [] ++ .key Keysym.escape false released ::
      ([] ++ .key Keysym.escape true false :: []) := hlog
  have hiff := forwards_release_iff hrun happend (by simp)
  exact ⟨run, released, _, hmode, hlog, by simpa using hiff⟩

end Sol.Input
