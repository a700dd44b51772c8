import Sol.OutputRuns

/-!
# What a locked screen shows

In a locked session a frame is the lock surface over a solid colour, below the pointer, the
exit dialog and the notification; and below nothing else, unless the output has a screen
transition, whose texture was captured before the lock.

* `showsOnlyLock_iff`: a locked session shows nothing else exactly if there is no transition;
* `step_transitions`: the transitions after a step;
* `locked_shows`: runs in which no transition is in place when the session gets locked.
-/

namespace Sol.Redraw

open Panicking

/-- The elements that a locked session may show. -/
def Element.isLockContent : Element → Bool
  | .pointer => true
  | .exitConfirmDialog => true
  | .configErrorNotification => true
  | .lockSurface _ => true
  | .lockColor => true
  | _ => false

/-- Every frame, of any output and for any target, is made of the lock's own elements. -/
def ShowsOnlyLock (niri : Niri) : Prop :=
  ∀ output state, Assoc.get niri.outputs output = some state → ∀ target includePointer,
    ∀ element ∈ niri.renderOutput output state target includePointer, element.isLockContent = true

/-- The screen transition of an output. -/
def Niri.transition (niri : Niri) (output : Output) : Option ScreenTransition :=
  (Assoc.get niri.outputs output).bind OutputState.screenTransition

section Frame

variable {niri : Niri} {output : Output} {state : OutputState}

theorem renderInner_locked (hlocked : niri.isLocked = true)
    (hnone : state.screenTransition = none) (target : RenderTarget) (includePointer : Bool) :
    ∀ element ∈ niri.renderInner output state target includePointer,
      element.isLockContent = true := by
  intro element helement
  unfold Niri.renderInner at helement
  rw [hnone, if_pos hlocked] at helement
  simp only [List.append_nil, List.mem_append] at helement
  rcases helement with ((hpointer | hdialog) | hnotification) | hsurface | hcolor
  · split_ifs at hpointer
    · rw [List.mem_singleton.mp hpointer]
      rfl
    · nomatch hpointer
  · split_ifs at hdialog
    · rw [List.mem_singleton.mp hdialog]
      rfl
    · nomatch hdialog
  · split_ifs at hnotification
    · rw [List.mem_singleton.mp hnotification]
      rfl
    · nomatch hnotification
  · cases hstate : state.lockSurface with
    | none =>
      rw [hstate] at hsurface
      nomatch hsurface
    | some surface =>
      rw [hstate] at hsurface
      rw [List.mem_singleton.mp hsurface]
      rfl
  · rw [List.mem_singleton.mp hcolor]
    rfl

/-- The texture of a transition is rendered, whatever the lock is. -/
theorem transition_mem_renderInner (niri : Niri) (output : Output) {transition : ScreenTransition}
    (hsome : state.screenTransition = some transition) (target : RenderTarget)
    (includePointer : Bool) : transition.render target niri.clock ∈
      niri.renderInner output state target includePointer := by
  unfold Niri.renderInner
  rw [hsome]
  simp

theorem showsOnlyLock_iff (hlocked : niri.isLocked = true) :
    ShowsOnlyLock niri ↔ ∀ output, niri.transition output = none := by
  constructor
  · intro h output
    unfold Niri.transition
    cases hget : Assoc.get niri.outputs output with
    | none => rfl
    | some state =>
      cases hsome : state.screenTransition with
      | none => exact hsome
      | some transition =>
        have hmem := transition_mem_renderInner niri output hsome .screencast true
        have hcontent := h output state hget .screencast true _ hmem
        nomatch hcontent
  · intro h output state hget target includePointer
    have hnone : state.screenTransition = none := by
      have houtput := h output
      unfold Niri.transition at houtput
      rw [hget] at houtput
      exact houtput
    exact renderInner_locked hlocked hnone _ includePointer

end Frame

/-! ### The transitions in a run -/

/-- The transitions are those that were there. -/
def Transitions (before : Niri) : OutputInv :=
  fun _ output state? => ∀ state, state? = some state →
    state.screenTransition = before.transition output

theorem transitions_stable (before : Niri) : Stable (Transitions before) where
  queueRedraw _ _ state h _ hstate := Option.some.inj hstate ▸ h state rfl
  lockSurface _ _ state _ h _ hstate := Option.some.inj hstate ▸ h state rfl
  tokens _ _ _ _ _ h := h

theorem transitions_none (before : Niri) (loop : EventLoop Source) (output : Output) :
    Transitions before loop output none := fun _ hstate => nomatch hstate

theorem transitions_self (niri : Niri) : All (Transitions niri) niri := by
  intro output state hget
  unfold Niri.transition
  rw [hget]
  rfl

section Steps

variable {niri before : Niri}

theorem onVblank_transitions (h : All (Transitions before) niri) (output : Output) (time : ℕ) :
    All (Transitions before) (niri.onVblank output time) := by
  unfold Niri.onVblank
  cases hget : Assoc.get niri.outputs output with
  | none => exact h
  | some state =>
    have hstate := h output state hget
    dsimp only
    generalize state.vblankThrottle.throttle niri.loop output state.refreshInterval time = r
    obtain ⟨throttled, throttle, loop'⟩ := r
    have hset : ∀ state', state'.screenTransition = state.screenTransition →
        All (Transitions before) ({ niri with loop := loop' }.setOutput output state') := by
      intro state' heq o
      have hget' : Assoc.get ({ niri with loop := loop' }.setOutput output state').outputs o =
          if o = output then some state' else Assoc.get niri.outputs o :=
        get_setOutput (by simp [hget])
      rw [hget']
      split_ifs with ho
      · intro s hs
        rw [← Option.some.inj hs, heq, ho]
        exact hstate
      · exact h o
    dsimp only
    split_ifs
    · exact hset _ rfl
    · exact hset _ rfl
    · exact hset _ rfl

theorem onEstimatedVblankTimer_transitions (h : All (Transitions before) niri) (output : Output) :
    Ensures (niri.onEstimatedVblankTimer output) (All (Transitions before)) := by
  unfold Niri.onEstimatedVblankTimer
  cases hget : Assoc.get niri.outputs output with
  | none => exact ensures_ok.mpr h
  | some state =>
    have hstate := h output state hget
    have hset : ∀ state', state'.screenTransition = state.screenTransition →
        All (Transitions before) (niri.setOutput output state') := fun state' heq =>
      All.setOutput (transitions_stable before) h (by rw [hget]; rfl) (fun _ _ => rfl)
        fun s hs => Option.some.inj hs ▸ heq.trans hstate
    dsimp only
    split
    · exact ensures_error
    · exact ensures_error
    · exact ensures_error
    · exact ensures_ok.mpr (hset _ rfl)
    · split_ifs
      · exact ensures_ok.mpr (hset _ rfl)
      · exact ensures_ok.mpr (hset _ rfl)

theorem fire_transitions (hinv : niri.Inv) (h : All (Transitions before) niri) (token : Token)
    (time : ℕ) : Ensures (niri.fire token time) (All (Transitions before)) := by
  unfold Niri.fire
  rw [ensures_bind]
  have htimer : Ensures (niri.onTimer token time) (All (Transitions before)) := by
    unfold Niri.onTimer
    split
    · exact ensures_ok.mpr h
    · exact ensures_ok.mpr (h.continueToLocking (transitions_stable before) hinv)
    · exact onEstimatedVblankTimer_transitions h _
    · exact ensures_ok.mpr (onVblank_transitions h _ _)
  exact htimer.mono fun t ht => ensures_ok.mpr ht

/-- No step but the action and the animations changes the transitions. -/
theorem step_transitions (hinv : niri.Inv) {step : Niri.Step}
    (haction : ∀ failed delayMs, step = .doScreenTransition failed delayMs → niri.isLocked = true)
    (hanimations : ∀ clock, step ≠ .advanceAnimations clock) :
    Ensures (niri.step step) (All (Transitions niri)) := by
  have hstable := transitions_stable niri
  have h := transitions_self niri
  cases step with
  | lock client isAlive =>
    have hnext : All (Transitions niri) { niri with requests := niri.requests + 1 } := h
    exact ensures_ok.mpr (hnext.lock hstable _ _)
  | newLockSurface client output => exact ensures_ok.mpr (h.newLockSurface hstable _ _)
  | commitLockSurface output isMapped => exact h.commitLockSurface hstable hinv _ _
  | unlock => exact ensures_ok.mpr ((h.unlock hstable hinv).activateMonitors hstable)
  | fire token time => exact fire_transitions hinv h token time
  | redraw output outcome animationsOngoing =>
    refine h.redraw hstable hinv fun state res state' loop' hget hrenders s hs => ?_
    rw [← Option.some.inj hs, rendered_screenTransition, hrenders.screenTransition]
    exact h output state hget
  | vblank output time => exact ensures_ok.mpr (onVblank_transitions h output time)
  | queueRedraw output => exact h.queueRedraw hstable output
  | queueRedrawAll => exact ensures_ok.mpr (h.queueRedrawAll hstable)
  | deactivateMonitors => exact ensures_ok.mpr h
  | activateMonitors => exact ensures_ok.mpr (h.activateMonitors hstable)
  | addOutput output refreshInterval moved =>
    refine h.addOutput hstable fun hnone lockRenderState s hs => ?_
    unfold Niri.transition
    rw [← Option.some.inj hs, hnone]
    rfl
  | removeOutput output moved => exact h.removeOutput hstable hinv fun _ _ _ _ _ => transitions_none _ _ _
  | doScreenTransition failed delayMs =>
    refine ensures_ok.mpr ?_
    rw [if_pos (haction failed delayMs rfl)]
    exact h
  | advanceAnimations clock => exact absurd rfl (hanimations clock)
  | ui ui => exact ensures_ok.mpr h

end Steps

/-- When the step locks the session, no output that stays has a screen transition. -/
def ClearAtLock (niri : Niri) (step : Niri.Step) : Prop :=
  ∀ after, niri.step step = .ok after → niri.isLocked = false → after.isLocked = true →
    ∀ output, (Assoc.get after.outputs output).isSome = true → niri.transition output = none

section Locking

variable {niri after : Niri} {step : Niri.Step}

theorem doScreenTransition_isLocked (failed : List Output) (delayMs : Option ℕ) :
    (niri.doScreenTransition failed delayMs).isLocked = niri.isLocked := rfl

/-- The transitions after a step that locks the session are those before it. -/
theorem transition_of_locks (hinv : niri.Inv) (hstep : niri.step step = .ok after)
    (hunlocked : niri.isLocked = false) (hlocked : after.isLocked = true) {output : Output}
    (hsome : (Assoc.get after.outputs output).isSome = true) :
    after.transition output = niri.transition output := by
  have hall : All (Transitions niri) after := by
    refine step_transitions hinv ?_ ?_ after hstep
    · rintro failed delayMs rfl
      obtain rfl := Except.ok.inj hstep
      rw [if_neg (by simp [hunlocked]), doScreenTransition_isLocked, hunlocked] at hlocked
      nomatch hlocked
    · rintro clock rfl
      obtain rfl := Except.ok.inj hstep
      have hsame : ({ niri with clock := clock }).advanceAnimations.isLocked = niri.isLocked := rfl
      rw [hsame, hunlocked] at hlocked
      nomatch hlocked
  obtain ⟨state, hget⟩ := Option.isSome_iff_exists.mp hsome
  have hstate := hall output state hget
  unfold Niri.transition at hstate ⊢
  rw [hget]
  exact hstate

/-- A locked session gets no transition. -/
theorem transition_of_locked (hinv : niri.Inv) (hstep : niri.step step = .ok after)
    (hlocked : niri.isLocked = true) (hnone : ∀ output, niri.transition output = none)
    (output : Output) : after.transition output = none := by
  by_cases hanimations : ∃ clock, step = .advanceAnimations clock
  · obtain ⟨clock, rfl⟩ := hanimations
    obtain rfl := Except.ok.inj hstep
    have houtput := hnone output
    unfold Niri.transition Niri.advanceAnimations at *
    rw [get_mapOutputs]
    dsimp only
    cases hget : Assoc.get niri.outputs output with
    | none => rfl
    | some state =>
      rw [hget] at houtput
      simp only [Option.map_some, Option.bind_some] at houtput ⊢
      split_ifs
      · rfl
      · exact houtput
  · have hall : All (Transitions niri) after :=
      step_transitions hinv (fun _ _ _ => hlocked)
        (fun clock hclock => hanimations ⟨clock, hclock⟩) after hstep
    unfold Niri.transition
    cases hget : Assoc.get after.outputs output with
    | none => rfl
    | some state => exact (hall output state hget).trans (hnone output)

theorem transition_eq_none {output : Output}
    (hnone : (Assoc.get niri.outputs output).isSome = true → niri.transition output = none) :
    niri.transition output = none := by
  by_cases hsome : (Assoc.get niri.outputs output).isSome = true
  · exact hnone hsome
  · unfold Niri.transition
    rw [Option.not_isSome_iff_eq_none.mp hsome]
    rfl

/-- In runs without a transition at any lock, a locked session has none. -/
theorem reachable_transition (h : machine.ReachableBy ClearAtLock niri)
    (hlocked : niri.isLocked = true) (output : Output) : niri.transition output = none := by
  induction h generalizing output with
  | initial h =>
    obtain ⟨houtputs, -⟩ := h
    unfold Niri.transition
    rw [houtputs]
    rfl
  | step hs step hclear hstep ih =>
    rename_i before after
    have hinv := reachable_inv hs
    by_cases hbefore : before.isLocked = true
    · exact transition_of_locked hinv hstep hbefore (ih hbefore) output
    · have hunlocked : before.isLocked = false := by simpa using hbefore
      refine transition_eq_none fun hsome => ?_
      rw [transition_of_locks hinv hstep hunlocked hlocked hsome]
      exact hclear after hstep hunlocked hlocked output hsome

/-- Where no transition is in place when the session gets locked, a locked session shows only
the lock; and a lock with one in place shows more. -/
theorem locked_shows (h : machine.ReachableBy ClearAtLock niri) :
    (niri.isLocked = true → ShowsOnlyLock niri) ∧
      ∀ step after, niri.step step = .ok after → niri.isLocked = false → after.isLocked = true →
        (ShowsOnlyLock after ↔ ClearAtLock niri step) := by
  refine ⟨fun hlocked => (showsOnlyLock_iff hlocked).mpr (reachable_transition h hlocked), ?_⟩
  intro step after hstep hunlocked hlocked
  have hinv := reachable_inv h
  rw [showsOnlyLock_iff hlocked]
  constructor
  · intro hnone after' hstep' _ _ output hsome
    obtain rfl : after = after' := Except.ok.inj (hstep.symm.trans hstep')
    rw [← transition_of_locks hinv hstep hunlocked hlocked hsome]
    exact hnone output
  · intro hclear output
    refine transition_eq_none fun hsome => ?_
    rw [transition_of_locks hinv hstep hunlocked hlocked hsome]
    exact hclear after hstep hunlocked hlocked output hsome

end Locking

/-! ### A lock in a screen transition, and one without -/

/-- The element shows an unlocked session. -/
def Element.isSession : Element → Bool
  | .session _ => true
  | _ => false

/-- The texture of a transition of a minute outlives the lock, and its answer. -/
theorem not_locked_shows : ∃ (niri : Niri) (transition : ScreenTransition),
    machine.ReachableBy (fun _ _ => True) niri ∧ niri.lockState = .locked ⟨0, 5⟩ ∧
      niri.transition 0 = some transition ∧
      (transition.fromTexture .output).any Element.isSession = true ∧ ¬ShowsOnlyLock niri := by
  obtain ⟨niri, hniri, hp⟩ := Machine.exists_reachableBy (M := machine)
    (p := fun niri => decide (niri.lockState = .locked ⟨0, 5⟩) &&
      (niri.transition 0).any fun transition =>
        (transition.fromTexture .output).any Element.isSession)
    [.addOutput 0 none [], .doScreenTransition [] (some 60000), .lock 5 true,
      .newLockSurface 5 0, .commitLockSurface 0 true, .redraw 0 .submitted false] Sample.initial
    (show (machine.run (fun _ _ => True) _ _).any _ = true by decide +kernel)
  rw [Bool.and_eq_true, decide_eq_true_eq, Option.any_eq_true] at hp
  obtain ⟨hlock, transition, hsome, hsession⟩ := hp
  refine ⟨niri, transition, hniri, hlock, hsome, hsession, ?_⟩
  have hlocked : niri.isLocked = true := by
    unfold Niri.isLocked
    rw [hlock]
  rw [showsOnlyLock_iff hlocked]
  intro hnone
  rw [hnone 0] at hsome
  nomatch hsome

/-- A lock of an output without a transition. -/
theorem locked_shows_oneOutput : ∃ niri : Niri, niri.lockState = .locked ⟨0, 5⟩ ∧
    niri.outputs.length = 1 ∧ ShowsOnlyLock niri := by
  obtain ⟨niri, hniri, hp⟩ := Machine.exists_reachableBy (M := machine)
    (p := fun niri => decide (niri.lockState = .locked ⟨0, 5⟩ ∧ niri.outputs.length = 1))
    (Sample.lockSteps ++ [.redraw 0 .submitted false]) Sample.initial
    (show (machine.run (fun niri _ => (niri.outputs.all fun p => p.2.screenTransition.isNone) = true)
      _ _).any _ = true by decide +kernel)
  obtain ⟨hlock, hlength⟩ := of_decide_eq_true hp
  have hlocked : niri.isLocked = true := by
    unfold Niri.isLocked
    rw [hlock]
  have hclear : machine.ReachableBy ClearAtLock niri := by
    refine hniri.mono fun before step hnone after _ _ _ output _ => ?_
    rw [List.all_eq_true] at hnone
    unfold Niri.transition
    cases hget : Assoc.get before.outputs output with
    | none => rfl
    | some state => simpa using hnone _ (Assoc.mem_of_get_eq_some hget)
  exact ⟨niri, hlock, hlength, (locked_shows hclear).1 hlocked⟩

end Sol.Redraw
