import Sol.OutputRuns

/-!
# Timers that stand in for a vblank

The token of an output's timer is kept in its redraw state.  A vblank that comes while the
state waits for the timer drops the token and leaves the timer: it fires later, in a state
that does not expect it.

* `Timed`: the timers of an output are those of its redraw state;
* `step_timed`: what every step keeps, if such a vblank does not come;
* `step_returns`: no step panics then;
* `timers_spec`: the timers in every such run.
-/

namespace Sol.Redraw

open Panicking

/-- The output has the timer that its redraw state remembers, and no other. -/
def Timed : OutputInv := fun loop output state? =>
  loop.tokens (.estimatedVblank output) = (state?.bind fun state => state.redrawState.token).toList

theorem timed_stable : Stable Timed where
  queueRedraw loop output state h := by
    unfold Timed at h ⊢
    rw [h]
    exact congrArg Option.toList (RedrawState.token_queueRedraw state.redrawState).symm
  lockSurface _ _ _ _ h := h
  tokens _ _ _ _ htokens h := htokens.trans h

/-- The vblank is throttled, or the output does not wait for its timer. -/
def Niri.ExpectsVblank (niri : Niri) (output : Output) (time : ℕ) : Prop :=
  ∀ state, Assoc.get niri.outputs output = some state →
    state.vblankThrottle.isEarly state.refreshInterval time = false →
      state.redrawState.token = none

/-- The step is no vblank for an output that waits for its timer. -/
def ExpectsStep (niri : Niri) : Niri.Step → Prop
  | .vblank output time => niri.ExpectsVblank output time
  | .fire token time => ∀ output, niri.loop.source token = some (.throttledVblank output) →
      niri.ExpectsVblank output time
  | _ => True

theorem throttle_fst (self : VBlankThrottle) (loop : EventLoop Source) (output : Output)
    (refreshInterval : Option ℕ) (time : ℕ) :
    (self.throttle loop output refreshInterval time).1 = self.isEarly refreshInterval time := by
  unfold VBlankThrottle.throttle
  dsimp only
  split_ifs with hearly
  · exact hearly.symm
  · simpa using hearly

section Steps

variable {niri : Niri}

/-- What a vblank does to the timers. -/
theorem onVblank_timed_iff (hinv : niri.Inv) (h : All Timed niri) (output : Output) (time : ℕ) :
    All Timed (niri.onVblank output time) ↔ niri.ExpectsVblank output time := by
  unfold Niri.onVblank
  cases hget : Assoc.get niri.outputs output with
  | none =>
    have hexpects : niri.ExpectsVblank output time := fun state hstate => by simp [hget] at hstate
    exact ⟨fun _ => hexpects, fun _ => h⟩
  | some state =>
    have hstate : niri.loop.tokens (.estimatedVblank output) =
        state.redrawState.token.toList := by
      have := h output
      rwa [hget] at this
    have hthrottled := throttle_fst state.vblankThrottle niri.loop output state.refreshInterval time
    dsimp only
    generalize hr : state.vblankThrottle.throttle niri.loop output state.refreshInterval time = r
      at hthrottled ⊢
    obtain ⟨throttled, throttle, loop'⟩ := r
    obtain ⟨htouch, htokens⟩ := throttle_spec (hinv.owns.get hget) hr
    have hset : ∀ state', All Timed ({ niri with loop := loop' }.setOutput output state') ↔
        state'.redrawState.token.toList = state.redrawState.token.toList := by
      intro state'
      have htimed : Timed loop' output (some state') ↔
          state'.redrawState.token.toList = state.redrawState.token.toList := by
        unfold Timed
        rw [htokens, hstate]
        exact eq_comm
      rw [← htimed]
      constructor
      · intro hall
        have ho := hall output
        have hset : Assoc.get ({ niri with loop := loop' }.setOutput output state').outputs output =
            if output = output then some state' else Assoc.get niri.outputs output :=
          get_setOutput (by simp [hget])
        rw [hset, if_pos rfl] at ho
        exact ho
      · intro ht
        exact All.setOutput timed_stable h (by rw [hget]; rfl)
          (fun o ho => htouch.estimated_of_ne ho) ht
    have hexpects : niri.ExpectsVblank output time ↔
        (throttled = false → state.redrawState.token = none) := by
      unfold Niri.ExpectsVblank
      simp only [hget, Option.some.injEq, forall_eq', ← hthrottled]
    rw [hexpects]
    dsimp only
    split_ifs with hcase hneeded
    · simp [hset, hcase]
    · simp [hset, hcase, OutputState.queueRedraw, RedrawState.queueRedraw, RedrawState.token]
    · simp [hset, hcase, RedrawState.token]

/-- A vblank leaves every timer where it is, also one that is forgotten. -/
theorem onVblank_tokens (hinv : niri.Inv) (output : Output) (time : ℕ) (o : Output) :
    (niri.onVblank output time).loop.tokens (.estimatedVblank o) =
      niri.loop.tokens (.estimatedVblank o) := by
  unfold Niri.onVblank
  cases hget : Assoc.get niri.outputs output with
  | none => rfl
  | some state =>
    dsimp only
    generalize hr : state.vblankThrottle.throttle niri.loop output state.refreshInterval time = r
    obtain ⟨throttled, throttle, loop'⟩ := r
    obtain ⟨htouch, htokens⟩ := throttle_spec (hinv.owns.get hget) hr
    have hsame : loop'.tokens (.estimatedVblank o) = niri.loop.tokens (.estimatedVblank o) := by
      by_cases ho : o = output
      · rw [ho, htokens]
      · exact htouch.estimated_of_ne ho
    dsimp only
    split_ifs <;> exact hsame

theorem cancelMru_loop : niri.cancelMru.loop = niri.loop := by
  unfold Niri.cancelMru
  split_ifs <;> rfl

theorem continueToLocking_tokens (hinv : niri.Inv) (o : Output) :
    niri.continueToLocking.loop.tokens (.estimatedVblank o) =
      niri.loop.tokens (.estimatedVblank o) := by
  unfold Niri.continueToLocking
  cases hstate : niri.lockState with
  | unlocked => rfl
  | locking => rfl
  | locked => rfl
  | waitingForSurfaces c token =>
    have hremove := All.removeDeadline hinv hstate o
    have hloop : (Niri.closeScreenshotUi { niri with
        loop := niri.loop.remove token, lockState := .unlocked }).cancelMru.loop =
        niri.loop.remove token := cancelMru_loop
    dsimp only
    split_ifs
    · exact (congrArg (EventLoop.tokens · _) hloop).trans hremove
    · exact (congrArg (EventLoop.tokens · _) hloop).trans hremove

/-- A timer that is registered finds its output waiting for it. -/
theorem onEstimatedVblankTimer_timed (h : All Timed niri) {output : Output} {token : Token}
    (hmem : token ∈ niri.loop.tokens (.estimatedVblank output)) :
    Returns (niri.onEstimatedVblankTimer output) fun t =>
      All Timed { t with loop := t.loop.remove token } := by
  have ho := h output
  unfold Niri.onEstimatedVblankTimer
  cases hget : Assoc.get niri.outputs output with
  | none =>
    rw [hget] at ho
    unfold Timed at ho
    simp [ho] at hmem
  | some state =>
    rw [hget] at ho
    have htoken : state.redrawState.token = some token := by
      unfold Timed at ho
      rw [ho] at hmem
      simpa using hmem
    have hsingle : niri.loop.tokens (.estimatedVblank output) = [token] := by
      unfold Timed at ho
      rw [ho]
      simp [htoken]
    have howned := EventLoop.owned_of_mem hmem
    have hset : ∀ state', state'.redrawState.token = none →
        All Timed ({ niri with loop := niri.loop.remove token }.setOutput output state') := by
      intro state' hnone
      refine All.setOutput timed_stable h (by rw [hget]; rfl)
        (fun o hne => howned.tokens_remove (by simpa using hne)) ?_
      unfold Timed
      rw [EventLoop.tokens_remove_self hsingle]
      simp [hnone]
    dsimp only
    cases hstate : state.redrawState with
    | idle => simp [hstate, RedrawState.token] at htoken
    | queued => simp [hstate, RedrawState.token] at htoken
    | waitingForVBlank => simp [hstate, RedrawState.token] at htoken
    | waitingForEstimatedVBlankAndQueued => exact returns_ok.mpr (hset _ rfl)
    | waitingForEstimatedVBlank =>
      dsimp only
      split_ifs
      · exact returns_ok.mpr (hset _ rfl)
      · exact returns_ok.mpr (hset _ rfl)

/-- The token of another source goes. -/
theorem remove_timed {t : Niri} (h : All Timed t) {token : Token}
    (hnot : ∀ output, token ∉ t.loop.tokens (.estimatedVblank output)) :
    All Timed { t with loop := t.loop.remove token } := by
  refine h.withLoop timed_stable _ fun o => ?_
  rw [EventLoop.tokens_remove, List.filter_eq_self]
  intro other hother
  have hne : other ≠ token := ne_of_mem_of_not_mem hother (hnot o)
  simpa using hne

/-- Firing a source does not panic. -/
theorem fire_returns (h : All Timed niri) (token : Token) (time : ℕ) :
    Returns (niri.fire token time) fun _ => True := by
  unfold Niri.fire
  rw [returns_bind]
  unfold Niri.onTimer
  cases hsource : niri.loop.source token with
  | none => exact returns_ok.mpr (returns_ok.mpr trivial)
  | some source =>
    cases source with
    | lockDeadline => exact returns_ok.mpr (returns_ok.mpr trivial)
    | throttledVblank output => exact returns_ok.mpr (returns_ok.mpr trivial)
    | estimatedVblank output =>
      have hmem := EventLoop.source_eq_some_iff.mp hsource
      exact (onEstimatedVblankTimer_timed h hmem).mono fun _ _ => returns_ok.mpr trivial

/-- Firing a source keeps the timers. -/
theorem fire_timed (hinv : niri.Inv) (h : All Timed niri) {token : Token} {time : ℕ}
    (hexpects : ExpectsStep niri (.fire token time)) :
    Returns (niri.fire token time) (All Timed) := by
  unfold Niri.fire
  rw [returns_bind]
  unfold Niri.onTimer
  cases hsource : niri.loop.source token with
  | none =>
    refine returns_ok.mpr (returns_ok.mpr (remove_timed h fun output hmem => ?_))
    rw [EventLoop.source_eq_some_iff.mpr hmem] at hsource
    nomatch hsource
  | some source =>
    have hmem := EventLoop.source_eq_some_iff.mp hsource
    have howned := EventLoop.owned_of_mem hmem
    cases source with
    | lockDeadline =>
      have ht := h.continueToLocking timed_stable hinv
      refine returns_ok.mpr (returns_ok.mpr (remove_timed ht fun output hout => ?_))
      rw [continueToLocking_tokens hinv] at hout
      nomatch howned.unique _ hout
    | estimatedVblank output =>
      exact (onEstimatedVblankTimer_timed h hmem).mono fun t ht => returns_ok.mpr ht
    | throttledVblank output =>
      have ht := (onVblank_timed_iff hinv h output time).mpr (hexpects output hsource)
      refine returns_ok.mpr (returns_ok.mpr (remove_timed ht fun o hout => ?_))
      rw [onVblank_tokens hinv] at hout
      nomatch howned.unique _ hout

theorem redraw_timed (hinv : niri.Inv) (h : All Timed niri) (output : Output)
    (outcome : RenderOutcome) (animationsOngoing : Bool) :
    Ensures (niri.redraw output outcome animationsOngoing) (All Timed) := by
  refine h.redraw timed_stable hinv fun state res state' loop' hget hrenders => ?_
  have ho := h output
  rw [hget] at ho
  unfold Timed
  rw [hrenders.estimated ho]
  exact congrArg Option.toList (rendered_token _ _ _).symm

theorem doScreenTransition_timed (h : All Timed niri) (failed : List Output)
    (delayMs : Option ℕ) : All Timed (niri.doScreenTransition failed delayMs) := by
  intro output
  obtain ⟨transition, heq⟩ := get_doScreenTransition niri failed delayMs output
  have ho := h output
  rw [heq]
  cases hget : Assoc.get niri.outputs output with
  | none =>
    rw [hget] at ho
    exact ho
  | some state =>
    rw [hget] at ho
    exact ho

theorem advanceAnimations_timed (h : All Timed niri) : All Timed niri.advanceAnimations := by
  refine h.mapOutputs fun loop o state hstate => ?_
  split_ifs
  · exact hstate
  · exact hstate

/-- An output that goes takes its timer with it. -/
theorem removeOutput_timed (hinv : niri.Inv) (h : All Timed niri) (output : Output)
    (moved : List Output) : Ensures (niri.removeOutput output moved) (All Timed) := by
  refine h.removeOutput timed_stable hinv fun t state _ hall hget => ?_
  have ho := hall output
  rw [hget] at ho
  unfold Timed at ho ⊢
  cases htoken : state.redrawState.token with
  | none =>
    rw [ho]
    simp [htoken]
  | some token =>
    refine EventLoop.tokens_remove_self ?_
    rw [ho]
    simp [htoken]

theorem step_timed (hinv : niri.Inv) (h : All Timed niri) {step : Niri.Step}
    (hexpects : ExpectsStep niri step) : Ensures (niri.step step) (All Timed) := by
  have hstable := timed_stable
  cases step with
  | lock client isAlive =>
    have hnext : All Timed { niri with requests := niri.requests + 1 } := h
    exact ensures_ok.mpr (hnext.lock hstable _ _)
  | newLockSurface client output => exact ensures_ok.mpr (h.newLockSurface hstable _ _)
  | commitLockSurface output isMapped => exact h.commitLockSurface hstable hinv _ _
  | unlock => exact ensures_ok.mpr ((h.unlock hstable hinv).activateMonitors hstable)
  | fire token time => exact (fire_timed hinv h hexpects).ensures
  | redraw output outcome animationsOngoing => exact redraw_timed hinv h _ _ _
  | vblank output time => exact ensures_ok.mpr ((onVblank_timed_iff hinv h _ _).mpr hexpects)
  | queueRedraw output => exact h.queueRedraw hstable output
  | queueRedrawAll => exact ensures_ok.mpr (h.queueRedrawAll hstable)
  | deactivateMonitors => exact ensures_ok.mpr h
  | activateMonitors => exact ensures_ok.mpr (h.activateMonitors hstable)
  | addOutput output refreshInterval moved =>
    refine h.addOutput hstable fun hnone lockRenderState => ?_
    have ho := h output
    rw [hnone] at ho
    exact ho
  | removeOutput output moved => exact removeOutput_timed hinv h output moved
  | doScreenTransition failed delayMs =>
    refine ensures_ok.mpr ?_
    split_ifs
    · exact h
    · exact doScreenTransition_timed h failed delayMs
  | advanceAnimations clock =>
    have hclock : All Timed { niri with clock := clock } := h
    exact ensures_ok.mpr (advanceAnimations_timed hclock)
  | ui ui => exact ensures_ok.mpr h

/-! ### Panics -/

/-- The step is taken as the rest of the compositor takes it: redraws of outputs with a queued
redraw, on outputs that are there. -/
def Enabled (niri : Niri) : Niri.Step → Prop
  | .redraw output _ _ => ∃ state, Assoc.get niri.outputs output = some state ∧
      state.redrawState.isQueued = true
  | .queueRedraw output => (Assoc.get niri.outputs output).isSome = true
  | .addOutput output _ moved => Assoc.get niri.outputs output = none ∧
      ∀ m ∈ moved, m = output ∨ (Assoc.get niri.outputs m).isSome = true
  | .removeOutput output moved => (Assoc.get niri.outputs output).isSome = true ∧
      ∀ m ∈ moved, (Assoc.get niri.outputs m).isSome = true
  | _ => True

/-- The same outputs are there. -/
def SameOutputs (before after : Niri) : Prop :=
  ∀ o, (Assoc.get after.outputs o).isSome = (Assoc.get before.outputs o).isSome

theorem queueRedraw_returns {output : Output}
    (h : (Assoc.get niri.outputs output).isSome = true) :
    Returns (niri.queueRedraw output) (SameOutputs niri) := by
  obtain ⟨state, hget⟩ := Option.isSome_iff_exists.mp h
  unfold Niri.queueRedraw
  rw [hget]
  refine returns_ok.mpr fun o => ?_
  rw [get_setOutput h]
  split_ifs with ho
  · rw [ho, hget]
    rfl
  · rfl

theorem repositionOutputs_returns {moved : List Output}
    (h : ∀ m ∈ moved, (Assoc.get niri.outputs m).isSome = true) :
    Returns (niri.repositionOutputs moved) (SameOutputs niri) := by
  unfold Niri.repositionOutputs
  induction moved generalizing niri with
  | nil => exact returns_pure.mpr fun _ => rfl
  | cons output moved ih =>
    rw [List.foldlM_cons, returns_bind]
    refine (queueRedraw_returns (h output List.mem_cons_self)).mono fun t ht => ?_
    have hrest := @ih t fun m hm => by
      rw [ht m]
      exact h m (List.mem_cons_of_mem _ hm)
    exact hrest.mono fun u hu o => (hu o).trans (ht o)

theorem commitLockSurface_returns (output : Output) (isMapped : Bool) :
    Returns (niri.commitLockSurface output isMapped) fun _ => True := by
  unfold Niri.commitLockSurface
  cases hget : Assoc.get niri.outputs output with
  | none => exact returns_ok.mpr trivial
  | some state =>
    dsimp only
    cases state.lockSurface with
    | none => exact returns_ok.mpr trivial
    | some surface =>
      dsimp only
      split
      · exact returns_ok.mpr trivial
      · refine (queueRedraw_returns ?_).mono fun _ _ => trivial
        rw [get_setOutput (by rw [hget]; rfl), if_pos rfl]
        rfl

/-- No step panics. -/
theorem step_returns (hinv : niri.Inv) (h : All Timed niri) {step : Niri.Step}
    (henabled : Enabled niri step) : Returns (niri.step step) fun _ => True := by
  cases step with
  | lock => exact returns_ok.mpr trivial
  | newLockSurface => exact returns_ok.mpr trivial
  | commitLockSurface output isMapped => exact commitLockSurface_returns output isMapped
  | unlock => exact returns_ok.mpr trivial
  | fire token time => exact fire_returns h token time
  | redraw output outcome animationsOngoing =>
    obtain ⟨state, hget, hqueued⟩ := henabled
    obtain ⟨_, _, _, t, heq, -⟩ :=
      redraw_spec hget (hinv.owns.get hget) hqueued outcome animationsOngoing
    exact ⟨t, heq, trivial⟩
  | vblank => exact returns_ok.mpr trivial
  | queueRedraw output => exact (queueRedraw_returns henabled).mono fun _ _ => trivial
  | queueRedrawAll => exact returns_ok.mpr trivial
  | deactivateMonitors => exact returns_ok.mpr trivial
  | activateMonitors => exact returns_ok.mpr trivial
  | addOutput output refreshInterval moved =>
    obtain ⟨hnone, hmoved⟩ := henabled
    show Returns (niri.addOutput output refreshInterval moved) _
    unfold Niri.addOutput
    rw [hnone]
    refine (repositionOutputs_returns fun m hm => ?_).mono fun _ _ => trivial
    dsimp only
    rw [Assoc.get_concat (Assoc.get_eq_none_iff.mp hnone)]
    by_cases hm' : m = output
    · rw [if_pos hm']
      rfl
    · rw [if_neg hm']
      exact (hmoved m hm).resolve_left hm'
  | removeOutput output moved =>
    obtain ⟨hsome, hmoved⟩ := henabled
    show Returns (niri.removeOutput output moved) _
    unfold Niri.removeOutput
    rw [returns_bind]
    refine (repositionOutputs_returns hmoved).mono fun t ht => ?_
    obtain ⟨state, hget⟩ := Option.isSome_iff_exists.mp ((ht output).trans hsome)
    rw [hget]
    exact returns_ok.mpr trivial
  | doScreenTransition => exact returns_ok.mpr trivial
  | advanceAnimations => exact returns_ok.mpr trivial
  | ui => exact returns_ok.mpr trivial

end Steps

/-! ### Runs -/

theorem initial_timed {niri : Niri} (h : machine.initial niri) : All Timed niri := by
  obtain ⟨houtputs, -, hsources, -⟩ := h
  intro output
  unfold Timed EventLoop.tokens
  rw [hsources, houtputs]
  rfl

theorem reachable_timed {niri : Niri} (h : machine.ReachableBy ExpectsStep niri) :
    All Timed niri := by
  have hboth : niri.Inv ∧ All Timed niri := by
    refine h.invariant (P := fun niri => niri.Inv ∧ All Timed niri)
      (fun _ hinitial => ⟨initial_inv hinitial, initial_timed hinitial⟩) ?_
    rintro s step ⟨hinv, htimed⟩ hexpects
    exact (step_inv hinv step).and (step_timed hinv htimed hexpects)
  exact hboth.2

/-- Where no vblank comes to an output that waits for its timer, each output has the timer of
its redraw state and no other, no step panics, and another vblank keeps this exactly if it is
not such a one. -/
theorem timers_spec {niri : Niri} (h : machine.ReachableBy ExpectsStep niri) :
    All Timed niri ∧
      (∀ step, Enabled niri step → ∃ after, niri.step step = .ok after) ∧
      ∀ output time, All Timed (niri.onVblank output time) ↔ niri.ExpectsVblank output time := by
  have hinv := reachable_inv h
  have htimed := reachable_timed h
  refine ⟨htimed, fun step henabled => ?_, onVblank_timed_iff hinv htimed⟩
  obtain ⟨after, hafter, -⟩ := step_returns hinv htimed henabled
  exact ⟨after, hafter⟩

/-! ### A vblank that nobody waits for -/

/-- The step brings no vblank and no timer. -/
def Sample.isQuiet : Niri.Step → Bool
  | .vblank _ _ => false
  | .fire _ _ => false
  | _ => true

/-- An output whose redraw found nothing to show waits for its timer. -/
def Sample.timerSteps : List Niri.Step :=
  [.addOutput 0 (some 16666667) [], .queueRedraw 0, .redraw 0 .noDamage false]

/-- A vblank comes, and then the timer fires. -/
theorem not_timers_spec : ∃ niri : Niri, machine.ReachableBy (fun _ _ => True) niri ∧
    ¬All Timed niri ∧ ∃ token ∈ niri.loop.tokens (.estimatedVblank 0),
      niri.step (.fire token 0) = .error .unreachableCode := by
  obtain ⟨niri, hniri, hp⟩ := Machine.exists_reachableBy (M := machine)
    (p := fun niri => decide (niri.loop.tokens (.estimatedVblank 0) = [0]) &&
      (Assoc.get niri.outputs 0).any (fun state => state.redrawState = .queued) &&
      panicsWith .unreachableCode (niri.step (.fire 0 0)))
    (Sample.timerSteps ++ [.vblank 0 0]) Sample.initial
    (show (machine.run (fun _ _ => True) _ _).any _ = true by decide +kernel)
  rw [Bool.and_eq_true, Bool.and_eq_true, decide_eq_true_eq, Option.any_eq_true] at hp
  obtain ⟨⟨htokens, state, hget, hqueued⟩, hpanic⟩ := hp
  refine ⟨niri, hniri, fun htimed => ?_, 0, by simp [htokens], ?_⟩
  · have ho := htimed 0
    unfold Timed at ho
    rw [htokens, hget] at ho
    simp [of_decide_eq_true hqueued, RedrawState.token] at ho
  · exact panicsWith_iff.mp hpanic

/-- The timer fires before the next vblank. -/
theorem timers_spec_noDamage : ∃ niri : Niri,
    niri.loop.tokens (.estimatedVblank 0) = [0] ∧
      ∃ after, niri.step (.fire 0 0) = .ok after := by
  obtain ⟨niri, hniri, hp⟩ := Machine.exists_reachableBy (M := machine)
    (p := fun niri => decide (niri.loop.tokens (.estimatedVblank 0) = [0]))
    Sample.timerSteps Sample.initial
    (show (machine.run (fun _ step => Sample.isQuiet step = true) _ _).any _ = true by
      decide +kernel)
  have hexpects : machine.ReachableBy ExpectsStep niri := by
    refine hniri.mono fun _ step hquiet => ?_
    cases step with
    | vblank => nomatch hquiet
    | fire => nomatch hquiet
    | _ => trivial
  exact ⟨niri, of_decide_eq_true hp, (timers_spec hexpects).2.1 _ trivial⟩

end Sol.Redraw
