import Sol.OutputRuns

/-!
# Requested redraws

A redraw that was requested stays queued until it begins, or follows the vblank that the
output waits for.  Redrawing the outputs with a queued redraw comes to an end: each redraw
takes one from the queue, and the one thing that queues them all again, giving up a lock,
happens once.

* `Kept`: a request is kept in the redraw state; `reachable_kept`: in every run;
* `redraw_remaining`: what decreases with every redraw;
* `redraws_spec`: both, for every run.
-/

namespace Sol.Redraw

open Panicking

namespace RedrawState

/-- A redraw is queued, or will be with the vblank. -/
def keepsRequest : RedrawState → Bool
  | queued => true
  | waitingForEstimatedVBlankAndQueued _ => true
  | waitingForVBlank redrawNeeded => redrawNeeded
  | _ => false

@[simp] theorem keepsRequest_queueRedraw (self : RedrawState) :
    self.queueRedraw.keepsRequest = true := by
  cases self <;> rfl

end RedrawState

/-- A request since the last redraw began is kept. -/
def Kept : OutputInv := fun _ _ state? => ∀ state, state? = some state →
  state.requested = true → state.redrawState.keepsRequest = true

theorem kept_stable : Stable Kept where
  queueRedraw _ _ state _ s hs _ := by
    rw [← Option.some.inj hs]
    exact RedrawState.keepsRequest_queueRedraw state.redrawState
  lockSurface _ _ state _ h s hs hrequested := by
    rw [← Option.some.inj hs] at hrequested ⊢
    exact h state rfl hrequested
  tokens _ _ _ _ _ h := h

section Steps

variable {niri : Niri}

theorem kept_none (loop : EventLoop Source) (output : Output) : Kept loop output none :=
  fun _ hstate => nomatch hstate

/-- The state of an output with a request after a step of its own. -/
theorem kept_some {loop : EventLoop Source} {output : Output} {state : OutputState}
    (h : state.requested = true → state.redrawState.keepsRequest = true) :
    Kept loop output (some state) := by
  intro s hs
  rw [← Option.some.inj hs]
  exact h

theorem onVblank_kept (hinv : niri.Inv) (h : All Kept niri) (output : Output) (time : ℕ) :
    All Kept (niri.onVblank output time) := by
  unfold Niri.onVblank
  cases hget : Assoc.get niri.outputs output with
  | none => exact h
  | some state =>
    have hstate : state.requested = true → state.redrawState.keepsRequest = true :=
      h output state hget
    dsimp only
    generalize hr : state.vblankThrottle.throttle niri.loop output state.refreshInterval time = r
    obtain ⟨throttled, throttle, loop'⟩ := r
    have htouch := (throttle_spec (hinv.owns.get hget) hr).1
    have hset : ∀ state' : OutputState,
        (state'.requested = true → state'.redrawState.keepsRequest = true) →
          All Kept ({ niri with loop := loop' }.setOutput output state') := fun state' hkept =>
      All.setOutput kept_stable h (by rw [hget]; rfl) (fun o ho => htouch.estimated_of_ne ho)
        (kept_some hkept)
    dsimp only
    split_ifs with hthrottled hneeded
    · exact hset _ hstate
    · exact hset _ fun _ => rfl
    · refine hset _ fun hrequested => ?_
      -- the output waited for the vblank, and nothing was requested since
      have hkeeps := hstate hrequested
      cases hredraw : state.redrawState with
      | waitingForVBlank redrawNeeded =>
        rw [hredraw] at hkeeps hneeded
        simp_all [RedrawState.keepsRequest]
      | _ => simp [hredraw] at hneeded

theorem onEstimatedVblankTimer_kept (h : All Kept niri) (output : Output) :
    Ensures (niri.onEstimatedVblankTimer output) (All Kept) := by
  unfold Niri.onEstimatedVblankTimer
  cases hget : Assoc.get niri.outputs output with
  | none => exact ensures_ok.mpr h
  | some state =>
    have hstate : state.requested = true → state.redrawState.keepsRequest = true :=
      h output state hget
    have hset : ∀ state' : OutputState,
        (state'.requested = true → state'.redrawState.keepsRequest = true) →
          All Kept (niri.setOutput output state') := fun state' hkept =>
      All.setOutput kept_stable h (by rw [hget]; rfl) (fun _ _ => rfl) (kept_some hkept)
    dsimp only
    cases hredraw : state.redrawState with
    | idle => exact ensures_error
    | queued => exact ensures_error
    | waitingForVBlank => exact ensures_error
    | waitingForEstimatedVBlankAndQueued => exact ensures_ok.mpr (hset _ fun _ => rfl)
    | waitingForEstimatedVBlank =>
      dsimp only
      split_ifs
      · exact ensures_ok.mpr (hset _ fun _ => rfl)
      · refine ensures_ok.mpr (hset _ fun hrequested => ?_)
        have hkeeps := hstate hrequested
        rw [hredraw] at hkeeps
        nomatch hkeeps

theorem fire_kept (hinv : niri.Inv) (h : All Kept niri) (token : Token) (time : ℕ) :
    Ensures (niri.fire token time) (All Kept) := by
  have htimer : Ensures (niri.onTimer token time) (All Kept) := by
    unfold Niri.onTimer
    split
    · exact ensures_ok.mpr h
    · exact ensures_ok.mpr (h.continueToLocking kept_stable hinv)
    · exact onEstimatedVblankTimer_kept h _
    · exact ensures_ok.mpr (onVblank_kept hinv h _ _)
  unfold Niri.fire
  rw [ensures_bind]
  exact htimer.mono fun t ht => ensures_ok.mpr ht

/-- The requests that a redraw begins with are served by it. -/
theorem redraw_kept (hinv : niri.Inv) (h : All Kept niri) (output : Output)
    (outcome : RenderOutcome) (animationsOngoing : Bool) :
    Ensures (niri.redraw output outcome animationsOngoing) (All Kept) := by
  refine h.redraw kept_stable hinv fun state res state' loop' hget hrenders => ?_
  refine kept_some fun hrequested => ?_
  rw [rendered_requested, hrenders.requested] at hrequested
  nomatch hrequested

theorem step_kept (hinv : niri.Inv) (h : All Kept niri) (step : Niri.Step) :
    Ensures (niri.step step) (All Kept) := by
  have hstable := kept_stable
  cases step with
  | lock client isAlive =>
    have hnext : All Kept { niri with requests := niri.requests + 1 } := h
    exact ensures_ok.mpr (hnext.lock hstable _ _)
  | newLockSurface client output => exact ensures_ok.mpr (h.newLockSurface hstable _ _)
  | commitLockSurface output isMapped => exact h.commitLockSurface hstable hinv _ _
  | unlock => exact ensures_ok.mpr ((h.unlock hstable hinv).activateMonitors hstable)
  | fire token time => exact fire_kept hinv h token time
  | redraw output outcome animationsOngoing => exact redraw_kept hinv h _ _ _
  | vblank output time => exact ensures_ok.mpr (onVblank_kept hinv h output time)
  | queueRedraw output => exact h.queueRedraw hstable output
  | queueRedrawAll => exact ensures_ok.mpr (h.queueRedrawAll hstable)
  | deactivateMonitors => exact ensures_ok.mpr h
  | activateMonitors => exact ensures_ok.mpr (h.activateMonitors hstable)
  | addOutput output refreshInterval moved =>
    exact h.addOutput hstable fun _ _ => kept_some nofun
  | removeOutput output moved => exact h.removeOutput hstable hinv fun _ _ _ _ _ => kept_none _ _
  | doScreenTransition failed delayMs =>
    refine ensures_ok.mpr ?_
    split_ifs
    · exact h
    · intro output state hget
      obtain ⟨transition, heq⟩ := get_doScreenTransition niri failed delayMs output
      rw [heq] at hget
      obtain ⟨old, hold, rfl⟩ := Option.map_eq_some_iff.mp hget
      exact h output old hold
  | advanceAnimations clock =>
    have hclock : All Kept { niri with clock := clock } := h
    refine ensures_ok.mpr (hclock.mapOutputs fun loop o state hstate => kept_some ?_)
    split_ifs
    · exact hstate state rfl
    · exact hstate state rfl
  | ui ui => exact ensures_ok.mpr h

end Steps

theorem reachable_kept {niri : Niri} (h : machine.ReachableBy (fun _ _ => True) niri) :
    All Kept niri := by
  have hboth : niri.Inv ∧ All Kept niri := by
    refine h.invariant (P := fun niri => niri.Inv ∧ All Kept niri) ?_ ?_
    · intro s hinitial
      refine ⟨initial_inv hinitial, fun output state hget => ?_⟩
      rw [hinitial.1] at hget
      nomatch hget
    · rintro s step ⟨hinv, hkept⟩ -
      exact (step_inv hinv step).and (step_kept hinv hkept step)
  exact hboth.2

/-! ### The loop -/

namespace Niri

/-- `redraw_queued_outputs`, with the outcome of each render.  There is no result if the fuel
does not suffice. -/
def redrawQueuedOutputs (outcomes : ℕ → RenderOutcome × Bool) : ℕ → Niri → Option (Outcome Niri)
  | 0, _ => none
  | fuel + 1, self =>
    match self.outputs.find? fun p => p.2.redrawState.isQueued with
    | none => some (.ok self)
    | some p =>
      match self.redraw p.1 (outcomes fuel).1 (outcomes fuel).2 with
      | .ok self => self.redrawQueuedOutputs outcomes fuel
      | .error panic => some (.error panic)

/-- How many outputs have a redraw queued. -/
def queuedCount (niri : Niri) : ℕ := niri.outputs.countP fun p => p.2.redrawState.isQueued

def isLocking (niri : Niri) : Bool :=
  match niri.lockState with
  | .locking _ => true
  | _ => false

/-- How many redraws there are to come at most: giving up the lock may queue all outputs again. -/
def remaining (niri : Niri) : ℕ :=
  (if niri.isLocking then niri.outputs.length + 1 else 0) + niri.queuedCount

end Niri

section Loop

variable {niri : Niri}

theorem countP_modify_le {f : OutputState → OutputState} (output : Output)
    (hf : ∀ state, (f state).redrawState.isQueued = false) (outputs : List (Output × OutputState)) :
    (Assoc.modify output f outputs).countP (fun p => p.2.redrawState.isQueued) ≤
      outputs.countP fun p => p.2.redrawState.isQueued := by
  induction outputs with
  | nil => exact le_rfl
  | cons p outputs ih =>
    unfold Assoc.modify at ih ⊢
    rw [List.map_cons, List.countP_cons, List.countP_cons]
    by_cases hp : p.1 = output
    · simp only [hp, if_true, hf, Bool.false_eq_true, if_false]
      omega
    · simp only [hp, if_false]
      omega

/-- An output is taken from the queue. -/
theorem countP_modify_lt {f : OutputState → OutputState} {output : Output}
    {outputs : List (Output × OutputState)} {state : OutputState}
    (hf : ∀ state, (f state).redrawState.isQueued = false)
    (hget : Assoc.get outputs output = some state) (hqueued : state.redrawState.isQueued = true) :
    (Assoc.modify output f outputs).countP (fun p => p.2.redrawState.isQueued) <
      outputs.countP fun p => p.2.redrawState.isQueued := by
  induction outputs with
  | nil => nomatch hget
  | cons p outputs ih =>
    rw [Assoc.get_cons] at hget
    have hle := countP_modify_le output hf outputs
    unfold Assoc.modify at ih hle ⊢
    rw [List.map_cons, List.countP_cons, List.countP_cons]
    by_cases hp : p.1 = output
    · rw [if_pos hp] at hget
      obtain rfl := Option.some.inj hget
      simp only [hp, if_true, hf, Bool.false_eq_true, if_false, hqueued]
      omega
    · rw [if_neg hp] at hget
      have hlt := ih hget
      simp only [hp, if_false]
      omega

theorem length_setOutput (output : Output) (state : OutputState) :
    (niri.setOutput output state).outputs.length = niri.outputs.length := List.length_map _

theorem length_mapOutputs (f : OutputState → OutputState) :
    (niri.mapOutputs f).outputs.length = niri.outputs.length := List.length_map _

theorem queuedCount_le (niri : Niri) : niri.queuedCount ≤ niri.outputs.length := List.countP_le_length

theorem unlock_remaining (niri : Niri) : niri.unlock.remaining ≤ niri.outputs.length := by
  have hlocking : niri.unlock.isLocking = false := rfl
  have hlength : niri.unlock.outputs.length = niri.outputs.length := by
    unfold Niri.unlock Niri.queueRedrawAll
    rw [length_mapOutputs, length_mapOutputs]
  unfold Niri.remaining
  rw [hlocking, ← hlength]
  simpa using queuedCount_le niri.unlock

/-- A redraw takes its output from the queue, and may give up the lock. -/
theorem redraw_remaining (hinv : niri.Inv) {output : Output} {state : OutputState}
    (outcome : RenderOutcome) (animationsOngoing : Bool)
    (hget : Assoc.get niri.outputs output = some state)
    (hqueued : state.redrawState.isQueued = true) :
    Returns (niri.redraw output outcome animationsOngoing) fun after =>
      after.Inv ∧ after.remaining < niri.remaining ∧
        after.outputs.length = niri.outputs.length := by
  obtain ⟨res, state', loop', after, heq, hredraws⟩ :=
    redraw_spec hget (hinv.owns.get hget) hqueued outcome animationsOngoing
  refine ⟨after, heq, (redraw_advances hinv output outcome animationsOngoing after heq).inv, ?_⟩
  rw [hredraws.eq]
  generalize hrendered : state'.rendered res niri.monitorsActive niri.isLocked = rendered
  have hdone : rendered.redrawState.isQueued = false :=
    hrendered ▸ rendered_isQueued _ _ hredraws.renders.isQueued
  generalize hset : ({ niri with loop := loop' }).setOutput output rendered = set
  have hlength : set.outputs.length = niri.outputs.length := hset ▸ length_setOutput _ _
  have hcount : set.queuedCount < niri.queuedCount := by
    rw [← hset]
    exact countP_modify_lt (fun _ => hdone) hget hqueued
  have hlock : set.lockState = niri.lockState := hset ▸ rfl
  unfold Niri.outputRedrawn
  cases hstate : niri.lockState with
  | locking c =>
    have hlocking : niri.isLocking = true := by
      unfold Niri.isLocking
      rw [hstate]
    have hbefore : niri.remaining = niri.outputs.length + 1 + niri.queuedCount := by
      unfold Niri.remaining
      rw [if_pos hlocking]
    rw [hlock, hstate]
    dsimp only
    split_ifs
    · have hle := unlock_remaining { set with lockState := .unlocked }
      have hsame : ({ set with lockState := .unlocked }).unlock.outputs.length =
          set.outputs.length := by
        unfold Niri.unlock Niri.queueRedrawAll
        rw [length_mapOutputs, length_mapOutputs]
      constructor
      · have hle' : ({ set with lockState := .unlocked }).unlock.remaining ≤ set.outputs.length :=
          hle
        omega
      · rw [hsame, hlength]
    · refine ⟨?_, hlength⟩
      have hafter : (set.confirm c).remaining = set.queuedCount := Nat.zero_add _
      omega
    · refine ⟨?_, hlength⟩
      have hsetLocking : set.isLocking = true := by
        unfold Niri.isLocking
        rw [hlock, hstate]
      have hafter : set.remaining = set.outputs.length + 1 + set.queuedCount := by
        unfold Niri.remaining
        rw [if_pos hsetLocking]
      omega
  | unlocked =>
    rw [hlock, hstate]
    refine ⟨?_, hlength⟩
    unfold Niri.remaining Niri.isLocking
    rw [hlock, hstate]
    simpa using hcount
  | waitingForSurfaces c token =>
    rw [hlock, hstate]
    refine ⟨?_, hlength⟩
    unfold Niri.remaining Niri.isLocking
    rw [hlock, hstate]
    simpa using hcount
  | locked c =>
    rw [hlock, hstate]
    refine ⟨?_, hlength⟩
    unfold Niri.remaining Niri.isLocking
    rw [hlock, hstate]
    simpa using hcount

/-- With enough fuel the loop ends, and no redraw is queued. -/
theorem redrawQueuedOutputs_returns (outcomes : ℕ → RenderOutcome × Bool) {fuel : ℕ}
    (hinv : niri.Inv) (hfuel : niri.remaining < fuel) : ∃ after,
    niri.redrawQueuedOutputs outcomes fuel = some (.ok after) ∧
      ∀ p ∈ after.outputs, p.2.redrawState.isQueued = false := by
  induction fuel generalizing niri with
  | zero => omega
  | succ fuel ih =>
    unfold Niri.redrawQueuedOutputs
    cases hfind : niri.outputs.find? fun p => p.2.redrawState.isQueued with
    | none =>
      refine ⟨niri, rfl, fun p hp => ?_⟩
      simpa using List.find?_eq_none.mp hfind p hp
    | some p =>
      have hqueued : p.2.redrawState.isQueued = true := by simpa using List.find?_some hfind
      have hget : Assoc.get niri.outputs p.1 = some p.2 :=
        (Assoc.get_eq_some_iff hinv.keys).mpr (List.mem_of_find?_eq_some hfind)
      obtain ⟨after, heq, hafter, hremaining, -⟩ := redraw_remaining hinv (outcomes fuel).1
        (outcomes fuel).2 hget hqueued
      dsimp only
      rw [heq]
      exact ih hafter (by omega)

theorem remaining_le (niri : Niri) : niri.remaining ≤ 2 * niri.outputs.length + 1 := by
  have hcount := queuedCount_le niri
  unfold Niri.remaining
  split_ifs <;> omega

/-- The order in which the map of the outputs is iterated does not matter. -/
theorem Niri.Inv.perm (h : niri.Inv) {outputs : List (Output × OutputState)}
    (hperm : outputs.Perm niri.outputs) : ({ niri with outputs := outputs }).Inv where
  keys := (hperm.map Prod.fst).nodup_iff.mpr h.keys
  owns p hp := h.owns p (hperm.mem_iff.mp hp)
  deadline := h.deadline
  locked hconfirmed p hp := h.locked hconfirmed p (hperm.mem_iff.mp hp)
  book := h.book

/-- In every run no requested redraw is lost, and redrawing what is queued comes to an end, for
all outcomes and in whatever order the outputs are found. -/
theorem redraws_spec (h : machine.ReachableBy (fun _ _ => True) niri) :
    All Kept niri ∧
      ∀ (outputs : List (Output × OutputState)) (outcomes : ℕ → RenderOutcome × Bool) (fuel : ℕ),
        outputs.Perm niri.outputs → 2 * niri.outputs.length + 1 < fuel →
          ∃ after, ({ niri with outputs := outputs }).redrawQueuedOutputs outcomes fuel =
            some (.ok after) ∧ ∀ p ∈ after.outputs, p.2.redrawState.isQueued = false := by
  refine ⟨reachable_kept h, fun outputs outcomes fuel hperm hfuel => ?_⟩
  refine redrawQueuedOutputs_returns outcomes ((reachable_inv h).perm hperm) ?_
  have hle := remaining_le { niri with outputs := outputs }
  have hlength : ({ niri with outputs := outputs }).outputs.length = niri.outputs.length :=
    hperm.length_eq
  omega

end Loop

/-- A lock whose only output fails to render is given up, and the loop ends. -/
theorem redraws_spec_failedLock : ∃ niri after : Niri, niri.isLocking = true ∧
    niri.redrawQueuedOutputs (fun _ => (.failed, false)) 4 = some (.ok after) ∧
      ∀ p ∈ after.outputs, p.2.redrawState.isQueued = false := by
  obtain ⟨niri, hniri, hp⟩ := Machine.exists_reachableBy (M := machine)
    (p := fun niri => decide (niri.isLocking = true ∧ niri.outputs.length = 1))
    Sample.lockSteps Sample.initial
    (show (machine.run (fun _ _ => True) _ _).any _ = true by decide +kernel)
  obtain ⟨hlocking, hlength⟩ := of_decide_eq_true hp
  obtain ⟨after, heq, hdone⟩ := (redraws_spec hniri).2 niri.outputs (fun _ => (.failed, false)) 4
    (.refl _) (by omega)
  exact ⟨niri, after, hlocking, heq, hdone⟩

end Sol.Redraw
