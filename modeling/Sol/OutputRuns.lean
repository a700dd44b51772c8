import Sol.SessionLock

/-!
# What runs keep of each output

A condition on an output, on its state and on its timer, that queueing redraws and lock
surfaces do not break is kept by every step, if rendering, the vblanks and the timers keep it
on their own output.

* `All`: the condition holds of every output, there or gone;
* `Stable`: what does not break it;
* `All.setOutput`: a step on one output; `All.lock`, `All.unlock` and so on: the others.
-/

namespace Sol.Redraw

open Panicking

/-- A condition on an output, which may be gone. -/
abbrev OutputInv := EventLoop Source → Output → Option OutputState → Prop

def All (P : OutputInv) (niri : Niri) : Prop :=
  ∀ output, P niri.loop output (Assoc.get niri.outputs output)

/-- Neither queueing a redraw, nor a lock surface, nor the sources that are not the output's own
timer matter. -/
structure Stable (P : OutputInv) : Prop where
  queueRedraw : ∀ loop output state, P loop output (some state) →
    P loop output (some state.queueRedraw)
  lockSurface : ∀ loop output state surface, P loop output (some state) →
    P loop output (some { state with lockSurface := surface })
  tokens : ∀ loop loop' output state?, loop'.tokens (.estimatedVblank output) =
    loop.tokens (.estimatedVblank output) → P loop output state? → P loop' output state?

section Get

variable {niri : Niri} {output o : Output} {state : OutputState}

theorem get_setOutput (hget : (Assoc.get niri.outputs output).isSome = true) :
    Assoc.get (niri.setOutput output state).outputs o =
      if o = output then some state else Assoc.get niri.outputs o := by
  unfold Niri.setOutput
  rw [Assoc.get_modify]
  obtain ⟨old, hold⟩ := Option.isSome_iff_exists.mp hget
  split_ifs with ho
  · rw [ho, hold]
    rfl
  · rfl

theorem get_mapOutputs (f : OutputState → OutputState) :
    Assoc.get (niri.mapOutputs f).outputs o = (Assoc.get niri.outputs o).map f :=
  Assoc.get_map fun _ => f

/-- A screen transition changes nothing else of an output. -/
theorem get_doScreenTransition (niri : Niri) (failed : List Output) (delayMs : Option ℕ)
    (output : Output) :
    ∃ transition : OutputState → Option ScreenTransition,
      Assoc.get (niri.doScreenTransition failed delayMs).outputs output =
        (Assoc.get niri.outputs output).map fun state =>
          { state with screenTransition := transition state } := by
  refine ⟨fun state => if output ∈ failed then state.screenTransition else some {
    fromTexture := fun target => niri.renderOutput output state target false
    startAt := niri.clock + ScreenTransition.delay delayMs }, ?_⟩
  unfold Niri.doScreenTransition
  dsimp only
  induction niri.outputs with
  | nil => rfl
  | cons p outputs ih =>
    rw [List.map_cons, Assoc.get_cons, Assoc.get_cons, ih]
    by_cases hp : p.1 = output
    · subst hp
      by_cases hfailed : p.1 ∈ failed <;> simp [hfailed]
    · by_cases hfailed : p.1 ∈ failed <;> simp [hfailed, hp]

end Get

namespace All

variable {P : OutputInv} {niri : Niri}

/-- A step on one output. -/
theorem setOutput (hP : Stable P) (h : All P niri) {output : Output}
    {loop' : EventLoop Source} {state' : OutputState}
    (hget : (Assoc.get niri.outputs output).isSome = true)
    (htokens : ∀ o, o ≠ output →
      loop'.tokens (.estimatedVblank o) = niri.loop.tokens (.estimatedVblank o))
    (hstate : P loop' output (some state')) :
    All P ({ niri with loop := loop' }.setOutput output state') := by
  intro o
  have hset : Assoc.get ({ niri with loop := loop' }.setOutput output state').outputs o =
      if o = output then some state' else Assoc.get niri.outputs o := get_setOutput hget
  rw [hset]
  split_ifs with ho
  · rw [ho]
    exact hstate
  · exact hP.tokens _ _ _ _ (htokens o ho) (h o)

theorem mapOutputs (h : All P niri) {f : OutputState → OutputState}
    (hf : ∀ loop o s, P loop o (some s) → P loop o (some (f s))) : All P (niri.mapOutputs f) := by
  intro o
  rw [get_mapOutputs]
  have ho := h o
  cases hget : Assoc.get niri.outputs o with
  | none =>
    rw [hget] at ho
    exact ho
  | some s =>
    rw [hget] at ho
    exact hf _ _ _ ho

theorem queueRedrawAll (hP : Stable P) (h : All P niri) : All P niri.queueRedrawAll :=
  h.mapOutputs hP.queueRedraw

theorem queueRedraw (hP : Stable P) (h : All P niri) (output : Output) :
    Ensures (niri.queueRedraw output) (All P) := by
  unfold Niri.queueRedraw
  cases hget : Assoc.get niri.outputs output with
  | none => exact ensures_error
  | some state =>
    have ho := h output
    rw [hget] at ho
    refine ensures_ok.mpr (All.setOutput hP h (by rw [hget]; rfl) (fun _ _ => rfl) ?_)
    exact hP.queueRedraw _ _ _ ho

theorem repositionOutputs (hP : Stable P) (h : All P niri) (moved : List Output) :
    Ensures (niri.repositionOutputs moved) (All P) := by
  unfold Niri.repositionOutputs
  induction moved generalizing niri with
  | nil => exact ensures_pure.mpr h
  | cons output moved ih =>
    rw [List.foldlM_cons, ensures_bind]
    exact (h.queueRedraw hP output).mono fun t ht => ih ht

theorem closeScreenshotUi (h : All P niri) : All P niri.closeScreenshotUi := h

theorem cancelMru (hP : Stable P) (h : All P niri) : All P niri.cancelMru := by
  unfold Niri.cancelMru
  split_ifs
  · exact h
  · exact h.queueRedrawAll hP

/-- The sources change, but not the timers of the outputs. -/
theorem withLoop (hP : Stable P) (h : All P niri) (loop' : EventLoop Source)
    (htokens : ∀ o, loop'.tokens (.estimatedVblank o) = niri.loop.tokens (.estimatedVblank o)) :
    All P { niri with loop := loop' } :=
  fun o => hP.tokens _ _ _ _ (htokens o) (h o)

/-! ### The lock -/

theorem removeDeadline {c : SessionLocker} {token : Token} (hinv : niri.Inv)
    (hstate : niri.lockState = .waitingForSurfaces c token) (o : Output) :
    (niri.loop.remove token).tokens (.estimatedVblank o) =
      niri.loop.tokens (.estimatedVblank o) := by
  have hmem : token ∈ niri.loop.tokens .lockDeadline := by
    rw [hinv.deadline, hstate]
    exact List.mem_singleton_self token
  exact (EventLoop.owned_of_mem hmem).tokens_remove (by simp)

theorem lock (hP : Stable P) (h : All P niri) (c : SessionLocker) (isAlive : Bool) :
    All P (niri.lock c isAlive) := by
  unfold Niri.lock
  split
  · exact h
  · exact h
  · split_ifs
    · exact h
    · exact h
  · split_ifs
    · exact h
    · refine h.withLoop hP (niri.loop.insertSource .lockDeadline).2 fun o => ?_
      rw [EventLoop.tokens_insertSource, if_neg (by simp)]

theorem continueToLocking (hP : Stable P) (hinv : niri.Inv) (h : All P niri) :
    All P niri.continueToLocking := by
  unfold Niri.continueToLocking
  cases hstate : niri.lockState with
  | unlocked => exact h
  | locking => exact h
  | locked => exact h
  | waitingForSurfaces c token =>
    have htake : All P { niri with loop := niri.loop.remove token, lockState := .unlocked } :=
      h.withLoop hP _ (removeDeadline hinv hstate)
    have hclose := (closeScreenshotUi htake).cancelMru hP
    dsimp only
    split_ifs
    · exact hclose
    · exact queueRedrawAll hP hclose

theorem maybeContinueToLocking (hP : Stable P) (hinv : niri.Inv) (h : All P niri) :
    All P niri.maybeContinueToLocking := by
  unfold Niri.maybeContinueToLocking
  split
  · split_ifs
    · exact h.continueToLocking hP hinv
    · exact h
  · exact h

theorem unlock (hP : Stable P) (hinv : niri.Inv) (h : All P niri) : All P niri.unlock := by
  have hclear : ∀ taken : Niri, All P taken →
      All P (taken.mapOutputs fun state => { state with lockSurface := none }).queueRedrawAll :=
    fun taken htaken =>
      (htaken.mapOutputs fun loop o s hs => hP.lockSurface loop o s none hs).queueRedrawAll hP
  unfold Niri.unlock
  cases hstate : niri.lockState with
  | waitingForSurfaces c token => exact hclear _ (h.withLoop hP _ (removeDeadline hinv hstate))
  | unlocked => exact hclear _ h
  | locking => exact hclear _ h
  | locked => exact hclear _ h

theorem newLockSurface (hP : Stable P) (h : All P niri) (client : ℕ) (output : Output) :
    All P (niri.newLockSurface client output) := by
  unfold Niri.newLockSurface
  dsimp only
  split
  · rename_i lock state _ hget
    have ho := h output
    rw [hget] at ho
    split_ifs
    · exact All.setOutput hP h (by rw [hget]; rfl) (fun _ _ => rfl) (hP.lockSurface _ _ _ _ ho)
    · exact h
  · exact h

theorem commitLockSurface (hP : Stable P) (hinv : niri.Inv) (h : All P niri) (output : Output)
    (isMapped : Bool) : Ensures (niri.commitLockSurface output isMapped) (All P) := by
  unfold Niri.commitLockSurface
  cases hget : Assoc.get niri.outputs output with
  | none => exact ensures_ok.mpr h
  | some state =>
    have ho := h output
    rw [hget] at ho
    dsimp only
    cases hsurface : state.lockSurface with
    | none => exact ensures_ok.mpr h
    | some surface =>
      have hset : All P (niri.setOutput output
          { state with lockSurface := some { surface with isMapped := isMapped } }) :=
        All.setOutput hP h (by rw [hget]; rfl) (fun _ _ => rfl) (hP.lockSurface _ _ _ _ ho)
      have hsetInv : Quiet niri (niri.setOutput output
          { state with lockSurface := some { surface with isMapped := isMapped } }) :=
        hinv.setOutput_same hget (fun _ ht => ht) rfl rfl
      dsimp only
      split
      · exact ensures_ok.mpr (maybeContinueToLocking hP hsetInv.inv hset)
      · exact hset.queueRedraw hP output

theorem outputRemoved (hP : Stable P) (hinv : niri.Inv) (h : All P niri) :
    All P niri.outputRemoved := by
  unfold Niri.outputRemoved
  split
  · split_ifs
    · exact h
    · exact h
  · exact h.maybeContinueToLocking hP hinv

theorem outputRedrawn (hP : Stable P) (hinv : niri.Inv) (h : All P niri) (state : OutputState) :
    All P (niri.outputRedrawn state) := by
  unfold Niri.outputRedrawn
  split
  · rename_i c hstate
    split_ifs
    · have htake : ({ niri with lockState := .unlocked }).Inv :=
        ⟨hinv.keys, hinv.owns, by rw [hinv.deadline, hstate]; rfl, nofun, hinv.book.drop rfl⟩
      exact unlock hP htake h
    · exact h
    · exact h
  · exact h

/-! ### Outputs and monitors -/

theorem activateMonitors (hP : Stable P) (h : All P niri) : All P niri.activateMonitors := by
  unfold Niri.activateMonitors
  split_ifs
  · exact h
  · exact queueRedrawAll hP h

/-- A new output, of which nothing is known. -/
theorem addOutput (hP : Stable P) (h : All P niri) {output : Output}
    {refreshInterval : Option ℕ} {moved : List Output}
    (hnew : Assoc.get niri.outputs output = none → ∀ lockRenderState,
      P niri.loop output (some ⟨.idle, refreshInterval, false, ⟨none, none⟩, lockRenderState, none,
        none, false⟩)) : Ensures (niri.addOutput output refreshInterval moved) (All P) := by
  unfold Niri.addOutput
  dsimp only
  cases hget : Assoc.get niri.outputs output with
  | some => exact ensures_error
  | none =>
    refine repositionOutputs hP (fun o => ?_) moved
    dsimp only
    rw [Assoc.get_concat (Assoc.get_eq_none_iff.mp hget)]
    by_cases ho : o = output
    · rw [if_pos ho, ho]
      exact hnew hget _
    · rw [if_neg ho]
      exact h o

/-- An output is removed, and its timer. -/
theorem removeOutput (hP : Stable P) (hinv : niri.Inv) (h : All P niri) {output : Output}
    {moved : List Output}
    (hgone : ∀ (t : Niri) (state : OutputState), t.Inv → All P t →
      Assoc.get t.outputs output = some state →
      P (match state.redrawState.token with
        | some token => t.loop.remove token
        | none => t.loop) output none) :
    Ensures (niri.removeOutput output moved) (All P) := by
  unfold Niri.removeOutput
  rw [ensures_bind]
  refine ((repositionOutputs_quiet hinv moved).and (h.repositionOutputs hP moved)).mono ?_
  rintro t ⟨ht, hall⟩
  cases hget : Assoc.get t.outputs output with
  | none => exact ensures_error
  | some state =>
    have hremove := ht.inv.remove hget
    have hallRemove : All P { t with
        loop := match state.redrawState.token with
          | some token => t.loop.remove token
          | none => t.loop
        outputs := Assoc.remove output t.outputs } := by
      intro o
      dsimp only
      rw [Assoc.get_remove]
      split_ifs with ho
      · rw [ho]
        exact hgone t state ht.inv hall hget
      · refine hP.tokens _ _ _ _ ?_ (hall o)
        cases htoken : state.redrawState.token with
        | none => rfl
        | some token =>
          exact ((ht.inv.owns.get hget).redraw token htoken).tokens_remove (by simpa using ho)
    have hlock := hallRemove.outputRemoved hP hremove.inv
    dsimp only
    generalize Niri.outputRemoved _ = removed at hlock ⊢
    have hclose : All P
        (if removed.ui.screenshotUiOpen then removed.closeScreenshotUi.queueRedrawAll
          else removed) := by
      split_ifs
      · exact hlock.closeScreenshotUi.queueRedrawAll hP
      · exact hlock
    generalize (if removed.ui.screenshotUiOpen = true then removed.closeScreenshotUi.queueRedrawAll
      else removed) = closed at hclose ⊢
    refine ensures_ok.mpr ?_
    split_ifs
    · exact hclose.cancelMru hP
    · exact hclose

/-- A redraw, by what it does to its own output. -/
theorem redraw (hP : Stable P) (hinv : niri.Inv) (h : All P niri) {output : Output}
    {outcome : RenderOutcome} {animationsOngoing : Bool}
    (hrendered : ∀ state res state' loop', Assoc.get niri.outputs output = some state →
      Renders output { state with requested := false } niri.loop res state' loop' →
      P loop' output (some (state'.rendered res niri.monitorsActive niri.isLocked))) :
    Ensures (niri.redraw output outcome animationsOngoing) (All P) := by
  intro t ht
  obtain ⟨state, res, state', loop', hget, -, hredraws⟩ := redraw_cases hinv.owns ht
  have htouch := hredraws.renders.touches
  have hlock : niri.lockState.isConfirmed = true →
      (state'.rendered res niri.monitorsActive niri.isLocked).lockRenderState = .locked := by
    intro hconfirmed
    have hlocked : state.lockRenderState = .locked := (hinv.locked hconfirmed).get hget
    rw [Niri.isLocked_of_isConfirmed hconfirmed]
    exact rendered_locked (hredraws.renders.lockRenderState.trans hlocked) _ _
  have hset : Quiet niri ({ niri with loop := loop' }.setOutput output
      (state'.rendered res niri.monitorsActive niri.isLocked)) := hinv.setOutput
    ⟨htouch.extends_, htouch.others, fun token ht => htouch.owns.redraw token (by simpa using ht),
      fun token ht => htouch.owns.throttle token (by simpa using ht)⟩ hlock
  rw [hredraws.eq]
  refine outputRedrawn hP hset.inv ?_ _
  refine All.setOutput hP h (by rw [hget]; rfl) (fun o ho => htouch.estimated_of_ne ho) ?_
  exact hrendered state res state' loop' hget hredraws.renders

end All

end Sol.Redraw
