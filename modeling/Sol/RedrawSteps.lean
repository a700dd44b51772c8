import Sol.Redraw

/-!
# What the steps do to one output

A redraw, a vblank and a timer each change the state of one output and the sources of the
event loop; the sources that belong to other outputs, and the deadline of a lock, stay.

* `Each`: what holds of every output, kept output by output;
* `Owns`: the tokens that an output remembers are its own;
* `render_spec`, `throttle_spec`, `redraw_cases`.
-/

namespace Sol.Redraw

open Panicking

/-! ### Every output -/

/-- The condition holds of every output. -/
def Niri.Each (P : Output → OutputState → Prop) (niri : Niri) : Prop :=
  ∀ p ∈ niri.outputs, P p.1 p.2

section Each

variable {niri : Niri} {P Q : Output → OutputState → Prop} {output : Output} {state : OutputState}
  {loop : EventLoop Source}

theorem Niri.Each.get (h : niri.Each P) (hget : Assoc.get niri.outputs output = some state) :
    P output state :=
  h (output, state) (Assoc.mem_of_get_eq_some hget)

/-- One output gets another state, the others stay. -/
theorem Niri.Each.setOutput (h : niri.Each P) (hne : ∀ o s, o ≠ output → P o s → Q o s)
    (hstate : Q output state) : ({ niri with loop := loop }.setOutput output state).Each Q := by
  intro p hp
  obtain ⟨q, hq, rfl⟩ := List.mem_map.mp hp
  split_ifs with hout
  · rw [hout]
    exact hstate
  · exact hne q.1 q.2 hout (h q hq)

theorem Niri.Each.mapOutputs (h : niri.Each P) {f : OutputState → OutputState}
    (hf : ∀ o s, P o s → Q o (f s)) : (niri.mapOutputs f).Each Q := by
  intro p hp
  obtain ⟨q, hq, rfl⟩ := List.mem_map.mp hp
  exact hf q.1 q.2 (h q hq)

theorem Niri.Each.mono (h : niri.Each P) (hPQ : ∀ o s, P o s → Q o s) : niri.Each Q :=
  fun p hp => hPQ p.1 p.2 (h p hp)

theorem Niri.keys_setOutput : Assoc.keys (niri.setOutput output state).outputs =
    Assoc.keys niri.outputs := by
  unfold Niri.setOutput
  exact Assoc.keys_modify output (fun _ => state) niri.outputs

theorem Niri.keys_mapOutputs (f : OutputState → OutputState) :
    Assoc.keys (niri.mapOutputs f).outputs = Assoc.keys niri.outputs := by
  unfold Niri.mapOutputs Assoc.keys
  rw [List.map_map]
  rfl

end Each

/-! ### The tokens of an output -/

/-- No other source has the tokens that the output remembers. -/
structure OutputState.Owns (state : OutputState) (loop : EventLoop Source) (output : Output) :
    Prop where
  redraw : ∀ token, state.redrawState.token = some token →
    loop.Owned token (.estimatedVblank output)
  throttle : ∀ token, state.vblankThrottle.throttleTimerToken = some token →
    loop.Owned token (.throttledVblank output)

theorem OutputState.Owns.extends {state : OutputState} {loop loop' : EventLoop Source}
    {output : Output} (h : state.Owns loop output) (hloop : loop.Extends loop') :
    state.Owns loop' output :=
  ⟨fun token ht => (h.redraw token ht).extends hloop,
    fun token ht => (h.throttle token ht).extends hloop⟩

/-- A step on one output, with the sources before and after, and its new state. -/
structure Touches (output : Output) (loop loop' : EventLoop Source) (state' : OutputState) :
    Prop where
  extends_ : loop.Extends loop'
  others : ∀ b, b ≠ .estimatedVblank output → b ≠ .throttledVblank output →
    loop'.tokens b = loop.tokens b
  owns : state'.Owns loop' output

namespace Touches

variable {output : Output} {loop loop' : EventLoop Source} {state state' : OutputState}

/-- The sources stay, and what is remembered of them does not grow. -/
theorem same (howns : state.Owns loop output)
    (hredraw : ∀ token, state'.redrawState.token = some token →
      state.redrawState.token = some token)
    (hthrottle : state'.vblankThrottle = state.vblankThrottle) : Touches output loop loop state' where
  extends_ := .refl loop
  others _ _ _ := rfl
  owns := ⟨fun token ht => howns.redraw token (hredraw token ht),
    fun token ht => howns.throttle token (hthrottle ▸ ht)⟩

/-- The timers of the other outputs stay. -/
theorem estimated_of_ne (h : Touches output loop loop' state') {o : Output} (ho : o ≠ output) :
    loop'.tokens (.estimatedVblank o) = loop.tokens (.estimatedVblank o) :=
  h.others _ (by simpa using ho) (by simp)

theorem lockDeadline (h : Touches output loop loop' state') :
    loop'.tokens .lockDeadline = loop.tokens .lockDeadline :=
  h.others _ (by simp) (by simp)

end Touches

section Operations

variable {output : Output} {state : OutputState} {loop : EventLoop Source}

@[simp] theorem RedrawState.isQueued_queueRedraw_of_token {r : RedrawState} {token : Token}
    (h : r.token = some token) : r.queueRedraw.isQueued = true := by
  cases r <;> simp_all [RedrawState.token, RedrawState.queueRedraw, RedrawState.isQueued]

@[simp] theorem RedrawState.token_queueRedraw (r : RedrawState) :
    r.queueRedraw.token = r.token := by
  cases r <;> rfl

theorem OutputState.Owns.queueRedraw (h : state.Owns loop output) :
    state.queueRedraw.Owns loop output :=
  ⟨fun token ht => h.redraw token (by simpa [OutputState.queueRedraw] using ht), h.throttle⟩

/-! ### Rendering -/

/-- How rendering an output with a queued redraw ends. -/
structure Renders (output : Output) (state : OutputState) (loop : EventLoop Source)
    (res : RenderResult) (state' : OutputState) (loop' : EventLoop Source) : Prop where
  touches : Touches output loop loop' state'
  lockRenderState : state'.lockRenderState = state.lockRenderState
  requested : state'.requested = state.requested
  screenTransition : state'.screenTransition = state.screenTransition
  /-- Unless the render was skipped, the redraw is not queued any more. -/
  isQueued : res ≠ .skipped → state'.redrawState.isQueued = false
  /-- The timer is there exactly if the state says so, if it was so before. -/
  estimated : loop.tokens (.estimatedVblank output) = state.redrawState.token.toList →
    loop'.tokens (.estimatedVblank output) = state'.redrawState.token.toList

/-- A timer is queued, unless there is one. -/
theorem queueEstimatedVblankTimer_spec (howns : state.Owns loop output)
    (hqueued : state.redrawState.isQueued = true) (res : RenderResult) : ∃ state' loop',
    queueEstimatedVblankTimer output state loop = .ok (state', loop') ∧
      Renders output state loop res state' loop' := by
  unfold queueEstimatedVblankTimer
  cases hstate : state.redrawState with
  | idle => simp [hstate, RedrawState.isQueued] at hqueued
  | waitingForVBlank => simp [hstate, RedrawState.isQueued] at hqueued
  | waitingForEstimatedVBlank => simp [hstate, RedrawState.isQueued] at hqueued
  | waitingForEstimatedVBlankAndQueued token =>
    refine ⟨_, _, rfl, .same howns (fun t ht => ?_) rfl, rfl, rfl, rfl, fun _ => rfl, fun h => ?_⟩
    · rw [hstate]
      exact ht
    · rw [h, hstate]
      rfl
  | queued =>
    refine ⟨_, _, rfl, ⟨.insertSource loop _, ?_, ?_⟩, rfl, rfl, rfl, fun _ => rfl, fun h => ?_⟩
    · intro b hb _
      show (loop.insertSource (.estimatedVblank output)).2.tokens b = loop.tokens b
      rw [EventLoop.tokens_insertSource, if_neg (Ne.symm hb)]
    · refine ⟨fun t ht => ?_, fun t ht => ?_⟩
      · rw [← Option.some.inj ht]
        exact EventLoop.owned_insertSource loop _
      · exact (howns.throttle t ht).extends (.insertSource loop _)
    · show (loop.insertSource (.estimatedVblank output)).2.tokens (.estimatedVblank output) =
        [loop.next]
      rw [EventLoop.tokens_insertSource, if_pos rfl, h, hstate]
      rfl

/-- Rendering an output with a queued redraw does not panic. -/
theorem render_spec (output : Output) (loop : EventLoop Source) (state : OutputState)
    (howns : state.Owns loop output) (hqueued : state.redrawState.isQueued = true)
    (outcome : RenderOutcome) : ∃ res state' loop',
    render output state loop outcome = .ok (res, state', loop') ∧
      Renders output state loop res state' loop' := by
  cases outcome with
  | unavailable =>
    exact ⟨_, _, _, rfl, .same howns (fun _ h => h) rfl, rfl, rfl, rfl, fun h => absurd rfl h, id⟩
  | failed =>
    obtain ⟨state', loop', heq, hspec⟩ :=
      queueEstimatedVblankTimer_spec howns hqueued .skipped
    refine ⟨.skipped, state', loop', ?_, hspec⟩
    unfold render
    rw [heq]
    rfl
  | noDamage =>
    obtain ⟨state', loop', heq, hspec⟩ :=
      queueEstimatedVblankTimer_spec howns hqueued .noDamage
    refine ⟨.noDamage, state', loop', ?_, hspec⟩
    unfold render
    rw [heq]
    rfl
  | submitted =>
    unfold render
    cases hstate : state.redrawState with
    | idle => simp [hstate, RedrawState.isQueued] at hqueued
    | waitingForVBlank => simp [hstate, RedrawState.isQueued] at hqueued
    | waitingForEstimatedVBlank => simp [hstate, RedrawState.isQueued] at hqueued
    | queued =>
      refine ⟨_, _, _, rfl, .same howns nofun rfl, rfl, rfl, rfl, fun _ => rfl, fun h => ?_⟩
      rw [h, hstate]
      rfl
    | waitingForEstimatedVBlankAndQueued token =>
      have hown : loop.Owned token (.estimatedVblank output) :=
        howns.redraw token (by rw [hstate]; rfl)
      refine ⟨_, _, _, rfl, ⟨.remove loop token, ?_, ?_⟩, rfl, rfl, rfl, fun _ => rfl, fun h => ?_⟩
      · intro b hb _
        exact hown.tokens_remove hb
      · exact ⟨nofun, fun t ht => (howns.throttle t ht).extends (.remove loop token)⟩
      · rw [hstate] at h
        exact EventLoop.tokens_remove_self h

@[simp] theorem rendered_token (res : RenderResult) (monitorsActive isLocked : Bool) :
    (state.rendered res monitorsActive isLocked).redrawState.token = state.redrawState.token := by
  unfold OutputState.rendered
  cases hstate : state.redrawState <;> split_ifs <;> simp [hstate, RedrawState.token]

@[simp] theorem rendered_throttle (res : RenderResult) (monitorsActive isLocked : Bool) :
    (state.rendered res monitorsActive isLocked).vblankThrottle = state.vblankThrottle := by
  unfold OutputState.rendered
  split_ifs <;> rfl

@[simp] theorem rendered_requested (res : RenderResult) (monitorsActive isLocked : Bool) :
    (state.rendered res monitorsActive isLocked).requested = state.requested := by
  unfold OutputState.rendered
  split_ifs <;> rfl

@[simp] theorem rendered_screenTransition (res : RenderResult) (monitorsActive isLocked : Bool) :
    (state.rendered res monitorsActive isLocked).screenTransition = state.screenTransition := by
  unfold OutputState.rendered
  split_ifs <;> rfl

/-- In a locked session no output gets unlocked by a redraw. -/
theorem rendered_locked (h : state.lockRenderState = .locked) (res : RenderResult)
    (monitorsActive : Bool) :
    (state.rendered res monitorsActive true).lockRenderState = .locked := by
  unfold OutputState.rendered
  split_ifs <;> simp_all

theorem rendered_isQueued {res : RenderResult} (monitorsActive isLocked : Bool)
    (h : res ≠ .skipped → state.redrawState.isQueued = false) :
    (state.rendered res monitorsActive isLocked).redrawState.isQueued = false := by
  unfold OutputState.rendered
  by_cases hres : res = .skipped
  · rw [if_pos hres]
    dsimp only
    cases htoken : state.redrawState.token <;> split_ifs <;> rfl
  · rw [if_neg hres]
    dsimp only
    split_ifs <;> exact h hres

/-! ### VBlanks -/

/-- What throttling does to the sources: the redraw's own timer stays. -/
theorem throttle_spec {throttled : Bool} {throttle : VBlankThrottle} {loop' : EventLoop Source}
    {refreshInterval : Option ℕ} {time : ℕ} (howns : state.Owns loop output)
    (h : state.vblankThrottle.throttle loop output refreshInterval time =
      (throttled, throttle, loop')) :
    Touches output loop loop' { state with vblankThrottle := throttle } ∧
      loop'.tokens (.estimatedVblank output) = loop.tokens (.estimatedVblank output) := by
  -- the timer that is there is dropped
  obtain ⟨loop₁, hloop₁, hextends, hothers⟩ : ∃ loop₁,
      state.vblankThrottle.removeTimer loop = loop₁ ∧ loop.Extends loop₁ ∧
        ∀ b, b ≠ .throttledVblank output → loop₁.tokens b = loop.tokens b := by
    unfold VBlankThrottle.removeTimer
    cases htoken : state.vblankThrottle.throttleTimerToken with
    | none => exact ⟨loop, rfl, .refl loop, fun _ _ => rfl⟩
    | some token =>
      exact ⟨_, rfl, .remove loop token, fun b hb => (howns.throttle token htoken).tokens_remove hb⟩
  unfold VBlankThrottle.throttle at h
  dsimp only at h
  rw [hloop₁] at h
  split_ifs at h with hearly
  · obtain ⟨-, rfl, rfl⟩ := h
    have hinsert : ∀ b, b ≠ .throttledVblank output →
        (loop₁.insertSource (.throttledVblank output)).2.tokens b = loop.tokens b := by
      intro b hb
      rw [EventLoop.tokens_insertSource, if_neg (Ne.symm hb), hothers b hb]
    have hboth := hextends.trans (.insertSource loop₁ (.throttledVblank output))
    refine ⟨⟨hboth, fun b _ hb => hinsert b hb, ?_⟩, hinsert _ (by simp)⟩
    refine ⟨fun token ht => (howns.redraw token ht).extends hboth, fun token ht => ?_⟩
    rw [← Option.some.inj ht]
    exact EventLoop.owned_insertSource loop₁ _
  · obtain ⟨-, rfl, rfl⟩ := h
    refine ⟨⟨hextends, fun b _ hb => hothers b hb, ?_⟩, hothers _ (by simp)⟩
    exact ⟨fun token ht => (howns.redraw token ht).extends hextends, nofun⟩

end Operations

/-! ### A whole redraw -/

/-- What a redraw does, if it is not stopped by its assertion. -/
structure Redraws (niri : Niri) (output : Output) (state : OutputState) (res : RenderResult)
    (state' : OutputState) (loop' : EventLoop Source) (niri' : Niri) : Prop where
  renders : Renders output { state with requested := false } niri.loop res state' loop'
  eq : niri' = ({ niri with loop := loop' }.setOutput output
    (state'.rendered res niri.monitorsActive niri.isLocked)).outputRedrawn
      (state'.rendered res niri.monitorsActive niri.isLocked)

/-- A queued redraw of an output does not panic. -/
theorem redraw_spec {niri : Niri} {output : Output} {state : OutputState}
    (hget : Assoc.get niri.outputs output = some state) (howns : state.Owns niri.loop output)
    (hqueued : state.redrawState.isQueued = true) (outcome : RenderOutcome) (animations : Bool) :
    ∃ res state' loop' niri', niri.redraw output outcome animations = .ok niri' ∧
      Redraws niri output state res state' loop' niri' := by
  unfold Niri.redraw
  rw [hget]
  simp only [unwrap, assert, hqueued, if_true, bind, Except.bind]
  by_cases hactive : niri.monitorsActive = true
  · rw [if_pos hactive]
    obtain ⟨res, state', loop', heq, hspec⟩ := render_spec output niri.loop
      { state with
        requested := false
        unfinishedAnimationsRemain := animations || state.screenTransition.isSome }
      ⟨howns.redraw, howns.throttle⟩ hqueued outcome
    rw [heq]
    exact ⟨res, state', loop', _, rfl, ⟨hspec.touches, hspec.lockRenderState, hspec.requested,
      hspec.screenTransition, hspec.isQueued, hspec.estimated⟩, rfl⟩
  · rw [if_neg hactive]
    refine ⟨.skipped, { state with requested := false }, niri.loop, _, rfl, ⟨?_, rfl, rfl, rfl,
      fun h => absurd rfl h, id⟩, rfl⟩
    have hredraw : ∀ token, state.redrawState.token = some token →
        state.redrawState.token = some token := fun _ h => h
    exact .same howns hredraw rfl

theorem redraw_cases {niri niri' : Niri} {output : Output} {outcome : RenderOutcome}
    {animations : Bool} (howns : niri.Each fun o s => s.Owns niri.loop o)
    (h : niri.redraw output outcome animations = .ok niri') : ∃ state res state' loop',
    Assoc.get niri.outputs output = some state ∧ state.redrawState.isQueued = true ∧
      Redraws niri output state res state' loop' niri' := by
  cases hget : Assoc.get niri.outputs output with
  | none =>
    unfold Niri.redraw at h
    rw [hget] at h
    nomatch h
  | some state =>
    by_cases hqueued : state.redrawState.isQueued = true
    · obtain ⟨res, state', loop', niri'', heq, hspec⟩ :=
        redraw_spec hget (howns.get hget) hqueued outcome animations
      rw [heq] at h
      obtain rfl := Except.ok.inj h
      exact ⟨state, res, state', loop', rfl, hqueued, hspec⟩
    · unfold Niri.redraw at h
      rw [hget] at h
      simp [unwrap, assert, hqueued, bind, Except.bind] at h

end Sol.Redraw
