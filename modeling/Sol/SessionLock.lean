import Sol.RedrawSteps

/-!
# The session lock

A client is told that the session is locked only when every output shows a locked frame, or
will show nothing else first: the answer comes from the last output's redraw, from the removal
of the last output that was missing, or at once where there is no output or where the session
was locked already.

* `Niri.Inv`: what holds in every state of a run;
* `Advances`: what every step but `unlock` does to the lock;
* `lock_spec`: the lock in every run.
-/

namespace Sol.Redraw

open Panicking

namespace LockState

def deadline : LockState → Option Token
  | waitingForSurfaces _ token => some token
  | _ => none

/-- The request that is not answered yet. -/
def pending : LockState → Option SessionLocker
  | waitingForSurfaces confirmation _ => some confirmation
  | locking confirmation => some confirmation
  | _ => none

/-- The client was told that the session is locked. -/
def isConfirmed : LockState → Bool
  | locked _ => true
  | _ => false

end LockState

/-- The book of the requests: each is answered once. -/
structure Book (lockState : LockState) (requests : ℕ) (confirmed : List SessionLocker) : Prop where
  pending : ∀ c, lockState.pending = some c →
    c.id < requests ∧ c.id ∉ confirmed.map SessionLocker.id
  lt : ∀ c ∈ confirmed, c.id < requests
  nodup : (confirmed.map SessionLocker.id).Nodup

def AllLocked (niri : Niri) : Prop := niri.Each fun _ state => state.lockRenderState = .locked

structure Niri.Inv (niri : Niri) : Prop where
  keys : (Assoc.keys niri.outputs).Nodup
  owns : niri.Each fun output state => state.Owns niri.loop output
  deadline : niri.loop.tokens .lockDeadline = niri.lockState.deadline.toList
  locked : niri.lockState.isConfirmed = true → AllLocked niri
  book : Book niri.lockState niri.requests niri.confirmed

section Allocked

variable {niri : Niri}

theorem allLocked_iff : niri.allLocked = true ↔ AllLocked niri := by
  unfold Niri.allLocked AllLocked Niri.Each
  simp only [List.all_eq_true, decide_eq_true_eq]

theorem Niri.isLocked_of_isConfirmed (h : niri.lockState.isConfirmed = true) :
    niri.isLocked = true := by
  unfold Niri.isLocked
  cases hstate : niri.lockState <;> simp_all [LockState.isConfirmed]

theorem Book.mono {lockState : LockState} {requests requests' : ℕ}
    {confirmed : List SessionLocker} (h : Book lockState requests confirmed)
    (hle : requests ≤ requests') : Book lockState requests' confirmed where
  pending c hc := ⟨(h.pending c hc).1.trans_le hle, (h.pending c hc).2⟩
  lt c hc := (h.lt c hc).trans_le hle
  nodup := h.nodup

/-- A request is dropped, or there was none. -/
theorem Book.drop {lockState lockState' : LockState} {requests : ℕ}
    {confirmed : List SessionLocker} (h : Book lockState requests confirmed)
    (hnone : lockState'.pending = none) : Book lockState' requests confirmed where
  pending c hc := by
    rw [hnone] at hc
    nomatch hc
  lt := h.lt
  nodup := h.nodup

end Allocked

/-! ### Steps that leave the lock alone -/

/-- The step changes neither the lock state nor the answers. -/
structure Quiet (before after : Niri) : Prop where
  inv : after.Inv
  lockState : after.lockState = before.lockState
  confirmed : after.confirmed = before.confirmed
  requests : after.requests = before.requests

namespace Niri.Inv

variable {niri : Niri} {output : Output} {state : OutputState}

theorem quiet (h : niri.Inv) : Quiet niri niri := ⟨h, rfl, rfl, rfl⟩

/-- One output gets another state, which stays locked in a locked session. -/
theorem setOutput (h : niri.Inv) {loop : EventLoop Source}
    (htouch : Touches output niri.loop loop state)
    (hlock : niri.lockState.isConfirmed = true → state.lockRenderState = .locked) :
    Quiet niri ({ niri with loop := loop }.setOutput output state) where
  inv := {
    keys := by
      rw [Niri.keys_setOutput]
      exact h.keys
    owns := h.owns.setOutput (fun _ _ _ howns => howns.extends htouch.extends_) htouch.owns
    deadline := htouch.lockDeadline.trans h.deadline
    locked := fun hconfirmed =>
      (h.locked hconfirmed).setOutput (fun _ _ _ hs => hs) (hlock hconfirmed)
    book := h.book }
  lockState := rfl
  confirmed := rfl
  requests := rfl

/-- The state of an output is updated, and the sources stay. -/
theorem setOutput_same (h : niri.Inv) {state' : OutputState}
    (hget : Assoc.get niri.outputs output = some state)
    (hredraw : ∀ token, state'.redrawState.token = some token →
      state.redrawState.token = some token)
    (hthrottle : state'.vblankThrottle = state.vblankThrottle)
    (hlock : state'.lockRenderState = state.lockRenderState) :
    Quiet niri (niri.setOutput output state') :=
  h.setOutput (.same (h.owns.get hget) hredraw hthrottle) fun hconfirmed =>
    hlock.trans ((h.locked hconfirmed).get hget)

theorem mapOutputs (h : niri.Inv) {f : OutputState → OutputState}
    (hredraw : ∀ s, (f s).redrawState.token = s.redrawState.token)
    (hthrottle : ∀ s, (f s).vblankThrottle = s.vblankThrottle)
    (hlock : ∀ s, (f s).lockRenderState = s.lockRenderState) : Quiet niri (niri.mapOutputs f) where
  inv := {
    keys := by
      rw [Niri.keys_mapOutputs]
      exact h.keys
    owns := h.owns.mapOutputs fun o s howns =>
      ⟨fun token ht => howns.redraw token ((hredraw s).symm.trans ht),
        fun token ht => howns.throttle token (hthrottle s ▸ ht)⟩
    deadline := h.deadline
    locked := fun hconfirmed =>
      (h.locked hconfirmed).mapOutputs fun _ s hs => (hlock s).trans hs
    book := h.book }
  lockState := rfl
  confirmed := rfl
  requests := rfl

theorem queueRedrawAll (h : niri.Inv) : Quiet niri niri.queueRedrawAll :=
  h.mapOutputs (fun s => RedrawState.token_queueRedraw s.redrawState) (fun _ => rfl) fun _ => rfl

theorem queueRedraw (h : niri.Inv) (output : Output) :
    Ensures (niri.queueRedraw output) (Quiet niri) := by
  unfold Niri.queueRedraw
  cases hget : Assoc.get niri.outputs output with
  | none => exact ensures_error
  | some state =>
    refine ensures_ok.mpr (h.setOutput_same hget (fun token ht => ?_) rfl rfl)
    rw [← ht]
    exact (RedrawState.token_queueRedraw state.redrawState).symm

end Niri.Inv

namespace Quiet

variable {s t u : Niri}

theorem trans (h₁ : Quiet s t) (h₂ : Quiet t u) : Quiet s u :=
  ⟨h₂.inv, h₂.lockState.trans h₁.lockState, h₂.confirmed.trans h₁.confirmed,
    h₂.requests.trans h₁.requests⟩

theorem closeScreenshotUi (h : Quiet s t) : Quiet s t.closeScreenshotUi :=
  ⟨⟨h.inv.keys, h.inv.owns, h.inv.deadline, h.inv.locked, h.inv.book⟩, h.lockState, h.confirmed,
    h.requests⟩

theorem queueRedrawAll (h : Quiet s t) : Quiet s t.queueRedrawAll := h.trans h.inv.queueRedrawAll

theorem cancelMru (h : Quiet s t) : Quiet s t.cancelMru := by
  unfold Niri.cancelMru
  split_ifs
  · exact h
  · have hall := h.queueRedrawAll
    exact ⟨⟨hall.inv.keys, hall.inv.owns, hall.inv.deadline, hall.inv.locked, hall.inv.book⟩,
      hall.lockState, hall.confirmed, hall.requests⟩

end Quiet

theorem repositionOutputs_quiet {niri : Niri} (h : niri.Inv) (moved : List Output) :
    Ensures (niri.repositionOutputs moved) (Quiet niri) := by
  unfold Niri.repositionOutputs
  induction moved generalizing niri with
  | nil => exact ensures_pure.mpr h.quiet
  | cons output moved ih =>
    rw [List.foldlM_cons, ensures_bind]
    refine (h.queueRedraw output).mono fun t ht => ?_
    exact (ih ht.inv).mono fun u hu => ht.trans hu

/-! ### Steps that move the lock -/

/-- What a step may do to the lock, unless it is `unlock`. -/
structure Advances (before after : Niri) : Prop where
  inv : after.Inv
  confirmed : after.confirmed = before.confirmed ∨
    ∃ c, after.confirmed = c :: before.confirmed ∧ after.lockState = .locked c
  stays : before.lockState.isConfirmed = true → after.lockState.isConfirmed = true

namespace Advances

variable {s t u : Niri}

theorem quiet_then (h₁ : Quiet s t) (h₂ : Advances t u) : Advances s u where
  inv := h₂.inv
  confirmed := h₁.confirmed ▸ h₂.confirmed
  stays := h₁.lockState ▸ h₂.stays

theorem then_quiet (h₁ : Advances s t) (h₂ : Quiet t u) : Advances s u where
  inv := h₂.inv
  confirmed := by
    rw [h₂.confirmed, h₂.lockState]
    exact h₁.confirmed
  stays hs := by
    rw [h₂.lockState]
    exact h₁.stays hs

end Advances

theorem Quiet.advances {s t : Niri} (h : Quiet s t) : Advances s t :=
  ⟨h.inv, .inl h.confirmed, fun hs => h.lockState ▸ hs⟩

section Lock

variable {niri : Niri} {c : SessionLocker}

/-- The answer, once every output is locked. -/
theorem Niri.Inv.confirm (h : niri.Inv) (hdeadline : niri.lockState.deadline = none)
    (hall : AllLocked niri) (hlt : c.id < niri.requests)
    (hnew : c.id ∉ niri.confirmed.map SessionLocker.id) : Advances niri (niri.confirm c) where
  inv := {
    keys := h.keys
    owns := h.owns
    deadline := by
      show niri.loop.tokens .lockDeadline = []
      rw [h.deadline, hdeadline]
      rfl
    locked := fun _ => hall
    book := {
      pending := nofun
      lt := by
        intro d hd
        rcases List.mem_cons.mp hd with rfl | hd
        · exact hlt
        · exact h.book.lt d hd
      nodup := List.nodup_cons.mpr ⟨hnew, h.book.nodup⟩ } }
  confirmed := .inr ⟨c, rfl, rfl⟩
  stays _ := rfl

/-- The lock state is taken, and the deadline with it. -/
theorem Niri.Inv.take (h : niri.Inv) {token : Token}
    (hstate : niri.lockState = .waitingForSurfaces c token) :
    ({ niri with loop := niri.loop.remove token, lockState := .unlocked }).Inv where
  keys := h.keys
  owns := h.owns.mono fun _ _ howns => howns.extends (.remove niri.loop token)
  deadline := EventLoop.tokens_remove_self (by rw [h.deadline, hstate]; rfl)
  locked := nofun
  book := h.book.drop rfl

theorem continueToLocking_advances (h : niri.Inv) : Advances niri niri.continueToLocking := by
  unfold Niri.continueToLocking
  cases hstate : niri.lockState with
  | unlocked => exact h.quiet.advances
  | locking => exact h.quiet.advances
  | locked => exact h.quiet.advances
  | waitingForSurfaces c token =>
    have hpending := h.book.pending c (by rw [hstate]; rfl)
    have hquiet := (h.take hstate).quiet.closeScreenshotUi.cancelMru
    dsimp only
    generalize (Niri.closeScreenshotUi _).cancelMru = taken at hquiet ⊢
    obtain ⟨hinv, hlock, hconfirmed, hrequests⟩ := hquiet
    have hlt : c.id < taken.requests := hrequests ▸ hpending.1
    have hnew : c.id ∉ taken.confirmed.map SessionLocker.id := hconfirmed ▸ hpending.2
    have hdeadline : taken.lockState.deadline = none := hlock ▸ rfl
    split_ifs with hempty
    · have hall : AllLocked taken := fun p hp => by simp [hempty] at hp
      have hadvances := hinv.confirm hdeadline hall hlt hnew
      refine ⟨hadvances.inv, ?_, fun hs => ?_⟩
      · rw [← hconfirmed]
        exact hadvances.confirmed
      · simp [hstate, LockState.isConfirmed] at hs
    · have hlocking : ({ taken with lockState := .locking c }).Inv := {
        keys := hinv.keys
        owns := hinv.owns
        deadline := by
          show taken.loop.tokens .lockDeadline = []
          rw [hinv.deadline, hdeadline]
          rfl
        locked := nofun
        book := {
          pending := fun d hd => Option.some.inj hd ▸ ⟨hlt, hnew⟩
          lt := hinv.book.lt
          nodup := hinv.book.nodup } }
      have hall := hlocking.queueRedrawAll
      refine ⟨hall.inv, .inl (hall.confirmed.trans hconfirmed), fun hs => ?_⟩
      simp [hstate, LockState.isConfirmed] at hs

theorem maybeContinueToLocking_advances (h : niri.Inv) :
    Advances niri niri.maybeContinueToLocking := by
  unfold Niri.maybeContinueToLocking
  split
  · split_ifs
    · exact continueToLocking_advances h
    · exact h.quiet.advances
  · exact h.quiet.advances

/-- A request that was not answered yet. -/
theorem lock_advances (h : niri.Inv) (hlt : c.id < niri.requests)
    (hnew : c.id ∉ niri.confirmed.map SessionLocker.id) (isAlive : Bool) :
    Advances niri (niri.lock c isAlive) := by
  unfold Niri.lock
  cases hstate : niri.lockState with
  | waitingForSurfaces => exact h.quiet.advances
  | locking => exact h.quiet.advances
  | locked =>
    dsimp only
    split_ifs
    · exact h.quiet.advances
    · -- the outputs are blanked already
      exact h.confirm (by rw [hstate]; rfl) (h.locked (by rw [hstate]; rfl)) hlt hnew
  | unlocked =>
    dsimp only
    split_ifs with hempty
    · have hclose := h.quiet.closeScreenshotUi
      refine Advances.quiet_then hclose (hclose.inv.confirm ?_ ?_ hlt hnew)
      · show niri.lockState.deadline = none
        rw [hstate]
        rfl
      · intro p hp
        have hmem : p ∈ niri.outputs := hp
        simp [hempty] at hmem
    · refine ⟨⟨h.keys, ?_, ?_, nofun, ?_⟩, .inl rfl, fun hs => ?_⟩
      · exact h.owns.mono fun _ _ howns => howns.extends (.insertSource niri.loop _)
      · show (niri.loop.insertSource .lockDeadline).2.tokens .lockDeadline = [niri.loop.next]
        rw [EventLoop.tokens_insertSource, if_pos rfl, h.deadline, hstate]
        rfl
      · refine ⟨fun d hd => ?_, h.book.lt, h.book.nodup⟩
        rw [← Option.some.inj hd]
        exact ⟨hlt, hnew⟩
      · simp [hstate, LockState.isConfirmed] at hs

/-- The protocol's unlock, which also stops a lock that is under way. -/
theorem unlock_inv (h : niri.Inv) : niri.unlock.Inv ∧ niri.unlock.confirmed = niri.confirmed := by
  have htake : ∀ loop : EventLoop Source, niri.loop.Extends loop →
      loop.tokens .lockDeadline = [] →
      ({ niri with loop := loop, lockState := .unlocked }).Inv := fun loop hextends hnone =>
    ⟨h.keys, h.owns.mono fun _ _ howns => howns.extends hextends, hnone, nofun, h.book.drop rfl⟩
  have hclear : ∀ taken : Niri, taken.Inv →
      Quiet taken (taken.mapOutputs fun state => { state with lockSurface := none }).queueRedrawAll :=
    fun taken htaken => by
      have hmap : Quiet taken (taken.mapOutputs fun state => { state with lockSurface := none }) :=
        htaken.mapOutputs (fun _ => rfl) (fun _ => rfl) fun _ => rfl
      exact hmap.queueRedrawAll
  unfold Niri.unlock
  cases hstate : niri.lockState with
  | waitingForSurfaces c token =>
    have hquiet := hclear _ (htake _ (.remove niri.loop token)
      (EventLoop.tokens_remove_self (by rw [h.deadline, hstate]; rfl)))
    exact ⟨hquiet.inv, hquiet.confirmed⟩
  | unlocked =>
    have hquiet := hclear _ (htake _ (.refl _) (by rw [h.deadline, hstate]; rfl))
    exact ⟨hquiet.inv, hquiet.confirmed⟩
  | locking c =>
    have hquiet := hclear _ (htake _ (.refl _) (by rw [h.deadline, hstate]; rfl))
    exact ⟨hquiet.inv, hquiet.confirmed⟩
  | locked c =>
    have hquiet := hclear _ (htake _ (.refl _) (by rw [h.deadline, hstate]; rfl))
    exact ⟨hquiet.inv, hquiet.confirmed⟩

/-- The answer, if every output is locked, for a lock under way. -/
theorem confirmLocking_advances (h : niri.Inv) (hstate : niri.lockState = .locking c) :
    Advances niri (if niri.allLocked then niri.confirm c else niri) := by
  split_ifs with hall
  · have hpending := h.book.pending c (by rw [hstate]; rfl)
    exact h.confirm (by rw [hstate]; rfl) (allLocked_iff.mp hall) hpending.1 hpending.2
  · exact h.quiet.advances

theorem outputRemoved_advances (h : niri.Inv) : Advances niri niri.outputRemoved := by
  unfold Niri.outputRemoved
  split
  · rename_i c hstate
    exact confirmLocking_advances h hstate
  · exact maybeContinueToLocking_advances h

theorem outputRedrawn_advances (h : niri.Inv) (state : OutputState) :
    Advances niri (niri.outputRedrawn state) := by
  unfold Niri.outputRedrawn
  split
  · rename_i c hstate
    by_cases hunlocked : state.lockRenderState = .unlocked
    · -- the request is dropped, and not answered
      rw [if_pos hunlocked]
      have htake : ({ niri with lockState := .unlocked }).Inv :=
        ⟨h.keys, h.owns, by rw [h.deadline, hstate]; rfl, nofun, h.book.drop rfl⟩
      obtain ⟨hinv, hconfirmed⟩ := unlock_inv htake
      exact ⟨hinv, .inl hconfirmed, fun hs => by simp [hstate, LockState.isConfirmed] at hs⟩
    · rw [if_neg hunlocked]
      exact confirmLocking_advances h hstate
  · exact h.quiet.advances

end Lock

/-! ### Every step -/

section Steps

variable {niri : Niri}

theorem newLockSurface_quiet (h : niri.Inv) (client : ℕ) (output : Output) :
    Quiet niri (niri.newLockSurface client output) := by
  unfold Niri.newLockSurface
  dsimp only
  split
  · rename_i lock state _ hget
    split_ifs
    · exact h.setOutput_same hget (fun _ ht => ht) rfl rfl
    · exact h.quiet
  · exact h.quiet

theorem commitLockSurface_advances (h : niri.Inv) (output : Output) (isMapped : Bool) :
    Ensures (niri.commitLockSurface output isMapped) (Advances niri) := by
  unfold Niri.commitLockSurface
  cases hget : Assoc.get niri.outputs output with
  | none => exact ensures_ok.mpr h.quiet.advances
  | some state =>
    dsimp only
    cases hsurface : state.lockSurface with
    | none => exact ensures_ok.mpr h.quiet.advances
    | some surface =>
      have hset : Quiet niri (niri.setOutput output
          { state with lockSurface := some { surface with isMapped := isMapped } }) :=
        h.setOutput_same hget (fun _ ht => ht) rfl rfl
      dsimp only
      split
      · exact ensures_ok.mpr (Advances.quiet_then hset (maybeContinueToLocking_advances hset.inv))
      · refine (hset.inv.queueRedraw output).mono fun t ht => ?_
        exact (hset.trans ht).advances

theorem onVblank_quiet (h : niri.Inv) (output : Output) (time : ℕ) :
    Quiet niri (niri.onVblank output time) := by
  unfold Niri.onVblank
  cases hget : Assoc.get niri.outputs output with
  | none => exact h.quiet
  | some state =>
    dsimp only
    generalize hr : state.vblankThrottle.throttle niri.loop output state.refreshInterval time = r
    obtain ⟨throttled, throttle, loop'⟩ := r
    have htouch := (throttle_spec (h.owns.get hget) hr).1
    have hlock : niri.lockState.isConfirmed = true → state.lockRenderState = .locked :=
      fun hconfirmed => (h.locked hconfirmed).get hget
    -- the state forgets its token, if it has one
    have hidle : ∀ redrawState : RedrawState, redrawState.token = none → ∀ requested : Bool,
        Touches output niri.loop loop' { state with
          vblankThrottle := throttle, redrawState := redrawState, requested := requested } :=
      fun redrawState hnone requested => ⟨htouch.extends_, htouch.others,
        fun token ht => by simp [hnone] at ht, htouch.owns.throttle⟩
    dsimp only
    split_ifs
    · exact h.setOutput htouch hlock
    · exact h.setOutput (hidle _ rfl true) hlock
    · exact h.setOutput (hidle _ rfl state.requested) hlock

theorem onEstimatedVblankTimer_quiet (h : niri.Inv) (output : Output) :
    Ensures (niri.onEstimatedVblankTimer output) (Quiet niri) := by
  unfold Niri.onEstimatedVblankTimer
  cases hget : Assoc.get niri.outputs output with
  | none => exact ensures_ok.mpr h.quiet
  | some state =>
    dsimp only
    split
    · exact ensures_error
    · exact ensures_error
    · exact ensures_error
    · exact ensures_ok.mpr (h.setOutput_same hget nofun rfl rfl)
    · split_ifs
      · exact ensures_ok.mpr (h.setOutput_same hget nofun rfl rfl)
      · exact ensures_ok.mpr (h.setOutput_same hget nofun rfl rfl)

/-- A source that fired is dropped: the deadline is dropped already. -/
theorem drop_advances {t : Niri} {token : Token} (h : Advances niri t)
    (hnone : token ∉ t.loop.tokens .lockDeadline) :
    Advances niri { t with loop := t.loop.remove token } := by
  refine ⟨⟨h.inv.keys, ?_, ?_, h.inv.locked, h.inv.book⟩, h.confirmed, h.stays⟩
  · exact h.inv.owns.mono fun _ _ howns => howns.extends (.remove t.loop token)
  · show (t.loop.remove token).tokens .lockDeadline = t.lockState.deadline.toList
    rw [← h.inv.deadline, EventLoop.tokens_remove, List.filter_eq_self]
    intro other hother
    have hne : other ≠ token := ne_of_mem_of_not_mem hother hnone
    simpa using hne

theorem continueToLocking_deadline (h : niri.Inv) :
    niri.continueToLocking.loop.tokens .lockDeadline = [] := by
  rw [(continueToLocking_advances h).inv.deadline]
  unfold Niri.continueToLocking
  cases hstate : niri.lockState with
  | unlocked => simp [hstate, LockState.deadline]
  | locking => simp [hstate, LockState.deadline]
  | locked => simp [hstate, LockState.deadline]
  | waitingForSurfaces =>
    dsimp only
    split_ifs <;> rfl

theorem fire_advances (h : niri.Inv) (token : Token) (time : ℕ) :
    Ensures (niri.fire token time) (Advances niri) := by
  unfold Niri.fire
  rw [ensures_bind]
  unfold Niri.onTimer
  cases hsource : niri.loop.source token with
  | none =>
    refine ensures_ok.mpr (ensures_ok.mpr (drop_advances h.quiet.advances ?_))
    intro hmem
    rw [EventLoop.source_eq_some_iff.mpr hmem] at hsource
    nomatch hsource
  | some source =>
    have howned : niri.loop.Owned token source :=
      EventLoop.owned_of_mem (EventLoop.source_eq_some_iff.mp hsource)
    cases source with
    | lockDeadline =>
      refine ensures_ok.mpr (ensures_ok.mpr (drop_advances (continueToLocking_advances h) ?_))
      rw [continueToLocking_deadline h]
      simp
    | estimatedVblank output =>
      refine (onEstimatedVblankTimer_quiet h output).mono fun t ht => ?_
      refine ensures_ok.mpr (drop_advances ht.advances ?_)
      rw [ht.inv.deadline, ht.lockState, ← h.deadline]
      exact fun hmem => nomatch howned.unique _ hmem
    | throttledVblank output =>
      have ht := onVblank_quiet h output time
      refine ensures_ok.mpr (ensures_ok.mpr (drop_advances ht.advances ?_))
      rw [ht.inv.deadline, ht.lockState, ← h.deadline]
      exact fun hmem => nomatch howned.unique _ hmem

theorem redraw_advances (h : niri.Inv) (output : Output) (outcome : RenderOutcome)
    (animationsOngoing : Bool) :
    Ensures (niri.redraw output outcome animationsOngoing) (Advances niri) := by
  intro t ht
  obtain ⟨state, res, state', loop', hget, -, hredraws⟩ := redraw_cases h.owns ht
  have htouch := hredraws.renders.touches
  have hset : Quiet niri ({ niri with loop := loop' }.setOutput output
      (state'.rendered res niri.monitorsActive niri.isLocked)) := h.setOutput
    ⟨htouch.extends_, htouch.others, fun token ht => htouch.owns.redraw token (by simpa using ht),
      fun token ht => htouch.owns.throttle token (by simpa using ht)⟩ fun hconfirmed => by
    have hlocked : state.lockRenderState = .locked := (h.locked hconfirmed).get hget
    rw [Niri.isLocked_of_isConfirmed hconfirmed]
    exact rendered_locked (hredraws.renders.lockRenderState.trans hlocked) _ _
  rw [hredraws.eq]
  exact Advances.quiet_then hset (outputRedrawn_advances hset.inv _)

theorem addOutput_advances (h : niri.Inv) (output : Output) (refreshInterval : Option ℕ)
    (moved : List Output) :
    Ensures (niri.addOutput output refreshInterval moved) (Advances niri) := by
  unfold Niri.addOutput
  dsimp only
  cases hget : Assoc.get niri.outputs output with
  | some => exact ensures_error
  | none =>
    dsimp only
    generalize hstate : OutputState.mk _ _ _ _ _ _ _ _ = state
    have hadd : Quiet niri { niri with outputs := niri.outputs ++ [(output, state)] } := by
      refine ⟨⟨Assoc.nodup_keys_concat h.keys (Assoc.get_eq_none_iff.mp hget), ?_, h.deadline, ?_,
        h.book⟩, rfl, rfl, rfl⟩
      · intro p hp
        rcases List.mem_append.mp hp with hp | hp
        · exact h.owns p hp
        · obtain rfl := List.mem_singleton.mp hp
          rw [← hstate]
          exact ⟨nofun, nofun⟩
      · intro hconfirmed p hp
        rcases List.mem_append.mp hp with hp | hp
        · exact h.locked hconfirmed p hp
        · obtain rfl := List.mem_singleton.mp hp
          have hlocked : niri.isLocked = true := Niri.isLocked_of_isConfirmed hconfirmed
          simp [← hstate, hlocked]
    refine (repositionOutputs_quiet hadd.inv moved).mono fun t ht => ?_
    exact (hadd.trans ht).advances

/-- The outputs without one of them, and without its timer. -/
theorem Niri.Inv.remove (h : niri.Inv) {output : Output} {state : OutputState}
    (hget : Assoc.get niri.outputs output = some state) :
    Quiet niri { niri with
      loop := match state.redrawState.token with
        | some token => niri.loop.remove token
        | none => niri.loop
      outputs := Assoc.remove output niri.outputs } := by
  have hsub : ∀ p ∈ Assoc.remove output niri.outputs, p ∈ niri.outputs :=
    fun p hp => List.mem_of_mem_filter hp
  refine ⟨⟨Assoc.nodup_keys_filter h.keys _, ?_, ?_,
    fun hconfirmed p hp => h.locked hconfirmed p (hsub p hp), h.book⟩, rfl, rfl, rfl⟩
  · intro p hp
    refine (h.owns p (hsub p hp)).extends ?_
    cases state.redrawState.token with
    | none => exact .refl _
    | some token => exact .remove niri.loop token
  · refine Eq.trans ?_ h.deadline
    cases htoken : state.redrawState.token with
    | none => rfl
    | some token => exact ((h.owns.get hget).redraw token htoken).tokens_remove (by simp)

theorem removeOutput_advances (h : niri.Inv) (output : Output) (moved : List Output) :
    Ensures (niri.removeOutput output moved) (Advances niri) := by
  unfold Niri.removeOutput
  rw [ensures_bind]
  refine (repositionOutputs_quiet h moved).mono fun t ht => ?_
  cases hget : Assoc.get t.outputs output with
  | none => exact ensures_error
  | some state =>
    have hremove := ht.trans (ht.inv.remove hget)
    have hlock := Advances.quiet_then hremove (outputRemoved_advances hremove.inv)
    dsimp only
    generalize Niri.outputRemoved _ = removed at hlock ⊢
    have hclose : Advances niri
        (if removed.ui.screenshotUiOpen then removed.closeScreenshotUi.queueRedrawAll
          else removed) := by
      split_ifs
      · exact hlock.then_quiet hlock.inv.quiet.closeScreenshotUi.queueRedrawAll
      · exact hlock
    generalize (if removed.ui.screenshotUiOpen = true then removed.closeScreenshotUi.queueRedrawAll
      else removed) = closed at hclose ⊢
    refine ensures_ok.mpr ?_
    split_ifs
    · exact hclose.then_quiet hclose.inv.quiet.cancelMru
    · exact hclose

theorem activateMonitors_quiet (h : niri.Inv) : Quiet niri niri.activateMonitors := by
  unfold Niri.activateMonitors
  split_ifs
  · exact h.quiet
  · have hactive : Quiet niri { niri with monitorsActive := true } :=
      ⟨⟨h.keys, h.owns, h.deadline, h.locked, h.book⟩, rfl, rfl, rfl⟩
    exact hactive.queueRedrawAll

theorem doScreenTransition_quiet (h : niri.Inv) (failed : List Output) (delayMs : Option ℕ) :
    Quiet niri (niri.doScreenTransition failed delayMs) := by
  have hentry : ∀ P : Output → OutputState → Prop, niri.Each P →
      (∀ o s transition, P o s → P o { s with screenTransition := transition }) →
        (niri.doScreenTransition failed delayMs).Each P := by
    intro P hP htransition p hp
    obtain ⟨q, hq, rfl⟩ := List.mem_map.mp hp
    dsimp only
    split_ifs
    · exact hP q hq
    · exact htransition _ _ _ (hP q hq)
  refine ⟨⟨?_, ?_, h.deadline, fun hconfirmed => ?_, h.book⟩, rfl, rfl, rfl⟩
  · have hkeys : Assoc.keys (niri.doScreenTransition failed delayMs).outputs =
        Assoc.keys niri.outputs := by
      unfold Niri.doScreenTransition Assoc.keys
      rw [List.map_map]
      refine List.map_congr_left fun p _ => ?_
      simp only [Function.comp_apply]
      split_ifs <;> rfl
    rw [hkeys]
    exact h.keys
  · exact hentry _ h.owns fun _ _ _ howns => ⟨howns.redraw, howns.throttle⟩
  · exact hentry _ (h.locked hconfirmed) fun _ _ _ hlocked => hlocked

theorem advanceAnimations_quiet (h : niri.Inv) (clock : ℕ) :
    Quiet niri ({ niri with clock := clock }).advanceAnimations := by
  have hclock : Quiet niri { niri with clock := clock } :=
    ⟨⟨h.keys, h.owns, h.deadline, h.locked, h.book⟩, rfl, rfl, rfl⟩
  refine hclock.trans (hclock.inv.mapOutputs (fun s => ?_) (fun s => ?_) fun s => ?_)
  · split_ifs <;> rfl
  · split_ifs <;> rfl
  · split_ifs <;> rfl

/-- Every step but `unlock` is an advance of the lock. -/
theorem step_advances (h : niri.Inv) {step : Niri.Step} (hstep : step ≠ .unlock) :
    Ensures (niri.step step) (Advances niri) := by
  cases step with
  | unlock => exact absurd rfl hstep
  | lock client isAlive =>
    have hnext : ({ niri with requests := niri.requests + 1 }).Inv :=
      ⟨h.keys, h.owns, h.deadline, h.locked, h.book.mono (Nat.le_succ _)⟩
    have hnew : niri.requests ∉ niri.confirmed.map SessionLocker.id := by
      intro hmem
      obtain ⟨c, hc, hid⟩ := List.mem_map.mp hmem
      exact (hid ▸ h.book.lt c hc).false
    have hlock := lock_advances (c := ⟨niri.requests, client⟩) hnext (Nat.lt_succ_self _) hnew
      isAlive
    exact ensures_ok.mpr ⟨hlock.inv, hlock.confirmed, hlock.stays⟩
  | newLockSurface client output => exact ensures_ok.mpr (newLockSurface_quiet h _ _).advances
  | commitLockSurface output isMapped => exact commitLockSurface_advances h output isMapped
  | fire token time => exact fire_advances h token time
  | redraw output outcome animationsOngoing => exact redraw_advances h output outcome _
  | vblank output time => exact ensures_ok.mpr (onVblank_quiet h output time).advances
  | queueRedraw output => exact (h.queueRedraw output).mono fun _ ht => ht.advances
  | queueRedrawAll => exact ensures_ok.mpr h.queueRedrawAll.advances
  | deactivateMonitors =>
    exact ensures_ok.mpr ⟨⟨h.keys, h.owns, h.deadline, h.locked, h.book⟩, .inl rfl, id⟩
  | activateMonitors => exact ensures_ok.mpr (activateMonitors_quiet h).advances
  | addOutput output refreshInterval moved => exact addOutput_advances h output _ moved
  | removeOutput output moved => exact removeOutput_advances h output moved
  | doScreenTransition failed delayMs =>
    refine ensures_ok.mpr ?_
    split_ifs
    · exact h.quiet.advances
    · exact (doScreenTransition_quiet h failed delayMs).advances
  | advanceAnimations clock => exact ensures_ok.mpr (advanceAnimations_quiet h clock).advances
  | ui ui => exact ensures_ok.mpr ⟨⟨h.keys, h.owns, h.deadline, h.locked, h.book⟩, .inl rfl, id⟩

theorem unlockStep_inv (h : niri.Inv) : niri.unlock.activateMonitors.Inv ∧
    niri.unlock.activateMonitors.confirmed = niri.confirmed := by
  obtain ⟨hinv, hconfirmed⟩ := unlock_inv h
  have hactive := activateMonitors_quiet hinv
  exact ⟨hactive.inv, hactive.confirmed.trans hconfirmed⟩

theorem step_inv (h : niri.Inv) (step : Niri.Step) : Ensures (niri.step step) Niri.Inv := by
  by_cases hstep : step = .unlock
  · subst hstep
    exact ensures_ok.mpr (unlockStep_inv h).1
  · exact (step_advances h hstep).mono fun _ ht => ht.inv

end Steps

/-! ### Runs -/

theorem initial_inv {niri : Niri} (h : machine.initial niri) : niri.Inv := by
  obtain ⟨houtputs, hlock, hsources, hrequests, hconfirmed⟩ := h
  refine ⟨by simp [houtputs], fun p hp => by simp [houtputs] at hp, ?_, fun hs => ?_, ?_⟩
  · simp [EventLoop.tokens, hsources, hlock, LockState.deadline]
  · simp [hlock, LockState.isConfirmed] at hs
  · rw [hlock, hconfirmed]
    exact ⟨nofun, nofun, List.nodup_nil⟩

theorem reachable_inv {allowed : Niri → Niri.Step → Prop} {niri : Niri}
    (h : machine.ReachableBy allowed niri) : niri.Inv :=
  h.invariant (fun _ => initial_inv) fun _ step hinv _ => step_inv hinv step

/-- What holds of the lock in a state, and of every step from it. -/
structure LockSpec (niri : Niri) : Prop where
  /-- Once the client was told, every output is locked. -/
  allLocked : ∀ lock, niri.lockState = .locked lock → AllLocked niri
  /-- No request is answered twice. -/
  once : (niri.confirmed.map SessionLocker.id).Nodup
  /-- The deadline is registered exactly while the surfaces are waited for. -/
  deadline : niri.loop.tokens .lockDeadline = niri.lockState.deadline.toList
  /-- An answer moves the lock state, with every output locked. -/
  confirms : ∀ step after, niri.step step = .ok after → after.confirmed = niri.confirmed ∨
    ∃ c, after.confirmed = c :: niri.confirmed ∧ after.lockState = .locked c ∧ AllLocked after
  /-- Only the protocol's unlock leaves the locked state. -/
  stays : ∀ step after, niri.step step = .ok after → step ≠ .unlock →
    niri.lockState.isConfirmed = true → after.lockState.isConfirmed = true

/-- The session lock in every run. -/
theorem lock_spec {niri : Niri} (h : machine.ReachableBy (fun _ _ => True) niri) :
    LockSpec niri := by
  have hinv := reachable_inv h
  refine ⟨fun lock hlock => hinv.locked (by rw [hlock]; rfl), hinv.book.nodup, hinv.deadline, ?_,
    fun step after hafter hstep => (step_advances hinv hstep after hafter).stays⟩
  intro step after hafter
  by_cases hstep : step = .unlock
  · subst hstep
    obtain rfl := Except.ok.inj hafter
    exact .inl (unlockStep_inv hinv).2
  · have hadvances := step_advances hinv hstep after hafter
    refine hadvances.confirmed.imp_right ?_
    rintro ⟨c, hconfirmed, hlock⟩
    exact ⟨c, hconfirmed, hlock, hadvances.inv.locked (by rw [hlock]; rfl)⟩

/-! ### A lock with one output -/

namespace Sample

def ui : Ui where
  pointerVisible := true
  exitConfirmDialogOpen := false
  configErrorNotification := false
  screenshotUiOpen := false
  mruOutput := none
  previewRender := none
  content _ _ := [0]

def niri : Niri := ⟨[], .unlocked, true, .empty, 0, ui, 0, []⟩

theorem initial : machine.initial niri := ⟨rfl, rfl, rfl, rfl, rfl⟩

/-- An output is connected, and a client locks the session once its surface is ready. -/
def lockSteps : List Niri.Step :=
  [.addOutput 0 none [], .lock 5 true, .newLockSurface 5 0, .commitLockSurface 0 true]

end Sample

/-- The redraw of the only output answers the request. -/
theorem lock_spec_oneOutput : ∃ niri : Niri, niri.lockState = .locked ⟨0, 5⟩ ∧
    niri.confirmed = [⟨0, 5⟩] ∧ niri.outputs.length = 1 ∧ AllLocked niri := by
  obtain ⟨niri, hniri, hp⟩ := Machine.exists_reachableBy (M := machine)
    (p := fun niri => decide (niri.lockState = .locked ⟨0, 5⟩ ∧ niri.confirmed = [⟨0, 5⟩] ∧
      niri.outputs.length = 1))
    (Sample.lockSteps ++ [.redraw 0 .submitted false]) Sample.initial
    (show (machine.run (fun _ _ => True) _ _).any _ = true by decide +kernel)
  obtain ⟨hlock, hconfirmed, hlength⟩ := of_decide_eq_true hp
  exact ⟨niri, hlock, hconfirmed, hlength, (lock_spec hniri).allLocked _ hlock⟩

end Sol.Redraw
