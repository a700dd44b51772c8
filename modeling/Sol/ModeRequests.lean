import Sol.Configures

/-!
# Whether a requested mode reaches the client

A request asks for a configure by comparing its mode with the committed one.  If the
last configure that was sent has another mode yet, and the request leaves the size and
the states of the toplevel as that configure had them, then nothing is sent: the client
commits the other mode, and the window stays in it.

* `Told`: windowed fullscreen is never lost, since it shows in the states;
* `modes_settle_iff`: the modes that a client settles on are the requested ones unless
  a configure was swallowed.
-/

namespace Sol

open Panicking ChangeLog ToplevelSurface

variable {T : Type} [ToplevelSurface T]

/-- What is relied on of the toplevel surfaces: an update of the pending state is no
configure, and a configure sends the pending state. -/
structure LawfulToplevel (T : Type) [ToplevelSurface T] : Prop where
  currentServerState_withPendingState : ∀ (t : T) f,
    currentServerState (withPendingState t f) = currentServerState t
  serverPending_sendConfigure : ∀ t : T, serverPending (sendConfigure t).2 = none
  currentServerState_sendConfigure : ∀ t : T,
    currentServerState (sendConfigure t).2 = pendingState t

namespace Mapped

/-- The maximized state of the last configure, as far as the window knows. -/
def lastSentMaximized (self : Mapped T) : Bool :=
  lastValue self.isMaximized self.uncommittedMaximized

/-- The pending maximized state is not the one that was sent last, and yet
`send_pending_configure` finds nothing to send. -/
def Swallows (self : Mapped T) : Prop :=
  self.isPendingMaximized ≠ self.lastSentMaximized ∧
    self.needsConfigure = false ∧ self.looked.hasPendingChanges = false

/-- Nothing is left to send. -/
def Quiet (self : Mapped T) : Prop :=
  self.needsConfigure = false ∧ pendingState self.toplevel = currentServerState self.toplevel

theorem hasPendingChanges_eq_false_iff (self : Mapped T) :
    self.hasPendingChanges = false ↔
      pendingState self.toplevel = currentServerState self.toplevel := by
  unfold hasPendingChanges pendingState
  cases serverPending self.toplevel <;> simp

section Laws

variable (h : LawfulToplevel T) (self : Mapped T)

include h

theorem currentServerState_looked :
    currentServerState self.looked.toplevel = currentServerState self.toplevel := by
  unfold looked keepWindowSize
  split_ifs
  · rfl
  · exact h.currentServerState_withPendingState _ _
  · rfl

omit h in
theorem fullscreen_looked : (pendingState self.looked.toplevel).fullscreen =
    (pendingState self.toplevel).fullscreen := by
  unfold looked keepWindowSize
  split_ifs
  · rfl
  · rw [pendingState_withPendingState]
  · rfl

omit h in
theorem fullscreen_useWindowSize : (pendingState self.useWindowSize.toplevel).fullscreen =
    (pendingState self.toplevel).fullscreen := by
  unfold useWindowSize
  split_ifs
  · rw [pendingState_withPendingState]
  · rfl

/-- A quiet window stays as it is. -/
theorem Quiet.looked {self : Mapped T} (hquiet : self.Quiet) : self.looked.Quiet := by
  obtain ⟨hneeds, hpending⟩ := hquiet
  unfold Mapped.looked keepWindowSize
  rw [if_neg (by simp [hneeds])]
  split_ifs
  · refine ⟨hneeds, ?_⟩
    rw [pendingState_withPendingState, h.currentServerState_withPendingState, hpending]
  · exact ⟨hneeds, hpending⟩

theorem Quiet.sends {self : Mapped T} (hquiet : self.Quiet) : self.sends = false := by
  obtain ⟨hneeds, hpending⟩ := hquiet.looked h
  unfold Mapped.sends
  rw [hneeds, Bool.false_or, hasPendingChanges_eq_false_iff]
  exact hpending

omit h in
theorem toplevel_sendPendingConfigure : self.sendPendingConfigure.toplevel =
    if self.sends then (ToplevelSurface.sendConfigure self.looked.useWindowSize.toplevel).2
    else self.looked.toplevel := by
  have htoplevel : self.sendPendingConfigure.toplevel =
      (if self.sends then self.looked.sendConfigure else self.looked).toplevel := by
    unfold sendPendingConfigure Mapped.sends Mapped.looked
    dsimp only
    split_ifs <;> rfl
  rw [htoplevel]
  split_ifs <;> rfl

omit h in
theorem needsConfigure_looked : self.looked.needsConfigure = self.needsConfigure := by
  unfold looked keepWindowSize
  split_ifs <;> rfl

omit h in
theorem needsConfigure_sendPendingConfigure :
    self.sendPendingConfigure.needsConfigure = false := by
  have hneeds : self.sendPendingConfigure.needsConfigure =
      (if self.sends then self.looked.sendConfigure else self.looked).needsConfigure := by
    unfold sendPendingConfigure Mapped.sends Mapped.looked
    dsimp only
    split_ifs <;> rfl
  rw [hneeds]
  split_ifs with hsends
  · rfl
  · simp only [Mapped.sends, Bool.or_eq_true, not_or] at hsends
    simpa using hsends.1

theorem quiet_sendPendingConfigure : self.sendPendingConfigure.Quiet := by
  refine ⟨self.needsConfigure_sendPendingConfigure, ?_⟩
  rw [toplevel_sendPendingConfigure]
  split_ifs with hsends
  · unfold pendingState
    rw [h.serverPending_sendConfigure]
    rfl
  · simp only [Mapped.sends, Bool.or_eq_true, not_or] at hsends
    exact (hasPendingChanges_eq_false_iff _).mp (by simpa using hsends.2)

omit h in
theorem sends_eq_false_iff :
    self.sends = false ↔ self.needsConfigure = false ∧ self.looked.hasPendingChanges = false := by
  unfold Mapped.sends
  rw [needsConfigure_looked, Bool.or_eq_false_iff]

end Laws

/-- A request for a size once leaves windowed fullscreen, in the states as well. -/
theorem requestSizeOnce_windowed (self : Mapped T) (size : ISize) (animate : Bool) :
    (self.requestSizeOnce size animate).isPendingWindowedFullscreen =
        self.isPendingWindowedFullscreen ∧
      (self.requestSizeOnce size animate).needsConfigure =
        (self.needsConfigure || self.isMaximized != false) ∧
      ((self.requestSizeOnce size animate).toplevel = self.toplevel ∨
        (self.requestSizeOnce size animate).toplevel = withPendingState self.toplevel fun state =>
          { state with
            size := some size
            fullscreen := state.fullscreen && self.isPendingWindowedFullscreen
            maximized := false }) := by
  unfold requestSizeOnce
  dsimp only
  split
  · split
    · split_ifs <;> exact ⟨rfl, rfl, .inl rfl⟩
    · exact ⟨rfl, rfl, .inl rfl⟩
  · exact ⟨rfl, rfl, .inr rfl⟩

end Mapped

namespace Dialogue

variable {st : Dialogue T} {done todo : List Sent}

/-- The values of the last configure. -/
def lastWindowed (st : Dialogue T) : Bool := lastValue false (st.sent.map Sent.windowedEntry)

def lastMaximized (st : Dialogue T) : Bool :=
  lastValue st.mappedMaximized (st.sent.map Sent.maximizedEntry)

theorem Tracks.lastMaximized (h : st.Tracks done todo) :
    st.mapped.lastSentMaximized = st.lastMaximized := by
  unfold Mapped.lastSentMaximized Dialogue.lastMaximized
  rw [h.uncommittedMaximized, lastValue_changes, h.sent_eq, List.map_append, lastValue_append,
    h.maximized]

/-- Once the last configure is committed, its values are. -/
theorem Tracks.settled (hrefl : ∀ s, isNoOlderThan T s s = true) (h : st.Tracks done todo)
    (hcommitted : ∀ last, st.sent.getLast? = some last → st.lastCommit = some last.serial) :
    st.mapped.isWindowedFullscreen = st.lastWindowed ∧
      st.mapped.isMaximized = st.lastMaximized := by
  have hnone : todo = [] := by
    cases hlast : todo.getLast? with
    | none => exact List.getLast?_eq_none_iff.mp hlast
    | some last =>
      have hcommit := hcommitted last (by
        rw [h.sent_eq, List.getLast?_append, hlast]
        rfl)
      have hstale := h.newer _ hcommit last (List.mem_of_getLast? hlast)
      rw [hrefl] at hstale
      cases hstale
  subst hnone
  unfold lastWindowed Dialogue.lastMaximized
  rw [h.sent_eq, List.append_nil]
  exact ⟨h.windowed, h.maximized⟩

/-! ### Windowed fullscreen -/

/-- Windowed fullscreen shows in the states of the toplevel, so that a change of it is
there to send. -/
structure Told (st : Dialogue T) : Prop where
  pending : st.mapped.isPendingWindowedFullscreen = true →
    (pendingState st.mapped.toplevel).fullscreen = true
  current : st.lastWindowed = true → (currentServerState st.mapped.toplevel).fullscreen = true
  changed : st.mapped.isPendingWindowedFullscreen ≠ st.lastWindowed →
    st.mapped.needsConfigure = true ∨
      st.mapped.isPendingWindowedFullscreen = false ∧
        (pendingState st.mapped.toplevel).fullscreen = false

theorem Told.request (h : LawfulToplevel T) (htold : st.Told) (r : Mapped.Request) :
    Told { st with mapped := st.mapped.request r } := by
  cases r with
  | size size mode animate =>
    have hwindowed : (st.mapped.requestSize size mode animate).isPendingWindowedFullscreen =
        (st.mapped.resetWindowed mode).isPendingWindowedFullscreen := rfl
    have htoplevel : (st.mapped.resetWindowed mode).toplevel = st.mapped.toplevel := by
      unfold Mapped.resetWindowed
      split_ifs <;> rfl
    have hfullscreen :
        (pendingState (st.mapped.requestSize size mode animate).toplevel).fullscreen =
          (st.mapped.resetWindowed mode).isPendingWindowedFullscreen := by
      change (pendingState (withPendingState _ _)).fullscreen = _
      rw [pendingState_withPendingState]
      change (Mapped.encodeMode (st.mapped.resetWindowed mode).isPendingWindowedFullscreen mode
        _).fullscreen = _
      unfold Mapped.encodeMode
      cases (st.mapped.resetWindowed mode).isPendingWindowedFullscreen <;> cases mode <;> rfl
    have hcurrent : currentServerState (st.mapped.requestSize size mode animate).toplevel =
        currentServerState st.mapped.toplevel := by
      change currentServerState (withPendingState (st.mapped.resetWindowed mode).toplevel _) = _
      rw [h.currentServerState_withPendingState, htoplevel]
    refine ⟨fun hpending => hfullscreen.trans hpending, fun hlast => ?_, fun hchanged => ?_⟩
    · change (currentServerState (st.mapped.requestSize size mode animate).toplevel).fullscreen = _
      rw [hcurrent]
      exact htold.current hlast
    · change (st.mapped.resetWindowed mode).isPendingWindowedFullscreen ≠ st.lastWindowed
        at hchanged
      cases hw : (st.mapped.resetWindowed mode).isPendingWindowedFullscreen with
      | false => exact .inr ⟨hw, hfullscreen.trans hw⟩
      | true =>
        -- it was pending before
        refine .inl ?_
        rw [Mapped.isPendingWindowedFullscreen_resetWindowed, Bool.and_eq_true] at hw
        have hmode : mode ≠ .fullscreen := by simpa using hw.2
        unfold Mapped.resetWindowed at hchanged
        rw [if_neg hmode] at hchanged
        have hneeds := htold.changed hchanged
        simp only [hw.1, Bool.true_eq_false, false_and, or_false] at hneeds
        change (((st.mapped.resetWindowed mode).setPendingMaximized _).needsConfigure) = true
        unfold Mapped.setPendingMaximized Mapped.resetWindowed
        rw [if_neg hmode]
        simp [hneeds]
  | sizeOnce size animate =>
    obtain ⟨hwindowed, hneeds, htoplevel⟩ := st.mapped.requestSizeOnce_windowed size animate
    have hcurrent : currentServerState (st.mapped.requestSizeOnce size animate).toplevel =
        currentServerState st.mapped.toplevel := by
      rcases htoplevel with heq | heq <;> rw [heq]
      rw [h.currentServerState_withPendingState]
    have hfullscreen : st.mapped.isPendingWindowedFullscreen = true →
        (pendingState (st.mapped.requestSizeOnce size animate).toplevel).fullscreen = true := by
      intro hpending
      rcases htoplevel with heq | heq <;> rw [heq]
      · exact htold.pending hpending
      · rw [pendingState_withPendingState]
        simp [htold.pending hpending, hpending]
    refine ⟨fun hpending => hfullscreen (hwindowed.symm.trans hpending), fun hlast => ?_,
      fun hchanged => ?_⟩
    · change (currentServerState (st.mapped.requestSizeOnce size animate).toplevel).fullscreen = _
      rw [hcurrent]
      exact htold.current hlast
    · change (st.mapped.requestSizeOnce size animate).isPendingWindowedFullscreen ≠ st.lastWindowed
        at hchanged
      rw [hwindowed] at hchanged
      rcases htold.changed hchanged with hold | ⟨hnot, hold⟩
      · refine .inl ?_
        change (st.mapped.requestSizeOnce size animate).needsConfigure = true
        rw [hneeds, hold, Bool.true_or]
      · refine .inr ⟨hwindowed.trans hnot, ?_⟩
        change (pendingState (st.mapped.requestSizeOnce size animate).toplevel).fullscreen = false
        rcases htoplevel with heq | heq <;> rw [heq]
        · exact hold
        · rw [pendingState_withPendingState]
          simp [hold]
  | windowedFullscreen value =>
    by_cases hsame : st.mapped.isPendingWindowedFullscreen = value
    · have hkept : st.mapped.requestWindowedFullscreen value = st.mapped := by
        unfold Mapped.requestWindowedFullscreen
        rw [if_pos hsame]
      have hst : ({ st with mapped := st.mapped.request (.windowedFullscreen value) } :
          Dialogue T) = st := by
        change { st with mapped := st.mapped.requestWindowedFullscreen value } = st
        rw [hkept]
      rw [hst]
      exact htold
    · have hrequested : st.mapped.requestWindowedFullscreen value =
          { st.mapped with
            isPendingWindowedFullscreen := value
            toplevel := withPendingState st.mapped.toplevel fun state =>
              if value then { state with fullscreen := true, maximized := false }
              else { state with
                fullscreen := false
                maximized := state.maximized || st.mapped.isPendingMaximized }
            needsConfigure := true } := by
        unfold Mapped.requestWindowedFullscreen
        rw [if_neg hsame]
      have hst : ({ st with mapped := st.mapped.request (.windowedFullscreen value) } :
          Dialogue T) = { st with mapped := st.mapped.requestWindowedFullscreen value } := rfl
      rw [hst, hrequested]
      refine ⟨?_, fun hlast => ?_, fun _ => .inl rfl⟩
      · rintro rfl
        simp only [if_true]
        rw [pendingState_withPendingState]
      · simp only
        rw [h.currentServerState_withPendingState]
        exact htold.current hlast

/-- A change of windowed fullscreen is sent. -/
theorem Told.sends (htold : st.Told)
    (hchanged : st.mapped.isPendingWindowedFullscreen ≠ st.lastWindowed)
    (h : LawfulToplevel T) : st.mapped.sends = true := by
  by_contra hsends
  obtain ⟨hneeds, hpending⟩ := st.mapped.sends_eq_false_iff.mp (by simpa using hsends)
  rw [Mapped.hasPendingChanges_eq_false_iff, Mapped.currentServerState_looked h] at hpending
  rcases htold.changed hchanged with hneeded | ⟨hnot, hfullscreen⟩
  · rw [hneeds] at hneeded
    cases hneeded
  · have hlast : st.lastWindowed = true := by
      rw [hnot] at hchanged
      simpa using Ne.symm hchanged
    have hcurrent := htold.current hlast
    rw [← hpending, Mapped.fullscreen_looked, hfullscreen] at hcurrent
    cases hcurrent

/-- The values of the last configure once `send_pending_configure` ran. -/
theorem sendPendingConfigure_last (st : Dialogue T) :
    st.sendPendingConfigure.lastWindowed =
        (if st.mapped.sends then st.mapped.isPendingWindowedFullscreen else st.lastWindowed) ∧
      st.sendPendingConfigure.lastMaximized =
        if st.mapped.sends then st.mapped.isPendingMaximized else st.lastMaximized := by
  unfold lastWindowed Dialogue.lastMaximized Dialogue.sendPendingConfigure
  cases st.mapped.sends with
  | false => exact ⟨rfl, rfl⟩
  | true =>
    simp only [if_true, List.map_append, List.map_singleton]
    exact ⟨lastValue_concat, lastValue_concat⟩

/-- What is pending stays so. -/
theorem sendPendingConfigure_pending (st : Dialogue T) :
    st.sendPendingConfigure.mapped.isPendingWindowedFullscreen =
        st.mapped.isPendingWindowedFullscreen ∧
      st.sendPendingConfigure.mapped.isPendingMaximized = st.mapped.isPendingMaximized := by
  have hflags := st.mapped.flags_sendPendingConfigure
  split_ifs at hflags <;>
    simp only [Mapped.flags, Mapped.Flags.note, Mapped.Flags.mk.injEq] at hflags <;>
    exact ⟨hflags.2.1, hflags.2.2.2.2.1⟩

theorem Told.sendPendingConfigure_windowed (h : LawfulToplevel T) (htold : st.Told) :
    st.sendPendingConfigure.lastWindowed = st.mapped.isPendingWindowedFullscreen := by
  rw [st.sendPendingConfigure_last.1]
  split_ifs with hsends
  · rfl
  · by_contra hchanged
    exact hsends (htold.sends (Ne.symm hchanged) h)

theorem Told.sendPendingConfigure (h : LawfulToplevel T) (htold : st.Told) :
    st.sendPendingConfigure.Told := by
  have hlast := htold.sendPendingConfigure_windowed h
  have hpending := st.sendPendingConfigure_pending.1
  have hquiet := st.mapped.quiet_sendPendingConfigure h
  have hfullscreen : st.mapped.isPendingWindowedFullscreen = true →
      (currentServerState st.sendPendingConfigure.mapped.toplevel).fullscreen = true := by
    intro hwindowed
    change (currentServerState st.mapped.sendPendingConfigure.toplevel).fullscreen = true
    rw [Mapped.toplevel_sendPendingConfigure]
    split_ifs with hsends
    · rw [h.currentServerState_sendConfigure, Mapped.fullscreen_useWindowSize,
        Mapped.fullscreen_looked]
      exact htold.pending hwindowed
    · obtain ⟨-, hsame⟩ := st.mapped.sends_eq_false_iff.mp (by simpa using hsends)
      rw [Mapped.hasPendingChanges_eq_false_iff] at hsame
      rw [← hsame, Mapped.fullscreen_looked]
      exact htold.pending hwindowed
  refine ⟨fun hwindowed => ?_, fun hwindowed => ?_, fun hchanged => ?_⟩
  · change (pendingState st.mapped.sendPendingConfigure.toplevel).fullscreen = true
    rw [hquiet.2]
    exact hfullscreen (hpending.symm.trans hwindowed)
  · exact hfullscreen (hlast.symm.trans hwindowed)
  · exact absurd (hpending.trans hlast.symm) hchanged

theorem told_initial (hinitial : (dialogue T).initial st) : st.Told := by
  obtain ⟨window, toplevel, geometrySize, rules, sizeRules, hmapped, hsent, -, -⟩ := hinitial
  have hlast : st.lastWindowed = false := by
    unfold lastWindowed
    rw [hsent]
    rfl
  have hpending : st.mapped.isPendingWindowedFullscreen = false := by
    rw [hmapped]
    rfl
  refine ⟨fun hwindowed => ?_, fun hwindowed => ?_, fun hchanged => ?_⟩
  · rw [hpending] at hwindowed
    cases hwindowed
  · rw [hlast] at hwindowed
    cases hwindowed
  · exact absurd (hpending.trans hlast.symm) hchanged

/-! ### All interleavings -/

/-- A commit leaves the surface with the states that it was sent and that are pending. -/
def Answered (self : Dialogue T) (exchange : Exchange T) : Prop :=
  self.Allowed exchange ∧
    match exchange with
    | .commit _ toplevel _ =>
      currentServerState toplevel = currentServerState self.mapped.toplevel ∧
        pendingState toplevel = pendingState self.mapped.toplevel
    | _ => True

theorem Told.commit (htold : st.Told) {serial : ℕ} {toplevel : T} {geometrySize : ISize}
    (hallowed : st.Answered (.commit serial toplevel geometrySize)) :
    (st.commit serial toplevel geometrySize).Told := by
  obtain ⟨-, hcurrent, hpending⟩ := hallowed
  refine ⟨fun hwindowed => ?_, fun hwindowed => ?_, fun hchanged => ?_⟩
  · exact (congrArg ToplevelState.fullscreen hpending).trans (htold.pending hwindowed)
  · exact (congrArg ToplevelState.fullscreen hcurrent).trans (htold.current hwindowed)
  · rcases htold.changed hchanged with hneeds | ⟨hnot, hfullscreen⟩
    · exact .inl hneeds
    · exact .inr ⟨hnot, (congrArg ToplevelState.fullscreen hpending).trans hfullscreen⟩

theorem told (h : LawfulToplevel T) (hst : (dialogue T).ReachableBy Answered st) : st.Told := by
  refine hst.invariant (fun _ => told_initial) fun st exchange htold hallowed => ?_
  cases exchange with
  | request r => exact ensures_pure.mpr (htold.request h r)
  | sendPendingConfigure => exact ensures_pure.mpr (htold.sendPendingConfigure h)
  | commit serial toplevel geometrySize => exact ensures_pure.mpr (htold.commit hallowed)

/-- Configures and commits after some state, without further requests. -/
def Quietly (self : Dialogue T) (exchange : Exchange T) : Prop :=
  self.Answered exchange ∧ ∀ r, exchange ≠ .request r

end Dialogue

/-- A window from some state on. -/
def dialogueFrom (st : Dialogue T) : Machine (Dialogue T) (Exchange T) where
  initial s := s = st
  step := Dialogue.step

/-- A run that goes on. -/
theorem reachableBy_dialogueFrom {st st' : Dialogue T}
    (hst : (dialogue T).ReachableBy Dialogue.Answered st)
    (h : (dialogueFrom st).ReachableBy Dialogue.Quietly st') :
    (dialogue T).ReachableBy Dialogue.Answered st' := by
  induction h with
  | initial h =>
    obtain rfl := h
    exact hst
  | step _ exchange hallowed hstep ih => exact .step ih exchange hallowed.1 hstep

/-- Without requests nothing more is sent to a quiet window. -/
theorem dialogueFrom_quiet (h : LawfulToplevel T) {st st' : Dialogue T} (hquiet : st.mapped.Quiet)
    (hst' : (dialogueFrom st).ReachableBy Dialogue.Quietly st') :
    st'.mapped.Quiet ∧ st'.sent = st.sent ∧ st'.mappedMaximized = st.mappedMaximized ∧
      st'.mapped.isPendingWindowedFullscreen = st.mapped.isPendingWindowedFullscreen ∧
      st'.mapped.isPendingMaximized = st.mapped.isPendingMaximized := by
  refine hst'.invariant (P := fun s => s.mapped.Quiet ∧ s.sent = st.sent ∧
    s.mappedMaximized = st.mappedMaximized ∧
    s.mapped.isPendingWindowedFullscreen = st.mapped.isPendingWindowedFullscreen ∧
    s.mapped.isPendingMaximized = st.mapped.isPendingMaximized) ?_ ?_
  · rintro _ rfl
    exact ⟨hquiet, rfl, rfl, rfl, rfl⟩
  · rintro s exchange ⟨hs, hsent, hmapped, hwindowed, hmaximized⟩ hallowed
    cases exchange with
    | request r => exact absurd rfl (hallowed.2 r)
    | sendPendingConfigure =>
      refine ensures_pure.mpr ⟨s.mapped.quiet_sendPendingConfigure h, ?_, hmapped,
        s.sendPendingConfigure_pending.1.trans hwindowed,
        s.sendPendingConfigure_pending.2.trans hmaximized⟩
      unfold Dialogue.sendPendingConfigure
      simp only [hs.sends h, hsent]
      rfl
    | commit serial toplevel geometrySize =>
      obtain ⟨⟨-, hcurrent, hpending⟩, -⟩ := hallowed
      exact ensures_pure.mpr ⟨⟨hs.1, hpending.trans (hs.2.trans hcurrent.symm)⟩, hsent, hmapped,
        hwindowed, hmaximized⟩

/-- Whether `send_pending_configure` leaves the client with the pending maximized state. -/
theorem lastMaximized_sendPendingConfigure_iff {st : Dialogue T} {done todo : List Sent}
    (htracks : st.Tracks done todo) :
    st.sendPendingConfigure.lastMaximized = st.mapped.isPendingMaximized ↔ ¬st.mapped.Swallows := by
  rw [st.sendPendingConfigure_last.2]
  unfold Mapped.Swallows
  rw [htracks.lastMaximized]
  by_cases hsends : st.mapped.sends = true
  · rw [if_pos hsends]
    refine iff_of_true rfl fun hswallows => ?_
    rw [(st.mapped.sends_eq_false_iff).mpr hswallows.2] at hsends
    cases hsends
  · rw [if_neg hsends]
    have hnothing := st.mapped.sends_eq_false_iff.mp (by simpa using hsends)
    constructor
    · exact fun hsame hswallows => hswallows.1 hsame.symm
    · intro hkept
      by_contra hlost
      exact hkept ⟨Ne.symm hlost, hnothing⟩

/-- Once `send_pending_configure` ran after the last request, and the client committed
the last configure, the window has the pending modes exactly if that run of
`send_pending_configure` did not swallow the change. -/
theorem modes_settle_iff (hrefl : ∀ s, isNoOlderThan T s s = true) (h : LawfulToplevel T)
    {st st' : Dialogue T} (hst : (dialogue T).ReachableBy Dialogue.Answered st)
    (hsend : st.Answered .sendPendingConfigure)
    (hst' : (dialogueFrom st.sendPendingConfigure).ReachableBy Dialogue.Quietly st')
    (hcommitted : ∀ last, st'.sent.getLast? = some last → st'.lastCommit = some last.serial) :
    (st'.mapped.isMaximized = st'.mapped.isPendingMaximized ∧
      st'.mapped.isWindowedFullscreen = st'.mapped.isPendingWindowedFullscreen) ↔
      ¬st.mapped.Swallows := by
  have hsent : (dialogue T).ReachableBy Dialogue.Answered st.sendPendingConfigure :=
    .step hst .sendPendingConfigure hsend rfl
  have hmono : ∀ {s}, (dialogue T).ReachableBy Dialogue.Answered s →
      (dialogue T).ReachableBy Dialogue.Allowed s := fun hs => hs.mono fun _ _ hallowed => hallowed.1
  obtain ⟨done, todo, htracks⟩ := dialogue_tracks hrefl (hmono hst)
  obtain ⟨done', todo', htracks'⟩ :=
    dialogue_tracks hrefl (hmono (reachableBy_dialogueFrom hsent hst'))
  obtain ⟨hwindowed', hmaximized'⟩ := htracks'.settled hrefl hcommitted
  obtain ⟨-, hsame, hmapped, hpendingWindowed, hpendingMaximized⟩ :=
    dialogueFrom_quiet h (st.mapped.quiet_sendPendingConfigure h) hst'
  have hlastWindowed : st'.lastWindowed = st.sendPendingConfigure.lastWindowed := by
    unfold Dialogue.lastWindowed
    rw [hsame]
  have hlastMaximized : st'.lastMaximized = st.sendPendingConfigure.lastMaximized := by
    unfold Dialogue.lastMaximized
    rw [hsame, hmapped]
  have hwindowed : st'.mapped.isWindowedFullscreen = st'.mapped.isPendingWindowedFullscreen := by
    rw [hwindowed', hlastWindowed, (Dialogue.told h hst).sendPendingConfigure_windowed h,
      hpendingWindowed, st.sendPendingConfigure_pending.1]
  rw [← lastMaximized_sendPendingConfigure_iff htracks, hmaximized', hlastMaximized,
    hpendingMaximized, st.sendPendingConfigure_pending.2]
  exact ⟨And.left, fun hmaximized => ⟨hmaximized, hwindowed⟩⟩

/-! ### A lost request -/

namespace Sample

theorem surface_lawful : LawfulToplevel Surface where
  currentServerState_withPendingState _ _ := rfl
  serverPending_sendConfigure _ := rfl
  currentServerState_sendConfigure t := by
    change ((t.configures ++ [_]).getLast?.or t.acked).elim noState (·.state) = _
    rw [List.getLast?_concat]
    rfl

theorem surface_refl (s : ℕ) : isNoOlderThan Surface s s = true := by
  simp [isNoOlderThan]

/-- The window was asked to maximize, with a configure, and then to go fullscreen at the
same size. -/
def refused (second : SizingMode) : Dialogue Surface :=
  let first := { newDialogue with
    mapped := newDialogue.mapped.request (.size ⟨1920, 1080⟩ .maximized false) }.sendPendingConfigure
  { first with mapped := first.mapped.request (.size ⟨1920, 1080⟩ second false) }

theorem refused_reachable (second : SizingMode) :
    (dialogue Surface).ReachableBy Dialogue.Answered (refused second) := by
  refine .step (.step (.step (.initial newDialogue_initial)
    (.request (.size ⟨1920, 1080⟩ .maximized false)) ⟨trivial, trivial⟩ rfl)
    .sendPendingConfigure ⟨fun _ => ⟨fun configure hmem => ?_, fun last hlast => ?_⟩, trivial⟩ rfl)
    (.request (.size ⟨1920, 1080⟩ second false)) ⟨trivial, trivial⟩ rfl
  · cases hmem
  · cases hlast

/-- The client acks and commits the last configure. -/
def Surface.answer (self : Surface) : Surface :=
  { self with configures := [], acked := self.configures.getLast?.or self.acked }

theorem Surface.answer_current (self : Surface) : self.answer.current = self.current := by
  unfold Surface.current Surface.answer
  simp

/-- The client answers after `send_pending_configure`. -/
def answered (st : Dialogue Surface) (serial : ℕ) : Dialogue Surface :=
  st.sendPendingConfigure.commit serial st.sendPendingConfigure.mapped.toplevel.answer ⟨1920, 1080⟩

theorem answered_reachable (st : Dialogue Surface) {serial : ℕ}
    (hallowed : st.sendPendingConfigure.Allowed (.commit serial
      st.sendPendingConfigure.mapped.toplevel.answer ⟨1920, 1080⟩)) :
    (dialogueFrom st.sendPendingConfigure).ReachableBy Dialogue.Quietly (answered st serial) := by
  refine .step (.initial rfl) (.commit serial _ _) ⟨⟨hallowed, ?_, ?_⟩, by simp⟩ rfl
  · exact Surface.answer_current _
  · change (Option.getD _ (Surface.current _)) = Option.getD _ (Surface.current _)
    rw [Surface.answer_current]
    rfl

end Sample

open Sample in
/-- The window is maximized, and stays so, though fullscreen is what was asked for last. -/
theorem not_modes_settle : ∃ st st' : Dialogue Surface,
    (dialogue Surface).ReachableBy Dialogue.Answered st ∧ st.Answered .sendPendingConfigure ∧
    (dialogueFrom st.sendPendingConfigure).ReachableBy Dialogue.Quietly st' ∧
    (∀ last, st'.sent.getLast? = some last → st'.lastCommit = some last.serial) ∧
    st'.mapped.isMaximized = true ∧ st'.mapped.isPendingMaximized = false := by
  refine ⟨refused .fullscreen, answered (refused .fullscreen) 1, refused_reachable _, ?_,
    answered_reachable _ ⟨?_, .inl (by decide +kernel)⟩, ?_, by decide +kernel, by decide +kernel⟩
  · -- nothing is sent
    refine ⟨fun hsends => ?_, trivial⟩
    have hnot : (refused .fullscreen).mapped.sends = false := by decide +kernel
    rw [hnot] at hsends
    cases hsends
  · intro last hlast
    cases hlast
  · have hsent : (answered (refused .fullscreen) 1).sent.getLast? = some ⟨1, false, true⟩ := by
      decide +kernel
    intro last hlast
    obtain rfl := Option.some.inj (hsent.symm.trans hlast)
    rfl

open Sample in
/-- A window that is asked to return to normal does. -/
theorem modes_settle_iff_normal :
    (answered (refused .normal) 2).mapped.isMaximized =
        (answered (refused .normal) 2).mapped.isPendingMaximized ∧
      (answered (refused .normal) 2).mapped.isWindowedFullscreen =
        (answered (refused .normal) 2).mapped.isPendingWindowedFullscreen := by
  have hsend : (refused .normal).Answered .sendPendingConfigure := by
    refine ⟨fun _ => ⟨fun configure hmem => ?_, fun last hlast => ?_⟩, trivial⟩
    · have hsent : (refused .normal).sent = [⟨1, false, true⟩] := by decide +kernel
      rw [hsent] at hmem
      obtain rfl := List.mem_singleton.mp hmem
      exact ⟨by decide +kernel, by decide +kernel⟩
    · cases hlast
  refine (modes_settle_iff surface_refl surface_lawful (refused_reachable .normal) hsend
    (answered_reachable _ ⟨?_, .inl (by decide +kernel)⟩) ?_).mpr ?_
  · intro last hlast
    cases hlast
  · have hsent : (answered (refused .normal) 2).sent.getLast? = some ⟨2, false, false⟩ := by
      decide +kernel
    intro last hlast
    obtain rfl := Option.some.inj (hsent.symm.trans hlast)
    rfl
  · unfold Mapped.Swallows
    decide +kernel

end Sol
