import Sol.ModeRequests

/-!
# Sizes that are requested once

A floating window is asked for a size once.  The request waits for a configure and then for a commit
in response to it; the size that the client commits is the window's own, and later configures repeat
it.  A configure that is in flight with the size will do as well, but then what is pending is left
as it is, also where the window was asked to be maximized since.

* `Asked.Inv`: what the request establishes and every turn keeps;
* `requestSizeOnce_meets_iff`: a request is met unless a configure is in flight with the size while
  the window is pending to be maximized.
-/

namespace Sol

open Panicking ToplevelSurface

variable {T : Type} [ToplevelSurface T]

/-- The size that a configure asks for, 0 where the client is to choose. -/
def ToplevelState.askedSize (self : ToplevelState) : ISize := self.size.getD ⟨0, 0⟩

namespace Mapped

/-! ### Changes that request no size -/

def setNeedsConfigure (self : Mapped T) : Mapped T := { self with needsConfigure := true }

/-- `update_tiled_state`, once it is known whether to tile. -/
def updateTiledState (self : Mapped T) (shouldTile : Bool) : Mapped T :=
  { self with
    toplevel := withPendingState self.toplevel fun state => { state with tiled := shouldTile } }

/-- The client binds a decoration object, or chooses a mode. -/
def setDecorationMode (self : Mapped T) (mode : DecorationMode) : Mapped T :=
  { self with
    toplevel := withPendingState self.toplevel fun state =>
      { state with decorationMode := some mode } }

inductive Change
  | windowedFullscreen (value : Bool)
  | activated (active : Bool)
  | activeInColumn (active : Bool)
  | floating (floating : Bool)
  | bounds (bounds : ISize)
  | interactiveResize (data : Option InteractiveResizeData)
  | cancelInteractiveResize
  | tiled (shouldTile : Bool)
  | decorationMode (mode : DecorationMode)
  | needsConfigure

def change (self : Mapped T) : Change → Mapped T
  | .windowedFullscreen value => self.requestWindowedFullscreen value
  | .activated active => self.setActivated active
  | .activeInColumn active => self.setActiveInColumn active
  | .floating floating => self.setFloating floating
  | .bounds bounds => self.setBounds bounds
  | .interactiveResize data => self.setInteractiveResize data
  | .cancelInteractiveResize => self.cancelInteractiveResize
  | .tiled shouldTile => self.updateTiledState shouldTile
  | .decorationMode mode => self.setDecorationMode mode
  | .needsConfigure => self.setNeedsConfigure

/-- Neither maximized nor real fullscreen is pending. -/
def Plain (self : Mapped T) : Prop :=
  (pendingState self.toplevel).maximized = false ∧
    ((pendingState self.toplevel).fullscreen = true → self.isPendingWindowedFullscreen = true)

/-- The last configure, if the client has not committed it, and it asks for the size and for no
other mode. -/
def inFlight (self : Mapped T) (size : ISize) : Option ToplevelConfigure :=
  (lastUncommittedConfigure self.toplevel).filter fun configure =>
    configure.state.askedSize == size &&
      configure.state.fullscreen == self.isPendingWindowedFullscreen && !configure.state.maximized

end Mapped

/-! ### A window and its client -/

/-- A window since it was asked for a size once, with the configure that asks the client for it,
once there is one, and whether the client has committed in response to that. -/
structure Asked (T : Type) where
  mapped : Mapped T
  answer : Option ToplevelConfigure
  committed : Bool

/-- What happens to the window before another size is requested.  The client may change its surface
without a commit of its own, by an ack or through a subsurface. -/
inductive Turn (T : Type)
  | change (change : Mapped.Change)
  | sendPendingConfigure
  | surface (toplevel : T) (geometrySize : ISize)
  | commit (serial : ℕ) (toplevel : T) (geometrySize : ISize)

namespace Asked

/-- The first configure that is sent is the one that asks for the size. -/
def sendPendingConfigure (self : Asked T) : Asked T :=
  let mapped := self.mapped.sendPendingConfigure
  let sent : Option ToplevelConfigure :=
    if self.mapped.sends then some ⟨currentServerState mapped.toplevel, self.mapped.nextSerial⟩
    else none
  { self with mapped, answer := self.answer.or sent }

def commit (self : Asked T) (serial : ℕ) (toplevel : T) (geometrySize : ISize) : Asked T :=
  { self with
    mapped := { self.mapped with toplevel, geometrySize }.onCommit serial
    committed :=
      self.committed || self.answer.any fun configure => isNoOlderThan T serial configure.serial }

def step (self : Asked T) : Turn T → Outcome (Asked T)
  | .change change => pure { self with mapped := self.mapped.change change }
  | .sendPendingConfigure => pure self.sendPendingConfigure
  | .surface toplevel geometrySize =>
    pure { self with mapped := { self.mapped with toplevel, geometrySize } }
  | .commit serial toplevel geometrySize => pure (self.commit serial toplevel geometrySize)

/-- The client has no part in what is pending. -/
def Allowed (self : Asked T) : Turn T → Prop
  | .surface toplevel _ | .commit _ toplevel _ =>
    pendingState toplevel = pendingState self.mapped.toplevel
  | _ => True

/-- The request is met so far, and by the next configure. -/
structure Meets (size : ISize) (st : Asked T) : Prop where
  plain : st.mapped.Plain
  /-- The configure that was sent carries the size; -/
  sent : ∀ configure, st.answer = some configure → configure.state.askedSize = size
  /-- while there is none, the last configure does once what is pending is sent. -/
  next : st.answer = none →
    (currentServerState st.mapped.sendPendingConfigure.toplevel).askedSize = size
  own : st.committed = true → st.mapped.sends = true →
    (currentServerState st.mapped.sendPendingConfigure.toplevel).size = some st.mapped.geometrySize

end Asked

namespace Mapped

/-- The window is asked for the size. -/
def askOnce (self : Mapped T) (size : ISize) (animate : Bool) : Asked T where
  mapped := self.requestSizeOnce size animate
  answer := self.inFlight size
  committed := (self.inFlight size).any fun configure =>
    (committed self.toplevel).any fun current => isNoOlderThan T current.serial configure.serial

/-- A window from when it is asked for the size. -/
def sinceAsked (self : Mapped T) (size : ISize) (animate : Bool) : Machine (Asked T) (Turn T) where
  initial st := st = self.askOnce size animate
  step := Asked.step

/-! ### What is pending, and what is sent -/

variable {self : Mapped T} {size : ISize}

theorem alreadySent_eq (self : Mapped T) (size : ISize) :
    self.alreadySent size = (self.inFlight size).map (·.serial) := by
  unfold alreadySent inFlight
  cases lastUncommittedConfigure self.toplevel with
  | none => rfl
  | some configure =>
    rw [Option.filter_some, apply_ite (Option.map _)]
    rfl

theorem change_keeps (self : Mapped T) (c : Change) :
    (self.change c).sizeOnce = self.sizeOnce ∧
      (self.change c).isPendingMaximized = self.isPendingMaximized ∧
      (pendingState (self.change c).toplevel).size = (pendingState self.toplevel).size := by
  have hwith : ∀ f : ToplevelState → ToplevelState, (∀ state, (f state).size = state.size) →
      (pendingState (withPendingState self.toplevel f)).size =
        (pendingState self.toplevel).size := by
    intro f hf
    rw [pendingState_withPendingState]
    exact hf _
  cases c with
  | windowedFullscreen value =>
    unfold change requestWindowedFullscreen
    dsimp only
    split_ifs
    · exact ⟨rfl, rfl, rfl⟩
    · exact ⟨rfl, rfl, hwith _ fun _ => rfl⟩
    · exact ⟨rfl, rfl, hwith _ fun _ => rfl⟩
  | activated active => exact ⟨rfl, rfl, hwith _ fun _ => rfl⟩
  | activeInColumn active => exact ⟨rfl, rfl, rfl⟩
  | floating floating => exact ⟨rfl, rfl, rfl⟩
  | bounds bounds => exact ⟨rfl, rfl, hwith _ fun _ => rfl⟩
  | interactiveResize data => exact ⟨rfl, rfl, hwith _ fun _ => rfl⟩
  | cancelInteractiveResize => exact ⟨rfl, rfl, hwith _ fun _ => rfl⟩
  | tiled shouldTile => exact ⟨rfl, rfl, hwith _ fun _ => rfl⟩
  | decorationMode mode => exact ⟨rfl, rfl, hwith _ fun _ => rfl⟩
  | needsConfigure => exact ⟨rfl, rfl, rfl⟩

/-- Without a pending maximized state, no change brings one back. -/
theorem Plain.change (h : self.Plain) (hmaximized : self.isPendingMaximized = false) (c : Change) :
    (self.change c).Plain := by
  have hwith : ∀ f : ToplevelState → ToplevelState,
      (∀ state, (f state).maximized = state.maximized ∧ (f state).fullscreen = state.fullscreen) →
      (pendingState (withPendingState self.toplevel f)).maximized = false ∧
        ((pendingState (withPendingState self.toplevel f)).fullscreen = true →
          self.isPendingWindowedFullscreen = true) := by
    intro f hf
    rw [pendingState_withPendingState, (hf _).1, (hf _).2]
    exact h
  cases c with
  | windowedFullscreen value =>
    change (self.requestWindowedFullscreen value).Plain
    unfold requestWindowedFullscreen
    by_cases hsame : self.isPendingWindowedFullscreen = value
    · rw [if_pos hsame]
      exact h
    · rw [if_neg hsame]
      unfold Plain
      dsimp only
      rw [pendingState_withPendingState]
      cases value with
      | true => exact ⟨rfl, fun _ => rfl⟩
      | false =>
        refine ⟨?_, fun hfullscreen => absurd hfullscreen Bool.false_ne_true⟩
        exact congrArg₂ or h.1 hmaximized
  | activated active => exact hwith _ fun _ => ⟨rfl, rfl⟩
  | activeInColumn active => exact h
  | floating floating => exact h
  | bounds bounds => exact hwith _ fun _ => ⟨rfl, rfl⟩
  | interactiveResize data => exact hwith _ fun _ => ⟨rfl, rfl⟩
  | cancelInteractiveResize => exact hwith _ fun _ => ⟨rfl, rfl⟩
  | tiled shouldTile => exact hwith _ fun _ => ⟨rfl, rfl⟩
  | decorationMode mode => exact hwith _ fun _ => ⟨rfl, rfl⟩
  | needsConfigure => exact h

/-- `send_pending_configure` only looks at the size in another way. -/
theorem looked_eq (self : Mapped T) : ∃ size,
    pendingState self.looked.toplevel = { pendingState self.toplevel with size } ∧
      self.looked.sizeOnce = self.sizeOnce ∧ self.looked.geometrySize = self.geometrySize ∧
      (self.sizeOnce ≠ some .useWindowSize → self.looked = self) := by
  unfold looked keepWindowSize
  split_ifs with hneeds hwindow
  · exact ⟨_, rfl, rfl, rfl, fun _ => rfl⟩
  · exact ⟨_, pendingState_withPendingState _ _, rfl, rfl, fun hne => absurd hwindow.1 hne⟩
  · exact ⟨_, rfl, rfl, rfl, fun _ => rfl⟩

/-- What was pending is sent, but for the size of a window that uses its own. -/
theorem currentServerState_sendPendingConfigure (h : LawfulToplevel T) (self : Mapped T) :
    ∃ size, currentServerState self.sendPendingConfigure.toplevel =
        { pendingState self.toplevel with size } ∧
      (self.sizeOnce ≠ some .useWindowSize → size = (pendingState self.toplevel).size) ∧
      (self.sizeOnce = some .useWindowSize → self.sends = true →
        size = some self.geometrySize) := by
  obtain ⟨size, hlooked, honce, hgeometry, hsame⟩ := self.looked_eq
  have htoplevel := self.toplevel_sendPendingConfigure
  by_cases hsends : self.sends = true
  · rw [if_pos hsends] at htoplevel
    rw [htoplevel, h.currentServerState_sendConfigure]
    unfold useWindowSize
    rw [honce]
    by_cases hwindow : self.sizeOnce = some .useWindowSize
    · rw [if_pos hwindow, pendingState_withPendingState, hlooked, hgeometry]
      exact ⟨_, rfl, fun hne => absurd hwindow hne, fun _ _ => rfl⟩
    · rw [if_neg hwindow, hsame hwindow]
      exact ⟨_, rfl, fun _ => rfl, fun heq => absurd heq hwindow⟩
  · rw [if_neg hsends] at htoplevel
    have hquiet := (self.quiet_sendPendingConfigure h).2
    rw [htoplevel] at hquiet
    rw [htoplevel, ← hquiet]
    refine ⟨size, hlooked, fun hne => ?_, fun _ hsent => absurd hsent hsends⟩
    rw [hsame hne] at hlooked
    exact (congrArg ToplevelState.size hlooked).symm

theorem pending_sendPendingConfigure (self : Mapped T) :
    self.sendPendingConfigure.isPendingMaximized = self.isPendingMaximized ∧
      self.sendPendingConfigure.isPendingWindowedFullscreen =
        self.isPendingWindowedFullscreen := by
  have hflags := self.flags_sendPendingConfigure
  split_ifs at hflags <;>
    simp only [flags, Flags.note, Flags.mk.injEq] at hflags <;>
    exact ⟨hflags.2.2.2.2.1, hflags.2.1⟩

/-- The first configure is the one to wait for. -/
theorem sizeOnce_sendPendingConfigure (self : Mapped T) : self.sendPendingConfigure.sizeOnce =
    if self.sizeOnce = some .waitingForConfigure ∧ self.sends = true then
      some (.waitingForCommit self.nextSerial)
    else self.sizeOnce := by
  obtain ⟨-, -, honce, -⟩ := self.looked_eq
  have hwindow : self.looked.useWindowSize.sizeOnce = self.sizeOnce := by
    unfold useWindowSize
    split_ifs <;> exact honce
  have hsent : self.sendPendingConfigure.sizeOnce =
      (if self.sends then self.looked.sendConfigure else self.looked).sizeOnce := by
    unfold sendPendingConfigure sends looked
    dsimp only
    split_ifs <;> rfl
  have hconfigure : self.looked.sendConfigure.sizeOnce =
      if self.looked.useWindowSize.sizeOnce = some .waitingForConfigure then
        some (.waitingForCommit self.nextSerial)
      else self.looked.useWindowSize.sizeOnce := rfl
  rw [hsent]
  by_cases hsends : self.sends = true
  · rw [if_pos hsends, hconfigure, hwindow]
    simp only [hsends, and_true]
  · rw [if_neg hsends, if_neg (mt And.right hsends)]
    exact honce

/-! ### The request -/

theorem requestSizeOnce_of_none (h : self.inFlight size = none) (animate : Bool) :
    (self.requestSizeOnce size animate).Plain ∧
      (self.requestSizeOnce size animate).isPendingMaximized = false ∧
      (self.requestSizeOnce size animate).sizeOnce = some .waitingForConfigure ∧
      (pendingState (self.requestSizeOnce size animate).toplevel).size = some size := by
  have hnone : (self.setPendingMaximized false).alreadySent size = none := by
    have hsame : (self.setPendingMaximized false).alreadySent size = self.alreadySent size := rfl
    rw [hsame, alreadySent_eq, h]
    rfl
  unfold requestSizeOnce Plain
  simp only [hnone, pendingState_withPendingState]
  refine ⟨⟨trivial, fun hfullscreen => ?_⟩, rfl, trivial, trivial⟩
  exact (Bool.and_eq_true_iff.mp hfullscreen).2

/-- With a configure in flight, what is pending is left as it is. -/
theorem requestSizeOnce_of_some {configure : ToplevelConfigure}
    (h : self.inFlight size = some configure) (animate : Bool) :
    (self.requestSizeOnce size animate).toplevel = self.toplevel ∧
      (self.requestSizeOnce size animate).isPendingWindowedFullscreen =
        self.isPendingWindowedFullscreen ∧
      (self.requestSizeOnce size animate).isPendingMaximized = false ∧
      (self.requestSizeOnce size animate).sizeOnce =
        if (committed self.toplevel).all fun current =>
          isNoOlderThan T current.serial configure.serial
        then some .useWindowSize else some (.waitingForCommit configure.serial) := by
  have hsome : (self.setPendingMaximized false).alreadySent size = some configure.serial := by
    have hsame : (self.setPendingMaximized false).alreadySent size = self.alreadySent size := rfl
    rw [hsame, alreadySent_eq, h]
    rfl
  have htoplevel : (self.setPendingMaximized false).toplevel = self.toplevel := rfl
  unfold requestSizeOnce
  simp only [hsome, htoplevel]
  cases committed self.toplevel with
  | none => exact ⟨rfl, rfl, rfl, rfl⟩
  | some current =>
    dsimp only [Option.all_some]
    split_ifs <;> exact ⟨rfl, rfl, rfl, rfl⟩

end Mapped

/-! ### Until the next request -/

namespace Asked

variable {st : Asked T} {size : ISize}

/-- Where the request stands. -/
structure Inv (size : ISize) (st : Asked T) : Prop where
  plain : st.mapped.Plain
  pendingMaximized : st.mapped.isPendingMaximized = false
  waiting : st.answer = none → st.mapped.sizeOnce = some .waitingForConfigure ∧
    (pendingState st.mapped.toplevel).size = some size
  sent : ∀ configure, st.answer = some configure → configure.state.askedSize = size ∧
    (st.mapped.sizeOnce = some (.waitingForCommit configure.serial) ∨
      st.mapped.sizeOnce = some .useWindowSize)
  committed : st.committed = true → st.mapped.sizeOnce = some .useWindowSize

/-- The request establishes the invariant, unless other modes are pending. -/
theorem inv_askOnce {mapped : Mapped T} (h : mapped.inFlight size = none ∨ mapped.Plain)
    (animate : Bool) : (mapped.askOnce size animate).Inv size := by
  cases hflight : mapped.inFlight size with
  | none =>
    obtain ⟨hplain, hmaximized, honce, hsize⟩ :=
      Mapped.requestSizeOnce_of_none hflight animate
    refine ⟨hplain, hmaximized, fun _ => ⟨honce, hsize⟩, fun configure hanswer => ?_,
      fun hcommitted => ?_⟩
    · exact absurd (hflight.symm.trans hanswer) nofun
    · unfold Mapped.askOnce at hcommitted
      rw [hflight] at hcommitted
      cases hcommitted
  | some configure =>
    obtain ⟨htoplevel, hwindowed, hmaximized, honce⟩ :=
      Mapped.requestSizeOnce_of_some hflight animate
    have hplain := h.resolve_left (by simp [hflight])
    refine ⟨?_, hmaximized, fun hanswer => ?_, fun sent hanswer => ⟨?_, ?_⟩, fun hcommitted => ?_⟩
    · change (mapped.requestSizeOnce size animate).Plain
      unfold Mapped.Plain
      rw [htoplevel, hwindowed]
      exact hplain
    · exact absurd (hflight.symm.trans hanswer) nofun
    · have hfits := (Option.filter_eq_some_iff.mp hanswer).2
      simp only [Bool.and_eq_true, beq_iff_eq] at hfits
      exact hfits.1.1
    · obtain rfl := Option.some.inj (hflight.symm.trans hanswer)
      change (mapped.requestSizeOnce size animate).sizeOnce = _ ∨
        (mapped.requestSizeOnce size animate).sizeOnce = _
      rw [honce]
      split_ifs
      · exact .inr rfl
      · exact .inl rfl
    · unfold Mapped.askOnce at hcommitted
      rw [hflight] at hcommitted
      refine honce.trans (if_pos ?_)
      cases hcurrent : ToplevelSurface.committed mapped.toplevel with
      | none => rfl
      | some current =>
        rw [hcurrent] at hcommitted
        exact hcommitted

theorem Inv.meets (hinv : st.Inv size) (h : LawfulToplevel T) : st.Meets size := by
  obtain ⟨sent, hsent, hpending, hown⟩ := st.mapped.currentServerState_sendPendingConfigure h
  refine ⟨hinv.plain, fun configure hanswer => (hinv.sent configure hanswer).1,
    fun hanswer => ?_, fun hcommitted hsends => ?_⟩
  · obtain ⟨honce, hsize⟩ := hinv.waiting hanswer
    rw [hsent, hpending (by simp [honce]), ToplevelState.askedSize, hsize]
    rfl
  · rw [hsent]
    exact hown (hinv.committed hcommitted) hsends

theorem Inv.change (hinv : st.Inv size) (c : Mapped.Change) :
    Inv size { st with mapped := st.mapped.change c } := by
  obtain ⟨honce, hmaximized, hsize⟩ := st.mapped.change_keeps c
  refine ⟨hinv.plain.change hinv.pendingMaximized c, hmaximized.trans hinv.pendingMaximized,
    fun hanswer => ?_, fun configure hanswer => ?_, fun hcommitted => ?_⟩
  · exact ⟨honce.trans (hinv.waiting hanswer).1, hsize.trans (hinv.waiting hanswer).2⟩
  · have hstands := hinv.sent configure hanswer
    rw [← honce] at hstands
    exact hstands
  · exact honce.trans (hinv.committed hcommitted)

/-- The configure that is sent first carries the size, and is waited for. -/
theorem Inv.sendPendingConfigure (hinv : st.Inv size) (h : LawfulToplevel T) :
    st.sendPendingConfigure.Inv size := by
  obtain ⟨sent, hsent, hkept, -⟩ := st.mapped.currentServerState_sendPendingConfigure h
  obtain ⟨hmaximized, hwindowed⟩ := st.mapped.pending_sendPendingConfigure
  have hpending := (st.mapped.quiet_sendPendingConfigure h).2.trans hsent
  have honce := st.mapped.sizeOnce_sendPendingConfigure
  have hplain : st.mapped.sendPendingConfigure.Plain := by
    unfold Mapped.Plain
    rw [hpending, hwindowed]
    exact hinv.plain
  have hcommitted : st.committed = true →
      st.mapped.sendPendingConfigure.sizeOnce = some .useWindowSize := by
    intro hcommitted
    have hown := hinv.committed hcommitted
    rw [honce, hown, if_neg (by simp)]
  refine ⟨hplain, hmaximized.trans hinv.pendingMaximized, ?_, ?_, hcommitted⟩
  · intro hanswer
    obtain ⟨hnone, hnothing⟩ := Option.or_eq_none_iff.mp hanswer
    obtain ⟨hwaiting, hsize⟩ := hinv.waiting hnone
    have hsends : ¬st.mapped.sends = true := by
      intro hsends
      rw [if_pos hsends] at hnothing
      cases hnothing
    constructor
    · exact honce.trans ((if_neg (mt And.right hsends)).trans hwaiting)
    · refine (congrArg ToplevelState.size hpending).trans ?_
      exact (hkept (by simp [hwaiting])).trans hsize
  · intro configure hanswer
    obtain hold | ⟨hnone, hnew⟩ := Option.or_eq_some_iff.mp hanswer
    · obtain ⟨hcarries, hstands⟩ := hinv.sent configure hold
      refine ⟨hcarries, ?_⟩
      have hsame : st.mapped.sendPendingConfigure.sizeOnce = st.mapped.sizeOnce := by
        rw [honce, if_neg]
        rintro ⟨hwaiting, -⟩
        rw [hwaiting] at hstands
        simp at hstands
      exact hsame.symm ▸ hstands
    · obtain ⟨hwaiting, hsize⟩ := hinv.waiting hnone
      have hsends : st.mapped.sends = true := by
        by_contra hsends
        rw [if_neg hsends] at hnew
        cases hnew
      rw [if_pos hsends] at hnew
      obtain rfl := Option.some.inj hnew
      constructor
      · change ToplevelState.askedSize (currentServerState _) = size
        rw [hsent, hkept (by simp [hwaiting]), ToplevelState.askedSize, hsize]
        rfl
      · exact .inl (honce.trans (if_pos ⟨hwaiting, hsends⟩))

theorem Inv.surface (hinv : st.Inv size) {toplevel : T} (geometrySize : ISize)
    (hpending : pendingState toplevel = pendingState st.mapped.toplevel) :
    Inv size { st with mapped := { st.mapped with toplevel, geometrySize } } := by
  refine ⟨?_, hinv.pendingMaximized, fun hanswer => ?_, hinv.sent, hinv.committed⟩
  · unfold Mapped.Plain
    dsimp only
    rw [hpending]
    exact hinv.plain
  · obtain ⟨hwaiting, hsize⟩ := hinv.waiting hanswer
    exact ⟨hwaiting, (congrArg ToplevelState.size hpending).trans hsize⟩

/-- A commit in response to the configure makes the size the window's own. -/
theorem Inv.commit (hinv : st.Inv size) (serial : ℕ) {toplevel : T} (geometrySize : ISize)
    (hpending : pendingState toplevel = pendingState st.mapped.toplevel) :
    (st.commit serial toplevel geometrySize).Inv size := by
  have hsurface := hinv.surface geometrySize hpending
  have hown : st.mapped.sizeOnce = some .useWindowSize →
      (st.commit serial toplevel geometrySize).mapped.sizeOnce = some .useWindowSize := by
    intro honce
    unfold Asked.commit Mapped.onCommit
    simp only [honce]
  refine ⟨hsurface.plain, hinv.pendingMaximized, fun hanswer => ?_, fun configure hanswer => ?_,
    fun hcommitted => ?_⟩
  · obtain ⟨hwaiting, hsize⟩ := hsurface.waiting hanswer
    refine ⟨?_, hsize⟩
    unfold Asked.commit Mapped.onCommit
    dsimp only at hwaiting ⊢
    rw [hwaiting]
  · obtain ⟨hcarries, hwaiting | honce⟩ := hinv.sent configure hanswer
    · refine ⟨hcarries, ?_⟩
      unfold Asked.commit Mapped.onCommit
      simp only [hwaiting]
      split_ifs
      · exact .inr rfl
      · exact .inl rfl
    · exact ⟨hcarries, .inr (hown honce)⟩
  · obtain hbefore | hnow := Bool.or_eq_true_iff.mp hcommitted
    · exact hown (hinv.committed hbefore)
    · cases hanswer : st.answer with
      | none =>
        rw [hanswer] at hnow
        cases hnow
      | some configure =>
        rw [hanswer, Option.any_some] at hnow
        obtain ⟨-, hwaiting | honce⟩ := hinv.sent configure hanswer
        · unfold Asked.commit Mapped.onCommit
          simp only [hwaiting]
          exact if_pos hnow
        · exact hown honce

theorem Inv.step (hinv : st.Inv size) (h : LawfulToplevel T) (turn : Turn T)
    (hallowed : st.Allowed turn) : Ensures (st.step turn) (Inv size) := by
  cases turn with
  | change c => exact ensures_pure.mpr (hinv.change c)
  | sendPendingConfigure => exact ensures_pure.mpr (hinv.sendPendingConfigure h)
  | surface toplevel geometrySize => exact ensures_pure.mpr (hinv.surface geometrySize hallowed)
  | commit serial toplevel geometrySize =>
    exact ensures_pure.mpr (hinv.commit serial geometrySize hallowed)

end Asked

/-- Until the next request, whatever else changes, is sent and is committed, a window that is asked
for a size once has no maximized or real fullscreen state pending, is sent a configure with that
size and then only ones with its own, exactly if none such is in flight or no such state is pending
by then. -/
theorem requestSizeOnce_meets_iff (h : LawfulToplevel T) (self : Mapped T) (size : ISize)
    (animate : Bool) :
    (∀ st, (self.sinceAsked size animate).ReachableBy Asked.Allowed st → st.Meets size) ↔
      (self.inFlight size = none ∨ self.Plain) := by
  constructor
  · intro hmeets
    cases hflight : self.inFlight size with
    | none => exact .inl rfl
    | some configure =>
      have hplain := (hmeets _ (.initial rfl)).plain
      obtain ⟨htoplevel, hwindowed, -⟩ :=
        Mapped.requestSizeOnce_of_some hflight animate
      change (self.requestSizeOnce size animate).Plain at hplain
      unfold Mapped.Plain at hplain
      rw [htoplevel, hwindowed] at hplain
      exact .inr hplain
  · intro hcondition st hst
    have hinv : st.Inv size := by
      refine hst.invariant ?_ fun st turn hinv hallowed => hinv.step h turn hallowed
      rintro _ rfl
      exact Asked.inv_askOnce hcondition animate
    exact hinv.meets h

/-! ### A window that stays maximized -/

namespace Sample

/-- A window that committed its first configure. -/
def configured : Mapped Surface :=
  { mapped with toplevel := ⟨none, [], some ⟨{ noState with size := some ⟨100, 100⟩ }, 1⟩⟩ }

/-- It was asked for a size, with a configure, and then for another, which may be that of a
maximized window. -/
def crossed (mode : SizingMode) : Mapped Surface :=
  (configured.requestSize ⟨800, 600⟩ .normal false).sendPendingConfigure.requestSize ⟨1920, 1050⟩
    mode false

end Sample

open Sample in
/-- The window is asked once for the size in flight, and is then sent a configure to be
maximized. -/
theorem not_requestSizeOnce_meets :
    ¬(∀ st, ((crossed .maximized).sinceAsked ⟨800, 600⟩ false).ReachableBy Asked.Allowed st →
      st.Meets ⟨800, 600⟩) ∧
    let sent := ((crossed .maximized).askOnce ⟨800, 600⟩ false).sendPendingConfigure
    (currentServerState sent.mapped.toplevel).maximized = true ∧
      (currentServerState sent.mapped.toplevel).size = some ⟨1920, 1050⟩ := by
  refine ⟨fun hmeets => ?_, by decide +kernel, by decide +kernel⟩
  have hplain := (hmeets _ (.initial rfl)).plain.1
  exact absurd hplain (by decide +kernel)

open Sample in
/-- A window that is not asked to be maximized in between. -/
theorem requestSizeOnce_meets_crossed :
    ((crossed .normal).askOnce ⟨800, 600⟩ false).sendPendingConfigure.Meets ⟨800, 600⟩ :=
  (requestSizeOnce_meets_iff surface_lawful (crossed .normal) ⟨800, 600⟩ false).mpr
    (.inr ⟨by decide +kernel, by decide +kernel⟩) _
    (.step (.initial rfl) .sendPendingConfigure trivial rfl)

end Sol
