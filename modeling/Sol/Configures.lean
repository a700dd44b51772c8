import Sol.ChangeLog
import Sol.Machine
import Sol.Mapped

/-!
# Configures and commits

The compositor and the client of a window are not in step.  A request changes what is
pending, a configure may be sent for several requests at once, and the client commits
in response to some configures and skips others.  A mapped window logs which configures
changed its windowed fullscreen and maximized state, and takes them over one commit
after another.

* `Tracks`: the logs are those of the configures that are not committed;
* `commit_flags`: what a commit takes over.
-/

namespace Sol

open Panicking ChangeLog

variable {T : Type} [ToplevelSurface T]

/-! ### A new window -/

namespace Mapped

open ToplevelSurface

/-- `Mapped::new`. -/
def new (window : ℕ) (toplevel : T) (geometrySize : ISize) (rules : WindowRules)
    (sizeRules : SizeRules) : Mapped T where
  window := window
  toplevel := toplevel
  geometrySize := geometrySize
  rules := rules
  sizeRules := sizeRules
  needToRecomputeRules := false
  needsConfigure := false
  needsFrameCallback := false
  isActiveInColumn := true
  isFloating := false
  animateNextConfigure := false
  animateSerials := []
  sizeOnce := none
  interactiveResize := none
  isWindowedFullscreen := false
  isPendingWindowedFullscreen := false
  uncommittedWindowedFullscreen := []
  isMaximized := ((committed toplevel).elim SizingMode.normal fun configure =>
    modeOf configure.state).isMaximized
  isPendingMaximized := (modeOf (pendingState toplevel)).isMaximized
  uncommittedMaximized := []

/-- With `UseWindowSize`, a configure is sent with the current size of the window. -/
def useWindowSize (self : Mapped T) : Mapped T :=
  if self.sizeOnce = some .useWindowSize then
    { self with
      toplevel := withPendingState self.toplevel fun state =>
        { state with size := some self.geometrySize } }
  else self

/-- The window as `send_pending_configure` looks at it for changes. -/
def looked (self : Mapped T) : Mapped T := if self.needsConfigure then self else self.keepWindowSize

/-- Whether `send_pending_configure` sends a configure. -/
def sends (self : Mapped T) : Bool := self.looked.needsConfigure || self.looked.hasPendingChanges

/-- The serial of the configure that `send_pending_configure` sends. -/
def nextSerial (self : Mapped T) : ℕ :=
  (ToplevelSurface.sendConfigure self.looked.useWindowSize.toplevel).1

end Mapped

/-! ### The window and its client -/

/-- A configure that was sent, with what was pending then. -/
structure Sent where
  serial : ℕ
  windowedFullscreen : Bool
  maximized : Bool
  deriving DecidableEq, Repr

/-- A window with the configures that it was sent and the serial of the last commit;
`mappedMaximized` is whether it was maximized when it was mapped. -/
structure Dialogue (T : Type) where
  mapped : Mapped T
  sent : List Sent
  lastCommit : Option ℕ
  mappedMaximized : Bool

/-- What the layout asks of the window, and what its client does: a commit comes with
the surface and the size that it leaves. -/
inductive Exchange (T : Type)
  | request (request : Mapped.Request)
  | sendPendingConfigure
  | commit (serial : ℕ) (toplevel : T) (geometrySize : ISize)

/-- The first serial is more recent than the second. -/
def Newer (T : Type) [ToplevelSurface T] (a b : ℕ) : Prop :=
  ToplevelSurface.isNoOlderThan T a b = true ∧ ToplevelSurface.isNoOlderThan T b a = false

namespace Dialogue

def commit (self : Dialogue T) (serial : ℕ) (toplevel : T) (geometrySize : ISize) : Dialogue T :=
  { self with
    mapped := { self.mapped with toplevel, geometrySize }.onCommit serial
    lastCommit := some serial }

def sendPendingConfigure (self : Dialogue T) : Dialogue T :=
  { self with
    mapped := self.mapped.sendPendingConfigure
    sent :=
      if self.mapped.sends then
        self.sent ++ [{
          serial := self.mapped.nextSerial
          windowedFullscreen := self.mapped.isPendingWindowedFullscreen
          maximized := self.mapped.isPendingMaximized }]
      else self.sent }

def step (self : Dialogue T) : Exchange T → Outcome (Dialogue T)
  | .request request => pure { self with mapped := self.mapped.request request }
  | .sendPendingConfigure => pure self.sendPendingConfigure
  | .commit serial toplevel geometrySize => pure (self.commit serial toplevel geometrySize)

/-- Serials increase.  A client commits in response to a configure that it was sent, or
to one from before the window was mapped, and never goes back. -/
def Allowed (self : Dialogue T) : Exchange T → Prop
  | .request _ => True
  | .sendPendingConfigure =>
    self.mapped.sends = true →
      (∀ configure ∈ self.sent, Newer T self.mapped.nextSerial configure.serial) ∧
        ∀ last, self.lastCommit = some last → Newer T self.mapped.nextSerial last
  | .commit serial _ _ =>
    (∀ last, self.lastCommit = some last → ToplevelSurface.isNoOlderThan T serial last = true) ∧
      (serial ∈ self.sent.map Sent.serial ∨
        ∀ configure ∈ self.sent, ToplevelSurface.isNoOlderThan T serial configure.serial = false)

end Dialogue

/-- A window from when it is mapped. -/
def dialogue (T : Type) [ToplevelSurface T] : Machine (Dialogue T) (Exchange T) where
  initial st := ∃ window toplevel geometrySize rules sizeRules,
    st.mapped = Mapped.new window toplevel geometrySize rules sizeRules ∧ st.sent = [] ∧
      st.lastCommit = none ∧ st.mappedMaximized = st.mapped.isMaximized
  step := Dialogue.step

/-! ### The logs -/

namespace Mapped

theorem noteSent_changes (c v : Bool) (l : List (ℕ × Bool)) (serial : ℕ) :
    noteSent (changes c l) c v serial = changes c (l ++ [(serial, v)]) := by
  rw [changes_concat]
  unfold noteSent
  simp only [bne_iff_ne]
  rfl

/-- A commit of a configure takes the log up to it. -/
theorem commitSent_changes {serial : ℕ} (l l' : List (ℕ × Bool)) (c : Bool)
    (hl : ∀ a ∈ l, ToplevelSurface.isNoOlderThan T serial a.1 = true)
    (hl' : ∀ a ∈ l', ToplevelSurface.isNoOlderThan T serial a.1 = false) :
    commitSent T serial (changes c (l ++ l')) c =
      (lastValue c l, changes (lastValue c l) l') := by
  have hdone : ((changes c (l ++ l')).partition fun a =>
      ToplevelSurface.isNoOlderThan T serial a.1) =
      (changes c l, changes (lastValue c l) l') := by
    rw [changes_append, List.partition_eq_filter_filter, List.filter_append, List.filter_append]
    have htaken : ∀ a ∈ changes c l, ToplevelSurface.isNoOlderThan T serial a.1 = true :=
      fun a ha => hl a ((changes_sublist c l).subset ha)
    have hleft : ∀ a ∈ changes (lastValue c l) l',
        ToplevelSurface.isNoOlderThan T serial a.1 = false :=
      fun a ha => hl' a ((changes_sublist _ l').subset ha)
    rw [List.filter_eq_self.mpr htaken, List.filter_eq_nil_iff.mpr (by simpa using hleft),
      List.filter_eq_nil_iff.mpr (by simpa using htaken),
      List.filter_eq_self.mpr (by simpa using hleft)]
    simp
  unfold commitSent
  rw [hdone]
  exact congrArg (·, _) (lastValue_changes c l)

/-- What a mapped window knows of its two logged values. -/
structure Flags where
  isWindowedFullscreen : Bool
  isPendingWindowedFullscreen : Bool
  uncommittedWindowedFullscreen : List (ℕ × Bool)
  isMaximized : Bool
  isPendingMaximized : Bool
  uncommittedMaximized : List (ℕ × Bool)

def flags (self : Mapped T) : Flags where
  isWindowedFullscreen := self.isWindowedFullscreen
  isPendingWindowedFullscreen := self.isPendingWindowedFullscreen
  uncommittedWindowedFullscreen := self.uncommittedWindowedFullscreen
  isMaximized := self.isMaximized
  isPendingMaximized := self.isPendingMaximized
  uncommittedMaximized := self.uncommittedMaximized

/-- The flags once a configure was sent. -/
def Flags.note (self : Flags) (serial : ℕ) : Flags :=
  { self with
    uncommittedWindowedFullscreen := noteSent self.uncommittedWindowedFullscreen
      self.isWindowedFullscreen self.isPendingWindowedFullscreen serial
    uncommittedMaximized :=
      noteSent self.uncommittedMaximized self.isMaximized self.isPendingMaximized serial }

theorem flags_looked (self : Mapped T) : self.looked.flags = self.flags := by
  unfold looked keepWindowSize
  split_ifs <;> rfl

theorem flags_useWindowSize (self : Mapped T) : self.useWindowSize.flags = self.flags := by
  unfold useWindowSize
  split_ifs <;> rfl

theorem sendConfigure_eq (self : Mapped T) : self.sendConfigure.flags =
    self.useWindowSize.flags.note
      (ToplevelSurface.sendConfigure self.useWindowSize.toplevel).1 := rfl

theorem flags_sendPendingConfigure (self : Mapped T) : self.sendPendingConfigure.flags =
    if self.sends then self.flags.note self.nextSerial else self.flags := by
  have hflags : self.sendPendingConfigure.flags =
      (if self.sends then self.looked.sendConfigure else self.looked).flags := by
    unfold sendPendingConfigure sends looked
    dsimp only
    split_ifs <;> rfl
  rw [hflags]
  split_ifs
  · rw [sendConfigure_eq, flags_useWindowSize, flags_looked]
    rfl
  · exact self.flags_looked

theorem flags_onCommit (self : Mapped T) (serial : ℕ) : (self.onCommit serial).flags =
    { self.flags with
      isWindowedFullscreen := (commitSent T serial self.uncommittedWindowedFullscreen
        self.isWindowedFullscreen).1
      uncommittedWindowedFullscreen := (commitSent T serial self.uncommittedWindowedFullscreen
        self.isWindowedFullscreen).2
      isMaximized := (commitSent T serial self.uncommittedMaximized self.isMaximized).1
      uncommittedMaximized :=
        (commitSent T serial self.uncommittedMaximized self.isMaximized).2 } := rfl

/-- Two windows that took over the same configures. -/
structure SameCommitted (a b : Mapped T) : Prop where
  isWindowedFullscreen : a.isWindowedFullscreen = b.isWindowedFullscreen
  uncommittedWindowedFullscreen : a.uncommittedWindowedFullscreen = b.uncommittedWindowedFullscreen
  isMaximized : a.isMaximized = b.isMaximized
  uncommittedMaximized : a.uncommittedMaximized = b.uncommittedMaximized

/-- Requests change what is pending. -/
theorem sameCommitted_request (self : Mapped T) (r : Request) :
    SameCommitted (self.request r) self := by
  cases r with
  | size size mode animate =>
    have hreset : SameCommitted (self.resetWindowed mode) self := by
      unfold resetWindowed
      split_ifs <;> exact ⟨rfl, rfl, rfl, rfl⟩
    exact ⟨hreset.1, hreset.2, hreset.3, hreset.4⟩
  | sizeOnce size animate =>
    unfold request requestSizeOnce
    dsimp only
    repeat' split
    all_goals exact ⟨rfl, rfl, rfl, rfl⟩
  | windowedFullscreen value =>
    unfold request requestWindowedFullscreen
    dsimp only
    split_ifs <;> exact ⟨rfl, rfl, rfl, rfl⟩

end Mapped

/-! ### What is tracked -/

namespace Sent

/-- The stamped values of a configure. -/
def windowedEntry (self : Sent) : ℕ × Bool := (self.serial, self.windowedFullscreen)

def maximizedEntry (self : Sent) : ℕ × Bool := (self.serial, self.maximized)

end Sent

namespace Dialogue

variable {st : Dialogue T} {done todo : List Sent}

/-- The configures are committed up to some point, and the logs are those from there. -/
structure Tracks (st : Dialogue T) (done todo : List Sent) : Prop where
  sent_eq : st.sent = done ++ todo
  sorted : st.sent.Pairwise fun a b => Newer T b.serial a.serial
  windowed : st.mapped.isWindowedFullscreen = lastValue false (done.map Sent.windowedEntry)
  uncommittedWindowed : st.mapped.uncommittedWindowedFullscreen =
    changes st.mapped.isWindowedFullscreen (todo.map Sent.windowedEntry)
  maximized : st.mapped.isMaximized = lastValue st.mappedMaximized (done.map Sent.maximizedEntry)
  uncommittedMaximized : st.mapped.uncommittedMaximized =
    changes st.mapped.isMaximized (todo.map Sent.maximizedEntry)
  lastCommit : ∀ last, done.getLast? = some last → st.lastCommit = some last.serial
  newer : ∀ last, st.lastCommit = some last →
    ∀ a ∈ todo, ToplevelSurface.isNoOlderThan T last a.serial = false

theorem Tracks.of_sameCommitted {mapped : Mapped T} (h : st.Tracks done todo)
    (hsame : mapped.SameCommitted st.mapped) : Tracks { st with mapped } done todo := by
  refine ⟨h.sent_eq, h.sorted, hsame.isWindowedFullscreen.trans h.windowed, ?_,
    hsame.isMaximized.trans h.maximized, ?_, h.lastCommit, h.newer⟩
  · rw [hsame.uncommittedWindowedFullscreen, hsame.isWindowedFullscreen]
    exact h.uncommittedWindowed
  · rw [hsame.uncommittedMaximized, hsame.isMaximized]
    exact h.uncommittedMaximized

theorem Tracks.sendPendingConfigure (h : st.Tracks done todo)
    (hallowed : st.Allowed .sendPendingConfigure) :
    ∃ todo', st.sendPendingConfigure.Tracks done todo' := by
  have hflags := st.mapped.flags_sendPendingConfigure
  by_cases hsends : st.mapped.sends = true
  · rw [if_pos hsends] at hflags
    simp only [Mapped.flags, Mapped.Flags.note, Mapped.Flags.mk.injEq] at hflags
    obtain ⟨hwindowed, -, hlog, hmaximized, -, hlog'⟩ := hflags
    rw [h.uncommittedWindowed, Mapped.noteSent_changes] at hlog
    rw [h.uncommittedMaximized, Mapped.noteSent_changes] at hlog'
    refine ⟨todo ++ [{
      serial := st.mapped.nextSerial
      windowedFullscreen := st.mapped.isPendingWindowedFullscreen
      maximized := st.mapped.isPendingMaximized }], ?_⟩
    refine ⟨?_, ?_, hwindowed.trans h.windowed, ?_, hmaximized.trans h.maximized, ?_,
      h.lastCommit, ?_⟩
    · simp only [Dialogue.sendPendingConfigure]
      rw [if_pos hsends, h.sent_eq, List.append_assoc]
    · simp only [Dialogue.sendPendingConfigure]
      rw [if_pos hsends, List.pairwise_append]
      refine ⟨h.sorted, List.pairwise_singleton _ _, fun a ha b hb => ?_⟩
      obtain rfl := List.mem_singleton.mp hb
      exact (hallowed hsends).1 a ha
    · simp only [Dialogue.sendPendingConfigure]
      rw [hlog, hwindowed, List.map_append]
      rfl
    · simp only [Dialogue.sendPendingConfigure]
      rw [hlog', hmaximized, List.map_append]
      rfl
    · intro last hlast a ha
      rcases List.mem_append.mp ha with ha | ha
      · exact h.newer last hlast a ha
      · obtain rfl := List.mem_singleton.mp ha
        exact ((hallowed hsends).2 last hlast).2
  · rw [if_neg hsends] at hflags
    simp only [Mapped.flags, Mapped.Flags.mk.injEq] at hflags
    obtain ⟨hwindowed, -, hlog, hmaximized, -, hlog'⟩ := hflags
    have hsame := h.of_sameCommitted ⟨hwindowed, hlog, hmaximized, hlog'⟩
    refine ⟨todo, ?_⟩
    simpa [Dialogue.sendPendingConfigure, hsends] using hsame

/-- The configures that a commit takes over are the next ones. -/
theorem Tracks.split (hrefl : ∀ s, ToplevelSurface.isNoOlderThan T s s = true)
    (h : st.Tracks done todo) {serial : ℕ} {toplevel : T} {geometrySize : ISize}
    (hallowed : st.Allowed (.commit serial toplevel geometrySize)) :
    ∃ taken left, todo = taken ++ left ∧
      (∀ a ∈ done ++ taken, ToplevelSurface.isNoOlderThan T serial a.serial = true) ∧
      (∀ a ∈ left, ToplevelSurface.isNoOlderThan T serial a.serial = false) ∧
      ∀ last, (done ++ taken).getLast? = some last → last.serial = serial := by
  have hsorted := h.sorted
  rw [h.sent_eq] at hsorted
  obtain ⟨hforward, hserial⟩ := hallowed
  rw [h.sent_eq] at hserial
  rcases hserial with hmem | hold
  · obtain ⟨a, ha, rfl⟩ := List.mem_map.mp hmem
    rcases List.mem_append.mp ha with hdone | htodo
    · -- committed again: the last one of those done
      obtain ⟨before, after, rfl⟩ := List.append_of_mem hdone
      have hafter : after = [] := by
        cases hlast : after.getLast? with
        | none => exact List.getLast?_eq_none_iff.mp hlast
        | some last =>
          have hcommit := h.lastCommit last (by
            rw [List.getLast?_append, List.getLast?_cons, hlast]
            rfl)
          have hnewer : Newer T last.serial a.serial := by
            rw [List.append_assoc, List.pairwise_append] at hsorted
            have hpair := (List.pairwise_cons.mp hsorted.2.1).1
            exact hpair last (List.mem_append_left _ (List.mem_of_getLast? hlast))
          have hstale := hforward _ hcommit
          rw [hnewer.2] at hstale
          cases hstale
      subst hafter
      refine ⟨[], todo, rfl, ?_, ?_, ?_⟩
      · rw [List.append_nil]
        intro b hb
        rw [List.pairwise_append, List.pairwise_append] at hsorted
        rcases List.mem_append.mp hb with hb | hb
        · exact (hsorted.1.2.2 b hb a List.mem_cons_self).1
        · obtain rfl := List.mem_singleton.mp hb
          exact hrefl b.serial
      · intro b hb
        rw [List.pairwise_append] at hsorted
        exact (hsorted.2.2 a (by simp) b hb).2
      · simp
    · obtain ⟨before, after, rfl⟩ := List.append_of_mem htodo
      refine ⟨before ++ [a], after, by simp, ?_, ?_, by simp⟩
      · intro b hb
        rw [← List.append_assoc] at hb hsorted
        rw [List.pairwise_append] at hsorted
        rcases List.mem_append.mp hb with hb | hb
        · exact (hsorted.2.2 b hb a List.mem_cons_self).1
        · obtain rfl := List.mem_singleton.mp hb
          exact hrefl b.serial
      · intro b hb
        rw [List.pairwise_append] at hsorted
        have hpair := (List.pairwise_append.mp hsorted.2.1).2.1
        exact ((List.pairwise_cons.mp hpair).1 b hb).2
  · -- older than every configure: nothing was committed
    have hnone : done = [] := by
      cases hlast : done.getLast? with
      | none => exact List.getLast?_eq_none_iff.mp hlast
      | some last =>
        have hstale := hforward _ (h.lastCommit last hlast)
        rw [hold last (List.mem_append_left _ (List.mem_of_getLast? hlast))] at hstale
        cases hstale
    subst hnone
    exact ⟨[], todo, rfl, by simp, fun a ha => hold a (by simpa using ha), by simp⟩

theorem Tracks.commit (hrefl : ∀ s, ToplevelSurface.isNoOlderThan T s s = true)
    (h : st.Tracks done todo) {serial : ℕ} {toplevel : T} {geometrySize : ISize}
    (hallowed : st.Allowed (.commit serial toplevel geometrySize)) :
    ∃ done' todo', (st.commit serial toplevel geometrySize).Tracks done' todo' ∧
      done' = st.sent.filter fun a => ToplevelSurface.isNoOlderThan T serial a.serial := by
  obtain ⟨taken, left, rfl, htaken, hleft, hlast⟩ := h.split hrefl hallowed
  have hwindowed := Mapped.commitSent_changes (taken.map Sent.windowedEntry)
    (left.map Sent.windowedEntry) st.mapped.isWindowedFullscreen
    (by simpa [Sent.windowedEntry] using fun a ha => htaken a (List.mem_append_right _ ha))
    (by simpa [Sent.windowedEntry] using hleft)
  have hmaximized := Mapped.commitSent_changes (taken.map Sent.maximizedEntry)
    (left.map Sent.maximizedEntry) st.mapped.isMaximized
    (by simpa [Sent.maximizedEntry] using fun a ha => htaken a (List.mem_append_right _ ha))
    (by simpa [Sent.maximizedEntry] using hleft)
  rw [← List.map_append, ← h.uncommittedWindowed] at hwindowed
  rw [← List.map_append, ← h.uncommittedMaximized] at hmaximized
  have hflags := Mapped.flags_onCommit { st.mapped with toplevel, geometrySize } serial
  simp only [Mapped.flags, Mapped.Flags.mk.injEq, hwindowed, hmaximized] at hflags
  obtain ⟨hwindowed, -, hlog, hmaximized, -, hlog'⟩ := hflags
  refine ⟨done ++ taken, left, ⟨?_, h.sorted, ?_, ?_, ?_, ?_, ?_, ?_⟩, ?_⟩
  · change st.sent = _
    rw [h.sent_eq, List.append_assoc]
  · refine hwindowed.trans ?_
    rw [h.windowed, List.map_append, lastValue_append]
  · exact hlog.trans (congrArg (changes · _) hwindowed.symm)
  · refine hmaximized.trans ?_
    rw [h.maximized, List.map_append, lastValue_append]
    rfl
  · exact hlog'.trans (congrArg (changes · _) hmaximized.symm)
  · intro last hmem
    rw [hlast last hmem]
    rfl
  · rintro _ ⟨⟩
    exact hleft
  · rw [h.sent_eq, ← List.append_assoc, List.filter_append, List.filter_eq_self.mpr htaken,
      List.filter_eq_nil_iff.mpr (by simpa using hleft), List.append_nil]

end Dialogue

/-- A window tracks the configures that it was sent. -/
theorem dialogue_tracks (hrefl : ∀ s, ToplevelSurface.isNoOlderThan T s s = true)
    {st : Dialogue T} (h : (dialogue T).ReachableBy Dialogue.Allowed st) :
    ∃ done todo, st.Tracks done todo := by
  refine h.invariant (P := fun st => ∃ done todo, st.Tracks done todo) ?_ ?_
  · rintro st ⟨window, toplevel, geometrySize, rules, sizeRules, hmapped, hsent, -, hmaximized⟩
    refine ⟨[], [], ⟨hsent, by simp [hsent], ?_, ?_, hmaximized.symm, ?_, by simp, by simp⟩⟩
    · rw [hmapped]
      rfl
    · rw [hmapped]
      rfl
    · rw [hmapped]
      rfl
  · rintro st exchange ⟨done, todo, htracks⟩ hallowed
    cases exchange with
    | request r =>
      exact ensures_pure.mpr
        ⟨done, todo, htracks.of_sameCommitted (st.mapped.sameCommitted_request r)⟩
    | sendPendingConfigure =>
      obtain ⟨todo', htracks'⟩ := htracks.sendPendingConfigure hallowed
      exact ensures_pure.mpr ⟨done, todo', htracks'⟩
    | commit serial toplevel geometrySize =>
      obtain ⟨done', todo', htracks', -⟩ := htracks.commit hrefl hallowed
      exact ensures_pure.mpr ⟨done', todo', htracks'⟩

/-- A log is ordered by serial, and its values alternate, the first one with the
committed value. -/
def Alternates (T : Type) [ToplevelSurface T] (committed : Bool) (log : List (ℕ × Bool)) : Prop :=
  (log.Pairwise fun a b => Newer T b.1 a.1) ∧ (committed :: log.map (·.2)).IsChain (· ≠ ·)

theorem alternates_changes {l : List Sent} (hl : l.Pairwise fun a b => Newer T b.serial a.serial)
    (c : Bool) {entry : Sent → ℕ × Bool} (hentry : ∀ a, (entry a).1 = a.serial) :
    Alternates T c (changes c (l.map entry)) := by
  refine ⟨List.Pairwise.sublist (changes_sublist c _) ?_, isChain_changes c _⟩
  rw [List.pairwise_map]
  exact hl.imp fun h => by rwa [hentry, hentry]

/-- In any interleaving of requests, configures and commits, the logs of a window are
ordered and alternate, and a commit leaves the values that were pending at the last
configure with that serial or an older one. -/
theorem commit_flags (hrefl : ∀ s, ToplevelSurface.isNoOlderThan T s s = true)
    {st : Dialogue T} (h : (dialogue T).ReachableBy Dialogue.Allowed st) :
    Alternates T st.mapped.isWindowedFullscreen st.mapped.uncommittedWindowedFullscreen ∧
    Alternates T st.mapped.isMaximized st.mapped.uncommittedMaximized ∧
    ∀ serial toplevel geometrySize, st.Allowed (.commit serial toplevel geometrySize) →
      let upTo := st.sent.filter fun a => ToplevelSurface.isNoOlderThan T serial a.serial
      let after := (st.commit serial toplevel geometrySize).mapped
      after.isWindowedFullscreen = (upTo.getLast?.map Sent.windowedFullscreen).getD false ∧
        after.isMaximized = (upTo.getLast?.map Sent.maximized).getD st.mappedMaximized := by
  obtain ⟨done, todo, htracks⟩ := dialogue_tracks hrefl h
  have hsorted : todo.Pairwise fun a b => Newer T b.serial a.serial := by
    have hall := htracks.sorted
    rw [htracks.sent_eq, List.pairwise_append] at hall
    exact hall.2.1
  refine ⟨?_, ?_, fun serial toplevel geometrySize hallowed => ?_⟩
  · rw [htracks.uncommittedWindowed]
    exact alternates_changes hsorted _ fun _ => rfl
  · rw [htracks.uncommittedMaximized]
    exact alternates_changes hsorted _ fun _ => rfl
  · obtain ⟨done', todo', htracks', hdone⟩ := htracks.commit hrefl hallowed
    have hwindowed := htracks'.windowed
    have hmaximized := htracks'.maximized
    rw [hdone] at hwindowed hmaximized
    refine ⟨hwindowed.trans ?_, hmaximized.trans ?_⟩
    · unfold lastValue
      rw [List.getLast?_map, Option.map_map]
      rfl
    · unfold lastValue
      rw [List.getLast?_map, Option.map_map]
      rfl

/-! ### A concrete dialogue -/

namespace Sample

/-- A window that was just mapped. -/
def newDialogue : Dialogue Surface where
  mapped := Mapped.new 1 ⟨none, [], none⟩ ⟨100, 100⟩ ⟨⟨false, false, none⟩, none⟩
    ⟨none, none, none, none⟩
  sent := []
  lastCommit := none
  mappedMaximized := false

/-- The window was asked to maximize and then to return, each with a configure. -/
def asked : Dialogue Surface :=
  let first := { newDialogue with
    mapped := newDialogue.mapped.request (.size ⟨1920, 1050⟩ .maximized false) }.sendPendingConfigure
  { first with
    mapped := first.mapped.request (.size ⟨800, 600⟩ .normal false) }.sendPendingConfigure

theorem newDialogue_initial : (dialogue Surface).initial newDialogue :=
  ⟨_, _, _, _, _, rfl, rfl, rfl, rfl⟩

theorem asked_reachable : (dialogue Surface).ReachableBy Dialogue.Allowed asked := by
  refine .step (.step (.step (.step (.initial newDialogue_initial)
    (.request (.size ⟨1920, 1050⟩ .maximized false)) trivial rfl) .sendPendingConfigure ?_ rfl)
    (.request (.size ⟨800, 600⟩ .normal false)) trivial rfl) .sendPendingConfigure ?_ rfl
  · refine fun _ => ⟨fun configure hmem => ?_, fun last hlast => ?_⟩
    · cases hmem
    · cases hlast
  · refine fun _ => ⟨fun configure hmem => ?_, fun last hlast => ?_⟩
    · obtain rfl := List.mem_singleton.mp hmem
      exact ⟨by decide +kernel, by decide +kernel⟩
    · cases hlast

end Sample

open Sample in
/-- The client may commit the first configure, or skip it. -/
theorem commit_flags_asked :
    asked.sent = [⟨1, false, true⟩, ⟨2, false, false⟩] ∧
    (asked.commit 1 ⟨none, [], none⟩ ⟨1920, 1050⟩).mapped.isMaximized = true ∧
    (asked.commit 2 ⟨none, [], none⟩ ⟨800, 600⟩).mapped.isMaximized = false := by
  have hsent : asked.sent = [⟨1, false, true⟩, ⟨2, false, false⟩] := by decide +kernel
  have hflags := (commit_flags (fun s => by simp [ToplevelSurface.isNoOlderThan])
    asked_reachable).2.2
  have hcommit : ∀ last, asked.lastCommit = some last →
      ToplevelSurface.isNoOlderThan Surface 1 last = true ∧
        ToplevelSurface.isNoOlderThan Surface 2 last = true := by
    intro last hlast
    cases hlast
  have hfirst := hflags 1 ⟨none, [], none⟩ ⟨1920, 1050⟩
    ⟨fun last hlast => (hcommit last hlast).1, .inl (by rw [hsent]; decide)⟩
  have hsecond := hflags 2 ⟨none, [], none⟩ ⟨800, 600⟩
    ⟨fun last hlast => (hcommit last hlast).2, .inl (by rw [hsent]; decide)⟩
  rw [hsent] at hfirst hsecond
  exact ⟨rfl, hfirst.2, hsecond.2⟩

end Sol
