import Sol.Batches
import Sol.ToplevelLedger

/-!
# What toplevels are told

A client knows in which phase its toplevel is, and in each phase only some events may happen: the
first configure answers a commit, and nothing is configured between being unmapped and committing
again.  Each phase says what the shell has about the toplevel.

* `reachable_told`: events are expected, and an unmapped window was told last what is pending;
* `reachable_answered`: once idle callbacks have run, whoever committed has been told how to show
  itself, by the wishes of the window and by the rules;
* `reachable_expects_unmapped_iff`: a window that is unmapped while it is queued is told too early;
* `reachable_request`: what a request makes of the wishes of an unmapped window.
-/

namespace Assoc

variable {κ α : Type*} [DecidableEq κ] {l : List (κ × α)} {k k' : κ} {a : α}

/-- The entry of a key is replaced. -/
theorem get_modify_of_get (h : get l k = some a) (f : α → α) :
    get (modify k f l) k' = if k' = k then some (f a) else get l k' := by
  rw [get_modify]
  by_cases hk : k' = k
  · rw [if_pos hk, if_pos hk, hk, h, Option.map_some]
  · rw [if_neg hk, if_neg hk]

/-- What an update leaves of an entry, it leaves of all of them. -/
theorem map_get_modify {β : Type*} {f : α → α} {g : α → β}
    (h : ∀ a, get l k = some a → g (f a) = g a) :
    (get (modify k f l) k').map g = (get l k').map g := by
  rw [get_modify]
  by_cases hk : k' = k
  · rw [if_pos hk, hk]
    cases hget : get l k with
    | none => rfl
    | some a => exact congrArg some (h a hget)
  · rw [if_neg hk]

end Assoc

namespace Sol

open Panicking

namespace Shell

variable {W Id : Type} [LayoutElement W Id] [DecidableEq Id] {s t : State W Id}

/-! ### Phases -/

/-- What a client knows about its toplevel. -/
inductive Phase
  /-- It is to commit without a buffer. -/
  | created
  | committed
  | configured (state : ToplevelState)
  | mapped
  deriving DecidableEq

def Event.id : Event Id → Id
  | .created id | .committed id | .configure id _ | .needsConfigure id => id
  | .mapped id | .unmapped id | .destroyed id => id

/-- The phase after an event. -/
def Event.phase (phase : Option Phase) : Event Id → Option Phase
  | .created _ | .unmapped _ => some .created
  | .committed _ => some .committed
  | .configure _ state => some (.configured state)
  | .needsConfigure _ => phase
  | .mapped _ => some .mapped
  | .destroyed _ => none

/-- The events that are expected in a phase. -/
def Event.Expected (phase : Option Phase) : Event Id → Prop
  | .created _ => phase = none
  | .committed _ => phase = some .created ∨ phase = some .committed
  | .configure _ _ => phase = some .committed ∨ ∃ state, phase = some (.configured state)
  -- a buffer may come early, for a configure that was in flight when the window was unmapped
  | .mapped _ => phase = some .created ∨ phase = some .committed ∨
      ∃ state, phase = some (.configured state)
  | .needsConfigure _ | .unmapped _ => phase = some .mapped
  | .destroyed _ => phase ≠ none

/-- The phases of all toplevels. -/
def tracker (Id : Type) [DecidableEq Id] : Reader (Id → Option Phase) (Event Id) where
  receive view event := Function.update view event.id (event.phase (view event.id))
  Expects view event := event.Expected (view event.id)

/-- The phase of a toplevel, by what happened to it. -/
def State.phase (s : State W Id) : Id → Option Phase :=
  (tracker Id).receiveAll (fun _ => none) s.log

/-! ### What a phase says -/

/-- What is sent along with a toplevel, and whether. -/
def Toplevel.told (self : Toplevel Id) : ℕ × ToplevelState × Bool :=
  (self.serial, self.pending, self.isInitialConfigureSent)

/-- Whether a window is configured, and is to be maximized then. -/
def Unmapped.kind (self : Unmapped) : Option Bool :=
  match self.state with
  | .notConfigured _ _ => none
  | .configured data => some data.isPendingMaximized

def State.told (s : State W Id) (id : Id) : Option (ℕ × ToplevelState × Bool) :=
  (Assoc.get s.toplevels id).map Toplevel.told

def State.kind (s : State W Id) (id : Id) : Option (Option Bool) :=
  (Assoc.get s.unmappedWindows id).map Unmapped.kind

/-- What the shell has about a toplevel in some phase.  It is queued while it waits to be told. -/
def State.Matches (s : State W Id) (id : Id) : Option Phase → Prop
  | none => s.told id = none
  | some .created => s.kind id = some none ∧
      ∃ serial, s.told id = some (serial, .default, false) ∧ (id, serial) ∉ s.idles
  | some .committed => s.kind id = some none ∧
      ∃ serial, s.told id = some (serial, .default, false) ∧ (id, serial) ∈ s.idles
  | some (.configured state) => ∃ isPendingMaximized serial sent,
      s.kind id = some (some isPendingMaximized) ∧ s.told id = some (serial, state, sent) ∧
        state.maximized = (isPendingMaximized && !state.fullscreen)
  | some .mapped => id ∈ s.layout.windowIds

/-- A step leaves a toplevel as it is. -/
structure Frame (s t : State W Id) (id : Id) : Prop where
  told : t.told id = s.told id
  kind : t.kind id = s.kind id
  layout : id ∈ t.layout.windowIds ↔ id ∈ s.layout.windowIds
  idles : ∀ serial, (id, serial) ∈ t.idles ↔ (id, serial) ∈ s.idles

theorem Frame.matches {id : Id} {phase : Option Phase} (h : Frame s t id) :
    t.Matches id phase ↔ s.Matches id phase := by
  rcases phase with _ | _ | _ | state | _ <;>
    simp only [State.Matches, h.told, h.kind, h.layout, h.idles]

/-- The events so far were expected, and the phases are right. -/
structure Follows (s : State W Id) : Prop where
  expects : (tracker Id).ExpectsAll (fun _ => none) s.log
  matches_phase : ∀ id, s.Matches id (s.phase id)
  serials : ∀ id told, s.told id = some told → told.1 < s.nextSerial
  idles : ∀ p ∈ s.idles, p.2 < s.nextSerial

/-! ### Events -/

omit [LayoutElement W Id] in
theorem phase_concat {event : Event Id} (hlog : t.log = s.log ++ [event]) :
    t.phase = Function.update s.phase event.id (event.phase (s.phase event.id)) := by
  rw [State.phase, hlog, Reader.receiveAll_append]
  rfl

omit [LayoutElement W Id] in
theorem phase_of_log_eq (hlog : t.log = s.log) : t.phase = s.phase := by
  rw [State.phase, hlog, State.phase]

/-- A step at one toplevel, at which something happens to it. -/
theorem Follows.event (h : Follows s) (event : Event Id) (hlog : t.log = s.log ++ [event])
    (hexpected : event.Expected (s.phase event.id))
    (hmatches : t.Matches event.id (event.phase (s.phase event.id)))
    (hframe : ∀ id ≠ event.id, Frame s t id) (hnext : s.nextSerial ≤ t.nextSerial)
    (hserial : ∀ told, t.told event.id = some told → told.1 < t.nextSerial)
    (hidles : ∀ p ∈ t.idles, p.2 < t.nextSerial) : Follows t := by
  refine ⟨?_, fun id => ?_, fun id told htold => ?_, hidles⟩
  · rw [hlog, Reader.expectsAll_append]
    exact ⟨h.expects, hexpected, trivial⟩
  · rw [phase_concat hlog]
    by_cases hid : id = event.id
    · rw [hid, Function.update_self]
      exact hmatches
    · rw [Function.update_of_ne hid, (hframe id hid).matches]
      exact h.matches_phase id
  · by_cases hid : id = event.id
    · rw [hid] at htold
      exact hserial told htold
    · rw [(hframe id hid).told] at htold
      exact (h.serials id told htold).trans_le hnext

/-- A step at no toplevel. -/
theorem Follows.frames (h : Follows s) (hlog : t.log = s.log) (hframe : ∀ id, Frame s t id)
    (hnext : t.nextSerial = s.nextSerial) (hidles : ∀ p ∈ t.idles, p ∈ s.idles) : Follows t := by
  refine ⟨hlog ▸ h.expects, fun id => ?_, fun id told htold => ?_, fun p hp => ?_⟩
  · rw [phase_of_log_eq hlog, (hframe id).matches]
    exact h.matches_phase id
  · rw [(hframe id).told] at htold
    rw [hnext]
    exact h.serials id told htold
  · rw [hnext]
    exact h.idles p (hidles p hp)

/-! ### The phase of a window -/

section Phases

variable {id : Id}

omit [DecidableEq Id] [LayoutElement W Id] in
theorem kind_eq_none_iff {unmapped : Unmapped} :
    unmapped.kind = none ↔ unmapped.needsInitialConfigure = true := by
  unfold Unmapped.kind Unmapped.needsInitialConfigure
  cases unmapped.state with
  | notConfigured wantsFullscreen wantsMaximized => exact iff_of_true rfl rfl
  | configured data => exact iff_of_false (Option.some_ne_none _) Bool.false_ne_true

omit [LayoutElement W Id] in
theorem kind_eq_none : s.kind id = none ↔ id ∉ Assoc.keys s.unmappedWindows := by
  rw [State.kind, Option.map_eq_none_iff, Assoc.get_eq_none_iff]

omit [LayoutElement W Id] in
theorem told_eq_none : s.told id = none ↔ id ∉ Assoc.keys s.toplevels := by
  rw [State.told, Option.map_eq_none_iff, Assoc.get_eq_none_iff]

omit [LayoutElement W Id] in
theorem kind_of_get {unmapped : Unmapped}
    (hunmapped : Assoc.get s.unmappedWindows id = some unmapped) :
    s.kind id = some unmapped.kind := by
  rw [State.kind, hunmapped, Option.map_some]

omit [LayoutElement W Id] in
theorem told_of_get {toplevel : Toplevel Id}
    (htoplevel : Assoc.get s.toplevels id = some toplevel) :
    s.told id = some toplevel.told := by
  rw [State.told, htoplevel, Option.map_some]

omit [LayoutElement W Id] in
theorem mem_unmapped_of_kind {kind : Option Bool} (hkind : s.kind id = some kind) :
    id ∈ Assoc.keys s.unmappedWindows := by
  by_contra hnot
  cases hkind.symm.trans (kind_eq_none.mpr hnot)

theorem State.Sound.told_ne_none (hs : s.Sound) (hid : id ∈ s.held) : s.told id ≠ none :=
  fun h => told_eq_none.mp h (hs.living id hid)

theorem mem_held_of_kind {kind : Option Bool} (hkind : s.kind id = some kind) : id ∈ s.held :=
  State.mem_held.mpr (.inl (mem_unmapped_of_kind hkind))

theorem State.Sound.not_layout (hs : s.Sound) {kind : Option Bool} (hkind : s.kind id = some kind) :
    id ∉ s.layout.windowIds :=
  fun hid => (List.nodup_append.mp hs.nodup).2.2 id (mem_unmapped_of_kind hkind) id hid rfl

/-- An unmapped window that is not configured waits to commit, or to be told. -/
theorem Follows.phase_of_waiting (h : Follows s) (hs : s.Sound) (hkind : s.kind id = some none) :
    s.phase id = some .created ∨ s.phase id = some .committed := by
  have hmatches := h.matches_phase id
  generalize s.phase id = phase at hmatches ⊢
  rcases phase with _ | _ | _ | state | _
  · exact absurd hmatches (hs.told_ne_none (mem_held_of_kind hkind))
  · exact .inl rfl
  · exact .inr rfl
  · obtain ⟨_, _, _, hother, -⟩ := hmatches
    rw [hkind] at hother
    cases hother
  · exact absurd hmatches (hs.not_layout hkind)

theorem Follows.told_of_waiting (h : Follows s) (hs : s.Sound) (hkind : s.kind id = some none) :
    ∃ serial, s.told id = some (serial, .default, false) := by
  have hmatches := h.matches_phase id
  rcases h.phase_of_waiting hs hkind with hphase | hphase
  · rw [hphase] at hmatches
    obtain ⟨-, serial, htold, -⟩ := hmatches
    exact ⟨serial, htold⟩
  · rw [hphase] at hmatches
    obtain ⟨-, serial, htold, -⟩ := hmatches
    exact ⟨serial, htold⟩

theorem Follows.phase_of_configured (h : Follows s) (hs : s.Sound) {isPendingMaximized : Bool}
    (hkind : s.kind id = some (some isPendingMaximized)) :
    ∃ state, s.phase id = some (.configured state) := by
  have hmatches := h.matches_phase id
  generalize s.phase id = phase at hmatches ⊢
  rcases phase with _ | _ | _ | state | _
  · exact absurd hmatches (hs.told_ne_none (mem_held_of_kind hkind))
  · rw [hmatches.1] at hkind
    cases hkind
  · rw [hmatches.1] at hkind
    cases hkind
  · exact ⟨state, rfl⟩
  · exact absurd hmatches (hs.not_layout hkind)

theorem Follows.phase_of_layout (h : Follows s) (hs : s.Sound) (hid : id ∈ s.layout.windowIds) :
    s.phase id = some .mapped := by
  have hmatches := h.matches_phase id
  generalize s.phase id = phase at hmatches ⊢
  rcases phase with _ | _ | _ | state | _
  · exact absurd hmatches (hs.told_ne_none (State.mem_held.mpr (.inr hid)))
  · exact absurd hid (hs.not_layout hmatches.1)
  · exact absurd hid (hs.not_layout hmatches.1)
  · obtain ⟨_, _, _, hkind, -⟩ := hmatches
    exact absurd hid (hs.not_layout hkind)
  · rfl

theorem Follows.phase_of_unmapped (h : Follows s) (hs : s.Sound) {kind : Option Bool}
    (hkind : s.kind id = some kind) : s.phase id = some .created ∨ s.phase id = some .committed ∨
      ∃ state, s.phase id = some (.configured state) := by
  cases kind with
  | none =>
    rcases h.phase_of_waiting hs hkind with hphase | hphase
    · exact .inl hphase
    · exact .inr (.inl hphase)
  | some isPendingMaximized => exact .inr (.inr (h.phase_of_configured hs hkind))

/-- No toplevel is missing. -/
theorem Follows.held (h : Follows s) (hid : id ∈ Assoc.keys s.toplevels) : id ∈ s.held := by
  have hmatches := h.matches_phase id
  generalize s.phase id = phase at hmatches
  rcases phase with _ | _ | _ | state | _
  · exact absurd hid (told_eq_none.mp hmatches)
  · exact mem_held_of_kind hmatches.1
  · exact mem_held_of_kind hmatches.1
  · obtain ⟨_, _, _, hkind, -⟩ := hmatches
    exact mem_held_of_kind hkind
  · exact State.mem_held.mpr (.inr hmatches)

/-- The window of a configured toplevel was told what is pending. -/
theorem Follows.configured (h : Follows s) (hs : s.Sound) {unmapped : Unmapped}
    {toplevel : Toplevel Id} {data : Configured}
    (hunmapped : Assoc.get s.unmappedWindows id = some unmapped)
    (hstate : unmapped.state = .configured data)
    (htoplevel : Assoc.get s.toplevels id = some toplevel) :
    s.phase id = some (.configured toplevel.pending) ∧
      data.Honours toplevel.pending ⟨toplevel.pending.fullscreen, data.isPendingMaximized⟩ := by
  have hkind : s.kind id = some (some data.isPendingMaximized) := by
    rw [kind_of_get hunmapped, Unmapped.kind, hstate]
  obtain ⟨state, hphase⟩ := h.phase_of_configured hs hkind
  have hmatches := h.matches_phase id
  rw [hphase] at hmatches
  obtain ⟨isPendingMaximized, serial, sent, hkind', htold, hmaximized⟩ := hmatches
  cases (told_of_get htoplevel).symm.trans htold
  cases hkind.symm.trans hkind'
  exact ⟨hphase, ⟨rfl, hmaximized⟩, rfl⟩

end Phases

/-! ### Configures -/

theorem Configured.Honours.maximized_eq {data : Configured} {pending : ToplevelState}
    {wishes : Wishes} (h : data.Honours pending wishes) :
    pending.maximized = (data.isPendingMaximized && !pending.fullscreen) := by
  rw [h.shows.maximized, h.shows.fullscreen, h.maximized]

theorem maximized_eq_of_honours {p : Prop} {data : Configured} {pending : ToplevelState}
    {wishes wishes' : Wishes} (hmet : p → data.Honours pending wishes)
    (hnot : ¬p → data.Honours pending wishes') :
    pending.maximized = (data.isPendingMaximized && !pending.fullscreen) := by
  by_cases hplace : p
  · exact (hmet hplace).maximized_eq
  · exact (hnot hplace).maximized_eq

section Configures

variable {id : Id} {unmapped : Unmapped} {toplevel : Toplevel Id} {data : Configured}
  {pending : ToplevelState}

/-- The state with other callbacks that are queued. -/
def State.queue (s : State W Id) (idles : List (Id × ℕ)) : State W Id := { s with idles }

theorem frame_of_get {id : Id} (htoplevels : Assoc.get t.toplevels id = Assoc.get s.toplevels id)
    (hunmapped : Assoc.get t.unmappedWindows id = Assoc.get s.unmappedWindows id)
    (hlayout : id ∈ t.layout.windowIds ↔ id ∈ s.layout.windowIds)
    (hidles : ∀ serial, (id, serial) ∈ t.idles ↔ (id, serial) ∈ s.idles) : Frame s t id := by
  refine ⟨?_, ?_, hlayout, hidles⟩
  · rw [State.told, htoplevels, State.told]
  · rw [State.kind, hunmapped, State.kind]

omit [LayoutElement W Id] in
theorem get_unmapped_tell (hunmapped : Assoc.get s.unmappedWindows id = some unmapped)
    (toplevel : Toplevel Id) (data : Configured) (pending : ToplevelState) (id' : Id) :
    Assoc.get (s.tell id unmapped toplevel data pending).unmappedWindows id' =
      if id' = id then some { unmapped with state := .configured data }
      else Assoc.get s.unmappedWindows id' := Assoc.get_modify_of_get hunmapped fun _ => _

omit [LayoutElement W Id] in
theorem get_toplevels_tell (htoplevel : Assoc.get s.toplevels id = some toplevel)
    (unmapped : Unmapped) (data : Configured) (pending : ToplevelState) (id' : Id) :
    Assoc.get (s.tell id unmapped toplevel data pending).toplevels id' =
      if id' = id then some { toplevel with pending, isInitialConfigureSent := true }
      else Assoc.get s.toplevels id' := Assoc.get_modify_of_get htoplevel fun _ => _

/-- A window that waits to be told, or was told before, is told how to show itself. -/
theorem Follows.tell (h : Follows s) (hunmapped : Assoc.get s.unmappedWindows id = some unmapped)
    (htoplevel : Assoc.get s.toplevels id = some toplevel)
    (hphase : s.phase id = some .committed ∨ ∃ state, s.phase id = some (.configured state))
    (hmaximized : pending.maximized = (data.isPendingMaximized && !pending.fullscreen))
    (idles : List (Id × ℕ)) (hidles : ∀ p ∈ idles, p ∈ s.idles)
    (hothers : ∀ p ∈ s.idles, p.1 ≠ id → p ∈ idles) :
    Follows ((s.tell id unmapped toplevel data pending).queue idles) := by
  have htold : ((s.tell id unmapped toplevel data pending).queue idles).told id =
      some (toplevel.serial, pending, true) :=
    told_of_get (s := s.tell id unmapped toplevel data pending)
      ((get_toplevels_tell htoplevel ..).trans (if_pos rfl))
  have hkind : ((s.tell id unmapped toplevel data pending).queue idles).kind id =
      some (some data.isPendingMaximized) :=
    kind_of_get (s := s.tell id unmapped toplevel data pending)
      ((get_unmapped_tell hunmapped ..).trans (if_pos rfl))
  refine h.event (.configure id pending) rfl hphase ⟨_, _, _, hkind, htold, hmaximized⟩
    (fun id' hid => ?_) le_rfl (fun told htold' => ?_) fun p hp => h.idles p (hidles p hp)
  · change id' ≠ id at hid
    refine frame_of_get ?_ ?_ Iff.rfl fun serial =>
      ⟨fun hp => hidles _ hp, fun hp => hothers _ hp hid⟩
    · exact (get_toplevels_tell htoplevel unmapped data pending id').trans (if_neg hid)
    · exact (get_unmapped_tell hunmapped toplevel data pending id').trans (if_neg hid)
  · change State.told _ id = some told at htold'
    rw [htold] at htold'
    cases htold'
    exact h.serials id toplevel.told (told_of_get htoplevel)

end Configures

/-! ### Initial configures -/

/-- The shell has nothing new about a toplevel. -/
structure Untouched (s t : State W Id) (id : Id) : Prop where
  unmapped : Assoc.get t.unmappedWindows id = Assoc.get s.unmappedWindows id
  toplevel : Assoc.get t.toplevels id = Assoc.get s.toplevels id
  phase : t.phase id = s.phase id

/-- A window was told how to show itself: as it wishes and as the rules have it if there is a place
to open on, and otherwise neither fullscreen nor maximized. -/
def Answered (rules : Id → ResolvedWindowRules) (s t : State W Id) (id : Id) : Prop :=
  ∃ unmapped toplevel unmapped' toplevel' data,
    Assoc.get s.unmappedWindows id = some unmapped ∧ Assoc.get s.toplevels id = some toplevel ∧
    Assoc.get t.unmappedWindows id = some unmapped' ∧ Assoc.get t.toplevels id = some toplevel' ∧
    unmapped.needsInitialConfigure = true ∧ unmapped'.state = .configured data ∧
    t.phase id = some (.configured toplevel'.pending) ∧
    (s.Offers (rules id).openOnWorkspace → data.Honours toplevel'.pending
      ((rules id).overrule (unmapped.state.wishes toplevel.pending))) ∧
    (¬s.Offers (rules id).openOnWorkspace → data.Honours toplevel'.pending ⟨false, false⟩)

/-- What callbacks do, when some others are left. -/
structure Sent (rules : Id → ResolvedWindowRules) (idles : List (Id × ℕ)) (s t : State W Id) :
    Prop where
  follows : Follows (t.queue idles)
  layout : t.layout = s.layout
  idles : t.idles = s.idles
  each : ∀ id, Untouched s t id ∨ Answered rules s t id

/-- A toplevel that a callback finds, and that was not told yet. -/
structure Waits (s : State W Id) (id : Id) (serial : ℕ) (unmapped : Unmapped)
    (toplevel : Toplevel Id) : Prop where
  get_unmapped : Assoc.get s.unmappedWindows id = some unmapped
  get_toplevel : Assoc.get s.toplevels id = some toplevel
  serial_eq : toplevel.serial = serial
  needs : unmapped.needsInitialConfigure = true

/-- What one callback does. -/
theorem sendQueued_cases (rules : ResolvedWindowRules) (outputs : List Output) (id : Id)
    (serial : ℕ) :
    Ensures (s.sendQueued rules outputs id serial) fun t =>
      (∃ unmapped toplevel data pending, Waits s id serial unmapped toplevel ∧
        t = s.tell id unmapped toplevel data pending ∧ (toplevel.pending = .default →
          (s.Offers rules.openOnWorkspace → data.Honours pending
            (rules.overrule (unmapped.state.wishes toplevel.pending))) ∧
          (¬s.Offers rules.openOnWorkspace → data.Honours pending ⟨false, false⟩))) ∨
      t = s ∧ ∀ unmapped toplevel, ¬Waits s id serial unmapped toplevel := by
  unfold State.sendQueued
  split
  next toplevel unmapped htoplevel hunmapped =>
    refine ensures_ite.mpr ⟨fun hsend => ?_, fun hnot => ensures_pure.mpr (.inr ⟨rfl, ?_⟩)⟩
    · have hwaits : Waits s id serial unmapped toplevel :=
        ⟨hunmapped, htoplevel, hsend.1, hsend.2⟩
      cases hstate : unmapped.state with
      | configured data =>
        have hneeds := hsend.2
        rw [Unmapped.needsInitialConfigure, hstate] at hneeds
        cases hneeds
      | notConfigured wantsFullscreen wantsMaximized =>
        refine (guarded_sendInitialConfigure hstate).ensures.mono ?_
        rintro _ ⟨data, pending, rfl, hhonours⟩
        refine .inl ⟨unmapped, toplevel, data, pending, hwaits, rfl, ?_⟩
        rw [hstate]
        exact hhonours
    · rintro unmapped' toplevel' ⟨hunmapped', htoplevel', hserial, hneeds⟩
      cases htoplevel.symm.trans htoplevel'
      cases hunmapped.symm.trans hunmapped'
      exact hnot ⟨hserial, hneeds⟩
  next hnone =>
    exact ensures_pure.mpr (.inr ⟨rfl, fun _ _ hwaits =>
      hnone _ _ hwaits.get_toplevel hwaits.get_unmapped⟩)

/-- A window is told at last, when it is the first that is queued. -/
theorem Follows.answer {id : Id} {serial : ℕ} {idles : List (Id × ℕ)}
    (h : Follows (s.queue ((id, serial) :: idles))) (hs : s.Sound) {unmapped : Unmapped}
    {toplevel : Toplevel Id} (hwaits : Waits s id serial unmapped toplevel)
    {rules : Id → ResolvedWindowRules} {data : Configured} {pending : ToplevelState}
    (hhonours : toplevel.pending = .default →
      (s.Offers (rules id).openOnWorkspace → data.Honours pending
        ((rules id).overrule (unmapped.state.wishes toplevel.pending))) ∧
      (¬s.Offers (rules id).openOnWorkspace → data.Honours pending ⟨false, false⟩)) :
    Sent rules idles s (s.tell id unmapped toplevel data pending) := by
  obtain ⟨hunmapped, htoplevel, hserial, hneeds⟩ := hwaits
  have hkind : s.kind id = some none := by
    rw [kind_of_get hunmapped, kind_eq_none_iff.mpr hneeds]
  have htold : s.told id = some toplevel.told := told_of_get htoplevel
  have hqueue : (s.queue ((id, serial) :: idles)).Sound :=
    ⟨hs.layout, hs.nodup, hs.living, hs.toplevels⟩
  obtain ⟨_, hdefault⟩ := h.told_of_waiting hqueue hkind
  have hpending : toplevel.pending = .default :=
    congrArg (·.2.1) (Option.some.inj (htold.symm.trans hdefault))
  have hphase : s.phase id = some .committed := by
    refine (h.phase_of_waiting hqueue hkind).resolve_left fun hphase => ?_
    have hmatches := h.matches_phase id
    rw [hphase] at hmatches
    obtain ⟨-, serial', htold', hidle⟩ := hmatches
    obtain rfl : toplevel.serial = serial' :=
      congrArg Prod.fst (Option.some.inj (htold.symm.trans htold'))
    exact hidle (hserial ▸ List.mem_cons_self)
  obtain ⟨hoffers, hnot⟩ := hhonours hpending
  have hmaximized := maximized_eq_of_honours hoffers hnot
  refine ⟨h.tell hunmapped htoplevel (.inl hphase) hmaximized idles
    (fun p hp => List.mem_cons_of_mem _ hp) fun p hp hne => (List.mem_cons.mp hp).resolve_left
      fun heq => hne (congrArg Prod.fst heq), rfl, rfl, fun id' => ?_⟩
  by_cases hid : id' = id
  · subst hid
    refine .inr ⟨unmapped, toplevel, _, _, data, hunmapped, htoplevel,
      (get_unmapped_tell hunmapped ..).trans (if_pos rfl),
      (get_toplevels_tell htoplevel ..).trans (if_pos rfl), hneeds, rfl, ?_, hoffers, hnot⟩
    rw [phase_concat (s := s) rfl]
    exact Function.update_self ..
  · refine .inl ⟨(get_unmapped_tell hunmapped ..).trans (if_neg hid),
      (get_toplevels_tell htoplevel ..).trans (if_neg hid), ?_⟩
    rw [phase_concat (s := s) rfl]
    exact Function.update_of_ne hid ..

/-- A callback is passed over when no one waits for it. -/
theorem Follows.pass {id : Id} {serial : ℕ} {idles : List (Id × ℕ)}
    (h : Follows (s.queue ((id, serial) :: idles)))
    (hnot : ∀ unmapped toplevel, ¬Waits s id serial unmapped toplevel)
    (rules : Id → ResolvedWindowRules) : Sent rules idles s s := by
  refine ⟨⟨h.expects, fun id' => ?_, h.serials,
    fun p hp => h.idles p (List.mem_cons_of_mem _ hp)⟩, rfl, rfl, fun id' => .inl ⟨rfl, rfl, rfl⟩⟩
  have hmatches := h.matches_phase id'
  change State.Matches _ id' (s.phase id') at hmatches ⊢
  generalize s.phase id' = phase at hmatches ⊢
  rcases phase with _ | _ | _ | state | _
  · exact hmatches
  · obtain ⟨hkind, serial', htold, hidle⟩ := hmatches
    exact ⟨hkind, serial', htold, fun hp => hidle (List.mem_cons_of_mem _ hp)⟩
  · obtain ⟨hkind, serial', htold, hidle⟩ := hmatches
    refine ⟨hkind, serial', htold, (List.mem_cons.mp hidle).resolve_left ?_⟩
    rintro ⟨⟩
    obtain ⟨toplevel, htoplevel, htold⟩ := Option.map_eq_some_iff.mp htold
    obtain ⟨unmapped, hunmapped, hkind⟩ := Option.map_eq_some_iff.mp hkind
    exact hnot unmapped toplevel
      ⟨hunmapped, htoplevel, congrArg Prod.fst htold, kind_eq_none_iff.mp hkind⟩
  · exact hmatches
  · exact hmatches

/-- What one callback does, when it is the first that is queued. -/
theorem Follows.sendQueued {id : Id} {serial : ℕ} {idles : List (Id × ℕ)}
    (h : Follows (s.queue ((id, serial) :: idles))) (hs : s.Sound)
    (rules : Id → ResolvedWindowRules) (outputs : List Output) :
    Ensures (s.sendQueued (rules id) outputs id serial) (Sent rules idles s) := by
  refine (sendQueued_cases (rules id) outputs id serial).mono fun t ht => ?_
  rcases ht with ⟨unmapped, toplevel, data, pending, hwaits, rfl, hhonours⟩ | ⟨rfl, hnot⟩
  · exact h.answer hs hwaits hhonours
  · exact h.pass hnot rules

omit [LayoutElement W Id] in
theorem Answered.needs {rules : Id → ResolvedWindowRules} {u : State W Id} {id : Id}
    (h : Answered rules s t id) (h' : Answered rules t u id) : False := by
  obtain ⟨_, _, unmapped, _, data, -, -, hunmapped, -, -, hstate, -⟩ := h
  obtain ⟨unmapped', _, _, _, _, hunmapped', -, -, -, hneeds, -⟩ := h'
  cases hunmapped.symm.trans hunmapped'
  rw [Unmapped.needsInitialConfigure, hstate] at hneeds
  cases hneeds

/-- Callbacks one after the other; who was told is not told again. -/
theorem Sent.then {rules : Id → ResolvedWindowRules} {u : State W Id} {l r : List (Id × ℕ)}
    (h : Sent rules l s t) (h' : Sent rules r t u) : Sent rules r s u := by
  refine ⟨h'.follows, h'.layout.trans h.layout, h'.idles.trans h.idles, fun id => ?_⟩
  have hoffers : ∀ name, t.Offers name ↔ s.Offers name := by
    intro name
    rw [State.Offers, h.layout, State.Offers]
  rcases h.each id with hs | hs <;> rcases h'.each id with ht | ht
  · exact .inl ⟨ht.unmapped.trans hs.unmapped, ht.toplevel.trans hs.toplevel,
      ht.phase.trans hs.phase⟩
  · refine .inr ?_
    rw [Answered, hs.unmapped, hs.toplevel, hoffers] at ht
    exact ht
  · refine .inr ?_
    obtain ⟨unmapped, toplevel, unmapped', toplevel', data, hunmapped, htoplevel, hunmapped',
      htoplevel', hneeds, hstate, hphase, hhonours⟩ := hs
    exact ⟨unmapped, toplevel, unmapped', toplevel', data, hunmapped, htoplevel,
      ht.unmapped.trans hunmapped', ht.toplevel.trans htoplevel', hneeds, hstate,
      ht.phase.trans hphase, hhonours⟩
  · exact (hs.needs ht).elim

/-- Once all callbacks have run, everyone who waited is told. -/
theorem Follows.dispatchIdles (h : Follows s) (hs : s.Sound) (rules : Id → ResolvedWindowRules)
    (outputs : List Output) :
    Ensures (s.dispatchIdles rules outputs) fun t =>
      Follows t ∧ t.idles = [] ∧ ∀ id, s.phase id = some .committed → Answered rules s t id := by
  have hall : ∀ (idles : List (Id × ℕ)) (u : State W Id), Sent rules idles (s.queue []) u →
      u.Sound → Ensures (idles.foldlM
        (fun v idle => v.sendQueued (rules idle.1) outputs idle.1 idle.2) u)
        (Sent rules [] (s.queue [])) := by
    intro idles
    -- the callbacks that have not run yet are still queued, for the invariant
    induction idles with
    | nil => exact fun u hu _ => ensures_pure.mpr hu
    | cons idle idles ih =>
      intro u hu hsound
      rw [List.foldlM_cons, ensures_bind]
      refine ((hu.follows.sendQueued hsound rules outputs).and
        (steady_sendQueued hsound.layout (rules idle.1) outputs idle.1 idle.2).ensures).mono
          fun v hv => ih v (hu.then hv.1) (hv.2.sound hsound)
  refine (hall s.idles (s.queue []) ⟨h, rfl, rfl, fun id => .inl ⟨rfl, rfl, rfl⟩⟩
    ⟨hs.layout, hs.nodup, hs.living, hs.toplevels⟩).mono fun t ht => ?_
  have hidles : t.idles = [] := ht.idles
  have hqueue : t.queue [] = t := by
    rw [← hidles]
    rfl
  have hfollows := ht.follows
  rw [hqueue] at hfollows
  refine ⟨hfollows, hidles, fun id hid => (ht.each id).resolve_left fun hsame => ?_⟩
  have hmatches := hfollows.matches_phase id
  rw [hsame.phase] at hmatches
  change State.Matches t id (s.phase id) at hmatches
  rw [hid] at hmatches
  obtain ⟨-, serial, -, hidle⟩ := hmatches
  rw [hidles] at hidle
  cases hidle

/-! ### Steps at one toplevel -/

section Steps

variable {id : Id} {c : Prop}

theorem layout_iff (hs : s.Sound) : id ∈ s.layout.windowIds ↔ id ∈ s.held ∧ s.kind id = none := by
  rw [kind_eq_none, State.mem_held]
  refine ⟨fun hid => ⟨.inr hid, fun hunmapped => ?_⟩, fun h => h.1.resolve_left h.2⟩
  exact (List.nodup_append.mp hs.nodup).2.2 id hunmapped id hid rfl

/-- A window that is held as before, and unmapped as before, is in the layout as before. -/
theorem frame_of_held (hs : s.Sound) (ht : t.Sound) (htold : t.told id = s.told id)
    (hkind : t.kind id = s.kind id) (hheld : id ∈ t.held ↔ id ∈ s.held)
    (hidles : ∀ serial, (id, serial) ∈ t.idles ↔ (id, serial) ∈ s.idles) : Frame s t id :=
  ⟨htold, hkind, by rw [layout_iff ht, layout_iff hs, hheld, hkind], hidles⟩

/-- Nothing happens that a client knows of, and the layout keeps its windows. -/
theorem Follows.still (h : Follows s) (hs : s.Sound) (hsound : t.Sound) (hmoves : Moves c [] [] s t)
    (hlog : t.log = s.log) (hkind : ∀ id, t.kind id = s.kind id)
    (htold : ∀ id, t.told id = s.told id) (hnext : t.nextSerial = s.nextSerial)
    (hidles : t.idles = s.idles) : Follows t := by
  refine h.frames hlog (fun id => frame_of_held hs hsound (htold id) (hkind id)
    hmoves.perm.mem_iff fun serial => ?_) hnext fun p hp => ?_
  · rw [hidles]
  · rw [← hidles]
    exact hp

/-- An event at a toplevel that is not queued anew. -/
theorem Follows.next (h : Follows s) (event : Event Id) (hlog : t.log = s.log ++ [event])
    (hexpected : event.Expected (s.phase event.id))
    (hmatches : t.Matches event.id (event.phase (s.phase event.id)))
    (hframe : ∀ id ≠ event.id, Frame s t id) (hnext : t.nextSerial = s.nextSerial)
    (hidles : t.idles = s.idles) (hserial : ∀ told', t.told event.id = some told' →
      ∃ told, s.told event.id = some told ∧ told'.1 = told.1) : Follows t := by
  refine h.event event hlog hexpected hmatches hframe hnext.ge (fun told' htold' => ?_)
    fun p hp => ?_
  · obtain ⟨told, htold, heq⟩ := hserial told' htold'
    rw [heq, hnext]
    exact h.serials _ told htold
  · rw [hnext]
    exact h.idles p (hidles ▸ hp)

/-- A window of the layout is flagged. -/
theorem Follows.needsConfigure (h : Follows s) (hs : s.Sound) (hid : id ∈ s.layout.windowIds)
    (ht : Steady c s t) (hlog : t.log = s.log ++ [.needsConfigure id])
    (hkind : ∀ id, t.kind id = s.kind id) (htold : ∀ id, t.told id = s.told id)
    (hnext : t.nextSerial = s.nextSerial) (hidles : t.idles = s.idles) : Follows t := by
  have hphase : s.phase id = some .mapped := h.phase_of_layout hs hid
  have hframe : ∀ id', Frame s t id' := fun id' => frame_of_held hs (ht.sound hs) (htold id')
    (hkind id') (ht.moves.perm.mem_iff) fun serial => by rw [hidles]
  exact h.next (.needsConfigure id) hlog hphase ((hframe id).matches.mpr (h.matches_phase id))
    (fun id' _ => hframe id') hnext hidles
      fun told' htold' => ⟨told', (htold id).symm.trans htold', rfl⟩

/-- A window that was told is told again. -/
theorem Follows.tellAgain (h : Follows s) (hs : s.Sound) {unmapped : Unmapped}
    {toplevel : Toplevel Id} {data data' : Configured} {pending : ToplevelState}
    (hunmapped : Assoc.get s.unmappedWindows id = some unmapped)
    (htoplevel : Assoc.get s.toplevels id = some toplevel)
    (hstate : unmapped.state = .configured data')
    (hmaximized : pending.maximized = (data.isPendingMaximized && !pending.fullscreen)) :
    Follows (s.tell id unmapped toplevel data pending) := by
  obtain ⟨hphase, -⟩ := h.configured hs hunmapped hstate htoplevel
  exact h.tell hunmapped htoplevel (.inr ⟨_, hphase⟩) hmaximized s.idles (fun _ hp => hp)
    fun _ hp _ => hp

end Steps

/-! ### Requests -/

theorem requestMapped_eq (clock : Clock) (id : Id) (current : Option Output)
    (request : State.Request) :
    Ensures (s.requestMapped clock id current request) fun t =>
      ∃ layout, t = { s with layout, log := s.log ++ [.needsConfigure id] } := by
  unfold State.requestMapped
  cases request with
  | fullscreen output =>
    cases output with
    | none =>
      simp only [ensures_bind, ensures_pure]
      exact fun l _ => ⟨l, rfl⟩
    | some output =>
      simp only [ensures_ite, ensures_bind, ensures_pure]
      exact ⟨fun _ l _ l' _ => ⟨l', rfl⟩, fun _ l _ => ⟨l, rfl⟩⟩
  | maximize | unmaximize | unfullscreen =>
    simp only [ensures_bind, ensures_pure]
    exact fun l _ => ⟨l, rfl⟩

/-- A toplevel that is nowhere to be found is gone. -/
theorem Follows.sendConfigureTo (h : Follows s) {id : Id}
    (hnone : s.layout.findWindowAndOutput id = none) (hnot : Assoc.get s.unmappedWindows id = none ∨
      Assoc.get s.toplevels id = none) : s.sendConfigureTo id = s := by
  have hgone : Assoc.get s.toplevels id = none := by
    rcases hnot with hnot | hnot
    · refine Assoc.get_eq_none_iff.mpr fun hid => ?_
      rcases State.mem_held.mp (h.held hid) with hheld | hheld
      · exact Assoc.get_eq_none_iff.mp hnot hheld
      · exact Layout.findWindowAndOutput_eq_none.mp hnone hheld
    · exact hnot
  rw [State.sendConfigureTo, hgone]

theorem Follows.request (h : Follows s) (hs : s.Sound) (clock : Clock) (id : Id)
    (request : State.Request) : Ensures (s.request clock id request) Follows := by
  unfold State.request
  split
  next found hfound =>
    have hid := Layout.findWindowAndOutput_isSome.mp (Option.isSome_of_eq_some hfound)
    refine ((steady_requestMapped hs.layout clock hid found.2 request).ensures.and
      (requestMapped_eq clock id found.2 request)).mono ?_
    rintro _ ⟨ht, layout, rfl⟩
    exact h.needsConfigure hs hid ht rfl (fun _ => rfl) (fun _ => rfl) rfl rfl
  next hnone =>
    split
    next unmapped toplevel hunmapped htoplevel =>
      split
      next wantsFullscreen wantsMaximized hstate =>
        have ht : Steady True s (s.setUnmapped id { unmapped with
            state := request.want wantsFullscreen wantsMaximized }) :=
          .of_layout hs.layout rfl (Assoc.keys_modify id (fun _ => _) s.unmappedWindows) rfl
        refine ensures_pure.mpr (h.still hs (ht.sound hs) ht.moves rfl (fun id' => ?_)
          (fun _ => rfl) rfl rfl)
        show (Assoc.get (Assoc.modify id (fun _ => _) s.unmappedWindows) id').map _ = _
        refine Assoc.map_get_modify fun unmapped' hunmapped' => ?_
        cases hunmapped.symm.trans hunmapped'
        have hkind : unmapped.kind = none := by rw [Unmapped.kind, hstate]
        rw [hkind]
        cases request <;> rfl
      next data hstate =>
        obtain ⟨-, hhonours⟩ := h.configured hs hunmapped hstate htoplevel
        refine (guarded_reconfigure request).ensures.mono ?_
        rintro _ ⟨data', pending, rfl, hturn⟩
        obtain ⟨hmet, hnot⟩ := hturn _ hhonours
        exact h.tellAgain hs hunmapped htoplevel hstate (maximized_eq_of_honours hmet hnot)
    next hnot =>
      refine ensures_pure.mpr ?_
      rw [h.sendConfigureTo hnone]
      · exact h
      · cases hunmapped : Assoc.get s.unmappedWindows id with
        | none => exact .inl rfl
        | some unmapped =>
          cases htoplevel : Assoc.get s.toplevels id with
          | none => exact .inr rfl
          | some toplevel => exact absurd htoplevel (hnot _ _ hunmapped)

/-- A toplevel that was told already, and is not in the layout, is configured. -/
theorem Follows.phase_of_sent (h : Follows s) {id : Id} {toplevel : Toplevel Id}
    (htoplevel : Assoc.get s.toplevels id = some toplevel)
    (hsent : toplevel.isInitialConfigureSent = true) (hid : id ∉ s.layout.windowIds) :
    s.phase id = some (.configured toplevel.pending) := by
  have htold : s.told id = some (toplevel.serial, toplevel.pending, true) := by
    rw [told_of_get htoplevel, Toplevel.told, hsent]
  have hmatches := h.matches_phase id
  generalize s.phase id = phase at hmatches
  rcases phase with _ | _ | _ | state | _
  · cases htold.symm.trans hmatches
  · obtain ⟨-, _, htold', -⟩ := hmatches
    cases congrArg (·.2.2) (Option.some.inj (htold.symm.trans htold'))
  · obtain ⟨-, _, htold', -⟩ := hmatches
    cases congrArg (·.2.2) (Option.some.inj (htold.symm.trans htold'))
  · obtain ⟨_, _, _, -, htold', -⟩ := hmatches
    cases htold.symm.trans htold'
    rfl
  · exact absurd hmatches hid

/-- What is pending is sent once more. -/
theorem Follows.sendConfigure (h : Follows s) {id : Id} {toplevel : Toplevel Id}
    (htoplevel : Assoc.get s.toplevels id = some toplevel)
    (hphase : s.phase id = some (.configured toplevel.pending)) :
    Follows (s.sendConfigure id toplevel) := by
  have hmatches := h.matches_phase id
  rw [hphase] at hmatches
  obtain ⟨isPendingMaximized, _, _, hkind, -, hmaximized⟩ := hmatches
  have hget : ∀ id', Assoc.get (s.sendConfigure id toplevel).toplevels id' = if id' = id then
      some { toplevel with isInitialConfigureSent := true }
      else Assoc.get s.toplevels id' := fun id' => Assoc.get_modify_of_get htoplevel fun _ => _
  have htold : (s.sendConfigure id toplevel).told id =
      some (toplevel.serial, toplevel.pending, true) :=
    told_of_get ((hget id).trans (if_pos rfl))
  refine h.next (.configure id toplevel.pending) rfl (.inr ⟨_, hphase⟩)
    ⟨_, _, _, hkind, htold, hmaximized⟩ (fun id' hid => frame_of_get ((hget id').trans
      (if_neg hid)) rfl Iff.rfl fun _ => Iff.rfl) rfl rfl
    fun told hget' => ⟨_, told_of_get htoplevel, ?_⟩
  cases htold.symm.trans hget'
  rfl

/-- Whoever asks for decorations was told already. -/
theorem Follows.requestMode (h : Follows s) (hs : s.Sound) (id : Id) :
    Follows (s.requestMode id) := by
  unfold State.requestMode
  split
  next => exact h
  next toplevel htoplevel =>
    split_ifs with hsent
    · split
      next found hfound =>
        exact h.needsConfigure (c := True) hs
          (Layout.findWindowAndOutput_isSome.mp (Option.isSome_of_eq_some hfound))
          (.of_layout hs.layout rfl rfl rfl) rfl (fun _ => rfl) (fun _ => rfl) rfl rfl
      next hnone =>
        exact h.sendConfigure htoplevel
          (h.phase_of_sent htoplevel hsent (Layout.findWindowAndOutput_eq_none.mp hnone))
    · exact h

/-! ### Commits -/

/-- The state once a window has left the layout, and begins anew. -/
def State.unmapped (s : State W Id) (id : Id) (layout : Layout W Id) : State W Id :=
  { s with
    layout
    unmappedWindows := s.unmappedWindows ++ [(id, .new)]
    toplevels := Assoc.modify id (fun toplevel =>
      { toplevel with pending := .default, isInitialConfigureSent := false }) s.toplevels
    log := s.log ++ [.unmapped id] }

theorem get_unmapped_unmapped {id : Id} (hnot : id ∉ Assoc.keys s.unmappedWindows)
    (layout : Layout W Id) (id' : Id) :
    Assoc.get (s.unmapped id layout).unmappedWindows id' =
      if id' = id then some .new else Assoc.get s.unmappedWindows id' := Assoc.get_concat hnot

theorem get_toplevels_unmapped {id : Id} {toplevel : Toplevel Id}
    (htoplevel : Assoc.get s.toplevels id = some toplevel) (layout : Layout W Id) (id' : Id) :
    Assoc.get (s.unmapped id layout).toplevels id' = if id' = id then
      some { toplevel with pending := .default, isInitialConfigureSent := false }
      else Assoc.get s.toplevels id' :=
  Assoc.get_modify_of_get htoplevel fun toplevel =>
    { toplevel with pending := .default, isInitialConfigureSent := false }

theorem unmap_eq (clock : Clock) (id : Id) :
    Ensures (s.unmap clock id) fun t => ∃ layout, t = s.unmapped id layout := by
  unfold State.unmap
  simp only [ensures_bind, ensures_pure]
  exact fun found _ => ⟨found.2, rfl⟩

theorem commitMapped_eq (clock : Clock) (id : Id) (serial : Option ℕ) (delta : Point) :
    Ensures (s.commitMapped clock id serial delta) fun t => ∃ layout, t = { s with layout } := by
  unfold State.commitMapped
  simp only [ensures_bind, ensures_ite, ensures_pure]
  exact fun l _ => ⟨fun _ l' _ => ⟨l', rfl⟩, fun _ => ⟨l, rfl⟩⟩

theorem map_eq [Maps W Id] (clock : Clock) (now : Duration) (strict : Bool) (id : Id)
    (unmapped : Unmapped) (toplevel : Toplevel Id) :
    Ensures (s.map clock now strict id unmapped toplevel) fun t => ∃ layout, t = { s with
      layout
      unmappedWindows := Assoc.remove id s.unmappedWindows
      log := s.log ++ [.mapped id] } := by
  unfold State.map
  simp only [ensures_bind, ensures_ite, ensures_pure]
  exact fun l _ => ⟨fun _ l' _ => ⟨l', rfl⟩, fun _ => ⟨l, rfl⟩⟩

section Commits

variable {id : Id} {c : Prop}

omit [DecidableEq Id] in
theorem Moves.held_iff (h : Moves c [] [] s t) (id : Id) : id ∈ t.held ↔ id ∈ s.held :=
  h.perm.mem_iff

/-- An unmapped window is mapped. -/
theorem Follows.map (h : Follows s) (hs : s.Sound) {layout : Layout W Id} {kind : Option Bool}
    (hkind : s.kind id = some kind)
    (ht : t = { s with
      layout
      unmappedWindows := Assoc.remove id s.unmappedWindows
      log := s.log ++ [.mapped id] })
    (hsound : t.Sound) (hmoves : Moves c [] [] s t) : Follows t := by
  have hget : ∀ id', Assoc.get t.unmappedWindows id' =
      if id' = id then none else Assoc.get s.unmappedWindows id' := by
    intro id'
    rw [ht]
    exact Assoc.get_remove
  have hmapped : id ∈ t.layout.windowIds := by
    rw [layout_iff hsound, hmoves.held_iff, State.kind, hget, if_pos rfl]
    exact ⟨mem_held_of_kind hkind, rfl⟩
  have htold : ∀ id', t.told id' = s.told id' := fun id' => by rw [ht]; rfl
  have hidles : t.idles = s.idles := by rw [ht]
  have hframe : ∀ id' ≠ id, Frame s t id' := by
    refine fun id' hid => frame_of_held hs hsound (htold id') ?_ (hmoves.held_iff id')
      fun serial => by rw [hidles]
    rw [State.kind, hget, if_neg hid, State.kind]
  exact h.next (.mapped id) (by rw [ht]) (h.phase_of_unmapped hs hkind) hmapped hframe (by rw [ht])
    hidles fun told hget' => ⟨told, (htold id).symm.trans hget', rfl⟩

theorem Follows.unmap (h : Follows s) (hs : s.Sound) {layout : Layout W Id}
    (hid : id ∈ s.layout.windowIds)
    (hidle : ∀ toplevel, Assoc.get s.toplevels id = some toplevel → (id, toplevel.serial) ∉ s.idles)
    (hsound : (s.unmapped id layout).Sound) (hmoves : Moves c [] [] s (s.unmapped id layout)) :
    Follows (s.unmapped id layout) := by
  have hget := get_unmapped_unmapped (kind_eq_none.mp ((layout_iff hs).mp hid).2) layout
  obtain ⟨toplevel, htoplevel⟩ := Assoc.exists_get_of_mem_keys
    (hs.living id (State.mem_held.mpr (.inr hid)))
  have hget' := get_toplevels_unmapped htoplevel layout
  have htold := told_of_get ((hget' id).trans (if_pos rfl))
  refine h.next (.unmapped id) rfl (h.phase_of_layout hs hid)
    ⟨kind_of_get ((hget id).trans (if_pos rfl)), _, htold, hidle toplevel htoplevel⟩
    (fun id' hid' => ?_) rfl rfl fun told hget => ⟨_, told_of_get htoplevel, ?_⟩
  · change id' ≠ id at hid'
    refine frame_of_held hs hsound ?_ ?_ (hmoves.held_iff id') fun serial => Iff.rfl
    · rw [State.told, hget', if_neg hid', State.told]
    · rw [State.kind, hget, if_neg hid', State.kind]
  · cases htold.symm.trans hget
    rfl

/-- A window that is to be told is queued. -/
theorem Follows.commit_waiting (h : Follows s) (hs : s.Sound) {unmapped : Unmapped}
    {toplevel : Toplevel Id} (hunmapped : Assoc.get s.unmappedWindows id = some unmapped)
    (htoplevel : Assoc.get s.toplevels id = some toplevel)
    (hneeds : unmapped.needsInitialConfigure = true) :
    Follows { s with
      idles := s.idles ++ [(id, toplevel.serial)]
      log := s.log ++ [.committed id] } := by
  have hkind : s.kind id = some none := by
    rw [kind_of_get hunmapped, kind_eq_none_iff.mpr hneeds]
  have htold : s.told id = some toplevel.told := told_of_get htoplevel
  have hphase := h.phase_of_waiting hs hkind
  obtain ⟨serial, hdefault⟩ := h.told_of_waiting hs hkind
  obtain rfl : toplevel.serial = serial :=
    congrArg Prod.fst (Option.some.inj (htold.symm.trans hdefault))
  have hserial : toplevel.serial < s.nextSerial := h.serials id _ htold
  have hframe : ∀ id' ≠ id, Frame s { s with
      idles := s.idles ++ [(id, toplevel.serial)]
      log := s.log ++ [.committed id] } id' := by
    refine fun id' hid => ⟨rfl, rfl, Iff.rfl, fun serial => ?_⟩
    rw [List.mem_append, or_iff_left]
    intro hp
    exact hid (congrArg Prod.fst (List.mem_singleton.mp hp))
  refine h.event (.committed id) rfl hphase
    ⟨hkind, _, hdefault, List.mem_append_right _ (List.mem_singleton_self _)⟩ hframe le_rfl
      (fun told htold' => h.serials id told htold') fun p hp => ?_
  rcases List.mem_append.mp hp with hp | hp
  · exact h.idles p hp
  · rw [List.mem_singleton.mp hp]
    exact hserial

end Commits

/-- A client that maps its window before it is told does not unmap it before callbacks run. -/
def Step.Patient (s : State W Id) : Step W Id → Prop
  | .commit _ id found => found.isMapped = false → id ∈ s.layout.windowIds → ∀ toplevel,
      Assoc.get s.toplevels id = some toplevel → (id, toplevel.serial) ∉ s.idles
  | _ => True

theorem Follows.commit [Maps W Id] (h : Follows s) (hs : s.Sound) (clock : Clock) (strict : Bool)
    (id : Id) (commit : State.Commit)
    (hpatient : (Step.commit (W := W) strict id commit).Patient s) :
    Ensures (s.commit clock strict id commit) Follows := by
  have hmoves := (moves_commit hs clock strict id commit).ensures
  have hchanged : ∀ {t : State W Id}, Moves _ [] [] s t ∧
      Assoc.keys t.toplevels = Assoc.keys s.toplevels → t.Sound := fun ht =>
    Changed.sound (a := .commit strict id commit) hs trivial ⟨ht.1, ht.2⟩
  unfold State.commit at hmoves ⊢
  split at hmoves
  next unmapped toplevel hunmapped htoplevel =>
    rw [ensures_ite, ensures_ite] at hmoves ⊢
    refine ⟨fun hmapped => ?_, fun hmapped => ⟨fun hneeds => ?_, fun _ => ensures_pure.mpr h⟩⟩
    · refine ((hmoves.1 hmapped).and (map_eq clock commit.now strict id unmapped toplevel)).mono ?_
      rintro t ⟨ht, layout, heq⟩
      exact h.map hs (kind_of_get hunmapped) heq (hchanged ht) ht.1
    · exact ensures_pure.mpr (h.commit_waiting hs hunmapped htoplevel hneeds)
  next =>
    split at hmoves
    next found hfound =>
      have hid := Layout.findWindowAndOutput_isSome.mp (Option.isSome_of_eq_some hfound)
      rw [ensures_ite] at hmoves ⊢
      refine ⟨fun hmapped => ?_, fun hmapped => ?_⟩
      · refine ((steady_commitMapped hs.layout clock hid commit.serial commit.delta).ensures.and
          (commitMapped_eq clock id commit.serial commit.delta)).mono ?_
        rintro _ ⟨ht, layout, rfl⟩
        exact h.still hs (ht.sound hs) ht.moves rfl (fun _ => rfl) (fun _ => rfl) rfl rfl
      · refine ((hmoves.2 hmapped).and (unmap_eq clock id)).mono ?_
        rintro _ ⟨ht, layout, rfl⟩
        exact h.unmap hs hid (hpatient (Bool.eq_false_iff.mpr hmapped) hid) (hchanged ht) ht.1
    next => exact ensures_pure.mpr h

/-! ### Toplevels that come and go -/

/-- No one knows of a toplevel that is not there. -/
theorem Follows.phase_of_gone (h : Follows s) (hs : s.Sound) {id : Id}
    (hnew : id ∉ Assoc.keys s.toplevels) :
    s.phase id = none := by
  have htold := told_eq_none.mpr hnew
  have hmatches := h.matches_phase id
  generalize s.phase id = phase at hmatches ⊢
  rcases phase with _ | _ | _ | state | _
  · rfl
  · obtain ⟨-, _, htold', -⟩ := hmatches
    cases htold.symm.trans htold'
  · obtain ⟨-, _, htold', -⟩ := hmatches
    cases htold.symm.trans htold'
  · obtain ⟨_, _, _, -, htold', -⟩ := hmatches
    cases htold.symm.trans htold'
  · exact absurd (hs.living id (State.mem_held.mpr (.inr hmatches))) hnew

theorem Follows.newToplevel (h : Follows s) {id : Id} (hnew : id ∉ Assoc.keys s.toplevels)
    (hs : s.Sound) : Ensures (s.newToplevel id) Follows := by
  have hunmapped : id ∉ Assoc.keys s.unmappedWindows :=
    fun hid => hnew (hs.living id (State.mem_held.mpr (.inl hid)))
  unfold State.newToplevel
  simp only [ensures_bind, ensures_pure, ensures_assert]
  intro _
  generalize ht : ({ s with
      unmappedWindows := s.unmappedWindows ++ [(id, Unmapped.new)]
      toplevels := s.toplevels ++
        [(id, ⟨s.nextSerial, none, ⟨0, 0⟩, ⟨0, 0⟩, .default, false⟩)]
      nextSerial := s.nextSerial + 1
      log := s.log ++ [.created id] } : State W Id) = t
  have hget : ∀ id', Assoc.get t.unmappedWindows id' =
      if id' = id then some .new else Assoc.get s.unmappedWindows id' := by
    intro id'
    rw [← ht]
    exact Assoc.get_concat hunmapped
  have hget' : ∀ id', Assoc.get t.toplevels id' = if id' = id then
      some ⟨s.nextSerial, none, ⟨0, 0⟩, ⟨0, 0⟩, .default, false⟩
      else Assoc.get s.toplevels id' := by
    intro id'
    rw [← ht]
    exact Assoc.get_concat hnew
  have hidles : t.idles = s.idles := by rw [← ht]
  have hnext : t.nextSerial = s.nextSerial + 1 := by rw [← ht]
  have hkind : t.kind id = some none := kind_of_get ((hget id).trans (if_pos rfl))
  have htold : t.told id = some (s.nextSerial, .default, false) :=
    told_of_get ((hget' id).trans (if_pos rfl))
  have hidle : (id, s.nextSerial) ∉ t.idles := by
    rw [hidles]
    exact fun hp => (h.idles _ hp).ne rfl
  have hframe : ∀ id' ≠ id, Frame s t id' := by
    refine fun id' hid => frame_of_get ?_ ?_ (by rw [← ht]) fun serial => by rw [hidles]
    · rw [hget', if_neg hid]
    · rw [hget, if_neg hid]
  refine h.event (.created id) (by rw [← ht]) (h.phase_of_gone hs hnew) ⟨hkind, _, htold, hidle⟩
    hframe (hnext ▸ Nat.le_succ _) (fun told htold' => ?_) fun p hp => ?_
  · rw [hnext, ← Option.some.inj (htold.symm.trans htold')]
    exact Nat.lt_succ_self _
  · rw [hnext]
    exact (h.idles p (hidles ▸ hp)).trans (Nat.lt_succ_self _)

theorem toplevelDestroyed_eq (clock : Clock) (id : Id) :
    Ensures (s.toplevelDestroyed clock id) fun t => ∃ layout unmappedWindows, t = { s with
      layout
      unmappedWindows
      toplevels := Assoc.remove id s.toplevels
      log := s.log ++ [.destroyed id] } ∧
        ∀ id' ≠ id, Assoc.get unmappedWindows id' = Assoc.get s.unmappedWindows id' := by
  unfold State.toplevelDestroyed
  dsimp only
  split
  · refine ensures_pure.mpr ⟨_, _, rfl, fun id' hid => ?_⟩
    rw [Assoc.get_remove, if_neg hid]
  · split
    · simp only [ensures_bind, ensures_pure]
      exact fun found _ => ⟨found.2, _, rfl, fun _ _ => rfl⟩
    · exact ensures_pure.mpr ⟨_, _, rfl, fun _ _ => rfl⟩

theorem Follows.toplevelDestroyed (h : Follows s) (hs : s.Sound) (clock : Clock) {id : Id}
    (hid : id ∈ Assoc.keys s.toplevels) : Ensures (s.toplevelDestroyed clock id) Follows := by
  refine ((changed_toplevelDestroyed hs clock id).ensures.and
    (toplevelDestroyed_eq clock id)).mono ?_
  rintro t ⟨hc, layout, unmappedWindows, ht, hothers⟩
  have hsound := Changed.sound (a := .toplevelDestroyed id) hs hid hc
  have hget' : ∀ id', Assoc.get t.toplevels id' =
      if id' = id then none else Assoc.get s.toplevels id' := by
    intro id'
    rw [ht]
    exact Assoc.get_remove
  have hidles : t.idles = s.idles := by rw [ht]
  have htold : t.told id = none := by
    rw [State.told, hget', if_pos rfl]
    rfl
  have hheld : ∀ id' ≠ id, (id' ∈ t.held ↔ id' ∈ s.held) := by
    intro id' hne
    have hmem := hc.moves.perm.mem_iff (a := id')
    rw [List.mem_append, or_iff_right] at hmem
    · exact hmem
    · rw [Step.takes]
      split_ifs
      · exact fun hp => hne (List.mem_singleton.mp hp)
      · exact List.not_mem_nil
  have hframe : ∀ id' ≠ id, Frame s t id' := by
    refine fun id' hne => frame_of_held hs hsound ?_ ?_ (hheld id' hne) fun serial => by rw [hidles]
    · rw [State.told, hget', if_neg hne, State.told]
    · rw [State.kind, ht, State.kind, ← hothers id' hne]
  refine h.next (.destroyed id) (by rw [ht]) (fun hphase => ?_) htold hframe (by rw [ht]) hidles
    fun told hget => ?_
  · have hmatches := h.matches_phase id
    rw [show s.phase id = none from hphase] at hmatches
    exact told_eq_none.mp hmatches hid
  · cases htold.symm.trans hget

/-! ### Callbacks that come too late -/

section Late

variable {id : Id} {serial : ℕ} {unmapped : Unmapped} {toplevel : Toplevel Id}

/-- A toplevel is about to be told, and its client has not committed. -/
structure Late (s : State W Id) (id : Id) (serial : ℕ) : Prop where
  phase : s.phase id = some .created
  kind : s.kind id = some none
  told : ∃ pending sent, s.told id = some (serial, pending, sent)

/-- Something happened that was not expected. -/
def State.Strays (s : State W Id) : Prop := ¬(tracker Id).ExpectsAll (fun _ => none) s.log

omit [LayoutElement W Id] in
theorem State.Strays.tell (h : s.Strays) (id : Id) (unmapped : Unmapped) (toplevel : Toplevel Id)
    (data : Configured) (pending : ToplevelState) :
    (s.tell id unmapped toplevel data pending).Strays := by
  intro hexpects
  refine h ?_
  have hlog : (s.tell id unmapped toplevel data pending).log = s.log ++ [.configure id pending] :=
    rfl
  rw [hlog, Reader.expectsAll_append] at hexpects
  exact hexpects.1

theorem State.Strays.foldl (h : s.Strays) (rules : Id → ResolvedWindowRules)
    (outputs : List Output) (idles : List (Id × ℕ)) :
    Ensures (idles.foldlM (fun v idle => v.sendQueued (rules idle.1) outputs idle.1 idle.2) s)
      State.Strays := by
  induction idles generalizing s with
  | nil => exact ensures_pure.mpr h
  | cons idle idles ih =>
    rw [List.foldlM_cons, ensures_bind]
    refine (sendQueued_cases (rules idle.1) outputs idle.1 idle.2).mono fun t ht => ?_
    rcases ht with ⟨unmapped, toplevel, data, pending, -, rfl, -⟩ | ⟨rfl, -⟩
    · exact ih (h.tell idle.1 unmapped toplevel data pending)
    · exact ih h

omit [LayoutElement W Id] in
/-- A configure that answers no commit. -/
theorem Late.strays (h : Late s id serial) (unmapped : Unmapped) (toplevel : Toplevel Id)
    (data : Configured) (pending : ToplevelState) :
    (s.tell id unmapped toplevel data pending).Strays := by
  intro hexpects
  have hlog : (s.tell id unmapped toplevel data pending).log = s.log ++ [.configure id pending] :=
    rfl
  rw [hlog, Reader.expectsAll_append] at hexpects
  rcases hexpects.2.1 with hphase | ⟨state, hphase⟩
  · cases h.phase.symm.trans hphase
  · cases h.phase.symm.trans hphase

omit [LayoutElement W Id] in
theorem Late.tell (h : Late s id serial) {id' : Id} (hid : id ≠ id')
    (hunmapped : Assoc.get s.unmappedWindows id' = some unmapped)
    (htoplevel : Assoc.get s.toplevels id' = some toplevel) (data : Configured)
    (pending : ToplevelState) : Late (s.tell id' unmapped toplevel data pending) id serial := by
  have htold : (s.tell id' unmapped toplevel data pending).told id = s.told id := by
    rw [State.told, get_toplevels_tell htoplevel, if_neg hid, State.told]
  have hkind : (s.tell id' unmapped toplevel data pending).kind id = s.kind id := by
    rw [State.kind, get_unmapped_tell hunmapped, if_neg hid, State.kind]
  refine ⟨?_, hkind.trans h.kind, htold ▸ h.told⟩
  rw [phase_concat (s := s) rfl]
  exact (Function.update_of_ne hid ..).trans h.phase

/-- When its callback runs, at the latest, the client is told. -/
theorem Late.foldl (h : Late s id serial) (rules : Id → ResolvedWindowRules)
    (outputs : List Output) {idles : List (Id × ℕ)} (hidle : (id, serial) ∈ idles) :
    Ensures (idles.foldlM (fun v idle => v.sendQueued (rules idle.1) outputs idle.1 idle.2) s)
      State.Strays := by
  induction idles generalizing s with
  | nil => cases hidle
  | cons idle idles ih =>
    rw [List.foldlM_cons, ensures_bind]
    refine (sendQueued_cases (rules idle.1) outputs idle.1 idle.2).mono fun t ht => ?_
    obtain ⟨pending, sent, htold⟩ := h.told
    obtain ⟨toplevel, htoplevel, hserial⟩ := Option.map_eq_some_iff.mp htold
    obtain ⟨unmapped, hunmapped, hkind⟩ := Option.map_eq_some_iff.mp h.kind
    rcases ht with ⟨unmapped', toplevel', data, pending', hwaits, rfl, -⟩ | ⟨rfl, hnot⟩
    · by_cases hid : id = idle.1
      · rw [← hid]
        exact State.Strays.foldl (h.strays unmapped' toplevel' data pending') rules outputs idles
      · refine ih (h.tell hid hwaits.get_unmapped hwaits.get_toplevel data pending')
          ((List.mem_cons.mp hidle).resolve_left fun heq => hid ?_)
        exact congrArg Prod.fst heq
    · refine ih h ((List.mem_cons.mp hidle).resolve_left ?_)
      rintro rfl
      exact hnot unmapped toplevel
        ⟨hunmapped, htoplevel, congrArg Prod.fst hserial, kind_eq_none_iff.mp hkind⟩

end Late

/-! ### Runs -/

/-- No window is dropped along with its workspace, and none is unmapped while it is queued. -/
def proper (s : State W Id) (a : Clock × Step W Id) : Prop :=
  a.2.Lawful s ∧ a.2.drops s = [] ∧ a.2.Patient s

variable [Maps W Id]

omit [Maps W Id] in
theorem parentChanged_eq (id : Id) (parent : Option Id) :
    Ensures (s.parentChanged id parent) fun t => ∃ layout, t = { s with
      layout
      toplevels := Assoc.modify id (fun toplevel => { toplevel with parent }) s.toplevels } := by
  unfold State.parentChanged
  dsimp only
  split
  · simp only [ensures_bind, ensures_pure]
    exact fun l _ => ⟨l, rfl⟩
  · exact ensures_pure.mpr ⟨_, rfl⟩

omit [LayoutElement W Id] [Maps W Id] in
/-- Updates that leave the kind of a window, or what is told of a toplevel. -/
theorem kind_modify {f : Unmapped → Unmapped} (hf : ∀ unmapped, (f unmapped).kind = unmapped.kind)
    {id : Id} (ht : t.unmappedWindows = Assoc.modify id f s.unmappedWindows) (id' : Id) :
    t.kind id' = s.kind id' := by
  rw [State.kind, ht]
  exact Assoc.map_get_modify fun unmapped _ => hf unmapped

omit [LayoutElement W Id] [Maps W Id] in
theorem told_modify {f : Toplevel Id → Toplevel Id}
    (hf : ∀ toplevel, (f toplevel).told = toplevel.told) {id : Id}
    (ht : t.toplevels = Assoc.modify id f s.toplevels) (id' : Id) : t.told id' = s.told id' := by
  rw [State.told, ht]
  exact Assoc.map_get_modify fun toplevel _ => hf toplevel

omit [LayoutElement W Id] [Maps W Id] in
theorem kind_updateRules (s : State W Id) (id : Id) (rules : ResolvedWindowRules) (id' : Id) :
    (s.updateRules id rules).kind id' = s.kind id' := by
  unfold State.updateRules State.kind
  rw [Assoc.map_get_modify (l := s.unmappedWindows)]
  intro unmapped _
  cases hstate : unmapped.state with
  | configured data => simp only [Unmapped.kind, hstate]
  | notConfigured wantsFullscreen wantsMaximized => simp only [Unmapped.kind, hstate]

/-- Every step keeps to the phases. -/
theorem step_told (h : Follows s) (hs : s.Sound) (clock : Clock) {a : Step W Id}
    (ha : proper s (clock, a)) : Ensures (step clock s a) Follows := by
  obtain ⟨hlawful, hdrops, hpatient⟩ := ha
  have hchanged := (step_changed hs clock hlawful).ensures
  cases a with
  | newToplevel id => exact h.newToplevel hlawful hs
  | parentChanged id parent =>
    refine (hchanged.and (parentChanged_eq id parent)).mono ?_
    rintro _ ⟨ht, layout, rfl⟩
    exact h.still hs (ht.sound hs hlawful) ht.moves rfl (fun _ => rfl)
      (told_modify (f := fun toplevel => { toplevel with parent }) (fun _ => rfl) rfl) rfl rfl
  | setMinMaxSize id minSize maxSize =>
    have ht := ensures_pure.mp hchanged
    exact ensures_pure.mpr (h.still hs (ht.sound hs hlawful) ht.moves rfl (fun _ => rfl)
      (told_modify (f := fun toplevel => { toplevel with minSize, maxSize }) (fun _ => rfl) rfl)
      rfl rfl)
  | commit strict id commit => exact h.commit hs clock strict id commit hpatient
  | dispatchIdles rules outputs =>
    exact (h.dispatchIdles hs rules outputs).mono fun t ht => ht.1
  | request id request => exact h.request hs clock id request
  | requestMode id => exact ensures_pure.mpr (h.requestMode hs id)
  | requestActivation id now timestamp =>
    have ht := ensures_pure.mp hchanged
    refine ensures_pure.mpr ?_
    unfold State.requestActivation at ht ⊢
    split_ifs at ht ⊢ with hrecent
    · exact h.still hs (ht.sound hs hlawful) ht.moves rfl
        (kind_modify (f := fun unmapped => { unmapped with activationTokenData := some timestamp })
          (fun _ => rfl) rfl) (fun _ => rfl) rfl rfl
    · exact h
  | updateRules id rules =>
    have ht := ensures_pure.mp hchanged
    exact ensures_pure.mpr (h.still hs (ht.sound hs hlawful) ht.moves rfl
      (kind_updateRules s id rules) (fun _ => rfl) rfl rfl)
  | toplevelDestroyed id => exact h.toplevelDestroyed hs clock hlawful
  | layout op =>
    -- what the layout closes by itself it drops, and there is nothing of it
    have hshape : Ensures (step clock s (.layout op)) fun t => ∃ layout, t = { s with layout } := by
      simp only [step, ensures_bind, ensures_pure]
      exact fun l _ => ⟨l, rfl⟩
    refine (hchanged.and hshape).mono ?_
    rintro _ ⟨ht, layout, rfl⟩
    have hmoves := ht.moves
    rw [show (Step.layout op).takes s = [] from hdrops] at hmoves
    exact h.still hs (ht.sound hs hlawful) hmoves rfl (fun _ => rfl) (fun _ => rfl) rfl rfl

theorem told_initial (h : (machine W Id).initial s) : Follows s := by
  obtain ⟨-, -, htoplevels, hidles, hlog⟩ := h
  have htold : ∀ id, s.told id = none := by
    intro id
    rw [State.told, htoplevels]
    rfl
  have hphase : ∀ id, s.phase id = none := by
    intro id
    rw [State.phase, hlog]
    rfl
  refine ⟨?_, fun id => ?_, fun id told hget => ?_, fun p hp => ?_⟩
  · rw [hlog]
    trivial
  · rw [hphase]
    exact htold id
  · cases (htold id).symm.trans hget
  · rw [hidles] at hp
    exact absurd hp List.not_mem_nil

theorem reachable_sound_told (h : (machine W Id).ReachableBy proper s) : s.Sound ∧ Follows s :=
  h.invariant (P := fun s => s.Sound ∧ Follows s)
    (fun _ hs => ⟨(sound_initial hs).1, told_initial hs⟩) fun _ a hs ha =>
      ((step_changed hs.1 a.1 ha.1).ensures.and (step_told hs.2 hs.1 a.1 ha)).mono fun _ ht =>
        ⟨ht.1.sound hs.1 ha.1, ht.2⟩

/-- Every event was expected by the client.  It knows of the toplevels that there are, and which of
their windows are in the layout; and an unmapped window that is configured was told last what is
pending. -/
theorem reachable_told (h : (machine W Id).ReachableBy proper s) :
    (tracker Id).ExpectsAll (fun _ => none) s.log ∧
      (∀ id, s.phase id = none ↔ id ∉ Assoc.keys s.toplevels) ∧
      (∀ id, s.phase id = some .mapped ↔ id ∈ s.layout.windowIds) ∧
      ∀ id unmapped toplevel, Assoc.get s.unmappedWindows id = some unmapped →
        Assoc.get s.toplevels id = some toplevel → unmapped.needsInitialConfigure = false →
          s.phase id = some (.configured toplevel.pending) := by
  obtain ⟨hs, htold⟩ := reachable_sound_told h
  refine ⟨htold.expects, fun id => ⟨fun hphase => ?_, htold.phase_of_gone hs⟩, fun id =>
    ⟨fun hphase => ?_, htold.phase_of_layout hs⟩,
    fun id unmapped toplevel hunmapped htoplevel hneeds => ?_⟩
  · have hmatches := htold.matches_phase id
    rw [hphase] at hmatches
    exact told_eq_none.mp hmatches
  · have hmatches := htold.matches_phase id
    rw [hphase] at hmatches
    exact hmatches
  · cases hstate : unmapped.state with
    | notConfigured wantsFullscreen wantsMaximized =>
      rw [Unmapped.needsInitialConfigure, hstate] at hneeds
      cases hneeds
    | configured data => exact (htold.configured hs hunmapped hstate htoplevel).1

/-- Besides, indices are left in range. -/
def orderly (s : State W Id) (a : Clock × Step W Id) : Prop := proper s a ∧ a.2.KeepsIndices s

theorem reachable_orderly (h : (machine W Id).ReachableBy orderly s) :
    s.Sound ∧ s.layout.InRange ∧ Follows s :=
  have hcareful := reachable_careful (h.mono fun _ _ ha => ⟨ha.1.1, ha.2⟩)
  ⟨hcareful.1, hcareful.2, (reachable_sound_told (h.mono fun _ _ ha => ha.1)).2⟩

/-- Once idle callbacks have run, every client that waited was told how to show its window, and none
waits any more. -/
theorem reachable_answered (h : (machine W Id).ReachableBy orderly s) (clock : Clock)
    (rules : Id → ResolvedWindowRules) (outputs : List Output) :
    Returns (step clock s (.dispatchIdles rules outputs)) fun t =>
      t.idles = [] ∧ (∀ id, t.phase id ≠ some .committed) ∧
        ∀ id, s.phase id = some .committed → Answered rules s t id := by
  obtain ⟨hs, hinRange, htold⟩ := reachable_orderly h
  refine (((step_changed hs clock (a := .dispatchIdles rules outputs) trivial).returns
    ⟨hinRange, trivial⟩).and_ensures (htold.dispatchIdles hs rules outputs)).mono fun t ht => ?_
  obtain ⟨-, htold', hidles, hanswered⟩ := ht
  refine ⟨hidles, fun id hphase => ?_, hanswered⟩
  have hmatches := htold'.matches_phase id
  rw [hphase] at hmatches
  obtain ⟨-, serial, -, hidle⟩ := hmatches
  rw [hidles] at hidle
  exact absurd hidle List.not_mem_nil

/-- A request turns the wishes of an unmapped window.  Before it is configured nothing is told; once
it is, the client is told what is pending, and its wishes are turned if there is a place to open
on. -/
theorem reachable_request (h : (machine W Id).ReachableBy orderly s) (clock : Clock) {id : Id}
    {unmapped : Unmapped} {toplevel : Toplevel Id}
    (hunmapped : Assoc.get s.unmappedWindows id = some unmapped)
    (htoplevel : Assoc.get s.toplevels id = some toplevel) (request : State.Request) :
    Returns (step clock s (.request id request)) fun t => ∃ unmapped' toplevel',
      Assoc.get t.unmappedWindows id = some unmapped' ∧
      Assoc.get t.toplevels id = some toplevel' ∧
      (unmapped.needsInitialConfigure = true → t.log = s.log ∧
        unmapped'.state.wishes toplevel'.pending =
          (unmapped.state.wishes toplevel.pending).turn request) ∧
      ∀ data, unmapped.state = .configured data →
        t.log = s.log ++ [.configure id toplevel'.pending] ∧
        (s.Offers (request.workspaceName data) → unmapped'.state.wishes toplevel'.pending =
          (unmapped.state.wishes toplevel.pending).turn request) ∧
        (¬s.Offers (request.workspaceName data) → unmapped'.state.wishes toplevel'.pending =
          unmapped.state.wishes toplevel.pending) := by
  obtain ⟨hs, hinRange, htold⟩ := reachable_orderly h
  have hnone : s.layout.findWindowAndOutput id = none :=
    Layout.findWindowAndOutput_eq_none.mpr (hs.not_layout (kind_of_get hunmapped))
  rw [step, State.request, hnone]
  dsimp only
  rw [hunmapped, htoplevel]
  dsimp only
  cases hstate : unmapped.state with
  | notConfigured wantsFullscreen wantsMaximized =>
    refine returns_pure.mpr ⟨_, toplevel, (Assoc.get_modify_of_get hunmapped fun _ => _).trans (if_pos rfl),
      htoplevel, fun _ => ⟨rfl, wishes_want wantsFullscreen wantsMaximized request⟩, ?_⟩
    rintro data ⟨⟩
  | configured data =>
    obtain ⟨-, hhonours⟩ := htold.configured hs hunmapped hstate htoplevel
    refine ((guarded_reconfigure request).returns hinRange).mono ?_
    rintro _ ⟨data', pending, rfl, hturn⟩
    obtain ⟨hmet, hnot⟩ := hturn _ hhonours
    refine ⟨_, _, (get_unmapped_tell hunmapped ..).trans (if_pos rfl),
      (get_toplevels_tell htoplevel ..).trans (if_pos rfl), fun hneeds => ?_, ?_⟩
    · rw [Unmapped.needsInitialConfigure, hstate] at hneeds
      cases hneeds
    · rintro _ ⟨⟩
      exact ⟨rfl, fun hplace => (hmet hplace).wishes_eq, fun hplace => (hnot hplace).wishes_eq⟩

/-! ### Concrete runs -/

def Step.isPatient (s : State W Id) : Step W Id → Bool
  | .commit _ id found => found.isMapped || id ∉ s.layout.windowIds
  | _ => true

/-- Steps of which it is seen at once that they are orderly. -/
def Step.isOrderly (s : State W Id) (a : Step W Id) : Bool :=
  a.isTame s && (a.drops s).isEmpty && a.isPatient s

omit [Maps W Id] in
theorem orderly_of_isOrderly {a : Clock × Step W Id} (h : a.2.isOrderly s = true) :
    orderly s a := by
  obtain ⟨clock, a⟩ := a
  rw [Step.isOrderly, Bool.and_eq_true, Bool.and_eq_true] at h
  obtain ⟨⟨htame, hdrops⟩, hpatient⟩ := h
  obtain ⟨hlawful, hkeeps⟩ := careful_of_isTame (a := (clock, a)) htame
  refine ⟨⟨hlawful, List.isEmpty_iff.mp hdrops, ?_⟩, hkeeps⟩
  cases a with
  | commit strict id found =>
    intro hmapped hid
    rw [Step.isPatient, hmapped, Bool.false_or, decide_eq_true_eq] at hpatient
    exact absurd hid hpatient
  | newToplevel | parentChanged | setMinMaxSize | dispatchIdles | request | requestMode
  | requestActivation | updateRules | toplevelDestroyed | layout => exact trivial

theorem exists_after_orderly {p : State Sample.Toplevel ℕ → Bool}
    (as : List (Clock × Step Sample.Toplevel ℕ))
    (hrun : ((machine Sample.Toplevel ℕ).run (fun s a => a.2.isOrderly s = true)
      (Sample.shell (Sample.config [Sample.abovePart])) as).any p = true) :
    ∃ s, (machine Sample.Toplevel ℕ).ReachableBy orderly s ∧ p s = true := by
  obtain ⟨s, hs, hends⟩ := Machine.exists_reachableBy (M := machine Sample.Toplevel ℕ) as
    ⟨⟨0, _, rfl⟩, rfl, rfl, rfl, rfl⟩ hrun
  exact ⟨s, hs.mono fun _ _ ha => orderly_of_isOrderly ha, hends⟩

/-- One window is mapped, and the other was told what is pending. -/
theorem reachable_told_mapped : ∃ (s : State Sample.Toplevel ℕ) (toplevel : Toplevel ℕ),
    s.phase 1 = some .mapped ∧ Assoc.get s.toplevels 2 = some toplevel ∧
      s.phase 2 = some (.configured toplevel.pending) := by
  obtain ⟨s, hs, hends⟩ := exists_after_orderly
    (p := fun s => decide (1 ∈ s.layout.windowIds) && (Assoc.get s.toplevels 2).isSome &&
      (Assoc.get s.unmappedWindows 2).any fun unmapped => !unmapped.needsInitialConfigure)
    Sample.mapping (by decide +kernel)
  rw [Bool.and_eq_true, Bool.and_eq_true, Option.isSome_iff_exists, Option.any_eq_true] at hends
  obtain ⟨⟨hlayout, toplevel, htoplevel⟩, unmapped, hunmapped, hneeds⟩ := hends
  rw [Bool.not_eq_true'] at hneeds
  obtain ⟨-, -, hmapped, hconfigured⟩ := reachable_told (hs.mono fun _ _ ha => ha.1)
  exact ⟨s, toplevel, (hmapped 1).mpr (of_decide_eq_true hlayout), htoplevel,
    hconfigured 2 unmapped toplevel hunmapped htoplevel hneeds⟩

/-- Both windows wait, and both are told. -/
theorem reachable_answered_waiting : ∃ s t : State Sample.Toplevel ℕ,
    step Sample.clock s (.dispatchIdles (fun _ => Sample.focusingRules) []) = .ok t ∧
      Answered (fun _ => Sample.focusingRules) s t 1 ∧
      Answered (fun _ => Sample.focusingRules) s t 2 := by
  obtain ⟨s, hs, hends⟩ := exists_after_orderly
    (p := fun s => decide (s.phase 1 = some .committed ∧ s.phase 2 = some .committed))
    (Sample.mapping.take 5) (by decide +kernel)
  obtain ⟨hfirst, hsecond⟩ := of_decide_eq_true hends
  obtain ⟨t, ht, -, -, hanswered⟩ :=
    reachable_answered hs Sample.clock (fun _ => Sample.focusingRules) []
  exact ⟨s, t, ht, hanswered 1 hfirst, hanswered 2 hsecond⟩

/-- The window that is configured asks to be maximized, and is told so. -/
theorem reachable_request_configured : ∃ (s t : State Sample.Toplevel ℕ) (toplevel : Toplevel ℕ),
    step Sample.clock s (.request 2 .maximize) = .ok t ∧
      Assoc.get t.toplevels 2 = some toplevel ∧
      t.log = s.log ++ [.configure 2 toplevel.pending] := by
  obtain ⟨s, hs, hends⟩ := exists_after_orderly
    (p := fun s => decide (s.kind 2 = some (some false)) && (Assoc.get s.toplevels 2).isSome)
    Sample.mapping (by decide +kernel)
  rw [Bool.and_eq_true, Option.isSome_iff_exists, decide_eq_true_eq] at hends
  obtain ⟨hkind, toplevel, htoplevel⟩ := hends
  obtain ⟨unmapped, hunmapped, hkind⟩ := Option.map_eq_some_iff.mp hkind
  obtain ⟨t, ht, _, toplevel', -, htoplevel', -, hconfigured⟩ :=
    reachable_request hs Sample.clock hunmapped htoplevel .maximize
  cases hstate : unmapped.state with
  | notConfigured wantsFullscreen wantsMaximized =>
    rw [Unmapped.kind, hstate] at hkind
    cases hkind
  | configured data => exact ⟨s, t, toplevel', ht, htoplevel', (hconfigured data hstate).1⟩

end Shell

end Sol
