import Sol.Toplevels

/-!
# What happens to toplevels

The windows that are held are those that are unmapped and those in the layout.  Each step of the
shell is described by what it brings in and what it takes out of them.

* `findWindowAndOutput_isSome`: the windows that are found are those of the layout;
* `step_changed`: what one step does.
-/

namespace Sol

open Panicking

namespace Layout

variable {W Id : Type} [LayoutElement W Id] {l : Layout W Id} {c : Prop}

/-! ### Looking up -/

theorem findIn_eq_some [DecidableEq Id] {wss : List (Workspace W Id)} {surface : Id} {window : W}
    (h : findIn wss surface = some window) : LayoutElement.id window = surface := by
  unfold findIn at h
  have hid := List.find?_some h
  exact of_decide_eq_true hid

theorem findIn_isSome [DecidableEq Id] {wss : List (Workspace W Id)} {surface : Id} :
    (findIn wss surface).isSome = true ↔ surface ∈ wss.flatMap (·.windowIds) := by
  unfold findIn
  rw [List.find?_isSome]
  simp only [List.mem_flatMap, List.mem_map, Workspace.windowIds, decide_eq_true_eq]
  constructor
  · rintro ⟨window, ⟨ws, hws, tile, htile, rfl⟩, hid⟩
    exact ⟨ws, hws, tile, htile, hid⟩
  · rintro ⟨ws, hws, tile, htile, hid⟩
    exact ⟨tile.window, ⟨ws, hws, tile, htile, rfl⟩, hid⟩

theorem id_findWindowAndOutput [DecidableEq Id] {surface : Id} {found : W × Option Output}
    (h : l.findWindowAndOutput surface = some found) : LayoutElement.id found.1 = surface := by
  unfold findWindowAndOutput at h
  cases hmoved : l.moved.filter fun data => data.tile.windowId = surface with
  | some data =>
    rw [hmoved] at h
    cases h
    exact of_decide_eq_true (Option.filter_eq_some_iff.mp hmoved).2
  | none =>
    rw [hmoved] at h
    cases hset : l.monitorSet with
    | normal ms p a =>
      rw [hset] at h
      obtain ⟨m, -, hm⟩ := List.exists_of_findSome?_eq_some h
      obtain ⟨window, hwindow, rfl⟩ := Option.map_eq_some_iff.mp hm
      exact findIn_eq_some hwindow
    | noOutputs wss =>
      rw [hset] at h
      obtain ⟨window, hwindow, rfl⟩ := Option.map_eq_some_iff.mp h
      exact findIn_eq_some hwindow

/-- A window is found if it is anywhere in the layout. -/
theorem findWindowAndOutput_isSome [DecidableEq Id] {surface : Id} :
    (l.findWindowAndOutput surface).isSome = true ↔ surface ∈ l.windowIds := by
  have hmovedIds : surface ∈ l.movedIds ↔
      (l.moved.filter fun data => data.tile.windowId = surface).isSome = true := by
    unfold movedIds
    cases l.moved with
    | none => simp
    | some data => simp [Option.filter_some, eq_comm, apply_ite]
  unfold findWindowAndOutput
  cases hmoved : l.moved.filter fun data => data.tile.windowId = surface with
  | some data =>
    rw [windowIds_eq]
    exact iff_of_true rfl (List.mem_append_right _ (hmovedIds.mpr (hmoved ▸ rfl)))
  | none =>
    have hnot : surface ∉ l.movedIds := by
      rw [hmovedIds, hmoved]
      exact Bool.false_ne_true
    cases hset : l.monitorSet with
    | normal ms p a =>
      rw [windowIds_of_normal hset, List.mem_append, or_iff_left hnot]
      change (ms.findSome? _).isSome = true ↔ _
      rw [List.findSome?_isSome_iff]
      simp only [Option.isSome_map, findIn_isSome, List.mem_flatMap (b := surface) (l := ms)]
      exact Iff.rfl
    | noOutputs wss =>
      rw [windowIds_of_noOutputs hset, List.mem_append, or_iff_left hnot, ← findIn_isSome]
      exact Bool.eq_iff_iff.mp Option.isSome_map

theorem findWindowAndOutput_eq_none [DecidableEq Id] {surface : Id} :
    l.findWindowAndOutput surface = none ↔ surface ∉ l.windowIds := by
  rw [← findWindowAndOutput_isSome, Option.not_isSome_iff_eq_none]

/-! ### The active monitor -/

omit [LayoutElement W Id] in
theorem guarded_activeMonitorRef : Guarded l.InRange l.activeMonitorRef fun mon =>
    (∀ m ∈ mon, m ∈ l.monitors) ∧ (mon.isSome = true ↔ l.monitors ≠ []) := by
  unfold activeMonitorRef
  cases hset : l.monitorSet with
  | normal ms p a =>
    simp only [guarded_bind, guarded_pure, Vec.guarded_get]
    rw [monitors_of_normal hset]
    refine ⟨fun m hm => ⟨?_, iff_of_true rfl ?_⟩, fun hl => (hl.indices _ _ _ hset).2⟩
    · rintro _ ⟨⟩
      exact List.mem_of_getElem? hm
    · exact List.ne_nil_of_mem (List.mem_of_getElem? hm)
  | noOutputs wss =>
    rw [monitors_of_noOutputs hset]
    exact guarded_pure.mpr ⟨fun m hm => absurd hm (Option.not_mem_none m), by simp⟩

omit [LayoutElement W Id] in
theorem guarded_activeWorkspaceRef_of_mem {m : Monitor W Id} (hm : m ∈ l.monitors) :
    Guarded l.InRange m.activeWorkspaceRef fun _ => True :=
  Vec.guarded_get.mpr ⟨fun _ _ => trivial, fun hl => (hl.monitors m hm).active⟩

omit [LayoutElement W Id] in
theorem guarded_activeWorkspaceRef : Guarded l.InRange l.activeWorkspaceRef fun ws =>
    ws.isSome = true ↔ l.monitors ≠ [] := by
  unfold activeWorkspaceRef
  rw [guarded_bind]
  refine guarded_activeMonitorRef.mono fun mon hmon => ?_
  cases mon with
  | none => exact guarded_pure.mpr hmon.2
  | some m =>
    rw [guarded_bind]
    exact (guarded_activeWorkspaceRef_of_mem (hmon.1 m rfl)).mono fun ws _ =>
      guarded_pure.mpr hmon.2

omit [LayoutElement W Id] in
theorem mem_of_monitorForOutput {m : Monitor W Id} {output : Output}
    (h : l.monitorForOutput output = some m) : m ∈ l.monitors := List.mem_of_find?_eq_some h

omit [LayoutElement W Id] in
theorem monitorForOutput_isSome {output : Output} :
    (l.monitorForOutput output).isSome = true ↔ ∃ m ∈ l.monitors, m.output.key = output.key := by
  unfold monitorForOutput
  simp

end Layout

namespace Shell

variable {W Id : Type} [LayoutElement W Id] {s t u : State W Id} {c d : Prop}

/-! ### Windows that are held -/

/-- The windows that are unmapped, and those in the layout. -/
def State.held (s : State W Id) : List Id := Assoc.keys s.unmappedWindows ++ s.layout.windowIds

/-- The invariant of the shell, apart from the indices of its layout. -/
structure State.Sound (s : State W Id) : Prop where
  layout : s.layout.Sound
  nodup : s.held.Nodup
  living : ∀ id ∈ s.held, id ∈ Assoc.keys s.toplevels
  toplevels : (Assoc.keys s.toplevels).Nodup

/-- The outcome of a step that brings in some windows and takes out others; under `c` it keeps the
indices in range. -/
structure Moves (c : Prop) (brings takes : List Id) (s t : State W Id) : Prop where
  layout : t.layout.Sound
  perm : (takes ++ t.held).Perm (brings ++ s.held)
  inRange : c → s.layout.InRange → t.layout.InRange

/-- The outcome of a step that leaves every window where it is. -/
structure Steady (c : Prop) (s t : State W Id) : Prop where
  layout : Layout.Kept c False [] s.layout t.layout
  unmapped : Assoc.keys t.unmappedWindows = Assoc.keys s.unmappedWindows
  toplevels : Assoc.keys t.toplevels = Assoc.keys s.toplevels

namespace Steady

theorem refl (h : s.layout.Sound) : Steady c s s := ⟨.refl h, rfl, rfl⟩

/-- The layout is the same. -/
theorem of_layout (h : s.layout.Sound) (hlayout : t.layout = s.layout)
    (hunmapped : Assoc.keys t.unmappedWindows = Assoc.keys s.unmappedWindows)
    (htoplevels : Assoc.keys t.toplevels = Assoc.keys s.toplevels) : Steady c s t := by
  refine ⟨?_, hunmapped, htoplevels⟩
  rw [hlayout]
  exact .refl h

theorem «then» (h : Steady c s t) (h' : Steady c t u) : Steady c s u :=
  ⟨h.layout.then h'.layout, h'.unmapped.trans h.unmapped, h'.toplevels.trans h.toplevels⟩

theorem moves (h : Steady c s t) : Moves c [] [] s t where
  layout := h.layout.sound
  perm := by
    rw [List.nil_append, List.nil_append, State.held, State.held, h.unmapped]
    exact h.layout.perm.append_left _
  inRange := h.layout.inRange

end Steady

namespace State

variable [DecidableEq Id]

omit [DecidableEq Id] in
theorem mem_held {id : Id} :
    id ∈ s.held ↔ id ∈ Assoc.keys s.unmappedWindows ∨ id ∈ s.layout.windowIds := List.mem_append

theorem mem_held_of_unmapped {id : Id} {unmapped : Unmapped}
    (h : Assoc.get s.unmappedWindows id = some unmapped) : id ∈ s.held :=
  List.mem_append_left _ (Assoc.mem_keys_of_get h)

/-! ### The monitor and the workspace of a window to be -/

variable {mon : Option (Monitor W Id)} {parent : Option Id}

theorem guarded_fallbackMonitor : Guarded s.layout.InRange (s.fallbackMonitor parent) fun mon =>
    (∀ m ∈ mon, m.1 ∈ s.layout.monitors) ∧ (mon.isSome = true ↔ s.layout.monitors ≠ []) := by
  unfold fallbackMonitor
  cases hfound : (parent.bind s.layout.findWindowAndOutput).bind fun found =>
      found.2.bind s.layout.monitorForOutput with
  | some mon =>
    obtain ⟨found, -, hmon⟩ := Option.bind_eq_some_iff.mp hfound
    obtain ⟨output, -, hmon⟩ := Option.bind_eq_some_iff.mp hmon
    have hmem := Layout.mem_of_monitorForOutput hmon
    refine guarded_pure.mpr ⟨?_, iff_of_true rfl (List.ne_nil_of_mem hmem)⟩
    rintro _ ⟨⟩
    exact hmem
  | none =>
    simp only [guarded_bind, guarded_pure]
    refine Layout.guarded_activeMonitorRef.mono fun mon hmon => ⟨fun m hm => ?_, ?_⟩
    · obtain ⟨m', hm', rfl⟩ := Option.map_eq_some_iff.mp hm
      exact hmon.1 m' hm'
    · rw [Option.isSome_map]
      exact hmon.2

/-- There is a monitor to open on if there is any; one that was chosen is kept to. -/
theorem guarded_chosenMonitor (hmon : ∀ m ∈ mon, m ∈ s.layout.monitors) :
    Guarded s.layout.InRange (s.chosenMonitor mon parent) fun found =>
      (∀ m ∈ found, m.1 ∈ s.layout.monitors) ∧
        (found.isSome = true ↔ s.layout.monitors ≠ []) ∧
          ∀ m ∈ mon, found = some (m, false) := by
  unfold chosenMonitor
  cases mon with
  | some mon =>
    have hmem := hmon mon rfl
    refine guarded_pure.mpr ⟨?_, iff_of_true rfl (List.ne_nil_of_mem hmem), ?_⟩
    · rintro _ ⟨⟩
      exact hmem
    · rintro _ ⟨⟩
      rfl
  | none =>
    exact guarded_fallbackMonitor.mono fun found h =>
      ⟨h.1, h.2, fun m hm => absurd hm (Option.not_mem_none m)⟩

omit [DecidableEq Id] in
omit [LayoutElement W Id] in
theorem mem_of_monitorForWorkspace {name : String} {m : Monitor W Id}
    (h : s.layout.monitorForWorkspace name = some m) :
    m ∈ s.layout.monitors ∧ ∃ ws ∈ m.workspaces, ws.isNamed name = true := by
  unfold Layout.monitorForWorkspace at h
  have hany := List.find?_some h
  exact ⟨List.mem_of_find?_eq_some h, List.any_eq_true.mp hany⟩

/-- There is a monitor, and on one of them a workspace with the name that is asked for, if any. -/
def Offers (s : State W Id) (name : Option String) : Prop :=
  s.layout.monitors ≠ [] ∧
    ∀ n ∈ name, ∃ m ∈ s.layout.monitors, ∃ ws ∈ m.workspaces, ws.isNamed n = true

omit [DecidableEq Id] [LayoutElement W Id] in
/-- A workspace is found if there is any, as a name leads to its monitor first. -/
theorem guarded_workspaceToOpen {found : Option (Monitor W Id × Bool)} {name : Option String}
    (hmem : ∀ m ∈ found, m.1 ∈ s.layout.monitors)
    (hsome : found.isSome = true ↔ s.layout.monitors ≠ [])
    (hname : ∀ n ∈ name, ∀ m, s.layout.monitorForWorkspace n = some m → found = some (m, false)) :
    Guarded s.layout.InRange (s.workspaceToOpen found name) fun ws =>
      ws.isSome = true ↔ s.Offers name := by
  unfold workspaceToOpen
  cases found with
  | none =>
    have hnone : ¬s.layout.monitors ≠ [] := fun h => Bool.false_ne_true (hsome.mpr h)
    have hactive : Guarded s.layout.InRange s.layout.activeWorkspaceRef fun ws =>
        ws.isSome = true ↔ s.Offers name :=
      Layout.guarded_activeWorkspaceRef.mono fun ws hws =>
        iff_of_false (fun h => hnone (hws.mp h)) fun h => hnone h.1
    cases name <;> exact hactive
  | some found =>
    have hmonitors := hsome.mp rfl
    cases name with
    | none =>
      simp only [guarded_bind, guarded_pure]
      refine (Layout.guarded_activeWorkspaceRef_of_mem (hmem found rfl)).mono fun ws _ => ?_
      exact iff_of_true rfl ⟨hmonitors, fun n hn => absurd hn (Option.not_mem_none n)⟩
    | some name =>
      refine guarded_pure.mpr ?_
      rw [Monitor.findNamedWorkspace, List.find?_isSome]
      refine ⟨fun hws => ⟨hmonitors, ?_⟩, fun h => ?_⟩
      · rintro _ ⟨⟩
        exact ⟨found.1, hmem found rfl, hws⟩
      · obtain ⟨m, hm, hws⟩ := h.2 name rfl
        obtain ⟨m', hfind⟩ := Option.isSome_iff_exists.mp
          (show (s.layout.monitorForWorkspace name).isSome = true by
            rw [Layout.monitorForWorkspace, List.find?_isSome]
            exact ⟨m, hm, List.any_eq_true.mpr hws⟩)
        obtain rfl : found = (m', false) := Option.some.inj (hname name rfl m' hfind)
        exact (mem_of_monitorForWorkspace hfind).2

end State

/-! ### What windows wish to be -/

/-- Whether a window wishes to be fullscreen, and whether it wishes to be maximized. -/
structure Wishes where
  fullscreen : Bool
  maximized : Bool
  deriving DecidableEq

/-- What a request makes of the wishes, which are two switches. -/
def Wishes.turn (self : Wishes) : State.Request → Wishes
  | .maximize => ⟨self.fullscreen, true⟩
  | .unmaximize => ⟨self.fullscreen, false⟩
  | .fullscreen _ => ⟨true, self.maximized⟩
  | .unfullscreen => ⟨false, self.maximized⟩

/-- Window rules overrule wishes. -/
def ResolvedWindowRules.overrule (self : ResolvedWindowRules) (wishes : Wishes) : Wishes :=
  ⟨self.openFullscreen.getD wishes.fullscreen, self.openMaximizedToEdges.getD wishes.maximized⟩

/-- The state of a window shows its wishes; what is fullscreen is not shown to be maximized. -/
structure ToplevelState.Shows (st : ToplevelState) (wishes : Wishes) : Prop where
  fullscreen : st.fullscreen = wishes.fullscreen
  maximized : st.maximized = (wishes.maximized && !wishes.fullscreen)

/-- The wishes of an unmapped window, which are in its pending state once it is configured. -/
def InitialConfigureState.wishes (pending : ToplevelState) : InitialConfigureState → Wishes
  | .notConfigured wantsFullscreen wantsMaximized => ⟨wantsFullscreen.isSome, wantsMaximized⟩
  | .configured data => ⟨pending.fullscreen, data.isPendingMaximized⟩

variable {pending : ToplevelState} {wishes : Wishes}

/-- Before a window is configured its requests are kept in mind. -/
theorem wishes_want (wantsFullscreen : Option (Option Output)) (wantsMaximized : Bool)
    (request : State.Request) :
    (request.want wantsFullscreen wantsMaximized).wishes pending =
      (Wishes.turn ⟨wantsFullscreen.isSome, wantsMaximized⟩ request) := by
  cases request <;> rfl

/-- The data and the pending state of a configured window agree on its wishes. -/
structure Configured.Honours (data : Configured) (pending : ToplevelState) (wishes : Wishes) :
    Prop where
  shows : pending.Shows wishes
  maximized : data.isPendingMaximized = wishes.maximized

theorem Configured.Honours.wishes_eq {data : Configured} (h : data.Honours pending wishes) :
    (InitialConfigureState.configured data).wishes pending = wishes := by
  obtain ⟨fullscreen, maximized⟩ := wishes
  exact congrArg₂ Wishes.mk h.shows.fullscreen h.maximized

/-- Once it is configured, they change what is pending. -/
theorem shows_apply (request : State.Request) {isPendingMaximized : Bool}
    (h : pending.Shows ⟨pending.fullscreen, isPendingMaximized⟩) :
    (request.apply isPendingMaximized pending).2.Shows
        (Wishes.turn ⟨pending.fullscreen, isPendingMaximized⟩ request) ∧
      (request.apply isPendingMaximized pending).1 =
        (Wishes.turn ⟨pending.fullscreen, isPendingMaximized⟩ request).maximized := by
  obtain ⟨fullscreen, maximized, size, bounds⟩ := pending
  obtain rfl : maximized = (isPendingMaximized && !fullscreen) := h.maximized
  cases request <;> cases fullscreen <;> cases isPendingMaximized <;> exact ⟨⟨rfl, rfl⟩, rfl⟩

theorem overrule_fullscreen (rule : Option Bool) (wants : Bool) :
    ((wants && rule.isNone) || decide (rule = some true)) = rule.getD wants := by
  cases rule with
  | none => simp
  | some fullscreen => cases fullscreen <;> simp

/-- The rules come first in the initial configure. -/
theorem shows_initialState (rules : ResolvedWindowRules)
    (wantsFullscreen : Option (Option Output)) (wishes : Bool) :
    (State.initialState rules wantsFullscreen wishes .default).Shows
      ⟨rules.openFullscreen.getD wantsFullscreen.isSome, wishes⟩ := by
  unfold State.initialState
  rw [overrule_fullscreen]
  cases rules.openFullscreen.getD wantsFullscreen.isSome <;> cases wishes <;> exact ⟨rfl, rfl⟩

/-! ### Configures -/

variable [DecidableEq Id]

/-- A window is configured, and is told what is pending. -/
def State.tell (s : State W Id) (id : Id) (unmapped : Unmapped) (toplevel : Toplevel Id)
    (data : Configured) (pending : ToplevelState) : State W Id :=
  (s.setUnmapped id { unmapped with state := .configured data }).sendConfigure id
    { toplevel with pending }

theorem steady_tell (h : s.layout.Sound) (id : Id) (unmapped : Unmapped) (toplevel : Toplevel Id)
    (data : Configured) (pending : ToplevelState) :
    Steady c s (s.tell id unmapped toplevel data pending) :=
  .of_layout h rfl (Assoc.keys_modify id (fun _ => _) s.unmappedWindows)
    (Assoc.keys_modify id (fun _ => _) s.toplevels)

/-- The monitor for the initial configure is that of the named workspace, if there is any. -/
theorem guarded_initialMonitor (rules : ResolvedWindowRules) (outputs : List Output)
    (wantsFullscreen : Option (Option Output)) (parent : Option Id) :
    Guarded s.layout.InRange (s.initialMonitor rules outputs wantsFullscreen parent) fun found =>
      (∀ m ∈ found, m.1 ∈ s.layout.monitors) ∧
        (found.isSome = true ↔ s.layout.monitors ≠ []) ∧
          ∀ n ∈ rules.openOnWorkspace, ∀ m, s.layout.monitorForWorkspace n = some m →
            found = some (m, false) := by
  unfold State.initialMonitor
  refine (State.guarded_chosenMonitor fun m hm => ?_).mono fun found hfound =>
    ⟨hfound.1, hfound.2.1, fun n hn m hm => hfound.2.2 m ?_⟩
  · rw [Option.mem_def, Option.or_eq_some_iff, Option.or_eq_some_iff] at hm
    rcases hm with (hm | ⟨-, hm⟩) | ⟨-, hm⟩
    · obtain ⟨name, -, hm⟩ := Option.bind_eq_some_iff.mp hm
      exact (State.mem_of_monitorForWorkspace hm).1
    · obtain ⟨output, -, hm⟩ := Option.bind_eq_some_iff.mp hm
      exact Layout.mem_of_monitorForOutput hm
    · obtain ⟨output, -, hm⟩ := Option.bind_eq_some_iff.mp hm
      exact Layout.mem_of_monitorForOutput hm
  · rw [Option.mem_def.mp hn, Option.bind_some, hm]
    rfl

/-- The window of a toplevel that was told nothing is configured as it wishes and as the rules have
it, if there is a place to open on; otherwise it is told nothing in particular. -/
theorem guarded_sendInitialConfigure {rules : ResolvedWindowRules} {outputs : List Output} {id : Id}
    {unmapped : Unmapped} {toplevel : Toplevel Id} {wantsFullscreen : Option (Option Output)}
    {wantsMaximized : Bool}
    (hstate : unmapped.state = .notConfigured wantsFullscreen wantsMaximized) :
    Guarded s.layout.InRange (s.sendInitialConfigure rules outputs id unmapped toplevel) fun t =>
      ∃ data pending, t = s.tell id unmapped toplevel data pending ∧
        (toplevel.pending = .default →
          (s.Offers rules.openOnWorkspace → data.Honours pending
            (rules.overrule ⟨wantsFullscreen.isSome, wantsMaximized⟩)) ∧
          (¬s.Offers rules.openOnWorkspace → data.Honours pending ⟨false, false⟩)) := by
  unfold State.sendInitialConfigure
  rw [hstate]
  simp only [guarded_bind]
  refine (guarded_initialMonitor rules outputs wantsFullscreen toplevel.parent).mono
    fun mon hmon => (State.guarded_workspaceToOpen hmon.1 hmon.2.1 hmon.2.2).mono fun ws hws => ?_
  cases ws with
  | some ws =>
    rw [guarded_bind, guarded_pure, guarded_pure]
    refine ⟨_, _, rfl, fun hpending =>
      ⟨fun _ => ⟨?_, ?_⟩, fun hnot => absurd (hws.mp rfl) hnot⟩⟩
    · rw [hpending, overrule_fullscreen]
      have hshows := shows_initialState rules wantsFullscreen
        (rules.openMaximizedToEdges.getD wantsMaximized)
      exact ⟨hshows.fullscreen, hshows.maximized⟩
    · exact overrule_fullscreen rules.openMaximizedToEdges wantsMaximized
  | none =>
    rw [guarded_bind, guarded_pure, guarded_pure]
    refine ⟨_, toplevel.pending, rfl, fun hpending =>
      ⟨fun h => absurd (hws.mpr h) Bool.false_ne_true, fun _ => ⟨?_, rfl⟩⟩⟩
    rw [hpending]
    exact ⟨rfl, rfl⟩

omit [DecidableEq Id] [LayoutElement W Id] in
/-- What a request settles on is a monitor, and that of the named workspace, if there is any. -/
theorem monitor_spec (data : Configured) (request : State.Request) :
    (∀ m ∈ request.monitor s data, m ∈ s.layout.monitors) ∧
      ∀ n ∈ request.workspaceName data, ∀ m, s.layout.monitorForWorkspace n = some m →
        request.monitor s data = some m := by
  have hput : (∀ m ∈ (data.workspaceName.bind s.layout.monitorForWorkspace).or
        (data.output.bind s.layout.monitorForOutput), m ∈ s.layout.monitors) ∧
      ∀ n ∈ data.workspaceName, ∀ m, s.layout.monitorForWorkspace n = some m →
        (data.workspaceName.bind s.layout.monitorForWorkspace).or
          (data.output.bind s.layout.monitorForOutput) = some m := by
    refine ⟨fun m hm => ?_, fun n hn m hm => ?_⟩
    · rw [Option.mem_def, Option.or_eq_some_iff] at hm
      rcases hm with hm | ⟨-, hm⟩
      · obtain ⟨name, -, hm⟩ := Option.bind_eq_some_iff.mp hm
        exact (State.mem_of_monitorForWorkspace hm).1
      · obtain ⟨output, -, hm⟩ := Option.bind_eq_some_iff.mp hm
        exact Layout.mem_of_monitorForOutput hm
    · rw [Option.mem_def.mp hn, Option.bind_some, hm]
      rfl
  have hbind : ∀ (o : Option Output), ∀ m ∈ o.bind s.layout.monitorForOutput,
      m ∈ s.layout.monitors := by
    intro o m hm
    obtain ⟨output, -, hm⟩ := Option.bind_eq_some_iff.mp hm
    exact Layout.mem_of_monitorForOutput hm
  cases request with
  | maximize => exact ⟨hbind data.output, fun n hn => absurd hn (Option.not_mem_none n)⟩
  | fullscreen output =>
    exact ⟨hbind (output.or data.output), fun n hn => absurd hn (Option.not_mem_none n)⟩
  | unmaximize => exact hput
  | unfullscreen => exact hput

/-- A window that was configured is told again upon every request, which is met if there is a place
for it. -/
theorem guarded_reconfigure {id : Id} {unmapped : Unmapped} {data : Configured}
    {toplevel : Toplevel Id} (request : State.Request) :
    Guarded s.layout.InRange (s.reconfigure id unmapped data toplevel request) fun t =>
      ∃ data' pending, t = s.tell id unmapped toplevel data' pending ∧
        ∀ wishes, data.Honours toplevel.pending wishes →
          (s.Offers (request.workspaceName data) → data'.Honours pending (wishes.turn request)) ∧
          (¬s.Offers (request.workspaceName data) → data'.Honours pending wishes) := by
  obtain ⟨hmem, hname⟩ := monitor_spec (s := s) data request
  unfold State.reconfigure
  simp only [guarded_bind]
  refine (State.guarded_chosenMonitor hmem).mono fun mon hmon => ?_
  have hsame : request.workspaceName { data with output := State.outputToOpen mon } =
      request.workspaceName data := by
    cases request <;> rfl
  rw [hsame]
  refine (State.guarded_workspaceToOpen hmon.1 hmon.2.1 fun n hn m hm =>
    hmon.2.2 m (hname n hn m hm)).mono fun ws hws => ?_
  cases ws with
  | some ws =>
    rw [guarded_bind, guarded_pure, guarded_pure]
    refine ⟨_, _, rfl, fun wishes h => ⟨fun _ => ?_, fun hnot => absurd (hws.mp rfl) hnot⟩⟩
    obtain ⟨fullscreen, maximized⟩ := wishes
    obtain rfl : toplevel.pending.fullscreen = fullscreen := h.shows.fullscreen
    obtain rfl : data.isPendingMaximized = maximized := h.maximized
    obtain ⟨hshows, hmaximized⟩ := shows_apply request h.shows
    exact ⟨⟨hshows.fullscreen, hshows.maximized⟩, hmaximized⟩
  | none =>
    rw [guarded_bind, guarded_pure, guarded_pure]
    exact ⟨_, toplevel.pending, rfl, fun wishes h =>
      ⟨fun hoffers => absurd (hws.mpr hoffers) Bool.false_ne_true, fun _ => ⟨h.shows, h.maximized⟩⟩⟩

end Shell

end Sol
