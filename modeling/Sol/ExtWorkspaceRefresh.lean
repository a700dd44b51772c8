import Sol.ExtWorkspaceTold

/-!
# Refreshing the workspaces

A refresh is a sequence of parts, each of which tells every manager what it does.

* `refresh_spec`: after it the state is that of the layout, and every manager was told so.
-/

namespace Sol.ExtWorkspace

open Objects Panicking

/-! ### Steps one after the other -/

namespace Told

variable {m : ManagerId} {s t u : ManagerState} {g g' : Prop}

theorem refl (hw : s.Whole m) : Told m True s s := ⟨hw, [], (List.append_nil _).symm, .nil _⟩

theorem congr (h : Told m g s t) (hg : g ↔ g') : Told m g' s t := by
  obtain ⟨events, hlog, hleads⟩ := h.leads
  exact ⟨h.whole, events, hlog, hleads.congr hg⟩

theorem trans (h : Told m g s t) (h' : Told m g' t u) : Told m (g ∧ g') s u := by
  obtain ⟨events, hlog, hleads⟩ := h.leads
  obtain ⟨events', hlog', hleads'⟩ := h'.leads
  refine ⟨h'.whole, events ++ events', ?_, hleads.append hleads'⟩
  rw [hlog', hlog, List.append_assoc]

theorem foldl {σ α : Type} (state : σ → ManagerState) (step : σ → α → σ) (P : σ → List α → Prop)
    (g : α → Prop) (as : List α) (s : σ) (hs : P s as)
    (hstep : ∀ s a as, P s (a :: as) → P (step s a) as ∧
      ∀ m, (state s).Whole m → Told m (g a) (state s) (state (step s a))) :
    P (as.foldl step s) [] ∧ ∀ m, (state s).Whole m →
      Told m (∀ a ∈ as, g a) (state s) (state (as.foldl step s)) := by
  induction as generalizing s with
  | nil => exact ⟨hs, fun m hw => (refl hw).congr (by simp)⟩
  | cons a as ih =>
    obtain ⟨hP, hfirst⟩ := hstep s a as hs
    obtain ⟨hend, hrest⟩ := ih _ hP
    refine ⟨hend, fun m hw => ?_⟩
    have htold := hfirst m hw
    exact (htold.trans (hrest m htold.whole)).congr (by simp)

end Told

/-- Some entries are to be removed, and all are that are not to be kept. -/
structure Remaining {κ α : Type} [DecidableEq κ] (keep : κ → Prop) (before : List (κ × α))
    (gone now : List (κ × α)) : Prop where
  nodup : (Assoc.keys gone).Nodup
  entries : ∀ entry ∈ gone, Assoc.get now entry.1 = some entry.2 ∧ ¬keep entry.1
  kept : ∀ k, keep k → Assoc.get now k = Assoc.get before k
  keys : ∀ k ∈ Assoc.keys now, keep k ∨ k ∈ Assoc.keys gone

namespace Remaining

variable {κ α : Type} [DecidableEq κ] {keep : κ → Prop} [DecidablePred keep]
  {before gone now : List (κ × α)} {entry : κ × α}

theorem start (h : (Assoc.keys before).Nodup) :
    Remaining keep before (before.filter fun entry => ¬keep entry.1) before := by
  refine ⟨Assoc.nodup_keys_filter h _, fun entry hentry => ?_, fun _ _ => rfl, fun k hk => ?_⟩
  · obtain ⟨hmem, hnot⟩ := List.mem_filter.mp hentry
    exact ⟨(Assoc.get_eq_some_iff h).mpr hmem, of_decide_eq_true hnot⟩
  · by_cases hkeep : keep k
    · exact .inl hkeep
    · obtain ⟨entry, hentry, rfl⟩ := List.mem_map.mp hk
      exact .inr (List.mem_map_of_mem (List.mem_filter.mpr ⟨hentry, decide_eq_true hkeep⟩))

omit [DecidablePred keep] in
theorem next (h : Remaining keep before (entry :: gone) now) :
    Remaining keep before gone (Assoc.remove entry.1 now) := by
  obtain ⟨hnot, hnodup⟩ := List.nodup_cons.mp h.nodup
  have hgone := h.entries entry List.mem_cons_self
  refine ⟨hnodup, fun entry' hentry' => ?_, fun k hk => ?_, fun k hk => ?_⟩
  · have hne : entry'.1 ≠ entry.1 := fun heq => hnot (heq ▸ List.mem_map_of_mem hentry')
    rw [Assoc.get_remove, if_neg hne]
    exact h.entries entry' (List.mem_cons_of_mem _ hentry')
  · have hne : k ≠ entry.1 := fun heq => hgone.2 (heq ▸ hk)
    rw [Assoc.get_remove, if_neg hne]
    exact h.kept k hk
  · obtain ⟨entry', hentry', rfl⟩ := List.mem_map.mp hk
    obtain ⟨hmem, hne⟩ := List.mem_filter.mp hentry'
    rcases h.keys _ (List.mem_map_of_mem hmem) with hkeep | hin
    · exact .inl hkeep
    · exact .inr ((List.mem_cons.mp hin).resolve_left (of_decide_eq_true hne))

end Remaining

namespace ManagerState

variable {m : ManagerId} {s t : ManagerState} {data : WorkspaceData} {layout : Layout}

/-! ### Refreshing -/

/-- The state is up to date with a workspace. -/
def Tracks (s : ManagerState) (ws : Workspace) : Prop :=
  ∃ data, Assoc.get s.workspaces ws.id = some data ∧ data.shown = ws.shown ∧ data.output = ws.output

/-- The state is up to date with the layout. -/
structure Current (s : ManagerState) (layout : Layout) : Prop where
  workspaces : ∀ ws ∈ layout.workspaces, s.Tracks ws
  ids : ∀ id ∈ Assoc.keys s.workspaces, id ∈ layout.workspaces.map Workspace.id
  groups : ∀ output, output ∈ Assoc.keys s.workspaceGroups ↔ output ∈ layout.sortedOutputs

/-- What the refresh of one workspace does. -/
structure Refreshed (s : ManagerState) (ws : Workspace) (r : Bool × ManagerState) : Prop where
  tended : r.2.Tended
  instances : r.2.instances = s.instances
  workspaceGroups : r.2.workspaceGroups = s.workspaceGroups
  tracks : r.2.Tracks ws
  others : ∀ id ≠ ws.id, Assoc.get r.2.workspaces id = Assoc.get s.workspaces id
  keys : ∀ id ∈ Assoc.keys r.2.workspaces, id ∈ Assoc.keys s.workspaces ∨ id = ws.id
  unchanged : r.1 = false → r.2.log = s.log

theorem refreshed_modify {ws : Workspace} {data' : WorkspaceData} {serial : ℕ} {events : List Event}
    {changed : Bool} (hdata : Assoc.get s.workspaces ws.id = some data)
    (ht : ({ s with
      workspaces := Assoc.modify ws.id (fun _ => data') s.workspaces
      nextSerial := serial
      log := s.log ++ events } : ManagerState).Tended)
    (hshown : data'.shown = ws.shown) (houtput : data'.output = ws.output)
    (hevents : changed = false → events = []) :
    Refreshed s ws (changed, { s with
      workspaces := Assoc.modify ws.id (fun _ => data') s.workspaces
      nextSerial := serial
      log := s.log ++ events }) := by
  refine ⟨ht, rfl, rfl, ⟨data', ?_, hshown, houtput⟩, fun id hne => ?_, fun id hid => .inl ?_,
    fun hsame => ?_⟩
  · change Assoc.get (Assoc.modify ws.id (fun _ => data') s.workspaces) ws.id = some data'
    rw [Assoc.get_modify, if_pos rfl, hdata]
    rfl
  · exact (Assoc.get_modify fun _ => data').trans (if_neg hne)
  · exact (Assoc.keys_modify ws.id (fun _ => data') s.workspaces) ▸ hid
  · change s.log ++ events = s.log
    rw [hevents hsame, List.append_nil]

theorem updateWorkspace_refreshed (h : s.Tended) {ws : Workspace}
    (hdata : Assoc.get s.workspaces ws.id = some data) :
    Refreshed s ws (s.updateWorkspace data ws) := by
  have hconsistent := h.consistent _ (Assoc.mem_of_get_eq_some hdata)
  have htended := h.updateWorkspace hdata
  have hshown := hconsistent.shown_updated ws
  unfold updateWorkspace at htended ⊢
  cases hrecreate : data.recreate ws with
  | true =>
    rw [hrecreate] at htended
    exact refreshed_modify hdata htended hshown rfl fun hfalse => by cases hfalse
  | false =>
    rw [hrecreate] at htended
    refine refreshed_modify hdata htended hshown rfl fun hsame => ?_
    obtain ⟨houtput, hsomething⟩ := Bool.or_eq_false_iff.mp hsame
    rw [houtput, WorkspaceData.updates_eq_nil hsomething]
    simp

theorem refreshWorkspace_refreshed (h : s.Tended) (ws : Workspace) :
    Refreshed s ws (s.refreshWorkspace ws) := by
  unfold refreshWorkspace
  cases hdata : Assoc.get s.workspaces ws.id with
  | some data => exact updateWorkspace_refreshed h hdata
  | none =>
    have hnot : ws.id ∉ Assoc.keys s.workspaces := Assoc.get_eq_none_iff.mp hdata
    refine ⟨h.addWorkspace hdata, rfl, rfl, ⟨s.newData ws, ?_, rfl, rfl⟩, fun id hne => ?_,
      fun id hid => ?_, by simp⟩
    · exact (Assoc.get_concat hnot).trans (if_pos rfl)
    · exact (Assoc.get_concat hnot).trans (if_neg hne)
    · rcases List.mem_append.mp (Assoc.keys_append ▸ hid) with hold | hnew
      · exact .inl hold
      · exact .inr (List.mem_singleton.mp hnew)

theorem refreshWorkspace_told (h : s.Tended) (hw : s.Whole m) (ws : Workspace) :
    Told m (s.Calm ws) s (s.refreshWorkspace ws).2 := by
  unfold refreshWorkspace
  cases hdata : Assoc.get s.workspaces ws.id with
  | some data => exact updateWorkspace_told h hw hdata
  | none =>
    refine (addWorkspace_told h hw hdata).congr (iff_of_true trivial fun data hsome => ?_)
    rw [hdata] at hsome
    cases hsome

/-- The entries that are gone were removed, and the rest is as it was. -/
structure Cleared (s t : ManagerState) (layout : Layout) : Prop where
  tended : t.Tended
  instances : t.instances = s.instances
  workspaces : ∀ ws ∈ layout.workspaces,
    Assoc.get t.workspaces ws.id = Assoc.get s.workspaces ws.id
  groups : ∀ output ∈ layout.sortedOutputs,
    Assoc.get t.workspaceGroups output = Assoc.get s.workspaceGroups output
  ids : ∀ id ∈ Assoc.keys t.workspaces, id ∈ layout.workspaces.map Workspace.id
  outputs : ∀ output ∈ Assoc.keys t.workspaceGroups, output ∈ layout.sortedOutputs

def goneWorkspaces (s : ManagerState) (layout : Layout) : List (WorkspaceId × WorkspaceData) :=
  s.workspaces.filter fun entry => entry.1 ∉ layout.workspaces.map Workspace.id

def goneGroups (s : ManagerState) (layout : Layout) : Groups :=
  s.workspaceGroups.filter fun entry => entry.1 ∉ layout.sortedOutputs

/-- The state once everything that is gone was removed. -/
def cleared (s : ManagerState) (layout : Layout) : ManagerState :=
  let t := (s.goneWorkspaces layout).foldl removeWorkspace s
  (t.goneGroups layout).foldl removeGroup t

theorem cleared_spec (h : s.Tended) (layout : Layout) : Cleared s (s.cleared layout) layout ∧
    ∀ m, s.Whole m → Told m True s (s.cleared layout) := by
  obtain ⟨⟨ht, hinstances, hgroups, hleft⟩, htold⟩ := Told.foldl id removeWorkspace
    (fun t as => t.Tended ∧ t.instances = s.instances ∧ t.workspaceGroups = s.workspaceGroups ∧
      Remaining (· ∈ layout.workspaces.map Workspace.id) s.workspaces as t.workspaces)
    (fun _ => True) (s.goneWorkspaces layout) s ⟨h, rfl, rfl, Remaining.start h.workspaces⟩
    fun t entry as hP => by
      obtain ⟨ht, hinstances, hgroups, hleft⟩ := hP
      have hentry := (hleft.entries entry List.mem_cons_self).1
      exact ⟨⟨ht.removeWorkspace hentry, hinstances, hgroups, hleft.next⟩,
        fun m hw => removeWorkspace_told hw hentry⟩
  have hstart : Remaining (· ∈ layout.sortedOutputs) s.workspaceGroups
      (((s.goneWorkspaces layout).foldl removeWorkspace s).goneGroups layout)
      ((s.goneWorkspaces layout).foldl removeWorkspace s).workspaceGroups := by
    rw [goneGroups, hgroups]
    exact Remaining.start h.groups
  obtain ⟨⟨hu, hinstances', hworkspaces, hleft'⟩, htold'⟩ := Told.foldl id removeGroup
    (fun u as => u.Tended ∧ u.instances = s.instances ∧
      u.workspaces = ((s.goneWorkspaces layout).foldl removeWorkspace s).workspaces ∧
        Remaining (· ∈ layout.sortedOutputs) s.workspaceGroups as u.workspaceGroups)
    (fun _ => True) _ _ ⟨ht, hinstances, rfl, hstart⟩
    fun u entry as hP => by
      obtain ⟨hu, hinstances, hworkspaces, hleft⟩ := hP
      have hentry := (hleft.entries entry List.mem_cons_self).1
      exact ⟨⟨hu.removeGroup hentry, hinstances, hworkspaces, hleft.next⟩,
        fun m hw => removeGroup_told hu hw hentry⟩
  refine ⟨⟨hu, hinstances', fun ws hws => ?_, hleft'.kept, fun id hid => ?_,
    fun output houtput => ?_⟩, fun m hw => ?_⟩
  · rw [cleared, hworkspaces]
    exact hleft.kept _ (List.mem_map_of_mem hws)
  · rw [cleared, hworkspaces] at hid
    exact (hleft.keys id hid).resolve_right List.not_mem_nil
  · exact (hleft'.keys output houtput).resolve_right List.not_mem_nil
  · have hfirst := htold m hw
    exact (hfirst.trans (htold' m hfirst.whole)).congr (by simp)

/-- The workspaces that are left are to be refreshed. -/
structure Refreshing (s : ManagerState) (layout : Layout) (start acc : Bool × ManagerState)
    (left : List Workspace) : Prop where
  tended : acc.2.Tended
  instances : acc.2.instances = s.instances
  groups : acc.2.workspaceGroups = start.2.workspaceGroups
  nodup : (left.map Workspace.id).Nodup
  fresh : ∀ ws ∈ left, ws ∈ layout.workspaces ∧
    Assoc.get acc.2.workspaces ws.id = Assoc.get s.workspaces ws.id
  tracks : ∀ ws ∈ layout.workspaces, ws ∈ left ∨ acc.2.Tracks ws
  ids : ∀ id ∈ Assoc.keys acc.2.workspaces, id ∈ layout.workspaces.map Workspace.id
  unchanged : acc.1 = false → start.1 = false ∧ acc.2.log = start.2.log

theorem Tracks.congr {ws : Workspace} (h : s.Tracks ws)
    (hget : Assoc.get t.workspaces ws.id = Assoc.get s.workspaces ws.id) : t.Tracks ws := by
  obtain ⟨data, hdata, hshown, houtput⟩ := h
  exact ⟨data, hget.trans hdata, hshown, houtput⟩

theorem Calm.iff {ws : Workspace}
    (hget : Assoc.get t.workspaces ws.id = Assoc.get s.workspaces ws.id)
    (hgroups : ∀ output ∈ ws.output,
      Assoc.get t.workspaceGroups output = Assoc.get s.workspaceGroups output) :
    t.Calm ws ↔ s.Calm ws := by
  unfold Calm
  rw [hget]
  refine forall_congr' fun data => forall_congr' fun _ => forall_congr' fun _ => forall_congr'
    fun _ => forall_congr' fun output => forall_congr' fun houtput => ?_
  rw [← Assoc.get_eq_none_iff, ← Assoc.get_eq_none_iff, hgroups output houtput]

/-- The workspace that is refreshed is not one of those that are left. -/
theorem Refreshing.next {start acc : Bool × ManagerState} {ws : Workspace} {left : List Workspace}
    (h : Refreshing s layout start acc (ws :: left)) :
    Refreshing s layout start (andThen acc fun self => self.refreshWorkspace ws) left := by
  obtain ⟨hnot, hnodup⟩ := List.nodup_cons.mp h.nodup
  have hdone := refreshWorkspace_refreshed h.tended ws
  refine ⟨hdone.tended, hdone.instances.trans h.instances, hdone.workspaceGroups.trans h.groups,
    hnodup, fun ws' hws' => ?_, fun ws' hws' => ?_, fun id hid => ?_, fun hsame => ?_⟩
  · obtain ⟨hmem, hget⟩ := h.fresh ws' (List.mem_cons_of_mem _ hws')
    have hne : ws'.id ≠ ws.id := fun heq => hnot (heq ▸ List.mem_map_of_mem hws')
    exact ⟨hmem, (hdone.others _ hne).trans hget⟩
  · rcases h.tracks ws' hws' with hin | htracks
    · rcases List.mem_cons.mp hin with rfl | hin
      · exact .inr hdone.tracks
      · exact .inl hin
    · by_cases heq : ws'.id = ws.id
      · have hws := (h.fresh ws List.mem_cons_self).1
        rw [List.inj_on_of_nodup_map layout.ids_nodup hws' hws heq]
        exact .inr hdone.tracks
      · exact .inr (htracks.congr (hdone.others _ heq))
  · rcases hdone.keys id hid with hold | rfl
    · exact h.ids id hold
    · exact List.mem_map_of_mem (h.fresh ws List.mem_cons_self).1
  · obtain ⟨hbefore, hnow⟩ := Bool.or_eq_false_iff.mp hsame
    obtain ⟨hstart, hlog⟩ := h.unchanged hbefore
    exact ⟨hstart, (hdone.unchanged hnow).trans hlog⟩

/-- The outputs that are left are to get groups. -/
structure Grouping (s : ManagerState) (layout : Layout) (start acc : Bool × ManagerState)
    (left : List OutputId) : Prop where
  tended : acc.2.Tended
  instances : acc.2.instances = s.instances
  workspaces : acc.2.workspaces = start.2.workspaces
  fresh : ∀ output ∈ left, output ∈ layout.sortedOutputs
  there : ∀ output ∈ layout.sortedOutputs,
    output ∈ left ∨ output ∈ Assoc.keys acc.2.workspaceGroups
  outputs : ∀ output ∈ Assoc.keys acc.2.workspaceGroups, output ∈ layout.sortedOutputs
  unchanged : acc.1 = false → start.1 = false ∧ acc.2.log = start.2.log

/-- What the refresh of one group does. -/
structure Grouped (s : ManagerState) (output : OutputId) (r : Bool × ManagerState) : Prop where
  tended : r.2.Tended
  instances : r.2.instances = s.instances
  workspaces : r.2.workspaces = s.workspaces
  keys : ∀ output', output' ∈ Assoc.keys r.2.workspaceGroups ↔
    output' ∈ Assoc.keys s.workspaceGroups ∨ output' = output
  unchanged : r.1 = false → r.2.log = s.log

theorem refreshWorkspaceGroup_grouped (h : s.Tended) (output : OutputId) :
    Grouped s output (s.refreshWorkspaceGroup output) := by
  have htended := h.refreshWorkspaceGroup output
  unfold refreshWorkspaceGroup at htended ⊢
  cases hget : Assoc.get s.workspaceGroups output with
  | some handles =>
    refine ⟨h, rfl, rfl, fun output' => ⟨.inl, ?_⟩, fun _ => rfl⟩
    rintro (hin | rfl)
    · exact hin
    · exact Assoc.mem_keys_of_get hget
  | none =>
    rw [hget] at htended
    refine ⟨htended, rfl, rfl, fun output' => ?_, fun hfalse => by cases hfalse⟩
    rw [Assoc.keys_append, List.mem_append, Assoc.keys_cons, Assoc.keys_nil, List.mem_singleton]

theorem Grouping.next {start acc : Bool × ManagerState} {output : OutputId} {left : List OutputId}
    (h : Grouping s layout start acc (output :: left)) :
    Grouping s layout start (andThen acc fun self => self.refreshWorkspaceGroup output) left := by
  have hdone := refreshWorkspaceGroup_grouped h.tended output
  refine ⟨hdone.tended, hdone.instances.trans h.instances, hdone.workspaces.trans h.workspaces,
    fun output' hin => h.fresh output' (List.mem_cons_of_mem _ hin), fun output' hin => ?_,
    fun output' hin => ?_, fun hsame => ?_⟩
  · rcases h.there output' hin with hleft | hthere
    · rcases List.mem_cons.mp hleft with rfl | hleft
      · exact .inr ((hdone.keys output').mpr (.inr rfl))
      · exact .inl hleft
    · exact .inr ((hdone.keys output').mpr (.inl hthere))
  · rcases (hdone.keys output').mp hin with hold | rfl
    · exact h.outputs output' hold
    · exact h.fresh output' List.mem_cons_self
  · obtain ⟨hbefore, hnow⟩ := Bool.or_eq_false_iff.mp hsame
    obtain ⟨hstart, hlog⟩ := h.unchanged hbefore
    exact ⟨hstart, (hdone.unchanged hnow).trans hlog⟩

/-- What a refresh does, whoever is told. -/
structure Renewed (s t : ManagerState) (layout : Layout) : Prop where
  tended : t.Tended
  instances : t.instances = s.instances
  current : t.Current layout

/-- A refresh makes the state current, and its clients are told all of it; whenever one of them is
told something, `done` comes last. -/
theorem refresh_spec (h : s.Tended) (layout : Layout) : Renewed s (s.refresh layout) layout ∧
    ∀ m, s.Whole m → Told m (∀ ws ∈ layout.workspaces, s.Calm ws) s (s.refresh layout) ∧
      (received m (s.refresh layout).log = received m s.log ∨
        (received m (s.refresh layout).log).getLast? = some (.done m)) := by
  obtain ⟨hcleared, htold⟩ := cleared_spec h layout
  obtain ⟨start, hstart⟩ : ∃ start : Bool × ManagerState, start =
      (decide (s.goneWorkspaces layout ≠ []) ||
        decide (((s.goneWorkspaces layout).foldl removeWorkspace s).goneGroups layout ≠ []),
      s.cleared layout) := ⟨_, rfl⟩
  have hsame : start.1 = false → start.2.log = s.log := by
    intro hfalse
    rw [hstart, Bool.or_eq_false_iff, decide_eq_false_iff_not, decide_eq_false_iff_not, not_not,
      not_not] at hfalse
    obtain ⟨hworkspaces, hgroups⟩ := hfalse
    rw [hworkspaces] at hgroups
    rw [hstart]
    change (s.cleared layout).log = s.log
    unfold cleared
    rw [hworkspaces]
    change (List.foldl removeGroup s (s.goneGroups layout)).log = s.log
    rw [List.foldl_nil] at hgroups
    rw [hgroups]
    rfl
  have hstart2 : start.2 = s.cleared layout := hstart ▸ rfl
  rw [← hstart2] at hcleared htold
  -- the workspaces
  obtain ⟨hws, htoldWs⟩ := Told.foldl Prod.snd
    (fun acc ws => andThen acc fun self => self.refreshWorkspace ws)
    (Refreshing s layout start) s.Calm layout.workspaces start
    ⟨hcleared.tended, hcleared.instances, rfl, layout.ids_nodup,
      fun ws hws => ⟨hws, hcleared.workspaces ws hws⟩, fun ws hws => .inl hws, hcleared.ids,
      fun hfalse => ⟨hfalse, rfl⟩⟩
    fun acc ws left hP => by
      obtain ⟨hmem, hget⟩ := hP.fresh ws List.mem_cons_self
      refine ⟨hP.next, fun m hw => (refreshWorkspace_told hP.tended hw ws).congr ?_⟩
      refine Calm.iff hget fun output houtput => ?_
      rw [hP.groups]
      exact hcleared.groups output (layout.known ws hmem output houtput)
  obtain ⟨mid, hmid⟩ : ∃ mid : Bool × ManagerState, mid = layout.workspaces.foldl
    (fun acc ws => andThen acc fun self => self.refreshWorkspace ws) start := ⟨_, rfl⟩
  rw [← hmid] at hws htoldWs
  -- the groups
  obtain ⟨hgroups, htoldGroups⟩ := Told.foldl Prod.snd
    (fun acc output => andThen acc fun self => self.refreshWorkspaceGroup output)
    (Grouping s layout mid) (fun _ => True) layout.sortedOutputs mid
    ⟨hws.tended, hws.instances, rfl, fun output hin => hin, fun output hin => .inl hin,
      fun output hin => hcleared.outputs output (hws.groups ▸ hin), fun hfalse => ⟨hfalse, rfl⟩⟩
    fun acc output left hP =>
      ⟨hP.next, fun m hw => refreshWorkspaceGroup_told hP.tended hw output⟩
  obtain ⟨last, hlast⟩ : ∃ last : Bool × ManagerState, last = layout.sortedOutputs.foldl
    (fun acc output => andThen acc fun self => self.refreshWorkspaceGroup output) mid := ⟨_, rfl⟩
  rw [← hlast] at hgroups htoldGroups
  have hrefresh : s.refresh layout = if last.1 then
      { last.2 with log := last.2.log ++ last.2.managers.map .done } else last.2 := by
    subst hlast hmid hstart
    rfl
  have hcurrent : last.2.Current layout := by
    refine ⟨fun ws hin => ?_, fun id hid => ?_,
      fun output => ⟨hgroups.outputs output, fun hin => ?_⟩⟩
    · have htracks := (hws.tracks ws hin).resolve_left List.not_mem_nil
      exact htracks.congr (congrArg (Assoc.get · ws.id) hgroups.workspaces)
    · exact hws.ids id (hgroups.workspaces ▸ hid)
    · exact (hgroups.there output hin).resolve_left List.not_mem_nil
  have htoldAll : ∀ m, s.Whole m → Told m (∀ ws ∈ layout.workspaces, s.Calm ws) s last.2 := by
    intro m hw
    have hfirst := htold m hw
    have hsecond := hfirst.trans (htoldWs m hfirst.whole)
    exact (hsecond.trans (htoldGroups m hsecond.whole)).congr (by simp)
  rw [hrefresh]
  cases hchanged : last.1 with
  | false =>
    obtain ⟨hmidFalse, hlogLast⟩ := hgroups.unchanged hchanged
    obtain ⟨hstartFalse, hlogMid⟩ := hws.unchanged hmidFalse
    have hlog : last.2.log = s.log := hlogLast.trans (hlogMid.trans (hsame hstartFalse))
    exact ⟨⟨hgroups.tended, hgroups.instances, hcurrent⟩,
      fun m hw => ⟨htoldAll m hw, .inl (congrArg (received m) hlog)⟩⟩
  | true =>
    refine ⟨⟨?_, hgroups.instances, ⟨hcurrent.workspaces, hcurrent.ids, hcurrent.groups⟩⟩,
      fun m hw => ?_⟩
    · exact ⟨hgroups.tended.workspaces, hgroups.tended.groups, hgroups.tended.managers,
        hgroups.tended.consistent, hgroups.tended.owned, hgroups.tended.ownedGroups,
        hgroups.tended.serial, hgroups.tended.log_append fun event hevent => by
          obtain ⟨manager, hmanager, rfl⟩ := List.mem_map.mp hevent
          exact hmanager⟩
    · have htoldLast := htoldAll m hw
      obtain ⟨events, hlog, hleads⟩ := htoldLast.leads
      have hdone : received m (last.2.managers.map .done) = [.done m] := by
        unfold received
        rw [List.filter_map]
        change (last.2.managers.filter fun manager => decide (manager = m)).map Event.done = _
        rw [filter_eq_singleton hgroups.tended.managers htoldLast.whole.live]
        rfl
      have hreceived : received m (last.2.log ++ last.2.managers.map .done) =
          received m s.log ++ (events ++ [.done m]) := by
        rw [received_append, hdone, hlog, List.append_assoc]
      have hsingle : ClientView.reader.Leads True (last.2.board m).view [.done m]
          (last.2.board m).view := .single rfl (iff_true_intro trivial)
      refine ⟨⟨⟨htoldLast.whole.live, htoldLast.whole.workspaces, htoldLast.whole.groups⟩,
        _, hreceived, (hleads.append hsingle).congr (and_iff_left trivial)⟩,
        .inr ?_⟩
      change (received m (last.2.log ++ last.2.managers.map .done)).getLast? = _
      rw [hreceived, ← List.append_assoc, List.getLast?_concat]

end ManagerState

end Sol.ExtWorkspace
