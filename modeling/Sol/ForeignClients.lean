import Sol.ForeignRuns

/-!
# What the clients of the foreign toplevel protocols see

* `Machine`: refreshes, clients that bind and stop, and clients that bind outputs;
* `views_eq_windows`: after every refresh the view of a client is the windows, and at no
  point of its events two of its windows are activated.
-/

namespace Sol.ForeignToplevel

open Objects Panicking

/-- The state, and what the clients bound of the outputs. -/
structure World where
  state : ForeignToplevelManagerState
  clientOutputs : ClientOutputs

inductive Op
  | refresh (windows : List Window) (focus : Option Surface)
  | bindExt (client : ClientId)
  | bindWlr (client : ClientId)
  | stopExt (manager : Manager)
  | stopWlr (manager : Manager)
  /-- A client binds an output; `clientOutputs` is what the clients bound then. -/
  | outputBound (output : OutputId) (client : ClientId) (wlOutput : WlOutput)
    (clientOutputs : ClientOutputs)

def World.step (self : World) : Op → World
  | .refresh windows focus =>
    { self with state := self.state.refresh self.clientOutputs windows focus }
  | .bindExt client => { self with state := self.state.bindExt client }
  | .bindWlr client => { self with state := self.state.bindWlr self.clientOutputs client }
  | .stopExt manager => { self with state := self.state.stopExt manager }
  | .stopWlr manager => { self with state := self.state.stopWlr manager }
  | .outputBound output client wlOutput clientOutputs =>
    ⟨self.state.onOutputBound output client wlOutput, clientOutputs⟩

/-- From the start, without any window or client. -/
def machine : Machine World Op where
  initial w := w.state = ⟨⟨0, [], []⟩, [], [], []⟩
  step w op := .ok (w.step op)

/-- The windows of a refresh are distinct, had an initial commit, and keep a title and an app id
once they have them; a client that binds an output has one more. -/
def Allowed (w : World) : Op → Prop
  | .refresh windows _ => ForeignToplevelManagerState.Windows w.state windows
  | .outputBound output client wlOutput clientOutputs =>
    ForeignToplevelManagerState.Bound w.clientOutputs clientOutputs output client wlOutput
  | .bindExt _ | .bindWlr _ | .stopExt _ | .stopWlr _ => True

/-- What a client sees of a window, through a manager. -/
structure Seen where
  title : Option String
  appId : Option String
  states : List State
  outputs : Multiset WlOutput

def WlrShown.seen (self : WlrShown) : Seen :=
  ⟨self.title, self.appId, self.states, self.outputs⟩

/-- What a client is to see of a window. -/
def Window.seen (self : Window) (clientOutputs : ClientOutputs) (client : ClientId)
    (focus : Option Surface) : Seen :=
  ⟨self.title, self.appId, toStateVec (self.current.getD []) (focus = some self.surface),
    clientOutputs.of self.output client⟩

/-- There is one element with the key. -/
theorem filter_eq_singleton {α κ : Type} [DecidableEq κ] {f : α → κ} {l : List α}
    (h : (l.map f).Nodup) {a : α} (ha : a ∈ l) : l.filter (fun b => f b = f a) = [a] := by
  obtain ⟨before, after, rfl⟩ := List.append_of_mem ha
  rw [List.map_append, List.map_cons, List.nodup_append, List.nodup_cons] at h
  obtain ⟨-, ⟨hafter, -⟩, hbefore⟩ := h
  have hnil : before.filter (fun b => f b = f a) = [] :=
    List.filter_eq_nil_iff.mpr fun b hb => by
      simpa using hbefore _ (List.mem_map_of_mem hb) _ List.mem_cons_self
  have hnil' : after.filter (fun b => f b = f a) = [] :=
    List.filter_eq_nil_iff.mpr fun b hb => by
      simpa using ne_of_mem_of_not_mem (List.mem_map_of_mem hb) hafter
  rw [List.filter_append, hnil, List.filter_cons_of_pos (by simp), hnil']
  rfl

namespace ForeignToplevelManagerState

variable {s : ForeignToplevelManagerState} {clientOutputs : ClientOutputs} {active : Surface}
  {windows : List Window} {focus : Option Surface}

/-- What is under the toplevels is what is under the windows. -/
theorem Follows.map_perm {β : Type} (h : Follows s windows focus)
    (hsurfaces : (Assoc.keys s.toplevels).Nodup) (hnodup : (windows.map (·.surface)).Nodup)
    (f : ToplevelData → β) (g : Window → β)
    (hfg : ∀ data w, Holds data w (toStateVec (w.current.getD []) (focus = some w.surface)) →
      f data = g w) :
    (s.toplevels.map fun entry => f entry.2).Perm (windows.map g) := by
  have hkeys : (Assoc.keys s.toplevels).Perm (windows.map (·.surface)) := by
    refine (List.perm_ext_iff_of_nodup hsurfaces hnodup).mpr fun surface => ⟨h.gone surface, ?_⟩
    intro hmem
    obtain ⟨w, hw, rfl⟩ := List.mem_map.mp hmem
    obtain ⟨data, hdata, -⟩ := h.tracked w hw
    exact Assoc.mem_keys_of_get hdata
  have hperm := hkeys.filterMap fun surface => (Assoc.get s.toplevels surface).map f
  rw [Assoc.keys, List.filterMap_map, List.filterMap_map] at hperm
  have hleft : s.toplevels.filterMap ((fun surface => (Assoc.get s.toplevels surface).map f) ∘
      Prod.fst) = s.toplevels.map fun entry => f entry.2 := by
    rw [← List.filterMap_eq_map]
    refine List.filterMap_congr fun entry hentry => ?_
    rw [Function.comp_apply, (Assoc.get_eq_some_iff hsurfaces).mpr hentry]
    rfl
  have hright : windows.filterMap ((fun surface => (Assoc.get s.toplevels surface).map f) ∘
      fun w => w.surface) = windows.map g := by
    rw [← List.filterMap_eq_map]
    refine List.filterMap_congr fun w hw => ?_
    obtain ⟨data, hdata, hholds⟩ := h.tracked w hw
    rw [Function.comp_apply, hdata, Option.map_some, hfg data w hholds]
    rfl
  rwa [hleft, hright] at hperm

/-- The handles of one manager, one for each toplevel. -/
theorem map_filter_owners {ν β : Type} (items : ToplevelData → List (Handle × ν))
    (toplevels : List (Surface × ToplevelData)) (id : ℕ) (g : ν → β) (f : ToplevelData → β)
    (hone : ∀ entry ∈ toplevels, ∃ i, (items entry.2).filter (fun i => i.1.manager = id) = [i] ∧
      g i.2 = f entry.2) :
    ((owners (toplevels.map fun entry => (entry.1, items entry.2))).filter
        fun i => i.1.manager = id).map (fun i => g i.2) =
      toplevels.map fun entry => f entry.2 := by
  unfold owners
  rw [List.flatMap_map, List.filter_flatMap, List.map_flatMap, List.map_eq_flatMap]
  refine List.flatMap_congr fun entry hentry => ?_
  obtain ⟨i, hfilter, hg⟩ := hone entry hentry
  rw [hfilter, List.map_singleton, hg]

/-- The views of the managers. -/
theorem wlrView_perm (h : s.Inv clientOutputs active) (hm : s.Managed)
    (hf : Follows s windows focus) (hnodup : (windows.map (·.surface)).Nodup) {manager : Manager}
    (hmanager : manager ∈ s.wlrManagementInstances) :
    ((wlrView (manager.wlrStream s.display)).map fun entry =>
        entry.2.current.map WlrShown.seen).Perm
      (windows.map fun w => some (w.seen clientOutputs manager.client focus)) := by
  have hview := (h.wlr.shows.view_perm fun handle => handle.manager = manager.id).map
    fun entry => entry.2.current.map WlrShown.seen
  refine hview.trans ?_
  have hmap := map_filter_owners ToplevelData.wlrItem s.toplevels manager.id
    (fun v => v.current.map WlrShown.seen)
    (fun data => some (⟨data.title, data.appId, data.states,
      clientOutputs.of data.output manager.client⟩ : Seen)) ?_
  · refine (List.Perm.of_eq hmap).trans (hf.map_perm h.surfaces hnodup (fun data =>
      some (⟨data.title, data.appId, data.states,
        clientOutputs.of data.output manager.client⟩ : Seen)) _ fun data w hholds => ?_)
    unfold Window.seen
    rw [hholds.title, hholds.appId, hholds.states, hholds.output]
  · intro entry hentry
    have hget : Assoc.get s.toplevels entry.1 = some entry.2 :=
      (Assoc.get_eq_some_iff h.surfaces).mpr hentry
    obtain ⟨handle, hhandle, hid, hclient⟩ := hm.wlr manager hmanager entry.1 entry.2 hget
    obtain ⟨i, hi, rfl⟩ := List.mem_map.mp hhandle
    have hmem : (i.1, entry.2.wlrShown i.2) ∈ entry.2.wlrItem :=
      List.mem_map_of_mem (f := fun i => (i.1, entry.2.wlrShown i.2)) hi
    have hnodup := h.wlr.managers (entry.1, entry.2.wlrItem)
      (List.mem_map_of_mem (f := fun entry => (entry.1, entry.2.wlrItem)) hentry)
    refine ⟨(i.1, entry.2.wlrShown i.2), ?_, ?_⟩
    · rw [← hid]
      exact filter_eq_singleton (f := fun i => i.1.manager) hnodup hmem
    · have houtputs := h.outputs entry.1 entry.2 hget i hi
      rw [hclient] at houtputs
      change some (⟨_, _, _, (i.2 : Multiset WlOutput)⟩ : Seen) = _
      rw [Multiset.coe_eq_coe.mpr houtputs]

theorem extView_perm (h : s.Inv clientOutputs active) (hm : s.Managed)
    (hf : Follows s windows focus) (hnodup : (windows.map (·.surface)).Nodup) {manager : Manager}
    (hmanager : manager ∈ s.extListInstances) :
    ((extView (manager.extStream s.display)).map fun entry => entry.2.current).Perm
      (windows.map fun w => some ⟨w.title, w.appId⟩) := by
  have hview := (h.ext.shows.view_perm fun handle => handle.manager = manager.id).map
    fun entry => entry.2.current
  refine hview.trans ?_
  have hmap := map_filter_owners ToplevelData.extItem s.toplevels manager.id
    (fun v => v.current) (fun data => some (⟨data.title, data.appId⟩ : ExtShown)) ?_
  · refine (List.Perm.of_eq hmap).trans (hf.map_perm h.surfaces hnodup
      (fun data => some (⟨data.title, data.appId⟩ : ExtShown)) _ fun data w hholds => ?_)
    rw [hholds.title, hholds.appId]
  · intro entry hentry
    have hget : Assoc.get s.toplevels entry.1 = some entry.2 :=
      (Assoc.get_eq_some_iff h.surfaces).mpr hentry
    obtain ⟨handle, hhandle, hid, -⟩ := hm.ext manager hmanager entry.1 entry.2 hget
    have hmem : (handle, entry.2.extShown) ∈ entry.2.extItem :=
      List.mem_map_of_mem (f := fun handle => (handle, entry.2.extShown)) hhandle
    have hnodup := h.ext.managers (entry.1, entry.2.extItem)
      (List.mem_map_of_mem (f := fun entry => (entry.1, entry.2.extItem)) hentry)
    refine ⟨(handle, entry.2.extShown), ?_, rfl⟩
    rw [← hid]
    exact filter_eq_singleton (f := fun i => i.1.manager) hnodup hmem

/-- At no point of the events two windows are activated. -/
theorem activated_unique (h : s.Told active) (manager : Manager)
    {stream : List (Handle × Sent WlrEvent)} (hstream : stream <+: manager.wlrStream s.display)
    {entry entry' : Handle × WlrView} (hentry : entry ∈ wlrView stream)
    (hentry' : entry' ∈ wlrView stream) (hactivated : entry.2.Activated)
    (hactivated' : entry'.2.Activated) : entry = entry' := by
  obtain ⟨log, hlog, rfl⟩ := List.prefix_filter_iff.mp hstream
  obtain ⟨A, hfew, honly⟩ := h.always log hlog
  have hknown : ∀ entry ∈ wlrView (log.filter fun entry => entry.1.manager = manager.id),
      entry.1.manager = manager.id ∧
        known .new WlrView.receive log entry.1 = some entry.2 := by
    intro entry hentry
    have hget := (Assoc.get_eq_some_iff (nodup_keys_view _)).mpr hentry
    rw [get_view_filter fun (handle : Handle) => decide (handle.manager = manager.id)] at hget
    split_ifs at hget with hmanager
    exact ⟨of_decide_eq_true hmanager, hget⟩
  obtain ⟨hmanager, hget⟩ := hknown entry hentry
  obtain ⟨hmanager', hget'⟩ := hknown entry' hentry'
  have hsame : entry.1 = entry'.1 := hfew _ _ (honly _ _ hget hactivated)
    (honly _ _ hget' hactivated') (hmanager.trans hmanager'.symm)
  rw [← hsame, hget] at hget'
  exact Prod.ext hsame (Option.some.inj hget')

end ForeignToplevelManagerState

open ForeignToplevelManagerState

theorem inv_of_reachable {w : World} (h : machine.ReachableBy Allowed w) :
    ∃ active, w.state.Inv w.clientOutputs active ∧ w.state.Managed := by
  refine Machine.ReachableBy.invariant
    (P := fun w => ∃ active, w.state.Inv w.clientOutputs active ∧ w.state.Managed) h
    (fun w hw => ?_) fun w op hw hop => ?_
  · obtain ⟨state, clientOutputs⟩ := w
    obtain rfl : state = ⟨⟨0, [], []⟩, [], [], []⟩ := hw
    refine ⟨0, ⟨⟨List.nodup_nil, ⟨shows_nil, nofun, nofun⟩, ⟨shows_nil, nofun, nofun⟩, nofun, ?_⟩,
      nofun⟩, ⟨List.nodup_nil, List.nodup_nil, nofun, nofun, nofun, nofun⟩⟩
    intro log hlog
    rw [List.prefix_nil.mp hlog]
    exact ⟨fun _ => False, fun _ _ h => h.elim, nofun⟩
  · refine ensures_ok.mpr ?_
    obtain ⟨active, hinv, hm⟩ := hw
    cases op with
    | refresh windows focus =>
      obtain ⟨⟨active', hinv'⟩, hm', -, -⟩ := follows_refresh hinv hm hop focus
      exact ⟨active', hinv', hm'⟩
    | bindExt client => exact ⟨active, inv_bindExt hinv hm client⟩
    | bindWlr client => exact ⟨active, inv_bindWlr hinv hm client⟩
    | stopExt manager => exact ⟨active, inv_stopExt hinv hm manager⟩
    | stopWlr manager => exact ⟨active, inv_stopWlr hinv hm manager⟩
    | outputBound output client wlOutput clientOutputs =>
      exact ⟨active, hinv.onOutputBound hop, managed_onOutputBound hinv hm output client wlOutput⟩

/-- After every refresh the view of a client, through a list or a manager, is the windows; and
at no point of the events of a manager two windows are activated. -/
theorem views_eq_windows {w : World} (h : machine.ReachableBy Allowed w) :
    (∀ windows focus, Allowed w (.refresh windows focus) →
      (∀ manager ∈ (w.step (.refresh windows focus)).state.extListInstances,
        ((extView (manager.extStream (w.step (.refresh windows focus)).state.display)).map
            fun entry => entry.2.current).Perm
          (windows.map fun w => some ⟨w.title, w.appId⟩)) ∧
      ∀ manager ∈ (w.step (.refresh windows focus)).state.wlrManagementInstances,
        ((wlrView (manager.wlrStream (w.step (.refresh windows focus)).state.display)).map
            fun entry => entry.2.current.map WlrShown.seen).Perm
          (windows.map fun window =>
            some (window.seen w.clientOutputs manager.client focus))) ∧
      ∀ (manager : Manager) (stream : List (Handle × Sent WlrEvent)),
        stream <+: manager.wlrStream w.state.display →
        ∀ entry ∈ wlrView stream, ∀ entry' ∈ wlrView stream,
          entry.2.Activated → entry'.2.Activated → entry = entry' := by
  obtain ⟨active, hinv, hm⟩ := inv_of_reachable h
  refine ⟨fun windows focus hop => ?_, fun manager stream hstream entry hentry entry' hentry' =>
    activated_unique hinv.toTold manager hstream hentry hentry'⟩
  obtain ⟨⟨active', hinv'⟩, hm', -, hf⟩ := follows_refresh hinv hm hop focus
  exact ⟨fun manager hmanager => extView_perm hinv' hm' hf hop.nodup hmanager,
    fun manager hmanager => wlrView_perm hinv' hm' hf hop.nodup hmanager⟩

/-! ### Two windows -/

def browser : Window := ⟨1, 1, some "Browser", some "browser", some [.activated, .maximized], none⟩

def terminal : Window := ⟨2, 2, some "Terminal", some "terminal", some [.activated], none⟩

/-- A client with a manager, and two windows, the first of which is focused. -/
def twoWindows : World :=
  (World.step ⟨⟨⟨0, [], []⟩, [], [], []⟩, fun _ _ => []⟩ (.bindWlr 0)).step
    (.refresh [browser, terminal] (some 1))

theorem windows_browser_terminal (s : ForeignToplevelManagerState) :
    Windows s [browser, terminal] := by
  refine ⟨by decide, by decide, fun w hw data _ => ?_⟩
  rw [List.mem_cons, List.mem_singleton] at hw
  rcases hw with rfl | rfl
  · exact ⟨fun _ => rfl, fun _ => rfl⟩
  · exact ⟨fun _ => rfl, fun _ => rfl⟩

theorem reachable_twoWindows : machine.ReachableBy Allowed twoWindows := by
  have hinitial : machine.initial ⟨⟨⟨0, [], []⟩, [], [], []⟩, fun _ _ => []⟩ := rfl
  exact .step (.step (.initial hinitial) (.bindWlr 0) trivial rfl)
    (.refresh [browser, terminal] (some 1)) (windows_browser_terminal _) rfl

/-- The focus goes to the other window. -/
theorem views_eq_windows_twoWindows :
    ((wlrView (Manager.wlrStream ⟨0, 0⟩
        (twoWindows.step (.refresh [browser, terminal] (some 2))).state.display)).map
          fun entry => entry.2.current.map WlrShown.seen).Perm
      ([browser, terminal].map fun window =>
        some (window.seen twoWindows.clientOutputs 0 (some 2))) :=
  ((views_eq_windows reachable_twoWindows).1 [browser, terminal] (some 2)
    (windows_browser_terminal _)).2 ⟨0, 0⟩ (by decide)

end Sol.ForeignToplevel
