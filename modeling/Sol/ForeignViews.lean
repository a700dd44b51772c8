import Sol.ForeignToplevel

/-!
# The views of the clients of the foreign toplevel protocols

* `Tracked`: the handles of the toplevels, and what their events tell;
* `Tracked.add`, `Tracked.update`, `Tracked.close`: handles are added, told of changes, closed;
* `Told`, `Inv`: both protocols, of the same toplevels, of which one may be activated;
* `Inv.update`, `Inv.addExtInstance`, `Inv.addWlrInstance`, `Inv.handleClosed`,
  `Inv.onOutputBound`: one event of the source after the other.
-/

namespace Sol.ForeignToplevel

open Objects

/-! ### Handles -/

section Tracked

variable {ε ν : Type} {initial : ν} {receive : ν → ε → ν}

/-- The handles of all toplevels. -/
def owners (items : List (Surface × List (Handle × ν))) : List (Handle × ν) := items.flatMap Prod.snd

/-- The handles of the toplevels are distinct objects, for distinct managers, and their
events tell what is under them. -/
structure Tracked (initial : ν) (receive : ν → ε → ν) (next : ℕ)
    (items : List (Surface × List (Handle × ν))) (log : List (Handle × Sent ε)) : Prop where
  shows : Shows initial receive (owners items) log
  fresh : ∀ item ∈ items, ∀ i ∈ item.2, i.1.id < next ∧ i.1.manager < next
  managers : ∀ item ∈ items, (item.2.map fun i => i.1.manager).Nodup

namespace Tracked

variable {next : ℕ} {items before after : List (Surface × List (Handle × ν))}
  {log : List (Handle × Sent ε)} {surface : Surface} {is : List (Handle × ν)}

theorem owners_append : owners (before ++ after) = owners before ++ owners after :=
  List.flatMap_append

theorem owners_cons (item : Surface × List (Handle × ν)) :
    owners (item :: items) = item.2 ++ owners items := List.flatMap_cons

theorem mem_owners {i : Handle × ν} : i ∈ owners items ↔ ∃ item ∈ items, i ∈ item.2 :=
  List.mem_flatMap

/-- With more numbers taken. -/
theorem mono (h : Tracked initial receive next items log) {next' : ℕ} (hnext : next ≤ next') :
    Tracked initial receive next' items log where
  shows := h.shows
  fresh item hitem i hi :=
    ⟨(h.fresh item hitem i hi).1.trans_le hnext, (h.fresh item hitem i hi).2.trans_le hnext⟩
  managers := h.managers

theorem not_mem_keys (h : Tracked initial receive next items log) {handle : Handle}
    (hid : handle.id = next) : handle ∉ Assoc.keys (owners items) := by
  intro hmem
  obtain ⟨i, hi, rfl⟩ := List.mem_map.mp hmem
  obtain ⟨item, hitem, hi⟩ := mem_owners.mp hi
  exact (h.fresh item hitem i hi).1.ne hid

/-- A toplevel without handles. -/
theorem append_nil (h : Tracked initial receive next items log) (surface : Surface) :
    Tracked initial receive next (items ++ [(surface, [])]) log where
  shows := by
    rw [owners_append]
    exact (List.append_nil (owners items)).symm ▸ h.shows
  fresh item hitem i hi := by
    rcases List.mem_append.mp hitem with hitem | hitem
    · exact h.fresh item hitem i hi
    · rw [List.mem_singleton.mp hitem] at hi
      cases hi
  managers item hitem := by
    rcases List.mem_append.mp hitem with hitem | hitem
    · exact h.managers item hitem
    · rw [List.mem_singleton.mp hitem]
      exact List.nodup_nil

/-- A new handle of a toplevel, for a manager that it has none of. -/
theorem add (h : Tracked initial receive next (before ++ (surface, is) :: after) log)
    (handle : Handle) (hid : handle.id = next) (hmanager : handle.manager < next)
    (hnew : handle.manager ∉ is.map fun i => i.1.manager) (batch : List ε) :
    Tracked initial receive (next + 1)
      (before ++ (surface, is ++ [(handle, batch.foldl receive initial)]) :: after)
      (log ++ (.create :: batch.map .tell).map (Prod.mk handle)) where
  shows := by
    refine (h.shows.create (h.not_mem_keys hid) batch).perm ?_
    rw [owners_append, owners_cons, owners_append, owners_cons, List.append_assoc,
      List.append_assoc, List.append_assoc]
    exact ((List.perm_append_comm).append_left is).append_left (owners before)
  fresh item hitem i hi := by
    have hold : ∀ item ∈ before ++ (surface, is) :: after, ∀ i ∈ item.2,
        i.1.id < next + 1 ∧ i.1.manager < next + 1 := fun item hitem i hi =>
      ⟨(h.fresh item hitem i hi).1.trans (Nat.lt_succ_self _),
        (h.fresh item hitem i hi).2.trans (Nat.lt_succ_self _)⟩
    rcases List.mem_append.mp hitem with hitem | hitem
    · exact hold item (List.mem_append_left _ hitem) i hi
    · rcases List.mem_cons.mp hitem with rfl | hitem
      · rcases List.mem_append.mp hi with hi | hi
        · exact hold _ (List.mem_append_right _ List.mem_cons_self) i hi
        · rw [List.mem_singleton.mp hi]
          exact ⟨hid.trans_lt (Nat.lt_succ_self _), hmanager.trans (Nat.lt_succ_self _)⟩
      · exact hold item (List.mem_append_right _ (List.mem_cons_of_mem _ hitem)) i hi
  managers item hitem := by
    rcases List.mem_append.mp hitem with hitem | hitem
    · exact h.managers item (List.mem_append_left _ hitem)
    · rcases List.mem_cons.mp hitem with rfl | hitem
      · have his := h.managers (surface, is) (List.mem_append_right _ List.mem_cons_self)
        rw [List.map_append]
        refine List.nodup_append.mpr ⟨his, List.nodup_singleton _, ?_⟩
        intro m hm m' hm'
        rw [List.mem_singleton.mp hm']
        exact ne_of_mem_of_not_mem hm hnew
      · exact h.managers item (List.mem_append_right _ (List.mem_cons_of_mem _ hitem))

/-- The handles of a toplevel are told something. -/
theorem update (h : Tracked initial receive next (before ++ (surface, is) :: after) log)
    (batch : Handle × ν → List ε) :
    Tracked initial receive next
      (before ++ (surface, is.map fun i => (i.1, (batch i).foldl receive i.2)) :: after)
      (log ++ is.flatMap fun i => ((batch i).map .tell).map (Prod.mk i.1)) := by
  have hfst : (is.map fun i => (i.1, (batch i).foldl receive i.2)).map Prod.fst =
      is.map Prod.fst := by
    rw [List.map_map]
    rfl
  have hkeys : ∀ is', is'.map Prod.fst = is.map Prod.fst →
      Assoc.keys (owners (before ++ (surface, is') :: after)) =
        Assoc.keys (owners (before ++ (surface, is) :: after)) := by
    intro is' his'
    rw [owners_append, owners_cons, owners_append, owners_cons, Assoc.keys_append,
      Assoc.keys_append, Assoc.keys_append, Assoc.keys_append]
    exact congrArg (fun l => _ ++ (l ++ _)) his'
  have hmem : ∀ i ∈ is, i ∈ owners (before ++ (surface, is) :: after) := fun i hi =>
    mem_owners.mpr ⟨_, List.mem_append_right _ List.mem_cons_self, hi⟩
  have hmem' : ∀ i ∈ is, (i.1, (batch i).foldl receive i.2) ∈ owners (before ++
      (surface, is.map fun i => (i.1, (batch i).foldl receive i.2)) :: after) := fun i hi =>
    mem_owners.mpr ⟨_, List.mem_append_right _ List.mem_cons_self, List.mem_map_of_mem hi⟩
  constructor
  · refine h.shows.each _ is Prod.fst ?_ (fun i => (batch i).map .tell) ?_ ?_ ?_
    · have hnodup := h.shows.nodup
      rw [owners_append, owners_cons, Assoc.keys_append, Assoc.keys_append,
        List.nodup_append, List.nodup_append] at hnodup
      exact hnodup.2.1.1
    · rw [hkeys _ hfst]
      exact h.shows.nodup
    · intro i hi
      rw [(Assoc.get_eq_some_iff h.shows.nodup).mpr (hmem i hi), foldl_tell]
      refine (Assoc.get_eq_some_iff ?_).mpr (hmem' i hi)
      rw [hkeys _ hfst]
      exact h.shows.nodup
    · intro k hk
      have hnone : ∀ is' : List (Handle × ν), is'.map Prod.fst = is.map Prod.fst →
          Assoc.get is' k = none := by
        intro is' his'
        refine Assoc.get_eq_none_iff.mpr fun hmem => ?_
        rw [Assoc.keys, his'] at hmem
        obtain ⟨i, hi, heq⟩ := List.mem_map.mp hmem
        exact hk i hi heq
      rw [owners_append, owners_cons, owners_append, owners_cons, Assoc.get_append,
        Assoc.get_append, Assoc.get_append, Assoc.get_append, hnone is rfl, hnone _ hfst]
  · intro item hitem i hi
    rcases List.mem_append.mp hitem with hitem | hitem
    · exact h.fresh item (List.mem_append_left _ hitem) i hi
    · rcases List.mem_cons.mp hitem with rfl | hitem
      · obtain ⟨i', hi', rfl⟩ := List.mem_map.mp hi
        exact h.fresh _ (List.mem_append_right _ List.mem_cons_self) i' hi'
      · exact h.fresh item (List.mem_append_right _ (List.mem_cons_of_mem _ hitem)) i hi
  · intro item hitem
    rcases List.mem_append.mp hitem with hitem | hitem
    · exact h.managers item (List.mem_append_left _ hitem)
    · rcases List.mem_cons.mp hitem with rfl | hitem
      · rw [List.map_map]
        exact h.managers _ (List.mem_append_right _ List.mem_cons_self)
      · exact h.managers item (List.mem_append_right _ (List.mem_cons_of_mem _ hitem))

/-- Some toplevels are closed. -/
theorem close (h : Tracked initial receive next items log) (p : Surface → Bool) :
    Tracked initial receive next (items.filter fun item => p item.1)
      (log ++ (items.filter fun item => !p item.1).flatMap fun item =>
        item.2.map fun i => (i.1, Sent.destroy)) := by
  have hperm : (owners items).Perm (owners (items.filter fun item => p item.1) ++
      owners (items.filter fun item => !p item.1)) := by
    rw [← owners_append]
    exact ((List.filter_append_perm (fun item => p item.1) items).symm).flatMap_right _
  have hnodup : (Assoc.keys (owners (items.filter fun item => p item.1) ++
      owners (items.filter fun item => !p item.1))).Nodup :=
    (hperm.map Prod.fst).nodup_iff.mp h.shows.nodup
  have hevents : ((items.filter fun item => !p item.1).flatMap fun item =>
      item.2.map fun i => (i.1, (Sent.destroy : Sent ε))) =
        (owners (items.filter fun item => !p item.1)).flatMap fun i =>
          [Sent.destroy].map (Prod.mk i.1) := by
    unfold owners
    rw [List.flatMap_assoc]
    refine List.flatMap_congr fun item _ => ?_
    exact List.map_eq_flatMap
  rw [Assoc.keys_append, List.nodup_append] at hnodup
  obtain ⟨hkept, hgone, hdisjoint⟩ := hnodup
  refine ⟨?_, fun item hitem => h.fresh item (List.mem_of_mem_filter hitem),
    fun item hitem => h.managers item (List.mem_of_mem_filter hitem)⟩
  rw [hevents]
  refine h.shows.each _ _ Prod.fst hgone (fun _ => [.destroy]) hkept ?_ ?_
  · intro i hi
    refine Assoc.get_eq_none_iff.mpr fun hmem => ?_
    exact hdisjoint _ hmem _ (List.mem_map_of_mem hi) rfl
  · intro k hk
    rw [Assoc.get_eq_of_perm h.shows.nodup hperm, Assoc.get_append]
    have hnone : Assoc.get (owners (items.filter fun item => !p item.1)) k = none := by
      refine Assoc.get_eq_none_iff.mpr fun hmem => ?_
      obtain ⟨i, hi, heq⟩ := List.mem_map.mp hmem
      exact hk i hi heq
    rw [hnone, Option.or_none]

end Tracked

end Tracked

/-! ### What is told of a toplevel -/

/-- All that a list tells, and nothing is pending. -/
def ExtView.all (identifier : MappedId) (title appId : Option String) : ExtView :=
  ⟨some identifier, ⟨title, appId⟩, some ⟨title, appId⟩⟩

/-- All that a manager tells, and nothing is pending. -/
def WlrView.all (shown : WlrShown) : WlrView := ⟨shown, some shown⟩

theorem WlrView.activated_all {shown : WlrShown} :
    (WlrView.all shown).Activated ↔ .activated ∈ shown.states := by
  unfold WlrView.all WlrView.Activated
  simp

theorem receive_extNames (v : ExtView) (title appId : Option String) :
    (extNames title appId).foldl ExtView.receive v =
      { v with pending := ⟨title.or v.pending.title, appId.or v.pending.appId⟩ } := by
  cases title <;> cases appId <;> rfl

theorem receive_wlrNames (v : WlrView) (title appId : Option String) :
    (wlrNames title appId).foldl WlrView.receive v =
      { v with pending := { v.pending with
          title := title.or v.pending.title
          appId := appId.or v.pending.appId } } := by
  cases title <;> cases appId <;> rfl

theorem receive_outputEnter (v : WlrView) (outputs : List WlOutput) :
    (outputs.map .outputEnter).foldl WlrView.receive v =
      { v with pending := { v.pending with outputs := v.pending.outputs ++ outputs } } := by
  induction outputs generalizing v with
  | nil => simp
  | cons output outputs ih =>
    rw [List.map_cons, List.foldl_cons, ih]
    simp [WlrView.receive]

/-- A handle that leaves all its outputs is on none. -/
theorem receive_outputLeave (v : WlrView) :
    (v.pending.outputs.map .outputLeave).foldl WlrView.receive v =
      { v with pending := { v.pending with outputs := [] } } := by
  obtain ⟨⟨title, appId, states, outputs⟩, current⟩ := v
  dsimp only
  induction outputs with
  | nil => rfl
  | cons output outputs ih =>
    rw [List.map_cons, List.foldl_cons]
    have hreceive : WlrView.receive ⟨⟨title, appId, states, output :: outputs⟩, current⟩
        (.outputLeave output) = ⟨⟨title, appId, states, outputs⟩, current⟩ := by
      unfold WlrView.receive
      simp
    rw [hreceive, ih]

/-- The event does not set the activated state. -/
def WlrEvent.Quiet (event : WlrEvent) : Prop := ∀ states, event = .state states → .activated ∉ states

theorem WlrEvent.Quiet.calm {event : WlrEvent} (h : event.Quiet) :
    (Sent.tell event).Calm .new WlrView.receive WlrView.Activated := by
  intro v hv
  cases event with
  | state states =>
    rcases hv with hpending | hcurrent
    · exact absurd hpending (h states rfl)
    · exact .inr hcurrent
  | done =>
    rcases hv with hpending | ⟨shown, hshown, hcurrent⟩
    · exact .inl hpending
    · exact .inl (Option.some.inj hshown ▸ hcurrent)
  | title title => exact hv
  | appId appId => exact hv
  | outputEnter output => exact hv
  | outputLeave output => exact hv

namespace ToplevelData

variable (self : ToplevelData) (window : Window) (states : List State)

/-- What a list is told of the toplevel. -/
def extShown : ExtView := .all self.identifier self.title self.appId

/-- What a manager is told of the toplevel. -/
def wlrShown (outputs : List WlOutput) : WlrView :=
  .all ⟨self.title, self.appId, self.states, outputs⟩

def extItem : List (Handle × ExtView) := self.extListInstances.map fun h => (h, self.extShown)

def wlrItem : List (Handle × WlrView) :=
  self.wlrManagementInstances.map fun i => (i.1, self.wlrShown i.2)

/-- The names of the window are set if they were. -/
structure Names (data : ToplevelData) (window : Window) : Prop where
  title : data.title.isSome = true → window.title.isSome = true
  appId : data.appId.isSome = true → window.appId.isSome = true

variable {self window states}

theorem newTitle_or (h : self.Names window) : (self.newTitle window).or self.title = window.title := by
  unfold newTitle
  by_cases heq : self.title = window.title
  · rw [if_neg (not_not.mpr heq), heq]
    rfl
  · rw [if_pos heq]
    cases hwindow : window.title with
    | some title => rfl
    | none =>
      have hself : self.title = none := by
        by_contra hne
        have hsome := h.title (Option.isSome_iff_ne_none.mpr hne)
        rw [hwindow] at hsome
        cases hsome
      rw [hself]
      rfl

theorem newAppId_or (h : self.Names window) :
    (self.newAppId window).or self.appId = window.appId := by
  unfold newAppId
  by_cases heq : self.appId = window.appId
  · rw [if_neg (not_not.mpr heq), heq]
    rfl
  · rw [if_pos heq]
    cases hwindow : window.appId with
    | some appId => rfl
    | none =>
      have hself : self.appId = none := by
        by_contra hne
        have hsome := h.appId (Option.isSome_iff_ne_none.mpr hne)
        rw [hwindow] at hsome
        cases hsome
      rw [hself]
      rfl

/-- After the update a list is told of the window as it is. -/
theorem receive_extUpdate (h : self.Names window) :
    (self.extUpdate window).foldl ExtView.receive self.extShown =
      .all self.identifier window.title window.appId := by
  unfold extUpdate
  split_ifs with hchanged
  · rw [List.foldl_append, receive_extNames]
    unfold extShown ExtView.all
    dsimp only
    rw [newTitle_or h, newAppId_or h]
    rfl
  · unfold somethingChangedForExt at hchanged
    simp only [not_or, Bool.not_eq_true, Option.isSome_eq_false_iff, Option.isNone_iff_eq_none]
      at hchanged
    have htitle := newTitle_or h
    have happId := newAppId_or h
    rw [hchanged.1] at htitle
    rw [hchanged.2] at happId
    rw [← htitle, ← happId]
    rfl

/-- The states are told if they changed. -/
theorem receive_states (v : WlrView) (hv : v.pending.states = self.states) :
    (if self.states ≠ states then [WlrEvent.state states] else []).foldl WlrView.receive v =
      { v with pending := { v.pending with states := states } } := by
  by_cases heq : self.states = states
  · rw [if_neg (not_not.mpr heq), ← heq, ← hv]
    rfl
  · rw [if_pos heq]
    rfl

/-- The outputs are left and entered if the output changed. -/
theorem receive_outputs (v : WlrView) (clientOutputs : ClientOutputs) (client : ClientId)
    {outputs : List WlOutput} (hv : v.pending.outputs = outputs) :
    (if self.output ≠ window.output then outputs.map .outputLeave ++
        (clientOutputs.of window.output client).map .outputEnter
      else []).foldl WlrView.receive v =
      { v with pending := { v.pending with
          outputs := self.outputsUpdate window clientOutputs client outputs } } := by
  unfold outputsUpdate
  by_cases heq : self.output = window.output
  · rw [if_neg (not_not.mpr heq), if_neg (not_not.mpr heq), ← hv]
    rfl
  · rw [if_pos heq, if_pos heq, List.foldl_append, ← hv, receive_outputLeave,
      receive_outputEnter]
    rfl

/-- After the update a manager is told of the window as it is. -/
theorem receive_wlrUpdate (h : self.Names window) (clientOutputs : ClientOutputs)
    (client : ClientId) (outputs : List WlOutput) :
    (self.wlrUpdate window states clientOutputs client outputs).foldl WlrView.receive
        (self.wlrShown outputs) =
      .all ⟨window.title, window.appId, states,
        self.outputsUpdate window clientOutputs client outputs⟩ := by
  unfold wlrUpdate
  by_cases hchanged : self.somethingChangedForWlr window states
  · rw [if_pos hchanged, List.foldl_append, List.foldl_append, List.foldl_append, receive_wlrNames]
    unfold wlrShown WlrView.all
    dsimp only
    rw [newTitle_or h, newAppId_or h, receive_states _ rfl, receive_outputs _ _ _ rfl]
    rfl
  · rw [if_neg hchanged]
    unfold somethingChangedForWlr at hchanged
    simp only [not_or, Bool.not_eq_true, Option.isSome_eq_false_iff, Option.isNone_iff_eq_none,
      not_not] at hchanged
    obtain ⟨htitle, happId, hstates, houtput⟩ := hchanged
    have htitle' := newTitle_or h
    have happId' := newAppId_or h
    rw [htitle] at htitle'
    rw [happId] at happId'
    unfold outputsUpdate
    rw [← htitle', ← happId', ← hstates, if_neg (not_not.mpr houtput)]
    rfl

/-- Only the states of the window itself are told. -/
theorem quiet_wlrUpdate (hstates : .activated ∉ states) (clientOutputs : ClientOutputs)
    (client : ClientId) (outputs : List WlOutput) {event : WlrEvent}
    (h : event ∈ self.wlrUpdate window states clientOutputs client outputs) : event.Quiet := by
  rintro states' rfl
  unfold wlrUpdate wlrNames at h
  have heq : states' = states := by
    split_ifs at h <;> simp at h
    all_goals exact h
  rw [heq]
  exact hstates

/-- The handles of the managers. -/
def wlrHandles (self : ToplevelData) : List Handle := self.wlrManagementInstances.map Prod.fst

/-- The data of a toplevel after a client bound an output. -/
def entered (self : ToplevelData) (output : OutputId) (client : ClientId)
    (wlOutput : WlOutput) : ToplevelData :=
  if self.output = some output then
    { self with
      wlrManagementInstances := self.wlrManagementInstances.map fun i =>
        (i.1, if i.1.client = client then i.2 ++ [wlOutput] else i.2) }
  else self

end ToplevelData

/-! ### The invariant -/

def extItems (toplevels : List (Surface × ToplevelData)) : List (Surface × List (Handle × ExtView)) :=
  toplevels.map fun entry => (entry.1, entry.2.extItem)

def wlrItems (toplevels : List (Surface × ToplevelData)) : List (Surface × List (Handle × WlrView)) :=
  toplevels.map fun entry => (entry.1, entry.2.wlrItem)

theorem extItems_split {before after : List (Surface × ToplevelData)} {surface : Surface}
    {data : ToplevelData} : extItems (before ++ (surface, data) :: after) =
      extItems before ++ (surface, data.extItem) :: extItems after := List.map_append

theorem wlrItems_split {before after : List (Surface × ToplevelData)} {surface : Surface}
    {data : ToplevelData} : wlrItems (before ++ (surface, data) :: after) =
      wlrItems before ++ (surface, data.wlrItem) :: wlrItems after := List.map_append

/-- The handles that the managers have of a toplevel. -/
def Handles (toplevels : List (Surface × ToplevelData)) (surface : Surface) (handle : Handle) : Prop :=
  ∃ data, Assoc.get toplevels surface = some data ∧ handle ∈ data.wlrHandles

/-- No two handles of one manager. -/
def OnePerManager (A : Handle → Prop) : Prop :=
  ∀ h h', A h → A h' → h.manager = h'.manager → h = h'

namespace ForeignToplevelManagerState

/-- The handles tell of the toplevels, of which only one is activated. -/
structure Told (s : ForeignToplevelManagerState) (active : Surface) : Prop where
  surfaces : (Assoc.keys s.toplevels).Nodup
  ext : Tracked .new ExtView.receive s.display.nextObject (extItems s.toplevels) s.display.extLog
  wlr : Tracked .new WlrView.receive s.display.nextObject (wlrItems s.toplevels) s.display.wlrLog
  active : ∀ surface data, Assoc.get s.toplevels surface = some data →
    .activated ∈ data.states → surface = active
  always : Always .new WlrView.receive WlrView.Activated OnePerManager s.display.wlrLog

/-- And the handles are on what their clients bound of the outputs. -/
structure Inv (s : ForeignToplevelManagerState) (clientOutputs : ClientOutputs)
    (active : Surface) : Prop extends Told s active where
  outputs : ∀ surface data, Assoc.get s.toplevels surface = some data →
    ∀ i ∈ data.wlrManagementInstances, i.2.Perm (clientOutputs.of data.output i.1.client)

variable {s : ForeignToplevelManagerState} {clientOutputs : ClientOutputs} {active : Surface}

theorem modify_of_get {surface : Surface} {data : ToplevelData}
    (h : Assoc.get s.toplevels surface = some data)
    (f : ToplevelData → Display → ToplevelData × Display) :
    s.modify surface f =
      { s with
        display := (f data s.display).2
        toplevels := Assoc.modify surface (fun _ => (f data s.display).1) s.toplevels } := by
  unfold modify
  rw [h]

theorem onePerManager_handles {toplevels : List (Surface × ToplevelData)} {next : ℕ}
    {log : List (Handle × Sent WlrEvent)}
    (h : Tracked .new WlrView.receive next (wlrItems toplevels) log) (surface : Surface) :
    OnePerManager (Handles toplevels surface) := by
  rintro handle handle' ⟨data, hget, hmem⟩ ⟨data', hget', hmem'⟩ hmanager
  obtain rfl : data = data' := Option.some.inj (hget.symm.trans hget')
  have hnodup := h.managers (surface, data.wlrItem)
    (List.mem_map_of_mem (f := fun entry => (entry.1, entry.2.wlrItem))
      (Assoc.mem_of_get_eq_some hget))
  have hmap : data.wlrItem.map (fun i => i.1.manager) = data.wlrHandles.map (·.manager) := by
    unfold ToplevelData.wlrItem ToplevelData.wlrHandles
    rw [List.map_map, List.map_map]
    rfl
  rw [hmap] at hnodup
  exact List.inj_on_of_nodup_map hnodup hmem hmem' hmanager

/-- Only the handles of one toplevel are activated. -/
theorem Told.only (h : s.Told active) :
    Only .new WlrView.receive WlrView.Activated (Handles s.toplevels active) s.display.wlrLog := by
  intro handle v hv hactivated
  rw [h.wlr.shows.known, Assoc.get_eq_some_iff h.wlr.shows.nodup] at hv
  obtain ⟨item, hitem, hi⟩ := Tracked.mem_owners.mp hv
  obtain ⟨⟨surface, data⟩, hentry, rfl⟩ := List.mem_map.mp hitem
  obtain ⟨i, hinstance, heq⟩ := List.mem_map.mp hi
  obtain ⟨rfl, rfl⟩ := Prod.mk.inj heq
  have hget : Assoc.get s.toplevels surface = some data :=
    (Assoc.get_eq_some_iff h.surfaces).mpr hentry
  obtain rfl := h.active surface data hget (WlrView.activated_all.mp hactivated)
  exact ⟨data, hget, List.mem_map_of_mem hinstance⟩

section Update

variable {window : Window} {states : List State} {data : ToplevelData}

theorem extItem_update (hnames : data.Names window) (display : Display) :
    (data.update window states clientOutputs display).1.extItem =
      data.extItem.map fun i => (i.1, (data.extUpdate window).foldl ExtView.receive i.2) := by
  unfold ToplevelData.extItem
  rw [List.map_map]
  refine List.map_congr_left fun handle _ => ?_
  rw [Function.comp_apply, ToplevelData.receive_extUpdate hnames]
  rfl

theorem wlrItem_update (hnames : data.Names window) (display : Display) :
    (data.update window states clientOutputs display).1.wlrItem =
      data.wlrManagementInstances.map fun i =>
        (i.1, (data.wlrUpdate window states clientOutputs i.1.client i.2).foldl
          WlrView.receive (data.wlrShown i.2)) := by
  unfold ToplevelData.wlrItem ToplevelData.update
  dsimp only
  rw [List.map_map]
  refine List.map_congr_left fun i _ => ?_
  rw [ToplevelData.receive_wlrUpdate hnames]
  rfl

/-- A window that is tracked is told of as it is. -/
theorem Inv.update (h : s.Inv clientOutputs active)
    (hget : Assoc.get s.toplevels window.surface = some data) (hnames : data.Names window)
    (hactive : .activated ∈ states → window.surface = active) :
    (s.modify window.surface fun data display =>
      data.update window states clientOutputs display).Inv clientOutputs active := by
  rw [modify_of_get hget]
  obtain ⟨before, after, hsplit, hmodify⟩ := Assoc.exists_split h.surfaces hget
  refine ⟨⟨?_, ?_, ?_, ?_, ?_⟩, ?_⟩
  · exact (Assoc.keys_modify window.surface
      (fun _ => (data.update window states clientOutputs s.display).1) s.toplevels).symm ▸ h.surfaces
  · have hext := h.ext
    rw [hsplit, extItems_split] at hext
    have hupdate := hext.update fun _ => data.extUpdate window
    dsimp only
    rw [hmodify, extItems_split, extItem_update hnames]
    rw [ToplevelData.extItem, List.flatMap_map] at hupdate
    exact hupdate
  · have hwlr := h.wlr
    rw [hsplit, wlrItems_split] at hwlr
    have hupdate := hwlr.update fun i =>
      data.wlrUpdate window states clientOutputs i.1.client i.2.pending.outputs
    rw [ToplevelData.wlrItem, List.flatMap_map, List.map_map] at hupdate
    dsimp only
    rw [hmodify, wlrItems_split, wlrItem_update hnames]
    exact hupdate
  · intro surface data' hget' hstates
    dsimp only at hget'
    rw [Assoc.get_modify] at hget'
    split_ifs at hget' with heq
    · rw [heq, hget] at hget'
      obtain rfl := Option.some.inj hget'
      exact heq.trans (hactive hstates)
    · exact h.active surface data' hget' hstates
  · refine h.always.append (onePerManager_handles h.wlr active) h.only ?_
    intro entry hentry
    obtain ⟨i, hi, hmem⟩ := List.mem_flatMap.mp hentry
    rw [List.map_map] at hmem
    obtain ⟨event, hevent, rfl⟩ := List.mem_map.mp hmem
    by_cases hstates : .activated ∈ states
    · refine .inl ⟨data, hactive hstates ▸ hget, List.mem_map_of_mem hi⟩
    · exact .inr (ToplevelData.quiet_wlrUpdate hstates clientOutputs i.1.client i.2 hevent).calm
  · intro surface data' hget' i hi
    dsimp only at hget'
    rw [Assoc.get_modify] at hget'
    split_ifs at hget' with heq
    · rw [heq, hget] at hget'
      obtain rfl := Option.some.inj hget'
      obtain ⟨i, hinstance, rfl⟩ := List.mem_map.mp hi
      change (data.outputsUpdate window clientOutputs i.1.client i.2).Perm
        (clientOutputs.of window.output i.1.client)
      unfold ToplevelData.outputsUpdate
      by_cases houtput : data.output = window.output
      · rw [if_neg (not_not.mpr houtput), ← houtput]
        exact h.outputs window.surface data hget i hinstance
      · rw [if_pos houtput]
    · exact h.outputs surface data' hget' i hi

end Update

section Add

variable {surface : Surface} {data : ToplevelData} {manager : Manager}

/-- A new handle of a list. -/
theorem Inv.addExtInstance (h : s.Inv clientOutputs active)
    (hget : Assoc.get s.toplevels surface = some data)
    (hmanager : manager.id < s.display.nextObject)
    (hnew : manager.id ∉ data.extListInstances.map (·.manager)) :
    (s.addExtInstance surface manager).Inv clientOutputs active := by
  unfold ForeignToplevelManagerState.addExtInstance
  rw [modify_of_get hget]
  obtain ⟨before, after, hsplit, hmodify⟩ := Assoc.exists_split h.surfaces hget
  have hsame : ∀ surface' data', Assoc.get (Assoc.modify surface
      (fun _ => (data.addExtInstance s.display manager).1) s.toplevels) surface' = some data' →
      ∃ old, Assoc.get s.toplevels surface' = some old ∧ data'.output = old.output ∧
        data'.states = old.states ∧
          data'.wlrManagementInstances = old.wlrManagementInstances := by
    intro surface' data' hget'
    rw [Assoc.get_modify] at hget'
    split_ifs at hget' with heq
    · rw [heq, hget] at hget'
      obtain rfl := Option.some.inj hget'
      exact ⟨data, heq ▸ hget, rfl, rfl, rfl⟩
    · exact ⟨data', hget', rfl, rfl, rfl⟩
  refine ⟨⟨?_, ?_, ?_, ?_, ?_⟩, ?_⟩
  · exact (Assoc.keys_modify surface
      (fun _ => (data.addExtInstance s.display manager).1) s.toplevels).symm ▸ h.surfaces
  · have hext := h.ext
    rw [hsplit, extItems_split] at hext
    have hno : manager.id ∉ data.extItem.map fun i => i.1.manager := by
      unfold ToplevelData.extItem
      rwa [List.map_map]
    have hadd := hext.add ⟨s.display.nextObject, manager.id, manager.client⟩ rfl
      hmanager hno (.identifier data.identifier :: extNames data.title data.appId ++ [.done])
    dsimp only
    rw [hmodify, extItems_split]
    have hshown : (ExtEvent.identifier data.identifier ::
        extNames data.title data.appId ++ [ExtEvent.done]).foldl ExtView.receive .new =
          data.extShown := by
      rw [List.cons_append, List.foldl_cons, List.foldl_append, receive_extNames]
      change (⟨_, ⟨data.title.or none, data.appId.or none⟩,
        some ⟨data.title.or none, data.appId.or none⟩⟩ : ExtView) = _
      rw [Option.or_none, Option.or_none]
      rfl
    rw [hshown] at hadd
    have hitem : (data.addExtInstance s.display manager).1.extItem = data.extItem ++
        [(⟨s.display.nextObject, manager.id, manager.client⟩, data.extShown)] := List.map_append
    rw [hitem]
    exact hadd
  · have hwlr := h.wlr.mono (Nat.le_succ s.display.nextObject)
    rw [hsplit, wlrItems_split] at hwlr
    dsimp only
    rw [hmodify, wlrItems_split]
    exact hwlr
  · intro surface' data' hget' hstates
    obtain ⟨old, hold, -, heq, -⟩ := hsame surface' data' hget'
    exact h.active surface' old hold (heq ▸ hstates)
  · exact h.always
  · intro surface' data' hget' i hi
    obtain ⟨old, hold, houtput, -, hinstances⟩ := hsame surface' data' hget'
    rw [houtput]
    exact h.outputs surface' old hold i (hinstances ▸ hi)

/-- A new handle of a manager. -/
theorem Inv.addWlrInstance (h : s.Inv clientOutputs active)
    (hget : Assoc.get s.toplevels surface = some data)
    (hmanager : manager.id < s.display.nextObject)
    (hnew : manager.id ∉ data.wlrHandles.map (·.manager)) :
    (s.addWlrInstance clientOutputs surface manager).Inv clientOutputs active := by
  unfold ForeignToplevelManagerState.addWlrInstance
  rw [modify_of_get hget]
  obtain ⟨before, after, hsplit, hmodify⟩ := Assoc.exists_split h.surfaces hget
  set handle : Handle := ⟨s.display.nextObject, manager.id, manager.client⟩
  set outputs := clientOutputs.of data.output manager.client
  set events := wlrNames data.title data.appId ++ [.state data.states] ++
    outputs.map .outputEnter ++ [.done] with hevents
  have hwlr : Tracked .new WlrView.receive (s.display.nextObject + 1)
      (wlrItems (Assoc.modify surface
        (fun _ => (data.addWlrInstance clientOutputs s.display manager).1) s.toplevels))
      (s.display.wlrLog ++ (.create :: events.map .tell).map (Prod.mk handle)) := by
    have hwlr := h.wlr
    rw [hsplit, wlrItems_split] at hwlr
    have hno : manager.id ∉ data.wlrItem.map fun i => i.1.manager := by
      unfold ToplevelData.wlrHandles at hnew
      rw [List.map_map] at hnew
      unfold ToplevelData.wlrItem
      rwa [List.map_map]
    have hadd := hwlr.add handle rfl hmanager hno events
    have hshown : events.foldl WlrView.receive .new = data.wlrShown outputs := by
      rw [hevents, List.foldl_append, List.foldl_append, List.foldl_append, receive_wlrNames,
        receive_outputEnter]
      change WlrView.all ⟨data.title.or none, data.appId.or none, data.states, [] ++ outputs⟩ = _
      rw [Option.or_none, Option.or_none, List.nil_append]
      rfl
    rw [hshown] at hadd
    have hitem : (data.addWlrInstance clientOutputs s.display manager).1.wlrItem =
        data.wlrItem ++ [(handle, data.wlrShown outputs)] := List.map_append
    rw [hmodify, wlrItems_split, hitem]
    exact hadd
  refine ⟨⟨?_, ?_, ?_, ?_, ?_⟩, ?_⟩
  · exact (Assoc.keys_modify surface
      (fun _ => (data.addWlrInstance clientOutputs s.display manager).1) s.toplevels).symm ▸
        h.surfaces
  · have hext := h.ext.mono (Nat.le_succ s.display.nextObject)
    rw [hsplit, extItems_split] at hext
    dsimp only
    rw [hmodify, extItems_split]
    exact hext
  · exact hwlr
  · intro surface' data' hget' hstates
    dsimp only at hget'
    rw [Assoc.get_modify] at hget'
    split_ifs at hget' with heq
    · rw [heq, hget] at hget'
      obtain rfl := Option.some.inj hget'
      exact heq.trans (h.active surface data hget hstates)
    · exact h.active surface' data' hget' hstates
  · refine h.always.append (onePerManager_handles hwlr active) ?_ ?_
    · intro handle' v hv hactivated
      obtain ⟨old, hold, hmem⟩ := h.only handle' v hv hactivated
      by_cases heq : active = surface
      · subst heq
        rw [hget] at hold
        obtain rfl := Option.some.inj hold
        refine ⟨(data.addWlrInstance clientOutputs s.display manager).1, ?_, ?_⟩
        · rw [Assoc.get_modify, if_pos rfl, hget]
          rfl
        · exact List.mem_map.mpr (by
            obtain ⟨i, hi, rfl⟩ := List.mem_map.mp hmem
            exact ⟨i, List.mem_append_left _ hi, rfl⟩)
      · refine ⟨old, ?_, hmem⟩
        rw [Assoc.get_modify, if_neg heq]
        exact hold
    · intro entry hentry
      obtain ⟨sent, hsent, rfl⟩ := List.mem_map.mp hentry
      by_cases hstates : .activated ∈ data.states
      · refine .inl ⟨(data.addWlrInstance clientOutputs s.display manager).1, ?_, ?_⟩
        · rw [Assoc.get_modify, if_pos (h.active surface data hget hstates).symm,
            ← h.active surface data hget hstates, hget]
          rfl
        · exact List.mem_map_of_mem (List.mem_append_right _ (List.mem_singleton_self _))
      · refine .inr ?_
        rcases List.mem_cons.mp hsent with rfl | hsent
        · rintro (hpending | ⟨shown, hshown, -⟩)
          · cases hpending
          · cases hshown
        · obtain ⟨event, hevent, rfl⟩ := List.mem_map.mp hsent
          refine WlrEvent.Quiet.calm ?_
          rintro states rfl
          unfold wlrNames at hevent
          have heq : states = data.states := by simpa using hevent
          rw [heq]
          exact hstates
  · intro surface' data' hget' i hi
    dsimp only at hget'
    rw [Assoc.get_modify] at hget'
    split_ifs at hget' with heq
    · rw [heq, hget] at hget'
      obtain rfl := Option.some.inj hget'
      rcases List.mem_append.mp hi with hi | hi
      · exact h.outputs surface data hget i hi
      · rw [List.mem_singleton.mp hi]
        exact List.Perm.refl _
    · exact h.outputs surface' data' hget' i hi

end Add

/-! ### The events that close, and those of a new output -/

theorem get_handleClosed (windows : List Window) (surface : Surface) :
    Assoc.get (s.handleClosed windows).toplevels surface =
      if surface ∈ windows.map (·.surface) then Assoc.get s.toplevels surface else none := by
  have hfilter := Assoc.get_filter (l := s.toplevels) (k := surface)
    fun k => decide (k ∈ windows.map (·.surface))
  rw [handleClosed]
  simpa using hfilter

/-- The windows that are gone are closed. -/
theorem Inv.handleClosed (h : s.Inv clientOutputs active) (windows : List Window) :
    (s.handleClosed windows).Inv clientOutputs active := by
  have hsame : ∀ surface data, Assoc.get (s.handleClosed windows).toplevels surface = some data →
      Assoc.get s.toplevels surface = some data := by
    intro surface data hget
    rw [get_handleClosed] at hget
    split_ifs at hget
    exact hget
  refine ⟨⟨?_, ?_, ?_, ?_, ?_⟩, ?_⟩
  · exact Assoc.nodup_keys_filter h.surfaces _
  · have hclose := h.ext.close fun surface => decide (surface ∈ windows.map (·.surface))
    unfold extItems at hclose
    rw [List.filter_map, List.filter_map, List.flatMap_map] at hclose
    have hitems : ∀ data : ToplevelData, data.extItem.map (fun i => (i.1, Sent.destroy)) =
        data.extListInstances.map fun i => (i, (Sent.destroy : Sent ExtEvent)) :=
      fun data => List.map_map
    simp only [hitems, Function.comp_def, ← decide_not] at hclose
    exact hclose
  · have hclose := h.wlr.close fun surface => decide (surface ∈ windows.map (·.surface))
    unfold wlrItems at hclose
    rw [List.filter_map, List.filter_map, List.flatMap_map] at hclose
    have hitems : ∀ data : ToplevelData, data.wlrItem.map (fun i => (i.1, Sent.destroy)) =
        data.wlrManagementInstances.map fun i => (i.1, (Sent.destroy : Sent WlrEvent)) :=
      fun data => List.map_map
    simp only [hitems, Function.comp_def, ← decide_not] at hclose
    exact hclose
  · exact fun surface data hget => h.active surface data (hsame surface data hget)
  · refine h.always.append (onePerManager_handles h.wlr active) h.only fun entry hentry => ?_
    obtain ⟨gone, -, hmem⟩ := List.mem_flatMap.mp hentry
    obtain ⟨i, -, rfl⟩ := List.mem_map.mp hmem
    exact .inr trivial
  · exact fun surface data hget => h.outputs surface data (hsame surface data hget)

section Bound

variable {output : OutputId} {client : ClientId} {wlOutput : WlOutput}

/-- One toplevel, for a client that bound an output. -/
def enterBound (self : ForeignToplevelManagerState) (output : OutputId) (client : ClientId)
    (wlOutput : WlOutput) (surface : Surface) : ForeignToplevelManagerState :=
  self.modify surface fun data display =>
    if data.output = some output then data.enterBound client wlOutput display else (data, display)

theorem Told.enterBound (h : s.Told active) (output : OutputId) (client : ClientId)
    (wlOutput : WlOutput) {surface : Surface} {data : ToplevelData}
    (hget : Assoc.get s.toplevels surface = some data) :
    (s.enterBound output client wlOutput surface).Told active ∧
      (s.enterBound output client wlOutput surface).toplevels =
        Assoc.modify surface (fun _ => data.entered output client wlOutput)
          s.toplevels := by
  unfold ForeignToplevelManagerState.enterBound ToplevelData.entered
  rw [modify_of_get hget]
  by_cases houtput : data.output = some output
  · rw [if_pos houtput, if_pos houtput]
    refine ⟨?_, rfl⟩
    obtain ⟨before, after, hsplit, hmodify⟩ := Assoc.exists_split h.surfaces hget
    refine ⟨?_, ?_, ?_, ?_, ?_⟩
    · exact (Assoc.keys_modify surface
        (fun _ => (data.enterBound client wlOutput s.display).1) s.toplevels).symm ▸ h.surfaces
    · have hext := h.ext
      rw [hsplit, extItems_split] at hext
      dsimp only
      rw [hmodify, extItems_split]
      exact hext
    · have hwlr := h.wlr
      rw [hsplit, wlrItems_split] at hwlr
      have hupdate := hwlr.update fun i =>
        if i.1.client = client then [.outputEnter wlOutput, .done] else []
      rw [ToplevelData.wlrItem, List.flatMap_map, List.map_map] at hupdate
      have hitem : (data.enterBound client wlOutput s.display).1.wlrItem =
          data.wlrManagementInstances.map fun i => (i.1,
            (if i.1.client = client then [.outputEnter wlOutput, .done] else []).foldl
              WlrView.receive (data.wlrShown i.2)) := by
        unfold ToplevelData.wlrItem ToplevelData.enterBound
        dsimp only
        rw [List.map_map]
        refine List.map_congr_left fun i _ => ?_
        rw [Function.comp_apply]
        split_ifs <;> rfl
      dsimp only
      rw [hmodify, wlrItems_split, hitem]
      exact hupdate
    · intro surface' data' hget' hstates
      dsimp only at hget'
      rw [Assoc.get_modify] at hget'
      split_ifs at hget' with heq
      · rw [heq, hget] at hget'
        obtain rfl := Option.some.inj hget'
        exact heq.trans (h.active surface data hget hstates)
      · exact h.active surface' data' hget' hstates
    · refine h.always.append (onePerManager_handles h.wlr active) h.only ?_
      intro entry hentry
      obtain ⟨i, hi, hmem⟩ := List.mem_flatMap.mp hentry
      rw [List.map_map] at hmem
      obtain ⟨event, hevent, rfl⟩ := List.mem_map.mp hmem
      refine .inr (WlrEvent.Quiet.calm ?_)
      rintro states rfl
      split_ifs at hevent <;> simp at hevent
  · rw [if_neg houtput, if_neg houtput]
    dsimp only
    rw [Assoc.modify_self h.surfaces hget]
    exact ⟨h, rfl⟩

/-- All toplevels, for a client that bound an output. -/
theorem Told.onOutputBound (h : s.Told active) (output : OutputId) (client : ClientId)
    (wlOutput : WlOutput) (surfaces : List Surface) (hnodup : surfaces.Nodup)
    (hsurfaces : ∀ surface ∈ surfaces, surface ∈ Assoc.keys s.toplevels) :
    (surfaces.foldl (ForeignToplevelManagerState.enterBound · output client wlOutput) s).Told
        active ∧
      ∀ surface, Assoc.get (surfaces.foldl
          (ForeignToplevelManagerState.enterBound · output client wlOutput) s).toplevels surface =
        (Assoc.get s.toplevels surface).map fun data =>
          if surface ∈ surfaces then data.entered output client wlOutput else data := by
  induction surfaces generalizing s with
  | nil => exact ⟨h, fun surface => by simp⟩
  | cons surface surfaces ih =>
    rw [List.nodup_cons] at hnodup
    obtain ⟨data, hget⟩ := Assoc.exists_get_of_mem_keys (hsurfaces surface List.mem_cons_self)
    obtain ⟨htold, htoplevels⟩ := h.enterBound output client wlOutput hget
    obtain ⟨htold', hget'⟩ := ih htold hnodup.2 fun k hk => by
      rw [htoplevels, Assoc.keys_modify]
      exact hsurfaces k (List.mem_cons_of_mem _ hk)
    refine ⟨htold', fun k => ?_⟩
    rw [List.foldl_cons, hget', htoplevels, Assoc.get_modify]
    by_cases heq : k = surface
    · subst heq
      rw [if_pos rfl, hget]
      simp [hnodup.1]
    · rw [if_neg heq]
      simp [heq]

/-- The outputs that a client bound, with one more. -/
structure Bound (clientOutputs clientOutputs' : ClientOutputs) (output : OutputId)
    (client : ClientId) (wlOutput : WlOutput) : Prop where
  same : (clientOutputs' output client).Perm (clientOutputs output client ++ [wlOutput])
  others : ∀ output' client', (output', client') ≠ (output, client) →
    clientOutputs' output' client' = clientOutputs output' client'

theorem Inv.onOutputBound (h : s.Inv clientOutputs active) {clientOutputs' : ClientOutputs}
    (hbound : Bound clientOutputs clientOutputs' output client wlOutput) :
    (s.onOutputBound output client wlOutput).Inv clientOutputs' active := by
  obtain ⟨htold, hget⟩ := h.toTold.onOutputBound output client wlOutput (Assoc.keys s.toplevels) h.surfaces fun _ => id
  refine ⟨htold, fun surface data' hget' i hi => ?_⟩
  have hmap := (hget surface).symm.trans hget'
  obtain ⟨data, hdata, heq⟩ := Option.map_eq_some_iff.mp hmap
  rw [if_pos (Assoc.mem_keys_of_get hdata)] at heq
  have hold := h.outputs surface data hdata
  have hother : ∀ output' client', (output', client') ≠ (output, client) →
      clientOutputs'.of (some output') client' = clientOutputs.of (some output') client' :=
    hbound.others
  unfold ToplevelData.entered at heq
  by_cases houtput : data.output = some output
  · rw [if_pos houtput] at heq
    subst heq
    obtain ⟨i, hinstance, rfl⟩ := List.mem_map.mp hi
    have hperm := hold i hinstance
    dsimp only
    rw [houtput] at hperm ⊢
    by_cases hclient : i.1.client = client
    · rw [if_pos hclient]
      rw [hclient] at hperm ⊢
      exact (hperm.append_right [wlOutput]).trans hbound.same.symm
    · rw [if_neg hclient, hother output i.1.client (by simp [hclient])]
      exact hperm
  · rw [if_neg houtput] at heq
    subst heq
    have hperm := hold i hi
    cases hdataOutput : data.output with
    | none =>
      rw [hdataOutput] at hperm
      exact hperm
    | some output' =>
      rw [hdataOutput] at hperm
      rw [hother output' i.1.client fun heq => houtput (by
        rw [hdataOutput, (Prod.mk.inj heq).1])]
      exact hperm

end Bound

end ForeignToplevelManagerState

end Sol.ForeignToplevel
