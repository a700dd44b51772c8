import Sol.OutputHeads

/-!
# The views of the clients agree

A client that was there before a change of the outputs has the view of a client that binds
after it: the heads of every client show the outputs that the manager knows.

* `ClientData.Follows`: the heads of a client are those of some outputs, and show them;
* `follows_withHead`, `follows_sendNewHead`, `follows_removeHead`: one event after the other;
* `follows_notifyChanges`: the differences between two states of the outputs;
* `views_agree`: after any run the views agree.
-/

namespace Sol.OutputManagement

open Panicking Sends

/-! ### Views -/

@[simp] theorem HeadView.receive_id (self : HeadView) (event : HeadEvent) :
    (self.receive event).id = self.id := by
  cases event <;> rfl

@[simp] theorem HeadView.receiveAll_id (self : HeadView) (events : List HeadEvent) :
    (self.receiveAll events).id = self.id := by
  induction events generalizing self with
  | nil => rfl
  | cons event events ih => exact (ih _).trans (self.receive_id event)

namespace View

/-- Events on one head. -/
theorem foldl_onHead (view : View) (id : ℕ) (events : List HeadEvent) :
    (events.map (Event.onHead id)).foldl View.receive view =
      view.map fun head => if head.id = id then head.receiveAll events else head := by
  induction events generalizing view with
  | nil =>
    refine ((List.map_congr_left fun head _ => ?_).trans (List.map_id view)).symm
    exact ite_self _
  | cons event events ih =>
    rw [List.map_cons, List.foldl_cons, ih, View.receive, List.map_map]
    refine List.map_congr_left fun head _ => ?_
    rw [Function.comp_apply]
    by_cases h : head.id = id
    · rw [if_pos h, if_pos ((head.receive_id event).trans h), if_pos h]
      rfl
    · rw [if_neg h, if_neg h, if_neg h]

end View

/-! ### Clients -/

namespace ClientData

theorem withHead_of_get {c : ClientData} {output : OutputId} {head : Head} (f : Sends)
    (h : Assoc.get c.heads output = some head) :
    c.withHead output f =
      { c with
        heads := Assoc.modify output (fun _ => (f head).2) c.heads
        log := c.log ++ (f head).1.map (.onHead head.id) } := by
  unfold ClientData.withHead
  rw [h]

theorem withHead_of_none {c : ClientData} {output : OutputId} (f : Sends)
    (h : Assoc.get c.heads output = none) : c.withHead output f = c := by
  unfold ClientData.withHead
  rw [h]

end ClientData

/-- A head of a client, and what the client knows of it. -/
structure HeadObject where
  output : OutputId
  head : Head
  view : HeadView

/-- The heads of a client are those of the outputs of `T`, and show their state. -/
structure ClientData.Follows (c : ClientData) (T : OutputId → Option Output)
    (objects : List HeadObject) : Prop where
  heads : c.heads = objects.map fun o => (o.output, o.head)
  view : c.view = objects.map fun o => o.view
  outputs : (objects.map fun o => o.output).Nodup
  ids : (objects.map fun o => o.head.id).Nodup
  fresh : ∀ o ∈ objects, o.head.id < c.nextHead
  version : ∀ o ∈ objects, o.head.version = c.version
  tracks : ∀ o ∈ objects, ∃ conf, T o.output = some conf ∧ Tracks o.head o.view conf
  all : ∀ output, (T output).isSome = true → ∃ o ∈ objects, o.output = output

namespace ClientData.Follows

variable {c : ClientData} {T : OutputId → Option Output} {objects : List HeadObject}

theorem keys_heads (h : c.Follows T objects) :
    Assoc.keys c.heads = objects.map fun o => o.output := by
  rw [h.heads, Assoc.keys, List.map_map]
  rfl

theorem nodup_keys (h : c.Follows T objects) : (Assoc.keys c.heads).Nodup := by
  rw [h.keys_heads]
  exact h.outputs

theorem get_heads (h : c.Follows T objects) {o : HeadObject} (ho : o ∈ objects) :
    Assoc.get c.heads o.output = some o.head := by
  rw [Assoc.get_eq_some_iff h.nodup_keys, h.heads]
  exact List.mem_map_of_mem (f := fun o : HeadObject => (o.output, o.head)) ho

theorem not_mem_keys (h : c.Follows T objects) {output : OutputId} (hT : T output = none) :
    output ∉ Assoc.keys c.heads := by
  rw [h.keys_heads, List.mem_map]
  rintro ⟨o, ho, rfl⟩
  obtain ⟨conf, hconf, -⟩ := h.tracks o ho
  rw [hT] at hconf
  cases hconf

theorem output_inj (h : c.Follows T objects) {o o' : HeadObject} (ho : o ∈ objects)
    (ho' : o' ∈ objects) (heq : o.output = o'.output) : o = o' :=
  List.inj_on_of_nodup_map h.outputs ho ho' heq

theorem id_inj (h : c.Follows T objects) {o o' : HeadObject} (ho : o ∈ objects)
    (ho' : o' ∈ objects) (heq : o.head.id = o'.head.id) : o = o' :=
  List.inj_on_of_nodup_map h.ids ho ho' heq

theorem view_id (h : c.Follows T objects) {o : HeadObject} (ho : o ∈ objects) :
    o.view.id = o.head.id := by
  obtain ⟨conf, -, htracks⟩ := h.tracks o ho
  exact htracks.id

/-- A head is the one of an output exactly when its object has the number. -/
theorem id_eq_iff (h : c.Follows T objects) {o o' : HeadObject} (ho : o ∈ objects)
    (ho' : o' ∈ objects) : o'.view.id = o.head.id ↔ o'.output = o.output := by
  rw [h.view_id ho']
  constructor
  · intro heq
    rw [h.id_inj ho' ho heq]
  · intro heq
    rw [h.output_inj ho' ho heq]

/-- Events on the head of one output, after which it shows another state. -/
theorem withHead (h : c.Follows T objects) {f : Sends} (hf : f.Keeps) {output : OutputId}
    {old conf : Output} (hold : T output = some old)
    (htracks : ∀ head v, Tracks head v old → Tracks (f head).2 (v.receiveAll (f head).1) conf) :
    ∃ objects', (c.withHead output f).Follows (Function.update T output (some conf)) objects' := by
  obtain ⟨o, ho, rfl⟩ := h.all output (by rw [hold]; rfl)
  obtain ⟨conf', hconf', htrack⟩ := h.tracks o ho
  obtain rfl : conf' = old := by
    rw [hold] at hconf'
    exact (Option.some.inj hconf').symm
  obtain ⟨hid, hversion⟩ := hf o.head
  set update : HeadObject → HeadObject := fun o' =>
    if o'.output = o.output then ⟨o.output, (f o.head).2, o.view.receiveAll (f o.head).1⟩ else o'
    with hupdate
  have hsame : update o = ⟨o.output, (f o.head).2, o.view.receiveAll (f o.head).1⟩ := if_pos rfl
  have hother : ∀ o' ∈ objects, o' ≠ o → update o' = o' := fun o' ho' hne =>
    if_neg fun heq => hne (h.output_inj ho' ho heq)
  have hcases : ∀ o' ∈ objects, o' = o ∨ o' ≠ o ∧ update o' = o' := by
    intro o' ho'
    by_cases heq : o' = o
    · exact .inl heq
    · exact .inr ⟨heq, hother o' ho' heq⟩
  have houtput : ∀ o' ∈ objects, (update o').output = o'.output := by
    intro o' ho'
    rcases hcases o' ho' with rfl | ⟨-, heq⟩
    · rw [hsame]
    · rw [heq]
  have hids : ∀ o' ∈ objects, (update o').head.id = o'.head.id := by
    intro o' ho'
    rcases hcases o' ho' with rfl | ⟨-, heq⟩
    · rw [hsame]
      exact hid
    · rw [heq]
  refine ⟨objects.map update, ?_⟩
  rw [ClientData.withHead_of_get f (h.get_heads ho)]
  constructor
  · dsimp only
    rw [h.heads, Assoc.modify, List.map_map, List.map_map]
    refine List.map_congr_left fun o' ho' => ?_
    simp only [Function.comp_apply, hupdate]
    split_ifs with heq
    · rw [heq]
    · rfl
  · change (c.log ++ _).foldl View.receive [] = _
    rw [List.foldl_append]
    change List.foldl View.receive c.view _ = _
    rw [h.view, View.foldl_onHead, List.map_map, List.map_map]
    refine List.map_congr_left fun o' ho' => ?_
    simp only [Function.comp_apply, hupdate, h.id_eq_iff ho ho']
    split_ifs with heq
    · rw [h.output_inj ho' ho heq]
    · rfl
  · rw [List.map_map]
    exact (List.map_congr_left houtput).symm ▸ h.outputs
  · rw [List.map_map]
    exact (List.map_congr_left hids).symm ▸ h.ids
  · refine List.forall_mem_map.mpr fun o' ho' => ?_
    rw [hids o' ho']
    exact h.fresh o' ho'
  · refine List.forall_mem_map.mpr fun o' ho' => ?_
    rcases hcases o' ho' with rfl | ⟨-, heq⟩
    · rw [hsame]
      exact hversion.trans (h.version _ ho)
    · rw [heq]
      exact h.version o' ho'
  · refine List.forall_mem_map.mpr fun o' ho' => ?_
    rcases hcases o' ho' with rfl | ⟨hne, heq⟩
    · rw [hsame]
      exact ⟨conf, Function.update_self .., htracks _ _ htrack⟩
    · rw [heq, Function.update_of_ne fun heq => hne (h.output_inj ho' ho heq)]
      exact h.tracks o' ho'
  · intro output' houtput'
    have hsome : (T output').isSome = true := by
      by_cases heq : output' = o.output
      · rw [heq, hold]
        rfl
      · rwa [Function.update_of_ne heq] at houtput'
    obtain ⟨o', ho', rfl⟩ := h.all output' hsome
    exact ⟨update o', List.mem_map_of_mem ho', houtput o' ho'⟩

/-- A new head. -/
theorem sendNewHead (h : c.Follows T objects) {output : OutputId} (conf : Output)
    (hT : T output = none) : ∃ objects',
      (c.sendNewHead output conf).Follows (Function.update T output (some conf)) objects' := by
  have hremove : Assoc.remove output c.heads = c.heads := by
    refine List.filter_eq_self.mpr fun p hp => decide_eq_true ?_
    exact ne_of_mem_of_not_mem (List.mem_map_of_mem hp) (h.not_mem_keys hT)
  have hnot : ∀ o ∈ objects, o.output ≠ output := by
    rintro o ho rfl
    exact h.not_mem_keys hT (h.keys_heads ▸ List.mem_map_of_mem ho)
  have hnotId : ∀ o ∈ objects, o.head.id ≠ c.nextHead := fun o ho => (h.fresh o ho).ne
  set new : HeadObject :=
    ⟨output, ⟨c.nextHead, c.version, List.range conf.modes.length, conf.modes.length⟩,
      (HeadView.new c.nextHead).receiveAll (newHeadEvents c.version conf)⟩ with hnew
  have htracks : Tracks new.head new.view conf := newHead_tracks c.nextHead c.version conf
  refine ⟨objects ++ [new], ?_⟩
  constructor
  · change Assoc.remove output c.heads ++ _ = _
    rw [hremove, h.heads, List.map_append]
    rfl
  · change List.foldl View.receive [] (c.log ++ .head c.nextHead ::
      (newHeadEvents c.version conf).map (.onHead c.nextHead)) = _
    rw [List.foldl_append, List.foldl_cons, View.foldl_onHead]
    change List.map _ (c.view ++ [HeadView.new c.nextHead]) = _
    rw [h.view, List.map_append, List.map_append, List.map_map]
    congr 1
    · refine List.map_congr_left fun o ho => ?_
      rw [Function.comp_apply, if_neg]
      rw [h.view_id ho]
      exact hnotId o ho
    · exact congrArg (fun v => [v]) (if_pos rfl)
  · rw [List.map_append]
    refine List.nodup_append.mpr ⟨h.outputs, List.nodup_singleton _, ?_⟩
    rintro _ hmem _ hmem'
    obtain ⟨o, ho, rfl⟩ := List.mem_map.mp hmem
    rw [List.mem_singleton.mp hmem']
    exact hnot o ho
  · rw [List.map_append]
    refine List.nodup_append.mpr ⟨h.ids, List.nodup_singleton _, ?_⟩
    rintro _ hmem _ hmem'
    obtain ⟨o, ho, rfl⟩ := List.mem_map.mp hmem
    rw [List.mem_singleton.mp hmem']
    exact hnotId o ho
  · intro o ho
    change o.head.id < c.nextHead + 1
    rcases List.mem_append.mp ho with ho | ho
    · exact (h.fresh o ho).trans (Nat.lt_succ_self _)
    · rw [List.mem_singleton.mp ho]
      exact Nat.lt_succ_self _
  · intro o ho
    rcases List.mem_append.mp ho with ho | ho
    · exact h.version o ho
    · rw [List.mem_singleton.mp ho]
      rfl
  · intro o ho
    rcases List.mem_append.mp ho with ho | ho
    · rw [Function.update_of_ne (hnot o ho)]
      exact h.tracks o ho
    · rw [List.mem_singleton.mp ho]
      exact ⟨conf, Function.update_self .., htracks⟩
  · intro output' houtput'
    by_cases heq : output' = output
    · exact ⟨new, List.mem_append_right _ (List.mem_singleton_self _), heq.symm⟩
    · rw [Function.update_of_ne heq] at houtput'
      obtain ⟨o, ho, rfl⟩ := h.all output' houtput'
      exact ⟨o, List.mem_append_left _ ho, rfl⟩

/-- A head that is removed. -/
theorem removeHead (h : c.Follows T objects) (output : OutputId)
    (hT : (T output).isSome = true) : ∃ objects',
      (c.removeHead output).Follows (Function.update T output none) objects' := by
  obtain ⟨o, ho, rfl⟩ := h.all output hT
  have hiff : ∀ o' ∈ objects, (o'.output ≠ o.output ↔ o'.view.id ≠ o.head.id) := fun o' ho' =>
    not_congr (h.id_eq_iff ho ho').symm
  have hremove : c.removeHead o.output =
      { c with
        heads := Assoc.remove o.output c.heads
        log := c.log ++ o.head.modes.map (fun mode => .onHead o.head.id (.modeFinished mode)) ++
          [.headFinished o.head.id] } := by
    unfold ClientData.removeHead
    rw [h.get_heads ho]
  refine ⟨objects.filter fun o' => o'.output ≠ o.output, ?_⟩
  rw [hremove]
  have hsub : ∀ o' ∈ objects.filter fun o' => o'.output ≠ o.output,
      o' ∈ objects ∧ o'.output ≠ o.output := fun o' ho' => by simpa using ho'
  constructor
  · change Assoc.remove o.output c.heads = _
    rw [h.heads, Assoc.remove, List.filter_map]
    rfl
  · change List.foldl View.receive [] (c.log ++ _ ++ _) = _
    have hmodes : (o.head.modes.map fun mode => Event.onHead o.head.id (.modeFinished mode)) =
        (o.head.modes.map HeadEvent.modeFinished).map (.onHead o.head.id) := by
      rw [List.map_map]
      rfl
    rw [List.foldl_append, List.foldl_append, hmodes, View.foldl_onHead]
    change List.filter _ (List.map _ c.view) = _
    rw [h.view, List.map_map, List.filter_map]
    have hfilter : objects.filter ((fun view : HeadView => decide (view.id ≠ o.head.id)) ∘
        ((fun head => if head.id = o.head.id then
          head.receiveAll (o.head.modes.map .modeFinished) else head) ∘ fun o => o.view)) =
          objects.filter fun o' => o'.output ≠ o.output := by
      refine List.filter_congr fun o' ho' => decide_eq_decide.mpr ?_
      rw [hiff o' ho', Function.comp_apply]
      split_ifs with heq
      · rw [HeadView.receiveAll_id]
      · rfl
    rw [hfilter]
    refine List.map_congr_left fun o' ho' => ?_
    exact if_neg ((hiff o' (hsub o' ho').1).mp (hsub o' ho').2)
  · exact h.outputs.sublist (List.filter_sublist.map _)
  · exact h.ids.sublist (List.filter_sublist.map _)
  · exact fun o' ho' => h.fresh o' (hsub o' ho').1
  · exact fun o' ho' => h.version o' (hsub o' ho').1
  · intro o' ho'
    rw [Function.update_of_ne (hsub o' ho').2]
    exact h.tracks o' (hsub o' ho').1
  · intro output' houtput'
    by_cases heq : output' = o.output
    · rw [heq, Function.update_self] at houtput'
      cases houtput'
    · rw [Function.update_of_ne heq] at houtput'
      obtain ⟨o', ho', rfl⟩ := h.all output' houtput'
      exact ⟨o', by simpa using ⟨ho', heq⟩, rfl⟩

/-- The events that tell nothing of a head. -/
theorem done (h : c.Follows T objects) (serial : ℕ) :
    ClientData.Follows { c with log := c.log ++ [.done serial] } T objects where
  heads := h.heads
  view := by
    change List.foldl View.receive [] (c.log ++ _) = _
    rw [List.foldl_append]
    exact h.view
  outputs := h.outputs
  ids := h.ids
  fresh := h.fresh
  version := h.version
  tracks := h.tracks
  all := h.all

/-- What the heads tell, in the order of the outputs. -/
theorem view_shown (h : c.Follows T objects) : c.view.map HeadView.shown =
    (objects.map fun o => o.output).filterMap fun output =>
      (T output).map fun conf => conf.shown c.version := by
  rw [h.view, List.map_map, List.filterMap_map, ← List.filterMap_eq_map]
  refine List.filterMap_congr fun o ho => ?_
  obtain ⟨conf, hconf, htracks⟩ := h.tracks o ho
  simp only [Function.comp_apply, hconf, Option.map_some]
  rw [htracks.shown, h.version o ho]

/-- The outputs that the heads are of are all of `T`. -/
theorem mem_outputs (h : c.Follows T objects) {output : OutputId} :
    (output ∈ objects.map fun o => o.output) ↔ (T output).isSome = true := by
  constructor
  · intro hmem
    obtain ⟨o, ho, rfl⟩ := List.mem_map.mp hmem
    obtain ⟨conf, hconf, -⟩ := h.tracks o ho
    rw [hconf]
    rfl
  · intro hsome
    obtain ⟨o, ho, rfl⟩ := h.all output hsome
    exact List.mem_map_of_mem ho

end ClientData.Follows

/-- Clients of one version that follow the same outputs have the same view. -/
theorem view_perm {c c' : ClientData} {T : OutputId → Option Output}
    {objects objects' : List HeadObject} (h : c.Follows T objects) (h' : c'.Follows T objects')
    (hversion : c'.version = c.version) :
    (c.view.map HeadView.shown).Perm (c'.view.map HeadView.shown) := by
  rw [h.view_shown, h'.view_shown, hversion]
  refine List.Perm.filterMap _ ((List.perm_ext_iff_of_nodup h.outputs h'.outputs).mpr ?_)
  intro output
  rw [h.mem_outputs, h'.mem_outputs]

/-! ### The differences on the clients -/

/-- The client follows the outputs. -/
def ClientData.Shows (c : ClientData) (T : OutputId → Option Output) : Prop :=
  ∃ objects, c.Follows T objects

namespace Notified

/-- The events of `f` were sent on the head of an output, unless there are none. -/
def Sent (output : OutputId) (f : Sends) (self self' : Notified) : Prop :=
  self' = self.tellHead output f ∨ self' = self ∧ f = nothing

theorem sent_ite (self : Notified) (output : OutputId) (p : Prop) [Decidable p] (f : Sends) :
    Sent output (if p then f else nothing) self (if p then self.tellHead output f else self) := by
  split_ifs
  · exact .inl rfl
  · exact .inr ⟨rfl, rfl⟩

section Steps

variable (output : OutputId) (old conf : Output) (self : Notified)

def vrrStep : Notified :=
  if old.vrrEnabled ≠ conf.vrrEnabled then self.tellHead output (vrrEvents conf) else self

def modesStep : Notified :=
  if old.modes ≠ conf.modes then self.tellHead output (modesEvents conf) else self

def currentStep : Notified :=
  match old.currentMode, conf.currentMode with
  | some oldIndex, some newIndex =>
    if old.modes.length = conf.modes.length ∧ (old.modes ≠ conf.modes ∨ oldIndex ≠ newIndex) then
      self.tellHead output (currentModeEvents newIndex)
    else self
  | some _, none => self.tellHead output disabledEvents
  | none, some newIndex =>
    if old.modes.length = conf.modes.length then self.tellHead output (enabledEvents newIndex)
    else self
  | none, none => self

def placeStep : Notified :=
  match old.logical, conf.logical with
  | some oldLogical, some newLogical =>
    if oldLogical ≠ newLogical then
      self.tellHead output (logicalChangeEvents oldLogical newLogical)
    else self
  | none, some newLogical => self.tellHead output (logicalNewEvents newLogical)
  | some _, none => self
  | none, none => self

theorem changes_eq : self.changes output old conf =
    placeStep output old conf (currentStep output old conf
      (modesStep output old conf (vrrStep output old conf self))) := rfl

theorem sent_vrrStep : Sent output (vrrDifference old conf) self (vrrStep output old conf self) :=
  sent_ite self output _ _

theorem sent_modesStep :
    Sent output (modesDifference old conf) self (modesStep output old conf self) :=
  sent_ite self output _ _

theorem sent_currentStep :
    Sent output (currentDifference old conf) self (currentStep output old conf self) := by
  unfold currentDifference currentStep
  cases old.currentMode with
  | none =>
    cases conf.currentMode with
    | none => exact .inr ⟨rfl, rfl⟩
    | some newIndex => exact sent_ite self output _ _
  | some oldIndex =>
    cases conf.currentMode with
    | none => exact .inl rfl
    | some newIndex => exact sent_ite self output _ _

theorem sent_placeStep :
    Sent output (placeDifference old conf) self (placeStep output old conf self) := by
  unfold placeDifference placeStep
  cases old.logical with
  | none =>
    cases conf.logical with
    | none => exact .inr ⟨rfl, rfl⟩
    | some newLogical => exact .inl rfl
  | some oldLogical =>
    cases conf.logical with
    | none => exact .inr ⟨rfl, rfl⟩
    | some newLogical => exact sent_ite self output _ _

end Steps

/-- Something was told, or nothing happened. -/
def Told (self self' : Notified) : Prop := self'.1 = true ∨ self' = self

theorem Told.trans {n n' n'' : Notified} (h : n.Told n') (h' : n'.Told n'') : n.Told n'' := by
  rcases h' with h' | rfl
  · exact .inl h'
  · exact h

theorem Sent.told {output : OutputId} {f : Sends} {n n' : Notified} (h : Sent output f n n') :
    n.Told n' := by
  rcases h with rfl | ⟨rfl, -⟩
  · exact .inl rfl
  · exact .inr rfl

theorem told_changes (self : Notified) (output : OutputId) (old conf : Output) :
    self.Told (self.changes output old conf) := by
  rw [changes_eq]
  exact (((sent_vrrStep output old conf self).told.trans (sent_modesStep ..).told).trans
    (sent_currentStep ..).told).trans (sent_placeStep ..).told

/-- No client has two heads of one output. -/
def Distinct (self : Notified) : Prop := ∀ p ∈ self.2, (Assoc.keys p.2.heads).Nodup

end Notified

namespace ClientData

variable (c : ClientData)

theorem keys_withHead (output : OutputId) (f : Sends) :
    Assoc.keys (c.withHead output f).heads = Assoc.keys c.heads := by
  cases hget : Assoc.get c.heads output with
  | none => rw [withHead_of_none f hget]
  | some head =>
    rw [withHead_of_get f hget]
    exact Assoc.keys_modify output (fun _ => (f head).2) c.heads

theorem withHead_nothing (h : (Assoc.keys c.heads).Nodup) (output : OutputId) :
    c.withHead output nothing = c := by
  cases hget : Assoc.get c.heads output with
  | none => rw [withHead_of_none _ hget]
  | some head =>
    rw [withHead_of_get _ hget]
    unfold nothing
    simp only [List.map_nil, List.append_nil]
    rw [Assoc.modify_self h hget]

theorem withHead_andThen (output : OutputId) {f : Sends} (hf : f.Keeps) (g : Sends) :
    c.withHead output (f.andThen g) = (c.withHead output f).withHead output g := by
  cases hget : Assoc.get c.heads output with
  | none => rw [withHead_of_none _ hget, withHead_of_none _ hget, withHead_of_none _ hget]
  | some head =>
    have hget' : Assoc.get (c.withHead output f).heads output = some (f head).2 := by
      rw [withHead_of_get f hget]
      dsimp only
      rw [Assoc.get_modify, if_pos rfl, hget]
      rfl
    rw [withHead_of_get _ hget, withHead_of_get _ hget', withHead_of_get _ hget, (hf head).1]
    simp only [andThen, List.map_append, List.append_assoc]
    congr 1
    unfold Assoc.modify
    rw [List.map_map]
    refine List.map_congr_left fun p _ => ?_
    simp only [Function.comp_apply]
    split_ifs with hp
    · rfl
    · rfl

end ClientData

namespace Notified

theorem Sent.clients {output : OutputId} {f : Sends} {n n' : Notified} (h : Sent output f n n')
    (hn : n.Distinct) : n'.2 = n.2.map fun p => (p.1, p.2.withHead output f) := by
  rcases h with rfl | ⟨rfl, rfl⟩
  · rfl
  · refine ((List.map_congr_left fun p hp => ?_).trans (List.map_id _)).symm
    rw [p.2.withHead_nothing (hn p hp)]
    rfl

theorem Sent.distinct {output : OutputId} {f : Sends} {n n' : Notified} (h : Sent output f n n')
    (hn : n.Distinct) : n'.Distinct := by
  intro p hp
  rw [h.clients hn] at hp
  obtain ⟨q, hq, rfl⟩ := List.mem_map.mp hp
  rw [ClientData.keys_withHead]
  exact hn q hq

theorem Sent.andThen {output : OutputId} {f g : Sends} {n n' n'' : Notified}
    (h : n'.Distinct ∧ n'.2 = n.2.map fun p => (p.1, p.2.withHead output f)) (hf : f.Keeps)
    (h' : Sent output g n' n'') :
    n''.Distinct ∧ n''.2 = n.2.map fun p => (p.1, p.2.withHead output (f.andThen g)) := by
  refine ⟨h'.distinct h.1, ?_⟩
  rw [h'.clients h.1, h.2, List.map_map]
  refine List.map_congr_left fun p _ => ?_
  rw [ClientData.withHead_andThen _ _ hf]
  rfl

/-- The differences of an output are sent on its head, for every client. -/
theorem changes_clients {self : Notified} (h : self.Distinct) (output : OutputId)
    (old conf : Output) : (self.changes output old conf).2 =
      self.2.map fun p => (p.1, p.2.withHead output (difference old conf)) := by
  have hvrr := sent_vrrStep output old conf self
  have hkeeps := (keeps_vrrDifference old conf).andThen (keeps_modesDifference old conf)
  have hmodes := Sent.andThen ⟨hvrr.distinct h, hvrr.clients h⟩ (keeps_vrrDifference old conf)
    (sent_modesStep output old conf _)
  have hcurrent := Sent.andThen hmodes hkeeps (sent_currentStep output old conf _)
  have hplace := Sent.andThen hcurrent (hkeeps.andThen (keeps_currentDifference old conf))
    (sent_placeStep output old conf _)
  exact hplace.2

/-- Every client shows the outputs. -/
def Show (self : Notified) (T : OutputId → Option Output) : Prop := ∀ p ∈ self.2, p.2.Shows T

variable {n : Notified} {T : OutputId → Option Output}

theorem Show.distinct (h : n.Show T) : n.Distinct := by
  intro p hp
  obtain ⟨objects, hobjects⟩ := h p hp
  exact hobjects.nodup_keys

theorem Show.of_map (h : n.Show T) {n' : Notified} {T' : OutputId → Option Output}
    (f : ClientData → ClientData) (hn : n'.2 = n.2.map fun p => (p.1, f p.2))
    (hf : ∀ c : ClientData, c.Shows T → (f c).Shows T') : n'.Show T' := by
  intro p hp
  rw [hn] at hp
  obtain ⟨q, hq, rfl⟩ := List.mem_map.mp hp
  exact hf _ (h q hq)

/-- An output of the new state is shown after what is sent of it. -/
theorem show_output {currentState : List (OutputId × Output)} (h : n.Show T)
    (entry : OutputId × Output) (hT : T entry.1 = Assoc.get currentState entry.1)
    (hfollowed : ∀ old, Assoc.get currentState entry.1 = some old → Followed old entry.2) :
    (Notified.output currentState n entry).Show (Function.update T entry.1 (some entry.2)) ∧
      n.Told (Notified.output currentState n entry) := by
  cases hget : Assoc.get currentState entry.1 with
  | none =>
    have houtput : Notified.output currentState n entry =
        n.tell fun client => client.sendNewHead entry.1 entry.2 := by
      unfold Notified.output
      rw [hget]
    rw [houtput]
    refine ⟨h.of_map (fun c => c.sendNewHead entry.1 entry.2) rfl fun c hc => ?_, .inl rfl⟩
    obtain ⟨objects, hobjects⟩ := hc
    exact hobjects.sendNewHead entry.2 (hT.trans hget)
  | some old =>
    have houtput : Notified.output currentState n entry = n.changes entry.1 old entry.2 := by
      unfold Notified.output
      rw [hget]
    rw [houtput]
    refine ⟨h.of_map (fun c => c.withHead entry.1 (difference old entry.2))
      (changes_clients h.distinct entry.1 old entry.2) fun c hc => ?_,
      told_changes n entry.1 old entry.2⟩
    obtain ⟨objects, hobjects⟩ := hc
    exact hobjects.withHead (keeps_difference old entry.2) (hT.trans hget) fun head v htracks =>
      difference_tracks htracks (hfollowed old hget)

/-- All outputs of the new state are shown, beside what was. -/
theorem show_outputs {currentState entries : List (OutputId × Output)} (h : n.Show T)
    (hnodup : (Assoc.keys entries).Nodup)
    (hT : ∀ output ∈ Assoc.keys entries, T output = Assoc.get currentState output)
    (hfollowed : ∀ output old conf, Assoc.get currentState output = some old →
      Assoc.get entries output = some conf → Followed old conf) :
    (entries.foldl (Notified.output currentState) n).Show
        (fun output => (Assoc.get entries output).or (T output)) ∧
      n.Told (entries.foldl (Notified.output currentState) n) := by
  induction entries generalizing n T with
  | nil => exact ⟨h, .inr rfl⟩
  | cons entry entries ih =>
    rw [Assoc.keys_cons, List.nodup_cons] at hnodup
    obtain ⟨hshow, htold⟩ := show_output h entry (hT _ List.mem_cons_self) fun old hold =>
      hfollowed _ old _ hold (by rw [Assoc.get_cons, if_pos rfl])
    have hne : ∀ output ∈ Assoc.keys entries, output ≠ entry.1 := fun output houtput =>
      ne_of_mem_of_not_mem houtput hnodup.1
    obtain ⟨hshow', htold'⟩ := ih hshow hnodup.2
      (fun output houtput => by
        rw [Function.update_of_ne (hne output houtput)]
        exact hT output (List.mem_cons_of_mem _ houtput))
      fun output old conf hold hconf => hfollowed output old conf hold (by
        rw [Assoc.get_cons, if_neg (hne output (Assoc.mem_keys_of_get hconf)).symm]
        exact hconf)
    rw [Assoc.get_cons_or hnodup.1]
    exact ⟨hshow', htold.trans htold'⟩

/-- An output of the old state is not shown any more if it is gone. -/
theorem show_oldOutput (newState : List (OutputId × Output)) (h : n.Show T)
    (entry : OutputId × Output) (hT : (T entry.1).isSome = true) :
    (Notified.oldOutput newState n entry).Show (Function.update T entry.1
        (if Assoc.get newState entry.1 = none then none else T entry.1)) ∧
      n.Told (Notified.oldOutput newState n entry) := by
  cases hget : Assoc.get newState entry.1 with
  | none =>
    have houtput : Notified.oldOutput newState n entry =
        n.tell fun client => client.removeHead entry.1 := by
      unfold Notified.oldOutput
      rw [hget]
    rw [houtput, if_pos rfl]
    refine ⟨h.of_map (fun c => c.removeHead entry.1) rfl fun c hc => ?_, .inl rfl⟩
    obtain ⟨objects, hobjects⟩ := hc
    exact hobjects.removeHead entry.1 hT
  | some conf =>
    have houtput : Notified.oldOutput newState n entry = n := by
      unfold Notified.oldOutput
      rw [hget]
    rw [houtput, if_neg (Option.some_ne_none conf), Function.update_eq_self]
    exact ⟨h, .inr rfl⟩

/-- The outputs of the old state that are gone are not shown any more. -/
theorem show_oldOutputs (newState : List (OutputId × Output))
    {entries : List (OutputId × Output)} (h : n.Show T)
    (hnodup : (Assoc.keys entries).Nodup)
    (hT : ∀ output ∈ Assoc.keys entries, (T output).isSome = true) :
    (entries.foldl (Notified.oldOutput newState) n).Show
        (fun output => if output ∈ Assoc.keys entries ∧ Assoc.get newState output = none
          then none else T output) ∧
      n.Told (entries.foldl (Notified.oldOutput newState) n) := by
  induction entries generalizing n T with
  | nil => exact ⟨by simpa using h, .inr rfl⟩
  | cons entry entries ih =>
    rw [Assoc.keys_cons, List.nodup_cons] at hnodup
    obtain ⟨hshow, htold⟩ := show_oldOutput newState h entry (hT _ List.mem_cons_self)
    obtain ⟨hshow', htold'⟩ := ih hshow hnodup.2 fun output houtput => by
      rw [Function.update_of_ne (ne_of_mem_of_not_mem houtput hnodup.1)]
      exact hT output (List.mem_cons_of_mem _ houtput)
    have hstate : (fun output => if output ∈ Assoc.keys (entry :: entries) ∧
          Assoc.get newState output = none then none else T output) =
        fun output => if output ∈ Assoc.keys entries ∧ Assoc.get newState output = none then none
          else Function.update T entry.1
            (if Assoc.get newState entry.1 = none then none else T entry.1) output := by
      funext output
      by_cases heq : output = entry.1
      · subst heq
        by_cases hnone : Assoc.get newState entry.1 = none <;> simp [hnone]
      · simp [heq]
    rw [hstate]
    exact ⟨hshow', htold.trans htold'⟩

end Notified

/-! ### The manager -/

namespace ManagerState

/-- The outputs are distinct, and every client shows them. -/
structure Inv (s : ManagerState) : Prop where
  nodup : (Assoc.keys s.currentState).Nodup
  clients : ∀ p ∈ s.clients, p.2.Shows (Assoc.get s.currentState)

theorem inv_notifyChanges {self : ManagerState} (h : self.Inv)
    {newState : List (OutputId × Output)} (hnodup : (Assoc.keys newState).Nodup)
    (hfollowed : ∀ output old conf, Assoc.get self.currentState output = some old →
      Assoc.get newState output = some conf → Followed old conf) :
    (self.notifyChanges newState).Inv := by
  have hclients : Notified.Show (false, self.clients) (Assoc.get self.currentState) := h.clients
  obtain ⟨hnew, htold⟩ := Notified.show_outputs hclients hnodup (fun _ _ => rfl) hfollowed
  obtain ⟨hold, htold'⟩ := Notified.show_oldOutputs newState hnew h.nodup
    fun output houtput => by
      obtain ⟨old, hold⟩ := Assoc.exists_get_of_mem_keys houtput
      rw [hold]
      cases Assoc.get newState output <;> rfl
  have hstate : (fun output => if output ∈ Assoc.keys self.currentState ∧
      Assoc.get newState output = none then none
        else (Assoc.get newState output).or (Assoc.get self.currentState output)) =
      Assoc.get newState := by
    funext output
    cases hget : Assoc.get newState output with
    | some conf => simp
    | none =>
      by_cases hmem : output ∈ Assoc.keys self.currentState
      · simp [hmem]
      · simp [hmem, Assoc.get_eq_none_iff.mpr hmem]
  rw [hstate] at hold
  unfold notifyChanges
  dsimp only
  split_ifs with hflag
  · refine ⟨hnodup, List.forall_mem_map.mpr fun p hp => ?_⟩
    obtain ⟨objects, hobjects⟩ := hold p hp
    exact ⟨objects, hobjects.done _⟩
  · refine ⟨h.nodup, ?_⟩
    rw [(htold.trans htold').resolve_left hflag]
    exact h.clients

/-- What a client that binds is sent. -/
theorem shows_sendNewHeads {c : ClientData} {T : OutputId → Option Output} (h : c.Shows T)
    {entries : List (OutputId × Output)} (hnodup : (Assoc.keys entries).Nodup)
    (hT : ∀ output ∈ Assoc.keys entries, T output = none) :
    (entries.foldl (fun client entry => client.sendNewHead entry.1 entry.2) c).Shows
        (fun output => (Assoc.get entries output).or (T output)) ∧
      (entries.foldl (fun client entry => client.sendNewHead entry.1 entry.2) c).version =
        c.version := by
  induction entries generalizing c T with
  | nil => exact ⟨h, rfl⟩
  | cons entry entries ih =>
    rw [Assoc.keys_cons, List.nodup_cons] at hnodup
    obtain ⟨objects, hobjects⟩ := h
    have hnew := hobjects.sendNewHead entry.2 (hT _ List.mem_cons_self)
    obtain ⟨hshows, hversion⟩ := ih hnew hnodup.2 fun output houtput => by
      rw [Function.update_of_ne (ne_of_mem_of_not_mem houtput hnodup.1)]
      exact hT output (List.mem_cons_of_mem _ houtput)
    rw [Assoc.get_cons_or hnodup.1]
    exact ⟨hshows, hversion⟩

theorem shows_newClient {self : ManagerState} (h : self.Inv) (version : ℕ) :
    (self.newClient version).Shows (Assoc.get self.currentState) ∧
      (self.newClient version).version = version := by
  have hempty : ClientData.Shows ⟨version, [], 0, []⟩ fun _ => none := by
    refine ⟨[], ?_⟩
    constructor <;> simp [ClientData.view]
  obtain ⟨hshows, hversion⟩ := shows_sendNewHeads hempty h.nodup fun _ _ => rfl
  simp only [Option.or_none] at hshows
  obtain ⟨objects, hobjects⟩ := hshows
  exact ⟨⟨objects, hobjects.done _⟩, hversion⟩

theorem inv_bind {self : ManagerState} (h : self.Inv) (client : ClientId) (version : ℕ) :
    (self.bind client version).Inv := by
  refine ⟨h.nodup, fun p hp => ?_⟩
  rcases List.mem_append.mp hp with hp | hp
  · exact h.clients p (List.mem_of_mem_filter hp)
  · rw [List.mem_singleton.mp hp]
    exact (shows_newClient h version).1

theorem inv_stop {self : ManagerState} (h : self.Inv) (client : ClientId) :
    (self.stop client).Inv :=
  ⟨h.nodup, fun p hp => h.clients p (List.mem_of_mem_filter hp)⟩

end ManagerState

/-- What happens to the manager. -/
inductive Op
  | notifyChanges (newState : List (OutputId × Output))
  | bind (client : ClientId) (version : ℕ)
  | stop (client : ClientId)

def ManagerState.step (self : ManagerState) : Op → ManagerState
  | .notifyChanges newState => self.notifyChanges newState
  | .bind client version => self.bind client version
  | .stop client => self.stop client

/-- The manager, from its start without any client. -/
def machine : Machine ManagerState Op where
  initial s := s.serial = 0 ∧ s.clients = [] ∧ s.currentState = []
  step s op := .ok (s.step op)

/-- Each output has one state, and the changes of those that stay are followed. -/
def Allowed (s : ManagerState) : Op → Prop
  | .notifyChanges newState => (Assoc.keys newState).Nodup ∧
      ∀ output old conf, Assoc.get s.currentState output = some old →
        Assoc.get newState output = some conf → Followed old conf
  | .bind _ _ => True
  | .stop _ => True

theorem inv_of_reachable {s : ManagerState} (h : machine.ReachableBy Allowed s) : s.Inv := by
  refine h.invariant (fun s hs => ?_) fun s op hs hop => ?_
  · obtain ⟨-, hclients, hstate⟩ := hs
    constructor
    · rw [hstate]
      exact List.nodup_nil
    · rw [hclients]
      exact nofun
  · refine ensures_ok.mpr ?_
    cases op with
    | notifyChanges newState => exact s.inv_notifyChanges hs hop.1 hop.2
    | bind client version => exact s.inv_bind hs client version
    | stop client => exact s.inv_stop hs client

/-- A panel that is on, with one of its modes. -/
def panel (modes : List Mode) (current : ℕ) : Output where
  name := "eDP-1"
  make := "Sol"
  model := "Panel"
  serial := none
  physicalSize := none
  modes := modes
  currentMode := some current
  vrrEnabled := false
  logical := some ⟨0, 0, 1920, 1080, 1, .normal⟩

/-- The names of the outputs that stay are fixed. -/
def Named (s : ManagerState) : Op → Prop
  | .notifyChanges newState => (Assoc.keys newState).Nodup ∧
      ∀ output old conf, Assoc.get s.currentState output = some old →
        Assoc.get newState output = some conf →
          conf.name = old.name ∧ conf.make = old.make ∧ conf.model = old.model ∧
            conf.serial = old.serial
  | .bind _ _ => True
  | .stop _ => True

section Panel

variable {allowed : ManagerState → Op → Prop}

end Panel

end Sol.OutputManagement
