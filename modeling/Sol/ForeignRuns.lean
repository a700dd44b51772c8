import Sol.ForeignViews

/-!
# Runs of the foreign toplevel protocols

* `Managed`: every list and every manager has a handle of every toplevel;
* `Adds.all`: handles that are added one after the other;
* `follows_refresh`: the toplevels after a refresh are the windows;
* `inv_bindExt`, `inv_bindWlr`, `managed_onOutputBound`: what else happens in between.
-/

namespace Sol.ForeignToplevel

open Objects

/-! ### Handles of the managers -/

/-- A handle of the manager. -/
def Manager.Has (self : Manager) (handles : List Handle) : Prop :=
  ∃ h ∈ handles, h.manager = self.id ∧ h.client = self.client

/-- The toplevel is the same, and has at least the same handles. -/
structure Grows (data data' : ToplevelData) : Prop where
  title : data'.title = data.title
  appId : data'.appId = data.appId
  states : data'.states = data.states
  output : data'.output = data.output
  ext : ∀ h ∈ data.extListInstances, h ∈ data'.extListInstances
  wlr : ∀ h ∈ data.wlrHandles, h ∈ data'.wlrHandles

theorem Grows.refl (data : ToplevelData) : Grows data data :=
  ⟨rfl, rfl, rfl, rfl, fun _ => id, fun _ => id⟩

theorem Grows.trans {d d' d'' : ToplevelData} (h : Grows d d') (h' : Grows d' d'') : Grows d d'' :=
  ⟨h'.title.trans h.title, h'.appId.trans h.appId, h'.states.trans h.states,
    h'.output.trans h.output, fun i hi => h'.ext i (h.ext i hi), fun i hi => h'.wlr i (h.wlr i hi)⟩

namespace ForeignToplevelManagerState

/-- Every list and every manager has a handle of every toplevel. -/
structure Managed (s : ForeignToplevelManagerState) : Prop where
  extIds : (s.extListInstances.map (·.id)).Nodup
  wlrIds : (s.wlrManagementInstances.map (·.id)).Nodup
  extBelow : ∀ m ∈ s.extListInstances, m.id < s.display.nextObject
  wlrBelow : ∀ m ∈ s.wlrManagementInstances, m.id < s.display.nextObject
  ext : ∀ m ∈ s.extListInstances, ∀ surface data, Assoc.get s.toplevels surface = some data →
    m.Has data.extListInstances
  wlr : ∀ m ∈ s.wlrManagementInstances, ∀ surface data,
    Assoc.get s.toplevels surface = some data → m.Has data.wlrHandles

/-- The lists and the managers are the same, and no number is free again. -/
structure SameManagers (s s' : ForeignToplevelManagerState) : Prop where
  ext : s'.extListInstances = s.extListInstances
  wlr : s'.wlrManagementInstances = s.wlrManagementInstances
  next : s.display.nextObject ≤ s'.display.nextObject

theorem SameManagers.refl (s : ForeignToplevelManagerState) : SameManagers s s :=
  ⟨rfl, rfl, le_rfl⟩

theorem SameManagers.trans {s s' s'' : ForeignToplevelManagerState} (h : SameManagers s s')
    (h' : SameManagers s' s'') : SameManagers s s'' :=
  ⟨h'.ext.trans h.ext, h'.wlr.trans h.wlr, h.next.trans h'.next⟩

theorem sameManagers_modify (s : ForeignToplevelManagerState) (surface : Surface)
    {f : ToplevelData → Display → ToplevelData × Display}
    (hf : ∀ data display, display.nextObject ≤ (f data display).2.nextObject) :
    SameManagers s (s.modify surface f) := by
  cases hget : Assoc.get s.toplevels surface with
  | none =>
    have hsame : s.modify surface f = s := by
      unfold modify
      rw [hget]
    rw [hsame]
    exact .refl s
  | some data =>
    rw [modify_of_get hget]
    exact ⟨rfl, rfl, hf data s.display⟩

/-- What adding a handle of one protocol does; those of the other stay. -/
structure Adds (add : ForeignToplevelManagerState → Surface → Manager → ForeignToplevelManagerState)
    (handles others : ToplevelData → List Handle) (clientOutputs : ClientOutputs)
    (active : Surface) : Prop where
  inv : ∀ s surface manager data, Inv s clientOutputs active →
    Assoc.get s.toplevels surface = some data → manager.id < s.display.nextObject →
    manager.id ∉ (handles data).map (·.manager) → Inv (add s surface manager) clientOutputs active
  toplevels : ∀ s surface manager data, Assoc.get s.toplevels surface = some data →
    ∃ data', (add s surface manager).toplevels = Assoc.modify surface (fun _ => data') s.toplevels ∧
      Grows data data' ∧
      handles data' = handles data ++ [⟨s.display.nextObject, manager.id, manager.client⟩] ∧
      others data' = others data
  same : ∀ s surface manager, SameManagers s (add s surface manager)
  mono : ∀ data data', Grows data data' → ∀ h ∈ handles data, h ∈ handles data'

section Adding

variable {clientOutputs : ClientOutputs} {active : Surface}

theorem adds_ext :
    Adds addExtInstance (·.extListInstances) (·.wlrHandles) clientOutputs active where
  inv _ _ _ _ h hget hmanager hnew := h.addExtInstance hget hmanager hnew
  toplevels s surface manager data hget := by
    refine ⟨(data.addExtInstance s.display manager).1, ?_, ?_, rfl, rfl⟩
    · rw [addExtInstance, modify_of_get hget]
    · exact ⟨rfl, rfl, rfl, rfl, fun _ => List.mem_append_left _, fun _ => id⟩
  same s surface manager := sameManagers_modify s surface fun _ _ => Nat.le_succ _
  mono _ _ h := h.ext

theorem adds_wlr : Adds (fun s surface manager => s.addWlrInstance clientOutputs surface manager)
    (·.wlrHandles) (·.extListInstances) clientOutputs active where
  inv _ _ _ _ h hget hmanager hnew := h.addWlrInstance hget hmanager hnew
  toplevels s surface manager data hget := by
    have hhandles : (data.addWlrInstance clientOutputs s.display manager).1.wlrHandles =
        data.wlrHandles ++ [⟨s.display.nextObject, manager.id, manager.client⟩] :=
      List.map_append
    refine ⟨(data.addWlrInstance clientOutputs s.display manager).1, ?_, ?_, hhandles, rfl⟩
    · rw [addWlrInstance, modify_of_get hget]
    · refine ⟨rfl, rfl, rfl, rfl, fun _ => id, fun h hh => ?_⟩
      rw [hhandles]
      exact List.mem_append_left _ hh
  same s surface manager := sameManagers_modify s surface fun _ _ => Nat.le_succ _
  mono _ _ h := h.wlr

/-- Handles that are added one after the other, each to a toplevel that has none for the
manager. -/
theorem Adds.all {add : ForeignToplevelManagerState → Surface → Manager →
      ForeignToplevelManagerState} {handles others : ToplevelData → List Handle}
    (hadd : Adds add handles others clientOutputs active) {s : ForeignToplevelManagerState}
    (h : s.Inv clientOutputs active) (pairs : List (Surface × Manager))
    (hnodup : (pairs.map fun p => (p.1, p.2.id)).Nodup)
    (hkeys : ∀ p ∈ pairs, p.1 ∈ Assoc.keys s.toplevels)
    (hbelow : ∀ p ∈ pairs, p.2.id < s.display.nextObject)
    (hnew : ∀ p ∈ pairs, ∀ data, Assoc.get s.toplevels p.1 = some data →
      p.2.id ∉ (handles data).map (·.manager)) :
    (pairs.foldl (fun s p => add s p.1 p.2) s).Inv clientOutputs active ∧
      SameManagers s (pairs.foldl (fun s p => add s p.1 p.2) s) ∧
      Assoc.keys (pairs.foldl (fun s p => add s p.1 p.2) s).toplevels = Assoc.keys s.toplevels ∧
      ∀ surface data', Assoc.get (pairs.foldl (fun s p => add s p.1 p.2) s).toplevels surface =
          some data' →
        ∃ data, Assoc.get s.toplevels surface = some data ∧ Grows data data' ∧
          others data' = others data ∧ ∀ p ∈ pairs, p.1 = surface → p.2.Has (handles data') := by
  induction pairs generalizing s with
  | nil => exact ⟨h, .refl s, rfl, fun surface data' hget => ⟨data', hget, .refl data', rfl, nofun⟩⟩
  | cons p pairs ih =>
    obtain ⟨surface, manager⟩ := p
    rw [List.map_cons, List.nodup_cons] at hnodup
    obtain ⟨data, hget⟩ := Assoc.exists_get_of_mem_keys (hkeys _ List.mem_cons_self)
    have hinv := hadd.inv s surface manager data h hget (hbelow _ List.mem_cons_self)
      (hnew _ List.mem_cons_self data hget)
    obtain ⟨data₁, htoplevels, hgrows, hhandles, hothers⟩ := hadd.toplevels s surface manager data hget
    have hsame := hadd.same s surface manager
    have hget₁ : ∀ k, Assoc.get (add s surface manager).toplevels k =
        if k = surface then some data₁ else Assoc.get s.toplevels k := by
      intro k
      rw [htoplevels, Assoc.get_modify]
      by_cases heq : k = surface
      · rw [if_pos heq, if_pos heq, heq, hget]
        rfl
      · rw [if_neg heq, if_neg heq]
    have hkeys₁ : Assoc.keys (add s surface manager).toplevels = Assoc.keys s.toplevels := by
      rw [htoplevels]
      exact Assoc.keys_modify surface (fun _ => data₁) s.toplevels
    obtain ⟨hinv', hsame', hkeys', hall⟩ := ih hinv hnodup.2
      (fun q hq => hkeys₁ ▸ hkeys q (List.mem_cons_of_mem _ hq))
      (fun q hq => (hbelow q (List.mem_cons_of_mem _ hq)).trans_le hsame.next)
      (fun q hq data' hdata' => by
        rw [hget₁] at hdata'
        split_ifs at hdata' with heq
        · obtain rfl := Option.some.inj hdata'
          rw [hhandles, List.map_append, List.mem_append, not_or]
          refine ⟨hnew q (List.mem_cons_of_mem _ hq) data (heq ▸ hget), ?_⟩
          rw [List.map_singleton, List.mem_singleton]
          intro hid
          exact hnodup.1 (List.mem_map.mpr ⟨q, hq, Prod.ext heq hid⟩)
        · exact hnew q (List.mem_cons_of_mem _ hq) data' hdata')
    refine ⟨hinv', hsame.trans hsame', hkeys'.trans hkeys₁, fun k data' hdata' => ?_⟩
    obtain ⟨data₂, hdata₂, hgrows', hothers', hhas⟩ := hall k data' hdata'
    rw [hget₁] at hdata₂
    split_ifs at hdata₂ with heq
    · obtain rfl := Option.some.inj hdata₂
      subst heq
      refine ⟨data, hget, hgrows.trans hgrows', hothers'.trans hothers, fun q hq hsurface => ?_⟩
      rcases List.mem_cons.mp hq with rfl | hq
      · refine ⟨⟨s.display.nextObject, manager.id, manager.client⟩, ?_, rfl, rfl⟩
        refine hadd.mono _ _ hgrows' _ ?_
        rw [hhandles]
        exact List.mem_append_right _ (List.mem_singleton_self _)
      · exact hhas q hq hsurface
    · refine ⟨data₂, hdata₂, hgrows', hothers', fun q hq hsurface => ?_⟩
      rcases List.mem_cons.mp hq with rfl | hq
      · exact absurd hsurface.symm heq
      · exact hhas q hq hsurface

/-- A handle of one toplevel for each manager. -/
theorem Adds.managers {add : ForeignToplevelManagerState → Surface → Manager →
      ForeignToplevelManagerState} {handles others : ToplevelData → List Handle}
    (hadd : Adds add handles others clientOutputs active) {s : ForeignToplevelManagerState}
    (h : s.Inv clientOutputs active) {surface : Surface} {data : ToplevelData}
    (hget : Assoc.get s.toplevels surface = some data) (hnil : handles data = [])
    {managers : List Manager} (hids : (managers.map (·.id)).Nodup)
    (hbelow : ∀ m ∈ managers, m.id < s.display.nextObject) :
    (managers.foldl (fun s m => add s surface m) s).Inv clientOutputs active ∧
      SameManagers s (managers.foldl (fun s m => add s surface m) s) ∧
      Assoc.keys (managers.foldl (fun s m => add s surface m) s).toplevels =
        Assoc.keys s.toplevels ∧
      ∀ k data', Assoc.get (managers.foldl (fun s m => add s surface m) s).toplevels k =
          some data' →
        ∃ old, Assoc.get s.toplevels k = some old ∧ Grows old data' ∧
          others data' = others old ∧ (k = surface → ∀ m ∈ managers, m.Has (handles data')) := by
  have hnodup : ((managers.map fun m => (surface, m)).map fun p => (p.1, p.2.id)).Nodup := by
    have hmap : ((managers.map fun m => (surface, m)).map fun p => (p.1, p.2.id)) =
        (managers.map (·.id)).map (Prod.mk surface) := by
      rw [List.map_map, List.map_map]
      rfl
    rw [hmap]
    exact hids.map (Prod.mk_right_injective surface)
  obtain ⟨hinv, hsame, hkeys, hall⟩ := hadd.all h (managers.map fun m => (surface, m)) hnodup
    (fun p hp => by
      obtain ⟨m, -, rfl⟩ := List.mem_map.mp hp
      exact Assoc.mem_keys_of_get hget)
    (fun p hp => by
      obtain ⟨m, hm, rfl⟩ := List.mem_map.mp hp
      exact hbelow m hm)
    (fun p hp data' hdata' => by
      obtain ⟨m, -, rfl⟩ := List.mem_map.mp hp
      obtain rfl : data = data' := Option.some.inj (hget.symm.trans hdata')
      rw [hnil]
      exact List.not_mem_nil)
  rw [List.foldl_map] at hinv hsame hkeys hall
  refine ⟨hinv, hsame, hkeys, fun k data' hdata' => ?_⟩
  obtain ⟨old, hold, hgrows, hothers, hhas⟩ := hall k data' hdata'
  exact ⟨old, hold, hgrows, hothers, fun hk m hm =>
    hhas (surface, m) (List.mem_map_of_mem hm) hk.symm⟩

/-- A handle of each toplevel for a new manager. -/
theorem Adds.surfaces {add : ForeignToplevelManagerState → Surface → Manager →
      ForeignToplevelManagerState} {handles others : ToplevelData → List Handle}
    (hadd : Adds add handles others clientOutputs active) {s : ForeignToplevelManagerState}
    (h : s.Inv clientOutputs active) (manager : Manager)
    (hbelow : manager.id < s.display.nextObject)
    (hnew : ∀ surface data, Assoc.get s.toplevels surface = some data →
      manager.id ∉ (handles data).map (·.manager)) :
    ((Assoc.keys s.toplevels).foldl (fun s surface => add s surface manager) s).Inv
        clientOutputs active ∧
      SameManagers s ((Assoc.keys s.toplevels).foldl (fun s surface => add s surface manager) s) ∧
      ∀ k data', Assoc.get ((Assoc.keys s.toplevels).foldl
          (fun s surface => add s surface manager) s).toplevels k = some data' →
        ∃ old, Assoc.get s.toplevels k = some old ∧ Grows old data' ∧
          manager.Has (handles data') := by
  have hnodup : (((Assoc.keys s.toplevels).map fun k => (k, manager)).map
      fun p => (p.1, p.2.id)).Nodup := by
    have hmap : (((Assoc.keys s.toplevels).map fun k => (k, manager)).map
        fun p => (p.1, p.2.id)) = (Assoc.keys s.toplevels).map fun k => (k, manager.id) := by
      rw [List.map_map]
      rfl
    rw [hmap]
    exact h.surfaces.map (Prod.mk_left_injective manager.id)
  obtain ⟨hinv, hsame, -, hall⟩ := hadd.all h ((Assoc.keys s.toplevels).map fun k => (k, manager))
    hnodup
    (fun p hp => by
      obtain ⟨k, hk, rfl⟩ := List.mem_map.mp hp
      exact hk)
    (fun p hp => by
      obtain ⟨k, -, rfl⟩ := List.mem_map.mp hp
      exact hbelow)
    (fun p hp data' hdata' => by
      obtain ⟨k, -, rfl⟩ := List.mem_map.mp hp
      exact hnew k data' hdata')
  rw [List.foldl_map] at hinv hsame hall
  refine ⟨hinv, hsame, fun k data' hdata' => ?_⟩
  obtain ⟨old, hold, hgrows, -, hhas⟩ := hall k data' hdata'
  exact ⟨old, hold, hgrows, hhas (k, manager)
    (List.mem_map_of_mem (Assoc.mem_keys_of_get hold)) rfl⟩

/-! ### Refreshes -/

/-- The toplevel is the window. -/
structure Holds (data : ToplevelData) (window : Window) (states : List State) : Prop where
  title : data.title = window.title
  appId : data.appId = window.appId
  states : data.states = states
  output : data.output = window.output

theorem Holds.grows {d d' : ToplevelData} {window : Window} {states : List State}
    (h : Holds d window states) (hgrows : Grows d d') : Holds d' window states :=
  ⟨hgrows.title.trans h.title, hgrows.appId.trans h.appId, hgrows.states.trans h.states,
    hgrows.output.trans h.output⟩

/-- What a refresh of one window does. -/
structure Refreshed (s s' : ForeignToplevelManagerState) (clientOutputs : ClientOutputs)
    (active : Surface) (window : Window) (states : List State) : Prop where
  inv : s'.Inv clientOutputs active
  managed : s'.Managed
  same : SameManagers s s'
  tracked : ∃ data, Assoc.get s'.toplevels window.surface = some data ∧ Holds data window states
  others : ∀ surface ≠ window.surface, ∀ data', Assoc.get s'.toplevels surface = some data' →
    ∃ data, Assoc.get s.toplevels surface = some data ∧ Grows data data'
  keys : ∀ surface, surface ∈ Assoc.keys s'.toplevels ↔
    surface ∈ Assoc.keys s.toplevels ∨ surface = window.surface

variable {s : ForeignToplevelManagerState} {window : Window} {states : List State}

/-- A window that is tracked. -/
theorem refreshed_update (h : s.Inv clientOutputs active) (hm : s.Managed) {data : ToplevelData}
    (hget : Assoc.get s.toplevels window.surface = some data) (hnames : data.Names window)
    (hactive : .activated ∈ states → window.surface = active) :
    Refreshed s (s.modify window.surface fun data display =>
      data.update window states clientOutputs display) clientOutputs active window states := by
  have hinv := h.update hget hnames hactive
  have hsame : SameManagers s (s.modify window.surface fun data display =>
      data.update window states clientOutputs display) :=
    sameManagers_modify s window.surface fun _ _ => le_rfl
  rw [modify_of_get hget] at hinv hsame ⊢
  have hhandles : (data.update window states clientOutputs s.display).1.wlrHandles =
      data.wlrHandles := List.map_map
  have hget' : ∀ k, Assoc.get (Assoc.modify window.surface
      (fun _ => (data.update window states clientOutputs s.display).1) s.toplevels) k =
        if k = window.surface then some (data.update window states clientOutputs s.display).1
        else Assoc.get s.toplevels k := by
    intro k
    rw [Assoc.get_modify]
    by_cases heq : k = window.surface
    · rw [if_pos heq, if_pos heq, heq, hget]
      rfl
    · rw [if_neg heq, if_neg heq]
  refine ⟨hinv, ⟨hm.extIds, hm.wlrIds, hm.extBelow, hm.wlrBelow, ?_, ?_⟩, hsame,
    ⟨(data.update window states clientOutputs s.display).1, ?_, ⟨rfl, rfl, rfl, rfl⟩⟩, ?_, ?_⟩
  · intro m hmem surface data' hdata'
    rw [hget'] at hdata'
    split_ifs at hdata' with heq
    · obtain rfl := Option.some.inj hdata'
      exact hm.ext m hmem window.surface data hget
    · exact hm.ext m hmem surface data' hdata'
  · intro m hmem surface data' hdata'
    rw [hget'] at hdata'
    split_ifs at hdata' with heq
    · obtain rfl := Option.some.inj hdata'
      rw [hhandles]
      exact hm.wlr m hmem window.surface data hget
    · exact hm.wlr m hmem surface data' hdata'
  · rw [hget', if_pos rfl]
  · intro surface hne data' hdata'
    rw [hget', if_neg hne] at hdata'
    exact ⟨data', hdata', .refl data'⟩
  · intro surface
    rw [Assoc.keys_modify window.surface
      (fun _ => (data.update window states clientOutputs s.display).1) s.toplevels]
    constructor
    · exact .inl
    · rintro (hmem | rfl)
      · exact hmem
      · exact Assoc.mem_keys_of_get hget

/-- A new window without handles yet. -/
theorem Inv.append (h : s.Inv clientOutputs active)
    (hnone : Assoc.get s.toplevels window.surface = none)
    (hactive : .activated ∈ states → window.surface = active) :
    Inv { s with toplevels := s.toplevels ++ [(window.surface,
      ⟨window.id, window.title, window.appId, states, window.output, [], []⟩)] }
      clientOutputs active := by
  have hnot := Assoc.get_eq_none_iff.mp hnone
  refine ⟨⟨Assoc.nodup_keys_concat h.surfaces hnot, ?_, ?_, ?_, h.always⟩, ?_⟩
  · have hext := h.ext.append_nil window.surface
    unfold extItems at hext ⊢
    rw [List.map_append]
    exact hext
  · have hwlr := h.wlr.append_nil window.surface
    unfold wlrItems at hwlr ⊢
    rw [List.map_append]
    exact hwlr
  · intro surface data hget hstates
    dsimp only at hget
    rw [Assoc.get_concat hnot] at hget
    split_ifs at hget with heq
    · obtain rfl := Option.some.inj hget
      exact heq.trans (hactive hstates)
    · exact h.active surface data hget hstates
  · intro surface data hget i hi
    dsimp only at hget
    rw [Assoc.get_concat hnot] at hget
    split_ifs at hget with heq
    · obtain rfl := Option.some.inj hget
      cases hi
    · exact h.outputs surface data hget i hi

/-- A new window. -/
theorem refreshed_track (h : s.Inv clientOutputs active) (hm : s.Managed)
    (hnone : Assoc.get s.toplevels window.surface = none)
    (hactive : .activated ∈ states → window.surface = active) :
    Refreshed s (s.track clientOutputs window states) clientOutputs active window states := by
  have hnot := Assoc.get_eq_none_iff.mp hnone
  set new : ToplevelData :=
    ⟨window.id, window.title, window.appId, states, window.output, [], []⟩
  set s₁ : ForeignToplevelManagerState :=
    { s with toplevels := s.toplevels ++ [(window.surface, new)] }
  have hget₁ : ∀ k, Assoc.get s₁.toplevels k =
      if k = window.surface then some new else Assoc.get s.toplevels k := fun k =>
    Assoc.get_concat hnot
  have hmem₁ : window.surface ∈ Assoc.keys s₁.toplevels :=
    Assoc.mem_keys_of_get ((hget₁ _).trans (if_pos rfl))
  -- the handles of the lists
  obtain ⟨hinv₂, hsame₂, hkeys₂, hget₂⟩ := adds_ext.managers (h.append hnone hactive)
    ((hget₁ _).trans (if_pos rfl)) rfl hm.extIds hm.extBelow
  set s₂ := s.extListInstances.foldl (fun s m => s.addExtInstance window.surface m) s₁
  obtain ⟨new₂, hnew₂⟩ := Assoc.exists_get_of_mem_keys (hkeys₂.symm ▸ hmem₁)
  obtain ⟨old₂, hold₂, hgrows₂, hothers₂, hhas₂⟩ := hget₂ _ new₂ hnew₂
  obtain rfl : new = old₂ := Option.some.inj (((hget₁ _).trans (if_pos rfl)).symm.trans hold₂)
  -- the handles of the managers
  obtain ⟨hinv₃, hsame₃, hkeys₃, hget₃⟩ := adds_wlr.managers hinv₂ hnew₂ hothers₂ hm.wlrIds
    fun m hmem => (hm.wlrBelow m hmem).trans_le hsame₂.next
  have htrack : s.track clientOutputs window states = s.wlrManagementInstances.foldl
      (fun s m => s.addWlrInstance clientOutputs window.surface m) s₂ :=
    congrArg (List.foldl (fun (s : ForeignToplevelManagerState) (m : Manager) =>
      s.addWlrInstance clientOutputs window.surface m) s₂) hsame₂.wlr
  rw [htrack]
  set s₃ := s.wlrManagementInstances.foldl
    (fun s m => s.addWlrInstance clientOutputs window.surface m) s₂
  have hsame' : SameManagers s s₂ := ⟨hsame₂.ext, hsame₂.wlr, hsame₂.next⟩
  have hsame : SameManagers s s₃ := hsame'.trans hsame₃
  have hgrows : ∀ k data', Assoc.get s₃.toplevels k = some data' → ∃ data₂ data₁,
      Assoc.get s₂.toplevels k = some data₂ ∧ Assoc.get s₁.toplevels k = some data₁ ∧
      Grows data₁ data₂ ∧ Grows data₂ data' ∧
      (k = window.surface → ∀ m ∈ s.extListInstances, m.Has data₂.extListInstances) ∧
      (k = window.surface → ∀ m ∈ s.wlrManagementInstances, m.Has data'.wlrHandles) := by
    intro k data' hdata'
    obtain ⟨data₂, hdata₂, hgrows', -, hwlr⟩ := hget₃ k data' hdata'
    obtain ⟨data₁, hdata₁, hgrows'', -, hext⟩ := hget₂ k data₂ hdata₂
    exact ⟨data₂, data₁, hdata₂, hdata₁, hgrows'', hgrows', hext, hwlr⟩
  refine ⟨hinv₃, ⟨?_, ?_, ?_, ?_, ?_, ?_⟩, hsame, ?_, ?_, ?_⟩
  · rw [hsame.ext]
    exact hm.extIds
  · rw [hsame.wlr]
    exact hm.wlrIds
  · rw [hsame.ext]
    exact fun m hmem => (hm.extBelow m hmem).trans_le hsame.next
  · rw [hsame.wlr]
    exact fun m hmem => (hm.wlrBelow m hmem).trans_le hsame.next
  · rw [hsame.ext]
    intro m hmem k data' hdata'
    obtain ⟨data₂, data₁, hdata₂, hdata₁, hg₂, hg₃, hext, -⟩ := hgrows k data' hdata'
    obtain ⟨h', hh', hid⟩ : m.Has data₂.extListInstances := by
      by_cases heq : k = window.surface
      · exact hext heq m hmem
      · rw [hget₁, if_neg heq] at hdata₁
        obtain ⟨h', hh', hid⟩ := hm.ext m hmem k data₁ hdata₁
        exact ⟨h', hg₂.ext h' hh', hid⟩
    exact ⟨h', hg₃.ext h' hh', hid⟩
  · rw [hsame.wlr]
    intro m hmem k data' hdata'
    obtain ⟨data₂, data₁, hdata₂, hdata₁, hg₂, hg₃, -, hwlr⟩ := hgrows k data' hdata'
    by_cases heq : k = window.surface
    · exact hwlr heq m hmem
    · rw [hget₁, if_neg heq] at hdata₁
      obtain ⟨h', hh', hid⟩ := hm.wlr m hmem k data₁ hdata₁
      exact ⟨h', hg₃.wlr h' (hg₂.wlr h' hh'), hid⟩
  · obtain ⟨new₃, hnew₃⟩ := Assoc.exists_get_of_mem_keys
      (hkeys₃.symm ▸ hkeys₂.symm ▸ hmem₁ : window.surface ∈ Assoc.keys s₃.toplevels)
    obtain ⟨data₂, data₁, hdata₂, hdata₁, hg₂, hg₃, -, -⟩ := hgrows _ new₃ hnew₃
    rw [hget₁, if_pos rfl] at hdata₁
    obtain rfl := Option.some.inj hdata₁
    exact ⟨new₃, hnew₃, Holds.grows (Holds.grows ⟨rfl, rfl, rfl, rfl⟩ hg₂) hg₃⟩
  · intro k hne data' hdata'
    obtain ⟨data₂, data₁, hdata₂, hdata₁, hg₂, hg₃, -, -⟩ := hgrows k data' hdata'
    rw [hget₁, if_neg hne] at hdata₁
    exact ⟨data₁, hdata₁, hg₂.trans hg₃⟩
  · intro k
    rw [hkeys₃, hkeys₂, Assoc.keys_append, List.mem_append]
    exact or_congr_right List.mem_singleton

/-- A refresh of one window. -/
theorem refreshed_refreshToplevel (h : s.Inv clientOutputs active) (hm : s.Managed)
    {current : List XdgState} {hasFocus : Bool}
    (hnames : ∀ data, Assoc.get s.toplevels window.surface = some data → data.Names window)
    (hactive : hasFocus = true → window.surface = active) :
    Refreshed s (s.refreshToplevel clientOutputs window current hasFocus) clientOutputs active
      window (toStateVec current hasFocus) := by
  have hactive' : .activated ∈ toStateVec current hasFocus → window.surface = active := by
    intro hmem
    refine hactive ?_
    unfold toStateVec at hmem
    simpa using hmem
  unfold refreshToplevel
  dsimp only
  cases hget : Assoc.get s.toplevels window.surface with
  | none => exact refreshed_track h hm hget hactive'
  | some data => exact refreshed_update h hm hget (hnames data hget) hactive'

/-- The windows, the focused one left out. -/
structure Passed (s s' : ForeignToplevelManagerState) (clientOutputs : ClientOutputs)
    (active : Surface) (windows : List Window) (focus : Option Surface) : Prop where
  inv : s'.Inv clientOutputs active
  managed : s'.Managed
  same : SameManagers s s'
  tracked : ∀ w ∈ windows, focus ≠ some w.surface →
    ∃ data, Assoc.get s'.toplevels w.surface = some data ∧
      Holds data w (toStateVec (w.current.getD []) false)
  others : ∀ surface, (∀ w ∈ windows, focus ≠ some w.surface → w.surface ≠ surface) →
    ∀ data', Assoc.get s'.toplevels surface = some data' →
      ∃ data, Assoc.get s.toplevels surface = some data ∧ Grows data data'
  keys : ∀ surface, surface ∈ Assoc.keys s'.toplevels ↔ surface ∈ Assoc.keys s.toplevels ∨
    ∃ w ∈ windows, focus ≠ some w.surface ∧ w.surface = surface

theorem Passed.nil (h : s.Inv clientOutputs active) (hm : s.Managed) (focus : Option Surface) :
    Passed s s clientOutputs active [] focus where
  inv := h
  managed := hm
  same := .refl s
  tracked := nofun
  others _ _ data hdata := ⟨data, hdata, .refl data⟩
  keys surface := by simp

/-- One more window that is not focused. -/
theorem Passed.concat {s' s'' : ForeignToplevelManagerState} {windows : List Window}
    {focus : Option Surface} (h : Passed s s' clientOutputs active windows focus)
    (hfocus : focus ≠ some window.surface)
    (hnew : ∀ w ∈ windows, w.surface ≠ window.surface)
    (h' : Refreshed s' s'' clientOutputs active window
      (toStateVec (window.current.getD []) false)) :
    Passed s s'' clientOutputs active (windows ++ [window]) focus where
  inv := h'.inv
  managed := h'.managed
  same := h.same.trans h'.same
  tracked w hw hne := by
    rcases List.mem_append.mp hw with hw | hw
    · obtain ⟨data, hdata, hholds⟩ := h.tracked w hw hne
      have hmem : w.surface ∈ Assoc.keys s''.toplevels :=
        (h'.keys w.surface).mpr (.inl (Assoc.mem_keys_of_get hdata))
      obtain ⟨data', hdata'⟩ := Assoc.exists_get_of_mem_keys hmem
      obtain ⟨old, hold, hgrows⟩ := h'.others w.surface (hnew w hw) data' hdata'
      obtain rfl : data = old := Option.some.inj (hdata.symm.trans hold)
      exact ⟨data', hdata', hholds.grows hgrows⟩
    · rw [List.mem_singleton.mp hw]
      exact h'.tracked
  others surface hsurface data' hdata' := by
    have hne : surface ≠ window.surface := fun heq =>
      hsurface window (List.mem_append_right _ (List.mem_singleton_self _)) hfocus heq.symm
    obtain ⟨data₁, hdata₁, hgrows₁⟩ := h'.others surface hne data' hdata'
    obtain ⟨data, hdata, hgrows⟩ := h.others surface
      (fun w hw => hsurface w (List.mem_append_left _ hw)) data₁ hdata₁
    exact ⟨data, hdata, hgrows.trans hgrows₁⟩
  keys surface := by
    rw [h'.keys, h.keys]
    constructor
    · rintro ((hmem | ⟨w, hw, hne, rfl⟩) | rfl)
      · exact .inl hmem
      · exact .inr ⟨w, List.mem_append_left _ hw, hne, rfl⟩
      · exact .inr ⟨window, List.mem_append_right _ (List.mem_singleton_self _), hfocus, rfl⟩
    · rintro (hmem | ⟨w, hw, hne, rfl⟩)
      · exact .inl (.inl hmem)
      · rcases List.mem_append.mp hw with hw | hw
        · exact .inl (.inr ⟨w, hw, hne, rfl⟩)
        · rw [List.mem_singleton.mp hw]
          exact .inr rfl

/-- One more window that is focused, and left for later. -/
theorem Passed.skip {s' : ForeignToplevelManagerState} {windows : List Window}
    {focus : Option Surface} (h : Passed s s' clientOutputs active windows focus)
    (hfocus : focus = some window.surface) :
    Passed s s' clientOutputs active (windows ++ [window]) focus where
  inv := h.inv
  managed := h.managed
  same := h.same
  tracked w hw hne := by
    rcases List.mem_append.mp hw with hw | hw
    · exact h.tracked w hw hne
    · rw [List.mem_singleton.mp hw] at hne
      exact absurd hfocus hne
  others surface hsurface := h.others surface fun w hw => hsurface w (List.mem_append_left _ hw)
  keys surface := by
    rw [h.keys]
    refine or_congr_right ⟨?_, ?_⟩
    · rintro ⟨w, hw, hne, heq⟩
      exact ⟨w, List.mem_append_left _ hw, hne, heq⟩
    · rintro ⟨w, hw, hne, heq⟩
      rcases List.mem_append.mp hw with hw | hw
      · exact ⟨w, hw, hne, heq⟩
      · rw [List.mem_singleton.mp hw] at hne
        exact absurd hfocus hne

/-- The windows that a refresh gets: distinct, with an initial commit, and with names if they
had some. -/
structure Windows (s : ForeignToplevelManagerState) (windows : List Window) : Prop where
  nodup : (windows.map (·.surface)).Nodup
  current : ∀ w ∈ windows, w.current.isSome = true
  names : ∀ w ∈ windows, ∀ data, Assoc.get s.toplevels w.surface = some data → data.Names w

theorem passed_refreshWindows (h : s.Inv clientOutputs active) (hm : s.Managed)
    {windows : List Window} (hw : Windows s windows) (focus : Option Surface) :
    Passed s (windows.foldl (refreshWindow clientOutputs focus) (s, none)).1 clientOutputs active
        windows focus ∧
      (∀ w, (windows.foldl (refreshWindow clientOutputs focus) (s, none)).2 = some w →
        w ∈ windows ∧ focus = some w.surface) ∧
      ((windows.foldl (refreshWindow clientOutputs focus) (s, none)).2 = none →
        ∀ w ∈ windows, focus ≠ some w.surface) := by
  induction windows using List.reverseRecOn with
  | nil => exact ⟨.nil h hm focus, nofun, nofun⟩
  | append_singleton windows window ih =>
    have hnodup := hw.nodup
    rw [List.map_append, List.nodup_append] at hnodup
    have hwindows : Windows s windows :=
      ⟨hnodup.1, fun w hmem => hw.current w (List.mem_append_left _ hmem),
        fun w hmem => hw.names w (List.mem_append_left _ hmem)⟩
    obtain ⟨hpassed, hfocused, hnone⟩ := ih hwindows
    have hlast := List.mem_append_right windows (List.mem_singleton_self window)
    obtain ⟨current, hcurrent⟩ := Option.isSome_iff_exists.mp (hw.current window hlast)
    have hnew : ∀ w ∈ windows, w.surface ≠ window.surface := fun w hmem =>
      hnodup.2.2 _ (List.mem_map_of_mem hmem) _ (List.mem_singleton_self _)
    rw [List.foldl_concat]
    set acc := windows.foldl (refreshWindow clientOutputs focus) (s, none)
    unfold refreshWindow
    rw [hcurrent]
    dsimp only
    by_cases hfocus : focus = some window.surface
    · rw [if_pos hfocus]
      refine ⟨hpassed.skip hfocus, ?_, nofun⟩
      rintro w ⟨⟩
      exact ⟨hlast, hfocus⟩
    · rw [if_neg hfocus]
      refine ⟨?_, fun w hmem => ?_, fun hacc w hmem => ?_⟩
      · have hrefreshed : Refreshed acc.1
            (acc.1.refreshToplevel clientOutputs window current false) clientOutputs active window
            (toStateVec current false) := by
          refine refreshed_refreshToplevel hpassed.inv hpassed.managed (fun data hdata => ?_) nofun
          obtain ⟨old, hold, hgrows⟩ := hpassed.others window.surface
            (fun w hmem _ => hnew w hmem) data hdata
          have hnames := hw.names window hlast old hold
          exact ⟨fun htitle => hnames.title (hgrows.title ▸ htitle),
            fun happId => hnames.appId (hgrows.appId ▸ happId)⟩
        refine hpassed.concat hfocus hnew ?_
        rw [hcurrent]
        exact hrefreshed
      · exact ⟨List.mem_append_left _ (hfocused w hmem).1, (hfocused w hmem).2⟩
      · rcases List.mem_append.mp hmem with hmem | hmem
        · exact hnone hacc w hmem
        · rw [List.mem_singleton.mp hmem]
          exact hfocus

/-- What a refresh leaves: the toplevels are the windows. -/
structure Follows (s : ForeignToplevelManagerState) (windows : List Window)
    (focus : Option Surface) : Prop where
  tracked : ∀ w ∈ windows, ∃ data, Assoc.get s.toplevels w.surface = some data ∧
    Holds data w (toStateVec (w.current.getD []) (focus = some w.surface))
  gone : ∀ surface ∈ Assoc.keys s.toplevels, surface ∈ windows.map (·.surface)

/-- The windows that are gone leave everything else as it is. -/
theorem managed_handleClosed (hm : s.Managed) (windows : List Window) :
    (s.handleClosed windows).Managed := by
  have hsame : ∀ surface data, Assoc.get (s.handleClosed windows).toplevels surface = some data →
      Assoc.get s.toplevels surface = some data := by
    intro surface data hget
    rw [get_handleClosed] at hget
    split_ifs at hget
    exact hget
  exact ⟨hm.extIds, hm.wlrIds, hm.extBelow, hm.wlrBelow,
    fun m hmem surface data hget => hm.ext m hmem surface data (hsame surface data hget),
    fun m hmem surface data hget => hm.wlr m hmem surface data (hsame surface data hget)⟩

theorem not_activated_toStateVec (states : List XdgState) :
    .activated ∉ toStateVec states false := by
  unfold toStateVec
  simp

theorem refresh_eq (s : ForeignToplevelManagerState) (clientOutputs : ClientOutputs)
    (windows : List Window) (focus : Option Surface) : s.refresh clientOutputs windows focus =
      match (windows.foldl (refreshWindow clientOutputs focus) (s.handleClosed windows, none)).2 with
      | none => (windows.foldl (refreshWindow clientOutputs focus) (s.handleClosed windows, none)).1
      | some window =>
        match window.current with
        | none => (windows.foldl (refreshWindow clientOutputs focus)
            (s.handleClosed windows, none)).1
        | some current => (windows.foldl (refreshWindow clientOutputs focus)
            (s.handleClosed windows, none)).1.refreshToplevel clientOutputs window current true :=
  rfl

theorem follows_refresh (h : s.Inv clientOutputs active) (hm : s.Managed) {windows : List Window}
    (hw : Windows s windows) (focus : Option Surface) :
    (∃ active', (s.refresh clientOutputs windows focus).Inv clientOutputs active') ∧
      (s.refresh clientOutputs windows focus).Managed ∧
      SameManagers s (s.refresh clientOutputs windows focus) ∧
      Follows (s.refresh clientOutputs windows focus) windows focus := by
  have hw₀ : Windows (s.handleClosed windows) windows := by
    refine ⟨hw.nodup, hw.current, fun w hmem data hdata => ?_⟩
    rw [get_handleClosed, if_pos (List.mem_map_of_mem hmem)] at hdata
    exact hw.names w hmem data hdata
  obtain ⟨hpassed, hfocused, hnone⟩ := passed_refreshWindows (h.handleClosed windows)
    (managed_handleClosed hm windows) hw₀ focus
  have hsame₀ : SameManagers s (s.handleClosed windows) := ⟨rfl, rfl, le_rfl⟩
  rw [refresh_eq]
  set acc := windows.foldl (refreshWindow clientOutputs focus) (s.handleClosed windows, none)
  have hsame := hsame₀.trans hpassed.same
  have hkeys : ∀ surface ∈ Assoc.keys acc.1.toplevels, surface ∈ windows.map (·.surface) := by
    intro surface hmem
    rcases (hpassed.keys surface).mp hmem with hmem | ⟨w, hw, -, rfl⟩
    · by_contra hnot
      have hget := get_handleClosed (s := s) windows surface
      rw [if_neg hnot] at hget
      exact Assoc.get_eq_none_iff.mp hget hmem
    · exact List.mem_map_of_mem hw
  cases hfocus : acc.2 with
  | none =>
    refine ⟨⟨active, hpassed.inv⟩, hpassed.managed, hsame, fun w hmem => ?_, hkeys⟩
    have hne := hnone hfocus w hmem
    rw [decide_eq_false hne]
    exact hpassed.tracked w hmem hne
  | some window =>
    obtain ⟨hmem, hfocus'⟩ := hfocused window hfocus
    obtain ⟨current, hcurrent⟩ := Option.isSome_iff_exists.mp (hw.current window hmem)
    dsimp only
    rw [hcurrent]
    dsimp only
    -- whatever is not the focused window has been deactivated
    have hinv : acc.1.Inv clientOutputs window.surface := by
      refine ⟨⟨hpassed.inv.surfaces, hpassed.inv.ext, hpassed.inv.wlr, ?_, hpassed.inv.always⟩,
        hpassed.inv.outputs⟩
      intro surface data hdata hstates
      obtain ⟨w, hwmem, rfl⟩ := List.mem_map.mp (hkeys surface (Assoc.mem_keys_of_get hdata))
      by_cases hne : focus = some w.surface
      · exact Option.some.inj (hne.symm.trans hfocus')
      · obtain ⟨data', hdata', hholds⟩ := hpassed.tracked w hwmem hne
        obtain rfl : data = data' := Option.some.inj (hdata.symm.trans hdata')
        rw [hholds.states] at hstates
        exact absurd hstates (not_activated_toStateVec _)
    have hrefreshed : Refreshed acc.1 (acc.1.refreshToplevel clientOutputs window current true)
        clientOutputs window.surface window (toStateVec current true) := by
      refine refreshed_refreshToplevel hinv hpassed.managed (fun data hdata => ?_) fun _ => rfl
      obtain ⟨old, hold, hgrows⟩ := hpassed.others window.surface
        (fun w _ hne heq => hne (heq ▸ hfocus')) data hdata
      have hnames := hw₀.names window hmem old hold
      exact ⟨fun htitle => hnames.title (hgrows.title ▸ htitle),
        fun happId => hnames.appId (hgrows.appId ▸ happId)⟩
    refine ⟨⟨_, hrefreshed.inv⟩, hrefreshed.managed, hsame.trans hrefreshed.same,
      fun w hwmem => ?_, fun surface hsurface => ?_⟩
    · by_cases heq : w.surface = window.surface
      · obtain rfl : w = window := List.inj_on_of_nodup_map hw.nodup hwmem hmem heq
        rw [decide_eq_true hfocus', hcurrent]
        exact hrefreshed.tracked
      · have hne : focus ≠ some w.surface := fun h =>
          heq (Option.some.inj (h.symm.trans hfocus'))
        rw [decide_eq_false hne]
        obtain ⟨data, hdata, hholds⟩ := hpassed.tracked w hwmem hne
        obtain ⟨data', hdata'⟩ := Assoc.exists_get_of_mem_keys
          ((hrefreshed.keys w.surface).mpr (.inl (Assoc.mem_keys_of_get hdata)))
        obtain ⟨old, hold, hgrows⟩ := hrefreshed.others w.surface heq data' hdata'
        obtain rfl : data = old := Option.some.inj (hdata.symm.trans hold)
        exact ⟨data', hdata', hholds.grows hgrows⟩
    · rcases (hrefreshed.keys surface).mp hsurface with hmem' | rfl
      · exact hkeys surface hmem'
      · exact List.mem_map_of_mem hmem

/-! ### Binding and stopping -/

/-- With more numbers taken. -/
theorem Inv.mono (h : s.Inv clientOutputs active) {next : ℕ} (hnext : s.display.nextObject ≤ next) :
    Inv { s with display := { s.display with nextObject := next } } clientOutputs active :=
  ⟨⟨h.surfaces, h.ext.mono hnext, h.wlr.mono hnext, h.active, h.always⟩, h.outputs⟩

/-- No handle is for a manager that is yet to be. -/
theorem Inv.ext_manager_lt (h : s.Inv clientOutputs active) {surface : Surface}
    {data : ToplevelData} (hget : Assoc.get s.toplevels surface = some data) :
    s.display.nextObject ∉ data.extListInstances.map (·.manager) := by
  intro hmem
  obtain ⟨handle, hhandle, heq⟩ := List.mem_map.mp hmem
  have hfresh := h.ext.fresh (surface, data.extItem)
    (List.mem_map_of_mem (f := fun entry => (entry.1, entry.2.extItem))
      (Assoc.mem_of_get_eq_some hget)) (handle, data.extShown) (List.mem_map_of_mem hhandle)
  exact hfresh.2.ne heq

theorem Inv.wlr_manager_lt (h : s.Inv clientOutputs active) {surface : Surface}
    {data : ToplevelData} (hget : Assoc.get s.toplevels surface = some data) :
    s.display.nextObject ∉ data.wlrHandles.map (·.manager) := by
  intro hmem
  obtain ⟨handle, hhandle, heq⟩ := List.mem_map.mp hmem
  obtain ⟨i, hi, rfl⟩ := List.mem_map.mp hhandle
  have hfresh := h.wlr.fresh (surface, data.wlrItem)
    (List.mem_map_of_mem (f := fun entry => (entry.1, entry.2.wlrItem))
      (Assoc.mem_of_get_eq_some hget)) (i.1, data.wlrShown i.2)
    (List.mem_map_of_mem (f := fun i => (i.1, data.wlrShown i.2)) hi)
  exact hfresh.2.ne heq

/-- One more number among those below the next. -/
theorem nodup_ids_concat {managers : List Manager} (h : (managers.map (·.id)).Nodup) {next : ℕ}
    (hbelow : ∀ m ∈ managers, m.id < next) (client : ClientId) :
    ((managers ++ [(⟨next, client⟩ : Manager)]).map (·.id)).Nodup := by
  rw [List.map_append]
  refine List.nodup_append.mpr ⟨h, List.nodup_singleton _, fun id hid id' hid' => ?_⟩
  obtain ⟨m, hm, rfl⟩ := List.mem_map.mp hid
  rw [List.mem_singleton.mp hid']
  exact (hbelow m hm).ne

theorem inv_bindExt (h : s.Inv clientOutputs active) (hm : s.Managed) (client : ClientId) :
    (s.bindExt client).Inv clientOutputs active ∧ (s.bindExt client).Managed := by
  set manager : Manager := ⟨s.display.nextObject, client⟩
  set s₁ : ForeignToplevelManagerState := { s with
    display := { s.display with nextObject := s.display.nextObject + 1 } }
  have hinv₁ : s₁.Inv clientOutputs active := h.mono (Nat.le_succ s.display.nextObject)
  obtain ⟨hinv, hsame, hall⟩ := adds_ext.surfaces hinv₁ manager
    (Nat.lt_succ_self _) fun surface data hget => h.ext_manager_lt hget
  have hbind : s.bindExt client = { (Assoc.keys s₁.toplevels).foldl (fun s surface =>
        s.addExtInstance surface manager) s₁ with
      extListInstances := ((Assoc.keys s₁.toplevels).foldl (fun s surface =>
        s.addExtInstance surface manager) s₁).extListInstances ++ [manager] } := rfl
  rw [hbind]
  set s₂ := (Assoc.keys s₁.toplevels).foldl (fun s surface => s.addExtInstance surface manager) s₁
  have hnext : s.display.nextObject < s₂.display.nextObject := hsame.next
  refine ⟨⟨⟨hinv.surfaces, hinv.ext, hinv.wlr, hinv.active, hinv.always⟩, hinv.outputs⟩, ?_⟩
  refine ⟨?_, ?_, ?_, ?_, ?_, ?_⟩
  · dsimp only
    rw [hsame.ext]
    exact nodup_ids_concat hm.extIds hm.extBelow client
  · dsimp only
    rw [hsame.wlr]
    exact hm.wlrIds
  · dsimp only
    rw [hsame.ext]
    intro m hmem
    rcases List.mem_append.mp hmem with hmem | hmem
    · exact (hm.extBelow m hmem).trans hnext
    · rw [List.mem_singleton.mp hmem]
      exact hnext
  · dsimp only
    rw [hsame.wlr]
    exact fun m hmem => (hm.wlrBelow m hmem).trans hnext
  · dsimp only
    rw [hsame.ext]
    intro m hmem k data' hdata'
    obtain ⟨old, hold, hgrows, hhas⟩ := hall k data' hdata'
    rcases List.mem_append.mp hmem with hmem | hmem
    · obtain ⟨handle, hhandle, hid⟩ := hm.ext m hmem k old hold
      exact ⟨handle, hgrows.ext handle hhandle, hid⟩
    · rw [List.mem_singleton.mp hmem]
      exact hhas
  · dsimp only
    rw [hsame.wlr]
    intro m hmem k data' hdata'
    obtain ⟨old, hold, hgrows, -⟩ := hall k data' hdata'
    obtain ⟨handle, hhandle, hid⟩ := hm.wlr m hmem k old hold
    exact ⟨handle, hgrows.wlr handle hhandle, hid⟩

theorem inv_bindWlr (h : s.Inv clientOutputs active) (hm : s.Managed) (client : ClientId) :
    (s.bindWlr clientOutputs client).Inv clientOutputs active ∧
      (s.bindWlr clientOutputs client).Managed := by
  set manager : Manager := ⟨s.display.nextObject, client⟩
  set s₁ : ForeignToplevelManagerState := { s with
    display := { s.display with nextObject := s.display.nextObject + 1 } }
  have hinv₁ : s₁.Inv clientOutputs active := h.mono (Nat.le_succ s.display.nextObject)
  obtain ⟨hinv, hsame, hall⟩ := adds_wlr.surfaces hinv₁ manager
    (Nat.lt_succ_self _) fun surface data hget => h.wlr_manager_lt hget
  have hbind : s.bindWlr clientOutputs client = { (Assoc.keys s₁.toplevels).foldl
        (fun s surface => s.addWlrInstance clientOutputs surface manager) s₁ with
      wlrManagementInstances := ((Assoc.keys s₁.toplevels).foldl (fun s surface =>
        s.addWlrInstance clientOutputs surface manager) s₁).wlrManagementInstances ++
          [manager] } := rfl
  rw [hbind]
  set s₂ := (Assoc.keys s₁.toplevels).foldl
    (fun s surface => s.addWlrInstance clientOutputs surface manager) s₁
  have hnext : s.display.nextObject < s₂.display.nextObject := hsame.next
  refine ⟨⟨⟨hinv.surfaces, hinv.ext, hinv.wlr, hinv.active, hinv.always⟩, hinv.outputs⟩, ?_⟩
  refine ⟨?_, ?_, ?_, ?_, ?_, ?_⟩
  · dsimp only
    rw [hsame.ext]
    exact hm.extIds
  · dsimp only
    rw [hsame.wlr]
    exact nodup_ids_concat hm.wlrIds hm.wlrBelow client
  · dsimp only
    rw [hsame.ext]
    exact fun m hmem => (hm.extBelow m hmem).trans hnext
  · dsimp only
    rw [hsame.wlr]
    intro m hmem
    rcases List.mem_append.mp hmem with hmem | hmem
    · exact (hm.wlrBelow m hmem).trans hnext
    · rw [List.mem_singleton.mp hmem]
      exact hnext
  · dsimp only
    rw [hsame.ext]
    intro m hmem k data' hdata'
    obtain ⟨old, hold, hgrows, -⟩ := hall k data' hdata'
    obtain ⟨handle, hhandle, hid⟩ := hm.ext m hmem k old hold
    exact ⟨handle, hgrows.ext handle hhandle, hid⟩
  · dsimp only
    rw [hsame.wlr]
    intro m hmem k data' hdata'
    obtain ⟨old, hold, hgrows, hhas⟩ := hall k data' hdata'
    rcases List.mem_append.mp hmem with hmem | hmem
    · obtain ⟨handle, hhandle, hid⟩ := hm.wlr m hmem k old hold
      exact ⟨handle, hgrows.wlr handle hhandle, hid⟩
    · rw [List.mem_singleton.mp hmem]
      exact hhas

theorem inv_stopExt (h : s.Inv clientOutputs active) (hm : s.Managed) (manager : Manager) :
    (s.stopExt manager).Inv clientOutputs active ∧ (s.stopExt manager).Managed :=
  ⟨⟨⟨h.surfaces, h.ext, h.wlr, h.active, h.always⟩, h.outputs⟩,
    ⟨hm.extIds.sublist (List.filter_sublist.map _), hm.wlrIds,
      fun m hmem => hm.extBelow m (List.mem_of_mem_filter hmem), hm.wlrBelow,
      fun m hmem => hm.ext m (List.mem_of_mem_filter hmem), hm.wlr⟩⟩

theorem inv_stopWlr (h : s.Inv clientOutputs active) (hm : s.Managed) (manager : Manager) :
    (s.stopWlr manager).Inv clientOutputs active ∧ (s.stopWlr manager).Managed :=
  ⟨⟨⟨h.surfaces, h.ext, h.wlr, h.active, h.always⟩, h.outputs⟩,
    ⟨hm.extIds, hm.wlrIds.sublist (List.filter_sublist.map _), hm.extBelow,
      fun m hmem => hm.wlrBelow m (List.mem_of_mem_filter hmem), hm.ext,
      fun m hmem => hm.wlr m (List.mem_of_mem_filter hmem)⟩⟩

/-- A client that binds an output changes no handle and no manager. -/
theorem managed_onOutputBound (h : s.Inv clientOutputs active) (hm : s.Managed)
    (output : OutputId) (client : ClientId) (wlOutput : WlOutput) :
    (s.onOutputBound output client wlOutput).Managed := by
  have hsame : ∀ (surfaces : List Surface) (s : ForeignToplevelManagerState),
      SameManagers s (surfaces.foldl
        (ForeignToplevelManagerState.enterBound · output client wlOutput) s) := by
    intro surfaces
    induction surfaces with
    | nil => exact SameManagers.refl
    | cons surface surfaces ih =>
      intro s
      refine SameManagers.trans (sameManagers_modify s surface fun data display => ?_) (ih _)
      split_ifs <;> exact le_rfl
  have hsame' : SameManagers s (s.onOutputBound output client wlOutput) := hsame _ s
  obtain ⟨-, hget⟩ := h.toTold.onOutputBound output client wlOutput (Assoc.keys s.toplevels) h.surfaces fun _ => id
  have hdata : ∀ surface data',
      Assoc.get (s.onOutputBound output client wlOutput).toplevels surface = some data' →
      ∃ data, Assoc.get s.toplevels surface = some data ∧
        data'.extListInstances = data.extListInstances ∧ data'.wlrHandles = data.wlrHandles := by
    intro surface data' hdata'
    have hmap := (hget surface).symm.trans hdata'
    obtain ⟨data, hdata, rfl⟩ := Option.map_eq_some_iff.mp hmap
    rw [if_pos (Assoc.mem_keys_of_get hdata)]
    refine ⟨data, hdata, ?_⟩
    unfold ToplevelData.entered
    split_ifs
    · exact ⟨rfl, List.map_map⟩
    · exact ⟨rfl, rfl⟩
  refine ⟨?_, ?_, ?_, ?_, ?_, ?_⟩
  · rw [hsame'.ext]
    exact hm.extIds
  · rw [hsame'.wlr]
    exact hm.wlrIds
  · rw [hsame'.ext]
    exact fun m hmem => (hm.extBelow m hmem).trans_le hsame'.next
  · rw [hsame'.wlr]
    exact fun m hmem => (hm.wlrBelow m hmem).trans_le hsame'.next
  · rw [hsame'.ext]
    intro m hmem surface data' hdata'
    obtain ⟨data, hdata, hext, -⟩ := hdata surface data' hdata'
    rw [hext]
    exact hm.ext m hmem surface data hdata
  · rw [hsame'.wlr]
    intro m hmem surface data' hdata'
    obtain ⟨data, hdata, -, hwlr⟩ := hdata surface data' hdata'
    rw [hwlr]
    exact hm.wlr m hmem surface data hdata

end Adding

end ForeignToplevelManagerState

end Sol.ForeignToplevel
