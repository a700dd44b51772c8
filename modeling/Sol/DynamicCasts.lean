import Sol.Screencasting

/-!
# The targets of dynamic casts

* `Targets`: something holds of the targets of all dynamic casts that run;
* `Keeps`: stopping casts, redrawing them and changing their refresh rates changes no target;
* `setDynamicCastTarget_spec`: the target of the dynamic casts, where no update of a stream
  fails;
* `targets_spec`: in a run without such failures and without a callback that comes too late, the
  dynamic casts have the target that was set last.
-/

namespace Sol.Screencasting

open Panicking

namespace State

variable {s t u : State} {target : CastTarget} {outcomes : Outcomes} {P : CastTarget → Prop}

def Targets (s : State) (P : CastTarget → Prop) : Prop :=
  ∀ cast ∈ s.casts, cast.dynamicTarget = true → P cast.target

theorem Targets.mono {Q : CastTarget → Prop} (h : s.Targets P) (hPQ : ∀ target, P target → Q target) :
    s.Targets Q := fun cast hcast hdynamic => hPQ _ (h cast hcast hdynamic)

/-! ### What changes no target -/

structure Keeps (s t : State) : Prop where
  idle : t.idle = s.idle
  target : t.target = s.target
  targets : ∀ P, s.Targets P → t.Targets P

theorem Keeps.refl (s : State) : Keeps s s := ⟨rfl, rfl, fun _ h => h⟩

theorem Keeps.trans (h : Keeps s t) (h' : Keeps t u) : Keeps s u :=
  ⟨h'.idle.trans h.idle, h'.target.trans h.target, fun P hP => h'.targets P (h.targets P hP)⟩

theorem stopCast_spec (s : State) (sessionId : SessionId) : Returns (s.stopCast sessionId) fun t =>
    Keeps s t ∧ ∀ cast ∈ t.casts, cast ∈ s.casts := by
  obtain ⟨casts, hcasts, hperm⟩ :=
    Vec.foldlM_swapRemove (fun cast : Cast => cast.sessionId = sessionId) id s.casts []
  rw [List.map_id, List.append_nil] at hcasts hperm
  have hmem : ∀ cast ∈ casts, cast ∈ s.casts := fun cast hcast =>
    List.mem_of_mem_filter (hperm.mem_iff.mp hcast)
  unfold stopCast
  dsimp only
  rw [hcasts]
  refine returns_ok.mpr ⟨⟨rfl, rfl, fun P hP cast hcast => ?_⟩, hmem⟩
  exact hP cast (hmem cast hcast)

theorem stopAll_keeps (s : State) (sessionIds : List SessionId) :
    Returns (s.stopAll sessionIds) (Keeps s) := by
  unfold stopAll
  induction sessionIds generalizing s with
  | nil => exact returns_ok.mpr (.refl s)
  | cons sessionId sessionIds ih =>
    rw [List.foldlM_cons, returns_bind]
    refine (stopCast_spec s sessionId).mono fun t ht => ?_
    exact (ih t).mono fun u hu => ht.1.trans hu

theorem redrawCast_keeps (s : State) (streamId : StreamId) (outcomes : Outcomes) :
    Returns (s.redrawCast streamId outcomes) (Keeps s) := by
  unfold redrawCast
  split
  · exact returns_ok.mpr (.refl s)
  · split
    · exact returns_ok.mpr (.refl s)
    · exact returns_ok.mpr (.refl s)
    · split_ifs
      · exact (stopCast_spec s _).mono fun t ht => ht.1
      · exact returns_ok.mpr (.refl s)

theorem redrawAll_keeps (s : State) (streamIds : List StreamId) (outcomes : Outcomes) :
    Returns (streamIds.foldlM (fun s streamId => s.redrawCast streamId outcomes) s) (Keeps s) := by
  induction streamIds generalizing s with
  | nil => exact returns_ok.mpr (.refl s)
  | cons streamId streamIds ih =>
    rw [List.foldlM_cons, returns_bind]
    refine (redrawCast_keeps s streamId outcomes).mono fun t ht => ?_
    exact (ih t).mono fun u hu => ht.trans hu

theorem setRefresh_target (cast : Cast) (refresh : ℕ) (fails : StreamId → Bool) :
    (cast.setRefresh refresh fails).1.target = cast.target ∧
      (cast.setRefresh refresh fails).1.dynamicTarget = cast.dynamicTarget := by
  unfold Cast.setRefresh
  split_ifs <;> exact ⟨rfl, rfl⟩

theorem changeOutput_keeps (s : State) (id : WindowId) (output : Output)
    (fails : StreamId → Bool) : Keeps s (s.changeOutput id output fails).1 := by
  refine ⟨rfl, rfl, fun P hP cast' hcast' hdynamic => ?_⟩
  rw [changeOutput] at hcast'
  obtain ⟨updated, hupdated, rfl⟩ := List.mem_map.mp hcast'
  obtain ⟨cast, hcast, rfl⟩ := List.mem_map.mp hupdated
  have hsame : (if cast.target = .window id then cast.setRefresh (s.refresh output) fails
        else (cast, true)).1.target = cast.target ∧
      (if cast.target = .window id then cast.setRefresh (s.refresh output) fails
        else (cast, true)).1.dynamicTarget = cast.dynamicTarget := by
    split_ifs
    · exact setRefresh_target cast _ fails
    · exact ⟨rfl, rfl⟩
  rw [hsame.1]
  exact hP cast hcast (hsame.2.symm.trans hdynamic)

theorem changeOutputs_keeps (s : State) (changed : List (WindowId × Output))
    (fails : StreamId → Bool) : Keeps s (s.changeOutputs changed fails).1 := by
  unfold changeOutputs
  generalize ([] : List SessionId) = toStop
  induction changed generalizing s toStop with
  | nil => exact .refl s
  | cons change changed ih =>
    rw [List.foldl_cons]
    exact (changeOutput_keeps s change.1 change.2 fails).trans (ih _ _)

theorem refreshMappedCastOutputs_keeps (s : State) (outputOf : WindowId → Option Output)
    (outcomes : Outcomes) : Returns (s.refreshMappedCastOutputs outputOf outcomes) (Keeps s) := by
  unfold refreshMappedCastOutputs
  dsimp only
  refine (stopAll_keeps _ _).mono fun t ht => ?_
  have hmapped : ∀ mappedCastOutput, Keeps s { s with mappedCastOutput } :=
    fun _ => ⟨rfl, rfl, fun _ h => h⟩
  exact (hmapped _).trans ((changeOutputs_keeps _ _ _).trans ht)

/-! ### A new target -/

end State

/-- The cast is skipped when a new target is set. -/
def Cast.updateFails (self : Cast) (refresh : Option ℕ) (fails : StreamId → Bool) : Bool :=
  self.dynamicTarget && refresh.any fun refresh => self.refresh ≠ refresh && fails self.streamId

theorem Cast.setDynamicTarget_spec (cast : Cast) (target : CastTarget) (refresh : Option ℕ)
    (fails : StreamId → Bool) :
    (cast.setDynamicTarget target refresh fails).1.dynamicTarget = cast.dynamicTarget ∧
      (cast.dynamicTarget = true → (cast.setDynamicTarget target refresh fails).1.target =
        if cast.updateFails refresh fails then cast.target else target) := by
  unfold Cast.setDynamicTarget Cast.updateFails
  cases hdynamic : cast.dynamicTarget with
  | false => exact ⟨hdynamic, nofun⟩
  | true =>
    cases refresh with
    | none => simp
    | some refresh =>
      unfold Cast.setRefresh
      by_cases hrefresh : cast.refresh = refresh
      · simp [hrefresh, hdynamic]
      · cases hfails : fails cast.streamId <;> simp [hrefresh, hdynamic]

namespace State

variable {s t u : State} {target : CastTarget} {outcomes : Outcomes}

/-- The casts that are skipped have the target already. -/
def Updates (s : State) (target : CastTarget) (outcomes : Outcomes) : Prop :=
  ∀ cast ∈ s.casts, cast.updateFails (s.targetRefresh target) outcomes.updateFails = true →
    cast.target = target

theorem updates_nothing (s : State) (outcomes : Outcomes) : s.Updates .nothing outcomes := by
  intro cast _ hfails
  unfold Cast.updateFails targetRefresh at hfails
  simp at hfails

theorem startPendingDynamicCasts_spec (s : State) (htarget : target ≠ .nothing) :
    Returns (s.startPendingDynamicCasts target outcomes) fun t =>
      t.idle = s.idle ∧ t.target = s.target ∧
        (s.Targets (fun old => old = target) → t.Targets fun old => old = target) := by
  have hkept : ∀ {s' t : State}, Keeps s' t → s'.idle = s.idle → s'.target = s.target →
      (s.Targets (fun old => old = target) → s'.Targets fun old => old = target) →
      t.idle = s.idle ∧ t.target = s.target ∧
        (s.Targets (fun old => old = target) → t.Targets fun old => old = target) :=
    fun hkeeps hidle hwanted htargets => ⟨hkeeps.idle.trans hidle, hkeeps.target.trans hwanted,
      fun h => hkeeps.targets _ (htargets h)⟩
  unfold startPendingDynamicCasts
  by_cases hpending : s.pendingDynamicCasts = []
  · rw [if_pos hpending]
    exact returns_ok.mpr ⟨rfl, rfl, id⟩
  · rw [if_neg hpending]
    split
    · exact absurd rfl htarget
    · split
      · exact returns_ok.mpr ⟨rfl, rfl, id⟩
      · dsimp only
        split_ifs
        · exact (stopAll_keeps _ _).mono fun t ht => hkept ht rfl rfl id
        · refine (stopAll_keeps _ _).mono fun t ht => hkept ht rfl rfl ?_
          intro h cast hcast hdynamic
          rcases List.mem_append.mp hcast with hcast | hcast
          · exact h cast hcast hdynamic
          · obtain ⟨pending, -, rfl⟩ := List.mem_map.mp hcast
            rfl

theorem setDynamicCastTarget_spec (h : s.Updates target outcomes) :
    Returns (s.setDynamicCastTarget target outcomes) fun t =>
      t.idle = s.idle ∧ t.target = s.target ∧ t.Targets (fun old => old = target) ∧
        (target = .nothing → s.Targets (fun _ => False) → t.Targets fun _ => False) := by
  unfold setDynamicCastTarget
  dsimp only
  rw [returns_bind]
  refine (redrawAll_keeps _ _ outcomes).mono fun t ht => ?_
  have htargets : t.Targets fun old => old = target := by
    refine ht.targets _ fun cast' hcast' hdynamic => ?_
    obtain ⟨updated, hupdated, rfl⟩ := List.mem_map.mp hcast'
    obtain ⟨cast, hcast, rfl⟩ := List.mem_map.mp hupdated
    obtain ⟨hsame, htarget⟩ :=
      cast.setDynamicTarget_spec target (s.targetRefresh target) outcomes.updateFails
    rw [htarget (hsame.symm.trans hdynamic)]
    split_ifs with hfails
    · exact h cast hcast hfails
    · rfl
  split_ifs with hnothing
  · refine (startPendingDynamicCasts_spec t hnothing).mono fun u hu => ?_
    exact ⟨hu.1.trans ht.idle, hu.2.1.trans ht.target, hu.2.2 htargets,
      fun h => absurd h hnothing⟩
  · refine returns_ok.mpr ⟨ht.idle, ht.target, htargets, fun _ hnone => ht.targets _ ?_⟩
    intro cast' hcast' hdynamic
    obtain ⟨updated, hupdated, rfl⟩ := List.mem_map.mp hcast'
    obtain ⟨cast, hcast, rfl⟩ := List.mem_map.mp hupdated
    have hsame := (cast.setDynamicTarget_spec target (s.targetRefresh target)
      outcomes.updateFails).1
    exact hnone cast hcast (hsame.symm.trans hdynamic)

/-! ### Runs -/

/-- The dynamic casts have the target that was set last, or are switched to `nothing` later. -/
def Inv (s : State) : Prop :=
  s.Targets fun target => target = s.target ∨ 0 < s.idle ∧ s.target = .nothing

theorem Keeps.inv (h : Keeps s t) (hinv : s.Inv) : t.Inv := by
  unfold Inv
  rw [h.idle, h.target]
  exact h.targets _ hinv

/-- What may happen in a state: no update of a stream fails for a new target, and no callback
comes after a new target was set. -/
def Undisturbed (s : State) : Step → Prop
  | .setDynamicCastWindowById id outcomes => s.Updates (.window id) outcomes
  | .setDynamicCastMonitor output outcomes => s.Updates (.output output) outcomes
  | .runIdle _ => s.idle = 0 ∨ s.target = .nothing ∨ s.Targets fun _ => False
  | _ => True

theorem setTarget_inv (h : s.Updates target outcomes) :
    Returns (s.setTarget target outcomes) Inv := by
  have hupdates : ({ s with target } : State).Updates target outcomes := h
  refine (setDynamicCastTarget_spec hupdates).mono fun t ht => ?_
  refine ht.2.2.1.mono fun old hold => .inl ?_
  rw [hold, ht.2.1]

theorem inv_of_idle (hidle : 0 < s.idle) (htarget : s.target = .nothing) : s.Inv :=
  fun _ _ _ => .inr ⟨hidle, htarget⟩

/-- The dynamic casts of a target that goes away are switched later. -/
theorem stopCastsForTarget_inv {gone : CastTarget} (h : s.Inv) :
    Returns ((s.goneAway gone).stopCastsForTarget gone) Inv := by
  unfold stopCastsForTarget
  dsimp only
  rw [returns_bind]
  refine (stopAll_keeps _ _).mono fun t ht => returns_ok.mpr ?_
  have hcasts : (s.goneAway gone).casts = s.casts := rfl
  by_cases hgone : s.target = gone
  · have htarget : t.target = .nothing := ht.target.trans (if_pos hgone)
    split_ifs with hany
    · exact inv_of_idle (s := { t with idle := t.idle + 1 }) t.idle.succ_pos htarget
    · have hidle : (s.goneAway gone).Targets fun _ => 0 < s.idle := by
        intro cast hcast hdynamic
        rcases h cast hcast hdynamic with hold | hold
        · refine absurd (List.any_eq_true.mpr ⟨cast, List.mem_filter.mpr ⟨hcast, ?_⟩, hdynamic⟩) hany
          exact decide_eq_true (hold.trans hgone)
        · exact hold.1
      refine (ht.targets _ hidle).mono fun old hpos => .inr ⟨?_, htarget⟩
      rw [ht.idle]
      exact hpos
  · have htarget : t.target = s.target := ht.target.trans (if_neg hgone)
    have hinv : t.Targets fun old => old = s.target ∨ 0 < s.idle ∧ s.target = .nothing :=
      ht.targets _ h
    have hidle : t.idle = s.idle := ht.idle
    split_ifs with hany
    · show Targets { t with idle := t.idle + 1 } fun old => old = t.target ∨
        0 < t.idle + 1 ∧ t.target = .nothing
      rw [htarget]
      exact hinv.mono fun old hold => hold.imp_right fun hold => ⟨t.idle.succ_pos, hold.2⟩
    · show t.Targets fun old => old = t.target ∨ 0 < t.idle ∧ t.target = .nothing
      rw [htarget, hidle]
      exact hinv

theorem closeWindow_inv (h : s.Inv) (id : WindowId) : Returns (s.closeWindow id) Inv := by
  unfold closeWindow
  split_ifs
  · rw [returns_bind]
    exact (stopCastsForTarget_inv h).mono fun t ht => returns_ok.mpr ht
  · exact returns_ok.mpr h

theorem removeOutput_inv (h : s.Inv) (output : Output) : Returns (s.removeOutput output) Inv := by
  unfold removeOutput
  split_ifs
  · exact stopCastsForTarget_inv (s := { s with outputs := s.outputs.erase output }) h
  · exact returns_ok.mpr h

/-- A cast that is no dynamic one is started, or the session is stopped. -/
theorem startCast_inv (h : s.Inv) (sessionId : SessionId) (streamId : StreamId)
    (target : StreamTargetId) : Returns (s.startCast sessionId streamId target outcomes) Inv := by
  have hstop : Returns (s.stopCast sessionId) Inv :=
    (stopCast_spec s sessionId).mono fun t ht => ht.1.inv h
  have hpush : ∀ target refresh, ({ s with
      casts := s.casts ++ [⟨sessionId, streamId, target, false, refresh⟩] } : State).Inv := by
    intro target refresh cast hcast hdynamic
    rcases List.mem_append.mp hcast with hcast | hcast
    · exact h cast hcast hdynamic
    · rw [List.mem_singleton.mp hcast] at hdynamic
      cases hdynamic
  unfold startCast
  cases target with
  | dynamic => exact returns_ok.mpr h
  | output output =>
    dsimp only
    split
    · exact hstop
    · split_ifs
      · exact hstop
      · exact returns_ok.mpr (hpush _ _)
  | window id =>
    dsimp only
    split
    · exact hstop
    · split_ifs
      · exact hstop
      · exact returns_ok.mpr (hpush _ _)

theorem runIdle_inv (h : s.Inv)
    (hidle : s.idle = 0 ∨ s.target = .nothing ∨ s.Targets fun _ => False) :
    Returns (s.runIdle outcomes) Inv := by
  unfold runIdle
  split_ifs with hzero
  · exact returns_ok.mpr h
  · refine (setDynamicCastTarget_spec (updates_nothing _ outcomes)).mono fun t ht => ?_
    obtain ⟨-, htarget, htargets, hnone⟩ := ht
    rcases hidle with hidle | hidle | hidle
    · exact absurd hidle hzero
    · exact htargets.mono fun old hold => .inl (hold.trans (htarget.trans hidle).symm)
    · exact (hnone rfl hidle).mono fun _ => False.elim

theorem step_inv (h : s.Inv) (step : Step) (hstep : s.Undisturbed step) :
    Returns (s.step step) Inv := by
  cases step with
  | addOutput output refresh => exact returns_ok.mpr h
  | removeOutput output => exact removeOutput_inv h output
  | openWindow id => exact returns_ok.mpr h
  | closeWindow id => exact closeWindow_inv h id
  | refreshMappedCastOutputs outputOf outcomes =>
    exact (refreshMappedCastOutputs_keeps s outputOf outcomes).mono fun t ht => ht.inv h
  | startCast sessionId streamId target outcomes => exact startCast_inv h sessionId streamId target
  | stopCast sessionId => exact (stopCast_spec s sessionId).mono fun t ht => ht.1.inv h
  | fatalError => exact (stopAll_keeps s _).mono fun t ht => ht.inv h
  | redrawCast streamId outcomes =>
    exact (redrawCast_keeps s streamId outcomes).mono fun t ht => ht.inv h
  | setDynamicCastWindowById id outcomes =>
    show Returns (s.setDynamicCastWindowById id outcomes) Inv
    unfold setDynamicCastWindowById
    split_ifs
    · exact setTarget_inv hstep
    · exact returns_ok.mpr h
  | setDynamicCastMonitor output outcomes =>
    show Returns (s.setDynamicCastMonitor output outcomes) Inv
    unfold setDynamicCastMonitor
    split_ifs
    · exact setTarget_inv hstep
    · exact returns_ok.mpr h
  | clearDynamicCastTarget outcomes => exact setTarget_inv (updates_nothing s outcomes)
  | runIdle outcomes => exact runIdle_inv h hstep

theorem reachable_inv (h : machine.ReachableBy Undisturbed s) : s.Inv := by
  refine h.invariant (fun s hs => ?_) fun s step hs hstep => (step_inv hs step hstep).ensures
  obtain ⟨hcasts, -, -, -⟩ := hs
  unfold Inv Targets
  rw [hcasts]
  exact nofun

instance {P : CastTarget → Prop} [DecidablePred P] : Decidable (s.Targets P) := by
  unfold Targets
  infer_instance

instance : Decidable (s.Updates target outcomes) := by
  unfold Updates
  infer_instance

instance (step : Step) : Decidable (s.Undisturbed step) := by
  unfold Undisturbed
  cases step <;> infer_instance

end State

/-! ### A cast that is switched to another window -/

namespace Sample

def calm : Outcomes := ⟨false, fun _ => false, fun _ => false, fun _ => false⟩

def noUpdates : Outcomes := { calm with updateFails := fun _ => true }

def state : State := ⟨[], [], [], fun _ => none, ∅, fun _ => 0, 0, .nothing⟩

/-- A dynamic cast of the window 1, on a screen with another refresh rate than that of the
window 2. -/
def castSteps : List State.Step :=
  [.addOutput 1 60, .addOutput 2 144, .openWindow 1, .openWindow 2,
    .refreshMappedCastOutputs some calm, .startCast 5 9 .dynamic calm,
    .setDynamicCastWindowById 1 calm]

theorem initial_state : machine.initial state := ⟨rfl, rfl, rfl, rfl⟩

end Sample

namespace State

variable {s : State}

/-- Once the callbacks have run, every dynamic cast has the target that was set last. -/
theorem targets_spec (h : machine.ReachableBy Undisturbed s) (hidle : s.idle = 0) :
    ∀ cast ∈ s.casts, cast.dynamicTarget = true → cast.target = s.target := by
  intro cast hcast hdynamic
  rcases reachable_inv h cast hcast hdynamic with htarget | ⟨hpos, -⟩
  · exact htarget
  · rw [hidle] at hpos
    cases hpos

end State

/-- The window 1 is closed, and the callback runs before the window 2 is cast. -/
theorem targets_spec_closed : ∃ s : State, s.casts = [⟨5, 9, .window 2, true, 144⟩] ∧
    (∀ cast ∈ s.casts, cast.dynamicTarget = true → cast.target = s.target) := by
  obtain ⟨s, hs, hp⟩ := Machine.exists_reachableBy (M := machine)
    (p := fun s => decide (s.casts = [⟨5, 9, .window 2, true, 144⟩] ∧ s.idle = 0))
    (Sample.castSteps ++ [.closeWindow 1, .runIdle Sample.calm,
      .setDynamicCastWindowById 2 Sample.calm]) Sample.initial_state
    (show (machine.run State.Undisturbed _ _).any _ = true by decide +kernel)
  obtain ⟨hcasts, hidle⟩ := of_decide_eq_true hp
  exact ⟨s, hcasts, State.targets_spec hs hidle⟩

/-- A cast whose stream is not updated keeps showing the window 1; and a callback that was queued
when the window 1 was closed takes the window 2 away. -/
theorem not_targets_spec :
    (∃ s, machine.ReachableBy (fun _ _ => True) s ∧ s.idle = 0 ∧ s.target = .window 2 ∧
      s.casts = [⟨5, 9, .window 1, true, 144⟩]) ∧
    ∃ s, machine.ReachableBy (fun _ _ => True) s ∧ s.idle = 0 ∧ s.target = .window 2 ∧
      s.casts = [⟨5, 9, .nothing, true, 144⟩] := by
  constructor
  · obtain ⟨s, hs, hp⟩ := Machine.exists_reachableBy (M := machine)
      (p := fun s => decide (s.idle = 0 ∧ s.target = .window 2 ∧
        s.casts = [⟨5, 9, .window 1, true, 144⟩]))
      (Sample.castSteps ++ [.setDynamicCastWindowById 2 Sample.noUpdates]) Sample.initial_state
      (show (machine.run (fun _ _ => True) _ _).any _ = true by decide +kernel)
    exact ⟨s, hs, of_decide_eq_true hp⟩
  · obtain ⟨s, hs, hp⟩ := Machine.exists_reachableBy (M := machine)
      (p := fun s => decide (s.idle = 0 ∧ s.target = .window 2 ∧
        s.casts = [⟨5, 9, .nothing, true, 144⟩]))
      (Sample.castSteps ++ [.closeWindow 1, .setDynamicCastWindowById 2 Sample.calm,
        .runIdle Sample.calm]) Sample.initial_state
      (show (machine.run (fun _ _ => True) _ _).any _ = true by decide +kernel)
    exact ⟨s, hs, of_decide_eq_true hp⟩

end Sol.Screencasting
