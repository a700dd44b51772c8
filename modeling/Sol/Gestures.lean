import Sol.Machine
import Sol.Monitors
import Sol.Sample

/-!
# Workspace switch gestures

A gesture drags the view between the workspaces around its centre, and lets go of it
towards one of them.  Workspaces may be inserted under way.  It starts where the view
is, which may be anywhere while a switch is animated; from the first time that it moves
on, the view is held within its bounds by the rubber band.

* `bounds`, `minMax_eq`: the bounds of a gesture;
* `RubberBand.clamp_within`: how far the rubber band gives way;
* `gesture_bounds`: what holds after any number of calls.
-/

namespace Sol

open Panicking

/-! ### The rubber band -/

theorem le_clamp {lo hi : ℚ} (h : lo ≤ hi) (x : ℚ) : lo ≤ clamp lo hi x :=
  le_min (le_max_right x lo) h

theorem clampAsserting_eq {lo hi : ℚ} (h : lo ≤ hi) (x : ℚ) :
    clampAsserting lo hi x = .ok (clamp lo hi x) := by
  unfold clampAsserting assert
  rw [if_pos h]
  rfl

theorem clamp_le (lo hi x : ℚ) : clamp lo hi x ≤ hi := min_le_right _ _

namespace RubberBand

/-- The band gives way by no more than its limit. -/
theorem band_mem {self : RubberBand} (hstiffness : 0 < self.stiffness) (hlimit : 0 < self.limit)
    {x : ℚ} (hx : 0 ≤ x) : 0 ≤ self.band x ∧ self.band x ≤ self.limit := by
  unfold band
  have hone : 1 ≤ x * self.stiffness / self.limit + 1 := by
    have hpos : 0 ≤ x * self.stiffness / self.limit := by positivity
    linarith
  have hinv : 0 ≤ 1 / (x * self.stiffness / self.limit + 1) := by positivity
  have hle : 1 / (x * self.stiffness / self.limit + 1) ≤ 1 := by
    rw [div_le_one (by linarith)]
    exact hone
  constructor
  · exact mul_nonneg (by linarith) hlimit.le
  · exact mul_le_of_le_one_left hlimit.le (by linarith)

theorem clamp_within {self : RubberBand} (hstiffness : 0 < self.stiffness)
    (hlimit : 0 < self.limit) {lo hi : ℚ} (h : lo ≤ hi) (x : ℚ) :
    lo - self.limit ≤ self.clamp lo hi x ∧ self.clamp lo hi x ≤ hi + self.limit := by
  obtain ⟨hnonneg, hle⟩ := self.band_mem hstiffness hlimit (abs_nonneg (x - Sol.clamp lo hi x))
  have hlo := le_clamp h x
  have hhi := clamp_le lo hi x
  unfold clamp
  dsimp only
  split_ifs <;> constructor <;> linarith

end RubberBand

/-! ### Bounds -/

namespace WorkspaceSwitchGesture

/-- The indices between which a gesture over `n` workspaces moves. -/
def bounds (g : WorkspaceSwitchGesture) (n : ℕ) : ℕ × ℕ :=
  if g.isClamped then (g.centerIdx - 1, min (g.centerIdx + 1) (n - 1)) else (0, n - 1)

theorem minMax_eq (g : WorkspaceSwitchGesture) {n : ℕ} (hn : 0 < n) :
    g.minMax n = .ok (((g.bounds n).1 : ℚ), ((g.bounds n).2 : ℚ)) := by
  have hsub : checkedSub n 1 = .ok (n - 1) := if_pos hn
  unfold minMax bounds
  rw [hsub]
  cases g.isClamped <;> simp [pure, Except.pure, bind, Except.bind]

theorem bounds_le {g : WorkspaceSwitchGesture} {n : ℕ} (h : g.centerIdx < n) :
    (g.bounds n).1 ≤ (g.bounds n).2 := by
  unfold bounds
  split_ifs <;> dsimp only <;> omega

theorem bounds_lt (g : WorkspaceSwitchGesture) {n : ℕ} (hn : 0 < n) : (g.bounds n).2 < n := by
  unfold bounds
  split_ifs <;> dsimp only <;> omega

/-- The view of a gesture is within its bounds, but for some limit. -/
def Near (g : WorkspaceSwitchGesture) (n : ℕ) (limit : ℚ) : Prop :=
  ((g.bounds n).1 : ℚ) - limit ≤ g.currentIdx ∧ g.currentIdx ≤ ((g.bounds n).2 : ℚ) + limit

end WorkspaceSwitchGesture

theorem le_roundHalfAway {x : ℚ} {k : ℤ} (h : (k : ℚ) ≤ x) : k ≤ roundHalfAway x := by
  unfold roundHalfAway
  split_ifs
  · exact Int.le_floor.mpr (by linarith)
  · have hlt : k - 1 < ⌈x - 1 / 2⌉ := by
      rw [Int.lt_ceil]
      push_cast
      linarith
    omega

/-! ### Calls -/

namespace Monitor

open WorkspaceSwitchGesture

variable {W Id : Type} {m t : Monitor W Id}

/-- How far the rubber band of the gesture gives way. -/
def bandLimit (m : Monitor W Id) (clock : Clock) : ℚ :=
  (workspaceGestureRubberBand (m.overviewZoom clock)).limit

theorem overviewZoom_pos (m : Monitor W Id) (clock : Clock) : 0 < m.overviewZoom clock := by
  unfold overviewZoom computeOverviewZoom
  dsimp only
  split
  · exact lt_max_of_lt_right (by norm_num)
  · norm_num

theorem bandLimit_pos (m : Monitor W Id) (clock : Clock) : 0 < m.bandLimit clock := by
  have hzoom := m.overviewZoom_pos clock
  unfold bandLimit workspaceGestureRubberBand
  positivity

/-- A call that moves the gesture and leaves the rest of the monitor. -/
structure Moves (m t : Monitor W Id) (g g' : WorkspaceSwitchGesture) : Prop where
  gesture : m.workspaceSwitch = some (.gesture g)
  eq : t = { m with workspaceSwitch := some (.gesture g') }
  centerIdx : g'.centerIdx = g.centerIdx
  isClamped : g'.isClamped = g.isClamped

theorem Moves.bounds {g g' : WorkspaceSwitchGesture} (h : Moves m t g g') (n : ℕ) :
    g'.bounds n = g.bounds n := by
  unfold WorkspaceSwitchGesture.bounds
  rw [h.isClamped, h.centerIdx]

theorem Moves.inRange {g g' : WorkspaceSwitchGesture} (h : Moves m t g g') (hm : m.InRange) :
    t.InRange := by
  rw [h.eq]
  refine ⟨hm.active, ?_⟩
  rintro g'' ⟨⟩
  rw [h.centerIdx]
  exact hm.center g h.gesture

theorem workspaceSwitchGestureUpdate_spec (hm : m.InRange) (clock : Clock) (deltaY : ℚ)
    (timestamp : Duration) (isTouchpad : Bool) :
    Returns (m.workspaceSwitchGestureUpdate clock deltaY timestamp isTouchpad) fun r =>
      (r.2 = none ∧ r.1 = m) ∨ r.2 ≠ none ∧ ∃ g g', Moves m r.1 g g' ∧
        g'.Near m.workspaces.length (m.bandLimit clock) := by
  unfold workspaceSwitchGestureUpdate
  split
  · rename_i g hg
    have hlt := hm.center g hg
    have hle : ((g.bounds m.workspaces.length).1 : ℚ) ≤ (g.bounds m.workspaces.length).2 := by
      exact_mod_cast bounds_le hlt
    refine returns_ite.mpr ⟨fun _ => returns_pure.mpr (.inl ⟨rfl, rfl⟩), fun _ => ?_⟩
    simp only [g.minMax_eq (Nat.zero_lt_of_lt hlt), returns_bind, returns_ok, returns_assert,
      returns_pure]
    refine ⟨hle, .inr ⟨by simp, g, _, ⟨hg, rfl, rfl, rfl⟩, ?_⟩⟩
    exact RubberBand.clamp_within (by norm_num [workspaceGestureRubberBand])
      (m.bandLimit_pos clock) hle _
  · exact returns_pure.mpr (.inl ⟨rfl, rfl⟩)

/-- The gesture's end activates a workspace next to its centre. -/
theorem workspaceSwitchGestureEnd_spec (hm : m.InRange) (clock : Clock)
    (isTouchpad : Option Bool) :
    Returns (m.workspaceSwitchGestureEnd clock isTouchpad) fun r =>
      (r.2 = false ∧ r.1 = m) ∨ r.2 = true ∧ ∃ g previous idx anim,
        m.workspaceSwitch = some (.gesture g) ∧
        r.1 = { m with
          previousWorkspaceId := previous, activeWorkspaceIdx := idx
          workspaceSwitch := some (.animation anim) } ∧
        (g.bounds m.workspaces.length).1 ≤ idx ∧ idx ≤ (g.bounds m.workspaces.length).2 := by
  unfold workspaceSwitchGestureEnd
  split
  · rename_i g hg
    have hlt := hm.center g hg
    have hle : ((g.bounds m.workspaces.length).1 : ℚ) ≤ (g.bounds m.workspaces.length).2 := by
      exact_mod_cast bounds_le hlt
    refine returns_ite.mpr ⟨fun _ => returns_pure.mpr (.inl ⟨rfl, rfl⟩), fun _ => ?_⟩
    have hprevious : ∀ idx, Returns (m.previousWorkspaceIdAfter idx) fun _ => True := by
      intro idx
      unfold previousWorkspaceIdAfter
      refine returns_ite.mpr ⟨fun _ => ?_, fun _ => returns_pure.mpr trivial⟩
      simp [Vec.get, hm.active]
    simp only [g.minMax_eq (Nat.zero_lt_of_lt hlt), returns_bind, returns_ok,
      clampAsserting_eq hle, returns_pure]
    refine (hprevious _).mono fun previous _ => .inr ⟨trivial, g, previous, _, _, hg, rfl, ?_, ?_⟩
    · have hlow := le_roundHalfAway (k := (g.bounds m.workspaces.length).1)
        (by exact_mod_cast le_clamp hle (g.startIdx + (g.tracker.push 0
          clock.nowUnadjusted).projectedEndPos / m.gestureTotalHeight g))
      omega
    · have hhigh := roundHalfAway_le (k := (g.bounds m.workspaces.length).2)
        (by exact_mod_cast clamp_le ((g.bounds m.workspaces.length).1 : ℚ) _ (g.startIdx +
          (g.tracker.push 0 clock.nowUnadjusted).projectedEndPos / m.gestureTotalHeight g))
      omega
  · exact returns_pure.mpr (.inl ⟨rfl, rfl⟩)

variable [LayoutElement W Id]

/-- A drag scrolls to within the bounds, or leaves the view where it is. -/
theorem dndScrollGestureScroll_spec (hm : m.InRange) (clock : Clock) (pos : Point) (speed : ℚ) :
    Guarded (0 ≤ m.workingArea.size.h) (m.dndScrollGestureScroll clock pos speed) fun r =>
      r.1 = m ∨ ∃ g g', Moves m r.1 g g' ∧
        (g'.startIdx = g.startIdx ∧ g'.currentIdx = g.currentIdx ∨
          g'.Near m.workspaces.length 0) := by
  unfold dndScrollGestureScroll
  split
  · rename_i g hg
    have hlt := hm.center g hg
    have hle : ((g.bounds m.workspaces.length).1 : ℚ) ≤ (g.bounds m.workspaces.length).2 := by
      exact_mod_cast bounds_le hlt
    cases g.dndLastEventTime with
    | none => exact guarded_pure.mpr (.inl rfl)
    | some lastTime =>
      simp only [guarded_ite, guarded_bind, guarded_pure]
      refine (dndScrollDelta_spec clock pos).mono fun delta _ => ?_
      refine ⟨fun _ => .inr ⟨g, _, ⟨hg, rfl, rfl, rfl⟩, .inl ⟨rfl, rfl⟩⟩, fun _ =>
        ⟨fun _ => .inr ⟨g, _, ⟨hg, rfl, rfl, rfl⟩, .inl ⟨rfl, rfl⟩⟩, fun _ => ?_⟩⟩
      simp only [minMax_eq _ (Nat.zero_lt_of_lt hlt), guarded_ok, guarded_clampAsserting]
      refine ⟨fun _ => .inr ⟨g, _, ⟨hg, rfl, rfl, rfl⟩, .inr ⟨?_, ?_⟩⟩, fun _ => hle⟩
      · rw [sub_zero]
        exact le_clamp hle _
      · rw [add_zero]
        exact clamp_le _ _ _
  · exact guarded_pure.mpr (.inl rfl)

omit [LayoutElement W Id] in
/-- A workspace is inserted; a gesture at it or below goes along. -/
theorem addWorkspaceAt_switch (id : WorkspaceId) (idx : ℕ) :
    Ensures (m.addWorkspaceAt id idx) fun t =>
      t.workspaces.length = m.workspaces.length + 1 ∧
      t.activeWorkspaceIdx ≤ m.activeWorkspaceIdx + 1 ∧
      ∀ g', t.workspaceSwitch = some (.gesture g') → ∃ g,
        m.workspaceSwitch = some (.gesture g) ∧ g'.isClamped = g.isClamped ∧
        (g'.centerIdx = g.centerIdx ∧ g'.currentIdx = g.currentIdx ∨
          g'.centerIdx = g.centerIdx + 1 ∧ g'.currentIdx = g.currentIdx + 1) := by
  unfold addWorkspaceAt
  simp only [ensures_bind]
  intro workspaces hworkspaces
  have hlen : workspaces.length = m.workspaces.length + 1 := by
    unfold Vec.insert at hworkspaces
    split_ifs at hworkspaces with hidx
    obtain rfl := Except.ok.inj hworkspaces
    exact List.length_insertIdx_of_le_length hidx _
  refine ensures_pure.mpr ⟨hlen, ?_, fun g' hg' => ?_⟩
  · dsimp only
    split_ifs <;> omega
  · obtain ⟨switch, hswitch, hg'⟩ := Option.map_eq_some_iff.mp hg'
    cases switch with
    | animation anim =>
      split_ifs at hg'
      cases hg'
    | gesture g =>
      refine ⟨g, hswitch, ?_⟩
      split_ifs at hg' with hidx
      · cases hg'
        exact ⟨rfl, .inr ⟨rfl, rfl⟩⟩
      · cases hg'
        exact ⟨rfl, .inl ⟨rfl, rfl⟩⟩

end Monitor

/-! ### Any number of calls -/

/-- A monitor, with the limit of the rubber band when its gesture last moved, if it did
since it began. -/
structure GestureRun (W Id : Type) where
  monitor : Monitor W Id
  limit : Option ℚ

/-- The calls, each with the time of the clock that it reads. -/
inductive GestureCall
  | gestureBegin (clock : Clock) (isTouchpad : Bool)
  | dndScrollBegin (clock : Clock)
  | gestureUpdate (clock : Clock) (deltaY : ℚ) (timestamp : Duration) (isTouchpad : Bool)
  | dndScroll (clock : Clock) (pos : Point) (speed : ℚ)
  | gestureEnd (clock : Clock) (isTouchpad : Option Bool)
  | dndScrollEnd (clock : Clock)
  | addWorkspaceAt (id : WorkspaceId) (idx : ℕ)

namespace GestureRun

open WorkspaceSwitchGesture

variable {W Id : Type} {run : GestureRun W Id}

/-- Where the gesture is, and where it counts its movement from. -/
def position (m : Monitor W Id) : Option (ℚ × ℚ) :=
  match m.workspaceSwitch with
  | some (.gesture g) => some (g.startIdx, g.currentIdx)
  | _ => none

variable [LayoutElement W Id]

def step (run : GestureRun W Id) : GestureCall → Outcome (GestureRun W Id)
  | .gestureBegin clock isTouchpad =>
    pure ⟨run.monitor.workspaceSwitchGestureBegin clock isTouchpad, none⟩
  | .dndScrollBegin clock =>
    let begins := !run.monitor.dragged.isSome && run.monitor.overviewOpen
    pure ⟨run.monitor.dndScrollGestureBegin clock, if begins then none else run.limit⟩
  | .gestureUpdate clock deltaY timestamp isTouchpad => do
    let (monitor, moved) ←
      run.monitor.workspaceSwitchGestureUpdate clock deltaY timestamp isTouchpad
    let limit := if moved.isSome then some (run.monitor.bandLimit clock) else run.limit
    pure ⟨monitor, limit⟩
  | .dndScroll clock pos speed => do
    let (monitor, _) ← run.monitor.dndScrollGestureScroll clock pos speed
    let limit := if position monitor = position run.monitor then run.limit else some 0
    pure ⟨monitor, limit⟩
  | .gestureEnd clock isTouchpad => do
    let (monitor, ended) ← run.monitor.workspaceSwitchGestureEnd clock isTouchpad
    pure ⟨monitor, if ended then none else run.limit⟩
  | .dndScrollEnd clock => do
    let monitor ← run.monitor.dndScrollGestureEnd clock
    pure ⟨monitor, if run.monitor.dragged.isSome then none else run.limit⟩
  | .addWorkspaceAt id idx => do
    let monitor ← run.monitor.addWorkspaceAt id idx
    pure ⟨monitor, run.limit⟩

/-- The indices are those of workspaces, and once the gesture moved it is near its bounds. -/
structure Inv (run : GestureRun W Id) : Prop where
  inRange : run.monitor.InRange
  near : ∀ g limit, run.monitor.workspaceSwitch = some (.gesture g) → run.limit = some limit →
    0 ≤ limit ∧ g.Near run.monitor.workspaces.length limit

omit [LayoutElement W Id] in
/-- A gesture that just began, or another switch. -/
theorem inv_of_inRange {m : Monitor W Id} (h : m.InRange) : Inv ⟨m, none⟩ :=
  ⟨h, fun _ _ _ hlimit => by cases hlimit⟩

omit [LayoutElement W Id] in
theorem Inv.gestureBegin (h : run.Inv) (clock : Clock) (isTouchpad : Bool) :
    (run.monitor.workspaceSwitchGestureBegin clock isTouchpad).InRange := by
  refine ⟨h.inRange.active, ?_⟩
  rintro g ⟨⟩
  exact h.inRange.active

omit [LayoutElement W Id] in
theorem Inv.dndScrollBegin (h : run.Inv) (clock : Clock) :
    Ensures (run.step (.dndScrollBegin clock)) Inv := by
  refine ensures_pure.mpr ?_
  unfold Monitor.dndScrollGestureBegin
  cases hdragged : run.monitor.dragged.isSome with
  | true => exact h
  | false =>
    cases hopen : run.monitor.overviewOpen with
    | false => exact h
    | true =>
      refine inv_of_inRange ⟨h.inRange.active, ?_⟩
      rintro g ⟨⟩
      exact h.inRange.active

omit [LayoutElement W Id] in
theorem Inv.gestureUpdate (h : run.Inv) (clock : Clock) (deltaY : ℚ) (timestamp : Duration)
    (isTouchpad : Bool) : Ensures (run.step (.gestureUpdate clock deltaY timestamp isTouchpad))
      Inv := by
  obtain ⟨⟨t, moved⟩, heq, hspec⟩ :=
    Monitor.workspaceSwitchGestureUpdate_spec h.inRange clock deltaY timestamp isTouchpad
  simp only [step, heq]
  refine ensures_pure.mpr ?_
  rcases hspec with ⟨hnone, hsame⟩ | ⟨hmoved, g, g', hmoves, hnear⟩
  · simp only at hnone hsame
    subst hnone hsame
    exact h
  · refine ⟨hmoves.inRange h.inRange, ?_⟩
    intro g'' limit hg'' hlimit
    simp only at hg'' hlimit hmoved hmoves
    rw [if_pos (Option.isSome_iff_ne_none.mpr hmoved)] at hlimit
    obtain rfl := Option.some.inj hlimit
    rw [hmoves.eq] at hg'' ⊢
    cases hg''
    exact ⟨(run.monitor.bandLimit_pos clock).le, hnear⟩

theorem Inv.dndScroll (h : run.Inv) (clock : Clock) (pos : Point) (speed : ℚ) :
    Ensures (run.step (.dndScroll clock pos speed)) Inv := by
  refine ensures_bind.mpr fun r hr => ?_
  have hspec := (Monitor.dndScrollGestureScroll_spec h.inRange clock pos speed).1 r hr
  refine ensures_pure.mpr ?_
  rcases hspec with hsame | ⟨g, g', hmoves, hnear⟩
  · simp only [hsame, if_true]
    exact h
  · refine ⟨hmoves.inRange h.inRange, fun g'' limit hg'' hlimit => ?_⟩
    have hposition : position r.1 = some (g'.startIdx, g'.currentIdx) := by
      unfold position
      rw [hmoves.eq]
    have hposition' : position run.monitor = some (g.startIdx, g.currentIdx) := by
      unfold position
      rw [hmoves.gesture]
    simp only [hposition, hposition', Option.some.injEq, Prod.mk.injEq] at hlimit
    simp only at hg'' ⊢
    rw [hmoves.eq] at hg'' ⊢
    cases hg''
    split_ifs at hlimit with hkept
    · obtain ⟨hnonneg, hold⟩ := h.near g limit hmoves.gesture hlimit
      refine ⟨hnonneg, ?_⟩
      unfold Near at hold ⊢
      rw [hmoves.bounds, hkept.2]
      exact hold
    · cases hlimit
      exact ⟨le_rfl, hnear.resolve_left hkept⟩

omit [LayoutElement W Id] in
theorem Inv.gestureEnd (h : run.Inv) (clock : Clock) (isTouchpad : Option Bool) :
    Ensures (run.step (.gestureEnd clock isTouchpad)) Inv := by
  obtain ⟨⟨t, ended⟩, heq, hspec⟩ :=
    Monitor.workspaceSwitchGestureEnd_spec h.inRange clock isTouchpad
  simp only [step, heq]
  refine ensures_pure.mpr ?_
  rcases hspec with ⟨hended, hsame⟩ | ⟨hended, g, previous, idx, anim, hg, ht, -, hidx⟩
  · simp only at hended hsame
    subst hended hsame
    exact h
  · simp only at hended ht
    subst hended ht
    have hlt := h.inRange.center g hg
    refine inv_of_inRange ⟨hidx.trans_lt (g.bounds_lt (Nat.zero_lt_of_lt hlt)), ?_⟩
    rintro g' ⟨⟩

omit [LayoutElement W Id] in
theorem Inv.dndScrollEnd (h : run.Inv) (clock : Clock) :
    Ensures (run.step (.dndScrollEnd clock)) Inv := by
  by_cases hdragged : run.monitor.dragged.isSome = true
  · obtain ⟨⟨t, ended⟩, heq, hspec⟩ :=
      Monitor.workspaceSwitchGestureEnd_spec h.inRange clock none
    have hend := h.gestureEnd clock none
    simp only [step, heq] at hend
    have hinv := ensures_pure.mp hend
    simp only [step, Monitor.dndScrollGestureEnd, if_pos hdragged, heq]
    exact ensures_pure.mpr (inv_of_inRange hinv.inRange)
  · simp only [step, Monitor.dndScrollGestureEnd, if_neg hdragged]
    exact ensures_pure.mpr h

omit [LayoutElement W Id] in
theorem Inv.addWorkspaceAt (h : run.Inv) (id : WorkspaceId) (idx : ℕ) :
    Ensures (run.step (.addWorkspaceAt id idx)) Inv := by
  refine ensures_bind.mpr fun t ht => ensures_pure.mpr ?_
  obtain ⟨hlen, hactive, hgesture⟩ := Monitor.addWorkspaceAt_switch id idx t ht
  have hlt := h.inRange.active
  refine ⟨⟨?_, fun g' hg' => ?_⟩, fun g' limit hg' hlimit => ?_⟩
  · simp only
    omega
  · obtain ⟨g, hg, -, hcenter⟩ := hgesture g' hg'
    have hold := h.inRange.center g hg
    simp only
    omega
  · obtain ⟨g, hg, hclamped, hcenter⟩ := hgesture g' hg'
    obtain ⟨hnonneg, hlow, hhigh⟩ := h.near g limit hg hlimit
    refine ⟨hnonneg, ?_⟩
    unfold Near
    simp only
    rcases hcenter with ⟨hcenter, hcurrent⟩ | ⟨hcenter, hcurrent⟩
    · -- only the last index moved
      have hfst : (g'.bounds t.workspaces.length).1 = (g.bounds run.monitor.workspaces.length).1 := by
        unfold bounds
        rw [hclamped, hcenter]
        split_ifs <;> rfl
      have hsnd : (g.bounds run.monitor.workspaces.length).2 ≤ (g'.bounds t.workspaces.length).2 := by
        unfold bounds
        rw [hclamped, hcenter]
        split_ifs <;> dsimp only <;> omega
      have hsnd' : ((g.bounds run.monitor.workspaces.length).2 : ℚ) ≤
          (g'.bounds t.workspaces.length).2 := by exact_mod_cast hsnd
      rw [hfst, hcurrent]
      exact ⟨hlow, hhigh.trans (by linarith)⟩
    · -- everything moved by one
      have hfst : (g'.bounds t.workspaces.length).1 ≤
          (g.bounds run.monitor.workspaces.length).1 + 1 := by
        unfold bounds
        rw [hclamped, hcenter]
        split_ifs <;> dsimp only <;> omega
      have hsnd : (g'.bounds t.workspaces.length).2 =
          (g.bounds run.monitor.workspaces.length).2 + 1 := by
        unfold bounds
        rw [hclamped, hcenter, hlen]
        split_ifs <;> dsimp only <;> omega
      have hfst' : ((g'.bounds t.workspaces.length).1 : ℚ) ≤
          (g.bounds run.monitor.workspaces.length).1 + 1 := by exact_mod_cast hfst
      rw [hsnd, hcurrent]
      push_cast
      constructor <;> linarith

end GestureRun

/-- A monitor under gestures, from any state with its indices in range. -/
def gestureMachine (W Id : Type) [LayoutElement W Id] : Machine (GestureRun W Id) GestureCall where
  initial run := run.monitor.InRange ∧ run.limit = none
  step := GestureRun.step

theorem gestureMachine_inv {W Id : Type} [LayoutElement W Id] {run : GestureRun W Id}
    (h : (gestureMachine W Id).ReachableBy (fun _ _ => True) run) : run.Inv := by
  refine h.invariant ?_ ?_
  · rintro ⟨m, limit⟩ ⟨hm, hlimit⟩
    simp only at hm hlimit
    subst hlimit
    exact GestureRun.inv_of_inRange hm
  · intro run call hinv _
    cases call with
    | gestureBegin clock isTouchpad =>
      exact ensures_pure.mpr (GestureRun.inv_of_inRange (hinv.gestureBegin clock isTouchpad))
    | dndScrollBegin clock => exact hinv.dndScrollBegin clock
    | gestureUpdate clock deltaY timestamp isTouchpad =>
      exact hinv.gestureUpdate clock deltaY timestamp isTouchpad
    | dndScroll clock pos speed => exact hinv.dndScroll clock pos speed
    | gestureEnd clock isTouchpad => exact hinv.gestureEnd clock isTouchpad
    | dndScrollEnd clock => exact hinv.dndScrollEnd clock
    | addWorkspaceAt id idx => exact hinv.addWorkspaceAt id idx

/-- After any number of calls: the centre of the gesture and the active index are those
of workspaces; the bounds are ordered, so that no call panics over them; once the gesture
moved since it began, it is within the limit of the rubber band of its bounds; and its
end activates a workspace, of a clamped gesture one next to its centre. -/
theorem gesture_bounds {W Id : Type} [LayoutElement W Id] {run : GestureRun W Id}
    (h : (gestureMachine W Id).ReachableBy (fun _ _ => True) run) :
    run.monitor.activeWorkspaceIdx < run.monitor.workspaces.length ∧
    (∀ clock deltaY timestamp isTouchpad, Returns
      (run.monitor.workspaceSwitchGestureUpdate clock deltaY timestamp isTouchpad) fun _ => True) ∧
    (0 ≤ run.monitor.workingArea.size.h → ∀ clock pos speed, Returns
      (run.monitor.dndScrollGestureScroll clock pos speed) fun _ => True) ∧
    ∀ g, run.monitor.workspaceSwitch = some (.gesture g) →
      g.centerIdx < run.monitor.workspaces.length ∧
      (∃ lo hi, g.minMax run.monitor.workspaces.length = .ok (lo, hi) ∧ lo ≤ hi ∧
        ∀ limit, run.limit = some limit → lo - limit ≤ g.currentIdx ∧ g.currentIdx ≤ hi + limit) ∧
      ∀ clock isTouchpad, Returns (run.monitor.workspaceSwitchGestureEnd clock isTouchpad) fun r =>
        r.2 = true → r.1.activeWorkspaceIdx < r.1.workspaces.length ∧
          (g.isClamped = true → r.1.activeWorkspaceIdx ≤ g.centerIdx + 1 ∧
            g.centerIdx ≤ r.1.activeWorkspaceIdx + 1) := by
  have hinv := gestureMachine_inv h
  refine ⟨hinv.inRange.active, fun clock deltaY timestamp isTouchpad => ?_,
    fun hheight clock pos speed => ?_, fun g hg => ?_⟩
  · exact (Monitor.workspaceSwitchGestureUpdate_spec hinv.inRange clock deltaY timestamp
      isTouchpad).mono fun _ _ => trivial
  · exact ((Monitor.dndScrollGestureScroll_spec hinv.inRange clock pos speed).2 hheight).mono
      fun _ _ => trivial
  · have hlt := hinv.inRange.center g hg
    refine ⟨hlt, ⟨_, _, g.minMax_eq (Nat.zero_lt_of_lt hlt), ?_, fun limit hlimit => ?_⟩,
      fun clock isTouchpad => ?_⟩
    · exact_mod_cast WorkspaceSwitchGesture.bounds_le hlt
    · exact (hinv.near g limit hg hlimit).2
    · refine (Monitor.workspaceSwitchGestureEnd_spec hinv.inRange clock isTouchpad).mono
        fun r hr hended => ?_
      rcases hr with ⟨hnot, -⟩ | ⟨-, g', previous, idx, anim, hg', heq, hlow, hhigh⟩
      · rw [hnot] at hended
        cases hended
      · obtain rfl : g = g' := by simpa using hg.symm.trans hg'
        rw [heq]
        refine ⟨hhigh.trans_lt (g.bounds_lt (Nat.zero_lt_of_lt hlt)), fun hclamped => ?_⟩
        unfold WorkspaceSwitchGesture.bounds at hlow hhigh
        rw [if_pos hclamped] at hlow hhigh
        simp only at hlow hhigh ⊢
        omega

/-! ### A gesture that catches a switch -/

namespace Sample

/-- The clock some milliseconds later. -/
def clockAt (ms : ℕ) : Clock := ⟨Animation.ofMillis ms, Animation.ofMillis ms, 1, false⟩

/-- Three workspaces, the second one active. -/
def threeWorkspaces : Monitor Toplevel ℕ where
  output := output 1
  workspaces := [Workspace.new 1 (output 1) options, Workspace.new 2 (output 1) options,
    Workspace.new 3 (output 1) options]
  activeWorkspaceIdx := 1
  previousWorkspaceId := none
  workspaceSwitch := none
  insertHint := none
  overviewOpen := false
  overviewProgress := none
  scale := 1
  viewSize := ⟨1920, 1080⟩
  workingArea := ⟨⟨0, 0⟩, ⟨1920, 1080⟩⟩
  baseOptions := options
  options := options
  layoutConfig := none

theorem threeWorkspaces_initial :
    (gestureMachine Toplevel ℕ).initial ⟨threeWorkspaces, none⟩ :=
  ⟨.of_still (by decide) rfl, rfl⟩

/-- The view is dragged to the first workspace and flung back to the third. -/
def flung : List GestureCall :=
  [.gestureBegin (clockAt 0) true, .gestureUpdate (clockAt 0) (-300) (Animation.ofMillis 0) true,
    .gestureUpdate (clockAt 1000) 60 (Animation.ofMillis 1000) true,
    .gestureUpdate (clockAt 1010) 60 (Animation.ofMillis 1010) true,
    .gestureEnd (clockAt 1010) (some true)]

/-- The view is dragged beyond the first workspace. -/
theorem dragged_reachable : ∃ run : GestureRun Toplevel ℕ,
    (gestureMachine Toplevel ℕ).ReachableBy (fun _ _ => True) run ∧
      run.limit = some (1 / 20) ∧ ∃ g, run.monitor.workspaceSwitch = some (.gesture g) ∧
        g.currentIdx < 0 := by
  obtain ⟨run, hrun, hp⟩ := Machine.exists_reachableBy (M := gestureMachine Toplevel ℕ)
    (p := fun run => decide (run.limit = some (1 / 20)) && match run.monitor.workspaceSwitch with
      | some (.gesture g) => decide (g.currentIdx < 0)
      | _ => false)
    [.gestureBegin (clockAt 0) true, .gestureUpdate (clockAt 0) (-600) (Animation.ofMillis 0) true]
    threeWorkspaces_initial
    (show ((gestureMachine Toplevel ℕ).run (fun _ _ => True) _ _).any _ = true by decide +kernel)
  obtain ⟨hlimit, hg⟩ := (Bool.and_eq_true _ _).mp hp
  refine ⟨run, hrun, of_decide_eq_true hlimit, ?_⟩
  split at hg
  · rename_i g hswitch
    exact ⟨g, hswitch, of_decide_eq_true hg⟩
  · cases hg

end Sample

/-- The view is flung towards the third workspace, and a gesture that begins now begins
in front of the first workspace that it may reach. -/
theorem not_within_band : ∃ run : GestureRun Sample.Toplevel ℕ,
    (gestureMachine Sample.Toplevel ℕ).ReachableBy (fun _ _ => True) run ∧
      ∃ g lo hi, run.monitor.workspaceSwitch = some (.gesture g) ∧
        g.minMax run.monitor.workspaces.length = .ok (lo, hi) ∧
          g.currentIdx < lo - run.monitor.bandLimit (Sample.clockAt 1010) := by
  obtain ⟨run, hrun, hp⟩ := Machine.exists_reachableBy (M := gestureMachine Sample.Toplevel ℕ)
    (p := fun run => match run.monitor.workspaceSwitch with
      | some (.gesture g) => match g.minMax run.monitor.workspaces.length with
        | .ok (lo, _) => decide (g.currentIdx < lo - run.monitor.bandLimit (Sample.clockAt 1010))
        | .error _ => false
      | _ => false)
    (Sample.flung ++ [.gestureBegin (Sample.clockAt 1010) true]) Sample.threeWorkspaces_initial
    (show ((gestureMachine Sample.Toplevel ℕ).run (fun _ _ => True) _ _).any _ = true by
      decide +kernel)
  refine ⟨run, hrun, ?_⟩
  split at hp
  · rename_i g hg
    split at hp
    · rename_i lo hi hminMax
      exact ⟨g, lo, hi, hg, hminMax, of_decide_eq_true hp⟩
    · cases hp
  · cases hp

/-- The rubber band holds a view that is dragged beyond the first workspace. -/
theorem gesture_bounds_dragged : ∃ (run : GestureRun Sample.Toplevel ℕ) (lo hi : ℚ)
    (g : WorkspaceSwitchGesture), run.monitor.workspaceSwitch = some (.gesture g) ∧
      g.minMax run.monitor.workspaces.length = .ok (lo, hi) ∧ g.currentIdx < 0 ∧
        lo - 1 / 20 ≤ g.currentIdx := by
  obtain ⟨run, hrun, hlimit, g, hg, hneg⟩ := Sample.dragged_reachable
  obtain ⟨-, ⟨lo, hi, hminMax, -, hwithin⟩, -⟩ := (gesture_bounds hrun).2.2.2 g hg
  exact ⟨run, lo, hi, g, hg, hminMax, hneg, (hwithin _ hlimit).1⟩

end Sol
