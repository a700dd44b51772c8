import Sol.ArrivalSpecs

/-!
# Moves to other outputs

Windows, columns and workspaces move from one monitor to another.  They are taken from the one
and put on the other in two steps, and what is taken is put.

* `moveToOutput_kept`, `moveColumnToOutput_kept`: windows and columns;
* `moveWorkspaceToOutputById_kept`, `moveWorkspaceToIdx_kept`: workspaces.
-/

namespace Sol

open Panicking

variable {W Id : Type} [LayoutElement W Id] [DecidableEq Id]

namespace Layout

variable {l t : Layout W Id} {c r g : Prop} {ms : List (Monitor W Id)} {p a : ℕ}

/-- Whether there is a monitor for an output. -/
def HasOutput (l : Layout W Id) (output : Output) : Prop :=
  ∃ m ∈ l.monitors, m.output.key = output.key

omit [LayoutElement W Id] [DecidableEq Id] in
theorem isMoved_of_not_about [DecidableEq Id] [LayoutElement W Id] {window : Id}
    (h : ¬l.isAboutMoved (some window) = true) : l.isMoved window = false := by
  by_contra hne
  rw [Bool.not_eq_false, isMoved, Option.any_eq_true] at hne
  obtain ⟨data, hdata, heq⟩ := hne
  refine h ?_
  rw [isAboutMoved, hdata, Option.any_some, Option.isNone_some, Bool.false_or]
  rw [decide_eq_true_eq] at heq ⊢
  rw [heq]

/-! ### Windows -/

/-- Where a window is that is asked for; the active workspace may not be there. -/
theorem locate_spec (hset : l.monitorSet = .normal ms p a) {window : Option Id}
    (hmoved : ¬l.isAboutMoved window = true) :
    Guarded (l.InRange ∧ ∀ w ∈ window, w ∈ l.windowIds) (locate ms a window) fun found =>
      ∃ m, ms[found.1]? = some m ∧ (l.InRange → found.2 < m.workspaces.length) ∧
        ∀ w ∈ window, ∀ ws, m.workspaces[found.2]? = some ws → w ∈ ws.windowIds := by
  have hmonitors := monitors_of_normal hset
  unfold locate
  cases window with
  | none =>
    simp only [guarded_bind, guarded_pure, Vec.guarded_get]
    refine ⟨fun m hm => ⟨m, hm, fun hl => ?_, by simp⟩, fun hg => (hg.1.indices _ _ _ hset).2⟩
    exact (hl.monitors m (hmonitors ▸ List.mem_of_getElem? hm)).active
  | some window =>
    simp only [guarded_bind, guarded_pure, guarded_unwrap, Vec.guarded_get]
    refine ⟨fun i hi => ?_, fun hg => ?_⟩
    · obtain ⟨m, hm, hhas⟩ := getElem?_of_findIdx? hi
      refine ⟨fun m' hm' => ⟨fun j hj => ⟨m', hm', fun _ => ?_, ?_⟩, fun _ => ?_⟩,
        fun _ => (List.getElem?_eq_some_iff.mp hm).1⟩
      · exact Monitor.lt_of_findIdx? hj
      · rintro w ⟨⟩ ws hws
        obtain ⟨ws', hws', hhas⟩ := getElem?_of_findIdx? hj
        obtain rfl : ws = ws' := Option.some.inj (hws.symm.trans hws')
        exact Workspace.hasWindow_iff.mp hhas
      · obtain rfl : m = m' := Option.some.inj (hm.symm.trans hm')
        exact (List.findIdx?_isSome ..).trans hhas
    · obtain ⟨m, hm, hhas⟩ := mem_monitor_of_not_moved hset (hg.2 window rfl)
        (isMoved_of_not_about hmoved)
      exact findIdx?_isSome_of_mem hm hhas

theorem followsTo_spec {m : Monitor W Id} (isActive : Bool) (window : Option Id)
    (activate : ActivateWindow) :
    Guarded m.InRange (followsTo m isActive window activate) fun _ => True := by
  unfold followsTo Monitor.activeWindow Monitor.activeWorkspaceRef
  cases activate <;> cases window <;> cases isActive <;>
    simp only [guarded_pure, guarded_bind, Vec.guarded_get, if_true, if_false,
      Bool.false_eq_true]
  exact ⟨fun _ _ => trivial, fun hm => hm.active⟩

/-- What was taken from one monitor is put on another. -/
theorem addRemoved_kept {n : Monitor W Id} (h : n.Sound) (clock : Clock) (removed : RemovedTile W)
    {id : WorkspaceId} (hid : id ∈ n.workspaceIds) (activate : ActivateWindow) :
    Guarded n.InRange (n.addRemoved clock removed id activate)
      (Monitor.Kept n.HasRoom r [removed.tile.windowId] n) := by
  unfold Monitor.addRemoved
  refine ((Monitor.addTile_spec h clock removed.tile (.workspace id none) activate true
    removed.width removed.isFullWidth removed.isFloating).weaken fun hn => ⟨hn.active, ?_⟩).mono
      fun t ht => ?_
  · obtain ⟨ws, hws, rfl⟩ := List.mem_map.mp hid
    exact findIdx?_isSome_of_mem hws (decide_eq_true rfl)
  · obtain ⟨i, -, hi, hland⟩ := ht
    exact hland.kept fun hroom => hroom.belowTop_lt hi

omit [LayoutElement W Id] [DecidableEq Id] in
/-- What another monitor is like once a workspace of this one was changed. -/
theorem getElem?_set_cases {α : Type} {as : List α} {i j : ℕ} {a b : α}
    (h : (as.set i b)[j]? = some a) : (j = i ∧ a = b) ∨ as[j]? = some a := by
  rw [List.getElem?_set] at h
  split at h
  next heq =>
    split at h
    · exact .inl ⟨heq.symm, (Option.some.inj h).symm⟩
    · cases h
  next => exact .inr h

omit [LayoutElement W Id] [DecidableEq Id] in
theorem set_self_of_getElem? {α : Type} {as : List α} {i : ℕ} {a : α} (h : as[i]? = some a) :
    as.set i a = as := by
  obtain ⟨hi, rfl⟩ := List.getElem?_eq_some_iff.mp h
  exact List.set_getElem_self hi

omit [DecidableEq Id] in
/-- A monitor where a window was taken out of one: the same row, and sound. -/
theorem taken_monitor (h : l.Sound) (hset : l.monitorSet = .normal ms p a) {i j : ℕ}
    {m m' n new : Monitor W Id} {lost : List Id} (hm : ms[i]? = some m)
    (hlost : Monitor.Lost True True lost m m') (hopts : m'.options = m.options)
    (hnew : ms[j]? = some new) (hn : (ms.set i m')[j]? = some n) :
    n.workspaceIds = new.workspaceIds ∧ n.Sound ∧ (l.InRange → n.InRange) ∧
      (l.HasRoom → n.HasRoom) := by
  have hmonitors := monitors_of_normal hset
  have hsound : ∀ m ∈ ms, m.Sound := hmonitors ▸ h.monitors
  have hin : l.InRange → ∀ x ∈ ms, x.InRange := fun hl => hmonitors ▸ hl.monitors
  obtain ⟨hids, hopts, hrest⟩ : n.workspaceIds = new.workspaceIds ∧ n.options = new.options ∧
      n.Sound ∧ (l.InRange → n.InRange) := by
    rcases getElem?_set_cases hn with ⟨rfl, rfl⟩ | hn
    · obtain rfl : m = new := Option.some.inj (hm.symm.trans hnew)
      exact ⟨hlost.ids_eq trivial, hopts, hlost.sound, fun hl =>
        hlost.inRange trivial (hin hl m (List.mem_of_getElem? hm))⟩
    · obtain rfl : n = new := Option.some.inj (hn.symm.trans hnew)
      have hmem := List.mem_of_getElem? hn
      exact ⟨rfl, rfl, hsound n hmem, fun hl => hin hl n hmem⟩
  refine ⟨hids, hrest.1, hrest.2, fun hroom => ?_⟩
  have hroom := hroom new (hmonitors ▸ List.mem_of_getElem? hnew)
  rw [Monitor.HasRoom, hopts, ← Monitor.length_workspaceIds, hids, Monitor.length_workspaceIds]
  exact hroom

/-- A window goes from one monitor to another, or to another workspace of the same. -/
theorem moveToOutput_kept (h : l.Sound) (clock : Clock) (window : Option Id) (output : Output)
    (targetWsIdx : Option ℕ) (activate : ActivateWindow) :
    Guarded (l.InRange ∧ l.HasOutput output ∧ ∀ w ∈ window, w ∈ l.windowIds)
      (l.moveToOutput clock window output targetWsIdx activate) (Kept l.HasRoom r [] l) := by
  unfold moveToOutput
  refine guarded_ite.mpr ⟨fun _ => guarded_pure.mpr (.refl h), fun hmoved => ?_⟩
  cases hset : l.monitorSet with
  | noOutputs wss => exact guarded_pure.mpr (.refl h)
  | normal ms p a =>
    have hmonitors := monitors_of_normal hset
    have hsound : ∀ m ∈ ms, m.Sound := hmonitors ▸ h.monitors
    simp only [guarded_bind, guarded_unwrap]
    refine ⟨fun newIdx hnew => ?_, fun hg => ?_⟩
    · obtain ⟨new, hnew, -⟩ := getElem?_of_findIdx? hnew
      refine ((locate_spec hset hmoved).weaken fun hg => ⟨hg.1, hg.2.2⟩).mono fun found hfound => ?_
      obtain ⟨m, hm, hlt, hmem⟩ := hfound
      have hmms : m ∈ l.monitors := hmonitors ▸ List.mem_of_getElem? hm
      simp only [Vec.guarded_get, hnew]
      refine ⟨fun _ hnew' => ?_, fun _ => (List.getElem?_eq_some_iff.mp hnew).1⟩
      cases hnew'
      refine guarded_ite.mpr ⟨fun _ => guarded_pure.mpr (.refl h), fun hne => ?_⟩
      cases htarget : new.workspaces[targetWsIdx.getD new.activeWorkspaceIdx]? with
      | none => exact guarded_pure.mpr (.refl h)
      | some target =>
        simp only [guarded_bind, Vec.guarded_get, hm]
        refine ⟨fun _ hm' => ?_, fun _ => (List.getElem?_eq_some_iff.mp hm).1⟩
        cases hm'
        refine ((followsTo_spec _ window activate).weaken fun hg => hg.1.monitors m hmms).mono
          fun follow _ => ?_
        simp only [Vec.guarded_update, guarded_bind, guarded_pure, hm]
        refine ⟨fun _ hm' => ?_, fun _ => (List.getElem?_eq_some_iff.mp hm).1⟩
        cases hm'
        refine ⟨fun ws hws => ?_, fun hg => hlt hg.1⟩
        refine (Monitor.takeTile_spec ((hsound m (List.mem_of_getElem? hm)).get hws).1 clock
          (fun w hw => hmem w hw ws hws)).guarded.mono fun taken htaken => ?_
        rcases htaken with ⟨rfl, -⟩ | ⟨removed, hremoved, -, hr⟩
        · -- there is nothing to move
          refine guarded_pure.mpr ?_
          rw [Monitor.set_self hws, set_self_of_getElem? hm]
          exact h.kept_of_monitorSet (by rw [hset]) rfl h.presets
        · obtain ⟨o, ws'⟩ := taken
          obtain rfl : o = some removed := hremoved
          have hlost : Monitor.Lost True True [removed.tile.windowId] m
              { m with workspaces := m.workspaces.set found.2 ws' } :=
            (hsound m (List.mem_of_getElem? hm)).lost_workspace hws hr
          simp only [guarded_bind, guarded_pure, Vec.guarded_apply, Monitor.cleanUpIfStill_eq,
            guarded_ok]
          have hlen : newIdx < (ms.set found.1 { m with
              workspaces := m.workspaces.set found.2 ws' }).length := by
            rw [List.length_set]
            exact (List.getElem?_eq_some_iff.mp hnew).1
          refine ⟨fun n hn => ?_, fun _ => hlen⟩
          -- the monitor is another one, or the same without the window
          obtain ⟨hids, hsoundn, hinn, hroom⟩ := taken_monitor h hset hm hlost rfl hnew hn
          have hid : target.id ∈ n.workspaceIds := by
            rw [hids]
            exact List.mem_map_of_mem (List.mem_of_getElem? htarget)
          refine ((addRemoved_kept (r := r) hsoundn clock { removed with
            tile := removed.tile.stopMoveAnimations } hid _).weaken fun hg => hinn hg.1).mono
              fun n' hn' => ⟨fun last hlast => ?_, fun _ => ?_⟩
          · rw [set_self_of_getElem? hlast]
            refine h.kept_carry hset hm (hlost.weaken (fun _ => trivial) fun _ => trivial) hn
              (hn'.weaken hroom id) fun _ hl => ?_
            split
            · exact (List.getElem?_eq_some_iff.mp hnew).1
            · exact (hl.indices _ _ _ hset).2
          · simpa using (List.getElem?_eq_some_iff.mp hm).1
    · obtain ⟨m, hm, hkey⟩ := hg.2.1
      exact findIdx?_isSome_of_mem (hmonitors ▸ hm) (decide_eq_true hkey)

/-! ### Columns -/

/-- The active column goes to another monitor; what is active in the floating space goes as a
window. -/
theorem moveColumnToOutput_kept (h : l.Sound) (clock : Clock) (output : Output)
    (targetWsIdx : Option ℕ) (activate : Bool) :
    Guarded (l.InRange ∧ l.HasOutput output)
      (l.moveColumnToOutput clock output targetWsIdx activate) (Kept l.HasRoom r [] l) := by
  unfold moveColumnToOutput
  cases hset : l.monitorSet with
  | noOutputs wss => exact guarded_pure.mpr (.refl h)
  | normal ms p a =>
    have hmonitors := monitors_of_normal hset
    have hsound : ∀ m ∈ ms, m.Sound := hmonitors ▸ h.monitors
    simp only [guarded_bind, guarded_unwrap, Vec.guarded_get, Monitor.activeWorkspaceRef]
    refine ⟨fun newIdx hnew => ?_, fun hg => ?_⟩
    · obtain ⟨new, hnew, -⟩ := getElem?_of_findIdx? hnew
      refine ⟨fun m hm => ?_, fun hg => (hg.1.indices _ _ _ hset).2⟩
      have hmms : m ∈ l.monitors := hmonitors ▸ List.mem_of_getElem? hm
      refine ⟨fun ws hws => ?_, fun hg => (hg.1.monitors m hmms).active⟩
      refine guarded_ite.mpr ⟨fun _ => ?_, fun _ => ?_⟩
      · exact (moveToOutput_kept h clock none output none .smart).weaken fun hg =>
          ⟨hg.1, hg.2, by simp⟩
      · simp only [guarded_bind, Vec.guarded_update, guarded_pure, hm]
        refine ⟨fun _ hm' => ?_, fun _ => (List.getElem?_eq_some_iff.mp hm).1⟩
        cases hm'
        simp only [hws]
        refine ⟨fun _ hws' => ?_, fun _ => (List.getElem?_eq_some_iff.mp hws).1⟩
        cases hws'
        refine (Workspace.removeActiveColumn_spec ((hsound m (List.mem_of_getElem? hm)).get hws).1
          clock).guarded.mono fun taken htaken => ?_
        rcases htaken with ⟨rfl, -⟩ | ⟨column, hcolumn, -, hr⟩
        · refine guarded_pure.mpr ?_
          rw [Monitor.set_self hws, set_self_of_getElem? hm]
          exact h.kept_of_monitorSet (by rw [hset]) rfl h.presets
        · obtain ⟨o, ws'⟩ := taken
          obtain rfl : o = some column := hcolumn
          have hlost : Monitor.Lost True True [column.windowId] m
              { m with workspaces := m.workspaces.set m.activeWorkspaceIdx ws' } :=
            (hsound m (List.mem_of_getElem? hm)).lost_workspace hws hr
          unfold addColumnByIdx
          simp only [guarded_bind, guarded_pure, Vec.guarded_apply, Vec.guarded_get,
            guarded_checkedSub]
          have hlen : newIdx < (ms.set a { m with
              workspaces := m.workspaces.set m.activeWorkspaceIdx ws' }).length := by
            rw [List.length_set]
            exact (List.getElem?_eq_some_iff.mp hnew).1
          refine ⟨fun n hn => ?_, fun _ => hlen⟩
          obtain ⟨-, hsoundn, hinn, hroom⟩ := taken_monitor h hset hm hlost rfl hnew hn
          refine ⟨fun hpos => ⟨fun n' hn' => ?_, fun _ => hlen⟩, fun hg => ?_⟩
          · obtain rfl : n = n' := Option.some.inj (hn.symm.trans hn')
            have hidx : min (targetWsIdx.getD n.activeWorkspaceIdx) (n.workspaces.length - 1) <
                n.workspaces.length := by omega
            refine ((Monitor.addColumn_spec hsoundn clock _ column activate).weaken fun hg =>
              ⟨(hinn hg.1).active, hidx⟩).mono fun n' hland => ?_
            have hkept : Monitor.Kept l.HasRoom True [column.windowId] n n' :=
              hland.kept fun hr => (hroom hr).belowTop_lt hidx
            refine h.kept_carry hset hm (hlost.weaken (fun _ => trivial) fun _ => trivial) hn
              (hkept.weaken id fun _ => trivial) fun _ hl => ?_
            split
            · exact (List.getElem?_eq_some_iff.mp hnew).1
            · exact (hl.indices _ _ _ hset).2
          · exact Nat.lt_of_le_of_lt (Nat.zero_le _) (hinn hg.1).active
    · obtain ⟨m, hm, hkey⟩ := hg.2
      exact findIdx?_isSome_of_mem (hmonitors ▸ hm) (decide_eq_true hkey)

/-! ### Within a workspace, or else to an output -/

omit [DecidableEq Id] in
theorem orElse_kept (h : l.Sound) (hg : g → l.InRange)
    {first : Workspace W Id → Outcome (Workspace W Id × Bool)}
    {second : Layout W Id → Outcome (Layout W Id)}
    (hfirst : ∀ ws : Workspace W Id, ws.WellFormed →
      Returns (first ws) fun found => ws.Rearranged found.1)
    (hsecond : ∀ t : Layout W Id, t.Sound → (l.InRange → t.InRange) → (l.HasRoom → t.HasRoom) →
      (∀ output, l.HasOutput output → t.HasOutput output) →
        Guarded g (second t) (Kept c r [] t)) :
    Guarded g (l.orElse first second) (Kept c r [] l) := by
  unfold orElse
  cases hset : l.monitorSet with
  | noOutputs wss =>
    exact hsecond l h id id fun _ ho => ho
  | normal ms p a =>
    have hmonitors := monitors_of_normal hset
    simp only [guarded_bind, guarded_pure, Vec.guarded_update]
    refine ⟨fun m hm => ?_, fun hg' => ((hg hg').indices _ _ _ hset).2⟩
    have hmms : m ∈ l.monitors := hmonitors ▸ List.mem_of_getElem? hm
    refine ⟨fun ws hws => ?_, fun hg' => ((hg hg').monitors m hmms).active⟩
    have hsound := h.monitors m hmms
    refine (hfirst ws (hsound.get hws).1).guarded.mono fun found hre => ?_
    have hm' := hsound.kept_workspace (c := True) (r := True) hws hre.kept
    have ht := h.kept_set hset hm hm' fun _ hl => (hl.indices _ _ _ hset).2
    refine guarded_ite.mpr ⟨fun _ => guarded_pure.mpr (ht.weaken (fun _ => trivial)
      fun _ => trivial), fun _ => ?_⟩
    have hroom : l.HasRoom → (l.withMonitors (ms.set a { m with
        workspaces := m.workspaces.set m.activeWorkspaceIdx found.1 }) p a).HasRoom := by
      intro hroom n hn
      rw [monitors_of_normal (p := p) (a := a) rfl] at hn
      rcases List.mem_or_eq_of_mem_set hn with hn | rfl
      · exact hroom n (hmonitors ▸ hn)
      · have := hroom m hmms
        simpa only [Monitor.HasRoom, List.length_set] using this
    refine (hsecond _ ht.sound (ht.inRange trivial) hroom fun output ho => ?_).mono fun u hu =>
      (ht.weaken (fun _ => trivial) fun _ => trivial).then hu
    obtain ⟨n, hn, hkey⟩ := ho
    obtain ⟨j, hj⟩ := List.getElem?_of_mem (hmonitors ▸ hn)
    rw [HasOutput, monitors_of_normal (p := p) (a := a) rfl]
    by_cases hja : j = a
    · subst hja
      obtain rfl : n = m := Option.some.inj (hj.symm.trans hm)
      exact ⟨_, List.mem_of_getElem? (List.getElem?_set_self (List.getElem?_eq_some_iff.mp hm).1),
        hkey⟩
    · exact ⟨n, List.mem_of_getElem? ((List.getElem?_set_ne (Ne.symm hja)).trans hj), hkey⟩

theorem moveColumnLeftOrToOutput_kept (h : l.Sound) (clock : Clock) (output : Output) :
    Guarded (l.InRange ∧ l.HasOutput output) (l.moveColumnLeftOrToOutput clock output)
      (Kept l.HasRoom r [] l) := by
  refine orElse_kept h And.left (fun ws hws => Workspace.moveTowards_rearranged hws clock .left)
    fun t ht hin hroom hout => ?_
  exact ((moveColumnToOutput_kept ht clock output none true).weaken fun hg =>
    ⟨hin hg.1, hout output hg.2⟩).mono fun u hu => hu.weaken hroom id

theorem moveColumnRightOrToOutput_kept (h : l.Sound) (clock : Clock) (output : Output) :
    Guarded (l.InRange ∧ l.HasOutput output) (l.moveColumnRightOrToOutput clock output)
      (Kept l.HasRoom r [] l) := by
  refine orElse_kept h And.left (fun ws hws => Workspace.moveTowards_rearranged hws clock .right)
    fun t ht hin hroom hout => ?_
  exact ((moveColumnToOutput_kept ht clock output none true).weaken fun hg =>
    ⟨hin hg.1, hout output hg.2⟩).mono fun u hu => hu.weaken hroom id

/-- The focus goes on within the workspace, or else to another output. -/
theorem focusOrOutput_kept (h : l.Sound) (direction : Workspace.Direction) (output : Output) :
    Guarded l.InRange (l.orElse (·.focusTowards direction) fun t => pure (t.focusOutput output))
      (Kept c r [] l) :=
  orElse_kept h id (fun _ hws => Workspace.focusTowards_rearranged hws direction)
    fun _ ht _ _ _ => guarded_pure.mpr (focusOutput_kept ht output)

/-! ### Workspaces -/

/-- A workspace can be taken from each monitor. -/
def HasSpare (l : Layout W Id) : Prop := ∀ m ∈ l.monitors, 2 ≤ m.workspaces.length

end Layout

omit [DecidableEq Id] in
/-- Whose a workspace is does not matter to its windows. -/
theorem Workspace.WellFormed.handedOver {s : Workspace W Id} (h : s.WellFormed)
    (output : Option Output) (originalOutput : OutputId) :
    { s with output, originalOutput }.WellFormed :=
  ⟨h.scrolling, h.floating, h.floating_of_active, h.active_of_empty, h.basePresets, h.presets⟩

namespace Monitor

variable {m t : Monitor W Id} {r : Prop}

omit [DecidableEq Id] in
/-- A workspace goes with its windows. -/
theorem removeWorkspaceByIdx_lost (h : m.Sound) (idx : ℕ) :
    Guarded (m.belowTop idx < m.workspaces.length) (m.removeWorkspaceByIdx idx) fun found =>
      found.1.WellFormed ∧
        Lost (2 ≤ m.workspaces.length) False found.1.windowIds m found.2 := by
  refine (removeWorkspaceByIdx_spec idx).mono fun found hfound => ?_
  obtain ⟨ws, hws, hfirst, hsecond⟩ := hfound
  obtain ⟨hlt, rfl⟩ := List.getElem?_eq_some_iff.mp hws
  have hwf := (h.workspaces _ (List.getElem_mem hlt)).1
  rw [hfirst, hsecond]
  refine ⟨hwf.handedOver none _, h.reframe _ _ _ fun u hu => h.workspaces u
    (List.mem_of_mem_eraseIdx hu), ?_, rfl,
    False.elim, fun htwo hin => .of_still ?_ rfl⟩
  · have hperm := (List.getElem_cons_eraseIdx_perm hlt).flatMap_right (·.windowIds)
    rw [List.flatMap_cons] at hperm
    exact hperm.symm
  · have hactive := hin.active
    rw [activeWorkspaceIdx_reframe, workspaces_reframe, List.length_eraseIdx_of_lt hlt]
    split <;> omega

end Monitor

namespace Layout

variable {l t : Layout W Id} {c r : Prop}

/-- A workspace with another original output. -/
def claimedBy (originalOutput : OutputId) (ws : Workspace W Id) : Workspace W Id :=
  { ws with originalOutput }

omit [DecidableEq Id] in
/-- A workspace is claimed for the output that it is on. -/
theorem claimed_kept {m : Monitor W Id} (h : m.Sound) (idx : ℕ) (originalOutput : OutputId) :
    Monitor.Kept c r [] m { m with
      workspaces := m.workspaces.modify idx (claimedBy originalOutput) } where
  sound := h.reframe _ m.previousWorkspaceId m.workspaceSwitch
    (Vec.forall_mem_modify h.workspaces (fun _ hws => ⟨hws.1.handedOver _ originalOutput, hws.2⟩)
      idx)
  perm := by
    have hids := Vec.map_modify_eq (f := claimedBy originalOutput) (g := Workspace.windowIds)
      (fun _ => rfl) idx m.workspaces
    rw [Monitor.windowIds, List.flatMap_def, hids, ← List.flatMap_def]
    exact .refl _
  key_eq := rfl
  ids_eq := fun _ => Vec.map_modify_eq (f := claimedBy originalOutput) (g := Workspace.id)
    (fun _ => rfl) idx m.workspaces
  inRange := fun _ hm => ⟨by simpa using hm.active, fun g hg => by simpa using hm.center g hg⟩

omit [DecidableEq Id] in
/-- A workspace goes to another output, or is claimed for its own. -/
theorem moveWorkspaceToOutputById_kept (h : l.Sound) (clock : Clock) (oldIdx : ℕ)
    (oldOutput : Option Output) (newOutput : Output) :
    Guarded (l.InRange ∧ l.HasRoom ∧ l.HasOutput newOutput ∧
        ∀ output ∈ oldOutput, l.HasOutput output)
      (l.moveWorkspaceToOutputById clock oldIdx oldOutput newOutput)
      (Kept l.HasSpare False [] l) := by
  unfold moveWorkspaceToOutputById
  cases hset : l.monitorSet with
  | noOutputs wss => exact guarded_pure.mpr (.refl h)
  | normal ms p a =>
    have hmonitors := monitors_of_normal hset
    have hsound : ∀ m ∈ ms, m.Sound := hmonitors ▸ h.monitors
    have hfound : ∀ output : Output, Guarded (l.HasOutput output)
        (unwrap (ms.findIdx? fun m => m.output.key = output.key)) fun i => i < ms.length := by
      refine fun output => guarded_unwrap.mpr ⟨fun i hi => ?_, fun hout => ?_⟩
      · obtain ⟨m, hm, -⟩ := getElem?_of_findIdx? hi
        exact (List.getElem?_eq_some_iff.mp hm).1
      · obtain ⟨m, hm, hkey⟩ := hout
        exact findIdx?_isSome_of_mem (hmonitors ▸ hm) (decide_eq_true hkey)
    cases oldOutput
    all_goals
      rw [guarded_bind]
      refine Guarded.mono (P := fun i => l.InRange → i < ms.length) ?_ fun i hi => ?_
      · first
        | exact guarded_pure.mpr fun hl => (hl.indices _ _ _ hset).2
        | exact ((hfound _).weaken fun hg => hg.2.2.2 _ rfl).mono fun i hi _ => hi
      simp only [guarded_bind, guarded_unwrap, Vec.guarded_get]
      refine ⟨fun j hj => ⟨fun m hm => ?_, fun hg => hi hg.1⟩, fun hg => ?_⟩
      · obtain ⟨new, hnew, -⟩ := getElem?_of_findIdx? hj
        have hmms : m ∈ ms := List.mem_of_getElem? hm
        refine guarded_ite.mpr ⟨fun _ => guarded_pure.mpr (.refl h), fun hold => ?_⟩
        refine guarded_ite.mpr ⟨fun _ => guarded_pure.mpr ?_, fun hne => ?_⟩
        · exact h.kept_set hset hm (claimed_kept (hsound m hmms) oldIdx _) fun _ hl =>
            (hl.indices _ _ _ hset).2
        · simp only [guarded_bind, Vec.guarded_update, Vec.guarded_apply, guarded_pure, hm]
          refine ⟨fun _ hm' => ?_, fun hg => hi hg.1⟩
          cases hm'
          refine ((Monitor.removeWorkspaceByIdx_lost (hsound m hmms) oldIdx).weaken fun hg =>
            (hg.2.1 m (hmonitors ▸ hmms)).belowTop_lt (by omega)).mono fun found hfound => ?_
          obtain ⟨hwf, hlost⟩ := hfound
          refine ⟨fun n hn => ?_, fun _ => ?_⟩
          · have hn' : ms[j]? = some n := (List.getElem?_set_ne hne).symm.trans hn
            obtain rfl : n = new := Option.some.inj (hn'.symm.trans hnew)
            have hnms : n ∈ ms := List.mem_of_getElem? hnew
            refine ((Monitor.insertWorkspace_kept (hsound n hnms) clock
              (hwf.handedOver found.1.output (OutputId.new newOutput)) _ _).weaken
                fun hg => ?_).mono fun n' hn' => ?_
            · have := (hg.1.monitors n (hmonitors ▸ hnms)).active
              exact ⟨by omega, this⟩
            · refine h.kept_carry hset hm
                (hlost.weaken (fun hspare => hspare m (hmonitors ▸ hmms)) id)
                hn (hn'.weaken (fun _ => trivial) id) fun _ hl => ?_
              split
              · exact (List.getElem?_eq_some_iff.mp hnew).1
              · exact (hl.indices _ _ _ hset).2
          · rw [List.length_set]
            exact (List.getElem?_eq_some_iff.mp hnew).1
      · exact (guarded_unwrap.mp (hfound newOutput)).2 hg.2.2.1

omit [DecidableEq Id] in
theorem moveWorkspaceToOutput_kept (h : l.Sound) (clock : Clock) (output : Output) :
    Guarded (l.InRange ∧ l.HasRoom ∧ l.HasOutput output) (l.moveWorkspaceToOutput clock output)
      (Kept l.HasSpare False [] l) := by
  unfold moveWorkspaceToOutput
  cases hset : l.monitorSet with
  | noOutputs wss => exact guarded_pure.mpr (.refl h)
  | normal ms p a =>
    simp only [guarded_bind, Vec.guarded_get]
    refine ⟨fun m _ => ?_, fun hg => (hg.1.indices _ _ _ hset).2⟩
    exact (moveWorkspaceToOutputById_kept h clock m.activeWorkspaceIdx none output).weaken
      fun hg => ⟨hg.1, hg.2.1, hg.2.2, by simp⟩

/-- A move in a row that takes the active index out of it. -/
def Overshoots (l : Layout W Id) (newIdx : ℕ) : Option (Option Output × ℕ) → Prop
  | some (some output, oldIdx) => ∃ m ∈ l.monitors, m.output.key = output.key ∧
    m.Overshoots oldIdx (min newIdx (m.workspaces.length - 1))
  | some (none, oldIdx) => ∃ m ∈ l.activeMonitor,
    m.Overshoots oldIdx (min newIdx (m.workspaces.length - 1))
  | none => ∃ m ∈ l.activeMonitor,
    m.Overshoots m.activeWorkspaceIdx (min newIdx (m.workspaces.length - 1))

omit [DecidableEq Id] in
/-- A workspace moves within its row. -/
theorem moveWorkspaceToIdx_kept (h : l.Sound) (reference : Option (Option Output × ℕ))
    (newIdx : ℕ) :
    Guarded l.InRange (l.moveWorkspaceToIdx reference newIdx)
      (Kept (¬l.Overshoots newIdx reference) False [] l) := by
  have hmove : ∀ (m : Monitor W Id) (oldIdx : ℕ), m.Sound →
      Returns (m.moveWorkspaceToIdx oldIdx newIdx) (Monitor.Kept
        (¬m.Overshoots oldIdx (min newIdx (m.workspaces.length - 1))) False [] m) := by
    intro m oldIdx hm
    refine (Monitor.moveWorkspaceToIdx_spec oldIdx newIdx).mono fun t ht => ?_
    rcases ht with ⟨-, rfl⟩ | ⟨-, hmoved⟩
    · exact hm.kept_refl
    · exact hmoved.kept hm
  unfold moveWorkspaceToIdx
  rcases reference with _ | ⟨_ | output, oldIdx⟩
  · exact onActiveMonitor_kept h id fun m hactive hm _ => (hmove m _ hm).guarded.mono fun t ht =>
      ht.weaken (fun hc hover => hc ⟨m, hactive, hover⟩) id
  · exact onActiveMonitor_kept h id fun m hactive hm _ => (hmove m _ hm).guarded.mono fun t ht =>
      ht.weaken (fun hc hover => hc ⟨m, hactive, hover⟩) id
  · exact onMonitorFor_kept h output fun m hmem hkey hm _ => (hmove m _ hm).guarded.mono
      fun t ht => ht.weaken (fun hc hover => hc ⟨m, hmem, hkey, hover⟩) id

end Layout

end Sol
