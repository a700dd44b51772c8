import Sol.FrameSpecs

/-!
# Outputs that come and go

An output that is added takes the workspaces that it is the original one of from the
primary monitor; an output that is removed leaves its workspaces to the primary monitor.
Empty workspaces without a name get lost on the way, windows do not.

* `addOutput_kept`, `removeOutput_kept`: the layout stays sound and keeps its windows;
* `SparesPrimary`: when the primary monitor keeps an index in range.
-/

namespace Sol

open Panicking

variable {W Id : Type} [LayoutElement W Id]

/-- A workspace without a window or a name has no window. -/
theorem Workspace.flatMap_filter_occupied (wss : List (Workspace W Id)) :
    (wss.filter (·.hasWindowsOrName)).flatMap (·.windowIds) = wss.flatMap (·.windowIds) := by
  induction wss with
  | nil => rfl
  | cons ws wss ih =>
    by_cases hhas : ws.hasWindowsOrName = true
    · rw [List.filter_cons_of_pos hhas, List.flatMap_cons, List.flatMap_cons, ih]
    · rw [List.filter_cons_of_neg hhas, List.flatMap_cons, ih]
      have hempty : ws.windowIds = [] := by
        by_contra hne
        exact hhas (by simp [Workspace.hasWindowsOrName, Workspace.hasWindows_iff.mpr hne])
      rw [hempty, List.nil_append]

namespace Extraction

variable {m : Monitor W Id} {e : Extraction W Id} {output : Output} {i : ℕ}

/-- Whether a new output takes a workspace. -/
def Takes (output : Output) (ws : Workspace W Id) : Bool := OutputId.matches ws.originalOutput output

/-- How many workspaces are to be left for the active index to be in range: with room on top
the index stays at one. -/
def bound (m : Monitor W Id) : ℕ :=
  if m.options.layout.emptyWorkspaceAboveFirst = true ∧ m.activeWorkspaceIdx ≠ 0 then 2 else 1

/-- The monitor `m` while the workspaces from the index `i` on were looked at. -/
structure From (m : Monitor W Id) (output : Output) (i : ℕ) (e : Extraction W Id) : Prop where
  left : e.primary.workspaces =
    m.workspaces.take i ++ (m.workspaces.drop i).filter fun ws => !Takes output ws
  taken : e.workspaces = ((m.workspaces.drop i).filter (Takes output)).filter (·.hasWindowsOrName)
  sound : m.Sound → e.primary.Sound
  output_eq : e.primary.output = m.output
  options_eq : e.primary.options = m.options
  active_le : e.primary.activeWorkspaceIdx ≤ m.activeWorkspaceIdx
  active_lt : m.activeWorkspaceIdx < m.workspaces.length →
    e.primary.activeWorkspaceIdx < max e.primary.workspaces.length (bound m)
  still : e.stopped = true → e.primary.workspaceSwitch = none
  switch : e.primary.workspaceSwitch = none ∨
    (e.primary.workspaceSwitch = m.workspaceSwitch ∧ e.primary.workspaces = m.workspaces)

theorem from_length (m : Monitor W Id) (output : Output) :
    From m output m.workspaces.length ⟨m, [], false⟩ where
  left := by simp
  taken := by simp
  sound := fun h => h
  output_eq := rfl
  options_eq := rfl
  active_le := le_rfl
  active_lt := fun hm => lt_max_of_lt_left hm
  still := by simp
  switch := .inr ⟨rfl, rfl⟩

/-- A workspace is looked at, and picked out if the output takes it. -/
theorem From.step (h : From m output (i + 1) e) (hi : i < m.workspaces.length) :
    e.primary.workspaces[i]? = some m.workspaces[i] ∧
      From m output i (if Takes output m.workspaces[i] then e.pick i m.workspaces[i] else e) := by
  have hdrop : m.workspaces.drop i = m.workspaces[i] :: m.workspaces.drop (i + 1) :=
    List.drop_eq_getElem_cons hi
  have htake : m.workspaces.take (i + 1) = m.workspaces.take i ++ [m.workspaces[i]] :=
    (List.take_append_getElem hi).symm
  have hlen : (m.workspaces.take i).length = i := List.length_take_of_le hi.le
  have hleft := h.left
  rw [htake, List.append_assoc, List.singleton_append] at hleft
  refine ⟨?_, ?_⟩
  · rw [hleft, List.getElem?_append_right hlen.le, hlen, Nat.sub_self]
    rfl
  · cases htakes : Takes output m.workspaces[i] with
    | false =>
      rw [if_neg Bool.false_ne_true]
      refine ⟨?_, ?_, h.sound, h.output_eq, h.options_eq, h.active_le, h.active_lt, h.still, h.switch⟩
      · rw [hleft, hdrop, List.filter_cons_of_pos (by simp [htakes])]
      · rw [h.taken, hdrop, List.filter_cons_of_neg (by simp [htakes])]
    | true =>
      rw [if_pos rfl]
      have herase : e.primary.workspaces.eraseIdx i =
          m.workspaces.take i ++ (m.workspaces.drop (i + 1)).filter fun ws => !Takes output ws := by
        rw [hleft, List.eraseIdx_append_of_length_le hlen.le, hlen, Nat.sub_self,
          List.eraseIdx_cons_zero]
      refine ⟨?_, ?_, fun hm => ?_, h.output_eq, h.options_eq, ?_, fun hm => ?_, fun _ => rfl, .inl rfl⟩
      · rw [hdrop, List.filter_cons_of_neg (by simp [htakes])]
        exact herase
      · rw [hdrop, List.filter_cons_of_pos htakes, List.filter_cons, ← h.taken]
        rfl
      · have hs := h.sound hm
        exact ⟨fun ws hws => hs.workspaces ws (List.mem_of_mem_eraseIdx hws), hs.basePresets,
          hs.presets⟩
      · have := h.active_le
        simp only [pick]
        split_ifs <;> omega
      · have hle := h.active_le
        have hlt := h.active_lt hm
        have hlen' : i < e.primary.workspaces.length := by
          rw [hleft, List.length_append, hlen, List.length_cons]
          omega
        simp only [pick, List.length_eraseIdx_of_lt hlen', bound, h.options_eq] at hlt ⊢
        cases htop : m.options.layout.emptyWorkspaceAboveFirst with
        | false =>
          simp only [htop, Bool.false_eq_true, false_and, if_false, not_false_iff, and_true] at hlt ⊢
          split_ifs <;> omega
        | true =>
          simp only [htop, true_and] at hlt ⊢
          split_ifs at hlt ⊢ <;> omega

/-- The loop over the workspaces returns. -/
theorem From.pickBelow (h : From m output i e) (hi : i ≤ m.workspaces.length) :
    Returns (pickBelow output i e) (From m output 0) := by
  induction i generalizing e with
  | zero => exact returns_pure.mpr h
  | succ i ih =>
    obtain ⟨hget, hstep⟩ := h.step hi
    unfold Extraction.pickBelow
    rw [returns_bind, Vec.returns_get]
    exact ⟨_, hget, ih hstep (Nat.le_of_succ_le hi)⟩

/-- What a new output takes from a monitor that is sound. -/
structure Parted (m : Monitor W Id) (output : Output) (given : List (Workspace W Id))
    (t : Monitor W Id) : Prop where
  sound : t.Sound
  key_eq : t.output.key = m.output.key
  left : t.workspaces = m.workspaces.filter fun ws => !Takes output ws
  given_eq : given = (m.workspaces.filter (Takes output)).filter (·.hasWindowsOrName)
  inRange : bound m ≤ t.workspaces.length → m.InRange → t.InRange

/-- The windows are shared out. -/
theorem Parted.perm {given : List (Workspace W Id)} {t : Monitor W Id}
    (h : Parted m output given t) :
    m.windowIds.Perm (given.flatMap (·.windowIds) ++ t.windowIds) := by
  unfold Monitor.windowIds
  rw [h.given_eq, Workspace.flatMap_filter_occupied, h.left, ← List.flatMap_append]
  exact (List.filter_append_perm (Takes output) m.workspaces).symm.flatMap_right _

/-- Where nothing is taken, the monitor is left alone; a switch would be in the way of the
clean-up of two workspaces. -/
def CanFinish (m : Monitor W Id) : Prop :=
  m.options.layout.emptyWorkspaceAboveFirst = true → m.workspaces.length = 2 →
    m.workspaceSwitch = none

theorem From.finish (h : From m output 0 e) (hm : m.Sound) :
    Guarded (CanFinish m) e.finish (Parted m output e.workspaces) := by
  have hparted : Parted m output e.workspaces e.primary := by
    refine ⟨h.sound hm, congrArg Output.key h.output_eq, by simpa using h.left,
      by simpa using h.taken, fun hbound hin => ⟨?_, fun g hg => ?_⟩⟩
    · have hlt := h.active_lt hin.active
      rwa [max_eq_left hbound] at hlt
    · rcases h.switch with hnone | ⟨hsame, hall⟩
      · rw [hnone] at hg
        cases hg
      · rw [hall]
        exact hin.center g (hsame ▸ hg)
  have hclean : Guarded (e.primary.workspaceSwitch = none) e.primary.cleanUpWorkspaces
      (Parted m output e.workspaces) := by
    unfold Monitor.cleanUpWorkspaces
    simp only [guarded_bind, guarded_assert, guarded_pure, Option.isNone_iff_eq_none]
    exact ⟨fun _ => hparted, fun hnone => hnone⟩
  unfold Extraction.finish
  simp only [guarded_ite, guarded_pure, Bool.or_eq_true, Bool.and_eq_true, beq_iff_eq]
  refine ⟨fun hcleans => hclean.weaken fun hcan => ?_, fun _ => hparted⟩
  rcases hcleans with hstopped | ⟨htop, hlen⟩
  · exact h.still hstopped
  · rcases h.switch with hnone | ⟨hsame, hall⟩
    · exact hnone
    · rw [hsame]
      exact hcan (h.options_eq ▸ htop) (hall ▸ hlen)

end Extraction

namespace Monitor

variable {m t : Monitor W Id}

omit [LayoutElement W Id] in
theorem idxToActivate_lt (workspaces : List (Workspace W Id)) (id : Option WorkspaceId) {n : ℕ}
    (hn : 1 ≤ n) (hlen : workspaces.length ≤ n) : idxToActivate workspaces id < n := by
  have hfold : ∀ (l : List (Workspace W Id)) (k active : ℕ), active < n → k + l.length ≤ n →
      (l.zipIdx k).foldl (fun active entry =>
        if id.any fun id => entry.1.id = id then entry.2 else active) active < n := by
    intro l
    induction l with
    | nil => exact fun k active hactive _ => hactive
    | cons ws l ih =>
      intro k active hactive hk
      rw [List.length_cons] at hk
      rw [List.zipIdx_cons, List.foldl_cons]
      refine ih (k + 1) _ ?_ (by omega)
      dsimp only
      split_ifs
      · omega
      · exact hactive
  exact hfold workspaces 0 0 hn (by omega)

theorem prepare_spec (output : Output) (options : Options) (ws : Workspace W Id) :
    Guarded (ws.hasWindowsOrName = true) (prepare output options ws)
      (Workspace.Attached options ws) := by
  unfold prepare
  simp only [guarded_bind, guarded_assert]
  exact ⟨fun _ => (Workspace.attach_spec output options).guarded, fun hhas => hhas⟩

/-- A new monitor shows one of its workspaces. -/
theorem new_spec (nextId : WorkspaceId) (output : Output) (given : List (Workspace W Id))
    (id : Option WorkspaceId) {baseOptions : Options} (hbase : baseOptions.layout.HasPresets)
    (layoutConfig : Option LayoutPart) (hgiven : ∀ ws ∈ given, ws.WellFormed) :
    Guarded (∀ ws ∈ given, ws.hasWindowsOrName = true)
      (Monitor.new nextId output given id baseOptions layoutConfig) fun made =>
        made.1.Sound ∧ made.1.InRange ∧ made.1.windowIds.Perm (given.flatMap (·.windowIds)) := by
  have hpresets := Options.hasPresets_withMergedLayout hbase layoutConfig
  unfold Monitor.new
  simp only [guarded_bind, guarded_pure]
  refine (Vec.guarded_mapM (S := Workspace.Attached (baseOptions.withMergedLayout layoutConfig))
    fun ws hws => (prepare_spec output _ ws).weaken fun hall => hall ws hws).mono
      fun given' hattached => ?_
  have hre : List.Forall₂ (fun ws ws' => ws.Rearranged ws' ∧ ws'.output.isSome = true)
      given given' :=
    ((List.forall₂_and_left _ _).mpr ⟨hgiven, hattached⟩).imp fun _ _ h =>
      h.2.rearranged h.1 hpresets
  have hfresh : ∀ n, ∀ ws ∈ (freshWorkspaces nextId output
      (baseOptions.withMergedLayout layoutConfig) n : List (Workspace W Id)),
      Hosts ws ∧ ws.windowIds = [] := by
    intro n ws hws
    obtain ⟨i, -, rfl⟩ := List.mem_map.mp hws
    exact ⟨⟨Workspace.wellFormed_newWithConfig _ _ _ hpresets, rfl⟩, rfl⟩
  refine ⟨⟨fun ws hws => ?_, hbase, hpresets⟩, .of_still ?_ rfl, ?_⟩
  · rcases List.mem_append.mp hws with hws | hws
    · obtain ⟨_, -, hre, hout⟩ := exists_of_forall₂ hre hws
      exact ⟨hre.wellFormed, hout⟩
    · exact (hfresh _ ws hws).1
  · refine idxToActivate_lt given id ?_ ?_
    · simp only [List.length_append, freshWorkspaces, List.length_map, List.length_range]
      omega
    · rw [List.length_append, ← hattached.length_eq]
      exact Nat.le_add_right _ _
  · unfold windowIds
    rw [List.flatMap_append, List.flatMap_eq_nil_iff.mpr fun ws hws => (hfresh _ ws hws).2,
      List.append_nil]
    exact perm_of_forall₂ (hre.imp fun _ _ h => h.1.perm)

theorem intoWorkspaces_eq : m.intoWorkspaces = .ok
    ((m.workspaces.filter (·.hasWindowsOrName)).map fun ws => { ws with output := none }) :=
  Vec.mapM_eq_ok_map fun _ _ => Workspace.setOutput_none

/-- Workspaces come with their windows. -/
theorem appendWorkspaces_kept (h : m.Sound) {given : List (Workspace W Id)}
    (hgiven : ∀ ws ∈ given, ws.WellFormed) :
    Guarded (1 ≤ m.workspaces.length) (m.appendWorkspaces given)
      (Kept True False (given.flatMap (·.windowIds)) m) := by
  refine (appendWorkspaces_spec given).mono fun t ht => ?_
  rcases ht with ⟨rfl, rfl⟩ | ⟨given', last, rest, -, hattached, hsplit, rfl⟩
  · exact h.kept_refl
  · have hre : List.Forall₂ (fun ws ws' => ws.Rearranged ws' ∧ ws'.output.isSome = true)
        given given' :=
      ((List.forall₂_and_left _ _).mpr ⟨hgiven, hattached⟩).imp fun _ _ ⟨hwf, hat⟩ =>
        hat.rearranged hwf h.presets
    have hperm : (rest ++ given' ++ [last]).Perm (given' ++ m.workspaces) := by
      rw [hsplit, ← List.append_assoc]
      exact List.perm_append_comm.append_right _
    refine ⟨h.reframe _ _ _ fun ws hws => ?_, ?_, rfl, False.elim, fun _ hin => .of_still ?_ rfl⟩
    · rcases List.mem_append.mp (hperm.mem_iff.mp hws) with hws | hws
      · obtain ⟨_, -, hre, hout⟩ := exists_of_forall₂ hre hws
        exact ⟨hre.wellFormed, hout⟩
      · exact h.workspaces ws hws
    · refine (hperm.flatMap_right _).trans ?_
      rw [List.flatMap_append]
      exact (perm_of_forall₂ (hre.imp fun _ _ h => h.1.perm)).append_right _
    · have hactive := hin.active
      rw [hsplit, List.length_append, List.length_singleton] at hactive
      simp only [activeWorkspaceIdx_reframe, workspaces_reframe, List.length_append,
        List.length_singleton]
      split_ifs <;> omega

end Monitor

namespace Layout

variable {l t : Layout W Id} {c r : Prop}

/-- The monitor of a new output, and the layout apart from the monitors. -/
theorem connect_spec (h : l.Sound) (clock : Clock) (output : Output)
    (given : List (Workspace W Id)) (layoutConfig : Option LayoutPart)
    (hgiven : ∀ ws ∈ given, ws.WellFormed) :
    Guarded (∀ ws ∈ given, ws.hasWindowsOrName = true)
      (l.connect clock output given layoutConfig) fun made =>
        made.1.Sound ∧ made.1.InRange ∧ made.1.windowIds.Perm (given.flatMap (·.windowIds)) ∧
          ∃ nextWorkspaceId lastActiveWorkspaceId,
            made.2 = { l with nextWorkspaceId, lastActiveWorkspaceId } := by
  unfold connect
  simp only [guarded_bind, guarded_pure]
  refine (Monitor.new_spec _ output given _ h.presets layoutConfig hgiven).mono
    fun made hmade => ?_
  obtain ⟨hsound, hin, hperm⟩ := hmade
  have hopened : Monitor.Kept True True [] made.1 { made.1 with overviewOpen := l.overviewOpen } :=
    ⟨⟨hsound.workspaces, hsound.basePresets, hsound.presets⟩, .refl _, rfl, fun _ => rfl,
      fun _ hin => ⟨hin.active, hin.center⟩⟩
  have hkept := hopened.then ((Monitor.setOverviewProgress_steady hopened.sound clock
    (l.overviewProgress.map OverviewProgress.forMonitor)).kept)
  exact ⟨hkept.sound, hkept.inRange trivial hin, hkept.perm.trans hperm, _, _, rfl⟩

/-- The primary monitor keeps enough workspaces when an output is added. -/
def SparesPrimary (l : Layout W Id) (output : Output) : Prop :=
  ∀ ms p a m, l.monitorSet = .normal ms p a → ms[p]? = some m →
    Extraction.bound m ≤ (m.workspaces.filter fun ws => !Extraction.Takes output ws).length

/-- Nothing is in the way of an output that is added. -/
structure CanConnect (l : Layout W Id) : Prop where
  inRange : l.InRange
  finishes : ∀ ms p a m, l.monitorSet = .normal ms p a → ms[p]? = some m → Extraction.CanFinish m
  occupied : ∀ ws ∈ l.detached, ws.hasWindowsOrName = true

theorem addOutput_kept (h : l.Sound) (clock : Clock) (output : Output)
    (layoutConfig : Option LayoutPart) :
    Guarded l.CanConnect (l.addOutput clock output layoutConfig)
      (Kept (l.SparesPrimary output) False [] l) := by
  unfold addOutput
  cases hset : l.monitorSet with
  | noOutputs wss =>
    have hdetached := detached_of_noOutputs hset
    simp only [guarded_bind, guarded_pure]
    refine ((connect_spec h clock output wss layoutConfig (hdetached ▸ h.detached)).weaken
      fun hcan => hdetached ▸ hcan.occupied).mono fun made hmade => ?_
    obtain ⟨hsound, hin, hperm, _, _, heq⟩ := hmade
    rw [heq]
    refine ⟨⟨List.forall_mem_singleton.mpr hsound, by simp [detached], h.presets⟩, ?_, False.elim,
      fun _ _ => ⟨List.forall_mem_singleton.mpr hin, ?_⟩⟩
    · rw [windowIds_of_normal rfl, windowIds_of_noOutputs hset, List.flatMap_singleton]
      exact hperm.append_right _
    · intro _ _ _ hset'
      cases hset'
      exact ⟨Nat.one_pos, Nat.one_pos⟩
  | normal ms p a =>
    have hmonitors := monitors_of_normal hset
    simp only [guarded_bind, guarded_pure, Vec.guarded_get]
    refine ⟨fun m hm => ?_, fun hcan => (hcan.inRange.indices _ _ _ hset).1⟩
    have hmem : m ∈ l.monitors := hmonitors ▸ List.mem_of_getElem? hm
    have hmsound := h.monitors m hmem
    refine ((Extraction.from_length m output).pickBelow le_rfl).guarded.mono fun e he => ?_
    refine ((he.finish hmsound).weaken fun hcan => hcan.finishes _ _ _ m hset hm).mono
      fun m' hparted => ?_
    have hgiven : ∀ ws ∈ e.workspaces, ws.WellFormed ∧ ws.hasWindowsOrName = true := by
      intro ws hws
      rw [hparted.given_eq, List.mem_filter] at hws
      exact ⟨(hmsound.workspaces ws (List.mem_of_mem_filter hws.1)).1, hws.2⟩
    refine ((connect_spec h clock output e.workspaces layoutConfig fun ws hws =>
      (hgiven ws hws).1).weaken fun _ ws hws => (hgiven ws hws).2).mono
        fun made hmade => ?_
    obtain ⟨hsound, hin, hperm, _, _, heq⟩ := hmade
    have hkept : Kept (l.SparesPrimary output) False [] l
        (l.withMonitors (ms.set p m' ++ [made.1]) p a) := by
      refine h.kept_withMonitors hset (List.forall_mem_append.mpr ⟨Vec.forall_mem_set
        (hmonitors ▸ h.monitors) hparted.sound, List.forall_mem_singleton.mpr hsound⟩) ?_
        False.elim fun hspares hl => ?_
      · -- what the primary monitor loses the new one has
        rw [List.flatMap_append, List.flatMap_singleton]
        refine ((hperm.append_left _).trans List.perm_append_comm).trans ?_
        exact (Vec.flatMap_set_loss hm hparted.perm).symm
      · obtain ⟨hp, ha⟩ := hl.indices _ _ _ hset
        have hbound := hspares _ _ _ m hset hm
        rw [← hparted.left] at hbound
        simp only [List.length_append, List.length_set, List.length_singleton]
        exact ⟨List.forall_mem_append.mpr ⟨Vec.forall_mem_set (hmonitors ▸ hl.monitors)
          (hparted.inRange hbound (hl.monitors m hmem)), List.forall_mem_singleton.mpr hin⟩,
          by omega, by omega⟩
    rw [heq]
    exact hkept.then (hkept.sound.kept_of_monitorSet rfl rfl h.presets)

omit [LayoutElement W Id] in
theorem idxAfterRemoval_lt {n i idx : ℕ} (hi : i < n + 1) (hidx : idx < n + 1) (hn : 1 ≤ n) :
    idxAfterRemoval i idx < n := by
  unfold idxAfterRemoval
  split_ifs <;> omega

/-- An output of the layout is removed. -/
theorem removeOutput_kept (h : l.Sound) (output : Output) :
    Guarded (l.InRange ∧ ∃ m ∈ l.monitors, m.output.key = output.key) (l.removeOutput output)
      (Kept True False [] l) := by
  unfold removeOutput
  cases hset : l.monitorSet with
  | noOutputs wss =>
    refine guarded_throw.mpr ?_
    rintro ⟨-, m, hm, -⟩
    rw [monitors_of_noOutputs hset] at hm
    exact absurd hm List.not_mem_nil
  | normal ms p a =>
    have hmonitors := monitors_of_normal hset
    simp only [guarded_bind, guarded_expect, Vec.guarded_remove, Monitor.activeWorkspaceRef,
      Vec.guarded_get, Monitor.intoWorkspaces_eq, guarded_ok]
    refine ⟨fun idx hidx => ⟨fun m hm => ⟨fun active _ => ?_, fun hl => ?_⟩, fun _ => ?_⟩, fun hl => ?_⟩
    · have hmem : m ∈ l.monitors := hmonitors ▸ List.mem_of_getElem? hm
      generalize hleft : ((m.workspaces.filter (·.hasWindowsOrName)).map fun ws =>
        { ws with output := none }) = left
      have hwf : ∀ ws ∈ left, ws.WellFormed := by
        intro ws hws
        obtain ⟨u, hu, rfl⟩ := List.mem_map.mp (hleft ▸ hws)
        exact ((h.monitors m hmem).workspaces u (List.mem_of_mem_filter hu)).1.unplugged
      have hids : left.flatMap (·.windowIds) = m.windowIds := by
        rw [← hleft, List.flatMap_map]
        exact Workspace.flatMap_filter_occupied m.workspaces
      obtain ⟨hlt, rfl⟩ := List.getElem?_eq_some_iff.mp hm
      have hperm := (List.getElem_cons_eraseIdx_perm hlt).flatMap_right (·.windowIds)
      rw [List.flatMap_cons, ← hids] at hperm
      rw [guarded_ite]
      constructor
      · -- it was the only output
        intro hlast
        have hre : List.Forall₂ Workspace.Rearranged left
            (left.map (·.updateConfig l.options)) := by
          rw [List.forall₂_map_right_iff, List.forall₂_same]
          exact fun ws hws => Workspace.updateConfig_rearranged (hwf ws hws) h.presets
        rw [List.isEmpty_iff.mp hlast, List.flatMap_nil, List.append_nil] at hperm
        refine guarded_pure.mpr ⟨⟨by simp [monitors], fun ws hws => ?_, h.presets⟩, ?_, False.elim,
          fun _ _ => ⟨by simp [monitors], by simp⟩⟩
        · obtain ⟨_, -, hre⟩ := exists_of_forall₂ hre hws
          exact hre.wellFormed
        · rw [windowIds_of_noOutputs rfl, windowIds_of_normal hset]
          refine List.Perm.append_right _ ?_
          exact (Monitor.perm_of_forall₂ (hre.imp fun _ _ h => h.perm)).trans hperm
      · intro hothers
        simp only [guarded_bind, guarded_pure, Vec.guarded_apply]
        have hmem' : ∀ x ∈ ms.eraseIdx idx, x ∈ l.monitors := fun x hx =>
          hmonitors ▸ List.mem_of_mem_eraseIdx hx
        have hlen : 1 ≤ (ms.eraseIdx idx).length :=
          List.length_pos_iff.mpr fun hnil => hothers (by simp [hnil])
        have hlen' := List.length_eraseIdx_of_lt hlt
        refine ⟨fun n hn => ?_, fun hl => ?_⟩
        · have hnmem := hmem' n (List.mem_of_getElem? hn)
          refine ((Monitor.appendWorkspaces_kept (h.monitors n hnmem) hwf).weaken fun hl => ?_).mono
            fun n' hn' => ?_
          · have := (hl.1.monitors n hnmem).active
            omega
          · have hkept : Kept True False [] l (l.withMonitors
                ((ms.eraseIdx idx).set (idxAfterRemoval p idx) n') (idxAfterRemoval p idx)
                (idxAfterRemoval a idx)) := by
              refine h.kept_withMonitors hset (Vec.forall_mem_set
                (fun x hx => h.monitors x (hmem' x hx)) hn'.sound) ?_ False.elim fun _ hl => ?_
              · exact (Vec.flatMap_set_gain hn hn'.perm).trans hperm
              · obtain ⟨hp, ha⟩ := hl.indices _ _ _ hset
                rw [List.length_set]
                exact ⟨Vec.forall_mem_set (fun x hx => hl.monitors x (hmem' x hx))
                  (hn'.inRange trivial (hl.monitors n hnmem)),
                  idxAfterRemoval_lt (by omega) (by omega) hlen,
                  idxAfterRemoval_lt (by omega) (by omega) hlen⟩
            exact hkept.then (hkept.sound.kept_of_monitorSet rfl rfl h.presets)
        · obtain ⟨hp, -⟩ := hl.1.indices _ _ _ hset
          exact idxAfterRemoval_lt (by omega) (by omega) hlen
    · exact (hl.1.monitors m (hmonitors ▸ List.mem_of_getElem? hm)).active
    · exact (List.findIdx?_eq_some_iff_getElem.mp hidx).1
    · obtain ⟨-, m, hm, hkey⟩ := hl
      rw [List.findIdx?_isSome, List.any_eq_true]
      exact ⟨m, hmonitors ▸ hm, by simpa using hkey⟩

end Layout

end Sol
