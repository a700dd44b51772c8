import Sol.LayoutUpkeep
import Sol.WorkspaceRow

/-!
# Operations of parts of the layout

An operation of the layout mostly is one of a monitor or of a workspace, or of all of them.
What these do to their part the layout as a whole does: `Kept` says that it is sound, which
windows it has, which indices are in range, and whether the rows of workspaces are the same.

* `onActiveMonitor_kept`, `onMonitorFor_kept`, `mapMonitors_kept`: of monitors;
* `mapWorkspaces_kept`, `onFirstWorkspace_kept`: of workspaces.
-/

namespace Sol

open Panicking

variable {W Id : Type} [LayoutElement W Id]

/-- What is paired with an element. -/
theorem exists_of_forall₂ {α β : Type} {R : α → β → Prop} {l : List α} {l' : List β}
    (h : List.Forall₂ R l l') {b : β} (hb : b ∈ l') : ∃ a ∈ l, R a b := by
  induction h with
  | nil => exact absurd hb List.not_mem_nil
  | cons hab _ ih =>
    rcases List.mem_cons.mp hb with rfl | hb
    · exact ⟨_, List.mem_cons_self, hab⟩
    · obtain ⟨a, ha, hR⟩ := ih hb
      exact ⟨a, List.mem_cons_of_mem _ ha, hR⟩

namespace Monitor

variable {m t u : Monitor W Id}

/-- The outcome of an operation that adds the windows `gain`; under `c` it keeps the indices
in range, and under `r` the row of workspaces. -/
structure Kept (c r : Prop) (gain : List Id) (m t : Monitor W Id) : Prop where
  sound : t.Sound
  perm : t.windowIds.Perm (gain ++ m.windowIds)
  key_eq : t.output.key = m.output.key
  ids_eq : r → t.workspaceIds = m.workspaceIds
  inRange : c → m.InRange → t.InRange

theorem Steady.kept {c r : Prop} {gain : List Id} (h : Steady c gain m t) : Kept c r gain m t :=
  ⟨h.sound, h.perm, congrArg Output.key h.output_eq, fun _ => h.ids_eq, h.inRange⟩

theorem Kept.weaken {c r c' r' : Prop} {gain : List Id} (h : Kept c r gain m t) (hc : c' → c)
    (hr : r' → r) : Kept c' r' gain m t :=
  ⟨h.sound, h.perm, h.key_eq, h.ids_eq ∘ hr, h.inRange ∘ hc⟩

theorem Kept.then {c r : Prop} {gain : List Id} (h : Kept c r [] m t) (h' : Kept c r gain t u) :
    Kept c r gain m u where
  sound := h'.sound
  perm := h'.perm.trans (h.perm.append_left gain)
  key_eq := h'.key_eq.trans h.key_eq
  ids_eq := fun hr => (h'.ids_eq hr).trans (h.ids_eq hr)
  inRange := fun hc hm => h'.inRange hc (h.inRange hc hm)

theorem Sound.kept_refl (h : m.Sound) {c r : Prop} : Kept c r [] m m :=
  ⟨h, .refl _, rfl, fun _ => rfl, fun _ hm => hm⟩

/-- The outcome of an operation that takes out the windows `lost`. -/
structure Lost (c r : Prop) (lost : List Id) (m t : Monitor W Id) : Prop where
  sound : t.Sound
  perm : m.windowIds.Perm (lost ++ t.windowIds)
  key_eq : t.output.key = m.output.key
  ids_eq : r → t.workspaceIds = m.workspaceIds
  inRange : c → m.InRange → t.InRange

theorem Lost.weaken {c r c' r' : Prop} {lost : List Id} (h : Lost c r lost m t) (hc : c' → c)
    (hr : r' → r) : Lost c' r' lost m t := ⟨h.sound, h.perm, h.key_eq, h.ids_eq ∘ hr, h.inRange ∘ hc⟩

/-- Where room is counted in on top, there is some. -/
def HasRoom (m : Monitor W Id) : Prop :=
  m.options.layout.emptyWorkspaceAboveFirst = true → 2 ≤ m.workspaces.length

omit [LayoutElement W Id] in
theorem HasRoom.belowTop_lt (h : m.HasRoom) {i : ℕ} (hi : i < m.workspaces.length) :
    m.belowTop i < m.workspaces.length := by
  unfold belowTop
  split_ifs with htop
  · have := h htop.1
    omega
  · exact hi

theorem Sound.lost_workspace (h : m.Sound) {i : ℕ} {ws ws' : Workspace W Id}
    (hws : m.workspaces[i]? = some ws) {window : Id} (hr : ws.Removed window ws') {c r : Prop} :
    Lost c r [window] m { m with workspaces := m.workspaces.set i ws' } := by
  obtain ⟨hsound, hperm, hids⟩ := h.replace_removed hws hr
  exact ⟨hsound, hperm, rfl, fun _ => hids, fun _ hm =>
    ⟨by simpa using hm.active, fun g hg => by simpa using hm.center g hg⟩⟩

end Monitor

namespace Layout

variable {l t u : Layout W Id}

/-- The invariant of the layout apart from the indices. -/
structure Sound (l : Layout W Id) : Prop where
  monitors : ∀ m ∈ l.monitors, m.Sound
  detached : ∀ ws ∈ l.detached, ws.WellFormed
  presets : l.options.layout.HasPresets

/-- The indices are those of monitors, and in the monitors those of workspaces. -/
structure InRange (l : Layout W Id) : Prop where
  monitors : ∀ m ∈ l.monitors, m.InRange
  indices : ∀ ms primaryIdx activeMonitorIdx, l.monitorSet = .normal ms primaryIdx activeMonitorIdx →
    primaryIdx < ms.length ∧ activeMonitorIdx < ms.length

/-- The ids of the workspaces, monitor by monitor. -/
def rows (l : Layout W Id) : List (List WorkspaceId) := l.monitors.map (·.workspaceIds)

/-- The dragged window, if it is out of the layout. -/
def movedIds (l : Layout W Id) : List Id := (l.moved.map (·.tile.windowId)).toList

def activeMonitor (l : Layout W Id) : Option (Monitor W Id) :=
  match l.monitorSet with
  | .normal monitors _ activeMonitorIdx => monitors[activeMonitorIdx]?
  | .noOutputs _ => none

def activeWorkspace (l : Layout W Id) : Option (Workspace W Id) :=
  l.activeMonitor.bind fun m => m.workspaces[m.activeWorkspaceIdx]?

/-- Whether an operation of a window, or else of the active workspace, is one of a workspace. -/
def Concerns (l : Layout W Id) (window : Option Id) (ws : Workspace W Id) : Prop :=
  match window with
  | some window => ws ∈ l.workspaces ∧ window ∈ ws.windowIds
  | none => l.activeWorkspace = some ws

/-- The same layout with other monitors. -/
def withMonitors (l : Layout W Id) (monitors : List (Monitor W Id))
    (primaryIdx activeMonitorIdx : ℕ) : Layout W Id :=
  { l with monitorSet := .normal monitors primaryIdx activeMonitorIdx }

/-- The outcome of an operation that adds the windows `gain`; under `c` it keeps the indices
in range, and under `r` the rows of workspaces. -/
structure Kept (c r : Prop) (gain : List Id) (l t : Layout W Id) : Prop where
  sound : t.Sound
  perm : t.windowIds.Perm (gain ++ l.windowIds)
  rows_eq : r → t.rows = l.rows
  inRange : c → l.InRange → t.InRange

/-- The outcome of an operation that takes out the windows `lost`. -/
structure Lost (c r : Prop) (lost : List Id) (l t : Layout W Id) : Prop where
  sound : t.Sound
  perm : l.windowIds.Perm (lost ++ t.windowIds)
  rows_eq : r → t.rows = l.rows
  inRange : c → l.InRange → t.InRange

theorem windowIds_eq : l.windowIds = l.monitors.flatMap (·.windowIds) ++
    l.detached.flatMap (·.windowIds) ++ l.movedIds := by
  simp only [windowIds, workspaces, movedIds, List.flatMap_append, List.flatMap_assoc,
    Monitor.windowIds]

section Normal

variable {ms : List (Monitor W Id)} {p a : ℕ} {wss : List (Workspace W Id)}

omit [LayoutElement W Id] in
theorem monitors_of_normal (h : l.monitorSet = .normal ms p a) : l.monitors = ms := by
  rw [monitors, h]

omit [LayoutElement W Id] in
theorem detached_of_normal (h : l.monitorSet = .normal ms p a) : l.detached = [] := by
  rw [detached, h]

omit [LayoutElement W Id] in
theorem monitors_of_noOutputs (h : l.monitorSet = .noOutputs wss) : l.monitors = [] := by
  rw [monitors, h]

omit [LayoutElement W Id] in
theorem detached_of_noOutputs (h : l.monitorSet = .noOutputs wss) : l.detached = wss := by
  rw [detached, h]

theorem windowIds_of_normal (h : l.monitorSet = .normal ms p a) :
    l.windowIds = ms.flatMap (·.windowIds) ++ l.movedIds := by
  rw [windowIds_eq, monitors_of_normal h, detached_of_normal h, List.flatMap_nil, List.append_nil]

theorem windowIds_of_noOutputs (h : l.monitorSet = .noOutputs wss) :
    l.windowIds = wss.flatMap (·.windowIds) ++ l.movedIds := by
  rw [windowIds_eq, monitors_of_noOutputs h, detached_of_noOutputs h, List.flatMap_nil,
    List.nil_append]

end Normal

namespace Kept

variable {c r : Prop} {gain : List Id}

theorem refl (h : l.Sound) : Kept c r [] l l := ⟨h, .refl _, fun _ => rfl, fun _ hl => hl⟩

theorem weaken {c' r' : Prop} (h : Kept c r gain l t) (hc : c' → c) (hr : r' → r) :
    Kept c' r' gain l t := ⟨h.sound, h.perm, h.rows_eq ∘ hr, h.inRange ∘ hc⟩

theorem «then» (h : Kept c r [] l t) (h' : Kept c r gain t u) : Kept c r gain l u where
  sound := h'.sound
  perm := h'.perm.trans (h.perm.append_left gain)
  rows_eq := fun hr => (h'.rows_eq hr).trans (h.rows_eq hr)
  inRange := fun hc hl => h'.inRange hc (h.inRange hc hl)

/-- An operation that adds no window takes none out. -/
theorem lost (h : Kept c r [] l t) : Lost c r [] l t := ⟨h.sound, h.perm.symm, h.rows_eq, h.inRange⟩

end Kept

theorem Lost.weaken {c r c' r' : Prop} {lost : List Id} (h : Lost c r lost l t) (hc : c' → c)
    (hr : r' → r) : Lost c' r' lost l t := ⟨h.sound, h.perm, h.rows_eq ∘ hr, h.inRange ∘ hc⟩

theorem Lost.then {c r : Prop} {lost : List Id} (h : Lost c r lost l t) (h' : Kept c r [] t u) :
    Lost c r lost l u where
  sound := h'.sound
  perm := h.perm.trans (h'.perm.symm.append_left lost)
  rows_eq := fun hr => (h'.rows_eq hr).trans (h.rows_eq hr)
  inRange := fun hc hl => h'.inRange hc (h.inRange hc hl)

/-- Nothing of the rest of the layout matters, except for a dragged window. -/
theorem Sound.kept_of_monitorSet (h : l.Sound) {c r : Prop} (hset : t.monitorSet = l.monitorSet)
    (hmoved : t.movedIds = l.movedIds) (hpresets : t.options.layout.HasPresets) :
    Kept c r [] l t := by
  have hmonitors : t.monitors = l.monitors := by rw [Layout.monitors, hset, Layout.monitors]
  have hdetached : t.detached = l.detached := by rw [Layout.detached, hset, Layout.detached]
  refine ⟨⟨hmonitors ▸ h.monitors, hdetached ▸ h.detached, hpresets⟩, ?_, fun _ => ?_,
    fun _ hl => ⟨hmonitors ▸ hl.monitors, hset ▸ hl.indices⟩⟩
  · rw [windowIds_eq, windowIds_eq, hmonitors, hdetached, hmoved]
    exact .refl _
  · rw [rows, rows, hmonitors]

/-! ### Other monitors -/

section Monitors

variable {ms ms' : List (Monitor W Id)} {p a p' a' : ℕ} {c r : Prop} {gain : List Id}

theorem Sound.kept_withMonitors (h : l.Sound) (hset : l.monitorSet = .normal ms p a)
    (hsound : ∀ m ∈ ms', m.Sound)
    (hperm : (ms'.flatMap (·.windowIds)).Perm (gain ++ ms.flatMap (·.windowIds)))
    (hrows : r → ms'.map (·.workspaceIds) = ms.map (·.workspaceIds))
    (hin : c → l.InRange → (∀ m ∈ ms', m.InRange) ∧ p' < ms'.length ∧ a' < ms'.length) :
    Kept c r gain l (l.withMonitors ms' p' a') where
  sound := ⟨hsound, fun _ hws => absurd hws List.not_mem_nil, h.presets⟩
  perm := by
    rw [windowIds_of_normal (l := l.withMonitors ms' p' a') rfl, windowIds_of_normal hset,
      ← List.append_assoc]
    exact hperm.append_right _
  rows_eq := fun hr => by
    rw [rows, rows, monitors_of_normal hset]
    exact hrows hr
  inRange := fun hc hl => by
    obtain ⟨hms, hp, ha⟩ := hin hc hl
    refine ⟨hms, fun _ _ _ heq => ?_⟩
    cases heq
    exact ⟨hp, ha⟩

/-- One monitor is replaced. -/
theorem Sound.kept_set (h : l.Sound) (hset : l.monitorSet = .normal ms p a) {i : ℕ}
    {m m' : Monitor W Id} (hm : ms[i]? = some m) (hkept : Monitor.Kept c r gain m m')
    (ha : c → l.InRange → a' < ms.length) :
    Kept c r gain l (l.withMonitors (ms.set i m') p a') := by
  have hmonitors := monitors_of_normal hset
  refine h.kept_withMonitors hset (Vec.forall_mem_set (hmonitors ▸ h.monitors) hkept.sound) ?_
    (fun hr => Vec.map_set_eq hm (hkept.ids_eq hr)) fun hc hl => ?_
  · exact Vec.flatMap_set_gain hm hkept.perm
  · have hin := hl.monitors
    rw [hmonitors] at hin
    rw [List.length_set]
    exact ⟨Vec.forall_mem_set hin (hkept.inRange hc (hin m (List.mem_of_getElem? hm))),
      (hl.indices _ _ _ hset).1, ha hc hl⟩

/-- Windows are taken from one monitor, and are gone. -/
theorem Sound.lost_set (h : l.Sound) (hset : l.monitorSet = .normal ms p a) {i : ℕ}
    {m m' : Monitor W Id} {lost : List Id} (hm : ms[i]? = some m)
    (hlost : Monitor.Lost c r lost m m') :
    Lost c r lost l (l.withMonitors (ms.set i m') p a) := by
  have hmonitors := monitors_of_normal hset
  refine ⟨⟨Vec.forall_mem_set (hmonitors ▸ h.monitors) hlost.sound,
    fun _ hws => absurd hws List.not_mem_nil, h.presets⟩, ?_, fun hr => ?_, fun hc hl => ?_⟩
  · rw [windowIds_of_normal (l := l.withMonitors (ms.set i m') p a) rfl, windowIds_of_normal hset,
      ← List.append_assoc]
    exact (Vec.flatMap_set_loss hm hlost.perm).append_right _
  · rw [rows, rows, hmonitors]
    exact Vec.map_set_eq hm (hlost.ids_eq hr)
  · have hin := hl.monitors
    rw [hmonitors] at hin
    refine ⟨Vec.forall_mem_set hin (hlost.inRange hc (hin m (List.mem_of_getElem? hm))), ?_⟩
    intro _ _ _ heq
    cases heq
    rw [List.length_set]
    exact hl.indices _ _ _ hset

/-- Every monitor loses some windows. -/
theorem Sound.lost_forall₂ (h : l.Sound) (hset : l.monitorSet = .normal ms p a)
    {lost : Monitor W Id → List Id}
    (hlost : List.Forall₂ (fun m m' => Monitor.Lost c r (lost m) m m') ms ms') :
    Lost c r (ms.flatMap lost) l (l.withMonitors ms' p a) := by
  have hmonitors := monitors_of_normal hset
  refine ⟨⟨fun m hm => ?_, fun _ hws => absurd hws List.not_mem_nil, h.presets⟩, ?_, fun hr => ?_,
    fun hc hl => ?_⟩
  · obtain ⟨_, -, hlost⟩ := exists_of_forall₂ hlost hm
    exact hlost.sound
  · rw [windowIds_of_normal (l := l.withMonitors ms' p a) rfl, windowIds_of_normal hset,
      ← List.append_assoc]
    refine List.Perm.append_right _ ?_
    clear hset hmonitors
    induction hlost with
    | nil => exact .refl _
    | @cons m m' _ ms' hm _ ih =>
      simp only [List.flatMap_cons]
      refine (hm.perm.append ih).trans ?_
      simp only [List.append_assoc]
      refine List.Perm.append_left _ ?_
      rw [← List.append_assoc, ← List.append_assoc]
      exact List.perm_append_comm.append_right _
  · rw [rows, rows, hmonitors]
    clear hset hmonitors
    change ms'.map _ = _
    induction hlost with
    | nil => rfl
    | cons hm _ ih => rw [List.map_cons, List.map_cons, hm.ids_eq hr, ih]
  · have hin := hl.monitors
    rw [hmonitors] at hin
    refine ⟨fun m hm => ?_, fun _ _ _ heq => ?_⟩
    · obtain ⟨m₀, hm₀, hlost⟩ := exists_of_forall₂ hlost hm
      exact hlost.inRange hc (hin m₀ hm₀)
    · cases heq
      rw [← hlost.length_eq]
      exact hl.indices _ _ _ hset

/-- Windows are taken from one monitor to another one, or within the monitor. -/
theorem Sound.kept_carry (h : l.Sound) (hset : l.monitorSet = .normal ms p a) {i j : ℕ}
    {m m' n n' : Monitor W Id} {lost : List Id} (hm : ms[i]? = some m)
    (hlost : Monitor.Lost c r lost m m') (hn : (ms.set i m')[j]? = some n)
    (hkept : Monitor.Kept c r lost n n') (ha : c → l.InRange → a' < ms.length) :
    Kept c r [] l (l.withMonitors ((ms.set i m').set j n') p a') := by
  have hmonitors := monitors_of_normal hset
  have hms : ∀ x ∈ ms, x.Sound := hmonitors ▸ h.monitors
  refine h.kept_withMonitors hset
    (Vec.forall_mem_set (Vec.forall_mem_set hms hlost.sound) hkept.sound) ?_
    (fun hr => ?_) fun hc hl => ?_
  · exact (Vec.flatMap_set_gain hn hkept.perm).trans (Vec.flatMap_set_loss hm hlost.perm).symm
  · rw [Vec.map_set_eq hn (hkept.ids_eq hr), Vec.map_set_eq hm (hlost.ids_eq hr)]
  · have hin := hl.monitors
    rw [hmonitors] at hin
    have htaken := Vec.forall_mem_set (i := i) hin
      (hlost.inRange hc (hin m (List.mem_of_getElem? hm)))
    simp only [List.length_set]
    exact ⟨Vec.forall_mem_set htaken
      (hkept.inRange hc (htaken n (List.mem_of_getElem? hn))), (hl.indices _ _ _ hset).1, ha hc hl⟩

/-- Every monitor is replaced. -/
theorem Sound.kept_forall₂ (h : l.Sound) (hset : l.monitorSet = .normal ms p a)
    (hkept : List.Forall₂ (Monitor.Kept c r []) ms ms')
    (ha : c → l.InRange → a' < ms.length) : Kept c r [] l (l.withMonitors ms' p a') := by
  have hmonitors := monitors_of_normal hset
  have hsound : ∀ m ∈ ms', m.Sound := by
    intro m hm
    obtain ⟨m₀, -, hkept⟩ := exists_of_forall₂ hkept hm
    exact hkept.sound
  refine h.kept_withMonitors hset hsound ?_ (fun hr => ?_) fun hc hl => ?_
  · rw [List.nil_append]
    clear hset hsound hmonitors ha
    induction hkept with
    | nil => exact .refl _
    | cons hm _ ih =>
      rw [List.flatMap_cons, List.flatMap_cons]
      exact hm.perm.append ih
  · clear hset hsound hmonitors ha
    induction hkept with
    | nil => rfl
    | cons hm _ ih => rw [List.map_cons, List.map_cons, hm.ids_eq hr, ih]
  · have hin := hl.monitors
    rw [hmonitors] at hin
    rw [← hkept.length_eq]
    refine ⟨fun m hm => ?_, (hl.indices _ _ _ hset).1, ha hc hl⟩
    obtain ⟨m₀, hm₀, hkept⟩ := exists_of_forall₂ hkept hm
    exact hkept.inRange hc (hin m₀ hm₀)

end Monitors

/-- The workspaces without outputs are replaced. -/
theorem Sound.kept_detached (h : l.Sound) {wss wss' : List (Workspace W Id)} {c r : Prop}
    {gain : List Id} (hset : l.monitorSet = .noOutputs wss) (hwf : ∀ ws ∈ wss', ws.WellFormed)
    (hperm : (wss'.flatMap (·.windowIds)).Perm (gain ++ wss.flatMap (·.windowIds))) :
    Kept c r gain l { l with monitorSet := .noOutputs wss' } where
  sound := ⟨fun _ hm => absurd hm List.not_mem_nil, hwf, h.presets⟩
  perm := by
    rw [windowIds_of_noOutputs (l := { l with monitorSet := .noOutputs wss' }) rfl,
      windowIds_of_noOutputs hset, ← List.append_assoc]
    exact hperm.append_right _
  rows_eq := fun _ => by rw [rows, rows, monitors_of_noOutputs hset]; rfl
  inRange := fun _ _ => ⟨fun _ hm => absurd hm List.not_mem_nil, fun _ _ _ heq => nomatch heq⟩

theorem Sound.kept_rearranged (h : l.Sound) {wss wss' : List (Workspace W Id)} {c r : Prop}
    (hset : l.monitorSet = .noOutputs wss) (hre : List.Forall₂ Workspace.Rearranged wss wss') :
    Kept c r [] l { l with monitorSet := .noOutputs wss' } := by
  refine h.kept_detached hset (fun ws hws => ?_)
    (Monitor.perm_of_forall₂ (hre.imp fun _ _ h => h.perm))
  obtain ⟨_, -, hre⟩ := exists_of_forall₂ hre hws
  exact hre.wellFormed

/-! ### Operations of monitors -/

section OfMonitors

variable {g c r : Prop} {f : Monitor W Id → Outcome (Monitor W Id)}

theorem onActiveMonitor_kept (h : l.Sound) (hg : g → l.InRange)
    (hf : ∀ m, l.activeMonitor = some m → m.Sound → (l.InRange → m.InRange) →
      Guarded g (f m) (Monitor.Kept c r [] m)) :
    Guarded g (l.onActiveMonitor f) (Kept c r [] l) := by
  unfold onActiveMonitor
  cases hset : l.monitorSet with
  | noOutputs wss => exact guarded_pure.mpr (.refl h)
  | normal ms p a =>
    simp only [guarded_bind, guarded_pure, Vec.guarded_apply]
    have hmonitors := monitors_of_normal hset
    refine ⟨fun m hm => ?_, fun hg' => ((hg hg').indices _ _ _ hset).2⟩
    have hmem : m ∈ l.monitors := hmonitors ▸ List.mem_of_getElem? hm
    have hactive : l.activeMonitor = some m := by
      rw [activeMonitor, hset]
      exact hm
    refine (hf m hactive (h.monitors m hmem) fun hl => hl.monitors m hmem).mono
      fun m' hm' => h.kept_set hset hm hm' fun _ hl => (hl.indices _ _ _ hset).2

theorem mapMonitors_kept (h : l.Sound)
    (hf : ∀ m ∈ l.monitors, m.Sound → (l.InRange → m.InRange) →
      Guarded g (f m) (Monitor.Kept c r [] m)) :
    Guarded g (l.mapMonitors f) (Kept c r [] l) := by
  unfold mapMonitors
  cases hset : l.monitorSet with
  | noOutputs wss => exact guarded_pure.mpr (.refl h)
  | normal ms p a =>
    simp only [guarded_bind, guarded_pure]
    have hmonitors := monitors_of_normal hset
    refine (Vec.guarded_mapM fun m hm => ?_).mono fun ms' hms' =>
      h.kept_forall₂ hset hms' fun _ hl => (hl.indices _ _ _ hset).2
    have hmem : m ∈ l.monitors := hmonitors ▸ hm
    exact hf m hmem (h.monitors m hmem) fun hl => hl.monitors m hmem

theorem onMonitorFor_kept (h : l.Sound) (output : Output)
    (hf : ∀ m ∈ l.monitors, m.output.key = output.key → m.Sound → (l.InRange → m.InRange) →
      Guarded g (f m) (Monitor.Kept c r [] m)) :
    Guarded g (l.onMonitorFor output f) (Kept c r [] l) := by
  unfold onMonitorFor
  cases hset : l.monitorSet with
  | noOutputs wss => exact guarded_pure.mpr (.refl h)
  | normal ms p a =>
    simp only [guarded_bind]
    have hmonitors := monitors_of_normal hset
    refine Vec.guarded_applyFirst (fun _ => guarded_pure.mpr (.refl h)) fun i m hm hkey => ?_
    have hmem : m ∈ l.monitors := hmonitors ▸ List.mem_of_getElem? hm
    refine (hf m hmem (of_decide_eq_true hkey) (h.monitors m hmem) fun hl =>
      hl.monitors m hmem).mono fun m' hm' => guarded_pure.mpr ?_
    exact h.kept_set hset hm hm' fun _ hl => (hl.indices _ _ _ hset).2

end OfMonitors

/-! ### Operations of workspaces -/

end Layout

/-- A workspace keeps its id, its windows and an output. -/
structure Workspace.Kept (s t : Workspace W Id) : Prop where
  wellFormed : t.WellFormed
  perm : t.windowIds.Perm s.windowIds
  id_eq : t.id = s.id
  output : s.output.isSome = true → t.output.isSome = true

theorem Workspace.Rearranged.kept {s t : Workspace W Id} (h : s.Rearranged t) : s.Kept t :=
  ⟨h.wellFormed, h.perm, h.id_eq, h.output⟩

theorem Monitor.Sound.kept_workspace {m : Monitor W Id} (h : m.Sound) {i : ℕ}
    {ws ws' : Workspace W Id} (hws : m.workspaces[i]? = some ws) (hkept : ws.Kept ws')
    {c r : Prop} : Monitor.Kept c r [] m { m with workspaces := m.workspaces.set i ws' } :=
  ((h.replace hws ⟨hkept.wellFormed, hkept.output (h.get hws).2⟩ hkept.id_eq
    (show List.Perm _ ([] ++ _) from hkept.perm)).kept).weaken (fun _ => trivial) fun _ => trivial

namespace Layout

variable {l t : Layout W Id} {g c r : Prop} {f : Workspace W Id → Outcome (Workspace W Id)}

omit [LayoutElement W Id] in
theorem mem_workspaces_of_monitor {m : Monitor W Id} (hm : m ∈ l.monitors) {ws : Workspace W Id}
    (hws : ws ∈ m.workspaces) : ws ∈ l.workspaces :=
  List.mem_append_left _ (List.mem_flatMap.mpr ⟨m, hm, hws⟩)

theorem onActiveWorkspace_kept (h : l.Sound) (hg : g → l.InRange)
    (hf : ∀ ws, l.Concerns none ws → ws.WellFormed → Guarded g (f ws) ws.Kept) :
    Guarded g (l.onActiveWorkspace f) (Kept c r [] l) := by
  refine onActiveMonitor_kept h hg fun m hactive hm hin => ?_
  unfold Monitor.onWorkspace
  simp only [guarded_bind, guarded_pure, Vec.guarded_apply]
  refine ⟨fun ws hws => ?_, fun hg' => (hin (hg hg')).active⟩
  have hconcerns : l.Concerns none ws := by
    rw [Concerns, activeWorkspace, hactive]
    exact hws
  exact (hf ws hconcerns (hm.get hws).1).mono fun ws' hws' => hm.kept_workspace hws hws'

theorem mapWorkspaces_kept (h : l.Sound)
    (hf : ∀ ws ∈ l.workspaces, ws.WellFormed → Guarded g (f ws) ws.Rearranged) :
    Guarded g (l.mapWorkspaces f) (Kept c r [] l) := by
  unfold mapWorkspaces
  cases hset : l.monitorSet with
  | noOutputs wss =>
    have hdetached := detached_of_noOutputs hset
    simp only [guarded_bind, guarded_pure]
    refine (Vec.guarded_mapM fun ws hws => ?_).mono fun wss' hre => h.kept_rearranged hset hre
    have hmem : ws ∈ l.detached := hdetached ▸ hws
    exact hf ws (List.mem_append_right _ hmem) (h.detached ws hmem)
  | normal ms p a =>
    have hmonitors := monitors_of_normal hset
    simp only [mapMonitors, hset, guarded_bind, guarded_pure]
    refine (Vec.guarded_mapM (S := Monitor.Kept c r []) fun m hm => ?_).mono
      fun ms' hms' => h.kept_forall₂ hset hms' fun _ hl => (hl.indices _ _ _ hset).2
    have hmem : m ∈ l.monitors := hmonitors ▸ hm
    have hsound := h.monitors m hmem
    simp only [guarded_bind, guarded_pure]
    refine (Vec.guarded_mapM (S := Workspace.Rearranged) fun ws hws => ?_).mono
      fun wss' hre => ((hsound.steady_forall₂ hre).kept (r := True)).weaken (fun _ => trivial)
        fun _ => trivial
    exact hf ws (mem_workspaces_of_monitor hmem hws) (hsound.workspaces ws hws).1

variable [DecidableEq Id]

omit [DecidableEq Id] in
/-- The first workspace with a property is found if there is one. -/
theorem onFirstWorkspace_kept (h : l.Sound) {p : Workspace W Id → Bool}
    (hf : ∀ ws ∈ l.workspaces, p ws = true → ws.WellFormed → Guarded g (f ws) ws.Kept) :
    Guarded g (l.onFirstWorkspace p f) fun found => (∀ t ∈ found, Kept c r [] l t) ∧
      ((∃ ws ∈ l.workspaces, p ws = true) → found.isSome = true) := by
  unfold onFirstWorkspace
  cases hset : l.monitorSet with
  | noOutputs wss =>
    have hdetached := detached_of_noOutputs hset
    simp only [guarded_bind, guarded_pure]
    refine Vec.guarded_applyFirst (fun hnone => ⟨by simp, ?_⟩) fun i ws hws hp => ?_
    · rintro ⟨ws, hws, hp⟩
      rw [workspaces, monitors_of_noOutputs hset, hdetached] at hws
      simp [hnone ws (by simpa using hws)] at hp
    · have hmem : ws ∈ l.detached := hdetached ▸ List.mem_of_getElem? hws
      refine (hf ws (List.mem_append_right _ hmem) hp (h.detached ws hmem)).mono fun ws' hws' => ?_
      refine ⟨fun t ht => ?_, fun _ => rfl⟩
      cases ht
      exact h.kept_detached hset (Vec.forall_mem_set (hdetached ▸ h.detached) hws'.wellFormed)
        (Vec.flatMap_set_gain hws (show List.Perm _ ([] ++ _) from hws'.perm))
  | normal ms p' a =>
    have hmonitors := monitors_of_normal hset
    simp only [guarded_bind, guarded_pure]
    refine Vec.guarded_applyFirst (fun hnone => ⟨by simp, ?_⟩) fun i m hm hany => ?_
    · rintro ⟨ws, hws, hp⟩
      rw [workspaces, hmonitors, detached_of_normal hset, List.append_nil] at hws
      obtain ⟨m, hm, hws⟩ := List.mem_flatMap.mp hws
      simp [List.any_eq_false.mp (hnone m hm) ws hws] at hp
    · have hmem : m ∈ l.monitors := hmonitors ▸ List.mem_of_getElem? hm
      have hsound := h.monitors m hmem
      simp only [guarded_bind, guarded_pure]
      refine Vec.guarded_applyFirst (fun hnone => ?_) fun j ws hws hp => ?_
      · obtain ⟨ws, hws, hp⟩ := List.any_eq_true.mp hany
        simp [hnone ws hws] at hp
      · refine (hf ws (mem_workspaces_of_monitor hmem (List.mem_of_getElem? hws)) hp
          (hsound.get hws).1).mono fun ws' hws' => ⟨fun t ht => ?_, fun _ => rfl⟩
        cases ht
        exact h.kept_set hset hm (hsound.kept_workspace hws hws') fun _ hl =>
          (hl.indices _ _ _ hset).2

theorem onWorkspaceOf_kept (h : l.Sound) {window : Id}
    (hf : ∀ ws, l.Concerns (some window) ws → ws.WellFormed → Guarded g (f ws) ws.Kept) :
    Guarded g (l.onWorkspaceOf window f) (Kept c r [] l) := by
  unfold onWorkspaceOf
  simp only [guarded_bind, guarded_pure]
  refine (onFirstWorkspace_kept (c := c) (r := r) h fun ws hws hp hwf =>
    hf ws ⟨hws, Workspace.hasWindow_iff.mp hp⟩ hwf).mono fun found hfound => ?_
  cases found with
  | none => exact .refl h
  | some t => exact hfound.1 t rfl

theorem onWindowOrActive_kept (h : l.Sound) {window : Option Id} (hg : g → l.InRange)
    (hthere : g → ∀ w ∈ window, ∃ ws ∈ l.workspaces, w ∈ ws.windowIds)
    (hf : ∀ ws, l.Concerns window ws → ws.WellFormed → Guarded g (f ws) ws.Kept) :
    Guarded g (l.onWindowOrActive window f) (Kept c r [] l) := by
  unfold onWindowOrActive
  cases window with
  | none => exact onActiveWorkspace_kept h hg hf
  | some window =>
    simp only [guarded_bind, guarded_unwrap]
    refine (onFirstWorkspace_kept (c := c) (r := r) h fun ws hws hp hwf =>
      hf ws ⟨hws, Workspace.hasWindow_iff.mp hp⟩ hwf).mono fun found hfound =>
        ⟨hfound.1, fun hg' => hfound.2 ?_⟩
    obtain ⟨ws, hws, hw⟩ := hthere hg' window rfl
    exact ⟨ws, hws, Workspace.hasWindow_iff.mpr hw⟩

end Layout

end Sol
