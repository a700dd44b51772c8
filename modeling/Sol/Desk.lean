import Sol.Transfers

/-!
# Windows between workspaces

Workspaces that windows open in, and are moved between: a window that is moved is
taken out of its workspace, held for a while, and placed in another one.  A held
tile is what an interactive move drags around, and what the moves to other
workspaces and outputs carry over at once.

* `step_all`: an invariant of the workspaces and of what is held, one at a time;
* `Reachable.sound`: the workspaces are well formed, and no window is there twice.
-/

namespace Sol

open Panicking

variable {W Id : Type} [LayoutElement W Id]

/-- What is taken out of a workspace in order to be moved. -/
inductive Held (W : Type)
  | tile (removed : RemovedTile W)
  | column (col : Column W)

namespace Held

def windowId : Held W → Id
  | .tile removed => removed.tile.windowId
  | .column col => col.windowId

/-- What becomes of a tile while it is dragged. -/
inductive Change
  /-- It is over another output. -/
  | configure (viewSize : Size) (scale : ℚ) (options : Options)
  /-- Its window committed. -/
  | update (serial : Option ℕ)
  | refresh (bounds : ISize)
  | toggleFloating
  /-- It is about to be dropped. -/
  | settle (floatingPos : Option Point) (floatingWindowSize : Option ISize)

/-- `Layout::refresh`, of a dragged window. -/
def refreshWindow (win : W) (isFloating : Bool) (bounds : ISize) : W :=
  let win := LayoutElement.setActiveInColumn win true
  let win := LayoutElement.setFloating win isFloating
  let win := LayoutElement.setActivated win true
  let win := LayoutElement.setInteractiveResize win none
  let win := LayoutElement.setBounds win bounds
  LayoutElement.sendPendingConfigure win

/-- A dragged window that is to float gets its floating size back. -/
def toggleFloating (removed : RemovedTile W) : RemovedTile W :=
  let removed := { removed with isFloating := !removed.isFloating }
  if removed.isFloating then
    let win := removed.tile.window
    let size := removed.tile.floatingWindowSize.getD ((LayoutElement.expectedSize win).getD ⟨0, 0⟩)
    let minSize := LayoutElement.minSize win
    let maxSize := LayoutElement.maxSize win
    let size : ISize := ⟨ensureMinMaxSizeMaybeZero size.w minSize.w maxSize.w,
      ensureMinMaxSizeMaybeZero size.h minSize.h maxSize.h⟩
    { removed with
      tile := { removed.tile with window := LayoutElement.requestSizeOnce win size true } }
  else removed

def changeTile (removed : RemovedTile W) : Change → RemovedTile W
  | .configure viewSize scale options =>
    { removed with tile := removed.tile.updateConfig viewSize scale options }
  | .update serial =>
    let window := match serial with
      | some serial => LayoutElement.onCommit removed.tile.window serial
      | none => removed.tile.window
    { removed with tile := { removed.tile with window }.updateWindow }
  | .refresh bounds =>
    { removed with tile := { removed.tile with
        window := refreshWindow removed.tile.window removed.isFloating bounds } }
  | .toggleFloating => toggleFloating removed
  | .settle floatingPos floatingWindowSize =>
    { removed with tile := { removed.tile with floatingPos, floatingWindowSize } }

/-- Columns are not dragged. -/
def change (held : Held W) (how : Change) : Held W :=
  match held with
  | .tile removed => .tile (changeTile removed how)
  | .column col => .column col

theorem windowId_change (held : Held W) (how : Change) :
    (held.change how).windowId = held.windowId := by
  cases held with
  | column col => rfl
  | tile removed =>
    cases how with
    | configure viewSize scale options => rfl
    | settle floatingPos floatingWindowSize => rfl
    | update serial => cases serial <;> simp [change, changeTile, windowId, Tile.windowId,
        Tile.updateWindow]
    | refresh bounds => simp [change, changeTile, windowId, Tile.windowId, refreshWindow]
    | toggleFloating =>
      simp only [change, changeTile, toggleFloating, windowId, Tile.windowId]
      split_ifs <;> simp

end Held

/-- What is taken out of a workspace. -/
inductive Take (Id : Type)
  | tile (id : Id)
  | activeTile
  | activeColumn
  deriving DecidableEq, Repr

/-- How something is placed in a workspace. -/
inductive Place (Id : Type)
  | tile (target : WorkspaceAddWindowTarget Id) (activate : ActivateWindow) (isFloating : Bool)
  | tileInColumn (activate : Bool)
  | column (activate : Bool)
  deriving DecidableEq, Repr

namespace Workspace

variable [DecidableEq Id]

def take (self : Workspace W Id) (clock : Clock) :
    Take Id → Outcome (Option (Held W) × Workspace W Id)
  | .tile id => do
    let (removed, self) ← self.removeTile clock id
    pure (some (.tile removed), self)
  | .activeTile => do
    let (removed, self) ← self.removeActiveTile clock
    pure (removed.map .tile, self)
  | .activeColumn => do
    let (column, self) ← self.removeActiveColumn clock
    pure (column.map .column, self)

/-- Tiles and columns are placed in their own ways. -/
def place (self : Workspace W Id) : Held W → Place Id → Outcome (Workspace W Id)
  | .tile removed, .tile target activate isFloating =>
    self.addTile removed.tile target activate removed.width removed.isFullWidth isFloating
  | .tile removed, .tileInColumn activate => pure (self.addTileToColumn removed.tile activate)
  | .column col, .column activate => pure (self.addColumn col activate)
  | _, _ => throw .unreachableCode

/-- The output is told its new size and scale, and then its workspaces are. -/
def resizeOutput (self : Workspace W Id) (output : Output) : Outcome (Workspace W Id) :=
  { self with output := self.output.map fun _ => output }.updateOutputSize

/-- A window opens. -/
def openWindow (self : Workspace W Id) (window : W) (target : WorkspaceAddWindowTarget Id)
    (activate : ActivateWindow) (width : ColumnWidth) (isFullWidth isFloating : Bool) :
    Outcome (Workspace W Id) :=
  self.addTile (self.makeTile window) target activate width isFullWidth isFloating

theorem take_spec {s : Workspace W Id} (h : s.WellFormed) (clock : Clock) {what : Take Id}
    (hwhat : ∀ id, what = .tile id → id ∈ s.windowIds) : Ensures (s.take clock what) fun r =>
      r = (none, s) ∨ ∃ held, r.1 = some held ∧ Removed s held.windowId r.2 := by
  cases what with
  | tile id =>
    simp only [take, ensures_bind, ensures_pure]
    refine (removeTile_spec h clock (hwhat id rfl)).ensures.mono fun r hr => ?_
    have hid : (Held.tile r.1).windowId = id := hr.1
    exact .inr ⟨.tile r.1, rfl, hid ▸ hr.2⟩
  | activeTile =>
    simp only [take, ensures_bind, ensures_pure]
    refine (removeActiveTile_spec h clock).ensures.mono fun r hr => ?_
    rcases hr with ⟨rfl, -⟩ | ⟨removed, hsome, -, hr⟩
    · exact .inl rfl
    · exact .inr ⟨.tile removed, congrArg (Option.map Held.tile) hsome, hr⟩
  | activeColumn =>
    simp only [take, ensures_bind, ensures_pure]
    refine (removeActiveColumn_spec h clock).ensures.mono fun r hr => ?_
    rcases hr with ⟨rfl, -⟩ | ⟨column, hsome, -, hr⟩
    · exact .inl rfl
    · exact .inr ⟨.column column, congrArg (Option.map Held.column) hsome, hr⟩

theorem place_spec {s : Workspace W Id} (h : s.WellFormed) (held : Held W) {how : Place Id}
    (hhow : ∀ target activate isFloating, how = .tile target activate isFloating →
      ∀ w, target = .nextTo w → w ∈ s.windowIds) :
    Ensures (s.place held how) (Added s held.windowId) := by
  cases held with
  | tile removed =>
    cases how with
    | tile target activate isFloating =>
      exact (addTile_spec h removed.tile (hhow _ _ _ rfl) activate removed.width removed.isFullWidth
        isFloating).ensures.mono fun t ht => ht.1
    | tileInColumn activate => exact ensures_pure.mpr (addTileToColumn_spec h removed.tile activate).1
    | column activate => exact ensures_throw
  | column col =>
    cases how with
    | column activate => exact ensures_pure.mpr (addColumn_spec h col activate).1
    | tile target activate isFloating => exact ensures_throw
    | tileInColumn activate => exact ensures_throw

theorem openWindow_spec {s : Workspace W Id} (h : s.WellFormed) (window : W)
    {target : WorkspaceAddWindowTarget Id} (htarget : ∀ w, target = .nextTo w → w ∈ s.windowIds)
    (activate : ActivateWindow) (width : ColumnWidth) (isFullWidth isFloating : Bool) :
    Ensures (s.openWindow window target activate width isFullWidth isFloating)
      (Added s (LayoutElement.id window)) :=
  (addTile_spec h (s.makeTile window) htarget activate width isFullWidth isFloating).ensures.mono
    fun _ ht => ht.1

omit [DecidableEq Id] in
theorem resizeOutput_reordered {s : Workspace W Id} (h : s.WellFormed) (output : Output) :
    Ensures (s.resizeOutput output) (Reordered s) := by
  unfold resizeOutput updateOutputSize
  simp only [ensures_bind, ensures_unwrap, ensures_pure]
  intro o _
  have hre := h.relabel s.layoutConfig s.scale s.viewSize s.workingArea
    (s.output.map fun _ => output) s.originalOutput (by simp)
  exact (hre.trans (setViewSize_rearranged hre.wellFormed o.scale o.size o.workingArea)).reordered

omit [DecidableEq Id] in
theorem resizeOutput_reviewed {s : Workspace W Id} (h : s.WellFormed) (output : Output) :
    Ensures (s.resizeOutput output)
      (Reviewed s (s.viewFor output.scale output.size output.workingArea)) := by
  unfold resizeOutput updateOutputSize
  simp only [ensures_bind, ensures_unwrap, ensures_pure]
  intro o ho
  obtain ⟨_, _, rfl⟩ := Option.map_eq_some_iff.mp ho
  have hre := h.relabel s.layoutConfig s.scale s.viewSize s.workingArea
    (s.output.map fun _ => output) s.originalOutput (by simp)
  exact (setViewSize_reviewed hre.wellFormed output.scale output.size
    output.workingArea).relabelled rfl rfl rfl

end Workspace

/-- Workspaces, and what is being moved between them. -/
structure Desk (W Id : Type) where
  workspaces : List (Workspace W Id)
  held : List (Held W)

namespace Desk

def windowIds (s : Desk W Id) : List Id :=
  s.workspaces.flatMap (·.windowIds) ++ s.held.map (·.windowId)

/-- The operations on the workspaces, by their indices. -/
inductive Op (W Id : Type)
  | addWorkspace (id : WorkspaceId) (output : Option Output) (config : Option WorkspaceConfig)
    (options : Options)
  | removeWorkspace (i : ℕ)
  | openWindow (i : ℕ) (window : W) (target : WorkspaceAddWindowTarget Id)
    (activate : ActivateWindow) (width : ColumnWidth) (isFullWidth isFloating : Bool)
  | take (i : ℕ) (what : Take Id)
  | place (j i : ℕ) (how : Place Id)
  | change (j : ℕ) (how : Held.Change)
  /-- A window that was taken out is gone. -/
  | close (j : ℕ)
  | operate (i : ℕ) (op : Workspace.Op W Id)
  /-- The output of a workspace has a new size or scale. -/
  | resizeOutput (i : ℕ) (output : Output)

variable [DecidableEq Id] {s : Desk W Id}

/-- A workspace that is made for an output, or without one. -/
def makeWorkspace (id : WorkspaceId) (output : Option Output) (config : Option WorkspaceConfig)
    (options : Options) : Workspace W Id :=
  match output with
  | some output => .newWithConfig id output config options
  | none => .newWithConfigNoOutputs id config options

def step (clock : Clock) (s : Desk W Id) : Op W Id → Outcome (Desk W Id)
  | .addWorkspace id output config options =>
    pure { s with workspaces := s.workspaces ++ [makeWorkspace id output config options] }
  | .removeWorkspace i => do
    let (_, workspaces) ← Vec.remove s.workspaces i
    pure { s with workspaces }
  | .openWindow i window target activate width isFullWidth isFloating => do
    let ws ← Vec.get s.workspaces i
    let ws ← ws.openWindow window target activate width isFullWidth isFloating
    pure { s with workspaces := s.workspaces.set i ws }
  | .take i what => do
    let ws ← Vec.get s.workspaces i
    let (held, ws) ← ws.take clock what
    pure { s with workspaces := s.workspaces.set i ws, held := held.toList ++ s.held }
  | .place j i how => do
    let (held, rest) ← Vec.remove s.held j
    let ws ← Vec.get s.workspaces i
    let ws ← ws.place held how
    pure { s with workspaces := s.workspaces.set i ws, held := rest }
  | .change j how => do
    let held ← Vec.get s.held j
    pure { s with held := s.held.set j (held.change how) }
  | .close j => do
    let (_, held) ← Vec.remove s.held j
    pure { s with held }
  | .operate i op => do
    let ws ← Vec.get s.workspaces i
    let ws ← ws.step clock op
    pure { s with workspaces := s.workspaces.set i ws }
  | .resizeOutput i output => do
    let ws ← Vec.get s.workspaces i
    let ws ← ws.resizeOutput output
    pure { s with workspaces := s.workspaces.set i ws }

/-- The windows of the workspace at an index. -/
def windowIdsAt (s : Desk W Id) (i : ℕ) : List Id :=
  (s.workspaces[i]?.map (·.windowIds)).getD []

/-- A target next to a window needs the window. -/
def targetThere (s : Desk W Id) (i : ℕ) (target : WorkspaceAddWindowTarget Id) : Prop :=
  match target with
  | .nextTo window => window ∈ s.windowIdsAt i
  | _ => True

/-- What the callers see to: a window opens once, the windows that an operation is
about are there, a workspace that goes away is empty, and options have presets. -/
def Op.Admissible (s : Desk W Id) : Op W Id → Prop
  | .addWorkspace _ _ _ options => options.layout.HasPresets
  | .removeWorkspace i => s.windowIdsAt i = []
  | .openWindow i window target _ _ _ _ =>
    LayoutElement.id window ∉ s.windowIds ∧ s.targetThere i target
  | .take i (.tile id) => id ∈ s.windowIdsAt i
  | .take _ _ => True
  | .place _ i (.tile target _ _) => s.targetThere i target
  | .place _ _ _ => True
  | .change _ _ => True
  | .close _ => True
  | .operate i op => op.IsOwn = true ∧ ∀ ws ∈ s.workspaces[i]?, op.Admissible ws
  | .resizeOutput i output => ∀ ws ∈ s.workspaces[i]?, ws.output.map (·.key) = some output.key

instance (i : ℕ) (target : WorkspaceAddWindowTarget Id) : Decidable (s.targetThere i target) := by
  unfold targetThere
  split <;> infer_instance

instance : (op : Op W Id) → Decidable (op.Admissible s)
  | .addWorkspace _ _ _ options => inferInstanceAs (Decidable options.layout.HasPresets)
  | .removeWorkspace i => inferInstanceAs (Decidable (s.windowIdsAt i = []))
  | .openWindow i window target _ _ _ _ =>
    inferInstanceAs (Decidable (LayoutElement.id window ∉ s.windowIds ∧ s.targetThere i target))
  | .take i (.tile id) => inferInstanceAs (Decidable (id ∈ s.windowIdsAt i))
  | .take _ .activeTile => .isTrue trivial
  | .take _ .activeColumn => .isTrue trivial
  | .place _ i (.tile target _ _) => inferInstanceAs (Decidable (s.targetThere i target))
  | .place _ _ (.tileInColumn _) => .isTrue trivial
  | .place _ _ (.column _) => .isTrue trivial
  | .change _ _ => .isTrue trivial
  | .close _ => .isTrue trivial
  | .operate i op =>
    inferInstanceAs (Decidable (op.IsOwn = true ∧ ∀ ws ∈ s.workspaces[i]?, op.Admissible ws))
  | .resizeOutput i output =>
    inferInstanceAs (Decidable (∀ ws ∈ s.workspaces[i]?, ws.output.map (·.key) = some output.key))

/-- The workspaces as a machine; an action is an operation and its time. -/
def machine (W Id : Type) [LayoutElement W Id] [DecidableEq Id] :
    Machine (Desk W Id) (Clock × Op W Id) where
  initial s := s = ⟨[], []⟩
  step s a := s.step a.1 a.2

/-- What runs of operations lead to. -/
def Reachable (s : Desk W Id) : Prop :=
  (machine W Id).ReachableBy (fun s a => a.2.Admissible s) s

/-! ### One workspace at a time -/

/-- Something holds of every workspace, and of everything that is held. -/
structure All (P : Workspace W Id → Prop) (Q : Held W → Prop) (s : Desk W Id) : Prop where
  workspaces : ∀ ws ∈ s.workspaces, P ws
  held : ∀ h ∈ s.held, Q h

/-- An operation keeps `P` and `Q` where it is at work. -/
def Op.Keeps (P : Workspace W Id → Prop) (Q : Held W → Prop) (s : Desk W Id) (clock : Clock) :
    Op W Id → Prop
  | .addWorkspace id output config options => P (makeWorkspace id output config options)
  | .removeWorkspace _ => True
  | .openWindow i window target activate width isFullWidth isFloating =>
    ∀ ws, s.workspaces[i]? = some ws →
      Ensures (ws.openWindow window target activate width isFullWidth isFloating) P
  | .take i what => ∀ ws, s.workspaces[i]? = some ws →
    Ensures (ws.take clock what) fun r => (∀ h ∈ r.1, Q h) ∧ P r.2
  | .place j i how => ∀ h, s.held[j]? = some h → ∀ ws, s.workspaces[i]? = some ws →
    Ensures (ws.place h how) P
  | .change j how => ∀ h, s.held[j]? = some h → Q (h.change how)
  | .close _ => True
  | .operate i op => ∀ ws, s.workspaces[i]? = some ws → Ensures (ws.step clock op) P
  | .resizeOutput i output => ∀ ws, s.workspaces[i]? = some ws → Ensures (ws.resizeOutput output) P

theorem step_all {P : Workspace W Id → Prop} {Q : Held W → Prop} (h : All P Q s) {clock : Clock}
    {op : Op W Id} (hop : op.Keeps P Q s clock) : Ensures (s.step clock op) (All P Q) := by
  have hset : ∀ i ws, P ws → ∀ ws' ∈ s.workspaces.set i ws, P ws' :=
    fun i ws hws => Vec.forall_mem_set h.workspaces hws
  have hrest : ∀ j, ∀ x ∈ s.held.eraseIdx j, Q x :=
    fun j x hx => h.held x (List.mem_of_mem_eraseIdx hx)
  cases op with
  | addWorkspace id output config options =>
    refine ensures_pure.mpr ⟨fun ws hws => ?_, h.held⟩
    rcases List.mem_append.mp hws with hws | hws
    · exact h.workspaces ws hws
    · exact List.mem_singleton.mp hws ▸ hop
  | removeWorkspace i =>
    simp only [step, ensures_bind, Vec.ensures_remove, ensures_pure]
    exact fun _ _ => ⟨fun ws hws => h.workspaces ws (List.mem_of_mem_eraseIdx hws), h.held⟩
  | openWindow i window target activate width isFullWidth isFloating =>
    simp only [step, ensures_bind, Vec.ensures_get, ensures_pure]
    exact fun ws hws => (hop ws hws).mono fun ws' hws' => ⟨hset i ws' hws', h.held⟩
  | take i what =>
    simp only [step, ensures_bind, Vec.ensures_get, ensures_pure]
    refine fun ws hws => (hop ws hws).mono fun r hr => ⟨hset i r.2 hr.2, fun x hx => ?_⟩
    rcases List.mem_append.mp hx with hx | hx
    · exact hr.1 x (Option.mem_toList.mp hx)
    · exact h.held x hx
  | place j i how =>
    simp only [step, ensures_bind, Vec.ensures_remove, Vec.ensures_get, ensures_pure]
    exact fun x hx ws hws => (hop x hx ws hws).mono fun ws' hws' => ⟨hset i ws' hws', hrest j⟩
  | change j how =>
    simp only [step, ensures_bind, Vec.ensures_get, ensures_pure]
    exact fun x hx => ⟨h.workspaces, Vec.forall_mem_set h.held (hop x hx)⟩
  | close j =>
    simp only [step, ensures_bind, Vec.ensures_remove, ensures_pure]
    exact fun _ _ => ⟨h.workspaces, hrest j⟩
  | operate i op =>
    simp only [step, ensures_bind, Vec.ensures_get, ensures_pure]
    exact fun ws hws => (hop ws hws).mono fun ws' hws' => ⟨hset i ws' hws', h.held⟩
  | resizeOutput i output =>
    simp only [step, ensures_bind, Vec.ensures_get, ensures_pure]
    exact fun ws hws => (hop ws hws).mono fun ws' hws' => ⟨hset i ws' hws', h.held⟩

/-! ### Every window once -/

/-- The workspaces are well formed, and no window is there twice. -/
structure Sound (s : Desk W Id) : Prop where
  wellFormed : ∀ ws ∈ s.workspaces, ws.WellFormed
  nodup : s.windowIds.Nodup

omit [DecidableEq Id] in
theorem windowIdsAt_eq {i : ℕ} {ws : Workspace W Id} (hws : s.workspaces[i]? = some ws) :
    s.windowIdsAt i = ws.windowIds := by simp [windowIdsAt, hws]

omit [DecidableEq Id] in
theorem targetThere_spec {i : ℕ} {ws : Workspace W Id} (hws : s.workspaces[i]? = some ws)
    {target : WorkspaceAddWindowTarget Id} (h : s.targetThere i target) :
    ∀ w, target = .nextTo w → w ∈ ws.windowIds := by
  rintro w rfl
  exact windowIdsAt_eq hws ▸ h

/-- What a replaced workspace contributes to the windows. -/
theorem count_set {i : ℕ} {ws : Workspace W Id} (hws : s.workspaces[i]? = some ws)
    (ws' : Workspace W Id) (held : List (Held W)) (a : Id) :
    ws.windowIds.count a + (Desk.mk (s.workspaces.set i ws') held).windowIds.count a +
        (s.held.map (·.windowId)).count a =
      ws'.windowIds.count a + s.windowIds.count a + (held.map (·.windowId)).count a := by
  have hset := (Vec.flatMap_set_perm (·.windowIds) (b := ws') hws).count_eq a
  simp only [List.count_append] at hset
  simp only [windowIds, List.count_append]
  omega

theorem count_eraseIdx {j : ℕ} {h : Held W} (hh : s.held[j]? = some h) (a : Id) :
    (s.held.map (·.windowId)).count a =
      ((s.held.eraseIdx j).map (·.windowId)).count a + if h.windowId = a then 1 else 0 := by
  obtain ⟨hlt, rfl⟩ := List.getElem?_eq_some_iff.mp hh
  have hperm := ((List.getElem_cons_eraseIdx_perm hlt).map (·.windowId)).count_eq a
  rw [← hperm, List.map_cons, List.count_cons]
  simp

theorem count_added {s t : Workspace W Id} {window : Id} (h : Workspace.Added s window t) (a : Id) :
    t.windowIds.count a = s.windowIds.count a + if window = a then 1 else 0 := by
  rw [h.perm.count_eq, List.count_cons]
  simp

omit [DecidableEq Id] in
theorem makeWorkspace_wellFormed (id : WorkspaceId) (output : Option Output)
    (config : Option WorkspaceConfig) {options : Options} (h : options.layout.HasPresets) :
    (makeWorkspace id output config options : Workspace W Id).WellFormed := by
  cases output with
  | some output => exact Workspace.wellFormed_newWithConfig id output config h
  | none => exact Workspace.wellFormed_newWithConfigNoOutputs id config h

omit [DecidableEq Id] in
theorem windowIds_makeWorkspace (id : WorkspaceId) (output : Option Output)
    (config : Option WorkspaceConfig) (options : Options) :
    (makeWorkspace id output config options : Workspace W Id).windowIds = [] := by
  cases output <;> rfl

omit [DecidableEq Id] in
theorem take_there {i : ℕ} {ws : Workspace W Id} (hws : s.workspaces[i]? = some ws) {what : Take Id}
    (hop : (Op.take (W := W) i what).Admissible s) : ∀ id, what = .tile id → id ∈ ws.windowIds := by
  rintro id rfl
  exact windowIdsAt_eq hws ▸ hop

omit [DecidableEq Id] in
theorem place_there {j i : ℕ} {ws : Workspace W Id} (hws : s.workspaces[i]? = some ws)
    {how : Place Id} (hop : (Op.place (W := W) j i how).Admissible s) :
    ∀ target activate isFloating, how = .tile target activate isFloating →
      ∀ w, target = .nextTo w → w ∈ ws.windowIds := by
  rintro target activate isFloating rfl
  exact targetThere_spec hws hop

theorem keeps_wellFormed (h : Sound s) (clock : Clock) {op : Op W Id} (hop : op.Admissible s) :
    op.Keeps Workspace.WellFormed (fun _ => True) s clock := by
  have hwf : ∀ {i : ℕ} {ws : Workspace W Id}, s.workspaces[i]? = some ws → ws.WellFormed :=
    fun hws => h.wellFormed _ (List.mem_of_getElem? hws)
  cases op with
  | addWorkspace id output config options => exact makeWorkspace_wellFormed id output config hop
  | removeWorkspace i => trivial
  | openWindow i window target activate width isFullWidth isFloating =>
    exact fun ws hws => (Workspace.openWindow_spec (hwf hws) window (targetThere_spec hws hop.2)
      activate width isFullWidth isFloating).mono fun ws' h' => h'.wellFormed
  | take i what =>
    refine fun ws hws => (Workspace.take_spec (hwf hws) clock (take_there hws hop)).mono
      fun r hr => ⟨fun _ _ => trivial, ?_⟩
    rcases hr with rfl | ⟨held, -, hr⟩
    · exact hwf hws
    · exact hr.wellFormed
  | place j i how =>
    exact fun held _ ws hws => (Workspace.place_spec (hwf hws) held (place_there hws hop)).mono
      fun ws' h' => h'.wellFormed
  | change j how => exact fun _ _ => trivial
  | close j => trivial
  | operate i op =>
    exact fun ws hws => (Workspace.step_reordered (hwf hws) clock (hop.2 ws hws) hop.1).ensures.mono
      fun ws' h' => h'.wellFormed
  | resizeOutput i output =>
    exact fun ws hws => (Workspace.resizeOutput_reordered (hwf hws) output).mono
      fun ws' h' => h'.wellFormed

theorem step_nodup (h : Sound s) (clock : Clock) {op : Op W Id} (hop : op.Admissible s) :
    Ensures (s.step clock op) fun t => t.windowIds.Nodup := by
  have hwf : ∀ {i : ℕ} {ws : Workspace W Id}, s.workspaces[i]? = some ws → ws.WellFormed :=
    fun hws => h.wellFormed _ (List.mem_of_getElem? hws)
  have hcount := List.nodup_iff_count_le_one.mp h.nodup
  simp only [List.nodup_iff_count_le_one]
  cases op with
  | addWorkspace id output config options =>
    refine ensures_pure.mpr fun a => ?_
    simpa [windowIds, windowIds_makeWorkspace] using hcount a
  | removeWorkspace i =>
    simp only [step, ensures_bind, Vec.ensures_remove, ensures_pure]
    refine fun ws hws a => le_trans (List.Sublist.count_le a ?_) (hcount a)
    exact ((List.eraseIdx_sublist _ _).flatMap _).append_right _
  | openWindow i window target activate width isFullWidth isFloating =>
    simp only [step, ensures_bind, Vec.ensures_get, ensures_pure]
    refine fun ws hws => (Workspace.openWindow_spec (hwf hws) window (targetThere_spec hws hop.2)
      activate width isFullWidth isFloating).mono fun ws' h' a => ?_
    have hset := count_set hws ws' s.held a
    have hadded := count_added h' a
    have hle := hcount a
    by_cases ha : LayoutElement.id window = a
    · have hnew : s.windowIds.count a = 0 := List.count_eq_zero.mpr (ha ▸ hop.1)
      rw [if_pos ha] at hadded
      omega
    · rw [if_neg ha] at hadded
      omega
  | take i what =>
    simp only [step, ensures_bind, Vec.ensures_get, ensures_pure]
    refine fun ws hws => (Workspace.take_spec (hwf hws) clock (take_there hws hop)).mono
      fun r hr a => ?_
    have hset := count_set hws r.2 (r.1.toList ++ s.held) a
    have hle := hcount a
    rcases hr with rfl | ⟨held, hsome, hr⟩
    · simp only [Option.toList_none, List.nil_append] at hset ⊢
      omega
    · have hperm := hr.perm.count_eq a
      simp only [hsome, Option.toList_some, List.singleton_append, List.map_cons,
        List.count_cons] at hset hperm ⊢
      omega
  | place j i how =>
    simp only [step, ensures_bind, Vec.ensures_remove, Vec.ensures_get, ensures_pure]
    refine fun held hheld ws hws => (Workspace.place_spec (hwf hws) held
      (place_there hws hop)).mono fun ws' h' a => ?_
    have hset := count_set hws ws' (s.held.eraseIdx j) a
    have hadded := count_added h' a
    have hrest := count_eraseIdx hheld a
    have hle := hcount a
    omega
  | change j how =>
    simp only [step, ensures_bind, Vec.ensures_get, ensures_pure]
    intro held hheld a
    have hmap : (s.held.set j (held.change how)).map (·.windowId) = s.held.map (·.windowId) :=
      Vec.map_set_eq hheld (Held.windowId_change held how)
    simpa only [windowIds, hmap] using hcount a
  | close j =>
    simp only [step, ensures_bind, Vec.ensures_remove, ensures_pure]
    refine fun _ _ a => le_trans (List.Sublist.count_le a ?_) (hcount a)
    exact ((List.eraseIdx_sublist _ _).map _).append_left _
  | operate i op =>
    simp only [step, ensures_bind, Vec.ensures_get, ensures_pure]
    refine fun ws hws => (Workspace.step_reordered (hwf hws) clock (hop.2 ws hws)
      hop.1).ensures.mono fun ws' h' a => ?_
    have hset := count_set hws ws' s.held a
    have hperm := h'.perm.count_eq a
    have hle := hcount a
    omega
  | resizeOutput i output =>
    simp only [step, ensures_bind, Vec.ensures_get, ensures_pure]
    refine fun ws hws => (Workspace.resizeOutput_reordered (hwf hws) output).mono
      fun ws' h' a => ?_
    have hset := count_set hws ws' s.held a
    have hperm := h'.perm.count_eq a
    have hle := hcount a
    omega

theorem step_sound (h : Sound s) (clock : Clock) {op : Op W Id} (hop : op.Admissible s) :
    Ensures (s.step clock op) Sound := by
  have hall : All Workspace.WellFormed (fun _ => True) s := ⟨h.wellFormed, fun _ _ => trivial⟩
  exact ((step_all hall (keeps_wellFormed h clock hop)).and (step_nodup h clock hop)).mono
    fun t ht => ⟨ht.1.workspaces, ht.2⟩

omit [DecidableEq Id] in
theorem sound_empty : Sound (⟨[], []⟩ : Desk W Id) :=
  ⟨by simp, by simp [windowIds]⟩

theorem Reachable.sound (h : Reachable s) : Sound s := by
  refine Machine.ReachableBy.invariant h ?_ ?_
  · rintro _ rfl
    exact sound_empty
  · intro s a hs ha
    have hop : a.2.Admissible s := ha
    exact step_sound hs a.1 hop

/-- The runs from given workspaces. -/
def machineFrom (s₀ : Desk W Id) : Machine (Desk W Id) (Clock × Op W Id) where
  initial s := s = s₀
  step s a := s.step a.1 a.2

/-- An invariant of the workspaces and of what is held, which the operations of a run
keep. -/
theorem all_from {s₀ : Desk W Id} {P : Workspace W Id → Prop} {Q : Held W → Prop}
    (hsound : Sound s₀) (hall : All P Q s₀) {allowed : Desk W Id → Clock × Op W Id → Prop}
    (hallowed : ∀ s a, allowed s a → a.2.Admissible s)
    (h : (machineFrom s₀).ReachableBy allowed s)
    (hstep : ∀ s a, Sound s → All P Q s → allowed s a → a.2.Keeps P Q s a.1) :
    Sound s ∧ All P Q s := by
  refine Machine.ReachableBy.invariant (P := fun s => Sound s ∧ All P Q s) h ?_ ?_
  · rintro _ rfl
    exact ⟨hsound, hall⟩
  · intro s a hs ha
    have hop : a.2.Admissible s := hallowed s a ha
    exact (step_sound hs.1 a.1 hop).and (step_all hs.2 (hstep s a hs.1 hs.2 ha))

theorem all_of_reachableBy {allowed : Desk W Id → Clock × Op W Id → Prop}
    (hallowed : ∀ s a, allowed s a → a.2.Admissible s) (h : (machine W Id).ReachableBy allowed s)
    {P : Workspace W Id → Prop} {Q : Held W → Prop}
    (hstep : ∀ s a, Sound s → All P Q s → allowed s a → a.2.Keeps P Q s a.1) : All P Q s :=
  (all_from sound_empty ⟨by simp, by simp⟩ hallowed
    (show (machineFrom ⟨[], []⟩).ReachableBy allowed s from h) hstep).2

end Desk

end Sol
