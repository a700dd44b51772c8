import Sol.Desk

/-!
# The mode of a window, recorded twice

The mode that a window is pending for is kept in the window and in the flags of
its column.  The two agree while windows are opened, moved within and between
workspaces, made to float, and asked to take over.

* `keeps_agrees`: what each operation does to the two records;
* `reachable_pendingSizingMode`: they agree in every reachable state.
-/

namespace Sol

open Panicking Column

variable {W Id : Type} [LayoutElement W Id]

/-- Floating windows that take over nothing. -/
theorem FloatingSpace.Steady.isNormal [PendsLastMode W] {s t : FloatingSpace W Id}
    (h : FloatingSpace.Steady s t)
    (hs : ∀ a ∈ s.tiles, LayoutElement.pendingSizingMode a.window = .normal) :
    ∀ b ∈ t.tiles, LayoutElement.pendingSizingMode b.window = .normal := by
  intro b hb
  obtain ⟨a, ha, hab⟩ := h.tiles b hb
  exact hab.isNormal (hs a ha)

namespace Workspace

variable {s t : Workspace W Id}

/-- The flags of every column agree with its window, and floating windows take over
nothing. -/
structure Agrees (s : Workspace W Id) : Prop where
  columns : ∀ c ∈ s.scrolling.columns, c.Agrees
  tiles : ∀ a ∈ s.floating.tiles, LayoutElement.pendingSizingMode a.window = .normal

variable [PendsLastMode W]

theorem Steady.agrees (h : Steady s t) (hs : s.Agrees) : t.Agrees := by
  refine ⟨fun d hd => ?_, h.floating.isNormal hs.tiles⟩
  obtain ⟨c, hc, hcd⟩ := h.scrolling.columns d hd
  exact (hs.columns c hc).steady hcd

/-- The column that an addition leaves in the place of another one takes over nothing. -/
theorem agrees_superseded {area : Size} {c d : Column W}
    (h : ScrollingSpace.Superseded area c d) : d.Agrees := by
  obtain ⟨size, rfl⟩ := h
  refine agrees_fillSlot (fun htakes => ?_) size
  rw [takesOver_endTakeover] at htakes
  cases htakes

theorem agrees_admitted {a : ScrollingSpace W} {column d : Column W} (hcol : column.Agrees)
    (h : a.Admitted column d) : d.Agrees := by
  obtain ⟨size, rfl⟩ := h
  exact agrees_fillSlot (fun _ => agrees_updateConfig hcol _ _ _ _ _) size

theorem TileAdded.agrees {a b : ScrollingSpace W} {tile : Tile W} (h : TileAdded a b tile) :
    ∀ c ∈ b.columns, c.Agrees := by
  obtain ⟨-, width, isFullWidth, hcols⟩ := h
  intro d hd
  rcases hcols d hd with hadmitted | ⟨c, -, hsuperseded⟩
  · exact agrees_admitted (agrees_newWithTile _ _ _ _ _ _ _) hadmitted
  · exact agrees_superseded hsuperseded

theorem ColumnAdded.agrees {column : Column W} (hs : s.Agrees) (hcol : column.Agrees)
    (h : ColumnAdded s column t) : t.Agrees := by
  refine ⟨fun d hd => ?_, h.floating_eq ▸ hs.tiles⟩
  rcases h.columns d hd with hadmitted | ⟨c, -, hsuperseded⟩
  · exact agrees_admitted hcol hadmitted
  · exact agrees_superseded hsuperseded

theorem Reconfigured.agrees {view : Size × Rect} (hs : s.Agrees) (h : Reconfigured s view t) :
    t.Agrees := by
  refine ⟨fun d hd => ?_, fun b hb => ?_⟩
  · obtain ⟨c, hc, parentArea, scale, options, size, rfl⟩ := h.columns d hd
    exact agrees_fillSlot (fun _ => agrees_updateConfig (hs.columns c hc) _ _ _ _ _) size
  · obtain ⟨a, ha, scale, options, rfl⟩ := h.tiles b hb
    exact hs.tiles a ha

theorem Reviewed.agrees {view : Size × Rect} (hs : s.Agrees) (h : Reviewed s view t) :
    t.Agrees := by
  rcases h with h | ⟨h, -⟩
  · exact h.agrees hs
  · exact h.agrees hs

theorem Tiled.agrees {tile : Tile W} (hs : s.Agrees) (h : Tiled s tile t) : t.Agrees :=
  ⟨h.added.agrees, h.floating_eq ▸ hs.tiles⟩

/-- A tile that is added to the floating space is asked for a size. -/
theorem isNormal_floatingTile {a : FloatingSpace W Id} {tile b : Tile W}
    (h : FloatingTile a tile b) : LayoutElement.pendingSizingMode b.window = .normal := by
  obtain ⟨tile', size, -, rfl⟩ := h
  exact PendsLastMode.requestSizeOnce _ _ _

theorem Received.agrees {tile : Tile W} {target : WorkspaceAddWindowTarget Id} {isFloating : Bool}
    (hs : s.Agrees) (h : Received s tile target isFloating t) : t.Agrees := by
  unfold Received at h
  split_ifs at h
  · refine ⟨h.scrolling_eq ▸ hs.columns, fun b hb => ?_⟩
    exact (h.tiles b hb).elim (hs.tiles b) isNormal_floatingTile
  · exact h.agrees hs

/-- A request leaves a column that agrees, also the end of a takeover. -/
theorem agrees_requested {a : ScrollingSpace W} {window : Id} {kind : Takeover} {value : Bool}
    {area : Size} {c d : Column W} (hc : c.Agrees)
    (h : a.Requested window (ask kind value area) value c d) : d.Agrees := by
  obtain ⟨e, he, hd⟩ := h
  cases value with
  | true =>
    obtain rfl : d = e := by simpa using hd
    rcases he with ⟨-, rfl⟩ | ⟨rfl, -⟩
    · exact agrees_ask hc kind area
    · exact hc
  | false =>
    obtain ⟨size, rfl⟩ : ∃ size, d = e.fillSlot size := by simpa using hd
    refine agrees_fillSlot (fun htakes => ?_) size
    rcases he with ⟨-, rfl⟩ | ⟨rfl, -⟩
    · exact agrees_of_ask hc htakes
    · exact hc

variable [DecidableEq Id]

theorem TookOver.agrees {window : Id} {kind : Takeover} {value restoreToFloating : Bool}
    {area : Size} (hs : s.Agrees)
    (h : TookOver s window (ask kind value area) value restoreToFloating t) : t.Agrees := by
  refine ⟨fun d hd => ?_, h.floating_eq ▸ hs.tiles⟩
  obtain ⟨c, hc, e, hce, hde, -⟩ := h.columns d hd
  have he := agrees_requested (hs.columns c hc) hce
  rcases hde with rfl | rfl
  · exact he
  · exact ⟨he.mode_eq, he.one⟩

theorem Toggled.agrees {window : Id} (hs : s.Agrees) (h : Toggled s window t) : t.Agrees := by
  obtain ⟨u, hu, hut, -⟩ := h
  refine hut.agrees ?_
  split_ifs at hu
  · obtain ⟨-, -, -, tile, -, hadded⟩ := hu.tiled
    exact ⟨hadded.agrees, hu.floating.isNormal hs.tiles⟩
  · refine ⟨fun d hd => ?_, fun b hb => ?_⟩
    · obtain ⟨c, hc, hcd⟩ := hu.columns.columns d hd
      exact (hs.columns c hc).steady hcd.steady
    · obtain ⟨c, -, -, htiles⟩ := hu.tiles
      exact (htiles b hb).elim (hs.tiles b) isNormal_floatingTile

theorem Asked.agrees {window : Id} {kind : Takeover} {value : Bool} (hs : s.Agrees)
    (h : Asked s window kind value t) : t.Agrees := by
  cases h with
  | ignored _ _ ht => exact ht ▸ hs
  | began _ _ hu _ _ ht => exact ht.agrees (hu.agrees hs)
  | asked _ ht _ => exact ht.agrees hs
  | restored _ _ ht _ => exact ht.agrees hs

theorem Effect.agrees {op : Op W Id} (hs : s.Agrees) (h : Effect s op t) : t.Agrees := by
  cases h with
  | steady h => exact h.agrees hs
  | toggled _ h => exact h.agrees hs
  | asked _ h => exact h.agrees hs
  | reviewed _ h => exact h.agrees hs

theorem take_agrees (hwf : s.WellFormed) (hs : s.Agrees) (clock : Clock) (what : Take Id) :
    Ensures (s.take clock what) fun r =>
      (∀ column, r.1 = some (.column column) → column.Agrees) ∧ r.2.Agrees := by
  cases what with
  | tile id =>
    simp only [take, ensures_bind, ensures_pure]
    refine (removeTile_taken hwf clock id).mono fun r hr => ⟨?_, hr.steady.agrees hs⟩
    rintro column ⟨⟩
  | activeTile =>
    simp only [take, ensures_bind, ensures_pure]
    refine (removeActiveTile_taken hwf clock).mono fun r hr => ?_
    rcases hr with rfl | ⟨id, removed, hsome, hr⟩
    · exact ⟨fun column h => (by cases h), hs⟩
    · refine ⟨fun column h => ?_, hr.steady.agrees hs⟩
      rw [hsome] at h
      cases h
  | activeColumn =>
    simp only [take, ensures_bind, ensures_pure]
    refine (removeActiveColumn_taken hwf clock).mono fun r hr => ?_
    rcases hr with rfl | ⟨c, hc, hsome, hr⟩
    · exact ⟨fun column h => (by cases h), hs⟩
    · refine ⟨fun column h => ?_, hr.agrees hs⟩
      rw [hsome] at h
      cases h
      exact hs.columns _ hc

theorem place_agrees (hwf : s.WellFormed) (hs : s.Agrees) {held : Held W}
    (hheld : ∀ column, held = .column column → column.Agrees) (how : Place Id) :
    Ensures (s.place held how) Agrees := by
  cases held with
  | tile removed =>
    cases how with
    | tile target activate isFloating =>
      exact (addTile_received hwf removed.tile target activate removed.width removed.isFullWidth
        isFloating).mono fun t ht => ht.agrees hs
    | tileInColumn activate =>
      exact ensures_pure.mpr ((addTileToColumn_tiled hwf removed.tile activate).agrees hs)
    | column activate => exact ensures_throw
  | column col =>
    cases how with
    | column activate =>
      exact ensures_pure.mpr ((addColumn_columnAdded hwf col activate).agrees hs (hheld col rfl))
    | tile target activate isFloating => exact ensures_throw
    | tileInColumn activate => exact ensures_throw

end Workspace

namespace Desk

variable [DecidableEq Id] {s : Desk W Id}

/-- A held column agrees with its window. -/
def HeldAgrees (held : Held W) : Prop := ∀ column, held = .column column → column.Agrees

omit [DecidableEq Id] in
theorem change_column {held : Held W} {how : Held.Change} {column : Column W}
    (h : held.change how = .column column) : held = .column column := by
  cases held with
  | tile removed => cases h
  | column col => exact h

variable [PendsLastMode W]

theorem keeps_agrees (h : Sound s) (hall : All Workspace.Agrees HeldAgrees s) (clock : Clock)
    {op : Op W Id} (hop : op.Admissible s) : op.Keeps Workspace.Agrees HeldAgrees s clock := by
  have hwf : ∀ {i : ℕ} {ws : Workspace W Id}, s.workspaces[i]? = some ws → ws.WellFormed :=
    fun hws => h.wellFormed _ (List.mem_of_getElem? hws)
  have hagrees : ∀ {i : ℕ} {ws : Workspace W Id}, s.workspaces[i]? = some ws → ws.Agrees :=
    fun hws => hall.workspaces _ (List.mem_of_getElem? hws)
  cases op with
  | addWorkspace id output config options =>
    -- a new workspace has no windows
    refine ⟨fun c hc => ?_, fun a ha => ?_⟩
    · cases output <;> cases hc
    · cases output <;> cases ha
  | removeWorkspace i => trivial
  | openWindow i window target activate width isFullWidth isFloating =>
    exact fun ws hws => (Workspace.addTile_received (hwf hws) (ws.makeTile window) target activate
      width isFullWidth isFloating).mono fun t ht => ht.agrees (hagrees hws)
  | take i what =>
    refine fun ws hws => (Workspace.take_agrees (hwf hws) (hagrees hws) clock what).mono
      fun r hr => ⟨?_, hr.2⟩
    rintro held hheld column rfl
    exact hr.1 column hheld
  | place j i how =>
    exact fun held hheld ws hws => Workspace.place_agrees (hwf hws) (hagrees hws)
      (hall.held held (List.mem_of_getElem? hheld)) how
  | change j how =>
    exact fun held hheld column hcol =>
      hall.held held (List.mem_of_getElem? hheld) column (change_column hcol)
  | close j => trivial
  | operate i op =>
    exact fun ws hws => (Workspace.step_effect (hwf hws) clock hop.1).mono
      fun t ht => ht.agrees (hagrees hws)
  | resizeOutput i output =>
    exact fun ws hws => (Workspace.resizeOutput_reviewed (hwf hws) output).mono
      fun t ht => ht.agrees (hagrees hws)

/-- **The two records of a mode.**  In every reachable workspace, and of every column
that is being moved, the flags of a column say what its window is pending for. -/
theorem reachable_pendingSizingMode (h : Reachable s) :
    (∀ ws ∈ s.workspaces, ∀ c ∈ ws.scrolling.columns,
      c.pendingSizingMode = LayoutElement.pendingSizingMode c.tile.window) ∧
      ∀ c : Column W, .column c ∈ s.held →
        c.pendingSizingMode = LayoutElement.pendingSizingMode c.tile.window := by
  have hall : All Workspace.Agrees HeldAgrees s :=
    all_of_reachableBy (fun _ _ ha => ha) h fun s a hs hall ha => keeps_agrees hs hall a.1 ha
  exact ⟨fun ws hws c hc => ((hall.workspaces ws hws).columns c hc).mode_eq,
    fun c hc => (hall.held _ hc c rfl).mode_eq⟩

/-- A floating window goes fullscreen, and its column moves to the workspace of another
output, next to a window that opened there. -/
theorem reachable_pendingSizingMode_two : ∃ ws : Workspace Sample.Toplevel ℕ,
    ws.windowIds = [2, 1] ∧ ∃ c ∈ ws.scrolling.columns, c.isPendingFullscreen = true ∧
      LayoutElement.pendingSizingMode c.tile.window = .fullscreen := by
  obtain ⟨s, hs, hp⟩ := Machine.exists_reachableBy (M := machine Sample.Toplevel ℕ)
    (p := fun s => s.workspaces.any fun ws => decide (ws.windowIds = [2, 1] ∧
      ws.scrolling.columns.any (fun c => c.pendingSizingMode == .fullscreen) = true))
    [(Sample.clock, .addWorkspace 1 (some (Sample.output 1)) none Sample.options),
      (Sample.clock, .addWorkspace 2 (some (Sample.output 2)) none Sample.options),
      (Sample.clock, .openWindow 0 (Sample.toplevel 1) .auto .yes (.proportion (1 / 2)) false true),
      (Sample.clock, .openWindow 1 (Sample.toplevel 2) .auto .yes (.proportion (1 / 2)) false false),
      (Sample.clock, .operate 0 (.setFullscreen 1 true)),
      (Sample.clock, .take 0 .activeColumn),
      (Sample.clock, .place 0 1 (.column true))]
    (show (machine Sample.Toplevel ℕ).initial ⟨[], []⟩ from rfl)
    (show ((machine Sample.Toplevel ℕ).run (fun s a => a.2.Admissible s) _ _).any _ = true by
      decide +kernel)
  obtain ⟨ws, hws, hp⟩ := List.any_eq_true.mp hp
  obtain ⟨hids, hany⟩ := of_decide_eq_true hp
  obtain ⟨c, hc, hmode⟩ := List.any_eq_true.mp hany
  have hagrees := (reachable_pendingSizingMode hs).1 ws hws c hc
  have hfull : c.pendingSizingMode = .fullscreen := by simpa using hmode
  refine ⟨ws, hids, c, hc, ?_, hagrees.symm.trans hfull⟩
  by_contra hnot
  unfold Column.pendingSizingMode at hfull
  rw [if_neg hnot] at hfull
  split_ifs at hfull

end Desk

end Sol
