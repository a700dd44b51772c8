import Sol.Desk

/-!
# The sizes of takeovers

A window that takes over is asked for the size of the view, or of the working
area.  It is asked once: where the view changes later, or differs between the
workspaces that the window moves between, the request is out of date.

* `Workspace.UpToDate`: the requests, and the view that the tiles know of;
* `Op.KeepsSizes`: what keeps the requests up to date;
* `sized_of_keepsSizes`: a run that sees to it has windows of the right sizes.
-/

namespace Sol

open Panicking
open TellsLastSize (requestedSize)

variable {W Id : Type} [LayoutElement W Id]

namespace Column

variable [TellsLastSize W] {c d : Column W} {view : Size × Rect}

/-- The last request to a window that takes over was for the size of the view, or of
the working area. -/
structure Sized (view : Size × Rect) (c : Column W) : Prop where
  fullscreen : c.isPendingFullscreen = true →
    requestedSize c.tile.window = some view.1.toI32Round
  maximized : c.isPendingMaximized = true →
    requestedSize c.tile.window = some view.2.size.toI32Round
  one : ¬(c.isPendingFullscreen = true ∧ c.isPendingMaximized = true)

/-- Nothing is asked of a column that takes over nothing. -/
theorem sized_of_not_takesOver (h : c.takesOver = false) : c.Sized view := by
  unfold takesOver at h
  rw [Bool.or_eq_false_iff] at h
  refine ⟨fun hfull => ?_, fun hmax => ?_, fun hboth => ?_⟩
  · simp [h.1] at hfull
  · simp [h.2] at hmax
  · simp [h.1] at hboth

theorem sized_fillSlot (h : c.takesOver = true → c.Sized view) (size : Size) :
    (c.fillSlot size).Sized view := by
  by_cases hc : c.takesOver = true
  · rw [fillSlot_of_takesOver hc]
    exact h hc
  · refine sized_of_not_takesOver ?_
    rw [(sameFlags_fillSlot c size).takesOver_eq]
    simpa using hc

theorem Sized.steady (h : c.Sized view) (hd : Steady c d) : d.Sized view := by
  induction hd with
  | refl => exact h
  | fill _ size ih => exact sized_fillSlot (fun _ => ih) size
  | retile _ tile htile ih =>
    have heq := htile.window.requestedSize_eq
    exact ⟨fun hfull => heq.trans (ih.fullscreen hfull), fun hmax => heq.trans (ih.maximized hmax),
      ih.one⟩

/-- A new view that rounds to the same sizes asks for nothing else. -/
theorem sized_updateConfig {view' : Size × Rect} (h : c.Sized view)
    (hfull : c.isPendingFullscreen = true → view'.1.toI32Round = view.1.toI32Round)
    (hmax : c.isPendingMaximized = true → view'.2.size.toI32Round = view.2.size.toI32Round)
    (viewSize : Size) (workingArea parentArea : Rect) (scale : ℚ) (options : Options) :
    (c.updateConfig viewSize workingArea parentArea scale options).Sized view' := by
  refine ⟨fun hc => ?_, fun hc => ?_, h.one⟩
  · rw [hfull hc]
    exact h.fullscreen hc
  · rw [hmax hc]
    exact h.maximized hc

/-- A request to take over is for the view that the tile knows. -/
theorem sized_ask (h : c.Sized view) (htile : c.tile.viewSize = view.1) (kind : Takeover) :
    (ask kind true view.2.size c).Sized view := by
  cases kind with
  | fullscreen =>
    unfold ask
    cases hfull : c.isPendingFullscreen with
    | true => exact (setFullscreen_same hfull).symm ▸ h
    | false =>
      rw [setFullscreen_begin hfull]
      refine ⟨fun _ => ?_, nofun, by simp⟩
      rw [← htile]
      exact TellsLastSize.requestSize _ _ _ _
  | maximized =>
    unfold ask
    cases hmax : c.isPendingMaximized with
    | true => exact (setMaximized_same hmax _).symm ▸ h
    | false =>
      rw [setMaximized_begin hmax]
      exact ⟨nofun, fun _ => TellsLastSize.requestSize _ _ _ _, by simp⟩

/-- What still takes over after a takeover was ended did so before. -/
theorem sized_of_ask (h : c.Sized view) {kind : Takeover} {size : Size}
    (hd : (ask kind false size c).takesOver = true) : (ask kind false size c).Sized view := by
  cases kind with
  | fullscreen =>
    unfold ask at hd ⊢
    cases hfull : c.isPendingFullscreen with
    | false => exact (setFullscreen_same hfull).symm ▸ h
    | true =>
      rw [setFullscreen_end hfull] at hd
      exact absurd ⟨hfull, by simpa [takesOver] using hd⟩ h.one
  | maximized =>
    unfold ask at hd ⊢
    cases hmax : c.isPendingMaximized with
    | false => exact (setMaximized_same hmax _).symm ▸ h
    | true =>
      rw [setMaximized_end hmax] at hd
      exact absurd ⟨by simpa [takesOver] using hd, hmax⟩ h.one

/-- A column made for a tile asks anew, for the view that the tile knows. -/
theorem sized_newWithTile (tile : Tile W) (htile : LayoutElement.pendingSizingMode tile.window =
      .fullscreen → tile.viewSize.toI32Round = view.1.toI32Round) (viewSize : Size)
    (parentArea : Rect) (scale : ℚ) (width : ColumnWidth) (isFullWidth : Bool) :
    (newWithTile tile viewSize view.2 parentArea scale width isFullWidth).Sized view := by
  unfold newWithTile
  cases hmode : LayoutElement.pendingSizingMode tile.window with
  | normal => exact ⟨Bool.noConfusion, Bool.noConfusion, by simp⟩
  | maximized => exact ⟨Bool.noConfusion, fun _ => TellsLastSize.requestSize _ _ _ _, by simp [setMaximized]⟩
  | fullscreen =>
    refine ⟨fun _ => ?_, Bool.noConfusion, by simp [setFullscreen]⟩
    rw [← htile hmode]
    exact TellsLastSize.requestSize _ _ _ _

end Column

namespace Workspace

open Column

variable [TellsLastSize W] {s t : Workspace W Id}

/-- The windows that take over were asked for the sizes of the view, which all tiles know. -/
structure UpToDate (s : Workspace W Id) : Prop where
  columns : ∀ c ∈ s.scrolling.columns, c.Sized s.scrolling.view ∧ c.tile.viewSize = s.viewSize
  tiles : ∀ a ∈ s.floating.tiles, a.viewSize = s.viewSize
  scrolling_eq : s.scrolling.view.1 = s.viewSize
  floating_eq : s.floating.viewSize = s.viewSize

theorem Steady.upToDate (hs : s.UpToDate) (h : Steady s t) : t.UpToDate := by
  refine ⟨fun d hd => ?_, fun b hb => ?_, ?_, ?_⟩
  · obtain ⟨c, hc, hcd⟩ := h.scrolling.columns d hd
    rw [h.scrolling.view_eq, hcd.viewSize_eq, h.viewSize_eq]
    exact ⟨(hs.columns c hc).1.steady hcd, (hs.columns c hc).2⟩
  · obtain ⟨a, ha, hab⟩ := h.floating.tiles b hb
    rw [hab.viewSize_eq, h.viewSize_eq]
    exact hs.tiles a ha
  · rw [h.scrolling.view_eq, h.viewSize_eq]
    exact hs.scrolling_eq
  · rw [h.floating.viewSize_eq, h.viewSize_eq]
    exact hs.floating_eq

omit [TellsLastSize W] in
theorem viewSize_superseded {area : Size} {c d : Column W}
    (h : ScrollingSpace.Superseded area c d) : d.tile.viewSize = c.tile.viewSize := by
  obtain ⟨size, rfl⟩ := h
  rw [(tile_fillSlot _ size).2]
  unfold endTakeover Column.setMaximized Column.setFullscreen
  split_ifs <;> rfl

theorem sized_superseded {area : Size} {view : Size × Rect} {c d : Column W}
    (h : ScrollingSpace.Superseded area c d) : d.Sized view := by
  obtain ⟨size, rfl⟩ := h
  refine sized_of_not_takesOver ?_
  rw [(sameFlags_fillSlot _ size).takesOver_eq, takesOver_endTakeover]

theorem sized_admitted {a : ScrollingSpace W} {column d : Column W} (hcol : column.Sized a.view)
    (h : a.Admitted column d) : d.Sized a.view ∧ d.tile.viewSize = a.view.1 := by
  obtain ⟨size, rfl⟩ := h
  refine ⟨sized_fillSlot (fun _ => ?_) size, ?_⟩
  · exact sized_updateConfig hcol (fun _ => rfl) (fun _ => rfl) _ _ _ _ _
  · rw [(tile_fillSlot _ size).2]
    rfl

/-- The columns and tiles of a workspace after an addition to its tiling space. -/
theorem UpToDate.added (hs : s.UpToDate) {column : Column W}
    (hcol : column.Sized s.scrolling.view) (hcols : ∀ d ∈ t.scrolling.columns,
      s.scrolling.Admitted column d ∨ ∃ c ∈ s.scrolling.columns,
        ScrollingSpace.Superseded s.scrolling.workingArea.size c d)
    (hview : t.scrolling.view = s.scrolling.view) (hfloating : s.floating.Steady t.floating)
    (hsize : t.viewSize = s.viewSize) : t.UpToDate := by
  refine ⟨fun d hd => ?_, fun b hb => ?_, ?_, ?_⟩
  · rw [hview, hsize]
    rcases hcols d hd with hadmitted | ⟨c, hc, hsuperseded⟩
    · have hd := sized_admitted hcol hadmitted
      exact ⟨hd.1, hd.2.trans hs.scrolling_eq⟩
    · exact ⟨sized_superseded hsuperseded,
        (viewSize_superseded hsuperseded).trans (hs.columns c hc).2⟩
  · obtain ⟨a, ha, hab⟩ := hfloating.tiles b hb
    rw [hab.viewSize_eq, hsize]
    exact hs.tiles a ha
  · rw [hview, hsize]
    exact hs.scrolling_eq
  · rw [hfloating.viewSize_eq, hsize]
    exact hs.floating_eq

/-- A tile whose column asks for fullscreen knows the size of the view. -/
theorem TileAdded.sized {a b : ScrollingSpace W} {tile : Tile W} (h : TileAdded a b tile)
    (htile : LayoutElement.pendingSizingMode tile.window = .fullscreen →
      tile.viewSize.toI32Round = a.view.1.toI32Round) :
    ∃ column : Column W, column.Sized a.view ∧ ∀ d ∈ b.columns, a.Admitted column d ∨
      ∃ c ∈ a.columns, ScrollingSpace.Superseded a.workingArea.size c d := by
  obtain ⟨-, width, isFullWidth, hcols⟩ := h
  have hcol : (newWithTile tile a.viewSize a.workingArea a.parentArea a.scale width
      isFullWidth).Sized a.view := sized_newWithTile tile htile _ _ _ _ _
  exact ⟨_, hcol, hcols⟩

theorem Tiled.upToDate {tile : Tile W} (hs : s.UpToDate)
    (htile : LayoutElement.pendingSizingMode tile.window = .fullscreen →
      tile.viewSize.toI32Round = s.viewSize.toI32Round) (h : Tiled s tile t) : t.UpToDate := by
  obtain ⟨column, hcol, hcols⟩ := h.added.sized
    (fun hmode => (htile hmode).trans (congrArg Size.toI32Round hs.scrolling_eq.symm))
  exact hs.added hcol hcols h.added.1 (h.floating_eq ▸ .refl _) h.viewSize_eq

theorem ColumnAdded.upToDate {column : Column W} (hs : s.UpToDate)
    (hcol : column.Sized s.scrolling.view) (h : ColumnAdded s column t) : t.UpToDate :=
  hs.added hcol h.columns h.view_eq (h.floating_eq ▸ .refl _) h.viewSize_eq

omit [TellsLastSize W] in
theorem viewSize_floatingTile {a : FloatingSpace W Id} {tile b : Tile W}
    (h : FloatingTile a tile b) : b.viewSize = a.viewSize := by
  obtain ⟨tile', size, -, rfl⟩ := h
  rfl

theorem MadeFloat.upToDate {tile : Tile W} (hs : s.UpToDate) (h : MadeFloat s tile t) :
    t.UpToDate := by
  refine ⟨fun d hd => ?_, fun b hb => ?_, ?_, ?_⟩
  · rw [h.scrolling_eq] at hd ⊢
    rw [h.viewSize_eq]
    exact hs.columns d hd
  · rw [h.viewSize_eq]
    rcases h.tiles b hb with hb | hb
    · exact hs.tiles b hb
    · exact (viewSize_floatingTile hb).trans hs.floating_eq
  · rw [h.scrolling_eq, h.viewSize_eq]
    exact hs.scrolling_eq
  · rw [h.floatingView_eq, h.viewSize_eq]
    exact hs.floating_eq

/-- The new view rounds to the same sizes as far as windows take over. -/
def ViewKept (s : Workspace W Id) (view : Size × Rect) : Prop :=
  ∀ c ∈ s.scrolling.columns,
    (c.isPendingFullscreen = true → view.1.toI32Round = s.viewSize.toI32Round) ∧
    (c.isPendingMaximized = true →
      view.2.size.toI32Round = s.scrolling.workingArea.size.toI32Round)

theorem Reviewed.upToDate {view : Size × Rect} (hs : s.UpToDate) (hview : s.ViewKept view)
    (h : Reviewed s view t) : t.UpToDate := by
  rcases h with h | ⟨h, -⟩
  · refine ⟨fun d hd => ?_, fun b hb => ?_, ?_, ?_⟩
    · obtain ⟨c, hc, parentArea, scale, options, size, rfl⟩ := h.columns d hd
      rw [h.view_eq, h.viewSize_eq]
      refine ⟨sized_fillSlot (fun _ => ?_) size, ?_⟩
      · refine sized_updateConfig (hs.columns c hc).1 (fun hfull => ?_) (hview c hc).2 _ _ _ _ _
        rw [hs.scrolling_eq]
        exact (hview c hc).1 hfull
      · rw [(tile_fillSlot _ size).2]
        rfl
    · obtain ⟨a, -, scale, options, rfl⟩ := h.tiles b hb
      exact h.viewSize_eq.symm
    · rw [h.view_eq, h.viewSize_eq]
    · rw [h.floatingView_eq, h.viewSize_eq]
  · exact h.upToDate hs

/-- A request leaves a column that is up to date, also the end of a takeover. -/
theorem sized_requested {a : ScrollingSpace W} {window : Id} {kind : Takeover} {value : Bool}
    {view : Size × Rect} {c d : Column W} (hc : c.Sized view ∧ c.tile.viewSize = view.1)
    (h : a.Requested window (ask kind value view.2.size) value c d) :
    d.Sized view ∧ d.tile.viewSize = view.1 := by
  obtain ⟨e, he, hd⟩ := h
  have hview : e.tile.viewSize = view.1 := by
    rcases he with ⟨-, rfl⟩ | ⟨rfl, -⟩
    · exact (tile_ask _ _ _ _).2.trans hc.2
    · exact hc.2
  cases value with
  | true =>
    obtain rfl : d = e := by simpa using hd
    refine ⟨?_, hview⟩
    rcases he with ⟨-, rfl⟩ | ⟨rfl, -⟩
    · exact sized_ask hc.1 hc.2 kind
    · exact hc.1
  | false =>
    obtain ⟨size, rfl⟩ : ∃ size, d = e.fillSlot size := by simpa using hd
    refine ⟨sized_fillSlot (fun htakes => ?_) size, (tile_fillSlot _ size).2.trans hview⟩
    rcases he with ⟨-, rfl⟩ | ⟨rfl, -⟩
    · exact sized_of_ask hc.1 htakes
    · exact hc.1

variable [DecidableEq Id]

omit [DecidableEq Id] in
theorem Received.upToDate {tile : Tile W} {target : WorkspaceAddWindowTarget Id}
    {isFloating : Bool} (hs : s.UpToDate)
    (htile : LayoutElement.pendingSizingMode tile.window = .fullscreen →
      tile.viewSize.toI32Round = s.viewSize.toI32Round)
    (h : Received s tile target isFloating t) : t.UpToDate := by
  unfold Received at h
  split_ifs at h
  · exact h.upToDate hs
  · refine h.upToDate hs ?_
    exact htile

theorem TookOver.upToDate {window : Id} {kind : Takeover} {value restoreToFloating : Bool}
    (hs : s.UpToDate)
    (h : TookOver s window (ask kind value s.scrolling.workingArea.size) value restoreToFloating t) :
    t.UpToDate := by
  refine ⟨fun d hd => ?_, fun b hb => ?_, ?_, ?_⟩
  · obtain ⟨c, hc, e, hce, hde, -⟩ := h.columns d hd
    rw [h.view_eq, h.viewSize_eq, ← hs.scrolling_eq]
    have he : e.Sized s.scrolling.view ∧ e.tile.viewSize = s.scrolling.view.1 := sized_requested
      ⟨(hs.columns c hc).1, (hs.columns c hc).2.trans hs.scrolling_eq.symm⟩ hce
    rcases hde with rfl | rfl
    · exact he
    · exact ⟨⟨he.1.fullscreen, he.1.maximized, he.1.one⟩, he.2⟩
  · rw [h.viewSize_eq]
    exact hs.tiles b (h.floating_eq ▸ hb)
  · rw [h.view_eq, h.viewSize_eq]
    exact hs.scrolling_eq
  · rw [h.floating_eq, h.viewSize_eq]
    exact hs.floating_eq

omit [DecidableEq Id] in
theorem Unfloated.upToDate {window : Id} (hs : s.UpToDate) (h : Unfloated s window t) :
    t.UpToDate := by
  obtain ⟨a, ha, -, tile, hquiet, hadded⟩ := h.tiled
  obtain ⟨column, hcol, hcols⟩ := hadded.sized fun _ => by
    rw [hquiet.viewSize_eq, hs.tiles a ha, hs.scrolling_eq]
  exact hs.added hcol hcols hadded.1 h.floating h.viewSize_eq

omit [DecidableEq Id] in
theorem Floated.upToDate {window : Id} (hs : s.UpToDate) (h : Floated s window t) :
    t.UpToDate := by
  obtain ⟨c, -, -, htiles⟩ := h.tiles
  refine ⟨fun d hd => ?_, fun b hb => ?_, ?_, ?_⟩
  · obtain ⟨c, hc, hcd⟩ := h.columns.columns d hd
    rw [h.columns.view_eq, h.viewSize_eq, hcd.steady.viewSize_eq]
    exact ⟨(hs.columns c hc).1.steady hcd.steady, (hs.columns c hc).2⟩
  · rw [h.viewSize_eq]
    rcases htiles b hb with hb | hb
    · exact hs.tiles b hb
    · exact (viewSize_floatingTile hb).trans hs.floating_eq
  · rw [h.columns.view_eq, h.viewSize_eq]
    exact hs.scrolling_eq
  · rw [h.floatingView_eq, h.viewSize_eq]
    exact hs.floating_eq

theorem Toggled.upToDate {window : Id} (hs : s.UpToDate) (h : Toggled s window t) :
    t.UpToDate := by
  obtain ⟨u, hu, hut, -⟩ := h
  refine hut.upToDate ?_
  split_ifs at hu
  · exact hu.upToDate hs
  · exact hu.upToDate hs

theorem Asked.upToDate {window : Id} {kind : Takeover} {value : Bool} (hs : s.UpToDate)
    (h : Asked s window kind value t) : t.UpToDate := by
  cases h with
  | ignored _ _ ht => exact ht ▸ hs
  | began _ _ hu _ _ ht => exact ht.upToDate (hu.upToDate hs)
  | asked _ ht _ => exact ht.upToDate hs
  | restored _ _ ht _ => exact ht.upToDate hs

theorem Effect.upToDate {op : Op W Id} (hs : s.UpToDate) (hview : s.ViewKept (op.nextView s))
    (h : Effect s op t) : t.UpToDate := by
  cases h with
  | steady h => exact h.upToDate hs
  | toggled _ h => exact h.upToDate hs
  | asked _ h => exact h.upToDate hs
  | reviewed _ h => exact h.upToDate hs hview

theorem take_upToDate (hwf : s.WellFormed) (hs : s.UpToDate) (clock : Clock) (what : Take Id) :
    Ensures (s.take clock what) fun r => r.2.UpToDate := by
  cases what with
  | tile id =>
    simp only [take, ensures_bind, ensures_pure]
    exact (removeTile_taken hwf clock id).mono fun r hr => hr.steady.upToDate hs
  | activeTile =>
    simp only [take, ensures_bind, ensures_pure]
    refine (removeActiveTile_taken hwf clock).mono fun r hr => ?_
    rcases hr with rfl | ⟨id, removed, -, hr⟩
    · exact hs
    · exact hr.steady.upToDate hs
  | activeColumn =>
    simp only [take, ensures_bind, ensures_pure]
    refine (removeActiveColumn_taken hwf clock).mono fun r hr => ?_
    rcases hr with rfl | ⟨c, -, -, hr⟩
    · exact hs
    · exact hr.upToDate hs

/-- What is placed was asked for the sizes of the workspace, or will be. -/
def Welcomes (s : Workspace W Id) : Held W → Prop
  | .tile removed => LayoutElement.pendingSizingMode removed.tile.window = .fullscreen →
      removed.tile.viewSize.toI32Round = s.viewSize.toI32Round
  | .column column =>
      (column.isPendingFullscreen = true →
        requestedSize column.tile.window = some s.viewSize.toI32Round) ∧
      (column.isPendingMaximized = true →
        requestedSize column.tile.window = some s.scrolling.workingArea.size.toI32Round)

/-- A held column takes over in one way. -/
def OneTakeover : Held W → Prop
  | .tile _ => True
  | .column column => ¬(column.isPendingFullscreen = true ∧ column.isPendingMaximized = true)

theorem place_upToDate (hwf : s.WellFormed) (hs : s.UpToDate) {held : Held W}
    (hone : OneTakeover held) (hheld : s.Welcomes held) (how : Place Id) :
    Ensures (s.place held how) UpToDate := by
  cases held with
  | tile removed =>
    cases how with
    | tile target activate isFloating =>
      exact (addTile_received hwf removed.tile target activate removed.width removed.isFullWidth
        isFloating).mono fun t ht => ht.upToDate hs hheld
    | tileInColumn activate =>
      exact ensures_pure.mpr ((addTileToColumn_tiled hwf removed.tile activate).upToDate hs hheld)
    | column activate => exact ensures_throw
  | column col =>
    cases how with
    | column activate =>
      refine ensures_pure.mpr ((addColumn_columnAdded hwf col activate).upToDate hs ?_)
      refine ⟨fun hfull => ?_, hheld.2, hone⟩
      rw [hs.scrolling_eq]
      exact hheld.1 hfull
    | tile target activate isFloating => exact ensures_throw
    | tileInColumn activate => exact ensures_throw

end Workspace

namespace Desk

open Workspace (UpToDate OneTakeover)

variable [DecidableEq Id] {s : Desk W Id}

/-- What keeps the requests up to date: a window that takes over is placed where the
sizes are those that it was asked for, and the view of a workspace keeps its rounded
sizes while windows take over there. -/
def Op.KeepsSizes [TellsLastSize W] (s : Desk W Id) : Op W Id → Prop
  | .place j i _ => ∀ held ∈ s.held[j]?, ∀ ws ∈ s.workspaces[i]?, ws.Welcomes held
  | .operate i op => ∀ ws ∈ s.workspaces[i]?, ws.ViewKept (op.nextView ws)
  | .resizeOutput i output => ∀ ws ∈ s.workspaces[i]?,
    ws.ViewKept (ws.viewFor output.scale output.size output.workingArea)
  | _ => True

variable [TellsLastSize W]

omit [DecidableEq Id] in
theorem makeWorkspace_upToDate (id : WorkspaceId) (output : Option Output)
    (config : Option WorkspaceConfig) (options : Options) :
    (makeWorkspace id output config options : Workspace W Id).UpToDate := by
  refine ⟨fun c hc => ?_, fun a ha => ?_, ?_, ?_⟩
  · cases output <;> cases hc
  · cases output <;> cases ha
  · cases output <;> rfl
  · cases output <;> rfl

theorem take_oneTakeover {ws : Workspace W Id} (hwf : ws.WellFormed) (hs : ws.UpToDate)
    (clock : Clock) (what : Take Id) :
    Ensures (ws.take clock what) fun r => ∀ held ∈ r.1, OneTakeover held := by
  cases what with
  | tile id =>
    simp only [Workspace.take, ensures_bind, ensures_pure]
    refine fun r _ held hheld => ?_
    obtain rfl := Option.some.inj hheld
    trivial
  | activeTile =>
    simp only [Workspace.take, ensures_bind, ensures_pure]
    refine fun r _ held hheld => ?_
    obtain ⟨removed, -, rfl⟩ := Option.map_eq_some_iff.mp hheld
    trivial
  | activeColumn =>
    simp only [Workspace.take, ensures_bind, ensures_pure]
    refine (Workspace.removeActiveColumn_taken hwf clock).mono fun r hr held hheld => ?_
    obtain ⟨column, hcol, rfl⟩ := Option.map_eq_some_iff.mp hheld
    rcases hr with rfl | ⟨c, hc, hsome, -⟩
    · cases hcol
    · obtain rfl := Option.some.inj (hsome.symm.trans hcol)
      exact (hs.columns c hc).1.one

theorem keeps_upToDate (h : Sound s) (hall : All UpToDate OneTakeover s) (clock : Clock)
    {op : Op W Id} (hsizes : op.KeepsSizes s) (hown : op.Admissible s) :
    op.Keeps UpToDate OneTakeover s clock := by
  have hwf : ∀ {i : ℕ} {ws : Workspace W Id}, s.workspaces[i]? = some ws → ws.WellFormed :=
    fun hws => h.wellFormed _ (List.mem_of_getElem? hws)
  have hup : ∀ {i : ℕ} {ws : Workspace W Id}, s.workspaces[i]? = some ws → ws.UpToDate :=
    fun hws => hall.workspaces _ (List.mem_of_getElem? hws)
  cases op with
  | addWorkspace id output config options => exact makeWorkspace_upToDate id output config options
  | removeWorkspace i => trivial
  | openWindow i window target activate width isFullWidth isFloating =>
    exact fun ws hws => (Workspace.addTile_received (hwf hws) (ws.makeTile window) target activate
      width isFullWidth isFloating).mono fun t ht => ht.upToDate (hup hws) fun _ => rfl
  | take i what =>
    exact fun ws hws => (take_oneTakeover (hwf hws) (hup hws) clock what).and
      (Workspace.take_upToDate (hwf hws) (hup hws) clock what)
  | place j i how =>
    exact fun held hheld ws hws => Workspace.place_upToDate (hwf hws) (hup hws)
      (hall.held held (List.mem_of_getElem? hheld)) (hsizes held hheld ws hws) how
  | change j how =>
    intro held hheld
    have hone := hall.held held (List.mem_of_getElem? hheld)
    cases held with
    | tile removed => trivial
    | column col => exact hone
  | close j => trivial
  | operate i op =>
    exact fun ws hws => (Workspace.step_effect (hwf hws) clock hown.1).mono
      fun t ht => ht.upToDate (hup hws) (hsizes ws hws)
  | resizeOutput i output =>
    exact fun ws hws => (Workspace.resizeOutput_reviewed (hwf hws) output).mono
      fun t ht => ht.upToDate (hup hws) (hsizes ws hws)

/-- **The sizes of takeovers.**  In a run that keeps the requests up to date, the last
size requested from a window that is to be fullscreen is that of the view of its
workspace, and from one that is to be maximized that of the working area. -/
theorem sized_of_keepsSizes (h : (machine W Id).ReachableBy
      (fun s a => a.2.Admissible s ∧ a.2.KeepsSizes s) s) :
    ∀ ws ∈ s.workspaces, ∀ c ∈ ws.scrolling.columns,
      (c.isPendingFullscreen = true →
        requestedSize c.tile.window = some ws.viewSize.toI32Round) ∧
      (c.isPendingMaximized = true →
        requestedSize c.tile.window = some ws.scrolling.workingArea.size.toI32Round) := by
  have hall : All UpToDate OneTakeover s :=
    all_of_reachableBy (fun s a ha => ha.1) h fun s a hs hall ha =>
      keeps_upToDate hs hall a.1 ha.2 ha.1
  intro ws hws c hc
  have hup := hall.workspaces ws hws
  have hsized := (hup.columns c hc).1
  refine ⟨fun hfull => ?_, hsized.maximized⟩
  rw [← hup.scrolling_eq]
  exact hsized.fullscreen hfull

instance (ws : Workspace W Id) (view : Size × Rect) : Decidable (ws.ViewKept view) := by
  unfold Workspace.ViewKept
  infer_instance

instance (ws : Workspace W Id) : (held : Held W) → Decidable (ws.Welcomes held)
  | .tile removed => inferInstanceAs (Decidable (LayoutElement.pendingSizingMode
      removed.tile.window = .fullscreen → removed.tile.viewSize.toI32Round =
        ws.viewSize.toI32Round))
  | .column column => inferInstanceAs (Decidable ((column.isPendingFullscreen = true →
      requestedSize column.tile.window = some ws.viewSize.toI32Round) ∧
        (column.isPendingMaximized = true → requestedSize column.tile.window =
          some ws.scrolling.workingArea.size.toI32Round)))

instance (s : Desk W Id) : (op : Op W Id) → Decidable (op.KeepsSizes s)
  | .place j i _ =>
    inferInstanceAs (Decidable (∀ held ∈ s.held[j]?, ∀ ws ∈ s.workspaces[i]?, ws.Welcomes held))
  | .operate i op =>
    inferInstanceAs (Decidable (∀ ws ∈ s.workspaces[i]?, ws.ViewKept (op.nextView ws)))
  | .resizeOutput i output => inferInstanceAs (Decidable (∀ ws ∈ s.workspaces[i]?,
      ws.ViewKept (ws.viewFor output.scale output.size output.workingArea)))
  | .addWorkspace .. | .removeWorkspace _ | .openWindow .. => .isTrue trivial
  | .take .. | .change .. | .close _ => .isTrue trivial

/-- The output gets smaller under a fullscreen window, which is not asked again. -/
theorem not_sized_of_reachable : ¬∀ s : Desk Sample.Toplevel ℕ, Reachable s →
    ∀ ws ∈ s.workspaces, ∀ c ∈ ws.scrolling.columns,
      (c.isPendingFullscreen = true →
        requestedSize c.tile.window = some ws.viewSize.toI32Round) ∧
      (c.isPendingMaximized = true →
        requestedSize c.tile.window = some ws.scrolling.workingArea.size.toI32Round) := by
  intro hall
  obtain ⟨s, hs, hp⟩ := Machine.exists_reachableBy (M := machine Sample.Toplevel ℕ)
    (p := fun s => s.workspaces.any fun ws => ws.scrolling.columns.any fun c =>
      c.isPendingFullscreen && decide (requestedSize c.tile.window ≠ some ws.viewSize.toI32Round))
    [(Sample.clock, .addWorkspace 1 (some (Sample.output 1)) none Sample.options),
      (Sample.clock, .openWindow 0 (Sample.toplevel 1) .auto .yes (.proportion (1 / 2)) false false),
      (Sample.clock, .operate 0 (.setFullscreen 1 true)),
      (Sample.clock, .resizeOutput 0 { Sample.output 1 with size := ⟨1280, 720⟩ })]
    (show (machine Sample.Toplevel ℕ).initial ⟨[], []⟩ from rfl)
    (show ((machine Sample.Toplevel ℕ).run (fun s a => a.2.Admissible s) _ _).any _ = true by
      decide +kernel)
  obtain ⟨ws, hws, hp⟩ := List.any_eq_true.mp hp
  obtain ⟨c, hc, hp⟩ := List.any_eq_true.mp hp
  rw [Bool.and_eq_true, decide_eq_true_eq] at hp
  exact hp.2 ((hall s hs ws hws c hc).1 hp.1)

/-- A fullscreen window moves to an output of the same size; the first output gets
smaller then. -/
theorem sized_of_keepsSizes_two : ∃ ws : Workspace Sample.Toplevel ℕ,
    ws.windowIds = [2, 1] ∧ ∃ c ∈ ws.scrolling.columns,
      requestedSize c.tile.window = some ws.viewSize.toI32Round := by
  obtain ⟨s, hs, hp⟩ := Machine.exists_reachableBy (M := machine Sample.Toplevel ℕ)
    (p := fun s => s.workspaces.any fun ws => decide (ws.windowIds = [2, 1] ∧
      ws.scrolling.columns.any (·.isPendingFullscreen) = true))
    [(Sample.clock, .addWorkspace 1 (some (Sample.output 1)) none Sample.options),
      (Sample.clock, .addWorkspace 2 (some (Sample.output 2)) none Sample.options),
      (Sample.clock, .openWindow 0 (Sample.toplevel 1) .auto .yes (.proportion (1 / 2)) false true),
      (Sample.clock, .openWindow 1 (Sample.toplevel 2) .auto .yes (.proportion (1 / 2)) false false),
      (Sample.clock, .operate 0 (.setFullscreen 1 true)),
      (Sample.clock, .take 0 .activeColumn),
      (Sample.clock, .place 0 1 (.column true)),
      (Sample.clock, .resizeOutput 0 { Sample.output 1 with size := ⟨1280, 720⟩ })]
    (show (machine Sample.Toplevel ℕ).initial ⟨[], []⟩ from rfl)
    (show ((machine Sample.Toplevel ℕ).run
      (fun s a => a.2.Admissible s ∧ a.2.KeepsSizes s) _ _).any _ = true by decide +kernel)
  obtain ⟨ws, hws, hp⟩ := List.any_eq_true.mp hp
  obtain ⟨hids, hany⟩ := of_decide_eq_true hp
  obtain ⟨c, hc, hfull⟩ := List.any_eq_true.mp hany
  exact ⟨ws, hids, c, hc, (sized_of_keepsSizes hs ws hws c hc).1 hfull⟩

end Desk

end Sol
