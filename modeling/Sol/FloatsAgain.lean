import Sol.RoundTrip

/-!
# Windows that float again

A floating window is tiled while it takes over.  A flag of its tile says that it is
to float afterwards, and is read where a takeover is ended by a request.  Where a
takeover ends because something else is tiled, or where the tile moves to another
workspace by itself, the flag is lost.

* `Workspace.FloatsLater`: a window is tiled only while it takes over, with the flag;
* `Op.LeavesFloating`: nobody asks to tile the window;
* `Op.LeavesTakeover`: its takeover is ended by requests only, and its tile stays
  in its column meanwhile;
* `floats_of_leavesTakeover`: then the window floats whenever it is normal.
-/

namespace Sol

open Panicking Column

variable {W Id : Type} [LayoutElement W Id]

namespace Column

/-- A column that takes over, and floats afterwards. -/
structure FloatsLater (c : Column W) : Prop where
  takesOver : c.takesOver = true
  restore : c.tile.restoreToFloating = true

variable {c d : Column W}

theorem FloatsLater.steady (h : c.FloatsLater) (hd : Steady c d) : d.FloatsLater :=
  ⟨hd.sameFlags.takesOver_eq.trans h.takesOver, hd.restoreToFloating_eq.trans h.restore⟩

/-- A new view changes neither the flags nor the tile in this respect. -/
theorem FloatsLater.updateConfig (h : c.FloatsLater) (viewSize : Size)
    (workingArea parentArea : Rect) (scale : ℚ) (options : Options) (size : Size) :
    ((c.updateConfig viewSize workingArea parentArea scale options).fillSlot size).FloatsLater := by
  have htakes : (c.updateConfig viewSize workingArea parentArea scale options).takesOver = true :=
    h.takesOver
  rw [fillSlot_of_takesOver htakes]
  exact ⟨htakes, h.restore⟩

theorem takesOver_ask (kind : Takeover) (size : Size) (c : Column W) :
    (ask kind true size c).takesOver = true := by
  cases kind with
  | fullscreen => exact takesOver_setFullscreen c
  | maximized => exact takesOver_setMaximized c size

theorem FloatsLater.mode_ne [PendsLastMode W] (h : c.FloatsLater) (hagrees : c.Agrees) :
    LayoutElement.pendingSizingMode c.tile.window ≠ .normal := hagrees.takesOver_iff.mp h.takesOver

end Column

namespace Workspace

variable {s t : Workspace W Id} {window : Id}

/-- A window is tiled here only while it takes over, and floats afterwards. -/
def FloatsLater (window : Id) (s : Workspace W Id) : Prop :=
  ∀ c ∈ s.scrolling.columns, c.windowId = window → c.FloatsLater

theorem floatsLater_of_not_mem (h : window ∉ s.scrolling.windowIds) : s.FloatsLater window :=
  fun _ hc hid => absurd (hid ▸ List.mem_map_of_mem hc) h

theorem Steady.floatsLater (hs : s.FloatsLater window) (h : Steady s t) :
    t.FloatsLater window := by
  intro d hd hid
  obtain ⟨c, hc, hcd⟩ := h.scrolling.columns d hd
  exact (hs c hc (hcd.sameFlags.windowId_eq.symm.trans hid)).steady hcd

theorem Reviewed.floatsLater {view : Size × Rect} (hs : s.FloatsLater window)
    (h : Reviewed s view t) : t.FloatsLater window := by
  rcases h with h | ⟨h, -⟩
  · intro d hd hid
    obtain ⟨c, hc, parentArea, scale, options, size, rfl⟩ := h.columns d hd
    have hcid : c.windowId = window := by
      rw [← hid, windowId_fillSlot, windowId_updateConfig]
    exact (hs c hc hcid).updateConfig _ _ _ _ _ size
  · exact h.floatsLater hs

theorem windowId_superseded {area : Size} {c d : Column W}
    (h : ScrollingSpace.Superseded area c d) : d.windowId = c.windowId := by
  obtain ⟨size, rfl⟩ := h
  rw [windowId_fillSlot, windowId_endTakeover]

theorem windowId_admitted {a : ScrollingSpace W} {column d : Column W}
    (h : a.Admitted column d) : d.windowId = column.windowId := by
  obtain ⟨size, rfl⟩ := h
  rw [windowId_fillSlot, windowId_updateConfig]

/-- Another window is tiled where the window is not. -/
theorem TileAdded.not_mem {a b : ScrollingSpace W} {tile : Tile W} (h : TileAdded a b tile)
    (htile : tile.windowId ≠ window) (hnot : window ∉ a.windowIds) : window ∉ b.windowIds := by
  obtain ⟨-, width, isFullWidth, hcols⟩ := h
  intro hmem
  obtain ⟨d, hd, hid⟩ := column_of_mem hmem
  rcases hcols d hd with hadmitted | ⟨c, hc, hsuperseded⟩
  · rw [windowId_admitted hadmitted, windowId_newWithTile] at hid
    exact htile hid
  · rw [windowId_superseded hsuperseded] at hid
    exact hnot (hid ▸ List.mem_map_of_mem hc)

/-- A column is put in a workspace where the window is not tiled. -/
theorem ColumnAdded.floatsLater {column : Column W}
    (hcol : column.windowId = window → column.FloatsLater)
    (hnot : window ∉ s.scrolling.windowIds) (h : ColumnAdded s column t) :
    t.FloatsLater window := by
  intro d hd hid
  rcases h.columns d hd with hadmitted | ⟨c, hc, hsuperseded⟩
  · have hcid : column.windowId = window := (windowId_admitted hadmitted).symm.trans hid
    obtain ⟨size, rfl⟩ := hadmitted
    exact (hcol hcid).updateConfig _ _ _ _ _ size
  · rw [windowId_superseded hsuperseded] at hid
    exact absurd (hid ▸ List.mem_map_of_mem hc) hnot

/-! ### Toggles and requests -/

variable [DecidableEq Id]

/-- Another window is toggled: one that was floating is not tiled beside the window. -/
theorem Toggled.floatsLater {v : Id} (hs : s.FloatsLater window) (hne : v ≠ window)
    (hbeside : v ∈ s.floating.windowIds → window ∉ s.scrolling.windowIds)
    (h : Toggled s v t) : t.FloatsLater window := by
  by_cases hv : v ∈ s.floating.windowIds
  · obtain ⟨u, hu, hut⟩ := unfloated_of_toggled h hv
    obtain ⟨a, ha, hid, tile, hquiet, hadded⟩ := hu.tiled
    have htile : tile.windowId ≠ window := fun heq =>
      hne (hid.symm.trans (hquiet.window.id_eq.symm.trans heq))
    exact hut.floatsLater (floatsLater_of_not_mem (hadded.not_mem htile (hbeside hv)))
  · obtain ⟨u, hu, hut, -⟩ := floated_of_toggled h hv
    refine hut.floatsLater fun d hd hid => ?_
    obtain ⟨c, hc, hcd⟩ := hu.columns.columns d hd
    exact (hs c hc (hcd.sameFlags.windowId_eq.symm.trans hid)).steady hcd.steady

/-- Windows that were not tiled are not after a request for the takeover of another one. -/
theorem TookOver.not_mem {v : Id} {kind : Takeover} {value restoreToFloating : Bool} {area : Size}
    (h : TookOver s v (ask kind value area) value restoreToFloating t)
    (hnot : window ∉ s.scrolling.windowIds) : window ∉ t.scrolling.windowIds := by
  intro hmem
  obtain ⟨d, hd, hid⟩ := column_of_mem hmem
  obtain ⟨c, hc, e, hce, hde, -⟩ := h.columns d hd
  have heid : e.windowId = window := by rcases hde with rfl | rfl <;> exact hid
  rw [hce.windowId_eq (windowId_ask _ _ _)] at heid
  exact hnot (heid ▸ List.mem_map_of_mem hc)

variable [PendsLastMode W]

/-- A request for the takeover of the window itself while it takes over. -/
theorem TookOver.floatsLater_self {kind : Takeover} {value : Bool} (hunique : Unambiguous s)
    (hs : s.FloatsLater window)
    (h : TookOver s window (ask kind value s.scrolling.workingArea.size) value false t)
    (hstays : value = false → ∃ c ∈ s.scrolling.columns, c.windowId = window ∧
      (c.Agrees → c.pendingSizingMode = kind.mode → c.tile.restoreToFloating = false)) :
    t.FloatsLater window := by
  intro d hd hid
  obtain ⟨c, hc, hcid, e, he, hde⟩ :=
    h.column (windowId_ask _ _ _) hunique.scrolling hd hid
  have hagrees := hunique.agrees.columns c hc
  have hlater := hs c hc hcid
  rw [if_neg fun hboth => FloatsLater.mode_ne hlater hagrees hboth.1] at hde
  subst hde
  cases value with
  | true =>
    obtain rfl : d = ask kind true s.scrolling.workingArea.size c := he
    exact ⟨takesOver_ask kind _ c, (tile_ask _ _ _ _).1.trans hlater.restore⟩
  | false =>
    obtain ⟨c', hc', hcid', hkeeps⟩ := hstays rfl
    obtain rfl := ScrollingSpace.column_eq hunique.scrolling hc hc' (hcid.trans hcid'.symm)
    -- a takeover of the kind that ends would have ended by floating
    have hmode : c.pendingSizingMode ≠ kind.mode := by
      intro hmode
      have hrestore := hkeeps hagrees hmode
      rw [hlater.restore] at hrestore
      cases hrestore
    obtain ⟨size, rfl⟩ :
        ∃ size, d = (ask kind false s.scrolling.workingArea.size c).fillSlot size := he
    rw [hagrees.ask_of_ne hmode, fillSlot_of_takesOver hlater.takesOver]
    exact hlater

omit [PendsLastMode W] in
/-- A request for the takeover of another window, in the same tiling space. -/
theorem TookOver.floatsLater_other {v : Id} {kind : Takeover} {value restoreToFloating : Bool}
    {area : Size} (hunique : Unambiguous s) (hs : s.FloatsLater window) (hne : v ≠ window)
    (h : TookOver s v (ask kind value area) value restoreToFloating t) :
    t.FloatsLater window := by
  intro d hd hid
  obtain ⟨c, hc, e, hce, hde, heq⟩ := h.columns d hd
  have heid : e.windowId = window := by rcases hde with rfl | rfl <;> exact hid
  have hcid : c.windowId = window := (hce.windowId_eq (windowId_ask _ _ _)).symm.trans heid
  have hlater := hs c hc hcid
  have hcv : c.windowId ≠ v := fun h => hne (h.symm.trans hcid)
  have hd := heq hunique.scrolling
  rw [if_neg fun hall => hcv hall.1] at hd
  subst hd
  obtain ⟨c', ⟨heq, -⟩ | ⟨hc', -⟩, hfill⟩ := hce
  · exact absurd heq hcv
  · rw [hc'] at hfill
    cases value with
    | true => exact (show d = c from hfill) ▸ hlater
    | false =>
      obtain ⟨size, rfl⟩ : ∃ size, d = c.fillSlot size := hfill
      rw [fillSlot_of_takesOver hlater.takesOver]
      exact hlater

/-- A floating window begins to take over. -/
theorem TookOver.floatsLater_begun {kind : Takeover} (hunique : Unambiguous s)
    (hnormal : ∀ c ∈ s.scrolling.columns,
      LayoutElement.pendingSizingMode c.tile.window = .normal)
    (h : TookOver s window (ask kind true s.scrolling.workingArea.size) true true t) :
    t.FloatsLater window := by
  intro d hd hid
  obtain ⟨c, hc, -, e, he, hde⟩ := h.column (windowId_ask _ _ _) hunique.scrolling hd hid
  obtain rfl : e = ask kind true s.scrolling.workingArea.size c := he
  have htakes := takesOver_ask kind s.scrolling.workingArea.size c
  have hmode := (agrees_ask (hunique.agrees.columns c hc) kind
    s.scrolling.workingArea.size).takesOver_iff.mp htakes
  rw [if_pos ⟨hnormal c hc, hmode⟩] at hde
  exact hde ▸ ⟨htakes, rfl⟩

/-- A request for a takeover: another window that is floating is not tiled beside the
window. -/
theorem Asked.floatsLater {v : Id} {kind : Takeover} {value : Bool} (hunique : Unambiguous s)
    (hs : s.FloatsLater window) (hbeside : v ≠ window → v ∈ s.floating.windowIds → value = true →
      window ∉ s.scrolling.windowIds) (h : Asked s v kind value t) : t.FloatsLater window := by
  cases h with
  | ignored _ _ ht => exact ht ▸ hs
  | @began u hfloats hvalue hu hre hmem ht =>
    by_cases hv : v = window
    · subst hv
      have hu' : Unambiguous u := ⟨hre.wellFormed, hu.agrees hunique.agrees,
        hre.perm.nodup_iff.mpr hunique.unique⟩
      exact ht.floatsLater_begun hu' (hu.normal hunique.agrees hfloats)
    · have hnot := hbeside hv hfloats hvalue
      obtain ⟨u', hu', hut⟩ := unfloated_of_toggled hu hfloats
      obtain ⟨a, ha, hid, tile, hquiet, hadded⟩ := hu'.tiled
      have htile : tile.windowId ≠ window := fun heq =>
        hv (hid.symm.trans (hquiet.window.id_eq.symm.trans heq))
      refine floatsLater_of_not_mem (ht.not_mem fun hmem => ?_)
      obtain ⟨d, hd, hdid⟩ := column_of_mem hmem
      obtain ⟨c, hc, hcd⟩ := hut.scrolling.columns d hd
      exact hadded.not_mem htile hnot
        (hdid ▸ hcd.sameFlags.windowId_eq ▸ List.mem_map_of_mem hc)
  | asked hfloats ht hstays =>
    by_cases hv : v = window
    · subst hv
      exact ht.floatsLater_self hunique hs hstays
    · exact ht.floatsLater_other hunique hs hv
  | restored hfloats _ ht _ =>
    obtain ⟨u, hu, hut, -⟩ := floated_of_toggled ht hfloats
    refine hut.floatsLater fun d hd hid => ?_
    obtain ⟨c, hc, hcd⟩ := hu.columns.columns d hd
    exact (hs c hc (hcd.sameFlags.windowId_eq.symm.trans hid)).steady hcd.steady

/-! ### In and out -/

theorem Effect.floatsLater {op : Op W Id} (hunique : Unambiguous s) (hs : s.FloatsLater window)
    (htoggle : op.toggled s ≠ some window)
    (hbeside : window ∈ s.scrolling.windowIds →
      (∀ v ∈ op.toggled s, v ∉ s.floating.windowIds) ∧
        ∀ asked ∈ op.asked s, asked.2.2 = true → asked.1 ∉ s.floating.windowIds)
    (h : Effect s op t) : t.FloatsLater window := by
  cases h with
  | steady h => exact h.floatsLater hs
  | reviewed _ h => exact h.floatsLater hs
  | toggled hop h =>
    refine h.floatsLater hs (fun heq => htoggle (heq ▸ hop)) fun hmem htiled => ?_
    exact (hbeside htiled).1 _ hop hmem
  | asked hop h =>
    refine h.floatsLater hunique hs fun _ hmem hvalue htiled => ?_
    exact (hbeside htiled).2 _ hop hvalue hmem

omit [DecidableEq Id] [PendsLastMode W] in
theorem Received.floatsLater {tile : Tile W} {target : WorkspaceAddWindowTarget Id}
    {isFloating : Bool} (hs : s.FloatsLater window)
    (hid : tile.windowId = window → floats tile target isFloating = true)
    (hbeside : window ∈ s.scrolling.windowIds → floats tile target isFloating = true)
    (h : Received s tile target isFloating t) : t.FloatsLater window := by
  unfold Received at h
  split_ifs at h with hfloats
  · exact fun c hc => hs c (h.scrolling_eq ▸ hc)
  · exact floatsLater_of_not_mem (h.added.not_mem (fun heq => hfloats (hid heq))
      fun hmem => hfloats (hbeside hmem))

end Workspace

namespace Held

variable {window : Id}

/-- A tile is placed in the space that it is to go to. -/
def PlacedAsHeld : Held W → Place Id → Prop
  | .tile removed, .tile target _ isFloating =>
    isFloating = removed.isFloating ∧ (isFloating = true → ∀ i, target ≠ .newColumnAt i)
  | .tile removed, .tileInColumn _ => removed.isFloating = false
  | _, _ => True

/-- A held tile of the window is to float, and a held column of it floats later. -/
def FloatsLater (window : Id) : Held W → Prop
  | .tile removed => removed.tile.windowId = window → removed.isFloating = true ∧
      LayoutElement.pendingSizingMode removed.tile.window = .normal
  | .column col => col.Agrees ∧ (col.windowId = window → col.FloatsLater)

variable [PendsLastMode W]

theorem pendingSizingMode_changeTile {removed : RemovedTile W}
    (h : LayoutElement.pendingSizingMode removed.tile.window = .normal) (how : Change) :
    LayoutElement.pendingSizingMode (changeTile removed how).tile.window = .normal := by
  cases how with
  | configure viewSize scale options => exact h
  | settle floatingPos floatingWindowSize => exact h
  | update serial =>
    cases serial with
    | none => exact h
    | some serial => exact (PendsLastMode.onCommit _ serial).trans h
  | refresh bounds =>
    simp only [changeTile, refreshWindow, PendsLastMode.sendPendingConfigure,
      PendsLastMode.setBounds, PendsLastMode.setInteractiveResize, PendsLastMode.setActivated,
      PendsLastMode.setFloating, PendsLastMode.setActiveInColumn, h]
  | toggleFloating =>
    simp only [changeTile, toggleFloating]
    split_ifs
    · exact PendsLastMode.requestSizeOnce _ _ _
    · exact h

theorem FloatsLater.change {held : Held W} (h : held.FloatsLater window) {how : Change}
    (hhow : how = .toggleFloating → held.windowId ≠ window) :
    (held.change how).FloatsLater window := by
  cases held with
  | column col => exact h
  | tile removed =>
    intro hid
    have hheld : removed.tile.windowId = window :=
      (windowId_change (.tile removed) how).symm.trans hid
    obtain ⟨hfloats, hnormal⟩ := h hheld
    refine ⟨?_, pendingSizingMode_changeTile hnormal how⟩
    cases how with
    | toggleFloating => exact absurd hheld (hhow rfl)
    | configure viewSize scale options => exact hfloats
    | update serial => exact hfloats
    | refresh bounds => exact hfloats
    | settle floatingPos floatingWindowSize => exact hfloats

end Held

namespace Workspace

variable [DecidableEq Id] {s : Workspace W Id} {window : Id}

/-- The window whose tile is taken out by itself. -/
def takesTile (s : Workspace W Id) : Take Id → Option Id
  | .tile id => some id
  | .activeTile => s.activeId
  | .activeColumn => none

/-- Whether a held window is to be placed in the floating space. -/
def placesFloating : Held W → Place Id → Bool
  | .tile removed, .tile target _ isFloating => floats removed.tile target isFloating
  | _, _ => false

variable [PendsLastMode W]

omit [DecidableEq Id] in
/-- A tile that is taken out of the floating space is normal. -/
theorem Taken.floatsLater {id : Id} {removed : RemovedTile W} {t : Workspace W Id}
    (hs : s.Agrees) (hid : id = window → window ∉ s.scrolling.windowIds)
    (h : Taken s id removed t) : (Held.tile removed).FloatsLater window := by
  intro hwindow
  have htile := h.tile
  split_ifs at htile with hfloats
  · obtain ⟨a, ha, -, hquiet⟩ := htile
    exact ⟨hfloats, hquiet.window.pendingSizingMode_eq.trans (hs.tiles a ha)⟩
  · obtain ⟨c, hc, hcid, heq⟩ := htile
    have hcw : c.windowId = window := by
      rw [← hwindow, heq]
      rfl
    exact absurd (hcw ▸ List.mem_map_of_mem hc) (hid (hcid.symm.trans hcw))

omit [DecidableEq Id] [PendsLastMode W] in
theorem Taken.id_eq {id : Id} {removed : RemovedTile W} {t : Workspace W Id}
    (h : Taken s id removed t) : removed.tile.windowId = id := by
  have htile := h.tile
  split_ifs at htile
  · obtain ⟨a, -, haid, hquiet⟩ := htile
    exact hquiet.window.id_eq.trans haid
  · obtain ⟨c, -, hcid, heq⟩ := htile
    rw [heq]
    exact hcid

theorem take_floatsLater (hunique : Unambiguous s) (hs : s.FloatsLater window) (clock : Clock)
    {what : Take Id}
    (hwhat : window ∈ s.scrolling.windowIds → s.takesTile what ≠ some window) :
    Ensures (s.take clock what) fun r =>
      (∀ held ∈ r.1, held.FloatsLater window) ∧ r.2.FloatsLater window := by
  have hwf := hunique.wellFormed
  cases what with
  | tile id =>
    simp only [take, ensures_bind, ensures_pure]
    refine (removeTile_taken hwf clock id).mono fun r hr => ⟨?_, hr.steady.floatsLater hs⟩
    rintro held ⟨⟩
    exact hr.floatsLater hunique.agrees fun heq hmem => hwhat hmem (congrArg some heq)
  | activeTile =>
    simp only [take, ensures_bind, ensures_pure]
    refine ((removeActiveTile_taken hwf clock).and
      (removeActiveTile_spec hwf clock).ensures).mono fun r hboth => ?_
    obtain ⟨hr, hspec⟩ := hboth
    rcases hr with rfl | ⟨id, removed, hsome, hr⟩
    · exact ⟨by simp, hs⟩
    · refine ⟨fun held hheld => ?_, hr.steady.floatsLater hs⟩
      obtain ⟨removed', hsome', rfl⟩ := Option.map_eq_some_iff.mp hheld
      obtain rfl := Option.some.inj (hsome.symm.trans hsome')
      refine hr.floatsLater hunique.agrees fun heq hmem => hwhat hmem ?_
      rcases hspec with ⟨rfl, -⟩ | ⟨removed', hsome', hactive, -⟩
      · cases hsome
      · obtain rfl := Option.some.inj (hsome.symm.trans hsome')
        exact hactive.trans (congrArg some (hr.id_eq.trans heq))
  | activeColumn =>
    simp only [take, ensures_bind, ensures_pure]
    refine (removeActiveColumn_taken hwf clock).mono fun r hr => ?_
    rcases hr with rfl | ⟨c, hc, hsome, hr⟩
    · exact ⟨by simp, hs⟩
    · refine ⟨fun held hheld => ?_, hr.floatsLater hs⟩
      obtain ⟨column, hcol, rfl⟩ := Option.map_eq_some_iff.mp hheld
      obtain rfl := Option.some.inj (hsome.symm.trans hcol)
      exact ⟨hunique.agrees.columns c hc, hs c hc⟩

omit [PendsLastMode W] in
theorem place_floatsLater (hwf : s.WellFormed) (hs : s.FloatsLater window) {held : Held W}
    (hheld : held.FloatsLater window) {how : Place Id}
    (htile : ∀ removed, held = .tile removed → removed.tile.windowId = window →
      (∀ activate, how ≠ .column activate) → placesFloating held how = true)
    (hbeside : window ∈ s.scrolling.windowIds → placesFloating held how = true) :
    Ensures (s.place held how) (FloatsLater window) := by
  cases held with
  | tile removed =>
    cases how with
    | tile target activate isFloating =>
      exact (addTile_received hwf removed.tile target activate removed.width removed.isFullWidth
        isFloating).mono fun t ht => ht.floatsLater hs
          (fun heq => htile removed rfl heq (by simp)) hbeside
    | tileInColumn activate =>
      refine ensures_pure.mpr (floatsLater_of_not_mem ?_)
      refine (addTileToColumn_tiled hwf removed.tile activate).added.not_mem (fun heq => ?_)
        fun hmem => ?_
      · cases htile removed rfl heq (by simp)
      · cases hbeside hmem
    | column activate => exact ensures_throw
  | column col =>
    cases how with
    | column activate =>
      refine ensures_pure.mpr ((addColumn_columnAdded hwf col activate).floatsLater hheld.2 ?_)
      intro hmem
      cases hbeside hmem
    | tile target activate isFloating => exact ensures_throw
    | tileInColumn activate => exact ensures_throw

end Workspace

namespace Desk

open Workspace (placesFloating Unambiguous)

variable [DecidableEq Id] {s s₀ : Desk W Id} {window : Id}

/-- Nobody asks to tile the window: it is not toggled, and it is placed as it is held.
Its id is not used again when it is gone. -/
def Op.LeavesFloating (s : Desk W Id) (window : Id) : Op W Id → Prop
  | .openWindow _ w _ _ _ _ _ => LayoutElement.id w ≠ window
  | .place j _ how => ∀ held ∈ s.held[j]?, held.windowId = window → held.PlacedAsHeld how
  | .change j .toggleFloating => ∀ held ∈ s.held[j]?, held.windowId ≠ window
  | .operate i op => ∀ ws ∈ s.workspaces[i]?, op.toggled ws ≠ some window
  | _ => True

/-- While the window takes over, nothing else is tiled in its workspace, and its tile
is not taken out by itself. -/
def Op.LeavesTakeover (s : Desk W Id) (window : Id) : Op W Id → Prop
  | .openWindow i w target _ _ _ isFloating => ∀ ws ∈ s.workspaces[i]?,
    window ∈ ws.scrolling.windowIds → Workspace.floats (ws.makeTile w) target isFloating = true
  | .take i what => ∀ ws ∈ s.workspaces[i]?,
    window ∈ ws.scrolling.windowIds → ws.takesTile what ≠ some window
  | .place j i how => ∀ held ∈ s.held[j]?, ∀ ws ∈ s.workspaces[i]?,
    window ∈ ws.scrolling.windowIds → placesFloating held how = true
  | .operate i op => ∀ ws ∈ s.workspaces[i]?, window ∈ ws.scrolling.windowIds →
    (∀ v ∈ op.toggled ws, v ∉ ws.floating.windowIds) ∧
      ∀ asked ∈ op.asked ws, asked.2.2 = true → asked.1 ∉ ws.floating.windowIds
  | _ => True

/-- A held window that is to float is placed in the floating space. -/
theorem placesFloating_of_leavesFloating {j i : ℕ} {how : Place Id} {removed : RemovedTile W}
    (hop : (Op.place j i how).LeavesFloating s window) (hheld : s.held[j]? = some (.tile removed))
    (hfloats : (Held.tile removed).FloatsLater window) (hid : removed.tile.windowId = window)
    (hcolumn : ∀ activate, how ≠ .column activate) :
    placesFloating (.tile removed) how = true := by
  have hhow := hop _ hheld hid
  obtain ⟨hfloating, hnormal⟩ := hfloats hid
  cases how with
  | column activate => exact absurd rfl (hcolumn activate)
  | tileInColumn activate =>
    rw [show removed.isFloating = false from hhow] at hfloating
    cases hfloating
  | tile target activate isFloating =>
    obtain ⟨heq, hauto⟩ := hhow
    have htrue : isFloating = true := heq.trans hfloating
    unfold placesFloating Workspace.floats
    cases target with
    | newColumnAt i => exact absurd rfl (hauto htrue i)
    | auto => simp [htrue, hnormal, SizingMode.isNormal]
    | nextTo w => simp [htrue, hnormal, SizingMode.isNormal]

omit [DecidableEq Id] in
/-- A window that floats is neither tiled nor held. -/
theorem floatsLater_of_floating (h : Sound s)
    (hall : All Workspace.Agrees HeldAgrees s) {ws : Workspace W Id} (hws : ws ∈ s.workspaces)
    (hfloats : window ∈ ws.floating.windowIds) :
    All (fun ws => ws.Agrees ∧ ws.FloatsLater window) (Held.FloatsLater window) s := by
  have hmem : window ∈ ws.windowIds := Workspace.mem_windowIds.mpr (.inr hfloats)
  obtain ⟨hspaces, -, hdisjoint⟩ := List.nodup_append.mp h.nodup
  have hheld : ∀ held ∈ s.held, held.windowId ≠ window := fun held hheld heq =>
    hdisjoint window (List.mem_flatMap.mpr ⟨ws, hws, hmem⟩) window
      (heq ▸ List.mem_map_of_mem hheld) rfl
  refine ⟨fun ws' hws' => ⟨hall.workspaces ws' hws', ?_⟩, fun held hmem => ?_⟩
  · refine Workspace.floatsLater_of_not_mem fun htiled => ?_
    obtain ⟨i, hi⟩ := List.mem_iff_getElem?.mp hws
    obtain ⟨j, hj⟩ := List.mem_iff_getElem?.mp hws'
    have hij := Vec.index_unique hspaces hi hj hmem (Workspace.mem_windowIds.mpr (.inl htiled))
    subst hij
    obtain rfl := Option.some.inj (hi.symm.trans hj)
    exact Workspace.not_mem_floating ((List.nodup_flatMap.mp hspaces).1 ws hws) htiled hfloats
  · cases held with
    | tile removed => exact fun hid => absurd hid (hheld _ hmem)
    | column col => exact ⟨hall.held _ hmem col rfl, fun hid => absurd hid (hheld _ hmem)⟩

variable [PendsLastMode W]

theorem keeps_floatsLater (h : Sound s)
    (hall : All (fun ws => ws.Agrees ∧ ws.FloatsLater window) (Held.FloatsLater window) s)
    (clock : Clock) {op : Op W Id} (hop : op.Admissible s) (hfloating : op.LeavesFloating s window)
    (htakeover : op.LeavesTakeover s window) :
    op.Keeps (fun ws => ws.Agrees ∧ ws.FloatsLater window) (Held.FloatsLater window) s clock := by
  have hlater : ∀ {i : ℕ} {ws : Workspace W Id}, s.workspaces[i]? = some ws →
      ws.FloatsLater window := fun hws => (hall.workspaces _ (List.mem_of_getElem? hws)).2
  have hunique : ∀ {i : ℕ} {ws : Workspace W Id}, s.workspaces[i]? = some ws →
      Unambiguous ws := by
    intro i ws hws
    have hmem := List.mem_of_getElem? hws
    exact ⟨h.wellFormed ws hmem, (hall.workspaces ws hmem).1,
      (List.nodup_flatMap.mp (List.nodup_append.mp h.nodup).1).1 ws hmem⟩
  cases op with
  | addWorkspace id output config options =>
    -- a new workspace has no windows
    refine ⟨⟨fun c hc => ?_, fun a ha => ?_⟩, fun c hc => ?_⟩
    · cases output <;> cases hc
    · cases output <;> cases ha
    · cases output <;> cases hc
  | removeWorkspace i => trivial
  | openWindow i w target activate width isFullWidth isFloating =>
    refine fun ws hws => (Workspace.addTile_received (hunique hws).wellFormed (ws.makeTile w) target
      activate width isFullWidth isFloating).mono fun t ht => ⟨ht.agrees (hunique hws).agrees, ?_⟩
    have hid : (ws.makeTile w).windowId ≠ window := hfloating
    exact ht.floatsLater (hlater hws) (fun heq => absurd heq hid) (htakeover ws hws)
  | take i what =>
    refine fun ws hws => ((Workspace.take_agrees (hunique hws).wellFormed (hunique hws).agrees clock
      what).and (Workspace.take_floatsLater (hunique hws) (hlater hws) clock
        (htakeover ws hws))).mono fun r ⟨hagrees, hr⟩ => ⟨hr.1, hagrees.2, hr.2⟩
  | place j i how =>
    intro held hheld ws hws
    have hlaterHeld := hall.held held (List.mem_of_getElem? hheld)
    refine (Workspace.place_agrees (hunique hws).wellFormed (hunique hws).agrees
      (fun column hcol => (hcol ▸ hlaterHeld : (Held.column column).FloatsLater window).1) how).and
      (Workspace.place_floatsLater (hunique hws).wellFormed (hlater hws) hlaterHeld ?_
        (htakeover held hheld ws hws))
    rintro removed rfl hid hcolumn
    exact placesFloating_of_leavesFloating hfloating hheld hlaterHeld hid hcolumn
  | change j how =>
    intro held hheld
    refine (hall.held held (List.mem_of_getElem? hheld)).change ?_
    rintro rfl
    exact hfloating held hheld
  | close j => trivial
  | operate i op =>
    exact fun ws hws => (Workspace.step_effect (hunique hws).wellFormed clock hop.1).mono
      fun t ht => ⟨ht.agrees (hunique hws).agrees, ht.floatsLater (hunique hws) (hlater hws)
        (hfloating ws hws) (htakeover ws hws)⟩
  | resizeOutput i output =>
    exact fun ws hws => (Workspace.resizeOutput_reviewed (hunique hws).wellFormed output).mono
      fun t ht => ⟨ht.agrees (hunique hws).agrees, ht.floatsLater (hlater hws)⟩

/-- **Windows that float again.**  From where a window floats, in a run in which nobody
asks to tile it and that leaves its takeovers alone, it floats whenever it is normal. -/
theorem floats_of_leavesTakeover (h₀ : Reachable s₀) {ws₀ : Workspace W Id}
    (hws₀ : ws₀ ∈ s₀.workspaces) (hfloats : window ∈ ws₀.floating.windowIds)
    (h : (machineFrom s₀).ReachableBy (fun s a => a.2.Admissible s ∧ a.2.LeavesFloating s window ∧
      a.2.LeavesTakeover s window) s) :
    ∀ ws ∈ s.workspaces, ws.modeOf window = some .normal → window ∈ ws.floating.windowIds := by
  have hall₀ : All Workspace.Agrees HeldAgrees s₀ :=
    all_of_reachableBy (fun _ _ ha => ha) h₀ fun s a hs hall ha => keeps_agrees hs hall a.1 ha
  obtain ⟨hsound, hall⟩ := all_from h₀.sound
    (floatsLater_of_floating h₀.sound hall₀ hws₀ hfloats) (fun _ _ ha => ha.1) h
    fun s a hs hall ha => keeps_floatsLater hs hall a.1 ha.1 ha.2.1 ha.2.2
  intro ws hws hnormal
  obtain ⟨hagrees, hlater⟩ := hall.workspaces ws hws
  have hunique := (List.nodup_flatMap.mp (List.nodup_append.mp hsound.nodup).1).1 ws hws
  obtain ⟨tile, htile, -⟩ := Option.map_eq_some_iff.mp hnormal
  have hid : tile.windowId = window := by simpa using List.find?_some htile
  rcases List.mem_append.mp (List.mem_of_find?_eq_some htile) with hmem | hmem
  · -- a tiled window takes over, and is not normal
    obtain ⟨c, hc, rfl⟩ := ScrollingSpace.mem_tiles.mp hmem
    rw [Workspace.modeOf_column hunique hc hid] at hnormal
    exact absurd (Option.some.inj hnormal) ((hlater c hc hid).mode_ne (hagrees.columns c hc))
  · exact hid ▸ List.mem_map_of_mem hmem

/-! ### A run -/

omit [PendsLastMode W]

instance (target : WorkspaceAddWindowTarget Id) : Decidable (∀ i, target ≠ .newColumnAt i) :=
  match target with
  | .auto => .isTrue fun _ => by simp
  | .nextTo _ => .isTrue fun _ => by simp
  | .newColumnAt i => .isFalse fun h => h i rfl

instance : (held : Held W) → (how : Place Id) → Decidable (held.PlacedAsHeld how)
  | .tile removed, .tile target _ isFloating => inferInstanceAs (Decidable
      (isFloating = removed.isFloating ∧ (isFloating = true → ∀ i, target ≠ .newColumnAt i)))
  | .tile removed, .tileInColumn _ => inferInstanceAs (Decidable (removed.isFloating = false))
  | .tile _, .column _ | .column _, .tile .. => .isTrue trivial
  | .column _, .tileInColumn _ | .column _, .column _ => .isTrue trivial

instance : (op : Op W Id) → Decidable (op.LeavesFloating s window)
  | .openWindow _ w _ _ _ _ _ => inferInstanceAs (Decidable (LayoutElement.id w ≠ window))
  | .place j _ how => inferInstanceAs (Decidable
      (∀ held ∈ s.held[j]?, held.windowId = window → held.PlacedAsHeld how))
  | .change j .toggleFloating =>
    inferInstanceAs (Decidable (∀ held ∈ s.held[j]?, held.windowId ≠ window))
  | .operate i op =>
    inferInstanceAs (Decidable (∀ ws ∈ s.workspaces[i]?, op.toggled ws ≠ some window))
  | .change _ (.configure ..) | .change _ (.update _) | .change _ (.refresh _) => .isTrue trivial
  | .change _ (.settle ..) | .take .. | .close _ | .resizeOutput .. => .isTrue trivial
  | .addWorkspace .. | .removeWorkspace _ => .isTrue trivial

instance : (op : Op W Id) → Decidable (op.LeavesTakeover s window)
  | .openWindow i w target _ _ _ isFloating => inferInstanceAs (Decidable
      (∀ ws ∈ s.workspaces[i]?, window ∈ ws.scrolling.windowIds →
        Workspace.floats (ws.makeTile w) target isFloating = true))
  | .take i what => inferInstanceAs (Decidable (∀ ws ∈ s.workspaces[i]?,
      window ∈ ws.scrolling.windowIds → ws.takesTile what ≠ some window))
  | .place j i how => inferInstanceAs (Decidable (∀ held ∈ s.held[j]?, ∀ ws ∈ s.workspaces[i]?,
      window ∈ ws.scrolling.windowIds → placesFloating held how = true))
  | .operate i op => inferInstanceAs (Decidable (∀ ws ∈ s.workspaces[i]?,
      window ∈ ws.scrolling.windowIds → (∀ v ∈ op.toggled ws, v ∉ ws.floating.windowIds) ∧
        ∀ asked ∈ op.asked ws, asked.2.2 = true → asked.1 ∉ ws.floating.windowIds))
  | .addWorkspace .. | .removeWorkspace _ | .change .. => .isTrue trivial
  | .close _ | .resizeOutput .. => .isTrue trivial

/-- A run to a state, and another one from there. -/
theorem exists_run_from (allowed : Desk W Id → Clock × Op W Id → Prop)
    [∀ s a, Decidable (allowed s a)] (p₀ p : Desk W Id → Bool) (as₀ as : List (Clock × Op W Id))
    (hrun : ((machine W Id).run (fun s a => a.2.Admissible s) ⟨[], []⟩ as₀).any
      (fun s₀ => p₀ s₀ && ((machineFrom s₀).run allowed s₀ as).any p) = true) :
    ∃ s₀, Reachable s₀ ∧ p₀ s₀ = true ∧
      ∃ s, (machineFrom s₀).ReachableBy allowed s ∧ p s = true := by
  obtain ⟨s₀, hs₀, hboth⟩ := Machine.exists_reachableBy (M := machine W Id) as₀ rfl hrun
  rw [Bool.and_eq_true] at hboth
  exact ⟨s₀, hs₀, hboth.1, Machine.exists_reachableBy (M := machineFrom s₀) as rfl hboth.2⟩

/-- A window opens beside a floating one that is fullscreen. -/
theorem not_floats_of_leavesFloating : ¬∀ s₀ : Desk Sample.Toplevel ℕ, Reachable s₀ →
    ∀ ws₀ ∈ s₀.workspaces, ∀ window ∈ ws₀.floating.windowIds, ∀ s,
      (machineFrom s₀).ReachableBy
        (fun s a => a.2.Admissible s ∧ a.2.LeavesFloating s window) s →
      ∀ ws ∈ s.workspaces, ws.modeOf window = some .normal → window ∈ ws.floating.windowIds := by
  intro hall
  obtain ⟨s₀, hs₀, hfloats, s, hs, hp⟩ := exists_run_from
    (fun (s : Desk Sample.Toplevel ℕ) a => a.2.Admissible s ∧ a.2.LeavesFloating s 1)
    (fun s => s.workspaces.any fun ws => decide (1 ∈ ws.floating.windowIds))
    (fun s => s.workspaces.any fun ws =>
      decide (ws.modeOf 1 = some .normal ∧ 1 ∉ ws.floating.windowIds))
    [(Sample.clock, .addWorkspace 1 (some (Sample.output 1)) none Sample.options),
      (Sample.clock, .openWindow 0 (Sample.toplevel 1) .auto .yes (.proportion (1 / 2)) false true)]
    [(Sample.clock, .operate 0 (.setFullscreen 1 true)),
      (Sample.clock,
        .openWindow 0 (Sample.toplevel 2) .auto .yes (.proportion (1 / 2)) false false)]
    (by decide +kernel)
  obtain ⟨ws₀, hws₀, hfloats⟩ := List.any_eq_true.mp hfloats
  obtain ⟨ws, hws, hp⟩ := List.any_eq_true.mp hp
  obtain ⟨hnormal, hnot⟩ := of_decide_eq_true hp
  exact hnot (hall s₀ hs₀ ws₀ hws₀ 1 (of_decide_eq_true hfloats) s hs ws hws hnormal)

/-- A floating window goes fullscreen, moves to the workspace of another output with its
column, and floats there when it is normal again. -/
theorem floats_of_leavesTakeover_two : ∃ ws : Workspace Sample.Toplevel ℕ,
    ws.windowIds = [2, 1] ∧ 1 ∈ ws.floating.windowIds := by
  obtain ⟨s₀, hs₀, hfloats, s, hs, hp⟩ := exists_run_from
    (fun (s : Desk Sample.Toplevel ℕ) a =>
      a.2.Admissible s ∧ a.2.LeavesFloating s 1 ∧ a.2.LeavesTakeover s 1)
    (fun s => s.workspaces.any fun ws => decide (1 ∈ ws.floating.windowIds))
    (fun s => s.workspaces.any fun ws =>
      decide (ws.windowIds = [2, 1] ∧ ws.modeOf 1 = some .normal))
    [(Sample.clock, .addWorkspace 1 (some (Sample.output 1)) none Sample.options),
      (Sample.clock, .addWorkspace 2 (some (Sample.output 2)) none Sample.options),
      (Sample.clock, .openWindow 0 (Sample.toplevel 1) .auto .yes (.proportion (1 / 2)) false true)]
    [(Sample.clock, .operate 0 (.setFullscreen 1 true)),
      (Sample.clock,
        .openWindow 1 (Sample.toplevel 2) .auto .yes (.proportion (1 / 2)) false false),
      (Sample.clock, .take 0 .activeColumn),
      (Sample.clock, .place 0 1 (.column true)),
      (Sample.clock, .operate 1 (.setFullscreen 1 false))]
    (by decide +kernel)
  obtain ⟨ws₀, hws₀, hfloats⟩ := List.any_eq_true.mp hfloats
  obtain ⟨ws, hws, hp⟩ := List.any_eq_true.mp hp
  obtain ⟨hids, hnormal⟩ := of_decide_eq_true hp
  exact ⟨ws, hids, floats_of_leavesTakeover hs₀ hws₀ (of_decide_eq_true hfloats) hs ws hws hnormal⟩

end Desk

end Sol
