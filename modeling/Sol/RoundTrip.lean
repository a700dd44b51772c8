import Sol.Modes

/-!
# Fullscreen and back

Setting a window fullscreen and unsetting it again.  The flag of a column for
fullscreen replaces the one for maximized, so that a window always comes back normal.

* `setFullscreen_begins`, `setFullscreen_ends`: the two requests;
* `comesBack_iff`: a window comes back as it was exactly if it was normal.
-/

namespace Sol

open Panicking Column

variable {W Id : Type} [LayoutElement W Id]

namespace Workspace

variable {s t : Workspace W Id} {window : Id}

/-- A window that is there once is in one of the spaces. -/
theorem not_mem_floating (hunique : s.windowIds.Nodup) (hw : window ∈ s.scrolling.windowIds) :
    window ∉ s.floating.windowIds := by
  rw [windowIds_eq] at hunique
  exact fun hmem => (List.nodup_append.mp hunique).2.2 window hw window hmem rfl

theorem column_of_mem {a : ScrollingSpace W} (h : window ∈ a.windowIds) :
    ∃ c ∈ a.columns, c.windowId = window := List.mem_map.mp h

/-- The workspaces in which the two requests are looked at: every window is there once,
and the records of its mode agree. -/
structure Unambiguous (s : Workspace W Id) : Prop where
  wellFormed : s.WellFormed
  agrees : s.Agrees
  unique : s.windowIds.Nodup

theorem Unambiguous.scrolling (h : Unambiguous s) : s.scrolling.windowIds.Nodup := by
  have hunique := h.unique
  rw [windowIds_eq] at hunique
  exact (List.nodup_append.mp hunique).1

/-- The tiled windows take over nothing when a normal one is added. -/
theorem TileAdded.takesOver_eq {a b : ScrollingSpace W} {tile : Tile W} (h : TileAdded a b tile)
    (htile : LayoutElement.pendingSizingMode tile.window = .normal) :
    ∀ c ∈ b.columns, c.takesOver = false := by
  obtain ⟨-, width, isFullWidth, hcols⟩ := h
  intro d hd
  rcases hcols d hd with ⟨size, rfl⟩ | ⟨c, -, size, rfl⟩
  · rw [(sameFlags_fillSlot _ size).takesOver_eq]
    simp [takesOver, Column.updateConfig, newWithTile, htile]
  · rw [(sameFlags_fillSlot _ size).takesOver_eq, takesOver_endTakeover]

theorem isFullscreen_ask (c : Column W) (size : Size) :
    (ask .fullscreen true size c).isPendingFullscreen = true := by
  unfold ask
  cases hfull : c.isPendingFullscreen with
  | true => rw [setFullscreen_same hfull, hfull]
  | false => rw [setFullscreen_begin hfull]

/-- The window of a column that is to be fullscreen is. -/
theorem fullscreen_of_flag {c : Column W} (h : c.Agrees)
    (hfull : c.isPendingFullscreen = true) :
    LayoutElement.pendingSizingMode c.tile.window = .fullscreen := by
  rw [← h.mode_eq, Column.pendingSizingMode, if_pos hfull]

/-- What is left of a takeover after fullscreen ended. -/
theorem takesOver_unset_fullscreen {c : Column W} (h : c.Agrees)
    (hfull : c.isPendingFullscreen = true) (size : Size) :
    (ask .fullscreen false size c).takesOver = false := by
  have hmax : c.isPendingMaximized = false := by simpa [hfull] using h.one
  unfold ask
  rw [setFullscreen_end hfull]
  simp [takesOver, hmax]

variable [DecidableEq Id]

/-- The mode that a window is pending for. -/
def modeOf (s : Workspace W Id) (window : Id) : Option SizingMode :=
  (s.tiles.find? fun tile => tile.windowId = window).map fun tile =>
    LayoutElement.pendingSizingMode tile.window

theorem modeOf_eq (hunique : s.windowIds.Nodup) {tile : Tile W} (htile : tile ∈ s.tiles)
    (hid : tile.windowId = window) :
    s.modeOf window = some (LayoutElement.pendingSizingMode tile.window) := by
  have hsome : (s.tiles.find? fun tile => decide (tile.windowId = window)).isSome := by
    rw [List.find?_isSome]
    exact ⟨tile, htile, decide_eq_true hid⟩
  obtain ⟨found, hfound⟩ := Option.isSome_iff_exists.mp hsome
  have hfid : found.windowId = window := by simpa using List.find?_some hfound
  have heq : found = tile := List.inj_on_of_nodup_map hunique
    (List.mem_of_find?_eq_some hfound) htile (hfid.trans hid.symm)
  rw [modeOf, hfound, heq]
  rfl

theorem modeOf_column (hunique : s.windowIds.Nodup) {c : Column W}
    (hc : c ∈ s.scrolling.columns) (hid : c.windowId = window) :
    s.modeOf window = some (LayoutElement.pendingSizingMode c.tile.window) :=
  modeOf_eq hunique (List.mem_append_left _ (List.mem_map_of_mem hc)) hid

theorem modeOf_floating (hunique : s.windowIds.Nodup) {a : Tile W} (ha : a ∈ s.floating.tiles)
    (hid : a.windowId = window) :
    s.modeOf window = some (LayoutElement.pendingSizingMode a.window) :=
  modeOf_eq hunique (List.mem_append_right _ ha) hid

/-- The column of a window, traced back through a request. -/
theorem TookOver.column {ask : Column W → Column W} {value restoreToFloating : Bool}
    (hask : ∀ c, (ask c).windowId = c.windowId) (hunique : s.scrolling.windowIds.Nodup)
    (h : TookOver s window ask value restoreToFloating t) {d : Column W}
    (hd : d ∈ t.scrolling.columns) (hid : d.windowId = window) :
    ∃ c ∈ s.scrolling.columns, c.windowId = window ∧ ∃ e,
      (if value then e = ask c else ∃ size, e = (ask c).fillSlot size) ∧
      d = if LayoutElement.pendingSizingMode c.tile.window = .normal ∧
          LayoutElement.pendingSizingMode e.tile.window ≠ .normal
        then e.withRestore restoreToFloating else e := by
  obtain ⟨c, hc, e, hce, hde, heq⟩ := h.columns d hd
  have hcid : c.windowId = window := by
    rw [← hid, ← hce.windowId_eq hask]
    rcases hde with rfl | rfl <;> rfl
  refine ⟨c, hc, hcid, e, ?_, ?_⟩
  · obtain ⟨e', he', hfill⟩ := hce
    rcases he' with ⟨-, rfl⟩ | ⟨rfl, hne⟩
    · exact hfill
    · exact absurd hcid (hne hunique)
  · have hd := heq hunique
    simpa only [hcid, true_and] using hd

variable [PendsLastMode W]

/-- What is left of a request: the windows are the same ones. -/
theorem Unambiguous.asked {kind : Takeover} {value : Bool} (h : Unambiguous s)
    (hre : Rearranged s t) (hasked : Asked s window kind value t) : Unambiguous t :=
  ⟨hre.wellFormed, hasked.agrees h.agrees, hre.perm.nodup_iff.mpr h.unique⟩

/-- What was tiled beside a normal window takes over nothing. -/
theorem Toggled.normal (h : Toggled s window t) (hs : s.Agrees)
    (hfloats : window ∈ s.floating.windowIds) :
    ∀ c ∈ t.scrolling.columns, LayoutElement.pendingSizingMode c.tile.window = .normal := by
  intro c hc
  obtain ⟨u, hu, hut⟩ := unfloated_of_toggled h hfloats
  obtain ⟨a, ha, -, tile, hquiet, hadded⟩ := hu.tiled
  obtain ⟨b, hb, hbc⟩ := hut.scrolling.columns c hc
  have htakes := hadded.takesOver_eq
    (hquiet.window.pendingSizingMode_eq.trans (hs.tiles a ha)) b hb
  rw [← hbc.sameFlags.takesOver_eq] at htakes
  by_contra hne
  rw [((h.agrees hs).columns c hc).takesOver_iff.mpr hne] at htakes
  cases htakes

/-- After a window was set fullscreen it is tiled and fullscreen, and remembers
whether it was floating if it was normal. -/
structure IsFullscreen (s t : Workspace W Id) (window : Id) : Prop where
  tiled : window ∉ t.floating.windowIds
  column : ∃ d ∈ t.scrolling.columns, d.windowId = window ∧ d.isPendingFullscreen = true ∧
    (s.modeOf window = some .normal →
      (d.tile.restoreToFloating = true ↔ window ∈ s.floating.windowIds))

theorem setFullscreen_begins (h : Unambiguous s) (clock : Clock) (hw : window ∈ s.windowIds) :
    Returns (s.setFullscreen clock window true) fun t =>
      Unambiguous t ∧ Rearranged s t ∧ IsFullscreen s t window := by
  refine ((setFullscreen_rearranged h.wellFormed clock hw true).and_ensures
    (setFullscreen_asked h.wellFormed clock window true)).mono fun t ⟨hre, hasked⟩ => ?_
  have ht := h.asked hre hasked
  refine ⟨ht, hre, ?_⟩
  have hmem : window ∉ t.floating.windowIds → window ∈ t.scrolling.windowIds :=
    (mem_windowIds.mp (hre.perm.mem_iff.mpr hw)).resolve_right
  cases hasked with
  | ignored _ hvalue _ => cases hvalue
  | restored _ hvalue _ _ => cases hvalue
  | @began u hfloats _ hu hre' hmem' htook =>
    have hunique : u.windowIds.Nodup := hre'.perm.nodup_iff.mpr h.unique
    have htiled : window ∉ t.floating.windowIds := by
      rw [htook.floating_eq]
      exact not_mem_floating hunique hmem'
    refine ⟨htiled, ?_⟩
    obtain ⟨d, hd, hid⟩ := column_of_mem (hmem htiled)
    have hu' : u.scrolling.windowIds.Nodup := by
      rw [windowIds_eq] at hunique
      exact (List.nodup_append.mp hunique).1
    obtain ⟨c, hc, -, e, he, hde⟩ := htook.column (windowId_ask _ _ _) hu' hd hid
    obtain rfl : e = ask .fullscreen true u.scrolling.workingArea.size c := he
    have hagrees := (hu.agrees h.agrees).columns c hc
    have hfull := isFullscreen_ask c u.scrolling.workingArea.size
    have hmode := fullscreen_of_flag (agrees_ask hagrees .fullscreen _) hfull
    rw [if_pos ⟨hu.normal h.agrees hfloats c hc, by rw [hmode]; decide⟩] at hde
    refine ⟨d, hd, hid, hde ▸ hfull, fun _ => ⟨fun _ => hfloats, fun _ => hde ▸ rfl⟩⟩
  | asked hfloats htook _ =>
    have htiled : window ∉ t.floating.windowIds := htook.floating_eq ▸ hfloats
    refine ⟨htiled, ?_⟩
    obtain ⟨d, hd, hid⟩ := column_of_mem (hmem htiled)
    obtain ⟨c, hc, hcid, e, he, hde⟩ := htook.column (windowId_ask _ _ _) h.scrolling hd hid
    obtain rfl : e = ask .fullscreen true s.scrolling.workingArea.size c := he
    have hfull := isFullscreen_ask c s.scrolling.workingArea.size
    have hmode := fullscreen_of_flag
      (agrees_ask (h.agrees.columns c hc) .fullscreen s.scrolling.workingArea.size) hfull
    refine ⟨d, hd, hid, ?_, fun hnormal => ?_⟩
    · rw [hde]
      split_ifs <;> exact hfull
    · rw [modeOf_column h.unique hc hcid] at hnormal
      rw [if_pos ⟨Option.some.inj hnormal, by rw [hmode]; decide⟩] at hde
      rw [hde]
      exact ⟨nofun, fun hmem => absurd hmem hfloats⟩

theorem setFullscreen_ends (h : Unambiguous s) (clock : Clock) {d : Column W}
    (hd : d ∈ s.scrolling.columns) (hid : d.windowId = window)
    (hfull : d.isPendingFullscreen = true) (hfloats : window ∉ s.floating.windowIds) :
    Returns (s.setFullscreen clock window false) fun t => t.modeOf window = some .normal ∧
      (window ∈ t.floating.windowIds ↔ d.tile.restoreToFloating = true) := by
  have hw : window ∈ s.windowIds :=
    mem_windowIds.mpr (.inl (hid ▸ List.mem_map_of_mem hd))
  refine ((setFullscreen_rearranged h.wellFormed clock hw false).and_ensures
    (setFullscreen_asked h.wellFormed clock window false)).mono fun t ⟨hre, hasked⟩ => ?_
  have ht := h.asked hre hasked
  have hsame : ∀ c ∈ s.scrolling.columns, c.windowId = window → c = d :=
    fun c hc hcid => ScrollingSpace.column_eq h.scrolling hc hd (hcid.trans hid.symm)
  cases hasked with
  | ignored hmem _ _ => exact absurd hmem hfloats
  | began _ hvalue _ _ _ _ => cases hvalue
  | restored _ _ htoggled hback =>
    obtain ⟨c, hc, hcid, hrestore⟩ := hback
    obtain ⟨-, -, -, hmem⟩ := floated_of_toggled htoggled hfloats
    obtain ⟨a, ha, haid⟩ := List.mem_map.mp hmem
    refine ⟨?_, fun _ => hsame c hc hcid ▸ hrestore, fun _ => hmem⟩
    rw [modeOf_floating ht.unique ha haid, ht.agrees.tiles a ha]
  | asked _ htook hstays =>
    have htiled : window ∉ t.floating.windowIds := htook.floating_eq ▸ hfloats
    have hmem : window ∈ t.scrolling.windowIds :=
      (mem_windowIds.mp (hre.perm.mem_iff.mpr hw)).resolve_right htiled
    obtain ⟨b, hb, hbid⟩ := column_of_mem hmem
    obtain ⟨c, hc, hcid, e, he, hbe⟩ := htook.column (windowId_ask _ _ _) h.scrolling hb hbid
    obtain rfl := hsame c hc hcid
    have hagrees := h.agrees.columns c hc
    have htakes : b.takesOver = false := by
      obtain ⟨size, rfl⟩ : ∃ size, e = (ask .fullscreen false _ c).fillSlot size := he
      have hunset := takesOver_unset_fullscreen hagrees hfull s.scrolling.workingArea.size
      rw [← (sameFlags_fillSlot _ size).takesOver_eq] at hunset
      rw [hbe]
      split_ifs <;> exact hunset
    refine ⟨?_, fun hmem => absurd hmem htiled, fun hrestore => ?_⟩
    · rw [modeOf_column ht.unique hb hbid]
      by_contra hne
      have hmode : LayoutElement.pendingSizingMode b.tile.window ≠ .normal := fun heq =>
        hne (congrArg some heq)
      rw [(ht.agrees.columns b hb).takesOver_iff.mpr hmode] at htakes
      cases htakes
    · obtain ⟨c', hc', hcid', hkeeps⟩ := hstays rfl
      obtain rfl := hsame c' hc' hcid'
      have hmode : c'.pendingSizingMode = Takeover.fullscreen.mode := by
        rw [hagrees.mode_eq, fullscreen_of_flag hagrees hfull]
        rfl
      rw [hkeeps hagrees hmode] at hrestore
      cases hrestore

/-- A window that is set fullscreen, and then unset, has its mode and its space back. -/
def ComesBack (s : Workspace W Id) (window : Id) (clock clock' : Clock) : Prop :=
  Returns (s.setFullscreen clock window true >>= fun t => t.setFullscreen clock' window false)
    fun t => t.modeOf window = s.modeOf window ∧
      (window ∈ t.floating.windowIds ↔ window ∈ s.floating.windowIds)

/-- A window always comes back normal, and a normal one to the space it came from. -/
theorem setFullscreen_unset (h : Unambiguous s) (clock clock' : Clock) (hw : window ∈ s.windowIds) :
    Returns (s.setFullscreen clock window true >>= fun t => t.setFullscreen clock' window false)
      fun t => t.modeOf window = some .normal ∧ (s.modeOf window = some .normal →
        (window ∈ t.floating.windowIds ↔ window ∈ s.floating.windowIds)) := by
  rw [returns_bind]
  refine (setFullscreen_begins h clock hw).mono fun t ⟨ht, hre, htiled, hcol⟩ => ?_
  obtain ⟨d, hd, hid, hfull, hrestore⟩ := hcol
  exact (setFullscreen_ends ht clock' hd hid hfull htiled).mono fun u hu =>
    ⟨hu.1, fun hnormal => hu.2.trans (hrestore hnormal)⟩

end Workspace

namespace Desk

open Workspace

variable [DecidableEq Id] [PendsLastMode W] {s : Desk W Id}

theorem unambiguous_of_reachable (h : Reachable s) {ws : Workspace W Id}
    (hws : ws ∈ s.workspaces) : Unambiguous ws := by
  have hsound := h.sound
  have hall : All Workspace.Agrees HeldAgrees s :=
    all_of_reachableBy (fun _ _ ha => ha) h fun s a hs hall ha => keeps_agrees hs hall a.1 ha
  refine ⟨hsound.wellFormed ws hws, hall.workspaces ws hws, ?_⟩
  have hunique := (List.nodup_append.mp hsound.nodup).1
  exact (List.nodup_flatMap.mp hunique).1 ws hws

/-- **Fullscreen and back.**  A window in a reachable workspace that is set fullscreen and
then unset has its mode and its space back exactly if it was normal. -/
theorem comesBack_iff (h : Reachable s) {ws : Workspace W Id} (hws : ws ∈ s.workspaces)
    {window : Id} (hw : window ∈ ws.windowIds) (clock clock' : Clock) :
    ws.ComesBack window clock clock' ↔ ws.modeOf window = some .normal := by
  have hunset := setFullscreen_unset (unambiguous_of_reachable h hws) clock clock' hw
  constructor
  · intro hback
    obtain ⟨t, -, ⟨hsame, -⟩, hnormal, -⟩ := hback.and_ensures hunset.ensures
    exact hsame.symm.trans hnormal
  · intro hnormal
    exact hunset.mono fun t ht => ⟨ht.1.trans hnormal.symm, ht.2 hnormal⟩

/-- A window that was maximized comes back normal. -/
theorem not_comesBack : ¬∀ s : Desk Sample.Toplevel ℕ, Reachable s → ∀ ws ∈ s.workspaces,
    ∀ window ∈ ws.windowIds, ws.ComesBack window Sample.clock Sample.clock := by
  intro hall
  obtain ⟨s, hs, hp⟩ := Machine.exists_reachableBy (M := machine Sample.Toplevel ℕ)
    (p := fun s => s.workspaces.any fun ws => decide (1 ∈ ws.windowIds) &&
      match ws.setFullscreen Sample.clock 1 true >>= fun t =>
        t.setFullscreen Sample.clock 1 false with
      | .ok t => decide (t.modeOf 1 ≠ ws.modeOf 1)
      | .error _ => false)
    [(Sample.clock, .addWorkspace 1 (some (Sample.output 1)) none Sample.options),
      (Sample.clock, .openWindow 0 (Sample.toplevel 1) .auto .yes (.proportion (1 / 2)) false false),
      (Sample.clock, .operate 0 (.setMaximized 1 true))]
    (show (machine Sample.Toplevel ℕ).initial ⟨[], []⟩ from rfl)
    (show ((machine Sample.Toplevel ℕ).run (fun s a => a.2.Admissible s) _ _).any _ = true by
      decide +kernel)
  obtain ⟨ws, hws, hp⟩ := List.any_eq_true.mp hp
  rw [Bool.and_eq_true, decide_eq_true_eq] at hp
  obtain ⟨t, ht, hmode, -⟩ := hall s hs ws hws 1 hp.1
  rw [ht] at hp
  exact of_decide_eq_true hp.2 hmode

/-- A floating window floats again. -/
theorem comesBack_iff_floating : ∃ ws : Workspace Sample.Toplevel ℕ,
    1 ∈ ws.floating.windowIds ∧ ws.ComesBack 1 Sample.clock Sample.clock := by
  obtain ⟨s, hs, hp⟩ := Machine.exists_reachableBy (M := machine Sample.Toplevel ℕ)
    (p := fun s => s.workspaces.any fun ws => decide (1 ∈ ws.windowIds ∧
      1 ∈ ws.floating.windowIds ∧ ws.modeOf 1 = some .normal))
    [(Sample.clock, .addWorkspace 1 (some (Sample.output 1)) none Sample.options),
      (Sample.clock, .openWindow 0 (Sample.toplevel 1) .auto .yes (.proportion (1 / 2)) false true),
      (Sample.clock, .openWindow 0 (Sample.toplevel 2) .auto .yes (.proportion (1 / 2)) false false)]
    (show (machine Sample.Toplevel ℕ).initial ⟨[], []⟩ from rfl)
    (show ((machine Sample.Toplevel ℕ).run (fun s a => a.2.Admissible s) _ _).any _ = true by
      decide +kernel)
  obtain ⟨ws, hws, hp⟩ := List.any_eq_true.mp hp
  obtain ⟨hmem, hfloats, hnormal⟩ := of_decide_eq_true hp
  exact ⟨ws, hfloats, (comesBack_iff hs hws hmem Sample.clock Sample.clock).mpr hnormal⟩

end Desk

end Sol
