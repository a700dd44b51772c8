import Sol.LayoutRun
import Sol.Sample
import Sol.WorkspacePresets

/-!
# The presets of windows in a layout

The configuration may come to have fewer presets, and a window may be moved to a workspace that has
fewer.  What the window remembers is one of those that there are all the same.

* `reachable_presets`: in every state that a layout reaches.
-/

namespace Sol

open Panicking

variable {W Id : Type} [LayoutElement W Id] [DecidableEq Id]

/-- A layout section that leaves no presets gets the default ones. -/
theorem Config.hasPresets_options (config : Config) : config.options.layout.HasPresets := by
  have hmerged : ∀ (parts : List LayoutPart) (layout : LayoutConfig), layout.HasPresets →
      (parts.foldl LayoutConfig.mergeWith layout).HasPresets := by
    intro parts
    induction parts with
    | nil => exact fun _ h => h
    | cons part parts ih => exact fun layout _ => ih _ (layout.hasPresets_mergeWith part)
  exact hmerged config.parts .default LayoutConfig.hasPresets_default

theorem Held.Fits.retouch {a b : RemovedTile W} (ha : Held.Fits (.tile a))
    (hb : b.tile.remembered = a.tile.remembered) : Held.Fits (.tile b) :=
  Tile.Fits.congr ha hb

/-- What tiles remember is an invariant of workspaces. -/
theorem invariant_fits : Invariant (Workspace.Fits : Workspace W Id → Prop) Held.Fits
    fun options => options.layout.HasPresets where
  mergeLayout h part := Options.hasPresets_withMergedLayout h part
  adjust h scale := Options.hasPresets_adjustedForScale h scale
  make h id output config := Workspace.fits_makeWorkspace id output config h
  step h clock _ hown hoptions := Workspace.step_fits h clock hown hoptions
  resize h output := Workspace.resizeOutput_fits h output
  label h name originalOutput := h.relabel _ _ _ _ _ originalOutput name
  modifyTile h window _ hf := h.modifyTile window hf
  take h clock what := Workspace.take_fits h clock what
  place h _ hheld how := Workspace.place_fits h hheld how
  makeTile _ window _ _ _ := Tile.fits_new window _ _ _
  retouch h hb := h.retouch hb
  configure h viewSize scale options _ := (Tile.Fits.updateConfig h viewSize scale options).toFits

namespace Layout

/-- A preset that a window remembers is there, wherever the window is, and a toggle fails only for
a window that is not there. -/
theorem reachable_presets {l : Layout W Id} (h : (machine W Id).ReachableBy anything l) :
    (∀ ws ∈ l.workspaces, ∀ tile ∈ ws.tiles, tile.Fits) ∧
      (∀ data ∈ l.moved, data.tile.Fits) ∧
      ∀ ws ∈ l.workspaces, ∀ (clock : Clock) (window : Option Id) (forwards : Bool),
        ∀ toggled ∈ [ws.runCommand clock (.toggleWidth forwards),
          ws.runWindowCommand clock window (.toggleWindowWidth forwards),
          ws.runWindowCommand clock window (.toggleWindowHeight forwards)],
          ∀ panic, toggled = .error panic → panic = .unwrapNone := by
  have hall := reachable_all invariant_fits Config.hasPresets_options h
  refine ⟨fun ws hws => (hall.workspaces ws hws).tiles, hall.moved,
    fun ws hws clock window forwards => ?_⟩
  have hfits := hall.workspaces ws hws
  have hpanic : ∀ {toggled : Outcome (Workspace W Id)},
      (Returns toggled Workspace.Fits ∨ toggled = .error .unwrapNone) →
      ∀ panic, toggled = .error panic → panic = .unwrapNone := by
    rintro _ (⟨t, rfl, -⟩ | rfl) panic hpanic
    · cases hpanic
    · exact (Except.error.inj hpanic).symm
  simp only [List.forall_mem_cons]
  exact ⟨hpanic (Workspace.toggleWidth_spec hfits clock forwards),
    hpanic (Workspace.toggleWindowWidth_spec hfits clock window forwards),
    hpanic (Workspace.toggleWindowHeight_spec hfits clock window forwards),
    fun _ hnil => absurd hnil List.not_mem_nil⟩

end Layout

/-- The layout sections of a sample configuration. -/
def Sample.config (parts : List LayoutPart) : Config where
  parts := parts
  animations := Sample.options.animations
  gestures := Sample.options.gestures
  overviewZoom := Sample.options.overviewZoom
  deactivateUnfocusedWindows := Sample.options.deactivateUnfocusedWindows
  workspaces := []

/-- A layout section with other presets for widths. -/
def Sample.presetsPart (presetColumnWidths : List PresetSize) : LayoutPart :=
  ⟨none, some presetColumnWidths, none, none, none, none, none, none, none⟩

namespace Layout

/-- A window that was toggled is moved, the configuration comes to have a single preset, and the
window is toggled again. -/
theorem reachable_presets_reloaded : ∃ l : Layout Sample.Toplevel ℕ, ∃ ws ∈ l.workspaces,
    ∃ tile ∈ ws.tiles, tile.floatingPresetWidthIdx = some 0 ∧
      0 < tile.options.layout.presetColumnWidths.length ∧
      tile.options.layout.presetColumnWidths = [.fixed 500] := by
  obtain ⟨l, hl, hp⟩ := Machine.exists_reachableBy (M := machine Sample.Toplevel ℕ)
    (p := fun l => l.workspaces.any fun ws => ws.tiles.any fun tile =>
      decide (tile.floatingPresetWidthIdx = some 0 ∧
        tile.options.layout.presetColumnWidths = [.fixed 500]))
    [(Sample.clock, .addOutput (Sample.output 1) none),
      (Sample.clock, .addWindow (Sample.toplevel 1) .auto none none false true .yes),
      (Sample.clock, .windowCommand none (.toggleWindowWidth true)),
      (Sample.clock, .moveToWorkspace none 1 .yes),
      (Sample.clock, .updateConfig (Sample.config [Sample.presetsPart [.fixed 500]])),
      (Sample.clock, .windowCommand none (.toggleWindowWidth true))]
    (show (machine Sample.Toplevel ℕ).initial (withOptionsAndWorkspaces 0 [] (Sample.config []).options)
      from ⟨0, Sample.config [], rfl⟩)
    (show ((machine Sample.Toplevel ℕ).run anything _ _).any _ = true by decide +kernel)
  obtain ⟨ws, hws, hp⟩ := List.any_eq_true.mp hp
  obtain ⟨tile, htile, hp⟩ := List.any_eq_true.mp hp
  obtain ⟨hidx, hpresets⟩ := of_decide_eq_true hp
  exact ⟨l, ws, hws, tile, htile, hidx,
    ((reachable_presets hl).1 ws hws tile htile).width 0 hidx, hpresets⟩

end Layout

end Sol
