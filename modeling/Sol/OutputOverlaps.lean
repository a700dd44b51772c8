import Sol.OutputPlacement

/-!
# Overlapping outputs

The check of a configured position rounds the size of the output, while the space reports the size
rounded up; so a check may miss that an output overlaps another one by its last pixels.

* `geometries_place`: an output gets what `placed` gives it, whatever else changes;
* `clear_placed_iff`: an output keeps clear of the ones before it if and only if the check sees what
  the space reports;
* `repositionOutputs_spec`: when no two outputs overlap.
-/

namespace Sol.OutputPlacement

open Floats OutputManagement

variable {screens : OutputId → Screen} {placed : List IRect} {data : Data} {r s : IRect}

/-! ### Rectangles -/

theorem overlaps_iff : overlaps r s = true ↔
    (r.loc.x < s.loc.x + s.size.w ∧ s.loc.x < r.loc.x + r.size.w) ∧
      r.loc.y < s.loc.y + s.size.h ∧ s.loc.y < r.loc.y + r.size.h := by
  unfold overlaps
  simp only [Bool.and_eq_true, decide_eq_true_eq]
  tauto

theorem overlaps_comm : overlaps r s = overlaps s r := by
  rw [Bool.eq_iff_iff, overlaps_iff, overlaps_iff]
  tauto

theorem overlaps_mono {size size' : ISize} {pos : IPoint} (hw : size.w ≤ size'.w)
    (hh : size.h ≤ size'.h) (h : overlaps r ⟨pos, size⟩ = true) :
    overlaps r ⟨pos, size'⟩ = true := by
  rw [overlaps_iff] at h ⊢
  dsimp only at h ⊢
  omega

/-- Nothing is to the right of all the outputs. -/
theorem not_overlaps_automaticPosition (hr : r ∈ placed) (size : ISize) :
    ¬overlaps r ⟨automaticPosition placed, size⟩ = true := by
  have hright : r.loc.x + r.size.w ≤ (automaticPosition placed).x := by
    have hmem : r.loc.x + r.size.w ∈ placed.map fun geom => geom.loc.x + geom.size.w :=
      List.mem_map_of_mem hr
    unfold automaticPosition
    cases hmax : (placed.map fun geom => geom.loc.x + geom.size.w).max? with
    | none =>
      rw [List.max?_eq_none_iff] at hmax
      rw [hmax] at hmem
      cases hmem
    | some x => exact (List.max?_eq_some_iff.mp hmax).2 _ hmem
  rw [overlaps_iff]
  dsimp only
  omega

/-! ### Sizes -/

theorem roundHalfAway_le_ceil (x : ℚ) : roundHalfAway x ≤ ⌈x⌉ := by
  have hceil := Int.le_ceil x
  unfold roundHalfAway
  split_ifs
  · have hfloor := Int.floor_le (x + 1 / 2)
    have hlt : (⌊x + 1 / 2⌋ : ℚ) < ⌈x⌉ + 1 := by linarith
    exact Int.lt_add_one_iff.mp (by exact_mod_cast hlt)
  · exact Int.ceil_mono (by linarith)

theorem castI32_mono {f g : ℚ → ℤ} (h : ∀ x, f x ≤ g x) (value : Value) :
    castI32 f value ≤ castI32 g value := by
  cases value with
  | nan => exact le_rfl
  | infinite negative => exact le_rfl
  | finite value => exact min_le_min_right _ (max_le_max_right _ (h value))

/-- The space and `output_size` turn the size at different times. -/
theorem geometrySize_eq (screen : Screen) :
    geometrySize screen = (outputSize screen).toI32Ceil := by
  unfold geometrySize outputSize transformISize transformFSize
  split_ifs <;> rfl

theorem round_le_geometrySize (screen : Screen) :
    (outputSize screen).toI32Round.w ≤ (geometrySize screen).w ∧
      (outputSize screen).toI32Round.h ≤ (geometrySize screen).h := by
  rw [geometrySize_eq]
  exact ⟨castI32_mono roundHalfAway_le_ceil _, castI32_mono roundHalfAway_le_ceil _⟩

/-! ### One output -/

/-- The position of an output whose size in the check is the given one. -/
def positionFor (size : ISize) (placed : List IRect) (data : Data) : IPoint :=
  (data.config.filter fun pos => !placed.any fun geom => overlaps geom ⟨pos, size⟩).getD
    (automaticPosition placed)

/-- Where an output is placed. -/
def placedAt (screens : OutputId → Screen) (placed : List IRect) (data : Data) : IRect :=
  ⟨positionFor (outputSize (screens data.output)).toI32Round placed data,
    geometrySize (screens data.output)⟩

/-- Where an output is placed if the check is one of its geometry. -/
def fittingAt (screens : OutputId → Screen) (placed : List IRect) (data : Data) : IRect :=
  ⟨positionFor (geometrySize (screens data.output)) placed data,
    geometrySize (screens data.output)⟩

/-- At its configured position the output overlaps another one with its size rounded up only if it
does so with its size rounded to the nearest one. -/
def CheckSuffices (screens : OutputId → Screen) (placed : List IRect) (data : Data) : Prop :=
  ∀ pos ∈ data.config,
    (∃ geom ∈ placed, overlaps geom ⟨pos, geometrySize (screens data.output)⟩ = true) →
      ∃ geom ∈ placed, overlaps geom ⟨pos, (outputSize (screens data.output)).toI32Round⟩ = true

theorem positionFor_of_none {size : ISize} (h : data.config = none) :
    positionFor size placed data = automaticPosition placed := by
  unfold positionFor
  rw [h]
  rfl

theorem positionFor_of_clear {size : ISize} {pos : IPoint} (h : data.config = some pos)
    (hclear : ¬∃ geom ∈ placed, overlaps geom ⟨pos, size⟩ = true) :
    positionFor size placed data = pos := by
  rw [← List.any_eq_true, Bool.not_eq_true] at hclear
  unfold positionFor
  rw [h, Option.filter_some, if_pos (by rw [hclear]; rfl)]
  rfl

theorem positionFor_of_overlaps {size : ISize} {pos : IPoint} (h : data.config = some pos)
    (hoverlaps : ∃ geom ∈ placed, overlaps geom ⟨pos, size⟩ = true) :
    positionFor size placed data = automaticPosition placed := by
  rw [← List.any_eq_true] at hoverlaps
  unfold positionFor
  rw [h, Option.filter_some, if_neg (by rw [hoverlaps]; exact Bool.false_ne_true)]
  rfl

theorem clear_automaticPosition (size : ISize) :
    Greedy.Clear (fun r s => overlaps r s = true) placed ⟨automaticPosition placed, size⟩ :=
  fun _ hr => not_overlaps_automaticPosition hr size

/-- An output keeps clear of the ones before it if and only if its check is as good as one of its
geometry. -/
theorem clear_placedAt_iff :
    Greedy.Clear (fun r s => overlaps r s = true) placed (placedAt screens placed data) ↔
      CheckSuffices screens placed data := by
  unfold CheckSuffices placedAt
  cases hconfig : data.config with
  | none =>
    rw [positionFor_of_none hconfig]
    exact iff_of_true (clear_automaticPosition _) nofun
  | some pos =>
    simp only [Option.mem_some_iff, forall_eq']
    by_cases hround : ∃ geom ∈ placed,
        overlaps geom ⟨pos, (outputSize (screens data.output)).toI32Round⟩ = true
    · rw [positionFor_of_overlaps hconfig hround]
      exact iff_of_true (clear_automaticPosition _) fun _ => hround
    · rw [positionFor_of_clear hconfig hround]
      constructor
      · rintro hclear ⟨geom, hgeom, hoverlaps⟩
        exact absurd hoverlaps (hclear geom hgeom)
      · intro hsuffices geom hgeom hoverlaps
        exact hround (hsuffices ⟨geom, hgeom, hoverlaps⟩)

/-- As long as the check suffices, it may be one of the geometry. -/
theorem placedAt_eq (h : CheckSuffices screens placed data) :
    placedAt screens placed data = fittingAt screens placed data := by
  unfold placedAt fittingAt
  congr 1
  cases hconfig : data.config with
  | none => rw [positionFor_of_none hconfig, positionFor_of_none hconfig]
  | some pos =>
    by_cases hgeom : ∃ geom ∈ placed,
        overlaps geom ⟨pos, geometrySize (screens data.output)⟩ = true
    · rw [positionFor_of_overlaps hconfig hgeom, positionFor_of_overlaps hconfig
        (h pos hconfig hgeom)]
    · have hround : ¬∃ geom ∈ placed,
          overlaps geom ⟨pos, (outputSize (screens data.output)).toI32Round⟩ = true := by
        rintro ⟨geom, hmem, hoverlaps⟩
        obtain ⟨hw, hh⟩ := round_le_geometrySize (screens data.output)
        exact hgeom ⟨geom, hmem, overlaps_mono hw hh hoverlaps⟩
      rw [positionFor_of_clear hconfig hgeom, positionFor_of_clear hconfig hround]

/-! ### All outputs -/

section Run

variable {self : Niri} {outputs : List Data}

theorem outputs_mapOutput {space : Space} {output : OutputId} {location : IPoint}
    (h : output ∉ Assoc.keys space.outputs) :
    (space.mapOutput output location).outputs = space.outputs ++ [(output, location)] := by
  unfold Space.mapOutput
  rw [dif_neg h]

theorem screens_place : (self.place data).screens = self.screens := by
  unfold Niri.place
  dsimp only
  split_ifs <;> rfl

theorem globalSpace_place : (self.place data).globalSpace =
    self.globalSpace.mapOutput data.output (self.newPosition data) := by
  unfold Niri.place
  dsimp only
  split_ifs <;> rfl

/-- An output that is not mapped gets its place after the others. -/
theorem geometries_place (h : data.output ∉ Assoc.keys self.globalSpace.outputs) :
    (self.place data).geometries =
      self.geometries ++ [placedAt self.screens self.geometries data] := by
  unfold Niri.geometries Niri.outputGeometry
  rw [screens_place, globalSpace_place, outputs_mapOutput h, List.map_append]
  rfl

theorem keys_place (h : data.output ∉ Assoc.keys self.globalSpace.outputs) :
    Assoc.keys (self.place data).globalSpace.outputs =
      Assoc.keys self.globalSpace.outputs ++ [data.output] := by
  rw [globalSpace_place, outputs_mapOutput h, Assoc.keys_append]
  rfl

theorem geometries_foldl
    (h : (Assoc.keys self.globalSpace.outputs ++ outputs.map Data.output).Nodup) :
    (outputs.foldl Niri.place self).geometries =
      Greedy.place (placedAt self.screens) self.geometries outputs := by
  induction outputs generalizing self with
  | nil => rfl
  | cons data outputs ih =>
    rw [List.map_cons] at h
    have hfresh : data.output ∉ Assoc.keys self.globalSpace.outputs := fun hmem =>
      (List.nodup_append.mp h).2.2 _ hmem _ List.mem_cons_self rfl
    have hrest : (Assoc.keys (self.place data).globalSpace.outputs ++
        outputs.map Data.output).Nodup := by
      rw [keys_place hfresh, List.append_assoc]
      exact h
    rw [List.foldl_cons, ih hrest, screens_place, geometries_place hfresh]
    rfl

theorem perm_placingOrder (outputs : List Data) : (placingOrder outputs).Perm outputs :=
  (List.perm_insertionSort _ _).trans (List.perm_insertionSort _ _)

variable {config : List OutputConfig} {newOutput : Option OutputId}

theorem outputs_data : (self.data config newOutput).map Data.output =
    Assoc.keys self.globalSpace.outputs ++ newOutput.toList := by
  unfold Niri.data
  rw [List.map_map]
  exact List.map_id _

theorem keys_unmapAll (space : Space) (outputs : List Data) : Assoc.keys
    (outputs.foldl (fun space data => space.unmapOutput data.output) space).outputs =
      (Assoc.keys space.outputs).filter (· ∉ outputs.map Data.output) := by
  induction outputs generalizing space with
  | nil => simp
  | cons data outputs ih =>
    have hunmap : Assoc.keys (space.unmapOutput data.output).outputs =
        (Assoc.keys space.outputs).filter (· ≠ data.output) := by
      unfold Assoc.keys
      rw [List.filter_map]
      rfl
    rw [List.foldl_cons, ih, hunmap, List.filter_filter]
    refine List.filter_congr fun output _ => ?_
    rw [List.map_cons, Bool.eq_iff_iff]
    simp [and_comm]

/-- All the outputs are unmapped. -/
theorem outputs_unmapAll : ((self.data config newOutput).foldl
    (fun space data => space.unmapOutput data.output) self.globalSpace).outputs = [] := by
  have hkeys := keys_unmapAll self.globalSpace (self.data config newOutput)
  rw [outputs_data] at hkeys
  have hnil : (Assoc.keys self.globalSpace.outputs).filter
      (· ∉ Assoc.keys self.globalSpace.outputs ++ newOutput.toList) = [] := by
    rw [List.filter_eq_nil_iff]
    intro output houtput
    simp [houtput]
  rw [hnil] at hkeys
  exact List.map_eq_nil_iff.mp hkeys

theorem nodup_placingOrder (hnew : ∀ output ∈ newOutput,
    output ∉ Assoc.keys self.globalSpace.outputs) :
    ((placingOrder (self.data config newOutput)).map Data.output).Nodup := by
  have hperm := (perm_placingOrder (self.data config newOutput)).map Data.output
  rw [hperm.nodup_iff, outputs_data]
  refine List.nodup_append.mpr ⟨self.globalSpace.nodup, ?_, ?_⟩
  · cases newOutput <;> simp
  · rintro a ha b hb rfl
    exact hnew a (Option.mem_toList.mp hb) ha

theorem geometries_repositionOutputs (hnew : ∀ output ∈ newOutput,
    output ∉ Assoc.keys self.globalSpace.outputs) :
    (self.repositionOutputs config newOutput).geometries =
      Greedy.place (placedAt self.screens) [] (placingOrder (self.data config newOutput)) := by
  unfold Niri.repositionOutputs
  dsimp only
  have hgeometries : ∀ niri : Niri, niri.globalSpace.outputs = [] →
      ((placingOrder (self.data config newOutput)).foldl Niri.place niri).geometries =
        Greedy.place (placedAt niri.screens) [] (placingOrder (self.data config newOutput)) := by
    intro niri hniri
    have hnil : niri.geometries = [] := by
      unfold Niri.geometries
      rw [hniri]
      rfl
    rw [geometries_foldl (by rw [hniri]; exact nodup_placingOrder hnew), hnil]
  exact hgeometries _ outputs_unmapAll

end Run

/-- No two mapped outputs overlap. -/
def Niri.Disjoint (self : Niri) : Prop :=
  ∀ p ∈ self.globalSpace.outputs, ∀ q ∈ self.globalSpace.outputs, p.1 ≠ q.1 →
    ¬overlaps (self.outputGeometry p) (self.outputGeometry q) = true

theorem disjoint_iff {self : Niri} : self.Disjoint ↔
    self.geometries.Pairwise fun r s => ¬overlaps r s = true := by
  unfold Niri.geometries
  rw [List.pairwise_map]
  have hnodup : self.globalSpace.outputs.Nodup := List.Nodup.of_map _ self.globalSpace.nodup
  constructor
  · intro h
    refine hnodup.pairwise_of_forall_ne fun p hp q hq hne => h p hp q hq fun hkey => hne ?_
    exact List.inj_on_of_nodup_map self.globalSpace.nodup hp hq hkey
  · intro h p hp q hq hne
    have hsymm : Std.Symm fun p q =>
        ¬overlaps (self.outputGeometry p) (self.outputGeometry q) = true :=
      ⟨fun p q hpq => by rwa [overlaps_comm]⟩
    exact h.forall hp hq fun heq => hne (congrArg Prod.fst heq)

/-- No two outputs overlap if and only if the check of each configured position sees what the space
reports, the outputs before being at the positions where a check of their geometries puts them. -/
theorem repositionOutputs_spec (self : Niri) (config : List OutputConfig)
    (newOutput : Option OutputId)
    (hnew : ∀ output ∈ newOutput, output ∉ Assoc.keys self.globalSpace.outputs) :
    (self.repositionOutputs config newOutput).Disjoint ↔
      Greedy.Along (fittingAt self.screens) (CheckSuffices self.screens) []
        (placingOrder (self.data config newOutput)) := by
  rw [disjoint_iff, geometries_repositionOutputs hnew,
    Greedy.pairwise_place fun r s => overlaps r s = true,
    Greedy.along_iff fun _ _ => clear_placedAt_iff, Greedy.along_congr fun _ _ => placedAt_eq]
  exact and_iff_right List.Pairwise.nil

/-- Outputs of whole logical sizes never overlap; only those with a configured position matter. -/
theorem disjoint_of_round_eq (self : Niri) (config : List OutputConfig)
    (newOutput : Option OutputId)
    (hnew : ∀ output ∈ newOutput, output ∉ Assoc.keys self.globalSpace.outputs)
    (hround : ∀ data ∈ self.data config newOutput, data.config ≠ none →
      (outputSize (self.screens data.output)).toI32Round =
        geometrySize (self.screens data.output)) :
    (self.repositionOutputs config newOutput).Disjoint := by
  rw [disjoint_iff, geometries_repositionOutputs hnew,
    Greedy.pairwise_place fun r s => overlaps r s = true]
  refine ⟨List.Pairwise.nil, Greedy.along_of_forall fun data hdata placed => ?_⟩
  rw [clear_placedAt_iff]
  intro pos hpos hgeom
  have hmem := (perm_placingOrder _).mem_iff.mp hdata
  rw [hround data hmem (by rw [Option.mem_def.mp hpos]; exact Option.some_ne_none pos)]
  exact hgeom

namespace Sample

def panel (connector : String) (width height : ℤ) (scale : ℚ) (h : 0 < scale) : Screen where
  name := ⟨connector, none, none, none⟩
  mode := ⟨width, height⟩
  scale := scale
  scale_pos := h
  transform := .normal

def panels : OutputId → Screen
  | 0 => panel "DP-1" 2560 1440 1 (by decide)
  | _ => panel "DP-2" 1920 1080 (7 / 4) (by decide +kernel)

/-- The first of two outputs is mapped. -/
def niri : Niri where
  screens := panels
  globalSpace := ⟨[(0, ⟨0, 0⟩)], by decide⟩
  locations _ := ⟨0, 0⟩
  sortedOutputs := [0]
  ipcOutputsChanged := false
  redraws := []

/-- The second one is to the left of the first one, by its size rounded to the nearest one. -/
def config : List OutputConfig := [⟨"DP-1", some ⟨1097, 0⟩⟩, ⟨"DP-2", some ⟨0, 0⟩⟩]

end Sample

theorem repositionOutputs_spec_niri :
    (Sample.niri.repositionOutputs Sample.config (some 1)).Disjoint ↔
      Greedy.Along (fittingAt Sample.niri.screens) (CheckSuffices Sample.niri.screens) []
        (placingOrder (Sample.niri.data Sample.config (some 1))) :=
  repositionOutputs_spec Sample.niri Sample.config (some 1) (by decide)

/-- The new output is 1098 wide, and the first one is at 1097. -/
theorem not_disjoint :
    (Sample.niri.repositionOutputs Sample.config (some 1)).globalSpace.outputs =
        [(0, ⟨1097, 0⟩), (1, ⟨0, 0⟩)] ∧
      (Sample.niri.repositionOutputs Sample.config (some 1)).geometries =
        [⟨⟨1097, 0⟩, ⟨2560, 1440⟩⟩, ⟨⟨0, 0⟩, ⟨1098, 618⟩⟩] ∧
      ¬(Sample.niri.repositionOutputs Sample.config (some 1)).Disjoint := by
  have hgeometries : (Sample.niri.repositionOutputs Sample.config (some 1)).geometries =
      [⟨⟨1097, 0⟩, ⟨2560, 1440⟩⟩, ⟨⟨0, 0⟩, ⟨1098, 618⟩⟩] := by decide +kernel
  refine ⟨by decide +kernel, hgeometries, ?_⟩
  rw [disjoint_iff, hgeometries]
  decide +kernel

end Sol.OutputPlacement
