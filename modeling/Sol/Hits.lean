import Sol.Takeovers
import Sol.WorkspaceMachine

/-!
# Hit tests

Which window of a workspace is under a point, and which edges a resize that begins there
holds.  The two walk the tiles on their own: while a column takes over, the first test looks
for it alone and where it is shown, the second one looks for all columns in their slots.

* `hitTestsAgree_iff_notObscured`: exactly when they agree.
-/

namespace Sol

/-- What is read from a window to hit-test it. -/
class Pointable (W : Type) where
  /-- The corner of the buffer, from that of the geometry. -/
  bufLoc : W → ℤ × ℤ
  isInInputRegion : W → Point → Bool
  /-- The window rule of that name. -/
  babaIsFloat : W → Bool

/-- A resize that a tile is shown in the middle of. -/
structure ResizeAnimation where
  anim : Animation
  sizeFrom : Size
  tileSizeFrom : Size

/-- What is shown at a moment: the resizes under way, and the sine of the floating windows that
bob up and down. -/
structure Frame (Id : Type) where
  clock : Clock
  resizeAnimation : Id → Option ResizeAnimation
  bobSine : ℚ

inductive HitType
  /-- The hit can receive input; the buffer is at the position. -/
  | input (winPos : Point)
  /-- The hit only activates the window. -/
  | activate (isTabIndicator : Bool)
  deriving DecidableEq, Repr

variable {W Id : Type} [LayoutElement W Id] [Pointable W]

namespace Tile

/-- A size on the way from another one. -/
def animatedSize (self : Tile W) (clock : Clock) (anim : Animation) (start size : Size) : Size :=
  let val := anim.value clock
  Size.roundPhysical
    ⟨max 1 (start.w + (size.w - start.w) * val), max 1 (start.h + (size.h - start.h) * val)⟩
    self.scale

def animatedWindowSize (self : Tile W) (frame : Frame Id) : Size :=
  match frame.resizeAnimation self.windowId with
  | some resize => self.animatedSize frame.clock resize.anim resize.sizeFrom self.windowSize
  | none => self.windowSize

def animatedTileSize (self : Tile W) (frame : Frame Id) : Size :=
  match frame.resizeAnimation self.windowId with
  | some resize => self.animatedSize frame.clock resize.anim resize.tileSizeFrom self.tileSize
  | none => self.tileSize

/-- `window_loc`, also in the middle of a resize. -/
def animatedWindowLoc (self : Tile W) (frame : Frame Id) : Point :=
  let windowSize := self.animatedWindowSize frame
  let targetSize := self.animatedTileSize frame
  Point.roundPhysical ⟨(targetSize.w - windowSize.w) / 2, (targetSize.h - windowSize.h) / 2⟩
    self.scale

def bufLoc (self : Tile W) (frame : Frame Id) : Point :=
  let loc := Pointable.bufLoc self.window
  self.animatedWindowLoc frame + ⟨loc.1, loc.2⟩

/-- How far a window with the rule is off its place. -/
def bobOffset (self : Tile W) (frame : Frame Id) : Point :=
  if Pointable.babaIsFloat self.window then
    ⟨0, roundLogicalInPhysical self.scale (self.viewSize.h / 96 * (frame.bobSine - 1))⟩
  else Point.zero

def isInInputRegion (self : Tile W) (frame : Frame Id) (point : Point) : Bool :=
  Pointable.isInInputRegion self.window (point - self.animatedWindowLoc frame)

def isInActivationRegion (self : Tile W) (point : Point) : Bool :=
  (Rect.fromSize self.tileSize).contains point

def hit (self : Tile W) (frame : Frame Id) (point : Point) : Option HitType :=
  let offset := self.bobOffset frame
  let point := point - offset
  if self.isInInputRegion frame point then some (.input (self.bufLoc frame + offset))
  else if self.isInActivationRegion point then some (.activate false)
  else none

/-- The edges within whose third of the tile a point is. -/
def resizeEdges (self : Tile W) (posWithinTile : Point) : ResizeEdge :=
  let size := self.tileSize
  let left := posWithinTile.x < size.w / 3
  let top := posWithinTile.y < size.h / 3
  { left
    right := ¬left ∧ 2 * size.w / 3 < posWithinTile.x
    top
    bottom := ¬top ∧ 2 * size.h / 3 < posWithinTile.y }

end Tile

namespace HitType

def offsetWinPos (self : HitType) (offset : Point) : HitType :=
  match self with
  | .input winPos => .input (winPos + offset)
  | .activate isTabIndicator => .activate isTabIndicator

def hitTile (frame : Frame Id) (tile : Tile W) (tilePos point : Point) : Option (W × HitType) :=
  (tile.hit frame (point - tilePos)).map fun hit => (tile.window, hit.offsetWinPos tilePos)

end HitType

/-- Whether a tile at a position is hit. -/
def Tile.isHit (frame : Frame Id) (point : Point) (entry : Tile W × Point) : Bool :=
  (entry.1.hit frame (point - entry.2)).isSome

namespace ScrollingSpace

/-- During a takeover, only the tile that takes over is there to be hit. -/
def windowUnder (self : ScrollingSpace W) (frame : Frame Id) (pos : Point) :
    Option (W × HitType) :=
  match self.takeover with
  | some (takeIdx, area) => do
    let col ← self.columnByUnifiedIdx takeIdx
    HitType.hitTile frame col.tile area.loc pos
  | none =>
    self.columnLayout.findSome? fun (unifiedIdx, tilePos, _) => do
      let col ← self.columnByUnifiedIdx unifiedIdx
      HitType.hitTile frame col.tile tilePos pos

end ScrollingSpace

namespace Workspace

/-- Fullscreen tiles hide the floating windows, unless the focus is on these. -/
def isFloatingVisible (self : Workspace W Id) : Bool :=
  self.floatingIsActive == .yes || self.floatingIsActive == .noButRaised ||
    !self.scrolling.renderAboveTopLayer

def windowUnder (self : Workspace W Id) (frame : Frame Id) (pos : Point) : Option (W × HitType) :=
  let floating :=
    if self.isFloatingVisible then
      (self.floating.tilesWithRenderPositions frame.clock).findSome? fun (tile, tilePos) =>
        HitType.hitTile frame tile tilePos pos
    else none
  floating.or (self.scrolling.windowUnder frame pos)

/-- `tiles_with_render_positions`, which says of each tile whether it is visible. -/
def tilesWithVisibility (self : Workspace W Id) (clock : Clock) : List (Tile W × Point × Bool) :=
  ((self.floating.tilesWithRenderPositions clock).map fun (tile, pos) =>
      (tile, pos, self.isFloatingVisible)) ++
    self.scrollingRenderPositions.map fun (tile, pos) => (tile, pos, true)

/-- The tile that a resize at a point is about, and where it is. -/
def resizeTileUnder (self : Workspace W Id) (frame : Frame Id) (pos : Point) :
    Option (Tile W × Point) :=
  (self.tilesWithVisibility frame.clock).findSome? fun (tile, tilePos, visible) =>
    if visible && (tile.hit frame (pos - tilePos)).isSome then some (tile, tilePos) else none

/-- The edges are those of the tile that is hit. -/
def resizeEdgesUnder (self : Workspace W Id) (frame : Frame Id) (pos : Point) :
    Option ResizeEdge :=
  (self.resizeTileUnder frame pos).map fun (tile, tilePos) => tile.resizeEdges (pos - tilePos)

/-! ### Agreement -/

/-- A resize begins exactly where a window is under the point, and on the tile of that window. -/
structure HitTestsAgree (s : Workspace W Id) (frame : Frame Id) (pos : Point) : Prop where
  edges : (s.resizeEdgesUnder frame pos).isSome = (s.windowUnder frame pos).isSome
  window : (s.resizeTileUnder frame pos).map (·.1.windowId) =
    (s.windowUnder frame pos).map fun hit => LayoutElement.id hit.1

/-- The floating windows that are shown and hit. -/
def floatingHit (s : Workspace W Id) (frame : Frame Id) (pos : Point) : Bool :=
  s.isFloatingVisible &&
    (s.floating.tilesWithRenderPositions frame.clock).any (Tile.isHit frame pos)

/-- Whether a column is hit in its slot. -/
def hitInSlot (s : Workspace W Id) (frame : Frame Id) (pos : Point) (i : ℕ) : Bool :=
  s.scrollingRenderPositions[i]?.any (Tile.isHit frame pos)

/-- Whether a column is hit at a place that is not its slot. -/
def hitAt (s : Workspace W Id) (frame : Frame Id) (pos : Point) (i : ℕ) (loc : Point) : Bool :=
  s.scrolling.columns[i]?.any fun col => Tile.isHit frame pos (col.tile, loc)

/-- A floating window is hit, or the column that takes over, if there is one, is hit where it is
shown exactly if it is hit in its slot, and no other column is hit in its slot unless it comes
later and the one that takes over is hit, too. -/
def NotObscured (s : Workspace W Id) (frame : Frame Id) (pos : Point) : Prop :=
  s.floatingHit frame pos = true ∨ ∀ takeover ∈ s.scrolling.takeover,
    s.hitAt frame pos takeover.1 takeover.2.loc = s.hitInSlot frame pos takeover.1 ∧
      ∀ i, i ≠ takeover.1 → s.hitInSlot frame pos i = true →
        s.hitAt frame pos takeover.1 takeover.2.loc = true ∧ takeover.1 < i

variable {s : Workspace W Id} {frame : Frame Id} {pos : Point}

theorem map_id_hitTile (frame : Frame Id) (pos : Point) (entry : Tile W × Point) :
    (HitType.hitTile frame entry.1 entry.2 pos).map (fun hit => LayoutElement.id hit.1) =
      if Tile.isHit frame pos entry then some entry.1.windowId else none := by
  unfold HitType.hitTile Tile.isHit
  cases entry.1.hit frame (pos - entry.2) <;> rfl

/-- The window of the first tile that is hit. -/
theorem map_id_findSome? (frame : Frame Id) (pos : Point) (l : List (Tile W × Point)) :
    (l.findSome? fun entry => HitType.hitTile frame entry.1 entry.2 pos).map
        (fun hit => LayoutElement.id hit.1) =
      (l.find? (Tile.isHit frame pos)).map (·.1.windowId) := by
  induction l with
  | nil => rfl
  | cons entry l ih =>
    have hentry := map_id_hitTile frame pos entry
    rw [List.findSome?_cons, List.find?_cons]
    cases hhit : HitType.hitTile frame entry.1 entry.2 pos with
    | none =>
      have hfalse : Tile.isHit frame pos entry = false := by
        rw [hhit] at hentry
        by_contra htrue
        simp [Bool.not_eq_false _ ▸ htrue] at hentry
      rw [hfalse]
      exact ih
    | some hit =>
      rw [hhit] at hentry
      cases htrue : Tile.isHit frame pos entry with
      | true => simpa [htrue] using hentry
      | false => simp [htrue] at hentry

theorem resizeTileUnder_eq : s.resizeTileUnder frame pos =
    ((if s.isFloatingVisible then s.floating.tilesWithRenderPositions frame.clock else []).find?
      (Tile.isHit frame pos)).or (s.scrollingRenderPositions.find? (Tile.isHit frame pos)) := by
  rw [resizeTileUnder, tilesWithVisibility, List.findSome?_append, List.findSome?_map,
    List.findSome?_map, List.find?_eq_findSome?_guard, List.find?_eq_findSome?_guard]
  congr 1
  cases s.isFloatingVisible with
  | true => rfl
  | false =>
    rw [if_neg (by decide), List.findSome?_nil, List.findSome?_eq_none_iff]
    exact fun entry _ => rfl

theorem isSome_resizeEdgesUnder :
    (s.resizeEdgesUnder frame pos).isSome = (s.resizeTileUnder frame pos).isSome := Option.isSome_map

theorem hitTestsAgree_iff : HitTestsAgree s frame pos ↔
    (s.resizeTileUnder frame pos).map (·.1.windowId) =
      (s.windowUnder frame pos).map fun hit => LayoutElement.id hit.1 := by
  refine ⟨HitTestsAgree.window, fun h => ⟨?_, h⟩⟩
  have hsome := congrArg Option.isSome h
  rwa [Option.isSome_map, Option.isSome_map, ← isSome_resizeEdgesUnder] at hsome

/-- Without a takeover the tiling space is walked slot by slot. -/
theorem windowUnder_of_no_takeover (h : s.WellFormed) (hnone : s.scrolling.takeover = none) :
    s.scrolling.windowUnder frame pos = s.scrollingRenderPositions.findSome? fun entry =>
      HitType.hitTile frame entry.1 entry.2 pos := by
  have hslots : s.scrollingRenderPositions = s.scrolling.columnLayout.filterMap fun entry =>
      (s.scrolling.columnByUnifiedIdx entry.1).map fun col => (col.tile, entry.2.1) := by
    have hindices : s.scrolling.columnLayout.map Prod.fst =
        List.range' 0 s.scrolling.columns.length := by
      rw [ScrollingSpace.map_fst_columnLayout h.scrolling, List.range_eq_range']
    have hzip := Vec.filterMap_getElem? [] s.scrolling.columns hindices
    have hmap := congrArg (List.map fun (entry : Column W × Point × Size) =>
      (entry.1.tile, entry.2.1)) hzip
    rw [List.map_filterMap] at hmap
    simp only [List.nil_append, Option.map_map, Function.comp_def] at hmap
    rw [scrollingRenderPositions, ScrollingSpace.tiles]
    simp only [ScrollingSpace.columnByUnifiedIdx_eq h.scrolling]
    rw [hmap, List.zip_map, List.zip_map_right, List.map_map]
    rfl
  rw [ScrollingSpace.windowUnder, hnone, hslots, Vec.findSome?_filterMap]
  refine congrArg (List.findSome? · s.scrolling.columnLayout) (funext fun entry => ?_)
  obtain ⟨i, tilePos, size⟩ := entry
  dsimp only
  cases s.scrolling.columnByUnifiedIdx i <;> rfl

/-- During a takeover the column that takes over is all there is to be hit. -/
theorem windowUnder_of_takeover (h : s.WellFormed) {i : ℕ} {area : Rect}
    (htake : s.scrolling.takeover = some (i, area)) :
    (s.scrolling.windowUnder frame pos).map (fun hit => LayoutElement.id hit.1) =
      if s.hitAt frame pos i area.loc then s.scrolling.columns[i]?.map (·.windowId) else none := by
  rw [ScrollingSpace.windowUnder, htake, hitAt]
  simp only [ScrollingSpace.columnByUnifiedIdx_eq h.scrolling]
  cases hcol : s.scrolling.columns[i]? with
  | none => rfl
  | some col => exact map_id_hitTile frame pos (col.tile, area.loc)

theorem hitInSlot_iff {i : ℕ} : s.hitInSlot frame pos i = true ↔
    ∃ entry, s.scrollingRenderPositions[i]? = some entry ∧ Tile.isHit frame pos entry = true := by
  rw [hitInSlot, Option.any_eq_true]

omit [Pointable W] in
/-- The columns in the order of their slots. -/
theorem windowId_scrollingRenderPositions (h : s.WellFormed) {i : ℕ} {entry : Tile W × Point}
    (hentry : s.scrollingRenderPositions[i]? = some entry) :
    s.scrolling.columns[i]?.map (·.windowId) = some entry.1.windowId := by
  have hfst := congrArg (·[i]?) (map_fst_scrollingRenderPositions h)
  simp only [List.getElem?_map, hentry, ScrollingSpace.tiles, Option.map_some] at hfst
  cases hcol : s.scrolling.columns[i]? with
  | none => simp [hcol] at hfst
  | some col =>
    rw [hcol, Option.map_some, Option.some.injEq] at hfst
    rw [Option.map_some, hfst]
    rfl

/-- The first column that is hit in its slot is the one that takes over. -/
theorem find?_eq_iff (h : s.WellFormed) (hnodup : s.windowIds.Nodup) {i : ℕ} {area : Rect}
    (htake : s.scrolling.takeover = some (i, area)) :
    ((s.scrollingRenderPositions.find? (Tile.isHit frame pos)).map (·.1.windowId) =
        if s.hitAt frame pos i area.loc then s.scrolling.columns[i]?.map (·.windowId) else none) ↔
      s.hitAt frame pos i area.loc = s.hitInSlot frame pos i ∧
        ∀ j, j ≠ i → s.hitInSlot frame pos j = true → s.hitAt frame pos i area.loc = true ∧ i < j := by
  obtain ⟨col, hcol, -⟩ := ScrollingSpace.takesOver_of_takeover htake
  rw [hcol, Option.map_some]
  have hids : s.scrolling.windowIds.Nodup := by
    rw [windowIds_eq] at hnodup
    exact hnodup.of_append_left
  cases hfind : s.scrollingRenderPositions.find? (Tile.isHit frame pos) with
  | none =>
    have hslots : ∀ j, s.hitInSlot frame pos j = false := by
      intro j
      rw [← Bool.not_eq_true, hitInSlot_iff]
      rintro ⟨entry, hentry, hhit⟩
      exact List.find?_eq_none.mp hfind entry (List.mem_of_getElem? hentry) hhit
    simp [hslots]
  | some entry =>
    obtain ⟨hhit, k, hk, hentry, hfirst⟩ := List.find?_eq_some_iff_getElem.mp hfind
    have hslot : s.hitInSlot frame pos k = true :=
      hitInSlot_iff.mpr ⟨entry, List.getElem?_eq_some_iff.mpr ⟨hk, hentry⟩, hhit⟩
    have hbefore : ∀ j < k, s.hitInSlot frame pos j = false := by
      intro j hj
      have hjk : j < s.scrollingRenderPositions.length := hj.trans hk
      rw [hitInSlot, List.getElem?_eq_getElem hjk]
      simpa using hfirst j hj
    have hid := windowId_scrollingRenderPositions h
      (List.getElem?_eq_some_iff.mpr ⟨hk, hentry⟩)
    -- different columns have different windows
    have heq : entry.1.windowId = col.windowId ↔ k = i := by
      have hkth : s.scrolling.windowIds[k]? = some entry.1.windowId := by
        rw [ScrollingSpace.windowIds, List.getElem?_map, hid]
      have hith : s.scrolling.windowIds[i]? = some col.windowId := by
        rw [ScrollingSpace.windowIds, List.getElem?_map, hcol, Option.map_some]
      rw [← List.getElem?_inj (List.getElem?_eq_some_iff.mp hkth).1 hids, hkth, hith,
        Option.some.injEq]
    constructor
    · intro hmap
      split_ifs at hmap with hplace
      · obtain rfl := heq.mp (Option.some.inj hmap)
        refine ⟨hplace.trans hslot.symm, fun j hj hhitj => ⟨hplace, ?_⟩⟩
        by_contra hle
        rw [hbefore j (by omega)] at hhitj
        cases hhitj
      · cases hmap
    · rintro ⟨hsame, hothers⟩
      by_cases hki : k = i
      · rw [if_pos (hsame.trans (hki ▸ hslot)), Option.map_some, heq.mpr hki]
      · obtain ⟨hplace, hik⟩ := hothers k hki hslot
        rw [hbefore i hik, hplace] at hsame
        cases hsame

variable [DecidableEq Id]

/-- **Hit tests.**  In every workspace into which no window is put twice, a resize begins on the
window that is under the point, and nowhere else, exactly where no takeover obscures the slots. -/
theorem hitTestsAgree_iff_notObscured
    (h : (machine W Id).ReachableBy (fun s a => a.2.Callable s) s) (frame : Frame Id)
    (pos : Point) : HitTestsAgree s frame pos ↔ NotObscured s frame pos := by
  have hwf : s.WellFormed := Reachable.wellFormed (h.mono fun s a ha => ha.1)
  have hnodup := nodup_of_callable h
  let floating := if s.isFloatingVisible then s.floating.tilesWithRenderPositions frame.clock else []
  have hfloating : s.windowUnder frame pos = (floating.findSome? fun entry =>
      HitType.hitTile frame entry.1 entry.2 pos).or (s.scrolling.windowUnder frame pos) := by
    unfold windowUnder
    dsimp only [floating]
    cases s.isFloatingVisible <;> rfl
  have hmap := map_id_findSome? frame pos floating
  rw [hitTestsAgree_iff, resizeTileUnder_eq, hfloating, NotObscured]
  change ((floating.find? _).or _).map _ = _ ↔ _
  have hany : s.floatingHit frame pos = (floating.find? (Tile.isHit frame pos)).isSome := by
    rw [List.isSome_find?, floatingHit]
    dsimp only [floating]
    cases s.isFloatingVisible <;> rfl
  rw [hany]
  cases hfind : floating.find? (Tile.isHit frame pos) with
  | some entry =>
    rw [hfind] at hmap
    obtain ⟨hit, hhit, hid⟩ := Option.map_eq_some_iff.mp hmap
    rw [hhit]
    refine iff_of_true ?_ (.inl rfl)
    exact congrArg some hid.symm
  | none =>
    rw [hfind, Option.map_none, Option.map_eq_none_iff] at hmap
    rw [hmap, Option.none_or, Option.none_or, Option.isSome_none]
    cases htake : s.scrolling.takeover with
    | none =>
      refine iff_of_true ?_ (.inr fun takeover hmem => by cases hmem)
      rw [windowUnder_of_no_takeover hwf htake, map_id_findSome?]
    | some takeover =>
      rw [windowUnder_of_takeover hwf htake, find?_eq_iff hwf hnodup htake]
      simp

end Workspace

namespace Sample

instance : Pointable Toplevel where
  bufLoc _ := (0, 0)
  isInInputRegion w point := (Rect.fromSize w.size.toF64).contains point
  babaIsFloat _ := false

/-- A moment at which nothing moves. -/
def stillFrame : Frame ℕ := ⟨clock, fun _ => none, 0⟩

/-- Opens the windows and makes the last one fullscreen; all take on their sizes. -/
def fullscreening (opened : List ℕ) (last : ℕ) : List (Clock × Workspace.Op Toplevel ℕ) :=
  (opened ++ [last]).map opening ++ (clock, .setFullscreen last true) ::
    (opened ++ [last]).map fun n => (clock, .updateWindow n (some n))

end Sample

namespace Workspace

/-- The stack window is fullscreen, and a resize in the left half of the output begins on the
master behind it. -/
theorem not_hitTestsAgree : ∃ s : Workspace Sample.Toplevel ℕ,
    (machine Sample.Toplevel ℕ).ReachableBy (fun s a => a.2.Callable s) s ∧
      (s.windowUnder Sample.stillFrame ⟨500, 500⟩).map (·.1.id) = some 2 ∧
      (s.resizeTileUnder Sample.stillFrame ⟨500, 500⟩).map (·.1.windowId) = some 1 ∧
      ¬HitTestsAgree s Sample.stillFrame ⟨500, 500⟩ := by
  obtain ⟨s, hs, hp⟩ := Machine.exists_reachableBy (M := machine Sample.Toplevel ℕ)
    (p := fun s => decide ((s.windowUnder Sample.stillFrame ⟨500, 500⟩).map (·.1.id) = some 2 ∧
      (s.resizeTileUnder Sample.stillFrame ⟨500, 500⟩).map (·.1.windowId) = some 1))
    (Sample.fullscreening [1] 2)
    (show (machine Sample.Toplevel ℕ).initial
      (newWithConfig 1 (Sample.output 1) none Sample.options) from
        ⟨_, _, _, LayoutConfig.hasPresets_default, .inl ⟨_, rfl⟩⟩)
    (show ((machine Sample.Toplevel ℕ).run (fun s a => a.2.Callable s) _ _).any _ = true by
      decide +kernel)
  obtain ⟨hunder, hresize⟩ := of_decide_eq_true hp
  refine ⟨s, hs, hunder, hresize, fun hagree => ?_⟩
  have hids := hagree.window
  rw [hresize] at hids
  exact absurd (hids.trans hunder) (by decide)

/-- A single window that is fullscreen is under the point, and a resize begins on it. -/
theorem hitTestsAgree_one : ∃ s : Workspace Sample.Toplevel ℕ, s.scrolling.takeover.isSome = true ∧
    HitTestsAgree s Sample.stillFrame ⟨500, 500⟩ := by
  obtain ⟨s, hs, hp⟩ := Machine.exists_reachableBy (M := machine Sample.Toplevel ℕ)
    (p := fun s => decide (s.scrolling.takeover = some (0, ⟨⟨0, 0⟩, ⟨1920, 1080⟩⟩) ∧
      s.hitAt Sample.stillFrame ⟨500, 500⟩ 0 ⟨0, 0⟩ = true ∧
      s.hitInSlot Sample.stillFrame ⟨500, 500⟩ 0 = true))
    (Sample.fullscreening [] 1)
    (show (machine Sample.Toplevel ℕ).initial
      (newWithConfig 1 (Sample.output 1) none Sample.options) from
        ⟨_, _, _, LayoutConfig.hasPresets_default, .inl ⟨_, rfl⟩⟩)
    (show ((machine Sample.Toplevel ℕ).run (fun s a => a.2.Callable s) _ _).any _ = true by
      decide +kernel)
  obtain ⟨htake, hplace, hslot⟩ := of_decide_eq_true hp
  refine ⟨s, by rw [htake]; rfl, (hitTestsAgree_iff_notObscured hs _ _).mpr (.inr ?_)⟩
  intro takeover hmem
  obtain rfl : takeover = (0, ⟨⟨0, 0⟩, ⟨1920, 1080⟩⟩) := by
    rw [htake] at hmem
    exact (Option.some.inj hmem).symm
  exact ⟨hplace.trans hslot.symm, fun i hi _ => ⟨hplace, Nat.pos_of_ne_zero hi⟩⟩

end Workspace

end Sol
