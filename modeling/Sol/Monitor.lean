import Sol.Workspace

/-!
# Monitors

A monitor shows one of its workspaces and slides or fades from one to another.
The workspaces are static: the functions that used to put an empty workspace at
either end do nothing any more, while the indices around them are still moved.
-/

namespace Sol

open Panicking

/-! ### Switching between workspaces -/

/-- A workspace switch under way by a gesture. -/
structure WorkspaceSwitchGesture where
  /-- Index of the workspace where the gesture was started. -/
  centerIdx : ℕ
  /-- Fractional index where it was started, as it may catch an animation. -/
  startIdx : ℚ
  currentIdx : ℚ
  animation : Option Animation
  tracker : SwipeTracker
  isTouchpad : Bool
  /-- Whether it is clamped to one workspace around the centre. -/
  isClamped : Bool
  dndLastEventTime : Option Duration
  /-- Since when the drag scrolls. -/
  dndNonzeroStartTime : Option Duration

inductive WorkspaceSwitch
  | animation (anim : Animation)
  | gesture (gesture : WorkspaceSwitchGesture)

inductive InsertWorkspace
  | existing (id : WorkspaceId)
  | newAt (idx : ℕ)
  deriving DecidableEq, Repr

/-- Where an interactively moved window is about to go. -/
structure InsertHint where
  workspace : InsertWorkspace
  position : InsertPosition
  deriving DecidableEq, Repr

/-- How far the overview is open, as a monitor sees it. -/
inductive MonitorOverviewProgress
  | animation (anim : Animation)
  | value (v : ℚ)

/-- Where to put a newly added window. -/
inductive MonitorAddWindowTarget (Id : Type)
  | auto
  | workspace (id : WorkspaceId) (columnIdx : Option ℕ)
  | nextTo (window : Id)
  deriving DecidableEq, Repr

/-- `f64::clamp`, which asserts that the bounds are ordered. -/
def clampAsserting (lo hi x : ℚ) : Outcome ℚ := do
  assert (lo ≤ hi)
  pure (clamp lo hi x)

/-- The zoom of the overview, within sane bounds. -/
def computeOverviewZoom (options : Options) (overviewProgress : Option ℚ) : ℚ :=
  let zoom := clamp (1 / 10000) (3 / 4) options.overviewZoom
  match overviewProgress with
  | some p => max (1 - p * (1 - zoom)) (1 / 10000)
  | none => 1

namespace WorkspaceSwitchGesture

/-- The indices between which the gesture moves. -/
def minMax (self : WorkspaceSwitchGesture) (workspaceCount : ℕ) : Outcome (ℚ × ℚ) := do
  let last ← checkedSub workspaceCount 1
  if self.isClamped then
    pure (((self.centerIdx - 1 : ℕ) : ℚ), ((min (self.centerIdx + 1) last : ℕ) : ℚ))
  else pure (0, (last : ℚ))

def animateFrom (self : WorkspaceSwitchGesture) (clock : Clock) (start : ℚ)
    (config : AnimationConfig) : WorkspaceSwitchGesture :=
  let current := self.animation.elim 0 (·.value clock)
  { self with animation := some (.new clock (start + current) 0 0 config) }

/-- Turns a drag towards a workspace, from where it is. -/
def retarget (self : WorkspaceSwitchGesture) (clock : Clock) (idx : ℕ) (config : AnimationConfig) :
    WorkspaceSwitchGesture :=
  let currentPos := self.currentIdx - self.startIdx
  { self with centerIdx := idx, startIdx := idx - currentPos, currentIdx := idx }.animateFrom clock
    (-(idx - self.currentIdx)) config

end WorkspaceSwitchGesture

namespace WorkspaceSwitch

def currentIdx (self : WorkspaceSwitch) (clock : Clock) : ℚ :=
  match self with
  | animation anim => anim.value clock
  | gesture g => g.currentIdx + g.animation.elim 0 (·.value clock)

def targetIdx : WorkspaceSwitch → ℚ
  | animation anim => anim.target
  | gesture g => g.currentIdx

/-- Moves the switch by one workspace down. -/
def offsetOne : WorkspaceSwitch → WorkspaceSwitch
  | animation anim => .animation (anim.offset 1)
  | gesture g =>
    .gesture { g with
      centerIdx := g.centerIdx + 1, startIdx := g.startIdx + 1, currentIdx := g.currentIdx + 1 }

end WorkspaceSwitch

namespace MonitorOverviewProgress

def current (self : MonitorOverviewProgress) (clock : Clock) : ℚ :=
  match self with
  | animation anim => anim.value clock
  | value v => v

end MonitorOverviewProgress

structure Monitor (W Id : Type) where
  output : Output
  workspaces : List (Workspace W Id)
  /-- Index of the workspace that is shown. -/
  activeWorkspaceIdx : ℕ
  previousWorkspaceId : Option WorkspaceId
  workspaceSwitch : Option WorkspaceSwitch
  insertHint : Option InsertHint
  overviewOpen : Bool
  overviewProgress : Option MonitorOverviewProgress
  scale : ℚ
  viewSize : Size
  workingArea : Rect
  /-- The options as received from the layout. -/
  baseOptions : Options
  /-- The options with the overrides of the monitor. -/
  options : Options
  layoutConfig : Option LayoutPart

namespace Workspace

variable {W Id : Type}

/-- A workspace without a name becomes an output's own. -/
def claimFor (self : Workspace W Id) (output : Output) : Workspace W Id :=
  if self.name.isNone then { self with originalOutput := OutputId.new output } else self

/-- Gives a workspace the output and the options of a monitor. -/
def attach [LayoutElement W Id] (self : Workspace W Id) (output : Output) (options : Options) :
    Outcome (Workspace W Id) := do
  let self ← self.setOutput (some output)
  pure (self.updateConfig options)

end Workspace

namespace Monitor

variable {W Id : Type}

/-- What `Monitor::new` does to each workspace it is given. -/
def prepare [LayoutElement W Id] (output : Output) (options : Options) (ws : Workspace W Id) :
    Outcome (Workspace W Id) := do
  assert (ws.hasWindowsOrName = true)
  ws.attach output options

/-- The last workspace with an id, else the first workspace. -/
def idxToActivate (workspaces : List (Workspace W Id)) (wsIdToActivate : Option WorkspaceId) : ℕ :=
  workspaces.zipIdx.foldl (fun active (ws, idx) =>
    if wsIdToActivate.any fun id => ws.id = id then idx else active) 0

/-- New workspaces with consecutive ids. -/
def freshWorkspaces [LayoutElement W Id] (nextId : WorkspaceId) (output : Output)
    (options : Options) (count : ℕ) : List (Workspace W Id) :=
  (List.range count).map fun i => Workspace.new (nextId + i) output options

/-- A monitor with the given workspaces, and empty ones up to the configured
count; with the next workspace id. -/
def new [LayoutElement W Id] (nextId : WorkspaceId) (output : Output)
    (workspaces : List (Workspace W Id)) (wsIdToActivate : Option WorkspaceId)
    (baseOptions : Options) (layoutConfig : Option LayoutPart) :
    Outcome (Monitor W Id × WorkspaceId) := do
  let options := baseOptions.withMergedLayout layoutConfig
  let activeWorkspaceIdx := idxToActivate workspaces wsIdToActivate
  let workspaces ← workspaces.mapM (prepare output options)
  let workspaceCount := max options.layout.workspaceCount.toNat 1
  let missing := workspaceCount - workspaces.length
  pure ({
    output
    workspaces := workspaces ++ freshWorkspaces nextId output options missing
    activeWorkspaceIdx
    previousWorkspaceId := none
    workspaceSwitch := none
    insertHint := none
    overviewOpen := false
    overviewProgress := none
    scale := output.scale
    viewSize := output.size
    workingArea := output.workingArea
    baseOptions, options, layoutConfig }, nextId + missing)

variable [LayoutElement W Id]

def intoWorkspaces (self : Monitor W Id) : Outcome (List (Workspace W Id)) :=
  (self.workspaces.filter (·.hasWindowsOrName)).mapM (·.setOutput none)

def activeWorkspaceRef (self : Monitor W Id) : Outcome (Workspace W Id) :=
  Vec.get self.workspaces self.activeWorkspaceIdx

/-- The windows of all workspaces, in order. -/
def windowIds (self : Monitor W Id) : List Id := self.workspaces.flatMap (·.windowIds)

/-- Runs an operation of the workspace at an index. -/
def onWorkspace (self : Monitor W Id) (idx : ℕ)
    (f : Workspace W Id → Outcome (Workspace W Id)) : Outcome (Monitor W Id) := do
  let workspaces ← Vec.apply self.workspaces idx f
  pure { self with workspaces }

/-! ### Geometry -/

def workspaceSize (self : Monitor W Id) (zoom : ℚ) : Size :=
  Size.ceilPhysical ⟨self.viewSize.w * zoom, self.viewSize.h * zoom⟩ self.scale

def workspaceGap (self : Monitor W Id) (zoom : ℚ) : ℚ :=
  roundLogicalInPhysicalMax1 self.scale (self.viewSize.h * (1 / 10) * zoom)

/-- The height of `workspace_size_with_gap`. -/
def workspaceHeightWithGap (self : Monitor W Id) (zoom : ℚ) : ℚ :=
  (self.workspaceSize zoom).h + self.workspaceGap zoom

def overviewZoom (self : Monitor W Id) (clock : Clock) : ℚ :=
  computeOverviewZoom self.options (self.overviewProgress.map (·.current clock))

/-- Where the view is between the workspaces. A switch that runs along with the
overview's zoom is corrected so that it looks monotonic. -/
def workspaceRenderIdx (self : Monitor W Id) (clock : Clock) : ℚ :=
  let plain := match self.workspaceSwitch with
    | some switch => switch.currentIdx clock
    | none => self.activeWorkspaceIdx
  match self.workspaceSwitch, self.overviewProgress with
  | some (.animation switch), some (.animation progress) =>
    if switch.startTime = progress.startTime ∧
        |switch.duration.asSecsF64 - progress.duration.asSecsF64| ≤ 1 / 1000 then
      let fromHeight :=
        self.workspaceHeightWithGap (computeOverviewZoom self.options (some progress.start))
      let height := self.workspaceHeightWithGap (self.overviewZoom clock)
      -- how far the first workspace is above the view
      let firstWsY := switch.value clock * fromHeight - switch.target * (fromHeight - height)
      firstWsY / height
    else plain
  | _, _ => plain

/-- The rectangles of the workspaces, and one past the last. -/
def workspacesRenderGeo (self : Monitor W Id) (clock : Clock) : List Rect :=
  let wsSize := self.workspaceSize (self.overviewZoom clock)
  let height := wsSize.h + self.workspaceGap (self.overviewZoom clock)
  let staticOffset :=
    ((self.viewSize.toPoint - wsSize.toPoint).downscale 2).roundPhysical self.scale
  let firstWsY := roundLogicalInPhysical self.scale (-self.workspaceRenderIdx clock * height)
  (List.range (self.workspaces.length + 1)).map fun (idx : ℕ) =>
    ⟨((⟨0, firstWsY + idx * height⟩ : Point) + staticOffset).roundPhysical self.scale, wsSize⟩

/-- The workspaces that are within the output, with their indices. -/
def workspacesWithRenderGeoIdx (self : Monitor W Id) (clock : Clock) :
    List ((ℕ × Workspace W Id) × Rect) :=
  let outputGeo := Rect.fromSize self.viewSize
  let numbered := self.workspaces.zipIdx.map fun (ws, idx) => (idx, ws)
  (numbered.zip (self.workspacesRenderGeo clock)).filter fun (_, geo) => geo.overlaps outputGeo

/-- The workspace at a position, over the whole width of the output. -/
def workspaceUnder (self : Monitor W Id) (clock : Clock) (pos : Point) :
    Option (Workspace W Id × Rect) :=
  (self.workspacesWithRenderGeoIdx clock).findSome? fun ((_, ws), geo) =>
    let bounds : Rect := ⟨⟨0, geo.loc.y⟩, ⟨self.viewSize.w, geo.size.h⟩⟩
    if bounds.contains pos then some (ws, geo) else none

def workspaceUnderNarrow (self : Monitor W Id) (clock : Clock) (pos : Point) :
    Option (Workspace W Id) :=
  (self.workspacesWithRenderGeoIdx clock).findSome? fun ((_, ws), geo) =>
    if geo.contains pos then some ws else none

/-- Whether a rectangle contains a position vertically. -/
def containsY (pos : Point) (loc : ℚ) (height : ℚ) : Bool := loc ≤ pos.y && pos.y < loc + height

/-- The walk down the visible workspaces: each gap, then the workspace below it. -/
def insertPositionBelow (pos : Point) (lastIdx : ℕ) (lastGeo : Rect) :
    List ((ℕ × Workspace W Id) × Rect) → InsertWorkspace × Rect
  | [] => (.newAt (lastIdx + 1), ⟨.zero, ⟨0, 0⟩⟩)
  | ((idx, ws), geo) :: rest =>
    let gapY := lastGeo.loc.y + lastGeo.size.h
    if containsY pos gapY (geo.loc.y - gapY) then (.newAt idx, ⟨.zero, ⟨0, 0⟩⟩)
    else if containsY pos geo.loc.y geo.size.h then (.existing ws.id, geo)
    else insertPositionBelow pos idx geo rest

/-- The workspace, or the place for one, at a position. -/
def insertPosition (self : Monitor W Id) (clock : Clock) (pos : Point) :
    Outcome (InsertWorkspace × Rect) :=
  match self.workspacesWithRenderGeoIdx clock with
  | [] => .error .unwrapNone
  | ((idx, ws), geo) :: rest =>
    if pos.y < geo.loc.y then pure (.newAt idx, ⟨.zero, ⟨0, 0⟩⟩)
    else if containsY pos geo.loc.y geo.size.h then pure (.existing ws.id, geo)
    else pure (insertPositionBelow pos idx geo rest)

def setOverviewProgress (self : Monitor W Id) (clock : Clock)
    (progress : Option MonitorOverviewProgress) : Monitor W Id :=
  let prevRenderIdx := self.workspaceRenderIdx clock
  let self := { self with overviewProgress := progress }
  let newRenderIdx := self.workspaceRenderIdx clock
  -- a view that jumps restarts the switch
  match self.workspaceSwitch with
  | some (.animation anim) =>
    if prevRenderIdx ≠ newRenderIdx then
      { self with
        workspaceSwitch := some (.animation (anim.restarted clock prevRenderIdx anim.target 0)) }
    else self
  | _ => self

/-! ### Activating a workspace -/

/-- The previous workspace, once the workspace at an index is activated. -/
def previousWorkspaceIdAfter (self : Monitor W Id) (idx : ℕ) : Outcome (Option WorkspaceId) :=
  if self.activeWorkspaceIdx ≠ idx then do
    let active ← Vec.get self.workspaces self.activeWorkspaceIdx
    pure (some active.id)
  else pure self.previousWorkspaceId

/-- The switch to the workspace at an index. A drag is turned there; else nothing
is animated if nothing changed. -/
def switchTo (self : Monitor W Id) (clock : Clock) (idx : ℕ) (config : AnimationConfig) :
    Option WorkspaceSwitch :=
  let animated := if self.activeWorkspaceIdx = idx then self.workspaceSwitch
    else some (.animation (.new clock (self.workspaceRenderIdx clock) idx 0 config))
  match self.workspaceSwitch with
  | some (.gesture g) =>
    if g.dndLastEventTime.isSome then some (.gesture (g.retarget clock idx config)) else animated
  | _ => animated

def activateWorkspaceWithAnimConfig (self : Monitor W Id) (clock : Clock) (idx : ℕ)
    (config : Option AnimationConfig) : Outcome (Monitor W Id) := do
  let previousWorkspaceId ← self.previousWorkspaceIdAfter idx
  let config := config.getD self.options.animations.workspaceSwitch
  pure { self with
    previousWorkspaceId, activeWorkspaceIdx := idx
    workspaceSwitch := self.switchTo clock idx config }

def activateWorkspace (self : Monitor W Id) (clock : Clock) (idx : ℕ) : Outcome (Monitor W Id) :=
  self.activateWorkspaceWithAnimConfig clock idx none

/-! ### Adding and removing workspaces -/

/-- Workspaces are static, so this does nothing. -/
def addWorkspaceTop (self : Monitor W Id) : Monitor W Id := self

/-- Workspaces are static, so this does nothing. -/
def addWorkspaceBottom (self : Monitor W Id) : Monitor W Id := self

/-- An index after the call that used to insert an empty workspace on top, if it
is made for that index. -/
def belowTop (self : Monitor W Id) (idx : ℕ) : ℕ :=
  if self.options.layout.emptyWorkspaceAboveFirst ∧ idx = 0 then idx + 1 else idx

/-- The adjustments around the workspace at an index: the calls that used to
insert empty workspaces at the ends, and the index after them. -/
def padAround (self : Monitor W Id) (idx : ℕ) : Monitor W Id × ℕ :=
  let self := if idx = self.workspaces.length - 1 then self.addWorkspaceBottom else self
  (if self.options.layout.emptyWorkspaceAboveFirst ∧ idx = 0 then self.addWorkspaceTop else self,
    self.belowTop idx)

def addWorkspaceAt (self : Monitor W Id) (id : WorkspaceId) (idx : ℕ) :
    Outcome (Monitor W Id) := do
  let ws := Workspace.new id self.output self.options
  let workspaces ← Vec.insert self.workspaces idx ws
  pure { self with
    workspaces
    activeWorkspaceIdx :=
      if idx ≤ self.activeWorkspaceIdx then self.activeWorkspaceIdx + 1 else self.activeWorkspaceIdx
    workspaceSwitch := self.workspaceSwitch.map fun switch =>
      if (idx : ℚ) ≤ switch.targetIdx then switch.offsetOne else switch }

/-- Empty workspaces remain. -/
def cleanUpWorkspaces (self : Monitor W Id) : Outcome (Monitor W Id) := do
  assert (self.workspaceSwitch.isNone = true)
  pure self

/-- Cleans up unless a switch is under way. -/
def cleanUpIfStill (self : Monitor W Id) : Outcome (Monitor W Id) :=
  if self.workspaceSwitch.isNone then self.cleanUpWorkspaces else pure self

def unnameWorkspace (self : Monitor W Id) (id : WorkspaceId) : Outcome (Monitor W Id × Bool) :=
  match self.workspaces.findIdx? fun ws => ws.id = id with
  | none => pure (self, false)
  | some idx => do
    let self := { self with workspaces := self.workspaces.modify idx (·.unname) }
    let self ← self.cleanUpIfStill
    pure (self, true)

def removeWorkspaceByIdx (self : Monitor W Id) (idx : ℕ) :
    Outcome (Workspace W Id × Monitor W Id) := do
  let _ ← checkedSub self.workspaces.length 1
  let (self, idx) := self.padAround idx
  let (ws, workspaces) ← Vec.remove self.workspaces idx
  let ws ← ws.setOutput none
  -- the previous workspace is focused, rather than the next
  let activeWorkspaceIdx :=
    if idx ≤ self.activeWorkspaceIdx ∧ 0 < self.activeWorkspaceIdx then self.activeWorkspaceIdx - 1
    else self.activeWorkspaceIdx
  let self ← cleanUpWorkspaces
    { self with workspaces, activeWorkspaceIdx, workspaceSwitch := none }
  pure (ws, self)

/-- Not past the last workspace, and not before the first if that is to be empty. -/
def insertionIdx (self : Monitor W Id) (idx : ℕ) : Outcome ℕ :=
  if idx = self.workspaces.length then do
    let idx ← checkedSub idx 1
    pure (self.belowTop idx)
  else pure (self.belowTop idx)

/-- An inserted workspace is activated without a switch. -/
def activateInserted (self : Monitor W Id) (clock : Clock) (idx : ℕ) (activate : Bool) :
    Outcome (Monitor W Id) :=
  if activate then activateWorkspace { self with workspaceSwitch := none } clock idx else pure self

def insertWorkspace (self : Monitor W Id) (clock : Clock) (ws : Workspace W Id) (idx : ℕ)
    (activate : Bool) : Outcome (Monitor W Id) := do
  let ws ← ws.attach self.output self.options
  let idx ← self.insertionIdx idx
  let workspaces ← Vec.insert self.workspaces idx ws
  let activeWorkspaceIdx :=
    if idx ≤ self.activeWorkspaceIdx then self.activeWorkspaceIdx + 1 else self.activeWorkspaceIdx
  let self ← activateInserted { self with workspaces, activeWorkspaceIdx } clock idx activate
  cleanUpWorkspaces { self with workspaceSwitch := none }

/-- The given workspaces go before the last one, which stays focused if it was. -/
def appendWorkspaces (self : Monitor W Id) (workspaces : List (Workspace W Id)) :
    Outcome (Monitor W Id) :=
  if workspaces.isEmpty then pure self
  else do
    let workspaces ← workspaces.mapM (·.attach self.output self.options)
    let last ← checkedSub self.workspaces.length 1
    let emptyWasFocused := self.activeWorkspaceIdx = last
    let (empty, rest) ← Vec.remove self.workspaces last
    let self := { self with workspaces := rest ++ workspaces ++ [empty] }
    let self :=
      if self.options.layout.emptyWorkspaceAboveFirst ∧
          (self.workspaces.head?.any (·.hasWindowsOrName)) = true then self.addWorkspaceTop
      else self
    let self := if emptyWasFocused then
      { self with activeWorkspaceIdx := self.workspaces.length - 1 } else self
    cleanUpWorkspaces { self with workspaceSwitch := none }

/-! ### Moving workspaces -/

/-- Activates the workspace that was moved, without a switch and without a
change of the previous workspace. -/
def settleOn (self : Monitor W Id) (clock : Clock) (idx : ℕ) : Outcome (Monitor W Id) := do
  let previousWorkspaceId := self.previousWorkspaceId
  let self ← self.activateWorkspace clock idx
  cleanUpWorkspaces { self with workspaceSwitch := none, previousWorkspaceId }

def moveWorkspaceDown (self : Monitor W Id) (clock : Clock) : Outcome (Monitor W Id) := do
  let last ← checkedSub self.workspaces.length 1
  let newIdx := min (self.activeWorkspaceIdx + 1) last
  if newIdx = self.activeWorkspaceIdx then pure self
  else do
    let workspaces ← Vec.swap self.workspaces self.activeWorkspaceIdx newIdx
    let self := { self with workspaces }
    let self := if newIdx = last then self.addWorkspaceBottom else self
    if self.options.layout.emptyWorkspaceAboveFirst ∧ self.activeWorkspaceIdx = 0 then
      self.addWorkspaceTop.settleOn clock (newIdx + 1)
    else self.settleOn clock newIdx

def moveWorkspaceUp (self : Monitor W Id) (clock : Clock) : Outcome (Monitor W Id) := do
  let newIdx := self.activeWorkspaceIdx - 1
  if newIdx = self.activeWorkspaceIdx then pure self
  else do
    let workspaces ← Vec.swap self.workspaces self.activeWorkspaceIdx newIdx
    let self := { self with workspaces }
    let self :=
      if self.activeWorkspaceIdx = self.workspaces.length - 1 then self.addWorkspaceBottom else self
    if self.options.layout.emptyWorkspaceAboveFirst ∧ newIdx = 0 then
      self.addWorkspaceTop.settleOn clock (newIdx + 1)
    else self.settleOn clock newIdx

/-- The index of the moved workspace, after room was made at the top. -/
def movedIdx (self : Monitor W Id) (oldIdx newIdx : ℕ) : ℕ :=
  let first := if newIdx > oldIdx then oldIdx else newIdx
  if self.options.layout.emptyWorkspaceAboveFirst ∧ first = 0 then newIdx + 1 else newIdx

/-- The active index after the workspace at `oldIdx` went to `newIdx`. -/
def activeIdxAfterMove (self : Monitor W Id) (oldIdx newIdx : ℕ) : ℕ :=
  let active := self.activeWorkspaceIdx
  if active = oldIdx then newIdx
  else if newIdx ≤ active ∧ oldIdx > active then active + 1
  else if newIdx ≥ active ∧ oldIdx < active then active - 1
  else active

def moveWorkspaceToIdx (self : Monitor W Id) (oldIdx newIdx : ℕ) : Outcome (Monitor W Id) :=
  if self.workspaces.length ≤ oldIdx then pure self
  else
    let newIdx := min newIdx (self.workspaces.length - 1)
    if oldIdx = newIdx then pure self
    else do
      let (ws, workspaces) ← Vec.remove self.workspaces oldIdx
      let workspaces ← Vec.insert workspaces newIdx ws
      let newIdx := self.movedIdx oldIdx newIdx
      let activeWorkspaceIdx := self.activeIdxAfterMove oldIdx newIdx
      cleanUpWorkspaces { self with workspaces, activeWorkspaceIdx, workspaceSwitch := none }

/-! ### Switching -/

/-- Whether the view is dragged between the workspaces. -/
def dragged (self : Monitor W Id) : Option WorkspaceSwitchGesture :=
  match self.workspaceSwitch with
  | some (.gesture g) => if g.dndLastEventTime.isSome then some g else none
  | _ => none

/-- The workspace above the active one; during a drag, above the apparent one. -/
def switchWorkspaceUp (self : Monitor W Id) (clock : Clock) : Outcome (Monitor W Id) := do
  match self.dragged with
  | some g =>
    let last ← checkedSub self.workspaces.length 1
    self.activateWorkspace clock ⌊clamp 0 last (⌈g.currentIdx⌉ - 1)⌋.toNat
  | none => self.activateWorkspace clock (self.activeWorkspaceIdx - 1)

def switchWorkspaceDown (self : Monitor W Id) (clock : Clock) : Outcome (Monitor W Id) := do
  let last ← checkedSub self.workspaces.length 1
  match self.dragged with
  | some g => self.activateWorkspace clock ⌊clamp 0 last (⌊g.currentIdx⌋ + 1)⌋.toNat
  | none => self.activateWorkspace clock (min (self.activeWorkspaceIdx + 1) last)

def previousWorkspaceIdx (self : Monitor W Id) : Option ℕ :=
  self.previousWorkspaceId.bind fun id => self.workspaces.findIdx? fun ws => ws.id = id

def switchWorkspace (self : Monitor W Id) (clock : Clock) (idx : ℕ) : Outcome (Monitor W Id) := do
  let last ← checkedSub self.workspaces.length 1
  self.activateWorkspace clock (min idx last)

def switchWorkspacePrevious (self : Monitor W Id) (clock : Clock) : Outcome (Monitor W Id) :=
  match self.previousWorkspaceIdx with
  | some idx => self.switchWorkspace clock idx
  | none => pure self

def switchWorkspaceAutoBackAndForth (self : Monitor W Id) (clock : Clock) (idx : ℕ) :
    Outcome (Monitor W Id) := do
  let last ← checkedSub self.workspaces.length 1
  if min idx last = self.activeWorkspaceIdx then self.switchWorkspacePrevious clock
  else self.switchWorkspace clock (min idx last)

/-! ### Gestures -/

def workspaceGestureMovement : ℚ := 300

def workspaceDndEdgeScrollMovement : ℚ := 1500

def workspaceGestureRubberBand (zoom : ℚ) : RubberBand := ⟨1 / 2, 1 / 20 / zoom⟩

def workspaceSwitchGestureBegin (self : Monitor W Id) (clock : Clock) (isTouchpad : Bool) :
    Monitor W Id :=
  let currentIdx := self.workspaceRenderIdx clock
  { self with workspaceSwitch := some (.gesture
      { centerIdx := self.activeWorkspaceIdx
        startIdx := currentIdx
        currentIdx
        animation := none
        tracker := .new
        isTouchpad
        isClamped := !self.overviewOpen
        dndLastEventTime := none
        dndNonzeroStartTime := none }) }

/-- Only in the overview, and once. -/
def dndScrollGestureBegin (self : Monitor W Id) (clock : Clock) : Monitor W Id :=
  if self.dragged.isSome then self
  else if !self.overviewOpen then self
  else
    let currentIdx := self.workspaceRenderIdx clock
    { self with workspaceSwitch := some (.gesture
        { centerIdx := self.activeWorkspaceIdx
          startIdx := currentIdx
          currentIdx
          animation := none
          tracker := .new
          isTouchpad := false
          isClamped := false
          dndLastEventTime := some clock.nowUnadjusted
          dndNonzeroStartTime := none }) }

def gestureTotalHeight (self : Monitor W Id) (g : WorkspaceSwitchGesture) : ℚ :=
  if g.dndLastEventTime.isSome then workspaceDndEdgeScrollMovement
  else if g.isTouchpad then workspaceGestureMovement
  else self.workspaceHeightWithGap 1

/-- Whether the gesture belongs to the kind of device; if so, whether it moved. -/
def workspaceSwitchGestureUpdate (self : Monitor W Id) (clock : Clock) (deltaY : ℚ)
    (timestamp : Duration) (isTouchpad : Bool) : Outcome (Monitor W Id × Option Bool) :=
  match self.workspaceSwitch with
  | some (.gesture g) =>
    if g.isTouchpad ≠ isTouchpad ∨ g.dndLastEventTime.isSome = true then pure (self, none)
    else do
      let zoom := self.overviewZoom clock
      -- the zoom has less of an effect on the touchpad
      let deltaScale := if g.isTouchpad then (zoom - 1) / (5 / 2) + 1 else zoom
      let tracker := g.tracker.push (deltaY / deltaScale) timestamp
      let (lo, hi) ← g.minMax self.workspaces.length
      assert (lo ≤ hi)
      let newIdx := (workspaceGestureRubberBand zoom).clamp lo hi
        (g.startIdx + tracker.pos / self.gestureTotalHeight g)
      let g' := { g with tracker, currentIdx := newIdx }
      pure ({ self with workspaceSwitch := some (.gesture g') },
        some (decide (g.currentIdx ≠ newIdx)))
  | _ => pure (self, none)

/-- How far a drag at a position is inside the scrolling zone, in its height. -/
def dndScrollDelta (self : Monitor W Id) (clock : Clock) (pos : Point) : Outcome ℚ := do
  let width := self.viewSize.w * self.overviewZoom clock
  let x := pos.x - (self.viewSize.w - width) / 2
  let height := self.workingArea.size.h
  let y ← clampAsserting 0 height (pos.y - self.workingArea.loc.y)
  let trigger ← clampAsserting 0 (height / 2) self.options.gestures.dndEdgeWorkspaceSwitch.trigger
  let delta :=
    if x < 0 ∨ width ≤ x then 0
    else if y < trigger then -(trigger - y)
    else if height - y < trigger then trigger - (height - y)
    else 0
  pure (if trigger < 1 / 100 then 0 else delta / trigger)

/-- Scrolls while a drag is in the zone for long enough; whether it is in it. -/
def dndScrollGestureScroll (self : Monitor W Id) (clock : Clock) (pos : Point) (speed : ℚ) :
    Outcome (Monitor W Id × Bool) :=
  match self.workspaceSwitch with
  | some (.gesture g) =>
    match g.dndLastEventTime with
    | none => pure (self, false)
    | some lastTime => do
      let config := self.options.gestures.dndEdgeWorkspaceSwitch
      let delta ← self.dndScrollDelta clock pos
      let delta := delta * speed
      let now := clock.nowUnadjusted
      let g := { g with dndLastEventTime := some now }
      if delta = 0 then
        let g := { g with dndNonzeroStartTime := none }
        pure ({ self with workspaceSwitch := some (.gesture g) }, false)
      else
        let nonzeroStart := g.dndNonzeroStartTime.getD now
        let g := { g with dndNonzeroStartTime := some nonzeroStart }
        if now - nonzeroStart < Animation.ofMillis config.delayMs then
          pure ({ self with workspaceSwitch := some (.gesture g) }, true)
        else do
          let timeDelta := Duration.asSecsF64 (now - lastTime)
          let tracker := g.tracker.push (delta * timeDelta * config.maxSpeed) now
          let unclamped := g.startIdx + tracker.pos / workspaceDndEdgeScrollMovement
          let (lo, hi) ← g.minMax self.workspaces.length
          let clamped ← clampAsserting lo hi unclamped
          let g := { g with
            tracker, startIdx := g.startIdx + (clamped - unclamped), currentIdx := clamped }
          pure ({ self with workspaceSwitch := some (.gesture g) }, true)
  | _ => pure (self, false)

/-- Whether a gesture was there to end; the view goes to the workspace it is flung to. -/
def workspaceSwitchGestureEnd (self : Monitor W Id) (clock : Clock) (isTouchpad : Option Bool) :
    Outcome (Monitor W Id × Bool) :=
  match self.workspaceSwitch with
  | some (.gesture g) =>
    if isTouchpad.any (· ≠ g.isTouchpad) then pure (self, false)
    else do
      let totalHeight := self.gestureTotalHeight g
      -- idle time between the last event and now
      let tracker := g.tracker.push 0 clock.nowUnadjusted
      let (lo, hi) ← g.minMax self.workspaces.length
      let newIdx ← clampAsserting lo hi (g.startIdx + tracker.projectedEndPos / totalHeight)
      let newIdx := (roundHalfAway newIdx).toNat
      let band := workspaceGestureRubberBand (self.overviewZoom clock)
      let velocity := tracker.velocity / totalHeight *
        band.clampDerivative lo hi (g.startIdx + tracker.pos / totalHeight)
      let previousWorkspaceId ← self.previousWorkspaceIdAfter newIdx
      let anim := Animation.new clock g.currentIdx newIdx velocity
        self.options.animations.workspaceSwitch
      pure ({ self with
        previousWorkspaceId, activeWorkspaceIdx := newIdx
        workspaceSwitch := some (.animation anim) }, true)
  | _ => pure (self, false)

def dndScrollGestureEnd (self : Monitor W Id) (clock : Clock) : Outcome (Monitor W Id) :=
  if self.dragged.isSome then do
    let (self, _) ← self.workspaceSwitchGestureEnd clock none
    pure self
  else pure self

/-- Keeps the time of a drag's last event up to date, and drops a slide that is over. -/
def advanceGesture (clock : Clock) (g : WorkspaceSwitchGesture) : WorkspaceSwitchGesture :=
  let g := match g.dndLastEventTime with
    | some lastTime =>
      if lastTime ≠ clock.nowUnadjusted then
        { g with dndLastEventTime := some clock.nowUnadjusted, dndNonzeroStartTime := none }
      else g
    | none => g
  { g with animation := g.animation.filter fun anim => !anim.isDone clock }

def advanceSwitch (self : Monitor W Id) (clock : Clock) : Outcome (Monitor W Id) :=
  match self.workspaceSwitch with
  | some (.animation anim) =>
    if anim.isDone clock then cleanUpWorkspaces { self with workspaceSwitch := none } else pure self
  | some (.gesture g) =>
    pure { self with workspaceSwitch := some (.gesture (advanceGesture clock g)) }
  | none => pure self

def advanceAnimations (self : Monitor W Id) (clock : Clock) : Outcome (Monitor W Id) := do
  let self ← self.advanceSwitch clock
  pure { self with workspaces := self.workspaces.map (·.advanceAnimations clock) }

/-! ### Configuration and output -/

/-- A first workspace that need not be empty any more is removed. -/
def trimFirst (self : Monitor W Id) (options : Options) : Monitor W Id :=
  if self.options.layout.emptyWorkspaceAboveFirst ≠ options.layout.emptyWorkspaceAboveFirst ∧
      self.workspaces.length > 1 then
    if options.layout.emptyWorkspaceAboveFirst then self.addWorkspaceTop
    else if self.workspaceSwitch.isNone = true ∧ self.activeWorkspaceIdx ≠ 0 then
      { self with
        workspaces := self.workspaces.tail, activeWorkspaceIdx := self.activeWorkspaceIdx - 1 }
    else self
  else self

def updateConfig (self : Monitor W Id) (baseOptions : Options) : Monitor W Id :=
  let options := baseOptions.withMergedLayout self.layoutConfig
  let self := self.trimFirst options
  { self with workspaces := self.workspaces.map (·.updateConfig options), baseOptions, options }

def updateLayoutConfig (self : Monitor W Id) (layoutConfig : Option LayoutPart) : Monitor W Id :=
  if self.layoutConfig = layoutConfig then self
  else { self with layoutConfig }.updateConfig self.baseOptions

/-- The state of the output is shared by all its handles; here it is passed. -/
def updateOutputSize (self : Monitor W Id) (output : Output) : Outcome (Monitor W Id) := do
  let workspaces ← self.workspaces.mapM fun ws =>
    { ws with output := ws.output.map fun _ => output }.updateOutputSize
  pure { self with
    output, workspaces
    scale := output.scale, viewSize := output.size, workingArea := output.workingArea }

/-! ### Windows -/

variable [DecidableEq Id]

def hasWindow (self : Monitor W Id) (window : Id) : Bool :=
  self.workspaces.any (·.hasWindow window)

def activeWindow (self : Monitor W Id) : Outcome (Option W) := do
  let ws ← self.activeWorkspaceRef
  pure ws.activeWindow

/-- The index of the target workspace, and the place within it. -/
def resolveAddWindowTarget (self : Monitor W Id) :
    MonitorAddWindowTarget Id → Outcome (ℕ × WorkspaceAddWindowTarget Id)
  | .auto => pure (self.activeWorkspaceIdx, .auto)
  | .workspace id columnIdx => do
    let idx ← unwrap (self.workspaces.findIdx? fun ws => ws.id = id)
    pure (idx, columnIdx.elim .auto .newColumnAt)
  | .nextTo window => do
    let idx ← unwrap (self.workspaces.findIdx? (·.hasWindow window))
    pure (idx, .nextTo window)

def addTile (self : Monitor W Id) (clock : Clock) (tile : Tile W)
    (target : MonitorAddWindowTarget Id) (activate : ActivateWindow)
    (allowToActivateWorkspace : Bool) (width : ColumnWidth) (isFullWidth isFloating : Bool) :
    Outcome (Monitor W Id) := do
  let (workspaceIdx, target) ← self.resolveAddWindowTarget target
  let self ← self.onWorkspace workspaceIdx fun ws => do
    let ws ← ws.addTile tile target activate width isFullWidth isFloating
    pure (ws.claimFor self.output)
  let (self, workspaceIdx) := self.padAround workspaceIdx
  if allowToActivateWorkspace && activate.mapSmart false then
    self.activateWorkspace clock workspaceIdx
  else pure self

/-- Any workspace can make the tile, as all of a monitor make the same. -/
def addWindow (self : Monitor W Id) (clock : Clock) (window : W)
    (target : MonitorAddWindowTarget Id) (activate : ActivateWindow) (width : ColumnWidth)
    (isFullWidth isFloating : Bool) : Outcome (Monitor W Id) := do
  let first ← Vec.get self.workspaces 0
  self.addTile clock (first.makeTile window) target activate true width isFullWidth isFloating

def addColumn (self : Monitor W Id) (clock : Clock) (workspaceIdx : ℕ) (column : Column W)
    (activate : Bool) : Outcome (Monitor W Id) := do
  let self ← self.onWorkspace workspaceIdx fun ws =>
    pure ((ws.addColumn column activate).claimFor self.output)
  let (self, workspaceIdx) := self.padAround workspaceIdx
  if activate then self.activateWorkspace clock workspaceIdx else pure self

def addTileToColumn (self : Monitor W Id) (clock : Clock) (workspaceIdx : ℕ) (tile : Tile W)
    (activate allowToActivateWorkspace : Bool) : Outcome (Monitor W Id) := do
  let self ← self.onWorkspace workspaceIdx fun ws =>
    pure ((ws.addTileToColumn tile activate).claimFor self.output)
  if allowToActivateWorkspace && activate then self.activateWorkspace clock workspaceIdx
  else pure self

/-- Adds a tile that was taken out to the workspace with an id. -/
def addRemoved (self : Monitor W Id) (clock : Clock) (removed : RemovedTile W) (id : WorkspaceId)
    (activate : ActivateWindow) : Outcome (Monitor W Id) :=
  self.addTile clock removed.tile (.workspace id none) activate true removed.width
    removed.isFullWidth removed.isFloating

/-- Moves the active tile to the workspace at another index. -/
def moveActiveTile (self : Monitor W Id) (clock : Clock) (newIdx : ℕ)
    (activate : ActivateWindow) : Outcome (Monitor W Id) :=
  if newIdx = self.activeWorkspaceIdx then pure self
  else do
    let new ← Vec.get self.workspaces newIdx
    let (removed, workspaces) ← Vec.update self.workspaces self.activeWorkspaceIdx
      (·.removeActiveTile clock)
    match removed with
    | none => pure { self with workspaces }
    | some removed => addRemoved { self with workspaces } clock removed new.id activate

def moveToWorkspaceUp (self : Monitor W Id) (clock : Clock) (focus : Bool) :
    Outcome (Monitor W Id) :=
  self.moveActiveTile clock (self.activeWorkspaceIdx - 1) (if focus then .yes else .smart)

def moveToWorkspaceDown (self : Monitor W Id) (clock : Clock) (focus : Bool) :
    Outcome (Monitor W Id) := do
  let last ← checkedSub self.workspaces.length 1
  self.moveActiveTile clock (min (self.activeWorkspaceIdx + 1) last) (if focus then .yes else .smart)

/-- The workspace that a move starts from. -/
def sourceWorkspaceIdx (self : Monitor W Id) : Option Id → Outcome ℕ
  | some window => unwrap (self.workspaces.findIdx? (·.hasWindow window))
  | none => pure self.activeWorkspaceIdx

/-- A window given is followed if it is the active one. -/
def followsMoved (self : Monitor W Id) (window : Option Id) : ActivateWindow → Outcome Bool
  | .yes => pure true
  | .no => pure false
  | .smart => match window with
    | none => pure true
    | some window => do
      let active ← self.activeWindow
      pure (decide (active.map LayoutElement.id = some window))

/-- Takes out a window, or the active tile if there is one. -/
def takeTile (clock : Clock) (window : Option Id) (ws : Workspace W Id) :
    Outcome (Option (RemovedTile W) × Workspace W Id) :=
  match window with
  | some window => do
    let (removed, ws) ← ws.removeTile clock window
    pure (some removed, ws)
  | none => ws.removeActiveTile clock

def moveToWorkspace (self : Monitor W Id) (clock : Clock) (window : Option Id) (idx : ℕ)
    (activate : ActivateWindow) : Outcome (Monitor W Id) := do
  let sourceIdx ← self.sourceWorkspaceIdx window
  let last ← checkedSub self.workspaces.length 1
  let newIdx := min idx last
  if newIdx = sourceIdx then pure self
  else do
    let new ← Vec.get self.workspaces newIdx
    let activate ← self.followsMoved window activate
    let (removed, workspaces) ← Vec.update self.workspaces sourceIdx (takeTile clock window)
    match removed with
    | none => pure { self with workspaces }
    | some removed => do
      let self ← addRemoved { self with workspaces } clock removed new.id
        (if activate then .yes else .no)
      self.cleanUpIfStill

/-- Moves the active column to the workspace at another index. What is active in
the floating space moves as a window. -/
def moveActiveColumn (self : Monitor W Id) (clock : Clock) (newIdx : ℕ) (activate : Bool)
    (moveFloating : Outcome (Monitor W Id)) : Outcome (Monitor W Id) :=
  if newIdx = self.activeWorkspaceIdx then pure self
  else do
    let ws ← self.activeWorkspaceRef
    if ws.floatingIsActive.get then moveFloating
    else do
      let (column, workspaces) ← Vec.update self.workspaces self.activeWorkspaceIdx
        (·.removeActiveColumn clock)
      match column with
      | none => pure { self with workspaces }
      | some column => addColumn { self with workspaces } clock newIdx column activate

def moveColumnToWorkspaceUp (self : Monitor W Id) (clock : Clock) (activate : Bool) :
    Outcome (Monitor W Id) :=
  self.moveActiveColumn clock (self.activeWorkspaceIdx - 1) activate
    (self.moveToWorkspaceUp clock activate)

def moveColumnToWorkspaceDown (self : Monitor W Id) (clock : Clock) (activate : Bool) :
    Outcome (Monitor W Id) := do
  let last ← checkedSub self.workspaces.length 1
  self.moveActiveColumn clock (min (self.activeWorkspaceIdx + 1) last) activate
    (self.moveToWorkspaceDown clock activate)

def moveColumnToWorkspace (self : Monitor W Id) (clock : Clock) (idx : ℕ) (activate : Bool) :
    Outcome (Monitor W Id) := do
  let last ← checkedSub self.workspaces.length 1
  self.moveActiveColumn clock (min idx last) activate
    (self.moveToWorkspace clock none idx (if activate then .smart else .no))

/-- Tries an operation of the active workspace, else does something on the monitor. -/
def orElse (self : Monitor W Id) (first : Workspace W Id → Outcome (Workspace W Id × Bool))
    (second : Monitor W Id → Outcome (Monitor W Id)) : Outcome (Monitor W Id) := do
  let (done, workspaces) ← Vec.update self.workspaces self.activeWorkspaceIdx fun ws => do
    let (ws, done) ← first ws
    pure (done, ws)
  if done then pure { self with workspaces } else second { self with workspaces }

def moveDownOrToWorkspaceDown (self : Monitor W Id) (clock : Clock) : Outcome (Monitor W Id) :=
  self.orElse (·.moveDown clock) (·.moveToWorkspaceDown clock true)

def moveUpOrToWorkspaceUp (self : Monitor W Id) (clock : Clock) : Outcome (Monitor W Id) :=
  self.orElse (·.moveUp clock) (·.moveToWorkspaceUp clock true)

def focusWindowOrWorkspaceDown (self : Monitor W Id) (clock : Clock) : Outcome (Monitor W Id) :=
  self.orElse (·.focusDown) (·.switchWorkspaceDown clock)

def focusWindowOrWorkspaceUp (self : Monitor W Id) (clock : Clock) : Outcome (Monitor W Id) :=
  self.orElse (·.focusUp) (·.switchWorkspaceUp clock)

end Monitor

end Sol
