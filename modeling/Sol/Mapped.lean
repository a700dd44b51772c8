import Sol.Column
import Sol.Sample

/-!
# Mapped windows

The windows that the layout really holds.  A mapped window keeps its sizing mode
in two bits of the state of its toplevel, and since windowed fullscreen uses the
same bits, in booleans of its own besides.  `request_size` encodes a mode there
and `pending_sizing_mode` decodes it.

A request for real fullscreen is sent to the client as maximized, and decoded as
that:

* `pendingSizingMode_requestSize`: what a request for each mode is decoded as;
* `requestSize_roundTrip_iff`: the mode comes back unless it is fullscreen.
-/

namespace Sol

/-! ### Toplevels -/

inductive DecorationMode
  | clientSide
  | serverSide
  deriving DecidableEq, Repr

/-- What a configure tells a toplevel. -/
structure ToplevelState where
  size : Option ISize
  bounds : Option ISize
  fullscreen : Bool
  maximized : Bool
  activated : Bool
  resizing : Bool
  /-- All four tiled states. -/
  tiled : Bool
  decorationMode : Option DecorationMode
  deriving DecidableEq, Repr

structure ToplevelConfigure where
  state : ToplevelState
  serial : ℕ
  deriving DecidableEq, Repr

/-- The toplevel surfaces of the Wayland library, with the law that an update of
the pending state starts from the state that was sent last. -/
class ToplevelSurface (T : Type) where
  surface : T → ℕ
  parent : T → Option ℕ
  minSize : T → ISize
  maxSize : T → ISize
  /-- The state that the next configure is to send. -/
  serverPending : T → Option ToplevelState
  currentServerState : T → ToplevelState
  /-- The configures that were sent and not acked. -/
  pendingConfigures : T → List ToplevelConfigure
  lastAcked : T → Option ToplevelConfigure
  /-- The configure that the client last committed in response to. -/
  committed : T → Option ToplevelConfigure
  withPendingState : T → (ToplevelState → ToplevelState) → T
  sendConfigure : T → ℕ × T
  isNoOlderThan : ℕ → ℕ → Bool
  serverPending_withPendingState : ∀ t f, serverPending (withPendingState t f) =
    some (f ((serverPending t).getD (currentServerState t)))

namespace ToplevelSurface

variable {T : Type} [ToplevelSurface T]

/-- What `with_pending_state` shows. -/
def pendingState (t : T) : ToplevelState := (serverPending t).getD (currentServerState t)

@[simp] theorem pendingState_withPendingState (t : T) (f : ToplevelState → ToplevelState) :
    pendingState (withPendingState t f) = f (pendingState t) := by
  rw [pendingState, serverPending_withPendingState]
  rfl

/-- `with_toplevel_last_uncommitted_configure`. -/
def lastUncommittedConfigure (t : T) : Option ToplevelConfigure :=
  match (pendingConfigures t).getLast? with
  | some lastPending => some lastPending
  | none =>
    match lastAcked t, committed t with
    | some acked, some committed =>
      if isNoOlderThan T committed.serial acked.serial then none else some acked
    | acked, none => acked
    | none, _ => none

end ToplevelSurface

/-! ### Mapped windows -/

/-- The resolved window rules about sizes. -/
structure SizeRules where
  minWidth : Option ℕ
  minHeight : Option ℕ
  maxWidth : Option ℕ
  maxHeight : Option ℕ
  deriving DecidableEq, Repr

namespace SizeRules

def applyMinSize (self : SizeRules) (minSize : ISize) : ISize :=
  ⟨self.minWidth.elim minSize.w fun (x : ℕ) => max minSize.w x,
    self.minHeight.elim minSize.h fun (x : ℕ) => max minSize.h x⟩

/-- One component of a maximum size, where 0 stands for none. -/
def applyMax (size : ℤ) (x : ℕ) : ℤ :=
  if size = 0 then x else if 0 < x then min size x else size

def applyMaxSize (self : SizeRules) (maxSize : ISize) : ISize :=
  ⟨self.maxWidth.elim maxSize.w (applyMax maxSize.w),
    self.maxHeight.elim maxSize.h (applyMax maxSize.h)⟩

end SizeRules

namespace Mapped

inductive InteractiveResize
  | ongoing (data : InteractiveResizeData)
  | waitingForLastConfigure (data : InteractiveResizeData)
  | waitingForLastCommit (data : InteractiveResizeData) (serial : ℕ)
  deriving DecidableEq, Repr

def InteractiveResize.data : InteractiveResize → InteractiveResizeData
  | .ongoing data => data
  | .waitingForLastConfigure data => data
  | .waitingForLastCommit data _ => data

inductive RequestSizeOnce
  | waitingForConfigure
  | waitingForCommit (serial : ℕ)
  | useWindowSize
  deriving DecidableEq, Repr

end Mapped

open Mapped in
/-- A window that has been mapped. -/
structure Mapped (T : Type) where
  /-- The identity of the desktop window. -/
  window : ℕ
  toplevel : T
  /-- The size of the window's geometry. -/
  geometrySize : ISize
  rules : WindowRules
  sizeRules : SizeRules
  needToRecomputeRules : Bool
  needsConfigure : Bool
  needsFrameCallback : Bool
  isActiveInColumn : Bool
  isFloating : Bool
  animateNextConfigure : Bool
  animateSerials : List ℕ
  /-- `request_size_once`. -/
  sizeOnce : Option RequestSizeOnce
  interactiveResize : Option InteractiveResize
  isWindowedFullscreen : Bool
  isPendingWindowedFullscreen : Bool
  uncommittedWindowedFullscreen : List (ℕ × Bool)
  isMaximized : Bool
  isPendingMaximized : Bool
  uncommittedMaximized : List (ℕ × Bool)

namespace Mapped

variable {T : Type} [ToplevelSurface T]

open ToplevelSurface

/-! #### Modes -/

/-- The mode that the bits of a toplevel state stand for. -/
def modeOf (state : ToplevelState) : SizingMode :=
  if state.fullscreen then .fullscreen else if state.maximized then .maximized else .normal

def sizingMode (self : Mapped T) : SizingMode :=
  if self.isWindowedFullscreen then if self.isMaximized then .maximized else .normal
  else (committed self.toplevel).elim .normal fun configure => modeOf configure.state

def pendingSizingMode (self : Mapped T) : SizingMode :=
  if self.isPendingWindowedFullscreen then
    if self.isPendingMaximized then .maximized else .normal
  else modeOf (pendingState self.toplevel)

def requestedSize (self : Mapped T) : Option ISize := (pendingState self.toplevel).size

/-- The bits of a requested mode. -/
def encodeMode (windowed : Bool) (mode : SizingMode) (state : ToplevelState) : ToplevelState :=
  if windowed then { state with fullscreen := true, maximized := false }
  else if mode.isFullscreen || mode.isMaximized then
    -- the client lays itself out normally within the area that it takes over
    { state with fullscreen := false, maximized := true }
  else { state with fullscreen := false, maximized := false }

/-- Real fullscreen resets windowed fullscreen. -/
def resetWindowed (self : Mapped T) (mode : SizingMode) : Mapped T :=
  if mode = .fullscreen then
    { self with
      isPendingWindowedFullscreen := false
      needsConfigure := self.needsConfigure || self.isWindowedFullscreen }
  else self

/-- Makes sure of a commit that updates `is_maximized`. -/
def setPendingMaximized (self : Mapped T) (value : Bool) : Mapped T :=
  { self with
    isPendingMaximized := value
    needsConfigure := self.needsConfigure || self.isMaximized != value }

def requestSize (self : Mapped T) (size : ISize) (mode : SizingMode) (animate : Bool) :
    Mapped T :=
  let self := (self.resetWindowed mode).setPendingMaximized (mode == .maximized)
  let changed := (pendingState self.toplevel).size != some size
  { self with
    toplevel := withPendingState self.toplevel fun state =>
      encodeMode self.isPendingWindowedFullscreen mode { state with size := some size }
    animateNextConfigure := self.animateNextConfigure || changed && animate
    sizeOnce := none }

/-- The serial of a configure that was sent for the size and the mode of a floating
window. -/
def alreadySent (self : Mapped T) (size : ISize) : Option ℕ :=
  (lastUncommittedConfigure self.toplevel).bind fun configure =>
    let sameSize := configure.state.size.getD ⟨0, 0⟩ == size
    let sameFullscreen := configure.state.fullscreen == self.isPendingWindowedFullscreen
    if sameSize && sameFullscreen && !configure.state.maximized then some configure.serial
    else none

def requestSizeOnce (self : Mapped T) (size : ISize) (animate : Bool) : Mapped T :=
  let self := self.setPendingMaximized false
  match self.alreadySent size with
  | some serial =>
    match committed self.toplevel with
    | some current =>
      if isNoOlderThan T current.serial serial then { self with sizeOnce := some .useWindowSize }
      else { self with sizeOnce := some (.waitingForCommit serial) }
    | none => { self with sizeOnce := some .useWindowSize }
  | none =>
    let changed := (pendingState self.toplevel).size != some size
    { self with
      toplevel := withPendingState self.toplevel fun state =>
        { state with
          size := some size
          fullscreen := state.fullscreen && self.isPendingWindowedFullscreen
          maximized := false }
      animateNextConfigure := self.animateNextConfigure || changed && animate
      sizeOnce := some .waitingForConfigure }

def requestWindowedFullscreen (self : Mapped T) (value : Bool) : Mapped T :=
  if self.isPendingWindowedFullscreen = value then self
  else
    { self with
      isPendingWindowedFullscreen := value
      toplevel := withPendingState self.toplevel fun state =>
        if value then { state with fullscreen := true, maximized := false }
        else
          { state with
            fullscreen := false
            maximized := state.maximized || self.isPendingMaximized }
      needsConfigure := true }

/-! #### Other requests -/

def minSize (self : Mapped T) : ISize :=
  self.sizeRules.applyMinSize (ToplevelSurface.minSize self.toplevel)

def maxSize (self : Mapped T) : ISize :=
  self.sizeRules.applyMaxSize (ToplevelSurface.maxSize self.toplevel)

def isChildOf (self parent : Mapped T) : Bool :=
  ToplevelSurface.parent self.toplevel == some (surface parent.toplevel)

def setActivated (self : Mapped T) (active : Bool) : Mapped T :=
  let changed := (pendingState self.toplevel).activated != active
  { self with
    toplevel := withPendingState self.toplevel fun state => { state with activated := active }
    needToRecomputeRules := self.needToRecomputeRules || changed }

def setActiveInColumn (self : Mapped T) (active : Bool) : Mapped T :=
  { self with
    isActiveInColumn := active
    needToRecomputeRules := self.needToRecomputeRules || self.isActiveInColumn != active }

def setFloating (self : Mapped T) (floating : Bool) : Mapped T :=
  { self with
    isFloating := floating
    needToRecomputeRules := self.needToRecomputeRules || self.isFloating != floating }

def setBounds (self : Mapped T) (bounds : ISize) : Mapped T :=
  { self with
    toplevel := withPendingState self.toplevel fun state => { state with bounds := some bounds } }

def setInteractiveResize (self : Mapped T) (data : Option InteractiveResizeData) : Mapped T :=
  { self with
    toplevel := withPendingState self.toplevel fun state =>
      { state with resizing := data.isSome }
    interactiveResize := match data, self.interactiveResize with
      | some data, _ => some (.ongoing data)
      | none, some (.ongoing data) => some (.waitingForLastConfigure data)
      | none, resize => resize }

def cancelInteractiveResize (self : Mapped T) : Mapped T :=
  { self.setInteractiveResize none with interactiveResize := none }

def interactiveResizeData (self : Mapped T) : Option InteractiveResizeData :=
  self.interactiveResize.map InteractiveResize.data

/-- The size that a pending or uncommitted configure asks for, and whether it asks
for fullscreen and for maximized. -/
def pendingSize (self : Mapped T) : Option (ISize × Bool × Bool) :=
  let sizeAndMode := fun state : ToplevelState =>
    (state.size.getD ⟨0, 0⟩, state.fullscreen, state.maximized)
  let serverPending := (serverPending self.toplevel).filter fun pending =>
    pending.size != (currentServerState self.toplevel).size
  (serverPending.map sizeAndMode).or
    ((lastUncommittedConfigure self.toplevel).map fun configure => sizeAndMode configure.state)

def expectedSize (self : Mapped T) : Option ISize :=
  let currentSize := if self.sizingMode.isNormal then some self.geometrySize else none
  if self.sizeOnce = some .useWindowSize then currentSize
  else match self.pendingSize with
    | some (size, fullscreen, maximized) =>
      if maximized || fullscreen && (!self.isPendingWindowedFullscreen || self.isPendingMaximized)
      then none
      else do
        let w ← if size.w = 0 then currentSize.map ISize.w else some size.w
        let h ← if size.h = 0 then currentSize.map ISize.h else some size.h
        return ⟨w, h⟩
    | none => currentSize

def configureIntent (self : Mapped T) : ConfigureIntent :=
  if self.needsConfigure then .shouldSend
  else match serverPending self.toplevel with
    | none => .notNeeded
    | some pending =>
      let current := currentServerState self.toplevel
      if pending = current then .notNeeded
      else if { current with size := pending.size } = pending then
        match committed self.toplevel with
        | none => .shouldSend
        | some committed => if committed.state.size = current.size then .canSend else .throttled
      else .shouldSend

/-- Notes a value that was sent with a configure, if it differs from the last one. -/
def noteSent (uncommitted : List (ℕ × Bool)) (committed pending : Bool) (serial : ℕ) :
    List (ℕ × Bool) :=
  if (uncommitted.getLast?.map (·.2)).getD committed != pending then
    uncommitted ++ [(serial, pending)]
  else uncommitted

/-- With `UseWindowSize`, a pending change of the size alone does not count. -/
def keepWindowSize (self : Mapped T) : Mapped T :=
  if self.sizeOnce = some .useWindowSize ∧ (serverPending self.toplevel).isSome then
    let size := (currentServerState self.toplevel).size
    { self with toplevel := withPendingState self.toplevel fun state => { state with size } }
  else self

def hasPendingChanges (self : Mapped T) : Bool :=
  (serverPending self.toplevel).any fun pending => pending ≠ currentServerState self.toplevel

/-- Sends a configure and notes what it was sent for. -/
def sendConfigure (self : Mapped T) : Mapped T :=
  let self := if self.sizeOnce = some .useWindowSize then
    { self with
      toplevel := withPendingState self.toplevel fun state =>
        { state with size := some self.geometrySize } }
    else self
  let (serial, toplevel) := ToplevelSurface.sendConfigure self.toplevel
  { self with
    toplevel
    needsConfigure := false
    needsFrameCallback := true
    animateSerials :=
      if self.animateNextConfigure then self.animateSerials ++ [serial] else self.animateSerials
    interactiveResize := match self.interactiveResize with
      | some (.waitingForLastConfigure data) => some (.waitingForLastCommit data serial)
      | resize => resize
    sizeOnce := if self.sizeOnce = some .waitingForConfigure then some (.waitingForCommit serial)
      else self.sizeOnce
    uncommittedWindowedFullscreen := noteSent self.uncommittedWindowedFullscreen
      self.isWindowedFullscreen self.isPendingWindowedFullscreen serial
    uncommittedMaximized :=
      noteSent self.uncommittedMaximized self.isMaximized self.isPendingMaximized serial }

def sendPendingConfigure (self : Mapped T) : Mapped T :=
  -- a needed configure is sent without a look at the pending state
  let changed := if self.needsConfigure then self else self.keepWindowSize
  let self := if changed.needsConfigure || changed.hasPendingChanges then changed.sendConfigure
    else
      { changed with
        interactiveResize := match changed.interactiveResize with
          | some (.waitingForLastConfigure _) => none
          | resize => resize }
  { self with animateNextConfigure := false }

/-- The value committed by a serial, and the updates that are still to come. -/
def commitSent (T : Type) [ToplevelSurface T] (commitSerial : ℕ) (uncommitted : List (ℕ × Bool))
    (committed : Bool) : Bool × List (ℕ × Bool) :=
  let (done, rest) := uncommitted.partition fun sent => isNoOlderThan T commitSerial sent.1
  ((done.getLast?.map (·.2)).getD committed, rest)

def onCommit (self : Mapped T) (commitSerial : ℕ) : Mapped T :=
  let windowed := commitSent T commitSerial self.uncommittedWindowedFullscreen
    self.isWindowedFullscreen
  let maximized := commitSent T commitSerial self.uncommittedMaximized self.isMaximized
  { self with
    interactiveResize := self.interactiveResize.filter fun
      | .waitingForLastCommit _ serial => !isNoOlderThan T commitSerial serial
      | _ => true
    sizeOnce := match self.sizeOnce with
      | some (.waitingForCommit serial) =>
        if isNoOlderThan T commitSerial serial then some .useWindowSize
        else some (.waitingForCommit serial)
      | once => once
    isWindowedFullscreen := windowed.1
    uncommittedWindowedFullscreen := windowed.2
    isMaximized := maximized.1
    uncommittedMaximized := maximized.2 }

instance : LayoutElement (Mapped T) ℕ where
  id := window
  size := geometrySize
  minSize := minSize
  maxSize := maxSize
  sizingMode := sizingMode
  pendingSizingMode := pendingSizingMode
  expectedSize := expectedSize
  isPendingWindowedFullscreen := isPendingWindowedFullscreen
  isChildOf := isChildOf
  rules := rules
  configureIntent := configureIntent
  interactiveResizeData := interactiveResizeData
  requestSize := requestSize
  requestSizeOnce := requestSizeOnce
  requestWindowedFullscreen := requestWindowedFullscreen
  setActivated := setActivated
  setActiveInColumn := setActiveInColumn
  setFloating := setFloating
  setBounds := setBounds
  setInteractiveResize := setInteractiveResize
  cancelInteractiveResize := cancelInteractiveResize
  sendPendingConfigure := sendPendingConfigure
  onCommit := onCommit
  id_requestSize w size mode animate := by
    unfold requestSize resetWindowed
    split <;> rfl
  id_requestSizeOnce w size animate := by
    unfold requestSizeOnce
    dsimp only
    repeat' split
    all_goals rfl
  id_requestWindowedFullscreen w value := by
    unfold requestWindowedFullscreen
    split <;> rfl
  id_setActivated _ _ := rfl
  id_setActiveInColumn _ _ := rfl
  id_setFloating _ _ := rfl
  id_setBounds _ _ := rfl
  id_setInteractiveResize _ _ := rfl
  id_cancelInteractiveResize _ := rfl
  id_sendPendingConfigure w := by
    unfold sendPendingConfigure sendConfigure keepWindowSize
    dsimp only
    repeat' split
    all_goals rfl
  id_onCommit _ _ := rfl

/-! ### The mode comes back -/

theorem modeOf_encodeMode (mode : SizingMode) (state : ToplevelState) :
    modeOf (encodeMode false mode state) = if mode = .fullscreen then .maximized else mode := by
  cases mode <;> rfl

omit [ToplevelSurface T] in
theorem isPendingWindowedFullscreen_resetWindowed (self : Mapped T) (mode : SizingMode) :
    (self.resetWindowed mode).isPendingWindowedFullscreen =
      (self.isPendingWindowedFullscreen && mode != .fullscreen) := by
  unfold resetWindowed
  cases mode <;> simp

/-- A request for fullscreen is decoded as one for maximized. -/
theorem pendingSizingMode_requestSize (self : Mapped T) (size : ISize) (mode : SizingMode)
    (animate : Bool) : (self.requestSize size mode animate).pendingSizingMode =
      if mode = .fullscreen then .maximized else mode := by
  unfold requestSize pendingSizingMode setPendingMaximized
  simp only [pendingState_withPendingState, isPendingWindowedFullscreen_resetWindowed]
  cases hw : self.isPendingWindowedFullscreen with
  | false => exact modeOf_encodeMode mode _
  | true =>
    -- windowed fullscreen lasts unless the mode is fullscreen, and the boolean holds the mode
    cases mode <;> rfl

/-- A request of the layout to a window. -/
inductive Request
  | size (size : ISize) (mode : SizingMode) (animate : Bool)
  | sizeOnce (size : ISize) (animate : Bool)
  | windowedFullscreen (value : Bool)

def request (self : Mapped T) : Request → Mapped T
  | .size size mode animate => self.requestSize size mode animate
  | .sizeOnce size animate => self.requestSizeOnce size animate
  | .windowedFullscreen value => self.requestWindowedFullscreen value

/-- A column takes over as its tile's window is decoded. -/
theorem newWithTile_flags (tile : Tile (Mapped T)) (viewSize : Size) (workingArea parentArea : Rect)
    (scale : ℚ) (width : ColumnWidth) (isFullWidth : Bool) :
    let column := Column.newWithTile tile viewSize workingArea parentArea scale width isFullWidth
    column.isPendingFullscreen = tile.window.pendingSizingMode.isFullscreen ∧
      column.isPendingMaximized = tile.window.pendingSizingMode.isMaximized := by
  have hmode : LayoutElement.pendingSizingMode tile.window = tile.window.pendingSizingMode := rfl
  unfold Column.newWithTile
  rw [hmode]
  cases tile.window.pendingSizingMode <;> exact ⟨rfl, rfl⟩

/-- Right after a request for a mode, whatever was requested before, the window is
decoded as pending for that mode, and a column made of its tile takes over as the
column did, exactly if the mode is not fullscreen. -/
theorem requestSize_roundTrip_iff (self : Mapped T) (requests : List Request) (size : ISize)
    (mode : SizingMode) (animate : Bool) :
    (((requests.foldl request self).requestSize size mode animate).pendingSizingMode = mode ↔
      mode ≠ .fullscreen) ∧
    ∀ column : Column (Mapped T),
      column.tile.window = (requests.foldl request self).requestSize size mode animate →
      column.pendingSizingMode = mode →
      ∀ (viewSize : Size) (workingArea parentArea : Rect) (scale : ℚ) (width : ColumnWidth)
        (isFullWidth : Bool),
        let rebuilt := Column.newWithTile column.tile viewSize workingArea parentArea scale width
          isFullWidth
        (rebuilt.isPendingFullscreen = column.isPendingFullscreen ∧
          rebuilt.isPendingMaximized = column.isPendingMaximized) ↔ mode ≠ .fullscreen := by
  have hdecoded := pendingSizingMode_requestSize (requests.foldl request self) size mode animate
  constructor
  · rw [hdecoded]
    cases mode <;> simp
  · intro column hwindow hmode viewSize workingArea parentArea scale width isFullWidth
    obtain ⟨hfull, hmax⟩ := newWithTile_flags column.tile viewSize workingArea parentArea scale
      width isFullWidth
    dsimp only
    rw [hfull, hmax, hwindow, hdecoded]
    unfold Column.pendingSizingMode at hmode
    split_ifs at hmode with hf hm <;> subst hmode <;> simp_all [SizingMode.isFullscreen,
      SizingMode.isMaximized]

end Mapped

namespace Sample

/-- A toplevel surface with the configures that it was sent. -/
structure Surface where
  pending : Option ToplevelState
  configures : List ToplevelConfigure
  acked : Option ToplevelConfigure
  deriving DecidableEq

/-- The state before any configure. -/
def noState : ToplevelState := ⟨none, none, false, false, false, false, false, none⟩

/-- The state of the last configure. -/
def Surface.current (self : Surface) : ToplevelState :=
  (self.configures.getLast?.or self.acked).elim noState (·.state)

instance : ToplevelSurface Surface where
  surface _ := 0
  parent _ := none
  minSize _ := ⟨0, 0⟩
  maxSize _ := ⟨0, 0⟩
  serverPending := Surface.pending
  currentServerState := Surface.current
  pendingConfigures := Surface.configures
  lastAcked := Surface.acked
  committed := Surface.acked
  withPendingState t f := { t with pending := some (f (t.pending.getD t.current)) }
  sendConfigure t :=
    let serial := (t.configures.getLast?.or t.acked).elim 1 (·.serial + 1)
    (serial, { t with
      pending := none, configures := t.configures ++ [⟨t.pending.getD t.current, serial⟩] })
  isNoOlderThan a b := b ≤ a
  serverPending_withPendingState _ _ := rfl

/-- A mapped window that was sent nothing yet. -/
def mapped : Mapped Surface where
  window := 1
  toplevel := ⟨none, [], none⟩
  geometrySize := ⟨100, 100⟩
  rules := ⟨⟨false, false, none⟩, none⟩
  sizeRules := ⟨none, none, none, none⟩
  needToRecomputeRules := false
  needsConfigure := false
  needsFrameCallback := false
  isActiveInColumn := true
  isFloating := false
  animateNextConfigure := false
  animateSerials := []
  sizeOnce := none
  interactiveResize := none
  isWindowedFullscreen := false
  isPendingWindowedFullscreen := false
  uncommittedWindowedFullscreen := []
  isMaximized := false
  isPendingMaximized := false
  uncommittedMaximized := []

end Sample

namespace Mapped

/-- A column that goes fullscreen, and the column that its tile is moved to. -/
theorem not_requestSize_roundTrip :
    (Sample.mapped.requestSize ⟨1920, 1080⟩ .fullscreen false).pendingSizingMode ≠ .fullscreen ∧
      let tile := Tile.new Sample.mapped ⟨1920, 1080⟩ 1 Sample.options
      let area : Rect := ⟨⟨0, 30⟩, ⟨1920, 1050⟩⟩
      let column := (Column.newWithTile tile ⟨1920, 1080⟩ area area 1 (.fixed 500) false).setFullscreen
        true
      let rebuilt := Column.newWithTile column.1.tile ⟨1920, 1080⟩ area area 1 (.fixed 500) false
      column.1.isPendingFullscreen = true ∧ rebuilt.isPendingFullscreen = false ∧
        rebuilt.isPendingMaximized = true := by
  decide +kernel

/-- A maximized column stays maximized. -/
theorem requestSize_roundTrip_iff_maximized :
    let tile := { Tile.new Sample.mapped ⟨1920, 1080⟩ 1 Sample.options with
      window := Sample.mapped.requestSize ⟨1920, 1050⟩ .maximized false }
    let area : Rect := ⟨⟨0, 30⟩, ⟨1920, 1050⟩⟩
    (Column.newWithTile tile ⟨1920, 1080⟩ area area 1 (.fixed 500) false).isPendingMaximized =
      true := by
  intro tile area
  have hrebuilt := (requestSize_roundTrip_iff Sample.mapped [] ⟨1920, 1050⟩ .maximized false).2
    { tile := tile, width := .fixed 500, isFullWidth := false, isPendingFullscreen := false,
      isPendingMaximized := true, viewSize := ⟨1920, 1080⟩, workingArea := area,
      parentArea := area, scale := 1, options := Sample.options }
    rfl rfl ⟨1920, 1080⟩ area area 1 (.fixed 500) false
  exact (hrebuilt.mpr (by decide)).2

end Mapped

end Sol
