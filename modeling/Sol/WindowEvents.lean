import Sol.EventStream

/-!
# The event stream of windows

A refresh compares the windows that the server told its clients of with those of the
layout.  A window that opened, or changed in a way no small event can tell, is sent as
a whole; the new places of the others are sent together, once all windows were seen,
and then the windows that are gone.  A window that is sent with the focus takes it from
all others.
-/

namespace Sol.Ipc

open Panicking Tables

structure Timestamp where
  secs : ℕ
  nanos : ℕ
  deriving DecidableEq, Repr

/-- Where a window is and how large. -/
structure WindowLayout where
  posInScrollingLayout : Option (ℕ × ℕ)
  tileSize : ℚ × ℚ
  windowSize : ℤ × ℤ
  tilePosInWorkspaceView : Option (ℚ × ℚ)
  windowOffsetInTile : ℚ × ℚ
  deriving DecidableEq, Repr

/-- A window as clients see it. -/
structure Window where
  id : ℕ
  title : Option String
  appId : Option String
  pid : Option ℤ
  workspaceId : Option ℕ
  isFocused : Bool
  isFloating : Bool
  isUrgent : Bool
  layout : WindowLayout
  focusTimestamp : Option Timestamp
  deriving DecidableEq, Repr

/-- The events about windows. -/
inductive WindowEvent
  | windowsChanged (windows : List Window)
  | windowOpenedOrChanged (window : Window)
  | windowClosed (id : ℕ)
  | windowFocusChanged (id : Option ℕ)
  | windowFocusTimestampChanged (id : ℕ) (focusTimestamp : Option Timestamp)
  | windowUrgencyChanged (id : ℕ) (urgent : Bool)
  | windowLayoutsChanged (changes : List (ℕ × WindowLayout))
  deriving DecidableEq, Repr

/-- The windows by their ids. -/
abbrev WindowsState := Std.ExtTreeMap ℕ Window compare

namespace WindowsState

/-- The places of windows, one after the other. -/
def changeLayouts (self : WindowsState) : List (ℕ × WindowLayout) → Outcome WindowsState
  | [] => pure self
  | (id, update) :: changes => do
    let _ ← expect "changed window was missing from the map" self[id]?
    changeLayouts (self.modify id fun win => { win with layout := update }) changes

/-- The loops that stop at the first window with an id may as well go on: no two windows
of the map have the same. -/
def apply (self : WindowsState) : WindowEvent → Outcome WindowsState
  | .windowsChanged windows => pure (table Window.id id windows)
  | .windowOpenedOrChanged window =>
    let self := self.insert window.id window
    pure (if window.isFocused then
      self.map fun _ win => if win.id ≠ window.id then { win with isFocused := false } else win
    else self)
  | .windowClosed id => do
    let _ ← expect "closed window was missing from the map" self[id]?
    pure (self.erase id)
  | .windowFocusChanged id =>
    pure (self.map fun _ win => { win with isFocused := some win.id = id })
  | .windowFocusTimestampChanged id focusTimestamp =>
    pure (self.map fun _ win => if win.id = id then { win with focusTimestamp } else win)
  | .windowUrgencyChanged id urgent =>
    pure (self.map fun _ win => if win.id = id then { win with isUrgent := urgent } else win)
  | .windowLayoutsChanged changes => self.changeLayouts changes

/-- Applies events in order. -/
def applyAll (self : WindowsState) (events : List WindowEvent) : Outcome WindowsState :=
  events.foldlM apply self

end WindowsState

/-! ### Refreshing -/

/-- What a refresh reads of a window of the layout. -/
structure MappedView where
  id : ℕ
  title : Option String
  appId : Option String
  pid : Option ℤ
  isFocused : Bool
  isFloating : Bool
  isUrgent : Bool
  focusTimestamp : Option Timestamp
  deriving DecidableEq, Repr

/-- What `Layout::with_windows` goes through: windows with their workspaces and places. -/
abbrev WindowsView := List (MappedView × Option ℕ × WindowLayout)

def makeIpcWindow (mapped : MappedView) (workspaceId : Option ℕ) (layout : WindowLayout) :
    Window where
  id := mapped.id
  title := mapped.title
  appId := mapped.appId
  pid := mapped.pid
  workspaceId := workspaceId
  isFocused := mapped.isFocused
  isFloating := mapped.isFloating
  isUrgent := mapped.isUrgent
  layout := layout
  focusTimestamp := mapped.focusTimestamp

/-- Whether a window changed in a way that no small event can tell. -/
def isChanged (ipcWin : Window) (mapped : MappedView) (workspaceId : Option ℕ) : Bool :=
  ipcWin.workspaceId ≠ workspaceId || ipcWin.isFloating ≠ mapped.isFloating ||
    ipcWin.title ≠ mapped.title || ipcWin.appId ≠ mapped.appId

/-- The events for one window, but for a change of its place. -/
def windowEvents (state : WindowsState) (mapped : MappedView) (workspaceId : Option ℕ)
    (layout : WindowLayout) : List WindowEvent :=
  match state[mapped.id]? with
  | none => [.windowOpenedOrChanged (makeIpcWindow mapped workspaceId layout)]
  | some ipcWin =>
    if isChanged ipcWin mapped workspaceId then
      [.windowOpenedOrChanged (makeIpcWindow mapped workspaceId layout)]
    else
      let focus := if mapped.isFocused && !ipcWin.isFocused then
        [WindowEvent.windowFocusChanged (some mapped.id)] else []
      let timestamp := if mapped.focusTimestamp ≠ ipcWin.focusTimestamp then
        [WindowEvent.windowFocusTimestampChanged mapped.id mapped.focusTimestamp] else []
      let urgency := if mapped.isUrgent ≠ ipcWin.isUrgent then
        [WindowEvent.windowUrgencyChanged mapped.id mapped.isUrgent] else []
      focus ++ timestamp ++ urgency

/-- The change of a window's place, unless the window is sent as a whole. -/
def layoutChange (state : WindowsState) (mapped : MappedView) (workspaceId : Option ℕ)
    (layout : WindowLayout) : Option (ℕ × WindowLayout) :=
  match state[mapped.id]? with
  | none => none
  | some ipcWin =>
    if isChanged ipcWin mapped workspaceId then none
    else if ipcWin.layout ≠ layout then some (mapped.id, layout) else none

/-- The events of a refresh; the map lists its entries in the order `keys`. -/
def refreshWindowEvents (state : WindowsState) (keys : List ℕ) (view : WindowsView) :
    List WindowEvent :=
  let seen := view.map (·.1.id)
  let live := view.flatMap fun (mapped, wsId, layout) => windowEvents state mapped wsId layout
  let changes := view.filterMap fun (mapped, wsId, layout) =>
    layoutChange state mapped wsId layout
  let layouts := if changes.isEmpty then [] else [WindowEvent.windowLayoutsChanged changes]
  let closed := (keys.filter (· ∉ seen)).map WindowEvent.windowClosed
  let wasFocused := keys.any fun id => state[id]?.any (·.isFocused)
  let noFocus := if !(view.any (·.1.isFocused)) && wasFocused then
    [WindowEvent.windowFocusChanged none] else []
  live ++ layouts ++ closed ++ noFocus

/-- `State::ipc_refresh_windows`, as far as the state of the server goes. -/
def refreshWindows (state : WindowsState) (keys : List ℕ) (view : WindowsView) :
    Outcome WindowsState :=
  state.applyAll (refreshWindowEvents state keys view)

/-- The windows of a layout as a fresh client is told. -/
def windowsSnapshot (view : WindowsView) : WindowsState :=
  table Window.id id (view.map fun (mapped, wsId, layout) => makeIpcWindow mapped wsId layout)

end Sol.Ipc
