import Sol.Motion

/-!
# Windows in the order of their use

The recent-windows switcher traverses thumbnails of the windows, those used last first.  It shows
those within its scope, of one application if there is a filter, and has one of the shown ones
selected.
-/

namespace Sol.Mru

open Panicking

abbrev MappedId := ℕ

inductive MruScope
  | all
  | output
  | workspace
  deriving DecidableEq, Repr

inductive MruFilter
  | all
  | appId
  deriving DecidableEq, Repr

structure MoveAnimation where
  anim : Motion.Animation
  /-- `from`. -/
  start : ℝ

structure MruPreviews where
  maxHeight : ℚ
  maxScale : ℚ
  deriving DecidableEq, Repr

structure Thumbnail where
  id : MappedId
  timestamp : Option Duration
  onCurrentWorkspace : Bool
  onCurrentOutput : Bool
  appId : Option String
  size : ISize
  config : MruPreviews
  openAnimation : Option Motion.Animation
  moveAnimation : Option MoveAnimation

structure WindowMru where
  thumbnails : List Thumbnail
  /-- The selected window. -/
  currentId : Option MappedId
  scope : MruScope
  appIdFilter : Option String

/-- Whether a thumbnail is shown. -/
def shows (scope : MruScope) (appIdFilter : Option String) (thumbnail : Thumbnail) : Bool :=
  let within :=
    match scope with
    | .all => true
    | .output => thumbnail.onCurrentOutput
    | .workspace => thumbnail.onCurrentWorkspace
  if within = false then false
  else
    match appIdFilter with
    | some appId => thumbnail.appId = some appId
    | none => true

namespace WindowMru

/-- All windows, with the first one selected. -/
def ofThumbnails (thumbnails : List Thumbnail) : WindowMru where
  thumbnails := thumbnails
  currentId := thumbnails.head?.map Thumbnail.id
  scope := .all
  appIdFilter := none

/-- The order of two focus timestamps; never focused is before all. -/
def before : Option Duration → Option Duration → Bool
  | none, _ => true
  | some _, none => false
  | some t1, some t2 => t1 ≤ t2

/-- The windows of the workspaces, those focused last first. -/
def new (windows : List Thumbnail) : WindowMru :=
  ofThumbnails (windows.mergeSort fun t1 t2 => before t2.timestamp t1.timestamp)

/-- `thumbnails()`. -/
def shown (self : WindowMru) : List Thumbnail :=
  self.thumbnails.filter (shows self.scope self.appIdFilter)

/-- `thumbnails_with_idx()`. -/
def shownWithIdx (self : WindowMru) : List (Thumbnail × ℕ) :=
  self.thumbnails.zipIdx.filter fun entry => shows self.scope self.appIdFilter entry.1

def forward (self : WindowMru) : Outcome WindowMru :=
  match self.currentId with
  | none => .ok self
  | some id =>
    match (self.shown.dropWhile fun t => t.id ≠ id)[1]? with
    | some next => .ok { self with currentId := some next.id }
    | none => do
      -- wrapped around
      let first ← unwrap self.shown.head?
      .ok { self with currentId := some first.id }

def backward (self : WindowMru) : Outcome WindowMru :=
  match self.currentId with
  | none => .ok self
  | some id =>
    match (self.shown.reverse.dropWhile fun t => t.id ≠ id)[1]? with
    | some next => .ok { self with currentId := some next.id }
    | none => do
      let last ← unwrap self.shown.getLast?
      .ok { self with currentId := some last.id }

def setCurrent (self : WindowMru) (id : MappedId) : WindowMru :=
  if self.shown.any fun t => t.id = id then { self with currentId := some id } else self

def firstId (self : WindowMru) : Option MappedId := self.shown.head?.map Thumbnail.id

def first (self : WindowMru) : WindowMru := { self with currentId := self.firstId }

def last (self : WindowMru) : WindowMru :=
  { self with currentId := self.shown.getLast?.map Thumbnail.id }

/-- The same one, or the first one to the left; failing that, the first one to the right. -/
def nearest (self : WindowMru) (currentIdx : ℕ) : Option MappedId :=
  (self.shownWithIdx.takeWhile fun entry => entry.2 ≤ currentIdx).foldl
    (fun _ entry => some entry.1.id) self.firstId

/-- The thumbnail with an id, and its index. -/
def findShown (self : WindowMru) (id : MappedId) : Option (Thumbnail × ℕ) :=
  self.shownWithIdx.find? fun entry => entry.1.id = id

/-- The scope from before, if it changes. -/
def setScope (self : WindowMru) (scope : MruScope) : Outcome (Option MruScope × WindowMru) :=
  if self.scope = scope then .ok (none, self)
  else
    match self.currentId with
    | some id => do
      let current ← unwrap (self.findShown id)
      let changed := { self with scope }
      .ok (some self.scope, { changed with currentId := changed.nearest current.2 })
    | none =>
      let changed := { self with scope }
      .ok (some self.scope, { changed with currentId := changed.firstId })

/-- The filter from before, if it changes. -/
def setFilter (self : WindowMru) (filter : MruFilter) :
    Outcome (Option (Option String) × WindowMru) :=
  if self.appIdFilter.isSome = decide (filter = .appId) then .ok (none, self)
  else
    match self.currentId with
    | some id => do
      let current ← unwrap (self.findShown id)
      match filter with
      | .all =>
        let old ← expect "verified by early return at the top" self.appIdFilter
        let changed := { self with appIdFilter := none }
        .ok (some (some old), { changed with currentId := changed.nearest current.2 })
      | .appId =>
        match current.1.appId with
        -- no filter without an app id
        | none => .ok (none, self)
        | some appId =>
          assert (self.appIdFilter = none)
          let changed := { self with appIdFilter := some appId }
          .ok (some none, { changed with currentId := changed.nearest current.2 })
    | none =>
      match filter with
      | .all => do
        let old ← expect "verified by early return at the top" self.appIdFilter
        let changed := { self with appIdFilter := none }
        .ok (some (some old), { changed with currentId := changed.firstId })
      | .appId => .ok (none, self)

def idxOf (self : WindowMru) (id : MappedId) : Option ℕ :=
  self.thumbnails.findIdx? fun t => t.id = id

def removeByIdx (self : WindowMru) (idx : ℕ) : Outcome (Thumbnail × WindowMru) :=
  match self.thumbnails[idx]? with
  | none => .error .indexOutOfBounds
  | some removed => do
    -- another one is picked
    let self ← if self.currentId = some removed.id then self.forward else .ok self
    let self :=
      if self.currentId = some removed.id then { self with currentId := none } else self
    .ok (removed, { self with thumbnails := self.thumbnails.eraseIdx idx })

/-- The thumbnail of a window, if it is shown to the left of the selected one. -/
def thumbnailLeftOfCurrent (self : WindowMru) (id : MappedId) : Option Thumbnail :=
  match self.shown.find? fun t => some t.id = self.currentId ∨ t.id = id with
  | some t => if some t.id = self.currentId then none else some t
  | none => none

/-! ### Runs -/

inductive Op
  | forward
  | backward
  | first
  | last
  | setCurrent (id : MappedId)
  | setScope (scope : MruScope)
  | setFilter (filter : MruFilter)
  | remove (id : MappedId)
  deriving DecidableEq, Repr

def step (self : WindowMru) : Op → Outcome WindowMru
  | .forward => self.forward
  | .backward => self.backward
  | .first => .ok self.first
  | .last => .ok self.last
  | .setCurrent id => .ok (self.setCurrent id)
  | .setScope scope => do
    let (_, self) ← self.setScope scope
    .ok self
  | .setFilter filter => do
    let (_, self) ← self.setFilter filter
    .ok self
  | .remove id =>
    match self.idxOf id with
    | none => .ok self
    | some idx => do
      let (_, self) ← self.removeByIdx idx
      .ok self

def run (self : WindowMru) : List Op → Outcome WindowMru
  | [] => .ok self
  | op :: ops => do
    let self ← self.step op
    self.run ops

end WindowMru

end Sol.Mru
