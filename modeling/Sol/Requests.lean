import Sol.Columns
import Sol.Stacking
import Sol.Takeovers

/-!
# Requests to windows

A window is asked for a size and a mode; the other calls ask for neither.  What
is said of a window's requests holds of windows that report them:

* `PendsLastMode`: the pending mode is the mode that was last requested;
* `TellsLastSize`: there is a record of the size that was last requested.

Most of what is done to a column or to a floating tile leaves its takeover and
the requests for it alone: `Column.Steady` and `Tile.Steady`.
-/

namespace Sol

open LayoutElement

variable {W Id : Type} [LayoutElement W Id]

/-! ### Windows -/

/-- A window after calls that request neither a size nor a mode. -/
inductive Quiet (w : W) : W → Prop
  | refl : Quiet w w
  | setActivated {v : W} (h : Quiet w v) (active : Bool) : Quiet w (setActivated v active)
  | setActiveInColumn {v : W} (h : Quiet w v) (active : Bool) : Quiet w (setActiveInColumn v active)
  | setFloating {v : W} (h : Quiet w v) (floating : Bool) : Quiet w (setFloating v floating)
  | setBounds {v : W} (h : Quiet w v) (bounds : ISize) : Quiet w (setBounds v bounds)
  | setInteractiveResize {v : W} (h : Quiet w v) (data : Option InteractiveResizeData) :
    Quiet w (setInteractiveResize v data)
  | sendPendingConfigure {v : W} (h : Quiet w v) : Quiet w (sendPendingConfigure v)
  | onCommit {v : W} (h : Quiet w v) (serial : ℕ) : Quiet w (onCommit v serial)

theorem Quiet.id_eq {w v : W} (h : Quiet w v) : LayoutElement.id v = LayoutElement.id w := by
  induction h with
  | refl => rfl
  | setActivated _ _ ih => rw [id_setActivated, ih]
  | setActiveInColumn _ _ ih => rw [id_setActiveInColumn, ih]
  | setFloating _ _ ih => rw [id_setFloating, ih]
  | setBounds _ _ ih => rw [id_setBounds, ih]
  | setInteractiveResize _ _ ih => rw [id_setInteractiveResize, ih]
  | sendPendingConfigure _ ih => rw [id_sendPendingConfigure, ih]
  | onCommit _ _ ih => rw [id_onCommit, ih]

/-- Windows whose pending mode is the mode last requested from them. -/
class PendsLastMode (W : Type) {Id : outParam Type} [LayoutElement W Id] : Prop where
  requestSize : ∀ (w : W) size mode animate,
    pendingSizingMode (requestSize w size mode animate) = mode
  requestSizeOnce : ∀ (w : W) size animate,
    pendingSizingMode (requestSizeOnce w size animate) = .normal
  setActivated : ∀ (w : W) active, pendingSizingMode (setActivated w active) = pendingSizingMode w
  setActiveInColumn : ∀ (w : W) active,
    pendingSizingMode (setActiveInColumn w active) = pendingSizingMode w
  setFloating : ∀ (w : W) floating,
    pendingSizingMode (setFloating w floating) = pendingSizingMode w
  setBounds : ∀ (w : W) bounds, pendingSizingMode (setBounds w bounds) = pendingSizingMode w
  setInteractiveResize : ∀ (w : W) data,
    pendingSizingMode (setInteractiveResize w data) = pendingSizingMode w
  sendPendingConfigure : ∀ w : W, pendingSizingMode (sendPendingConfigure w) = pendingSizingMode w
  onCommit : ∀ (w : W) serial, pendingSizingMode (onCommit w serial) = pendingSizingMode w

theorem Quiet.pendingSizingMode_eq [PendsLastMode W] {w v : W} (h : Quiet w v) :
    pendingSizingMode v = pendingSizingMode w := by
  induction h with
  | refl => rfl
  | setActivated _ _ ih => rw [PendsLastMode.setActivated, ih]
  | setActiveInColumn _ _ ih => rw [PendsLastMode.setActiveInColumn, ih]
  | setFloating _ _ ih => rw [PendsLastMode.setFloating, ih]
  | setBounds _ _ ih => rw [PendsLastMode.setBounds, ih]
  | setInteractiveResize _ _ ih => rw [PendsLastMode.setInteractiveResize, ih]
  | sendPendingConfigure _ ih => rw [PendsLastMode.sendPendingConfigure, ih]
  | onCommit _ _ ih => rw [PendsLastMode.onCommit, ih]

/-- Windows with a record of the size last requested from them. -/
class TellsLastSize (W : Type) {Id : outParam Type} [LayoutElement W Id] where
  requestedSize : W → Option ISize
  requestSize : ∀ (w : W) size mode animate,
    requestedSize (requestSize w size mode animate) = some size
  requestSizeOnce : ∀ (w : W) size animate,
    requestedSize (requestSizeOnce w size animate) = some size
  setActivated : ∀ (w : W) active, requestedSize (setActivated w active) = requestedSize w
  setActiveInColumn : ∀ (w : W) active,
    requestedSize (setActiveInColumn w active) = requestedSize w
  setFloating : ∀ (w : W) floating, requestedSize (setFloating w floating) = requestedSize w
  setBounds : ∀ (w : W) bounds, requestedSize (setBounds w bounds) = requestedSize w
  setInteractiveResize : ∀ (w : W) data,
    requestedSize (setInteractiveResize w data) = requestedSize w
  sendPendingConfigure : ∀ w : W, requestedSize (sendPendingConfigure w) = requestedSize w
  onCommit : ∀ (w : W) serial, requestedSize (onCommit w serial) = requestedSize w

open TellsLastSize (requestedSize)

theorem Quiet.requestedSize_eq [TellsLastSize W] {w v : W} (h : Quiet w v) :
    requestedSize v = requestedSize w := by
  induction h with
  | refl => rfl
  | setActivated _ _ ih => rw [TellsLastSize.setActivated, ih]
  | setActiveInColumn _ _ ih => rw [TellsLastSize.setActiveInColumn, ih]
  | setFloating _ _ ih => rw [TellsLastSize.setFloating, ih]
  | setBounds _ _ ih => rw [TellsLastSize.setBounds, ih]
  | setInteractiveResize _ _ ih => rw [TellsLastSize.setInteractiveResize, ih]
  | sendPendingConfigure _ ih => rw [TellsLastSize.sendPendingConfigure, ih]
  | onCommit _ _ ih => rw [TellsLastSize.onCommit, ih]

instance : PendsLastMode Sample.Toplevel where
  requestSize _ _ _ _ := rfl
  requestSizeOnce _ _ _ := rfl
  setActivated _ _ := rfl
  setActiveInColumn _ _ := rfl
  setFloating _ _ := rfl
  setBounds _ _ := rfl
  setInteractiveResize _ _ := rfl
  sendPendingConfigure _ := rfl
  onCommit _ _ := rfl

instance : TellsLastSize Sample.Toplevel where
  requestedSize w := some w.requestedSize
  requestSize _ _ _ _ := rfl
  requestSizeOnce _ _ _ := rfl
  setActivated _ _ := rfl
  setActiveInColumn _ _ := rfl
  setFloating _ _ := rfl
  setBounds _ _ := rfl
  setInteractiveResize _ _ := rfl
  sendPendingConfigure _ := rfl
  onCommit _ _ := rfl

/-! ### Columns -/

/-- A tile whose window got no request, with what matters to a takeover. -/
structure Tile.Quiet (a b : Tile W) : Prop where
  window : Sol.Quiet a.window b.window
  restoreToFloating_eq : b.restoreToFloating = a.restoreToFloating
  viewSize_eq : b.viewSize = a.viewSize

theorem Tile.Quiet.refl (a : Tile W) : Tile.Quiet a a := ⟨.refl, rfl, rfl⟩

namespace Column

/-- A column whose takeover was left alone: it was given slots, and otherwise
nothing was requested from its window. -/
inductive Steady (c : Column W) : Column W → Prop
  | refl : Steady c c
  | fill {d : Column W} (h : Steady c d) (size : Size) : Steady c (d.fillSlot size)
  | retile {d : Column W} (h : Steady c d) (tile : Tile W) (htile : Tile.Quiet d.tile tile) :
    Steady c { d with tile }

theorem Steady.trans {c d e : Column W} (h : Steady c d) (h' : Steady d e) : Steady c e := by
  induction h' with
  | refl => exact h
  | fill _ size ih => exact ih.fill size
  | retile _ tile htile ih => exact ih.retile tile htile

theorem quiet_slide (clock : Clock) (config : AnimationConfig) (delta : Point) (c : Column W) :
    Tile.Quiet c.tile (ScrollingSpace.slide clock config delta c).tile := by
  unfold ScrollingSpace.slide
  dsimp only
  split_ifs <;> exact ⟨.refl, rfl, rfl⟩

theorem Settled.steady {c d : Column W} (h : Settled c d) : Steady c d := by
  induction h with
  | refl => exact .refl
  | fill _ size ih => exact ih.fill size
  | slide _ clock config delta ih => exact ih.retile _ (quiet_slide clock config delta _)

variable {c d : Column W}

theorem Steady.sameFlags (h : Steady c d) : SameFlags c d := by
  induction h with
  | refl => exact .refl c
  | fill _ size ih => exact ih.trans (sameFlags_fillSlot _ size)
  | retile _ tile htile ih =>
    exact ih.trans ⟨htile.window.id_eq, rfl, rfl⟩

theorem tile_fillSlot (c : Column W) (size : Size) :
    (c.fillSlot size).tile.restoreToFloating = c.tile.restoreToFloating ∧
      (c.fillSlot size).tile.viewSize = c.tile.viewSize := by
  unfold fillSlot
  split_ifs <;> exact ⟨rfl, rfl⟩

theorem Steady.restoreToFloating_eq (h : Steady c d) :
    d.tile.restoreToFloating = c.tile.restoreToFloating := by
  induction h with
  | refl => rfl
  | fill _ size ih => rw [(tile_fillSlot _ size).1, ih]
  | retile _ tile htile ih => exact htile.restoreToFloating_eq.trans ih

theorem Steady.viewSize_eq (h : Steady c d) : d.tile.viewSize = c.tile.viewSize := by
  induction h with
  | refl => rfl
  | fill _ size ih => rw [(tile_fillSlot _ size).2, ih]
  | retile _ tile htile ih => exact htile.viewSize_eq.trans ih

/-- A column that takes over is not given a slot. -/
theorem fillSlot_of_takesOver (h : c.takesOver = true) (size : Size) : c.fillSlot size = c :=
  if_pos h

/-- Nothing is requested from a window that takes over. -/
theorem Steady.requestedSize_eq [TellsLastSize W] (h : Steady c d) (hc : c.takesOver = true) :
    requestedSize d.tile.window = requestedSize c.tile.window := by
  induction h with
  | refl => rfl
  | fill h size ih =>
    rw [fillSlot_of_takesOver (h.sameFlags.takesOver_eq.trans hc), ih]
  | retile _ tile htile ih => exact htile.window.requestedSize_eq.trans ih

/-! ### Requests for takeovers -/

theorem setFullscreen_same {b : Bool} (h : c.isPendingFullscreen = b) :
    (c.setFullscreen b).1 = c := by
  rw [setFullscreen, if_pos h]

theorem setFullscreen_begin (h : c.isPendingFullscreen = false) :
    (c.setFullscreen true).1 = { c with
      isPendingFullscreen := true, isPendingMaximized := false
      tile := c.tile.requestFullscreen false } := by
  rw [setFullscreen, if_neg (by simp [h]), if_pos rfl]

theorem setFullscreen_end (h : c.isPendingFullscreen = true) :
    (c.setFullscreen false).1 = { c with isPendingFullscreen := false } := by
  rw [setFullscreen, if_neg (by simp [h]), if_neg Bool.false_ne_true]

theorem setMaximized_same {b : Bool} (h : c.isPendingMaximized = b) (size : Size) :
    (c.setMaximized b size).1 = c := by
  rw [setMaximized, if_pos h]

theorem setMaximized_begin (h : c.isPendingMaximized = false) (size : Size) :
    (c.setMaximized true size).1 = { c with
      isPendingMaximized := true, isPendingFullscreen := false
      tile := c.tile.requestMaximized size false } := by
  rw [setMaximized, if_neg (by simp [h]), if_pos rfl]

theorem setMaximized_end (h : c.isPendingMaximized = true) (size : Size) :
    (c.setMaximized false size).1 = { c with isPendingMaximized := false } := by
  rw [setMaximized, if_neg (by simp [h]), if_neg Bool.false_ne_true]

/-- The two kinds of takeovers. -/
inductive Takeover
  | fullscreen
  | maximized
  deriving DecidableEq, Repr

def Takeover.mode : Takeover → SizingMode
  | .fullscreen => .fullscreen
  | .maximized => .maximized

/-- A request for a takeover, or for its end. -/
def ask (kind : Takeover) (value : Bool) (workingAreaSize : Size) (c : Column W) : Column W :=
  match kind with
  | .fullscreen => (c.setFullscreen value).1
  | .maximized => (c.setMaximized value workingAreaSize).1

theorem windowId_ask (kind : Takeover) (value : Bool) (size : Size) (c : Column W) :
    (ask kind value size c).windowId = c.windowId := by
  cases kind with
  | fullscreen => exact windowId_setFullscreen c value
  | maximized => exact windowId_setMaximized c value size

theorem tile_ask (kind : Takeover) (value : Bool) (area : Size) (c : Column W) :
    (ask kind value area c).tile.restoreToFloating = c.tile.restoreToFloating ∧
      (ask kind value area c).tile.viewSize = c.tile.viewSize := by
  cases kind <;> cases value <;> unfold ask setFullscreen setMaximized <;>
    split_ifs <;> exact ⟨rfl, rfl⟩

/-! ### The two records of the mode -/

/-- The flags of a column and its window agree on the mode, which is one. -/
structure Agrees (c : Column W) : Prop where
  mode_eq : c.pendingSizingMode = LayoutElement.pendingSizingMode c.tile.window
  one : ¬(c.isPendingFullscreen = true ∧ c.isPendingMaximized = true)

theorem takesOver_iff : c.takesOver = true ↔ c.pendingSizingMode ≠ .normal := by
  unfold takesOver Column.pendingSizingMode
  split_ifs <;> simp_all

theorem Agrees.takesOver_iff (h : Agrees c) :
    c.takesOver = true ↔ LayoutElement.pendingSizingMode c.tile.window ≠ .normal := by
  rw [Column.takesOver_iff, h.mode_eq]

/-- Nothing is ended where another takeover is going on. -/
theorem Agrees.ask_of_ne (h : Agrees c) {kind : Takeover} (hmode : c.pendingSizingMode ≠ kind.mode)
    (size : Size) : ask kind false size c = c := by
  cases kind with
  | fullscreen =>
    refine setFullscreen_same ?_
    by_contra hfull
    rw [Bool.not_eq_false] at hfull
    exact hmode (if_pos hfull)
  | maximized =>
    refine setMaximized_same ?_ size
    by_contra hmax
    rw [Bool.not_eq_false] at hmax
    have hfull : c.isPendingFullscreen = false := by simpa [hmax] using h.one
    exact hmode (by simp [Column.pendingSizingMode, hfull, hmax, Takeover.mode])

section Modes

variable [PendsLastMode W]

/-- A column that was given a slot agrees if it takes over and agreed, or does not
take over. -/
theorem agrees_fillSlot (h : c.takesOver = true → Agrees c) (size : Size) :
    Agrees (c.fillSlot size) := by
  by_cases hc : c.takesOver = true
  · rw [fillSlot_of_takesOver hc]
    exact h hc
  · have hnone : c.isPendingFullscreen = false ∧ c.isPendingMaximized = false := by
      simpa [takesOver] using hc
    rw [fillSlot, if_neg (by simp [hnone])]
    refine ⟨?_, by simp [hnone.1]⟩
    simp [Column.pendingSizingMode, hnone.1, hnone.2, Tile.requestTileSize,
      PendsLastMode.requestSize]

theorem Agrees.steady (h : Agrees c) (hd : Steady c d) : Agrees d := by
  induction hd with
  | refl => exact h
  | fill _ size ih => exact agrees_fillSlot (fun _ => ih) size
  | retile _ tile htile ih => exact ⟨ih.mode_eq.trans htile.window.pendingSizingMode_eq.symm, ih.one⟩

theorem agrees_setFullscreen (h : Agrees c) : Agrees (c.setFullscreen true).1 := by
  cases hfull : c.isPendingFullscreen with
  | true => exact (setFullscreen_same hfull).symm ▸ h
  | false =>
    rw [setFullscreen_begin hfull]
    exact ⟨(PendsLastMode.requestSize _ _ _ _).symm, by simp⟩

theorem agrees_setMaximized (h : Agrees c) (size : Size) :
    Agrees (c.setMaximized true size).1 := by
  cases hmax : c.isPendingMaximized with
  | true => exact (setMaximized_same hmax size).symm ▸ h
  | false =>
    rw [setMaximized_begin hmax]
    exact ⟨(PendsLastMode.requestSize _ _ _ _).symm, by simp⟩

omit [PendsLastMode W] in
/-- What still takes over when fullscreen ended agrees. -/
theorem agrees_of_unset_fullscreen (h : Agrees c)
    (hd : (c.setFullscreen false).1.takesOver = true) : Agrees (c.setFullscreen false).1 := by
  cases hfull : c.isPendingFullscreen with
  | false => exact (setFullscreen_same hfull).symm ▸ h
  | true =>
    rw [setFullscreen_end hfull] at hd
    exact absurd ⟨hfull, by simpa [takesOver] using hd⟩ h.one

omit [PendsLastMode W] in
theorem agrees_of_unset_maximized (h : Agrees c) (size : Size)
    (hd : (c.setMaximized false size).1.takesOver = true) :
    Agrees (c.setMaximized false size).1 := by
  cases hmax : c.isPendingMaximized with
  | false => exact (setMaximized_same hmax size).symm ▸ h
  | true =>
    rw [setMaximized_end hmax] at hd
    exact absurd ⟨by simpa [takesOver] using hd, hmax⟩ h.one

theorem agrees_ask (h : Agrees c) (kind : Takeover) (size : Size) :
    Agrees (ask kind true size c) := by
  cases kind with
  | fullscreen => exact agrees_setFullscreen h
  | maximized => exact agrees_setMaximized h size

omit [PendsLastMode W] in
theorem agrees_of_ask (h : Agrees c) {kind : Takeover} {size : Size}
    (hd : (ask kind false size c).takesOver = true) : Agrees (ask kind false size c) := by
  cases kind with
  | fullscreen => exact agrees_of_unset_fullscreen h hd
  | maximized => exact agrees_of_unset_maximized h size hd

/-- A column made for a tile takes over its mode and asks for it. -/
theorem agrees_newWithTile (tile : Tile W) (viewSize : Size) (workingArea parentArea : Rect)
    (scale : ℚ) (width : ColumnWidth) (isFullWidth : Bool) :
    Agrees (newWithTile tile viewSize workingArea parentArea scale width isFullWidth) := by
  unfold newWithTile
  cases hmode : LayoutElement.pendingSizingMode tile.window with
  | normal => exact ⟨hmode.symm, by simp⟩
  | maximized =>
    exact ⟨(PendsLastMode.requestSize _ _ _ _).symm, by simp [setMaximized]⟩
  | fullscreen =>
    exact ⟨(PendsLastMode.requestSize _ _ _ _).symm, by simp [setFullscreen]⟩

omit [PendsLastMode W] in
theorem agrees_updateConfig (h : Agrees c) (viewSize : Size) (workingArea parentArea : Rect)
    (scale : ℚ) (options : Options) :
    Agrees (c.updateConfig viewSize workingArea parentArea scale options) := ⟨h.mode_eq, h.one⟩

end Modes

end Column

end Sol
