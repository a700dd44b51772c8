import Sol.Scrolling
import Sol.FocusList

/-!
# The slots of the tiling space

What the tiling space holds in its slots, apart from the sizes and the slides of
the tiles: the windows in order, the focus, the remembered row and the share of
the master.  Sizing and sliding change none of it.

`WellFormed` is the invariant of the master-stack representation.  `row` is the
space as a list with a focus.
-/

namespace Sol

open Panicking

/-- The contents of the slots. -/
structure Slots (α : Type) where
  master : Option α
  stack : List α
  focus : Focus
  lastStackIdx : Option ℕ
  masterRatio : ℚ

namespace Slots

variable {α : Type} (x : Slots α)

/-- The slots once the master and row `i` have traded places. -/
def trade (i : ℕ) (focus : Focus) (memory : Option ℕ) : Slots α where
  master := x.stack[i]?
  stack := x.master.elim x.stack fun m => x.stack.set i m
  focus := focus
  lastStackIdx := memory
  masterRatio := x.masterRatio

/-- The master, the stack and the focused slot. -/
def arrangement : Option α × List α × Focus := (x.master, x.stack, x.focus)

/-- A second trade of the same row restores the arrangement. -/
theorem arrangement_trade_trade {m : α} {i : ℕ} (hm : x.master = some m) (hi : i < x.stack.length)
    (focus : Focus) (memory memory' : Option ℕ) :
    ((x.trade i focus memory).trade i x.focus memory').arrangement = x.arrangement := by
  simp [arrangement, trade, hm, hi]

end Slots

namespace ScrollingSpace

variable {W Id : Type} [LayoutElement W Id]

def slots (s : ScrollingSpace W) : Slots Id where
  master := s.master.map (·.windowId)
  stack := s.stack.map (·.windowId)
  focus := s.focus
  lastStackIdx := s.lastStackIdx
  masterRatio := s.masterRatio

/-- The space as a list of windows with a focus. -/
def row (s : ScrollingSpace W) : FocusList Id := ⟨s.windowIds, s.activeColumnIdxInternal⟩

/-- The invariant of the representation. -/
structure WellFormed (s : ScrollingSpace W) : Prop where
  focus_empty : s.focus = .empty ↔ s.columns = []
  focus_master : s.focus = .master → s.master.isSome
  focus_stack : ∀ i, s.focus = .stack i → i < s.stack.length
  master_of_stack : s.stack ≠ [] → s.master.isSome
  ratio_mem : 15 / 100 ≤ s.masterRatio ∧ s.masterRatio ≤ 85 / 100

/-! ### Spaces with the same slots -/

section Congr

variable {s t : ScrollingSpace W}

theorem focus_congr (h : s.slots = t.slots) : s.focus = t.focus := congrArg Slots.focus h

theorem lastStackIdx_congr (h : s.slots = t.slots) : s.lastStackIdx = t.lastStackIdx :=
  congrArg Slots.lastStackIdx h

theorem masterRatio_congr (h : s.slots = t.slots) : s.masterRatio = t.masterRatio :=
  congrArg Slots.masterRatio h

theorem length_stack_congr (h : s.slots = t.slots) : s.stack.length = t.stack.length := by
  simpa [slots] using congrArg (fun u => u.stack.length) h

theorem isSome_master_congr (h : s.slots = t.slots) : s.master.isSome = t.master.isSome := by
  simpa [slots] using congrArg (fun u => u.master.isSome) h

theorem windowIds_congr (h : s.slots = t.slots) : s.windowIds = t.windowIds := by
  have hm := congrArg Slots.master h
  have hs := congrArg Slots.stack h
  simp only [slots] at hm hs
  unfold windowIds columns
  rw [List.map_append, List.map_append, ← Option.toList_map, ← Option.toList_map, hm, hs]

theorem row_congr (h : s.slots = t.slots) : s.row = t.row := by
  unfold row activeColumnIdxInternal
  rw [windowIds_congr h, focus_congr h]

theorem columns_eq_nil_iff (s : ScrollingSpace W) : s.columns = [] ↔ s.windowIds = [] := by
  simp [windowIds]

theorem stack_eq_nil_iff (s : ScrollingSpace W) : s.stack = [] ↔ s.stack.length = 0 :=
  List.length_eq_zero_iff.symm

theorem WellFormed.congr (hs : s.WellFormed) (h : s.slots = t.slots) : t.WellFormed where
  focus_empty := by
    rw [← focus_congr h, columns_eq_nil_iff, ← windowIds_congr h, ← columns_eq_nil_iff]
    exact hs.focus_empty
  focus_master := by
    rw [← focus_congr h, ← isSome_master_congr h]
    exact hs.focus_master
  focus_stack := by
    rw [← focus_congr h, ← length_stack_congr h]
    exact hs.focus_stack
  master_of_stack := by
    rw [Ne, stack_eq_nil_iff, ← isSome_master_congr h, ← length_stack_congr h,
      ← stack_eq_nil_iff]
    exact hs.master_of_stack
  ratio_mem := by
    rw [← masterRatio_congr h]
    exact hs.ratio_mem

end Congr

/-! ### Sizing and sliding -/

section Sizing

variable (s : ScrollingSpace W)

theorem map_windowId_fillSlots (sizes : List Size) (cols : List (Column W)) :
    (fillSlots sizes cols).map (·.windowId) = cols.map (·.windowId) := by
  induction cols generalizing sizes with
  | nil => cases sizes <;> rfl
  | cons col cols ih => cases sizes <;> simp [fillSlots, ih]

@[simp] theorem slots_updateTileSizes : s.updateTileSizes.slots = s.slots := by
  unfold updateTileSizes
  cases hm : s.master with
  | none => simp [slots, hm, map_windowId_fillSlots]
  | some m => cases s.columnLayout <;> simp [slots, hm, map_windowId_fillSlots]

theorem slots_mapColumns {f : Column W → Column W} (hf : ∀ col, (f col).windowId = col.windowId) :
    (s.mapColumns f).slots = s.slots := by
  simp [slots, mapColumns, Function.comp_def, hf]

theorem slots_modifyColumnAt {f : Column W → Column W}
    (hf : ∀ col, (f col).windowId = col.windowId) (i : ℕ) :
    (s.modifyColumnAt i f).slots = s.slots := by
  unfold modifyColumnAt
  split_ifs
  · simp [slots, Function.comp_def, hf]
  · simp [slots, Vec.map_modify_eq (g := Column.windowId) hf]

@[simp] theorem windowId_slide (clock : Clock) (config : AnimationConfig) (delta : Point)
    (col : Column W) : (slide clock config delta col).windowId = col.windowId := by
  unfold slide Column.windowId
  dsimp only
  split_ifs <;> simp

variable [DecidableEq Id]

theorem slots_modifyColumnById {f : Column W → Column W}
    (hf : ∀ col, (f col).windowId = col.windowId) (window : Id) :
    (s.modifyColumnById window f).slots = s.slots := by
  unfold modifyColumnById modifyFirst
  split_ifs
  · simp [slots, Function.comp_def, hf]
  · cases s.stack.findIdx? fun col => col.windowId = window <;>
      simp [slots, Vec.map_modify_eq (g := Column.windowId) hf]

theorem slots_springTile (clock : Clock) (config : AnimationConfig)
    (post : List (ℕ × Id × Point)) (entry : ℕ × Id × Point) :
    (springTile clock config post s entry).slots = s.slots := by
  unfold springTile
  cases post.find? fun slot => slot.2.1 = entry.2.1 with
  | none => rfl
  | some slot => exact slots_modifyColumnById s (windowId_slide clock config _) _

@[simp] theorem slots_springFrom (clock : Clock) (pre : List (ℕ × Id × Point)) :
    (s.springFrom clock pre).slots = s.slots := by
  -- by induction on the tiles still to slide
  unfold springFrom
  generalize s.slotOrigins = post
  generalize s.options.animations.tileMovement = config
  induction pre generalizing s with
  | nil => rfl
  | cons entry pre ih => rw [List.foldl_cons, ih, slots_springTile]

end Sizing

end ScrollingSpace

end Sol
