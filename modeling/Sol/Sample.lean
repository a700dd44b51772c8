import Sol.Animation
import Sol.Element

/-!
# A sample window

A window for concrete runs: it notes the last size and mode it was asked for,
and takes them on when it commits.
-/

namespace Sol.Sample

/-- The state of a sample window. -/
structure Toplevel where
  id : ℕ
  parent : Option ℕ
  size : ISize
  sizingMode : SizingMode
  requestedSize : ISize
  pendingSizingMode : SizingMode
  isPendingWindowedFullscreen : Bool
  isActivated : Bool
  interactiveResize : Option InteractiveResizeData
  deriving DecidableEq, Repr

/-- A freshly mapped window. -/
def toplevel (id : ℕ) : Toplevel where
  id := id
  parent := none
  size := ⟨100, 100⟩
  sizingMode := .normal
  requestedSize := ⟨0, 0⟩
  pendingSizingMode := .normal
  isPendingWindowedFullscreen := false
  isActivated := false
  interactiveResize := none

instance : LayoutElement Toplevel ℕ where
  id := Toplevel.id
  size := Toplevel.size
  minSize _ := ⟨0, 0⟩
  maxSize _ := ⟨0, 0⟩
  sizingMode := Toplevel.sizingMode
  pendingSizingMode := Toplevel.pendingSizingMode
  expectedSize w := some w.size
  isPendingWindowedFullscreen := Toplevel.isPendingWindowedFullscreen
  isChildOf w parent := w.parent == some parent.id
  rules _ := ⟨⟨false, false, none⟩, none⟩
  configureIntent _ := .canSend
  interactiveResizeData := Toplevel.interactiveResize
  requestSize w size mode _ := { w with requestedSize := size, pendingSizingMode := mode }
  requestSizeOnce w size _ := { w with requestedSize := size, pendingSizingMode := .normal }
  requestWindowedFullscreen w value := { w with isPendingWindowedFullscreen := value }
  setActivated w active := { w with isActivated := active }
  setActiveInColumn w _ := w
  setFloating w _ := w
  setBounds w _ := w
  setInteractiveResize w data := { w with interactiveResize := data }
  cancelInteractiveResize w := { w with interactiveResize := none }
  sendPendingConfigure w := w
  onCommit w _ := { w with size := w.requestedSize, sizingMode := w.pendingSizingMode }
  id_requestSize _ _ _ _ := rfl
  id_requestSizeOnce _ _ _ := rfl
  id_requestWindowedFullscreen _ _ := rfl
  id_setActivated _ _ := rfl
  id_setActiveInColumn _ _ := rfl
  id_setFloating _ _ := rfl
  id_setBounds _ _ := rfl
  id_setInteractiveResize _ _ := rfl
  id_cancelInteractiveResize _ := rfl
  id_sendPendingConfigure _ := rfl
  id_onCommit _ _ := rfl

/-- An animation that takes no time. -/
def noAnimation : AnimationConfig := ⟨true, .easing 0 fun x => x⟩

/-- Default options, without animations. -/
def options : Options where
  layout := .default
  animations := ⟨noAnimation, noAnimation, noAnimation, noAnimation⟩
  gestures := ⟨⟨30, 100, 1500⟩, ⟨50, 100, 1500⟩⟩
  overviewZoom := 1 / 2
  deactivateUnfocusedWindows := false

def clock : Clock := ⟨0, 0, 1, false⟩

/-- The options with an empty workspace wanted above the first one. -/
def paddedOptions : Options :=
  { options with layout := { options.layout with emptyWorkspaceAboveFirst := true } }

/-- The output with a number. -/
def output (key : ℕ) : Output :=
  ⟨key, ⟨toString key, none, none, none⟩, 1, ⟨1920, 1080⟩, ⟨⟨0, 0⟩, ⟨1920, 1080⟩⟩⟩

end Sol.Sample
