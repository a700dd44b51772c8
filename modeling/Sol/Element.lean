import Sol.Config

/-!
# Windows

What the layout knows of a window.  The layout is generic in the type of
windows; it reads a window's sizes and modes and sends it requests.  No request
changes the identity of a window.
-/

namespace Sol

inductive SizingMode
  | normal
  | maximized
  | fullscreen
  deriving DecidableEq, Repr

namespace SizingMode

def isNormal (self : SizingMode) : Bool := self == .normal

def isFullscreen (self : SizingMode) : Bool := self == .fullscreen

def isMaximized (self : SizingMode) : Bool := self == .maximized

end SizingMode

/-- The edges held by an interactive resize. -/
structure ResizeEdge where
  top : Bool
  bottom : Bool
  left : Bool
  right : Bool
  deriving DecidableEq, Repr

structure InteractiveResizeData where
  edges : ResizeEdge
  deriving DecidableEq, Repr

/-- Whether a pending configure should be sent. -/
inductive ConfigureIntent
  | notNeeded
  | throttled
  | canSend
  | shouldSend
  deriving DecidableEq, Repr

/-- A window of the layout: what is read from it, what it is asked for, and the
law that it keeps its identity. -/
class LayoutElement (W : Type) (Id : outParam Type) where
  id : W → Id
  size : W → ISize
  minSize : W → ISize
  maxSize : W → ISize
  sizingMode : W → SizingMode
  pendingSizingMode : W → SizingMode
  /-- The size the window is to take next, where it is known. -/
  expectedSize : W → Option ISize
  isPendingWindowedFullscreen : W → Bool
  isChildOf : W → W → Bool
  rules : W → WindowRules
  configureIntent : W → ConfigureIntent
  interactiveResizeData : W → Option InteractiveResizeData
  /-- The requested size, the sizing mode to request, whether to animate. -/
  requestSize : W → ISize → SizingMode → Bool → W
  requestSizeOnce : W → ISize → Bool → W
  requestWindowedFullscreen : W → Bool → W
  setActivated : W → Bool → W
  setActiveInColumn : W → Bool → W
  setFloating : W → Bool → W
  setBounds : W → ISize → W
  setInteractiveResize : W → Option InteractiveResizeData → W
  cancelInteractiveResize : W → W
  sendPendingConfigure : W → W
  onCommit : W → ℕ → W
  id_requestSize : ∀ w s m a, id (requestSize w s m a) = id w
  id_requestSizeOnce : ∀ w s a, id (requestSizeOnce w s a) = id w
  id_requestWindowedFullscreen : ∀ w b, id (requestWindowedFullscreen w b) = id w
  id_setActivated : ∀ w b, id (setActivated w b) = id w
  id_setActiveInColumn : ∀ w b, id (setActiveInColumn w b) = id w
  id_setFloating : ∀ w b, id (setFloating w b) = id w
  id_setBounds : ∀ w s, id (setBounds w s) = id w
  id_setInteractiveResize : ∀ w d, id (setInteractiveResize w d) = id w
  id_cancelInteractiveResize : ∀ w, id (cancelInteractiveResize w) = id w
  id_sendPendingConfigure : ∀ w, id (sendPendingConfigure w) = id w
  id_onCommit : ∀ w n, id (onCommit w n) = id w

namespace LayoutElement

attribute [simp] id_requestSize id_requestSizeOnce id_requestWindowedFullscreen id_setActivated
  id_setActiveInColumn id_setFloating id_setBounds id_setInteractiveResize
  id_cancelInteractiveResize id_sendPendingConfigure id_onCommit

end LayoutElement

/-- Whether an added window is to be activated. -/
inductive ActivateWindow
  | yes
  | smart
  | no
  deriving DecidableEq, Repr

/-- `ActivateWindow::map_smart`. -/
def ActivateWindow.mapSmart (self : ActivateWindow) (f : Bool) : Bool :=
  match self with
  | .yes => true
  | .smart => f
  | .no => false

end Sol
