import Sol.Assoc
import Sol.Config
import Sol.Floating
import Sol.Floats
import Sol.Greedy
import Sol.OutputManagement
import Sol.Region

/-!
# Where the outputs are

All outputs are placed anew, one after the other: those with a configured position first, and by
their names.  A configured position is taken if the output overlaps no other one there; any other
output goes to the right of all those before it.

The integers are not bounded: the sums are those of `i32` where nothing overflows.
-/

namespace Sol.OutputPlacement

open Floats OutputManagement

abbrev OutputId := ℕ

/-! ### Sizes -/

/-- A logical size, in `f64`. -/
structure FSize where
  w : Value
  h : Value
  deriving DecidableEq, Repr

/-- `as i32`, of an integral value. -/
def castI32 (integral : ℚ → ℤ) : Value → ℤ
  | .nan => 0
  | .infinite negative => if negative then -2147483648 else 2147483647
  | .finite value => asI32 (integral value)

def FSize.toI32Round (self : FSize) : ISize :=
  ⟨castI32 roundHalfAway self.w, castI32 roundHalfAway self.h⟩

def FSize.toI32Ceil (self : FSize) : ISize := ⟨castI32 Int.ceil self.w, castI32 Int.ceil self.h⟩

/-- `to_f64().to_logical(scale)`. -/
def toLogical (size : ISize) (scale : ℚ) : FSize :=
  ⟨binary64.round (size.w / scale), binary64.round (size.h / scale)⟩

def swaps : Transform → Bool
  | .rotated90 | .rotated270 | .flipped90 | .flipped270 => true
  | .normal | .rotated180 | .flipped | .flipped180 => false

def transformFSize (transform : Transform) (size : FSize) : FSize :=
  if swaps transform then ⟨size.h, size.w⟩ else size

def transformISize (transform : Transform) (size : ISize) : ISize :=
  if swaps transform then ⟨size.h, size.w⟩ else size

/-- An output: its names, the size of its mode in pixels, and how it is shown. -/
structure Screen where
  name : OutputName
  mode : ISize
  scale : ℚ
  scale_pos : 0 < scale
  transform : Transform

def outputSize (screen : Screen) : FSize :=
  transformFSize screen.transform (toLogical screen.mode screen.scale)

/-- The size in the geometry that the space reports. -/
def geometrySize (screen : Screen) : ISize :=
  (toLogical (transformISize screen.transform screen.mode) screen.scale).toI32Ceil

/-- `Rectangle::overlaps`. -/
def overlaps (r s : IRect) : Bool :=
  r.loc.x < s.loc.x + s.size.w && s.loc.x < r.loc.x + r.size.w &&
    r.loc.y < s.loc.y + s.size.h && s.loc.y < r.loc.y + r.size.h

/-! ### The space -/

/-- The mapped outputs, each once, with their positions. -/
structure Space where
  outputs : List (OutputId × IPoint)
  nodup : (Assoc.keys outputs).Nodup

def Space.mapOutput (self : Space) (output : OutputId) (location : IPoint) : Space :=
  if h : output ∈ Assoc.keys self.outputs then
    ⟨Assoc.modify output (fun _ => location) self.outputs, by
      rw [Assoc.keys_modify]
      exact self.nodup⟩
  else ⟨self.outputs ++ [(output, location)], Assoc.nodup_keys_concat self.nodup h⟩

def Space.unmapOutput (self : Space) (output : OutputId) : Space :=
  ⟨Assoc.remove output self.outputs, Assoc.nodup_keys_filter self.nodup _⟩

/-! ### Names -/

def compareOption (a b : Option String) : Ordering :=
  match a, b with
  | none, none => .eq
  | none, some _ => .lt
  | some _, none => .gt
  | some a, some b => compare a b

def missingMms (name : OutputName) : Bool :=
  name.make.isNone && name.model.isNone && name.serial.isNone

/-- `OutputName::compare`. -/
def compareNames (self other : OutputName) : Ordering :=
  match missingMms self, missingMms other with
  | true, true => compare self.connector other.connector
  | true, false => .gt
  | false, true => .lt
  | false, false =>
    (compareOption self.make other.make).then <| (compareOption self.model other.model).then <|
      (compareOption self.serial other.serial).then (compare self.connector other.connector)

/-- An output in the configuration. -/
structure OutputConfig where
  name : String
  position : Option IPoint
  deriving DecidableEq, Repr

/-! ### Placing -/

structure Niri where
  screens : OutputId → Screen
  globalSpace : Space
  /-- The positions that the outputs tell their clients. -/
  locations : OutputId → IPoint
  sortedOutputs : List OutputId
  ipcOutputsChanged : Bool
  /-- The outputs whose redraw was queued. -/
  redraws : List OutputId

structure Data where
  output : OutputId
  name : OutputName
  position : Option IPoint
  config : Option IPoint
  deriving DecidableEq, Repr

/-- `output_geometry`, of a mapped output. -/
def Niri.outputGeometry (self : Niri) (p : OutputId × IPoint) : IRect :=
  ⟨p.2, geometrySize (self.screens p.1)⟩

def Niri.geometries (self : Niri) : List IRect := self.globalSpace.outputs.map self.outputGeometry

def Niri.data (self : Niri) (config : List OutputConfig) (newOutput : Option OutputId) :
    List Data :=
  (Assoc.keys self.globalSpace.outputs ++ newOutput.toList).map fun output =>
    let name := (self.screens output).name
    { output := output
      name := name
      position := Assoc.get self.globalSpace.outputs output
      config := (config.find? fun c => name.matches c.name).bind OutputConfig.position }

/-- The outputs by their names, and among them those with a configured position first. -/
def placingOrder (outputs : List Data) : List Data :=
  (outputs.insertionSort fun a b => compareNames a.name b.name ≠ .gt).insertionSort fun a b =>
    a.config.isNone ≤ b.config.isNone

/-- To the right of all the outputs. -/
def automaticPosition (placed : List IRect) : IPoint :=
  ⟨((placed.map fun geom => geom.loc.x + geom.size.w).max?).getD 0, 0⟩

def Niri.newPosition (self : Niri) (data : Data) : IPoint :=
  let size := (outputSize (self.screens data.output)).toI32Round
  let position := data.config.filter fun pos => !self.geometries.any fun geom =>
    overlaps geom ⟨pos, size⟩
  position.getD (automaticPosition self.geometries)

def Niri.place (self : Niri) (data : Data) : Niri :=
  let newPosition := self.newPosition data
  let self := { self with globalSpace := self.globalSpace.mapOutput data.output newPosition }
  if some newPosition ≠ data.position then
    { self with
      locations := Function.update self.locations data.output newPosition
      ipcOutputsChanged := true
      redraws := self.redraws ++ [data.output] }
  else self

def Niri.repositionOutputs (self : Niri) (config : List OutputConfig)
    (newOutput : Option OutputId) : Niri :=
  let outputs := self.data config newOutput
  let globalSpace := outputs.foldl (fun space data => space.unmapOutput data.output)
    self.globalSpace
  let outputs := placingOrder outputs
  let self := { self with globalSpace, sortedOutputs := outputs.map Data.output }
  outputs.foldl Niri.place self

end Sol.OutputPlacement
