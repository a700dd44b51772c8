import Sol.ScrollingRun
import Sol.Sample

/-!
# Sample tiling spaces

Concrete runs of the tiling space: the windows 1 to n opened one after another.
-/

namespace Sol.Sample

open ScrollingSpace

def tile (n : ℕ) : Tile Toplevel := Tile.new (toplevel n) ⟨1920, 1080⟩ 1 options

/-- The space in which the windows from 1 to `n` have been opened in turn. -/
def space : ℕ → ScrollingSpace Toplevel
  | 0 => .new ⟨1920, 1080⟩ ⟨⟨0, 0⟩, ⟨1920, 1080⟩⟩ 1 options
  | n + 1 => (space n).addTile (tile (n + 1)) true (.proportion (1 / 2)) false

theorem reachable_space (n : ℕ) : Reachable (space n) := by
  induction n with
  | zero => exact .initial ⟨_, _, _, _, rfl⟩
  | succ n ih =>
    exact .step ih (clock, .addTile (tile (n + 1)) true (.proportion (1 / 2)) false) trivial rfl

end Sol.Sample
