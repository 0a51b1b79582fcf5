import ControllerRemap.Surface.Shape

/-! An ordered list of regions, each with an action and with the answer of its last
test. A sweep tests every region anew and reports those whose answer changed, in
the order of the list. Regions may overlap. -/

namespace ControllerRemap

structure Region (α : Type) where
  shape : Shape
  action : α
  inside : Bool := false

structure RegionMap (α : Type) where
  regions : List (Region α) := []

namespace RegionMap

variable {α : Type}

/-- Sets the answer of one region; a change is reported with the action. -/
def retest (r : Region α) (now : Bool) : Region α × List (α × Bool) :=
  ({ r with inside := now }, if now = r.inside then [] else [(r.action, now)])

/-- Tests all regions by a given predicate. -/
def sweep (now : Region α → Bool) (m : RegionMap α) : RegionMap α × List (α × Bool) :=
  (⟨m.regions.map fun r => (retest r (now r)).1⟩, m.regions.flatMap fun r => (retest r (now r)).2)

/-- Tests every region at a point of its own; without a point it is left. -/
def updateEach (locate : α → Option (Float × Float)) (m : RegionMap α) :
    RegionMap α × List (α × Bool) :=
  m.sweep fun r => match locate r.action with
    | some (x, y) => r.shape.contains x y
    | none => false

/-- Tests all regions at one point. -/
def update (x y : Float) (m : RegionMap α) : RegionMap α × List (α × Bool) :=
  m.updateEach fun _ => some (x, y)

/-- Leaves every region. -/
def release (m : RegionMap α) : RegionMap α × List (α × Bool) := m.sweep fun _ => false

def states (m : RegionMap α) : List Bool := m.regions.map (·.inside)

end RegionMap

end ControllerRemap
