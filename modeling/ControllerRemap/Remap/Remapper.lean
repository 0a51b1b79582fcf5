import ControllerRemap.Remap.Index
import ControllerRemap.Remap.Rule

/-! The table of remap rules. Every rule has a gate, which is open while its
modifiers hold. An event is first forwarded by the active rules of its channel;
then every rule with a modifier on the channel re-evaluates its gate, sends its
release value if the gate closes, and sends the live value of its source again
if the gate opens. Two indices give the rules concerned without a search. -/

namespace ControllerRemap

/-- A registered rule with its gate. -/
structure Slot where
  rule : Rule
  isOpen : Bool

/-- A handle to a registered rule. -/
structure RuleId where
  position : Nat
  deriving DecidableEq

structure Remapper where
  slots : List Slot := []
  bySource : Index := {}
  byModifier : Index := {}

namespace Slot

/-- The gate after an event on one of its modifiers, and the event of the edge. -/
def regate (s : Slot) (live : Live) : Slot × List Event :=
  let isOpen := s.rule.isActive live
  let edge := match s.isOpen, isOpen with
    | true, false => [s.rule.releaseEvent]
    | false, true => [s.rule.output (live.value s.rule.source)]
    | _, _ => []
  ({ s with isOpen }, edge)

end Slot

namespace Remapper

def size (r : Remapper) : Nat := r.slots.length

def gates (r : Remapper) : List Bool := r.slots.map (·.isOpen)

/-- Registers a valid rule last, its gate set from a live table. -/
def add (r : Remapper) (rule : Rule) (live : Live) : Except RuleError Remapper := do
  rule.validate
  let i := r.slots.length
  return {
    slots := r.slots ++ [⟨rule, rule.isActive live⟩]
    bySource := r.bySource.file rule.source i
    byModifier := rule.modifiers.foldl (fun ix m => ix.file m.source i) r.byModifier }

/-- Registers a rule and names its id, or leaves the table and names the error. -/
def register (r : Remapper) (rule : Rule) (live : Live) : Remapper × Except RuleError RuleId :=
  match r.add rule live with
  | .ok r' => (r', .ok ⟨r.slots.length⟩)
  | .error e => (r, .error e)

/-- The rule that an id designates. -/
def rule? (r : Remapper) (id : RuleId) : Option Slot := r.slots[id.position]?

/-- The outputs of the active rules of an event's channel. -/
def forward (r : Remapper) (e : Event) (live : Live) : List Event :=
  (r.bySource.bucket e.channel).filterMap fun i =>
    match r.slots[i]? with
    | some s => if s.rule.isActive live then some (s.rule.output e.value) else none
    | none => none

/-- Re-evaluates the gates at some positions, one after the other. -/
def regateAt (live : Live) : List Nat → List Slot → List Slot × List Event
  | [], slots => (slots, [])
  | i :: is, slots =>
    match slots[i]? with
    | some s =>
      let (s', edge) := s.regate live
      let (slots', edges) := regateAt live is (slots.set i s')
      (slots', edge ++ edges)
    | none => regateAt live is slots

/-- One input event. The live table already holds its value. -/
def dispatch (r : Remapper) (e : Event) (live : Live) : Remapper × List Event :=
  let (slots, edges) := regateAt live (r.byModifier.bucket e.channel) r.slots
  ({ r with slots }, r.forward e live ++ edges)

/-- The target channels in the order of their first rules. -/
def targets (r : Remapper) : List Channel := (r.slots.map (·.rule.target)).eraseDups

/-- The release events of the rules whose target no earlier rule has. -/
def releaseFrom (seen : List Channel) : List Slot → List Event
  | [] => []
  | s :: rest =>
    if s.rule.target ∈ seen then releaseFrom seen rest
    else s.rule.releaseEvent :: releaseFrom (s.rule.target :: seen) rest

/-- Every target driven to the release value of its first rule. -/
def releaseAll (r : Remapper) : List Event := releaseFrom [] r.slots

end Remapper

end ControllerRemap
