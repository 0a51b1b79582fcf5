import ControllerRemap.Event.Live
import ControllerRemap.Event.Name
import ControllerRemap.Remap.Transform

/-! Remap rules. A rule forwards one input channel to one output channel while all
its modifiers hold; a modifier is a range condition on the live value of another
channel. A rule is valid if no two of its modifiers share a channel and its
transform does not divide by zero. -/

namespace ControllerRemap

structure Modifier where
  source : Channel
  min : Option Int32 := none
  max : Option Int32 := none
  deriving DecidableEq

/-- Both ends belong to the range, and an absent end is open. -/
def Modifier.holds (m : Modifier) (live : Live) : Bool :=
  let v := live.value m.source
  m.min.all (· ≤ v) && m.max.all (v ≤ ·)

structure Rule where
  source : Channel
  target : Channel
  transform : Transform := .formula .identity
  modifiers : List Modifier := []
  /-- Sent when the modifiers stop to hold. -/
  releaseValue : Int32 := 0

inductive RuleError where
  | duplicateModifier (channel : Channel)
  | zeroDivisor
  deriving DecidableEq

def RuleError.message : RuleError → String
  | .duplicateModifier c => "modifier " ++ c.text ++ " already exists on this rule"
  | .zeroDivisor => "linear transform divisor must not be zero"

/-- The first channel that stands in `seen` or earlier in the list. -/
def firstRepeat (seen : List Channel) : List Channel → Option Channel
  | [] => none
  | c :: cs => if c ∈ seen then some c else firstRepeat (c :: seen) cs

namespace Rule

/-- Forwards a channel unchanged and unconditionally. -/
def plain (source target : Channel) : Rule := { source, target }

/-- The rule is active in a live table. -/
def isActive (r : Rule) (live : Live) : Bool := r.modifiers.all (·.holds live)

def output (r : Rule) (v : Int32) : Event := ⟨r.target, r.transform.apply v⟩

def releaseEvent (r : Rule) : Event := ⟨r.target, r.releaseValue⟩

def dividesByZero (r : Rule) : Bool :=
  match r.transform with
  | .formula (.linear _ div _) => div = 0
  | _ => false

def validate (r : Rule) : Except RuleError Unit :=
  if r.dividesByZero then .error .zeroDivisor
  else match firstRepeat [] (r.modifiers.map (·.source)) with
    | some c => .error (.duplicateModifier c)
    | none => .ok ()

end Rule

end ControllerRemap
