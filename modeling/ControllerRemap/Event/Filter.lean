import ControllerRemap.Event.Basic

/-! Which input events reach the profile. An event passes a filter if it matches
one of its rules, and an inverted filter passes the others; so the empty filter
passes nothing and the inverted empty filter everything. -/

namespace ControllerRemap

inductive FilterRule where
  | kind (kind : Kind)
  | channel (channel : Channel)
  /-- Codes between two ends, both included. -/
  | range (low high : Channel)
  deriving DecidableEq

/-- A range whose ends differ in type matches nothing. -/
def FilterRule.isMatch : FilterRule → Event → Bool
  | .kind k, e => e.channel.kind == k
  | .channel c, e => e.channel == c
  | .range low high, e =>
    low.kind == high.kind && e.channel.kind == low.kind &&
      low.code ≤ e.channel.code && e.channel.code ≤ high.code

structure Filter where
  rules : List FilterRule := []
  inverted : Bool := false
  deriving DecidableEq

namespace Filter

def passAll : Filter := { inverted := true }

def add (f : Filter) (rule : FilterRule) : Filter := { f with rules := f.rules ++ [rule] }

def passes (f : Filter) (e : Event) : Bool := f.rules.any (·.isMatch e) != f.inverted

@[simp] theorem passes_passAll (e : Event) : passAll.passes e = true := rfl

end Filter

end ControllerRemap
