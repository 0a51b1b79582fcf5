import ControllerRemap.Config.Basic
import ControllerRemap.Remap.Remapper

/-! Building the rule table of a profile, and why a profile cannot be built. -/

namespace ControllerRemap

inductive ProfileError where
  /-- A profile needs a setting that has no default. -/
  | missing (profile : ProfileKind) (setting : String)
  /-- A rule is not valid. -/
  | rule (position : Nat) (error : RuleError)
  deriving DecidableEq

def ProfileError.message : ProfileError → String
  | .missing profile setting =>
    "Profile \"" ++ profile.name ++ "\" needs \x60" ++ setting ++ "\x60 to be set"
  | .rule position error =>
    "Rule " ++ String.ofList (Digits.digits 10 position) ++ ": " ++ error.message

namespace Remapper

/-- Adds rules in order, counting from `position`; the first invalid one is the error. -/
def addAll (live : Live) : Nat → List Rule → Remapper → Except ProfileError Remapper
  | _, [], r => .ok r
  | position, rule :: rest, r =>
    match r.add rule live with
    | .ok r => addAll live (position + 1) rest r
    | .error e => .error (.rule position e)

/-- The table of a list of rules. -/
def ofRules (rules : List Rule) (live : Live) : Except ProfileError Remapper :=
  addAll live 0 rules {}

end Remapper

end ControllerRemap
