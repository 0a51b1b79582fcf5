import ControllerRemap.Number.Binary64
import ControllerRemap.Number.Digits

/-! Value transforms of remap rules. The formulas are those that a configuration
can name; a linear one computes in 64-bit words, and results are clamped to the 32-bit
range. A custom transform is any function of the value. -/

namespace ControllerRemap

inductive Formula where
  | identity
  | negate
  /-- `mult * value / div + offset`; the quotient goes toward zero. -/
  | linear (mult div offset : Int32)
  deriving DecidableEq

namespace Formula

def product (mult v : Int32) : Int64 := mult.toInt64 * v.toInt64

def quotient (mult div v : Int32) : Int64 := product mult v / div.toInt64

def total (mult div offset v : Int32) : Int64 := quotient mult div v + offset.toInt64

/-- A zero divisor leaves the offset alone. -/
def apply : Formula → Int32 → Int32
  | .identity, v => v
  | .negate, v => Binary64.saturate (-v.toInt)
  | .linear mult div offset, v =>
    if div = 0 then offset else Binary64.saturate (total mult div offset v).toInt

def text : Formula → String
  | .identity => "Identity"
  | .negate => "Negate"
  | .linear mult div offset =>
    let num (v : Int32) := String.ofList (Digits.ofInt v.toInt)
    "Linear \x7b mult: " ++ num mult ++ ", div: " ++ num div ++ ", offset: " ++ num offset ++ " \x7d"

end Formula

inductive Transform where
  | formula (f : Formula)
  | custom (f : Int32 → Int32)

namespace Transform

def apply : Transform → Int32 → Int32
  | .formula f, v => f.apply v
  | .custom f, v => f v

def text : Transform → String
  | .formula f => f.text
  | .custom _ => "Custom(..)"

end Transform

end ControllerRemap
