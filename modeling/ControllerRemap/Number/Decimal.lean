import ControllerRemap.Number.Binary64
import ControllerRemap.Number.Digits

/-! Decimal text of double-precision numbers. A decimal is a natural number times a
power of ten. `shortest` is the decimal of fewest digits that reads back as the
number, the nearest one if there are several; a decimal is written in positional
notation, however long. -/

namespace ControllerRemap

/-- The number `mantissa * 10 ^ exponent`. -/
structure Decimal where
  mantissa : Nat
  exponent : Int
  deriving DecidableEq

namespace Decimal

def infinity : Float := 1.0 / 0.0

/-- The nearest double-precision number. Exponents far out of its range are settled
by the number of digits alone. -/
def toFloat (d : Decimal) : Float :=
  let magnitude := d.exponent + (Digits.digits 10 d.mantissa).length
  if d.mantissa = 0 then 0.0
  else if 310 ≤ magnitude then infinity
  else if magnitude ≤ -324 then 0.0
  else Float.ofScientific d.mantissa (d.exponent < 0) d.exponent.natAbs

/-! ### The shortest decimal -/

/-- A positive rational number. -/
structure Ratio where
  num : Nat
  den : Nat

namespace Ratio

/-- The number divided by a power of ten. -/
def scale (r : Ratio) (e : Int) : Ratio :=
  if 0 ≤ e then ⟨r.num, r.den * Nat.pow 10 e.toNat⟩ else ⟨r.num * Nat.pow 10 (-e).toNat, r.den⟩

/-- The number of digits before the point; it falls below zero for small numbers. -/
def magnitude (r : Ratio) : Int :=
  let k : Int := (Digits.digits 10 r.num).length - (Digits.digits 10 r.den).length
  let s := r.scale k
  if s.den ≤ s.num then k + 1 else k

/-- The neighbours of the number among the decimals of an exponent, the nearer first. -/
def neighbours (r : Ratio) (e : Int) : List Decimal :=
  let s := r.scale e
  let below := s.num / s.den
  if 2 * (s.num % s.den) < s.den then [⟨below, e⟩, ⟨below + 1, e⟩]
  else [⟨below + 1, e⟩, ⟨below, e⟩]

end Ratio

def ratio (mantissa : Nat) (exponent : Int) : Ratio :=
  if 0 ≤ exponent then ⟨mantissa * Nat.pow 2 exponent.toNat, 1⟩
  else ⟨mantissa, Nat.pow 2 (-exponent).toNat⟩

/-- All digits of `mantissa * 2 ^ exponent`. -/
def exact (mantissa : Nat) (exponent : Int) : Decimal :=
  if 0 ≤ exponent then ⟨mantissa * Nat.pow 2 exponent.toNat, 0⟩
  else ⟨mantissa * Nat.pow 5 (-exponent).toNat, exponent⟩

/-- The same number without zeros at the end of its mantissa. -/
def reduce (d : Decimal) : Decimal :=
  if _h : d.mantissa ≠ 0 ∧ d.mantissa % 10 = 0 then reduce ⟨d.mantissa / 10, d.exponent + 1⟩ else d
termination_by d.mantissa
decreasing_by show d.mantissa / 10 < d.mantissa; omega

/-- The shortest decimal that reads back as a positive number of given parts. Seventeen
digits always suffice. A power of ten can be the neighbour of a smaller number, and
is then found with a zero too many. -/
def shortest (x : Float) (mantissa : Nat) (exponent : Int) : Decimal :=
  let r := ratio mantissa exponent
  let k := r.magnitude
  let hit (count : Nat) :=
    (r.neighbours (k - (count + 1 : Nat))).find? fun d => d.toFloat.toBits == x.toBits
  (((List.range 17).findSome? hit).getD (exact mantissa exponent)).reduce

/-! ### Text -/

/-- Positional notation, with at least one digit on either side of the point. -/
def text (d : Decimal) : List Char :=
  let ds := Digits.digits 10 d.mantissa
  if 0 ≤ d.exponent then ds ++ List.replicate d.exponent.toNat '0' ++ ['.', '0']
  else
    let places := (-d.exponent).toNat
    let ds := Digits.pad (places + 1) ds
    ds.take (ds.length - places) ++ '.' :: ds.drop (ds.length - places)

/-- The shortest text of a number, under a given spelling of NaN. -/
def textOf (nan : String) (x : Float) : List Char :=
  match Binary64.parts? x with
  | some p =>
    let body := if p.mantissa = 0 then ['0', '.', '0']
      else text (shortest x.abs p.mantissa p.exponent)
    if p.negative then '-' :: body else body
  | none => if x.isNaN then nan.toList else if x < 0.0 then "-inf".toList else "inf".toList

end Decimal

end ControllerRemap
