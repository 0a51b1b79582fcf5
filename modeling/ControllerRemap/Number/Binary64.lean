/-! Exact operations on double-precision numbers: parts, truncation, rounding to
an integer, the remainder of a division and the conversions to integers. Each
works on the mantissa and exponent that the bits encode, in natural numbers, so
no step rounds. -/

namespace ControllerRemap.Binary64

/-- A finite number `± mantissa * 2 ^ exponent`. -/
structure Parts where
  negative : Bool
  mantissa : Nat
  exponent : Int
  deriving DecidableEq

def isNegative (x : Float) : Bool := x.toBits >>> 63 == 1

/-- The parts that the bits encode; infinities and NaN have none. -/
def parts? (x : Float) : Option Parts :=
  let fraction : Nat := x.toBits.toNat % Nat.pow 2 52
  let biased : Nat := x.toBits.toNat / Nat.pow 2 52 % Nat.pow 2 11
  if biased = 2047 then none
  else if biased = 0 then some ⟨isNegative x, fraction, -1074⟩
  else some ⟨isNegative x, Nat.pow 2 52 + fraction, (biased : Int) - 1075⟩

def signed (negative : Bool) (x : Float) : Float := if negative then -x else x

/-- Toward zero; a zero keeps the sign of `x`. -/
def trunc (x : Float) : Float :=
  match parts? x with
  | some p =>
    if 0 ≤ p.exponent then x
    else signed p.negative (Float.ofNat (p.mantissa / Nat.pow 2 (-p.exponent).toNat))
  | none => x

/-- To the nearest integer, halves away from zero; a zero keeps the sign of `x`. -/
def round (x : Float) : Float :=
  match parts? x with
  | some p =>
    if 0 ≤ p.exponent then x
    else
      let k := (-p.exponent).toNat
      signed p.negative (Float.ofNat ((p.mantissa + Nat.pow 2 (k - 1)) / Nat.pow 2 k))
  | none => x

/-- One with the sign of `x`, zeros included; NaN for NaN. -/
def sign (x : Float) : Float :=
  if x.isNaN then x else signed (isNegative x) 1.0

/-- The power of two with an exponent from -1074 to 1023. -/
def pow2 (e : Int) : Float :=
  if -1022 ≤ e then Float.ofBits (UInt64.ofNat ((e + 1023).toNat * Nat.pow 2 52))
  else Float.ofBits (UInt64.ofNat (Nat.pow 2 (e + 1074).toNat))

/-- The remainder of the truncated quotient `x / y`, with the sign of `x`. -/
def remainder (x y : Float) : Float :=
  match parts? x, parts? y with
  | some p, some q =>
    if q.mantissa = 0 then 0.0 / 0.0
    else
      let e := min p.exponent q.exponent
      let m := p.mantissa * Nat.pow 2 (p.exponent - e).toNat
      let d := q.mantissa * Nat.pow 2 (q.exponent - e).toNat
      signed p.negative (Float.ofNat (m % d) * pow2 e)
  | some _, none => if y.isNaN then y else x
  | none, _ => 0.0 / 0.0

/-- The remainder moved into `[0, |y|)`. -/
def remEuclid (x y : Float) : Float :=
  let r := remainder x y
  if r < 0.0 then r + y.abs else r

/-- A number within two ends, and the nearer end for a number outside them. -/
def clamp (x low high : Float) : Float :=
  if x < low then low else if high < x then high else x

/-- The smaller of two numbers; a NaN gives way to the other. -/
def least (x y : Float) : Float :=
  if x.isNaN then y else if y < x then y else x

/-- The larger of two numbers; a NaN gives way to the other. -/
def greatest (x y : Float) : Float :=
  if x.isNaN then y else if x < y then y else x

/-- An integer within the 32-bit range, the nearer end of the range for others. -/
def saturate (n : Int) : Int32 := Int32.ofInt (max (-2147483648) (min 2147483647 n))

/-- Toward zero and clamped to the 32-bit range; zero for NaN. -/
def toInt32 (x : Float) : Int32 :=
  match parts? x with
  | some p =>
    let n := if 0 ≤ p.exponent then p.mantissa * Nat.pow 2 p.exponent.toNat
      else p.mantissa / Nat.pow 2 (-p.exponent).toNat
    saturate (if p.negative then -(n : Int) else n)
  | none => if x.isNaN then 0 else if isNegative x then -2147483648 else 2147483647

def ofInt32 (v : Int32) : Float := Float.ofInt v.toInt

end ControllerRemap.Binary64
