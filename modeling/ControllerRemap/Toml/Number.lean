import ControllerRemap.Number.Decimal
import ControllerRemap.Toml.Space

/-! Numbers, dates and times of TOML. Underscores may stand between digits. Integers
have 64 bits, in decimal without a leading zero or with a base mark and no sign;
a float has a fraction or an exponent, and one too large to represent is refused
unless it is negative. -/

namespace ControllerRemap.Toml

/-! ### Numerals -/

/-- No underscore at either end and no two in a row. -/
def spaced : List Char → Bool
  | [] => false
  | [c] => c != '_'
  | c :: d :: rest => c != '_' && (if d == '_' then spaced rest else spaced (d :: rest))

/-- A run of digits and underscores, without the latter. -/
def readDigits (base : Nat) (cs : List Char) : Option (List Char × List Char) :=
  let inRun (c : Char) := Digits.isDigit base c || c == '_'
  let run := cs.takeWhile inRun
  if spaced run then some (run.filter (· != '_'), cs.dropWhile inRun) else none

/-- A plus or minus sign, if one is there. -/
def readSign : List Char → Bool × List Char
  | '-' :: rest => (true, rest)
  | '+' :: rest => (false, rest)
  | cs => (false, cs)

/-- An integer of 64 bits. -/
def integer? (negative : Bool) (magnitude : Nat) : Option Value :=
  let n : Int := if negative then -magnitude else magnitude
  if -9223372036854775808 ≤ n ∧ n ≤ 9223372036854775807 then some (.integer n) else none

def readBased (base : Nat) (cs : List Char) : Option (Value × List Char) := do
  let (digits, rest) ← readDigits base cs
  let v ← integer? false (Digits.value base digits)
  return (v, rest)

/-! ### Floats -/

def readExponent (cs : List Char) : Option (Int × List Char) := do
  let (negative, body) := readSign cs
  let (digits, rest) ← readDigits 10 body
  let n : Int := Digits.value 10 digits
  return (if negative then -n else n, rest)

/-- The exponent of a float, if one is there. -/
def readExponentMark : List Char → Option (Int × List Char)
  | 'e' :: rest => readExponent rest
  | 'E' :: rest => readExponent rest
  | cs => some (0, cs)

/-- The number written with given digits before and after the point. -/
def float? (negative : Bool) (whole fraction : List Char) (exponent : Int) : Option Value :=
  let x := Decimal.toFloat ⟨Digits.value 10 (whole ++ fraction), exponent - fraction.length⟩
  if negative then some (.float (-x)) else if x.isFinite then some (.float x) else none

/-- What follows the digits before the point, if the number is a float. -/
def readFloatTail (negative : Bool) (whole cs : List Char) : Option (Value × List Char) :=
  match cs with
  | '.' :: rest => do
    let (fraction, rest) ← readDigits 10 rest
    let (exponent, rest) ← readExponentMark rest
    let v ← float? negative whole fraction exponent
    return (v, rest)
  | _ => do
    let (exponent, rest) ← readExponentMark cs
    let v ← float? negative whole [] exponent
    return (v, rest)

def startsFloatTail : List Char → Bool
  | c :: _ => c == '.' || c == 'e' || c == 'E'
  | [] => false

/-- An infinity or NaN after its sign. -/
def readSpecial (negative : Bool) : List Char → Option (Value × List Char)
  | 'i' :: 'n' :: 'f' :: rest => some (.float (Binary64.signed negative Decimal.infinity), rest)
  | 'n' :: 'a' :: 'n' :: rest => some (.float (0.0 / 0.0), rest)
  | _ => none

/-- A decimal integer or a float. -/
def readDecimal (cs : List Char) : Option (Value × List Char) :=
  let (negative, body) := readSign cs
  match readSpecial negative body with
  | some found => some found
  | none => do
    let (whole, rest) ← readDigits 10 body
    if whole.length > 1 && whole.head? == some '0' then none
    else if startsFloatTail rest then readFloatTail negative whole rest
    else
      let v ← integer? negative (Digits.value 10 whole)
      return (v, rest)

/-! ### Dates and times -/

/-- A number of exactly `count` decimal digits within bounds. -/
def readField (count low high : Nat) (cs : List Char) : Option (Nat × List Char) := do
  let run := cs.take count
  if run.length = count then
    let n ← Digits.read? 10 run
    if low ≤ n ∧ n ≤ high then return (n, cs.drop count) else none
  else none

/-- Exactly one given character. -/
def expect (c : Char) : List Char → Option (List Char)
  | d :: rest => if d == c then some rest else none
  | [] => none

def daysIn (year month : Nat) : Nat :=
  let leap := year % 4 = 0 ∧ (year % 100 ≠ 0 ∨ year % 400 = 0)
  if month = 2 then if leap then 29 else 28
  else if month ∈ [4, 6, 9, 11] then 30
  else 31

def skipDate (cs : List Char) : Option (List Char) := do
  let (year, cs) ← readField 4 0 9999 cs
  let cs ← expect '-' cs
  let (month, cs) ← readField 2 1 12 cs
  let cs ← expect '-' cs
  let (_, cs) ← readField 2 1 (daysIn year month) cs
  return cs

/-- Fractions of a second may have any number of digits. -/
def skipFraction (cs : List Char) : List Char :=
  match cs with
  | '.' :: d :: rest => if d.isDigit then rest.dropWhile Char.isDigit else cs
  | _ => cs

def skipTime (cs : List Char) : Option (List Char) := do
  let (_, cs) ← readField 2 0 23 cs
  let cs ← expect ':' cs
  let (_, cs) ← readField 2 0 59 cs
  let cs ← expect ':' cs
  let (_, cs) ← readField 2 0 60 cs
  return skipFraction cs

def skipOffset (cs : List Char) : Option (List Char) :=
  match cs with
  | 'Z' :: rest => some rest
  | 'z' :: rest => some rest
  | c :: rest =>
    if c == '+' || c == '-' then do
      let (_, rest) ← readField 2 0 23 rest
      let rest ← expect ':' rest
      let (_, rest) ← readField 2 0 59 rest
      return rest
    else none
  | [] => none

/-- The time after a date, with its offset. -/
def skipTimeOfDate (cs : List Char) : Option (List Char) :=
  match cs with
  | c :: rest =>
    if c == 'T' || c == 't' || c == ' ' then do
      let rest ← skipTime rest
      return (skipOffset rest).getD rest
    else none
  | [] => none

/-- A date, a time, or a date with a time. -/
def skipDatetime (cs : List Char) : Option (List Char) :=
  match skipDate cs with
  | some rest => some ((skipTimeOfDate rest).getD rest)
  | none => skipTime cs

/-- A number, date or time. -/
def readNumber : Reader Value := fun cs =>
  match skipDatetime cs with
  | some rest => some (.datetime (String.ofList (cs.take (cs.length - rest.length))), rest)
  | none =>
    match cs with
    | '0' :: 'x' :: rest => readBased 16 rest
    | '0' :: 'o' :: rest => readBased 8 rest
    | '0' :: 'b' :: rest => readBased 2 rest
    | _ => readDecimal cs

end ControllerRemap.Toml
