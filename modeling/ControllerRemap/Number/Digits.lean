/-! Numerals of natural numbers in a base up to sixteen. `digits` writes the most
significant digit first and no leading zero; `read?` takes any nonempty run of
digits, upper or lower case, and any number of leading zeros. -/

namespace ControllerRemap.Digits

/-- Lower case above nine. -/
def digitChar (d : Nat) : Char :=
  if d < 10 then Char.ofNat (48 + d) else Char.ofNat (87 + d)

/-- The value of a hexadecimal digit. -/
def digitValue? (c : Char) : Option Nat :=
  let n := c.toNat
  if 48 ≤ n && n ≤ 57 then some (n - 48)
  else if 65 ≤ n && n ≤ 70 then some (n - 55)
  else if 97 ≤ n && n ≤ 102 then some (n - 87)
  else none

def isDigit (base : Nat) (c : Char) : Bool :=
  match digitValue? c with
  | some d => d < base
  | none => false

/-- The numeral of `n`; a base below two gives a single sign. -/
def digits (base n : Nat) : List Char :=
  if _h : 2 ≤ base ∧ base ≤ n then digits base (n / base) ++ [digitChar (n % base)]
  else [digitChar n]
termination_by n
decreasing_by exact Nat.div_lt_self (by omega) (by omega)

/-- The number that a run of digits names. -/
def value (base : Nat) (cs : List Char) : Nat :=
  cs.foldl (fun n c => n * base + (digitValue? c).getD 0) 0

def read? (base : Nat) (cs : List Char) : Option Nat :=
  if !cs.isEmpty && cs.all (isDigit base) then some (value base cs) else none

/-- Zeros in front up to a width. -/
def pad (width : Nat) (cs : List Char) : List Char :=
  List.replicate (width - cs.length) '0' ++ cs

/-- The decimal numeral of an integer. -/
def ofInt : Int → List Char
  | .ofNat n => digits 10 n
  | .negSucc n => '-' :: digits 10 (n + 1)

theorem digitValue?_digitChar {d : Nat} (h : d < 16) : digitValue? (digitChar d) = some d := by
  have all : ∀ e ∈ List.range 16, digitValue? (digitChar e) = some e := by decide
  exact all d (List.mem_range.mpr h)

theorem value_append (base : Nat) (cs ds : List Char) :
    value base (cs ++ ds) = ds.foldl (fun n c => n * base + (digitValue? c).getD 0) (value base cs) := by
  simp [value, List.foldl_append]

/-- Writing and reading a numeral gives the number back. -/
theorem value_digits {base : Nat} (two_le : 2 ≤ base) (le : base ≤ 16) (n : Nat) :
    value base (digits base n) = n := by
  induction n using Nat.strongRecOn with
  | _ n ih =>
    rw [digits]
    split
    · next h =>
      have hm : n % base < base := Nat.mod_lt _ (by omega)
      rw [value_append, ih _ (Nat.div_lt_self (by omega) (by omega))]
      simp [digitValue?_digitChar (show n % base < 16 by omega), Nat.div_add_mod']
    · next h =>
      simp [value, digitValue?_digitChar (show n < 16 by omega)]

end ControllerRemap.Digits
