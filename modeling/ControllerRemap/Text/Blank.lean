/-! White space as Unicode defines it, and its removal from both ends of a text.
`isBlank` holds exactly of the twenty-five characters with the property
`White_Space`; the classes of `Char` know the ASCII ones alone. -/

namespace ControllerRemap.Text

/-- The characters with the Unicode property `White_Space`. -/
def isBlank (c : Char) : Bool :=
  let n := c.toNat
  (9 ≤ n && n ≤ 13) || n == 0x20 || n == 0x85 || n == 0xa0 || n == 0x1680 ||
    (0x2000 ≤ n && n ≤ 0x200a) || n == 0x2028 || n == 0x2029 || n == 0x202f || n == 0x205f ||
    n == 0x3000

/-- A text without the white space around it. -/
def trim (cs : List Char) : List Char :=
  ((cs.dropWhile isBlank).reverse.dropWhile isBlank).reverse

/-- ASCII letters in upper case; every other character stays. -/
def upper (cs : List Char) : List Char := cs.map Char.toUpper

@[simp] theorem length_upper (cs : List Char) : (upper cs).length = cs.length := List.length_map _

end ControllerRemap.Text
