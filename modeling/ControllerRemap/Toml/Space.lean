import ControllerRemap.Toml.Value

/-! White space, line ends and comments of TOML. A line ends with a line feed, with or
without a carriage return before it; a comment runs to the end of its line and
holds no control character but the tab. -/

namespace ControllerRemap.Toml

def isSpace (c : Char) : Bool := c == ' ' || c == '\t'

/-- The characters that no comment and no text holds unescaped. -/
def isControl (c : Char) : Bool := (c.toNat < 0x20 && c != '\t') || c.toNat == 0x7f

def skipSpace (cs : List Char) : List Char := cs.dropWhile isSpace

def newline? : List Char → Option (List Char)
  | '\n' :: rest => some rest
  | '\r' :: '\n' :: rest => some rest
  | _ => none

def skipComment : List Char → List Char
  | '#' :: rest => rest.dropWhile (!isControl ·)
  | cs => cs

/-- What follows the line, if nothing but white space and a comment is left of it. -/
def lineEnd? (cs : List Char) : Option (List Char) :=
  match skipComment (skipSpace cs) with
  | [] => some []
  | rest => newline? rest

/-- Skips white space, line ends and comments. -/
def skipBlank (inComment : Bool) : List Char → List Char
  | '\n' :: rest => skipBlank false rest
  | '\r' :: '\n' :: rest => skipBlank false rest
  | c :: rest =>
    if inComment then if isControl c then c :: rest else skipBlank true rest
    else if isSpace c then skipBlank false rest
    else if c == '#' then skipBlank true rest
    else c :: rest
  | [] => []

end ControllerRemap.Toml
