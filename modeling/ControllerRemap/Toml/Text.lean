import ControllerRemap.Number.Digits
import ControllerRemap.Toml.Space

/-! The four written forms of a TOML string. Basic strings hold escapes and literal
strings none; either is enclosed in single or in triple quotes, and only the
latter run over several lines. In those, a line end is read as a line feed, one
right after the opening quotes is dropped, and up to two quotes may stand before
the closing ones. -/

namespace ControllerRemap.Toml

/-- The character of a one-letter escape. -/
def escapeLetter? : Char → Option Char
  | 'b' => some '\x08'
  | 't' => some '\t'
  | 'n' => some '\n'
  | 'f' => some '\x0c'
  | 'r' => some '\r'
  | '"' => some '"'
  | '\\' => some '\\'
  | _ => none

/-- The character of a hexadecimal number; surrogates are not characters. -/
def escapeNumber? (digits : List Char) : Option Char :=
  match Digits.read? 16 digits with
  | some n => if n.isValidChar then some (Char.ofNat n) else none
  | none => none

/-- Puts a character in front of what a reader found. -/
def prepend (c : Char) : Option (List Char × List Char) → Option (List Char × List Char)
  | some (text, rest) => some (c :: text, rest)
  | none => none

/-- A basic string after its opening quote. -/
def basicBody : Reader (List Char)
  | '"' :: rest => some ([], rest)
  | '\\' :: 'u' :: a :: b :: c :: d :: rest =>
    match escapeNumber? [a, b, c, d] with
    | some x => prepend x (basicBody rest)
    | none => none
  | '\\' :: 'U' :: a :: b :: c :: d :: e :: f :: g :: h :: rest =>
    match escapeNumber? [a, b, c, d, e, f, g, h] with
    | some x => prepend x (basicBody rest)
    | none => none
  | '\\' :: c :: rest =>
    match escapeLetter? c with
    | some x => prepend x (basicBody rest)
    | none => none
  | c :: rest => if isControl c then none else prepend c (basicBody rest)
  | [] => none

/-- A literal string after its opening quote. -/
def literalBody : Reader (List Char)
  | '\'' :: rest => some ([], rest)
  | c :: rest => if isControl c then none else prepend c (literalBody rest)
  | [] => none

/-- The quotes that belong to a string whose three closing quotes have been read. -/
def surplus (quote : Char) : List Char → List Char × List Char
  | a :: b :: rest =>
    if a == quote && b == quote then ([quote, quote], rest)
    else if a == quote then ([quote], b :: rest)
    else ([], a :: b :: rest)
  | [a] => if a == quote then ([quote], []) else ([], [a])
  | [] => ([], [])

/-- A basic string after three opening quotes. An escaped line end is dropped with all
white space after it, which `trimming` says is going on. -/
def multiBasicBody (trimming : Bool) : Reader (List Char)
  | '"' :: '"' :: '"' :: rest => some (surplus '"' rest)
  | '\n' :: rest =>
    if trimming then multiBasicBody true rest else prepend '\n' (multiBasicBody false rest)
  | '\r' :: '\n' :: rest =>
    if trimming then multiBasicBody true rest else prepend '\n' (multiBasicBody false rest)
  | '\\' :: 'u' :: a :: b :: c :: d :: rest =>
    match escapeNumber? [a, b, c, d] with
    | some x => prepend x (multiBasicBody false rest)
    | none => none
  | '\\' :: 'U' :: a :: b :: c :: d :: e :: f :: g :: h :: rest =>
    match escapeNumber? [a, b, c, d, e, f, g, h] with
    | some x => prepend x (multiBasicBody false rest)
    | none => none
  | '\\' :: c :: rest =>
    match escapeLetter? c with
    | some x => prepend x (multiBasicBody false rest)
    | none =>
      if (newline? (skipSpace (c :: rest))).isSome then multiBasicBody true (c :: rest) else none
  | c :: rest =>
    if trimming && isSpace c then multiBasicBody true rest
    else if isControl c then none
    else prepend c (multiBasicBody false rest)
  | [] => none

/-- A literal string after three opening quotes. -/
def multiLiteralBody : Reader (List Char)
  | '\'' :: '\'' :: '\'' :: rest => some (surplus '\'' rest)
  | '\n' :: rest => prepend '\n' (multiLiteralBody rest)
  | '\r' :: '\n' :: rest => prepend '\n' (multiLiteralBody rest)
  | c :: rest => if isControl c then none else prepend c (multiLiteralBody rest)
  | [] => none

def dropNewline (cs : List Char) : List Char := (newline? cs).getD cs

/-- A string of any form. -/
def readString : Reader (List Char)
  | '"' :: '"' :: '"' :: rest => multiBasicBody false (dropNewline rest)
  | '\'' :: '\'' :: '\'' :: rest => multiLiteralBody (dropNewline rest)
  | '"' :: rest => basicBody rest
  | '\'' :: rest => literalBody rest
  | _ => none

end ControllerRemap.Toml
