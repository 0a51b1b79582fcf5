import ControllerRemap.Number.Digits
import ControllerRemap.Toml.Value

/-! The written form of a TOML string. The form that needs no escapes is preferred, a
basic string before a literal one and a single line before several. Control
characters and, in basic strings, backslashes and closing quotes are escaped. -/

namespace ControllerRemap.Toml

/-- Control characters that only an escape can write. -/
def isCode (c : Char) : Bool := (c.toNat < 0x20 && c != '\t' && c != '\n') || c.toNat == 0x7f

/-- The longest run of a character, if `run` of them went before. -/
def longestRun (x : Char) : Nat → List Char → Nat
  | run, [] => run
  | run, c :: rest => max run (if c == x then longestRun x (run + 1) rest else longestRun x 0 rest)

/-- A character in a basic string, quotes apart. -/
def escaped (multi : Bool) (c : Char) : List Char :=
  match c with
  | '\x08' => ['\\', 'b']
  | '\t' => ['\\', 't']
  | '\n' => if multi then ['\n'] else ['\\', 'n']
  | '\x0c' => ['\\', 'f']
  | '\r' => ['\\', 'r']
  | '\\' => ['\\', '\\']
  | _ =>
    if isCode c then ['\\', 'u'] ++ Digits.pad 4 ((Digits.digits 16 c.toNat).map Char.toUpper)
    else [c]

/-- The inside of a basic string after `run` quotes. Over several lines only the third
quote in a row is escaped. -/
def basicText (multi : Bool) : Nat → List Char → List Char
  | _, [] => []
  | run, c :: rest =>
    if c == '"' then
      if !multi || run == 2 then '\\' :: '"' :: basicText multi 0 rest
      else '"' :: basicText multi (run + 1) rest
    else escaped multi c ++ basicText multi 0 rest

/-- Opening quotes of a string over several lines, with the line end that readers drop. -/
def opening (quotes s : List Char) : List Char :=
  if s.contains '\n' then quotes ++ ['\n'] else quotes

def multiBasic (s : List Char) : List Char :=
  opening ['"', '"', '"'] s ++ basicText true 0 s ++ ['"', '"', '"']

def multiLiteral (s : List Char) : List Char :=
  opening ['\'', '\'', '\''] s ++ s ++ ['\'', '\'', '\'']

def basic (s : List Char) : List Char := '"' :: basicText false 0 s ++ ['"']

def literal (s : List Char) : List Char := '\'' :: s ++ ['\'']

/-- A string in the form that suits it. -/
def stringText (s : List Char) : List Char :=
  let codes := s.any isCode
  let newline := s.contains '\n'
  let escape := s.contains '\\'
  if !codes && !escape && !newline && !s.contains '"' then basic s
  else if !codes && !newline && !s.contains '\'' then literal s
  else if !codes && !escape && longestRun '"' 0 s ≤ 2 then multiBasic s
  else if !codes && longestRun '\'' 0 s ≤ 2 then multiLiteral s
  else if newline then multiBasic s
  else basic s

end ControllerRemap.Toml
