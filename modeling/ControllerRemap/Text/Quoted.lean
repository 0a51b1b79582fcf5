import ControllerRemap.Number.Digits
import ControllerRemap.Text.Hidden

/-! Text in double quotes, for messages. Quotes and backslashes are escaped, line
ends, tabs and NUL by a letter, and every other character that cannot be shown by
its number. -/

namespace ControllerRemap.Text

def quoteChar (c : Char) : List Char :=
  match c with
  | '\x00' => ['\\', '0']
  | '\t' => ['\\', 't']
  | '\r' => ['\\', 'r']
  | '\n' => ['\\', 'n']
  | '\\' => ['\\', '\\']
  | '"' => ['\\', '"']
  | _ =>
    if c.toNat < 0x20 || isHidden c then
      ['\\', 'u', '\x7b'] ++ Digits.digits 16 c.toNat ++ ['\x7d']
    else [c]

def quoted (s : String) : String :=
  String.ofList ('"' :: s.toList.flatMap quoteChar ++ ['"'])

end ControllerRemap.Text
