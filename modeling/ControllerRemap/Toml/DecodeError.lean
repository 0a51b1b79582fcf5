import ControllerRemap.Event.Name
import ControllerRemap.Number.Decimal
import ControllerRemap.Text.Quoted
import ControllerRemap.Toml.Value

/-! Why the values of a document are not what is wanted. A message names what was
found and what was expected in its place. -/

namespace ControllerRemap.Toml

/-- What a message says of a value; dates and times count as tables. -/
inductive Found where
  | string (text : String)
  | integer (number : Int)
  | float (number : Float)
  | boolean (value : Bool)
  | sequence
  | map

def Value.found : Value → Found
  | .string s => .string s
  | .integer n => .integer n
  | .float x => .float x
  | .boolean b => .boolean b
  | .datetime _ => .map
  | .array _ _ => .sequence
  | .table _ => .map

inductive DecodeError where
  | missingField (name : String)
  | unknownVariant (found : String) (expected : List String)
  | invalidType (found : Found) (expected : String)
  | invalidValue (found : Found) (expected : String)
  | invalidLength (length : Nat) (expected : String)
  /-- None of the written forms of a type applies. -/
  | noForm (type : String)
  | code (error : CodeError)
  /-- A value of the wrong make where the name of a choice is wanted. -/
  | wanted (what : String)
  /-- A variant without fields is given some. -/
  | expectedEmpty (form : String)
  | expectedTable (found : String)

/-! ### Messages -/

/-- A word between grave accents. -/
def ticked (s : String) : String := "\x60" ++ s ++ "\x60"

def Found.text : Found → String
  | .string s => "string " ++ Text.quoted s
  | .integer n => "integer " ++ ticked (String.ofList (Digits.ofInt n))
  | .float x => "floating point " ++ ticked (String.ofList (Decimal.textOf "NaN" x))
  | .boolean b => "boolean " ++ ticked (if b then "true" else "false")
  | .sequence => "sequence"
  | .map => "map"

/-- A list of names to choose from. -/
def namesText : List String → String
  | [] => "there are no variants"
  | [a] => "expected " ++ ticked a
  | [a, b] => "expected " ++ ticked a ++ " or " ++ ticked b
  | names => "expected one of " ++ ", ".intercalate (names.map ticked)

def DecodeError.message : DecodeError → String
  | .missingField name => "missing field " ++ ticked name
  | .unknownVariant found expected =>
    "unknown variant " ++ ticked found ++ ", " ++ namesText expected
  | .invalidType found expected => "invalid type: " ++ found.text ++ ", expected " ++ expected
  | .invalidValue found expected => "invalid value: " ++ found.text ++ ", expected " ++ expected
  | .invalidLength length expected =>
    "invalid length " ++ String.ofList (Digits.digits 10 length) ++ ", expected " ++ expected
  | .noForm type => "data did not match any variant of untagged enum " ++ type
  | .code error => error.message
  | .wanted what => "wanted " ++ what
  | .expectedEmpty form => "expected empty " ++ form
  | .expectedTable found => "expected table, found " ++ found

end ControllerRemap.Toml
