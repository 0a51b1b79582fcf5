/-! The values of a TOML document. A table keeps its entries in the order of the
document; dates and times are kept as they are written. -/

namespace ControllerRemap.Toml

/-- How an array is written. -/
inductive ArrayForm where
  /-- Items between brackets. -/
  | bracketed
  /-- Tables under one repeated header. -/
  | headed
  deriving DecidableEq

inductive Value where
  | string (text : String)
  | integer (number : Int)
  | float (number : Float)
  | boolean (value : Bool)
  | datetime (text : String)
  | array (form : ArrayForm) (items : List Value)
  | table (entries : List (String × Value))

abbrev Table := List (String × Value)

def Value.isTable : Value → Bool
  | .table _ => true
  | _ => false

/-- A reader takes a part off the front of a text. -/
abbrev Reader (α : Type) := List Char → Option (α × List Char)

end ControllerRemap.Toml
