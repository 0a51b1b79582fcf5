import ControllerRemap.Toml.Fields

/-! Decoding values with several variants. A plain choice is the name of a variant, or a
table with the name as its only key. A tagged choice is a table whose tag names the
variant and whose other entries are its fields, or a list that starts with the name. -/

namespace ControllerRemap.Toml

namespace Decoder

variable {α : Type}

/-- The variant of a name. -/
def variant (variants : List (String × α)) (name : String) : Except DecodeError α :=
  match variants.lookup name with
  | Option.some a => .ok a
  | none => .error (.unknownVariant name (variants.map (·.1)))

/-- The value of a variant that has no fields. -/
def nothing : Value → Except DecodeError Unit
  | .table t => if t.isEmpty then .ok () else .error (.expectedEmpty "table")
  | .array .bracketed vs => if vs.isEmpty then .ok () else .error (.expectedEmpty "table")
  | .array .headed vs => if vs.isEmpty then .ok () else .error (.expectedEmpty "array")
  | .string _ => .error (.expectedTable "string")
  | .integer _ => .error (.expectedTable "integer")
  | .float _ => .error (.expectedTable "float")
  | .boolean _ => .error (.expectedTable "boolean")
  | .datetime _ => .error (.expectedTable "datetime")

def choice (variants : List (String × α)) : Decoder α
  | .string s => variant variants s
  | .table [] => .error (.wanted "exactly 1 element, found 0 elements")
  | .table [(k, v)] => do
    let a ← variant variants k
    nothing v
    return a
  | .table _ => .error (.wanted "exactly 1 element, more than 1 element")
  | _ => .error (.wanted "string or table")

end Decoder

/-- What belongs to a variant of a tagged choice. -/
inductive Case (α : Type) where
  | bare (a : α)
  /-- Fields, under the title that a message uses for them. -/
  | fields (title : String) (f : Fields α)

namespace Case

variable {α : Type}

def ofTable (t : Table) : Case α → Except DecodeError α
  | .bare a => .ok a
  | .fields _ f => f.ofTable t

def ofList (vs : List Value) : Case α → Except DecodeError α
  | .bare a =>
    if vs.isEmpty then .ok a
    else .error (.invalidLength vs.length (Fields.countText 0 ++ " in sequence"))
  | .fields title f => f.ofWholeList (f.listTitle ("struct variant " ++ title)) vs

end Case

namespace Decoder

variable {α : Type}

/-- The variant that a tag names. -/
def tag (cases : List (String × Case α)) : Decoder (Case α)
  | .string s => variant cases s
  | v => mistyped v "variant identifier"

/-- A tagged choice of a named type. -/
def tagged (type key : String) (cases : List (String × Case α)) : Decoder α
  | .table t =>
    match t.lookup key with
    | Option.some v => do
      let c ← tag cases v
      c.ofTable (t.filter (·.1 != key))
    | none => .error (.missingField key)
  | .datetime _ => .error (.missingField key)
  | .array _ [] => .error (.missingField key)
  | .array _ (v :: vs) => do
    let c ← tag cases v
    c.ofList vs
  | v => mistyped v ("internally tagged enum " ++ type)

end Decoder

end ControllerRemap.Toml
