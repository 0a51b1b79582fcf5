import ControllerRemap.Toml.Decoder

/-! Decoding records. A set of fields names the entries that a record has and reads the
record from them. A table is first checked entry by entry in its own order, so that
the first bad entry is the one reported; then the fields are read in the order of
the record, and only now a missing one counts. Other entries are ignored. A list
gives the fields by position. -/

namespace ControllerRemap.Toml

structure Fields (α : Type) where
  /-- The names of the fields, each with a check of its value. -/
  checks : List (String × (Value → Except DecodeError Unit))
  /-- Reads the fields, given the error of a missing one. -/
  read : (String → DecodeError) → Table → Except DecodeError α

namespace Fields

variable {α β : Type}

instance : Functor Fields where
  map g f := ⟨f.checks, fun missing t => (f.read missing t).map g⟩

instance : Seq Fields where
  seq g f := ⟨g.checks ++ (f ()).checks, fun missing t => do
    let h ← g.read missing t
    let a ← (f ()).read missing t
    return h a⟩

def single (name : String) (decode : Decoder α) (absent : (String → DecodeError) → Except DecodeError α) :
    Fields α where
  checks := [(name, fun v => (decode v).map fun _ => ())]
  read missing t := match t.lookup name with
    | some v => decode v
    | none => absent missing

/-- A field that has to be there. -/
def required (name : String) (decode : Decoder α) : Fields α :=
  single name decode fun missing => .error (missing name)

/-- A field with a value for its absence. -/
def orElse (name : String) (decode : Decoder α) (a : α) : Fields α :=
  single name decode fun _ => .ok a

def optional (name : String) (decode : Decoder α) : Fields (Option α) :=
  orElse name (Decoder.some decode) none

def names (f : Fields α) : List String := f.checks.map (·.1)

/-- Checks the known entries of a table in its order. -/
def check (f : Fields α) : Table → Except DecodeError Unit
  | [] => .ok ()
  | (k, v) :: rest => do
    match f.checks.lookup k with
    | some test => test v
    | none => .ok ()
    f.check rest

def ofTable (f : Fields α) (t : Table) : Except DecodeError α := do
  f.check t
  f.read .missingField t

/-- The fields by position; further items are ignored. -/
def ofList (f : Fields α) (expected : String) (vs : List Value) : Except DecodeError α := do
  let t := f.names.zip vs
  f.check t
  f.read (fun name => .invalidLength (f.names.idxOf name) expected) t

def countText (n : Nat) : String :=
  String.ofList (Digits.digits 10 n) ++ (if n = 1 then " element" else " elements")

/-- The fields by position, and nothing after them. -/
def ofWholeList (f : Fields α) (expected : String) (vs : List Value) : Except DecodeError α := do
  let a ← f.ofList expected vs
  if f.names.length < vs.length then
    .error (.invalidLength vs.length (countText f.names.length ++ " in sequence"))
  else return a

/-- What a message calls a record that is given by position. -/
def listTitle (f : Fields α) (title : String) : String :=
  title ++ " with " ++ countText f.names.length

/-- A record of a named type; `whole` asks that a list has no further items. -/
def record (f : Fields α) (type : String) (whole : Bool) : Decoder α
  | .table t => f.ofTable t
  | .datetime _ => f.ofTable []
  | .array _ vs =>
    let expected := f.listTitle ("struct " ++ type)
    if whole then f.ofWholeList expected vs else f.ofList expected vs
  | v => Decoder.mistyped v ("struct " ++ type)

end Fields

end ControllerRemap.Toml
