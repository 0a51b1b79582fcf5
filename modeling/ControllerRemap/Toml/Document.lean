import ControllerRemap.Toml.Number
import ControllerRemap.Toml.Text
import ControllerRemap.Toml.Tree

/-! Reading a TOML document. The text is first read as a list of statements, each a
header or an entry, and the statements are then applied in order to an empty
tree. Arrays and inline tables nest less than eighty deep, and a dotted key has
fewer than eighty parts. -/

namespace ControllerRemap.Toml

/-! ### Keys -/

def isBare (c : Char) : Bool := c.isAlphanum || c == '-' || c == '_'

def readSimpleKey : Reader String
  | '"' :: rest => (basicBody rest).map fun (text, rest) => (String.ofList text, rest)
  | '\'' :: rest => (literalBody rest).map fun (text, rest) => (String.ofList text, rest)
  | cs =>
    let word := cs.takeWhile isBare
    if word.isEmpty then none else some (String.ofList word, cs.dropWhile isBare)

/-- The parts of a key with the white space around them. -/
def readKeyParts (cs : List Char) : Option (List String × List Char) :=
  match readSimpleKey (skipSpace cs) with
  | none => none
  | some (part, rest) =>
    match skipSpace rest with
    | '.' :: more =>
      if _h : more.length < cs.length then
        (readKeyParts more).map fun (parts, rest) => (part :: parts, rest)
      else none
    | rest => some ([part], rest)
termination_by cs.length

def nestingLimit : Nat := 80

def readKey : Reader Key := fun cs => do
  let (parts, rest) ← readKeyParts cs
  let name ← parts.getLast?
  if parts.length < nestingLimit then return (⟨parts.dropLast, name⟩, rest) else none

/-! ### Values -/

/-- A value that holds no other. -/
def readScalar : Reader Value := fun cs =>
  match cs with
  | 't' :: 'r' :: 'u' :: 'e' :: rest => some (.boolean true, rest)
  | 'f' :: 'a' :: 'l' :: 's' :: 'e' :: rest => some (.boolean false, rest)
  | c :: _ =>
    if c == '"' || c == '\'' then
      (readString cs).map fun (text, rest) => (.string (String.ofList text), rest)
    else readNumber cs
  | [] => none

/-- The items of an array after its opening bracket or a comma. -/
def readItems (item : Reader Value) (cs : List Char) : Option (List Value × List Char) :=
  match skipBlank false cs with
  | ']' :: rest => some ([], rest)
  | start =>
    match item start with
    | none => none
    | some (v, rest) =>
      match skipBlank false rest with
      | ']' :: rest => some ([v], rest)
      | ',' :: more =>
        if _h : more.length < cs.length then
          (readItems item more).map fun (vs, rest) => (v :: vs, rest)
        else none
      | _ => none
termination_by cs.length

/-- A key, an equals sign and a value. -/
def readEntry (item : Reader Value) : Reader (Key × Value) := fun cs => do
  let (key, rest) ← readKey cs
  let rest ← expect '=' rest
  let (v, rest) ← item (skipSpace rest)
  return ((key, v), rest)

/-- The entries of an inline table after its opening brace or a comma. -/
def readInline (item : Reader Value) (cs : List Char) :
    Option (List (Key × Value) × List Char) :=
  match readEntry item cs with
  | none => none
  | some (entry, rest) =>
    match skipSpace rest with
    | '}' :: rest => some ([entry], rest)
    | ',' :: more =>
      if _h : more.length < cs.length then
        (readInline item more).map fun (entries, rest) => (entry :: entries, rest)
      else none
    | _ => none
termination_by cs.length

/-- The table of a list of entries. -/
def tableOf (entries : List (Key × Value)) : Option Table := do
  let b ← entries.foldlM (fun b (key, v) => Branch.insert b key v) ([] : Branch)
  return toTable b

def readInlineTable (item : Reader Value) : Reader Value := fun cs =>
  match skipSpace cs with
  | '}' :: rest => some (.table [], rest)
  | _ => do
    let (entries, rest) ← readInline item cs
    let table ← tableOf entries
    return (.table table, rest)

/-- A value that opens at most `depth` brackets within each other. -/
def readValue : Nat → Reader Value
  | 0, cs => readScalar cs
  | depth + 1, cs =>
    match cs with
    | '[' :: rest => (readItems (readValue depth) rest).map fun (vs, rest) => (.array .bracketed vs, rest)
    | '{' :: rest => readInlineTable (readValue depth) rest
    | _ => readScalar cs

/-! ### Statements -/

inductive Statement where
  | entry (key : Key) (value : Value)
  | header (key : Key)
  | itemHeader (key : Key)

/-- A header or an entry with the rest of its line. -/
def readStatement : Reader Statement := fun cs =>
  match cs with
  | '[' :: '[' :: rest => do
    let (key, rest) ← readKey rest
    let rest ← expect ']' rest
    let rest ← expect ']' rest
    let rest ← lineEnd? rest
    return (.itemHeader key, rest)
  | '[' :: rest => do
    let (key, rest) ← readKey rest
    let rest ← expect ']' rest
    let rest ← lineEnd? rest
    return (.header key, rest)
  | _ => do
    let ((key, v), rest) ← readEntry (readValue (nestingLimit - 1)) cs
    let rest ← lineEnd? rest
    return (.entry key v, rest)

def readStatements (cs : List Char) : Option (List Statement) :=
  match skipBlank false cs with
  | [] => some []
  | start =>
    match readStatement start with
    | none => none
    | some (s, rest) =>
      if _h : rest.length < cs.length then (readStatements rest).map (s :: ·) else none
termination_by cs.length

/-! ### Documents -/

/-- A tree and the path of the table that the last header opened. -/
structure Draft where
  header : List String := []
  branch : Branch := []

def Draft.apply (d : Draft) : Statement → Option Draft
  | .entry key v => do return { d with branch := ← d.branch.insertAt d.header key v }
  | .header key => do return ⟨key.parents ++ [key.name], ← d.branch.openTable key⟩
  | .itemHeader key => do return ⟨key.parents ++ [key.name], ← d.branch.openItem key⟩

def build (statements : List Statement) : Option Table := do
  let d ← statements.foldlM Draft.apply ({} : Draft)
  return toTable d.branch

/-- Reads a document; a byte order mark in front of it is skipped. -/
def read (text : List Char) : Option Table := do
  let statements ← readStatements (match text with
    | '\uFEFF' :: rest => rest
    | _ => text)
  build statements

end ControllerRemap.Toml
