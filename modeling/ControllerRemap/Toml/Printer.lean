import ControllerRemap.Number.Decimal
import ControllerRemap.Toml.Quote

/-! The written form of a document. A table is a section: a heading, then a line for
every entry that is not a table, then the sections of the tables within it. The
tables of an array repeat one heading. A section without a line is left out if
tables follow within it, and an empty line stands between two sections. Arrays of
several items have a line for each. -/

namespace ControllerRemap.Toml

/-! ### Values -/

def keyText (key : String) : List Char := key.toList

def join (separator : List Char) : List (List Char) → List Char
  | [] => []
  | [part] => part
  | part :: parts => part ++ separator ++ join separator parts

/-- An array, with a line for each of several items. -/
def arrayText : List (List Char) → List Char
  | [] => ['[', ']']
  | [item] => '[' :: item ++ [']']
  | items => '[' :: '\n' :: (items.flatMap fun item => "    ".toList ++ item ++ [',', '\n']) ++ [']']

mutual

/-- A value within a line. -/
def Value.text : Value → List Char
  | .string s => stringText s.toList
  | .integer n => Digits.ofInt n
  | .float x => Decimal.textOf "nan" x
  | .boolean b => if b then "true".toList else "false".toList
  | .datetime s => s.toList
  | .array _ items => arrayText (itemTexts items)
  | .table entries => "\x7b ".toList ++ join [',', ' '] (entryTexts entries) ++ " \x7d".toList

def itemTexts : List Value → List (List Char)
  | [] => []
  | v :: vs => v.text :: itemTexts vs

def entryTexts : List (String × Value) → List (List Char)
  | [] => []
  | (k, v) :: rest => (keyText k ++ " = ".toList ++ v.text) :: entryTexts rest

end

/-! ### Sections -/

/-- What stands above the lines of a table. -/
inductive Heading where
  | none
  | table (path : List String)
  | item (path : List String)
  deriving DecidableEq

structure Section where
  heading : Heading
  lines : Table

/-- Tables and nonempty arrays of tables have sections of their own. -/
def Value.hasSection : Value → Bool
  | .table _ => true
  | .array _ (v :: vs) => (v :: vs).all Value.isTable
  | _ => false

def linesOf (t : Table) : Table := t.filter (!·.2.hasSection)

/-- A table needs no heading if it consists of tables only. -/
def headed (t : Table) : Bool := t.isEmpty || t.any (!·.2.hasSection)

mutual

/-- The sections of a value at a path. -/
def Value.sections (path : List String) : Value → List Section
  | .table t => (if headed t then [⟨.table path, linesOf t⟩] else []) ++ entrySections path t
  | .array _ items => itemSections path items
  | _ => []

def itemSections (path : List String) : List Value → List Section
  | [] => []
  | .table t :: rest => ⟨.item path, linesOf t⟩ :: entrySections path t ++ itemSections path rest
  | _ :: rest => itemSections path rest

def entrySections (path : List String) : List (String × Value) → List Section
  | [] => []
  | (k, v) :: rest =>
    (if v.hasSection then v.sections (path ++ [k]) else []) ++ entrySections path rest

end

def sectionsOf (t : Table) : List Section :=
  (if headed t then [⟨.none, linesOf t⟩] else []) ++ entrySections [] t

/-! ### Text -/

def Heading.text : Heading → List Char
  | .none => []
  | .table path => '[' :: join ['.'] (path.map keyText) ++ [']', '\n']
  | .item path => '[' :: '[' :: join ['.'] (path.map keyText) ++ [']', ']', '\n']

def lineText (entry : String × Value) : List Char :=
  keyText entry.1 ++ " = ".toList ++ entry.2.text ++ ['\n']

def Section.text (s : Section) : List Char := s.heading.text ++ s.lines.flatMap lineText

/-- The text of a document. -/
def render (t : Table) : List Char := join ['\n'] ((sectionsOf t).map Section.text)

end ControllerRemap.Toml
