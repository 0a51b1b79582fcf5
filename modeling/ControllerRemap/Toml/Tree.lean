import ControllerRemap.Toml.Value

/-! Documents under construction. Every table remembers how it came to be: named by a
header, implied by the header of a table below it, or made by a dotted key. A
table can be named once only, dotted keys extend no named table, and a header
extends no table that dotted keys have made. -/

namespace ControllerRemap.Toml

/-- A dotted key: the tables it passes through, and the entry. -/
structure Key where
  parents : List String
  name : String
  deriving DecidableEq

/-- How a table came to be. -/
inductive Origin where
  | stated
  | implied
  | dotted
  deriving DecidableEq

inductive Node where
  | leaf (value : Value)
  | table (origin : Origin) (entries : List (String × Node))
  /-- Tables under one repeated header; only the last one can still grow. -/
  | array (earlier : List Value) (last : List (String × Node))

abbrev Branch := List (String × Node)

mutual

def Node.toValue : Node → Value
  | .leaf v => v
  | .table _ entries => .table (toTable entries)
  | .array earlier last => .array .headed (earlier ++ [.table (toTable last)])

/-- The finished entries of a table. -/
def toTable : List (String × Node) → Table
  | [] => []
  | (k, n) :: rest => (k, n.toValue) :: toTable rest

end

namespace Branch

/-- Puts another node in the place of an entry. -/
def replace (b : Branch) (k : String) (n : Node) : Branch :=
  b.map fun (key, old) => if key == k then (key, n) else (key, old)

def remove (b : Branch) (k : String) : Branch := b.filter (·.1 != k)

/-- Changes the table at the end of a path. Missing tables on the way are made with
the origin `making`; where the path leads through an array, its last table counts. -/
def enter (making : Origin) (change : Origin → Branch → Option Branch) :
    List String → Origin → Branch → Option Branch
  | [], origin, b => change origin b
  | k :: path, _, b =>
    match b.lookup k with
    | none => do
      let inner ← enter making change path making []
      return b ++ [(k, .table making inner)]
    | some (.leaf _) => none
    | some (.array earlier last) => do
      let inner ← enter making change path .stated last
      return b.replace k (.array earlier inner)
    | some (.table origin entries) =>
      if making = .dotted ∧ origin = .stated then none
      else do
        let inner ← enter making change path origin entries
        return b.replace k (.table origin inner)

/-- Adds the entry of a dotted key. -/
def insert (b : Branch) (key : Key) (v : Value) : Option Branch :=
  enter .dotted (fun origin b =>
    if !key.parents.isEmpty && origin != .dotted then none
    else if (b.lookup key.name).isSome then none
    else some (b ++ [(key.name, .leaf v)])) key.parents .stated b

/-- Opens the table of a header. A table that was only implied so far moves to the end. -/
def openTable (b : Branch) (key : Key) : Option Branch :=
  enter .implied (fun _ b =>
    match b.lookup key.name with
    | none => some (b ++ [(key.name, .table .stated [])])
    | some (.table .implied entries) =>
      some (Branch.remove b key.name ++ [(key.name, .table .stated entries)])
    | some _ => none) key.parents .stated b

/-- Opens one more table under a repeated header. -/
def openItem (b : Branch) (key : Key) : Option Branch :=
  enter .implied (fun _ b =>
    match b.lookup key.name with
    | none => some (b ++ [(key.name, .array [] [])])
    | some (.array earlier last) =>
      some (Branch.replace b key.name (.array (earlier ++ [.table (toTable last)]) []))
    | some _ => none) key.parents .stated b

/-- Adds an entry to the table that the last header opened. -/
def insertAt (b : Branch) (header : List String) (key : Key) (v : Value) : Option Branch :=
  enter .implied (fun _ b => Branch.insert b key v) header .stated b

end Branch

end ControllerRemap.Toml
