import ControllerRemap.CommandLine.Program

/-! A system in memory: folders, files and no input devices. A path is followed part
by part from the root or from the working folder, and the first part that is too
long, is not there or is no folder decides what is wrong with the path. -/

namespace ControllerRemap.CommandLine

/-- Why a path leads nowhere. -/
inductive PathError where
  | absent
  /-- The path goes on behind a file. -/
  | notFolder
  | tooLong
  deriving DecidableEq

def PathError.text : PathError → String
  | .absent => "No such file or directory (os error 2)"
  | .notFolder => "Not a directory (os error 20)"
  | .tooLong => "File name too long (os error 36)"

inductive Entry where
  | folder
  | file (content : String)
  deriving DecidableEq

/-- Every entry by the parts of its path from the root. -/
structure Disk where
  entries : List (List String × Entry)
  /-- The folder that other paths than those from the root start in. -/
  workingFolder : List String := []

namespace Disk

/-- The greatest size of a part of a path. -/
def partLimit : Nat := 255

/-- The greatest size of a path. -/
def pathLimit : Nat := 4095

/-- The root is always there. -/
def entry? (d : Disk) (path : List String) : Option Entry :=
  if path.isEmpty then some .folder else d.entries.lookup path

/-- Follows the parts of a path from a folder. Two dots lead back, and the root leads
back to itself. -/
def follow (d : Disk) : List String → List String → Except PathError Entry
  | _, [] => .ok .folder
  | folder, part :: rest =>
    if part = "" ∨ part = "." then d.follow folder rest
    else if part = ".." then d.follow folder.dropLast rest
    else if partLimit < part.utf8ByteSize then .error .tooLong
    else match d.entry? (folder ++ [part]) with
      | none => .error .absent
      | some .folder => d.follow (folder ++ [part]) rest
      | some (.file content) => if rest.isEmpty then .ok (.file content) else .error .notFolder

/-- The names between the slashes of a path; some of them can be empty. -/
def parts (path : List Char) : List String :=
  (path.splitOn '/').map String.ofList

/-- What stands at a path. -/
def find (d : Disk) (path : String) : Except PathError Entry :=
  if path.isEmpty then .error .absent
  else if pathLimit < path.utf8ByteSize then .error .tooLong
  else d.follow (if path.startsWith "/" then [] else d.workingFolder) (parts path.toList)

/-- What is found when a file is read. -/
def content (d : Disk) (path : String) : FileContent :=
  match d.find path with
  | .error _ => .absent
  | .ok .folder => .unreadable "Is a directory (os error 21)"
  | .ok (.file text) => .text text

/-- Whatever stands at a path is no controller. -/
def refusal (d : Disk) (path : String) : String :=
  match d.find path with
  | .error e => e.text
  | .ok _ => "Inappropriate ioctl for device (os error 25)"

def system (d : Disk) (standardConfig : String) : System Id where
  file := d.content
  standardConfig := standardConfig
  devices := []
  controller := none
  refusal := d.refusal

end Disk

end ControllerRemap.CommandLine
