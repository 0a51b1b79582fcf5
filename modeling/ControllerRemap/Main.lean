import ControllerRemap.CommandLine.Program

/-! The program. It reads files and prints; input devices are not within its reach, so
remapping ends with the reason why the controller cannot be opened. -/

namespace ControllerRemap.CommandLine

/-- The number and the text of a system error that concerns a path. -/
def systemError? : IO.Error → Option (UInt32 × String)
  | .noFileOrDirectory _ code details => some (code, details)
  | .inappropriateType _ code details => some (code, details)
  | .invalidArgument _ code details => some (code, details)
  | .permissionDenied _ code details => some (code, details)
  | .resourceExhausted _ code details => some (code, details)
  | .noSuchThing _ code details => some (code, details)
  | .resourceBusy code details => some (code, details)
  | .unsupportedOperation code details => some (code, details)
  | .hardwareFault code details => some (code, details)
  | .otherError code details => some (code, details)
  | _ => none

/-- Why a file cannot be used. -/
def reason (e : IO.Error) : String :=
  match systemError? e with
  | some (code, details) => details ++ " (os error " ++ number code.toNat ++ ")"
  | none => e.toString

/-- The errors of a path that leads nowhere: a part of it is not there, is no folder, is
too long or leads around in a circle. -/
def isAbsence (e : IO.Error) : Bool :=
  match systemError? e with
  | some (code, _) => [2, 20, 36, 40].contains code
  | none => false

def readContent? (path : String) : IO FileContent := do
  try
    return .text (← IO.FS.readFile path)
  catch e => return if isAbsence e then .absent else .unreadable (reason e)

/-- The file in the configuration folder of the user. -/
def userConfig : IO String := do
  let folder ← match ← IO.getEnv "XDG_CONFIG_HOME", ← IO.getEnv "HOME" with
    | some folder, _ => pure folder
    | none, some home => pure (home ++ "/.config")
    | none, none => pure "."
  return folder ++ "/" ++ programName ++ "/" ++ programName ++ ".toml"

/-- Any file that can be opened is no controller. -/
def refusalOf (path : String) : IO String := do
  try
    let _ ← IO.FS.Handle.mk path .read
    return "Inappropriate ioctl for device (os error 25)"
  catch e => return reason e

def system : System IO where
  file := readContent?
  standardConfig := userConfig
  devices := pure []
  controller := pure none
  refusal := refusalOf

end ControllerRemap.CommandLine

open ControllerRemap.CommandLine

def main (args : List String) : IO UInt32 := do
  let outcome ← run system args
  IO.print outcome.out
  IO.eprint outcome.err
  return UInt32.ofNat outcome.status
