import ControllerRemap.CommandLine.Options

/-! Help texts. The short form has a line for every option, the long form a paragraph
with the meaning of every possible value. -/

namespace ControllerRemap.CommandLine

def programName : String := "padmap"

def programVersion : String := "0.1.0"

def Command.about : Command → String
  | .run => "Remap the controller until interrupted (default)"
  | .listDevices => "List input devices"
  | .codes => "Print every event code name the config accepts"
  | .checkConfig => "Validate the config and print it with defaults filled in"
  | .testHaptics => "Play the configured startup rumble and periodic effect"

def helpAbout : String := "Print this message or the help of the given subcommand(s)"

def profileAbout : ProfileKind → String
  | .gamepad => "Xbox-style gamepad; left pad click + touch acts as a d-pad"
  | .desktop => "Keyboard and mouse buttons, stick arrows, circular scrolling"
  | .gyroMouse => "Orientation sensor drives the pointer"
  | .tablet => "Right pad as an absolute pointer over a screen region"
  | .custom => "Rules and regions from the config file only"

/-! ### Layout -/

def spaces (n : Nat) : String := String.ofList (List.replicate n ' ')

/-- Blanks up to a width and two more. -/
def column (width : Nat) (s : String) : String := s ++ spaces (width + 2 - s.length)

def lines (ls : List String) : String := String.join (ls.map (· ++ "\n"))

/-- A description of an option. -/
structure OptionHelp where
  /-- Its names and the name of its value. -/
  title : String
  about : String
  /-- What the short form adds, in square brackets. -/
  note : Option String := none
  /-- The paragraphs that the long form adds. -/
  details : List String := []

def OptionHelp.short (o : OptionHelp) : String :=
  "  " ++ column 27 o.title ++ o.about ++ (match o.note with
    | some n => " [" ++ n ++ "]"
    | none => "")

def OptionHelp.long (o : OptionHelp) : String :=
  lines (("  " ++ o.title) :: (spaces 10 ++ o.about) :: o.details)

/-! ### Options -/

def profileNames : String := ", ".intercalate (ProfileKind.all.map ProfileKind.name)

/-- The possible values with their meanings. -/
def profileDetails : List String :=
  "" :: (spaces 10 ++ "Possible values:") ::
    ProfileKind.all.map fun k =>
      spaces 10 ++ "- " ++ k.name ++ ":" ++ spaces (11 - k.name.length) ++ profileAbout k

def optionHelps (long : Bool) : List OptionHelp := [
  { title := "-c, --config <CONFIG>"
    about := "Config file path (default: ~/.config/padmap/padmap.toml)" },
  { title := "-d, --device <PATH>"
    about := "Controller event node, overrides the config file" },
  { title := "-p, --profile <PROFILE>"
    about := "Profile to run, overrides the config file"
    note := some ("possible values: " ++ profileNames)
    details := profileDetails },
  { title := "    --no-grab"
    about := "Leave the controller ungrabbed so other clients still see it" },
  { title := "    --log-level <LOG_LEVEL>"
    about := "Log level (error, warn, info, debug, trace)"
    note := some ("default: " ++ standardLogLevel)
    details := [spaces 10, spaces 10 ++ "[default: " ++ standardLogLevel ++ "]"] },
  { title := "-h, --help"
    about := if long then "Print help (see a summary with '-h')"
      else "Print help (see more with '--help')" },
  { title := "-V, --version", about := "Print version" }]

def optionsText (long : Bool) : String :=
  "Options:\n" ++
    if long then "\n".intercalate ((optionHelps long).map OptionHelp.long)
    else lines ((optionHelps long).map OptionHelp.short)

/-! ### Texts -/

/-- The other names of a command, in square brackets. -/
def aliasesText : List String → String
  | [] => ""
  | [a] => " [alias: " ++ a ++ "]"
  | as => " [aliases: " ++ ", ".intercalate as ++ "]"

def Command.line (c : Command) : String :=
  "  " ++ column 12 c.name ++ c.about ++ aliasesText c.aliases

def programText (long : Bool) : String :=
  "Touchpad controller remapping daemon\n\nUsage: " ++ programName ++ " [OPTIONS] [COMMAND]\n\n" ++
    "Commands:\n" ++ lines (Command.all.map Command.line) ++
    "  " ++ column 12 helpName ++ helpAbout ++ "\n\n" ++ optionsText long

def commandText (c : Command) (long : Bool) : String :=
  c.about ++ "\n\nUsage: " ++ programName ++ " " ++ c.name ++ " [OPTIONS]\n\n" ++ optionsText long

def helpText : Topic → Bool → String
  | .program, long => programText long
  | .command c, long => commandText c long
  | .help, _ =>
    helpAbout ++ "\n\nUsage: " ++ programName ++ " " ++ helpName ++ " [COMMAND]...\n\n" ++
      "Arguments:\n  [COMMAND]...  Print help for the subcommand(s)\n"

def versionText : Topic → String
  | .program => programName ++ " " ++ programVersion ++ "\n"
  | .command c => programName ++ "-" ++ c.name ++ " " ++ programVersion ++ "\n"
  | .help => programName ++ "-" ++ helpName ++ " " ++ programVersion ++ "\n"

/-- The first line of the message of a usage error. -/
def UsageError.message : UsageError → String
  | .invalidValue => "error: invalid or missing value for an option"
  | .repeatedOption => "error: an option cannot be used multiple times"
  | .unknownArgument => "error: unexpected argument found"
  | .unknownCommand => "error: unrecognized subcommand"
  | .unwantedValue => "error: unexpected value for an option"

end ControllerRemap.CommandLine
