import ControllerRemap.Config.Basic

/-! The command line. It consists of options and at most one command, which may have
the same options again; what stands after the command overrides what stands before
it. An option may be given once on either side. Its value is the next argument or
attached to it, and is checked when the next option or the end is reached, so of
two mistakes the one that is noticed first is reported. -/

namespace ControllerRemap.CommandLine

inductive Command where
  | run
  | listDevices
  | codes
  | checkConfig
  | testHaptics
  deriving DecidableEq

namespace Command

def all : List Command := [run, listDevices, codes, checkConfig, testHaptics]

def name : Command → String
  | run => "run"
  | listDevices => "list-devices"
  | codes => "codes"
  | checkConfig => "check-config"
  | testHaptics => "test-haptics"

/-- Other names of a command. -/
def aliases : Command → List String
  | listDevices => ["list", "ls"]
  | checkConfig => ["check"]
  | _ => []

def ofName? (s : String) : Option Command := all.find? fun c => c.name == s || c.aliases.contains s

end Command

/-- The name of the command that explains commands. -/
def helpName : String := "help"

/-- What a help text is about. -/
inductive Topic where
  | program
  | command (c : Command)
  | help
  deriving DecidableEq

inductive UsageError where
  /-- A value is missing, empty or not one of those possible. -/
  | invalidValue
  /-- An option is given twice. -/
  | repeatedOption
  | unknownArgument
  | unknownCommand
  /-- A value is attached to an option that takes none. -/
  | unwantedValue
  deriving DecidableEq

/-- Why a command line is not carried out. -/
inductive Stop where
  | usage (error : UsageError)
  /-- A help text is asked for, in its long or its short form. -/
  | help (topic : Topic) (long : Bool)
  | version (topic : Topic)
  deriving DecidableEq

/-! ### Options -/

/-- The options that take a value. -/
inductive Valued where
  | config
  | device
  | profile
  | logLevel
  deriving DecidableEq

/-- The options given on one side of the command. -/
structure Options where
  config : Option String := none
  device : Option String := none
  profile : Option ProfileKind := none
  logLevel : Option String := none
  noGrab : Bool := false
  deriving DecidableEq

namespace Options

def given (o : Options) : Valued → Bool
  | .config => o.config.isSome
  | .device => o.device.isSome
  | .profile => o.profile.isSome
  | .logLevel => o.logLevel.isSome

/-- Paths are not empty, and profiles have names. -/
def assign (o : Options) (v : Valued) (text : String) : Except UsageError Options :=
  match v with
  | .config => if text.isEmpty then .error .invalidValue else .ok { o with config := some text }
  | .device => if text.isEmpty then .error .invalidValue else .ok { o with device := some text }
  | .profile => match ProfileKind.ofName? text with
    | some k => .ok { o with profile := some k }
    | none => .error .invalidValue
  | .logLevel => .ok { o with logLevel := some text }

def set (o : Options) (v : Valued) (text : String) : Except UsageError Options :=
  if o.given v then .error .repeatedOption else o.assign v text

/-- The options of both sides; the later side counts. -/
def override (before after : Options) : Options where
  config := after.config <|> before.config
  device := after.device <|> before.device
  profile := after.profile <|> before.profile
  logLevel := after.logLevel <|> before.logLevel
  noGrab := after.noGrab || before.noGrab

end Options

/-! ### One side -/

/-- The options read so far. The last one may still wait for its value, or its value
for the check. -/
structure Side where
  options : Options := {}
  pending : Option (Valued × Option String) := none

namespace Side

/-- The options once the last value is checked. -/
def settle (s : Side) : Except UsageError Options :=
  match s.pending with
  | none => .ok s.options
  | some (_, none) => .error .invalidValue
  | some (v, some text) => s.options.set v text

/-- The next plain argument is a value. -/
def isWaiting (s : Side) : Bool :=
  match s.pending with
  | some (_, none) => true
  | _ => false

/-- An option with or without an attached value. -/
def valued (s : Side) (v : Valued) (text : Option String) : Except UsageError Side := do
  let o ← s.settle
  match text with
  | some text => return { options := ← o.set v text }
  | none => return { options := o, pending := some (v, none) }

def noGrab (s : Side) : Except UsageError Side := do
  let o ← s.settle
  if o.noGrab then .error .repeatedOption else return { options := { o with noGrab := true } }

end Side

/-- A usage error ends the reading. -/
def orStop {α : Type} (r : Except UsageError α) : Except Stop α := r.mapError .usage

/-- An option by its long name, with the value that an equals sign attaches. -/
def longOption (topic : Topic) (s : Side) (name : String) (text : Option String) :
    Except Stop Side :=
  let bare (r : Except Stop Side) : Except Stop Side :=
    if text.isSome then .error (.usage .unwantedValue) else r
  match name with
  | "config" => orStop (s.valued .config text)
  | "device" => orStop (s.valued .device text)
  | "profile" => orStop (s.valued .profile text)
  | "log-level" => orStop (s.valued .logLevel text)
  | "no-grab" => bare (orStop s.noGrab)
  | "help" => bare do
    let _ ← orStop s.settle
    .error (.help topic true)
  | "version" => bare do
    let _ ← orStop s.settle
    .error (.version topic)
  | _ => .error (.usage .unknownArgument)

/-- The value attached to a letter; an equals sign may come first. -/
def attached : List Char → Option String
  | [] => none
  | '=' :: text => some (String.ofList text)
  | text => some (String.ofList text)

/-- An option by its letter, with the rest of the argument. -/
def shortOption (topic : Topic) (s : Side) (letter : Char) (rest : List Char) :
    Except Stop Side :=
  match letter with
  | 'c' => orStop (s.valued .config (attached rest))
  | 'd' => orStop (s.valued .device (attached rest))
  | 'p' => orStop (s.valued .profile (attached rest))
  | 'h' => do
    let _ ← orStop s.settle
    .error (.help topic false)
  | 'V' => do
    let _ ← orStop s.settle
    .error (.version topic)
  | _ => .error (.usage .unknownArgument)

/-- The error of an argument that is neither an option nor a value. -/
def stray : Topic → UsageError
  | .program => .unknownCommand
  | _ => .unknownArgument

/-- Whether an argument names a command. -/
def isCommand (a : String) : Bool := a == helpName || (Command.ofName? a).isSome

/-- After two dashes every argument is stray, and the name of a command is not one. -/
def afterDashes (topic : Topic) (s : Side) : List String → Except Stop Side
  | [] => .ok s
  | a :: _ =>
    if topic = .program ∧ isCommand a then .error (.usage .unknownArgument)
    else .error (.usage (stray topic))

/-- One argument that is not the name of a command. -/
def argument (topic : Topic) (s : Side) (a : String) : Except Stop Side :=
  match a.toList with
  | '-' :: '-' :: body =>
    longOption topic s (String.ofList (body.takeWhile (· != '='))) (match body.dropWhile (· != '=') with
      | _ :: text => some (String.ofList text)
      | [] => none)
  | '-' :: letter :: rest => shortOption topic s letter rest
  | _ =>
    match s.pending with
    | some (v, none) => .ok { s with pending := some (v, some a) }
    | _ => .error (.usage (stray topic))

/-- The arguments of the help command: at most the name of one command. -/
def helpTopic : List String → Stop
  | [] => .help .program true
  | [a] =>
    if a = helpName then .help .help true
    else match Command.ofName? a with
      | some c => .help (.command c) true
      | none => .usage .unknownCommand
  | _ => .usage .unknownCommand

/-- The options after a command. -/
def readAfter (topic : Topic) : Side → List String → Except Stop Side
  | s, [] => .ok s
  | s, a :: rest =>
    if a = "--" then afterDashes topic s rest
    else do readAfter topic (← argument topic s a) rest

/-- The options before a command, and the command with what follows it. -/
def readBefore : Side → List String → Except Stop (Side × Option (Command × List String))
  | s, [] => .ok (s, none)
  | s, a :: rest =>
    if !s.isWaiting && a == helpName then .error (helpTopic rest)
    else if a = "--" then do return (← afterDashes .program s rest, none)
    else match if s.isWaiting then none else Command.ofName? a with
      | some c => .ok (s, some (c, rest))
      | none => do readBefore (← argument .program s a) rest

/-! ### The whole -/

structure Invocation where
  options : Options
  command : Option Command
  deriving DecidableEq

/-- The level of detail of the log if none is given. -/
def standardLogLevel : String := "info"

/-- Reads the arguments of a command line. -/
def parse (args : List String) : Except Stop Invocation := do
  let (before, command) ← readBefore {} args
  match command with
  | some (c, rest) =>
    let after ← readAfter (.command c) {} rest
    let later ← orStop after.settle
    let earlier ← orStop before.settle
    return ⟨earlier.override later, some c⟩
  | none => return ⟨← orStop before.settle, none⟩

end ControllerRemap.CommandLine
