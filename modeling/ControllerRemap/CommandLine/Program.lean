import ControllerRemap.CommandLine.Help
import ControllerRemap.Config.Decoder
import ControllerRemap.Config.Encoder
import ControllerRemap.Haptic.Playback
import ControllerRemap.Profile.Profile

/-! The program as a function of its arguments, over any system that answers its
questions. It prints a text and ends with a status: zero for success, one for a
failure of the command and two for a mistake in the arguments. -/

namespace ControllerRemap.CommandLine

/-- What is found at the path of a file. -/
inductive FileContent where
  | absent
  | unreadable (reason : String)
  | text (content : String)

/-- What the program asks the system for. No path that it is asked about has a NUL. -/
structure System (m : Type → Type) where
  file : String → m FileContent
  /-- Where the configuration is if no path is given. -/
  standardConfig : m String
  /-- The paths and names of the input devices. -/
  devices : m (List (String × String))
  /-- The first device that looks like a controller. -/
  controller : m (Option String)
  /-- Why a device cannot serve as a controller. -/
  refusal : String → m String

/-- The system ends a path at a NUL, so that nothing can stand at a path with one. -/
def hasNul (path : String) : Bool := path.toList.contains '\x00'

structure Outcome where
  status : Nat
  out : String := ""
  err : String := ""
  deriving DecidableEq

/-- Why a command fails: a message, and the message of its cause. -/
structure Failure where
  message : String
  cause : Option String := none
  deriving DecidableEq

def Failure.text (f : Failure) : String :=
  "Error: " ++ f.message ++ "\n" ++ match f.cause with
    | some c => "\nCaused by:\n    " ++ c ++ "\n"
    | none => ""

/-! ### Configuration -/

def readFailure : Config.ReadError → Failure
  | .notToml => { message := "Invalid config" }
  | .decode e => { message := "Invalid config", cause := some e.message }

/-- The configuration in a file; a file that is not there stands for the defaults. -/
def readContent (path : String) : FileContent → Except Failure Config
  | .absent => .ok {}
  | .unreadable reason =>
    .error { message := "Failed to read " ++ path ++ ": " ++ reason, cause := some reason }
  | .text content => (Config.parse content).mapError readFailure

/-- The options override the configuration. -/
def Options.apply (o : Options) (c : Config) : Config :=
  { c with
    profile := o.profile.getD c.profile
    device := o.device <|> c.device
    grab := c.grab && !o.noGrab }

def load {m : Type → Type} [Monad m] (s : System m) (o : Options) : ExceptT Failure m Config := do
  let path ← match o.config with
    | some path => pure path
    | none => liftM s.standardConfig
  let content ← if hasNul path then pure .absent else liftM (s.file path)
  match readContent path content with
  | .ok c => return o.apply c
  | .error f => throw f

/-! ### Commands -/

/-- A line for every code name, the channel in the second column. -/
def codesText : String :=
  lines (Event.table.map fun (name, c) =>
    name ++ spaces (24 - name.length) ++ " " ++ c.literal)

def number (n : Nat) : String := String.ofList (Digits.digits 10 n)

/-- What the virtual device of a profile declares, as a comment. -/
def specLine (p : Profile) : String :=
  let spec := p.spec
  "# profile \"" ++ p.kind.name ++ "\" drives \"" ++ spec.name ++ "\": " ++
    number spec.keys.length ++ " keys, " ++ number spec.rel.length ++ " rel, " ++
    number spec.abs.length ++ " abs\n"

/-- The configuration with its defaults, if it builds a profile. -/
def checkConfig (c : Config) : Except Failure String :=
  match Profile.new c.profile c {} with
  | .ok p => .ok (c.text ++ specLine p)
  | .error e =>
    .error { message := "Config does not build a valid profile", cause := some e.message }

/-- The meter after the startup rumble and the effect. -/
def playAll (h : HapticSettings) : Meter :=
  let rumble := (h.startup.map fun r => r.pulses 1.0).getD []
  let effect := (h.effect.map fun e => e.play.pulses).getD []
  (Meter.feelAll { gain := h.gain } rumble).feelAll effect

def testHaptics (c : Config) : String :=
  let h := c.haptics
  let played := match h.effect with
    | some e => "Effect: " ++ number e.play.samples ++ " samples"
    | none => "No [haptics] effect configured"
  lines [played, number (playAll h).sent ++ " haptic pulses sent"]

def openFailure (path reason : String) : Failure :=
  { message := "Failed to open " ++ path ++ ": " ++ reason, cause := some reason }

section
variable {m : Type → Type} [Monad m]

/-- Why no controller stands at a path. -/
def refusal (s : System m) (path : String) : m String :=
  if hasNul path then pure "file name contained an unexpected NUL byte" else s.refusal path

/-- Remapping ends before it starts if no controller can be opened. -/
def runFailure (s : System m) (c : Config) : m Failure := do
  let found ← match c.device with
    | some path => pure (some path)
    | none => s.controller
  match found with
  | some path => return openFailure path (← refusal s path)
  | none => return { message := "No controller found (pass --device)" }

/-- The text that a command prints. -/
def carryOut (s : System m) (i : Invocation) : ExceptT Failure m String := do
  match i.command.getD .run with
  | .listDevices =>
    let devices ← liftM s.devices
    return lines (devices.map fun (path, name) => path ++ "\t" ++ name)
  | .codes => return codesText
  | .checkConfig =>
    let c ← load s i.options
    match checkConfig c with
    | .ok text => return text
    | .error f => throw f
  | .testHaptics => return testHaptics (← load s i.options)
  | .run =>
    let c ← load s i.options
    throw (← liftM (runFailure s c))

/-! ### The whole -/

def Stop.outcome : Stop → Outcome
  | .usage e => { status := 2, err := e.message ++ "\n" }
  | .help topic long => { status := 0, out := helpText topic long }
  | .version topic => { status := 0, out := versionText topic }

def run (s : System m) (args : List String) : m Outcome := do
  match parse args with
  | .error stop => return stop.outcome
  | .ok i =>
    match ← (carryOut s i).run with
    | .ok text => return { status := 0, out := text }
    | .error f => return { status := 1, err := f.text }

end

end ControllerRemap.CommandLine
