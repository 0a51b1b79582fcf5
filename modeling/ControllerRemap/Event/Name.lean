import ControllerRemap.Event.Table
import ControllerRemap.Number.Digits
import ControllerRemap.Text.Blank

/-! The written form of channels and event types. A channel is written as its
canonical name, or as its type and a hexadecimal number if it has none. Reading
ignores case and surrounding white space and also takes aliases and any literal
of a type and a number. -/

namespace ControllerRemap

/-- Why a text names no channel or event type. -/
inductive CodeError where
  | unknownName (text : String)
  | unknownKind (text : String)
  /-- A bare number. -/
  | missingKind (text : String)
  deriving DecidableEq

def CodeError.message : CodeError → String
  | .unknownName text => "unknown event code name: \"" ++ text ++ "\""
  | .unknownKind text => "unknown event type: \"" ++ text ++ "\""
  | .missingKind text =>
    "event code " ++ text ++ " has no type prefix (expected KEY_, BTN_, REL_, ABS_ or SYN_)"

/-! ### Writing -/

namespace Channel

/-- The canonical name, if the channel has a name. -/
def name? (c : Channel) : Option String :=
  (Event.table.find? (fun entry => entry.2 == c)).map (·.1)

/-- The type and the number in at least three hexadecimal digits. -/
def literal (c : Channel) : String :=
  c.kind.tag ++ ":0x" ++ String.ofList (Digits.pad 3 (Digits.digits 16 c.code.toNat))

def text (c : Channel) : String := c.name?.getD c.literal

end Channel

def Event.text (e : Event) : String :=
  e.channel.text ++ "=" ++ String.ofList (Digits.ofInt e.value.toInt)

/-! ### Reading -/

namespace Kind

/-- The event type of a tag; buttons are keys. -/
def ofTag? (tag : List Char) : Option Kind :=
  match String.ofList tag with
  | "SYN" => some syn
  | "KEY" => some key
  | "BTN" => some key
  | "REL" => some rel
  | "ABS" => some abs
  | _ => none

end Kind

namespace Event

/-- A numeral of a 16-bit number in decimal, or in hexadecimal after `0X`; a plus
sign may come first. -/
def readNumber? (cs : List Char) : Option UInt16 :=
  let (base, rest) := match cs with
    | '0' :: 'X' :: rest => (16, rest)
    | _ => (10, cs)
  let body := match rest with
    | '+' :: body => body
    | _ => rest
  match Digits.read? base body with
  | some n => if n < 65536 then some (UInt16.ofNat n) else none
  | none => none

/-- A text without the `EV_` that it starts with, however often. -/
def dropMarks : List Char → List Char
  | 'E' :: 'V' :: '_' :: rest => dropMarks rest
  | cs => cs

/-- A type before the first colon and a number after it. -/
def readLiteral? (cs : List Char) : Option Channel :=
  match cs.dropWhile (· != ':') with
  | _ :: number =>
    match Kind.ofTag? (dropMarks (cs.takeWhile (· != ':'))), readNumber? (Text.trim number) with
    | some kind, some code => some ⟨kind, code⟩
    | _, _ => none
  | [] => none

end Event

/-- Reads a name of the table or a literal of a type and a number. -/
def Channel.parse (text : String) : Except CodeError Channel :=
  let trimmed := Text.trim text.toList
  let upper := Text.upper trimmed
  match Event.table.lookup (String.ofList upper) with
  | some channel => .ok channel
  | none =>
    match Event.readLiteral? upper with
    | some channel => .ok channel
    | none =>
      if (Event.readNumber? upper).isSome then .error (.missingKind (String.ofList trimmed))
      else .error (.unknownName (String.ofList trimmed))

/-- Reads the tag of an event type, with or without `EV_`, or its number. -/
def Kind.parse (text : String) : Except CodeError Kind :=
  let trimmed := Text.trim text.toList
  let upper := Text.upper trimmed
  match Kind.ofTag? (Event.dropMarks upper) with
  | some kind => .ok kind
  | none =>
    match Event.readNumber? upper with
    | some number => .ok ⟨number⟩
    | none => .error (.unknownKind (String.ofList trimmed))

end ControllerRemap
