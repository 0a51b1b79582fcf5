import ControllerRemap.Event.Basic
import ControllerRemap.Toml.DecodeError

/-! Decoders of values that have no fields. Integers are taken where a float is wanted;
a number that a fixed width does not hold is an invalid value. -/

namespace ControllerRemap.Toml

abbrev Decoder (α : Type) := Value → Except DecodeError α

namespace Decoder

def mistyped {α : Type} (v : Value) (expected : String) : Except DecodeError α :=
  .error (.invalidType v.found expected)

/-- A text, under the name that a message uses for it. -/
def text (expected : String) : Decoder String
  | .string s => .ok s
  | v => mistyped v expected

def string : Decoder String := text "a string"

def boolean : Decoder Bool
  | .boolean b => .ok b
  | v => mistyped v "a boolean"

def float : Decoder Float
  | .float x => .ok x
  | .integer n => .ok (Float.ofInt n)
  | v => mistyped v "f64"

def int32 : Decoder Int32
  | .integer n =>
    if -2147483648 ≤ n ∧ n ≤ 2147483647 then .ok (Int32.ofInt n)
    else .error (.invalidValue (.integer n) "i32")
  | v => mistyped v "i32"

def uint16 : Decoder UInt16
  | .integer n =>
    if 0 ≤ n ∧ n < 65536 then .ok (UInt16.ofNat n.toNat)
    else .error (.invalidValue (.integer n) "u16")
  | v => mistyped v "u16"

/-- A decoded value marked as present. -/
def some {α : Type} (decode : Decoder α) : Decoder (Option α) := fun v =>
  (decode v).map Option.some

/-! ### Lists -/

def items {α : Type} (decode : Decoder α) : List Value → Except DecodeError (List α)
  | [] => .ok []
  | v :: vs => do
    let a ← decode v
    let rest ← items decode vs
    return a :: rest

def list {α : Type} (decode : Decoder α) : Decoder (List α)
  | .array _ vs => items decode vs
  | v => mistyped v "a sequence"

/-- A value made of a fixed count of numbers; further items are ignored. -/
def tuple {α : Type} (count : Nat) (make : List Float → Option α) : Decoder α :=
  let expected := "an array of length " ++ String.ofList (Digits.digits 10 count)
  fun
  | .array _ vs => do
    let xs ← items float (vs.take count)
    match make xs with
    | Option.some a => .ok a
    | none => .error (.invalidLength xs.length expected)
  | v => mistyped v expected

/-! ### Channels and event types -/

def ofCode {α : Type} (r : Except CodeError α) : Except DecodeError α := r.mapError .code

/-- The name or number of an event type. -/
inductive KindForm where
  | name (text : String)
  | number (n : UInt16)

def KindForm.ofValue? : Value → Option KindForm
  | .string s => Option.some (.name s)
  | v => match uint16 v with
    | .ok n => Option.some (.number n)
    | .error _ => none

def KindForm.kind : KindForm → Except CodeError Kind
  | .name s => Kind.parse s
  | .number n => .ok ⟨n⟩

def kind : Decoder Kind := fun v =>
  match KindForm.ofValue? v with
  | Option.some form => ofCode form.kind
  | none => .error (.noForm "TypeRepr")

/-- An event type and a number in a table, whatever else the table holds. -/
def numbered? (t : Table) : Option (KindForm × UInt16) :=
  match t.lookup "type", t.lookup "code" with
  | Option.some k, Option.some c =>
    match KindForm.ofValue? k, uint16 c with
    | Option.some form, .ok n => Option.some (form, n)
    | _, _ => none
  | _, _ => none

/-- A name, a literal of type and number, or a table of both. -/
def channel : Decoder Channel
  | .string s => ofCode (Channel.parse s)
  | .table t =>
    match numbered? t with
    | Option.some (form, n) => ofCode (form.kind.map fun k => ⟨k, n⟩)
    | none => .error (.noForm "CodeRepr")
  | _ => .error (.noForm "CodeRepr")

end Decoder

end ControllerRemap.Toml
