/-! Input and output events. A channel is one control of a device: an event type
such as key or absolute axis, and a code within it. An event gives a channel a
new value; a synchronisation report ends a frame of events. -/

namespace ControllerRemap

/-- An event type, by its number. -/
structure Kind where
  number : UInt16
  deriving DecidableEq, Hashable

namespace Kind

def syn : Kind := ⟨0⟩
def key : Kind := ⟨1⟩
def rel : Kind := ⟨2⟩
def abs : Kind := ⟨3⟩

/-- The letters in front of the code names of a type; types without names share one tag. -/
def tag (k : Kind) : String :=
  if k = syn then "SYN"
  else if k = key then "KEY"
  else if k = rel then "REL"
  else if k = abs then "ABS"
  else "EV"

def text (k : Kind) : String := "EV_" ++ k.tag

end Kind

structure Channel where
  kind : Kind
  code : UInt16
  deriving DecidableEq, Hashable

namespace Channel

def syn (code : UInt16) : Channel := ⟨.syn, code⟩
def key (code : UInt16) : Channel := ⟨.key, code⟩
def rel (code : UInt16) : Channel := ⟨.rel, code⟩
def abs (code : UInt16) : Channel := ⟨.abs, code⟩

end Channel

structure Event where
  channel : Channel
  value : Int32
  deriving DecidableEq

namespace Event

/-- Whether an event ends a frame, whatever its value. -/
def isReport (e : Event) : Bool := e.channel == .syn 0

/-- The event that ends an output frame. -/
def report : Event := ⟨.syn 0, 0⟩

end Event

end ControllerRemap
