import ControllerRemap.Event.Basic

/-! What a virtual device declares: its keys, its relative axes and its absolute axes
with their ranges. Every code is declared once, in the order of first declaration,
and the first declaration of an axis fixes its range. -/

namespace ControllerRemap

/-- An absolute axis. -/
structure AbsAxis where
  code : UInt16
  min : Int32
  max : Int32
  /-- Changes up to this size are noise. -/
  fuzz : Int32 := 0
  /-- Half the width of the zone around the centre that counts as zero. -/
  flat : Int32 := 0
  deriving DecidableEq

namespace AbsAxis

def new (code : UInt16) (min max : Int32) : AbsAxis := { code, min, max }

/-- The range that an axis has if nothing else is said. -/
def full (code : UInt16) : AbsAxis := new code (-32768) 32767

/-- An axis of a stick, with noise and a dead zone. -/
def stick (code : UInt16) : AbsAxis := { full code with fuzz := 16, flat := 128 }

end AbsAxis

structure DeviceSpec where
  name : String
  keys : List UInt16 := []
  rel : List UInt16 := []
  abs : List AbsAxis := []
  deriving DecidableEq

/-- Appends an element whose key no element of the list has. -/
def declare {α β : Type} [BEq β] (key : α → β) (as : List α) (a : α) : List α :=
  if as.any fun b => key b == key a then as else as ++ [a]

namespace DeviceSpec

def named (name : String) : DeviceSpec := { name }

def addKey (s : DeviceSpec) (code : UInt16) : DeviceSpec := { s with keys := declare id s.keys code }

def addKeys (s : DeviceSpec) (codes : List UInt16) : DeviceSpec := codes.foldl addKey s

def addRel (s : DeviceSpec) (code : UInt16) : DeviceSpec := { s with rel := declare id s.rel code }

def addAbs (s : DeviceSpec) (axis : AbsAxis) : DeviceSpec :=
  { s with abs := declare AbsAxis.code s.abs axis }

/-- Declares a channel; an absolute axis gets its range from `range`. Other types of
channels are not declared. -/
def channel (range : UInt16 → AbsAxis) (s : DeviceSpec) (c : Channel) : DeviceSpec :=
  if c.kind = .key then s.addKey c.code
  else if c.kind = .rel then s.addRel c.code
  else if c.kind = .abs then s.addAbs (range c.code)
  else s

def channels (range : UInt16 → AbsAxis) (s : DeviceSpec) (cs : List Channel) : DeviceSpec :=
  cs.foldl (channel range) s

def declares (s : DeviceSpec) (c : Channel) : Bool :=
  if c.kind = .key then s.keys.contains c.code
  else if c.kind = .rel then s.rel.contains c.code
  else if c.kind = .abs then s.abs.any (·.code == c.code)
  else false

end DeviceSpec

end ControllerRemap
