import ControllerRemap.Event.ByChannel

/-! The latest value of every channel. A channel without an event so far has the
value zero; synchronisation events carry no channel state. -/

namespace ControllerRemap

structure Live where
  latest : ByChannel Int32 := {}

namespace Live

def value (t : Live) (c : Channel) : Int32 := (t.latest.get? c).getD 0

def set (t : Live) (c : Channel) (v : Int32) : Live := ⟨t.latest.put c v⟩

def apply (t : Live) (e : Event) : Live :=
  if e.channel.kind = .syn then t else t.set e.channel e.value

/-- Whether a button is down. -/
def held (t : Live) (c : Channel) : Bool := t.value c != 0

@[simp] theorem value_empty (c : Channel) : value {} c = 0 := rfl

/-- Setting a channel changes its own value only. -/
theorem value_set (t : Live) (c d : Channel) (v : Int32) :
    (t.set c v).value d = if d = c then v else t.value d := by
  simp only [value, set, ByChannel.get?_put]
  split <;> rfl

end Live

end ControllerRemap
