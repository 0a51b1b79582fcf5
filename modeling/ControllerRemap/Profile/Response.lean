import ControllerRemap.Haptic.Pulse
import ControllerRemap.Event.Basic

/-! What a profile answers to an input event: output events and haptic pulses, each in
the order in which they are sent. -/

namespace ControllerRemap

structure Response where
  events : List Event := []
  pulses : List Pulse := []
  deriving DecidableEq

namespace Response

def ofEvents (es : List Event) : Response := { events := es }

/-- The end of an output frame. -/
def report : Response := ofEvents [.report]

instance : Append Response where
  append r s := ⟨r.events ++ s.events, r.pulses ++ s.pulses⟩

@[simp] theorem events_append (r s : Response) : (r ++ s).events = r.events ++ s.events := rfl

@[simp] theorem pulses_append (r s : Response) : (r ++ s).pulses = r.pulses ++ s.pulses := rfl

@[simp] theorem events_ofEvents (es : List Event) : (ofEvents es).events = es := rfl

@[simp] theorem pulses_ofEvents (es : List Event) : (ofEvents es).pulses = [] := rfl

end Response

end ControllerRemap
