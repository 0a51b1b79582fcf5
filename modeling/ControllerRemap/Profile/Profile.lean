import ControllerRemap.Profile.Custom
import ControllerRemap.Profile.Desktop
import ControllerRemap.Profile.Gamepad
import ControllerRemap.Profile.GyroPointer
import ControllerRemap.Profile.Tablet

/-! Profiles of every kind. A profile answers input events, declares the virtual device
that its answers need, and on release brings every held output to rest. -/

namespace ControllerRemap

inductive Profile where
  | gamepad (profile : Gamepad)
  | desktop (profile : Desktop)
  | gyroMouse (profile : GyroPointer)
  | tablet (profile : Tablet)
  | custom (profile : Custom)

namespace Profile

def kind : Profile → ProfileKind
  | gamepad _ => .gamepad
  | desktop _ => .desktop
  | gyroMouse _ => .gyroMouse
  | tablet _ => .tablet
  | custom _ => .custom

/-- The profile of a kind. The gates of its rules start from a live table. -/
def new (kind : ProfileKind) (c : Config) (live : Live) : Except ProfileError Profile :=
  match kind with
  | .gamepad => (Gamepad.new c live).map gamepad
  | .desktop => (Desktop.new c live).map desktop
  | .gyroMouse => (GyroPointer.new c live).map gyroMouse
  | .tablet => .ok (tablet (Tablet.new c))
  | .custom => (Custom.new c live).map custom

def spec : Profile → DeviceSpec
  | gamepad p => p.spec
  | desktop p => p.spec
  | gyroMouse p => p.spec
  | tablet p => p.spec
  | custom p => p.spec

/-- Answers an input event that the live table already holds. -/
def handle (p : Profile) (e : Event) (live : Live) : Except Fault (Profile × Response) :=
  match p with
  | gamepad p => let (p, r) := p.handle e live; .ok (gamepad p, r)
  | desktop p => let (p, r) := p.handle e live; .ok (desktop p, r)
  | gyroMouse p => let (p, r) := p.handle e live; .ok (gyroMouse p, r)
  | tablet p => (p.handle e live).map fun (p, r) => (tablet p, r)
  | custom p => let (p, r) := p.handle e live; .ok (custom p, r)

def release : Profile → Profile × Response
  | gamepad p => let (p, r) := p.release; (gamepad p, r)
  | desktop p => let (p, r) := p.release; (desktop p, r)
  | gyroMouse p => let (p, r) := p.release; (gyroMouse p, r)
  | tablet p => let (p, r) := p.release; (tablet p, r)
  | custom p => let (p, r) := p.release; (custom p, r)

end Profile

end ControllerRemap
