import ControllerRemap.Profile.Profile

/-! From input events to answers. Every event first updates the live table; an event
that passes the filter then reaches the profile. A report always does, and no other
synchronisation event. -/

namespace ControllerRemap

structure Pipeline where
  live : Live := {}
  filter : Filter
  profile : Profile

namespace Pipeline

/-- Without a filter in the configuration every event passes. -/
def new (kind : ProfileKind) (c : Config) : Except ProfileError Pipeline := do
  return { filter := c.filter.getD .passAll, profile := ← Profile.new kind c {} }

/-- Hands an event to the profile. -/
def answer (p : Pipeline) (e : Event) : Except Fault (Pipeline × Response) := do
  let (profile, r) ← p.profile.handle e p.live
  return ({ p with profile }, r)

def process (p : Pipeline) (e : Event) : Except Fault (Pipeline × Response) :=
  if e.channel.kind = .syn then
    if e.isReport then p.answer e else .ok (p, {})
  else
    let p := { p with live := p.live.apply e }
    if p.filter.passes e then p.answer e else .ok (p, {})

/-- Brings every held output to rest. -/
def shutdown (p : Pipeline) : Pipeline × Response :=
  let (profile, r) := p.profile.release
  ({ p with profile }, r)

def spec (p : Pipeline) : DeviceSpec := p.profile.spec

end Pipeline

end ControllerRemap
