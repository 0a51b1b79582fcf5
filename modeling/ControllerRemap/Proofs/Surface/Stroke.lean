import ControllerRemap.Surface.TouchMapper
import ControllerRemap.Proofs.Event.History

/-! The strokes that an absolute pointer draws. A stroke presses the tool, sends a frame for every
position and lifts the tool. Positions and releases may come in any order, and a release may be
missing or repeated: the events sent are always whole strokes, but for the last one, which may
still go on. -/

namespace ControllerRemap

/-- The positions of a stroke in order; it has at least one. -/
structure Stroke where
  first : Int32 × Int32
  later : List (Int32 × Int32) := []

namespace Stroke

def positions (s : Stroke) : List (Int32 × Int32) := s.first :: s.later

/-- The frame of a position. -/
def frame (p : Int32 × Int32) : List Event :=
  [⟨.abs Code.absX, p.1⟩, ⟨.abs Code.absY, p.2⟩, .report]

/-- A stroke that goes on. -/
def begun (s : Stroke) : List Event := ⟨TouchMapper.tool, 1⟩ :: s.positions.flatMap frame

/-- A whole stroke. -/
def ended (s : Stroke) : List Event := s.begun ++ [⟨TouchMapper.tool, 0⟩, .report]

end Stroke

/-- Strokes in order, the last one possibly going on. -/
structure Drawing where
  finished : List Stroke := []
  current : Option Stroke := none

namespace Drawing

def events (d : Drawing) : List Event :=
  d.finished.flatMap Stroke.ended ++ (d.current.map Stroke.begun).getD []

def positions (d : Drawing) : List (Int32 × Int32) :=
  d.finished.flatMap Stroke.positions ++ (d.current.map Stroke.positions).getD []

/-- A position begins a stroke or goes on with one. -/
def move (d : Drawing) (p : Int32 × Int32) : Drawing :=
  { d with current := match d.current with
    | none => some { first := p }
    | some s => some { s with later := s.later ++ [p] } }

/-- The stroke that goes on ends. -/
def lift (d : Drawing) : Drawing where
  finished := d.finished ++ d.current.toList
  current := none

theorem events_move (d : Drawing) (p : Int32 × Int32) : (d.move p).events =
    d.events ++ ((if d.current.isSome then [] else [⟨TouchMapper.tool, 1⟩]) ++ Stroke.frame p) := by
  obtain ⟨finished, current⟩ := d
  cases current with
  | none => simp [move, events, Stroke.begun, Stroke.positions]
  | some s => simp [move, events, Stroke.begun, Stroke.positions]

theorem positions_move (d : Drawing) (p : Int32 × Int32) :
    (d.move p).positions = d.positions ++ [p] := by
  obtain ⟨finished, current⟩ := d
  cases current with
  | none => simp [move, positions, Stroke.positions]
  | some s => simp [move, positions, Stroke.positions]

theorem events_lift (d : Drawing) : d.lift.events =
    d.events ++ if d.current.isSome then [⟨TouchMapper.tool, 0⟩, .report] else [] := by
  obtain ⟨finished, current⟩ := d
  cases current with
  | none => simp [lift, events]
  | some s => simp [lift, events, Stroke.ended]

theorem positions_lift (d : Drawing) : d.lift.positions = d.positions := by
  obtain ⟨finished, current⟩ := d
  cases current with
  | none => simp [lift, positions]
  | some s => simp [lift, positions]

/-! ### The tool -/

theorem channel_of_frame {p : Int32 × Int32} :
    ∀ o ∈ Stroke.frame p, o.channel ≠ TouchMapper.tool := by
  simp only [Stroke.frame, List.forall_mem_cons]
  exact ⟨by decide, by decide, by decide, List.forall_mem_nil _⟩

theorem lastOn_begun (s : Stroke) : Event.lastOn TouchMapper.tool s.begun = some 1 := by
  have hmoves : ∀ o ∈ s.positions.flatMap Stroke.frame, o.channel ≠ TouchMapper.tool := by
    intro o ho
    obtain ⟨p, -, ho⟩ := List.mem_flatMap.1 ho
    exact channel_of_frame o ho
  rw [Stroke.begun, ← List.singleton_append, Event.lastOn_append_of_ne _ hmoves]
  rfl

theorem lastOn_ended (s : Stroke) : Event.lastOn TouchMapper.tool s.ended = some 0 := by
  rw [Stroke.ended, Event.lastOn_append]
  rfl

/-- However events are read as strokes, the last one goes on exactly if the tool was pressed
last. -/
theorem isSome_current_iff (d : Drawing) :
    d.current.isSome = true ↔ Event.lastOn TouchMapper.tool d.events = some 1 := by
  have hfinished (ss : List Stroke) :
      Event.lastOn TouchMapper.tool (ss.flatMap Stroke.ended) ≠ some 1 := by
    induction ss with
    | nil => simp
    | cons s ss ih =>
      rw [List.flatMap_cons, Event.lastOn_append, lastOn_ended]
      cases h : Event.lastOn TouchMapper.tool (ss.flatMap Stroke.ended) with
      | none => simp
      | some v => rwa [Option.some_or, ← h]
  obtain ⟨finished, current⟩ := d
  cases current with
  | none => simp [events, hfinished]
  | some s => simp [events, lastOn_begun]

end Drawing

/-! ### Calls -/

@[simp] theorem Fault.sent_after (earlier : List Event) (f : Fault) :
    (f.after earlier).sent = earlier ++ f.sent := rfl

/-- An axis sends nothing. -/
theorem AxisMap.sent_of_map {a : AxisMap} {v : Float} {fault : Fault} (h : a.map v = .error fault) :
    fault.sent = [] := by
  rw [map, fraction] at h
  split at h
  · cases h
  · split at h
    · cases h
      rfl
    · cases h

namespace TouchMapper

/-- What may be asked of a mapper. -/
inductive Call where
  | update (x y : Float)
  | release

namespace Call

def run (m : TouchMapper) : Call → Except Fault (TouchMapper × List Event)
  | update x y => m.update x y
  | release => .ok m.release

def point? : Call → Option (Float × Float)
  | update x y => some (x, y)
  | release => none

end Call

/-- Calls in order, with all events that they send; a fault ends them, and carries the events that
were sent before it. -/
def play (m : TouchMapper) : List Call → Except Fault (TouchMapper × List Event)
  | [] => .ok (m, [])
  | call :: calls => do
    let (m, out) ← call.run m
    let (m, later) ← (m.play calls).mapError (·.after out)
    return (m, out ++ later)

/-- The position on the screen of a point of the surface. -/
def position (m : TouchMapper) (x y : Float) : Except Fault (Int32 × Int32) := do
  let px ← m.x.map x
  let py ← m.y.map y
  return (px, py)

variable {m m' : TouchMapper} {out : List Event}

/-- A position that is sent is that of the point, in a frame of its own. -/
theorem position_of_update {x y : Float} (h : m.update x y = .ok (m', out)) :
    ∃ p, m.position x y = .ok p ∧ m' = { m with touching := true } ∧
      out = (if m.touching then [] else [⟨tool, 1⟩]) ++ Stroke.frame p := by
  rw [update] at h
  cases hx : m.x.map x with
  | error fault => rw [hx] at h; cases h
  | ok px =>
    cases hy : m.y.map y with
    | error fault => rw [hx, hy] at h; cases h
    | ok py =>
      rw [hx, hy] at h
      cases h
      exact ⟨(px, py), by rw [position, hx, hy]; rfl, rfl, rfl⟩

/-- Before a fault the tool is pressed for a new stroke, and if the first axis has a position, that is
sent as well. -/
theorem sent_of_fault {x y : Float} {fault : Fault} (h : m.update x y = .error fault) :
    ∃ place, (place = [] ∨ ∃ px, m.x.map x = .ok px ∧ place = [⟨.abs Code.absX, px⟩]) ∧
      fault.sent = (if m.touching then [] else [⟨tool, 1⟩]) ++ place := by
  rw [update] at h
  cases hx : m.x.map x with
  | error f =>
    rw [hx] at h
    cases h
    exact ⟨[], .inl rfl, by simp [AxisMap.sent_of_map hx]⟩
  | ok px =>
    cases hy : m.y.map y with
    | error f =>
      rw [hx, hy] at h
      cases h
      exact ⟨_, .inr ⟨px, rfl, rfl⟩, by simp [AxisMap.sent_of_map hy]⟩
    | ok py =>
      rw [hx, hy] at h
      cases h

theorem play_cons_eq_ok {call : Call} {calls : List Call}
    (h : m.play (call :: calls) = .ok (m', out)) : ∃ between sent later,
      call.run m = .ok (between, sent) ∧ between.play calls = .ok (m', later) ∧
        out = sent ++ later := by
  rw [play] at h
  cases hcall : call.run m with
  | error fault => rw [hcall] at h; cases h
  | ok first =>
    cases hrest : first.1.play calls with
    | error fault => simp only [bind, Except.bind, hcall, hrest] at h; cases h
    | ok rest =>
      simp only [bind, Except.bind, hcall, hrest, pure, Except.pure] at h
      cases h
      exact ⟨first.1, first.2, rest.2, rfl, hrest, rfl⟩

/-- What a mapper of two axis maps has drawn: its events are those of the strokes, of which the last
one goes on while the finger touches, and the positions are those of the points of its calls. -/
structure Draws (x y : AxisMap) (m : TouchMapper) (d : Drawing) (calls : List Call)
    (out : List Event) : Prop where
  mapper : m = { x, y, touching := d.current.isSome }
  events : out = d.events
  positions : d.positions.map .ok =
    (calls.filterMap Call.point?).map fun p => ({ x, y } : TouchMapper).position p.1 p.2

variable {x y : AxisMap} {d : Drawing} {calls : List Call} {sent : List Event}

/-- Every call goes on with the drawing. -/
theorem Draws.run (h : Draws x y m d calls out) {call : Call}
    (hcall : call.run m = .ok (m', sent)) :
    ∃ d', Draws x y m' d' (calls ++ [call]) (out ++ sent) := by
  obtain rfl := h.mapper
  cases call with
  | update px py =>
    obtain ⟨p, hp, rfl, rfl⟩ := position_of_update hcall
    refine ⟨d.move p, ?_, ?_, ?_⟩
    · rw [Drawing.move]
      cases d.current <;> rfl
    · rw [d.events_move, ← h.events]
    · rw [d.positions_move, List.map_append, h.positions, List.filterMap_append, List.map_append,
        List.map_singleton, ← hp]
      rfl
  | release =>
    cases hcall
    have hpoints :
        (calls ++ [Call.release]).filterMap Call.point? = calls.filterMap Call.point? := by
      simp [Call.point?]
    refine ⟨d.lift, rfl, ?_, ?_⟩
    · rw [d.events_lift, ← h.events]
    · rw [d.positions_lift, h.positions, hpoints]

theorem Draws.play (h : Draws x y m d calls out) {later : List Call}
    (hplay : m.play later = .ok (m', sent)) :
    ∃ d', Draws x y m' d' (calls ++ later) (out ++ sent) := by
  induction later generalizing m d calls out sent with
  | nil =>
    cases hplay
    rw [List.append_nil, List.append_nil]
    exact ⟨d, h⟩
  | cons call later ih =>
    obtain ⟨between, first, rest, hcall, hrest, rfl⟩ := play_cons_eq_ok hplay
    obtain ⟨d', h'⟩ := h.run hcall
    obtain ⟨d'', h''⟩ := ih h' hrest
    rw [List.append_assoc, List.singleton_append, List.append_assoc] at h''
    exact ⟨d'', h''⟩

/-- Any points and releases, as long as they meet no fault, make a mapper of any regions draw
strokes: what it sends is their events, with one frame for every point. However what it sends is
read as strokes, the last one goes on exactly if the finger touches. A release without a touch
sends nothing and changes nothing. -/
theorem draws_strokes {x y : AxisMap} {calls : List Call} {m : TouchMapper} {out : List Event}
    (hplay : ({ x, y } : TouchMapper).play calls = .ok (m, out)) :
    (∃ d : Drawing, out = d.events ∧ d.positions.map .ok =
        (calls.filterMap Call.point?).map fun p => ({ x, y } : TouchMapper).position p.1 p.2) ∧
      (∀ d : Drawing, out = d.events → (m.touching = true ↔ d.current.isSome = true)) ∧
      (m.touching = false → m.release = (m, [])) := by
  have hstart : Draws x y { x, y } {} [] [] := ⟨rfl, rfl, rfl⟩
  obtain ⟨d, hd⟩ := hstart.play hplay
  rw [List.nil_append, List.nil_append] at hd
  refine ⟨⟨d, hd.events, hd.positions⟩, fun read hread => ?_, fun hlifted => ?_⟩
  -- the last value on the tool is the same however the events are read
  · rw [Drawing.isSome_current_iff read, ← hread, hd.events, ← Drawing.isSome_current_iff,
      hd.mapper]
  · obtain ⟨x, y, touching⟩ := m
    obtain rfl : touching = false := hlifted
    rfl

/-- The finger is lifted before it touches and twice after its first stroke; a second stroke goes
on. -/
theorem draws_strokes_of_repeated_release :
    let axis : AxisMap :=
      { inputStart := -1.0, inputEnd := 1.0, screenStart := 0.0, screenEnd := 100.0,
        screenSize := 100.0 }
    let calls : List Call :=
      [.release, .update (-1.0) 1.0, .update 0.0 2.0, .release, .release, .update 1.0 (-1.0)]
    ∃ (m : TouchMapper) (d : Drawing),
      ({ x := axis, y := axis } : TouchMapper).play calls = .ok (m, d.events) ∧
        m.touching = true ∧ d.positions.length = 3 ∧ d.current.isSome = true := by
  intro axis calls
  have hvalue : (({ x := axis, y := axis } : TouchMapper).play calls).toOption.map
      (fun r => r.1.touching) = some true := by decide +kernel
  cases hplay : ({ x := axis, y := axis } : TouchMapper).play calls with
  | error fault =>
    rw [hplay] at hvalue
    cases hvalue
  | ok r =>
    obtain ⟨m, out⟩ := r
    rw [hplay] at hvalue
    have htouching : m.touching = true := Option.some_inj.1 hvalue
    obtain ⟨⟨d, rfl, hpositions⟩, hread, -⟩ := draws_strokes hplay
    have hlength := congrArg List.length hpositions
    rw [List.length_map, List.length_map] at hlength
    exact ⟨m, d, rfl, htouching, hlength, (hread d rfl).1 htouching⟩

end TouchMapper

end ControllerRemap
