import ControllerRemap.Proofs.Profile.ShutGate
import ControllerRemap.Proofs.Profile.Step
import ControllerRemap.Proofs.Surface.Transitions

/-! The finger on a touch button of a custom profile. A run is compared with the run of the same
events through the pipeline without the region of the button. If nothing else sends on the target,
the events on it are those of the region, all others are those of the run without it, and the
pulses are those of that run and a click for every event on the target. At every report the last
of these events tells whether the finger is in the region. -/

namespace ControllerRemap

/-- Whether the button that a region waits for is down and the finger is in the region. -/
def RegionEntry.touched (entry : RegionEntry) (yAxisDown : Bool) (live : Live) : Bool :=
  let y := live.number entry.y
  entry.whileHeld.all (fun c => live.value c ≠ 0) &&
    entry.shape.contains (live.number entry.x) (if yAxisDown then -y else y)

/-- A number of clicks of a region, if it has an actuator. -/
def RegionEntry.clicks (entry : RegionEntry) (magnitude : UInt16) (n : Nat) : List Pulse :=
  match entry.haptic with
  | some actuator => List.replicate n (.click actuator magnitude)
  | none => []

/-- Whether a report finds the finger in a region. -/
def Custom.finds (yAxisDown : Bool) (live : Live) (r : Region PlacedButton) : Bool :=
  match locate yAxisDown live r.action with
  | some (x, y) => r.shape.contains x y
  | none => false

/-! ### Responses -/

namespace Response

/-- A response on a channel of its own comes on top of the rest. -/
structure Joins (c : Channel) (all rest own : Response) : Prop where
  on : all.events.filter (·.channel = c) = own.events
  off : all.events.filter (·.channel ≠ c) = rest.events
  pulses : all.pulses.Perm (rest.pulses ++ own.pulses)

namespace Joins

variable {c : Channel} {a b all rest own : Response}

theorem append {all' rest' own' : Response} (h : Joins c all rest own)
    (h' : Joins c all' rest' own') : Joins c (all ++ all') (rest ++ rest') (own ++ own') := by
  refine ⟨?_, ?_, ?_⟩
  · rw [events_append, List.filter_append, h.on, h'.on, events_append]
  · rw [events_append, List.filter_append, h.off, h'.off, events_append]
  · refine (h.pulses.append h'.pulses).trans ?_
    simp only [pulses_append, List.append_assoc]
    exact (List.perm_append_comm_assoc _ _ _).append_left _

/-- Nothing is sent on the channel. -/
theorem unsent (h : ∀ o ∈ a.events, o.channel ≠ c) : Joins c a a {} := by
  refine ⟨?_, ?_, ?_⟩
  · simpa using h
  · simpa using h
  · exact .of_eq (List.append_nil _).symm

theorem sent (h : ∀ o ∈ own.events, o.channel = c) : Joins c own {} own := by
  refine ⟨?_, ?_, .refl _⟩
  · simpa using h
  · simpa using h

theorem insert (hown : ∀ o ∈ own.events, o.channel = c)
    (hrest : ∀ o ∈ (a ++ b).events, o.channel ≠ c) : Joins c (a ++ own ++ b) (a ++ b) own := by
  obtain ⟨ha, hb⟩ := List.forall_mem_append.1 hrest
  have h := ((unsent ha).append (sent hown)).append (unsent hb)
  rwa [append_empty, append_empty, empty_append] at h

theorem lastOn (h : Joins c all rest own) :
    Event.lastOn c all.events = Event.lastOn c own.events := by
  rw [Event.lastOn, Event.lastOn, ← h.on, List.filter_filter]
  simp

end Joins

end Response

/-! ### The events and clicks of a region -/

namespace RegionEntry

variable (entry : RegionEntry) (magnitude : UInt16)

/-- The response of entering and leaving a region in some order. -/
def fired (history : List Bool) : Response :=
  TouchButton.fireAll (history.map fun pressed =>
    ((Custom.place magnitude entry).action.button, pressed))

theorem fired_append (history later : List Bool) : entry.fired magnitude (history ++ later) =
    entry.fired magnitude history ++ entry.fired magnitude later := by
  rw [fired, List.map_append, TouchButton.fireAll_append]
  rfl

theorem events_fired (history : List Bool) : (entry.fired magnitude history).events =
    history.map fun pressed => ⟨entry.target, if pressed then entry.value else 0⟩ := by
  induction history with
  | nil => rfl
  | cons pressed history ih =>
    rw [fired, List.map_cons, TouchButton.fireAll, Response.events_append, List.map_cons, ← ih]
    rfl

theorem pulses_fired (history : List Bool) : (entry.fired magnitude history).pulses =
    entry.clicks magnitude history.length := by
  induction history with
  | nil =>
    rw [clicks]
    cases entry.haptic <;> rfl
  | cons pressed history ih =>
    have hcons : (entry.fired magnitude (pressed :: history)).pulses =
        entry.clicks magnitude 1 ++ (entry.fired magnitude history).pulses := by
      rw [fired, List.map_cons, TouchButton.fireAll, Response.pulses_append, clicks]
      cases h : entry.haptic <;> simp [TouchButton.fire, Custom.place, h, fired]
    rw [hcons, ih, clicks, clicks, clicks]
    cases entry.haptic <;> simp [List.replicate_succ]

theorem channel_of_fired {history : List Bool} :
    ∀ o ∈ (entry.fired magnitude history).events, o.channel = entry.target := by
  rw [events_fired, List.forall_mem_map]
  exact fun _ _ => rfl

theorem lastOn_fired (history : List Bool) :
    Event.lastOn entry.target (entry.fired magnitude history).events =
      history.getLast?.map fun pressed => if pressed then entry.value else 0 := by
  rw [Event.lastOn, List.filter_eq_self.2 (by simpa using entry.channel_of_fired magnitude),
    events_fired, List.getLast?_map, Option.map_map]
  rfl

/-- The last value tells the state that a region is left in. -/
theorem lastOn_fired_of_state {history : List Bool} {inside : Bool}
    (h : history.getLast?.getD false = inside) : if inside then
      Event.lastOn entry.target (entry.fired magnitude history).events = some entry.value
    else ∀ v ∈ Event.lastOn entry.target (entry.fired magnitude history).events, v = 0 := by
  rw [← h, lastOn_fired]
  cases history.getLast? with
  | none => simp
  | some pressed => cases pressed <;> simp

theorem finds_place (yAxisDown : Bool) (live : Live) :
    Custom.finds yAxisDown live (Custom.place magnitude entry) = entry.touched yAxisDown live := by
  have hheld : (Custom.place magnitude entry).action.whileHeld.all live.held =
      entry.whileHeld.all (fun c => live.value c ≠ 0) := by
    congr 1
    exact funext fun c => Bool.eq_iff_iff.2 (by simp [Live.held])
  rw [Custom.finds, Custom.locate, hheld, touched]
  cases entry.whileHeld.all (fun c => live.value c ≠ 0) <;> rfl

end RegionEntry

/-! ### The profile -/

namespace Custom

/-- The profile with other regions. -/
def withRegions (p : Custom) (regions : RegionMap PlacedButton) : Custom := { p with regions }

/-- A profile has a region that other regions lack, and nothing else sends on its target. -/
structure Adds (p : Custom) (rest : RegionMap PlacedButton) (r : Region PlacedButton) : Prop where
  regions : p.regions.Adds rest r
  indexed : p.remapper.Indexed
  kind : r.action.button.target.kind ≠ .syn
  sole : r.action.button.target ∉ (Profile.custom (p.withRegions rest)).outputs

variable {p : Custom} {rest : RegionMap PlacedButton} {r : Region PlacedButton} {e : Event}

/-- The other regions and the rules send elsewhere. -/
theorem Adds.unsent (h : p.Adds rest r) (e : Event) (live : Live) :
    ∀ o ∈ ((p.withRegions rest).handle e live).2.events, o.channel ≠ r.action.button.target := by
  -- a profile sends on its outputs only, and the target is none of them
  have hstep := (handle_step (p := p.withRegions rest) e live h.indexed).step
  rintro o ho hc
  rcases hstep.sent o ho with hsent | hsyn
  · exact h.sole (hc ▸ hsent)
  · exact h.kind (hc ▸ hsyn)

theorem fireAll_append (xs ys : List (PlacedButton × Bool)) :
    fireAll (xs ++ ys) = fireAll xs ++ fireAll ys := by
  rw [fireAll, List.map_append, TouchButton.fireAll_append]
  rfl

/-- A region is tested at a report only. -/
def tested (p : Custom) (e : Event) (live : Live) (r : Region PlacedButton) :
    Region PlacedButton × List (PlacedButton × Bool) :=
  if e.isReport then RegionMap.retest r (finds p.yAxisDown live r) else (r, [])

theorem placed_tested (p : Custom) (e : Event) (live : Live) (r : Region PlacedButton) :
    (p.tested e live r).1.shape = r.shape ∧ (p.tested e live r).1.action = r.action := by
  rw [tested]
  split <;> exact ⟨rfl, rfl⟩

theorem length_tested_le (p : Custom) (e : Event) (live : Live) (r : Region PlacedButton) :
    (p.tested e live r).2.length ≤ 1 := by
  rw [tested]
  split
  · rw [RegionMap.retest]
    split <;> simp
  · simp

theorem follows_tested {history : List Bool} (h : RegionMap.Follows r history) (p : Custom)
    (e : Event) (live : Live) : RegionMap.Follows (p.tested e live r).1
      (history ++ (p.tested e live r).2.map (·.2)) := by
  rw [tested]
  split
  · exact h.retest _
  · rw [List.map_nil, List.append_nil]
    exact h

theorem action_of_mem_tested {live : Live} {x : PlacedButton × Bool}
    (h : x ∈ (p.tested e live r).2) : x.1 = r.action := by
  rw [tested] at h
  split at h
  · exact RegionMap.action_of_mem_retest h
  · cases h

theorem fireAll_tested {entry : RegionEntry} {magnitude : UInt16} (p : Custom) {live : Live}
    (haction : r.action = (place magnitude entry).action) : fireAll (p.tested e live r).2 =
      entry.fired magnitude ((p.tested e live r).2.map (·.2)) := by
  rw [fireAll, RegionEntry.fired, List.map_map, ← haction]
  congr 1
  refine List.map_congr_left fun x hx => ?_
  rw [← action_of_mem_tested hx]
  rfl

theorem yAxisDown_handle (p : Custom) (h : p.remapper.Indexed) (e : Event) (live : Live) :
    (p.handle e live).1.yAxisDown = p.yAxisDown := by
  have hidle := (handle_step e live h).idle
  rw [Profile.idle, Profile.idle, Profile.custom.injEq] at hidle
  have hdown := congrArg Custom.yAxisDown hidle
  exact hdown

theorem handle_of_report (p : Custom) (he : e.isReport = true) (live : Live) :
    p.handle e live = (p.withRegions (p.regions.sweep (finds p.yAxisDown live)).1,
      fireAll (p.regions.sweep (finds p.yAxisDown live)).2 ++ .report) := by
  rw [handle, if_pos (Event.kind_of_isReport he), if_pos he]
  rfl

/-- All other events leave the regions, and do not depend on them. -/
theorem handle_of_not_report (p : Custom) (he : e.isReport = false) (live : Live)
    (m : RegionMap PlacedButton) : (p.handle e live).1.regions = p.regions ∧
      (p.withRegions m).handle e live =
        ((p.handle e live).1.withRegions m, (p.handle e live).2) := by
  simp only [handle, he]
  split
  · exact ⟨rfl, rfl⟩
  · exact ⟨rfl, rfl⟩

/-- A step that does the same to the rest keeps the profile apart from it. -/
theorem Adds.kept (h : p.Adds rest r) {live : Live} {rest' : RegionMap PlacedButton}
    {r' : Region PlacedButton}
    (hrest : ((p.withRegions rest).handle e live).1 = (p.handle e live).1.withRegions rest')
    (hregions : (p.handle e live).1.regions.Adds rest' r') (haction : r'.action = r.action) :
    (p.handle e live).1.Adds rest' r' := by
  have hindexed := Profile.indexed_congr (handle_step (p := p) e live h.indexed).idle
  have houtputs := Profile.outputs_congr
    (handle_step (p := p.withRegions rest) e live h.indexed).idle
  refine ⟨hregions, hindexed.2 h.indexed, ?_, ?_⟩
  · rw [haction]
    exact h.kind
  · rw [haction, ← hrest, houtputs]
    exact h.sole

/-- What the profile does with the region is what it does without it and what the region does. -/
theorem Adds.handle (h : p.Adds rest r) (e : Event) (live : Live) : ∃ rest',
    ((p.withRegions rest).handle e live).1 = (p.handle e live).1.withRegions rest' ∧
      (p.handle e live).1.Adds rest' (p.tested e live r).1 ∧
      (p.handle e live).2.Joins r.action.button.target ((p.withRegions rest).handle e live).2
        (fireAll (p.tested e live r).2) := by
  have hunsent := h.unsent e live
  have haction := (p.placed_tested e live r).2
  cases he : e.isReport with
  | false =>
    obtain ⟨hregions, hrest⟩ := p.handle_of_not_report he live rest
    have hadds : (p.handle e live).1.regions.Adds rest (p.tested e live r).1 := by
      rw [hregions, tested, he]
      exact h.regions
    refine ⟨rest, congrArg Prod.fst hrest, h.kept (congrArg Prod.fst hrest) hadds haction, ?_⟩
    rw [hrest] at hunsent ⊢
    rw [tested, he]
    exact .unsent hunsent
  | true =>
    have htested : p.tested e live r = RegionMap.retest r (finds p.yAxisDown live r) := by
      rw [tested, if_pos he]
    -- what the region reports stands between what the others report
    obtain ⟨hadds, before, after, hrest, hall⟩ := h.regions.sweep (finds p.yAxisDown live)
    rw [← htested] at hadds hall
    have hown : ∀ o ∈ (fireAll (p.tested e live r).2).events,
        o.channel = r.action.button.target := by
      intro o ho
      obtain ⟨x, hx, hc⟩ := channel_of_fireAll ho
      rw [hc, action_of_mem_tested hx]
    have hhandle := p.handle_of_report he live
    have hwithout : (p.withRegions rest).handle e live =
        (p.withRegions (rest.sweep (finds p.yAxisDown live)).1,
          fireAll before ++ (fireAll after ++ .report)) := by
      rw [handle_of_report _ he, ← Response.append_assoc, ← fireAll_append, ← hrest]
      rfl
    have hkept : ((p.withRegions rest).handle e live).1 =
        (p.handle e live).1.withRegions (rest.sweep (finds p.yAxisDown live)).1 := by
      rw [hwithout, hhandle]
      rfl
    refine ⟨_, hkept, h.kept hkept ?_ haction, ?_⟩
    · rw [hhandle]
      exact hadds
    · rw [hwithout] at hunsent ⊢
      rw [hhandle, hall, fireAll_append, fireAll_append, Response.append_assoc]
      exact .insert hown hunsent

/-- A profile of a configuration has the region of an entry, which other regions lack, in the state
that the reports of the region have left it in. -/
structure Has (c : Config) (entry : RegionEntry) (p : Custom) (rest : RegionMap PlacedButton)
    (history : List Bool) : Prop where
  yAxisDown : p.yAxisDown = c.layout.yAxisDown
  region : ∃ r, p.Adds rest r ∧ r.shape = entry.shape ∧
    r.action = (place c.pad.hapticMagnitude entry).action ∧ RegionMap.Follows r history

variable {c : Config} {entry : RegionEntry} {history : List Bool}

/-- An event makes the region fire once or not at all. A report leaves it in the state that the
finger is in. -/
theorem Has.handle (h : Has c entry p rest history) (e : Event) (live : Live) : ∃ rest' new,
    ((p.withRegions rest).handle e live).1 = (p.handle e live).1.withRegions rest' ∧
      Has c entry (p.handle e live).1 rest' (history ++ new) ∧
      (p.handle e live).2.Joins entry.target ((p.withRegions rest).handle e live).2
        (entry.fired c.pad.hapticMagnitude new) ∧
      new.length ≤ 1 ∧ (e.isReport = true →
        (history ++ new).getLast?.getD false = entry.touched c.layout.yAxisDown live) := by
  obtain ⟨r, hadds, hshape, haction, hfollows⟩ := h.region
  obtain ⟨rest', hwithout, hadds', hjoins⟩ := hadds.handle e live
  obtain ⟨hshape', haction'⟩ := p.placed_tested e live r
  have hfollows' := follows_tested hfollows p e live
  refine ⟨rest', (p.tested e live r).2.map (·.2), hwithout,
    ⟨(p.yAxisDown_handle hadds.indexed e live).trans h.yAxisDown, _, hadds', hshape'.trans hshape,
      haction'.trans haction, hfollows'⟩, ?_, ?_, fun hreport => ?_⟩
  · rw [haction, p.fireAll_tested haction] at hjoins
    exact hjoins
  · rw [List.length_map]
    exact p.length_tested_le e live r
  · have hfinds : finds p.yAxisDown live r =
        finds p.yAxisDown live (place c.pad.hapticMagnitude entry) := by
      rw [finds, finds, hshape, haction]
      rfl
    rw [← hfollows'.inside, tested, if_pos hreport, ← entry.finds_place c.pad.hapticMagnitude,
      ← h.yAxisDown, ← hfinds]
    rfl

theorem new_withRegions {live : Live} (h : Custom.new c live = .ok p) (entries : List RegionEntry) :
    p.yAxisDown = c.layout.yAxisDown ∧ Custom.new { c with regions := entries } live =
      .ok (p.withRegions ⟨entries.map (place c.pad.hapticMagnitude)⟩) := by
  rw [new] at h ⊢
  cases hr : Remapper.ofRules (c.rules.map (·.rule)) live with
  | error e => rw [hr] at h; cases h
  | ok remapper =>
    rw [hr] at h
    cases h
    exact ⟨rfl, rfl⟩

end Custom

/-! ### The pipeline -/

namespace Pipeline

/-- A run of a custom pipeline beside the run of the same events through a pipeline that lacks the
region of an entry. -/
structure Beside (c : Config) (entry : RegionEntry) (lacking : Pipeline) (es : List Event)
    (q : Pipeline) (out : Response) : Prop where
  live_eq : q.live = Live.after {} es
  runs : ∃ profile rest restOut history, q.profile = .custom profile ∧
    Custom.Has c entry profile rest history ∧
    lacking.run es = .ok (q.withProfile (profile.withRegions rest), restOut) ∧
    out.Joins entry.target restOut (entry.fired c.pad.hapticMagnitude history)

variable {c : Config} {entry : RegionEntry} {lacking q : Pipeline} {es : List Event}
  {out : Response}

theorem Beside.process (h : Beside c entry lacking es q out) (e : Event) : ∃ q' r,
    q.process e = .ok (q', r) ∧ Beside c entry lacking (es ++ [e]) q' (out ++ r) ∧
      (r.events.filter (·.channel = entry.target)).length ≤ 1 ∧
      (e.isReport = true → if entry.touched c.layout.yAxisDown q'.live then
          Event.lastOn entry.target (out ++ r).events = some entry.value
        else ∀ v ∈ Event.lastOn entry.target (out ++ r).events, v = 0) := by
  obtain ⟨profile, rest, restOut, history, hprofile, hhas, hrun, hjoins⟩ := h.runs
  have hlive : q.live.apply e = Live.after {} (es ++ [e]) := by rw [h.live_eq, Live.after_concat]
  cases hadmits : q.filter.admits e with
  | false =>
    have hlacking := run_concat hrun (process_of_not_admits hadmits)
    refine ⟨_, {}, process_of_not_admits hadmits, ⟨hlive, profile, rest, _, history,
      hprofile, hhas, hlacking, ?_⟩, Nat.zero_le 1, fun hreport => ?_⟩
    · rw [Response.append_empty, Response.append_empty]
      exact hjoins
    · rw [Filter.isReport_of_not_admits hadmits] at hreport
      cases hreport
  | true =>
    obtain ⟨rest', new, hwithout, hhas', hnew, hlength, hreport⟩ := hhas.handle e (q.live.apply e)
    have hlacking := run_concat hrun (process_custom rfl hadmits)
    have hall := hjoins.append hnew
    rw [← entry.fired_append] at hall
    refine ⟨_, _, process_custom hprofile hadmits,
      ⟨hlive, _, rest', _, history ++ new, rfl, hhas', ?_, hall⟩, ?_, fun he => ?_⟩
    · rw [← hwithout]
      exact hlacking
    · rw [hnew.on, entry.events_fired, List.length_map]
      exact hlength
    · rw [hall.lastOn]
      exact entry.lastOn_fired_of_state _ (hreport he)

theorem Beside.of_new {p : Pipeline} (hp : Pipeline.new .custom c = .ok p)
    {pre post : List RegionEntry} (hentry : c.regions = pre ++ entry :: post)
    (hsyn : entry.target.kind ≠ .syn) (hrules : ∀ r ∈ c.rules, r.target ≠ entry.target)
    (hregions : ∀ r ∈ pre ++ post, r.target ≠ entry.target) :
    ∃ lacking, Pipeline.new .custom { c with regions := pre ++ post } = .ok lacking ∧
      Beside c entry lacking [] p {} := by
  obtain ⟨_, hmap, rfl⟩ := exists_of_map_eq_ok hp
  obtain ⟨profile, hnew, rfl⟩ := exists_of_map_eq_ok hmap
  obtain ⟨hcurrent, -, hplaced⟩ := Custom.of_new hnew
  obtain ⟨hdown, hwithout⟩ := Custom.new_withRegions hnew (pre ++ post)
  have hrest : Profile.new .custom { c with regions := pre ++ post } {} =
      .ok (.custom (profile.withRegions
        ⟨(pre ++ post).map (Custom.place c.pad.hapticMagnitude)⟩)) := by
    rw [Profile.new, hwithout]
    rfl
  have hadds : profile.Adds ⟨(pre ++ post).map (Custom.place c.pad.hapticMagnitude)⟩
      (Custom.place c.pad.hapticMagnitude entry) := by
    refine ⟨⟨pre.map (Custom.place c.pad.hapticMagnitude),
      post.map (Custom.place c.pad.hapticMagnitude), ?_, List.map_append⟩, hcurrent.indexed, hsyn,
      ?_⟩
    · rw [hplaced, hentry, List.map_append, List.map_cons]
    · rw [Profile.new_outputs hrest, ProfileKind.outputs, List.mem_append, List.mem_map,
        List.mem_map]
      rintro (⟨r, hr, hc⟩ | ⟨r, hr, hc⟩)
      · exact hrules r hr hc
      · exact hregions r hr hc
  refine ⟨_, by rw [Pipeline.new, hrest]; rfl, rfl, profile, _, {}, [], rfl,
    ⟨hdown, _, hadds, rfl, rfl, .nil rfl⟩, rfl, .unsent (List.forall_mem_nil _)⟩

/-- Any custom configuration with a region on whose target no rule and no other region sends, and
any events before a last one; no run meets a fault. If the last event is a report, the last value
on the target tells whether the finger is in the region while the button that the region waits for
is down; positions and buttons count even if the filter withholds them. No event makes the region
send twice. Beside the pipeline without the region, the region adds its events on the target and,
if it has an actuator, as many clicks. -/
theorem button_follows_finger {p : Pipeline} (hp : Pipeline.new .custom c = .ok p)
    {pre post : List RegionEntry} (hentry : c.regions = pre ++ entry :: post)
    (hsyn : entry.target.kind ≠ .syn) (hrules : ∀ r ∈ c.rules, r.target ≠ entry.target)
    (hregions : ∀ r ∈ pre ++ post, r.target ≠ entry.target) (es : List Event) (e : Event) :
    ∃ q out q' r lacking rest restOut, p.run es = .ok (q, out) ∧ q.process e = .ok (q', r) ∧
      q'.live = Live.after {} (es ++ [e]) ∧
      (e.isReport = true →
        if entry.touched c.layout.yAxisDown q'.live then
          Event.lastOn entry.target (out ++ r).events = some entry.value
        else ∀ v ∈ Event.lastOn entry.target (out ++ r).events, v = 0) ∧
      (r.events.filter (·.channel = entry.target)).length ≤ 1 ∧
      Pipeline.new .custom { c with regions := pre ++ post } = .ok lacking ∧
      lacking.run (es ++ [e]) = .ok (rest, restOut) ∧
      (out ++ r).events.filter (·.channel ≠ entry.target) = restOut.events ∧
      (out ++ r).pulses.Perm (restOut.pulses ++ entry.clicks c.pad.hapticMagnitude
        ((out ++ r).events.filter (·.channel = entry.target)).length) := by
  obtain ⟨lacking, hlacking, hstart⟩ := Beside.of_new hp hentry hsyn hrules hregions
  obtain ⟨q, out, hrun, hbeside⟩ := run_invariant hstart es fun _ e _ _ _ _ _ h => by
    obtain ⟨q', r, hprocess, h', -⟩ := h.process e
    exact ⟨q', r, hprocess, h'⟩
  obtain ⟨q', r, hprocess, hbeside', honce, hlast⟩ := hbeside.process e
  obtain ⟨profile, rest, restOut, history, -, -, hrest, hjoins⟩ := hbeside'.runs
  refine ⟨q, out, q', r, lacking, _, restOut, hrun, hprocess, hbeside'.live_eq, hlast, honce,
    hlacking, hrest, hjoins.off, ?_⟩
  rw [hjoins.on, entry.events_fired, List.length_map, ← entry.pulses_fired]
  exact hjoins.pulses

/-- The filter withholds the button that the region waits for and the position, which is in the
region as the axis points down. Another region, which waits for no button, clicks alike. -/
theorem button_follows_finger_of_hidden_touch :
    let thumb : Channel := .key Code.btnThumb
    let entry : RegionEntry :=
      { x := .abs 3, y := .abs 4, whileHeld := some thumb,
        shape := .rect (some 0.0) (some 9.0) (some (-9.0)) (some 0.0), target := .key 45,
        value := 7, haptic := some .left }
    let other : RegionEntry := { entry with whileHeld := none, target := .key 46 }
    let c : Config :=
      { filter := some { rules := [.channel (.key 1)] }, regions := [other, entry] }
    let es : List Event := [⟨.abs 3, 5⟩, ⟨.abs 4, 5⟩, .report, ⟨thumb, -1⟩]
    ∃ p q out q' r, Pipeline.new .custom c = .ok p ∧ p.run es = .ok (q, out) ∧
      q.process .report = .ok (q', r) ∧ entry.touched true q'.live = true ∧
      Event.lastOn entry.target (out ++ r).events = some 7 := by
  intro thumb entry other c es
  have hp : Pipeline.new .custom c = .ok _ := rfl
  have hentry : c.regions = [other] ++ entry :: [] := rfl
  obtain ⟨q, out, q', r, lacking, rest, restOut, hrun, hprocess, hlive, hlast, -, -⟩ :=
    button_follows_finger hp hentry (by decide) (fun _ h => nomatch h) (by decide) es .report
  have htouched : entry.touched true q'.live = true := by
    rw [hlive]
    decide +kernel
  have hvalue := hlast rfl
  rw [if_pos htouched] at hvalue
  exact ⟨_, q, out, q', r, hp, hrun, hprocess, htouched, hvalue⟩

end Pipeline

end ControllerRemap
