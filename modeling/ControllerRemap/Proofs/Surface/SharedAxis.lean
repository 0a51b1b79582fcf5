import ControllerRemap.Event.Code
import ControllerRemap.Proofs.Surface.Sweep

/-! Two slices of a pad that share an axis. Each sends its value when it is entered and zero
when it is left, and the slice tested second sends last. The axis therefore follows the
slices, except that a slice that is left after the opposite one was entered, or one that is
left while the other stays, resets an axis that should be held. -/

namespace ControllerRemap

/-! ### The last change -/

section LastChange

variable {α : Type} [DecidableEq α]

/-- The last two neighbours in a list that differ. -/
def lastChange : List α → Option (α × α)
  | [] => none
  | [_] => none
  | a :: b :: rest => (lastChange (b :: rest)).or (if a = b then none else some (a, b))

theorem lastChange_concat (past : List α) (a b : α) :
    lastChange (past ++ [a, b]) = if a = b then lastChange (past ++ [a]) else some (a, b) := by
  induction past with
  | nil => rfl
  | cons c past ih =>
    cases past with
    | nil => by_cases h : a = b <;> simp [lastChange, h]
    | cons d past =>
      simp only [List.cons_append] at ih
      simp only [List.cons_append, lastChange, ih]
      by_cases h : a = b <;> simp [h]

theorem lastChange_ne {l : List α} {a b : α} (h : lastChange l = some (a, b)) : a ≠ b := by
  induction l with
  | nil => cases h
  | cons c l ih =>
    cases l with
    | nil => cases h
    | cons d l =>
      rw [lastChange] at h
      rcases Option.or_eq_some_iff.1 h with hlater | ⟨-, hfirst⟩
      · exact ih hlater
      · split at hfirst
        · cases hfirst
        · next hcd => cases hfirst; exact hcd

/-- A list ends in what it last changed to, or as it starts. -/
theorem getLast?_eq_lastChange (l : List α) :
    l.getLast? = ((lastChange l).map (·.2)).or l.head? := by
  induction l with
  | nil => rfl
  | cons a l ih =>
    cases l with
    | nil => rfl
    | cons b l =>
      rw [List.getLast?_cons_cons, ih, lastChange]
      cases lastChange (b :: l) with
      | some change => rfl
      | none => by_cases h : a = b <;> simp [h]

end LastChange

/-! ### The axis -/

/-- The slices of a four-way pad, in the order in which they are tested. -/
inductive Slice where
  | right
  | up
  | left
  | down
  deriving DecidableEq

/-- An axis of a hat. -/
inductive HatAxis where
  | x
  | y
  deriving DecidableEq

namespace Slice

def position : Slice → Nat
  | right => 0
  | up => 1
  | left => 2
  | down => 3

def axis : Slice → HatAxis
  | right => .x
  | up => .y
  | left => .x
  | down => .y

/-- What a slice sends on being entered. -/
def value : Slice → Int32
  | right => 1
  | up => -1
  | left => -1
  | down => 1

/-- What a slice sends when its state changes, if it does. -/
def send (s : Slice) (old new : Bool) : Option Int32 :=
  if new ≠ old then some (if new then s.value else 0) else none

theorem value_ne_zero (s : Slice) : s.value ≠ 0 := by cases s <;> decide

theorem send_of_ne (s : Slice) {old new : Bool} (h : new ≠ old) :
    s.send old new = some (if new then s.value else 0) := if_pos h

@[simp] theorem send_self (s : Slice) (state : Bool) : s.send state state = none :=
  if_neg fun h => h rfl

end Slice

namespace HatAxis

def channel : HatAxis → Channel
  | x => .abs Code.absHat0X
  | y => .abs Code.absHat0Y

/-- The slice of the axis that is tested first. -/
def first : HatAxis → Slice
  | x => .right
  | y => .up

/-- The slice of the axis that is tested second. -/
def second : HatAxis → Slice
  | x => .left
  | y => .down

/-- What the axis should read while its slices are held or not. Two slices at once would
contradict each other and ask for nothing. -/
def Reads (axis : HatAxis) (v : Int32) : Bool × Bool → Prop
  | (true, false) => v = axis.first.value
  | (false, true) => v = axis.second.value
  | (false, false) => v = 0
  | (true, true) => True

/-- The last value that the two slices send when they change. -/
def turn (axis : HatAxis) (old new : Bool × Bool) : Option Int32 :=
  (axis.second.send old.2 new.2).or (axis.first.send old.1 new.1)

/-- The last value that was sent while the slices went through a list of states. -/
def sent (axis : HatAxis) (sides : List (Bool × Bool)) : Option Int32 :=
  (lastChange sides).bind fun change => axis.turn change.1 change.2

section Turn

variable (axis : HatAxis) {old new : Bool × Bool}

theorem turn_self (sides : Bool × Bool) : axis.turn sides sides = none := by
  simp [turn]

/-- A change of the slice that is tested second is sent last. -/
theorem turn_of_second_ne (h : new.2 ≠ old.2) :
    axis.turn old new = some (if new.2 then axis.second.value else 0) := by
  rw [turn, Slice.send_of_ne _ h, Option.some_or]

theorem turn_of_second_eq (hsecond : new.2 = old.2) (h : old ≠ new) :
    axis.turn old new = some (if new.1 then axis.first.value else 0) := by
  have hfirst : new.1 ≠ old.1 := fun hfirst => h (Prod.ext hfirst.symm hsecond.symm)
  rw [turn, hsecond, Slice.send_self, Option.none_or, Slice.send_of_ne _ hfirst]

theorem exists_turn_eq (h : old ≠ new) : ∃ v, axis.turn old new = some v := by
  by_cases hsecond : new.2 = old.2
  · exact ⟨_, axis.turn_of_second_eq hsecond h⟩
  · exact ⟨_, axis.turn_of_second_ne hsecond⟩

/-- If the slice tested second was held and one of the two is held now, the other one was let
go, and its release is sent last. -/
theorem turn_of_overtaken (h : old ≠ new) (ho : old.2 = true ∧ new.1 ≠ new.2) :
    axis.turn old new = some 0 := by
  obtain ⟨hold, hone⟩ := ho
  by_cases hsecond : new.2 = old.2
  · have hfirst : new.1 = false := by simpa [hsecond, hold] using hone
    rw [axis.turn_of_second_eq hsecond h, hfirst]
    rfl
  · have hnew : new.2 = false := by simpa [hold] using hsecond
    rw [axis.turn_of_second_ne hsecond, hnew]
    rfl

/-- After a change the axis is wrong exactly if a release was sent last while the opposite
slice is held. -/
theorem reads_turn_iff (h : old ≠ new) :
    axis.Reads ((axis.turn old new).getD 0) new ↔ ¬ (old.2 = true ∧ new.1 ≠ new.2) := by
  obtain ⟨first, second⟩ := new
  constructor
  · intro hreads ho
    rw [axis.turn_of_overtaken h ho] at hreads
    cases first <;> cases second
    · exact ho.2 rfl
    · exact axis.second.value_ne_zero hreads.symm
    · exact axis.first.value_ne_zero hreads.symm
    · exact ho.2 rfl
  · intro hn
    have hold (hone : first ≠ second) : old.2 = false := by
      cases hold : old.2 with
      | false => rfl
      | true => exact absurd ⟨hold, hone⟩ hn
    cases first <;> cases second
    · by_cases hsecond : false = old.2
      · rw [axis.turn_of_second_eq hsecond h]
        rfl
      · rw [axis.turn_of_second_ne hsecond]
        rfl
    · have hsecond : true ≠ old.2 := by simp [hold]
      rw [axis.turn_of_second_ne hsecond]
      rfl
    · have hsecond : false = old.2 := by simp [hold]
      rw [axis.turn_of_second_eq hsecond h]
      rfl
    · trivial

end Turn

theorem sent_concat (axis : HatAxis) (past : List (Bool × Bool)) (old new : Bool × Bool) :
    axis.sent (past ++ [old, new]) = (axis.turn old new).or (axis.sent (past ++ [old])) := by
  rw [sent, lastChange_concat]
  by_cases h : old = new
  · subst h
    rw [if_pos rfl, turn_self, Option.none_or, sent]
  · obtain ⟨v, hv⟩ := axis.exists_turn_eq h
    rw [if_neg h, Option.bind_some, hv, Option.some_or]

/-- The last change let go of a slice while the opposite one is held, and the slice that is
tested second was held before. -/
def Overtaken (sides : List (Bool × Bool)) : Prop :=
  ∃ old new, lastChange sides = some (old, new) ∧ old.2 = true ∧ new.1 ≠ new.2

/-- An axis whose slices start out untouched reads what it should unless it was overtaken. -/
theorem reads_sent_iff (axis : HatAxis) {sides : List (Bool × Bool)} {now : Bool × Bool}
    (hstart : sides.head? = some (false, false)) (hend : sides.getLast? = some now) :
    axis.Reads ((axis.sent sides).getD 0) now ↔ ¬ Overtaken sides := by
  rw [getLast?_eq_lastChange, hstart] at hend
  rw [sent, Overtaken]
  cases h : lastChange sides with
  | none =>
    rw [h] at hend
    cases hend
    simp [Reads]
  | some change =>
    rw [h] at hend
    cases hend
    have hturn := axis.reads_turn_iff (lastChange_ne h)
    rw [Option.bind_some, hturn]
    constructor
    · rintro hn ⟨old, new, hc, ho⟩
      cases hc
      exact hn ho
    · intro hn ho
      exact hn ⟨change.1, change.2, rfl, ho⟩

theorem sent_of_overtaken (axis : HatAxis) {sides : List (Bool × Bool)} (h : Overtaken sides) :
    axis.sent sides = some 0 := by
  obtain ⟨old, new, hchange, ho⟩ := h
  rw [sent, hchange, Option.bind_some]
  exact axis.turn_of_overtaken (lastChange_ne hchange) ho

/-- The states of the two slices of an axis, in the order in which they are tested. -/
def sides (axis : HatAxis) (m : RegionMap TouchButton) : Bool × Bool :=
  (m.states.getD axis.first.position false, m.states.getD axis.second.position false)

end HatAxis

namespace RegionMap

/-- The regions of a map are the four slices of a hat. -/
def IsHat (m : RegionMap TouchButton) : Prop :=
  m.actions.map (fun b => (b.target, b.value)) =
    [Slice.right, .up, .left, .down].map fun s => (s.axis.channel, s.value)

theorem IsHat.sweep {m : RegionMap TouchButton} (h : m.IsHat) (now : Region TouchButton → Bool) :
    (m.sweep now).1.IsHat := by
  rw [IsHat, sweep_actions]
  exact h

theorem IsHat.exists_regions {m : RegionMap TouchButton} (h : m.IsHat) : ∃ right up left down,
    m = ⟨[right, up, left, down]⟩ ∧
    (right.action.target = .abs Code.absHat0X ∧ right.action.value = 1) ∧
    (up.action.target = .abs Code.absHat0Y ∧ up.action.value = -1) ∧
    (left.action.target = .abs Code.absHat0X ∧ left.action.value = -1) ∧
    (down.action.target = .abs Code.absHat0Y ∧ down.action.value = 1) := by
  obtain ⟨regions⟩ := m
  rw [IsHat, actions, List.map_map] at h
  obtain ⟨right, rest, rfl, hright, h⟩ := List.map_eq_cons_iff.1 h
  obtain ⟨up, rest, rfl, hup, h⟩ := List.map_eq_cons_iff.1 h
  obtain ⟨left, rest, rfl, hleft, h⟩ := List.map_eq_cons_iff.1 h
  obtain ⟨down, rest, rfl, hdown, h⟩ := List.map_eq_cons_iff.1 h
  obtain rfl := List.map_eq_nil_iff.1 h
  exact ⟨right, up, left, down, rfl, Prod.ext_iff.1 hright, Prod.ext_iff.1 hup,
    Prod.ext_iff.1 hleft, Prod.ext_iff.1 hdown⟩

/-- A sweep over the slices sends on each axis what the change of its two sides asks for. -/
theorem IsHat.lastOn_sweep {m : RegionMap TouchButton} (h : m.IsHat)
    (now : Region TouchButton → Bool) (axis : HatAxis) :
    Event.lastOn axis.channel (TouchButton.fireAll (m.sweep now).2).events =
      axis.turn (axis.sides m) (axis.sides (m.sweep now).1) := by
  obtain ⟨right, up, left, down, rfl, ⟨hr, hr'⟩, ⟨hu, hu'⟩, ⟨hl, hl'⟩, ⟨hd, hd'⟩⟩ :=
    h.exists_regions
  have hne : Channel.abs Code.absHat0X ≠ .abs Code.absHat0Y := by decide
  have hnil (c : Channel) :
      Event.lastOn c (TouchButton.fireAll (RegionMap.sweep now ⟨[]⟩).2).events = none := rfl
  rw [HatAxis.sides, HatAxis.sides, states_sweep]
  simp only [TouchButton.lastOn_sweep_cons, hnil, hr, hr', hu, hu', hl, hl', hd, hd']
  cases axis with
  | x =>
    simp only [HatAxis.channel, hne.symm, and_true, and_false, if_false, Option.none_or,
      Option.or_none]
    rfl
  | y =>
    simp only [HatAxis.channel, hne, and_true, and_false, if_false, Option.none_or,
      Option.or_none]
    rfl

end RegionMap

end ControllerRemap
