import ControllerRemap.Event.Basic

/-! Finite maps keyed by channels. `put` replaces the value of its channel and leaves
the others alone, as `get?_put` says. -/

namespace ControllerRemap

structure ByChannel (α : Type) where
  entries : List (Channel × α) := []

namespace ByChannel

variable {α : Type}

def get? (m : ByChannel α) (c : Channel) : Option α := m.entries.lookup c

def put (m : ByChannel α) (c : Channel) (a : α) : ByChannel α :=
  ⟨(c, a) :: m.entries.filter (·.1 != c)⟩

@[simp] theorem get?_empty (c : Channel) : get? ({} : ByChannel α) c = none := rfl

theorem lookup_filter_ne (es : List (Channel × α)) {c d : Channel} (h : d ≠ c) :
    (es.filter (·.1 != c)).lookup d = es.lookup d := by
  induction es with
  | nil => rfl
  | cons e es ih =>
    obtain ⟨k, v⟩ := e
    by_cases hk : k = c
    · subst hk
      have hd : (d == k) = false := by simpa using h
      simp [List.lookup_cons, hd, ih]
    · simp [hk, List.lookup_cons, ih]

theorem get?_put (m : ByChannel α) (c d : Channel) (a : α) :
    (m.put c a).get? d = if d = c then some a else m.get? d := by
  by_cases h : d = c
  · subst h; simp [get?, put]
  · have hd : (d == c) = false := by simpa using h
    simp [get?, put, List.lookup_cons, hd, h, lookup_filter_ne]

end ByChannel

end ControllerRemap
