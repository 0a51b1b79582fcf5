import Mathlib

/-! Lists of named entries. -/

namespace ControllerRemap

/-- The names of the entries, in their order. -/
def keys {α : Type} (t : List (String × α)) : List String := t.map (·.1)

variable {α : Type} {t : List (String × α)} {k : String}

theorem mem_keys {e : String × α} (h : e ∈ t) : e.1 ∈ keys t := List.mem_map_of_mem h

theorem lookup_eq_none (h : k ∉ keys t) : t.lookup k = none := by
  rw [List.lookup_eq_none_iff]
  intro e he
  rw [bne_iff_ne]
  rintro rfl
  exact h (mem_keys he)

/-- With distinct names, an entry is found under its name. -/
theorem lookup_eq_some_iff (h : (keys t).Nodup) {v : α} : t.lookup k = some v ↔ (k, v) ∈ t := by
  induction t with
  | nil => simp
  | cons e t ih =>
    obtain ⟨l, w⟩ := e
    obtain ⟨hl, ht⟩ := List.nodup_cons.mp h
    rw [List.lookup_cons, List.mem_cons, Prod.mk.injEq]
    by_cases hkl : k = l
    · subst hkl
      have hnot : (k, v) ∉ t := by
        intro hmem
        have hk : k ∈ keys t := mem_keys (e := (k, v)) hmem
        exact hl hk
      simp [hnot, eq_comm]
    · have hbeq : (k == l) = false := beq_eq_false_iff_ne.mpr hkl
      simp only [hbeq, hkl, false_and, false_or]
      exact ih ht

theorem lookup_filter_ne {key : String} (h : k ≠ key) :
    (t.filter (·.1 != key)).lookup k = t.lookup k := by
  induction t with
  | nil => rfl
  | cons e t ih =>
    obtain ⟨l, v⟩ := e
    by_cases hl : l = key
    · have hk : (k == l) = false := beq_eq_false_iff_ne.mpr (hl ▸ h)
      rw [List.filter_cons_of_neg (by simp [hl]), ih, List.lookup_cons, hk]
    · rw [List.filter_cons_of_pos (by simpa using hl), List.lookup_cons, List.lookup_cons, ih]

end ControllerRemap
