import ControllerRemap.Proofs.Association
import ControllerRemap.Proofs.Toml.Statement
import Mathlib

/-! The order in which a document gives the entries of a table back. The entries that are lines come
first and the sections after them, and the tables of an array stand under a header. -/

namespace ControllerRemap.Toml

/-! ### Arrangement -/

mutual

/-- A value as it is after writing and reading. -/
def Value.arranged : Value → Value
  | .array form items =>
    .array (if (Value.array form items).hasSection then .headed else form) (arrangedItems items)
  | .table t => .table (arrangedEntries false t ++ arrangedEntries true t)
  | v => v

def arrangedItems : List Value → List Value
  | [] => []
  | v :: vs => v.arranged :: arrangedItems vs

/-- The entries that are sections, or those that are not. -/
def arrangedEntries (sections : Bool) : List (String × Value) → Table
  | [] => []
  | (k, v) :: rest =>
    if v.hasSection = sections then (k, v.arranged) :: arrangedEntries sections rest
    else arrangedEntries sections rest

end

/-- A table as it is after writing and reading. -/
def arrangedTable (t : Table) : Table := arrangedEntries false t ++ arrangedEntries true t

theorem arrangedItems_eq_map (vs : List Value) : arrangedItems vs = vs.map Value.arranged := by
  induction vs with
  | nil => rfl
  | cons v vs ih => rw [arrangedItems, ih, List.map_cons]

theorem arrangedEntries_eq (sections : Bool) (t : Table) : arrangedEntries sections t =
    (t.filter fun e => e.2.hasSection == sections).map fun e => (e.1, e.2.arranged) := by
  induction t with
  | nil => rfl
  | cons e t ih =>
    obtain ⟨k, v⟩ := e
    rw [arrangedEntries, ih]
    by_cases h : v.hasSection = sections <;> simp [h]

theorem arranged_of_isScalar {v : Value} (h : v.IsScalar) : v.arranged = v := by
  cases v with
  | array => cases h
  | table => cases h
  | string => rfl
  | integer => rfl
  | float => rfl
  | boolean => rfl
  | datetime => rfl

theorem arranged_of_isInline {v : Value} (h : v.IsInline) : v.arranged = v := by
  cases v with
  | array form items =>
    obtain ⟨rfl, hitems⟩ := h
    have hsection : (Value.array .bracketed items).hasSection = false := by
      cases items with
      | nil => rfl
      | cons v vs =>
        have hv := hitems v List.mem_cons_self
        cases v with
        | table => cases hv
        | _ => rfl
    have hmap : items.map Value.arranged = items :=
      (List.map_congr_left fun v hv => arranged_of_isScalar (hitems v hv)).trans (List.map_id items)
    rw [Value.arranged, hsection, arrangedItems_eq_map, hmap]
    rfl
  | table => cases h
  | _ => rfl

/-! ### Lookup -/

theorem arrangedTable_perm (t : Table) : (arrangedTable t).Perm (t.map fun e => (e.1, e.2.arranged)) := by
  rw [arrangedTable, arrangedEntries_eq, arrangedEntries_eq, ← List.map_append]
  refine List.Perm.map _ ?_
  have hcongr : (t.filter fun e => e.2.hasSection == true) = t.filter fun e => !(e.2.hasSection == false) :=
    List.filter_congr fun e _ => by cases e.2.hasSection <;> rfl
  rw [hcongr]
  exact List.filter_append_perm _ t

theorem nodup_keys_arrangedTable {t : Table} (h : (keys t).Nodup) : (keys (arrangedTable t)).Nodup := by
  have hkeys : (keys (arrangedTable t)).Perm (keys t) := by
    simpa [keys, Function.comp_def] using (arrangedTable_perm t).map (·.1)
  exact hkeys.nodup_iff.mpr h

theorem lookup_arrangedTable {t : Table} (h : (keys t).Nodup) (k : String) :
    (arrangedTable t).lookup k = (t.lookup k).map Value.arranged := by
  ext w
  rw [lookup_eq_some_iff (nodup_keys_arrangedTable h), (arrangedTable_perm t).mem_iff, List.mem_map,
    Option.map_eq_some_iff]
  constructor
  · rintro ⟨⟨l, v⟩, hv, ⟨⟩⟩
    exact ⟨v, (lookup_eq_some_iff h).mpr hv, rfl⟩
  · rintro ⟨v, hv, rfl⟩
    exact ⟨(k, v), (lookup_eq_some_iff h).mp hv, rfl⟩

end ControllerRemap.Toml
