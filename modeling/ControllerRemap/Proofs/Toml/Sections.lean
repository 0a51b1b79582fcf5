import ControllerRemap.Proofs.Toml.Arrangement
import Mathlib

/-! The sections of a printed table, and the statements that reading finds in them. -/

namespace ControllerRemap.Toml

/-! ### Printable tables -/

/-- A table with tables nested in it at most `depth` deep, each with bare keys and a line of its
own. -/
inductive Printable : Nat → Table → Prop
  | intro {depth : Nat} {t : Table} (nodup : (keys t).Nodup)
      (bare : ∀ k ∈ keys t, isBareKey k = true) (ne_nil : linesOf t ≠ [])
      (inline : ∀ line ∈ linesOf t, line.2.IsInline)
      (tables : ∀ k s, (k, .table s) ∈ t → Printable depth s)
      (items : ∀ k form (ts : List Table), (k, .array form (ts.map .table)) ∈ t →
        ∀ s ∈ ts, Printable depth s) :
      Printable (depth + 1) t

theorem Printable.nodup {depth : Nat} {t : Table} (h : Printable depth t) : (keys t).Nodup := by
  cases h with
  | intro nodup => exact nodup

theorem Printable.ne_nil {depth : Nat} {t : Table} (h : Printable depth t) : linesOf t ≠ [] := by
  cases h with
  | intro _ _ ne_nil => exact ne_nil

theorem Printable.isLine {depth : Nat} {t : Table} (h : Printable depth t) :
    ∀ line ∈ linesOf t, IsLine line := by
  cases h with
  | intro _ bare _ inline =>
    intro line hline
    exact ⟨bare _ (mem_keys (List.mem_filter.mp hline).1), inline line hline⟩

theorem headed_of_ne_nil {t : Table} (h : linesOf t ≠ []) : headed t = true := by
  obtain ⟨line, hline⟩ := List.exists_mem_of_ne_nil _ h
  rw [headed, Bool.or_eq_true, List.any_eq_true]
  exact .inr ⟨line, List.mem_filter.mp hline⟩

/-- The entries with sections of their own. -/
def sectionEntries (t : Table) : Table := t.filter (·.2.hasSection)

theorem hasSection_cases {v : Value} (h : v.hasSection = true) :
    (∃ t, v = .table t) ∨
      ∃ form, ∃ (t : Table) (ts : List Table), v = .array form ((t :: ts).map .table) := by
  match v, h with
  | .table t, _ => exact .inl ⟨t, rfl⟩
  | .array form (v :: vs), h =>
    have htables : ∀ w ∈ v :: vs, ∃ t, Value.table t = w := by
      intro w hw
      have hw := List.all_eq_true.mp h w hw
      cases w with
      | table t => exact ⟨t, rfl⟩
      | _ => cases hw
    obtain ⟨ts, hts⟩ : v :: vs ∈ Set.range (List.map Value.table) := by
      rw [Set.range_list_map]
      exact htables
    match ts, hts with
    | t :: ts, hts => exact .inr ⟨form, t, ts, by rw [hts]⟩

/-! ### Values of printable tables -/

/-- A value that stands within a line, or consists of printable tables. -/
def Value.Fits (depth : Nat) : Value → Prop
  | .table t => Printable depth t
  | .array form items => (Value.array form items).IsInline ∨
    ∃ t, ∃ ts : List Table, items = (t :: ts).map .table ∧ ∀ s ∈ t :: ts, Printable depth s
  | v => v.IsInline

theorem isInline_of_fits {v : Value} {depth : Nat} (h : v.Fits depth) (hv : v.hasSection = false) :
    v.IsInline := by
  cases v with
  | array form items =>
    rcases h with h | ⟨t, ts, rfl, -⟩
    · exact h
    · simp [Value.hasSection, Value.isTable] at hv
  | table => cases hv
  | _ => exact h

theorem Printable.of_fits {depth : Nat} {t : Table} (nodup : (keys t).Nodup)
    (bare : ∀ k ∈ keys t, isBareKey k = true) (hline : t.any (!·.2.hasSection) = true)
    (h : ∀ e ∈ t, e.2.Fits depth) : Printable (depth + 1) t := by
  refine .intro nodup bare ?_ ?_ (fun k s hs => h _ hs) ?_
  · obtain ⟨e, he, hline⟩ := List.any_eq_true.mp hline
    exact List.ne_nil_of_mem (List.mem_filter.mpr ⟨he, hline⟩)
  · intro line hmem
    obtain ⟨hmem, hline⟩ := List.mem_filter.mp hmem
    exact isInline_of_fits (h line hmem) (by simpa using hline)
  · intro k form ts hts s hs
    rcases h _ hts with ⟨-, hscalar⟩ | ⟨u, us, heq, hprint⟩
    · cases hscalar _ (List.mem_map_of_mem hs)
    · have hmap : Function.Injective (List.map Value.table) :=
        List.map_injective_iff.mpr fun _ _ => Value.table.inj
      exact hprint s (hmap heq ▸ hs)

/-! ### The sections of a table -/

theorem entrySections_eq (path : List String) (t : Table) :
    entrySections path t = (sectionEntries t).flatMap fun e => e.2.sections (path ++ [e.1]) := by
  induction t with
  | nil => rfl
  | cons e t ih =>
    obtain ⟨k, v⟩ := e
    rw [entrySections, ih]
    by_cases h : v.hasSection = true
    · simp only [sectionEntries, List.filter_cons, h, if_true, List.flatMap_cons]
    · simp only [sectionEntries, List.filter_cons, h]
      rfl

theorem itemSections_eq (path : List String) (ts : List Table) :
    itemSections path (ts.map .table) =
      ts.flatMap fun t => ⟨.item path, linesOf t⟩ :: entrySections path t := by
  induction ts with
  | nil => rfl
  | cons t ts ih => rw [List.map_cons, itemSections, ih, List.flatMap_cons]

theorem sections_table {depth : Nat} {t : Table} (h : Printable depth t) (path : List String) :
    (Value.table t).sections path = ⟨.table path, linesOf t⟩ :: entrySections path t := by
  rw [Value.sections, headed_of_ne_nil h.ne_nil]
  rfl

theorem sections_array (form : ArrayForm) (path : List String) (ts : List Table) :
    (Value.array form (ts.map .table)).sections path =
      ts.flatMap fun t => ⟨.item path, linesOf t⟩ :: entrySections path t := by
  rw [Value.sections, itemSections_eq]

/-- Every section has a heading of its own that can be read back. -/
theorem Printable.readable {depth : Nat} {t : Table} (h : Printable depth t) (path : List String)
    (hbare : ∀ k ∈ path, isBareKey k = true) (hshort : path.length + depth < nestingLimit) :
    ∀ s ∈ entrySections path t, s.heading ≠ .none ∧ s.Readable := by
  -- a table inside has a longer path and less depth below it; their sum stays below the limit
  induction h generalizing path with
  | @intro depth t nodup bare ne_nil inline tables items ihtables ihitems =>
    intro s hs
    rw [entrySections_eq] at hs
    obtain ⟨⟨k, v⟩, he, hs⟩ := List.mem_flatMap.mp hs
    obtain ⟨he, hv⟩ := List.mem_filter.mp he
    have hinner : ∀ l ∈ path ++ [k], isBareKey l = true := by
      intro l hl
      rcases List.mem_append.mp hl with hl | hl
      · exact hbare l hl
      · rw [List.mem_singleton.mp hl]
        exact bare k (mem_keys he)
    have hlength : (path ++ [k]).length + depth < nestingLimit := by
      rw [List.length_append, List.length_singleton]
      omega
    have hpath : IsPath (path ++ [k]) := ⟨by simp, hinner, by omega⟩
    rcases hasSection_cases hv with ⟨s', rfl⟩ | ⟨form, s', ts, rfl⟩
    · have hs' := tables k s' he
      rw [sections_table hs'] at hs
      rcases List.mem_cons.mp hs with rfl | hs
      · exact ⟨by simp, fun _ => hpath, hs'.isLine, by simp⟩
      · exact ihtables k s' he _ hinner hlength s hs
    · rw [sections_array] at hs
      obtain ⟨s', hmem, hs⟩ := List.mem_flatMap.mp hs
      have hs' := items k form _ he s' hmem
      rcases List.mem_cons.mp hs with rfl | hs
      · exact ⟨by simp, fun _ => hpath, hs'.isLine, by simp⟩
      · exact ihitems k form _ he s' hmem _ hinner hlength s hs

/-! ### Sections below a table -/

def Heading.under (k : String) : Heading → Heading
  | .none => .none
  | .table path => .table (k :: path)
  | .item path => .item (k :: path)

/-- A section in a document that has the whole table under a name. -/
def Section.under (k : String) (s : Section) : Section := ⟨s.heading.under k, s.lines⟩

mutual

theorem Value.sections_cons (k : String) (path : List String) :
    (v : Value) → v.sections (k :: path) = (v.sections path).map (Section.under k)
  | .table t => by
    rw [Value.sections, Value.sections, entrySections_cons k path t, List.map_append]
    cases headed t <;> rfl
  | .array _ items => by rw [Value.sections, Value.sections, itemSections_cons k path items]
  | .string _ => rfl
  | .integer _ => rfl
  | .float _ => rfl
  | .boolean _ => rfl
  | .datetime _ => rfl

theorem itemSections_cons (k : String) (path : List String) :
    (vs : List Value) → itemSections (k :: path) vs = (itemSections path vs).map (Section.under k)
  | [] => rfl
  | .table t :: vs => by
    rw [itemSections, itemSections, entrySections_cons k path t, itemSections_cons k path vs,
      List.map_append, List.map_cons]
    rfl
  | .array _ _ :: vs => itemSections_cons k path vs
  | .string _ :: vs => itemSections_cons k path vs
  | .integer _ :: vs => itemSections_cons k path vs
  | .float _ :: vs => itemSections_cons k path vs
  | .boolean _ :: vs => itemSections_cons k path vs
  | .datetime _ :: vs => itemSections_cons k path vs

theorem entrySections_cons (k : String) (path : List String) :
    (t : List (String × Value)) →
      entrySections (k :: path) t = (entrySections path t).map (Section.under k)
  | [] => rfl
  | (l, v) :: t => by
    rw [entrySections, entrySections, entrySections_cons k path t, List.map_append, List.cons_append,
      Value.sections_cons k (path ++ [l]) v]
    cases v.hasSection <;> rfl

end

def Statement.under (k : String) : Statement → Statement
  | .entry key v => .entry key v
  | .header key => .header ⟨k :: key.parents, key.name⟩
  | .itemHeader key => .itemHeader ⟨k :: key.parents, key.name⟩

theorem keyOf_cons (k : String) {path : List String} (h : path ≠ []) :
    keyOf (k :: path) = ⟨k :: (keyOf path).parents, (keyOf path).name⟩ := by
  rw [keyOf, List.dropLast_cons_of_ne_nil h, List.getLast?_cons_of_ne_nil h]
  rfl

theorem statements_under (k : String) {s : Section} (hne : s.heading ≠ .none) (h : s.Readable) :
    (s.under k).statements = s.statements.map (Statement.under k) := by
  have hpath := (h.path hne).ne_nil
  obtain ⟨heading, lines⟩ := s
  have hlines : (lines.map lineStatement).map (Statement.under k) = lines.map lineStatement := by
    rw [List.map_map]
    rfl
  rw [Section.statements, Section.statements, List.map_append, hlines]
  refine congrArg (· ++ _) ?_
  cases heading with
  | none => rfl
  | table path => exact congrArg (fun key => [Statement.header key]) (keyOf_cons k hpath)
  | item path => exact congrArg (fun key => [Statement.itemHeader key]) (keyOf_cons k hpath)

/-- The statements of a table, without a heading above them. -/
def bodyStatements (t : Table) : List Statement :=
  (linesOf t).map lineStatement ++ (entrySections [] t).flatMap Section.statements

theorem statements_headed {depth : Nat} {t : Table} (h : Printable depth t)
    (hdepth : depth < nestingLimit) (heading : Heading) (k : String) :
    (Section.mk heading (linesOf t) :: entrySections [k] t).flatMap Section.statements =
      heading.statements ++ (bodyStatements t).map (Statement.under k) := by
  have hsections : (entrySections [k] t).flatMap Section.statements =
      ((entrySections [] t).flatMap Section.statements).map (Statement.under k) := by
    rw [entrySections_cons, List.flatMap_map, List.map_flatMap]
    refine List.flatMap_congr fun s hs => ?_
    obtain ⟨hne, hs⟩ := h.readable [] (by simp) (by simpa using hdepth) s hs
    exact statements_under k hne hs
  rw [List.flatMap_cons, Section.statements, List.append_assoc, bodyStatements, List.map_append,
    hsections, List.map_map]
  rfl

end ControllerRemap.Toml
