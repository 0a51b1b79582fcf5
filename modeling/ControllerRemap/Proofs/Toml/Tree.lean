import ControllerRemap.Proofs.Toml.Sections
import Mathlib

/-! Reading a whole document back. A printable table comes back with its entries in the order in which
a document can hold them. A section changes only the branch that the last heading opened, so what holds
of a table at the top holds of it at the end of any path. -/

namespace ControllerRemap.Toml

/-! ### A draft inside a larger one -/

/-- Nodes that headers below them extend. -/
inductive Grows : (Branch → Node) → Prop
  | table : Grows (.table .stated)
  | array (earlier : List Value) : Grows (.array earlier)

/-- A draft as the last entry of a branch. -/
def Draft.within (before : Branch) (k : String) (wrap : Branch → Node) (d : Draft) : Draft :=
  ⟨k :: d.header, before ++ [(k, wrap d.branch)]⟩

section

variable {before : Branch} {k : String} (hk : k ∉ keys before)
include hk

theorem lookup_last (n : Node) : (before ++ [(k, n)]).lookup k = some n := by
  rw [List.lookup_append, lookup_eq_none hk]
  simp

theorem replace_last (n n' : Node) :
    Branch.replace (before ++ [(k, n)]) k n' = before ++ [(k, n')] := by
  have happend : Branch.replace (before ++ [(k, n)]) k n' =
      Branch.replace before k n' ++ Branch.replace [(k, n)] k n' := List.map_append
  have hbefore : Branch.replace before k n' = before := by
    refine (List.map_congr_left fun e he => ?_).trans (List.map_id before)
    have hne : e.1 ≠ k := by
      rintro rfl
      exact hk (mem_keys he)
    simp [hne]
  rw [happend, hbefore]
  simp [Branch.replace]

variable {wrap : Branch → Node} (hwrap : Grows wrap)
include hwrap

theorem enter_last (change : Origin → Branch → Option Branch) (path : List String) (origin : Origin)
    (b : Branch) : Branch.enter .implied change (k :: path) origin (before ++ [(k, wrap b)]) =
      (Branch.enter .implied change path .stated b).map fun b => before ++ [(k, wrap b)] := by
  rw [Branch.enter, lookup_last hk]
  cases hwrap with
  | table =>
    simp only [reduceCtorEq, false_and, if_false, replace_last hk]
    cases Branch.enter .implied change path .stated b <;> rfl
  | array earlier =>
    simp only [replace_last hk]
    cases Branch.enter .implied change path .stated b <;> rfl

theorem apply_within (d : Draft) (s : Statement) :
    (d.within before k wrap).apply (s.under k) = (d.apply s).map (Draft.within before k wrap) := by
  cases s with
  | entry key v =>
    simp only [Draft.apply, Statement.under, Draft.within, Branch.insertAt, enter_last hk hwrap]
    cases Branch.enter .implied (fun _ b => Branch.insert b key v) d.header .stated d.branch <;> rfl
  | header key =>
    simp only [Draft.apply, Statement.under, Draft.within, Branch.openTable, enter_last hk hwrap]
    cases Branch.enter .implied _ key.parents .stated d.branch <;> rfl
  | itemHeader key =>
    simp only [Draft.apply, Statement.under, Draft.within, Branch.openItem, enter_last hk hwrap]
    cases Branch.enter .implied _ key.parents .stated d.branch <;> rfl

theorem foldlM_apply_within (d : Draft) (ss : List Statement) :
    (ss.map (Statement.under k)).foldlM Draft.apply (d.within before k wrap) =
      (ss.foldlM Draft.apply d).map (Draft.within before k wrap) := by
  induction ss generalizing d with
  | nil => rfl
  | cons s ss ih =>
    rw [List.map_cons, List.foldlM_cons, List.foldlM_cons, apply_within hk hwrap]
    cases d.apply s with
    | none => rfl
    | some d => exact ih d

end

/-! ### Building a tree -/

/-- Statements turn a draft into one with a given tree. -/
def Leads (d : Draft) (ss : List Statement) (b : Branch) : Prop :=
  ∃ header, ss.foldlM Draft.apply d = some ⟨header, b⟩

theorem Leads.nil (header : List String) (b : Branch) : Leads ⟨header, b⟩ [] (b ++ []) :=
  ⟨header, by rw [List.append_nil]; rfl⟩

theorem Leads.append {d : Draft} {ss ss' : List Statement} {b b' : Branch} (h : Leads d ss b)
    (h' : ∀ header, Leads ⟨header, b⟩ ss' b') : Leads d (ss ++ ss') b' := by
  obtain ⟨header, h⟩ := h
  obtain ⟨header', h'⟩ := h' header
  exact ⟨header', by rw [List.foldlM_append, h]; exact h'⟩

theorem Leads.under {before : Branch} {k : String} (hk : k ∉ keys before) {wrap : Branch → Node}
    (hwrap : Grows wrap) {d : Draft} {ss : List Statement} {b : Branch} (h : Leads d ss b) :
    Leads (d.within before k wrap) (ss.map (Statement.under k)) (before ++ [(k, wrap b)]) := by
  obtain ⟨header, h⟩ := h
  exact ⟨k :: header, by rw [foldlM_apply_within hk hwrap, h]; rfl⟩

theorem toTable_append (b b' : Branch) : toTable (b ++ b') = toTable b ++ toTable b' := by
  induction b with
  | nil => rfl
  | cons e b ih => rw [List.cons_append, toTable, ih, toTable, List.cons_append]

/-- The entries of the lines of a table. -/
def leaves (lines : Table) : Branch := lines.map fun line => (line.1, .leaf line.2)

theorem toTable_leaves (lines : Table) : toTable (leaves lines) = lines := by
  induction lines with
  | nil => rfl
  | cons line lines ih => exact congrArg (line :: ·) ih

theorem keys_leaves (lines : Table) : keys (leaves lines) = keys lines := by
  rw [leaves, keys, List.map_map]
  rfl

theorem apply_lineStatement {b : Branch} {line : String × Value} (h : line.1 ∉ keys b) :
    Draft.apply ⟨[], b⟩ (lineStatement line) = some ⟨[], b ++ [(line.1, .leaf line.2)]⟩ := by
  simp only [lineStatement, Draft.apply, Branch.insertAt, Branch.insert, Branch.enter,
    lookup_eq_none h]
  rfl

theorem leads_lines {b : Branch} {lines : Table} (h : (keys b ++ keys lines).Nodup) :
    Leads ⟨[], b⟩ (lines.map lineStatement) (b ++ leaves lines) := by
  induction lines generalizing b with
  | nil => exact .nil [] b
  | cons line lines ih =>
    have hline : line.1 ∉ keys b := fun hmem =>
      (List.disjoint_of_nodup_append h) hmem List.mem_cons_self
    have hrest : (keys (b ++ [(line.1, .leaf line.2)]) ++ keys lines).Nodup := by
      simpa [keys] using h
    obtain ⟨header, hlead⟩ := ih hrest
    refine ⟨header, ?_⟩
    rw [List.map_cons, List.foldlM_cons, apply_lineStatement hline]
    simpa [leaves] using hlead

theorem apply_header {b : Branch} {k : String} (h : k ∉ keys b) (header : List String) :
    Draft.apply ⟨header, b⟩ (.header (keyOf [k])) =
      some (Draft.within b k (.table .stated) {}) := by
  simp only [Draft.apply, Branch.openTable, keyOf, List.dropLast_singleton, Branch.enter,
    List.getLast?_singleton, Option.getD_some, lookup_eq_none h]
  rfl

theorem apply_firstItemHeader {b : Branch} {k : String} (h : k ∉ keys b) (header : List String) :
    Draft.apply ⟨header, b⟩ (.itemHeader (keyOf [k])) = some (Draft.within b k (.array []) {}) := by
  simp only [Draft.apply, Branch.openItem, keyOf, List.dropLast_singleton, Branch.enter,
    List.getLast?_singleton, Option.getD_some, lookup_eq_none h]
  rfl

theorem apply_itemHeader {b : Branch} {k : String} (h : k ∉ keys b) (header : List String)
    (earlier : List Value) (last : Branch) :
    Draft.apply ⟨header, b ++ [(k, .array earlier last)]⟩ (.itemHeader (keyOf [k])) =
      some (Draft.within b k (.array (earlier ++ [.table (toTable last)])) {}) := by
  simp only [Draft.apply, Branch.openItem, keyOf, List.dropLast_singleton, Branch.enter,
    List.getLast?_singleton, Option.getD_some, lookup_last h, replace_last h]
  rfl

/-- The statements of a table make the table, up to the order of its entries. -/
def Builds (t : Table) : Prop := ∃ b, Leads {} (bodyStatements t) b ∧ toTable b = arrangedTable t

/-- The sections of an entry put it at the end of a branch, whatever table is open before. -/
def Extends (e : String × Value) : Prop :=
  ∀ b : Branch, e.1 ∉ keys b →
    ∃ n, n.toValue = e.2.arranged ∧ ∀ header,
      Leads ⟨header, b⟩ ((e.2.sections [e.1]).flatMap Section.statements) (b ++ [(e.1, n)])

section

variable {depth : Nat} (hdepth : depth < nestingLimit)
include hdepth

theorem extends_table {t : Table} (ht : Printable depth t) (h : Builds t) (k : String) :
    Extends (k, .table t) := by
  intro b hk
  obtain ⟨inner, hlead, htable⟩ := h
  obtain ⟨last, hlead⟩ := hlead.under hk .table
  refine ⟨.table .stated inner, ?_, fun header => ⟨last, ?_⟩⟩
  · rw [Node.toValue, htable, Value.arranged]
    rfl
  · rw [sections_table ht, statements_headed ht hdepth, Heading.statements, List.singleton_append,
      List.foldlM_cons, apply_header hk]
    exact hlead

/-- One more table under a repeated heading, and all that follow it. -/
theorem leads_items {k : String} {b : Branch} (hk : k ∉ keys b) {t : Table} {ts : List Table}
    (h : ∀ s ∈ t :: ts, Printable depth s ∧ Builds s) (earlier : List Value) :
    ∃ earlier' last,
      earlier' ++ [.table (toTable last)] =
        earlier ++ (t :: ts).map (fun t => .table (arrangedTable t)) ∧
      Leads (Draft.within b k (.array earlier) {})
        ((bodyStatements t).map (Statement.under k) ++
          ((Value.array .headed (ts.map .table)).sections [k]).flatMap Section.statements)
        (b ++ [(k, .array earlier' last)]) := by
  -- on the tables that follow: each new heading closes the table before it into the earlier ones
  induction ts generalizing t earlier with
  | nil =>
    obtain ⟨-, inner, hlead, htable⟩ := h t List.mem_cons_self
    refine ⟨earlier, inner, by rw [htable]; rfl, ?_⟩
    simpa [Value.sections, itemSections] using hlead.under hk (.array earlier)
  | cons u us ih =>
    obtain ⟨-, inner, hlead, htable⟩ := h t List.mem_cons_self
    have hrest : ∀ s ∈ u :: us, Printable depth s ∧ Builds s :=
      fun s hs => h s (List.mem_cons_of_mem t hs)
    obtain ⟨earlier', last, hitems, last', hus⟩ := ih hrest (earlier ++ [.table (toTable inner)])
    refine ⟨earlier', last, ?_, (hlead.under hk (.array earlier)).append fun header => ⟨last', ?_⟩⟩
    · rw [hitems, htable, List.append_assoc]
      rfl
    · rw [sections_array] at hus ⊢
      rw [List.flatMap_cons, List.flatMap_append,
        statements_headed (hrest u List.mem_cons_self).1 hdepth, List.append_assoc,
        Heading.statements, List.singleton_append, List.foldlM_cons, apply_itemHeader hk]
      exact hus

theorem extends_array {form : ArrayForm} {t : Table} {ts : List Table}
    (h : ∀ s ∈ t :: ts, Printable depth s ∧ Builds s) (k : String) :
    Extends (k, .array form ((t :: ts).map .table)) := by
  intro b hk
  obtain ⟨earlier, last, hitems, last', hlead⟩ := leads_items hdepth hk h []
  refine ⟨.array earlier last, ?_, fun header => ⟨last', ?_⟩⟩
  · have hsection : (Value.array form ((t :: ts).map .table)).hasSection = true := by
      simp [Value.hasSection, Value.isTable]
    rw [Node.toValue, hitems, Value.arranged, hsection, arrangedItems_eq_map, List.map_map]
    rfl
  · rw [sections_array] at hlead ⊢
    rw [List.flatMap_cons, List.flatMap_append, statements_headed (h t List.mem_cons_self).1 hdepth,
      List.append_assoc, Heading.statements, List.singleton_append, List.foldlM_cons,
      apply_firstItemHeader hk]
    exact hlead

end

theorem leads_sections {entries : Table} (h : ∀ e ∈ entries, Extends e) {b : Branch}
    (hkeys : (keys b ++ keys entries).Nodup) :
    ∃ b', toTable b' = entries.map (fun e => (e.1, e.2.arranged)) ∧ ∀ header,
      Leads ⟨header, b⟩
        ((entries.flatMap fun e => e.2.sections [e.1]).flatMap Section.statements) (b ++ b') := by
  induction entries generalizing b with
  | nil => exact ⟨[], rfl, fun header => .nil header b⟩
  | cons e entries ih =>
    have hk : e.1 ∉ keys b := fun hmem =>
      (List.disjoint_of_nodup_append hkeys) hmem List.mem_cons_self
    obtain ⟨n, hvalue, hlead⟩ := h e List.mem_cons_self b hk
    have hrest : (keys (b ++ [(e.1, n)]) ++ keys entries).Nodup := by
      simpa [keys] using hkeys
    obtain ⟨b', htable, hentries⟩ := ih (fun e' he => h e' (List.mem_cons_of_mem e he)) hrest
    refine ⟨(e.1, n) :: b', ?_, fun header => ?_⟩
    · rw [toTable, hvalue, htable, List.map_cons]
    · rw [List.flatMap_cons, List.flatMap_append, List.append_cons]
      exact (hlead header).append hentries

theorem keys_perm (t : Table) : (keys (linesOf t) ++ keys (sectionEntries t)).Perm (keys t) := by
  have hperm := List.filter_append_perm (fun e : String × Value => !e.2.hasSection) t
  simp only [Bool.not_not] at hperm
  simpa [keys, linesOf, sectionEntries] using hperm.map (·.1)

theorem arrangedTable_eq {t : Table} (h : ∀ line ∈ linesOf t, line.2.IsInline) :
    arrangedTable t = linesOf t ++ (sectionEntries t).map fun e => (e.1, e.2.arranged) := by
  have hlines : (linesOf t).map (fun e => (e.1, e.2.arranged)) = linesOf t :=
    (List.map_congr_left fun e he => congrArg (Prod.mk e.1) (arranged_of_isInline (h e he))).trans
      (List.map_id _)
  rw [arrangedTable, arrangedEntries_eq, arrangedEntries_eq, ← hlines, linesOf, sectionEntries]
  simp only [beq_true, beq_false]

theorem Printable.builds {depth : Nat} {t : Table} (h : Printable depth t)
    (hdepth : depth ≤ nestingLimit) : Builds t := by
  induction h with
  | @intro depth t nodup bare ne_nil inline tables items ihtables ihitems =>
    have hdepth : depth < nestingLimit := hdepth
    -- every section stands under its first name, so it grows no entry but its own
    have hextends : ∀ e ∈ sectionEntries t, Extends e := by
      rintro ⟨k, v⟩ he
      obtain ⟨he, hv⟩ := List.mem_filter.mp he
      rcases hasSection_cases hv with ⟨s, rfl⟩ | ⟨form, s, ts, rfl⟩
      · exact extends_table hdepth (tables k s he) (ihtables k s he hdepth.le) k
      · exact extends_array hdepth
          (fun s hs => ⟨items k form _ he s hs, ihitems k form _ he s hs hdepth.le⟩) k
    have hkeys : (keys (linesOf t) ++ keys (sectionEntries t)).Nodup := (keys_perm t).nodup_iff.mpr nodup
    have hlines : Leads {} ((linesOf t).map lineStatement) (leaves (linesOf t)) :=
      leads_lines (b := []) (List.nodup_append.mp hkeys).1
    obtain ⟨b', htable, hsections⟩ := leads_sections hextends (b := leaves (linesOf t))
      (by rw [keys_leaves]; exact hkeys)
    refine ⟨leaves (linesOf t) ++ b', ?_, ?_⟩
    · rw [bodyStatements, entrySections_eq]
      exact hlines.append hsections
    · rw [toTable_append, toTable_leaves, htable, arrangedTable_eq inline]

/-! ### Documents -/

theorem exists_cons_render {depth : Nat} {t : Table} (h : Printable depth t) :
    ∃ c cs, render t = c :: cs ∧ isBare c = true := by
  obtain ⟨line, lines, hlines⟩ := List.exists_cons_of_ne_nil h.ne_nil
  have hline : IsLine line := h.isLine line (by rw [hlines]; exact List.mem_cons_self)
  obtain ⟨c, cs, hkey, hc, -⟩ := isBareKey_cons hline.1
  have hsection : (Section.mk .none (linesOf t)).text =
      c :: (cs ++ " = ".toList ++ line.2.text ++ ['\n'] ++ lines.flatMap lineText) := by
    simp [Section.text, Heading.text, hlines, lineText, keyText, hkey]
  rw [render, sectionsOf, headed_of_ne_nil h.ne_nil, if_pos rfl, List.singleton_append, List.map_cons,
    hsection]
  cases (entrySections [] t).map Section.text with
  | nil => exact ⟨c, _, rfl, hc⟩
  | cons part parts => exact ⟨c, _, rfl, hc⟩

/-- A printed document is read back, with the entries of every table arranged as they stand in
it. -/
theorem read_render {depth : Nat} {t : Table} (h : Printable depth t) (hdepth : depth < nestingLimit) :
    Toml.read (render t) = some (arrangedTable t) := by
  have hsections : ∀ s ∈ sectionsOf t, s.Readable := by
    intro s hs
    rw [sectionsOf, headed_of_ne_nil h.ne_nil] at hs
    rcases List.mem_cons.mp hs with rfl | hs
    · exact ⟨fun hne => absurd rfl hne, h.isLine, fun _ => h.ne_nil⟩
    · exact (h.readable [] (by simp) (by simpa using hdepth) s hs).2
  have hstatements : readStatements (render t) = some (bodyStatements t) := by
    have hread := readStatements_sections hsections (show IsGap [] from .inl rfl)
    rw [List.nil_append] at hread
    rw [render, hread, sectionsOf, headed_of_ne_nil h.ne_nil]
    rfl
  obtain ⟨c, cs, hcons, hc⟩ := exists_cons_render h
  have hmark : c ≠ '\uFEFF' := ne_of_isBare hc (by decide)
  obtain ⟨b, ⟨header, hbuild⟩, htable⟩ := h.builds hdepth.le
  rw [Toml.read]
  · simp only [hstatements, Option.bind_eq_bind, Option.bind_some, build, hbuild, htable]
    rfl
  · intro rest hrest
    exact hmark (List.cons.inj (hcons.symm.trans hrest)).1

end ControllerRemap.Toml
