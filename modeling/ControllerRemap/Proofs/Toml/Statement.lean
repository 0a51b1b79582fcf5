import ControllerRemap.Proofs.Toml.Value
import Mathlib

/-! Reading back the lines and headings of a document. -/

namespace ControllerRemap.Toml

/-! ### Keys -/

/-- A key that is written without quotes. -/
def isBareKey (k : String) : Bool := !k.toList.isEmpty && k.toList.all isBare

theorem isBareKey_cons {k : String} (h : isBareKey k = true) :
    ∃ c cs, k.toList = c :: cs ∧ isBare c = true ∧ ∀ d ∈ cs, isBare d = true := by
  rw [isBareKey, Bool.and_eq_true, List.all_eq_true] at h
  cases hk : k.toList with
  | nil => simp [hk] at h
  | cons c cs =>
    rw [hk] at h
    exact ⟨c, cs, rfl, h.2 c List.mem_cons_self, fun d hd => h.2 d (List.mem_cons_of_mem c hd)⟩

theorem ne_of_isBare {c x : Char} (hc : isBare c = true) (hx : isBare x = false) : c ≠ x := by
  rintro rfl
  rw [hc] at hx
  cases hx

theorem readSimpleKey_append {k : String} (hk : isBareKey k = true) {c : Char} (hc : isBare c = false)
    (more : List Char) : readSimpleKey (k.toList ++ c :: more) = some (k, c :: more) := by
  obtain ⟨d, ds, htext, hd, hds⟩ := isBareKey_cons hk
  have hall : ∀ e ∈ k.toList, isBare e = true := by
    rw [htext]
    simpa using ⟨hd, hds⟩
  rw [readSimpleKey.eq_def]
  split
  · next rest h =>
    rw [htext] at h
    exact absurd (List.cons.inj h).1 (ne_of_isBare hd (by decide))
  · next rest h =>
    rw [htext] at h
    exact absurd (List.cons.inj h).1 (ne_of_isBare hd (by decide))
  · simp only [takeWhile_append_cons more hall hc, dropWhile_append_cons more hall hc,
      String.ofList_toList]
    simp [htext]

theorem skipSpace_key {k : String} (hk : isBareKey k = true) (rest : List Char) :
    skipSpace (k.toList ++ rest) = k.toList ++ rest := by
  obtain ⟨c, cs, htext, hc, -⟩ := isBareKey_cons hk
  have hspace : isSpace c = false := by
    simp [isSpace, ne_of_isBare hc (show isBare ' ' = false by decide),
      ne_of_isBare hc (show isBare '\t' = false by decide)]
  rw [htext]
  exact skipSpace_of_not hspace _

def pathText (path : List String) : List Char := join ['.'] (path.map keyText)

theorem readKeyParts_pathText {path : List String} (hne : path ≠ [])
    (h : ∀ k ∈ path, isBareKey k = true) {c e : Char} {more rest : List Char} (hc : isBare c = false)
    (hrest : skipSpace (c :: more) = e :: rest) (he : e ≠ '.') :
    readKeyParts (pathText path ++ c :: more) = some (path, e :: rest) := by
  induction path with
  | nil => exact absurd rfl hne
  | cons k path ih =>
    have hk := h k List.mem_cons_self
    cases path with
    | nil =>
      change readKeyParts (k.toList ++ c :: more) = _
      rw [readKeyParts, skipSpace_key hk, readSimpleKey_append hk hc]
      simp only [hrest]
      split
      · next h' => exact absurd (List.cons.inj h').1 he
      · rfl
    | cons l path =>
      have htext : pathText (k :: l :: path) ++ c :: more =
          k.toList ++ '.' :: (pathText (l :: path) ++ c :: more) := by
        simp [pathText, join, keyText]
      rw [htext, readKeyParts, skipSpace_key hk, readSimpleKey_append hk (by decide)]
      simp only [skipSpace_of_not (show isSpace '.' = false by decide)]
      rw [dif_pos (by simp; omega), ih (by simp) fun k hk => h k (List.mem_cons_of_mem _ hk)]
      rfl

/-- The key that a heading names by its path. -/
def keyOf (path : List String) : Key := ⟨path.dropLast, path.getLast?.getD ""⟩

/-- The path of a heading: bare keys, not too many of them. -/
structure IsPath (path : List String) : Prop where
  ne_nil : path ≠ []
  bare : ∀ k ∈ path, isBareKey k = true
  short : path.length < nestingLimit

theorem IsPath.exists_cons {path : List String} (h : IsPath path) :
    ∃ c cs, pathText path = c :: cs ∧ isBare c = true := by
  match path, h with
  | [k], h =>
    obtain ⟨c, cs, hcons, hc, -⟩ := isBareKey_cons (h.bare k List.mem_cons_self)
    exact ⟨c, cs, hcons, hc⟩
  | k :: l :: path, h =>
    obtain ⟨c, cs, hcons, hc, -⟩ := isBareKey_cons (h.bare k List.mem_cons_self)
    refine ⟨c, cs ++ ['.'] ++ pathText (l :: path), ?_, hc⟩
    simp [pathText, join, keyText, hcons]

theorem readKey_pathText {path : List String} (h : IsPath path) {c e : Char} {more rest : List Char}
    (hc : isBare c = false) (hrest : skipSpace (c :: more) = e :: rest) (he : e ≠ '.') :
    readKey (pathText path ++ c :: more) = some (keyOf path, e :: rest) := by
  obtain ⟨k, hk⟩ : ∃ k, path.getLast? = some k := ⟨_, List.getLast?_eq_some_getLast h.ne_nil⟩
  rw [readKey, readKeyParts_pathText h.ne_nil h.bare hc hrest he]
  simp only [Option.bind_eq_bind, Option.bind_some, hk, if_pos h.short, keyOf, Option.getD_some]
  rfl

/-! ### Statements -/

/-- The statement that a heading makes. -/
def Heading.statements : Heading → List Statement
  | .none => []
  | .table path => [.header (keyOf path)]
  | .item path => [.itemHeader (keyOf path)]

def Heading.path : Heading → List String
  | .none => []
  | .table path => path
  | .item path => path

def lineStatement (line : String × Value) : Statement := .entry ⟨[], line.1⟩ line.2

def Section.statements (s : Section) : List Statement :=
  s.heading.statements ++ s.lines.map lineStatement

/-- A line with a bare key and a value that stands within a line. -/
def IsLine (line : String × Value) : Prop := isBareKey line.1 = true ∧ line.2.IsInline

theorem readEntry_lineText {line : String × Value} (h : IsLine line) (rest : List Char) :
    readEntry (readValue (nestingLimit - 1)) (lineText line ++ rest) =
      some ((⟨[], line.1⟩, line.2), '\n' :: rest) := by
  obtain ⟨k, v⟩ := line
  obtain ⟨hk, hv⟩ := h
  have hends : Ends ('\n' :: rest) := ⟨_, _, rfl, .inl rfl⟩
  have htext : lineText (k, v) ++ rest = k.toList ++ ' ' :: '=' :: ' ' :: (v.text ++ '\n' :: rest) := by
    simp [lineText, keyText]
  have hkey : readKey (k.toList ++ ' ' :: '=' :: ' ' :: (v.text ++ '\n' :: rest)) =
      some (⟨[], k⟩, '=' :: ' ' :: (v.text ++ '\n' :: rest)) :=
    readKey_pathText (show IsPath [k] from ⟨by simp, by simpa using hk, by simp [nestingLimit]⟩)
      (by decide) rfl (by decide)
  have hspace : skipSpace (' ' :: (v.text ++ '\n' :: rest)) = v.text ++ '\n' :: rest := by
    obtain ⟨c, more, hcons, hc⟩ := exists_cons_text hv hends
    rw [hcons]
    exact skipSpace_of_not hc more
  have hvalue : readValue (nestingLimit - 1) (v.text ++ '\n' :: rest) = some (v, '\n' :: rest) :=
    readValue_text hv 78 hends
  rw [htext, readEntry, hkey]
  simp only [Option.bind_eq_bind, Option.bind_some, expect, beq_self_eq_true, if_true, hspace, hvalue]
  rfl

theorem readStatement_lineText {line : String × Value} (h : IsLine line) (rest : List Char) :
    readStatement (lineText line ++ rest) = some (lineStatement line, rest) := by
  obtain ⟨c, cs, hcons, hc, -⟩ := isBareKey_cons h.1
  have hbracket (more : List Char) : lineText line ++ rest ≠ '[' :: more := by
    rw [lineText, keyText, hcons]
    intro h
    exact ne_of_isBare hc (show isBare '[' = false by decide) (List.cons.inj h).1
  rw [readStatement, readEntry_lineText h]
  · simp only [Option.bind_eq_bind, Option.bind_some, lineEnd?_newline]
    rfl
  · exact fun more h => hbracket _ h
  · exact fun more h => hbracket _ h

/-- A path between brackets, with the line end after them. -/
theorem readKey_heading {path : List String} (h : IsPath path) (rest : List Char) :
    readKey (pathText path ++ ']' :: rest) = some (keyOf path, ']' :: rest) :=
  readKey_pathText h (by decide) (skipSpace_of_not (by decide) rest) (by decide)

theorem readStatement_table {path : List String} (h : IsPath path) (rest : List Char) :
    readStatement ((Heading.table path).text ++ rest) = some (.header (keyOf path), rest) := by
  have htext : (Heading.table path).text ++ rest = '[' :: (pathText path ++ ']' :: '\n' :: rest) := by
    simp [Heading.text, pathText]
  rw [htext, readStatement, readKey_heading h]
  · simp only [Option.bind_eq_bind, Option.bind_some, expect, beq_self_eq_true, if_true, lineEnd?_newline]
    rfl
  · intro more h'
    obtain ⟨c, cs, hcons, hc⟩ := h.exists_cons
    rw [hcons] at h'
    exact ne_of_isBare hc (show isBare '[' = false by decide) (List.cons.inj h').1

theorem readStatement_item {path : List String} (h : IsPath path) (rest : List Char) :
    readStatement ((Heading.item path).text ++ rest) = some (.itemHeader (keyOf path), rest) := by
  have htext : (Heading.item path).text ++ rest =
      '[' :: '[' :: (pathText path ++ ']' :: ']' :: '\n' :: rest) := by
    simp [Heading.text, pathText]
  rw [htext, readStatement, readKey_heading h]
  simp only [Option.bind_eq_bind, Option.bind_some, expect, beq_self_eq_true, if_true, lineEnd?_newline]
  rfl

/-! ### Documents -/

theorem readStatements_nil {cs : List Char} (h : skipBlank false cs = []) :
    readStatements cs = some [] := by
  rw [readStatements, h]

/-- A text is read statement by statement, whatever blank lines stand in front. -/
theorem readStatements_statement {blank cs rest : List Char} {s : Statement}
    (hstart : skipBlank false (blank ++ (cs ++ rest)) = cs ++ rest) (hne : cs ≠ [])
    (h : readStatement (cs ++ rest) = some (s, rest)) :
    readStatements (blank ++ (cs ++ rest)) = (readStatements rest).map (s :: ·) := by
  obtain ⟨c, cs, rfl⟩ := List.exists_cons_of_ne_nil hne
  have hlt : rest.length < (blank ++ (c :: cs ++ rest)).length := by
    simp only [List.length_append, List.length_cons]
    omega
  rw [readStatements, hstart]
  simp only [List.cons_append] at h hlt ⊢
  simp only [h, dif_pos hlt]

/-- At most one empty line. -/
def IsGap (blank : List Char) : Prop := blank = [] ∨ blank = ['\n']

theorem IsGap.skipBlank {blank : List Char} (h : IsGap blank) {c : Char} (hc : isBlankStart c = false)
    (more : List Char) : skipBlank false (blank ++ c :: more) = c :: more := by
  rcases h with rfl | rfl
  · exact skipBlank_of_not hc more
  · exact (skipBlank_newline _).trans (skipBlank_of_not hc more)

theorem isBlankStart_of_isBare {c : Char} (h : isBare c = true) : isBlankStart c = false := by
  simp [isBlankStart, isSpace, ne_of_isBare h (show isBare ' ' = false by decide),
    ne_of_isBare h (show isBare '\t' = false by decide),
    ne_of_isBare h (show isBare '\n' = false by decide),
    ne_of_isBare h (show isBare '\r' = false by decide),
    ne_of_isBare h (show isBare '#' = false by decide)]

section

variable {blank : List Char} (hblank : IsGap blank) (rest : List Char)
include hblank

theorem readStatements_line {line : String × Value} (h : IsLine line) :
    readStatements (blank ++ (lineText line ++ rest)) =
      (readStatements rest).map (lineStatement line :: ·) := by
  obtain ⟨c, cs, hcons, hc, -⟩ := isBareKey_cons h.1
  have htext : lineText line = c :: (cs ++ " = ".toList ++ line.2.text ++ ['\n']) := by
    rw [lineText, keyText, hcons]
    rfl
  refine readStatements_statement ?_ (by simp [htext]) (readStatement_lineText h rest)
  rw [htext, List.cons_append, hblank.skipBlank (isBlankStart_of_isBare hc)]

theorem readStatements_heading {heading : Heading} (hne : heading ≠ .none) (h : IsPath heading.path) :
    readStatements (blank ++ (heading.text ++ rest)) =
      (readStatements rest).map (heading.statements ++ ·) := by
  cases heading with
  | none => exact absurd rfl hne
  | table path =>
    refine readStatements_statement ?_ (by simp [Heading.text]) (readStatement_table h rest)
    exact hblank.skipBlank (by decide) _
  | item path =>
    refine readStatements_statement ?_ (by simp [Heading.text]) (readStatement_item h rest)
    exact hblank.skipBlank (by decide) _

end

theorem readStatements_lines {lines : List (String × Value)} (h : ∀ line ∈ lines, IsLine line)
    (rest : List Char) : readStatements (lines.flatMap lineText ++ rest) =
      (readStatements rest).map (lines.map lineStatement ++ ·) := by
  induction lines with
  | nil => simp
  | cons line lines ih =>
    have hline := readStatements_line (show IsGap [] from .inl rfl) (lines.flatMap lineText ++ rest)
      (h line List.mem_cons_self)
    rw [List.flatMap_cons, List.append_assoc]
    refine hline.trans ?_
    rw [ih fun l hl => h l (List.mem_cons_of_mem line hl), Option.map_map]
    rfl

/-- A section of a document that can be read back. -/
structure Section.Readable (s : Section) : Prop where
  path : s.heading ≠ .none → IsPath s.heading.path
  lines : ∀ line ∈ s.lines, IsLine line
  ne_nil : s.heading = .none → s.lines ≠ []

theorem readStatements_section {s : Section} (h : s.Readable) {blank : List Char} (hblank : IsGap blank)
    (rest : List Char) :
    readStatements (blank ++ (s.text ++ rest)) = (readStatements rest).map (s.statements ++ ·) := by
  obtain ⟨heading, lines⟩ := s
  rw [Section.text, Section.statements]
  by_cases hne : heading = .none
  · subst hne
    obtain ⟨line, lines, rfl⟩ := List.exists_cons_of_ne_nil (h.ne_nil rfl)
    have hline := readStatements_line hblank (lines.flatMap lineText ++ rest)
      (h.lines line List.mem_cons_self)
    simp only [Heading.text, List.nil_append, List.flatMap_cons, List.append_assoc]
    rw [hline, readStatements_lines fun l hl => h.lines l (List.mem_cons_of_mem line hl),
      Option.map_map]
    rfl
  · rw [List.append_assoc, readStatements_heading hblank _ hne (h.path hne),
      readStatements_lines h.lines, Option.map_map]
    simp only [Function.comp_def, List.append_assoc]

/-- An empty line stands between two sections. -/
theorem readStatements_sections {sections : List Section} (h : ∀ s ∈ sections, s.Readable)
    {blank : List Char} (hblank : IsGap blank) :
    readStatements (blank ++ join ['\n'] (sections.map Section.text)) =
      some (sections.flatMap Section.statements) := by
  have hnil {blank : List Char} (hblank : IsGap blank) : readStatements blank = some [] :=
    readStatements_nil (by rcases hblank with rfl | rfl <;> rfl)
  induction sections generalizing blank with
  | nil => simpa [join] using hnil hblank
  | cons s sections ih =>
    have hs := readStatements_section (h s List.mem_cons_self) hblank
    have hsections : ∀ t ∈ sections, t.Readable := fun t ht => h t (List.mem_cons_of_mem s ht)
    cases sections with
    | nil =>
      have hlast := hs []
      rw [List.append_nil, hnil (.inl rfl)] at hlast
      simpa [join] using hlast
    | cons t sections =>
      have htext : join ['\n'] ((s :: t :: sections).map Section.text) =
          s.text ++ (['\n'] ++ join ['\n'] ((t :: sections).map Section.text)) := by
        simp [join]
      rw [htext, hs, ih hsections (.inr rfl)]
      rfl

end ControllerRemap.Toml
