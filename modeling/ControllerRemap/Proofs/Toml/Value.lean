import ControllerRemap.Proofs.Toml.Number
import ControllerRemap.Proofs.Toml.Quote
import ControllerRemap.Toml.Document
import ControllerRemap.Toml.Printer
import Mathlib

/-! Reading back the values that stand within a line. -/

namespace ControllerRemap.Toml

/-! ### The first character of a value -/

/-- Characters that start no number, but something else. -/
def marks : List Char := ['\n', '\r', ' ', '\t', '#', ']', '[', '\x7b', 't', 'f', '"', '\'']

theorem readNumber_of_mark {c : Char} (hc : c ∈ marks) (more : List Char) :
    readNumber (c :: more) = none := by
  have hall : marks.all (fun d => !(Digits.isDigit 10 d || d == '_') &&
      !([':', '-', '+', 'i', 'n', '0'].contains d)) = true := by
    decide +kernel
  have hrun : (Digits.isDigit 10 c || c == '_') = false := by
    have := List.all_eq_true.mp hall c hc
    simp_all
  have hne : c ∉ [':', '-', '+', 'i', 'n', '0'] := by
    have := List.all_eq_true.mp hall c hc
    simp_all
  simp only [List.mem_cons, List.not_mem_nil, or_false, not_or] at hne
  obtain ⟨htime, hminus, hplus, hi, hn, hzero⟩ := hne
  have hdatetime : skipDatetime (c :: more) = none :=
    skipDatetime_eq_none (fun d (hd : d ∈ []) => by cases hd) more (Bool.or_eq_false_iff.mp hrun).1
      htime fun _ => rfl
  have hsign : readSign (c :: more) = (false, c :: more) := by
    rw [readSign]
    · rintro _ ⟨⟩
      exact hminus rfl
    · rintro _ ⟨⟩
      exact hplus rfl
  have hspecial : readSpecial false (c :: more) = none := by
    rw [readSpecial]
    · rintro _ ⟨⟩
      exact hi rfl
    · rintro _ ⟨⟩
      exact hn rfl
  have hdigits : readDigits 10 (c :: more) = none := by
    rw [readDigits]
    simp only [List.takeWhile_cons, hrun]
    rfl
  rw [readNumber_of_no_datetime hdatetime]
  · simp only [readDecimal, hsign, hspecial, hdigits]
    rfl
  · rintro e rest ⟨⟩
    exact absurd rfl hzero

/-- What a reader of values finds starts with no white space and no bracket. -/
def Begins (cs : List Char) : Prop :=
  ∃ c more, cs = c :: more ∧ c ∉ ['\n', '\r', ' ', '\t', '#', ']', '[', '\x7b']

theorem readScalar_of_readNumber {cs : List Char} {v : Value} {rest : List Char}
    (h : readNumber cs = some (v, rest)) : readScalar cs = some (v, rest) ∧ Begins cs := by
  cases cs with
  | nil => cases h
  | cons c more =>
    have hmark : c ∉ marks := fun hc => by
      rw [readNumber_of_mark hc] at h
      cases h
    constructor
    · rw [readScalar]
      · rw [if_neg, h]
        rw [Bool.or_eq_true, beq_iff_eq, beq_iff_eq]
        rintro (rfl | rfl) <;> exact hmark (by decide)
      · rintro _ rfl _
        exact hmark (by decide)
      · rintro _ rfl _
        exact hmark (by decide)
    · refine ⟨c, more, rfl, fun hc => hmark ?_⟩
      simp only [marks, List.mem_cons] at hc ⊢
      tauto

theorem readScalar_of_readString {cs text rest : List Char} (h : readString cs = some (text, rest)) :
    readScalar cs = some (.string (String.ofList text), rest) ∧ Begins cs := by
  cases cs with
  | nil => cases h
  | cons c more =>
    have hquote : c = '"' ∨ c = '\'' := by
      rw [readString.eq_def] at h
      split at h <;> simp_all
    constructor
    · rw [readScalar]
      · rw [if_pos, h]
        · rfl
        · rw [Bool.or_eq_true, beq_iff_eq, beq_iff_eq]
          exact hquote
      all_goals rintro _ rfl _; rcases hquote with h | h <;> cases h
    · refine ⟨c, more, rfl, ?_⟩
      rcases hquote with rfl | rfl <;> decide

/-! ### Scalars -/

/-- A value that holds no other, and an integer of 64 bits if it is one. -/
def Value.IsScalar : Value → Prop
  | .string _ | .float _ | .boolean _ => True
  | .integer n => -9223372036854775808 ≤ n ∧ n ≤ 9223372036854775807
  | _ => False

theorem readScalar_text {v : Value} (hv : v.IsScalar) {rest : List Char} (hrest : Ends rest) :
    readScalar (v.text ++ rest) = some (v, rest) ∧ Begins (v.text ++ rest) := by
  cases v with
  | string s =>
    have h := readString_stringText s.toList (hrest.head?_ne (c := '"') (by decide))
      (hrest.head?_ne (c := '\'') (by decide))
    rw [Value.text]
    simpa using readScalar_of_readString h
  | integer n => exact readScalar_of_readNumber (readNumber_ofInt hv.1 hv.2 hrest)
  | float x => exact readScalar_of_readNumber (readNumber_textOf x hrest)
  | boolean b => cases b <;> exact ⟨rfl, _, _, rfl, by decide⟩
  | datetime s => cases hv
  | array form items => cases hv
  | table entries => cases hv

/-! ### Arrays -/

theorem Begins.skipBlank {cs : List Char} (h : Begins cs) : skipBlank false cs = cs := by
  obtain ⟨c, more, rfl, hc⟩ := h
  simp only [List.mem_cons, List.not_mem_nil, or_false, not_or] at hc
  exact skipBlank_of_not (by simp [isBlankStart, isSpace, hc]) more

theorem Begins.ne_bracket {cs : List Char} (h : Begins cs) (rest : List Char) : cs ≠ ']' :: rest := by
  obtain ⟨c, more, rfl, hc⟩ := h
  rintro ⟨⟩
  exact hc (by decide)

section

variable {item : Reader Value} {cs start after rest : List Char} {v : Value}

theorem readItems_nil (h : skipBlank false cs = ']' :: rest) :
    readItems item cs = some ([], rest) := by
  rw [readItems]
  simp only [h]

variable (hskip : skipBlank false cs = start) (hbegins : Begins start)
  (hitem : item start = some (v, after))
include hskip hbegins hitem

theorem readItems_last (h : skipBlank false after = ']' :: rest) :
    readItems item cs = some ([v], rest) := by
  rw [readItems]
  split
  · next rest' h' => exact absurd (hskip.symm.trans h') (hbegins.ne_bracket rest')
  · rw [hskip, hitem]
    simp only [h]

theorem readItems_cons {more : List Char} (h : skipBlank false after = ',' :: more)
    (hlt : more.length < cs.length) :
    readItems item cs = (readItems item more).map fun (vs, rest) => (v :: vs, rest) := by
  rw [readItems]
  split
  · next rest' h' => exact absurd (hskip.symm.trans h') (hbegins.ne_bracket rest')
  · rw [hskip, hitem]
    simp only [h, dif_pos hlt]

end

/-- What `item` has to do with a value for its text to be read within an array. -/
def Reads (item : Reader Value) (v : Value) : Prop :=
  ∀ rest, Ends rest → item (v.text ++ rest) = some (v, rest) ∧ Begins (v.text ++ rest)

/-- The text of an item with a line of its own. -/
def itemLine (text : List Char) : List Char := "    ".toList ++ text ++ [',', '\n']

theorem skipBlank_itemLine {text more : List Char} (h : Begins (text ++ ',' :: '\n' :: more)) :
    skipBlank false ('\n' :: (itemLine text ++ more)) = text ++ ',' :: '\n' :: more := by
  have htext : itemLine text ++ more = ' ' :: ' ' :: ' ' :: ' ' :: (text ++ ',' :: '\n' :: more) := by
    simp [itemLine]
  rw [skipBlank_newline, htext, skipBlank_space, skipBlank_space, skipBlank_space, skipBlank_space,
    h.skipBlank]

theorem readItems_itemLines {item : Reader Value} {vs : List Value} (h : ∀ v ∈ vs, Reads item v)
    (rest : List Char) :
    readItems item ('\n' :: ((itemTexts vs).flatMap itemLine ++ ']' :: rest)) = some (vs, rest) := by
  induction vs with
  | nil => exact readItems_nil (by rw [skipBlank_newline]; rfl)
  | cons v vs ih =>
    rw [itemTexts, List.flatMap_cons, List.append_assoc]
    generalize hmore : (itemTexts vs).flatMap itemLine ++ ']' :: rest = more
    obtain ⟨hitem, hbegins⟩ := h v List.mem_cons_self (',' :: '\n' :: more) ⟨_, _, rfl, by simp⟩
    have hcomma : skipBlank false (',' :: '\n' :: more) = ',' :: '\n' :: more :=
      skipBlank_of_not (by decide) _
    rw [readItems_cons (skipBlank_itemLine hbegins) hbegins hitem hcomma (by simp [itemLine]; omega),
      ← hmore, ih fun w hw => h w (List.mem_cons_of_mem v hw)]
    rfl

theorem readItems_arrayText {item : Reader Value} {vs : List Value} (h : ∀ v ∈ vs, Reads item v)
    (rest : List Char) : ∃ cs, arrayText (itemTexts vs) ++ rest = '[' :: cs ∧
      readItems item cs = some (vs, rest) := by
  match vs with
  | [] => exact ⟨']' :: rest, rfl, readItems_nil rfl⟩
  | [v] =>
    obtain ⟨hitem, hbegins⟩ := h v List.mem_cons_self (']' :: rest) ⟨_, _, rfl, by simp⟩
    exact ⟨v.text ++ ']' :: rest, by simp [itemTexts, arrayText],
      readItems_last hbegins.skipBlank hbegins hitem (skipBlank_of_not (by decide) _)⟩
  | v :: w :: vs =>
    refine ⟨_, ?_, readItems_itemLines h rest⟩
    change '[' :: '\n' :: (itemTexts (v :: w :: vs)).flatMap itemLine ++ [']'] ++ rest = _
    simp only [List.cons_append, List.append_assoc, List.nil_append]

/-! ### Values within a line -/

/-- A scalar or an array of scalars. -/
def Value.IsInline : Value → Prop
  | .array form items => form = .bracketed ∧ ∀ v ∈ items, v.IsScalar
  | v => v.IsScalar

theorem readValue_of_begins {cs : List Char} (h : Begins cs) (depth : Nat) :
    readValue depth cs = readScalar cs := by
  obtain ⟨c, more, rfl, hc⟩ := h
  cases depth with
  | zero => rfl
  | succ depth =>
    rw [readValue]
    · rintro _ ⟨⟩
      exact hc (by decide)
    · rintro _ ⟨⟩
      exact hc (by decide)

theorem reads_of_isScalar {v : Value} (hv : v.IsScalar) (depth : Nat) : Reads (readValue depth) v := by
  intro rest hrest
  obtain ⟨hread, hbegins⟩ := readScalar_text hv hrest
  exact ⟨(readValue_of_begins hbegins depth).trans hread, hbegins⟩

theorem readValue_text {v : Value} (hv : v.IsInline) (depth : Nat) {rest : List Char} (hrest : Ends rest) :
    readValue (depth + 1) (v.text ++ rest) = some (v, rest) := by
  cases v with
  | array form items =>
    obtain ⟨rfl, hitems⟩ := hv
    obtain ⟨cs, htext, hread⟩ :=
      readItems_arrayText (fun v hv => reads_of_isScalar (hitems v hv) depth) rest
    rw [Value.text, htext, readValue, hread]
    rfl
  | string s => exact (reads_of_isScalar (v := .string s) hv _ rest hrest).1
  | integer n => exact (reads_of_isScalar (v := .integer n) hv _ rest hrest).1
  | float x => exact (reads_of_isScalar (v := .float x) hv _ rest hrest).1
  | boolean b => exact (reads_of_isScalar (v := .boolean b) hv _ rest hrest).1
  | datetime s => cases hv
  | table entries => cases hv

theorem exists_cons_text {v : Value} (hv : v.IsInline) {rest : List Char} (hrest : Ends rest) :
    ∃ c more, v.text ++ rest = c :: more ∧ isSpace c = false := by
  have hscalar (hv : v.IsScalar) : ∃ c more, v.text ++ rest = c :: more ∧ isSpace c = false := by
    obtain ⟨c, more, htext, hc⟩ := (readScalar_text hv hrest).2
    simp only [List.mem_cons, List.not_mem_nil, or_false, not_or] at hc
    exact ⟨c, more, htext, by simp [isSpace, hc]⟩
  cases v with
  | array form items =>
    obtain ⟨rfl, hitems⟩ := hv
    obtain ⟨cs, htext, -⟩ :=
      readItems_arrayText (fun v hv => reads_of_isScalar (hitems v hv) 0) rest
    exact ⟨'[', cs, htext, rfl⟩
  | string s => exact hscalar hv
  | integer n => exact hscalar hv
  | float x => exact hscalar hv
  | boolean b => exact hscalar hv
  | datetime s => cases hv
  | table entries => cases hv

end ControllerRemap.Toml
