import ControllerRemap.Toml.Quote
import ControllerRemap.Toml.Text
import Mathlib

/-! Reading back the strings that are written. -/

namespace ControllerRemap.Toml

/-! ### Escapes -/

theorem digits_sixteen {n : Nat} (h : n < 256) : Digits.digits 16 n =
    if 16 ≤ n then [Digits.digitChar (n / 16), Digits.digitChar (n % 16)] else [Digits.digitChar n] := by
  rw [Digits.digits]
  by_cases large : 16 ≤ n
  · rw [dif_pos ⟨by decide, large⟩, if_pos large, Digits.digits, dif_neg (by omega)]
    rfl
  · rw [dif_neg (by omega), if_neg large]

/-- The digits of an escape by number. -/
theorem exists_codeText {c : Char} (h : isCode c = true) : ∃ a b d e : Char,
    Digits.pad 4 ((Digits.digits 16 c.toNat).map Char.toUpper) = [a, b, d, e] ∧
      escapeNumber? [a, b, d, e] = some c := by
  have hlt : c.toNat < 128 := by
    simp only [isCode, Bool.or_eq_true, Bool.and_eq_true, decide_eq_true_eq, beq_iff_eq] at h
    omega
  have all : ∀ n ∈ List.range 128,
      let text := Digits.pad 4 ((if 16 ≤ n then [Digits.digitChar (n / 16), Digits.digitChar (n % 16)]
        else [Digits.digitChar n]).map Char.toUpper)
      text.length = 4 ∧ escapeNumber? text = some (Char.ofNat n) := by
    decide +kernel
  have hc := all c.toNat (List.mem_range.mpr hlt)
  rw [← digits_sixteen (by omega), Char.ofNat_toNat] at hc
  obtain ⟨hlength, hnumber⟩ := hc
  match htext : Digits.pad 4 ((Digits.digits 16 c.toNat).map Char.toUpper), hlength with
  | [a, b, d, e], _ => exact ⟨a, b, d, e, rfl, by rwa [htext] at hnumber⟩

theorem isControl_of_not_isCode {c : Char} (h : isCode c = false) (hc : c ≠ '\n') :
    isControl c = false := by
  rw [isCode] at h
  rw [isControl]
  simp_all

theorem basicBody_cons {c : Char} (hquote : c ≠ '"') (hescape : c ≠ '\\') (hc : isControl c = false)
    (rest : List Char) : basicBody (c :: rest) = prepend c (basicBody rest) := by
  rw [basicBody]
  · simp [hc]
  · exact hquote
  · exact fun a b d e _ h _ => hescape h
  · exact fun _ _ _ _ _ _ _ _ _ h _ => hescape h
  · exact fun _ _ h _ => hescape h

theorem basicBody_escaped {c : Char} (hc : c ≠ '"') (rest : List Char) :
    basicBody (escaped false c ++ rest) = prepend c (basicBody rest) := by
  unfold escaped
  split
  · rfl
  · rfl
  · rfl
  · rfl
  · rfl
  · rfl
  · split
    · next hcode =>
      obtain ⟨a, b, d, e, htext, hnumber⟩ := exists_codeText hcode
      rw [htext]
      change basicBody ('\\' :: 'u' :: a :: b :: d :: e :: rest) = _
      rw [basicBody, hnumber]
    · next hcode =>
      refine basicBody_cons hc ‹_› (isControl_of_not_isCode (by simpa using hcode) ‹_›) rest

/-! ### Strings on a line -/

theorem basicBody_basicText (s : List Char) (run : Nat) (rest : List Char) :
    basicBody (basicText false run s ++ '"' :: rest) = some (s, rest) := by
  induction s generalizing run with
  | nil => rfl
  | cons c s ih =>
    rw [basicText]
    by_cases hc : c = '"'
    · subst hc
      change prepend '"' (basicBody (basicText false 0 s ++ '"' :: rest)) = _
      rw [ih]
      rfl
    · rw [if_neg (by simpa using hc), List.append_assoc, basicBody_escaped hc, ih]
      rfl

theorem literalBody_append {s : List Char} (hcontrol : ∀ c ∈ s, isControl c = false)
    (hquote : '\'' ∉ s) (rest : List Char) : literalBody (s ++ '\'' :: rest) = some (s, rest) := by
  induction s with
  | nil => rfl
  | cons c s ih =>
    simp only [List.mem_cons, not_or] at hquote
    rw [List.cons_append, literalBody, hcontrol c List.mem_cons_self,
      ih (fun d hd => hcontrol d (List.mem_cons_of_mem c hd)) hquote.2]
    · rfl
    · exact fun h => hquote.1 h.symm

/-! ### Strings over several lines -/

theorem multiBasicBody_cons {c : Char} (hquote : c ≠ '"') (hescape : c ≠ '\\')
    (hc : isControl c = false) (rest : List Char) :
    multiBasicBody false (c :: rest) = prepend c (multiBasicBody false rest) := by
  rw [multiBasicBody]
  · simp [hc]
  · exact fun _ h _ => hquote h
  · rintro rfl
    cases hc
  · rintro _ rfl _
    cases hc
  · exact fun a b d e _ h _ => hescape h
  · exact fun _ _ _ _ _ _ _ _ _ h _ => hescape h
  · exact fun _ _ h _ => hescape h

theorem multiBasicBody_escaped {c : Char} (hc : c ≠ '"') (rest : List Char) :
    multiBasicBody false (escaped true c ++ rest) = prepend c (multiBasicBody false rest) := by
  unfold escaped
  split
  · rfl
  · rfl
  · rfl
  · rfl
  · rfl
  · rfl
  · split
    · next hcode =>
      obtain ⟨a, b, d, e, htext, hnumber⟩ := exists_codeText hcode
      rw [htext]
      change multiBasicBody false ('\\' :: 'u' :: a :: b :: d :: e :: rest) = _
      rw [multiBasicBody, hnumber]
    · next hcode =>
      refine multiBasicBody_cons hc ‹_› (isControl_of_not_isCode (by simpa using hcode) ‹_›) rest

/-- A quote is part of the string unless two more follow. -/
theorem multiBasicBody_quote (rest : List Char) (h : ∀ more, rest ≠ '"' :: '"' :: more) :
    multiBasicBody false ('"' :: rest) = prepend '"' (multiBasicBody false rest) := by
  rw [multiBasicBody]
  · rfl
  · exact fun more _ h' => h more h'
  · decide
  · exact fun _ h _ => absurd h (by decide)
  · exact fun _ _ _ _ _ h _ => absurd h (by decide)
  · exact fun _ _ _ _ _ _ _ _ _ h _ => absurd h (by decide)
  · exact fun _ _ h _ => absurd h (by decide)

/-- Puts a text in front of what a reader found. -/
def prependAll (cs : List Char) (found : Option (List Char × List Char)) :
    Option (List Char × List Char) :=
  found.map fun (text, rest) => (cs ++ text, rest)

theorem prepend_eq (c : Char) (found : Option (List Char × List Char)) :
    prepend c found = prependAll [c] found := by
  cases found <;> rfl

/-- A reader that takes a single quote as part of the string takes up to two of them. -/
theorem reader_quotes {quote : Char} {body : Reader (List Char)}
    (hbody : ∀ rest, (∀ more, rest ≠ quote :: quote :: more) →
      body (quote :: rest) = prepend quote (body rest))
    {run : Nat} (hrun : run ≤ 2) {c : Char} (hc : c ≠ quote) (rest : List Char) :
    body (List.replicate run quote ++ c :: rest) =
      prependAll (List.replicate run quote) (body (c :: rest)) := by
  match run with
  | 0 => simp [prependAll]
  | 1 =>
    change body (quote :: c :: rest) = _
    rw [hbody _ (by simp [hc]), prepend_eq]
    rfl
  | 2 =>
    change body (quote :: quote :: c :: rest) = _
    rw [hbody _ (by simp [hc]), hbody _ (by simp [hc]), prepend_eq, prepend_eq, prependAll,
      prependAll, Option.map_map]
    rfl

/-- Quotes before the closing ones are the same as quotes after them. -/
theorem replicate_append_quotes (quote : Char) {run : Nat} (hrun : run ≤ 2) (rest : List Char) :
    List.replicate run quote ++ quote :: quote :: quote :: rest =
      quote :: quote :: quote :: (List.replicate run quote ++ rest) := by
  match run with
  | 0 => rfl
  | 1 => rfl
  | 2 => rfl

theorem surplus_replicate {quote : Char} {run : Nat} (hrun : run ≤ 2) {rest : List Char}
    (hrest : rest.head? ≠ some quote) :
    surplus quote (List.replicate run quote ++ rest) = (List.replicate run quote, rest) := by
  match run, rest with
  | 0, [] => rfl
  | 0, [a] => simp_all [surplus]
  | 0, a :: b :: more => simp_all [surplus]
  | 1, [] => simp [surplus]
  | 1, a :: more => simp_all [surplus]
  | 2, rest => simp [surplus, List.replicate]

/-- What an escape starts with, so that no quote and no line end comes of other characters. -/
theorem escaped_eq_cons (multi : Bool) (c : Char) :
    ∃ x xs, escaped multi c = x :: xs ∧ (x = '\\' ∨ x = c) ∧ x ≠ '\r' := by
  unfold escaped
  split
  case h_3 => cases multi <;> exact ⟨_, _, rfl, by decide, by decide⟩
  case h_7 =>
    split
    · exact ⟨_, _, rfl, .inl rfl, by decide⟩
    · exact ⟨_, _, rfl, .inr rfl, ‹_›⟩
  all_goals exact ⟨_, _, rfl, .inl rfl, by decide⟩

theorem escaped_eq_cons_of_ne (multi : Bool) {c : Char} (hc : c ≠ '"') :
    ∃ x xs, escaped multi c = x :: xs ∧ x ≠ '"' := by
  obtain ⟨x, xs, hescaped, hx, -⟩ := escaped_eq_cons multi c
  refine ⟨x, xs, hescaped, ?_⟩
  rcases hx with rfl | rfl
  · decide
  · exact hc

/-- The induction is on the string, `run` quotes of which are still to be settled. -/
theorem multiBasicBody_basicText (s : List Char) (run : Nat) (hrun : run ≤ 2) {rest : List Char}
    (hrest : rest.head? ≠ some '"') :
    multiBasicBody false (List.replicate run '"' ++ (basicText true run s ++ '"' :: '"' :: '"' :: rest)) =
      some (List.replicate run '"' ++ s, rest) := by
  induction s generalizing run with
  | nil =>
    rw [basicText, List.nil_append, replicate_append_quotes '"' hrun, multiBasicBody,
      surplus_replicate hrun hrest, List.append_nil]
  | cons c s ih =>
    have hreset := ih 0 (by decide)
    rw [List.replicate_zero, List.nil_append, List.nil_append] at hreset
    rw [basicText]
    by_cases hc : c = '"'
    · subst hc
      rcases Nat.lt_or_ge run 2 with lt | ge
      · have hnext := ih (run + 1) (by omega)
        rw [List.replicate_succ', List.append_assoc, List.append_assoc] at hnext
        have hne : (run == 2) = false := by
          rw [beq_eq_false_iff_ne]
          omega
        rw [if_pos (beq_self_eq_true _), hne, if_neg (by decide)]
        exact hnext
      · obtain rfl : run = 2 := by omega
        -- a third quote in a row is escaped, which settles the two before it
        change multiBasicBody false (List.replicate 2 '"' ++
          '\\' :: ('"' :: (basicText true 0 s ++ '"' :: '"' :: '"' :: rest))) = _
        rw [reader_quotes multiBasicBody_quote hrun (by decide)]
        change prependAll _ (prepend '"' (multiBasicBody false
          (basicText true 0 s ++ '"' :: '"' :: '"' :: rest))) = _
        rw [hreset]
        rfl
    · obtain ⟨x, xs, hescaped, hx⟩ := escaped_eq_cons_of_ne true hc
      have hbody := multiBasicBody_escaped hc (basicText true 0 s ++ '"' :: '"' :: '"' :: rest)
      rw [hescaped, List.cons_append] at hbody
      rw [if_neg (by simpa using hc), hescaped, List.append_assoc, List.cons_append,
        reader_quotes multiBasicBody_quote hrun hx, hbody, hreset]
      rfl

theorem multiLiteralBody_cons {c : Char} (hquote : c ≠ '\'') (hc : isCode c = false)
    (rest : List Char) : multiLiteralBody (c :: rest) = prepend c (multiLiteralBody rest) := by
  by_cases hnewline : c = '\n'
  · subst hnewline
    rfl
  · rw [multiLiteralBody, isControl_of_not_isCode hc hnewline]
    · rfl
    · exact fun _ h _ => hquote h
    · exact hnewline
    · rintro _ rfl _
      cases hc

theorem multiLiteralBody_quote (rest : List Char) (h : ∀ more, rest ≠ '\'' :: '\'' :: more) :
    multiLiteralBody ('\'' :: rest) = prepend '\'' (multiLiteralBody rest) := by
  rw [multiLiteralBody]
  · rfl
  · exact fun more _ h' => h more h'
  · decide
  · exact fun _ h _ => absurd h (by decide)

theorem le_longestRun (x : Char) (run : Nat) (s : List Char) : run ≤ longestRun x run s := by
  cases s with
  | nil => rw [longestRun]
  | cons c s => exact le_max_left _ _

/-- The induction is on the string, `run` quotes of which are still to be settled. -/
theorem multiLiteralBody_append {s : List Char} (hcode : ∀ c ∈ s, isCode c = false) {run : Nat}
    (hrun : longestRun '\'' run s ≤ 2) {rest : List Char} (hrest : rest.head? ≠ some '\'') :
    multiLiteralBody (List.replicate run '\'' ++ (s ++ '\'' :: '\'' :: '\'' :: rest)) =
      some (List.replicate run '\'' ++ s, rest) := by
  induction s generalizing run with
  | nil =>
    rw [longestRun] at hrun
    rw [List.nil_append, replicate_append_quotes '\'' hrun, multiLiteralBody,
      surplus_replicate hrun hrest, List.append_nil]
  | cons c s ih =>
    have hle := (le_longestRun _ _ _).trans hrun
    have hcode' : ∀ d ∈ s, isCode d = false := fun d hd => hcode d (List.mem_cons_of_mem c hd)
    rw [longestRun] at hrun
    have hrun' := (le_max_right _ _).trans hrun
    by_cases hc : c = '\''
    · subst hc
      rw [if_pos (beq_self_eq_true _)] at hrun'
      have hnext := ih hcode' hrun'
      rw [List.replicate_succ', List.append_assoc, List.append_assoc] at hnext
      exact hnext
    · rw [if_neg (by simpa using hc)] at hrun'
      have hreset := ih hcode' hrun'
      rw [List.replicate_zero, List.nil_append, List.nil_append] at hreset
      rw [List.cons_append, reader_quotes multiLiteralBody_quote hle hc,
        multiLiteralBody_cons hc (hcode c List.mem_cons_self), hreset]
      rfl

/-! ### Strings of any form -/

theorem readString_single {cs : List Char} (h : ∀ more, cs ≠ '"' :: '"' :: more) :
    readString ('"' :: cs) = basicBody cs := by
  rw [readString]
  exact fun more h' => h more h'

theorem readString_basic (s : List Char) {rest : List Char} (hrest : rest.head? ≠ some '"') :
    readString (basic s ++ rest) = some (s, rest) := by
  rw [basic, List.append_assoc, List.cons_append, List.singleton_append, readString_single,
    basicBody_basicText]
  intro more h
  cases s with
  | nil =>
    cases h
    exact hrest rfl
  | cons c s =>
    rw [basicText] at h
    split at h
    · cases h
    · next hc =>
      obtain ⟨x, xs, hescaped, hx⟩ := escaped_eq_cons_of_ne false (show c ≠ '"' by simpa using hc)
      rw [hescaped] at h
      exact hx (List.cons.inj h).1

theorem readString_literal {s : List Char} (hcontrol : ∀ c ∈ s, isControl c = false)
    (hquote : '\'' ∉ s) {rest : List Char} (hrest : rest.head? ≠ some '\'') :
    readString (literal s ++ rest) = some (s, rest) := by
  rw [literal, List.append_assoc, List.cons_append, List.singleton_append, readString,
    literalBody_append hcontrol hquote]
  intro more h
  cases s with
  | nil =>
    cases h
    exact hrest rfl
  | cons c s => exact hquote ((List.cons.inj h).1 ▸ List.mem_cons_self)

/-- The line end after the opening quotes is there to be dropped. -/
theorem dropNewline_opening {s text : List Char} (quotes : List Char)
    (hnewline : text.head? = some '\n' → '\n' ∈ s) (hreturn : text.head? ≠ some '\r') :
    ∃ more, opening quotes s ++ text = quotes ++ more ∧ dropNewline more = text := by
  rw [opening]
  split
  · exact ⟨'\n' :: text, by simp, rfl⟩
  · next h =>
    refine ⟨text, rfl, ?_⟩
    rw [dropNewline]
    cases text with
    | nil => rfl
    | cons c text =>
      rw [newline?]
      · rfl
      · rintro _ ⟨⟩
        exact h (by simpa using hnewline rfl)
      · rintro _ ⟨⟩
        exact hreturn rfl

theorem head?_basicText {s more : List Char} {x : Char}
    (h : (basicText true 0 s ++ '"' :: more).head? = some x) :
    x = '"' ∨ x = '\\' ∨ x ∈ s ∧ x ≠ '\r' := by
  cases s with
  | nil =>
    cases h
    exact .inl rfl
  | cons c s =>
    rw [basicText] at h
    split at h
    · cases h
      exact .inl rfl
    · obtain ⟨y, ys, hescaped, hy, hreturn⟩ := escaped_eq_cons true c
      rw [hescaped] at h
      cases h
      rcases hy with rfl | rfl
      · exact .inr (.inl rfl)
      · exact .inr (.inr ⟨List.mem_cons_self, hreturn⟩)

theorem readString_multiBasic (s : List Char) {rest : List Char} (hrest : rest.head? ≠ some '"') :
    readString (multiBasic s ++ rest) = some (s, rest) := by
  have hhead : (basicText true 0 s ++ '"' :: '"' :: '"' :: rest).head? = some '\n' → '\n' ∈ s := by
    intro h
    rcases head?_basicText h with h | h | h
    · cases h
    · cases h
    · exact h.1
  have hreturn : (basicText true 0 s ++ '"' :: '"' :: '"' :: rest).head? ≠ some '\r' := by
    intro h
    rcases head?_basicText h with h | h | h
    · cases h
    · cases h
    · exact h.2 rfl
  obtain ⟨more, hopening, hdrop⟩ := dropNewline_opening ['"', '"', '"'] hhead hreturn
  rw [multiBasic, List.append_assoc, List.append_assoc]
  change readString (opening ['"', '"', '"'] s ++ (basicText true 0 s ++ '"' :: '"' :: '"' :: rest)) = _
  rw [hopening]
  change multiBasicBody false (dropNewline more) = _
  rw [hdrop]
  exact multiBasicBody_basicText s 0 (by decide) hrest

theorem readString_multiLiteral {s : List Char} (hcode : ∀ c ∈ s, isCode c = false)
    (hrun : longestRun '\'' 0 s ≤ 2) {rest : List Char} (hrest : rest.head? ≠ some '\'') :
    readString (multiLiteral s ++ rest) = some (s, rest) := by
  have hhead (c : Char) (hc : c ≠ '\'')
      (h : (s ++ '\'' :: '\'' :: '\'' :: rest).head? = some c) : c ∈ s := by
    cases s with
    | nil =>
      cases h
      exact absurd rfl hc
    | cons d s =>
      cases h
      exact List.mem_cons_self
  have hreturn : (s ++ '\'' :: '\'' :: '\'' :: rest).head? ≠ some '\r' := by
    intro h
    have := hcode '\r' (hhead '\r' (by decide) h)
    cases this
  obtain ⟨more, hopening, hdrop⟩ :=
    dropNewline_opening ['\'', '\'', '\''] (hhead '\n' (by decide)) hreturn
  rw [multiLiteral, List.append_assoc, List.append_assoc]
  change readString (opening ['\'', '\'', '\''] s ++ (s ++ '\'' :: '\'' :: '\'' :: rest)) = _
  rw [hopening]
  change multiLiteralBody (dropNewline more) = _
  rw [hdrop]
  exact multiLiteralBody_append hcode hrun hrest

/-- Every string is read back, if no quote follows it. -/
theorem readString_stringText (s : List Char) {rest : List Char}
    (hbasic : rest.head? ≠ some '"') (hliteral : rest.head? ≠ some '\'') :
    readString (stringText s ++ rest) = some (s, rest) := by
  have hcode (h : (!s.any isCode) = true) : ∀ c ∈ s, isCode c = false := by simpa using h
  simp only [stringText]
  split
  · exact readString_basic s hbasic
  split
  · next h =>
    simp only [Bool.and_eq_true] at h
    obtain ⟨⟨hcodes, hnewline⟩, hquote⟩ := h
    refine readString_literal (fun c hc => ?_) (by simpa using hquote) hliteral
    refine isControl_of_not_isCode (hcode hcodes c hc) ?_
    rintro rfl
    simp [hc] at hnewline
  split
  · exact readString_multiBasic s hbasic
  split
  · next h =>
    simp only [Bool.and_eq_true, decide_eq_true_eq] at h
    exact readString_multiLiteral (hcode h.1) h.2 hliteral
  split
  · exact readString_multiBasic s hbasic
  · exact readString_basic s hbasic

end ControllerRemap.Toml
