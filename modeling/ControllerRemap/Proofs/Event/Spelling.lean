import ControllerRemap.Proofs.Event.Grammar

/-! Spellings of a channel. The written form of a channel keeps its meaning when its letters change
case and white space is put around it. A channel of a type without a tag has a written form too,
and every spelling of it is an unknown name. -/

namespace ControllerRemap

namespace Text

/-- Two texts that differ at most in the case of their ASCII letters. -/
def SameLetters : List Char → List Char → Prop :=
  List.Forall₂ fun a b => a = b ∨ a = b.toUpper ∨ a = b.toLower

theorem SameLetters.upper_eq {s t : List Char} (h : SameLetters s t) : upper s = upper t := by
  induction h with
  | nil => rfl
  | cons hab _ ih =>
    rw [upper, upper, List.map_cons, List.map_cons]
    refine congrArg₂ _ ?_ ih
    rcases hab with rfl | rfl | rfl
    · rfl
    · exact Char.toUpper_toUpper_eq_toUpper _
    · exact Char.toUpper_toLower_eq_toUpper _

theorem toUpper_of_mem_upper {cs : List Char} : ∀ c ∈ upper cs, c.toUpper = c :=
  List.forall_mem_map.2 fun c _ => Char.toUpper_toUpper_eq_toUpper c

theorem isBlank_of_isAlpha {c : Char} (h : c.isAlpha = true) : isBlank c = false := by
  have hn : 65 ≤ c.toNat ∧ c.toNat ≤ 90 ∨ 97 ≤ c.toNat ∧ c.toNat ≤ 122 := by
    simpa [Char.isAlpha, Char.isUpper, Char.isLower, UInt32.le_iff_toNat_le] using h
  simp only [isBlank, Bool.or_eq_false_iff, Bool.and_eq_false_iff, beq_eq_false_iff_ne,
    decide_eq_false_iff_not]
  omega

/-- No letter is white space in either case. -/
theorem isBlank_toUpper (c : Char) : isBlank c.toUpper = isBlank c := by
  by_cases h : c.isAlpha = true
  · rw [isBlank_of_isAlpha h, isBlank_of_isAlpha (by rwa [Char.isAlpha_toUpper_eq_isAlpha])]
  · rw [Char.toUpper_eq_of_not_isLower fun hl => h (by simp [Char.isAlpha, hl])]

theorem not_blank_upper_iff {cs : List Char} :
    (∀ c ∈ upper cs, isBlank c = false) ↔ ∀ c ∈ cs, isBlank c = false := by
  rw [upper, List.forall_mem_map]
  simp only [isBlank_toUpper]

/-- White space around a text that has none is what is trimmed. -/
theorem trim_surrounded {front t back : List Char} (hfront : ∀ c ∈ front, isBlank c = true)
    (hback : ∀ c ∈ back, isBlank c = true) (ht : ∀ c ∈ t, isBlank c = false) :
    trim (front ++ t ++ back) = t :=
  IsTrimmed.trim_eq ⟨⟨front, back, List.append_assoc front t back, hfront, hback⟩,
    fun c hc => ht c (List.mem_of_mem_head? hc), fun c hc => ht c (List.mem_of_getLast? hc)⟩

end Text

namespace Channel

/-- A channel is written as a name of the table or as a literal. -/
theorem text_cases (c : Channel) : (c.text, c) ∈ Event.table ∨ c.text = c.literal := by
  rw [text, name?]
  cases hfind : Event.table.find? (fun entry => entry.2 == c) with
  | none => exact .inr rfl
  | some entry =>
    obtain rfl : entry.2 = c := by simpa using List.find?_some hfind
    exact .inl (List.mem_of_find?_eq_some hfind)

theorem isBlank_of_mem_text {c : Channel} {d : Char} (hd : d ∈ c.text.toList) :
    Text.isBlank d = false := by
  rcases c.text_cases with hname | hliteral
  · exact (Event.isNameChar_iff.1 (Event.isNameChar_of_mem_table hname hd)).2.2
  · exact isBlank_of_mem_literal (hliteral ▸ hd)

/-- A written form in upper case is read as its channel, if the type has a tag of its own. -/
theorem read_upper_text (c : Channel) :
    (Event.table.lookup (String.ofList (Text.upper c.text.toList))).or
      (Event.readLiteral? (Text.upper c.text.toList)) = if c.IsNamed then some c else none := by
  refine Option.ext fun d => ?_
  have hparse := c.parse_text d
  rw [parse_eq, Text.trim_eq_self fun _ => isBlank_of_mem_text] at hparse
  rw [Option.ite_none_right_eq_some, Option.some.injEq, ← hparse]
  cases (Event.table.lookup (String.ofList (Text.upper c.text.toList))).or
    (Event.readLiteral? (Text.upper c.text.toList)) <;> simp

/-- No number is read from the written form of a channel whose type has no tag of its own: the
type has no names either, so the form is a literal and has a colon. -/
theorem readNumber?_upper_text {c : Channel} (h : ¬c.IsNamed) :
    Event.readNumber? (Text.upper c.text.toList) = none := by
  have hliteral : c.text = c.literal := c.text_cases.resolve_left fun hname =>
    h (Event.isNamed_of_mem_table hname)
  have hcolon : ':' ∈ Text.upper c.text.toList := by
    rw [hliteral, ← Text.trim_eq_self fun _ => isBlank_of_mem_literal, upper_trim_literal]
    simp
  rw [Option.eq_none_iff_forall_ne_some]
  intro n hn
  rw [Event.readNumber?_eq_some_iff Text.toUpper_of_mem_upper] at hn
  exact hn.ne_colon _ hcolon rfl

/-- However its letters are written and whatever white space surrounds it, the written form of a
channel is read as the channel if its type has a tag of its own, and is an unknown name if not. -/
theorem parse_spelling (c : Channel) {front body back : List Char}
    (hfront : ∀ d ∈ front, Text.isBlank d = true) (hback : ∀ d ∈ back, Text.isBlank d = true)
    (hbody : Text.SameLetters body c.text.toList) :
    parse (String.ofList (front ++ body ++ back)) =
      if c.kind ∈ Kind.named then .ok c else .error (.unknownName (String.ofList body)) := by
  have hupper : Text.upper body = Text.upper c.text.toList := hbody.upper_eq
  have hblank : ∀ d ∈ body, Text.isBlank d = false := by
    rw [← Text.not_blank_upper_iff, hupper, Text.not_blank_upper_iff]
    exact fun _ => isBlank_of_mem_text
  rw [parse_eq, String.toList_ofList, Text.trim_surrounded hfront hback hblank, hupper,
    read_upper_text]
  by_cases h : c.IsNamed
  · rw [if_pos h, if_pos (show c.kind ∈ Kind.named from h), Option.elim_some]
  · rw [if_neg h, if_neg (show c.kind ∉ Kind.named from h), readNumber?_upper_text h]
    rfl

/-- The code has no name, so it is written as a literal. Tag, base and digits change case. -/
theorem parse_spelling_of_unnamed_code :
    let c : Channel := .key 0x2ff
    c.text = "KEY:0x2ff" ∧ (∀ d ∈ ['\t', ' '], Text.isBlank d = true) ∧
      (∀ d ∈ ['\u3000'], Text.isBlank d = true) ∧
      Text.SameLetters "kEy:0X2fF".toList c.text.toList ∧
      parse (String.ofList (['\t', ' '] ++ "kEy:0X2fF".toList ++ ['\u3000'])) = .ok c := by
  intro c
  have htext : c.text = "KEY:0x2ff" := by decide +kernel
  have hfront : ∀ d ∈ ['\t', ' '], Text.isBlank d = true := by simp [Text.isBlank]
  have hback : ∀ d ∈ ['\u3000'], Text.isBlank d = true := by simp [Text.isBlank]
  have hbody : Text.SameLetters "kEy:0X2fF".toList c.text.toList := by
    rw [htext]
    simp [Text.SameLetters]
  exact ⟨htext, hfront, hback, hbody, parse_spelling c hfront hback hbody⟩

example : parse (⟨⟨4⟩, 4⟩ : Channel).text = .error (.unknownName "EV:0x004") := by decide +kernel

end Channel

end ControllerRemap
