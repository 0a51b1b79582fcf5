import ControllerRemap.Event.Name
import ControllerRemap.Proofs.Association
import ControllerRemap.Proofs.Number.Digits
import Mathlib

/-! Reading back the written form of a channel. The names of the table and the literals of named types
are read as the channel they stand for. A type without a tag of its own cannot be read from a
literal. -/

namespace ControllerRemap

/-- The types whose codes have names. -/
def Kind.named : List Kind := [.syn, .key, .rel, .abs]

theorem Kind.tag_eq_ev_iff {k : Kind} : k.tag = "EV" ↔ k ∉ Kind.named := by
  constructor
  · intro h hk
    have all : ∀ k ∈ Kind.named, k.tag ≠ "EV" := by decide
    exact all k hk h
  · intro h
    simp only [Kind.named, List.mem_cons, List.not_mem_nil, or_false, not_or] at h
    obtain ⟨hsyn, hkey, hrel, habs⟩ := h
    rw [Kind.tag, if_neg hsyn, if_neg hkey, if_neg hrel, if_neg habs]

/-- A channel whose type has a tag of its own. -/
def Channel.IsNamed (c : Channel) : Prop := c.kind ∈ Kind.named

instance : DecidablePred Channel.IsNamed := fun c => inferInstanceAs (Decidable (c.kind ∈ Kind.named))

/-! ### The table of names -/

namespace Event

/-- The bytes of a name as one number; numbers are faster to compare than texts. -/
def nameNumber (name : String) : Nat :=
  name.toByteArray.data.toList.foldl (fun n byte => n * 256 + byte.toNat) 0

theorem nodup_keys_table : (keys table).Nodup := by
  have hnumbers : ((keys table).map nameNumber).Nodup := by decide +kernel
  exact hnumbers.of_map

theorem lookup_table {name : String} {c : Channel} (h : (name, c) ∈ table) :
    table.lookup name = some c :=
  (lookup_eq_some_iff nodup_keys_table).mpr h

/-- A character of a name in upper case. -/
def isNameChar (c : Char) : Bool := c.toUpper == c && c != ':' && !Text.isBlank c

theorem isNameChar_iff {c : Char} :
    isNameChar c = true ↔ c.toUpper = c ∧ c ≠ ':' ∧ Text.isBlank c = false := by
  simp [isNameChar, and_assoc]

theorem isNameChar_of_mem_table {name : String} {c : Channel} (h : (name, c) ∈ table) {d : Char}
    (hd : d ∈ name.toList) : isNameChar d = true := by
  have all : (table.all fun e => e.1.toList.all isNameChar) = true := by decide +kernel
  exact List.all_eq_true.mp (List.all_eq_true.mp all _ h) d hd

theorem isNamed_of_mem_table {name : String} {c : Channel} (h : (name, c) ∈ table) : c.IsNamed := by
  have all : (table.all fun e => decide e.2.IsNamed) = true := by decide +kernel
  exact of_decide_eq_true (List.all_eq_true.mp all _ h)

/-- A colon stands in no name. -/
theorem lookup_table_of_colon {name : String} (h : ':' ∈ name.toList) : table.lookup name = none := by
  refine lookup_eq_none fun hmem => ?_
  obtain ⟨e, he, rfl⟩ := List.mem_map.mp hmem
  exact absurd (isNameChar_of_mem_table he h) (by decide)

end Event

/-! ### Letters and digits -/

namespace Text

/-- What stands between the white space at both ends of a text. -/
structure IsTrimmed (s t : List Char) : Prop where
  around : ∃ front back, s = front ++ (t ++ back) ∧ (∀ c ∈ front, isBlank c = true) ∧
    ∀ c ∈ back, isBlank c = true
  head : ∀ c ∈ t.head?, isBlank c = false
  last : ∀ c ∈ t.getLast?, isBlank c = false

theorem dropWhile_isBlank {front cs : List Char} (hfront : ∀ c ∈ front, isBlank c = true)
    (hhead : ∀ c ∈ cs.head?, isBlank c = false) : (front ++ cs).dropWhile isBlank = cs := by
  rw [List.dropWhile_append_of_pos hfront]
  cases cs with
  | nil => rfl
  | cons c cs => exact List.dropWhile_cons_of_neg (by simp [hhead c rfl])

theorem isTrimmed_trim (s : List Char) : IsTrimmed s (trim s) := by
  have hblank (cs : List Char) : ∀ c ∈ cs.takeWhile isBlank, isBlank c = true := fun c hc =>
    List.mem_takeWhile_imp hc
  have hhead (cs : List Char) : ∀ c ∈ (cs.dropWhile isBlank).head?, isBlank c = false := by
    intro c hc
    have h := List.head?_dropWhile_not isBlank cs
    rw [Option.mem_def.1 hc] at h
    exact h
  have hinner : trim s ++ ((s.dropWhile isBlank).reverse.takeWhile isBlank).reverse =
      s.dropWhile isBlank := by
    rw [trim, ← List.reverse_append, List.takeWhile_append_dropWhile, List.reverse_reverse]
  refine ⟨⟨s.takeWhile isBlank, ((s.dropWhile isBlank).reverse.takeWhile isBlank).reverse, ?_,
    hblank s, fun c hc => hblank _ c (List.mem_reverse.1 hc)⟩, fun c hc => ?_, fun c hc => ?_⟩
  · rw [hinner, List.takeWhile_append_dropWhile]
  · refine hhead s c ?_
    rw [← hinner, List.head?_append, Option.mem_def.1 hc]
    rfl
  · rw [trim, List.getLast?_reverse] at hc
    exact hhead _ c hc

theorem IsTrimmed.trim_eq {s t : List Char} (h : IsTrimmed s t) : trim s = t := by
  obtain ⟨⟨front, back, rfl, hfront, hback⟩, hhead, hlast⟩ := h
  cases t with
  | nil =>
    have hall : (front ++ ([] ++ back)).dropWhile isBlank = [] := by
      rw [List.dropWhile_eq_nil_iff]
      simpa [or_imp, forall_and] using ⟨hfront, hback⟩
    rw [trim, hall]
    rfl
  | cons c cs =>
    rw [← List.head?_reverse] at hlast
    rw [trim, dropWhile_isBlank hfront (by simpa using hhead), List.reverse_append,
      dropWhile_isBlank (by simpa using hback) hlast, List.reverse_reverse]

theorem trim_eq_self {cs : List Char} (h : ∀ c ∈ cs, isBlank c = false) : trim cs = cs :=
  IsTrimmed.trim_eq ⟨⟨[], [], (List.append_nil cs).symm, List.forall_mem_nil _, List.forall_mem_nil _⟩,
    fun c hc => h c (List.mem_of_mem_head? hc), fun c hc => h c (List.mem_of_getLast? hc)⟩

theorem upper_eq_self {cs : List Char} (h : ∀ c ∈ cs, c.toUpper = c) : upper cs = cs :=
  (List.map_congr_left h).trans (List.map_id cs)

end Text

namespace Digits

/-- A hexadecimal digit keeps its value in upper case. -/
theorem toUpper_digitChar {d : Nat} (h : d < 16) :
    digitValue? (digitChar d).toUpper = digitValue? (digitChar d) ∧
      (digitChar d).toUpper ≠ '+' ∧ Text.isBlank (digitChar d) = false ∧
      Text.isBlank (digitChar d).toUpper = false := by
  have all : ∀ e ∈ List.range 16, digitValue? (digitChar e).toUpper = digitValue? (digitChar e) ∧
      (digitChar e).toUpper ≠ '+' ∧ Text.isBlank (digitChar e) = false ∧
      Text.isBlank (digitChar e).toUpper = false := by
    decide
  exact all d (List.mem_range.mpr h)

theorem value_upper {base : Nat} {cs : List Char}
    (h : ∀ c ∈ cs, digitValue? c.toUpper = digitValue? c) :
    value base (Text.upper cs) = value base cs := by
  rw [value, value, Text.upper, List.foldl_map]
  exact List.foldl_ext _ _ _ fun n c hc => by rw [h c hc]

/-- A numeral in upper case, with zeros in front, is read as its number. -/
theorem read?_upper_pad (n width : Nat) :
    read? 16 (Text.upper (pad width (digits 16 n))) = some n := by
  have hne : (Text.upper (pad width (digits 16 n))).isEmpty = false := by
    rw [List.isEmpty_eq_false_iff, ← List.length_pos_iff, Text.length_upper, pad, List.length_append,
      length_digits (by omega)]
    omega
  have hdigits : (Text.upper (pad width (digits 16 n))).all (isDigit 16) = true := by
    rw [List.all_eq_true]
    intro c hc
    obtain ⟨e, he, rfl⟩ := List.mem_map.mp hc
    obtain ⟨d, hd, rfl⟩ := exists_digitChar_of_mem_pad (by omega) he
    rw [isDigit, (toUpper_digitChar hd).1]
    exact isDigit_digitChar hd le_rfl
  have hvalue : value 16 (Text.upper (pad width (digits 16 n))) = n := by
    rw [value_upper, value_pad, value_digits (by omega) le_rfl]
    intro c hc
    obtain ⟨d, hd, rfl⟩ := exists_digitChar_of_mem_pad (by omega) hc
    exact (toUpper_digitChar hd).1
  rw [read?, hne, hdigits, hvalue]
  rfl

end Digits

/-! ### Literals -/

namespace Event

theorem readNumber?_hex (n : UInt16) (width : Nat) :
    readNumber? ('0' :: 'X' :: Text.upper (Digits.pad width (Digits.digits 16 n.toNat))) = some n := by
  have hplus (body : List Char) :
      Text.upper (Digits.pad width (Digits.digits 16 n.toNat)) ≠ '+' :: body := by
    intro h
    obtain ⟨c, hc, hplus⟩ := List.mem_map.mp (h ▸ List.mem_cons_self :
      '+' ∈ Text.upper (Digits.pad width (Digits.digits 16 n.toNat)))
    obtain ⟨d, hd, rfl⟩ := Digits.exists_digitChar_of_mem_pad (by omega) hc
    exact (Digits.toUpper_digitChar hd).2.1 hplus
  simp only [readNumber?, Digits.read?_upper_pad]
  rw [if_pos n.toNat_lt, UInt16.ofNat_toNat]

/-- The tag of a named type is read as the type, and no other tag is read. -/
theorem ofTag?_tag (k : Kind) :
    Kind.ofTag? (dropMarks k.tag.toList) = if k ∈ Kind.named then some k else none := by
  by_cases h : k ∈ Kind.named
  · have all : ∀ k ∈ Kind.named, Kind.ofTag? (dropMarks k.tag.toList) = some k := by decide
    rw [all k h, if_pos h]
  · rw [Kind.tag_eq_ev_iff.mpr h, if_neg h]
    decide

/-- The first colon stands between the type and the number. -/
theorem readLiteral?_append_colon {front number : List Char} (hfront : ∀ d ∈ front, (d != ':') = true) :
    readLiteral? (front ++ ':' :: number) = (Kind.ofTag? (dropMarks front)).bind fun kind =>
      (readNumber? (Text.trim number)).map (Channel.mk kind) := by
  rw [readLiteral?, List.dropWhile_append_of_pos hfront, List.takeWhile_append_of_pos hfront]
  simp only [List.dropWhile_cons, List.takeWhile_cons, bne_self_eq_false, Bool.false_eq_true, if_false,
    List.append_nil]
  cases Kind.ofTag? (dropMarks front) with
  | none => rfl
  | some kind => cases readNumber? (Text.trim number) <;> rfl

theorem isNameChar_of_mem_tag {k : Kind} {c : Char} (hc : c ∈ k.tag.toList) : isNameChar c = true := by
  have all : (Kind.named.all fun k => k.tag.toList.all isNameChar) = true := by decide +kernel
  have hev : ("EV".toList.all isNameChar) = true := by decide +kernel
  by_cases h : k ∈ Kind.named
  · exact List.all_eq_true.mp (List.all_eq_true.mp all k h) c hc
  · rw [Kind.tag_eq_ev_iff.mpr h] at hc
    exact List.all_eq_true.mp hev c hc

end Event

theorem Kind.parse_tag {k : Kind} (h : k ∈ Kind.named) : Kind.parse k.tag = .ok k := by
  have all : (Kind.named.all fun k => Kind.parse k.tag == .ok k) = true := by decide +kernel
  exact beq_iff_eq.mp (List.all_eq_true.mp all k h)

namespace Channel

theorem toList_literal (c : Channel) : c.literal.toList = c.kind.tag.toList ++ ':' :: '0' :: 'x' ::
    Digits.pad 3 (Digits.digits 16 c.code.toNat) := by
  simp [literal]

theorem isBlank_of_mem_literal {c : Channel} {d : Char} (hd : d ∈ c.literal.toList) :
    Text.isBlank d = false := by
  rw [toList_literal, List.mem_append] at hd
  rcases hd with hd | hd
  · exact (Event.isNameChar_iff.mp (Event.isNameChar_of_mem_tag hd)).2.2
  · simp only [List.mem_cons] at hd
    rcases hd with rfl | rfl | rfl | hd
    · decide
    · decide
    · decide
    · obtain ⟨e, he, rfl⟩ := Digits.exists_digitChar_of_mem_pad (by omega) hd
      exact (Digits.toUpper_digitChar he).2.2.1

/-- A literal in upper case. -/
theorem upper_trim_literal (c : Channel) :
    Text.upper (Text.trim c.literal.toList) = c.kind.tag.toList ++ ':' :: '0' :: 'X' ::
      Text.upper (Digits.pad 3 (Digits.digits 16 c.code.toNat)) := by
  have htag : Text.upper c.kind.tag.toList = c.kind.tag.toList :=
    Text.upper_eq_self fun d hd =>
      (Event.isNameChar_iff.mp (Event.isNameChar_of_mem_tag hd)).1
  rw [Text.trim_eq_self fun d => isBlank_of_mem_literal, toList_literal, Text.upper, List.map_append]
  exact congrArg (· ++ _) htag

theorem readLiteral?_literal (c : Channel) :
    Event.readLiteral? (Text.upper (Text.trim c.literal.toList)) =
      if c.IsNamed then some c else none := by
  have htag : ∀ d ∈ c.kind.tag.toList, (d != ':') = true := fun d hd => by
    simpa using (Event.isNameChar_iff.mp (Event.isNameChar_of_mem_tag hd)).2.1
  have htrim : Text.trim ('0' :: 'X' :: Text.upper (Digits.pad 3 (Digits.digits 16 c.code.toNat))) =
      '0' :: 'X' :: Text.upper (Digits.pad 3 (Digits.digits 16 c.code.toNat)) := by
    refine Text.trim_eq_self fun d hd => ?_
    simp only [List.mem_cons] at hd
    rcases hd with rfl | rfl | hd
    · decide
    · decide
    · obtain ⟨e, he, rfl⟩ := List.mem_map.mp hd
      obtain ⟨n, hn, rfl⟩ := Digits.exists_digitChar_of_mem_pad (by omega) he
      exact (Digits.toUpper_digitChar hn).2.2.2
  rw [upper_trim_literal, Event.readLiteral?_append_colon htag, Event.ofTag?_tag, htrim,
    Event.readNumber?_hex]
  change ((if c.IsNamed then some c.kind else none).bind fun _ => _) = _
  by_cases h : c.IsNamed
  · rw [if_pos h, if_pos h]
    rfl
  · rw [if_neg h, if_neg h]
    rfl

theorem lookup_upper_literal (c : Channel) :
    Event.table.lookup (String.ofList (Text.upper (Text.trim c.literal.toList))) = none := by
  refine Event.lookup_table_of_colon ?_
  rw [String.toList_ofList, upper_trim_literal]
  simp

theorem parse_name {name : String} {c : Channel} (h : (name, c) ∈ Event.table) :
    parse name = .ok c := by
  have hchar : ∀ d ∈ name.toList, d.toUpper = d ∧ d ≠ ':' ∧ Text.isBlank d = false :=
    fun d hd => Event.isNameChar_iff.mp (Event.isNameChar_of_mem_table h hd)
  have htext : String.ofList (Text.upper (Text.trim name.toList)) = name := by
    rw [Text.trim_eq_self fun d hd => (hchar d hd).2.2, Text.upper_eq_self fun d hd => (hchar d hd).1,
      String.ofList_toList]
  simp only [parse, htext, Event.lookup_table h]

/-- The written form of a channel is read as the channel, if its type has a tag of its own, and as
nothing otherwise. -/
theorem parse_text (c d : Channel) : parse c.text = .ok d ↔ c.IsNamed ∧ c = d := by
  rw [text, name?]
  cases hfind : Event.table.find? (fun entry => entry.2 == c) with
  | some entry =>
    obtain ⟨name, c'⟩ := entry
    have hmem := List.mem_of_find?_eq_some hfind
    obtain rfl : c' = c := by simpa using List.find?_some hfind
    change parse name = .ok d ↔ _
    rw [parse_name hmem, Except.ok.injEq]
    simp [Event.isNamed_of_mem_table hmem]
  | none =>
    change parse c.literal = .ok d ↔ _
    simp only [parse, lookup_upper_literal, readLiteral?_literal]
    by_cases h : c.IsNamed
    · simp [h]
    · simp only [h, if_false, false_and, iff_false]
      split <;> simp

end Channel

end ControllerRemap
