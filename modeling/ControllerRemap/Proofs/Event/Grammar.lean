import ControllerRemap.Proofs.Event.Name

/-! The grammar of written channels. A channel is read from a name of the table, or from a type
and a number with a colon between them. The grammar says what a numeral, a tag and a literal are
in terms of what they spell, and the reader accepts exactly its texts. -/

namespace ControllerRemap

/-! ### Numerals -/

namespace Digits

/-- Digits in upper case, the most significant one first, and their number. -/
def Spells (base : Nat) (cs : List Char) (n : Nat) : Prop :=
  ∃ ds : List Nat, ds ≠ [] ∧ (∀ d ∈ ds, d < base) ∧ cs = Text.upper (ds.map digitChar) ∧
    n = Nat.ofDigits base ds.reverse

/-- Only digits spell numbers. -/
theorem Spells.exists_digit {base n : Nat} {cs : List Char} (h : Spells base cs n) {c : Char}
    (hc : c ∈ cs) : ∃ d < base, c = (digitChar d).toUpper := by
  obtain ⟨ds, -, hds, rfl, -⟩ := h
  rw [Text.upper, List.map_map] at hc
  obtain ⟨d, hd, rfl⟩ := List.mem_map.1 hc
  exact ⟨d, hds d hd, rfl⟩

theorem value_eq_ofDigits (base : Nat) (cs : List Char) :
    value base cs = Nat.ofDigits base (cs.map fun c => (digitValue? c).getD 0).reverse := by
  rw [Nat.ofDigits_eq_foldr, List.foldr_reverse, List.foldl_map, value]
  congr 1
  funext n c
  simp only [Nat.cast_id]
  ring

/-- A digit is the sign that is written for its value. -/
theorem toUpper_of_digitValue? {c : Char} {d : Nat} (h : digitValue? c = some d) :
    (digitChar d).toUpper = c.toUpper := by
  have hlt : c.toNat < 128 := by
    simp only [digitValue?, Bool.and_eq_true, decide_eq_true_eq] at h
    split_ifs at h <;> omega
  have all : ∀ n ∈ List.range 128, ∀ d ∈ digitValue? (Char.ofNat n),
      (digitChar d).toUpper = (Char.ofNat n).toUpper := by decide +kernel
  have hc := all c.toNat (List.mem_range.2 hlt) d
  rw [Char.ofNat_toNat] at hc
  exact hc h

section

variable {base : Nat} (le : base ≤ 16)
include le

theorem digitValue?_toUpper {d : Nat} (h : d < base) : digitValue? (digitChar d).toUpper = some d := by
  rw [(toUpper_digitChar (by omega)).1, digitValue?_digitChar (by omega)]

/-- A text in upper case is read as a number exactly if it spells the number. -/
theorem read?_eq_some_iff {cs : List Char} (hupper : ∀ c ∈ cs, c.toUpper = c) {n : Nat} :
    read? base cs = some n ↔ Spells base cs n := by
  rw [read?]
  constructor
  · intro h
    obtain ⟨hdigits, hn⟩ := Option.ite_none_right_eq_some.1 h
    rw [Bool.and_eq_true, Bool.not_eq_true', List.isEmpty_eq_false_iff, List.all_eq_true] at hdigits
    obtain ⟨hne, hdigits⟩ := hdigits
    have hdigit {c : Char} (hc : c ∈ cs) :
        (digitValue? c).getD 0 < base ∧ digitValue? c = some ((digitValue? c).getD 0) := by
      have h := hdigits c hc
      rw [isDigit] at h
      split at h
      · next d hd => exact ⟨by simpa [hd] using h, by rw [hd]; rfl⟩
      · cases h
    have hsigns : cs = Text.upper ((cs.map fun c => (digitValue? c).getD 0).map digitChar) := calc
      cs = cs.map Char.toUpper := (Text.upper_eq_self hupper).symm
      _ = cs.map fun c => (digitChar ((digitValue? c).getD 0)).toUpper :=
        List.map_congr_left fun c hc => (toUpper_of_digitValue? (hdigit hc).2).symm
      _ = Text.upper ((cs.map fun c => (digitValue? c).getD 0).map digitChar) := by
        rw [Text.upper, List.map_map, List.map_map]
        rfl
    exact ⟨_, by simpa using hne, List.forall_mem_map.2 fun c hc => (hdigit hc).1, hsigns,
      by rw [← Option.some.inj hn, value_eq_ofDigits]⟩
  · rintro ⟨ds, hne, hds, rfl, rfl⟩
    have hvalues : (Text.upper (ds.map digitChar)).map (fun c => (digitValue? c).getD 0) = ds := by
      rw [Text.upper, List.map_map, List.map_map]
      refine (List.map_congr_left fun d hd => ?_).trans (List.map_id ds)
      exact congrArg (·.getD 0) (digitValue?_toUpper le (hds d hd))
    have hdigits : ∀ c ∈ Text.upper (ds.map digitChar), isDigit base c = true := by
      rw [Text.upper, List.map_map, List.forall_mem_map]
      intro d hd
      rw [isDigit, Function.comp_apply, digitValue?_toUpper le (hds d hd)]
      exact decide_eq_true (hds d hd)
    rw [value_eq_ofDigits, hvalues, if_pos]
    rw [Bool.and_eq_true, Bool.not_eq_true', List.isEmpty_eq_false_iff, List.all_eq_true]
    exact ⟨by simpa [Text.upper] using hne, hdigits⟩

theorem Spells.ne_plus {cs : List Char} {n : Nat} (h : Spells base cs n) {c : Char} (hc : c ∈ cs) :
    c ≠ '+' := by
  obtain ⟨d, hd, rfl⟩ := h.exists_digit hc
  exact (toUpper_digitChar (by omega)).2.1

end

end Digits

namespace Event

/-- A numeral of a number: decimal digits, or `0X` and hexadecimal digits, with at most one plus
sign in front of the digits. -/
inductive IsNumeral : List Char → Nat → Prop where
  | decimal {sign digits : List Char} {n : Nat} (signed : sign = [] ∨ sign = ['+'])
    (spelled : Digits.Spells 10 digits n) : IsNumeral (sign ++ digits) n
  | hexadecimal {sign digits : List Char} {n : Nat} (signed : sign = [] ∨ sign = ['+'])
    (spelled : Digits.Spells 16 digits n) : IsNumeral ('0' :: 'X' :: (sign ++ digits)) n

/-- A text without the plus sign that it may start with. -/
def unsigned (cs : List Char) : List Char :=
  match cs with
  | '+' :: body => body
  | _ => cs

theorem mem_of_mem_unsigned {cs : List Char} {c : Char} (h : c ∈ unsigned cs) : c ∈ cs := by
  unfold unsigned at h
  split at h
  · exact List.mem_cons_of_mem _ h
  · exact h

theorem spells_unsigned_iff {base : Nat} (le : base ≤ 16) {cs : List Char} {n : Nat} :
    Digits.Spells base (unsigned cs) n ↔ ∃ sign digits, cs = sign ++ digits ∧
      (sign = [] ∨ sign = ['+']) ∧ Digits.Spells base digits n := by
  constructor
  · intro h
    unfold unsigned at h
    split at h
    · next digits => exact ⟨['+'], digits, rfl, .inr rfl, h⟩
    · exact ⟨[], cs, rfl, .inl rfl, h⟩
  · rintro ⟨sign, digits, rfl, rfl | rfl, h⟩
    · rw [List.nil_append]
      unfold unsigned
      split
      · exact absurd rfl (h.ne_plus le List.mem_cons_self)
      · exact h
    · exact h

/-- The number of a code, which has 16 bits. -/
def code? (n : Option Nat) : Option UInt16 :=
  match n with
  | some n => if n < 65536 then some (UInt16.ofNat n) else none
  | none => none

theorem code?_eq_some_iff {n : Option Nat} {k : UInt16} : code? n = some k ↔ n = some k.toNat := by
  cases n with
  | none => simp [code?]
  | some n =>
    rw [code?]
    constructor
    · intro h
      obtain ⟨hn, hk⟩ := Option.ite_none_right_eq_some.1 h
      rw [← Option.some.inj hk, UInt16.toNat_ofNat_of_lt' hn]
    · intro h
      rw [Option.some.inj h, if_pos k.toNat_lt, UInt16.ofNat_toNat]

theorem readNumber?_hexadecimal (cs : List Char) :
    readNumber? ('0' :: 'X' :: cs) = code? (Digits.read? 16 (unsigned cs)) := by
  rfl

theorem readNumber?_decimal {cs : List Char} (h : ¬∃ rest, cs = '0' :: 'X' :: rest) :
    readNumber? cs = code? (Digits.read? 10 (unsigned cs)) := by
  unfold readNumber?
  split
  next base rest heq =>
    split at heq
    · exact absurd ⟨_, rfl⟩ h
    · cases heq
      rfl

/-- A text in upper case is read as a code exactly if it is a numeral of the code. -/
theorem readNumber?_eq_some_iff {cs : List Char} (hupper : ∀ c ∈ cs, c.toUpper = c) {k : UInt16} :
    readNumber? cs = some k ↔ IsNumeral cs k.toNat := by
  by_cases hhex : ∃ rest, cs = '0' :: 'X' :: rest
  · obtain ⟨rest, rfl⟩ := hhex
    have hrest : ∀ c ∈ unsigned rest, c.toUpper = c := fun c hc =>
      hupper c (List.mem_cons_of_mem _ (List.mem_cons_of_mem _ (mem_of_mem_unsigned hc)))
    rw [readNumber?_hexadecimal, code?_eq_some_iff, Digits.read?_eq_some_iff (by decide) hrest,
      spells_unsigned_iff (by decide)]
    constructor
    · rintro ⟨sign, digits, rfl, hsign, h⟩
      exact .hexadecimal hsign h
    · intro h
      generalize hcs : '0' :: 'X' :: rest = cs at h
      cases h with
      | hexadecimal signed spelled =>
        cases hcs
        exact ⟨_, _, rfl, signed, spelled⟩
      | @decimal sign digits _ signed spelled =>
        -- the second character would be a decimal digit
        have hmem : 'X' ∈ sign ++ digits := by simp [← hcs]
        have hsign : 'X' ∉ sign := by rcases signed with rfl | rfl <;> decide
        obtain ⟨d, hd, hX⟩ := spelled.exists_digit ((List.mem_append.1 hmem).resolve_left hsign)
        have all : ∀ d ∈ List.range 10, 'X' ≠ (Digits.digitChar d).toUpper := by decide
        exact absurd hX (all d (List.mem_range.2 hd))
  · have hcs : ∀ c ∈ unsigned cs, c.toUpper = c := fun c hc => hupper c (mem_of_mem_unsigned hc)
    rw [readNumber?_decimal hhex, code?_eq_some_iff, Digits.read?_eq_some_iff (by decide) hcs,
      spells_unsigned_iff (by decide)]
    constructor
    · rintro ⟨sign, digits, rfl, hsign, h⟩
      exact .decimal hsign h
    · rintro (⟨signed, spelled⟩ | ⟨signed, spelled⟩)
      · exact ⟨_, _, rfl, signed, spelled⟩
      · exact absurd ⟨_, rfl⟩ hhex

/-- No numeral has a colon. -/
theorem IsNumeral.ne_colon {cs : List Char} {n : Nat} (h : IsNumeral cs n) : ∀ c ∈ cs, c ≠ ':' := by
  have hdigits {base n : Nat} {digits : List Char} (le : base ≤ 16)
      (spelled : Digits.Spells base digits n) : ∀ c ∈ digits, c ≠ ':' := by
    intro c hc
    obtain ⟨d, hd, rfl⟩ := spelled.exists_digit hc
    have all : ∀ d ∈ List.range 16, (Digits.digitChar d).toUpper ≠ ':' := by decide
    exact all d (List.mem_range.2 (by omega))
  have hsign {sign : List Char} (signed : sign = [] ∨ sign = ['+']) : ∀ c ∈ sign, c ≠ ':' := by
    rcases signed with rfl | rfl <;> simp
  cases h with
  | decimal signed spelled =>
    exact List.forall_mem_append.2 ⟨hsign signed, hdigits (by decide) spelled⟩
  | hexadecimal signed spelled =>
    exact List.forall_mem_cons.2 ⟨by decide, List.forall_mem_cons.2 ⟨by decide,
      List.forall_mem_append.2 ⟨hsign signed, hdigits le_rfl spelled⟩⟩⟩

/-! ### Literals -/

/-- The mark `EV_` several times. -/
def marks (k : Nat) : List Char := (List.replicate k ['E', 'V', '_']).flatten

theorem marks_succ (k : Nat) : marks (k + 1) = 'E' :: 'V' :: '_' :: marks k := by
  rw [marks, List.replicate_succ, List.flatten_cons]
  rfl

theorem dropMarks_marks (k : Nat) (cs : List Char) : dropMarks (marks k ++ cs) = dropMarks cs := by
  induction k with
  | zero => rfl
  | succ k ih =>
    rw [marks_succ]
    exact ih

theorem exists_marks (cs : List Char) : ∃ k, cs = marks k ++ dropMarks cs := by
  fun_induction dropMarks cs with
  | case1 rest ih =>
    obtain ⟨k, hk⟩ := ih
    refine ⟨k + 1, ?_⟩
    rw [marks_succ, List.cons_append, List.cons_append, List.cons_append, ← hk]
  | case2 cs => exact ⟨0, rfl⟩

end Event

/-- The tags of the event types that a literal can name; buttons are keys. -/
def Kind.tags : List (String × Kind) :=
  [("SYN", .syn), ("KEY", .key), ("BTN", .key), ("REL", .rel), ("ABS", .abs)]

theorem Kind.ofTag?_eq_some_iff {tag : List Char} {k : Kind} :
    ofTag? tag = some k ↔ (String.ofList tag, k) ∈ tags := by
  unfold ofTag?
  generalize String.ofList tag = name
  split
  all_goals simp_all [tags, eq_comm]

namespace Channel

/-- The texts in upper case that name a channel: the names of the table, and, if it is no name, a
type and a number with a colon between them. The type may have marks in front, and the number
white space around it. -/
inductive Written (u : List Char) (c : Channel) : Prop where
  | name (named : (String.ofList u, c) ∈ Event.table)
  | literal {k : Nat} {tag : String} {number numeral : List Char}
    (unnamed : String.ofList u ∉ keys Event.table)
    (split : u = Event.marks k ++ tag.toList ++ ':' :: number) (tagged : (tag, c.kind) ∈ Kind.tags)
    (trimmed : Text.IsTrimmed number numeral)
    (numbered : Event.IsNumeral numeral c.code.toNat) : Written u c

/-- Neither marks nor tags have a colon, and no tag starts with a mark. -/
theorem ne_colon_of_tag {tag : String} {kind : Kind} (h : (tag, kind) ∈ Kind.tags) (k : Nat) :
    (∀ d ∈ Event.marks k ++ tag.toList, (d != ':') = true) ∧
      Event.dropMarks (Event.marks k ++ tag.toList) = tag.toList := by
  have all : ∀ x ∈ Kind.tags, x.1.toList.all (· != ':') = true ∧
      Event.dropMarks x.1.toList = x.1.toList := by decide +kernel
  obtain ⟨htag, hdrop⟩ := all _ h
  rw [Event.dropMarks_marks]
  refine ⟨List.forall_mem_append.2 ⟨fun d hd => ?_, List.all_eq_true.1 htag⟩, hdrop⟩
  obtain ⟨mark, hmark, hd⟩ := List.mem_flatten.1 hd
  rw [List.eq_of_mem_replicate hmark] at hd
  have hmarks : (['E', 'V', '_'].all (· != ':')) = true := by decide
  exact List.all_eq_true.1 hmarks d hd

theorem readLiteral?_of_not_colon {u : List Char} (h : ':' ∉ u) : Event.readLiteral? u = none := by
  have hdrop : u.dropWhile (· != ':') = [] := by
    rw [List.dropWhile_eq_nil_iff]
    exact fun d hd => bne_iff_ne.2 fun hcolon => h (hcolon ▸ hd)
  rw [Event.readLiteral?, hdrop]

/-- A colon parts a literal into a type and a number. -/
theorem readLiteral?_append_colon_eq_some_iff {front number : List Char}
    (hfront : ∀ d ∈ front, (d != ':') = true) {c : Channel} :
    Event.readLiteral? (front ++ ':' :: number) = some c ↔
      Kind.ofTag? (Event.dropMarks front) = some c.kind ∧
        Event.readNumber? (Text.trim number) = some c.code := by
  rw [Event.readLiteral?_append_colon hfront, Option.bind_eq_some_iff]
  simp only [Option.map_eq_some_iff]
  constructor
  · rintro ⟨kind, hkind, code, hcode, rfl⟩
    exact ⟨hkind, hcode⟩
  · rintro ⟨hkind, hcode⟩
    exact ⟨c.kind, hkind, c.code, hcode, rfl⟩

/-- A literal is read exactly if it splits into marks, a tag, a colon and a number. -/
theorem readLiteral?_eq_some_iff {u : List Char} (hupper : ∀ d ∈ u, d.toUpper = d) {c : Channel} :
    Event.readLiteral? u = some c ↔ ∃ k tag number numeral,
      u = Event.marks k ++ tag.toList ++ ':' :: number ∧ (tag, c.kind) ∈ Kind.tags ∧
      Text.IsTrimmed number numeral ∧ Event.IsNumeral numeral c.code.toNat := by
  -- the number is in upper case, as it is a part of the text
  have hnumeral {front number numeral : List Char} (hu : u = front ++ ':' :: number)
      (ht : Text.IsTrimmed number numeral) : ∀ d ∈ numeral, d.toUpper = d := by
    obtain ⟨before, after, rfl, -, -⟩ := ht.around
    exact fun d hd => hupper d (by simp [hu, hd])
  constructor
  · intro h
    by_cases hcolon : ':' ∈ u
    · obtain ⟨front, number, hu, hfront⟩ := List.eq_append_cons_of_mem hcolon
      have hne : ∀ d ∈ front, (d != ':') = true :=
        fun d hd => bne_iff_ne.2 fun hd' => hfront (hd' ▸ hd)
      rw [hu, readLiteral?_append_colon_eq_some_iff hne] at h
      obtain ⟨hkind, hcode⟩ := h
      obtain ⟨k, hk⟩ := Event.exists_marks front
      have htrim := Text.isTrimmed_trim number
      refine ⟨k, String.ofList (Event.dropMarks front), number, Text.trim number, ?_,
        Kind.ofTag?_eq_some_iff.1 hkind, htrim,
        (Event.readNumber?_eq_some_iff (hnumeral hu htrim)).1 hcode⟩
      rw [String.toList_ofList, ← hk, hu]
    · rw [readLiteral?_of_not_colon hcolon] at h
      cases h
  · rintro ⟨k, tag, number, numeral, hu, htag, htrim, hnum⟩
    obtain ⟨hne, hdrop⟩ := ne_colon_of_tag htag k
    rw [hu, readLiteral?_append_colon_eq_some_iff hne, hdrop, htrim.trim_eq,
      Event.readNumber?_eq_some_iff (hnumeral hu htrim), Kind.ofTag?_eq_some_iff, String.ofList_toList]
    exact ⟨htag, hnum⟩

/-! ### Channels -/

/-- The grammar is that of the table first and of literals second. -/
theorem written_iff {u : List Char} (hupper : ∀ d ∈ u, d.toUpper = d) {c : Channel} : Written u c ↔
    (Event.table.lookup (String.ofList u)).or (Event.readLiteral? u) = some c := by
  have hname {d : Channel} : Event.table.lookup (String.ofList u) = some d ↔
      (String.ofList u, d) ∈ Event.table := lookup_eq_some_iff Event.nodup_keys_table
  cases hlookup : Event.table.lookup (String.ofList u) with
  | some d =>
    have hmem := hname.1 hlookup
    rw [Option.some_or, Option.some.injEq]
    constructor
    · rintro (hc | ⟨unnamed, -⟩)
      · exact Option.some.inj (hlookup.symm.trans (hname.2 hc))
      · exact absurd (mem_keys hmem) unnamed
    · rintro rfl
      exact .name hmem
  | none =>
    have hunnamed : String.ofList u ∉ keys Event.table := by
      intro hmem
      obtain ⟨e, he, heq⟩ := List.mem_map.1 hmem
      have hfound : Event.table.lookup e.1 = some e.2 := Event.lookup_table he
      rw [heq, hlookup] at hfound
      cases hfound
    rw [Option.none_or, readLiteral?_eq_some_iff hupper]
    constructor
    · rintro (hc | ⟨-, hsplit, htag, htrim, hnum⟩)
      · cases hlookup.symm.trans (hname.2 hc)
      · exact ⟨_, _, _, _, hsplit, htag, htrim, hnum⟩
    · rintro ⟨k, tag, number, numeral, hsplit, htag, htrim, hnum⟩
      exact .literal hunnamed hsplit htag htrim hnum

/-- The table is looked at first, then the text is read as a literal; a numeral has a message of
its own. -/
theorem parse_eq (text : String) : parse text =
    ((Event.table.lookup (String.ofList (Text.upper (Text.trim text.toList)))).or
      (Event.readLiteral? (Text.upper (Text.trim text.toList)))).elim
      (.error (if (Event.readNumber? (Text.upper (Text.trim text.toList))).isSome
        then .missingKind (String.ofList (Text.trim text.toList))
        else .unknownName (String.ofList (Text.trim text.toList)))) .ok := by
  rw [parse]
  cases Event.table.lookup (String.ofList (Text.upper (Text.trim text.toList))) with
  | some c => rfl
  | none =>
    cases Event.readLiteral? (Text.upper (Text.trim text.toList)) with
    | some c => rfl
    | none => exact (apply_ite Except.error _ _ _).symm

/-- A text is read as the channel that it names in upper case, without the white space around it.
A text that names none is a number without a type if it has no colon and is a numeral of a code,
and else an unknown name. -/
theorem parse_outcome (text : String) :
    let t := Text.trim text.toList
    let u := Text.upper t
    let bare := ':' ∉ u ∧ ∃ n : UInt16, Event.IsNumeral u n.toNat
    Text.IsTrimmed text.toList t ∧ (∀ c, parse text = .ok c ↔ Written u c) ∧
      ∀ error, parse text = .error error ↔ (∀ c, ¬Written u c) ∧
        (bare ∧ error = .missingKind (String.ofList t) ∨
          ¬bare ∧ error = .unknownName (String.ofList t)) := by
  intro t u bare
  have hupper : ∀ d ∈ u, d.toUpper = d :=
    List.forall_mem_map.2 fun d _ => Char.toUpper_eq_of_not_isLower (by simp)
  have hbare : (Event.readNumber? u).isSome = true ↔ bare := by
    rw [Option.isSome_iff_exists]
    simp only [Event.readNumber?_eq_some_iff hupper]
    refine ⟨fun h => ⟨fun hcolon => ?_, h⟩, And.right⟩
    obtain ⟨n, hn⟩ := h
    exact hn.ne_colon _ hcolon rfl
  have hparse : parse text =
      ((Event.table.lookup (String.ofList u)).or (Event.readLiteral? u)).elim
        (.error (if (Event.readNumber? u).isSome then .missingKind (String.ofList t)
          else .unknownName (String.ofList t))) .ok := parse_eq text
  refine ⟨Text.isTrimmed_trim _, ?_⟩
  simp only [written_iff hupper, hparse]
  cases (Event.table.lookup (String.ofList u)).or (Event.readLiteral? u) with
  | some d => simp
  | none =>
    refine ⟨by simp, fun error => ?_⟩
    by_cases h : (Event.readNumber? u).isSome = true
    · have hb := hbare.1 h
      simp only [Option.elim_none, if_pos h, Except.error.injEq, hb, not_true, false_and, or_false,
        true_and]
      simp [eq_comm]
    · have hb := mt hbare.2 h
      simp only [Option.elim_none, if_neg h, Except.error.injEq, hb, not_false_iff, false_and,
        false_or, true_and]
      simp [eq_comm]

example : parse " ev_EV_btn: +0304\t" = .ok (.key 304) := by decide +kernel

example : parse " 0x+1f " = .error (.missingKind "0x+1f") := by decide +kernel

end Channel

end ControllerRemap
