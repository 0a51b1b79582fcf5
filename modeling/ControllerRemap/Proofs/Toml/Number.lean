import ControllerRemap.Proofs.Number.Decimal
import ControllerRemap.Proofs.Number.Parts
import ControllerRemap.Proofs.Toml.Blank
import ControllerRemap.Toml.Number
import Mathlib

/-! Reading back the numbers that are written. -/

namespace ControllerRemap.Toml

open Float.Model.UnpackedFloat (Sign)

/-! ### Runs of digits -/

/-- A nonempty run of decimal digits. -/
def Numeral (ds : List Char) : Prop := ds ≠ [] ∧ ∀ c ∈ ds, Digits.isDigit 10 c = true

theorem numeral_digits (n : Nat) : Numeral (Digits.digits 10 n) := by
  refine ⟨?_, fun c => Digits.isDigit_of_mem_digits (by decide) (by decide)⟩
  rw [ne_eq, ← List.length_eq_zero_iff, Digits.length_digits (by decide)]
  omega

section

variable {ds : List Char} (h : Numeral ds)
include h

theorem Numeral.ne {c : Char} (hc : c ∈ ds) {x : Char} (hx : Digits.isDigit 10 x = false) : c ≠ x := by
  rintro rfl
  rw [h.2 c hc] at hx
  cases hx

theorem Numeral.spaced : spaced ds = true := by
  have hne (c : Char) (hc : c ∈ ds) : (c == '_') = false := by
    simpa using h.ne hc (x := '_') (by decide)
  obtain ⟨hnil, -⟩ := h
  induction ds with
  | nil => exact absurd rfl hnil
  | cons c rest ih =>
    cases rest with
    | nil => simp [Toml.spaced, bne, hne c (by simp)]
    | cons d rest =>
      rw [Toml.spaced, bne, hne c (by simp), hne d (by simp)]
      exact ih (fun e he => hne e (List.mem_cons_of_mem c he)) (List.cons_ne_nil d rest)

theorem Numeral.readDigits {c : Char} (more : List Char) (hc : Digits.isDigit 10 c = false)
    (hc' : c ≠ '_') : readDigits 10 (ds ++ c :: more) = some (ds, c :: more) := by
  have hall : ∀ d ∈ ds, (Digits.isDigit 10 d || d == '_') = true := fun d hd => by simp [h.2 d hd]
  have hstop : (Digits.isDigit 10 c || c == '_') = false := by simp [hc, hc']
  have hfilter : ds.filter (· != '_') = ds :=
    List.filter_eq_self.mpr fun d hd => by simpa using h.ne hd (by decide)
  rw [Toml.readDigits]
  simp only [takeWhile_append_cons more hall hstop, dropWhile_append_cons more hall hstop, h.spaced,
    if_true, hfilter]

end

/-! ### Dates and times -/

theorem readField_eq_some {count low high n : Nat} {cs rest : List Char}
    (h : readField count low high cs = some (n, rest)) :
    (cs.take count).length = count ∧ (∀ c ∈ cs.take count, Digits.isDigit 10 c = true) ∧
      rest = cs.drop count := by
  rw [readField] at h
  simp only [Option.bind_eq_bind] at h
  split at h
  · next hlength =>
    obtain ⟨v, hv, hrest⟩ := Option.bind_eq_some_iff.mp h
    rw [Digits.read?] at hv
    split at hv
    · next hdigits =>
      split at hrest
      · simp only [Option.pure_def, Option.some.injEq, Prod.mk.injEq] at hrest
        simp only [Bool.and_eq_true, List.all_eq_true] at hdigits
        exact ⟨hlength, hdigits.2, hrest.2.symm⟩
      · cases hrest
    · cases hv
  · cases h

/-- The digits of a date or a time go on with a mark that no number has there. -/
theorem expect_of_readField {ds more rest : List Char} {c x : Char} {count low high n : Nat}
    (hds : ∀ d ∈ ds, Digits.isDigit 10 d = true) (hc : Digits.isDigit 10 c = false)
    (hx : Digits.isDigit 10 x = false) (hne : c = x → ds.length < count)
    (h : readField count low high (ds ++ c :: more) = some (n, rest)) : expect x rest = none := by
  obtain ⟨hlength, hdigits, rfl⟩ := readField_eq_some h
  have hcount : count ≤ ds.length := by
    by_contra hlt
    have hmem : c ∈ (ds ++ c :: more).take count := by
      rw [List.mem_take_iff_getElem]
      exact ⟨ds.length, by simp; omega, by simp⟩
    rw [hdigits c hmem] at hc
    cases hc
  rw [List.drop_append_of_le_length hcount]
  cases hrest : ds.drop count with
  | nil =>
    have hcx : c ≠ x := fun h => absurd (hne h) (by omega)
    simp [expect, hcx]
  | cons d _ =>
    have hd := hds d (List.drop_subset count ds (by rw [hrest]; exact List.mem_cons_self))
    have hdx : d ≠ x := by
      rintro rfl
      rw [hd] at hx
      cases hx
    simp [expect, hdx]

theorem skipDatetime_eq_none {ds : List Char} (hds : ∀ d ∈ ds, Digits.isDigit 10 d = true) {c : Char}
    (more : List Char) (hc : Digits.isDigit 10 c = false) (htime : c ≠ ':')
    (hdate : c = '-' → ds = []) : skipDatetime (ds ++ c :: more) = none := by
  have hskipDate : skipDate (ds ++ c :: more) = none := by
    rw [skipDate]
    cases hfield : readField 4 0 9999 (ds ++ c :: more) with
    | none => rfl
    | some field =>
      have hmark := expect_of_readField hds hc (by decide) (fun h => by simp [hdate h]) hfield (x := '-')
      simp [hmark]
  have hskipTime : skipTime (ds ++ c :: more) = none := by
    rw [skipTime]
    cases hfield : readField 2 0 23 (ds ++ c :: more) with
    | none => rfl
    | some field =>
      have hmark := expect_of_readField hds hc (by decide) (fun h => absurd h htime) hfield
      simp [hmark]
  rw [skipDatetime, hskipDate, hskipTime]

theorem readNumber_of_no_datetime {cs : List Char} (h : skipDatetime cs = none)
    (hmark : ∀ c more, cs = '0' :: c :: more → c ≠ 'x' ∧ c ≠ 'o' ∧ c ≠ 'b') :
    readNumber cs = readDecimal cs := by
  rw [readNumber, h]
  · exact fun more he => (hmark _ _ he).1 rfl
  · exact fun more he => (hmark _ _ he).2.1 rfl
  · exact fun more he => (hmark _ _ he).2.2 rfl

/-! ### Decimal notation -/

def signText (negative : Bool) : List Char := if negative then ['-'] else []

theorem readSign_append {negative : Bool} {d : Char} {rest : List Char}
    (hd : Digits.isDigit 10 d = true) :
    readSign (signText negative ++ d :: rest) = (negative, d :: rest) := by
  cases negative with
  | true => rfl
  | false =>
    have hne (x : Char) (hx : Digits.isDigit 10 x = false) : d ≠ x := by
      rintro rfl
      rw [hd] at hx
      cases hx
    rw [signText, if_neg (by decide), List.nil_append, readSign]
    · rintro rest ⟨⟩
      exact hne '-' (by decide) rfl
    · rintro rest ⟨⟩
      exact hne '+' (by decide) rfl

theorem readSpecial_of_digit (negative : Bool) {d : Char} {rest : List Char}
    (hd : Digits.isDigit 10 d = true) : readSpecial negative (d :: rest) = none := by
  rw [readSpecial]
  · rintro rest ⟨⟩
    cases hd
  · rintro rest ⟨⟩
    cases hd

section

variable {negative : Bool} {whole : List Char} {c : Char} (more : List Char)
  (hwhole : Numeral whole) (hzero : whole.head? = some '0' → whole.length = 1)
  (hc : Digits.isDigit 10 c = false) (hc' : c ∉ ['_', ':', '-', 'x', 'o', 'b'])
include hwhole hc hc'

theorem skipDatetime_whole : skipDatetime (signText negative ++ (whole ++ c :: more)) = none := by
  simp only [List.mem_cons, List.not_mem_nil, or_false, not_or] at hc'
  cases negative with
  | true =>
    have hnil : ∀ d ∈ ([] : List Char), Digits.isDigit 10 d = true := fun d hd => by cases hd
    exact skipDatetime_eq_none hnil (c := '-') (whole ++ c :: more) rfl (by decide) fun _ => rfl
  | false => exact skipDatetime_eq_none hwhole.2 more hc hc'.2.1 fun h => absurd h hc'.2.2.1

include hzero in
/-- What follows the digits before the point settles whether a number is an integer. -/
theorem readNumber_whole : readNumber (signText negative ++ (whole ++ c :: more)) =
    if startsFloatTail (c :: more) then readFloatTail negative whole (c :: more)
    else (integer? negative (Digits.value 10 whole)).map (·, c :: more) := by
  have hdatetime : skipDatetime (signText negative ++ (whole ++ c :: more)) = none :=
    skipDatetime_whole more hwhole hc hc'
  simp only [List.mem_cons, List.not_mem_nil, or_false, not_or] at hc'
  obtain ⟨hunderscore, -, -, hx, ho, hb⟩ := hc'
  have hdigits := hwhole.readDigits more hc hunderscore
  obtain ⟨d, ds, rfl⟩ := List.exists_cons_of_ne_nil hwhole.1
  have hd := hwhole.2 d List.mem_cons_self
  rw [readNumber_of_no_datetime hdatetime]
  · have hleading : ((d :: ds).length > 1 && (d :: ds).head? == some '0') = false := by
      by_cases h : (d :: ds).head? = some '0'
      · simp [hzero h]
      · simp at h
        simp [h]
    rw [List.cons_append] at hdigits ⊢
    simp only [readDecimal, readSign_append hd, readSpecial_of_digit negative hd, hdigits,
      Option.bind_eq_bind, Option.bind_some, hleading]
    rw [if_neg (by decide)]
    split
    · rfl
    · cases integer? negative (Digits.value 10 (d :: ds)) <;> rfl
  · intro e rest he
    cases negative with
    | true => cases he
    | false =>
      rw [signText, if_neg (by decide), List.nil_append, List.cons_append, List.cons.injEq] at he
      obtain ⟨rfl, he⟩ := he
      obtain rfl : ds = [] := by simpa using hzero rfl
      cases he
      exact ⟨hx, ho, hb⟩

end

/-! ### Integers -/

theorem ofInt_eq (n : Int) : Digits.ofInt n = signText (n < 0) ++ Digits.digits 10 n.natAbs := by
  cases n with
  | ofNat n => simp [Digits.ofInt, signText]
  | negSucc n => simp [Digits.ofInt, signText]

theorem head?_digits_eq_zero {n : Nat} (h : (Digits.digits 10 n).head? = some '0') :
    (Digits.digits 10 n).length = 1 := by
  rcases Nat.eq_zero_or_pos n with rfl | pos
  · rw [Digits.length_digits (by decide), Nat.log_zero_right]
  · exact absurd h (Digits.head?_digits (by decide) (by decide) pos)

theorem readNumber_ofInt {n : Int} (low : -9223372036854775808 ≤ n) (high : n ≤ 9223372036854775807)
    {rest : List Char} (hrest : Ends rest) :
    readNumber (Digits.ofInt n ++ rest) = some (.integer n, rest) := by
  obtain ⟨c, more, rfl, hc⟩ := hrest
  have hinteger : integer? (n < 0) (Digits.value 10 (Digits.digits 10 n.natAbs)) = some (.integer n) := by
    have hsigned : (if decide (n < 0) = true then -(n.natAbs : Int) else n.natAbs) = n := by
      simp only [decide_eq_true_eq]
      omega
    rw [Digits.value_digits (by decide) (by decide), integer?]
    simp only [hsigned]
    rw [if_pos ⟨low, high⟩]
  rw [ofInt_eq, List.append_assoc]
  rcases hc with rfl | rfl | rfl <;>
    rw [readNumber_whole more (numeral_digits n.natAbs) head?_digits_eq_zero (by decide) (by decide),
      hinteger] <;> rfl

/-! ### Floats -/

/-- Numerals on either side of the point, and no zero in front of another digit. -/
structure Positional (whole fraction : List Char) (v : ℚ) : Prop where
  numeral_whole : Numeral whole
  numeral_fraction : Numeral fraction
  leading : whole.head? = some '0' → whole.length = 1
  value_eq : (⟨Digits.value 10 (whole ++ fraction), 0 - fraction.length⟩ : Decimal).value = v

section

variable {ds : List Char} (hds : Numeral ds) (hhead : ds.head? ≠ some '0')
include hds hhead

theorem positional_zeros (k : Nat) : Positional (ds ++ List.replicate k '0') ['0']
    (⟨Digits.value 10 ds, k⟩ : Decimal).value where
  numeral_whole := by
    refine ⟨by simp [hds.1], fun c hc => ?_⟩
    rcases List.mem_append.mp hc with hc | hc
    · exact hds.2 c hc
    · rw [List.eq_of_mem_replicate hc]
      rfl
  numeral_fraction := ⟨by simp, by simp; rfl⟩
  leading := by
    rw [List.head?_append_of_ne_nil _ hds.1]
    exact fun hzero => absurd hzero hhead
  value_eq := by
    have hzeros : List.replicate k '0' ++ ['0'] = List.replicate (k + 1) '0' :=
      List.replicate_succ'.symm
    have hten : (10 : ℚ) ^ (k : Int) = 10 ^ (k + 1) * 10 ^ (0 - (1 : Nat) : Int) := by
      rw [zpow_natCast, pow_succ, mul_assoc]
      norm_num
    rw [List.append_assoc, hzeros, Digits.value_append_eq, Digits.value_zeros, List.length_replicate,
      Decimal.value, Decimal.value, hten, List.length_singleton]
    push_cast
    ring

theorem positional_pad {places : Nat} (hpos : 0 < places) :
    let ps := Digits.pad (places + 1) ds
    Positional (ps.take (ps.length - places)) (ps.drop (ps.length - places))
      (⟨Digits.value 10 ds, -places⟩ : Decimal).value := by
  intro ps
  have hlength : ps.length = max ds.length (places + 1) := by
    simp [ps, Digits.pad]
    omega
  have hdigits : ∀ c ∈ ps, Digits.isDigit 10 c = true := by
    intro c hc
    rcases List.mem_append.mp hc with hc | hc
    · rw [List.eq_of_mem_replicate hc]
      rfl
    · exact hds.2 c hc
  refine ⟨⟨?_, fun c hc => hdigits c (List.mem_of_mem_take hc)⟩,
    ⟨?_, fun c hc => hdigits c (List.mem_of_mem_drop hc)⟩, fun hzero => ?_, ?_⟩
  · rw [ne_eq, List.take_eq_nil_iff]
    rintro (h | h)
    · omega
    · rw [h, List.length_nil] at hlength
      omega
  · rw [ne_eq, List.drop_eq_nil_iff]
    omega
  · -- a zero in front comes from the padding, which makes room for one digit
    rw [List.length_take]
    rcases Nat.lt_or_ge ds.length (places + 1) with short | long
    · omega
    · have hps : ps = ds := by
        simp [ps, Digits.pad, long]
      rw [hps, List.head?_take, if_neg (by omega)] at hzero
      exact absurd hzero hhead
  · rw [List.take_append_drop, Digits.value_pad, Decimal.value, Decimal.value, List.length_drop]
    have hexponent : 0 - ((ps.length - (ps.length - places) : ℕ) : Int) = -places := by omega
    rw [hexponent]

end

theorem exists_positional {d : Decimal} (h : 0 < d.mantissa) : ∃ whole fraction : List Char,
    d.text = whole ++ '.' :: fraction ∧ Positional whole fraction d.value := by
  have hds := numeral_digits d.mantissa
  have hhead : (Digits.digits 10 d.mantissa).head? ≠ some '0' :=
    Digits.head?_digits (by decide) (by decide) h
  have hvalue : Digits.value 10 (Digits.digits 10 d.mantissa) = d.mantissa :=
    Digits.value_digits (by decide) (by decide) d.mantissa
  obtain ⟨m, e⟩ := d
  simp only [Decimal.text] at *
  split
  · next nonneg =>
    obtain ⟨k, rfl⟩ := Int.eq_ofNat_of_zero_le nonneg
    have hzeros := positional_zeros hds hhead k
    rw [hvalue] at hzeros
    exact ⟨_, ['0'], by simp, hzeros⟩
  · next neg =>
    obtain ⟨places, rfl⟩ : ∃ places : Nat, e = -places := ⟨(-e).toNat, by omega⟩
    have hpad := positional_pad hds hhead (show 0 < places by omega)
    rw [hvalue] at hpad
    simp only [neg_neg, Int.toNat_natCast]
    exact ⟨_, _, rfl, hpad⟩

theorem readFloatTail_of_positional {negative : Bool} {whole fraction : List Char} {d : Decimal}
    (h : Positional whole fraction d.value) {rest : List Char} (hrest : Ends rest)
    (hfinite : d.toFloat.isFinite = true) :
    readFloatTail negative whole ('.' :: fraction ++ rest) =
      some (.float (Binary64.signed negative d.toFloat), rest) := by
  obtain ⟨c, more, rfl, hc⟩ := hrest
  have hfloat := Decimal.toFloat_congr h.value_eq
  have hdigits : readDigits 10 (fraction ++ c :: more) = some (fraction, c :: more) := by
    rcases hc with rfl | rfl | rfl <;>
      exact h.numeral_fraction.readDigits more (by decide) (by decide)
  have hmark : readExponentMark (c :: more) = some (0, c :: more) := by
    rcases hc with rfl | rfl | rfl <;> rfl
  have hnumber : float? negative whole fraction 0 =
      some (.float (Binary64.signed negative d.toFloat)) := by
    simp only [float?, hfloat, hfinite, if_true]
    cases negative <;> rfl
  simp only [List.cons_append, readFloatTail, hdigits, hmark, hnumber, Option.bind_eq_bind,
    Option.bind_some]
  rfl

/-- A float is read back with its sign. -/
theorem readNumber_of_positional (negative : Bool) {whole fraction : List Char} {d : Decimal}
    (h : Positional whole fraction d.value) {rest : List Char} (hrest : Ends rest)
    (hfinite : d.toFloat.isFinite = true) :
    readNumber (signText negative ++ (whole ++ '.' :: (fraction ++ rest))) =
      some (.float (Binary64.signed negative d.toFloat), rest) := by
  rw [readNumber_whole (fraction ++ rest) h.numeral_whole h.leading (by decide) (by decide)]
  exact readFloatTail_of_positional h hrest hfinite

theorem readNumber_of_special (negative : Bool) {c : Char} {cs rest : List Char} {x : Float}
    (hc : c = 'i' ∨ c = 'n') (h : readSpecial negative (c :: cs) = some (.float x, rest)) :
    readNumber (signText negative ++ c :: cs) = some (.float x, rest) := by
  have hsign : readSign (signText negative ++ c :: cs) = (negative, c :: cs) := by
    rcases hc with rfl | rfl <;> cases negative <;> rfl
  have hdatetime : skipDatetime (signText negative ++ c :: cs) = none := by
    have hnil : ∀ d ∈ ([] : List Char), Digits.isDigit 10 d = true := fun d hd => by cases hd
    cases negative with
    | true => exact skipDatetime_eq_none hnil (c := '-') (c :: cs) rfl (by decide) fun _ => rfl
    | false => rcases hc with rfl | rfl <;>
        exact skipDatetime_eq_none hnil cs rfl (by decide) fun _ => rfl
  rw [readNumber_of_no_datetime hdatetime]
  · simp only [readDecimal, hsign, h]
  · intro e more he
    cases negative <;> rcases hc with rfl | rfl <;> cases he

section

variable {x : Float} {s : Sign} {rest : List Char} (hrest : Ends rest)
include hrest

theorem readNumber_of_finite {m : Nat} {e : Int} {hm : 0 < m}
    (h : x.toModel.unpack = .finite s m e hm) :
    readNumber (Decimal.textOf "nan" x ++ rest) = some (.float x, rest) := by
  have habs : x.abs.toModel.unpack = .finite .positive m e hm := by rw [Binary64.unpack_abs, h]; rfl
  have hread := Decimal.toFloat_shortest habs
  have hpos : 0 < (Decimal.shortest x.abs m e).mantissa := by
    rw [Nat.pos_iff_ne_zero]
    intro hzero
    rw [Decimal.toFloat, if_pos hzero] at hread
    rw [← hread] at habs
    cases habs
  obtain ⟨whole, fraction, htext, hpositional⟩ := exists_positional hpos
  have hfinite : (Decimal.shortest x.abs m e).toFloat.isFinite = true := by
    rw [hread, Float.isFinite, Float.Model.isFinite, habs]
    rfl
  have hnumber := readNumber_of_positional (Binary64.isMinus s) hpositional hrest hfinite
  rw [hread, Binary64.signed_abs h] at hnumber
  rw [← hnumber, Decimal.textOf, Binary64.parts?_of_finite h]
  simp only [if_neg hm.ne', htext]
  cases s <;> simp [signText, Binary64.isMinus]

theorem readNumber_of_zero (h : x.toModel.unpack = .zero s) :
    readNumber (Decimal.textOf "nan" x ++ rest) = some (.float x, rest) := by
  have hpositional : Positional ['0'] ['0'] (⟨0, 0⟩ : Decimal).value := by
    have hzero : Numeral ['0'] := ⟨by simp, fun c hc => by rw [List.mem_singleton.mp hc]; rfl⟩
    refine ⟨hzero, hzero, fun _ => rfl, ?_⟩
    exact (Decimal.value_eq_zero_iff.mpr rfl).trans (Decimal.value_eq_zero_iff.mpr rfl).symm
  have hnumber := readNumber_of_positional (Binary64.isMinus s) hpositional hrest rfl
  rw [Decimal.toFloat, if_pos rfl, ← Binary64.eq_signed_zero h] at hnumber
  rw [← hnumber, Decimal.textOf, Binary64.parts?_of_zero h]
  cases s <;> rfl

omit hrest

theorem readNumber_of_infinity (h : x.toModel.unpack = .infinity s) :
    readNumber (Decimal.textOf "nan" x ++ rest) = some (.float x, rest) := by
  have hnumber : readNumber (signText (Binary64.isMinus s) ++ ['i', 'n', 'f'] ++ rest) =
      some (.float (Binary64.signed (Binary64.isMinus s) Decimal.infinity), rest) := by
    rw [List.append_assoc]
    exact readNumber_of_special _ (.inl rfl) rfl
  rw [← Binary64.eq_signed_infinity h] at hnumber
  have hnan : x.isNaN = false := by
    rw [Float.isNaN, Float.Model.isNaN, h]
    rfl
  have hneg : x < 0.0 ↔ Binary64.isMinus s = true := by
    change decide (x.toModel.unpack.lt (0.0 : Float).toModel.unpack = true) = true ↔ _
    rw [h]
    cases s <;> decide
  rw [← hnumber, Decimal.textOf, Binary64.parts?_of_infinity h]
  simp only [hnan, hneg]
  cases s <;> rfl

theorem readNumber_of_nan (h : x.toModel.unpack = .notANumber) :
    readNumber (Decimal.textOf "nan" x ++ rest) = some (.float x, rest) := by
  have hnumber : readNumber (['n', 'a', 'n'] ++ rest) = some (.float (0.0 / 0.0), rest) :=
    readNumber_of_special false (.inr rfl) rfl
  have hnan : x.isNaN = true := by
    rw [Float.isNaN, Float.Model.isNaN, h]
    rfl
  rw [← Binary64.eq_nan h] at hnumber
  rw [← hnumber, Decimal.textOf, Binary64.parts?_of_notANumber h]
  simp only [hnan]
  rfl

end

/-- Every float is read back from its text. -/
theorem readNumber_textOf (x : Float) {rest : List Char} (hrest : Ends rest) :
    readNumber (Decimal.textOf "nan" x ++ rest) = some (.float x, rest) := by
  cases h : x.toModel.unpack with
  | notANumber => exact readNumber_of_nan h
  | infinity s => exact readNumber_of_infinity h
  | zero s => exact readNumber_of_zero hrest h
  | finite s m e hm => exact readNumber_of_finite hrest h

end ControllerRemap.Toml
