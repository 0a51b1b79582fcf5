import ControllerRemap.Number.Digits
import Mathlib

/-! The shape of numerals. -/

namespace ControllerRemap.Digits

theorem isDigit_digitChar {base d : Nat} (lt : d < base) (le : base ≤ 16) :
    isDigit base (digitChar d) = true := by
  rw [isDigit, digitValue?_digitChar (by omega)]
  exact decide_eq_true lt

section

variable {base : Nat} (two_le : 2 ≤ base)
include two_le

theorem length_digits (n : Nat) : (digits base n).length = Nat.log base n + 1 := by
  induction n using Nat.strongRecOn with
  | _ n ih =>
    rw [digits]
    split
    · next h =>
      rw [List.length_append, ih _ (Nat.div_lt_self (by omega) (by omega)),
        Nat.log_of_one_lt_of_le (by omega) h.2]
      rfl
    · next h =>
      rw [Nat.log_of_lt (by omega)]
      rfl

theorem exists_digitChar_of_mem_digits {n : Nat} {c : Char} (hc : c ∈ digits base n) :
    ∃ d, d < base ∧ c = digitChar d := by
  induction n using Nat.strongRecOn with
  | _ n ih =>
    rw [digits] at hc
    split at hc
    · next h =>
      rcases List.mem_append.mp hc with hc | hc
      · exact ih _ (Nat.div_lt_self (by omega) (by omega)) hc
      · exact ⟨n % base, Nat.mod_lt _ (by omega), List.mem_singleton.mp hc⟩
    · next h => exact ⟨n, by omega, List.mem_singleton.mp hc⟩

theorem exists_digitChar_of_mem_pad {n width : Nat} {c : Char} (hc : c ∈ pad width (digits base n)) :
    ∃ d, d < base ∧ c = digitChar d := by
  rcases List.mem_append.mp hc with hc | hc
  · exact ⟨0, by omega, List.eq_of_mem_replicate hc⟩
  · exact exists_digitChar_of_mem_digits two_le hc

theorem isDigit_of_mem_digits (le : base ≤ 16) {n : Nat} {c : Char} (hc : c ∈ digits base n) :
    isDigit base c = true := by
  obtain ⟨d, hd, rfl⟩ := exists_digitChar_of_mem_digits two_le hc
  exact isDigit_digitChar hd le

/-- A numeral of a positive number starts with another digit than zero. -/
theorem head?_digits (le : base ≤ 16) {n : Nat} (hn : 0 < n) : (digits base n).head? ≠ some '0' := by
  induction n using Nat.strongRecOn with
  | _ n ih =>
    rw [digits]
    split
    · next h =>
      have hdiv : 0 < n / base := Nat.div_pos h.2 (by omega)
      have hne : digits base (n / base) ≠ [] := by
        rw [ne_eq, ← List.length_eq_zero_iff, length_digits two_le]
        omega
      rw [List.head?_append_of_ne_nil _ hne]
      exact ih _ (Nat.div_lt_self (by omega) (by omega)) hdiv
    · next h =>
      have all : ∀ d ∈ List.range 16, 0 < d → digitChar d ≠ '0' := by decide
      simpa using all n (List.mem_range.mpr (by omega)) hn

end

theorem value_append_eq (base : Nat) (cs ds : List Char) :
    value base (cs ++ ds) = value base cs * base ^ ds.length + value base ds := by
  induction ds using List.reverseRecOn with
  | nil => simp [value]
  | append_singleton ds d ih =>
    rw [← List.append_assoc]
    simp only [value, List.foldl_append, List.foldl_cons, List.foldl_nil, List.length_append,
      List.length_singleton] at ih ⊢
    rw [ih]
    ring

theorem value_zeros (base n : Nat) : value base (List.replicate n '0') = 0 := by
  induction n with
  | zero => rfl
  | succ n ih =>
    rw [List.replicate_succ', value_append_eq, ih, Nat.zero_mul]
    simp [value, digitValue?]

theorem value_pad (base width : Nat) (cs : List Char) : value base (pad width cs) = value base cs := by
  rw [pad, value_append_eq, value_zeros, Nat.zero_mul, Nat.zero_add]

end ControllerRemap.Digits
