import ControllerRemap.Number.Decimal
import ControllerRemap.Proofs.Number.Packing

/-! The parts, the sign and the special values of a number, read off what it unpacks to. -/

namespace ControllerRemap.Binary64

open Float.Model Float.Model.UnpackedFloat

/-! ### Parts -/

/-- Whether a sign is the negative one. -/
def isMinus : Sign → Bool
  | .negative => true
  | .positive => false

section

variable {x : Float} {s : Sign} {e : BitVec 11} {m : BitVec 52}
  (h : x.toModel.toBits.toBitVec = packComponents format s e m)
include h

theorem toNat_toBits : x.toBits.toNat = s.toBitVec.toNat * 2 ^ 63 + e.toNat * 2 ^ 52 + m.toNat := by
  rw [← toNat_packComponents, ← h]
  rfl

theorem isNegative_of_bits : isNegative x = isMinus s := by
  have hbits := toNat_toBits h
  have he := e.isLt
  have hm := m.isLt
  have hshift : (x.toBits >>> 63).toNat = s.toBitVec.toNat := by
    rw [UInt64.toNat_shiftRight, hbits, Nat.shiftRight_eq_div_pow]
    simp
    omega
  rw [isNegative, Bool.eq_iff_iff, beq_iff_eq, ← UInt64.toNat_inj, hshift]
  cases s <;> decide

theorem parts?_of_bits : parts? x =
    if e.toNat = 2047 then none
    else if e.toNat = 0 then some ⟨isMinus s, m.toNat, -1074⟩
    else some ⟨isMinus s, 2 ^ 52 + m.toNat, e.toNat - 1075⟩ := by
  have hbits := toNat_toBits h
  have he := e.isLt
  have hm := m.isLt
  have hfraction : x.toBits.toNat % 2 ^ 52 = m.toNat := by omega
  have hbiased : x.toBits.toNat / 2 ^ 52 % 2 ^ 11 = e.toNat := by omega
  simp only [parts?, Nat.pow_eq, hfraction, hbiased, isNegative_of_bits h]

end

theorem bits_of_unpack {x : Float} {u : UnpackedFloat} (h : x.toModel.unpack = u) :
    x.toModel.toBits.toBitVec = UnpackedFloat.pack format u := by
  rw [← h]
  exact congrArg (·.toBits.toBitVec) (pack_unpack x.toModel).symm

variable {x : Float} {s : Sign}

theorem parts?_of_finite {m : Nat} {e : Int} {hm : 0 < m} (h : x.toModel.unpack = .finite s m e hm) :
    parts? x = some ⟨isMinus s, m, e⟩ := by
  obtain ⟨high, he, he', hsub⟩ : Canonical (.finite s m e hm) := h ▸ canonical_unpack x.toModel
  have hbits := bits_of_unpack h
  rcases Nat.lt_or_ge m (2 ^ 52) with hlt | low
  · cases hsub hlt
    rw [pack_subnormal s hm hlt] at hbits
    have hmantissa : (BitVec.ofNat 52 m).toNat = m := by
      rw [BitVec.toNat_ofNat, Nat.mod_eq_of_lt hlt]
    rw [parts?_of_bits hbits, hmantissa]
    rfl
  · rw [pack_normal s low high he he' hm] at hbits
    have hmantissa : 2 ^ 52 + (BitVec.ofNat 52 m).toNat = m := by
      rw [BitVec.toNat_ofNat]; omega
    have hexponent : (BitVec.ofNat 11 (e + 1075).toNat).toNat = (e + 1075).toNat := by
      rw [BitVec.toNat_ofNat]; omega
    rw [parts?_of_bits hbits, hmantissa, hexponent, if_neg (by omega), if_neg (by omega)]
    congr
    omega

theorem parts?_of_zero (h : x.toModel.unpack = .zero s) : parts? x = some ⟨isMinus s, 0, -1074⟩ :=
  parts?_of_bits (bits_of_unpack h)

theorem parts?_of_infinity (h : x.toModel.unpack = .infinity s) : parts? x = none :=
  parts?_of_bits (bits_of_unpack h)

theorem parts?_of_notANumber (h : x.toModel.unpack = .notANumber) : parts? x = none :=
  parts?_of_bits (bits_of_unpack h)

/-! ### Signs and special values -/

theorem eq_of_unpack_eq {x y : Float} (h : x.toModel.unpack = y.toModel.unpack) : x = y := by
  have hx := pack_unpack x.toModel
  have hy := pack_unpack y.toModel
  cases x
  cases y
  rw [h, hy] at hx
  exact congrArg Float.ofModel hx.symm

theorem canonical_neg {u : UnpackedFloat} (h : Canonical u) : Canonical u.neg := by
  cases u <;> exact h

theorem canonical_abs {u : UnpackedFloat} (h : Canonical u) : Canonical u.abs := by
  cases u <;> exact h

theorem unpack_neg (x : Float) : (-x).toModel.unpack = x.toModel.unpack.neg :=
  unpack_pack (canonical_neg (canonical_unpack x.toModel))

theorem unpack_abs (x : Float) : x.abs.toModel.unpack = x.toModel.unpack.abs :=
  unpack_pack (canonical_abs (canonical_unpack x.toModel))

/-- A number is its absolute value with its sign. -/
theorem signed_abs {m : Nat} {e : Int} {hm : 0 < m} (h : x.toModel.unpack = .finite s m e hm) :
    signed (isMinus s) x.abs = x := by
  apply eq_of_unpack_eq
  cases s with
  | positive => rw [signed, isMinus, if_neg (by decide), unpack_abs, h]; rfl
  | negative => rw [signed, isMinus, if_pos rfl, unpack_neg, unpack_abs, h]; rfl

theorem eq_signed_zero (h : x.toModel.unpack = .zero s) : x = signed (isMinus s) 0.0 := by
  apply eq_of_unpack_eq
  rw [h]
  cases s <;> rfl

theorem eq_signed_infinity (h : x.toModel.unpack = .infinity s) :
    x = signed (isMinus s) Decimal.infinity := by
  apply eq_of_unpack_eq
  rw [h]
  cases s <;> rfl

theorem eq_nan (h : x.toModel.unpack = .notANumber) : x = 0.0 / 0.0 :=
  eq_of_unpack_eq h

end ControllerRemap.Binary64
