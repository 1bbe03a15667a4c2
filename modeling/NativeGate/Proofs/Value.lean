import Mathlib.Algebra.Group.Nat.Defs
import Mathlib.Data.Nat.Bitwise
import NativeGate.Value

namespace NativeGate.Value

theorem and_seven (n : Nat) : n &&& 7 = n % 8 :=
  Nat.and_two_pow_sub_one_eq_mod n 3

theorem and_lowOctet (n : Nat) : n &&& 255 = n % 256 :=
  Nat.and_two_pow_sub_one_eq_mod n 8

theorem isFixnum_iff (v : Value) : v.isFixnum = true ↔ v.bits.toNat % 2 = 1 := by
  simp [isFixnum, ← UInt64.toNat_inj, Nat.and_one_is_mod]

theorem isSymbol_iff (v : Value) : v.isSymbol = true ↔ v.bits.toNat % 256 = 12 := by
  simp [isSymbol, ← UInt64.toNat_inj, and_lowOctet]

theorem isSpecialConst_iff (v : Value) :
    v.isSpecialConst = true ↔ v.bits.toNat % 8 ≠ 0 ∨ v.bits.toNat = 0 := by
  simp [isSpecialConst, ← UInt64.toNat_inj, and_seven]

theorem isHandle_iff (v : Value) :
    v.isHandle = true ↔ v.bits.toNat % 8 = 0 ∧ v.bits.toNat ≠ 0 := by
  have special := isSpecialConst_iff v
  have symbolic := isSymbol_iff v
  simp only [isHandle, Bool.and_eq_true, Bool.not_eq_true', ← Bool.not_eq_true, special, symbolic]
  omega

theorem handleIndex?_eq_some_iff {v : Value} {index : UInt64} :
    v.handleIndex? = some index ↔ v.bits.toNat = (index.toNat + 8) * 8 := by
  have index_lt := index.toNat_lt
  have bits_lt := v.bits.toNat_lt
  have shifted : (v.bits >>> 3).toNat = v.bits.toNat / 8 := by
    simp [Nat.shiftRight_eq_div_pow]
  simp only [handleIndex?, Bool.and_eq_true, isHandle_iff, decide_eq_true_eq, ge_iff_le,
    UInt64.le_iff_toNat_le]
  have sixtyFour : (64 : UInt64).toNat = 64 := rfl
  have eight : (8 : UInt64).toNat = 8 := rfl
  rw [sixtyFour]
  split
  next large =>
    have difference : (v.bits >>> 3 - 8).toNat = v.bits.toNat / 8 - 8 := by
      have enough : (8 : UInt64) ≤ v.bits >>> 3 := by
        rw [UInt64.le_iff_toNat_le, shifted, eight]
        omega
      rw [UInt64.toNat_sub_of_le _ _ enough, shifted, eight]
    rw [Option.some_inj, ← UInt64.toNat_inj, difference]
    omega
  next small =>
    simp only [reduceCtorEq, false_iff]
    omega

theorem toNat_bits_handle {index : Nat} (small : index < 2 ^ 61 - 8) :
    (handle (UInt64.ofNat index)).bits.toNat = (index + 8) * 8 := by
  simp [handle, Nat.shiftLeft_eq]
  omega

theorem toNat_bits_symbol (id : Id) :
    (symbol id).bits.toNat = id.toNat % 2 ^ 56 * 256 + 12 := by
  have shifted : (id <<< 8).toNat = (id.toNat % 2 ^ 56) <<< 8 := by
    simp [Nat.shiftLeft_eq]
    omega
  rw [symbol, UInt64.toNat_or, shifted, ← Nat.shiftLeft_add_eq_or_of_lt (by decide),
    Nat.shiftLeft_eq]
  rfl

theorem symbolId?_of_untagged {v : Value} (untagged : v.isSymbol = false) :
    v.symbolId? = none := by
  rw [symbolId?, untagged]
  rfl

theorem symbolId?_eq_some_iff {v : Value} {id : Id} :
    v.symbolId? = some id ↔ id ≠ 0 ∧ v.bits.toNat = id.toNat * 256 + 12 := by
  have shifted : (v.bits >>> 8).toNat = v.bits.toNat / 256 := by
    simp [Nat.shiftRight_eq_div_pow]
  simp only [symbolId?, Bool.and_eq_true, isSymbol_iff, decide_eq_true_eq, ne_eq]
  have bits_lt := v.bits.toNat_lt
  have id_lt := id.toNat_lt
  split
  next tagged =>
    rw [Option.some_inj, ← UInt64.toNat_inj, shifted]
    rw [← UInt64.toNat_inj, shifted] at tagged
    rw [← UInt64.toNat_inj]
    change v.bits.toNat % 256 = 12 ∧ ¬ v.bits.toNat / 256 = 0 at tagged
    change _ ↔ ¬ id.toNat = 0 ∧ _
    omega
  next untagged =>
    rw [← UInt64.toNat_inj, shifted] at untagged
    rw [← UInt64.toNat_inj]
    change ¬(v.bits.toNat % 256 = 12 ∧ ¬ v.bits.toNat / 256 = 0) at untagged
    change _ ↔ ¬ id.toNat = 0 ∧ _
    simp only [reduceCtorEq, false_iff]
    omega

theorem symbolId?_symbol {id : Id} (positive : id ≠ 0) (small : id.toNat < 2 ^ 56) :
    (symbol id).symbolId? = some id := by
  rw [symbolId?_eq_some_iff, toNat_bits_symbol, Nat.mod_eq_of_lt small]
  exact ⟨positive, rfl⟩

theorem eq_symbol_of_symbolId?_eq_some {v : Value} {id : Id} (shown : v.symbolId? = some id) :
    v = symbol id := by
  obtain ⟨_, bits⟩ := symbolId?_eq_some_iff.mp shown
  have bits_lt := v.bits.toNat_lt
  apply congrArg Value.mk
  rw [← UInt64.toNat_inj]
  change v.bits.toNat = (symbol id).bits.toNat
  rw [toNat_bits_symbol, bits, Nat.mod_eq_of_lt (by omega)]

theorem isTruthy_iff {v : Value} : v.isTruthy = true ↔ v ≠ nil ∧ v ≠ no := by
  have split : v.bits = v.bits &&& 0x04 ||| v.bits &&& ~~~0x04 := by
    rw [← UInt64.toBitVec_inj, UInt64.toBitVec_or, UInt64.toBitVec_and, UInt64.toBitVec_and,
      ← BitVec.and_or_distrib_left]
    exact BitVec.and_allOnes.symm
  have low : v.bits &&& 0x04 = 0 ∨ v.bits &&& 0x04 = 0x04 := by
    rw [← UInt64.toNat_inj, ← UInt64.toNat_inj, UInt64.toNat_and]
    change v.bits.toNat &&& 2 ^ 2 = 0 ∨ v.bits.toNat &&& 2 ^ 2 = 2 ^ 2
    rw [Nat.and_two_pow]
    cases v.bits.toNat.testBit 2 <;> simp
  rw [isTruthy, decide_eq_true_eq, ← not_or]
  refine not_congr ⟨fun rest => ?_, ?_⟩
  · rw [rest, UInt64.or_zero] at split
    obtain zero | four := low
    · exact .inr (congrArg mk (split.trans zero))
    · exact .inl (congrArg mk (split.trans four))
  · rintro (rfl | rfl) <;> rfl

/-- What the word of a symbol keeps of a number: all but its topmost octet. -/
def keptId (raw : UInt64) : Id :=
  UInt64.ofNat (raw.toNat % 2 ^ 56)

theorem toNat_keptId (raw : UInt64) : (keptId raw).toNat = raw.toNat % 2 ^ 56 :=
  UInt64.toNat_ofNat_of_lt' (by change _ < 2 ^ 64; omega)

theorem keptId_eq_self {raw : UInt64} (small : raw.toNat < 2 ^ 56) : keptId raw = raw := by
  rw [← UInt64.toNat_inj, toNat_keptId, Nat.mod_eq_of_lt small]

theorem symbol_keptId (raw : UInt64) : symbol (keptId raw) = symbol raw := by
  apply congrArg Value.mk
  rw [← UInt64.toNat_inj]
  change (symbol (keptId raw)).bits.toNat = (symbol raw).bits.toNat
  rw [toNat_bits_symbol, toNat_bits_symbol, toNat_keptId, Nat.mod_mod]

theorem symbolId?_symbol_eq_some_iff {raw : UInt64} {id : Id} :
    (symbol raw).symbolId? = some id ↔ id ≠ 0 ∧ keptId raw = id := by
  rw [symbolId?_eq_some_iff, toNat_bits_symbol, ← UInt64.toNat_inj (a := keptId raw), toNat_keptId]
  constructor
  · rintro ⟨positive, bits⟩
    exact ⟨positive, by omega⟩
  · rintro ⟨positive, same⟩
    exact ⟨positive, by omega⟩

theorem toInt_toInt64 (word : UInt64) : word.toInt64.toInt = (word.toNat : Int).bmod (2 ^ 64) :=
  BitVec.toInt_eq_toNat_bmod word.toBitVec

theorem toInt_eq_bmod (n : Int64) : n.toInt = (n.toUInt64.toNat : Int).bmod (2 ^ 64) :=
  BitVec.toInt_eq_toNat_bmod n.toBitVec

end NativeGate.Value
