import Mathlib.Logic.ExistsUnique
import NativeGate.Proofs.Value

namespace NativeGate.Value

inductive Kind
  | no
  | nil
  | yes
  | undefined
  | fixnum
  | flonum
  | symbol
  | handle
  | reserved
deriving DecidableEq, Repr

/-- The kinds as native macros tell them apart. -/
def IsOf (v : Value) : Kind → Prop
  | .no => v.isFalse = true
  | .nil => v.isNil = true
  | .yes => v = yes
  | .undefined => v.isUndefined = true
  | .fixnum => v.isFixnum = true
  | .flonum => v.isFlonum = true
  | .symbol => v.isSymbol = true
  | .handle => v.isHandle = true
  | .reserved =>
      v.isSpecialConst = true ∧ v ∉ [no, nil, yes, undefined] ∧
        v.isFixnum = false ∧ v.isFlonum = false ∧ v.isSymbol = false

def Kind.Covers : Kind → Nat → Prop
  | .no, n => n = 0
  | .nil, n => n = 4
  | .yes, n => n = 20
  | .undefined, n => n = 36
  | .fixnum, n => n % 2 = 1
  | .flonum, n => n % 4 = 2
  | .symbol, n => n % 256 = 12
  | .handle, n => n % 8 = 0 ∧ n ≠ 0
  | .reserved, n => n % 8 = 4 ∧ n % 256 ≠ 12 ∧ n ∉ [4, 20, 36]

namespace Kind

theorem exists_covers (n : Nat) : ∃ kind : Kind, kind.Covers n := by
  by_cases odd : n % 2 = 1
  · exact ⟨.fixnum, odd⟩
  by_cases flonum : n % 4 = 2
  · exact ⟨.flonum, flonum⟩
  by_cases zero : n = 0
  · exact ⟨.no, zero⟩
  by_cases multiple : n % 8 = 0
  · exact ⟨.handle, multiple, zero⟩
  by_cases symbol : n % 256 = 12
  · exact ⟨.symbol, symbol⟩
  by_cases constant : n ∈ [4, 20, 36]
  · simp only [List.mem_cons, List.not_mem_nil, or_false] at constant
    obtain four | twenty | thirtySix := constant
    · exact ⟨.nil, four⟩
    · exact ⟨.yes, twenty⟩
    · exact ⟨.undefined, thirtySix⟩
  · exact ⟨.reserved, by omega, symbol, constant⟩

theorem Covers.unique {kind other : Kind} {n : Nat} (covers : kind.Covers n)
    (also : other.Covers n) : other = kind := by
  cases kind <;> cases other <;>
    first
    | rfl
    | simp only [Covers, List.mem_cons, List.not_mem_nil, or_false, not_or] at covers also
      omega

end Kind

theorem eq_iff_toNat {v w : Value} : v = w ↔ v.bits.toNat = w.bits.toNat := by
  rw [UInt64.toNat_inj]
  exact ⟨congrArg bits, congrArg mk⟩

theorem isFlonum_iff (v : Value) : v.isFlonum = true ↔ v.bits.toNat % 4 = 2 := by
  have low : v.bits.toNat &&& 3 = v.bits.toNat % 4 := Nat.and_two_pow_sub_one_eq_mod _ 2
  simp [isFlonum, ← UInt64.toNat_inj, low]

theorem isOf_iff (v : Value) (kind : Kind) : v.IsOf kind ↔ kind.Covers v.bits.toNat := by
  cases kind with
  | no => exact decide_eq_true_iff.trans eq_iff_toNat
  | nil => exact decide_eq_true_iff.trans eq_iff_toNat
  | yes => exact eq_iff_toNat
  | undefined => exact decide_eq_true_iff.trans eq_iff_toNat
  | fixnum => exact isFixnum_iff v
  | flonum => exact isFlonum_iff v
  | symbol => exact isSymbol_iff v
  | handle => exact isHandle_iff v
  | reserved =>
      simp only [IsOf, Kind.Covers, isSpecialConst_iff, ← Bool.not_eq_true, isFixnum_iff,
        isFlonum_iff, isSymbol_iff, eq_iff_toNat, List.mem_cons, List.not_mem_nil, or_false]
      simp only [no, nil, yes, undefined, UInt64.reduceToNat]
      omega

theorem existsUnique_isOf (v : Value) : ∃! kind, v.IsOf kind := by
  obtain ⟨kind, covers⟩ := Kind.exists_covers v.bits.toNat
  exact ⟨kind, (isOf_iff v kind).mpr covers,
    fun other also => covers.unique ((isOf_iff v other).mp also)⟩

theorem toInt_shiftRight_one (n : Int64) : (n >>> 1).toInt = n.toInt / 2 := by
  have halved := @BitVec.toInt_sshiftRight 64 n.toBitVec 1
  rw [Int.shiftRight_eq_div_pow] at halved
  change (n >>> 1).toBitVec.toInt = _
  rw [Int64.toBitVec_shiftRight]
  exact halved

theorem toNat_bits_fixnum (n : Int64) :
    (fixnum n).bits.toNat = n.toUInt64.toNat * 2 % 2 ^ 64 + 1 := by
  have shifted : (n <<< 1).toUInt64.toNat = n.toUInt64.toNat * 2 % 2 ^ 64 := by
    change (n <<< 1).toBitVec.toNat = n.toBitVec.toNat * 2 % 2 ^ 64
    rw [Int64.toBitVec_shiftLeft]
    change (n.toBitVec <<< 1).toNat = _
    rw [BitVec.toNat_shiftLeft, Nat.shiftLeft_eq]
  have even : n.toUInt64.toNat * 2 % 2 ^ 64 = (n.toUInt64.toNat % 2 ^ 63) <<< 1 := by
    rw [Nat.shiftLeft_eq]
    omega
  rw [fixnum, UInt64.toNat_or, shifted, even]
  exact (Nat.shiftLeft_add_eq_or_of_lt (by decide) _).symm

theorem toInt_bits_fixnum (n : Int64) :
    (fixnum n).bits.toInt64.toInt = (2 * n.toInt + 1).bmod (2 ^ 64) := by
  rw [toInt_toInt64, toNat_bits_fixnum, toInt_eq_bmod n]
  simp only [Int.bmod]
  omega

theorem asFixnum?_eq_some_iff {v : Value} {n : Int64} :
    v.asFixnum? = some n ↔ v.bits.toInt64.toInt = 2 * n.toInt + 1 := by
  have signed := toInt_toInt64 v.bits
  simp only [Int.bmod] at signed
  simp only [asFixnum?, isFixnum_iff]
  split
  next odd =>
    rw [Option.some_inj, ← Int64.toInt_inj, toInt_shiftRight_one]
    omega
  next even =>
    simp only [reduceCtorEq, false_iff]
    omega

theorem fixnum_eq_of_asFixnum?_eq_some {v : Value} {n : Int64} (read : v.asFixnum? = some n) :
    fixnum n = v := by
  have signed := asFixnum?_eq_some_iff.mp read
  apply congrArg mk
  have same : (fixnum n).bits.toInt64 = v.bits.toInt64 := by
    rw [← Int64.toInt_inj, toInt_bits_fixnum, ← signed]
    exact Int64.toInt_bmod _
  rw [← UInt64.toUInt64_toInt64 v.bits, ← same, UInt64.toUInt64_toInt64]
  rfl

theorem toInt_fixnumMin : fixnumMin.toInt = -2 ^ 62 := by decide

theorem toInt_fixnumMax : fixnumMax.toInt = 2 ^ 62 - 1 := by decide

theorem fixnumRange_iff {n : Int64} :
    fixnumMin ≤ n ∧ n ≤ fixnumMax ↔ -2 ^ 62 ≤ n.toInt ∧ n.toInt < 2 ^ 62 := by
  rw [Int64.le_iff_toInt_le, Int64.le_iff_toInt_le, toInt_fixnumMin, toInt_fixnumMax]
  omega

/-- Integers are read back just as long as doubling them does not wrap around. -/
theorem asFixnum?_fixnum_iff {n : Int64} :
    (fixnum n).asFixnum? = some n ↔ fixnumMin ≤ n ∧ n ≤ fixnumMax := by
  rw [asFixnum?_eq_some_iff, toInt_bits_fixnum, fixnumRange_iff]
  simp only [Int.bmod]
  omega

theorem symbolId?_symbol_iff {id : Id} :
    (symbol id).symbolId? = some id ↔ id ≠ 0 ∧ id.toNat < 2 ^ 56 := by
  rw [symbolId?_eq_some_iff, toNat_bits_symbol]
  exact and_congr_right' (by omega)

theorem toNat_handle {index : UInt64} (fits : index.toNat < 2 ^ 64 - 8) :
    (handle index).bits.toNat = (index.toNat + 8) * 8 % 2 ^ 64 := by
  have next : (index + 8).toNat = index.toNat + 8 := by
    rw [UInt64.toNat_add]
    exact Nat.mod_eq_of_lt (Nat.add_lt_of_lt_sub fits)
  rw [handle, UInt64.toNat_shiftLeft, next]
  exact congrArg (· % 2 ^ 64) (Nat.shiftLeft_eq _ 3)

theorem handleIndex?_handle_iff {index : UInt64} (fits : index.toNat < 2 ^ 64 - 8) :
    (handle index).handleIndex? = some index ↔ index.toNat < 2 ^ 61 - 8 := by
  rw [handleIndex?_eq_some_iff, toNat_handle fits]
  omega

theorem handle_eq_of_handleIndex?_eq_some {v : Value} {index : UInt64}
    (read : v.handleIndex? = some index) : handle index = v := by
  have bits := handleIndex?_eq_some_iff.mp read
  have bits_lt := v.bits.toNat_lt
  rw [eq_iff_toNat, toNat_handle (by omega), ← bits]
  exact Nat.mod_eq_of_lt bits_lt

/-- Every word is of exactly one kind, as the native macros tell kinds apart.  What is read from a
word makes that word again, and a fixnum, a symbol or a handle is read back exactly if its number
fits. -/
theorem kinds_and_roundtrips (v : Value) (n : Int64) (id : Id) (index : UInt64) :
    ((∃! kind, v.IsOf kind) ∧ ∀ kind, v.IsOf kind ↔ kind.Covers v.bits.toNat) ∧
    (v.isSpecialConst = true ↔ ¬ v.IsOf .handle) ∧
    (v.isTruthy = false ↔ v = no ∨ v = nil) ∧
    ((v.asFixnum? = some n → fixnum n = v) ∧ (v.symbolId? = some id → symbol id = v) ∧
      (v.handleIndex? = some index → handle index = v)) ∧
    (((fixnum n).asFixnum? = some n ↔ fixnumMin ≤ n ∧ n ≤ fixnumMax) ∧
      (checkedFixnum? n = some (fixnum n) ↔ fixnumMin ≤ n ∧ n ≤ fixnumMax) ∧
      (checkedFixnum? n = none ↔ ¬ (fixnumMin ≤ n ∧ n ≤ fixnumMax)) ∧
      (fixnumMin ≤ n ∧ n ≤ fixnumMax ↔ -2 ^ 62 ≤ n.toInt ∧ n.toInt < 2 ^ 62)) ∧
    ((symbol id).symbolId? = some id ↔ id ≠ 0 ∧ id.toNat < 2 ^ 56) ∧
    (index.toNat < 2 ^ 64 - 8 →
      ((handle index).handleIndex? = some index ↔ index.toNat < 2 ^ 61 - 8)) := by
  refine ⟨⟨existsUnique_isOf v, isOf_iff v⟩, ?_, ?_, ?_, ?_, symbolId?_symbol_iff,
    handleIndex?_handle_iff⟩
  · rw [isOf_iff, isSpecialConst_iff, Kind.Covers]
    omega
  · rw [← Bool.not_eq_true, isTruthy_iff, not_and_or, not_not, not_not, or_comm]
  · exact ⟨fixnum_eq_of_asFixnum?_eq_some, fun read => (eq_symbol_of_symbolId?_eq_some read).symm,
      handle_eq_of_handleIndex?_eq_some⟩
  · refine ⟨asFixnum?_fixnum_iff, ?_, ?_, fixnumRange_iff⟩
    · simp [checkedFixnum?]
    · simp [checkedFixnum?]

end NativeGate.Value
