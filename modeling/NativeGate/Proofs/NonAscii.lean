import Mathlib.Algebra.Group.Nat.Defs
import NativeGate.NonAscii

namespace NativeGate

def Bytes.IsAscii (bytes : Bytes) : Prop :=
  ∀ b ∈ bytes, b < 0x80

instance (bytes : Bytes) : Decidable bytes.IsAscii :=
  List.decidableBAll (· < 0x80) bytes

namespace NonAscii

/-- Octets as digits in base 256, the least significant one first. -/
def littleEndian : Bytes → Nat
  | [] => 0
  | b :: rest => littleEndian rest * 256 + b.toNat

/-- The number whose octets are all 0x80. -/
def highBits : Nat → Nat
  | 0 => 0
  | n + 1 => highBits n * 256 + 128

theorem littleEndian_lt (window : Bytes) : littleEndian window < 256 ^ window.length := by
  induction window with
  | nil => decide
  | cons b rest ih =>
      have octet := b.toNat_lt
      simp only [littleEndian, List.length_cons, Nat.pow_succ]
      omega

theorem and_appendOctet (m n : Nat) {c d : Nat} (hc : c < 256) (hd : d < 256) :
    (m * 256 + c) &&& (n * 256 + d) = (m &&& n) * 256 + (c &&& d) := by
  have low : c &&& d < 256 := Nat.and_lt_two_pow (n := 8) c hd
  apply Nat.eq_of_testBit_eq
  intro i
  have split (k r : Nat) (hr : r < 256) :
      (k * 256 + r).testBit i = if i < 8 then r.testBit i else k.testBit (i - 8) := by
    rw [Nat.mul_comm]
    exact Nat.testBit_two_pow_mul_add k (i := 8) hr i
  rw [Nat.testBit_and, split m c hc, split n d hd, split _ _ low]
  by_cases inside : i < 8
  · simp [inside]
  · simp [inside]

theorem and_highBit {b : UInt8} : b.toNat &&& 128 = 0 ↔ b < 0x80 := by
  have octets : ∀ n < 256, n &&& 128 = 0 ↔ n < 128 := by decide +kernel
  exact octets b.toNat b.toNat_lt

theorem littleEndian_and_highBits (window : Bytes) :
    littleEndian window &&& highBits window.length = 0 ↔ window.IsAscii := by
  induction window with
  | nil => simp [littleEndian, Bytes.IsAscii]
  | cons b rest ih =>
      rw [littleEndian, List.length_cons, highBits, and_appendOctet _ _ b.toNat_lt (by decide)]
      have bit := and_highBit (b := b)
      simp only [Bytes.IsAscii, List.forall_mem_cons, Nat.add_eq_zero_iff, Nat.mul_eq_zero]
        at ih ⊢
      rw [ih, bit]
      simp
      exact And.comm

theorem load_native_cons (b : UInt8) (rest : Bytes) :
    WordAccess.native.load (b :: rest) =
      (WordAccess.native.load rest <<< 8) ||| b.toUInt64 := rfl

theorem toNat_load_native (window : Bytes) (fits : window.length ≤ 8) :
    (WordAccess.native.load window).toNat = littleEndian window := by
  induction window with
  | nil => rfl
  | cons b rest ih =>
      have shorter : rest.length ≤ 7 := Nat.le_of_succ_le_succ fits
      have small : littleEndian rest < 2 ^ 56 :=
        Nat.lt_of_lt_of_le (littleEndian_lt rest)
          (Nat.pow_le_pow_right (n := 256) (by decide) shorter)
      have shifted : (WordAccess.native.load rest <<< 8).toNat = littleEndian rest <<< 8 := by
        simp [ih (by omega), Nat.shiftLeft_eq]
        omega
      rw [load_native_cons, UInt64.toNat_or, shifted, UInt8.toNat_toUInt64,
        ← Nat.shiftLeft_add_eq_or_of_lt b.toNat_lt, Nat.shiftLeft_eq]
      rfl

theorem firstHigh?_eq_none_iff (bytes : Bytes) : bytes.firstHigh? = none ↔ bytes.IsAscii := by
  simp [Bytes.firstHigh?, Bytes.IsAscii]

theorem load_and_highMask (window : Bytes) (full : window.length = 8) :
    WordAccess.native.load window &&& highMask = 0 ↔ window.IsAscii := by
  rw [← UInt64.toNat_inj, UInt64.toNat_and, toNat_load_native window (by omega),
    ← littleEndian_and_highBits, full]
  rfl

theorem scanWords_eq_none_iff (offset : Nat) (bytes : Bytes) :
    scanWords .native offset bytes = none ↔ bytes.IsAscii := by
  fun_induction scanWords WordAccess.native offset bytes with
  | case1 offset b0 b1 b2 b3 b4 b5 b6 b7 rest high nonzero =>
      have window := load_and_highMask [b0, b1, b2, b3, b4, b5, b6, b7] rfl
      simp only [reduceCtorEq, false_iff]
      intro ascii
      apply nonzero
      apply window.mpr
      intro b member
      exact ascii b (List.mem_append_left rest member)
  | case2 offset b0 b1 b2 b3 b4 b5 b6 b7 rest high zero ih =>
      have window := load_and_highMask [b0, b1, b2, b3, b4, b5, b6, b7] rfl
      have ascii := window.mp (Decidable.not_not.mp zero)
      rw [ih]
      simp only [Bytes.IsAscii, List.forall_mem_cons] at ascii ⊢
      simp [ascii]
  | case3 offset rest short =>
      rw [Option.map_eq_none_iff, firstHigh?_eq_none_iff]

theorem search_eq_none_iff (bytes : Bytes) : search bytes = none ↔ bytes.IsAscii :=
  scanWords_eq_none_iff 0 bytes

end NonAscii

end NativeGate
