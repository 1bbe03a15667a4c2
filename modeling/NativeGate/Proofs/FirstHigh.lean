import Mathlib.Tactic.SplitIfs
import NativeGate.Proofs.NonAscii

namespace NativeGate

/-! The search by words finds the first octet that is not ASCII, whatever the machine's word loads
are like. -/

namespace NonAscii

theorem and_complement {t q : Nat} (fits : 2 ^ t * (2 * q + 1) < 2 ^ 64) :
    2 ^ t * (2 * q + 1) &&& (2 ^ 64 - 2 ^ t * (2 * q + 1)) = 2 ^ t := by
  have positive := Nat.two_pow_pos t
  have inside : t < 64 := by
    refine (Nat.pow_lt_pow_iff_right (a := 2) (by decide)).mp (Nat.lt_of_le_of_lt ?_ fits)
    exact Nat.le_mul_of_pos_right _ (Nat.succ_pos _)
  have before : 2 ^ t * (2 * q + 1) = 2 ^ t * (2 * q) + (2 ^ t - 1) + 1 := by
    rw [Nat.mul_add]
    omega
  apply Nat.eq_of_testBit_eq
  intro i
  rw [Nat.testBit_and]
  conv => enter [1, 2]; rw [before]
  rw [Nat.testBit_two_pow_sub_succ (by omega), Nat.testBit_two_pow_mul,
    Nat.testBit_two_pow_mul_add _ (by omega), Nat.testBit_two_pow]
  obtain below | rfl | above := Nat.lt_trichotomy i t
  · simp [Nat.not_le.mpr below, Nat.ne_of_gt below]
  · simp [inside]
  · obtain ⟨k, rfl⟩ := Nat.exists_eq_add_of_lt above
    have odd : (2 * q + 1) / 2 = q := by omega
    have shifted : t + k + 1 - t = k + 1 := by omega
    rw [if_neg (Nat.not_lt_of_gt above), shifted, Nat.testBit_succ, Nat.testBit_succ, odd,
      Nat.mul_div_cancel_left q (by decide), decide_eq_false (Nat.ne_of_lt above)]
    cases q.testBit k <;> simp

theorem toNat_trailingZeros {word : UInt64} {t q : Nat}
    (lowest : word.toNat = 2 ^ t * (2 * q + 1)) : (trailingZeros word).toNat = t := by
  have fits := word.toNat_lt
  have positive : 0 < word.toNat := by
    rw [lowest]
    exact Nat.mul_pos (Nat.two_pow_pos t) (Nat.succ_pos _)
  have complement : (0 - word).toNat = 2 ^ 64 - word.toNat := by
    rw [UInt64.toNat_sub, UInt64.toNat_zero, Nat.add_zero]
    exact Nat.mod_eq_of_lt (by omega)
  change (word &&& (0 - word)).toNat.log2 = t
  rw [lowest] at fits
  rw [UInt64.toNat_and, complement, lowest, and_complement fits, Nat.log2_two_pow]

theorem toNat_leadingZeros {word : UInt64} {t : Nat} (highest : word.toNat.log2 = t)
    (inside : t ≤ 63) : (leadingZeros word).toNat = 63 - t := by
  have log : word.log2.toNat = t := highest
  rw [leadingZeros, UInt64.toNat_sub_of_le, log]
  · rfl
  · rw [UInt64.le_iff_toNat_le, log]
    exact inside

def highDigits : Bytes → Nat
  | [] => 0
  | b :: rest => highDigits rest * 256 + (b.toNat &&& 128)

theorem littleEndian_and_highBits_eq (window : Bytes) :
    littleEndian window &&& highBits window.length = highDigits window := by
  induction window with
  | nil => rfl
  | cons b rest ih =>
      rw [littleEndian, List.length_cons, highBits,
        and_appendOctet _ _ b.toNat_lt (by decide), ih, highDigits]

theorem highBit_eq (b : UInt8) : b.toNat &&& 128 = if 0x80 ≤ b then 128 else 0 := by
  have octets : ∀ n < 256, n &&& 128 = if 128 ≤ n then 128 else 0 := by decide +kernel
  exact octets b.toNat b.toNat_lt

theorem highDigits_append (front back : Bytes) :
    highDigits (front ++ back) = highDigits back * 256 ^ front.length + highDigits front := by
  induction front with
  | nil => simp [highDigits]
  | cons b rest ih =>
      rw [List.cons_append, highDigits, ih, highDigits, List.length_cons, Nat.pow_succ,
        Nat.add_mul, Nat.mul_assoc, Nat.add_assoc]

theorem highDigits_lt (window : Bytes) : highDigits window < 256 ^ window.length := by
  rw [← littleEndian_and_highBits_eq]
  exact Nat.lt_of_le_of_lt Nat.and_le_left (littleEndian_lt window)

theorem highDigits_singleton (b : UInt8) : highDigits [b] = if 0x80 ≤ b then 128 else 0 := by
  rw [highDigits, highDigits, Nat.zero_mul, Nat.zero_add, highBit_eq]

theorem firstHigh?_cons (b : UInt8) (rest : Bytes) :
    Bytes.firstHigh? (b :: rest) =
      if 0x80 ≤ b then some 0 else (Bytes.firstHigh? rest).map (· + 1) := by
  simp [Bytes.firstHigh?, List.findIdx?_cons]

theorem lowest_highDigits {window : Bytes} {i : Nat} (first : window.firstHigh? = some i) :
    ∃ q, highDigits window = 2 ^ (8 * i + 7) * (2 * q + 1) := by
  induction window generalizing i with
  | nil => cases first
  | cons b rest ih =>
      rw [firstHigh?_cons] at first
      rw [highDigits, highBit_eq]
      split at first
      next high =>
        cases first
        refine ⟨highDigits rest, ?_⟩
        rw [if_pos high]
        omega
      next low =>
        obtain ⟨j, later, rfl⟩ := Option.map_eq_some_iff.mp first
        obtain ⟨q, digits⟩ := ih later
        refine ⟨q, ?_⟩
        have shift : 8 * (j + 1) + 7 = 8 * j + 7 + 8 := by omega
        rw [if_neg low, digits, shift, Nat.pow_add _ _ 8, Nat.add_zero, Nat.mul_right_comm]

theorem highest_highDigits {window : Bytes} {i : Nat} (first : window.firstHigh? = some i) :
    i < window.length ∧
      (highDigits window.reverse).log2 = 8 * (window.length - 1 - i) + 7 := by
  induction window generalizing i with
  | nil => cases first
  | cons b rest ih =>
      rw [firstHigh?_cons] at first
      rw [List.reverse_cons, highDigits_append, highDigits_singleton, List.length_reverse,
        List.length_cons]
      split at first
      next high =>
        cases first
        have less := highDigits_lt rest.reverse
        have positive := Nat.two_pow_pos (8 * rest.length)
        have octets : 256 ^ rest.length = 2 ^ (8 * rest.length) := (Nat.pow_mul 2 8 _).symm
        have top : 8 * (rest.length + 1 - 1 - 0) + 7 = 8 * rest.length + 7 := by omega
        rw [List.length_reverse, octets] at less
        rw [if_pos high, octets, top]
        refine ⟨Nat.succ_pos _, (Nat.log2_eq_iff (by omega)).mpr ?_⟩
        rw [Nat.pow_succ 2 (8 * rest.length + 7), Nat.pow_add 2 (8 * rest.length) 7]
        omega
      next low =>
        obtain ⟨j, later, rfl⟩ := Option.map_eq_some_iff.mp first
        obtain ⟨inside, log⟩ := ih later
        rw [if_neg low, Nat.zero_mul, Nat.zero_add, log]
        omega

/-- A window's octets, the least significant one first. -/
def WordAccess.significance (access : WordAccess) (window : Bytes) : Bytes :=
  if access.bigEndian then window.reverse else window

theorem WordAccess.length_significance (access : WordAccess) (window : Bytes) :
    (access.significance window).length = window.length := by
  unfold significance
  split <;> simp

theorem load_eq_native (access : WordAccess) (window : Bytes) :
    access.load window = WordAccess.native.load (access.significance window) := by
  unfold WordAccess.load WordAccess.significance
  cases access.bigEndian <;> simp [WordAccess.native]

theorem toNat_load_and_highMask (access : WordAccess) {window : Bytes}
    (full : window.length = 8) :
    (access.load window &&& highMask).toNat = highDigits (access.significance window) := by
  have same := (access.length_significance window).trans full
  rw [load_eq_native, UInt64.toNat_and, toNat_load_native _ (Nat.le_of_eq same),
    ← littleEndian_and_highBits_eq, same]
  rfl

theorem octetIndex_load (access : WordAccess) {window : Bytes} (full : window.length = 8) {i : Nat}
    (first : window.firstHigh? = some i) :
    access.octetIndex (access.load window &&& highMask) = i := by
  have digits := toNat_load_and_highMask access full
  obtain ⟨inside, log⟩ := highest_highDigits first
  unfold WordAccess.octetIndex WordAccess.significance at *
  rw [UInt64.toNat_shiftRight, Nat.shiftRight_eq_div_pow]
  cases order : access.bigEndian with
  | false =>
      obtain ⟨q, lowest⟩ := lowest_highDigits first
      simp only [order, Bool.false_eq_true, if_false] at digits ⊢
      rw [toNat_trailingZeros (digits.trans lowest)]
      change (8 * i + 7) / 2 ^ 3 = i
      omega
  | true =>
      simp only [order, if_true] at digits ⊢
      rw [← digits] at log
      rw [toNat_leadingZeros log (by omega)]
      change (63 - _) / 2 ^ 3 = i
      omega

theorem load_and_highMask_eq_zero (access : WordAccess) {window : Bytes}
    (full : window.length = 8) :
    access.load window &&& highMask = 0 ↔ window.IsAscii := by
  have same : (access.significance window).IsAscii ↔ window.IsAscii := by
    unfold WordAccess.significance Bytes.IsAscii
    split <;> simp
  rw [load_eq_native, load_and_highMask _ ((access.length_significance window).trans full), same]

theorem firstHigh?_append (front back : Bytes) :
    Bytes.firstHigh? (front ++ back) =
      (front.firstHigh?).or ((back.firstHigh?).map (front.length + ·)) := by
  simp [Bytes.firstHigh?, List.findIdx?_append, Nat.add_comm]

theorem scanWords_eq (access : WordAccess) (offset : Nat) (bytes : Bytes) :
    scanWords access offset bytes = bytes.firstHigh?.map (offset + ·) := by
  fun_induction scanWords access offset bytes with
  | case1 offset b0 b1 b2 b3 b4 b5 b6 b7 rest high nonzero =>
      let window : Bytes := [b0, b1, b2, b3, b4, b5, b6, b7]
      have notAscii : ¬ window.IsAscii :=
        fun ascii => nonzero ((load_and_highMask_eq_zero access rfl).mpr ascii)
      obtain ⟨i, first⟩ := Option.ne_none_iff_exists'.mp
        (notAscii ∘ (firstHigh?_eq_none_iff window).mp)
      have index : access.octetIndex high = i := octetIndex_load access rfl first
      have whole := firstHigh?_append window rest
      rw [first, Option.some_or] at whole
      rw [index]
      exact (congrArg (Option.map (offset + ·)) whole).symm
  | case2 offset b0 b1 b2 b3 b4 b5 b6 b7 rest high zero ih =>
      let window : Bytes := [b0, b1, b2, b3, b4, b5, b6, b7]
      have ascii : window.IsAscii :=
        (load_and_highMask_eq_zero access rfl).mp (Decidable.not_not.mp zero)
      have whole := firstHigh?_append window rest
      rw [(firstHigh?_eq_none_iff window).mpr ascii, Option.none_or] at whole
      rw [ih]
      refine Eq.trans ?_ (congrArg (Option.map (offset + ·)) whole).symm
      rw [Option.map_map]
      exact congrArg (Option.map · _) (funext fun i => Nat.add_assoc offset 8 i)
  | case3 offset rest short => rfl

/-- The search never reads outside the octets, and is a search octet by octet. -/
theorem search?_eq (access : WordAccess) (address : Nat) (bytes : Bytes) :
    search? access address bytes = some bytes.firstHigh? := by
  have words (offset : Nat) (rest : Bytes) := scanWords_eq access offset rest
  have all : scanWords access 0 bytes = bytes.firstHigh? := by
    rw [words]
    simp
  unfold search?
  split_ifs with unaligned short aligned
  · rw [all]
  · rfl
  · rw [all]
  · -- Short of a boundary by less than a word, and there is a word.
    have inside : 8 - address % 8 ≤ bytes.length := by omega
    have length : (bytes.take (8 - address % 8)).length = 8 - address % 8 := by
      rw [List.length_take, Nat.min_eq_left inside]
    have whole := firstHigh?_append (bytes.take (8 - address % 8)) (bytes.drop (8 - address % 8))
    rw [List.take_append_drop, length] at whole
    simp only [inside, if_true, words]
    rw [whole]
    cases Bytes.firstHigh? (bytes.take (8 - address % 8)) <;> rfl

theorem firstHigh?_eq_some_iff {bytes : Bytes} {i : Nat} :
    bytes.firstHigh? = some i ↔
      ∃ b, bytes[i]? = some b ∧ 0x80 ≤ b ∧ ∀ j < i, ∀ c, bytes[j]? = some c → c < 0x80 := by
  rw [Bytes.firstHigh?, List.findIdx?_eq_some_iff_getElem]
  constructor
  · rintro ⟨inside, high, before⟩
    refine ⟨bytes[i], List.getElem?_eq_getElem inside, by simpa using high, ?_⟩
    intro j less c found
    obtain ⟨_, rfl⟩ := List.getElem?_eq_some_iff.mp found
    simpa using before j less
  · rintro ⟨b, found, high, before⟩
    obtain ⟨inside, rfl⟩ := List.getElem?_eq_some_iff.mp found
    refine ⟨inside, by simpa using high, fun j less => ?_⟩
    simpa using before j less _ (List.getElem?_eq_getElem (Nat.lt_trans less inside))

theorem getElem?_map_range' (memory : Nat → UInt8) (start count i : Nat) :
    ((List.range' start count).map memory)[i]? =
      if i < count then some (memory (start + i)) else none := by
  rw [List.getElem?_map]
  split
  next inside => rw [List.getElem?_range' inside, Nat.one_mul, Option.map_some]
  next outside =>
    rw [List.getElem?_eq_none (by simpa using outside), Option.map_none]

theorem firstHigh?_range {memory : Nat → UInt8} {start stop a : Nat} :
    (Bytes.firstHigh? ((List.range' start (stop - start)).map memory)).map (start + ·) = some a ↔
      start ≤ a ∧ a < stop ∧ 0x80 ≤ memory a ∧ ∀ c, start ≤ c → c < a → memory c < 0x80 := by
  have holds (i : Nat) (b : UInt8) :
      ((List.range' start (stop - start)).map memory)[i]? = some b ↔
        start + i < stop ∧ memory (start + i) = b := by
    rw [getElem?_map_range', Option.ite_none_right_eq_some, Option.some_inj]
    exact and_congr_left' (by omega)
  simp only [Option.map_eq_some_iff, firstHigh?_eq_some_iff, holds]
  constructor
  · rintro ⟨i, ⟨b, ⟨inside, rfl⟩, high, before⟩, rfl⟩
    refine ⟨Nat.le_add_right _ _, inside, high, fun c le less => ?_⟩
    obtain ⟨j, rfl⟩ := Nat.exists_eq_add_of_le le
    exact before j (by omega) _ ⟨by omega, rfl⟩
  · rintro ⟨le, inside, high, before⟩
    obtain ⟨i, rfl⟩ := Nat.exists_eq_add_of_le le
    refine ⟨i, ⟨_, ⟨inside, rfl⟩, high, ?_⟩, rfl⟩
    rintro j less c ⟨_, rfl⟩
    exact before _ (by omega) (by omega)

theorem searchAddresses?_eq (access : WordAccess) (memory : Nat → UInt8) {start : Nat}
    (nonnull : start ≠ 0) (stop : Nat) :
    searchAddresses? access memory start stop =
      some ((Bytes.firstHigh? ((List.range' start (stop - start)).map memory)).map
        (start + ·)) := by
  unfold searchAddresses?
  by_cases empty : stop ≤ start
  · rw [if_pos (.inr empty), Nat.sub_eq_zero_of_le empty]
    rfl
  · rw [if_neg (by simp [nonnull, empty]), search?_eq, Option.map_some]

def heldAt (address : Nat) (bytes : Bytes) (a : Nat) : UInt8 :=
  (bytes[a - address]?).getD 0

theorem searchAddresses?_heldAt (access : WordAccess) {address : Nat} (nonnull : address ≠ 0)
    {bytes : Bytes} {start stop : Nat} (inside : stop ≤ bytes.length) :
    searchAddresses? access (heldAt address bytes) (address + start) (address + stop) =
      some ((searchRange bytes start stop).map (address + ·)) := by
  have held : (List.range' (address + start) (address + stop - (address + start))).map
      (heldAt address bytes) = (bytes.drop start).take (stop - start) := by
    apply List.ext_getElem?
    intro i
    have count : address + stop - (address + start) = stop - start := by omega
    have place : address + start + i - address = start + i := by omega
    rw [getElem?_map_range', List.getElem?_take, List.getElem?_drop, heldAt, count, place]
    split
    next here => rw [List.getElem?_eq_getElem (by omega), Option.getD_some]
    next => rfl
  rw [searchAddresses?_eq access _ (by omega), held, searchRange]
  split
  next empty =>
    rw [Nat.sub_eq_zero_of_le empty]
    rfl
  next =>
    rw [search, search?_eq, Option.join_some, Option.map_map]
    exact congrArg some (congrArg (Option.map · _) (funext fun i => Nat.add_assoc address start i))

/-- The search stays inside the octets and finds the first one above 0x7F, if there is one, whatever
the word loads are like and wherever the octets lie.  Between two addresses it finds where that
octet lies, and from the null pointer on it finds nothing. -/
theorem search_finds_first (access : WordAccess) :
    (∀ (address : Nat) (bytes : Bytes), ∃ found, search? access address bytes = some found ∧
      (∀ i, found = some i ↔ ∃ b, bytes[i]? = some b ∧ 0x80 ≤ b ∧
        ∀ j < i, ∀ c, bytes[j]? = some c → c < 0x80) ∧
      (found = none ↔ ∀ b ∈ bytes, b < 0x80)) ∧
    ∀ (memory : Nat → UInt8) (start stop : Nat),
      ∃ found, searchAddresses? access memory start stop = some found ∧
        (∀ a, found = some a ↔ start ≠ 0 ∧ start ≤ a ∧ a < stop ∧ 0x80 ≤ memory a ∧
          ∀ c, start ≤ c → c < a → memory c < 0x80) ∧
        (found = none ↔ start = 0 ∨ ∀ c, start ≤ c → c < stop → memory c < 0x80) := by
  refine ⟨fun address bytes => ⟨_, search?_eq access address bytes,
    fun i => firstHigh?_eq_some_iff, firstHigh?_eq_none_iff bytes⟩, ?_⟩
  intro memory start stop
  by_cases null : start = 0
  · have nothing : searchAddresses? access memory start stop = some none := if_pos (.inl null)
    exact ⟨none, nothing, by simp [null], by simp [null]⟩
  · refine ⟨_, searchAddresses?_eq access memory null stop, fun a => ?_, ?_⟩
    · rw [firstHigh?_range]
      simp [null]
    · rw [Option.map_eq_none_iff, firstHigh?_eq_none_iff]
      simp only [Bytes.IsAscii, List.forall_mem_map, List.mem_range'_1, null, false_or]
      exact ⟨fun all c le less => all c ⟨le, by omega⟩,
        fun all c inside => all c inside.1 (by omega)⟩

end NonAscii

end NativeGate
