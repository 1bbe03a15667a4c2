import Mathlib.Data.Nat.Digits.Lemmas
import NativeGate.Text.Numeral

namespace NativeGate.Numeral

open NativeGate

variable {base least n : Nat} {ds : List Nat}

theorem value_append_singleton (base : Nat) (ds : List Nat) (d : Nat) :
    value base (ds ++ [d]) = value base ds * base + d := by
  simp [value]

theorem value_eq_ofDigits (base : Nat) (ds : List Nat) :
    value base ds = Nat.ofDigits base ds.reverse := by
  induction ds using List.reverseRecOn with
  | nil => rfl
  | append_singleton ds d ih =>
      rw [value_append_singleton, ih, List.reverse_append, List.reverse_singleton,
        List.singleton_append, Nat.ofDigits_cons, Nat.mul_comm, Nat.add_comm]

theorem value_replicate_zero_append (base count : Nat) (ds : List Nat) :
    value base (List.replicate count 0 ++ ds) = value base ds := by
  induction count with
  | zero => rfl
  | succ count ih =>
      rw [List.replicate_succ, List.cons_append, ← ih]
      simp [value]

theorem value_cons (base d : Nat) (ds : List Nat) :
    value base (d :: ds) = d * base ^ ds.length + value base ds := by
  rw [value_eq_ofDigits, value_eq_ofDigits, List.reverse_cons, Nat.ofDigits_append]
  simp [Nat.add_comm, Nat.mul_comm]

theorem value_lt (two : 1 < base) (small : ∀ d ∈ ds, d < base) :
    value base ds < base ^ ds.length := by
  rw [value_eq_ofDigits, ← List.length_reverse]
  exact Nat.ofDigits_lt_base_pow_length two fun d member => small d (List.mem_reverse.mp member)

theorem pow_le_value {d : Nat} (positive : d ≠ 0) :
    base ^ ds.length ≤ value base (d :: ds) := by
  rw [value_cons]
  have front : base ^ ds.length ≤ d * base ^ ds.length :=
    Nat.le_mul_of_pos_left _ (Nat.pos_of_ne_zero positive)
  omega

/-- At least `least` digits of `n`, with no more zeros in front than that takes. -/
structure Writes (base least n : Nat) (ds : List Nat) : Prop where
  lt_base : ∀ d ∈ ds, d < base
  value_eq : value base ds = n
  least_le : least ≤ ds.length
  head_ne_zero : least < ds.length → ds.head? ≠ some 0

namespace Writes

theorem length_le (two : 1 < base) (writes : Writes base least n ds) {other : List Nat}
    (small : ∀ d ∈ other, d < base) (value_eq : value base other = n)
    (enough : least ≤ other.length) : ds.length ≤ other.length := by
  by_contra longer
  cases ds with
  | nil => simp at longer
  | cons d rest =>
      have nonzero : d ≠ 0 := by
        have head := writes.head_ne_zero (by omega)
        simpa using head
      have large : base ^ rest.length ≤ n := writes.value_eq ▸ pow_le_value nonzero
      have bound : n < base ^ other.length := value_eq ▸ value_lt two small
      have fewer : other.length ≤ rest.length := by
        simp only [List.length_cons] at longer
        omega
      have growing := Nat.pow_le_pow_right (Nat.zero_lt_of_lt two) fewer
      omega

theorem unique (two : 1 < base) (writes : Writes base least n ds) {other : List Nat}
    (others : Writes base least n other) : ds = other := by
  have length_eq : ds.length = other.length :=
    Nat.le_antisymm (writes.length_le two others.lt_base others.value_eq others.least_le)
      (others.length_le two writes.lt_base writes.value_eq writes.least_le)
  have same : Nat.ofDigits base ds.reverse = Nat.ofDigits base other.reverse := by
    rw [← value_eq_ofDigits, ← value_eq_ofDigits, writes.value_eq, others.value_eq]
  refine List.reverse_injective
    (Nat.ofDigits_inj_of_len_eq two (by simpa using length_eq) ?_ ?_ same)
  · simpa using writes.lt_base
  · simpa using others.lt_base

theorem cons_zero (two : 1 < base) (writes : Writes base least n ds) :
    Writes base (ds.length + 1) n (0 :: ds) where
  lt_base := by
    simpa using ⟨Nat.zero_lt_of_lt two, writes.lt_base⟩
  value_eq := by
    rw [value_cons, writes.value_eq]
    omega
  least_le := Nat.le_refl _
  head_ne_zero longer := absurd longer (Nat.lt_irrefl _)

theorem isLeast_length_succ (two : 1 < base) (writes : Writes base least n ds)
    (head : ds.head? ≠ some 0) :
    IsLeast {q | least ≤ q ∧ ∃ ds, Writes base q n ds ∧ ds.head? = some 0} (ds.length + 1) := by
  refine ⟨⟨Nat.le_succ_of_le writes.least_le, _, writes.cons_zero two, rfl⟩, ?_⟩
  rintro q ⟨above, other, others, zero⟩
  cases other with
  | nil => cases zero
  | cons d rest =>
      obtain rfl : d = 0 := Option.some.inj zero
      have exact : q = rest.length + 1 := by
        have least_le := others.least_le
        have not_longer : ¬ q < rest.length + 1 := fun longer => others.head_ne_zero longer zero
        rw [List.length_cons] at least_le
        omega
      by_cases enough : least ≤ rest.length
      · have small : ∀ d ∈ rest, d < base :=
          fun d member => others.lt_base d (List.mem_cons_of_mem 0 member)
        have value_eq : value base rest = n := by
          rw [← others.value_eq, value_cons]
          omega
        have := writes.length_le two small value_eq enough
        omega
      · obtain rfl : least = q := by omega
        have same := writes.unique two others
        exact absurd (same ▸ zero) head

theorem nil (base : Nat) : Writes base 0 0 [] where
  lt_base := nofun
  value_eq := rfl
  least_le := Nat.le_refl 0
  head_ne_zero := nofun

end Writes

theorem digitsOnto_eq (two : 1 < base) (n : Nat) (tail : List Nat) :
    digitsOnto base n tail = (if n = 0 then [0] else (Nat.digits base n).reverse) ++ tail := by
  induction n, tail using digitsOnto.induct base with
  | case1 n tail small =>
      have below : n < base := small.resolve_left (by omega)
      rw [digitsOnto, dif_pos small]
      split
      next zero => simp [zero]
      next nonzero => simp [Nat.digits_of_lt base n nonzero below]
  | case2 n tail large ih =>
      obtain ⟨-, above⟩ := not_or.mp large
      have nonzero : n ≠ 0 := by omega
      have quotient : n / base ≠ 0 := by
        have positive := Nat.div_pos (not_lt.mp above) (Nat.zero_lt_of_lt two)
        omega
      rw [digitsOnto, dif_neg large, ih, if_neg quotient, if_neg nonzero,
        Nat.digits_def' two (Nat.pos_of_ne_zero nonzero)]
      simp

theorem digits_zero (two : 1 < base) : digits base 0 = [0] := by
  rw [digits, digitsOnto_eq two]
  simp

theorem digits_of_ne_zero (two : 1 < base) (nonzero : n ≠ 0) :
    digits base n = (Nat.digits base n).reverse := by
  rw [digits, digitsOnto_eq two, if_neg nonzero, List.append_nil]

theorem value_digits (two : 1 < base) (n : Nat) : value base (digits base n) = n := by
  by_cases zero : n = 0
  · rw [zero, digits_zero two]
    simp [value]
  · rw [digits_of_ne_zero two zero, value_eq_ofDigits, List.reverse_reverse, Nat.ofDigits_digits]

theorem lt_base_of_mem_digits (two : 1 < base) {n d : Nat} (member : d ∈ digits base n) :
    d < base := by
  by_cases zero : n = 0
  · rw [zero, digits_zero two, List.mem_singleton] at member
    omega
  · rw [digits_of_ne_zero two zero, List.mem_reverse] at member
    exact Nat.digits_lt_base two member

theorem digits_ne_nil (two : 1 < base) (n : Nat) : digits base n ≠ [] := by
  by_cases zero : n = 0
  · rw [zero, digits_zero two]
    exact List.cons_ne_nil 0 []
  · rw [digits_of_ne_zero two zero]
    exact List.reverse_ne_nil_iff.mpr (Nat.digits_ne_nil_iff_ne_zero.mpr zero)

theorem head?_digits_ne_zero (two : 1 < base) (nonzero : n ≠ 0) :
    (digits base n).head? ≠ some 0 := by
  have nonempty : Nat.digits base n ≠ [] := Nat.digits_ne_nil_iff_ne_zero.mpr nonzero
  rw [digits_of_ne_zero two nonzero, List.head?_reverse, List.getLast?_eq_some_getLast nonempty]
  exact fun last => Nat.getLast_digit_ne_zero base nonzero (Option.some.inj last)

/-- Zeros in front bring digits up to a least number.  Zero is written with one digit if not more
are wanted, and so has no digit too many only if one is. -/
theorem writes_padded (two : 1 < base) (wanted : n = 0 → 0 < least) :
    Writes base least n (List.replicate (least - (digits base n).length) 0 ++ digits base n) where
  lt_base := by
    intro d member
    rw [List.mem_append, List.mem_replicate] at member
    obtain ⟨-, rfl⟩ | member := member
    · exact Nat.zero_lt_of_lt two
    · exact lt_base_of_mem_digits two member
  value_eq := by rw [value_replicate_zero_append, value_digits two]
  least_le := by
    rw [List.length_append, List.length_replicate]
    omega
  head_ne_zero longer := by
    rw [List.length_append, List.length_replicate] at longer
    have unpadded : least - (digits base n).length = 0 := by omega
    have nonzero : n ≠ 0 := by
      rintro rfl
      rw [digits_zero two, List.length_singleton] at longer
      have := wanted rfl
      omega
    rw [unpadded, List.replicate_zero, List.nil_append]
    exact head?_digits_ne_zero two nonzero

def atLeast (base least n : Nat) : List Nat :=
  if n = 0 ∧ least = 0 then []
  else List.replicate (least - (digits base n).length) 0 ++ digits base n

theorem writes_atLeast (two : 1 < base) (least n : Nat) :
    Writes base least n (atLeast base least n) := by
  unfold atLeast
  split
  next none =>
    obtain ⟨rfl, rfl⟩ := none
    exact .nil base
  next wanted => exact writes_padded two (by omega)

theorem digitOctet_eq_zero_iff {letters : LetterCase} {d : Nat} (small : d < 16) :
    digitOctet letters d = 0x30 ↔ d = 0 := by
  have all : ∀ letters, ∀ d < 16, digitOctet letters d = 0x30 ↔ d = 0 := by
    intro letters
    cases letters <;> decide
  exact all letters d small

theorem padded_map (letters : LetterCase) (least : Nat) (ds : List Nat) :
    padded least (ds.map (digitOctet letters)) =
      (List.replicate (least - ds.length) 0 ++ ds).map (digitOctet letters) := by
  have zero : digitOctet letters 0 = 48 := by
    cases letters <;> rfl
  simp [padded, zero]

end NativeGate.Numeral
