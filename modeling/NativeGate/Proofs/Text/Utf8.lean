import NativeGate.Proofs.NonAscii
import NativeGate.Text.Utf8

namespace NativeGate.Utf8

open NativeGate

/-! The machine accepts the octets of characters one behind the other, and nothing else. -/

/-- The octets of some text.  A character is a Unicode scalar value, and there is one sequence of
octets for each. -/
def WellFormed (bytes : Bytes) : Prop :=
  ∃ text : List Char, text.flatMap String.utf8EncodeChar = bytes

theorem within_eq_some_iff {low high octet : UInt8} {next state : State} :
    within low high octet next = some state ↔
      (low.toNat ≤ octet.toNat ∧ octet.toNat ≤ high.toNat) ∧ next = state := by
  rw [within, ← UInt8.le_iff_toNat_le, ← UInt8.le_iff_toNat_le]
  split
  next inside => simpa using fun _ => by simpa using inside
  next outside =>
    simp only [reduceCtorEq, false_iff, not_and]
    intro inside
    simp [inside] at outside

theorem lead_eq_some_iff {octet : UInt8} {state : State} :
    lead octet = some state ↔
      match state with
      | .start => octet.toNat ≤ 0x7F
      | .tail1 => 0xC2 ≤ octet.toNat ∧ octet.toNat ≤ 0xDF
      | .tail2 => 0xE1 ≤ octet.toNat ∧ octet.toNat ≤ 0xEF ∧ octet.toNat ≠ 0xED
      | .tail3 => 0xF1 ≤ octet.toNat ∧ octet.toNat ≤ 0xF3
      | .afterE0 => octet.toNat = 0xE0
      | .afterED => octet.toNat = 0xED
      | .afterF0 => octet.toNat = 0xF0
      | .afterF4 => octet.toNat = 0xF4 := by
  simp only [lead, UInt8.le_iff_toNat_le, UInt8.lt_iff_toNat_lt, ← UInt8.toNat_inj]
  cases state <;> grind

theorem run_cons_of_step {state next : State} {octet : UInt8} (step : step state octet = some next)
    (rest : Bytes) : run state (octet :: rest) = run next rest := by
  rw [run, step]

theorem run_cons_eq_some {state last : State} {octet : UInt8} {rest : Bytes}
    (accepted : run state (octet :: rest) = some last) :
    ∃ next, step state octet = some next ∧ run next rest = some last := by
  rw [run] at accepted
  split at accepted
  next next stepped => exact ⟨next, stepped, accepted⟩
  next => cases accepted

theorem exists_tail {state next : State} {low high : UInt8} {bytes : Bytes}
    (accepted : run state bytes = some .start) (unfinished : state ≠ .start)
    (owes : ∀ octet, step state octet = within low high octet next) :
    ∃ octet rest, bytes = octet :: rest ∧
      (low.toNat ≤ octet.toNat ∧ octet.toNat ≤ high.toNat) ∧ run next rest = some .start := by
  cases bytes with
  | nil => exact absurd (Option.some.inj accepted) unfinished
  | cons octet rest =>
      obtain ⟨_, stepped, accepted⟩ := run_cons_eq_some accepted
      rw [owes, within_eq_some_iff] at stepped
      obtain ⟨inside, rfl⟩ := stepped
      exact ⟨octet, rest, rfl, inside, accepted⟩

/-- No more octets than it takes. -/
inductive Spells (n : Nat) : Bytes → Prop
  | one {a : UInt8} (ha : a.toNat = n) (range : n ≤ 0x7F) : Spells n [a]
  | two {a b : UInt8} (ha : a.toNat = 0xC0 + n / 64) (hb : b.toNat = 0x80 + n % 64)
      (range : 0x80 ≤ n ∧ n ≤ 0x7FF) : Spells n [a, b]
  | three {a b d : UInt8} (ha : a.toNat = 0xE0 + n / 4096) (hb : b.toNat = 0x80 + n / 64 % 64)
      (hd : d.toNat = 0x80 + n % 64) (range : 0x800 ≤ n ∧ n ≤ 0xFFFF) : Spells n [a, b, d]
  | four {a b d e : UInt8} (ha : a.toNat = 0xF0 + n / 262144)
      (hb : b.toNat = 0x80 + n / 4096 % 64) (hd : d.toNat = 0x80 + n / 64 % 64)
      (he : e.toNat = 0x80 + n % 64) (range : 0x10000 ≤ n ∧ n ≤ 0x10FFFF) :
      Spells n [a, b, d, e]

theorem Spells.unique {n : Nat} {octets others : Bytes} (spells : Spells n octets)
    (other : Spells n others) : octets = others := by
  cases spells <;> cases other <;>
    first
    | omega
    | simp only [List.cons.injEq, and_true, ← UInt8.toNat_inj]
      omega

theorem spells_utf8EncodeChar (c : Char) : Spells c.toNat (String.utf8EncodeChar c) := by
  have scalar : c.toNat.isValidChar := c.valid
  unfold Nat.isValidChar at scalar
  have octet {n : Nat} (small : n < 256) : (UInt8.ofNat n).toNat = n :=
    UInt8.toNat_ofNat_of_lt' small
  rw [String.utf8EncodeChar, Char.toNat_val]
  split
  next => exact .one (octet (by omega)) (by omega)
  split
  next => exact .two (by rw [octet] <;> omega) (by rw [octet] <;> omega) (by omega)
  split
  next =>
    exact .three (by rw [octet] <;> omega) (by rw [octet] <;> omega) (by rw [octet] <;> omega)
      (by omega)
  next =>
    exact .four (by rw [octet] <;> omega) (by rw [octet] <;> omega) (by rw [octet] <;> omega)
      (by rw [octet] <;> omega) (by omega)

theorem Spells.exists_char {n : Nat} {octets : Bytes} (spells : Spells n octets)
    (scalar : n.isValidChar) : ∃ c, String.utf8EncodeChar c = octets := by
  have value : (Char.ofNatAux n scalar).toNat = n := BitVec.toNat_ofNatLT ..
  have encoded := spells_utf8EncodeChar (Char.ofNatAux n scalar)
  rw [value] at encoded
  exact ⟨_, encoded.unique spells⟩

theorem exists_char_of_run {octet : UInt8} {bytes : Bytes}
    (accepted : run .start (octet :: bytes) = some .start) :
    ∃ c rest, String.utf8EncodeChar c ++ rest = octet :: bytes ∧
      run .start rest = some .start := by
  obtain ⟨state, started, accepted⟩ := run_cons_eq_some accepted
  have first := lead_eq_some_iff.mp started
  cases state with
  | start =>
      obtain ⟨c, encoded⟩ := Spells.exists_char (.one rfl first) (.inl (by omega))
      exact ⟨c, bytes, by rw [encoded]; rfl, accepted⟩
  | tail1 =>
      obtain ⟨b, rest, rfl, hb, accepted⟩ := exists_tail accepted nofun fun _ => rfl
      simp only [UInt8.reduceToNat] at hb first
      have spells : Spells ((octet.toNat - 0xC0) * 64 + (b.toNat - 0x80)) [octet, b] :=
        .two (by omega) (by omega) (by omega)
      obtain ⟨c, encoded⟩ := spells.exists_char (.inl (by omega))
      exact ⟨c, rest, by rw [encoded]; rfl, accepted⟩
  | tail2 | afterE0 | afterED =>
      obtain ⟨b, _, rfl, hb, accepted⟩ := exists_tail accepted nofun fun _ => rfl
      obtain ⟨d, rest, rfl, hd, accepted⟩ := exists_tail accepted nofun fun _ => rfl
      simp only [UInt8.reduceToNat] at hb hd first
      have spells : Spells
          ((octet.toNat - 0xE0) * 4096 + (b.toNat - 0x80) * 64 + (d.toNat - 0x80))
          [octet, b, d] :=
        .three (by omega) (by omega) (by omega) (by omega)
      obtain ⟨c, encoded⟩ := spells.exists_char (by unfold Nat.isValidChar; omega)
      exact ⟨c, rest, by rw [encoded]; rfl, accepted⟩
  | tail3 | afterF0 | afterF4 =>
      obtain ⟨b, _, rfl, hb, accepted⟩ := exists_tail accepted nofun fun _ => rfl
      obtain ⟨d, _, rfl, hd, accepted⟩ := exists_tail accepted nofun fun _ => rfl
      obtain ⟨e, rest, rfl, he, accepted⟩ := exists_tail accepted nofun fun _ => rfl
      simp only [UInt8.reduceToNat] at hb hd he first
      have spells : Spells
          ((octet.toNat - 0xF0) * 262144 + (b.toNat - 0x80) * 4096 + (d.toNat - 0x80) * 64 +
            (e.toNat - 0x80))
          [octet, b, d, e] :=
        .four (by omega) (by omega) (by omega) (by omega) (by omega)
      obtain ⟨c, encoded⟩ := spells.exists_char (.inr (by omega))
      exact ⟨c, rest, by rw [encoded]; rfl, accepted⟩

theorem run_lead {octet : UInt8} {next : State} (leads : lead octet = some next) (rest : Bytes) :
    run .start (octet :: rest) = run next rest :=
  @run_cons_of_step .start next octet leads rest

theorem run_tail {state next : State} {low high octet : UInt8}
    (owes : ∀ octet, step state octet = within low high octet next)
    (inside : low.toNat ≤ octet.toNat ∧ octet.toNat ≤ high.toNat) (rest : Bytes) :
    run state (octet :: rest) = run next rest := by
  apply run_cons_of_step
  rw [owes, within_eq_some_iff]
  exact ⟨inside, rfl⟩

theorem Spells.run {n : Nat} {octets : Bytes} (spells : Spells n octets) (scalar : n.isValidChar)
    (rest : Bytes) : run .start (octets ++ rest) = run .start rest := by
  unfold Nat.isValidChar at scalar
  cases spells with
  | @one a ha range =>
      have first : lead a = some .start := lead_eq_some_iff.mpr (by dsimp only; omega)
      exact run_lead first rest
  | @two a b ha hb range =>
      have first : lead a = some .tail1 := lead_eq_some_iff.mpr (by dsimp only; omega)
      exact (run_lead first _).trans
        (run_tail (fun _ => rfl) (by simp only [UInt8.reduceToNat]; omega) rest)
  | @three a b d ha hb hd range =>
      have last : Utf8.run .tail1 (d :: rest) = Utf8.run .start rest :=
        run_tail (fun _ => rfl) (by simp only [UInt8.reduceToNat]; omega) rest
      by_cases isE0 : a.toNat = 0xE0
      · have first : lead a = some .afterE0 := lead_eq_some_iff.mpr isE0
        refine (run_lead first _).trans ((run_tail (fun _ => rfl) ?_ _).trans last)
        simp only [UInt8.reduceToNat]
        omega
      by_cases isED : a.toNat = 0xED
      · have first : lead a = some .afterED := lead_eq_some_iff.mpr isED
        refine (run_lead first _).trans ((run_tail (fun _ => rfl) ?_ _).trans last)
        simp only [UInt8.reduceToNat]
        omega
      · have first : lead a = some .tail2 := lead_eq_some_iff.mpr (by dsimp only; omega)
        refine (run_lead first _).trans ((run_tail (fun _ => rfl) ?_ _).trans last)
        simp only [UInt8.reduceToNat]
        omega
  | @four a b d e ha hb hd he range =>
      have last : Utf8.run .tail2 (d :: e :: rest) = Utf8.run .start rest :=
        (run_tail (fun _ => rfl) (by simp only [UInt8.reduceToNat]; omega) _).trans
          (run_tail (fun _ => rfl) (by simp only [UInt8.reduceToNat]; omega) rest)
      by_cases isF0 : a.toNat = 0xF0
      · have first : lead a = some .afterF0 := lead_eq_some_iff.mpr isF0
        refine (run_lead first _).trans ((run_tail (fun _ => rfl) ?_ _).trans last)
        simp only [UInt8.reduceToNat]
        omega
      by_cases isF4 : a.toNat = 0xF4
      · have first : lead a = some .afterF4 := lead_eq_some_iff.mpr isF4
        refine (run_lead first _).trans ((run_tail (fun _ => rfl) ?_ _).trans last)
        simp only [UInt8.reduceToNat]
        omega
      · have first : lead a = some .tail3 := lead_eq_some_iff.mpr (by dsimp only; omega)
        refine (run_lead first _).trans ((run_tail (fun _ => rfl) ?_ _).trans last)
        simp only [UInt8.reduceToNat]
        omega

theorem run_text (text : List Char) :
    run .start (text.flatMap String.utf8EncodeChar) = some .start := by
  induction text with
  | nil => rfl
  | cons c text ih =>
      rw [List.flatMap_cons, (spells_utf8EncodeChar c).run c.valid]
      exact ih

theorem wellFormed_of_run {bytes : Bytes} (accepted : run .start bytes = some .start) :
    WellFormed bytes := by
  induction counted : bytes.length using Nat.strongRecOn generalizing bytes with
  | ind length ih =>
    cases bytes with
    | nil => exact ⟨[], rfl⟩
    | cons octet bytes =>
        obtain ⟨c, rest, split, accepted⟩ := exists_char_of_run accepted
        have some_octet := List.length_pos_iff.mpr (@String.utf8EncodeChar_ne_nil c)
        have shorter : rest.length < length := by
          rw [← counted, ← split, List.length_append]
          omega
        obtain ⟨text, rfl⟩ := ih _ shorter accepted rfl
        exact ⟨c :: text, split⟩

theorem isValid_iff (bytes : Bytes) : isValid bytes = true ↔ WellFormed bytes := by
  rw [isValid, decide_eq_true_iff]
  constructor
  · exact wellFormed_of_run
  · rintro ⟨text, rfl⟩
    exact run_text text

instance (bytes : Bytes) : Decidable (WellFormed bytes) :=
  decidable_of_iff _ (isValid_iff bytes)

theorem WellFormed.append {front rest : Bytes} (first : WellFormed front)
    (second : WellFormed rest) : WellFormed (front ++ rest) := by
  obtain ⟨text, rfl⟩ := first
  obtain ⟨more, rfl⟩ := second
  exact ⟨text ++ more, List.flatMap_append⟩

/-- A character is one ASCII octet, or all its octets are high. -/
theorem Spells.isAscii_or_high {n : Nat} {octets : Bytes} (spells : Spells n octets) :
    octets.IsAscii ∨ ∀ b ∈ octets, 0x80 ≤ b := by
  cases spells with
  | one ha range =>
      left
      simp only [Bytes.IsAscii, List.forall_mem_cons, List.not_mem_nil, false_implies,
        implies_true, and_true, UInt8.lt_iff_toNat_lt, UInt8.reduceToNat]
      omega
  | _ =>
      right
      simp only [List.forall_mem_cons, List.not_mem_nil, false_implies, implies_true, and_true,
        UInt8.le_iff_toNat_le, UInt8.reduceToNat]
      omega

theorem run_ascii {front : Bytes} (ascii : front.IsAscii) (rest : Bytes) :
    run .start (front ++ rest) = run .start rest := by
  induction front with
  | nil => rfl
  | cons octet front ih =>
      obtain ⟨isAscii, others⟩ := List.forall_mem_cons.mp ascii
      rw [UInt8.lt_iff_toNat_lt] at isAscii
      have first : lead octet = some .start :=
        lead_eq_some_iff.mpr (Nat.le_of_lt_succ isAscii)
      exact (run_lead first _).trans (ih others)

end NativeGate.Utf8
