import NativeGate.Coderange
import NativeGate.Proofs.FirstHigh
import NativeGate.Proofs.Object
import NativeGate.Proofs.Text.Utf8

namespace NativeGate

theorem NonAscii.search_eq (bytes : Bytes) : search bytes = bytes.firstHigh? := by
  rw [search, search?_eq, Option.join_some]

theorem Bytes.isAscii_take_firstHigh {bytes : Bytes} {first : Nat}
    (found : bytes.firstHigh? = some first) : IsAscii (bytes.take first) := by
  obtain ⟨-, -, -, before⟩ := NonAscii.firstHigh?_eq_some_iff.mp found
  intro b among
  obtain ⟨j, atJ⟩ := List.mem_iff_getElem?.mp among
  rw [List.getElem?_take] at atJ
  split at atJ
  next less => exact before j less b atJ
  next => cases atJ

namespace Utf8

theorem wellFormed_append_iff {front : Bytes} (ascii : front.IsAscii) (rest : Bytes) :
    WellFormed (front ++ rest) ↔ WellFormed rest := by
  rw [← isValid_iff, ← isValid_iff, isValid, isValid, run_ascii ascii]

theorem wellFormed_of_isAscii {bytes : Bytes} (ascii : bytes.IsAscii) : WellFormed bytes := by
  rw [← List.append_nil bytes, wellFormed_append_iff ascii]
  exact ⟨[], rfl⟩

theorem wellFormed_drop_iff {bytes : Bytes} {first : Nat}
    (found : NonAscii.search bytes = some first) :
    WellFormed (bytes.drop first) ↔ WellFormed bytes := by
  rw [NonAscii.search_eq] at found
  rw [← wellFormed_append_iff (Bytes.isAscii_take_firstHigh found), List.take_append_drop]

end Utf8

namespace Coderange

theorem scan_of_isAscii {bytes : Bytes} (ascii : bytes.IsAscii) (encoding : Encoding) :
    scan bytes encoding = .sevenBit := by
  rw [scan, (NonAscii.search_eq_none_iff bytes).mpr ascii]

theorem scan_of_not_isAscii {bytes : Bytes} (notAscii : ¬ bytes.IsAscii) (encoding : Encoding) :
    scan bytes encoding =
      match encoding with
      | .binary => .valid
      | .usAscii => .broken
      | .utf8 => if Utf8.WellFormed bytes then .valid else .broken := by
  obtain ⟨first, found⟩ := Option.ne_none_iff_exists'.mp
    (notAscii ∘ (NonAscii.search_eq_none_iff bytes).mp)
  rw [scan, found]
  cases encoding with
  | binary => rfl
  | usAscii => rfl
  | utf8 =>
      have whole := (Utf8.isValid_iff _).trans (Utf8.wellFormed_drop_iff found)
      simp only [whole]

theorem scan_of_wellFormed {bytes : Bytes} (sound : Utf8.WellFormed bytes) :
    scan bytes .utf8 = .sevenBit ∨ scan bytes .utf8 = .valid := by
  by_cases ascii : bytes.IsAscii
  · exact .inl (scan_of_isAscii ascii .utf8)
  · rw [scan_of_not_isAscii ascii]
    exact .inr (if_pos sound)

/-- `scan` classifies the whole string, though it looks for UTF-8 from the first high octet on only.
-/
theorem scan_classifies (bytes : Bytes) :
    (∀ encoding, scan bytes encoding ≠ .unknown) ∧
    (∀ encoding, scan bytes encoding = .sevenBit ↔ ∀ b ∈ bytes, b < 0x80) ∧
    ((∃ b ∈ bytes, 0x80 ≤ b) →
      scan bytes .binary = .valid ∧ scan bytes .usAscii = .broken ∧
      (scan bytes .utf8 = .valid ↔ Utf8.WellFormed bytes) ∧
      (scan bytes .utf8 = .broken ↔ ¬ Utf8.WellFormed bytes)) ∧
    ∀ first, NonAscii.search bytes = some first →
      (Utf8.isValid (bytes.drop first) = true ↔ Utf8.WellFormed bytes) := by
  refine ⟨scan_ne_unknown bytes, fun encoding => ?_, ?_, fun first found => ?_⟩
  · refine ⟨fun sevenBit => ?_, fun ascii => scan_of_isAscii ascii encoding⟩
    by_contra notAscii
    rw [scan_of_not_isAscii notAscii] at sevenBit
    split at sevenBit
    next => cases sevenBit
    next => cases sevenBit
    next => split at sevenBit <;> cases sevenBit
  · intro ⟨b, among, high⟩
    have notAscii : ¬ bytes.IsAscii := fun ascii => absurd high (UInt8.not_le.mpr (ascii b among))
    have utf8 := scan_of_not_isAscii notAscii .utf8
    dsimp only at utf8
    refine ⟨scan_of_not_isAscii notAscii .binary, scan_of_not_isAscii notAscii .usAscii, ?_, ?_⟩
    · rw [utf8]
      split <;> simp [*]
    · rw [utf8]
      split <;> simp [*]
  · exact (Utf8.isValid_iff _).trans (Utf8.wellFormed_drop_iff found)

end Coderange

end NativeGate
