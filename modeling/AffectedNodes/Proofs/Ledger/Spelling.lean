import AffectedNodes.Ledger.Amount
import AffectedNodes.Ledger.Hash
import AffectedNodes.Proofs.Text.Numeral

/-!
# Spelling of hashes and amounts

A hash is written as 64 digits and an amount of drops as a decimal numeral.  Both spellings read
back as the value that was written: a numeral because it is canonical, a hash two digits at a time.
-/
namespace AffectedNodes

namespace Drops

@[simp] theorem ofText?_text (drops : Drops) : ofText? drops.text = some drops := by
  have written : Text.Writes drops.text drops.count.toNat :=
    .unsigned (Text.isCanonical_iff.mpr rfl).numeral
  rw [ofText?, Text.word64?_eq_some_iff.mpr written, Option.map_some]

end Drops

namespace Hash

theorem digitValue?_hexDigit : ∀ n < 16,
    (String.utf8EncodeChar (hexDigit n)).map digitValue? = [some n] := by
  decide

theorem exists_byte_hexDigit {n : Nat} (small : n < 16) :
    ∃ byte, String.utf8EncodeChar (hexDigit n) = [byte] ∧ digitValue? byte = some n := by
  obtain ⟨byte, encoded, value⟩ := List.map_eq_singleton_iff.mp (digitValue?_hexDigit n small)
  exact ⟨byte, encoded, value⟩

/-- The digits of bytes, wherever they stand, are read as those bytes. -/
theorem ofDigits_byteDigits (bytes : List UInt8) (position : Nat) :
    ofDigits position ((bytes.flatMap byteDigits).flatMap String.utf8EncodeChar) = .ok bytes := by
  induction bytes generalizing position with
  | nil => rfl
  | cons byte rest ih =>
      have bound := byte.toNat_lt
      obtain ⟨high, highBytes, highValue⟩ := exists_byte_hexDigit (n := byte.toNat / 16) (by omega)
      obtain ⟨low, lowBytes, lowValue⟩ := exists_byte_hexDigit (n := byte.toNat % 16) (by omega)
      have whole : byte.toNat / 16 * 16 + byte.toNat % 16 = byte.toNat := by omega
      simp only [List.flatMap_cons, byteDigits, List.cons_append, List.nil_append, highBytes,
        lowBytes, ofDigits, highValue, lowValue, ih, Except.map, whole, UInt8.ofNat_toNat]

theorem length_byteDigits (bytes : List UInt8) :
    ((bytes.flatMap byteDigits).flatMap String.utf8EncodeChar).length = 2 * bytes.length := by
  induction bytes with
  | nil => rfl
  | cons byte rest ih =>
      have bound := byte.toNat_lt
      obtain ⟨high, highBytes, _⟩ := exists_byte_hexDigit (n := byte.toNat / 16) (by omega)
      obtain ⟨low, lowBytes, _⟩ := exists_byte_hexDigit (n := byte.toNat % 16) (by omega)
      simp only [List.flatMap_cons, byteDigits, List.cons_append, List.nil_append, highBytes,
        lowBytes, List.length_cons, ih]
      omega

@[simp] theorem ofHex_toHex (hash : Hash) : ofHex hash.toHex = .ok hash := by
  rw [ofHex, toHex, String.toList_ofList, length_byteDigits, ofDigits_byteDigits]
  simp [hash.length_bytes]

end Hash

end AffectedNodes
