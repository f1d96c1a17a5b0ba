import AffectedNodes.Ledger.Hash
import AffectedNodes.Proofs.Steps

/-!
# Which texts are hashes

A text is read as a hash exactly when it consists of 64 hexadecimal digits of either case.  The
reader looks at bytes, while the rule is about characters.  A character whose bytes are all digits
is a digit itself and takes one byte, because the first byte of a longer encoding is no digit.  What
is read is written back in upper case.
-/
namespace AffectedNodes.Hash

def isDigit (c : Char) : Bool :=
  ('0' ≤ c && c ≤ '9') || ('A' ≤ c && c ≤ 'F') || ('a' ≤ c && c ≤ 'f')

/-- The texts that spell a hash are those of 64 digits. -/
def IsSpelling (text : String) : Prop := text.length = 64 ∧ ∀ c ∈ text.toList, isDigit c = true

/-! ### Digits as characters and as bytes -/

theorem isDigit_iff {c : Char} :
    isDigit c = true ↔ (48 ≤ c.toNat ∧ c.toNat ≤ 57) ∨ (65 ≤ c.toNat ∧ c.toNat ≤ 70) ∨
      (97 ≤ c.toNat ∧ c.toNat ≤ 102) := by
  simp only [isDigit, Char.le_def, UInt32.le_iff_toNat_le, Bool.or_eq_true, Bool.and_eq_true,
    decide_eq_true_eq, or_assoc]
  rfl

theorem isSome_digit? (c : Char) : (Text.digit? 16 c).isSome = isDigit c := by
  have zero : '0'.toNat = 48 := rfl
  have nine : '9'.toNat = 57 := rfl
  have a : 'a'.toNat = 97 := rfl
  have f : 'f'.toNat = 102 := rfl
  have A : 'A'.toNat = 65 := rfl
  have F : 'F'.toNat = 70 := rfl
  rw [Bool.eq_iff_iff, isDigit_iff, Text.digit?]
  simp only [zero, nine, a, f, A, F, Option.isSome_ite]
  grind

theorem toNat_ofNat_byte (byte : UInt8) : (Char.ofNat byte.toNat).toNat = byte.toNat := by
  have bound := byte.toNat_lt
  rw [Char.ofNat, dif_pos (Or.inl (by omega))]
  rfl

theorem digitValue?_of_high {byte : UInt8} (high : 128 ≤ byte.toNat) : digitValue? byte = none := by
  rw [← Option.isNone_iff_eq_none, ← Option.not_isSome, digitValue?, isSome_digit?,
    Bool.not_eq_true', ← Bool.not_eq_true, isDigit_iff, toNat_ofNat_byte]
  omega

theorem utf8EncodeChar_of_ascii {c : Char} (ascii : c.toNat < 128) :
    String.utf8EncodeChar c = [UInt8.ofNat c.toNat] :=
  if_pos (show c.toNat ≤ 127 by omega)

/-- Beyond ASCII the first byte of a character is high. -/
theorem exists_high_of_not_ascii {c : Char} (wide : 128 ≤ c.toNat) :
    ∃ byte ∈ String.utf8EncodeChar c, 128 ≤ byte.toNat := by
  have notShort : ¬ c.val.toNat ≤ 127 := by
    change ¬ c.toNat ≤ 127
    omega
  simp only [String.utf8EncodeChar, if_neg notShort]
  split
  · exact ⟨_, List.mem_cons_self, by rw [UInt8.toNat_ofNat']; omega⟩
  · split
    · exact ⟨_, List.mem_cons_self, by rw [UInt8.toNat_ofNat']; omega⟩
    · exact ⟨_, List.mem_cons_self, by rw [UInt8.toNat_ofNat']; omega⟩

theorem isDigit_iff_bytes {c : Char} :
    (∀ byte ∈ String.utf8EncodeChar c, (digitValue? byte).isSome = true) ↔ isDigit c = true := by
  by_cases ascii : c.toNat < 128
  · have same : Char.ofNat (UInt8.ofNat c.toNat).toNat = c := by
      rw [UInt8.toNat_ofNat', Nat.mod_eq_of_lt (by omega), Char.ofNat_toNat]
    rw [utf8EncodeChar_of_ascii ascii, List.forall_mem_singleton, digitValue?, same, isSome_digit?]
  · obtain ⟨byte, member, high⟩ := exists_high_of_not_ascii (Nat.le_of_not_lt ascii)
    constructor
    · intro digits
      cases digitValue?_of_high high ▸ digits byte member
    · intro digit
      have range := isDigit_iff.mp digit
      omega

theorem length_utf8EncodeChar_of_isDigit {c : Char} (digit : isDigit c = true) :
    (String.utf8EncodeChar c).length = 1 := by
  have range := isDigit_iff.mp digit
  rw [utf8EncodeChar_of_ascii (by omega)]
  rfl

theorem length_bytes_of_isDigit {cs : List Char} (digits : ∀ c ∈ cs, isDigit c = true) :
    (cs.flatMap String.utf8EncodeChar).length = cs.length := by
  induction cs with
  | nil => rfl
  | cons c rest ih =>
      rw [List.flatMap_cons, List.length_append, List.length_cons,
        length_utf8EncodeChar_of_isDigit (digits c List.mem_cons_self),
        ih fun c member => digits c (List.mem_cons_of_mem _ member), Nat.add_comm]

/-! ### Reading pairs of digits -/

theorem exists_ofDigits {bytes : List UInt8} (position : Nat)
    (digits : ∀ byte ∈ bytes, (digitValue? byte).isSome = true) :
    ∃ read, ofDigits position bytes = .ok read := by
  fun_induction ofDigits position bytes with
  | case1 position high low rest noHigh =>
      cases noHigh ▸ digits high List.mem_cons_self
  | case2 position high low rest h noLow =>
      cases noLow ▸ digits low (List.mem_cons_of_mem _ List.mem_cons_self)
  | case3 position high low rest h l _ _ ih =>
      obtain ⟨read, readRest⟩ := ih fun byte member =>
        digits byte (List.mem_cons_of_mem _ (List.mem_cons_of_mem _ member))
      exact ⟨_, congrArg (Except.map _) readRest⟩
  | case4 => exact ⟨[], rfl⟩

/-- An even number of bytes that are read are digits, and twice as many as the bytes that they
write. -/
theorem digits_of_ofDigits {position : Nat} {bytes read : List UInt8}
    (even : bytes.length % 2 = 0) (ok : ofDigits position bytes = .ok read) :
    (∀ byte ∈ bytes, (digitValue? byte).isSome = true) ∧ bytes.length = 2 * read.length := by
  fun_induction ofDigits position bytes generalizing read with
  | case1 => cases ok
  | case2 => cases ok
  | case3 position high low rest h l highValue lowValue ih =>
      simp only [List.length_cons] at even
      obtain ⟨readRest, okRest, rfl⟩ := map_eq_ok_iff.mp ok
      obtain ⟨digits, count⟩ := ih (by omega) okRest
      constructor
      · rw [List.forall_mem_cons, List.forall_mem_cons, highValue, lowValue]
        exact ⟨rfl, rfl, digits⟩
      · simp only [List.length_cons]
        omega
  | case4 bytes position short =>
      cases ok
      match bytes, even, short with
      | [], _, _ => exact ⟨nofun, rfl⟩
      | high :: low :: rest, _, short => exact absurd rfl (short high low rest)

theorem exists_ofHex_of_digits {text : String}
    (size : (text.toList.flatMap String.utf8EncodeChar).length = 64)
    (digits : ∀ byte ∈ text.toList.flatMap String.utf8EncodeChar,
      (digitValue? byte).isSome = true) : ∃ hash, ofHex text = .ok hash := by
  obtain ⟨bytes, read⟩ := exists_ofDigits 0 digits
  obtain ⟨-, twice⟩ := digits_of_ofDigits (by omega) read
  refine ⟨⟨bytes, by omega⟩, ?_⟩
  simp only [ofHex, read]
  rw [if_neg (by omega), dif_pos]

/-- A text is read as a hash exactly when it is 64 digits. -/
theorem exists_ofHex_iff {text : String} :
    (∃ hash, ofHex text = .ok hash) ↔ IsSpelling text := by
  have count : text.toList.length = text.length := String.length_toList
  constructor
  · rintro ⟨hash, ok⟩
    simp only [ofHex] at ok
    split at ok
    · cases ok
    · rename_i notOdd
      split at ok
      · cases ok
      · rename_i bytes read
        split at ok
        · rename_i fits
          obtain ⟨digits, size⟩ := digits_of_ofDigits (by omega) read
          have each : ∀ c ∈ text.toList, isDigit c = true := by
            intro c member
            apply isDigit_iff_bytes.mp
            exact fun byte inside => digits byte (List.mem_flatMap.mpr ⟨c, member, inside⟩)
          -- the hash counts bytes, and a digit is one byte
          rw [length_bytes_of_isDigit each] at size
          exact ⟨by omega, each⟩
        · cases ok
  · rintro ⟨size, each⟩
    apply exists_ofHex_of_digits
    · rw [length_bytes_of_isDigit each, count, size]
    · intro byte member
      obtain ⟨c, inText, inside⟩ := List.mem_flatMap.mp member
      exact isDigit_iff_bytes.mpr (each c inText) byte inside

/-! ### Upper case -/

theorem hexDigit_of_code : ∀ code < 103, isDigit (Char.ofNat code) = true →
    (digitValue? (UInt8.ofNat code)).map hexDigit = some (Char.ofNat code).toUpper := by
  decide

theorem exists_value_of_isDigit {c : Char} (digit : isDigit c = true) :
    ∃ value, digitValue? (UInt8.ofNat c.toNat) = some value ∧ hexDigit value = c.toUpper := by
  have range := isDigit_iff.mp digit
  have same := c.ofNat_toNat
  have written := hexDigit_of_code c.toNat (by omega) (same.symm ▸ digit)
  rw [same, Option.map_eq_some_iff] at written
  exact written

theorem value_lt {byte : UInt8} {value : Nat} (read : digitValue? byte = some value) :
    value < 16 := by
  rw [digitValue?] at read
  simp only [Text.digit?, Option.ite_none_right_eq_some] at read
  obtain ⟨small, same⟩ := read
  cases same
  exact small

theorem byteDigits_ofNat {high low : Nat} (highSmall : high < 16) (lowSmall : low < 16) :
    byteDigits (UInt8.ofNat (high * 16 + low)) = [hexDigit high, hexDigit low] := by
  have bytes : (UInt8.ofNat (high * 16 + low)).toNat = high * 16 + low := by
    rw [UInt8.toNat_ofNat', Nat.mod_eq_of_lt (by omega)]
  have first : (high * 16 + low) / 16 = high := by omega
  have second : (high * 16 + low) % 16 = low := by omega
  rw [byteDigits, bytes, first, second]

/-- An even number of digits, wherever they stand, are read as bytes that are written in upper
case. -/
theorem byteDigits_of_ofDigits {position : Nat} {bytes : List UInt8} : ∀ {digits : List Char},
    digits.length % 2 = 0 → (∀ c ∈ digits, isDigit c = true) →
    ofDigits position (digits.flatMap String.utf8EncodeChar) = .ok bytes →
    bytes.flatMap byteDigits = digits.map Char.toUpper
  | [], _, _, read => by
      cases read
      rfl
  | [_], odd, _, _ => nomatch odd
  | first :: second :: rest, even, each, read => by
      have firstDigit := each first List.mem_cons_self
      have secondDigit := each second (List.mem_cons_of_mem _ List.mem_cons_self)
      have firstRange := isDigit_iff.mp firstDigit
      have secondRange := isDigit_iff.mp secondDigit
      obtain ⟨high, highRead, highUpper⟩ := exists_value_of_isDigit firstDigit
      obtain ⟨low, lowRead, lowUpper⟩ := exists_value_of_isDigit secondDigit
      rw [List.flatMap_cons, List.flatMap_cons, utf8EncodeChar_of_ascii (by omega),
        utf8EncodeChar_of_ascii (by omega), List.singleton_append, List.singleton_append, ofDigits,
        highRead, lowRead] at read
      obtain ⟨later, readRest, rfl⟩ := map_eq_ok_iff.mp read
      rw [List.length_cons, List.length_cons] at even
      have upper := byteDigits_of_ofDigits (by omega)
        (fun c member => each c (List.mem_cons_of_mem _ (List.mem_cons_of_mem _ member))) readRest
      rw [List.flatMap_cons, byteDigits_ofNat (value_lt highRead) (value_lt lowRead), upper,
        highUpper, lowUpper]
      rfl

theorem toHex_of_ofHex {text : String} {hash : Hash} (read : ofHex text = .ok hash) :
    hash.toHex = text.toUpper := by
  obtain ⟨size, each⟩ := exists_ofHex_iff.mp ⟨hash, read⟩
  have count : text.toList.length = text.length := String.length_toList
  have upper : hash.bytes.flatMap byteDigits = text.toList.map Char.toUpper := by
    simp only [ofHex] at read
    split at read
    · cases read
    · split at read
      · cases read
      · rename_i bytes digits
        split at read
        · cases read
          exact byteDigits_of_ofDigits (by omega) each digits
        · cases read
  rw [toHex, upper, String.toUpper, ← String.toList_map, String.ofList_toList]

end AffectedNodes.Hash
