import AffectedNodes.Proofs.Ledger.HexText
import AffectedNodes.Proofs.Ledger.Spelling
import AffectedNodes.Proofs.Text.ByteOrder

/-!
# Hashes and their texts

A hash has one text in upper case, and any text of 64 digits is read as the hash of which it is the
text in some case.  The order of hashes is the order of their texts, because the digit of a lesser
half-byte comes before that of a greater one.

A text that is no hash is rejected for the first of three reasons.  All of them are about its bytes:
their number is odd, or else one of them is no digit and the leftmost such byte is told, or else
they are digits of too many bytes or too few.
-/
namespace AffectedNodes.Hash

def isDigitByte (byte : UInt8) : Bool := isDigit (Char.ofNat byte.toNat)

/-- The first reason that applies to a text that is no hash. -/
inductive Rejects (text : String) : Fault → Prop where
  | oddDigits (odd : (Text.bytes text).length % 2 = 1) : Rejects text .oddDigits
  | notDigit {digits rest : List UInt8} {byte : UInt8} (even : (Text.bytes text).length % 2 = 0)
      (split : Text.bytes text = digits ++ byte :: rest)
      (before : ∀ digit ∈ digits, isDigitByte digit = true) (noDigit : isDigitByte byte = false) :
      Rejects text (.notDigit byte digits.length)
  | wrongLength (even : (Text.bytes text).length % 2 = 0)
      (digits : ∀ digit ∈ Text.bytes text, isDigitByte digit = true)
      (other : (Text.bytes text).length / 2 ≠ byteCount) :
      Rejects text (.wrongLength ((Text.bytes text).length / 2))

variable {bytes : List UInt8} {text : String} {fault : Fault}

/-! ### Rejected texts -/

theorem isSome_digitValue? (byte : UInt8) : (digitValue? byte).isSome = isDigitByte byte :=
  isSome_digit? _

theorem exists_digitValue? {byte : UInt8} (digit : isDigitByte byte = true) :
    ∃ value, digitValue? byte = some value :=
  Option.isSome_iff_exists.mp ((isSome_digitValue? byte).trans digit)

theorem digitValue?_eq_none {byte : UInt8} (noDigit : isDigitByte byte = false) :
    digitValue? byte = none := by
  rw [← Option.isNone_iff_eq_none, ← Option.not_isSome, isSome_digitValue?, noDigit]
  rfl

theorem digits_or_split (bytes : List UInt8) :
    (∀ digit ∈ bytes, isDigitByte digit = true) ∨
      ∃ digits byte rest, bytes = digits ++ byte :: rest ∧
        (∀ digit ∈ digits, isDigitByte digit = true) ∧ isDigitByte byte = false := by
  induction bytes with
  | nil => exact Or.inl nofun
  | cons first rest ih =>
      cases digit : isDigitByte first with
      | false => exact Or.inr ⟨[], first, rest, rfl, nofun, digit⟩
      | true =>
          rcases ih with all | ⟨digits, byte, later, rfl, before, noDigit⟩
          · exact Or.inl (List.forall_mem_cons.mpr ⟨digit, all⟩)
          · exact Or.inr ⟨first :: digits, byte, later, rfl,
              List.forall_mem_cons.mpr ⟨digit, before⟩, noDigit⟩

/-- Pairs are read from the left, so the leftmost byte that is no digit is told. -/
theorem ofDigits_of_split {byte : UInt8} {rest : List UInt8} (noDigit : isDigitByte byte = false) :
    ∀ {digits : List UInt8} {start : Nat}, (digits ++ byte :: rest).length % 2 = 0 →
      (∀ digit ∈ digits, isDigitByte digit = true) →
      ofDigits start (digits ++ byte :: rest) = .error (.notDigit byte (start + digits.length))
  | [], start, even, _ => by
      cases rest with
      | nil => nomatch even
      | cons low later =>
          rw [List.nil_append, ofDigits, digitValue?_eq_none noDigit]
          rfl
  | [high], start, _, before => by
      obtain ⟨value, read⟩ := exists_digitValue? (before high List.mem_cons_self)
      rw [List.cons_append, List.nil_append, ofDigits, read, digitValue?_eq_none noDigit]
      rfl
  | high :: low :: digits, start, even, before => by
      rw [List.forall_mem_cons, List.forall_mem_cons] at before
      obtain ⟨highDigit, lowDigit, before⟩ := before
      obtain ⟨h, highRead⟩ := exists_digitValue? highDigit
      obtain ⟨l, lowRead⟩ := exists_digitValue? lowDigit
      rw [List.cons_append, List.cons_append, List.length_cons, List.length_cons] at even
      have later : ofDigits (start + 2) (digits ++ byte :: rest) =
          .error (.notDigit byte (start + 2 + digits.length)) :=
        ofDigits_of_split noDigit (by omega) before
      rw [List.cons_append, List.cons_append, ofDigits, highRead, lowRead, later, List.length_cons,
        List.length_cons, Nat.add_assoc, Nat.add_comm 2]
      rfl

theorem Rejects.ofHex_eq (rejects : Rejects text fault) : ofHex text = .error fault := by
  rw [ofHex, ← Text.bytes_eq_flatMap]
  cases rejects with
  | oddDigits odd => exact if_pos odd
  | notDigit even split before noDigit =>
      have read : ofDigits 0 (Text.bytes text) = _ :=
        split ▸ ofDigits_of_split noDigit (split ▸ even) before
      rw [if_neg (by omega), read, Nat.zero_add]
  | wrongLength even digits other =>
      obtain ⟨read, ok⟩ := exists_ofDigits 0 fun byte member =>
        (isSome_digitValue? byte).trans (digits byte member)
      obtain ⟨-, twice⟩ := digits_of_ofDigits even ok
      have half : (Text.bytes text).length / 2 = read.length := by omega
      rw [if_neg (by omega), ok, half]
      exact dif_neg (half ▸ other)

theorem reads_or_rejects (text : String) :
    (∃ hash, ofHex text = .ok hash) ∨ ∃ fault, Rejects text fault := by
  rcases Nat.mod_two_eq_zero_or_one (Text.bytes text).length with even | odd
  · rcases digits_or_split (Text.bytes text) with digits | ⟨digits, byte, rest, split, before, none⟩
    · by_cases fits : (Text.bytes text).length / 2 = byteCount
      · left
        rw [byteCount] at fits
        apply exists_ofHex_of_digits
        · rw [← Text.bytes_eq_flatMap]
          omega
        · rw [← Text.bytes_eq_flatMap]
          exact fun byte member => (isSome_digitValue? byte).trans (digits byte member)
      · exact Or.inr ⟨_, .wrongLength even digits fits⟩
    · exact Or.inr ⟨_, .notDigit even split before none⟩
  · exact Or.inr ⟨_, .oddDigits odd⟩

theorem ofHex_eq_error_iff : ofHex text = .error fault ↔ Rejects text fault := by
  constructor
  · intro failed
    rcases reads_or_rejects text with ⟨hash, read⟩ | ⟨other, rejects⟩
    · cases failed.symm.trans read
    · cases failed.symm.trans rejects.ofHex_eq
      exact rejects
  · exact Rejects.ofHex_eq

/-! ### The order of hashes -/

theorem hexDigit_lt : ∀ n < 16, ∀ m < n, hexDigit m < hexDigit n := by
  decide

theorem byteDigits_append_lt {first second : UInt8} (before : first < second)
    (rest later : List Char) : byteDigits first ++ rest < byteDigits second ++ later := by
  have less : first.toNat < second.toNat := before
  have bound := second.toNat_lt
  simp only [byteDigits, List.cons_append, List.nil_append, List.cons_lt_cons_iff]
  rcases Nat.lt_or_ge (first.toNat / 16) (second.toNat / 16) with high | same
  · exact Or.inl (hexDigit_lt _ (by omega) _ high)
  · have high : first.toNat / 16 = second.toNat / 16 := by omega
    exact Or.inr ⟨by rw [high], Or.inl (hexDigit_lt _ (by omega) _ (by omega))⟩

theorem toHex_lt_of_bytes_lt {first second : Hash} (before : first.bytes < second.bytes) :
    first.toHex < second.toHex := by
  rw [String.lt_iff, toHex, toHex, String.toList_ofList, String.toList_ofList]
  exact Text.flatMap_lt_flatMap (fun _ => List.cons_ne_nil _ _) byteDigits_append_lt before

theorem compare_eq_lt_iff {first second : List UInt8} :
    compare first second = .lt ↔ first < second := by
  induction first generalizing second with
  | nil => cases second <;> simp
  | cons byte rest ih =>
      cases second with
      | nil => simp
      | cons other later =>
          rw [List.compare_cons_cons, Ordering.then_eq_lt, Std.compare_eq_lt,
            Std.LawfulEqOrd.compare_eq_iff_eq, ih, List.cons_lt_cons_iff]

/-- The lesser of two hashes has the lesser text. -/
theorem compare_eq_lt_iff_toHex {first second : Hash} :
    compare first second = .lt ↔ first.toHex < second.toHex := by
  change compare first.bytes second.bytes = .lt ↔ _
  rw [compare_eq_lt_iff]
  constructor
  · exact toHex_lt_of_bytes_lt
  · intro before
    rcases Std.lt_trichotomy first.bytes second.bytes with less | same | greater
    · exact less
    · rw [toHex, toHex, same] at before
      exact absurd before (String.lt_irrefl _)
    · exact absurd (toHex_lt_of_bytes_lt greater) (String.lt_asymm before)

/-! ### Texts of hashes -/

theorem take_flatMap_byteDigits (count : Nat) (bytes : List UInt8) :
    (bytes.flatMap byteDigits).take (2 * count) = (bytes.take count).flatMap byteDigits := by
  induction count generalizing bytes with
  | zero => rfl
  | succ count ih =>
      cases bytes with
      | nil => rfl
      | cons byte rest =>
          have later := ih rest
          rw [List.take_succ_cons, List.flatMap_cons, List.flatMap_cons, ← later]
          rfl

theorem toList_shortHex (hash : Hash) : hash.shortHex.toList = hash.toHex.toList.take 8 := by
  rw [shortHex, toHex, String.toList_ofList, String.toList_ofList, take_flatMap_byteDigits 4]

theorem eq_iff_toUpper_eq {first second : String} {hash other : Hash}
    (read : ofHex first = .ok hash) (readOther : ofHex second = .ok other) :
    hash = other ↔ first.toUpper = second.toUpper := by
  rw [← toHex_of_ofHex read, ← toHex_of_ofHex readOther]
  constructor
  · exact congrArg toHex
  · intro same
    have again := ofHex_toHex hash
    rw [same, ofHex_toHex] at again
    exact (Except.ok.inj again).symm

/--
Hashes are read from the texts of 64 hexadecimal digits.  What is read is written in upper case, so
two texts give one hash exactly when they differ in case only; and the text of every hash reads back
as the hash, begins with its short form, and has the place among texts that the hash has among
hashes.  Any other text is rejected for the first reason that applies to its bytes.
-/
theorem textCodec :
    (∀ text, (∃ hash, ofHex text = .ok hash) ↔ IsSpelling text) ∧
    (∀ text hash, ofHex text = .ok hash → hash.toHex = text.toUpper) ∧
    (∀ first second hash other, ofHex first = .ok hash → ofHex second = .ok other →
      (hash = other ↔ first.toUpper = second.toUpper)) ∧
    (∀ hash, ofHex hash.toHex = .ok hash) ∧
    (∀ hash : Hash, hash.shortHex.toList = hash.toHex.toList.take 8) ∧
    (∀ first second : Hash, compare first second = .lt ↔ first.toHex < second.toHex) ∧
    ∀ text fault, ofHex text = .error fault ↔ Rejects text fault :=
  ⟨fun _ => exists_ofHex_iff, fun _ _ => toHex_of_ofHex, fun _ _ _ _ => eq_iff_toUpper_eq,
    ofHex_toHex, toList_shortHex, fun _ _ => compare_eq_lt_iff_toHex, fun _ _ => ofHex_eq_error_iff⟩

set_option maxRecDepth 4000 in
theorem textCodec_repeatedLetter :
    (∃ hash, ofHex (String.ofList (List.replicate 64 'a')) = .ok hash ∧
      ofHex (String.ofList (List.replicate 64 'A')) = .ok hash) ∧
    (⟨List.replicate 32 170, rfl⟩ : Hash).toHex = (String.ofList (List.replicate 64 'a')).toUpper ∧
    (String.ofList (List.replicate 64 'a')).toUpper =
      (String.ofList (List.replicate 64 'A')).toUpper := by
  have lower : ofHex (String.ofList (List.replicate 64 'a')) = .ok ⟨List.replicate 32 170, rfl⟩ := by
    rw [ofHex, String.toList_ofList]
    rfl
  have upper : ofHex (String.ofList (List.replicate 64 'A')) = .ok ⟨List.replicate 32 170, rfl⟩ := by
    rw [ofHex, String.toList_ofList]
    rfl
  obtain ⟨-, writes, same, -⟩ := textCodec
  exact ⟨⟨_, lower, upper⟩, writes _ _ lower, (same _ _ _ _ lower upper).mp rfl⟩

end AffectedNodes.Hash
