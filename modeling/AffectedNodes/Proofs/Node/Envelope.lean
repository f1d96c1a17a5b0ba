import AffectedNodes.Node.Envelope
import AffectedNodes.Proofs.Json.Lookup
import AffectedNodes.Proofs.Record.Faithful
import AffectedNodes.Proofs.Steps

/-!
# What envelopes tell

Each reader of an envelope looks at one member.  The identity is a text and a hash.  A block and the
two bookkeeping fields may be missing or null; a bookkeeping field that is there is read as the
schemas read it.  So envelopes that have the same member under a name are read alike there.
-/
namespace AffectedNodes

/-! ### Scalars -/

namespace Format

variable {value : Json}

theorem hash_read_eq_ok_iff {key : Hash} :
    hash.read value = .ok key ↔ ∃ text, value = .string text ∧ Hash.ofHex text = .ok key := by
  rw [hash, ofText_read_eq_ok_iff]
  simp only [mapError_eq_ok_iff]

theorem word32_read_eq_ok_iff {word : UInt32} :
    word32.read value = .ok word ↔ value = .nat word.toNat := by
  constructor
  · intro read
    cases value with
    | number number =>
        cases number with
        | double value => cases read
        | integer integer =>
            cases integer with
            | negSucc n => cases read
            | ofNat n =>
                change (if n < UInt32.size then Except.ok (UInt32.ofNat n) else _) = _ at read
                split at read
                · rename_i small
                  cases read
                  rw [UInt32.toNat_ofNat', Nat.mod_eq_of_lt small]
                  rfl
                · cases read
    | null | bool | string | array | object => cases read
  · rintro rfl
    change (if word.toNat < UInt32.size then Except.ok (UInt32.ofNat word.toNat) else _) = _
    rw [if_pos word.toNat_lt, UInt32.ofNat_toNat]

theorem sequence_read_eq_ok_iff_word {number : LedgerSequence} :
    sequence.read value = .ok number ↔ word32.read value = .ok number.number := by
  change (word32.read value).map LedgerSequence.mk = .ok number ↔ _
  rw [map_eq_ok_iff]
  constructor
  · rintro ⟨word, read, rfl⟩
    exact read
  · intro read
    exact ⟨number.number, read, rfl⟩

theorem sequence_read_eq_ok_iff {number : LedgerSequence} :
    sequence.read value = .ok number ↔ value = .nat number.number.toNat :=
  sequence_read_eq_ok_iff_word.trans word32_read_eq_ok_iff

end Format

/-! ### Identity and blocks -/

namespace Envelope

variable {envelope other : FieldMap} {name : String} {identifier : Identifier}

theorem tag_eq_ok_iff {read : Tag} :
    tag envelope = .ok read ↔ envelope.get? FieldName.entryType = some (.string read.text) := by
  rw [tag]
  cases envelope.get? FieldName.entryType with
  | none => simp
  | some value =>
      cases value with
      | string text =>
          constructor
          · intro same
            cases same
            rfl
          · intro same
            cases same
            rfl
      | null | bool | number | array | object => simp

theorem key_eq_ok_iff {tag : Tag} {read : Hash} :
    key tag envelope = .ok read ↔
      ∃ text, envelope.get? FieldName.ledgerIndex = some (.string text) ∧
        Hash.ofHex text = .ok read := by
  rw [key]
  cases envelope.get? FieldName.ledgerIndex with
  | none => simp
  | some value =>
      cases value with
      | string text =>
          dsimp only
          rw [mapError_eq_ok_iff]
          simp
      | null | bool | number | array | object => simp

/-- The identity is told by the text of the tag and a text that spells the key. -/
theorem identifier_eq_ok_iff :
    Envelope.identifier envelope = .ok identifier ↔
      envelope.get? FieldName.entryType = some (.string identifier.tag.text) ∧
      ∃ text, envelope.get? FieldName.ledgerIndex = some (.string text) ∧
        Hash.ofHex text = .ok identifier.key := by
  rw [← tag_eq_ok_iff, ← @key_eq_ok_iff envelope identifier.tag, Envelope.identifier,
    bind_eq_ok_iff]
  constructor
  · rintro ⟨tag, tagged, keyed⟩
    obtain ⟨key, keyRead, same⟩ := bind_eq_ok_iff.mp keyed
    cases same
    exact ⟨tagged, keyRead⟩
  · rintro ⟨tagged, keyed⟩
    exact ⟨identifier.tag, tagged, bind_eq_ok_iff.mpr ⟨identifier.key, keyed, rfl⟩⟩

theorem tag_of_identifier (identified : Envelope.identifier envelope = .ok identifier) :
    Envelope.tag envelope = .ok identifier.tag :=
  tag_eq_ok_iff.mpr (identifier_eq_ok_iff.mp identified).1

theorem block?_eq_none_iff : block? envelope name = .ok none ↔ envelope.present? name = none := by
  rw [FieldMap.present?_eq_none_iff, block?]
  cases envelope.get? name with
  | none => simp
  | some value => cases value <;> simp [Json.fields?]

theorem block?_of_object {value : Json} {fields : FieldMap} (held : envelope.get? name = some value)
    (object : value.fields? = some fields) : block? envelope name = .ok (some fields) := by
  cases value with
  | object members =>
      simp only [block?, held]
      rw [object]
  | _ => cases object

theorem block?_of_missing (missing : envelope.get? name = none) :
    block? envelope name = .ok none := by
  simp only [block?, missing]

theorem identifier_congr
    (sameTag : envelope.get? FieldName.entryType = other.get? FieldName.entryType)
    (sameKey : envelope.get? FieldName.ledgerIndex = other.get? FieldName.ledgerIndex) :
    Envelope.identifier envelope = Envelope.identifier other := by
  simp only [Envelope.identifier, tag, key, sameTag, sameKey]

theorem block?_congr (same : envelope.get? name = other.get? name) :
    block? envelope name = block? other name := by
  simp only [block?, same]

end Envelope

/-! ### Bookkeeping -/

namespace Bookkeeping

variable {envelope other : FieldMap} {bookkeeping : Bookkeeping}

theorem word32?_eq_some_iff {value : Json} {word : UInt32} :
    word32? value = some word ↔ Format.word32.read value = .ok word := by
  cases value with
  | number number =>
      cases number with
      | double value => exact ⟨nofun, nofun⟩
      | integer integer =>
          cases integer with
          | negSucc n => exact ⟨nofun, nofun⟩
          | ofNat n =>
              change (if n < UInt32.size then some (UInt32.ofNat n) else none) = _ ↔
                (if n < UInt32.size then Except.ok (UInt32.ofNat n) else _) = _
              split <;> simp
  | null | bool | string | array | object => exact ⟨nofun, nofun⟩

/-- The placeholder stands for a transaction that is missing or null. -/
theorem readTxnId_of_absent (absent : envelope.present? FieldName.previousTxnId = none) :
    readTxnId envelope = .ok .zero := by
  rw [readTxnId]
  rcases FieldMap.present?_eq_none_iff.mp absent with missing | null
  · simp only [missing]
  · simp only [null]

theorem readTxnId_of_present {value : Json} {txnId : Hash}
    (held : envelope.present? FieldName.previousTxnId = some value) :
    readTxnId envelope = .ok txnId ↔ Format.hash.read value = .ok txnId := by
  obtain ⟨found, notNull⟩ := FieldMap.present?_eq_some_iff.mp held
  rw [Format.hash_read_eq_ok_iff]
  cases value with
  | null => exact absurd rfl notNull
  | string text =>
      simp only [readTxnId, found, mapError_eq_ok_iff]
      simp
  | bool | number | array | object => simp [readTxnId, found]

theorem readLgrSeq_of_absent (absent : envelope.present? FieldName.previousTxnLgrSeq = none) :
    readLgrSeq envelope = .ok .zero := by
  rw [readLgrSeq]
  rcases FieldMap.present?_eq_none_iff.mp absent with missing | null
  · simp only [missing]
  · simp only [null]

theorem readLgrSeq_of_present {value : Json} {lgrSeq : LedgerSequence}
    (held : envelope.present? FieldName.previousTxnLgrSeq = some value) :
    readLgrSeq envelope = .ok lgrSeq ↔ Format.sequence.read value = .ok lgrSeq := by
  obtain ⟨found, notNull⟩ := FieldMap.present?_eq_some_iff.mp held
  rw [Format.sequence_read_eq_ok_iff_word, ← word32?_eq_some_iff, readLgrSeq, found]
  split
  · cases ‹some value = none›
  · exact absurd (Option.some.inj ‹some value = some .null›) notNull
  · rename_i other _ same
    cases same
    cases word32? value with
    | none => exact ⟨nofun, nofun⟩
    | some number =>
        constructor
        · intro read
          cases read
          rfl
        · intro word
          cases word
          rfl

theorem ofEnvelope_eq_ok_iff :
    ofEnvelope envelope = .ok bookkeeping ↔
      readTxnId envelope = .ok bookkeeping.txnId ∧
        readLgrSeq envelope = .ok bookkeeping.lgrSeq := by
  rw [ofEnvelope, bind_eq_ok_iff]
  constructor
  · rintro ⟨txnId, readId, later⟩
    obtain ⟨lgrSeq, readSeq, same⟩ := bind_eq_ok_iff.mp later
    cases same
    exact ⟨readId, readSeq⟩
  · rintro ⟨readId, readSeq⟩
    exact ⟨bookkeeping.txnId, readId, bind_eq_ok_iff.mpr ⟨bookkeeping.lgrSeq, readSeq, rfl⟩⟩

theorem ofEnvelope_congr
    (sameId : envelope.get? FieldName.previousTxnId = other.get? FieldName.previousTxnId)
    (sameSeq : envelope.get? FieldName.previousTxnLgrSeq =
      other.get? FieldName.previousTxnLgrSeq) :
    ofEnvelope envelope = ofEnvelope other := by
  simp only [ofEnvelope, readTxnId, readLgrSeq, sameId, sameSeq]

end Bookkeeping

end AffectedNodes
