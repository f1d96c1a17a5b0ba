import AffectedNodes.Proofs.Ledger.HexText
import AffectedNodes.Proofs.Node.Decoding
import AffectedNodes.Proofs.Node.Envelope
import AffectedNodes.Proofs.Node.Malformed

/-!
# Tags outside the catalog

An envelope whose tag is not in the catalog decodes to the identity of its object, whatever its
schema would be.  Beyond the identity it must meet one demand at most: a created object of a known
type must not have the blocks of another wrapper, and the bookkeeping of a modified object must be
readable.  Nothing else on the envelope is looked at, and what is refused is malformed.
-/
namespace AffectedNodes

/-- Bookkeeping fields that are missing, null, or a text of 64 digits and a number below
`2 ^ 32`. -/
structure Envelope.HasPlainBookkeeping (envelope : FieldMap) : Prop where
  txnId : ∀ value, envelope.present? FieldName.previousTxnId = some value →
    ∃ text, value = .string text ∧ Hash.IsSpelling text
  lgrSeq : ∀ value, envelope.present? FieldName.previousTxnLgrSeq = some value →
    ∃ number < UInt32.size, value = .nat number

/-- What the bookkeeping fields of an envelope say, with placeholders for those that are missing or
null. -/
structure Bookkeeping.ToldBy (bookkeeping : Bookkeeping) (envelope : FieldMap) : Prop where
  txnId : ∀ text, envelope.get? FieldName.previousTxnId = some (.string text) →
    Hash.ofHex text = .ok bookkeeping.txnId
  noTxnId : envelope.present? FieldName.previousTxnId = none → bookkeeping.txnId = .zero
  lgrSeq : ∀ number, envelope.get? FieldName.previousTxnLgrSeq = some (.nat number) →
    bookkeeping.lgrSeq.number.toNat = number
  noLgrSeq : envelope.present? FieldName.previousTxnLgrSeq = none → bookkeeping.lgrSeq = .zero

namespace Envelope

/-- What an envelope with a tag outside the catalog must meet beyond telling an identity. -/
def Admits (envelope : FieldMap) (tag : Tag) : Wrapper → Prop
  | .created => (∃ type : EntryType, type.tag = tag) →
      envelope.present? Wrapper.modified.stateBlock = none ∧
        envelope.present? previousBlock = none
  | .modified => HasPlainBookkeeping envelope
  | .deleted => True

def isKnown (envelope : FieldMap) : Bool :=
  match tag envelope with
  | .ok tag => tag.known?.isSome
  | .error _ => false

/-- The members of an envelope that are looked at when its tag is not in the catalog. -/
def namesRead (known : Bool) : Wrapper → List String
  | .created =>
      [FieldName.entryType, FieldName.ledgerIndex] ++
        if known then [Wrapper.modified.stateBlock, previousBlock] else []
  | .modified =>
      [FieldName.entryType, FieldName.ledgerIndex, FieldName.previousTxnId,
        FieldName.previousTxnLgrSeq]
  | .deleted => [FieldName.entryType, FieldName.ledgerIndex]

end Envelope

def Node.ofIdentity (identifier : Identifier) (bookkeeping : Bookkeeping) : Wrapper → Node
  | .created => .created ⟨identifier, none⟩
  | .modified => .modified ⟨identifier, none, none, bookkeeping⟩
  | .deleted => .deleted ⟨identifier, none⟩

def decodeIdentity (wrapper : Wrapper) (envelope : FieldMap) (identifier : Identifier) :
    Except DecodeError Node :=
  match wrapper with
  | .created => do
      if identifier.tag.known?.isSome then
        refuseBlock envelope identifier Wrapper.modified.stateBlock
        refuseBlock envelope identifier previousBlock
      return .created ⟨identifier, none⟩
  | .modified => do
      let bookkeeping ← Bookkeeping.ofEnvelope envelope
      return .modified ⟨identifier, none, none, bookkeeping⟩
  | .deleted => return .deleted ⟨identifier, none⟩

variable {decoder : Decoder} {catalog : Catalog} {wrapper : Wrapper} {envelope other : FieldMap}
  {identifier : Identifier} {bookkeeping : Bookkeeping} {node : Node}

/-! ### Decoding without a schema -/

theorem decodeStateBy_of_unlisted {read : Identifier → FieldMap → Except DecodeError LedgerEntry}
    (unlisted : catalog.decodes identifier.tag = false) :
    decodeStateBy read catalog wrapper identifier envelope = .ok none := by
  rw [decodeStateBy, unlisted]
  rfl

theorem Decoder.decodeNode_of_unlisted
    (unlisted : ∀ tag, Envelope.tag envelope = .ok tag → decoder.catalog.decodes tag = false) :
    decoder.decodeNode wrapper envelope =
      Envelope.identifier envelope >>= decodeIdentity wrapper envelope := by
  rw [decodeNode, decodeNodeBy]
  cases identified : Envelope.identifier envelope with
  | error error => rfl
  | ok identifier =>
      have tagged := Envelope.tag_of_identifier identified
      have unlisted := unlisted identifier.tag tagged
      change (match wrapper with
        | .created => (decodeCreatedBy decoder.schema.readSnapshot decoder.catalog identifier
            envelope).map Node.created
        | .modified => (decodeModifiedBy decoder.schema.readSnapshot decoder.catalog identifier
            envelope).map Node.modified
        | .deleted => (decodeDeletedBy decoder.schema.readSnapshot decoder.catalog identifier
            envelope).map Node.deleted) = decodeIdentity wrapper envelope identifier
      cases wrapper with
      | created =>
          rw [decodeCreatedBy, decodeStateBy_of_unlisted unlisted, unlisted, Bool.or_false]
          dsimp only [decodeIdentity]
          cases identifier.tag.known?.isSome with
          | false => rfl
          | true =>
              cases refuseBlock envelope identifier Wrapper.modified.stateBlock with
              | error error => rfl
              | ok noFinal => cases refuseBlock envelope identifier previousBlock <;> rfl
      | modified =>
          rw [decodeModifiedBy, unlisted]
          dsimp only [decodeIdentity, Bookkeeping.forWrapper]
          cases Bookkeeping.ofEnvelope envelope <;> rfl
      | deleted =>
          rw [decodeDeletedBy, decodeStateBy_of_unlisted unlisted]
          rfl

/-! ### What is demanded and what is told -/

namespace Bookkeeping

theorem exists_readTxnId_iff :
    (∃ txnId, readTxnId envelope = .ok txnId) ↔
      ∀ value, envelope.present? FieldName.previousTxnId = some value →
        ∃ text, value = .string text ∧ Hash.IsSpelling text := by
  cases held : envelope.present? FieldName.previousTxnId with
  | none => exact iff_of_true ⟨_, readTxnId_of_absent held⟩ nofun
  | some value =>
      simp only [readTxnId_of_present held, Format.hash_read_eq_ok_iff, Option.some.injEq,
        forall_eq', ← Hash.exists_ofHex_iff]
      constructor
      · rintro ⟨txnId, text, same, read⟩
        exact ⟨text, same, txnId, read⟩
      · rintro ⟨text, same, txnId, read⟩
        exact ⟨txnId, text, same, read⟩

theorem exists_readLgrSeq_iff :
    (∃ lgrSeq, readLgrSeq envelope = .ok lgrSeq) ↔
      ∀ value, envelope.present? FieldName.previousTxnLgrSeq = some value →
        ∃ number < UInt32.size, value = .nat number := by
  cases held : envelope.present? FieldName.previousTxnLgrSeq with
  | none => exact iff_of_true ⟨_, readLgrSeq_of_absent held⟩ nofun
  | some value =>
      simp only [readLgrSeq_of_present held, Format.sequence_read_eq_ok_iff, Option.some.injEq,
        forall_eq']
      constructor
      · rintro ⟨lgrSeq, same⟩
        exact ⟨_, lgrSeq.number.toNat_lt, same⟩
      · rintro ⟨number, small, same⟩
        refine ⟨⟨UInt32.ofNat number⟩, ?_⟩
        rw [UInt32.toNat_ofNat', Nat.mod_eq_of_lt small]
        exact same

theorem exists_ofEnvelope_iff :
    (∃ bookkeeping, ofEnvelope envelope = .ok bookkeeping) ↔
      Envelope.HasPlainBookkeeping envelope := by
  constructor
  · rintro ⟨bookkeeping, read⟩
    obtain ⟨readId, readSeq⟩ := ofEnvelope_eq_ok_iff.mp read
    exact ⟨exists_readTxnId_iff.mp ⟨_, readId⟩, exists_readLgrSeq_iff.mp ⟨_, readSeq⟩⟩
  · rintro ⟨plainId, plainSeq⟩
    obtain ⟨txnId, readId⟩ := exists_readTxnId_iff.mpr plainId
    obtain ⟨lgrSeq, readSeq⟩ := exists_readLgrSeq_iff.mpr plainSeq
    exact ⟨⟨txnId, lgrSeq⟩, ofEnvelope_eq_ok_iff.mpr ⟨readId, readSeq⟩⟩

theorem toldBy_of_ofEnvelope (read : ofEnvelope envelope = .ok bookkeeping) :
    bookkeeping.ToldBy envelope := by
  obtain ⟨readId, readSeq⟩ := ofEnvelope_eq_ok_iff.mp read
  constructor
  · intro text found
    have held := FieldMap.present?_eq_some_iff.mpr ⟨found, nofun⟩
    obtain ⟨_, same, spelled⟩ :=
      Format.hash_read_eq_ok_iff.mp ((readTxnId_of_present held).mp readId)
    cases same
    exact spelled
  · intro absent
    exact Except.ok.inj (readId.symm.trans (readTxnId_of_absent absent))
  · intro number found
    have held := FieldMap.present?_eq_some_iff.mpr ⟨found, nofun⟩
    have same := Format.sequence_read_eq_ok_iff.mp ((readLgrSeq_of_present held).mp readSeq)
    cases same
    rfl
  · intro absent
    exact Except.ok.inj (readSeq.symm.trans (readLgrSeq_of_absent absent))

end Bookkeeping

theorem Tag.isSome_known?_iff {tag : Tag} :
    tag.known?.isSome = true ↔ ∃ type : EntryType, type.tag = tag := by
  constructor
  · intro known
    obtain ⟨type, found⟩ := Option.isSome_iff_exists.mp known
    have alike : type.wireName = tag.text := by simpa using List.find?_some found
    exact ⟨type, congrArg Tag.mk alike⟩
  · rintro ⟨type, rfl⟩
    rw [Tag.known?_tag]
    rfl

theorem Envelope.isKnown_eq (identified : Envelope.identifier envelope = .ok identifier) :
    Envelope.isKnown envelope = identifier.tag.known?.isSome := by
  have tagged := Envelope.tag_of_identifier identified
  rw [Envelope.isKnown, tagged]

/-! ### Decoding an identity -/

theorem exists_decodeIdentity_iff :
    (∃ node, decodeIdentity wrapper envelope identifier = .ok node) ↔
      Envelope.Admits envelope identifier.tag wrapper := by
  cases wrapper with
  | created =>
      rw [Envelope.Admits, ← Tag.isSome_known?_iff, decodeIdentity, ← Envelope.block?_eq_none_iff,
        ← Envelope.block?_eq_none_iff]
      cases identifier.tag.known?.isSome with
      | false => exact iff_of_true ⟨_, rfl⟩ nofun
      | true =>
          constructor
          · rintro ⟨node, decoded⟩ -
            obtain ⟨_, noFinal, decoded⟩ := bind_eq_ok_iff.mp decoded
            obtain ⟨_, noPrevious, -⟩ := bind_eq_ok_iff.mp decoded
            exact ⟨refuseBlock_eq_ok_iff.mp noFinal, refuseBlock_eq_ok_iff.mp noPrevious⟩
          · intro plain
            obtain ⟨noFinal, noPrevious⟩ := plain rfl
            refine ⟨.created ⟨identifier, none⟩, ?_⟩
            refine bind_eq_ok_iff.mpr ⟨(), refuseBlock_eq_ok_iff.mpr noFinal, ?_⟩
            exact bind_eq_ok_iff.mpr ⟨(), refuseBlock_eq_ok_iff.mpr noPrevious, rfl⟩
  | modified =>
      rw [Envelope.Admits, ← Bookkeeping.exists_ofEnvelope_iff]
      constructor
      · rintro ⟨node, decoded⟩
        obtain ⟨bookkeeping, read, -⟩ := bind_eq_ok_iff.mp decoded
        exact ⟨bookkeeping, read⟩
      · rintro ⟨bookkeeping, read⟩
        exact ⟨_, bind_eq_ok_iff.mpr ⟨bookkeeping, read, rfl⟩⟩
  | deleted => exact iff_of_true ⟨_, rfl⟩ trivial

theorem ofIdentity_of_decodeIdentity
    (decoded : decodeIdentity wrapper envelope identifier = .ok node) :
    ∃ bookkeeping, (wrapper = .modified → bookkeeping.ToldBy envelope) ∧
      node = .ofIdentity identifier bookkeeping wrapper := by
  cases wrapper with
  | created =>
      refine ⟨.placeholder, Wrapper.noConfusion, ?_⟩
      rw [decodeIdentity] at decoded
      split at decoded
      · obtain ⟨_, -, decoded⟩ := bind_eq_ok_iff.mp decoded
        obtain ⟨_, -, same⟩ := bind_eq_ok_iff.mp decoded
        cases same
        rfl
      · cases decoded
        rfl
  | modified =>
      obtain ⟨bookkeeping, read, same⟩ := bind_eq_ok_iff.mp decoded
      cases same
      exact ⟨bookkeeping, fun _ => Bookkeeping.toldBy_of_ofEnvelope read, rfl⟩
  | deleted =>
      cases decoded
      exact ⟨.placeholder, Wrapper.noConfusion, rfl⟩

theorem failsMalformed_decodeIdentity (wrapper : Wrapper) (envelope : FieldMap)
    (identifier : Identifier) : FailsMalformed (decodeIdentity wrapper envelope identifier) := by
  cases wrapper with
  | created =>
      rw [decodeIdentity]
      split
      · refine (Envelope.failsMalformed_refuseBlock _ _ _).bind fun _ => ?_
        refine (Envelope.failsMalformed_refuseBlock _ _ _).bind fun _ => ?_
        exact FailsMalformed.of_ok _
      · exact FailsMalformed.of_ok _
  | modified =>
      refine (Envelope.failsMalformed_ofEnvelope _).bind fun bookkeeping => ?_
      exact FailsMalformed.of_ok _
  | deleted => exact FailsMalformed.of_ok _

/-- Envelopes with the same members under the names that are read decode to the same identity. -/
theorem decodeIdentity_congr
    (agree : ∀ name ∈ Envelope.namesRead identifier.tag.known?.isSome wrapper,
      other.get? name = envelope.get? name) :
    decodeIdentity wrapper other identifier = decodeIdentity wrapper envelope identifier := by
  cases wrapper with
  | created =>
      rw [decodeIdentity, decodeIdentity]
      split
      · rename_i known
        simp only [known, Envelope.namesRead, if_true, List.cons_append, List.nil_append,
          List.forall_mem_cons] at agree
        obtain ⟨-, -, sameFinal, samePrevious, -⟩ := agree
        simp only [refuseBlock, Envelope.block?_congr sameFinal,
          Envelope.block?_congr samePrevious]
      · rfl
  | modified =>
      simp only [Envelope.namesRead, List.forall_mem_cons] at agree
      obtain ⟨-, -, sameId, sameSeq, -⟩ := agree
      rw [decodeIdentity, decodeIdentity, Bookkeeping.ofEnvelope_congr sameId sameSeq]
  | deleted => rfl

theorem Envelope.identifier_congr_of_namesRead {known : Bool}
    (agree : ∀ name ∈ namesRead known wrapper, other.get? name = envelope.get? name) :
    Envelope.identifier other = Envelope.identifier envelope := by
  apply identifier_congr
  · exact agree _ (by cases wrapper <;> simp [namesRead])
  · exact agree _ (by cases wrapper <;> simp [namesRead])

/--
With any catalog and any schema, an envelope whose tag is not in the catalog decodes exactly when it
tells an identity and meets what is demanded of its wrapper.  The node then has that identity only,
and for a modified object what the envelope tells of its bookkeeping.  Every error says that the
envelope is malformed.  Apart from the members read for this, nothing on the envelope has an
influence: neither the state block of a created object, nor any block of a modified or deleted
one, nor any block of a created one of an unknown type.
-/
theorem Decoder.decodeNode_degradation (decoder : Decoder) (wrapper : Wrapper)
    (envelope : FieldMap)
    (unlisted : ∀ tag, Envelope.tag envelope = .ok tag → decoder.catalog.decodes tag = false) :
    ((∃ node, decoder.decodeNode wrapper envelope = .ok node) ↔
      ∃ identifier, Envelope.identifier envelope = .ok identifier ∧
        Envelope.Admits envelope identifier.tag wrapper) ∧
    (∀ node, decoder.decodeNode wrapper envelope = .ok node →
      ∃ identifier bookkeeping, Envelope.identifier envelope = .ok identifier ∧
        (wrapper = .modified → bookkeeping.ToldBy envelope) ∧
        node = .ofIdentity identifier bookkeeping wrapper) ∧
    (∀ error, decoder.decodeNode wrapper envelope = .error error →
      ∃ cause, error = .malformed cause) ∧
    ∀ other : FieldMap,
      (∀ name ∈ Envelope.namesRead (Envelope.isKnown envelope) wrapper,
        other.get? name = envelope.get? name) →
      decoder.decodeNode wrapper other = decoder.decodeNode wrapper envelope := by
  have identityOnly : decoder.decodeNode wrapper envelope =
      Envelope.identifier envelope >>= decodeIdentity wrapper envelope :=
    decodeNode_of_unlisted unlisted
  refine ⟨?_, ?_, ?_, ?_⟩
  · rw [identityOnly]
    constructor
    · rintro ⟨node, decoded⟩
      obtain ⟨identifier, identified, decoded⟩ := bind_eq_ok_iff.mp decoded
      exact ⟨identifier, identified, exists_decodeIdentity_iff.mp ⟨node, decoded⟩⟩
    · rintro ⟨identifier, identified, admitted⟩
      obtain ⟨node, decoded⟩ := exists_decodeIdentity_iff.mpr admitted
      exact ⟨node, bind_eq_ok_iff.mpr ⟨identifier, identified, decoded⟩⟩
  · intro node decoded
    rw [identityOnly] at decoded
    obtain ⟨identifier, identified, decoded⟩ := bind_eq_ok_iff.mp decoded
    obtain ⟨bookkeeping, told, same⟩ := ofIdentity_of_decodeIdentity decoded
    exact ⟨identifier, bookkeeping, identified, told, same⟩
  · rw [identityOnly]
    exact (Envelope.failsMalformed_identifier envelope).bind
      (failsMalformed_decodeIdentity wrapper envelope)
  · intro other agree
    have sameIdentity := Envelope.identifier_congr_of_namesRead agree
    have otherUnlisted : ∀ tag, Envelope.tag other = .ok tag →
        decoder.catalog.decodes tag = false := by
      intro tag tagged
      apply unlisted tag
      rw [Envelope.tag_eq_ok_iff] at tagged ⊢
      rw [← tagged, agree _ (by cases wrapper <;> simp [Envelope.namesRead])]
    rw [identityOnly, decodeNode_of_unlisted otherUnlisted, sameIdentity]
    cases identified : Envelope.identifier envelope with
    | error error => rfl
    | ok identifier =>
        rw [Envelope.isKnown_eq identified] at agree
        exact decodeIdentity_congr agree

def FieldMap.directoryEnvelope : FieldMap :=
  .ofList
    [(FieldName.entryType, .string "DirectoryNode"),
      (FieldName.ledgerIndex, .string Hash.zero.toHex),
      (Wrapper.modified.stateBlock, .string "none"), (previousBlock, .array []),
      (FieldName.previousTxnLgrSeq, .nat 7)]

theorem Decoder.decodeNode_degradation_directory :
    (∀ tag, Envelope.tag FieldMap.directoryEnvelope = .ok tag →
      (ofCatalog .standard).catalog.decodes tag = false) ∧
    ∃ node, (ofCatalog .standard).decodeNode .modified FieldMap.directoryEnvelope = .ok node ∧
      node.isDecoded = false ∧
      (ofCatalog .standard).decodeNode .modified
        (FieldMap.directoryEnvelope.insert previousBlock .null) = .ok node := by
  have unlisted : ∀ tag, Envelope.tag FieldMap.directoryEnvelope = .ok tag →
      (ofCatalog .standard).catalog.decodes tag = false := by
    intro tag tagged
    cases (show Envelope.tag FieldMap.directoryEnvelope = .ok ⟨"DirectoryNode"⟩ from
      rfl).symm.trans tagged
    decide
  obtain ⟨accepted, told, -, ignored⟩ :=
    decodeNode_degradation (ofCatalog .standard) .modified FieldMap.directoryEnvelope unlisted
  have plain : Envelope.HasPlainBookkeeping FieldMap.directoryEnvelope :=
    Bookkeeping.exists_ofEnvelope_iff.mp ⟨_, rfl⟩
  obtain ⟨node, decoded⟩ := accepted.mpr ⟨⟨.zero, ⟨"DirectoryNode"⟩⟩, rfl, plain⟩
  obtain ⟨identifier, bookkeeping, -, -, same⟩ := told node decoded
  refine ⟨unlisted, node, decoded, by rw [same]; rfl, ?_⟩
  rw [ignored _ ?_, decoded]
  intro name read
  rw [FieldMap.get?_insert, if_neg]
  rintro rfl
  revert read
  decide

end AffectedNodes
