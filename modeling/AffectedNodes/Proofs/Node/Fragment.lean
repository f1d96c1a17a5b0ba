import AffectedNodes.Proofs.Entry.Canonical
import AffectedNodes.Proofs.Node.Catalog
import AffectedNodes.Proofs.Node.Decoding
import AffectedNodes.Proofs.Node.Envelope

/-!
# Fragments and full objects

A full object tells its own identity and bookkeeping.  In metadata they stand on the envelope, and
the block is a fragment that may leave them out.  Completing the fragment puts them back as the
entry writes them, so the fragment and the full object decode to the same snapshot, under every kind
and every wrapper.
-/
namespace AffectedNodes

def FieldMap.optionalMember (name : String) (value : Option Json) : List (String × Json) :=
  value.toList.map fun value => (name, value)

/-- The envelope that tells what a record says of identity and bookkeeping, around a block. -/
def Envelope.ofRecord (wrapper : Wrapper) (record block : FieldMap) : FieldMap :=
  .ofList <|
    FieldMap.optionalMember FieldName.ledgerIndex (record.get? FieldName.index) ++
      FieldMap.optionalMember FieldName.entryType (record.get? FieldName.entryType) ++
      FieldMap.optionalMember FieldName.previousTxnId (record.get? FieldName.previousTxnId) ++
      FieldMap.optionalMember FieldName.previousTxnLgrSeq
        (record.get? FieldName.previousTxnLgrSeq) ++
      [(wrapper.stateBlock, block.toJson)]

variable {record block : FieldMap} {removed : List String} {name : String} {entry : LedgerEntry}
  {bookkeeping : Bookkeeping}

theorem FieldMap.get?_optionalMember (name wanted : String) (value : Option Json) :
    (ofList (optionalMember name value)).get? wanted = if wanted = name then value else none := by
  cases value with
  | none => simp [optionalMember]
  | some value => simp [optionalMember, get?_ofList_cons]

/-! ### Completing a fragment -/

namespace Record

theorem kept_or_filled {fallback : Json} {written : Option Json}
    (held : (record.present? name).isSome = true)
    (told : name ∈ removed → written = some fallback) :
    some (((record.without removed).present? name).getD fallback) = record.get? name ∨
      some (((record.without removed).present? name).getD fallback) = written := by
  by_cases gone : name ∈ removed
  · right
    rw [FieldMap.present?, FieldMap.get?_without, if_pos gone, told gone]
    rfl
  · left
    rw [FieldMap.present?, FieldMap.get?_without, if_neg gone]
    exact getD_present?_of_isSome held

/-- An entry is read from its fragment, completed with its own identity, and with its own
bookkeeping where the fragment lacks it. -/
theorem readFrom_complete (readFrom : entry.ReadFrom record) (within : removed ⊆ completedNames)
    (hasTxnId : (record.present? FieldName.previousTxnId).isSome = true)
    (hasLgrSeq : (record.present? FieldName.previousTxnLgrSeq).isSome = true)
    (toldTxnId : FieldName.previousTxnId ∈ removed →
      entry.written? FieldName.previousTxnId = some (.string bookkeeping.txnId.toHex))
    (toldLgrSeq : FieldName.previousTxnLgrSeq ∈ removed →
      entry.written? FieldName.previousTxnLgrSeq = some (.nat bookkeeping.lgrSeq.number.toNat)) :
    entry.ReadFrom (complete (record.without removed) ⟨entry.index, entry.tag⟩ bookkeeping) := by
  apply readFrom.of_kept_or_written
  · rw [get?_complete_entryType, readFrom.1]
    rfl
  · intro name member
    by_cases completed : name ∈ completedNames
    · rcases mem_completedNames_iff.mp completed with rfl | rfl | rfl | rfl
      · rw [get?_complete_index, entry.written?_index]
        exact Or.inr rfl
      · exact absurd rfl (LedgerEntry.names_ne_entryType member)
      · rw [get?_complete_previousTxnId]
        exact kept_or_filled hasTxnId toldTxnId
      · rw [get?_complete_previousTxnLgrSeq]
        exact kept_or_filled hasLgrSeq toldLgrSeq
    · -- only members that completing sets may be removed
      have kept : name ∉ removed := fun gone => completed (within gone)
      rw [get?_complete_of_not_mem completed, FieldMap.get?_without, if_neg kept]
      exact Or.inl rfl

end Record

theorem LedgerEntry.ReadFrom.exists_bookkeeping (readFrom : entry.ReadFrom record)
    (hasTxnId : (record.present? FieldName.previousTxnId).isSome = true)
    (hasLgrSeq : (record.present? FieldName.previousTxnLgrSeq).isSome = true) :
    ∃ bookkeeping, Bookkeeping.ofEnvelope record = .ok bookkeeping ∧
      entry.previousTxnId? = some bookkeeping.txnId ∧
      entry.previousTxnLgrSeq? = some bookkeeping.lgrSeq ∧
      entry.written? FieldName.previousTxnId = some (.string bookkeeping.txnId.toHex) ∧
      entry.written? FieldName.previousTxnLgrSeq =
        some (.nat bookkeeping.lgrSeq.number.toNat) := by
  obtain ⟨value, held⟩ := Option.isSome_iff_exists.mp hasTxnId
  obtain ⟨valueSeq, heldSeq⟩ := Option.isSome_iff_exists.mp hasLgrSeq
  obtain ⟨txnId, told, read, written⟩ := readFrom.previousTxnId held
  obtain ⟨lgrSeq, toldSeq, readSeq, writtenSeq⟩ := readFrom.previousTxnLgrSeq heldSeq
  refine ⟨⟨txnId, lgrSeq⟩, ?_, told, toldSeq, written, writtenSeq⟩
  refine Bookkeeping.ofEnvelope_eq_ok_iff.mpr ⟨?_, ?_⟩
  · exact (Bookkeeping.readTxnId_of_present held).mpr read
  · exact (Bookkeeping.readLgrSeq_of_present heldSeq).mpr readSeq

/-! ### The envelope around a fragment -/

namespace Envelope

variable {wrapper : Wrapper} {envelope : FieldMap}

/-- An envelope tells what a record says of identity and bookkeeping, and its one block holds the
state. -/
structure Lifts (wrapper : Wrapper) (record block envelope : FieldMap) : Prop where
  ledgerIndex : envelope.get? FieldName.ledgerIndex = record.get? FieldName.index
  entryType : envelope.get? FieldName.entryType = record.get? FieldName.entryType
  previousTxnId : envelope.get? FieldName.previousTxnId = record.get? FieldName.previousTxnId
  previousTxnLgrSeq :
    envelope.get? FieldName.previousTxnLgrSeq = record.get? FieldName.previousTxnLgrSeq
  state : envelope.get? wrapper.stateBlock = some block.toJson
  noFinal : wrapper = .created → envelope.get? Wrapper.modified.stateBlock = none
  noPrevious : envelope.get? previousBlock = none

theorem lifts_ofRecord (wrapper : Wrapper) (record block : FieldMap) :
    Lifts wrapper record block (ofRecord wrapper record block) := by
  constructor <;> cases wrapper <;>
    simp +decide [ofRecord, FieldMap.get?_ofList_append, FieldMap.get?_optionalMember,
      FieldMap.get?_ofList_cons]

namespace Lifts

variable (lifts : Lifts wrapper record block envelope)
include lifts

theorem identifier (readFrom : entry.ReadFrom record) :
    Envelope.identifier envelope = .ok ⟨entry.index, entry.tag⟩ := by
  rw [identifier_eq_ok_iff, lifts.entryType, lifts.ledgerIndex]
  obtain ⟨value, found, read⟩ := readFrom.exists_index
  obtain ⟨text, rfl, spelled⟩ := Format.hash_read_eq_ok_iff.mp read
  exact ⟨readFrom.1, text, found, spelled⟩

theorem block?_state : block? envelope wrapper.stateBlock = .ok (some block) :=
  block?_of_object lifts.state block.fields?_toJson

theorem block?_previous : block? envelope previousBlock = .ok none :=
  block?_of_missing lifts.noPrevious

theorem ofEnvelope_eq : Bookkeeping.ofEnvelope envelope = Bookkeeping.ofEnvelope record :=
  Bookkeeping.ofEnvelope_congr lifts.previousTxnId lifts.previousTxnLgrSeq

end Lifts

end Envelope

/-! ### Fragments decoded -/

namespace LedgerEntry

theorem decodes_tag (entry : LedgerEntry) : Catalog.standard.decodes entry.tag = true := by
  rw [Catalog.decodes_standard, tag]
  cases entry.kind <;> decide

/--
Whatever record of any kind decodes to an entry, and has both bookkeeping fields: with identity and
bookkeeping lifted to the envelope of a modified object, the entry is its final state even where the
block leaves any of them out, and the bookkeeping of the node is that of the entry.  With the
bookkeeping left in the block, the entry is the state of a created or deleted object too.
-/
theorem decodeNode_fragment (kind : EntryKind) (record : FieldMap) (entry : LedgerEntry)
    (decoded : decode kind.tag record = .ok entry)
    (hasTxnId : (record.present? FieldName.previousTxnId).isSome = true)
    (hasLgrSeq : (record.present? FieldName.previousTxnLgrSeq).isSome = true) :
    (∃ bookkeeping : Bookkeeping,
      entry.previousTxnId? = some bookkeeping.txnId ∧
      entry.previousTxnLgrSeq? = some bookkeeping.lgrSeq ∧
      ∀ removed ⊆ Record.completedNames,
        decodeNode .standard .modified
            (Envelope.ofRecord .modified record (record.without removed)) =
          .ok (.modified ⟨⟨entry.index, kind.tag⟩, some entry, none, bookkeeping⟩)) ∧
    ∀ removed ⊆ [FieldName.index, FieldName.entryType],
      decodeNode .standard .created
          (Envelope.ofRecord .created record (record.without removed)) =
        .ok (.created ⟨⟨entry.index, kind.tag⟩, some entry⟩) ∧
      decodeNode .standard .deleted
          (Envelope.ofRecord .deleted record (record.without removed)) =
        .ok (.deleted ⟨⟨entry.index, kind.tag⟩, some entry⟩) := by
  obtain ⟨sameTag, readFrom⟩ := decode_eq_ok_iff.mp decoded
  rw [← sameTag]
  have listed := entry.decodes_tag
  constructor
  · obtain ⟨bookkeeping, kept, told, toldSeq, written, writtenSeq⟩ :=
      readFrom.exists_bookkeeping hasTxnId hasLgrSeq
    refine ⟨bookkeeping, told, toldSeq, ?_⟩
    intro removed within
    have lifts := Envelope.lifts_ofRecord .modified record (record.without removed)
    have complete := Record.readFrom_complete readFrom within hasTxnId hasLgrSeq
      (fun _ => written) (fun _ => writtenSeq)
    refine decodeNode_eq_ok_iff.mpr ⟨_, lifts.identifier readFrom, rfl, ?_⟩
    exact .modifiedFinal listed (lifts.ofEnvelope_eq.trans kept) lifts.block?_state
      (decode_eq_ok_iff.mpr ⟨rfl, complete⟩) lifts.block?_previous nofun
  · intro removed within
    -- these envelopes tell no bookkeeping, so the block must have it
    have keptTxnId : FieldName.previousTxnId ∉ removed :=
      fun gone => absurd (within gone) (by decide)
    have keptLgrSeq : FieldName.previousTxnLgrSeq ∉ removed :=
      fun gone => absurd (within gone) (by decide)
    have identity : [FieldName.index, FieldName.entryType] ⊆ Record.completedNames := by decide
    have complete : entry.ReadFrom (Record.complete (record.without removed)
        ⟨entry.index, entry.tag⟩ .placeholder) :=
      Record.readFrom_complete readFrom (List.Subset.trans within identity) hasTxnId hasLgrSeq
        (absurd · keptTxnId) (absurd · keptLgrSeq)
    have read := decode_eq_ok_iff.mpr ⟨rfl, complete⟩
    constructor
    · have lifts := Envelope.lifts_ofRecord .created record (record.without removed)
      refine decodeNode_eq_ok_iff.mpr ⟨_, lifts.identifier readFrom, rfl, ?_⟩
      exact .createdState listed (Envelope.block?_of_missing (lifts.noFinal rfl))
        lifts.block?_previous lifts.block?_state read
    · have lifts := Envelope.lifts_ofRecord .deleted record (record.without removed)
      refine decodeNode_eq_ok_iff.mpr ⟨_, lifts.identifier readFrom, rfl, ?_⟩
      exact .deletedState listed lifts.block?_state read

def lowerTicketRecord : FieldMap :=
  (ticketRecord.insert FieldName.index (.string (String.ofList (.replicate 64 'a')))).insert
    FieldName.previousTxnId (.string (String.ofList (.replicate 64 'b')))

theorem decodeNode_fragment_ticket :
    ∃ (entry : LedgerEntry) (bookkeeping : Bookkeeping),
      decode ⟨"Ticket"⟩ lowerTicketRecord = .ok entry ∧
      entry.previousTxnId? = some bookkeeping.txnId ∧
      entry.previousTxnLgrSeq? = some bookkeeping.lgrSeq ∧
      decodeNode .standard .modified
          (Envelope.ofRecord .modified lowerTicketRecord
            (lowerTicketRecord.without Record.completedNames)) =
        .ok (.modified ⟨⟨entry.index, ⟨"Ticket"⟩⟩, some entry, none, bookkeeping⟩) := by
  obtain ⟨entry, decoded⟩ : ∃ entry, decode EntryKind.ticket.tag lowerTicketRecord = .ok entry :=
    ⟨_, rfl⟩
  obtain ⟨⟨bookkeeping, told, toldSeq, fragment⟩, -⟩ :=
    decodeNode_fragment .ticket lowerTicketRecord entry decoded rfl rfl
  exact ⟨entry, bookkeeping, decoded, told, toldSeq, fragment _ (List.Subset.refl _)⟩

end LedgerEntry

end AffectedNodes
