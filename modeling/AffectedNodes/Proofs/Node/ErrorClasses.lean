import AffectedNodes.Proofs.Node.Catalog
import AffectedNodes.Proofs.Node.Envelope
import AffectedNodes.Proofs.Node.Refusal

/-!
# Classes of errors

Decoding an envelope fails with one of two classes of errors: the metadata are malformed, or a schema
does not accept a record.  The second class arises only for a listed tag whose state block is an
object, and carries the identity that the envelope tells.  Which fault the schema gives depends on
the tag and on the previous values: a tag without a schema is unknown; a record is one of another
kind only if the previous values name that kind; any other record is invalid.
-/
namespace AffectedNodes

theorem EntryKind.ofTag?_eq_none_iff {tag : Tag} : ofTag? tag = none ↔ tag ∉ catalog := by
  constructor
  · intro unknown member
    obtain ⟨kind, -, rfl⟩ := List.mem_map.mp member
    cases unknown.symm.trans (ofTag?_tag kind)
  · intro unlisted
    cases found : ofTag? tag with
    | none => rfl
    | some kind =>
        obtain rfl := ofTag?_eq_some_iff.mp found
        have member : kind ∈ all := by cases kind <;> decide
        exact absurd (List.mem_map_of_mem member) unlisted

namespace LedgerEntry

variable {tag : Tag} {record delta : FieldMap} {fault : EntryFault}

/-- A record does not decode because its tag has no schema, because it cannot be read, or because
it is an entry of another kind. -/
theorem decode_eq_error_iff :
    decode tag record = .error fault ↔
      (tag ∉ EntryKind.catalog ∧ fault = .unknownKind tag) ∨
        (tag ∈ EntryKind.catalog ∧ ∃ cause, readFields record = .error cause ∧
          fault = .invalidRecord tag cause) ∨
        (tag ∈ EntryKind.catalog ∧ ∃ entry : LedgerEntry, entry.ReadFrom record ∧
          entry.tag ≠ tag ∧ fault = .kindMismatch tag entry.tag) := by
  rw [decode]
  cases known : EntryKind.ofTag? tag with
  | none =>
      have unlisted := EntryKind.ofTag?_eq_none_iff.mp known
      simp [unlisted, eq_comm]
  | some kind =>
      have listed : tag ∈ EntryKind.catalog := by
        by_cases listed : tag ∈ EntryKind.catalog
        · exact listed
        · cases known.symm.trans (EntryKind.ofTag?_eq_none_iff.mpr listed)
      simp only [← readFields_eq_ok_iff]
      cases read : readFields record with
      | error cause => simp [listed, eq_comm]
      | ok entry =>
          by_cases same : entry.tag = tag
          · simp [listed, same]
          · simp only [if_neg same, Except.error.injEq, Except.ok.injEq, listed, not_true,
              false_and, true_and, false_or, reduceCtorEq, exists_false]
            constructor
            · intro mismatch
              exact ⟨entry, rfl, same, mismatch.symm⟩
            · rintro ⟨_, rfl, -, mismatch⟩
              exact mismatch.symm

theorem tag_eq_of_entryType {entry : LedgerEntry} (readFrom : entry.ReadFrom record)
    (named : record.get? FieldName.entryType = some (.string tag.text)) : entry.tag = tag := by
  have sameText := Json.string.inj (Option.some.inj (readFrom.1.symm.trans named))
  exact congrArg Tag.mk sameText

/-- Whatever type a record names, completed for an object it is no record of another kind. -/
theorem decode_complete_ne_kindMismatch (block : FieldMap) (identifier : Identifier)
    (bookkeeping : Bookkeeping) (requested decoded : Tag) :
    decode identifier.tag (Record.complete block identifier bookkeeping) ≠
      .error (.kindMismatch requested decoded) := by
  intro failed
  rcases decode_eq_error_iff.mp failed with ⟨-, same⟩ | ⟨-, _, -, same⟩ | ⟨-, entry, readFrom,
    other, -⟩
  · cases same
  · cases same
  · have named := Record.get?_complete_entryType block identifier bookkeeping
    exact other (tag_eq_of_entryType readFrom named)

/-- A record with previous values laid over it is one of another kind only if these name it. -/
theorem exists_kind_of_kindMismatch {identifier : Identifier} {requested decoded : Tag}
    (named : record.get? FieldName.entryType = some (.string identifier.tag.text))
    (failed : decode identifier.tag (record.overlay delta) =
      .error (.kindMismatch requested decoded)) :
    requested = identifier.tag ∧ ∃ kind : EntryKind,
      delta.get? FieldName.entryType = some (.string kind.wireName) ∧ kind.tag = decoded ∧
        kind.tag ≠ identifier.tag := by
  rcases decode_eq_error_iff.mp failed with ⟨-, same⟩ | ⟨-, _, -, same⟩ | ⟨-, entry, readFrom,
    other, same⟩
  · cases same
  · cases same
  · cases same
    refine ⟨rfl, entry.kind, ?_, rfl, other⟩
    have overlaid := readFrom.1
    rw [FieldMap.get?_overlay] at overlaid
    cases given : delta.get? FieldName.entryType with
    | none =>
        have kept : (record.overlay delta).get? FieldName.entryType =
            some (.string identifier.tag.text) := by
          rw [FieldMap.get?_overlay, given, Option.none_or, named]
        exact absurd (tag_eq_of_entryType readFrom kept) other
    | some value =>
        rw [given] at overlaid
        exact overlaid

end LedgerEntry

namespace Envelope

variable {envelope : FieldMap} {name : String}

theorem exists_object_of_block? {block : FieldMap}
    (found : block? envelope name = .ok (some block)) :
    ∃ members, envelope.get? name = some (.object members) ∧
      FieldMap.ofList members = block := by
  rw [block?] at found
  split at found
  · cases found
  · cases found
  · rename_i value _ held
    cases value with
    | object members =>
        cases found
        exact ⟨members, held, rfl⟩
    | null | bool | number | string | array => cases found

end Envelope

def Envelope.PreviousNames (envelope : FieldMap) (kind : EntryKind) : Prop :=
  ∃ members, envelope.get? previousBlock = some (.object members) ∧
    (FieldMap.ofList members).get? FieldName.entryType = some (.string kind.wireName)

/-- If the fault is an entry of another kind, the object was modified and its previous values name
that kind. -/
def EntryFault.MismatchNamed (fault : EntryFault) (wrapper : Wrapper) (envelope : FieldMap)
    (tag : Tag) : Prop :=
  ∀ requested decoded, fault = .kindMismatch requested decoded →
    wrapper = .modified ∧ requested = tag ∧
      ∃ kind : EntryKind, Envelope.PreviousNames envelope kind ∧ kind.tag = decoded ∧
        kind.tag ≠ tag

/-- What holds when the schemas of the ten kinds do not accept a record of an envelope. -/
structure TypedRefusal (catalog : Catalog) (wrapper : Wrapper) (envelope : FieldMap)
    (identifier : Identifier) (fault : EntryFault) : Prop where
  identified : Envelope.identifier envelope = .ok identifier
  listed : catalog.decodes identifier.tag = true
  stateBlock : ∃ members, envelope.get? wrapper.stateBlock = some (.object members)
  plain : wrapper = .created →
    envelope.present? Wrapper.modified.stateBlock = none ∧ envelope.present? previousBlock = none
  bookkeeping : wrapper = .modified →
    ∃ bookkeeping, Bookkeeping.ofEnvelope envelope = .ok bookkeeping
  unknownKind_iff : fault = .unknownKind identifier.tag ↔ identifier.tag ∉ EntryKind.catalog
  mismatchNamed : fault.MismatchNamed wrapper envelope identifier.tag
  otherwise : fault = .unknownKind identifier.tag ∨
    (∃ decoded, fault = .kindMismatch identifier.tag decoded) ∨
    ∃ cause, fault = .invalidRecord identifier.tag cause

namespace TypedRefusal

variable {catalog : Catalog} {wrapper : Wrapper} {envelope block record : FieldMap}
  {identifier : Identifier} {bookkeeping : Bookkeeping} {fault : EntryFault}

theorem of_reached (identified : Envelope.identifier envelope = .ok identifier)
    (reached : (Decoder.ofCatalog catalog).ReachesState wrapper envelope identifier bookkeeping)
    (found : Envelope.block? envelope wrapper.stateBlock = .ok (some block))
    (unread : LedgerEntry.decode identifier.tag record = .error fault)
    (mismatchNamed : fault.MismatchNamed wrapper envelope identifier.tag) :
    TypedRefusal catalog wrapper envelope identifier fault where
  identified := identified
  listed := reached.listed
  stateBlock := by
    obtain ⟨members, held, -⟩ := Envelope.exists_object_of_block? found
    exact ⟨members, held⟩
  plain created := by
    obtain ⟨noFinal, noPrevious⟩ := reached.plain created
    exact ⟨Envelope.block?_eq_none_iff.mp noFinal, Envelope.block?_eq_none_iff.mp noPrevious⟩
  bookkeeping modified := by
    subst modified
    exact ⟨bookkeeping, reached.kept⟩
  unknownKind_iff := by
    rcases LedgerEntry.decode_eq_error_iff.mp unread with ⟨unlisted, rfl⟩ | ⟨listed, _, -, rfl⟩ |
      ⟨listed, _, -, -, rfl⟩
    · exact iff_of_true rfl unlisted
    · exact iff_of_false EntryFault.noConfusion (not_not_intro listed)
    · exact iff_of_false EntryFault.noConfusion (not_not_intro listed)
  mismatchNamed := mismatchNamed
  otherwise := by
    rcases LedgerEntry.decode_eq_error_iff.mp unread with ⟨-, rfl⟩ | ⟨-, cause, -, rfl⟩ |
      ⟨-, entry, -, -, rfl⟩
    · exact Or.inl rfl
    · exact Or.inr (Or.inr ⟨cause, rfl⟩)
    · exact Or.inr (Or.inl ⟨entry.tag, rfl⟩)

theorem of_refuses (identified : Envelope.identifier envelope = .ok identifier)
    (refused : (Decoder.ofCatalog catalog).Refuses envelope identifier wrapper
      (.typedDecode identifier fault)) : TypedRefusal catalog wrapper envelope identifier fault := by
  cases refused with
  | foreignFinal _ refused =>
      obtain ⟨_, same⟩ := Envelope.failsMalformed_refuseBlock _ _ _ _ refused
      cases same
  | foreignPrevious _ _ refused =>
      obtain ⟨_, same⟩ := Envelope.failsMalformed_refuseBlock _ _ _ _ refused
      cases same
  | bookkeeping unread =>
      obtain ⟨_, same⟩ := Envelope.failsMalformed_ofEnvelope _ _ unread
      cases same
  | stateBlock _ lacking =>
      obtain ⟨_, same⟩ := Envelope.failsMalformed_requiredBlock _ _ _ _ lacking
      cases same
  | stateFields reached found unread =>
      refine of_reached identified reached found unread ?_
      -- the completed record names the tag of the envelope, whatever the block names
      rintro requested decoded rfl
      exact absurd unread (LedgerEntry.decode_complete_ne_kindMismatch _ _ _ _ _)
  | previousValues _ _ _ unlisted =>
      obtain ⟨_, same⟩ := Envelope.failsMalformed_block? _ _ _ unlisted
      cases same
  | @previousFields bookkeeping block _ _ _ reached found _ listing _ unread =>
      refine of_reached identified reached found unread ?_
      rintro requested decoded rfl
      obtain ⟨sameTag, kind, named, sameKind, other⟩ :=
        LedgerEntry.exists_kind_of_kindMismatch
          (Record.get?_complete_entryType block identifier bookkeeping) unread
      obtain ⟨members, held, rfl⟩ := Envelope.exists_object_of_block? listing
      exact ⟨rfl, sameTag, kind, ⟨members, held, named⟩, sameKind, other⟩

end TypedRefusal

/--
Decoding an envelope fails because the metadata are malformed, or because a schema does not accept a
record, and then all holds that `TypedRefusal` says.  With the standard catalog every decoded tag has
a schema, and no state block makes a record one of another kind.
-/
theorem decodeNode_error_classes (catalog : Catalog) (wrapper : Wrapper) (envelope : FieldMap) :
    (∀ error, decodeNode catalog wrapper envelope = .error error →
      (∃ cause, error = .malformed cause) ∨
        ∃ identifier fault, error = .typedDecode identifier fault ∧
          TypedRefusal catalog wrapper envelope identifier fault) ∧
    (∀ identifier tag, decodeNode .standard wrapper envelope ≠
      .error (.typedDecode identifier (.unknownKind tag))) ∧
    ∀ identifier block bookkeeping requested decoded,
      decodeSnapshot identifier (Record.complete block identifier bookkeeping) ≠
        .error (.typedDecode identifier (.kindMismatch requested decoded)) := by
  have classes (catalog : Catalog) (error : DecodeError)
      (failed : decodeNode catalog wrapper envelope = .error error) :
      (∃ cause, error = .malformed cause) ∨
        ∃ identifier fault, error = .typedDecode identifier fault ∧
          TypedRefusal catalog wrapper envelope identifier fault := by
    rcases decodeNode_eq_error_iff.mp failed with unidentified | ⟨identifier, identified, refused⟩
    · exact Or.inl (Envelope.failsMalformed_identifier _ _ unidentified)
    · rcases refused.malformed_or_typedDecode with malformed | ⟨fault, rfl⟩
      · exact Or.inl malformed
      · exact Or.inr ⟨identifier, fault, rfl, .of_refuses identified refused⟩
  refine ⟨classes catalog, ?_, ?_⟩
  · intro identifier tag failed
    rcases classes .standard _ failed with ⟨cause, same⟩ | ⟨_, _, same, refusal⟩
    · cases same
    · cases same
      have known : identifier.tag ∈ EntryKind.catalog :=
        Catalog.decodes_standard.mp refusal.listed
      rcases refusal.otherwise with same | ⟨_, same⟩ | ⟨_, same⟩
      · exact refusal.unknownKind_iff.mp same known
      · cases same
      · cases same
  · intro identifier block bookkeeping requested decoded failed
    obtain ⟨fault, unread, same⟩ := TypedReader.readSnapshot_eq_error_iff.mp failed
    cases same
    exact LedgerEntry.decode_complete_ne_kindMismatch _ _ _ _ _ unread

def Envelope.preauthorizedTicket : FieldMap :=
  .ofList
    [(FieldName.entryType, .string "Ticket"), (FieldName.ledgerIndex, .string Hash.zero.toHex),
      (Wrapper.modified.stateBlock, .object
        [("Account", .string "rEhxGqkqPPSxQ3P25J66ft5TwpzV14k2de"), ("TicketSequence", .nat 3)]),
      (previousBlock, .object
        [("Authorize", .string "rEhxGqkqPPSxQ3P25J66ft5TwpzV14k2de"),
          (FieldName.entryType, .string "DepositPreauth")])]

theorem decodeNode_error_classes_preauthorizedTicket :
    decodeNode .standard .modified Envelope.preauthorizedTicket =
      .error (.typedDecode ⟨.zero, ⟨"Ticket"⟩⟩ (.kindMismatch ⟨"Ticket"⟩ ⟨"DepositPreauth"⟩)) ∧
    TypedRefusal .standard .modified Envelope.preauthorizedTicket ⟨.zero, ⟨"Ticket"⟩⟩
      (.kindMismatch ⟨"Ticket"⟩ ⟨"DepositPreauth"⟩) := by
  have failed : decodeNode .standard .modified Envelope.preauthorizedTicket =
      .error (.typedDecode ⟨.zero, ⟨"Ticket"⟩⟩ (.kindMismatch ⟨"Ticket"⟩ ⟨"DepositPreauth"⟩)) := rfl
  refine ⟨failed, ?_⟩
  rcases (decodeNode_error_classes .standard .modified Envelope.preauthorizedTicket).1 _ failed
    with ⟨cause, same⟩ | ⟨identifier, fault, same, refusal⟩
  · cases same
  · cases same
    exact refusal

end AffectedNodes
