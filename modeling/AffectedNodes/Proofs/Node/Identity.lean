import AffectedNodes.Proofs.Ledger.HexText
import AffectedNodes.Proofs.Node.Provenance
import AffectedNodes.Proofs.Node.RoundTrip

/-!
# Two readers of an identity

An identity is read from an envelope, which may hold anything beside it, and by its schema, which
reads a record that stands alone.  Both look up the same two members and demand the same of them, so
they accept the same objects and read the same identity; what is written of an identity can lie
inside any object.

The members of the bookkeeping have two readers as well, one for the envelope and one for the block,
and a value is accepted by one of them exactly when it is accepted by the other.
-/
namespace AffectedNodes

/-- The object has all members of the given one. -/
def FieldMap.Holds (fields given : FieldMap) : Prop :=
  ∀ name value, given.get? name = some value → fields.get? name = some value

variable {envelope : FieldMap} {identifier : Identifier} {value : Json}

/-! ### Identity -/

theorem Format.tag_read_eq_ok_iff {read : Tag} :
    Format.tag.read value = .ok read ↔ value = .string read.text := by
  rw [Format.tag, ofText_read_eq_ok_iff]
  constructor
  · rintro ⟨text, rfl, same⟩
    cases same
    rfl
  · rintro rfl
    exact ⟨read.text, rfl, rfl⟩

theorem Identifier.readFields_eq_ok_iff :
    Identifier.schema.readFields envelope = .ok identifier ↔
      Envelope.identifier envelope = .ok identifier := by
  rw [Identifier.schema_faithful.readFields_eq_ok_iff nofun, Envelope.identifier_eq_ok_iff]
  change (Field.required FieldName.ledgerIndex Format.hash).readFrom envelope = .ok identifier.key ∧
    (Field.required FieldName.entryType Format.tag).readFrom envelope = .ok identifier.tag ∧
    True ↔ _
  simp only [Field.readFrom_required_iff, Format.hash_read_eq_ok_iff, Format.tag_read_eq_ok_iff,
    and_true]
  constructor
  · rintro ⟨⟨_, keyed, key, rfl, read⟩, _, tagged, rfl⟩
    exact ⟨tagged, key, keyed, read⟩
  · rintro ⟨tagged, key, keyed, read⟩
    exact ⟨⟨_, keyed, key, rfl, read⟩, _, tagged, rfl⟩

namespace Envelope

theorem exists_identifier_iff :
    (∃ identifier, Envelope.identifier envelope = .ok identifier) ↔
      (∃ tag, envelope.get? FieldName.entryType = some (.string tag)) ∧
        ∃ key, envelope.get? FieldName.ledgerIndex = some (.string key) ∧ Hash.IsSpelling key := by
  simp only [identifier_eq_ok_iff, ← Hash.exists_ofHex_iff]
  constructor
  · rintro ⟨identifier, tagged, key, keyed, read⟩
    exact ⟨⟨_, tagged⟩, key, keyed, identifier.key, read⟩
  · rintro ⟨⟨tag, tagged⟩, key, keyed, hash, read⟩
    exact ⟨⟨hash, ⟨tag⟩⟩, tagged, key, keyed, read⟩

theorem identifier_of_holds (holds : envelope.Holds (Identifier.schema.writeFields identifier)) :
    Envelope.identifier envelope = .ok identifier := by
  have written := Identifier.schema_faithful.get?_writeFields identifier
  apply identifier_of_get?
  · exact holds _ _ (written FieldName.entryType)
  · exact holds _ _ (written FieldName.ledgerIndex)

end Envelope

/-! ### Bookkeeping -/

namespace Bookkeeping

variable {rest bookkeeping : Bookkeeping} {member : Member}

/-- A member of an envelope is read as the schemas read it, beside the rest of the bookkeeping. -/
theorem ofEnvelope_eq_ok_iff_of_held (held : envelope.get? member.name = some value)
    (notNull : value ≠ .null) (read : ofEnvelope (envelope.erase member.name) = .ok rest)
    (told : member.Value) :
    ofEnvelope envelope = .ok (rest.set member told) ↔ member.format.read value = .ok told := by
  have present := FieldMap.present?_eq_some_iff.mpr ⟨held, notNull⟩
  rw [ofEnvelope_eq_ok_iff_forall]
  constructor
  · intro all
    have own := all member
    rw [present, get_set] at own
    exact own
  · intro own other
    by_cases same : other = member
    · subst same
      rw [present, get_set]
      exact own
    · have kept := ofEnvelope_eq_ok_iff_forall.mp read other
      have apart : other.name ≠ member.name := fun named => same (Member.name_injective named)
      have unchanged : (envelope.erase member.name).get? other.name = envelope.get? other.name := by
        rw [FieldMap.get?_erase, if_neg apart]
      rw [get_set_of_ne same, ← FieldMap.present?_congr unchanged]
      exact kept

theorem exists_ofEnvelope_iff_of_held (held : envelope.get? member.name = some value)
    (notNull : value ≠ .null) (read : ofEnvelope (envelope.erase member.name) = .ok rest) :
    (∃ bookkeeping, ofEnvelope envelope = .ok bookkeeping) ↔
      ∃ told, member.format.read value = .ok told := by
  constructor
  · rintro ⟨bookkeeping, accepted⟩
    have own := ofEnvelope_eq_ok_iff_forall.mp accepted member
    rw [FieldMap.present?_eq_some_iff.mpr ⟨held, notNull⟩] at own
    exact ⟨_, own⟩
  · rintro ⟨told, own⟩
    exact ⟨_, (ofEnvelope_eq_ok_iff_of_held held notNull read told).mpr own⟩

end Bookkeeping

/--
The envelope and the schema accept the same identities, of the objects that have a text for the tag
and 64 digits for the key, and what is written of an identity is read inside any object.  A member
of the bookkeeping that is not null is accepted on an envelope exactly when the schemas accept it,
and has the same value.
-/
theorem Envelope.readers_agree :
    (∀ members identifier, Envelope.identifier (.ofList members) = .ok identifier ↔
      Identifier.schema.format.read (.object members) = .ok identifier) ∧
    (∀ envelope, (∃ identifier, Envelope.identifier envelope = .ok identifier) ↔
      (∃ tag, envelope.get? FieldName.entryType = some (.string tag)) ∧
        ∃ key, envelope.get? FieldName.ledgerIndex = some (.string key) ∧ Hash.IsSpelling key) ∧
    (∀ (envelope : FieldMap) identifier,
      envelope.Holds (Identifier.schema.writeFields identifier) →
        Envelope.identifier envelope = .ok identifier) ∧
    ∀ (member : Bookkeeping.Member) (envelope : FieldMap) value rest,
      envelope.get? member.name = some value → value ≠ .null →
        Bookkeeping.ofEnvelope (envelope.erase member.name) = .ok rest →
          ((∃ bookkeeping, Bookkeeping.ofEnvelope envelope = .ok bookkeeping) ↔
            ∃ told, member.format.read value = .ok told) ∧
          ∀ told, Bookkeeping.ofEnvelope envelope = .ok (rest.set member told) ↔
            member.format.read value = .ok told := by
  refine ⟨fun _ _ => Identifier.readFields_eq_ok_iff.symm, fun _ => exists_identifier_iff,
    fun _ _ => identifier_of_holds, ?_⟩
  intro member envelope value rest held notNull read
  exact ⟨Bookkeeping.exists_ofEnvelope_iff_of_held held notNull read,
    Bookkeeping.ofEnvelope_eq_ok_iff_of_held held notNull read⟩

theorem Envelope.readers_agree_ticket :
    let identifier : Identifier := ⟨.zero, ⟨"Ticket"⟩⟩
    let envelope := (Identifier.schema.writeFields identifier).insert
      FieldName.previousTxnLgrSeq (.nat 7)
    Envelope.identifier envelope = .ok identifier ∧
      Bookkeeping.ofEnvelope envelope = .ok ⟨.zero, ⟨7⟩⟩ := by
  intro identifier envelope
  obtain ⟨-, -, inside, members⟩ := Envelope.readers_agree
  have written := Identifier.schema_faithful.get?_writeFields identifier
  constructor
  · refine inside envelope identifier fun name value held => ?_
    rw [FieldMap.get?_insert, if_neg ?_, held]
    rintro rfl
    cases (written FieldName.previousTxnLgrSeq).symm.trans held
  · have told : envelope.get? FieldName.previousTxnLgrSeq = some (.nat 7) := by
      rw [FieldMap.get?_insert, if_pos rfl]
    have noTxnId : (envelope.erase FieldName.previousTxnLgrSeq).get? FieldName.previousTxnId =
        none := by
      rw [FieldMap.get?_erase, if_neg (by decide), FieldMap.get?_insert, if_neg (by decide)]
      exact written FieldName.previousTxnId
    have noLgrSeq : (envelope.erase FieldName.previousTxnLgrSeq).get?
        FieldName.previousTxnLgrSeq = none := by
      rw [FieldMap.get?_erase, if_pos rfl]
    have rest : Bookkeeping.ofEnvelope (envelope.erase FieldName.previousTxnLgrSeq) =
        .ok .placeholder := Bookkeeping.ofEnvelope_eq_ok_iff.mpr
      ⟨Bookkeeping.readTxnId_of_absent (FieldMap.present?_eq_none_iff.mpr (Or.inl noTxnId)),
        Bookkeeping.readLgrSeq_of_absent (FieldMap.present?_eq_none_iff.mpr (Or.inl noLgrSeq))⟩
    obtain ⟨-, same⟩ := members .lgrSeq envelope (.nat 7) .placeholder told nofun rest
    exact (same ⟨7⟩).mpr rfl

end AffectedNodes
