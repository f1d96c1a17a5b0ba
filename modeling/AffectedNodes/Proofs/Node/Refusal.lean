import AffectedNodes.Proofs.Node.Decoding
import AffectedNodes.Proofs.Node.Malformed

/-!
# Why envelopes are refused

An envelope whose identity cannot be read is refused for that.  Any other one is refused in one of
seven ways: for one of the two blocks that a created object must not have, for its bookkeeping, for
the state block or its fields, or for the previous values or what they give.
`Decoder.Refuses` has one constructor for each way, with all that went well before, and
`decodeNode_eq_error_iff` says that these are the ways in which decoding fails, with any schema.
-/
namespace AffectedNodes

namespace Decoder

/-- Whether a created object with this tag must not have the blocks of another wrapper. -/
def recognizes (decoder : Decoder) (tag : Tag) : Bool :=
  tag.known?.isSome || decoder.catalog.decodes tag

/-- Decoding comes to the state block, which it will complete with this bookkeeping. -/
structure ReachesState (decoder : Decoder) (wrapper : Wrapper) (envelope : FieldMap)
    (identifier : Identifier) (bookkeeping : Bookkeeping) : Prop where
  listed : decoder.catalog.decodes identifier.tag = true
  plain : wrapper = .created →
    Envelope.block? envelope Wrapper.modified.stateBlock = .ok none ∧
      Envelope.block? envelope previousBlock = .ok none
  kept : Bookkeeping.forWrapper wrapper envelope = .ok bookkeeping

/-- The error for which the envelope of the identified object is refused, way by way. -/
inductive Refuses (decoder : Decoder) (envelope : FieldMap) (identifier : Identifier) :
    Wrapper → DecodeError → Prop where
  | foreignFinal {error : DecodeError}
      (recognized : decoder.recognizes identifier.tag = true)
      (refused : refuseBlock envelope identifier Wrapper.modified.stateBlock = .error error) :
      Refuses decoder envelope identifier .created error
  | foreignPrevious {error : DecodeError}
      (recognized : decoder.recognizes identifier.tag = true)
      (noFinal : Envelope.block? envelope Wrapper.modified.stateBlock = .ok none)
      (refused : refuseBlock envelope identifier previousBlock = .error error) :
      Refuses decoder envelope identifier .created error
  | bookkeeping {error : DecodeError}
      (unread : Bookkeeping.ofEnvelope envelope = .error error) :
      Refuses decoder envelope identifier .modified error
  | stateBlock {wrapper : Wrapper} {bookkeeping : Bookkeeping} {error : DecodeError}
      (reached : decoder.ReachesState wrapper envelope identifier bookkeeping)
      (lacking : Envelope.requiredBlock envelope wrapper.stateBlock identifier = .error error) :
      Refuses decoder envelope identifier wrapper error
  | stateFields {wrapper : Wrapper} {bookkeeping : Bookkeeping} {block : FieldMap}
      {fault : EntryFault}
      (reached : decoder.ReachesState wrapper envelope identifier bookkeeping)
      (found : Envelope.block? envelope wrapper.stateBlock = .ok (some block))
      (unread : decoder.schema identifier.tag
        (Record.complete block identifier bookkeeping) = .error fault) :
      Refuses decoder envelope identifier wrapper (.typedDecode identifier fault)
  | previousValues {bookkeeping : Bookkeeping} {block : FieldMap} {final : LedgerEntry}
      {error : DecodeError}
      (reached : decoder.ReachesState .modified envelope identifier bookkeeping)
      (found : Envelope.block? envelope Wrapper.modified.stateBlock = .ok (some block))
      (read : decoder.schema identifier.tag
        (Record.complete block identifier bookkeeping) = .ok final)
      (unlisted : Envelope.block? envelope previousBlock = .error error) :
      Refuses decoder envelope identifier .modified error
  | previousFields {bookkeeping : Bookkeeping} {block values : FieldMap} {final : LedgerEntry}
      {fault : EntryFault}
      (reached : decoder.ReachesState .modified envelope identifier bookkeeping)
      (found : Envelope.block? envelope Wrapper.modified.stateBlock = .ok (some block))
      (read : decoder.schema identifier.tag
        (Record.complete block identifier bookkeeping) = .ok final)
      (listing : Envelope.block? envelope previousBlock = .ok (some values))
      (someListed : values.isEmpty = false)
      (unread : decoder.schema identifier.tag
        ((Record.complete block identifier bookkeeping).overlay values) = .error fault) :
      Refuses decoder envelope identifier .modified (.typedDecode identifier fault)

end Decoder

variable {decoder : Decoder} {envelope record : FieldMap} {identifier : Identifier}
  {error : DecodeError}

theorem TypedReader.readSnapshot_eq_ok_iff {schema : TypedReader} {entry : LedgerEntry} :
    schema.readSnapshot identifier record = .ok entry ↔
      schema identifier.tag record = .ok entry :=
  mapError_eq_ok_iff

theorem TypedReader.readSnapshot_eq_error_iff {schema : TypedReader} :
    schema.readSnapshot identifier record = .error error ↔
      ∃ fault, schema identifier.tag record = .error fault ∧
        .typedDecode identifier fault = error :=
  mapError_eq_error_iff

namespace Decoder

/-- The state block of an object of which the transaction tells one state is refused when it is
missing or the schema does not accept its fields. -/
theorem decodeStateBy_eq_error_iff {wrapper : Wrapper} :
    decodeStateBy decoder.schema.readSnapshot decoder.catalog wrapper identifier envelope =
        .error error ↔
      decoder.catalog.decodes identifier.tag = true ∧
        (Envelope.requiredBlock envelope wrapper.stateBlock identifier = .error error ∨
          ∃ block fault, Envelope.block? envelope wrapper.stateBlock = .ok (some block) ∧
            decoder.schema identifier.tag (Record.complete block identifier .placeholder) =
              .error fault ∧ .typedDecode identifier fault = error) := by
  cases listed : decoder.catalog.decodes identifier.tag with
  | false =>
      simp only [decodeStateBy, listed, Bool.false_eq_true, if_false, false_and, iff_false]
      intro same
      cases same
  | true =>
      simp only [decodeStateBy, listed, if_true, true_and]
      constructor
      · intro failed
        rcases bind_eq_error_iff.mp failed with lacking | ⟨block, found, failed⟩
        · exact Or.inl lacking
        · have found := requiredBlock_eq_ok_iff.mp found
          rcases bind_eq_error_iff.mp failed with unread | ⟨entry, -, same⟩
          · obtain ⟨fault, unread, same⟩ := TypedReader.readSnapshot_eq_error_iff.mp unread
            exact Or.inr ⟨block, fault, found, unread, same⟩
          · cases same
      · rintro (lacking | ⟨block, fault, found, unread, same⟩)
        · exact bind_of_error lacking
        · refine (bind_of_ok (requiredBlock_eq_ok_iff.mpr found)).trans ?_
          exact bind_of_error (TypedReader.readSnapshot_eq_error_iff.mpr ⟨fault, unread, same⟩)

theorem ReachesState.bookkeeping_eq {wrapper : Wrapper} {bookkeeping : Bookkeeping}
    (reached : decoder.ReachesState wrapper envelope identifier bookkeeping)
    (single : wrapper ≠ .modified) : bookkeeping = .placeholder := by
  have kept := reached.kept
  cases wrapper with
  | modified => exact absurd rfl single
  | created | deleted => exact (Except.ok.inj kept).symm

theorem refuses_of_decodeStateBy {wrapper : Wrapper}
    (reached : decoder.catalog.decodes identifier.tag = true →
      decoder.ReachesState wrapper envelope identifier .placeholder)
    (failed : decodeStateBy decoder.schema.readSnapshot decoder.catalog wrapper identifier
      envelope = .error error) : decoder.Refuses envelope identifier wrapper error := by
  obtain ⟨listed, lacking | ⟨block, fault, found, unread, rfl⟩⟩ :=
    decodeStateBy_eq_error_iff.mp failed
  · exact .stateBlock (reached listed) lacking
  · exact .stateFields (reached listed) found unread

theorem decodeCreatedBy_eq_error_iff :
    decodeCreatedBy decoder.schema.readSnapshot decoder.catalog identifier envelope =
        .error error ↔
      decoder.Refuses envelope identifier .created error := by
  unfold decodeCreatedBy
  split
  · rename_i recognized
    constructor
    · intro failed
      rcases bind_eq_error_iff.mp failed with refused | ⟨_, noFinal, failed⟩
      · exact .foreignFinal recognized refused
      have noFinal := refuseBlock_eq_ok_iff.mp noFinal
      rcases bind_eq_error_iff.mp failed with refused | ⟨_, noPrevious, failed⟩
      · exact .foreignPrevious recognized noFinal refused
      have noPrevious := refuseBlock_eq_ok_iff.mp noPrevious
      rcases bind_eq_error_iff.mp failed with failed | ⟨state, -, same⟩
      · refine refuses_of_decodeStateBy (fun listed => ?_) failed
        exact ⟨listed, fun _ => ⟨noFinal, noPrevious⟩, rfl⟩
      · cases same
    · intro refused
      cases refused with
      | foreignFinal _ refused => exact bind_of_error refused
      | foreignPrevious _ noFinal refused =>
          refine (bind_of_ok (refuseBlock_eq_ok_iff.mpr noFinal)).trans ?_
          exact bind_of_error refused
      | stateBlock reached lacking =>
          obtain ⟨noFinal, noPrevious⟩ := reached.plain rfl
          refine (bind_of_ok (refuseBlock_eq_ok_iff.mpr noFinal)).trans ?_
          refine (bind_of_ok (refuseBlock_eq_ok_iff.mpr noPrevious)).trans ?_
          exact bind_of_error
            (decodeStateBy_eq_error_iff.mpr ⟨reached.listed, Or.inl lacking⟩)
      | stateFields reached found unread =>
          obtain ⟨noFinal, noPrevious⟩ := reached.plain rfl
          obtain rfl := reached.bookkeeping_eq (by decide)
          refine (bind_of_ok (refuseBlock_eq_ok_iff.mpr noFinal)).trans ?_
          refine (bind_of_ok (refuseBlock_eq_ok_iff.mpr noPrevious)).trans ?_
          refine bind_of_error (decodeStateBy_eq_error_iff.mpr ⟨reached.listed, Or.inr ?_⟩)
          exact ⟨_, _, found, unread, rfl⟩
  · rename_i unrecognized
    have unlisted : decoder.catalog.decodes identifier.tag = false := by
      cases listed : decoder.catalog.decodes identifier.tag with
      | false => rfl
      | true => exact absurd (by rw [listed, Bool.or_true]) unrecognized
    constructor
    · intro failed
      rcases bind_eq_error_iff.mp failed with failed | ⟨state, -, same⟩
      · cases unlisted.symm.trans (decodeStateBy_eq_error_iff.mp failed).1
      · cases same
    · intro refused
      cases refused with
      | foreignFinal recognized => exact absurd recognized unrecognized
      | foreignPrevious recognized => exact absurd recognized unrecognized
      | stateBlock reached => cases unlisted.symm.trans reached.listed
      | stateFields reached => cases unlisted.symm.trans reached.listed

theorem decodeDeletedBy_eq_error_iff :
    decodeDeletedBy decoder.schema.readSnapshot decoder.catalog identifier envelope =
        .error error ↔
      decoder.Refuses envelope identifier .deleted error := by
  rw [decodeDeletedBy]
  constructor
  · intro failed
    rcases bind_eq_error_iff.mp failed with failed | ⟨state, -, same⟩
    · exact refuses_of_decodeStateBy (fun listed => ⟨listed, Wrapper.noConfusion, rfl⟩) failed
    · cases same
  · intro refused
    refine bind_of_error (decodeStateBy_eq_error_iff.mpr ?_)
    cases refused with
    | stateBlock reached lacking => exact ⟨reached.listed, Or.inl lacking⟩
    | stateFields reached found unread =>
        obtain rfl := reached.bookkeeping_eq (by decide)
        exact ⟨reached.listed, Or.inr ⟨_, _, found, unread, rfl⟩⟩

theorem decodeModifiedBy_eq_error_iff :
    decodeModifiedBy decoder.schema.readSnapshot decoder.catalog identifier envelope =
        .error error ↔
      decoder.Refuses envelope identifier .modified error := by
  rw [decodeModifiedBy]
  constructor
  · intro failed
    rcases bind_eq_error_iff.mp failed with unread | ⟨bookkeeping, kept, failed⟩
    · exact .bookkeeping unread
    split at failed
    · rename_i listed
      have reached : decoder.ReachesState .modified envelope identifier bookkeeping :=
        ⟨listed, Wrapper.noConfusion, kept⟩
      rcases bind_eq_error_iff.mp failed with lacking | ⟨block, found, failed⟩
      · exact .stateBlock reached lacking
      have found := requiredBlock_eq_ok_iff.mp found
      rcases bind_eq_error_iff.mp failed with failed | ⟨final, read, failed⟩
      · obtain ⟨fault, unread, rfl⟩ := TypedReader.readSnapshot_eq_error_iff.mp failed
        exact .stateFields reached found unread
      have read := TypedReader.readSnapshot_eq_ok_iff.mp read
      rcases bind_eq_error_iff.mp failed with unlisted | ⟨delta, listing, failed⟩
      · exact .previousValues reached found read unlisted
      cases before : Record.previous? (Record.complete block identifier bookkeeping) delta with
      | none =>
          -- there is no step left that could fail
          simp only [before] at failed
          cases failed
      | some record =>
          simp only [before] at failed
          obtain ⟨values, rfl, someListed, rfl⟩ := Record.previous?_eq_some_iff.mp before
          rcases bind_eq_error_iff.mp failed with failed | ⟨previous, -, same⟩
          · obtain ⟨fault, unread, rfl⟩ := TypedReader.readSnapshot_eq_error_iff.mp failed
            exact .previousFields reached found read listing someListed unread
          · cases same
    · cases failed
  · intro refused
    cases refused with
    | bookkeeping unread => exact bind_of_error unread
    | stateBlock reached lacking =>
        refine (bind_of_ok reached.kept).trans ?_
        rw [if_pos reached.listed]
        exact bind_of_error lacking
    | stateFields reached found unread =>
        refine (bind_of_ok reached.kept).trans ?_
        rw [if_pos reached.listed]
        refine (bind_of_ok (requiredBlock_eq_ok_iff.mpr found)).trans ?_
        exact bind_of_error (TypedReader.readSnapshot_eq_error_iff.mpr ⟨_, unread, rfl⟩)
    | previousValues reached found read unlisted =>
        refine (bind_of_ok reached.kept).trans ?_
        rw [if_pos reached.listed]
        refine (bind_of_ok (requiredBlock_eq_ok_iff.mpr found)).trans ?_
        refine (bind_of_ok (TypedReader.readSnapshot_eq_ok_iff.mpr read)).trans ?_
        exact bind_of_error unlisted
    | previousFields reached found read listing someListed unread =>
        refine (bind_of_ok reached.kept).trans ?_
        rw [if_pos reached.listed]
        refine (bind_of_ok (requiredBlock_eq_ok_iff.mpr found)).trans ?_
        refine (bind_of_ok (TypedReader.readSnapshot_eq_ok_iff.mpr read)).trans ?_
        refine (bind_of_ok listing).trans ?_
        rw [Record.previous?_eq_some_iff.mpr ⟨_, rfl, someListed, rfl⟩]
        exact bind_of_error (TypedReader.readSnapshot_eq_error_iff.mpr ⟨_, unread, rfl⟩)

/-- An envelope is refused when its identity cannot be read, or in one of the ways for its
wrapper. -/
theorem decodeNode_eq_error_iff {wrapper : Wrapper} :
    decoder.decodeNode wrapper envelope = .error error ↔
      Envelope.identifier envelope = .error error ∨
        ∃ identifier, Envelope.identifier envelope = .ok identifier ∧
          decoder.Refuses envelope identifier wrapper error := by
  rw [decodeNode, decodeNodeBy, bind_eq_error_iff]
  apply or_congr Iff.rfl
  apply exists_congr
  intro identifier
  apply and_congr Iff.rfl
  cases wrapper with
  | created => exact map_eq_error_iff.trans decodeCreatedBy_eq_error_iff
  | modified => exact map_eq_error_iff.trans decodeModifiedBy_eq_error_iff
  | deleted => exact map_eq_error_iff.trans decodeDeletedBy_eq_error_iff

/-! ### What the error of a refusal says -/

theorem Refuses.malformed_or_typedDecode {wrapper : Wrapper}
    (refused : decoder.Refuses envelope identifier wrapper error) :
    (∃ cause, error = .malformed cause) ∨ ∃ fault, error = .typedDecode identifier fault := by
  cases refused with
  | foreignFinal _ refused =>
      exact Or.inl (Envelope.failsMalformed_refuseBlock _ _ _ _ refused)
  | foreignPrevious _ _ refused =>
      exact Or.inl (Envelope.failsMalformed_refuseBlock _ _ _ _ refused)
  | bookkeeping unread => exact Or.inl (Envelope.failsMalformed_ofEnvelope _ _ unread)
  | stateBlock _ lacking => exact Or.inl (Envelope.failsMalformed_requiredBlock _ _ _ _ lacking)
  | stateFields => exact Or.inr ⟨_, rfl⟩
  | previousValues _ _ _ unlisted => exact Or.inl (Envelope.failsMalformed_block? _ _ _ unlisted)
  | previousFields => exact Or.inr ⟨_, rfl⟩

theorem malformed_or_typedDecode_of_decodeNode {wrapper : Wrapper}
    (failed : decoder.decodeNode wrapper envelope = .error error) :
    (∃ cause, error = .malformed cause) ∨
      ∃ identifier fault, error = .typedDecode identifier fault := by
  rcases decodeNode_eq_error_iff.mp failed with unidentified | ⟨identifier, -, refused⟩
  · exact Or.inl (Envelope.failsMalformed_identifier _ _ unidentified)
  · rcases refused.malformed_or_typedDecode with malformed | ⟨fault, same⟩
    · exact Or.inl malformed
    · exact Or.inr ⟨identifier, fault, same⟩

theorem malformed_or_typedDecode_of_decodeElement {element : Json}
    (failed : decoder.decodeElement element = .error error) :
    (∃ cause, error = .malformed cause) ∨
      ∃ identifier fault, error = .typedDecode identifier fault := by
  rcases bind_eq_error_iff.mp failed with unopened | ⟨⟨wrapper, envelope⟩, -, failed⟩
  · exact Or.inl (Envelope.failsMalformed_ofElement _ _ unopened)
  · exact malformed_or_typedDecode_of_decodeNode failed

end Decoder

theorem decodeNode_eq_error_iff {catalog : Catalog} {wrapper : Wrapper} :
    decodeNode catalog wrapper envelope = .error error ↔
      Envelope.identifier envelope = .error error ∨
        ∃ identifier, Envelope.identifier envelope = .ok identifier ∧
          (Decoder.ofCatalog catalog).Refuses envelope identifier wrapper error := by
  change (Decoder.ofCatalog catalog).decodeNode wrapper envelope = .error error ↔ _
  exact Decoder.decodeNode_eq_error_iff

end AffectedNodes
