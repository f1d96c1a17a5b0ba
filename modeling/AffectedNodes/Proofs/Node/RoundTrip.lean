import AffectedNodes.Proofs.Node.Decoding
import AffectedNodes.Proofs.Node.Envelope

/-!
# Nodes written and decoded again

A decoded node is written as an element whose blocks are whole entries where the decoder expects
what the envelope leaves out.  Completing such a block changes nothing, so the node decodes again,
and everything but the state from before comes back as it was.  That state is laid over the final
one, and so a field that only the final state has reappears in it: the node itself comes back
exactly when the state from before has every field of the final one.
-/
namespace AffectedNodes

/-! ### What a written envelope holds -/

theorem Identifier.schema_faithful : Identifier.schema.Faithful where
  layout := {
    fields := by simp [schema]
    distinct := by decide }
  ofRow_toRow _ := rfl
  toRow_ofRow _ := rfl
  isOpen := rfl

namespace Envelope

variable {envelope : FieldMap} {name : String}

theorem block?_of_snapshot {snapshot : Option LedgerEntry}
    (held : envelope.get? name = snapshot.map LedgerEntry.toJson) :
    block? envelope name = .ok (snapshot.map LedgerEntry.fields) := by
  cases snapshot with
  | none => exact block?_of_missing held
  | some entry => exact block?_of_object held (FieldMap.fields?_toJson entry.fields)

theorem identifier_of_get? {identifier : Identifier}
    (tagged : envelope.get? FieldName.entryType = some (.string identifier.tag.text))
    (keyed : envelope.get? FieldName.ledgerIndex = some (.string identifier.key.toHex)) :
    Envelope.identifier envelope = .ok identifier := by
  simp only [Envelope.identifier, tag, key, tagged, keyed, Hash.ofHex_toHex]
  rfl

end Envelope

namespace Bookkeeping

variable {envelope : FieldMap}

theorem ofEnvelope_of_get? {bookkeeping : Bookkeeping}
    (txnId : envelope.get? FieldName.previousTxnId = some (.string bookkeeping.txnId.toHex))
    (lgrSeq : envelope.get? FieldName.previousTxnLgrSeq =
      some (.nat bookkeeping.lgrSeq.number.toNat)) :
    ofEnvelope envelope = .ok bookkeeping := by
  have heldId := FieldMap.present?_eq_some_iff.mpr ⟨txnId, nofun⟩
  have heldSeq := FieldMap.present?_eq_some_iff.mpr ⟨lgrSeq, nofun⟩
  refine ofEnvelope_eq_ok_iff.mpr ⟨?_, ?_⟩
  · exact (readTxnId_of_present heldId).mpr (Format.faithful_hash.lawful _)
  · exact (readLgrSeq_of_present heldSeq).mpr (Format.faithful_sequence.lawful _)

end Bookkeeping

namespace Node

theorem get?_identityMembers (identifier : Identifier) (name : String) :
    (FieldMap.ofList (identityMembers identifier)).get? name =
      if name = FieldName.ledgerIndex then some (.string identifier.key.toHex)
      else if name = FieldName.entryType then some (.string identifier.tag.text) else none := by
  rw [identityMembers, FieldMap.ofList_entries, Identifier.schema_faithful.get?_writeFields]
  rfl

theorem get?_snapshotMember (name wanted : String) (snapshot : Option LedgerEntry) :
    (FieldMap.ofList (snapshotMember name snapshot)).get? wanted =
      if wanted = name then snapshot.map LedgerEntry.toJson else none := by
  cases snapshot with
  | none => simp [snapshotMember]
  | some entry => simp [snapshotMember, FieldMap.get?_ofList_cons]

theorem identifier_envelope (node : Node) :
    Envelope.identifier node.envelope = .ok node.identifier := by
  apply Envelope.identifier_of_get?
  · cases node <;>
      simp +decide [envelope, identifier, FieldMap.get?_ofList_append, FieldMap.get?_ofList_cons,
        get?_identityMembers, get?_snapshotMember]
  · cases node <;>
      simp +decide [envelope, identifier, FieldMap.get?_ofList_append, FieldMap.get?_ofList_cons,
        get?_identityMembers, get?_snapshotMember]

theorem block?_envelope_state (node : Node) :
    Envelope.block? node.envelope node.wrapper.stateBlock =
      .ok (node.latestState.map LedgerEntry.fields) := by
  apply Envelope.block?_of_snapshot
  cases node <;>
    simp +decide [envelope, wrapper, latestState, FieldMap.get?_ofList_append,
      FieldMap.get?_ofList_cons, get?_identityMembers, get?_snapshotMember]

theorem block?_envelope_created (node : CreatedNode) {name : String}
    (foreign : name = Wrapper.modified.stateBlock ∨ name = previousBlock) :
    Envelope.block? (created node).envelope name = .ok none := by
  apply Envelope.block?_of_missing
  rcases foreign with rfl | rfl <;>
    simp +decide [envelope, FieldMap.get?_ofList_append, get?_identityMembers,
      get?_snapshotMember]

theorem block?_envelope_previous (node : ModifiedNode) :
    Envelope.block? (modified node).envelope previousBlock =
      .ok (node.previousState.map LedgerEntry.fields) := by
  apply Envelope.block?_of_snapshot
  simp +decide [envelope, FieldMap.get?_ofList_append, FieldMap.get?_ofList_cons,
    get?_identityMembers, get?_snapshotMember]

theorem bookkeeping_envelope (node : ModifiedNode) :
    Bookkeeping.ofEnvelope (modified node).envelope = .ok node.bookkeeping := by
  apply Bookkeeping.ofEnvelope_of_get?
  · simp +decide [envelope, FieldMap.get?_ofList_append, FieldMap.get?_ofList_cons]
  · simp +decide [envelope, FieldMap.get?_ofList_append, FieldMap.get?_ofList_cons]

def previousState? : Node → Option LedgerEntry
  | modified node => node.previousState
  | created _ | deleted _ => none

/-- The bookkeeping that a node has besides its snapshots. -/
def bookkeeping? : Node → Option Bookkeeping
  | modified node => some node.bookkeeping
  | created _ | deleted _ => none

/-- The state from before, if there is one, has every field of the final state. -/
def CoversFinal (node : Node) : Prop :=
  ∀ previous final, node.previousState? = some previous → node.latestState = some final →
    ∀ name ∈ final.fields.names, name ∈ previous.fields.names

/-- Everything but the state from before is the same, and there is one on both sides or on
neither. -/
structure AgreesUpToPrevious (again node : Node) : Prop where
  wrapper : again.wrapper = node.wrapper
  identifier : again.identifier = node.identifier
  latestState : again.latestState = node.latestState
  bookkeeping : again.bookkeeping? = node.bookkeeping?
  previousState : again.previousState?.isSome = node.previousState?.isSome

/-- Laying the state from before over the final one gives the former exactly when it covers the
latter. -/
theorem coversFinal_iff_laid {identifier : Identifier} {final previous laid : LedgerEntry}
    {bookkeeping : Bookkeeping}
    (sameFields : laid.fields = final.fields.overlay previous.fields) :
    laid = previous ↔
      (modified ⟨identifier, some final, some previous, bookkeeping⟩).CoversFinal := by
  constructor
  · intro same previous' final' before latest
    cases before
    cases latest
    exact FieldMap.overlay_eq_delta_iff.mp (sameFields.symm.trans (congrArg _ same))
  · intro covers
    apply LedgerEntry.fields_injective
    rw [sameFields]
    exact FieldMap.overlay_eq_delta_iff.mpr (covers previous final rfl rfl)

theorem coversFinal_of_no_previous {node : Node} (none : node.previousState? = none) :
    node.CoversFinal := by
  intro previous final some
  cases none.symm.trans some

namespace DecodedFrom

variable {catalog : Catalog} {envelope : FieldMap} {identifier : Identifier} {node : Node}

theorem read_again {block : FieldMap} {bookkeeping : Bookkeeping} {entry : LedgerEntry}
    (read : LedgerEntry.decode identifier.tag
      (Record.complete block identifier bookkeeping) = .ok entry) :
    LedgerEntry.decode identifier.tag
      (Record.complete entry.fields identifier bookkeeping) = .ok entry := by
  have complete := (Record.isComplete_complete block identifier bookkeeping).fields read
  have sameTag := (LedgerEntry.decode_eq_ok_iff.mp read).1
  rw [complete.complete_eq, ← sameTag]
  exact entry.decode_fields

theorem again_of_no_previous (way : node.DecodedFrom catalog envelope identifier)
    (single : node.previousState? = none) : node.DecodedFrom catalog node.envelope identifier := by
  cases way with
  | createdIdentity unlisted _ =>
      apply createdIdentity unlisted
      intro _
      constructor
      · exact block?_envelope_created _ (Or.inl rfl)
      · exact block?_envelope_created _ (Or.inr rfl)
  | @createdState _ state listed _ _ _ read =>
      have found := block?_envelope_state (.created ⟨identifier, some state⟩)
      apply createdState listed _ _ found (read_again read)
      · exact block?_envelope_created _ (Or.inl rfl)
      · exact block?_envelope_created _ (Or.inr rfl)
  | deletedIdentity unlisted => exact deletedIdentity unlisted
  | @deletedState _ state listed _ read =>
      have found := block?_envelope_state (.deleted ⟨identifier, some state⟩)
      exact deletedState listed found (read_again read)
  | modifiedIdentity unlisted _ => exact modifiedIdentity unlisted (bookkeeping_envelope _)
  | @modifiedFinal bookkeeping _ _ final listed _ _ read _ _ =>
      have found := block?_envelope_state (.modified ⟨identifier, some final, none, bookkeeping⟩)
      have listing := block?_envelope_previous ⟨identifier, some final, none, bookkeeping⟩
      exact modifiedFinal listed (bookkeeping_envelope _) found (read_again read) listing nofun
  | modifiedBoth => cases single

theorem again_of_previous {final previous : LedgerEntry} {bookkeeping : Bookkeeping}
    (way : (Node.modified ⟨identifier, some final, some previous, bookkeeping⟩).DecodedFrom catalog
      envelope identifier) :
    ∃ laid : LedgerEntry, laid.fields = final.fields.overlay previous.fields ∧
      (Node.modified ⟨identifier, some final, some laid, bookkeeping⟩).DecodedFrom catalog
        (Node.modified ⟨identifier, some final, some previous, bookkeeping⟩).envelope
        identifier := by
  cases way with
  | modifiedBoth listed _ _ read _ _ readPrevious =>
      have finalTag := (LedgerEntry.decode_eq_ok_iff.mp read).1
      have previousTag := (LedgerEntry.decode_eq_ok_iff.mp readPrevious).1
      -- the written previous values are the whole state from before, and not only what differs
      obtain ⟨laid, sameTag, sameFields⟩ :=
        LedgerEntry.exists_fields_eq_overlay (finalTag.trans previousTag.symm)
      refine ⟨laid, sameFields, ?_⟩
      have found :=
        block?_envelope_state (.modified ⟨identifier, some final, some previous, bookkeeping⟩)
      have listing :=
        block?_envelope_previous ⟨identifier, some final, some previous, bookkeeping⟩
      apply modifiedBoth listed (bookkeeping_envelope _) found (read_again read) listing
      · exact previous.isEmpty_fields
      · have complete := (Record.isComplete_complete _ identifier bookkeeping).fields read
        rw [complete.complete_eq, ← sameFields, ← finalTag, ← sameTag]
        exact laid.decode_fields

/-- A node is decoded from its own envelope again, up to the state from before, and wholly when that
state covers the final one. -/
theorem again (way : node.DecodedFrom catalog envelope identifier) :
    ∃ again : Node, again.DecodedFrom catalog node.envelope identifier ∧
      again.AgreesUpToPrevious node ∧ (again = node ↔ node.CoversFinal) := by
  cases before : node.previousState? with
  | none =>
      refine ⟨node, way.again_of_no_previous before, ⟨rfl, rfl, rfl, rfl, rfl⟩, ?_⟩
      exact iff_of_true rfl (coversFinal_of_no_previous before)
  | some previous =>
      cases way with
      | @modifiedBoth bookkeeping _ _ final previous' listed kept found read listing someListed
          readPrevious =>
          have way := modifiedBoth listed kept found read listing someListed readPrevious
          obtain ⟨laid, sameFields, wayAgain⟩ := again_of_previous way
          refine ⟨_, wayAgain, ⟨rfl, rfl, rfl, rfl, rfl⟩, ?_⟩
          rw [← coversFinal_iff_laid sameFields]
          constructor
          · intro same
            injection same with same
            injection same with _ _ same
            exact Option.some.inj same
          · intro same
            rw [same]
      | _ => cases before

end DecodedFrom

theorem decodeElement_toJson {catalog : Catalog} {node again : Node}
    (sameWrapper : again.wrapper = node.wrapper)
    (decoded : decodeNode catalog node.wrapper node.envelope = .ok again) :
    decodeElement catalog node.toJson = .ok again := by
  refine decodeElement_eq_ok_iff.mpr ?_
  refine ⟨.ofList [(node.wrapper.key, node.envelope.toJson)], node.envelope.toJson, node.envelope,
    rfl, ?_, FieldMap.fields?_toJson _, ?_⟩
  · rw [sameWrapper]
    rfl
  · rw [sameWrapper]
    exact decoded

/-- A decoded node is written as an element that decodes again. -/
theorem decodeElement_again {catalog : Catalog} {element : Json} {node : Node}
    (decoded : decodeElement catalog element = .ok node) :
    ∃ again : Node, decodeElement catalog node.toJson = .ok again ∧
      again.AgreesUpToPrevious node ∧ (again = node ↔ node.CoversFinal) := by
  obtain ⟨_, _, envelope, _, _, _, decodedNode⟩ := decodeElement_eq_ok_iff.mp decoded
  obtain ⟨identifier, _, _, way⟩ := decodeNode_eq_ok_iff.mp decodedNode
  obtain ⟨again, wayAgain, agrees, same_iff⟩ := way.again
  refine ⟨again, ?_, agrees, same_iff⟩
  apply decodeElement_toJson agrees.wrapper
  refine decodeNode_eq_ok_iff.mpr ⟨identifier, ?_, agrees.wrapper, wayAgain⟩
  rw [identifier_envelope, way.identifier_eq]

end Node

end AffectedNodes
