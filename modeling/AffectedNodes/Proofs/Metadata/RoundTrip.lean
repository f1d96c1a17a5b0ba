import AffectedNodes.Proofs.Metadata.Acceptance
import AffectedNodes.Proofs.Node.RoundTrip

/-!
# Metadata written and decoded again

The header of metadata reads back as it was written, so metadata come back whole when each of their
nodes does.  A node that was decoded comes back whole exactly when its state from before, if it has
one, has every field of its final state.
-/
namespace AffectedNodes

namespace Metadata

/-- No amount is written as the text that stands for a missing one. -/
theorem isUnavailable_write (amount : Amount) :
    isUnavailable (Format.amount.write amount) = false := by
  cases amount with
  | issued issued => rfl
  | xrp drops =>
      cases unavailable : isUnavailable (Format.amount.write (.xrp drops)) with
      | false => rfl
      | true =>
          have sameText : drops.text = "unavailable" := by
            simpa [isUnavailable, Format.amount, Format.drops, Format.ofText] using unavailable
          have read := Drops.ofText?_text drops
          rw [sameText] at read
          cases read

theorem deliveredValue?_fields (metadata : Metadata) :
    deliveredValue? metadata.fields = metadata.deliveredAmount.map Format.amount.write := by
  obtain ⟨nodes, transactionIndex, transactionResult, deliveredAmount⟩ := metadata
  cases deliveredAmount with
  | none =>
      simp [deliveredValue?, deliveredNames, fields, FieldMap.get?_ofList_cons]
  | some amount =>
      simp [deliveredValue?, deliveredNames, fields, FieldMap.get?_ofList_cons,
        isUnavailable_write, Option.filter]

theorem readDelivered_fields (metadata : Metadata) :
    readDelivered metadata.fields = .ok metadata.deliveredAmount := by
  rw [readDelivered, deliveredValue?_fields]
  cases metadata.deliveredAmount with
  | none => rfl
  | some amount =>
      simp only [Option.map_some, Format.faithful_amount.lawful amount]

/-- The written members are a sound header that tells the metadata. -/
theorem toldBy_fields (metadata : Metadata) :
    Header.ToldBy metadata.fields ⟨metadata.nodes.map Node.toJson, metadata.transactionIndex,
      metadata.transactionResult, metadata.deliveredAmount⟩ where
  elements := by
    cases h : metadata.deliveredAmount <;> simp [fields, FieldMap.get?_ofList_cons, h]
  transactionIndex := by
    cases h : metadata.deliveredAmount <;> simp [fields, FieldMap.get?_ofList_cons, h]
  transactionResult := by
    cases h : metadata.deliveredAmount <;> simp [fields, FieldMap.get?_ofList_cons, h]
  deliveredAmount := readDelivered_eq_ok_iff.mp (readDelivered_fields metadata)

theorem decode_toJson {catalog : Catalog} {metadata : Metadata}
    (whole : ∀ node ∈ metadata.nodes, decodeElement catalog node.toJson = .ok node) :
    decode catalog metadata.toJson = .ok metadata := by
  have outcome : (Decoder.ofCatalog catalog).decodeBatchWith .inTurn .standard
      (metadata.nodes.map Node.toJson) = .ok ⟨metadata.nodes, []⟩ :=
    Batch.decodeWith_of_decoded whole
  have decoded : decodeWith catalog .standard metadata.toJson = .ok (metadata, []) :=
    Decoder.decodeMetadataWith_eq_ok_iff.mpr
      ⟨metadata.fields, _, FieldMap.fields?_toJson _, metadata.toldBy_fields, outcome⟩
  rw [decode, decoded]
  rfl

theorem exists_element_of_mem {catalog : Catalog} {settings : Settings} {value : Json}
    {metadata : Metadata} {failures : List Failure} {node : Node}
    (decoded : decodeWith catalog settings value = .ok (metadata, failures))
    (member : node ∈ metadata.nodes) :
    ∃ element, decodeElement catalog element = .ok node := by
  obtain ⟨fields, elements, -, -, batch⟩ := Decoder.decodeMetadataWith_eq_ok_iff.mp decoded
  obtain ⟨element, -, decodedNode⟩ := Batch.exists_element_of_mem batch member
  exact ⟨element, decodedNode⟩

/--
A decoded node is written as an element that decodes to a node with the same wrapper, identity,
latest state and bookkeeping, and with a state from before exactly if it had one.  It comes back
whole exactly when that state, if there is one, has every field of the final state.  So decoded
metadata of whose modified nodes this is true come back whole, whatever the settings were.
-/
theorem decoded_roundTrip (catalog : Catalog) :
    (∀ element node, decodeElement catalog element = .ok node →
      ∃ again : Node, decodeElement catalog node.toJson = .ok again ∧
        again.AgreesUpToPrevious node ∧ (again = node ↔ node.CoversFinal)) ∧
    ∀ settings value metadata failures,
      decodeWith catalog settings value = .ok (metadata, failures) →
      (∀ inner ∈ metadata.modifiedNodes, (Node.modified inner).CoversFinal) →
      decode catalog metadata.toJson = .ok metadata := by
  constructor
  · intro element node decoded
    exact Node.decodeElement_again decoded
  · intro settings value metadata failures decoded covered
    apply decode_toJson
    intro node member
    obtain ⟨element, decodedNode⟩ := exists_element_of_mem decoded member
    obtain ⟨again, decodedAgain, _, whole⟩ := Node.decodeElement_again decodedNode
    have covers : node.CoversFinal := by
      cases node with
      | modified inner =>
          exact covered inner (List.mem_filterMap.mpr ⟨_, member, rfl⟩)
      | created inner => exact Node.coversFinal_of_no_previous rfl
      | deleted inner => exact Node.coversFinal_of_no_previous rfl
    rw [whole.mpr covers] at decodedAgain
    exact decodedAgain

def modifiedElement (type : EntryType) (final previous : List (String × Json)) : Json :=
  .object
    [(Wrapper.modified.key, .object
      [(FieldName.entryType, .string type.wireName),
        (FieldName.ledgerIndex, .string Hash.zero.toHex),
        (Wrapper.modified.stateBlock, .object final), (previousBlock, .object previous)])]

def conditionedEscrow : Json :=
  modifiedElement .escrow
    [("Account", .string "rEhxGqkqPPSxQ3P25J66ft5TwpzV14k2de"), ("Amount", .string "10"),
      ("Condition", .string "A0"), ("Destination", .string "rEhxGqkqPPSxQ3P25J66ft5TwpzV14k2de")]
    [("Condition", .null)]

def renumberedTicket : Json :=
  .object
    [("AffectedNodes", .array
      [modifiedElement .ticket
        [("Account", .string "rEhxGqkqPPSxQ3P25J66ft5TwpzV14k2de"), ("TicketSequence", .nat 3)]
        [("TicketSequence", .nat 2)]]),
      ("TransactionIndex", .nat 0), ("TransactionResult", .string "tesSUCCESS")]

/-- The escrow does not come back whole, because its condition reappears; the ticket does. -/
theorem decoded_roundTrip_examples :
    (∃ node again, decodeElement .standard conditionedEscrow = .ok node ∧
      decodeElement .standard node.toJson = .ok again ∧ again.AgreesUpToPrevious node ∧
      again ≠ node) ∧
    ∃ metadata, decodeWith .standard .standard renumberedTicket = .ok (metadata, []) ∧
      decode .standard metadata.toJson = .ok metadata := by
  constructor
  · obtain ⟨node, decoded, uncovered⟩ : ∃ node,
        decodeElement .standard conditionedEscrow = .ok node ∧ ¬ node.CoversFinal := by
      refine ⟨_, rfl, ?_⟩
      intro covers
      have reappears := covers _ _ rfl rfl "Condition" (by decide +kernel)
      revert reappears
      decide +kernel
    obtain ⟨again, decodedAgain, agrees, whole⟩ :=
      (decoded_roundTrip .standard).1 conditionedEscrow node decoded
    exact ⟨node, again, decoded, decodedAgain, agrees, fun same => uncovered (whole.mp same)⟩
  · obtain ⟨metadata, decoded, covered⟩ : ∃ metadata,
        decodeWith .standard .standard renumberedTicket = .ok (metadata, []) ∧
          ∀ inner ∈ metadata.modifiedNodes, (Node.modified inner).CoversFinal := by
      refine ⟨_, rfl, ?_⟩
      intro inner member
      obtain rfl := List.mem_singleton.mp member
      intro previous final before latest
      cases before
      cases latest
      decide +kernel
    exact ⟨metadata, decoded,
      (decoded_roundTrip .standard).2 .standard renumberedTicket metadata [] decoded covered⟩

end Metadata

end AffectedNodes
