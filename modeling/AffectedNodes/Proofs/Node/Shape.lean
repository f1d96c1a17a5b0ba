import AffectedNodes.Proofs.Node.Completeness
import AffectedNodes.Proofs.Node.ErrorClasses

/-!
# The shape of decoded nodes

An element of `AffectedNodes` is an object with one member, an envelope under the key of a wrapper.
Such an element decodes exactly as its envelope does, with an error or without, and every other one
is malformed.  What comes out has a shape that does not depend on the fields inside the blocks: the
wrapper and the identity are those of the element, the catalog says whether there are snapshots, the
tag says of which kind they are, and only a listing of previous values gives a modified object a
state from before.
-/
namespace AffectedNodes

/-- The element is an object with one member, which is the envelope under the key of the wrapper. -/
def Json.IsElement (element : Json) (wrapper : Wrapper) (envelope : FieldMap) : Prop :=
  ∃ wrapping content, element.fields? = some wrapping ∧
    wrapping.entries = [(wrapper.key, content)] ∧ content.fields? = some envelope

def Envelope.ListsPrevious (envelope : FieldMap) : Prop :=
  ∃ value values, envelope.get? previousBlock = some value ∧ value.fields? = some values ∧
    values.isEmpty = false

/-- A node has the identity that the envelope tells, the snapshots that the catalog allows, each of
the kind that the tag names, and a state from before if previous values are listed. -/
structure Node.ShapedBy (catalog : Catalog) (envelope : FieldMap) (node : Node) : Prop where
  identified : Envelope.identifier envelope = .ok node.identifier
  isDecoded_iff : node.isDecoded = true ↔ catalog.decodes node.identifier.tag = true
  kind_eq : ∀ snapshot ∈ node.snapshots, EntryKind.ofTag? node.identifier.tag = some snapshot.kind
  previous_iff : ∀ inner, node = .modified inner →
    (inner.previousState.isSome = true ↔
      catalog.decodes node.identifier.tag = true ∧ Envelope.ListsPrevious envelope)
  final_of_previous : ∀ inner, node = .modified inner →
    inner.previousState.isSome = true → inner.finalState.isSome = true

variable {catalog : Catalog} {decoder : Decoder} {envelope : FieldMap} {identifier : Identifier}
  {element : Json} {wrapper : Wrapper} {node : Node}

/-! ### Elements -/

namespace Json.IsElement

theorem decodeElement_eq (isElement : element.IsElement wrapper envelope) :
    decoder.decodeElement element = decoder.decodeNode wrapper envelope :=
  bind_of_ok (Envelope.ofElement_eq_ok_iff.mpr isElement)

end Json.IsElement

theorem Decoder.decodeElement_malformed
    (noElement : ∀ wrapper envelope, ¬ element.IsElement wrapper envelope) :
    ∃ cause, decoder.decodeElement element = .error (.malformed cause) := by
  cases opened : Envelope.ofElement element with
  | ok pair =>
      obtain ⟨wrapper, envelope⟩ := pair
      exact absurd (Envelope.ofElement_eq_ok_iff.mp opened) (noElement wrapper envelope)
  | error error =>
      obtain ⟨cause, rfl⟩ := Envelope.failsMalformed_ofElement element error opened
      exact ⟨cause, bind_of_error opened⟩

/-! ### Nodes -/

theorem Envelope.listsPrevious_iff :
    ListsPrevious envelope ↔
      ∃ values, block? envelope previousBlock = .ok (some values) ∧ values.isEmpty = false := by
  constructor
  · rintro ⟨value, values, held, object, someListed⟩
    exact ⟨values, block?_of_object held object, someListed⟩
  · rintro ⟨values, listing, someListed⟩
    obtain ⟨members, held, rfl⟩ := exists_object_of_block? listing
    exact ⟨.object members, _, held, rfl, someListed⟩

namespace Node.DecodedFrom

theorem kind_eq (way : node.DecodedFrom catalog envelope identifier) {snapshot : LedgerEntry}
    (member : snapshot ∈ node.snapshots) :
    EntryKind.ofTag? identifier.tag = some snapshot.kind := by
  have of_decoded {record : FieldMap} {entry : LedgerEntry}
      (read : LedgerEntry.decode identifier.tag record = .ok entry) :
      EntryKind.ofTag? identifier.tag = some entry.kind :=
    EntryKind.ofTag?_eq_some_iff.mpr (LedgerEntry.decode_eq_ok_iff.mp read).1
  cases way with
  | createdIdentity | deletedIdentity | modifiedIdentity => cases member
  | createdState _ _ _ _ read | deletedState _ _ read | modifiedFinal _ _ _ read =>
      obtain rfl := List.mem_singleton.mp member
      exact of_decoded read
  | modifiedBoth _ _ _ read _ _ readPrevious =>
      rcases List.mem_cons.mp member with rfl | later
      · exact of_decoded read
      · obtain rfl := List.mem_singleton.mp later
        exact of_decoded readPrevious

theorem isSome_previousState_iff {inner : ModifiedNode}
    (way : (Node.modified inner).DecodedFrom catalog envelope identifier) :
    inner.previousState.isSome = true ↔
      catalog.decodes identifier.tag = true ∧ Envelope.ListsPrevious envelope := by
  rw [Envelope.listsPrevious_iff]
  cases way with
  | modifiedIdentity unlisted => simp [unlisted]
  | modifiedFinal listed _ _ _ listing nothingListed =>
      refine iff_of_false Bool.false_ne_true ?_
      rintro ⟨-, values, listing', someListed⟩
      cases listing.symm.trans listing'
      cases (nothingListed values rfl).symm.trans someListed
  | modifiedBoth listed _ _ _ listing someListed =>
      exact iff_of_true rfl ⟨listed, _, listing, someListed⟩

theorem isSome_finalState_of_previous {inner : ModifiedNode}
    (way : (Node.modified inner).DecodedFrom catalog envelope identifier)
    (before : inner.previousState.isSome = true) : inner.finalState.isSome = true := by
  cases way with
  | modifiedIdentity | modifiedFinal => cases before
  | modifiedBoth => rfl

theorem shapedBy (identified : Envelope.identifier envelope = .ok identifier)
    (way : node.DecodedFrom catalog envelope identifier) : node.ShapedBy catalog envelope := by
  obtain rfl := way.identifier_eq
  constructor
  · exact identified
  · rw [way.isDecoded_eq]
  · exact fun snapshot member => way.kind_eq member
  · rintro inner rfl
    exact way.isSome_previousState_iff
  · rintro inner rfl before
    exact way.isSome_finalState_of_previous before

end Node.DecodedFrom

theorem exists_shapedBy (decoded : decodeElement catalog element = .ok node) :
    ∃ envelope, element.IsElement node.wrapper envelope ∧ node.ShapedBy catalog envelope := by
  obtain ⟨wrapping, content, envelope, object, single, inner, decodedNode⟩ :=
    decodeElement_eq_ok_iff.mp decoded
  obtain ⟨identifier, identified, -, way⟩ := decodeNode_eq_ok_iff.mp decodedNode
  exact ⟨envelope, ⟨wrapping, content, object, single, inner⟩, way.shapedBy identified⟩

/--
Whatever the catalog and the schema, an element decodes exactly as the envelope inside does, and
anything that is no element is malformed.  With the schemas of the ten kinds, whatever is accepted
is an element of the wrapper of its node, and its envelope and the catalog shape the node.
-/
theorem decodeElement_shape :
    (∀ (decoder : Decoder) (element : Json) (wrapper : Wrapper) (envelope : FieldMap),
      element.IsElement wrapper envelope →
        decoder.decodeElement element = decoder.decodeNode wrapper envelope) ∧
    (∀ (decoder : Decoder) (element : Json),
      (∀ wrapper envelope, ¬ element.IsElement wrapper envelope) →
        ∃ cause, decoder.decodeElement element = .error (.malformed cause)) ∧
    ∀ (catalog : Catalog) (element : Json) (node : Node),
      decodeElement catalog element = .ok node →
        ∃ envelope, element.IsElement node.wrapper envelope ∧ node.ShapedBy catalog envelope := by
  refine ⟨?_, ?_, ?_⟩
  · intro decoder element wrapper envelope isElement
    exact isElement.decodeElement_eq
  · intro decoder element noElement
    exact Decoder.decodeElement_malformed noElement
  · intro catalog element node decoded
    exact exists_shapedBy decoded

def Json.renamedTicket : Json :=
  .object [(Wrapper.modified.key, Envelope.renamedTicket.toJson)]

theorem decodeElement_shape_renamedTicket :
    (Decoder.ofCatalog .standard).decodeElement Json.renamedTicket =
      (Decoder.ofCatalog .standard).decodeNode .modified Envelope.renamedTicket ∧
    (∃ cause, (Decoder.ofCatalog .standard).decodeElement (.object []) =
      .error (.malformed cause)) ∧
    ∃ node envelope, decodeElement .standard Json.renamedTicket = .ok (.modified node) ∧
      Json.renamedTicket.IsElement .modified envelope ∧
      (Node.modified node).ShapedBy .standard envelope ∧ node.previousState.isSome = true := by
  refine ⟨?_, ?_, ?_⟩
  · apply decodeElement_shape.1
    exact ⟨_, _, rfl, rfl, FieldMap.fields?_toJson _⟩
  · apply decodeElement_shape.2.1
    rintro wrapper envelope ⟨wrapping, content, object, single, -⟩
    cases object
    cases single
  · obtain ⟨node, decoded, before⟩ : ∃ node,
        decodeElement .standard Json.renamedTicket = .ok (.modified node) ∧
          node.previousState.isSome = true := ⟨_, rfl, rfl⟩
    obtain ⟨envelope, isElement, shaped⟩ := decodeElement_shape.2.2 _ _ _ decoded
    exact ⟨node, envelope, decoded, isElement, shaped, before⟩

end AffectedNodes
