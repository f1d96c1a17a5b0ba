import AffectedNodes.Proofs.Node.Catalog
import AffectedNodes.Proofs.Node.Envelope
import AffectedNodes.Proofs.Node.Refusal

/-!
# Reduced catalogs

The catalog is asked for one tag only, the one that the envelope tells.  So a node stays as it is
when other tags leave the catalog.  When its own tag leaves, the node loses its snapshots and nothing
else: what a catalog without the tag demands of an envelope, every other catalog demands as well, and
in the same order.
-/
namespace AffectedNodes

def Envelope.tagOf (element : Json) : Except DecodeError Tag := do
  let (_, envelope) ← ofElement element
  tag envelope

namespace Node

def withoutSnapshots : Node → Node
  | created node => created { node with newState := none }
  | modified node => modified { node with finalState := none, previousState := none }
  | deleted node => deleted { node with finalState := none }

theorem wrapper_withoutSnapshots (node : Node) : node.withoutSnapshots.wrapper = node.wrapper := by
  cases node <;> rfl

end Node

variable {catalog catalog' : Catalog} {wrapper : Wrapper} {envelope : FieldMap}
  {identifier : Identifier} {element : Json} {tag : Tag} {node : Node} {error : DecodeError}

namespace Envelope

theorem exists_ofElement (tagged : tagOf element = .ok tag) :
    ∃ wrapper envelope, ofElement element = .ok (wrapper, envelope) ∧
      Envelope.tag envelope = .ok tag := by
  obtain ⟨⟨wrapper, envelope⟩, opened, tagged⟩ := bind_eq_ok_iff.mp tagged
  exact ⟨wrapper, envelope, opened, tagged⟩

end Envelope

theorem decodeElement_of_ofElement (opened : Envelope.ofElement element = .ok (wrapper, envelope)) :
    decodeElement catalog element = decodeNode catalog wrapper envelope := by
  rw [decodeElement, Decoder.decodeElement, opened]
  rfl

/-- An element without a tag is refused before the catalog is asked. -/
theorem decodeElement_of_untagged (untagged : Envelope.tagOf element = .error error) :
    decodeElement catalog element = .error error := by
  rcases bind_eq_error_iff.mp untagged with unopened | ⟨⟨wrapper, envelope⟩, opened, untagged⟩
  · exact bind_of_error unopened
  · rw [decodeElement_of_ofElement opened]
    have unidentified : Envelope.identifier envelope = .error error := bind_of_error untagged
    exact bind_of_error unidentified

/-! ### Catalogs that agree on the tag -/

theorem decodeNode_congr (tagged : Envelope.tag envelope = .ok tag)
    (agree : catalog.decodes tag = catalog'.decodes tag) :
    decodeNode catalog wrapper envelope = decodeNode catalog' wrapper envelope := by
  rw [decodeNode, decodeNode, decodeNodeBy, decodeNodeBy]
  cases identified : Envelope.identifier envelope with
  | error error => rfl
  | ok identifier =>
      have sameTag := (Envelope.tag_of_identifier identified).symm.trans tagged
      cases sameTag
      have sameState (wrapper : Wrapper) :
          decodeStateBy decodeSnapshot catalog wrapper identifier envelope =
            decodeStateBy decodeSnapshot catalog' wrapper identifier envelope := by
        rw [decodeStateBy, decodeStateBy, agree]
      cases wrapper with
      | created =>
          have same : decodeCreatedBy decodeSnapshot catalog identifier envelope =
              decodeCreatedBy decodeSnapshot catalog' identifier envelope := by
            rw [decodeCreatedBy, decodeCreatedBy, agree, sameState]
          exact congrArg (Except.map Node.created) same
      | modified =>
          have same : decodeModifiedBy decodeSnapshot catalog identifier envelope =
              decodeModifiedBy decodeSnapshot catalog' identifier envelope := by
            rw [decodeModifiedBy, decodeModifiedBy, agree]
          exact congrArg (Except.map Node.modified) same
      | deleted =>
          have same : decodeDeletedBy decodeSnapshot catalog identifier envelope =
              decodeDeletedBy decodeSnapshot catalog' identifier envelope := by
            rw [decodeDeletedBy, decodeDeletedBy, sameState]
          exact congrArg (Except.map Node.deleted) same

/-! ### Catalogs without the tag -/

/-- Along whichever way a node is decoded, its identity is decoded if the tag is not listed. -/
theorem Node.DecodedFrom.withoutSnapshots (way : node.DecodedFrom catalog envelope identifier)
    (unlisted : catalog'.decodes identifier.tag = false) :
    node.withoutSnapshots.DecodedFrom catalog' envelope identifier := by
  cases way with
  | createdIdentity _ plain => exact .createdIdentity unlisted plain
  | createdState _ noFinal noPrevious =>
      exact .createdIdentity unlisted fun _ => ⟨noFinal, noPrevious⟩
  | deletedIdentity => exact .deletedIdentity unlisted
  | deletedState => exact .deletedIdentity unlisted
  | modifiedIdentity _ kept => exact .modifiedIdentity unlisted kept
  | modifiedFinal _ kept => exact .modifiedIdentity unlisted kept
  | modifiedBoth _ kept => exact .modifiedIdentity unlisted kept

theorem Decoder.Refuses.of_unlisted (unlisted : catalog.decodes identifier.tag = false)
    (refused : (Decoder.ofCatalog catalog).Refuses envelope identifier wrapper error) :
    (Decoder.ofCatalog catalog').Refuses envelope identifier wrapper error := by
  -- without the tag in the catalog only a known type is recognized, and it is so everywhere
  have recognizes (recognized : (Decoder.ofCatalog catalog).recognizes identifier.tag = true) :
      (Decoder.ofCatalog catalog').recognizes identifier.tag = true := by
    have known : identifier.tag.known?.isSome = true := by
      rcases Bool.or_eq_true_iff.mp recognized with known | listed
      · exact known
      · cases unlisted.symm.trans listed
    exact Bool.or_eq_true_iff.mpr (Or.inl known)
  cases refused with
  | foreignFinal recognized refused => exact .foreignFinal (recognizes recognized) refused
  | foreignPrevious recognized noFinal refused =>
      exact .foreignPrevious (recognizes recognized) noFinal refused
  | bookkeeping unread => exact .bookkeeping unread
  | stateBlock reached => cases unlisted.symm.trans reached.listed
  | stateFields reached => cases unlisted.symm.trans reached.listed
  | previousValues reached => cases unlisted.symm.trans reached.listed
  | previousFields reached => cases unlisted.symm.trans reached.listed

theorem decodeNode_withoutSnapshots (tagged : Envelope.tag envelope = .ok tag)
    (unlisted : catalog'.decodes tag = false)
    (decoded : decodeNode catalog wrapper envelope = .ok node) :
    decodeNode catalog' wrapper envelope = .ok node.withoutSnapshots := by
  obtain ⟨identifier, identified, wrapped, way⟩ := decodeNode_eq_ok_iff.mp decoded
  have sameTag := (Envelope.tag_of_identifier identified).symm.trans tagged
  cases sameTag
  refine decodeNode_eq_ok_iff.mpr ⟨identifier, identified, ?_, way.withoutSnapshots unlisted⟩
  exact node.wrapper_withoutSnapshots.trans wrapped

theorem decodeNode_error_of_unlisted (tagged : Envelope.tag envelope = .ok tag)
    (unlisted : catalog.decodes tag = false)
    (failed : decodeNode catalog wrapper envelope = .error error) :
    decodeNode catalog' wrapper envelope = .error error := by
  apply decodeNode_eq_error_iff.mpr
  rcases decodeNode_eq_error_iff.mp failed with unidentified | ⟨identifier, identified, refused⟩
  · exact Or.inl unidentified
  · have sameTag := (Envelope.tag_of_identifier identified).symm.trans tagged
    cases sameTag
    exact Or.inr ⟨identifier, identified, refused.of_unlisted unlisted⟩

/--
Reducing the tags of a catalog erases the snapshots of the nodes whose tags leave it, and changes
nothing else: neither other nodes nor any error.  Elements without a tag are refused with every
catalog for the same reason, and the order and repetition of tags do not matter.
-/
theorem decodeElement_reduction (element : Json) :
    (∀ fewer more : List Tag, fewer ⊆ more → ∀ tag, Envelope.tagOf element = .ok tag →
      ((tag ∈ fewer ∨ tag ∉ more) →
        decodeElement (.ofList fewer) element = decodeElement (.ofList more) element) ∧
      (tag ∈ more → tag ∉ fewer →
        (∀ node, decodeElement (.ofList more) element = .ok node →
          decodeElement (.ofList fewer) element = .ok node.withoutSnapshots) ∧
        ∀ error, decodeElement (.ofList fewer) element = .error error →
          decodeElement (.ofList more) element = .error error)) ∧
    (∀ error, Envelope.tagOf element = .error error →
      ∀ catalog, decodeElement catalog element = .error error) ∧
    ∀ tags tags' : List Tag, (∀ tag, tag ∈ tags ↔ tag ∈ tags') →
      decodeElement (.ofList tags) element = decodeElement (.ofList tags') element := by
  refine ⟨?_, fun error untagged catalog => decodeElement_of_untagged untagged, ?_⟩
  · intro fewer more reduced tag tagged
    obtain ⟨wrapper, envelope, opened, tagged⟩ := Envelope.exists_ofElement tagged
    simp only [decodeElement_of_ofElement opened]
    constructor
    · intro stays
      apply decodeNode_congr tagged
      rw [Bool.eq_iff_iff, Catalog.decodes_ofList, Catalog.decodes_ofList]
      rcases stays with listed | unlisted
      · exact iff_of_true listed (reduced listed)
      · exact iff_of_false (fun listed => unlisted (reduced listed)) unlisted
    · intro _ leaves
      have unlisted := Catalog.decodes_ofList_eq_false.mpr leaves
      exact ⟨fun node decoded => decodeNode_withoutSnapshots tagged unlisted decoded,
        fun error failed => decodeNode_error_of_unlisted tagged unlisted failed⟩
  · intro tags tags' same
    rw [Catalog.ofList_congr same]

def Json.deletedTicket : Json :=
  .object
    [(Wrapper.deleted.key, .object
      [(FieldName.entryType, .string "Ticket"), (FieldName.ledgerIndex, .string Hash.zero.toHex),
        (Wrapper.deleted.stateBlock, .object
          [("Account", .string "rEhxGqkqPPSxQ3P25J66ft5TwpzV14k2de"),
            ("TicketSequence", .nat 3)])])]

theorem decodeElement_reduction_deletedTicket :
    Envelope.tagOf Json.deletedTicket = .ok ⟨"Ticket"⟩ ∧
    ∃ node, decodeElement (.ofList [⟨"Ticket"⟩]) Json.deletedTicket = .ok node ∧
      node.isDecoded = true ∧
      decodeElement (.ofList []) Json.deletedTicket = .ok node.withoutSnapshots := by
  have tagged : Envelope.tagOf Json.deletedTicket = .ok ⟨"Ticket"⟩ := rfl
  obtain ⟨node, decoded, state⟩ : ∃ node,
      decodeElement (.ofList [⟨"Ticket"⟩]) Json.deletedTicket = .ok node ∧
        node.isDecoded = true := ⟨_, rfl, rfl⟩
  have reduced := (decodeElement_reduction Json.deletedTicket).1 [] [⟨"Ticket"⟩]
    (List.nil_subset _) ⟨"Ticket"⟩ tagged
  have erased := (reduced.2 (List.mem_singleton.mpr rfl) List.not_mem_nil).1 node decoded
  exact ⟨tagged, node, decoded, state, erased⟩

end AffectedNodes
