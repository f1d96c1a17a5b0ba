import AffectedNodes.Node.Decoding
import AffectedNodes.Proofs.Node.Record
import AffectedNodes.Proofs.Steps

/-!
# What envelopes decode to

A node is decoded along one of seven ways: the object was created, deleted or modified; its tag is
in the catalog or not; and a modified object has previous values or not.  `Node.DecodedFrom` has one
constructor for each way, with all that must hold on it, and `decodeNode_eq_ok_iff` says that these
are the ways on which decoding succeeds.
-/
namespace AffectedNodes

/-- What the envelope of the identified object is decoded to, way by way. -/
inductive Node.DecodedFrom (catalog : Catalog) (envelope : FieldMap) (identifier : Identifier) :
    Node → Prop where
  | createdIdentity (unlisted : catalog.decodes identifier.tag = false)
      (plain : identifier.tag.known?.isSome = true →
        Envelope.block? envelope Wrapper.modified.stateBlock = .ok none ∧
          Envelope.block? envelope previousBlock = .ok none) :
      DecodedFrom catalog envelope identifier (.created ⟨identifier, none⟩)
  | createdState {block : FieldMap} {state : LedgerEntry}
      (listed : catalog.decodes identifier.tag = true)
      (noFinal : Envelope.block? envelope Wrapper.modified.stateBlock = .ok none)
      (noPrevious : Envelope.block? envelope previousBlock = .ok none)
      (found : Envelope.block? envelope Wrapper.created.stateBlock = .ok (some block))
      (read : LedgerEntry.decode identifier.tag
        (Record.complete block identifier .placeholder) = .ok state) :
      DecodedFrom catalog envelope identifier (.created ⟨identifier, some state⟩)
  | deletedIdentity (unlisted : catalog.decodes identifier.tag = false) :
      DecodedFrom catalog envelope identifier (.deleted ⟨identifier, none⟩)
  | deletedState {block : FieldMap} {state : LedgerEntry}
      (listed : catalog.decodes identifier.tag = true)
      (found : Envelope.block? envelope Wrapper.deleted.stateBlock = .ok (some block))
      (read : LedgerEntry.decode identifier.tag
        (Record.complete block identifier .placeholder) = .ok state) :
      DecodedFrom catalog envelope identifier (.deleted ⟨identifier, some state⟩)
  | modifiedIdentity {bookkeeping : Bookkeeping}
      (unlisted : catalog.decodes identifier.tag = false)
      (kept : Bookkeeping.ofEnvelope envelope = .ok bookkeeping) :
      DecodedFrom catalog envelope identifier (.modified ⟨identifier, none, none, bookkeeping⟩)
  | modifiedFinal {bookkeeping : Bookkeeping} {block : FieldMap} {delta : Option FieldMap}
      {final : LedgerEntry} (listed : catalog.decodes identifier.tag = true)
      (kept : Bookkeeping.ofEnvelope envelope = .ok bookkeeping)
      (found : Envelope.block? envelope Wrapper.modified.stateBlock = .ok (some block))
      (read : LedgerEntry.decode identifier.tag
        (Record.complete block identifier bookkeeping) = .ok final)
      (listing : Envelope.block? envelope previousBlock = .ok delta)
      (nothingListed : ∀ values, delta = some values → values.isEmpty = true) :
      DecodedFrom catalog envelope identifier
        (.modified ⟨identifier, some final, none, bookkeeping⟩)
  | modifiedBoth {bookkeeping : Bookkeeping} {block values : FieldMap}
      {final previous : LedgerEntry} (listed : catalog.decodes identifier.tag = true)
      (kept : Bookkeeping.ofEnvelope envelope = .ok bookkeeping)
      (found : Envelope.block? envelope Wrapper.modified.stateBlock = .ok (some block))
      (read : LedgerEntry.decode identifier.tag
        (Record.complete block identifier bookkeeping) = .ok final)
      (listing : Envelope.block? envelope previousBlock = .ok (some values))
      (someListed : values.isEmpty = false)
      (readPrevious : LedgerEntry.decode identifier.tag
        ((Record.complete block identifier bookkeeping).overlay values) = .ok previous) :
      DecodedFrom catalog envelope identifier
        (.modified ⟨identifier, some final, some previous, bookkeeping⟩)

variable {catalog : Catalog} {envelope record : FieldMap} {identifier : Identifier}

theorem Node.DecodedFrom.identifier_eq {node : Node}
    (way : node.DecodedFrom catalog envelope identifier) : node.identifier = identifier := by
  cases way <;> rfl

theorem Node.DecodedFrom.isDecoded_eq {node : Node}
    (way : node.DecodedFrom catalog envelope identifier) :
    node.isDecoded = catalog.decodes identifier.tag := by
  cases way with
  | createdIdentity unlisted | deletedIdentity unlisted | modifiedIdentity unlisted =>
      exact unlisted.symm
  | createdState listed | deletedState listed | modifiedFinal listed | modifiedBoth listed =>
      exact listed.symm

/-- The latest state of a node is what its block decodes to, completed with what the envelope
carries. -/
theorem Node.DecodedFrom.exists_state {node : Node} {state : LedgerEntry}
    (way : node.DecodedFrom catalog envelope identifier) (latest : node.latestState = some state) :
    ∃ block bookkeeping, Envelope.block? envelope node.wrapper.stateBlock = .ok (some block) ∧
      Bookkeeping.forWrapper node.wrapper envelope = .ok bookkeeping ∧
      LedgerEntry.decode identifier.tag (Record.complete block identifier bookkeeping) =
        .ok state := by
  cases way with
  | createdIdentity | deletedIdentity | modifiedIdentity => cases latest
  | createdState _ _ _ found read | deletedState _ found read =>
      cases latest
      exact ⟨_, .placeholder, found, rfl, read⟩
  | modifiedFinal _ kept found read | modifiedBoth _ kept found read =>
      cases latest
      exact ⟨_, _, found, kept, read⟩

theorem Node.DecodedFrom.bookkeeping_eq {node : ModifiedNode}
    (way : (Node.modified node).DecodedFrom catalog envelope identifier) :
    Bookkeeping.ofEnvelope envelope = .ok node.bookkeeping := by
  cases way with
  | modifiedIdentity _ kept => exact kept
  | modifiedFinal _ kept => exact kept
  | modifiedBoth _ kept => exact kept

theorem decodeSnapshot_eq_ok_iff {entry : LedgerEntry} :
    decodeSnapshot identifier record = .ok entry ↔
      LedgerEntry.decode identifier.tag record = .ok entry :=
  mapError_eq_ok_iff

theorem refuseBlock_eq_ok_iff {name : String} :
    refuseBlock envelope identifier name = .ok () ↔ Envelope.block? envelope name = .ok none := by
  rw [refuseBlock, bind_eq_ok_iff]
  constructor
  · rintro ⟨block, found, refused⟩
    cases block with
    | none => exact found
    | some fields => cases refused
  · intro missing
    exact ⟨none, missing, rfl⟩

theorem requiredBlock_eq_ok_iff {name : String} {block : FieldMap} :
    Envelope.requiredBlock envelope name identifier = .ok block ↔
      Envelope.block? envelope name = .ok (some block) := by
  rw [Envelope.requiredBlock, bind_eq_ok_iff]
  constructor
  · rintro ⟨given, found, same⟩
    cases given with
    | none => cases same
    | some fields =>
        cases same
        exact found
  · intro found
    exact ⟨some block, found, rfl⟩

theorem decodeStateBy_eq_ok_iff {wrapper : Wrapper} {state : Option LedgerEntry} :
    decodeStateBy decodeSnapshot catalog wrapper identifier envelope = .ok state ↔
      (catalog.decodes identifier.tag = false ∧ state = none) ∨
        (catalog.decodes identifier.tag = true ∧ ∃ block entry,
          Envelope.block? envelope wrapper.stateBlock = .ok (some block) ∧
          LedgerEntry.decode identifier.tag
            (Record.complete block identifier .placeholder) = .ok entry ∧ state = some entry) := by
  cases listed : catalog.decodes identifier.tag with
  | false =>
      simp only [decodeStateBy, listed, Bool.false_eq_true, if_false]
      constructor
      · intro decoded
        cases decoded
        exact Or.inl ⟨trivial, rfl⟩
      · rintro (⟨-, rfl⟩ | ⟨absurd, -⟩)
        · rfl
        · cases absurd
  | true =>
      simp only [decodeStateBy, listed, if_true]
      constructor
      · intro decoded
        obtain ⟨block, found, decoded⟩ := bind_eq_ok_iff.mp decoded
        obtain ⟨entry, read, same⟩ := bind_eq_ok_iff.mp decoded
        cases same
        exact Or.inr ⟨trivial, block, entry, requiredBlock_eq_ok_iff.mp found,
          decodeSnapshot_eq_ok_iff.mp read, rfl⟩
      · rintro (⟨absurd, -⟩ | ⟨-, block, entry, found, read, rfl⟩)
        · cases absurd
        · refine bind_eq_ok_iff.mpr ⟨block, requiredBlock_eq_ok_iff.mpr found, ?_⟩
          exact bind_eq_ok_iff.mpr ⟨entry, decodeSnapshot_eq_ok_iff.mpr read, rfl⟩

theorem decodeCreatedBy_eq_ok_iff_state {node : CreatedNode} :
    decodeCreatedBy decodeSnapshot catalog identifier envelope = .ok node ↔
      ((identifier.tag.known?.isSome || catalog.decodes identifier.tag) = true →
        Envelope.block? envelope Wrapper.modified.stateBlock = .ok none ∧
          Envelope.block? envelope previousBlock = .ok none) ∧
      node.identifier = identifier ∧
      decodeStateBy decodeSnapshot catalog .created identifier envelope = .ok node.newState := by
  unfold decodeCreatedBy
  split
  · rename_i recognized
    constructor
    · intro decoded
      obtain ⟨_, noFinal, decoded⟩ := bind_eq_ok_iff.mp decoded
      obtain ⟨_, noPrevious, decoded⟩ := bind_eq_ok_iff.mp decoded
      obtain ⟨state, read, same⟩ := bind_eq_ok_iff.mp decoded
      cases same
      exact ⟨fun _ => ⟨refuseBlock_eq_ok_iff.mp noFinal, refuseBlock_eq_ok_iff.mp noPrevious⟩,
        rfl, read⟩
    · rintro ⟨plain, rfl, read⟩
      obtain ⟨noFinal, noPrevious⟩ := plain recognized
      refine bind_eq_ok_iff.mpr ⟨(), refuseBlock_eq_ok_iff.mpr noFinal, ?_⟩
      refine bind_eq_ok_iff.mpr ⟨(), refuseBlock_eq_ok_iff.mpr noPrevious, ?_⟩
      exact bind_eq_ok_iff.mpr ⟨node.newState, read, rfl⟩
  · rename_i unrecognized
    constructor
    · intro decoded
      obtain ⟨state, read, same⟩ := bind_eq_ok_iff.mp decoded
      cases same
      exact ⟨fun recognized => absurd recognized unrecognized, rfl, read⟩
    · rintro ⟨-, rfl, read⟩
      exact bind_eq_ok_iff.mpr ⟨node.newState, read, rfl⟩

theorem decodeCreatedBy_eq_ok_iff {node : CreatedNode} :
    decodeCreatedBy decodeSnapshot catalog identifier envelope = .ok node ↔
      Node.DecodedFrom catalog envelope identifier (.created node) := by
  obtain ⟨identifier', newState⟩ := node
  rw [decodeCreatedBy_eq_ok_iff_state, decodeStateBy_eq_ok_iff]
  constructor
  · rintro ⟨plain, rfl, ⟨unlisted, rfl⟩ | ⟨listed, block, entry, found, read, rfl⟩⟩
    · refine .createdIdentity unlisted ?_
      intro known
      exact plain (by rw [known, Bool.true_or])
    · obtain ⟨noFinal, noPrevious⟩ := plain (by rw [listed, Bool.or_true])
      exact .createdState listed noFinal noPrevious found read
  · intro way
    cases way with
    | createdIdentity unlisted plain =>
        refine ⟨?_, rfl, Or.inl ⟨unlisted, rfl⟩⟩
        intro recognized
        rw [unlisted, Bool.or_false] at recognized
        exact plain recognized
    | createdState listed noFinal noPrevious found read =>
        exact ⟨fun _ => ⟨noFinal, noPrevious⟩, rfl, Or.inr ⟨listed, _, _, found, read, rfl⟩⟩

theorem decodeDeletedBy_eq_ok_iff {node : DeletedNode} :
    decodeDeletedBy decodeSnapshot catalog identifier envelope = .ok node ↔
      Node.DecodedFrom catalog envelope identifier (.deleted node) := by
  rw [decodeDeletedBy, bind_eq_ok_iff]
  constructor
  · rintro ⟨state, decoded, same⟩
    cases same
    rcases decodeStateBy_eq_ok_iff.mp decoded with ⟨unlisted, rfl⟩ | ⟨listed, block, entry, found,
      read, rfl⟩
    · exact .deletedIdentity unlisted
    · exact .deletedState listed found read
  · intro way
    cases way with
    | deletedIdentity unlisted =>
        exact ⟨none, decodeStateBy_eq_ok_iff.mpr (Or.inl ⟨unlisted, rfl⟩), rfl⟩
    | deletedState listed found read =>
        refine ⟨_, decodeStateBy_eq_ok_iff.mpr (Or.inr ?_), rfl⟩
        exact ⟨listed, _, _, found, read, rfl⟩

theorem decodeModifiedBy_eq_ok_iff {node : ModifiedNode} :
    decodeModifiedBy decodeSnapshot catalog identifier envelope = .ok node ↔
      Node.DecodedFrom catalog envelope identifier (.modified node) := by
  cases listed : catalog.decodes identifier.tag with
  | true =>
      simp only [decodeModifiedBy, listed, if_true]
      constructor
      · intro decoded
        obtain ⟨bookkeeping, kept, decoded⟩ := bind_eq_ok_iff.mp decoded
        obtain ⟨block, found, decoded⟩ := bind_eq_ok_iff.mp decoded
        obtain ⟨final, read, decoded⟩ := bind_eq_ok_iff.mp decoded
        obtain ⟨delta, listing, decoded⟩ := bind_eq_ok_iff.mp decoded
        -- the previous values decide alone whether a second snapshot is read
        cases before : Record.previous? (Record.complete block identifier bookkeeping) delta with
        | none =>
            simp only [before] at decoded
            cases decoded
            refine .modifiedFinal listed kept (requiredBlock_eq_ok_iff.mp found)
              (decodeSnapshot_eq_ok_iff.mp read) listing ?_
            exact Record.previous?_eq_none_iff.mp before
        | some record =>
            simp only [before] at decoded
            obtain ⟨previous, readPrevious, same⟩ := bind_eq_ok_iff.mp decoded
            cases same
            obtain ⟨values, rfl, someListed, rfl⟩ := Record.previous?_eq_some_iff.mp before
            exact .modifiedBoth listed kept (requiredBlock_eq_ok_iff.mp found)
              (decodeSnapshot_eq_ok_iff.mp read) listing someListed
              (decodeSnapshot_eq_ok_iff.mp readPrevious)
      · intro way
        cases way with
        | modifiedIdentity unlisted => cases listed.symm.trans unlisted
        | modifiedFinal _ kept found read listing nothingListed =>
            refine bind_eq_ok_iff.mpr ⟨_, kept, ?_⟩
            refine bind_eq_ok_iff.mpr ⟨_, requiredBlock_eq_ok_iff.mpr found, ?_⟩
            refine bind_eq_ok_iff.mpr ⟨_, decodeSnapshot_eq_ok_iff.mpr read, ?_⟩
            refine bind_eq_ok_iff.mpr ⟨_, listing, ?_⟩
            rw [Record.previous?_eq_none_iff.mpr nothingListed]
            rfl
        | modifiedBoth _ kept found read listing someListed readPrevious =>
            refine bind_eq_ok_iff.mpr ⟨_, kept, ?_⟩
            refine bind_eq_ok_iff.mpr ⟨_, requiredBlock_eq_ok_iff.mpr found, ?_⟩
            refine bind_eq_ok_iff.mpr ⟨_, decodeSnapshot_eq_ok_iff.mpr read, ?_⟩
            refine bind_eq_ok_iff.mpr ⟨_, listing, ?_⟩
            rw [Record.previous?_eq_some_iff.mpr ⟨_, rfl, someListed, rfl⟩]
            exact bind_eq_ok_iff.mpr ⟨_, decodeSnapshot_eq_ok_iff.mpr readPrevious, rfl⟩
  | false =>
      simp only [decodeModifiedBy, listed, Bool.false_eq_true, if_false]
      constructor
      · intro decoded
        obtain ⟨bookkeeping, kept, same⟩ := bind_eq_ok_iff.mp decoded
        cases same
        exact .modifiedIdentity listed kept
      · intro way
        cases way with
        | modifiedIdentity _ kept => exact bind_eq_ok_iff.mpr ⟨_, kept, rfl⟩
        | modifiedFinal listed' => cases listed.symm.trans listed'
        | modifiedBoth listed' => cases listed.symm.trans listed'

/-- An envelope decodes to a node when it tells an identity and the node is decoded from it along
one of the ways for its wrapper. -/
theorem decodeNode_eq_ok_iff {wrapper : Wrapper} {node : Node} :
    decodeNode catalog wrapper envelope = .ok node ↔
      ∃ identifier, Envelope.identifier envelope = .ok identifier ∧ node.wrapper = wrapper ∧
        node.DecodedFrom catalog envelope identifier := by
  rw [decodeNode, decodeNodeBy, bind_eq_ok_iff]
  apply exists_congr
  intro identifier
  apply and_congr Iff.rfl
  cases wrapper with
  | created =>
      constructor
      · intro decoded
        obtain ⟨inner, decodedInner, rfl⟩ := map_eq_ok_iff.mp decoded
        exact ⟨rfl, decodeCreatedBy_eq_ok_iff.mp decodedInner⟩
      · rintro ⟨wrapped, way⟩
        cases node with
        | created inner => exact map_eq_ok_iff.mpr ⟨inner, decodeCreatedBy_eq_ok_iff.mpr way, rfl⟩
        | modified | deleted => cases wrapped
  | modified =>
      constructor
      · intro decoded
        obtain ⟨inner, decodedInner, rfl⟩ := map_eq_ok_iff.mp decoded
        exact ⟨rfl, decodeModifiedBy_eq_ok_iff.mp decodedInner⟩
      · rintro ⟨wrapped, way⟩
        cases node with
        | modified inner =>
            exact map_eq_ok_iff.mpr ⟨inner, decodeModifiedBy_eq_ok_iff.mpr way, rfl⟩
        | created | deleted => cases wrapped
  | deleted =>
      constructor
      · intro decoded
        obtain ⟨inner, decodedInner, rfl⟩ := map_eq_ok_iff.mp decoded
        exact ⟨rfl, decodeDeletedBy_eq_ok_iff.mp decodedInner⟩
      · rintro ⟨wrapped, way⟩
        cases node with
        | deleted inner => exact map_eq_ok_iff.mpr ⟨inner, decodeDeletedBy_eq_ok_iff.mpr way, rfl⟩
        | created | modified => cases wrapped

theorem Wrapper.ofKey?_eq_some_iff {key : String} {wrapper : Wrapper} :
    Wrapper.ofKey? key = some wrapper ↔ wrapper.key = key := by
  constructor
  · intro found
    simpa using List.find?_some found
  · intro same
    exact same ▸ Wrapper.ofKey?_key wrapper

theorem Envelope.ofElement_eq_ok_iff {element : Json} {wrapper : Wrapper} :
    Envelope.ofElement element = .ok (wrapper, envelope) ↔
      ∃ wrapping content, element.fields? = some wrapping ∧
        wrapping.entries = [(wrapper.key, content)] ∧ content.fields? = some envelope := by
  rw [Envelope.ofElement]
  cases object : element.fields? with
  | none => simp
  | some wrapping =>
      dsimp only
      constructor
      · intro opened
        split at opened
        · rename_i key content single
          split at opened
          · cases opened
          · rename_i wrapper' named
            split at opened
            · cases opened
            · rename_i envelope' inner
              cases opened
              have sameKey := Wrapper.ofKey?_eq_some_iff.mp named
              subst sameKey
              exact ⟨wrapping, content, rfl, single, inner⟩
        · cases opened
      · rintro ⟨wrapping', content, same, single, inner⟩
        cases same
        simp only [single, Wrapper.ofKey?_key, inner]

theorem Decoder.decodeElement_eq_ok_iff {decoder : Decoder} {element : Json} {node : Node} :
    decoder.decodeElement element = .ok node ↔
      ∃ wrapper envelope, Envelope.ofElement element = .ok (wrapper, envelope) ∧
        decoder.decodeNode wrapper envelope = .ok node := by
  rw [Decoder.decodeElement, bind_eq_ok_iff]
  exact Prod.exists

/-- An element decodes to a node when its one member is an envelope under the key of a wrapper. -/
theorem decodeElement_eq_ok_iff {element : Json} {node : Node} :
    decodeElement catalog element = .ok node ↔
      ∃ wrapping content envelope, element.fields? = some wrapping ∧
        wrapping.entries = [(node.wrapper.key, content)] ∧ content.fields? = some envelope ∧
        decodeNode catalog node.wrapper envelope = .ok node := by
  rw [decodeElement, Decoder.decodeElement_eq_ok_iff]
  constructor
  · rintro ⟨wrapper, envelope, opened, decoded⟩
    change decodeNode catalog wrapper envelope = .ok node at decoded
    obtain ⟨_, _, rfl, _⟩ := decodeNode_eq_ok_iff.mp decoded
    obtain ⟨wrapping, content, object, single, inner⟩ := Envelope.ofElement_eq_ok_iff.mp opened
    exact ⟨wrapping, content, envelope, object, single, inner, decoded⟩
  · rintro ⟨wrapping, content, envelope, object, single, inner, decoded⟩
    have opened := Envelope.ofElement_eq_ok_iff.mpr ⟨wrapping, content, object, single, inner⟩
    exact ⟨node.wrapper, envelope, opened, decoded⟩

end AffectedNodes
