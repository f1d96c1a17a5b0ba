import AffectedNodes.Proofs.Node.Decoding
import AffectedNodes.Proofs.Node.Envelope
import AffectedNodes.Proofs.Record.Declared

/-!
# Envelopes that agree on what is declared

A schema reads the members that it declares and passes over every other.  A block of an envelope is
completed before it is read, so its own identity is never looked at; the previous values are laid
over a complete record, so they may not name another type, and whether there are any decides
whether there is a state from before.  `Envelope.Agree` collects what two envelopes must have in
common, and envelopes that agree decode to the same node or fail with the same error.
-/
namespace AffectedNodes

def Tag.declaredNames (tag : Tag) : List String :=
  match EntryKind.ofTag? tag with
  | some kind => kind.schema.layout.names
  | none => []

/-- State blocks that agree on what the schema of the tag declares.  The key is left out, since the
envelope tells it. -/
def FieldMap.AgreeState (tag : Tag) (block other : FieldMap) : Prop :=
  ∀ name ∈ tag.declaredNames, name ≠ FieldName.index → block.get? name = other.get? name

/-- Previous values that agree on what the schema of the tag declares, without a type of their own
on either side, and with no values on both sides or on neither. -/
structure FieldMap.AgreePrevious (tag : Tag) (delta other : FieldMap) : Prop where
  declared : ∀ name ∈ tag.declaredNames, delta.get? name = other.get? name
  untyped : delta.get? FieldName.entryType = none
  otherUntyped : other.get? FieldName.entryType = none
  isEmpty : delta.isEmpty = other.isEmpty

def Wrapper.stateBlocks : Wrapper → List String
  | created => [created.stateBlock, modified.stateBlock]
  | modified => [modified.stateBlock]
  | deleted => [deleted.stateBlock]

namespace Envelope

/-- Two envelopes agree on a block: it is missing or null on both, or the same value that is no
object, or an object on both with fields that are alike. -/
inductive AgreeOnBlock (alike : FieldMap → FieldMap → Prop) (name : String)
    (envelope other : FieldMap) : Prop where
  | missing (absent : envelope.present? name = none) (otherAbsent : other.present? name = none)
  | same {value : Json} (noObject : value.fields? = none) (found : envelope.get? name = some value)
      (otherFound : other.get? name = some value)
  | objects {value otherValue : Json} {fields otherFields : FieldMap}
      (found : envelope.get? name = some value) (object : value.fields? = some fields)
      (otherFound : other.get? name = some otherValue)
      (otherObject : otherValue.fields? = some otherFields) (agree : alike fields otherFields)

/-- Two envelopes agree on what decoding them under the wrapper looks at. -/
structure Agree (wrapper : Wrapper) (envelope other : FieldMap) : Prop where
  entryType : envelope.get? FieldName.entryType = other.get? FieldName.entryType
  ledgerIndex : envelope.get? FieldName.ledgerIndex = other.get? FieldName.ledgerIndex
  previousTxnId : wrapper = .modified →
    envelope.get? FieldName.previousTxnId = other.get? FieldName.previousTxnId
  previousTxnLgrSeq : wrapper = .modified →
    envelope.get? FieldName.previousTxnLgrSeq = other.get? FieldName.previousTxnLgrSeq
  state : ∀ tag, Envelope.tag envelope = .ok tag → ∀ name ∈ wrapper.stateBlocks,
    AgreeOnBlock (FieldMap.AgreeState tag) name envelope other
  previous : ∀ tag, Envelope.tag envelope = .ok tag → wrapper ≠ .deleted →
    AgreeOnBlock (FieldMap.AgreePrevious tag) previousBlock envelope other

end Envelope

/-! ### Records that agree -/

variable {tag : Tag} {block delta record other otherDelta : FieldMap} {identifier : Identifier}
  {bookkeeping : Bookkeeping} {catalog : Catalog} {wrapper : Wrapper}

theorem LedgerEntry.decode_congr
    (tagged : record.get? FieldName.entryType = some (.string tag.text))
    (otherTagged : other.get? FieldName.entryType = some (.string tag.text))
    (agree : ∀ name ∈ tag.declaredNames, record.get? name = other.get? name) :
    decode tag record = decode tag other := by
  rw [decode, decode]
  cases known : EntryKind.ofTag? tag with
  | none => rfl
  | some kind =>
      have named : kind.wireName = tag.text :=
        congrArg Tag.text (EntryKind.ofTag?_eq_some_iff.mp known)
      have readTag : readKind (.string tag.text) = .ok kind :=
        readKind_eq_ok_iff.mpr (congrArg Json.string named.symm)
      have sameData : kind.schema.readFields record = kind.schema.readFields other := by
        apply Schema.readFields_congr kind.schema_faithful.isOpen
        rintro name (declared | aliased)
        · refine agree name ?_
          rw [Tag.declaredNames, known]
          exact declared
        · rw [kind.schema_unaliased] at aliased
          cases aliased
      have sameEntry : readFields record = readFields other := by
        rw [readFields, readFields, tagged, otherTagged]
        dsimp only
        rw [bind_of_ok readTag, bind_of_ok readTag, sameData]
      rw [sameEntry]

theorem decodeSnapshot_congr
    (tagged : record.get? FieldName.entryType = some (.string identifier.tag.text))
    (otherTagged : other.get? FieldName.entryType = some (.string identifier.tag.text))
    (agree : ∀ name ∈ identifier.tag.declaredNames, record.get? name = other.get? name) :
    decodeSnapshot identifier record = decodeSnapshot identifier other := by
  rw [decodeSnapshot, decodeSnapshot, TypedReader.readSnapshot, TypedReader.readSnapshot,
    LedgerEntry.decode_congr tagged otherTagged agree]

namespace Record

theorem get?_complete_congr {name : String} (agree : block.get? name = other.get? name) :
    (complete block identifier bookkeeping).get? name =
      (complete other identifier bookkeeping).get? name := by
  have agreePresent : block.present? name = other.present? name := by
    rw [FieldMap.present?, FieldMap.present?, agree]
  by_cases completed : name ∈ completedNames
  · rcases mem_completedNames_iff.mp completed with rfl | rfl | rfl | rfl
    · rw [get?_complete_index, get?_complete_index]
    · rw [get?_complete_entryType, get?_complete_entryType]
    · rw [get?_complete_previousTxnId, get?_complete_previousTxnId, agreePresent]
    · rw [get?_complete_previousTxnLgrSeq, get?_complete_previousTxnLgrSeq, agreePresent]
  · rw [get?_complete_of_not_mem completed, get?_complete_of_not_mem completed, agree]

theorem get?_complete_of_agreeState (agree : block.AgreeState tag other) {name : String}
    (declared : name ∈ tag.declaredNames) :
    (complete block identifier bookkeeping).get? name =
      (complete other identifier bookkeeping).get? name := by
  by_cases key : name = FieldName.index
  · rw [key, get?_complete_index, get?_complete_index]
  · exact get?_complete_congr (agree name declared key)

end Record

theorem decodeSnapshot_complete_congr (agree : block.AgreeState identifier.tag other) :
    decodeSnapshot identifier (Record.complete block identifier bookkeeping) =
      decodeSnapshot identifier (Record.complete other identifier bookkeeping) := by
  apply decodeSnapshot_congr
  · exact Record.get?_complete_entryType block identifier bookkeeping
  · exact Record.get?_complete_entryType other identifier bookkeeping
  · exact fun name => Record.get?_complete_of_agreeState agree

theorem decodeSnapshot_overlay_congr (agree : block.AgreeState identifier.tag other)
    (agreeDelta : delta.AgreePrevious identifier.tag otherDelta) :
    decodeSnapshot identifier ((Record.complete block identifier bookkeeping).overlay delta) =
      decodeSnapshot identifier
        ((Record.complete other identifier bookkeeping).overlay otherDelta) := by
  apply decodeSnapshot_congr
  · rw [FieldMap.get?_overlay, agreeDelta.untyped, Option.none_or, Record.get?_complete_entryType]
  · rw [FieldMap.get?_overlay, agreeDelta.otherUntyped, Option.none_or,
      Record.get?_complete_entryType]
  · intro name declared
    rw [FieldMap.get?_overlay, FieldMap.get?_overlay, agreeDelta.declared name declared,
      Record.get?_complete_of_agreeState agree declared]

/-! ### Envelopes that agree -/

variable {envelope otherEnvelope : FieldMap} {alike : FieldMap → FieldMap → Prop} {name : String}
  {α : Type}

namespace Envelope

/-- Where two envelopes agree on a block, what is done with it is the same if it is the same without
a block and with blocks that are alike. -/
theorem AgreeOnBlock.bind_congr (agree : AgreeOnBlock alike name envelope otherEnvelope)
    {next otherNext : Option FieldMap → Except DecodeError α} (without : next none = otherNext none)
    (within : ∀ fields otherFields, alike fields otherFields →
      next (some fields) = otherNext (some otherFields)) :
    block? envelope name >>= next = block? otherEnvelope name >>= otherNext := by
  cases agree with
  | missing absent otherAbsent =>
      rw [block?_eq_none_iff.mpr absent, block?_eq_none_iff.mpr otherAbsent]
      exact without
  | @same value noObject found otherFound =>
      rw [block?_congr (found.trans otherFound.symm)]
      cases value with
      | null =>
          -- null on both sides is no block, so this is the first case again
          rw [block?_eq_none_iff.mpr (FieldMap.present?_eq_none_iff.mpr (Or.inr otherFound))]
          exact without
      | object members => cases noObject
      | bool | number | string | array =>
          simp only [block?, otherFound]
          rfl
  | objects found object otherFound otherObject agree =>
      rw [block?_of_object found object, block?_of_object otherFound otherObject]
      exact within _ _ agree

theorem AgreeOnBlock.requiredBlock_bind_congr
    (agree : AgreeOnBlock alike name envelope otherEnvelope)
    {next otherNext : FieldMap → Except DecodeError α}
    (within : ∀ fields otherFields, alike fields otherFields →
      next fields = otherNext otherFields) :
    requiredBlock envelope name identifier >>= next =
      requiredBlock otherEnvelope name identifier >>= otherNext := by
  rw [requiredBlock, requiredBlock, bind_assoc, bind_assoc]
  apply agree.bind_congr
  · rfl
  · exact within

theorem AgreeOnBlock.refuseBlock_congr (agree : AgreeOnBlock alike name envelope otherEnvelope) :
    refuseBlock envelope identifier name = refuseBlock otherEnvelope identifier name := by
  rw [refuseBlock, refuseBlock]
  exact agree.bind_congr rfl fun _ _ _ => rfl

end Envelope

theorem decodeStateBy_congr
    (agree : Envelope.AgreeOnBlock (FieldMap.AgreeState identifier.tag) wrapper.stateBlock envelope
      otherEnvelope) :
    decodeStateBy decodeSnapshot catalog wrapper identifier envelope =
      decodeStateBy decodeSnapshot catalog wrapper identifier otherEnvelope := by
  rw [decodeStateBy, decodeStateBy]
  split
  · apply agree.requiredBlock_bind_congr
    intro block other agree
    rw [decodeSnapshot_complete_congr agree]
  · rfl

theorem decodeCreatedBy_congr
    (agree : ∀ name ∈ Wrapper.created.stateBlocks,
      Envelope.AgreeOnBlock (FieldMap.AgreeState identifier.tag) name envelope otherEnvelope)
    (agreePrevious : Envelope.AgreeOnBlock (FieldMap.AgreePrevious identifier.tag) previousBlock
      envelope otherEnvelope) :
    decodeCreatedBy decodeSnapshot catalog identifier envelope =
      decodeCreatedBy decodeSnapshot catalog identifier otherEnvelope := by
  have agreeState := agree Wrapper.created.stateBlock (by simp [Wrapper.stateBlocks])
  have agreeForeign := agree Wrapper.modified.stateBlock (by simp [Wrapper.stateBlocks])
  rw [decodeCreatedBy, decodeCreatedBy, agreeForeign.refuseBlock_congr,
    agreePrevious.refuseBlock_congr, decodeStateBy_congr agreeState]

theorem decodeDeletedBy_congr
    (agree : ∀ name ∈ Wrapper.deleted.stateBlocks,
      Envelope.AgreeOnBlock (FieldMap.AgreeState identifier.tag) name envelope otherEnvelope) :
    decodeDeletedBy decodeSnapshot catalog identifier envelope =
      decodeDeletedBy decodeSnapshot catalog identifier otherEnvelope := by
  have agreeState := agree Wrapper.deleted.stateBlock (by simp [Wrapper.stateBlocks])
  rw [decodeDeletedBy, decodeDeletedBy, decodeStateBy_congr agreeState]

theorem decodeModifiedBy_congr
    (sameBookkeeping : Bookkeeping.ofEnvelope envelope = Bookkeeping.ofEnvelope otherEnvelope)
    (agree : ∀ name ∈ Wrapper.modified.stateBlocks,
      Envelope.AgreeOnBlock (FieldMap.AgreeState identifier.tag) name envelope otherEnvelope)
    (agreePrevious : Envelope.AgreeOnBlock (FieldMap.AgreePrevious identifier.tag) previousBlock
      envelope otherEnvelope) :
    decodeModifiedBy decodeSnapshot catalog identifier envelope =
      decodeModifiedBy decodeSnapshot catalog identifier otherEnvelope := by
  have agreeState := agree Wrapper.modified.stateBlock (by simp [Wrapper.stateBlocks])
  rw [decodeModifiedBy, decodeModifiedBy, Bookkeeping.forWrapper, Bookkeeping.forWrapper,
    sameBookkeeping]
  apply bind_congr
  intro bookkeeping
  split
  · apply agreeState.requiredBlock_bind_congr
    intro block other agree
    dsimp only
    rw [decodeSnapshot_complete_congr agree]
    apply bind_congr
    intro final
    apply agreePrevious.bind_congr
    · rfl
    · intro delta otherDelta agreeDelta
      cases empty : otherDelta.isEmpty with
      | true => simp only [Record.previous?, agreeDelta.isEmpty, empty, if_true]
      | false =>
          simp only [Record.previous?, agreeDelta.isEmpty, empty, Bool.false_eq_true, if_false,
            decodeSnapshot_overlay_congr agree agreeDelta]
  · rfl

theorem decodeNode_of_agree (agree : Envelope.Agree wrapper envelope otherEnvelope) :
    decodeNode catalog wrapper envelope = decodeNode catalog wrapper otherEnvelope := by
  rw [decodeNode, decodeNode, decodeNodeBy, decodeNodeBy,
    Envelope.identifier_congr agree.entryType agree.ledgerIndex]
  cases identified : Envelope.identifier otherEnvelope with
  | error error => rfl
  | ok identifier =>
      have tagged : Envelope.tag envelope = .ok identifier.tag := by
        rw [Envelope.tag_eq_ok_iff, agree.entryType]
        exact (Envelope.identifier_eq_ok_iff.mp identified).1
      have agreeState := agree.state identifier.tag tagged
      have agreePrevious := agree.previous identifier.tag tagged
      refine (bind_of_ok rfl).trans (Eq.trans ?_ (bind_of_ok rfl).symm)
      cases wrapper with
      | created =>
          exact congrArg (Node.created <$> ·)
            (decodeCreatedBy_congr agreeState (agreePrevious Wrapper.noConfusion))
      | modified =>
          have sameBookkeeping := Bookkeeping.ofEnvelope_congr (agree.previousTxnId rfl)
            (agree.previousTxnLgrSeq rfl)
          exact congrArg (Node.modified <$> ·) (decodeModifiedBy_congr sameBookkeeping agreeState
            (agreePrevious Wrapper.noConfusion))
      | deleted => exact congrArg (Node.deleted <$> ·) (decodeDeletedBy_congr agreeState)

/-! ### What previous values have no influence on -/

theorem Node.DecodedFrom.modified_final {node : ModifiedNode}
    (way : (Node.modified node).DecodedFrom catalog envelope identifier) :
    Bookkeeping.ofEnvelope envelope = .ok node.bookkeeping ∧
      ((catalog.decodes identifier.tag = false ∧ node.finalState = none) ∨
        (catalog.decodes identifier.tag = true ∧ ∃ block final,
          Envelope.block? envelope Wrapper.modified.stateBlock = .ok (some block) ∧
          LedgerEntry.decode identifier.tag
            (Record.complete block identifier node.bookkeeping) = .ok final ∧
          node.finalState = some final)) := by
  cases way with
  | modifiedIdentity unlisted kept => exact ⟨kept, Or.inl ⟨unlisted, rfl⟩⟩
  | modifiedFinal listed kept found read => exact ⟨kept, Or.inr ⟨listed, _, _, found, read, rfl⟩⟩
  | modifiedBoth listed kept found read => exact ⟨kept, Or.inr ⟨listed, _, _, found, read, rfl⟩⟩

/-- Modified objects whose envelopes differ in their previous values only have the same identity,
bookkeeping and final state. -/
theorem modified_congr_of_previous {node otherNode : Node}
    (agree : ∀ name, name ≠ previousBlock → envelope.get? name = otherEnvelope.get? name)
    (decoded : decodeNode catalog .modified envelope = .ok node)
    (otherDecoded : decodeNode catalog .modified otherEnvelope = .ok otherNode) :
    ∃ modified otherModified, node = .modified modified ∧ otherNode = .modified otherModified ∧
      modified.identifier = otherModified.identifier ∧
      modified.finalState = otherModified.finalState ∧
      modified.bookkeeping = otherModified.bookkeeping := by
  obtain ⟨identifier, identified, wrapped, way⟩ := decodeNode_eq_ok_iff.mp decoded
  obtain ⟨otherIdentifier, otherIdentified, otherWrapped, otherWay⟩ :=
    decodeNode_eq_ok_iff.mp otherDecoded
  have sameIdentifier : identifier = otherIdentifier := by
    have same := Envelope.identifier_congr (agree FieldName.entryType (by decide))
      (agree FieldName.ledgerIndex (by decide))
    exact Except.ok.inj (identified.symm.trans (same.trans otherIdentified))
  subst sameIdentifier
  cases node with
  | created | deleted => cases wrapped
  | modified modified =>
      cases otherNode with
      | created | deleted => cases otherWrapped
      | modified otherModified =>
          obtain ⟨kept, final⟩ := way.modified_final
          obtain ⟨otherKept, otherFinal⟩ := otherWay.modified_final
          have sameBookkeeping : modified.bookkeeping = otherModified.bookkeeping := by
            have same := Bookkeeping.ofEnvelope_congr (agree FieldName.previousTxnId (by decide))
              (agree FieldName.previousTxnLgrSeq (by decide))
            exact Except.ok.inj (kept.symm.trans (same.trans otherKept))
          have sameBlock := Envelope.block?_congr (agree Wrapper.modified.stateBlock (by decide))
          refine ⟨modified, otherModified, rfl, rfl,
            way.identifier_eq.trans otherWay.identifier_eq.symm, ?_, sameBookkeeping⟩
          -- whether the tag is listed is the same on both sides, and so is the block
          rcases final with ⟨unlisted, none⟩ | ⟨listed, block, final, found, read, some⟩
          · rcases otherFinal with ⟨-, otherNone⟩ | ⟨listed, -⟩
            · rw [none, otherNone]
            · cases unlisted.symm.trans listed
          · rcases otherFinal with ⟨unlisted, -⟩ | ⟨-, _, _, otherFound, otherRead, otherSome⟩
            · cases unlisted.symm.trans listed
            · rw [sameBlock, otherFound] at found
              cases found
              rw [sameBookkeeping, otherRead] at read
              cases read
              rw [some, otherSome]

/--
With every catalog and under every wrapper, envelopes that agree on what is declared decode to the
same node or fail with the same error.  And where two envelopes of a modified object differ in
nothing but their previous values and both decode, the nodes have the same identity, final state and
bookkeeping.
-/
theorem decodeNode_declared (catalog : Catalog) :
    (∀ (wrapper : Wrapper) (envelope other : FieldMap), Envelope.Agree wrapper envelope other →
      decodeNode catalog wrapper envelope = decodeNode catalog wrapper other) ∧
    ∀ (envelope other : FieldMap) (node otherNode : Node),
      (∀ name, name ≠ previousBlock → envelope.get? name = other.get? name) →
      decodeNode catalog .modified envelope = .ok node →
      decodeNode catalog .modified other = .ok otherNode →
      ∃ modified otherModified, node = .modified modified ∧ otherNode = .modified otherModified ∧
        modified.identifier = otherModified.identifier ∧
        modified.finalState = otherModified.finalState ∧
        modified.bookkeeping = otherModified.bookkeeping :=
  ⟨fun _ _ _ => decodeNode_of_agree, fun _ _ _ _ => modified_congr_of_previous⟩

def FieldMap.ticketEnvelope (final previous : FieldMap) : FieldMap :=
  .ofList
    [(FieldName.entryType, .string "Ticket"), (FieldName.ledgerIndex, .string Hash.zero.toHex),
      (Wrapper.modified.stateBlock, final.toJson), (previousBlock, previous.toJson)]

def LedgerEntry.strayTicketRecord : FieldMap :=
  (ticketRecord.insert FieldName.index .null).insert "Note" (.bool true)

def FieldMap.ticketFlags : FieldMap := .ofList [("Flags", .nat 1)]

theorem decodeNode_declared_ticket :
    decodeNode .standard .modified (.ticketEnvelope LedgerEntry.ticketRecord .ticketFlags) =
      decodeNode .standard .modified
        (.ticketEnvelope LedgerEntry.strayTicketRecord
          (FieldMap.ticketFlags.insert "Note" .null)) ∧
    ∃ node otherNode,
      decodeNode .standard .modified
        (.ticketEnvelope LedgerEntry.ticketRecord .ticketFlags) = .ok (.modified node) ∧
      decodeNode .standard .modified
        (.ticketEnvelope LedgerEntry.ticketRecord .empty) = .ok (.modified otherNode) ∧
      node.previousState.isSome = true ∧ otherNode.previousState = none ∧
      node.finalState = otherNode.finalState := by
  have undeclared : ∀ name ∈ Tag.declaredNames ⟨"Ticket"⟩, name ≠ "Note" := by decide
  constructor
  · apply (decodeNode_declared .standard).1
    refine ⟨rfl, rfl, fun _ => rfl, fun _ => rfl, ?_, ?_⟩
    · intro tag tagged name member
      cases tagged
      cases List.mem_singleton.mp member
      refine .objects rfl (FieldMap.fields?_toJson _) rfl (FieldMap.fields?_toJson _) ?_
      intro name declared notKey
      rw [LedgerEntry.strayTicketRecord, FieldMap.get?_insert, if_neg (undeclared name declared),
        FieldMap.get?_insert, if_neg notKey]
    · intro tag tagged _
      cases tagged
      refine .objects rfl (FieldMap.fields?_toJson _) rfl (FieldMap.fields?_toJson _) ?_
      refine ⟨?_, rfl, rfl, rfl⟩
      intro name declared
      rw [FieldMap.get?_insert, if_neg (undeclared name declared)]
  · obtain ⟨node, decoded, before⟩ : ∃ node, decodeNode .standard .modified
        (.ticketEnvelope LedgerEntry.ticketRecord .ticketFlags) = .ok (.modified node) ∧
        node.previousState.isSome = true := ⟨_, rfl, rfl⟩
    obtain ⟨otherNode, otherDecoded, noneBefore⟩ : ∃ node, decodeNode .standard .modified
        (.ticketEnvelope LedgerEntry.ticketRecord .empty) = .ok (.modified node) ∧
        node.previousState = none := ⟨_, rfl, rfl⟩
    have agree : ∀ name, name ≠ previousBlock →
        (FieldMap.ticketEnvelope LedgerEntry.ticketRecord .ticketFlags).get? name =
          (FieldMap.ticketEnvelope LedgerEntry.ticketRecord .empty).get? name := by
      intro name notPrevious
      simp only [FieldMap.ticketEnvelope, FieldMap.get?_ofList_cons, if_neg notPrevious]
    obtain ⟨_, _, same, otherSame, -, sameFinal, -⟩ :=
      (decodeNode_declared .standard).2 _ _ _ _ agree decoded otherDecoded
    cases same
    cases otherSame
    exact ⟨_, _, decoded, otherDecoded, before, noneBefore, sameFinal⟩

end AffectedNodes
