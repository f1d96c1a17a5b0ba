import AffectedNodes.Proofs.Entry.Respelling
import AffectedNodes.Proofs.Node.Decoding
import AffectedNodes.Proofs.Node.Envelope

/-!
# Where bookkeeping comes from

Two members tell the bookkeeping of an object.  A state has each of them from its own block, or else
from the envelope of a modified object, or else it is a placeholder; the envelopes of other objects
are not asked.  Null counts as missing in both places.

The block is read by a schema and the envelope by a reader of its own, and both accept the same
values.  So a member can be moved from the envelope of a modified object into its block, and the
states stay what they were.
-/
namespace AffectedNodes

inductive Bookkeeping.Member where
  | txnId
  | lgrSeq
  deriving DecidableEq

namespace Bookkeeping.Member

def name : Member → String
  | txnId => FieldName.previousTxnId
  | lgrSeq => FieldName.previousTxnLgrSeq

def Value : Member → Type
  | txnId => Hash
  | lgrSeq => LedgerSequence

def format : (member : Member) → Format member.Value
  | txnId => .hash
  | lgrSeq => .sequence

/-- The placeholder for a member that is nowhere. -/
def zero : (member : Member) → member.Value
  | txnId => Hash.zero
  | lgrSeq => LedgerSequence.zero

/-- What a member tells in a source, and the placeholder if it is not there. -/
def readOrZero (member : Member) : Option Json → Except ReadFault member.Value
  | some value => member.format.read value
  | none => .ok member.zero

/-- The member where it is carried outside the block, which is on modified objects only. -/
def carried? (member : Member) (wrapper : Wrapper) (envelope : FieldMap) : Option Json :=
  if wrapper = .modified then envelope.present? member.name else none

/-- The member from which the state in a block has its bookkeeping. -/
def source? (member : Member) (wrapper : Wrapper) (envelope block : FieldMap) : Option Json :=
  (block.present? member.name).or (member.carried? wrapper envelope)

theorem name_injective {member other : Member} (same : member.name = other.name) :
    member = other := by
  cases member <;> cases other <;> first | rfl | exact absurd same (by decide)

theorem format_faithful (member : Member) : member.format.Faithful := by
  cases member with
  | txnId => exact Format.faithful_hash
  | lgrSeq => exact Format.faithful_sequence

end Bookkeeping.Member

def Bookkeeping.get (bookkeeping : Bookkeeping) :
    (member : Bookkeeping.Member) → member.Value
  | .txnId => bookkeeping.txnId
  | .lgrSeq => bookkeeping.lgrSeq

def Bookkeeping.set (bookkeeping : Bookkeeping) :
    (member : Bookkeeping.Member) → member.Value → Bookkeeping
  | .txnId, value => { bookkeeping with txnId := value }
  | .lgrSeq, value => { bookkeeping with lgrSeq := value }

def LedgerEntry.bookkeeping? (entry : LedgerEntry) :
    (member : Bookkeeping.Member) → Option member.Value
  | .txnId => entry.previousTxnId?
  | .lgrSeq => entry.previousTxnLgrSeq?

def Envelope.plainNames : List String :=
  [FieldName.entryType, FieldName.ledgerIndex, Wrapper.created.stateBlock,
    Wrapper.modified.stateBlock, previousBlock]

/-- The envelope of a modified object with a member moved into its block. -/
def Envelope.moveIntoBlock (member : Bookkeeping.Member) (value : Json)
    (block envelope : FieldMap) : FieldMap :=
  (envelope.erase member.name).insert Wrapper.modified.stateBlock
    (block.insert member.name value).toJson

/-- Both fail, or both give modified objects with the same states. -/
inductive SameStates : Except DecodeError Node → Except DecodeError Node → Prop where
  | refused {error error' : DecodeError} : SameStates (.error error) (.error error')
  | decoded {node other : ModifiedNode} (final : node.finalState = other.finalState)
      (previous : node.previousState = other.previousState) :
      SameStates (.ok (.modified node)) (.ok (.modified other))

open Bookkeeping (Member)

variable {member : Member} {bookkeeping moved : Bookkeeping} {catalog : Catalog}
  {block envelope record other : FieldMap} {identifier : Identifier} {entry : LedgerEntry}
  {value : Json} {tag : Tag}

/-! ### The members of bookkeeping -/

namespace Bookkeeping

theorem Member.name_ne (member : Member) {name : String} (plain : name ∈ Envelope.plainNames) :
    name ≠ member.name := by
  rintro rfl
  cases member <;> exact absurd plain (by decide)

@[simp] theorem get_placeholder (member : Member) : placeholder.get member = member.zero := by
  cases member <;> rfl

@[simp] theorem get_set (bookkeeping : Bookkeeping) (member : Member) (value : member.Value) :
    (bookkeeping.set member value).get member = value := by
  cases member <;> rfl

theorem get_set_of_ne {member other : Member} (different : other ≠ member)
    (value : member.Value) : (bookkeeping.set member value).get other = bookkeeping.get other := by
  cases member <;> cases other <;> first | rfl | exact absurd rfl different

theorem set_get (bookkeeping : Bookkeeping) (member : Member) :
    bookkeeping.set member (bookkeeping.get member) = bookkeeping := by
  cases member <;> rfl

theorem set_set (bookkeeping : Bookkeeping) (member : Member) (value value' : member.Value) :
    (bookkeeping.set member value).set member value' = bookkeeping.set member value' := by
  cases member <;> rfl

theorem forall_member {property : Member → Prop} :
    (∀ member, property member) ↔ property .txnId ∧ property .lgrSeq := by
  constructor
  · intro all
    exact ⟨all .txnId, all .lgrSeq⟩
  · rintro ⟨txnId, lgrSeq⟩ member
    cases member with
    | txnId => exact txnId
    | lgrSeq => exact lgrSeq

theorem ofEnvelope_eq_ok_iff_forall :
    ofEnvelope envelope = .ok bookkeeping ↔
      ∀ member : Member,
        member.readOrZero (envelope.present? member.name) = .ok (bookkeeping.get member) := by
  rw [ofEnvelope_eq_ok_iff, forall_member]
  apply and_congr
  · change _ ↔ Member.txnId.readOrZero (envelope.present? FieldName.previousTxnId) = _
    cases held : envelope.present? FieldName.previousTxnId with
    | none =>
        rw [readTxnId_of_absent held, Except.ok.injEq]
        exact ⟨congrArg Except.ok, Except.ok.inj⟩
    | some value => exact readTxnId_of_present held
  · change _ ↔ Member.lgrSeq.readOrZero (envelope.present? FieldName.previousTxnLgrSeq) = _
    cases held : envelope.present? FieldName.previousTxnLgrSeq with
    | none =>
        rw [readLgrSeq_of_absent held, Except.ok.injEq]
        exact ⟨congrArg Except.ok, Except.ok.inj⟩
    | some value => exact readLgrSeq_of_present held

theorem readOrZero_of_forWrapper {wrapper : Wrapper}
    (kept : forWrapper wrapper envelope = .ok bookkeeping) (member : Member) :
    member.readOrZero (member.carried? wrapper envelope) = .ok (bookkeeping.get member) := by
  cases wrapper with
  | modified => exact ofEnvelope_eq_ok_iff_forall.mp kept member
  | created | deleted =>
      cases kept
      rw [get_placeholder]
      rfl

end Bookkeeping

/-! ### Complete records -/

namespace Record

theorem get?_complete_member (block : FieldMap) (identifier : Identifier)
    (bookkeeping : Bookkeeping) (member : Member) :
    (complete block identifier bookkeeping).get? member.name =
      some ((block.present? member.name).getD (member.format.write (bookkeeping.get member))) := by
  cases member with
  | txnId => exact get?_complete_previousTxnId block identifier bookkeeping
  | lgrSeq => exact get?_complete_previousTxnLgrSeq block identifier bookkeeping

theorem present?_complete_member (block : FieldMap) (identifier : Identifier)
    (bookkeeping : Bookkeeping) (member : Member) :
    (complete block identifier bookkeeping).present? member.name =
      some ((block.present? member.name).getD (member.format.write (bookkeeping.get member))) := by
  rw [FieldMap.present?_eq_some_iff]
  refine ⟨get?_complete_member block identifier bookkeeping member, ?_⟩
  cases held : block.present? member.name with
  | none => exact member.format_faithful.write_ne_null _
  | some value => exact (FieldMap.present?_eq_some_iff.mp held).2

/-- A member that completing a block writes may stand in the block instead, in any spelling. -/
theorem respells_complete (absent : block.present? member.name = none) (notNull : value ≠ .null)
    (read : member.format.read value = .ok (bookkeeping.get member))
    (same : ∀ other, other ≠ member → moved.get other = bookkeeping.get other) :
    FieldMap.Respells member.name member.format (complete block identifier bookkeeping)
      (complete (block.insert member.name value) identifier moved) where
  kept wanted different := by
    have sameBlock : (block.insert member.name value).get? wanted = block.get? wanted := by
      rw [FieldMap.get?_insert, if_neg different]
    -- of the four fields that completing sets two are told by the identity
    by_cases completed : wanted ∈ completedNames
    · have other (other : Member) (named : wanted = other.name) :
          (complete (block.insert member.name value) identifier moved).get? wanted =
            (complete block identifier bookkeeping).get? wanted := by
        subst named
        have notMember : other ≠ member := fun equal => different (congrArg Member.name equal)
        rw [get?_complete_member, get?_complete_member, FieldMap.present?_congr sameBlock,
          same other notMember]
      rcases mem_completedNames_iff.mp completed with rfl | rfl | named | named
      · rw [get?_complete_index, get?_complete_index]
      · rw [get?_complete_entryType, get?_complete_entryType]
      · exact other .txnId named
      · exact other .lgrSeq named
    · rw [get?_complete_of_not_mem completed, get?_complete_of_not_mem completed, sameBlock]
  spelled := by
    refine ⟨member.format.write (bookkeeping.get member), value, bookkeeping.get member,
      ?_, ?_, member.format_faithful.lawful _, read⟩
    · rw [present?_complete_member, absent, Option.getD_none]
    · rw [present?_complete_member, FieldMap.present?_insert_self block member.name notNull,
        Option.getD_some]

end Record

/-! ### Entries -/

namespace LedgerEntry

theorem tells_bookkeeping (entry : LedgerEntry) (member : Member) :
    Layout.Tells member.name member.format entry.kind.schema.layout
      (entry.kind.schema.toRow entry.data) (entry.bookkeeping? member) := by
  cases member with
  | txnId => exact entry.kind.tells_previousTxnId entry.data
  | lgrSeq => exact entry.kind.tells_previousTxnLgrSeq entry.data

theorem ReadFrom.exists_member (readFrom : entry.ReadFrom record)
    (held : record.present? member.name = some value) :
    ∃ told, entry.bookkeeping? member = some told ∧ member.format.read value = .ok told := by
  obtain ⟨told, same, read, -⟩ :=
    (entry.tells_bookkeeping member).of_present entry.kind.schema_faithful.layout readFrom.2 held
  exact ⟨told, same, read⟩

theorem decode_respelled (respells : FieldMap.Respells member.name member.format record other)
    (decoded : decode tag record = .ok entry) : decode tag other = .ok entry := by
  obtain ⟨sameTag, readFrom⟩ := decode_eq_ok_iff.mp decoded
  have again := readFrom.of_respelled (entry.tells_bookkeeping member) respells
  exact decode_eq_ok_iff.mpr ⟨sameTag, again⟩

theorem decode_overlay_respelled {delta : FieldMap}
    (respells : FieldMap.Respells member.name member.format record other)
    (decoded : decode tag (record.overlay delta) = .ok entry) :
    decode tag (other.overlay delta) = .ok entry := by
  rcases respells.overlay delta with same | overlaid
  · exact same ▸ decoded
  · exact decode_respelled overlaid decoded

/-- The state in a block has its bookkeeping from the block or from what it was completed with. -/
theorem exists_bookkeeping_of_complete {source : Option Json}
    (decoded : decode tag (Record.complete block identifier bookkeeping) = .ok entry)
    (carried : member.readOrZero source = .ok (bookkeeping.get member)) :
    ∃ told, entry.bookkeeping? member = some told ∧
      member.readOrZero ((block.present? member.name).or source) = .ok told := by
  have readFrom := (decode_eq_ok_iff.mp decoded).2
  have held := Record.present?_complete_member block identifier bookkeeping member
  obtain ⟨told, has, read⟩ := readFrom.exists_member held
  refine ⟨told, has, ?_⟩
  cases own : block.present? member.name with
  | some value =>
      rw [own] at read
      exact read
  | none =>
      rw [own, Option.getD_none, member.format_faithful.lawful] at read
      cases read
      exact carried

end LedgerEntry

/-! ### Nodes -/

theorem decodeNode_congr_of_single {wrapper : Wrapper} (single : wrapper ≠ .modified)
    (agree : ∀ name ∈ Envelope.plainNames, envelope.get? name = other.get? name) :
    decodeNode catalog wrapper envelope = decodeNode catalog wrapper other := by
  have block (name : String) (plain : name ∈ Envelope.plainNames) :
      Envelope.block? envelope name = Envelope.block? other name :=
    Envelope.block?_congr (agree name plain)
  have identified : Envelope.identifier envelope = Envelope.identifier other :=
    Envelope.identifier_congr (agree FieldName.entryType (by decide))
      (agree FieldName.ledgerIndex (by decide))
  rw [decodeNode, decodeNode, decodeNodeBy, decodeNodeBy, identified]
  cases wrapper with
  | modified => exact absurd rfl single
  | created =>
      have newBlock := block Wrapper.created.stateBlock (by decide)
      have finalBlock := block Wrapper.modified.stateBlock (by decide)
      have previous := block previousBlock (by decide)
      simp only [decodeCreatedBy, decodeStateBy, refuseBlock, Envelope.requiredBlock, newBlock,
        finalBlock, previous]
  | deleted =>
      have finalBlock := block Wrapper.deleted.stateBlock (by decide)
      simp only [decodeDeletedBy, decodeStateBy, Envelope.requiredBlock, finalBlock]

/-! ### Moving a member into the block -/

namespace Envelope

theorem get?_moveIntoBlock (member : Member) (value : Json) (block envelope : FieldMap)
    (name : String) :
    (moveIntoBlock member value block envelope).get? name =
      if name = Wrapper.modified.stateBlock then some (block.insert member.name value).toJson
      else if name = member.name then none else envelope.get? name := by
  rw [moveIntoBlock, FieldMap.get?_insert, FieldMap.get?_erase]

theorem block?_moveIntoBlock (member : Member) (value : Json) (block envelope : FieldMap) :
    block? (moveIntoBlock member value block envelope) Wrapper.modified.stateBlock =
      .ok (some (block.insert member.name value)) := by
  apply block?_of_object _ (FieldMap.fields?_toJson _)
  rw [get?_moveIntoBlock, if_pos rfl]

theorem get?_moveIntoBlock_of_ne {name : String} (notBlock : name ≠ Wrapper.modified.stateBlock)
    (notMember : name ≠ member.name) :
    (moveIntoBlock member value block envelope).get? name = envelope.get? name := by
  rw [get?_moveIntoBlock, if_neg notBlock, if_neg notMember]

theorem block?_previous_moveIntoBlock (member : Member) (value : Json)
    (block envelope : FieldMap) :
    block? (moveIntoBlock member value block envelope) previousBlock =
      block? envelope previousBlock := by
  apply block?_congr
  exact get?_moveIntoBlock_of_ne (by decide) (member.name_ne (by decide))

theorem identifier_moveIntoBlock (member : Member) (value : Json) (block envelope : FieldMap) :
    Envelope.identifier (moveIntoBlock member value block envelope) =
      Envelope.identifier envelope := by
  apply identifier_congr
  · exact get?_moveIntoBlock_of_ne (by decide) (member.name_ne (by decide))
  · exact get?_moveIntoBlock_of_ne (by decide) (member.name_ne (by decide))

theorem present?_moveIntoBlock (member : Member) (value : Json) (block envelope : FieldMap) :
    (moveIntoBlock member value block envelope).present? member.name = none := by
  have notBlock : Wrapper.modified.stateBlock ≠ member.name := member.name_ne (by decide)
  rw [FieldMap.present?_eq_none_iff, get?_moveIntoBlock, if_neg notBlock.symm, if_pos rfl]
  exact Or.inl rfl

/-- The bookkeeping on the envelope differs only in the member that was moved away, which was read
from its value and is a placeholder now. -/
theorem ofEnvelope_moveIntoBlock_iff (held : envelope.present? member.name = some value) :
    Bookkeeping.ofEnvelope envelope = .ok bookkeeping ↔
      member.format.read value = .ok (bookkeeping.get member) ∧
        Bookkeeping.ofEnvelope (moveIntoBlock member value block envelope) =
          .ok (bookkeeping.set member member.zero) := by
  have kept (other : Member) (different : other ≠ member) :
      (moveIntoBlock member value block envelope).present? other.name =
        envelope.present? other.name := by
    have notBlock : Wrapper.modified.stateBlock ≠ other.name := other.name_ne (by decide)
    have notMember : other.name ≠ member.name := fun same =>
      different (Bookkeeping.Member.name_injective same)
    exact FieldMap.present?_congr (get?_moveIntoBlock_of_ne notBlock.symm notMember)
  rw [Bookkeeping.ofEnvelope_eq_ok_iff_forall, Bookkeeping.ofEnvelope_eq_ok_iff_forall]
  constructor
  · intro reads
    constructor
    · have read := reads member
      rw [held] at read
      exact read
    · intro other
      by_cases same : other = member
      · subst same
        rw [present?_moveIntoBlock, Bookkeeping.get_set]
        rfl
      · rw [kept other same, Bookkeeping.get_set_of_ne same]
        exact reads other
  · rintro ⟨read, reads⟩ other
    by_cases same : other = member
    · subst same
      rw [held]
      exact read
    · have readOther := reads other
      rw [kept other same, Bookkeeping.get_set_of_ne same] at readOther
      exact readOther

end Envelope

section Moving

variable {node : ModifiedNode}

/-- An envelope decodes to the states of another one if both list the same previous values, and the
records of their blocks differ in the spelling of one member. -/
theorem Node.DecodedFrom.of_respelled {blockMoved : FieldMap}
    (way : (Node.modified node).DecodedFrom catalog envelope identifier)
    (listed : catalog.decodes identifier.tag = true)
    (found : Envelope.block? envelope Wrapper.modified.stateBlock = .ok (some block))
    (foundMoved : Envelope.block? other Wrapper.modified.stateBlock = .ok (some blockMoved))
    (samePrevious : Envelope.block? other previousBlock = Envelope.block? envelope previousBlock)
    (kept : Bookkeeping.ofEnvelope other = .ok moved)
    (respells : FieldMap.Respells member.name member.format
      (Record.complete block identifier node.bookkeeping)
      (Record.complete blockMoved identifier moved)) :
    (Node.modified ⟨identifier, node.finalState, node.previousState, moved⟩).DecodedFrom catalog
      other identifier := by
  cases way with
  | modifiedIdentity unlisted => cases listed.symm.trans unlisted
  | modifiedFinal _ _ foundWay read listing nothingListed =>
      cases found.symm.trans foundWay
      exact .modifiedFinal listed kept foundMoved (LedgerEntry.decode_respelled respells read)
        (samePrevious.trans listing) nothingListed
  | modifiedBoth _ _ foundWay read listing someListed readPrevious =>
      cases found.symm.trans foundWay
      exact .modifiedBoth listed kept foundMoved (LedgerEntry.decode_respelled respells read)
        (samePrevious.trans listing) someListed
        (LedgerEntry.decode_overlay_respelled respells readPrevious)

variable (listed : catalog.decodes identifier.tag = true)
  (found : Envelope.block? envelope Wrapper.modified.stateBlock = .ok (some block))
  (held : envelope.present? member.name = some value)
  (absent : block.present? member.name = none)
include listed found held absent

theorem Node.DecodedFrom.moveIntoBlock
    (way : (Node.modified node).DecodedFrom catalog envelope identifier) :
    (Node.modified ⟨identifier, node.finalState, node.previousState,
      node.bookkeeping.set member member.zero⟩).DecodedFrom catalog
      (Envelope.moveIntoBlock member value block envelope) identifier := by
  obtain ⟨read, kept⟩ := (Envelope.ofEnvelope_moveIntoBlock_iff held).mp way.bookkeeping_eq
  have respells : FieldMap.Respells member.name member.format
      (Record.complete block identifier node.bookkeeping)
      (Record.complete (block.insert member.name value) identifier
        (node.bookkeeping.set member member.zero)) := by
    apply Record.respells_complete absent (FieldMap.present?_eq_some_iff.mp held).2 read
    exact fun other different => Bookkeeping.get_set_of_ne different _
  exact way.of_respelled listed found (Envelope.block?_moveIntoBlock member value block envelope)
    (Envelope.block?_previous_moveIntoBlock member value block envelope) kept respells

theorem Node.DecodedFrom.moveOutOfBlock
    (way : (Node.modified node).DecodedFrom catalog
      (Envelope.moveIntoBlock member value block envelope) identifier) :
    ∃ told, (Node.modified ⟨identifier, node.finalState, node.previousState,
      node.bookkeeping.set member told⟩).DecodedFrom catalog envelope identifier := by
  have foundMoved := Envelope.block?_moveIntoBlock member value block envelope
  have notNull := (FieldMap.present?_eq_some_iff.mp held).2
  obtain ⟨told, read⟩ : ∃ told, member.format.read value = .ok told := by
    obtain ⟨state, latest⟩ := Option.isSome_iff_exists.mp (way.isDecoded_eq.trans listed)
    obtain ⟨_, bookkeeping, foundWay, -, decoded⟩ := way.exists_state latest
    cases foundMoved.symm.trans foundWay
    have there : (Record.complete (block.insert member.name value) identifier
        bookkeeping).present? member.name = some value := by
      rw [Record.present?_complete_member, FieldMap.present?_insert_self block member.name notNull,
        Option.getD_some]
    obtain ⟨told, -, read⟩ := (LedgerEntry.decode_eq_ok_iff.mp decoded).2.exists_member there
    exact ⟨told, read⟩
  -- on the envelope the member is a placeholder once it was moved away
  have zero : node.bookkeeping.get member = member.zero := by
    have kept := Bookkeeping.ofEnvelope_eq_ok_iff_forall.mp way.bookkeeping_eq member
    rw [Envelope.present?_moveIntoBlock] at kept
    exact (Except.ok.inj kept).symm
  have readSet :
      member.format.read value = .ok ((node.bookkeeping.set member told).get member) := by
    rw [Bookkeeping.get_set]
    exact read
  have respells : FieldMap.Respells member.name member.format
      (Record.complete block identifier (node.bookkeeping.set member told))
      (Record.complete (block.insert member.name value) identifier node.bookkeeping) := by
    apply Record.respells_complete absent notNull readSet
    exact fun other different => (Bookkeeping.get_set_of_ne different _).symm
  have keptZero : Bookkeeping.ofEnvelope (Envelope.moveIntoBlock member value block envelope) =
      .ok ((node.bookkeeping.set member told).set member member.zero) := by
    rw [Bookkeeping.set_set, ← zero, Bookkeeping.set_get]
    exact way.bookkeeping_eq
  have kept := (Envelope.ofEnvelope_moveIntoBlock_iff held).mpr ⟨readSet, keptZero⟩
  have samePrevious := Envelope.block?_previous_moveIntoBlock member value block envelope
  exact ⟨told, way.of_respelled listed foundMoved found samePrevious.symm kept respells.symm⟩

end Moving

/-- Moving a member into a block that lacks it changes neither whether the envelope of a modified
object decodes nor the states. -/
theorem decodeNode_moveIntoBlock (tagged : Envelope.tag envelope = .ok tag)
    (listed : catalog.decodes tag = true)
    (found : Envelope.block? envelope Wrapper.modified.stateBlock = .ok (some block))
    (held : envelope.present? member.name = some value)
    (absent : block.present? member.name = none) :
    SameStates (decodeNode catalog .modified envelope)
      (decodeNode catalog .modified (Envelope.moveIntoBlock member value block envelope)) := by
  have sameIdentifier := Envelope.identifier_moveIntoBlock member value block envelope
  have listedOf {identifier : Identifier}
      (identified : Envelope.identifier envelope = .ok identifier) :
      catalog.decodes identifier.tag = true := by
    cases tagged.symm.trans (Envelope.tag_of_identifier identified)
    exact listed
  cases decoded : decodeNode catalog .modified envelope with
  | ok node =>
      obtain ⟨identifier, identified, wrapped, way⟩ := decodeNode_eq_ok_iff.mp decoded
      cases node with
      | created | deleted => cases wrapped
      | modified node =>
          have wayMoved := way.moveIntoBlock (listedOf identified) found held absent
          have decodedMoved : decodeNode catalog .modified
              (Envelope.moveIntoBlock member value block envelope) = .ok _ :=
            decodeNode_eq_ok_iff.mpr
              ⟨identifier, sameIdentifier.trans identified, rfl, wayMoved⟩
          rw [decodedMoved]
          exact .decoded rfl rfl
  | error error =>
      cases decodedMoved : decodeNode catalog .modified
          (Envelope.moveIntoBlock member value block envelope) with
      | error errorMoved => exact .refused
      | ok node =>
          obtain ⟨identifier, identifiedMoved, wrapped, way⟩ := decodeNode_eq_ok_iff.mp decodedMoved
          have identified := sameIdentifier.symm.trans identifiedMoved
          cases node with
          | created | deleted => cases wrapped
          | modified node =>
              obtain ⟨told, wayBack⟩ := way.moveOutOfBlock (listedOf identified) found held absent
              have decodedBack := decodeNode_eq_ok_iff.mpr ⟨identifier, identified, rfl, wayBack⟩
              cases decoded.symm.trans decodedBack

/--
For each of the two bookkeeping members: the state in the state block of any wrapper has what the
block tells, or else what the envelope of a modified object tells, or else the placeholder, and a
modified node has what its envelope alone tells.  Envelopes of created and deleted objects that
differ in these members decode alike.  And a member on the envelope of a modified object may be
moved into a block that lacks it: that changes neither whether it decodes nor the states.
-/
theorem decodeNode_bookkeeping (catalog : Catalog) :
    (∀ wrapper envelope node, decodeNode catalog wrapper envelope = .ok node →
      (∀ state, node.latestState = some state →
        ∃ block, Envelope.block? envelope wrapper.stateBlock = .ok (some block) ∧
          ∀ member : Bookkeeping.Member, ∃ told, state.bookkeeping? member = some told ∧
            member.readOrZero (member.source? wrapper envelope block) = .ok told) ∧
      ∀ inner, node = .modified inner → ∀ member : Bookkeeping.Member,
        member.readOrZero (envelope.present? member.name) =
          .ok (inner.bookkeeping.get member)) ∧
    (∀ wrapper envelope other, wrapper ≠ .modified →
      (∀ name, (∀ member : Bookkeeping.Member, name ≠ member.name) →
        envelope.get? name = other.get? name) →
      decodeNode catalog wrapper envelope = decodeNode catalog wrapper other) ∧
    ∀ (envelope block : FieldMap) (tag : Tag) (member : Bookkeeping.Member) (value : Json),
      Envelope.tag envelope = .ok tag → catalog.decodes tag = true →
      Envelope.block? envelope Wrapper.modified.stateBlock = .ok (some block) →
      envelope.present? member.name = some value → block.present? member.name = none →
      SameStates (decodeNode catalog .modified envelope)
        (decodeNode catalog .modified (Envelope.moveIntoBlock member value block envelope)) := by
  refine ⟨?_, ?_, ?_⟩
  · intro wrapper envelope node decoded
    obtain ⟨identifier, identified, rfl, way⟩ := decodeNode_eq_ok_iff.mp decoded
    constructor
    · intro state latest
      obtain ⟨block, bookkeeping, found, kept, read⟩ := way.exists_state latest
      refine ⟨block, found, fun member => ?_⟩
      exact LedgerEntry.exists_bookkeeping_of_complete read
        (Bookkeeping.readOrZero_of_forWrapper kept member)
    · rintro inner rfl member
      exact Bookkeeping.ofEnvelope_eq_ok_iff_forall.mp way.bookkeeping_eq member
  · intro wrapper envelope other single agree
    apply decodeNode_congr_of_single single
    exact fun name plain => agree name fun member => member.name_ne plain
  · intro envelope block tag member value tagged listed found held absent
    exact decodeNode_moveIntoBlock tagged listed found held absent

def FieldMap.poolBlock : FieldMap :=
  .ofList
    [("AMMAccount", .string "rEhxGqkqPPSxQ3P25J66ft5TwpzV14k2de"),
      ("Asset", .object [("currency", .string "XRP")]),
      ("Asset2", .object [("currency", .string "USD")]),
      ("LPTokenBalance", .object
        [("currency", .string "LPT"), ("issuer", .string "rEhxGqkqPPSxQ3P25J66ft5TwpzV14k2de"),
          ("value", .string "1")])]

def Envelope.modifiedPool : FieldMap :=
  .ofList
    [(FieldName.entryType, .string "AMM"), (FieldName.ledgerIndex, .string Hash.zero.toHex),
      (Wrapper.modified.stateBlock, FieldMap.poolBlock.toJson),
      (FieldName.previousTxnId, .string (String.ofList (List.replicate 64 'c'))),
      (FieldName.previousTxnLgrSeq, .null)]

theorem decodeNode_bookkeeping_pool :
    (∃ node state, decodeNode .standard .modified Envelope.modifiedPool = .ok node ∧
      node.latestState = some state ∧
      state.previousTxnId? = some ⟨List.replicate 32 0xCC, rfl⟩ ∧
      state.previousTxnLgrSeq? = some .zero) ∧
    SameStates (decodeNode .standard .modified Envelope.modifiedPool)
      (decodeNode .standard .modified (Envelope.moveIntoBlock .txnId
        (.string (String.ofList (List.replicate 64 'c'))) .poolBlock Envelope.modifiedPool)) := by
  have found : Envelope.block? Envelope.modifiedPool Wrapper.modified.stateBlock =
      .ok (some FieldMap.poolBlock) := rfl
  constructor
  · obtain ⟨node, state, decoded, latest⟩ : ∃ node state,
        decodeNode .standard .modified Envelope.modifiedPool = .ok node ∧
          node.latestState = some state := ⟨_, _, rfl, rfl⟩
    obtain ⟨block, foundBlock, told⟩ :=
      ((decodeNode_bookkeeping .standard).1 .modified _ node decoded).1 state latest
    cases found.symm.trans foundBlock
    obtain ⟨txnId, hasTxnId, readTxnId⟩ := told .txnId
    obtain ⟨lgrSeq, hasLgrSeq, readLgrSeq⟩ := told .lgrSeq
    cases readTxnId
    cases readLgrSeq
    exact ⟨node, state, decoded, latest, hasTxnId, hasLgrSeq⟩
  · exact (decodeNode_bookkeeping .standard).2.2 _ _ ⟨"AMM"⟩ .txnId _ rfl (by decide) found rfl rfl

end AffectedNodes
