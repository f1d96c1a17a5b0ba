import AffectedNodes.Node.Fault
import AffectedNodes.Node.Wrapper

/-!
# Envelopes and records

The envelope of an affected node identifies the object and holds its blocks of fields.  The
envelope of a modified node also tells the transaction that touched the object before; elsewhere a
placeholder stands for it.

A block leaves out what its envelope says already, and a new object has no last transaction.
`Record.complete` puts both into the block, so that a schema can read it.  `Record.previous?` lays
the previous values of the changed fields over the complete record of the final state, which gives
the record from before the transaction.
-/
namespace AffectedNodes

structure Bookkeeping where
  txnId : Hash
  lgrSeq : LedgerSequence
  deriving DecidableEq, Repr, Inhabited

def Identifier.schema : Schema Identifier where
  name := "ObjectIdentifier"
  Row := _
  layout :=
    .field (.required FieldName.ledgerIndex .hash) <|
    .field (.required FieldName.entryType .tag) .done
  toRow identifier := (identifier.key, identifier.tag, ())
  ofRow := fun (key, tag, ()) => ⟨key, tag⟩
  closed := false

namespace Envelope

/-- The envelope of an element of `AffectedNodes`, with the wrapper under whose key it stands. -/
def ofElement (element : Json) : Except DecodeError (Wrapper × FieldMap) :=
  match element.fields? with
  | none => .error (.malformed (.elementNotObject element))
  | some wrapping =>
      match wrapping.entries with
      | [(key, content)] =>
          match Wrapper.ofKey? key with
          | none => .error (.malformed (.unknownWrapper key))
          | some wrapper =>
              match content.fields? with
              | none => .error (.malformed (.envelopeNotObject key))
              | some envelope => .ok (wrapper, envelope)
      | entries => .error (.malformed (.elementKeys entries.length))

def tag (envelope : FieldMap) : Except DecodeError Tag :=
  match envelope.get? FieldName.entryType with
  | some (.string text) => .ok ⟨text⟩
  | some other => .error (.malformed (.entryTypeNotText other))
  | none => .error (.malformed .entryTypeMissing)

def key (tag : Tag) (envelope : FieldMap) : Except DecodeError Hash :=
  match envelope.get? FieldName.ledgerIndex with
  | some (.string text) =>
      (Hash.ofHex text).mapError fun fault => .malformed (.ledgerIndexInvalid text fault)
  | some other => .error (.malformed (.ledgerIndexNotText other))
  | none => .error (.malformed (.ledgerIndexMissing tag))

def identifier (envelope : FieldMap) : Except DecodeError Identifier := do
  let tag ← tag envelope
  let key ← key tag envelope
  return ⟨key, tag⟩

/-- A block of fields, for which null stands if it is missing. -/
def block? (envelope : FieldMap) (name : String) : Except DecodeError (Option FieldMap) :=
  match envelope.get? name with
  | none | some .null => .ok none
  | some other =>
      match other.fields? with
      | some fields => .ok (some fields)
      | none => .error (.malformed (.blockNotObject name other))

def requiredBlock (envelope : FieldMap) (name : String) (identifier : Identifier) :
    Except DecodeError FieldMap := do
  match ← block? envelope name with
  | some fields => return fields
  | none => .error (.malformed (.blockMissing identifier name))

end Envelope

namespace Bookkeeping

/-- The hash of zeros and ledger zero, for an object whose last transaction is not known. -/
def placeholder : Bookkeeping := ⟨.zero, .zero⟩

def readTxnId (envelope : FieldMap) : Except DecodeError Hash :=
  match envelope.get? FieldName.previousTxnId with
  | none | some .null => .ok Hash.zero
  | some (.string text) =>
      (Hash.ofHex text).mapError fun fault => .malformed (.previousTxnIdInvalid text fault)
  | some other => .error (.malformed (.previousTxnIdNotText other))

def word32? (value : Json) : Option UInt32 :=
  value.natural?.bind fun number =>
    if number < UInt32.size then some (UInt32.ofNat number) else none

def readLgrSeq (envelope : FieldMap) : Except DecodeError LedgerSequence :=
  match envelope.get? FieldName.previousTxnLgrSeq with
  | none | some .null => .ok LedgerSequence.zero
  | some other =>
      match word32? other with
      | some number => .ok ⟨number⟩
      | none => .error (.malformed (.previousTxnLgrSeqInvalid other))

def ofEnvelope (envelope : FieldMap) : Except DecodeError Bookkeeping := do
  let txnId ← readTxnId envelope
  let lgrSeq ← readLgrSeq envelope
  return ⟨txnId, lgrSeq⟩

/-- What belongs to a node with this wrapper: only a modified node has it on its envelope. -/
def forWrapper (wrapper : Wrapper) (envelope : FieldMap) : Except DecodeError Bookkeeping :=
  match wrapper with
  | .modified => ofEnvelope envelope
  | .created | .deleted => .ok placeholder

end Bookkeeping

namespace Record

/-- The record of a block: the identity always replaces what the block says, while bookkeeping
fills only what is missing or null. -/
def complete (block : FieldMap) (identifier : Identifier) (bookkeeping : Bookkeeping) : FieldMap :=
  (((block.insert FieldName.index (.string identifier.key.toHex)).insert
      FieldName.entryType (.string identifier.tag.text)).fill
    FieldName.previousTxnId (.string bookkeeping.txnId.toHex)).fill
    FieldName.previousTxnLgrSeq (.nat bookkeeping.lgrSeq.number.toNat)

/-- The record from before the transaction.  Without any previous value it is left open. -/
def previous? (final : FieldMap) : Option FieldMap → Option FieldMap
  | none => none
  | some delta => if delta.isEmpty then none else some (final.overlay delta)

end Record

end AffectedNodes
