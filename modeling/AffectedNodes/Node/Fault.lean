import AffectedNodes.Entry.Tagged
import AffectedNodes.Files

/-!
# Why metadata cannot be decoded

An affected node is malformed, or its record does not fit the schema of its kind.  In a batch the
fault is told together with the position of the element.  Settings that cannot be read are a fault
of their own.
-/
namespace AffectedNodes

inductive Malformed where
  | elementNotObject (found : Json)
  | elementKeys (count : Nat)
  | unknownWrapper (key : String)
  | envelopeNotObject (key : String)
  | entryTypeNotText (found : Json)
  | entryTypeMissing
  | ledgerIndexInvalid (text : String) (fault : Hash.Fault)
  | ledgerIndexNotText (found : Json)
  | ledgerIndexMissing (tag : Tag)
  | previousTxnIdInvalid (text : String) (fault : Hash.Fault)
  | previousTxnIdNotText (found : Json)
  | previousTxnLgrSeqInvalid (found : Json)
  | blockNotObject (name : String) (found : Json)
  | blockMissing (identifier : Identifier) (name : String)
  | createdCarries (key : Hash) (name : String)
  | metadataNotObject
  | affectedNodesNotArray (found : Json)
  | affectedNodesMissing
  | transactionIndexInvalid
  | transactionResultInvalid
  | deliveredAmountInvalid (fault : ReadFault)

def Malformed.message : Malformed → String
  | elementNotObject found => "affected node must be an object, got " ++ found.compact
  | elementKeys count => "affected node must have exactly one key, got " ++ toString count
  | unknownWrapper key => "unknown affected node wrapper " ++ Text.quoted key
  | envelopeNotObject key => key ++ " envelope must be an object"
  | entryTypeNotText found =>
      FieldName.entryType ++ " must be a string, got " ++ found.compact
  | entryTypeMissing => "missing " ++ FieldName.entryType
  | ledgerIndexInvalid text fault =>
      FieldName.ledgerIndex ++ " " ++ Text.quoted text ++ ": " ++ fault.message
  | ledgerIndexNotText found =>
      FieldName.ledgerIndex ++ " must be a string, got " ++ found.compact
  | ledgerIndexMissing tag => "missing " ++ FieldName.ledgerIndex ++ " on " ++ tag.text ++ " node"
  | previousTxnIdInvalid text fault =>
      FieldName.previousTxnId ++ " " ++ Text.quoted text ++ ": " ++ fault.message
  | previousTxnIdNotText found =>
      FieldName.previousTxnId ++ " must be a string, got " ++ found.compact
  | previousTxnLgrSeqInvalid found =>
      FieldName.previousTxnLgrSeq ++ " must be an unsigned 32-bit integer, got " ++ found.compact
  | blockNotObject name found => name ++ " must be an object, got " ++ found.compact
  | blockMissing identifier name =>
      identifier.tag.text ++ " node " ++ identifier.key.toHex ++ " has no " ++ name
  | createdCarries key name => "CreatedNode " ++ key.toHex ++ " carries " ++ name
  | metadataNotObject => "transaction metadata must be an object"
  | affectedNodesNotArray found => "AffectedNodes must be an array, got " ++ found.compact
  | affectedNodesMissing => "missing AffectedNodes"
  | transactionIndexInvalid => "TransactionIndex must be an unsigned 32-bit integer"
  | transactionResultInvalid => "missing or non-string TransactionResult"
  | deliveredAmountInvalid fault => "DeliveredAmount: " ++ fault.message

inductive DecodeError where
  | malformed (cause : Malformed)
  | typedDecode (identifier : Identifier) (fault : EntryFault)
  | atPosition (position : Nat) (source : DecodeError)
  | settings (fault : SettingsFault)

namespace DecodeError

def message : DecodeError → String
  | malformed cause => "malformed metadata: " ++ cause.message
  | typedDecode identifier fault =>
      "failed to decode " ++ identifier.tag.text ++ " object " ++ identifier.key.toHex ++ ": " ++
        fault.message
  | atPosition position source => "affected node " ++ toString position ++ ": " ++ source.message
  | settings fault => "configuration error: " ++ fault.message

/-- The error without the positions at which it was found. -/
def root : DecodeError → DecodeError
  | atPosition _ source => source.root
  | error => error

def isMalformed (error : DecodeError) : Bool :=
  match error.root with
  | malformed _ => true
  | _ => false

def isTypedDecode (error : DecodeError) : Bool :=
  match error.root with
  | typedDecode .. => true
  | _ => false

/-- The error and all that it goes back to, outermost first. -/
def causes : DecodeError → List String
  | error@(malformed _) | error@(settings _) => [error.message]
  | error@(atPosition _ source) => error.message :: source.causes
  | error@(typedDecode _ fault) =>
      match fault with
      | .invalidRecord _ cause => [error.message, fault.message, cause.message]
      | .unknownKind _ | .kindMismatch .. => [error.message, fault.message]

end DecodeError

end AffectedNodes
