import AffectedNodes.Batch
import AffectedNodes.Entry.Shared

/-!
# Transaction metadata

The metadata of a transaction tell its place in the ledger, its result, the amount that it
delivered, and the nodes that it affected.  The header is read first, field by field in that order
after the list of nodes, so a faulty header is told before any faulty node.
-/
namespace AffectedNodes

structure Metadata where
  nodes : List Node
  transactionIndex : UInt32
  transactionResult : String
  deliveredAmount : Option Amount
  deriving DecidableEq

namespace Metadata

def isSuccess (metadata : Metadata) : Bool := metadata.transactionResult == "tesSUCCESS"

def modifiedNodes (metadata : Metadata) : List ModifiedNode :=
  metadata.nodes.filterMap Node.modified?

def readElements (fields : FieldMap) : Except DecodeError (List Json) :=
  match fields.get? "AffectedNodes" with
  | some (.array elements) => .ok elements
  | some other => .error (.malformed (.affectedNodesNotArray other))
  | none => .error (.malformed .affectedNodesMissing)

def readIndex (fields : FieldMap) : Except DecodeError UInt32 :=
  match (fields.get? "TransactionIndex").bind Bookkeeping.word32? with
  | some index => .ok index
  | none => .error (.malformed .transactionIndexInvalid)

def readResult (fields : FieldMap) : Except DecodeError String :=
  match fields.get? "TransactionResult" with
  | some (.string result) => .ok result
  | _ => .error (.malformed .transactionResultInvalid)

/-- The fields that may hold the delivered amount, the newer one first. -/
def deliveredNames : List String := ["DeliveredAmount", "delivered_amount"]

def isUnavailable : Json → Bool
  | .null => true
  | .string text => text == "unavailable"
  | _ => false

/-- The value of the delivered amount: the first field that holds any. -/
def deliveredValue? (fields : FieldMap) : Option Json :=
  deliveredNames.findSome? fun name => (fields.get? name).filter fun value => !isUnavailable value

def readDelivered (fields : FieldMap) : Except DecodeError (Option Amount) :=
  match deliveredValue? fields with
  | none => .ok none
  | some value =>
      match Format.amount.read value with
      | .ok amount => .ok (some amount)
      | .error fault => .error (.malformed (.deliveredAmountInvalid fault))

end Metadata

def Decoder.decodeMetadataWith (decoder : Decoder) (order : FinishingOrder) (settings : Settings)
    (value : Json) : Except DecodeError (Metadata × List Failure) := do
  match value.fields? with
  | none => .error (.malformed .metadataNotObject)
  | some fields =>
      let elements ← Metadata.readElements fields
      let transactionIndex ← Metadata.readIndex fields
      let transactionResult ← Metadata.readResult fields
      let deliveredAmount ← Metadata.readDelivered fields
      let outcome ← decoder.decodeBatchWith order settings elements
      return (⟨outcome.nodes, transactionIndex, transactionResult, deliveredAmount⟩,
        outcome.failures)

namespace Metadata

def decodeWith (catalog : Catalog) (settings : Settings) (value : Json) :
    Except DecodeError (Metadata × List Failure) :=
  (Decoder.ofCatalog catalog).decodeMetadataWith .inTurn settings value

def decode (catalog : Catalog) (value : Json) : Except DecodeError Metadata :=
  (decodeWith catalog .standard value).map (·.1)

/-- The fields of metadata; the delivered amount is left out if there is none. -/
def fields (metadata : Metadata) : FieldMap :=
  .ofList <|
    [("AffectedNodes", .array (metadata.nodes.map Node.toJson)),
      ("TransactionIndex", .nat metadata.transactionIndex.toNat),
      ("TransactionResult", .string metadata.transactionResult)] ++
    metadata.deliveredAmount.toList.map fun amount =>
      ("DeliveredAmount", Format.amount.write amount)

def toJson (metadata : Metadata) : Json := metadata.fields.toJson

end Metadata

end AffectedNodes
