import AffectedNodes.Entry.Shared

/-!
# Checks

A check lets its destination draw an amount from the account that wrote it.
-/
namespace AffectedNodes

structure Check where
  account : Address
  destination : Address
  flags : UInt32
  sendMax : Amount
  sequence : UInt32
  ownerNode : String
  destinationNode : Option String
  destinationTag : Option UInt32
  sourceTag : Option UInt32
  expiration : Option UInt32
  invoiceId : Option Hash
  previousTxnId : Hash
  previousTxnLgrSeq : LedgerSequence
  index : Hash
  deriving DecidableEq, Repr

def Check.schema : Schema Check where
  name := "CheckObject"
  Row := _
  layout :=
    .field .account <|
    .field .destination <|
    .field .flags <|
    .field (.required "SendMax" .amount) <|
    .field (.required "Sequence" .word32) <|
    .field .ownerNode <|
    .field (.optional "DestinationNode" .text) <|
    .field (.optional "DestinationTag" .word32) <|
    .field (.optional "SourceTag" .word32) <|
    .field (.optional "Expiration" .word32) <|
    .field (.optional "InvoiceID" .hash) <|
    .field .previousTxnId <|
    .field .previousTxnLgrSeq <|
    .field .index .done
  toRow check :=
    (check.account, check.destination, check.flags, check.sendMax, check.sequence,
      check.ownerNode, check.destinationNode, check.destinationTag, check.sourceTag,
      check.expiration, check.invoiceId, check.previousTxnId, check.previousTxnLgrSeq,
      check.index, ())
  ofRow := fun (account, destination, flags, sendMax, sequence, ownerNode, destinationNode,
      destinationTag, sourceTag, expiration, invoiceId, previousTxnId, previousTxnLgrSeq, index,
      ()) =>
    ⟨account, destination, flags, sendMax, sequence, ownerNode, destinationNode, destinationTag,
      sourceTag, expiration, invoiceId, previousTxnId, previousTxnLgrSeq, index⟩
  closed := false

end AffectedNodes
