import AffectedNodes.Entry.Shared

/-!
# Escrows

An escrow holds an amount until its time or its condition is met.
-/
namespace AffectedNodes

structure Escrow where
  account : Address
  destination : Address
  amount : Amount
  flags : UInt32
  condition : Option String
  cancelAfter : Option UInt32
  finishAfter : Option UInt32
  sourceTag : Option UInt32
  destinationTag : Option UInt32
  ownerNode : String
  destinationNode : Option String
  previousTxnId : Hash
  previousTxnLgrSeq : LedgerSequence
  index : Hash
  deriving DecidableEq, Repr

def Escrow.schema : Schema Escrow where
  name := "EscrowObject"
  Row := _
  layout :=
    .field .account <|
    .field .destination <|
    .field (.required "Amount" .amount) <|
    .field .flags <|
    .field (.optional "Condition" .text) <|
    .field (.optional "CancelAfter" .word32) <|
    .field (.optional "FinishAfter" .word32) <|
    .field (.optional "SourceTag" .word32) <|
    .field (.optional "DestinationTag" .word32) <|
    .field .ownerNode <|
    .field (.optional "DestinationNode" .text) <|
    .field .previousTxnId <|
    .field .previousTxnLgrSeq <|
    .field .index .done
  toRow escrow :=
    (escrow.account, escrow.destination, escrow.amount, escrow.flags, escrow.condition,
      escrow.cancelAfter, escrow.finishAfter, escrow.sourceTag, escrow.destinationTag,
      escrow.ownerNode, escrow.destinationNode, escrow.previousTxnId, escrow.previousTxnLgrSeq,
      escrow.index, ())
  ofRow := fun (account, destination, amount, flags, condition, cancelAfter, finishAfter,
      sourceTag, destinationTag, ownerNode, destinationNode, previousTxnId, previousTxnLgrSeq,
      index, ()) =>
    ⟨account, destination, amount, flags, condition, cancelAfter, finishAfter, sourceTag,
      destinationTag, ownerNode, destinationNode, previousTxnId, previousTxnLgrSeq, index⟩
  closed := false

end AffectedNodes
