import AffectedNodes.Entry.Shared

/-!
# Payment channels

A payment channel sets XRP aside that its destination claims step by step.
-/
namespace AffectedNodes

structure PayChannel where
  account : Address
  destination : Address
  amount : Drops
  balance : Drops
  publicKey : String
  settleDelay : UInt32
  flags : UInt32
  ownerNode : String
  destinationNode : Option String
  expiration : Option UInt32
  cancelAfter : Option UInt32
  sourceTag : Option UInt32
  destinationTag : Option UInt32
  previousTxnId : Hash
  previousTxnLgrSeq : LedgerSequence
  index : Hash
  deriving DecidableEq, Repr

/-- The schema of payment channels; a new one has paid nothing yet. -/
def PayChannel.schema : Schema PayChannel where
  name := "PayChannelObject"
  Row := _
  layout :=
    .field .account <|
    .field .destination <|
    .field (.required "Amount" .drops) <|
    .field (.defaulted "Balance" .drops ⟨0⟩) <|
    .field (.required "PublicKey" .text) <|
    .field (.defaulted "SettleDelay" .word32 0) <|
    .field .flags <|
    .field .ownerNode <|
    .field (.optional "DestinationNode" .text) <|
    .field (.optional "Expiration" .word32) <|
    .field (.optional "CancelAfter" .word32) <|
    .field (.optional "SourceTag" .word32) <|
    .field (.optional "DestinationTag" .word32) <|
    .field .previousTxnId <|
    .field .previousTxnLgrSeq <|
    .field .index .done
  toRow channel :=
    (channel.account, channel.destination, channel.amount, channel.balance, channel.publicKey,
      channel.settleDelay, channel.flags, channel.ownerNode, channel.destinationNode,
      channel.expiration, channel.cancelAfter, channel.sourceTag, channel.destinationTag,
      channel.previousTxnId, channel.previousTxnLgrSeq, channel.index, ())
  ofRow := fun (account, destination, amount, balance, publicKey, settleDelay, flags, ownerNode,
      destinationNode, expiration, cancelAfter, sourceTag, destinationTag, previousTxnId,
      previousTxnLgrSeq, index, ()) =>
    ⟨account, destination, amount, balance, publicKey, settleDelay, flags, ownerNode,
      destinationNode, expiration, cancelAfter, sourceTag, destinationTag, previousTxnId,
      previousTxnLgrSeq, index⟩
  closed := false

end AffectedNodes
