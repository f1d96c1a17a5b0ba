import AffectedNodes.Entry.Shared

/-!
# Offers

An offer to trade currencies, with the amounts that are still open and its place in the order
book.
-/
namespace AffectedNodes

structure Offer where
  account : Address
  flags : UInt32
  sequence : UInt32
  takerPays : Amount
  takerGets : Amount
  bookDirectory : Hash
  bookNode : String
  ownerNode : String
  expiration : Option UInt32
  previousTxnId : Hash
  previousTxnLgrSeq : LedgerSequence
  index : Hash
  deriving DecidableEq, Repr

def Offer.schema : Schema Offer where
  name := "OfferObject"
  Row := _
  layout :=
    .field .account <|
    .field .flags <|
    .field (.required "Sequence" .word32) <|
    .field (.required "TakerPays" .amount) <|
    .field (.required "TakerGets" .amount) <|
    .field (.required "BookDirectory" .hash) <|
    .field (.page "BookNode") <|
    .field .ownerNode <|
    .field (.optional "Expiration" .word32) <|
    .field .previousTxnId <|
    .field .previousTxnLgrSeq <|
    .field .index .done
  toRow offer :=
    (offer.account, offer.flags, offer.sequence, offer.takerPays, offer.takerGets,
      offer.bookDirectory, offer.bookNode, offer.ownerNode, offer.expiration,
      offer.previousTxnId, offer.previousTxnLgrSeq, offer.index, ())
  ofRow := fun (account, flags, sequence, takerPays, takerGets, bookDirectory, bookNode,
      ownerNode, expiration, previousTxnId, previousTxnLgrSeq, index, ()) =>
    ⟨account, flags, sequence, takerPays, takerGets, bookDirectory, bookNode, ownerNode,
      expiration, previousTxnId, previousTxnLgrSeq, index⟩
  closed := false

end AffectedNodes
