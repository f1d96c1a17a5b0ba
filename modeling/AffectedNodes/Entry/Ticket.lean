import AffectedNodes.Entry.Shared

/-!
# Tickets

A ticket sets a sequence number aside for a later transaction.
-/
namespace AffectedNodes

structure Ticket where
  account : Address
  flags : UInt32
  ownerNode : String
  ticketSequence : UInt32
  previousTxnId : Hash
  previousTxnLgrSeq : LedgerSequence
  index : Hash
  deriving DecidableEq, Repr

def Ticket.schema : Schema Ticket where
  name := "TicketObject"
  Row := _
  layout :=
    .field .account <|
    .field .flags <|
    .field .ownerNode <|
    .field (.required "TicketSequence" .word32) <|
    .field .previousTxnId <|
    .field .previousTxnLgrSeq <|
    .field .index .done
  toRow ticket :=
    (ticket.account, ticket.flags, ticket.ownerNode, ticket.ticketSequence, ticket.previousTxnId,
      ticket.previousTxnLgrSeq, ticket.index, ())
  ofRow := fun (account, flags, ownerNode, ticketSequence, previousTxnId, previousTxnLgrSeq,
      index, ()) =>
    ⟨account, flags, ownerNode, ticketSequence, previousTxnId, previousTxnLgrSeq, index⟩
  closed := false

end AffectedNodes
