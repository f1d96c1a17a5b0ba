import AffectedNodes.Entry.Shared

/-!
# Account roots

The entry of an account: its balance, its transaction sequence and its settings.
-/
namespace AffectedNodes

structure AccountRoot where
  account : Address
  balance : Drops
  flags : UInt32
  ownerCount : UInt32
  sequence : UInt32
  previousTxnId : Hash
  previousTxnLgrSeq : LedgerSequence
  accountTxnId : Option Hash
  domain : Option String
  emailHash : Option String
  messageKey : Option String
  regularKey : Option Address
  ticketCount : Option UInt32
  tickSize : Option UInt8
  transferRate : Option UInt32
  index : Hash
  deriving DecidableEq, Repr

def AccountRoot.schema : Schema AccountRoot where
  name := "AccountRootObject"
  Row := _
  layout :=
    .field .account <|
    .field (.required "Balance" .drops) <|
    .field .flags <|
    .field (.defaulted "OwnerCount" .word32 0) <|
    .field (.required "Sequence" .word32) <|
    .field .previousTxnId <|
    .field .previousTxnLgrSeq <|
    .field (.optional "AccountTxnID" .hash) <|
    .field (.optional "Domain" .text) <|
    .field (.optional "EmailHash" .text) <|
    .field (.optional "MessageKey" .text) <|
    .field (.optional "RegularKey" .address) <|
    .field (.optional "TicketCount" .word32) <|
    .field (.optional "TickSize" .word8) <|
    .field (.optional "TransferRate" .word32) <|
    .field .index .done
  toRow root :=
    (root.account, root.balance, root.flags, root.ownerCount, root.sequence, root.previousTxnId,
      root.previousTxnLgrSeq, root.accountTxnId, root.domain, root.emailHash, root.messageKey,
      root.regularKey, root.ticketCount, root.tickSize, root.transferRate, root.index, ())
  ofRow := fun (account, balance, flags, ownerCount, sequence, previousTxnId, previousTxnLgrSeq,
      accountTxnId, domain, emailHash, messageKey, regularKey, ticketCount, tickSize,
      transferRate, index, ()) =>
    ⟨account, balance, flags, ownerCount, sequence, previousTxnId, previousTxnLgrSeq,
      accountTxnId, domain, emailHash, messageKey, regularKey, ticketCount, tickSize,
      transferRate, index⟩
  closed := false

end AffectedNodes
