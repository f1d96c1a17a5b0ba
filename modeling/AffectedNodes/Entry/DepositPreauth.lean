import AffectedNodes.Entry.Shared

/-!
# Deposit preauthorizations

An account that screens its deposits names in such an entry one account that may pay it.
-/
namespace AffectedNodes

structure DepositPreauth where
  account : Address
  authorize : Address
  flags : UInt32
  ownerNode : String
  previousTxnId : Hash
  previousTxnLgrSeq : LedgerSequence
  index : Hash
  deriving DecidableEq, Repr

def DepositPreauth.schema : Schema DepositPreauth where
  name := "DepositPreauthObject"
  Row := _
  layout :=
    .field .account <|
    .field (.required "Authorize" .address) <|
    .field .flags <|
    .field .ownerNode <|
    .field .previousTxnId <|
    .field .previousTxnLgrSeq <|
    .field .index .done
  toRow permission :=
    (permission.account, permission.authorize, permission.flags, permission.ownerNode,
      permission.previousTxnId, permission.previousTxnLgrSeq, permission.index, ())
  ofRow := fun (account, authorize, flags, ownerNode, previousTxnId, previousTxnLgrSeq, index,
      ()) =>
    ⟨account, authorize, flags, ownerNode, previousTxnId, previousTxnLgrSeq, index⟩
  closed := false

end AffectedNodes
