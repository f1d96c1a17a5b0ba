import AffectedNodes.Entry.Shared

/-!
# Signer lists

A signer list names the accounts that may sign together for another one, and how much each
signature weighs.
-/
namespace AffectedNodes

structure SignerEntry where
  account : Address
  signerWeight : UInt16
  deriving DecidableEq, Repr

def SignerEntry.schema : Schema SignerEntry where
  name := "SignerEntry"
  Row := _
  layout :=
    .field .account <|
    .field (.required "SignerWeight" .word16) .done
  toRow signer := (signer.account, signer.signerWeight, ())
  ofRow := fun (account, signerWeight, ()) => ⟨account, signerWeight⟩
  closed := false

structure SignerSlot where
  signerEntry : SignerEntry
  deriving DecidableEq, Repr

def SignerSlot.schema : Schema SignerSlot where
  name := "SignerEntryWrapper"
  Row := _
  layout :=
    .field (.required "SignerEntry" SignerEntry.schema.format) .done
  toRow slot := (slot.signerEntry, ())
  ofRow := fun (signerEntry, ()) => ⟨signerEntry⟩
  closed := false

structure SignerList where
  flags : UInt32
  ownerNode : String
  signerQuorum : UInt32
  signerEntries : List SignerSlot
  signerListId : UInt32
  previousTxnId : Hash
  previousTxnLgrSeq : LedgerSequence
  index : Hash
  deriving DecidableEq, Repr

def SignerList.schema : Schema SignerList where
  name := "SignerListObject"
  Row := _
  layout :=
    .field .flags <|
    .field .ownerNode <|
    .field (.required "SignerQuorum" .word32) <|
    .field (.required "SignerEntries" SignerSlot.schema.format.list) <|
    .field (.defaulted "SignerListID" .word32 0) <|
    .field .previousTxnId <|
    .field .previousTxnLgrSeq <|
    .field .index .done
  toRow signers :=
    (signers.flags, signers.ownerNode, signers.signerQuorum, signers.signerEntries,
      signers.signerListId, signers.previousTxnId, signers.previousTxnLgrSeq, signers.index, ())
  ofRow := fun (flags, ownerNode, signerQuorum, signerEntries, signerListId, previousTxnId,
      previousTxnLgrSeq, index, ()) =>
    ⟨flags, ownerNode, signerQuorum, signerEntries, signerListId, previousTxnId,
      previousTxnLgrSeq, index⟩
  closed := false

end AffectedNodes
