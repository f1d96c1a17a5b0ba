import AffectedNodes.Record.Schema

/-!
# Shared parts of entries

The schemas of amounts and assets, and the fields that several kinds of entries have in common.
Four fields tell which object an entry is and which transaction touched it last.
-/
namespace AffectedNodes

namespace FieldName

def entryType : String := "LedgerEntryType"

def ledgerIndex : String := "LedgerIndex"

def index : String := "index"

def previousTxnId : String := "PreviousTxnID"

def previousTxnLgrSeq : String := "PreviousTxnLgrSeq"

end FieldName

def IssuedAmount.schema : Schema IssuedAmount where
  name := "IssuedCurrencyAmount"
  Row := _
  layout :=
    .field (.required "currency" .text) <|
    .field (.required "issuer" .address) <|
    .field (.required "value" .text) .done
  toRow amount := (amount.currency, amount.issuer, amount.value, ())
  ofRow := fun (currency, issuer, value, ()) => ⟨currency, issuer, value⟩
  closed := false

def Issue.schema : Schema Issue where
  name := "Issue"
  Row := _
  layout :=
    .field (.required "currency" .text) <|
    .field (.optional "issuer" .address) .done
  toRow issue := (issue.currency, issue.issuer, ())
  ofRow := fun (currency, issuer, ()) => ⟨currency, issuer⟩
  closed := false

namespace Format

def issuedAmount : Format IssuedAmount := IssuedAmount.schema.format

def issue : Format Issue := Issue.schema.format

/-- Amounts of either shape, which differ in what they look like and carry no tag. -/
def amount : Format Amount where
  read value :=
    match drops.read value, issuedAmount.read value with
    | .ok count, _ => .ok (.xrp count)
    | .error _, .ok issued => .ok (.issued issued)
    | .error _, .error _ => .error (.noVariantFits "CurrencyAmount")
  write
    | .xrp count => drops.write count
    | .issued issued => issuedAmount.write issued

end Format

namespace Field

def account : Field Address := .required "Account" .address

def destination : Field Address := .required "Destination" .address

/-- The flags of an entry, none of them set unless they are given. -/
def flags : Field UInt32 := .defaulted "Flags" .word32 0

/-- The hint that points to the first page of a directory. -/
def firstPage : String := "0000000000000000"

/-- A hint to a page of a directory, the first one unless it is given. -/
def page (name : String) : Field String := .defaulted name .text firstPage

/-- The page of the owner's directory that lists the entry. -/
def ownerNode : Field String := page "OwnerNode"

def previousTxnId : Field Hash := .required FieldName.previousTxnId .hash

def previousTxnLgrSeq : Field LedgerSequence := .required FieldName.previousTxnLgrSeq .sequence

def index : Field Hash := .required FieldName.index .hash

end Field

end AffectedNodes
