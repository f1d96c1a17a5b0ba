import AffectedNodes.Text.Digit

/-!
# Accounts and amounts

An account is named by its classic address.  Only the outer shape is checked: an address begins
with `r` and has 25 to 35 characters, all of them ASCII letters or digits.

XRP is counted in drops and written as a decimal text; the amount of an issued currency is a
decimal text of its own together with the currency and its issuer.
-/
namespace AffectedNodes

/-- Whether a text has the outer shape of a classic address. -/
def isAddressText (text : String) : Bool :=
  text.toList.head? == some 'r' && 25 ≤ text.toList.length && text.toList.length ≤ 35 &&
    text.toList.all Char.isAlphanum

structure Address where
  text : String
  wellFormed : isAddressText text = true
  deriving DecidableEq

namespace Address

def ofText? (text : String) : Option Address :=
  if wellFormed : isAddressText text = true then some ⟨text, wellFormed⟩ else none

@[simp] theorem ofText?_text (address : Address) : ofText? address.text = some address := by
  simp [ofText?, address.wellFormed]

def faultMessage (text : String) : String := "invalid address: " ++ text

instance : Ord Address := ⟨fun first second => compare first.text second.text⟩

instance : Repr Address := ⟨fun address _ => repr address.text⟩

def debugText (address : Address) : String := "Address(" ++ address.text ++ ")"

end Address

structure LedgerSequence where
  number : UInt32
  deriving DecidableEq, Repr, Inhabited

namespace LedgerSequence

/-- Ledger zero, which stands for a ledger that is not known. -/
def zero : LedgerSequence := ⟨0⟩

instance : Ord LedgerSequence := ⟨fun first second => compare first.number second.number⟩

def text (sequence : LedgerSequence) : String := toString sequence.number.toNat

end LedgerSequence

structure Drops where
  count : UInt64
  deriving DecidableEq, Repr, Inhabited

namespace Drops

/-- The amount written by decimal digits after at most one plus sign, if it fits 64 bits. -/
def ofText? (text : String) : Option Drops := (Text.word64? text).map .mk

def faultMessage (text : String) : String := "invalid amount: " ++ text

def text (drops : Drops) : String := toString drops.count.toNat

def display (drops : Drops) : String := drops.text ++ " drops"

instance : Ord Drops := ⟨fun first second => compare first.count second.count⟩

end Drops

/-- An amount of a currency that an account issues.  The value stays the text that it is written
as, so nothing is rounded. -/
structure IssuedAmount where
  currency : String
  issuer : Address
  value : String
  deriving DecidableEq, Repr

def IssuedAmount.display (amount : IssuedAmount) : String :=
  amount.value ++ " " ++ amount.currency ++ "/" ++ amount.issuer.text

inductive Amount where
  | xrp (drops : Drops)
  | issued (amount : IssuedAmount)
  deriving DecidableEq, Repr

namespace Amount

def isXrp : Amount → Bool
  | xrp _ => true
  | issued _ => false

def display : Amount → String
  | xrp drops => drops.display
  | issued amount => amount.display

end Amount

/-- An asset without a quantity: a currency, and its issuer unless the currency is XRP. -/
structure Issue where
  currency : String
  issuer : Option Address
  deriving DecidableEq, Repr

def Issue.xrp : Issue := ⟨"XRP", none⟩

end AffectedNodes
