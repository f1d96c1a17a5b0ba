import AffectedNodes.Entry.Shared

/-!
# Trust lines

A trust line between two accounts, of which one is the low and one the high account.
-/
namespace AffectedNodes

structure RippleState where
  balance : IssuedAmount
  flags : UInt32
  lowLimit : IssuedAmount
  highLimit : IssuedAmount
  lowNode : Option String
  highNode : Option String
  lowQualityIn : Option UInt32
  lowQualityOut : Option UInt32
  highQualityIn : Option UInt32
  highQualityOut : Option UInt32
  previousTxnId : Hash
  previousTxnLgrSeq : LedgerSequence
  index : Hash
  deriving DecidableEq, Repr

def RippleState.schema : Schema RippleState where
  name := "RippleStateObject"
  Row := _
  layout :=
    .field (.required "Balance" .issuedAmount) <|
    .field .flags <|
    .field (.required "LowLimit" .issuedAmount) <|
    .field (.required "HighLimit" .issuedAmount) <|
    .field (.optional "LowNode" .text) <|
    .field (.optional "HighNode" .text) <|
    .field (.optional "LowQualityIn" .word32) <|
    .field (.optional "LowQualityOut" .word32) <|
    .field (.optional "HighQualityIn" .word32) <|
    .field (.optional "HighQualityOut" .word32) <|
    .field .previousTxnId <|
    .field .previousTxnLgrSeq <|
    .field .index .done
  toRow line :=
    (line.balance, line.flags, line.lowLimit, line.highLimit, line.lowNode, line.highNode,
      line.lowQualityIn, line.lowQualityOut, line.highQualityIn, line.highQualityOut,
      line.previousTxnId, line.previousTxnLgrSeq, line.index, ())
  ofRow := fun (balance, flags, lowLimit, highLimit, lowNode, highNode, lowQualityIn,
      lowQualityOut, highQualityIn, highQualityOut, previousTxnId, previousTxnLgrSeq, index,
      ()) =>
    ⟨balance, flags, lowLimit, highLimit, lowNode, highNode, lowQualityIn, lowQualityOut,
      highQualityIn, highQualityOut, previousTxnId, previousTxnLgrSeq, index⟩
  closed := false

namespace RippleState

/-- The flag of a line that counts toward the reserve of the low account. -/
def lowReserve : UInt32 := 0x10000

/-- The flag of a line that counts toward the reserve of the high account. -/
def highReserve : UInt32 := 0x20000

def hasFlag (line : RippleState) (flag : UInt32) : Bool := line.flags &&& flag == flag

end RippleState

end AffectedNodes
