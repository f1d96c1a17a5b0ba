import AffectedNodes.Text.Digit
import AffectedNodes.Text.Quoted

/-!
# Hashes

Objects, transactions and order books are keyed by hashes of 32 bytes, written as 64 hexadecimal
digits.  Digits of either case are read, and upper case is written.  A text that is no hash is
rejected for the first of three reasons that applies: an odd number of bytes, then its leftmost
byte that is no digit, then a length other than 32.
-/
namespace AffectedNodes

structure Hash where
  bytes : List UInt8
  length_bytes : bytes.length = 32
  deriving DecidableEq

namespace Hash

inductive Fault where
  | oddDigits
  | notDigit (byte : UInt8) (position : Nat)
  | wrongLength (bytes : Nat)
  deriving DecidableEq, Repr

def byteCount : Nat := 32

namespace Fault

def message : Fault → String
  | oddDigits => "invalid hex string: Odd number of digits"
  | notDigit byte position =>
      "invalid hex string: Invalid character " ++ Text.quotedChar (Char.ofNat byte.toNat) ++
        " at position " ++ toString position
  | wrongLength bytes =>
      "invalid byte length: expected " ++ toString byteCount ++ ", got " ++ toString bytes

end Fault

/-- The hash of zeros, which stands for a transaction that is not known. -/
def zero : Hash := ⟨List.replicate 32 0, rfl⟩

instance : Inhabited Hash := ⟨zero⟩

def isZero (hash : Hash) : Bool := hash == zero

def hexDigit (n : Nat) : Char :=
  if n < 10 then Char.ofNat ('0'.toNat + n) else Char.ofNat ('A'.toNat + (n - 10))

def digitValue? (byte : UInt8) : Option Nat := Text.digit? 16 (Char.ofNat byte.toNat)

/-- The bytes written by pairs of digits, of which the first stands at `position`. -/
def ofDigits (position : Nat) : List UInt8 → Except Fault (List UInt8)
  | high :: low :: rest =>
      match digitValue? high, digitValue? low with
      | none, _ => .error (.notDigit high position)
      | some _, none => .error (.notDigit low (position + 1))
      | some h, some l => (ofDigits (position + 2) rest).map (UInt8.ofNat (h * 16 + l) :: ·)
  | _ => .ok []

def ofHex (text : String) : Except Fault Hash :=
  let digits := text.toList.flatMap String.utf8EncodeChar
  if digits.length % 2 = 1 then .error .oddDigits
  else
    match ofDigits 0 digits with
    | .error fault => .error fault
    | .ok bytes =>
        if fits : bytes.length = 32 then .ok ⟨bytes, fits⟩ else .error (.wrongLength bytes.length)

def byteDigits (byte : UInt8) : List Char :=
  [hexDigit (byte.toNat / 16), hexDigit (byte.toNat % 16)]

def toHex (hash : Hash) : String := String.ofList (hash.bytes.flatMap byteDigits)

/-- The digits of the first four bytes, by which listings show a hash. -/
def shortHex (hash : Hash) : String := String.ofList ((hash.bytes.take 4).flatMap byteDigits)

instance : Ord Hash := ⟨fun first second => compare first.bytes second.bytes⟩

instance : Repr Hash := ⟨fun hash _ => "Hash.ofHex " ++ repr hash.toHex⟩

def debugText (hash : Hash) : String := "Hash256(" ++ hash.shortHex ++ ")"

end Hash

end AffectedNodes
