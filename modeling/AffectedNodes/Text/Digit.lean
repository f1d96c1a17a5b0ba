/-!
# Numbers in texts

Digits of a base up to sixteen, of which those above nine are letters of either case, and natural
numbers written in decimal.

A message may end by naming the line and the column that it is about, as in `… at line 3 column 5`.
Such an ending is told apart from the wording and written anew: line zero stands for no position
and goes unsaid, and the numbers of any other position lose their leading zeros.  Only the last
position of a message is read, and only if both numbers fit 64 bits.
-/
namespace AffectedNodes.Text

def digit? (base : Nat) (c : Char) : Option Nat :=
  let code := c.toNat
  let value :=
    if '0'.toNat ≤ code ∧ code ≤ '9'.toNat then code - '0'.toNat
    else if 'a'.toNat ≤ code ∧ code ≤ 'f'.toNat then code - 'a'.toNat + 10
    else if 'A'.toNat ≤ code ∧ code ≤ 'F'.toNat then code - 'A'.toNat + 10
    else base
  if value < base then some value else none

/-- The number that digits write, of which the most significant comes first. -/
def valueOf (base : Nat) (digits : List Nat) : Nat :=
  digits.foldl (fun value digit => value * base + digit) 0

def natural? (text : List Char) : Option Nat :=
  if text.isEmpty then none else (text.mapM (digit? 10)).map (valueOf 10)

/-- The number that decimal digits after at most one plus sign write, if it fits 64 bits. -/
def word64? (text : String) : Option UInt64 :=
  let digits :=
    match text.toList with
    | '+' :: digits => digits
    | digits => digits
  match natural? digits with
  | some value => if value < UInt64.size then some (UInt64.ofNat value) else none
  | none => none

/-! ### Positions at the end of a message -/

structure Position where
  line : Nat
  column : Nat
  deriving DecidableEq, Repr

namespace Position

def ending (position : Position) : List Char :=
  if position.line = 0 then []
  else
    (" at line " ++ toString position.line ++ " column " ++ toString position.column).toList

def number? (text : List Char) : Option (Nat × List Char) :=
  match natural? (text.takeWhile Char.isDigit) with
  | some value =>
      if value < UInt64.size then some (value, text.dropWhile Char.isDigit) else none
  | none => none

/-- The position that a text names if it is nothing but the ending of a message. -/
def ofEnding? (text : List Char) : Option Position := do
  let (line, text) ← number? (← " at line ".toList.isPrefixOf? text)
  let (column, text) ← number? (← " column ".toList.isPrefixOf? text)
  if text.isEmpty then some ⟨line, column⟩ else none

/-- A message in which the position that it ends with is written anew. -/
def restated : List Char → List Char
  | [] => []
  | c :: rest =>
      match ofEnding? (c :: rest) with
      | some position => position.ending
      | none => c :: restated rest

end Position

def restatePosition (message : String) : String :=
  String.ofList (Position.restated message.toList)

end AffectedNodes.Text
