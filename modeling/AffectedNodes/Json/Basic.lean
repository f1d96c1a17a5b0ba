import AffectedNodes.Json.Shortest

/-!
# JSON values

Values as they come out of a JSON document.  Integers and doubles are different numbers, so `1`
and `1.0` are different values; two doubles are compared as numbers.  The members of an object are
held in the order in which they stand; `AffectedNodes.FieldMap` gives the map that they denote.
-/
namespace AffectedNodes

/-- A JSON number: an integer that fits a word, signed or unsigned, or else a double. -/
inductive Number where
  | integer (value : Int)
  | double (value : Double)
  deriving DecidableEq, Repr, Inhabited

inductive Json where
  | null
  | bool (value : Bool)
  | number (value : Number)
  | string (text : String)
  | array (items : List Json)
  | object (members : List (String × Json))
  deriving Repr, Inhabited

namespace Number

/-- Whether two numbers are equal as JSON values: integers by value, doubles numerically. -/
def same : Number → Number → Bool
  | .integer m, .integer n => m == n
  | .double x, .double y => x.sameNumber y
  | _, _ => false

def text : Number → String
  | .integer value => toString value
  | .double value => value.numeral

end Number

namespace Json

def int (value : Int) : Json := .number (.integer value)

def nat (value : Nat) : Json := .number (.integer value)

mutual

/-- Whether two values are equal: alike in shape, with equal numbers, texts, items and members. -/
def same : Json → Json → Bool
  | .null, .null => true
  | .bool a, .bool b => a == b
  | .number m, .number n => m.same n
  | .string s, .string t => s == t
  | .array xs, .array ys => sameItems xs ys
  | .object xs, .object ys => sameMembers xs ys
  | _, _ => false

def sameItems : List Json → List Json → Bool
  | [], [] => true
  | x :: xs, y :: ys => same x y && sameItems xs ys
  | _, _ => false

def sameMembers : List (String × Json) → List (String × Json) → Bool
  | [], [] => true
  | (name, x) :: xs, (name', y) :: ys => name == name' && same x y && sameMembers xs ys
  | _, _ => false

end

def isNull : Json → Bool
  | .null => true
  | _ => false

@[simp] theorem isNull_iff {value : Json} : value.isNull = true ↔ value = .null := by
  cases value <;> simp [isNull]

def natural? : Json → Option Nat
  | .number (.integer (.ofNat n)) => some n
  | _ => none

def text? : Json → Option String
  | .string text => some text
  | _ => none

end Json

end AffectedNodes
