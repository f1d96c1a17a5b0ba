import AffectedNodes.Json.Printer
import AffectedNodes.Ledger.Amount
import AffectedNodes.Ledger.Hash

/-!
# Why a value cannot be read

A typed value is read from JSON field by field.  A reading that fails names one fault: a value of
another shape, an integer out of range, a field that is missing or given twice, a name that is not
among the known ones, or a text that is no hash, address or amount.
-/
namespace AffectedNodes

/-- What a complaint says about a value that it did not want. -/
inductive Shape where
  | null
  | boolean (value : Bool)
  | integer (value : Int)
  | double (value : Double)
  | string (text : String)
  | sequence
  | map
  deriving DecidableEq, Repr

def Json.shape : Json → Shape
  | .null => .null
  | .bool value => .boolean value
  | .number (.integer value) => .integer value
  | .number (.double value) => .double value
  | .string text => .string text
  | .array _ => .sequence
  | .object _ => .map

namespace Shape

def text : Shape → String
  | null => "null"
  | boolean true => "boolean `true`"
  | boolean false => "boolean `false`"
  | integer value => "integer `" ++ toString value ++ "`"
  | double value => "floating point `" ++ value.numeral ++ "`"
  | string text => "string " ++ Text.quoted text
  | sequence => "sequence"
  | map => "map"

end Shape

inductive ReadFault where
  | wrongType (found : Shape) (wanted : String)
  | outOfRange (value : Int) (wanted : String)
  | missingField (name : String)
  | duplicateField (name : String)
  | unknownField (name : String) (known : List String)
  | unknownVariant (name : String) (known : List String)
  | noVariantFits (type : String)
  | notSingleKey
  | tooFewItems (given : Nat) (record : String) (fields : Nat)
  | tooManyItems (given fields : Nat)
  | tooManyItemsInTagged (given : Nat) (fields : Nat)
  | badHash (fault : Hash.Fault)
  | badAddress (text : String)
  | badDrops (text : String)
  deriving DecidableEq, Repr

namespace ReadFault

def backquoted (name : String) : String := "`" ++ name ++ "`"

def choices : List String → String
  | [name] => backquoted name
  | [first, second] => backquoted first ++ " or " ++ backquoted second
  | names => "one of " ++ ", ".intercalate (names.map backquoted)

def elements (count : Nat) : String :=
  if count = 1 then "1 element" else toString count ++ " elements"

/--
The fault in words.  A text that is no address or amount stands at the end of its complaint, and so
a position at the end of that text counts as the position of the complaint.
-/
def message : ReadFault → String
  | wrongType found wanted => "invalid type: " ++ found.text ++ ", expected " ++ wanted
  | outOfRange value wanted =>
      "invalid value: " ++ (Shape.integer value).text ++ ", expected " ++ wanted
  | missingField name => "missing field " ++ backquoted name
  | duplicateField name => "duplicate field " ++ backquoted name
  | unknownField name known =>
      "unknown field " ++ backquoted name ++ ", expected " ++ choices known
  | unknownVariant name known =>
      "unknown variant " ++ backquoted name ++ ", expected " ++ choices known
  | noVariantFits type => "data did not match any variant of untagged enum " ++ type
  | notSingleKey => "invalid value: map, expected map with a single key"
  | tooFewItems given record fields =>
      "invalid length " ++ toString given ++ ", expected struct " ++ record ++ " with " ++
        elements fields
  | tooManyItems given _ =>
      "invalid length " ++ toString given ++ ", expected fewer elements in array"
  | tooManyItemsInTagged given fields =>
      "invalid length " ++ toString given ++ ", expected " ++ elements fields ++ " in sequence"
  | badHash fault => fault.message
  | badAddress text => Text.restatePosition (Address.faultMessage text)
  | badDrops text => Text.restatePosition (Drops.faultMessage text)

/-- The fault as it is told when the value is part of an object that is told apart by its tag. -/
def inTagged : ReadFault → ReadFault
  | tooManyItems given fields => tooManyItemsInTagged given fields
  | fault => fault

end ReadFault

end AffectedNodes
