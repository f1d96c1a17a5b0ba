import AffectedNodes.Record.Format

/-!
# Schemas of records

A record is described by the list of its fields in the order in which they are declared: for each
its name, its format, and what a missing field means.  One reader and one writer serve all records.

A record is read from an object or from an array of its values in declaration order.  In an object
the members are looked at in the order of their names, and the first that is given twice, is not
known to a closed schema, or cannot be read gives the fault; only then is a missing field
reported, the first in declaration order.  The record is written as an object without the optional
fields that it lacks.
-/
namespace AffectedNodes

structure Field (α : Type) where
  name : String
  aliases : List String
  read : Json → Except ReadFault α
  absent : Option α
  write : α → Option Json

namespace Field

def required (name : String) (format : Format α) (aliases : List String := []) : Field α where
  name
  aliases
  read := format.read
  absent := none
  write value := some (format.write value)

/-- A field that has the value `default` when it is missing, and is always written. -/
def defaulted (name : String) (format : Format α) (default : α) (aliases : List String := []) :
    Field α where
  name
  aliases
  read := format.read
  absent := some default
  write value := some (format.write value)

/-- A field that may be missing or null, and is written only if there is a value. -/
def optional (name : String) (format : Format α) : Field (Option α) where
  name
  aliases := []
  read := format.optional.read
  absent := some none
  write value := value.map format.write

def names (field : Field α) : List String := field.name :: field.aliases

def given? (field : Field α) (fields : FieldMap) : Option Json :=
  field.names.findSome? fields.get?

def readFrom (field : Field α) (fields : FieldMap) : Except ReadFault α :=
  match field.given? fields with
  | some value => field.read value
  | none => field.absent.elim (.error (.missingField field.name)) .ok

end Field

/-- The fields of a record whose values together have the type `σ`, in declaration order. -/
inductive Layout : Type → Type 1 where
  | done : Layout Unit
  | field (first : Field α) (rest : Layout σ) : Layout (α × σ)

/-- What is known of a field when its value is not wanted: its names, and which values fit. -/
structure Slot where
  name : String
  aliases : List String
  fault? : Json → Option ReadFault

def Slot.answersTo (slot : Slot) (name : String) : Bool :=
  name == slot.name || slot.aliases.contains name

namespace Layout

def slots : Layout σ → List Slot
  | done => []
  | field first rest =>
      ⟨first.name, first.aliases, fun value =>
        match first.read value with
        | .ok _ => none
        | .error fault => some fault⟩ :: rest.slots

def size (layout : Layout σ) : Nat := layout.slots.length

def readFields : Layout σ → FieldMap → Except ReadFault σ
  | done, _ => .ok ()
  | field first rest, fields => do
      let value ← first.readFrom fields
      let values ← rest.readFields fields
      return (value, values)

/-- Read the fields from values in declaration order, of which the first has the given position,
and give the values that are left over. -/
def readItems (record : String) (total : Nat) :
    Layout σ → Nat → List Json → Except ReadFault (σ × List Json)
  | done, _, items => .ok ((), items)
  | field first rest, position, [] => do
      let value ← first.absent.elim (.error (.tooFewItems position record total)) .ok
      let (values, left) ← rest.readItems record total (position + 1) []
      return ((value, values), left)
  | field first rest, position, item :: items => do
      let value ← first.read item
      let (values, left) ← rest.readItems record total (position + 1) items
      return ((value, values), left)

def write : Layout σ → σ → List (String × Json)
  | done, () => []
  | field first rest, (value, values) =>
      match first.write value with
      | some json => (first.name, json) :: rest.write values
      | none => rest.write values

end Layout

/-- The first fault among members that are looked at in order, when the fields in `seen` have
been given already. -/
def firstFault (slots : List Slot) (closed : Bool) (seen : List String) :
    List (String × Json) → Option ReadFault
  | [] => none
  | (name, value) :: rest =>
      match slots.find? fun slot => slot.answersTo name with
      | none =>
          if closed then some (.unknownField name (slots.map (·.name)))
          else firstFault slots closed seen rest
      | some slot =>
          if seen.contains slot.name then some (.duplicateField slot.name)
          else
            match slot.fault? value with
            | some fault => some fault
            | none => firstFault slots closed (slot.name :: seen) rest

/-- A record of type `ρ`: its name in messages, its fields, and how the record is put together
from their values.  Members that a schema does not know are an error only if it is closed. -/
structure Schema (ρ : Type) : Type 1 where
  name : String
  Row : Type
  layout : Layout Row
  toRow : ρ → Row
  ofRow : Row → ρ
  closed : Bool

namespace Schema

def readFields (schema : Schema ρ) (fields : FieldMap) : Except ReadFault ρ :=
  match firstFault schema.layout.slots schema.closed [] fields.entries with
  | some fault => .error fault
  | none => (schema.layout.readFields fields).map schema.ofRow

def readItems (schema : Schema ρ) (items : List Json) : Except ReadFault ρ :=
  match schema.layout.readItems schema.name schema.layout.size 0 items with
  | .error fault => .error fault
  | .ok (row, []) => .ok (schema.ofRow row)
  | .ok (_, _ :: _) => .error (.tooManyItems items.length schema.layout.size)

def writeFields (schema : Schema ρ) (record : ρ) : FieldMap :=
  FieldMap.ofList (schema.layout.write (schema.toRow record))

def format (schema : Schema ρ) : Format ρ where
  read
    | .object members => schema.readFields (FieldMap.ofList members)
    | .array items => schema.readItems items
    | other => .error (.wrongType other.shape ("struct " ++ schema.name))
  write record := (schema.writeFields record).toJson

end Schema

end AffectedNodes
