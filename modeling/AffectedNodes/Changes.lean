import AffectedNodes.Node.Basic

/-!
# Field changes

A change report lists the fields in which two versions of an object differ, by name.  A field that
is null counts as missing.  A report can be applied to the earlier version, which gives the later
one, and taken back from the later version, which gives the earlier one, in both cases up to
fields that are null.
-/
namespace AffectedNodes

inductive FieldChange where
  | added (field : String) (value : Json)
  | removed (field : String) (value : Json)
  | modified (field : String) (previous current : Json)
  deriving Repr

namespace FieldChange

def field : FieldChange → String
  | added field _ | removed field _ | modified field .. => field

def toJson : FieldChange → Json
  | added field value =>
      (FieldMap.ofList [("change", .string "added"), ("field", .string field),
        ("value", value)]).toJson
  | removed field value =>
      (FieldMap.ofList [("change", .string "removed"), ("field", .string field),
        ("value", value)]).toJson
  | modified field previous current =>
      (FieldMap.ofList [("change", .string "modified"), ("field", .string field),
        ("previous", previous), ("current", current)]).toJson

def between? (field : String) (previous current : Option Json) : Option FieldChange :=
  match previous, current with
  | none, none => none
  | none, some value => some (added field value)
  | some value, none => some (removed field value)
  | some before, some after =>
      if before.same after then none else some (modified field before after)

def apply (fields : FieldMap) : FieldChange → FieldMap
  | added field value | modified field _ value => fields.insert field value
  | removed field _ => fields.erase field

def revert (fields : FieldMap) : FieldChange → FieldMap
  | removed field value | modified field value _ => fields.insert field value
  | added field _ => fields.erase field

end FieldChange

/-- The changes between two versions of an object, in the order of the field names. -/
structure FieldChanges where
  changes : List FieldChange
  deriving Repr

namespace FieldChanges

def between (previous current : FieldMap) : FieldChanges :=
  ⟨(previous.overlay current).names.filterMap fun name =>
    FieldChange.between? name (previous.present? name) (current.present? name)⟩

def size (report : FieldChanges) : Nat := report.changes.length

def isEmpty (report : FieldChanges) : Bool := report.changes.isEmpty

def get? (report : FieldChanges) (field : String) : Option FieldChange :=
  report.changes.find? fun change => change.field == field

def additions (report : FieldChanges) : Nat :=
  report.changes.countP fun
    | .added .. => true
    | _ => false

def removals (report : FieldChanges) : Nat :=
  report.changes.countP fun
    | .removed .. => true
    | _ => false

def modifications (report : FieldChanges) : Nat :=
  report.changes.countP fun
    | .modified .. => true
    | _ => false

def apply (report : FieldChanges) (previous : FieldMap) : FieldMap :=
  report.changes.foldl FieldChange.apply previous

def revert (report : FieldChanges) (current : FieldMap) : FieldMap :=
  report.changes.foldl FieldChange.revert current

def toJson (report : FieldChanges) : Json :=
  .object [("changes", .array (report.changes.map FieldChange.toJson))]

end FieldChanges

/-- Why an entry cannot be compared: what it is written as is no object. -/
structure WritingFault where
  type : EntryType
  written : Json

def WritingFault.message (fault : WritingFault) : String :=
  "serialization error: " ++ fault.type.wireName ++ " serialized to a non-object: " ++
    fault.written.compact

def LedgerEntry.writtenFields (entry : LedgerEntry) : Except WritingFault FieldMap :=
  match entry.toJson.fields? with
  | some fields => .ok fields
  | none => .error ⟨entry.type, entry.toJson⟩

namespace ModifiedNode

/-- What the transaction changed on the object, if the node has both states: both are written, and
what they are written as is compared. -/
def fieldChanges (node : ModifiedNode) : Except WritingFault (Option FieldChanges) :=
  match node.previousState, node.finalState with
  | some previous, some final => do
      let before ← previous.writtenFields
      let after ← final.writtenFields
      return some (FieldChanges.between before after)
  | _, _ => return none

end ModifiedNode

end AffectedNodes
