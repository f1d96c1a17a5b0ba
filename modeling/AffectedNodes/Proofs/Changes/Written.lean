import AffectedNodes.Proofs.Changes.Snapshots
import AffectedNodes.Proofs.Input.Plain
import Mathlib.Data.List.Forall2

/-!
# Reports as JSON

A report is written as an object that lists its changes, and each change as an object that tells what
kind of change it is, the field, and the values.  In a report on snapshots all of these values are
plain, and so is the report as it is written.
-/
namespace AffectedNodes

namespace FieldChange

/-- The members that tell the change of a field, and there are no others. -/
inductive ToldBy : FieldChange → FieldMap → Prop where
  | added {field : String} {value : Json} {told : FieldMap}
      (names : told.names = ["change", "field", "value"])
      (sort : told.get? "change" = some (.string "added"))
      (named : told.get? "field" = some (.string field))
      (held : told.get? "value" = some value) : ToldBy (.added field value) told
  | removed {field : String} {value : Json} {told : FieldMap}
      (names : told.names = ["change", "field", "value"])
      (sort : told.get? "change" = some (.string "removed"))
      (named : told.get? "field" = some (.string field))
      (held : told.get? "value" = some value) : ToldBy (.removed field value) told
  | modified {field : String} {previous current : Json} {told : FieldMap}
      (names : told.names = ["change", "current", "field", "previous"])
      (sort : told.get? "change" = some (.string "modified"))
      (named : told.get? "field" = some (.string field))
      (before : told.get? "previous" = some previous)
      (after : told.get? "current" = some current) : ToldBy (.modified field previous current) told

structure Plain (depth : Nat) (change : FieldChange) : Prop where
  before : ∀ value, change.before? = some value → value.isPlain depth = true
  after : ∀ value, change.after? = some value → value.isPlain depth = true

theorem Plain.toJson {depth : Nat} {change : FieldChange} (plain : change.Plain depth) :
    change.toJson.isPlain (depth + 1) = true := by
  cases change with
  | added field value =>
      apply Json.isPlain_ofList
      simp [plain.after value rfl]
  | removed field value =>
      apply Json.isPlain_ofList
      simp [plain.before value rfl]
  | modified field previous current =>
      apply Json.isPlain_ofList
      simp [plain.before previous rfl, plain.after current rfl]

end FieldChange

namespace FieldChanges

variable {depth : Nat} {report : FieldChanges}

/-- A value that tells a report: an object of which the only member lists the changes. -/
inductive ToldBy (report : FieldChanges) : Json → Prop where
  | listed {told : List FieldMap} (each : List.Forall₂ FieldChange.ToldBy report.changes told) :
      ToldBy report (.object [("changes", .array (told.map FieldMap.toJson))])

theorem plain_toJson (plain : ∀ change ∈ report.changes, change.Plain depth) :
    report.toJson.isPlain (depth + 3) = true := by
  have listed : (Json.array (report.changes.map FieldChange.toJson)).isPlain (depth + 2) = true := by
    refine Json.isPlain_array.mpr fun item member => ?_
    obtain ⟨change, changed, rfl⟩ := List.mem_map.mp member
    exact (plain change changed).toJson
  exact Json.isPlain_object.mpr
    ⟨List.pairwise_singleton _ _, List.forall_mem_singleton.mpr listed⟩

end FieldChanges

end AffectedNodes
