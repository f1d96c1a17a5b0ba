import AffectedNodes.Proofs.Json.Lookup
import AffectedNodes.Proofs.Record.Faithful
import AffectedNodes.Record.Schema

/-!
# Faithful fields

A faithful field is written so that it reads back, and is left out only for the value that stands
for a missing one; such a field may be null.  The three ways to declare a field give faithful fields
when their formats are faithful.
-/
namespace AffectedNodes

namespace Field

/-- Whether the field is one that may be null, which then stands for a missing value. -/
def isOptional (field : Field α) : Bool :=
  match field.read .null with
  | .ok _ => true
  | .error _ => false

/-- A field whose values are written so that they read back, and which is left out only for the
value that stands for a missing one. -/
structure Faithful (field : Field α) : Prop where
  read_write : ∀ {value json}, field.write value = some json → field.read json = .ok value
  absent_of_unwritten : ∀ {value}, field.write value = none → field.absent = some value
  null_of_unwritten :
    ∀ {value json}, field.write value = none → field.read json = .ok value → json = .null
  optional_of_unwritten : ∀ {value}, field.write value = none → field.isOptional = true
  write_ne_null : ∀ {value json}, field.write value = some json → json ≠ .null
  write_exact : ∀ {value json}, field.write value = some json → json.isExact = true

theorem faithful_of_write {field : Field α} {format : Format α} (faithful : format.Faithful)
    (read : field.read = format.read)
    (write : ∀ value, field.write value = some (format.write value)) : field.Faithful where
  read_write written := by
    cases (write _).symm.trans written
    rw [read]
    exact faithful.lawful _
  absent_of_unwritten unwritten := by cases (write _).symm.trans unwritten
  null_of_unwritten unwritten := by cases (write _).symm.trans unwritten
  optional_of_unwritten unwritten := by cases (write _).symm.trans unwritten
  write_ne_null written := by
    cases (write _).symm.trans written
    exact faithful.write_ne_null _
  write_exact written := by
    cases (write _).symm.trans written
    exact faithful.write_exact _

@[simp] theorem faithful_required (name : String) {format : Format α} (faithful : format.Faithful)
    (aliases : List String) : (required name format aliases).Faithful :=
  faithful_of_write faithful rfl fun _ => rfl

@[simp] theorem faithful_defaulted (name : String) {format : Format α} (faithful : format.Faithful)
    (default : α) (aliases : List String) : (defaulted name format default aliases).Faithful :=
  faithful_of_write faithful rfl fun _ => rfl

@[simp] theorem faithful_optional (name : String) {format : Format α} (faithful : format.Faithful) :
    (optional name format).Faithful where
  read_write {value json} written := by
    cases value with
    | none => cases written
    | some value =>
        cases written
        exact Format.optional_read_write faithful value
  absent_of_unwritten {value} unwritten := by
    cases value with
    | none => rfl
    | some value => cases unwritten
  null_of_unwritten {value json} unwritten read := by
    cases value with
    | none => exact Format.eq_null_of_optional_read read
    | some value => cases unwritten
  optional_of_unwritten _ := rfl
  write_ne_null {value json} written := by
    cases value with
    | none => cases written
    | some value =>
        cases written
        exact faithful.write_ne_null value
  write_exact {value json} written := by
    cases value with
    | none => cases written
    | some value =>
        cases written
        exact faithful.write_exact value

theorem readFrom_eq_ok_iff {field : Field α} {fields : FieldMap} {value : α} :
    field.readFrom fields = .ok value ↔
      (∃ json, field.given? fields = some json ∧ field.read json = .ok value) ∨
        (field.given? fields = none ∧ field.absent = some value) := by
  rw [readFrom]
  cases field.given? fields with
  | some json => simp
  | none => cases absent : field.absent <;> simp

theorem given?_of_aliases_eq_nil {field : Field α} (unaliased : field.aliases = [])
    (fields : FieldMap) : field.given? fields = fields.get? field.name := by
  rw [given?, names, unaliased, List.findSome?_cons]
  cases fields.get? field.name <;> rfl

theorem readFrom_required_iff {name : String} {format : Format α} {fields : FieldMap} {value : α} :
    (required name format).readFrom fields = .ok value ↔
      ∃ json, fields.get? name = some json ∧ format.read json = .ok value := by
  rw [readFrom_eq_ok_iff, given?_of_aliases_eq_nil rfl]
  constructor
  · rintro (given | ⟨-, absent⟩)
    · exact given
    · cases absent
  · exact Or.inl

/-- The value under the name of a field takes part in reading it, whatever its aliases are. -/
theorem read_of_readFrom {field : Field α} {fields : FieldMap} {value : α} {json : Json}
    (read : field.readFrom fields = .ok value) (found : fields.get? field.name = some json) :
    field.read json = .ok value := by
  have given : field.given? fields = some json := by
    rw [given?, names, List.findSome?_cons, found]
  rw [readFrom, given] at read
  exact read

theorem readFrom_of_written {field : Field α} (faithful : field.Faithful) {fields : FieldMap}
    {value : α} (found : fields.get? field.name = field.write value)
    (unaliased : ∀ name ∈ field.aliases, fields.get? name = none) :
    field.readFrom fields = .ok value := by
  rw [readFrom_eq_ok_iff, given?, names, List.findSome?_cons, found]
  cases written : field.write value with
  | some json => exact Or.inl ⟨json, rfl, faithful.read_write written⟩
  | none =>
      refine Or.inr ⟨?_, faithful.absent_of_unwritten written⟩
      exact List.findSome?_eq_none_iff.mpr unaliased

end Field

end AffectedNodes
