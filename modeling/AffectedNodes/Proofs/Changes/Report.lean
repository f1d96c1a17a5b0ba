import AffectedNodes.Changes
import AffectedNodes.Proofs.Entry.RoundTrip

/-!
# What a change report lists

A report holds for each field the change between its two values, and nothing else.  Fields of
entries are exact and never null, so between two entries a field is reported exactly when its values
differ.
-/
namespace AffectedNodes

namespace FieldChange

variable {name : String} {before after : Option Json} {change : FieldChange}

theorem field_of_between? (changed : between? name before after = some change) :
    change.field = name := by
  cases before with
  | none =>
      cases after with
      | none => cases changed
      | some value =>
          cases changed
          rfl
  | some old =>
      cases after with
      | none =>
          cases changed
          rfl
      | some value =>
          rw [between?] at changed
          split at changed
          · cases changed
          · cases changed
            rfl

theorem between?_eq_none_iff (exact : ∀ value, before = some value → value.isExact = true) :
    between? name before after = none ↔ before = after := by
  cases before with
  | none => cases after <;> simp [between?]
  | some old =>
      cases after with
      | none => simp [between?]
      | some value =>
          rw [Option.some.injEq, ← Json.same_iff_eq (exact old rfl)]
          cases alike : old.same value <;> simp [between?, alike]

theorem eq_none_of_between?_added {value : Json}
    (changed : between? name before after = some (added name value)) : before = none := by
  cases before with
  | none => rfl
  | some old =>
      cases after with
      | none => cases changed
      | some value =>
          rw [between?] at changed
          split at changed <;> cases changed

theorem eq_none_of_between?_removed {value : Json}
    (changed : between? name before after = some (removed name value)) : after = none := by
  cases after with
  | none => rfl
  | some value =>
      cases before with
      | none => cases changed
      | some old =>
          rw [between?] at changed
          split at changed <;> cases changed

end FieldChange

namespace FieldChanges

variable {previous current : FieldMap} {name : String} {change : FieldChange}

theorem mem_names_overlay_of_between?
    (changed : FieldChange.between? name (previous.present? name) (current.present? name) =
      some change) : name ∈ (previous.overlay current).names := by
  rw [FieldMap.mem_names_iff, FieldMap.get?_overlay]
  cases inCurrent : current.get? name with
  | some value => rfl
  | none =>
      cases inPrevious : previous.get? name with
      | some value => rfl
      | none =>
          rw [FieldMap.present?, FieldMap.present?, inCurrent, inPrevious] at changed
          cases changed

/-- A report lists the changes between the two values of each field. -/
theorem mem_changes_iff :
    change ∈ (between previous current).changes ↔
      FieldChange.between? change.field (previous.present? change.field)
        (current.present? change.field) = some change := by
  rw [between, List.mem_filterMap]
  constructor
  · rintro ⟨name, _, changed⟩
    rw [FieldChange.field_of_between? changed]
    exact changed
  · intro changed
    exact ⟨change.field, mem_names_overlay_of_between? changed, changed⟩

theorem exists_change_iff :
    (∃ change ∈ (between previous current).changes, change.field = name) ↔
      FieldChange.between? name (previous.present? name) (current.present? name) ≠ none := by
  rw [Option.ne_none_iff_exists']
  constructor
  · rintro ⟨change, listed, rfl⟩
    exact ⟨change, mem_changes_iff.mp listed⟩
  · rintro ⟨change, changed⟩
    have named := FieldChange.field_of_between? changed
    subst named
    exact ⟨change, mem_changes_iff.mpr changed, rfl⟩

end FieldChanges

namespace LedgerEntry

variable {entry : LedgerEntry} {name : String} {value : Json}

theorem get?_fields_exact (held : entry.fields.get? name = some value) :
    value ≠ .null ∧ value.isExact = true := by
  by_cases tagged : name = FieldName.entryType
  · subst tagged
    cases entry.get?_fields_entryType.symm.trans held
    exact ⟨nofun, rfl⟩
  · rw [entry.get?_fields_of_ne tagged] at held
    exact entry.kind.schema_faithful.layout.fields.written held

theorem present?_fields (entry : LedgerEntry) (name : String) :
    entry.fields.present? name = entry.fields.get? name := by
  cases held : entry.fields.get? name with
  | none => exact FieldMap.present?_eq_none_iff.mpr (Or.inl held)
  | some value => exact FieldMap.present?_eq_some_iff.mpr ⟨held, (get?_fields_exact held).1⟩

/-- Between two entries a field is reported exactly when its values differ. -/
theorem exists_change_iff {previous current : LedgerEntry} :
    (∃ change ∈ (FieldChanges.between previous.fields current.fields).changes,
      change.field = name) ↔ previous.fields.get? name ≠ current.fields.get? name := by
  rw [FieldChanges.exists_change_iff, present?_fields, present?_fields]
  apply not_congr
  apply FieldChange.between?_eq_none_iff
  intro value held
  exact (get?_fields_exact held).2

end LedgerEntry

end AffectedNodes
