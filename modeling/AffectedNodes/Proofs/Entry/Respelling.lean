import AffectedNodes.Proofs.Entry.Canonical
import AffectedNodes.Proofs.Record.Declared

/-!
# Records that spell one member differently

A format may read one value from several spellings.  A record in which one member is spelled in
another way gives the same entry, and so it does after any values are laid over it.
-/
namespace AffectedNodes

/-- Two maps have the same members except for one, which has a value in both that the format reads
alike. -/
structure FieldMap.Respells (name : String) (format : Format α) (fields other : FieldMap) :
    Prop where
  kept : ∀ wanted, wanted ≠ name → other.get? wanted = fields.get? wanted
  spelled : ∃ value value' read, fields.present? name = some value ∧
    other.present? name = some value' ∧ format.read value = .ok read ∧ format.read value' = .ok read

namespace FieldMap.Respells

variable {name : String} {format : Format α} {fields other : FieldMap}

theorem symm (respells : Respells name format fields other) :
    Respells name format other fields where
  kept wanted different := (respells.kept wanted different).symm
  spelled := by
    obtain ⟨value, value', read, held, held', reads, reads'⟩ := respells.spelled
    exact ⟨value', value, read, held', held, reads', reads⟩

theorem overlay (respells : Respells name format fields other) (delta : FieldMap) :
    fields.overlay delta = other.overlay delta ∨
      Respells name format (fields.overlay delta) (other.overlay delta) := by
  cases named : delta.get? name with
  | some value =>
      left
      apply ext_get?
      intro wanted
      rw [get?_overlay, get?_overlay]
      by_cases same : wanted = name
      · rw [same, named, Option.some_or, Option.some_or]
      · rw [respells.kept wanted same]
  | none =>
      right
      constructor
      · intro wanted different
        rw [get?_overlay, get?_overlay, respells.kept wanted different]
      · simp only [present?, get?_overlay, named, Option.none_or]
        exact respells.spelled

end FieldMap.Respells

theorem Field.readFrom_of_get? {field : Field α} {fields : FieldMap} {value : Json}
    (unaliased : field.aliases = []) (found : fields.get? field.name = some value) :
    field.readFrom fields = field.read value := by
  rw [readFrom, given?_of_aliases_eq_nil unaliased, found]

namespace Layout

variable {layout : Layout σ} {fields other : FieldMap} {row : σ} {name : String}

theorem Holds.reads_again {wanted : Field α} {held : α} (holds : Holds wanted held layout row)
    (faithful : layout.Faithful) (unaliased : layout.aliases = []) (reads : layout.Reads fields row)
    (again : wanted.readFrom other = .ok held)
    (kept : ∀ name, name ≠ wanted.name → other.get? name = fields.get? name) :
    layout.Reads other row := by
  induction holds with
  | here =>
      rw [aliases_field, List.append_eq_nil_iff] at unaliased
      refine ⟨again, reads.2.of_kept_or_written faithful.tail unaliased.2 ?_⟩
      intro name member
      exact Or.inl (kept name fun same => faithful.name_not_mem (same ▸ member))
  | @there _ _ first _ _ _ later ih =>
      rw [aliases_field, List.append_eq_nil_iff] at unaliased
      have notFirst : first.name ≠ wanted.name := fun same =>
        faithful.name_not_mem (same ▸ later.name_mem)
      refine ⟨?_, ih faithful.tail unaliased.2 reads.2⟩
      have sameGiven : first.given? other = first.given? fields := by
        rw [Field.given?_of_aliases_eq_nil unaliased.1, Field.given?_of_aliases_eq_nil unaliased.1,
          kept first.name notFirst]
      rw [Field.readFrom, sameGiven]
      exact reads.1

theorem Tells.name_mem {format : Format α} {told : Option α}
    (tells : Tells name format layout row told) : name ∈ layout.names := by
  cases tells with
  | required holds => exact holds.name_mem
  | optional holds => exact holds.name_mem

/-- A row that tells a value is read again from another spelling of that value. -/
theorem Tells.reads_again {format : Format α} {told : Option α}
    (tells : Tells name format layout row told) (faithful : layout.Faithful)
    (unaliased : layout.aliases = []) (reads : layout.Reads fields row)
    (respells : FieldMap.Respells name format fields other) : layout.Reads other row := by
  obtain ⟨value, value', read, held, held', readValue, readValue'⟩ := respells.spelled
  obtain ⟨found', notNull'⟩ := FieldMap.present?_eq_some_iff.mp held'
  obtain ⟨_, rfl, readTold, -⟩ := tells.of_present faithful reads held
  obtain rfl := Except.ok.inj (readValue.symm.trans readTold)
  cases tells with
  | required holds =>
      refine holds.reads_again faithful unaliased reads ?_ respells.kept
      exact (Field.readFrom_of_get? rfl found').trans readValue'
  | optional holds =>
      refine holds.reads_again faithful unaliased reads ?_ respells.kept
      have readOptional : format.optional.read value' = .ok (some read) := by
        rw [Format.optional_read_of_ne_null notNull', readValue']
        rfl
      exact (Field.readFrom_of_get? rfl found').trans readOptional

end Layout

variable {name : String} {format : Format α} {entry : LedgerEntry} {record other : FieldMap}

/-- An entry that tells a value is read again from a record that spells it differently. -/
theorem LedgerEntry.ReadFrom.of_respelled {told : Option α} (readFrom : entry.ReadFrom record)
    (tells : Layout.Tells name format entry.kind.schema.layout
      (entry.kind.schema.toRow entry.data) told)
    (respells : FieldMap.Respells name format record other) : entry.ReadFrom other := by
  have layoutFaithful := entry.kind.schema_faithful.layout
  have notTag : FieldName.entryType ≠ name := fun same =>
    entry.kind.entryType_not_mem_names (same ▸ tells.name_mem)
  refine ⟨(respells.kept FieldName.entryType notTag).trans readFrom.1, ?_⟩
  exact tells.reads_again layoutFaithful entry.kind.schema_unaliased readFrom.2 respells

end AffectedNodes
