import AffectedNodes.Proofs.Entry.RoundTrip

/-!
# What a record tells and what its entry writes

An entry writes each member in one way, while the record that it was read from may spell a hash in
digits of either case.  Where the members of a record are kept or replaced by what the entry writes,
the entry is read again.  The key and the bookkeeping of an entry are what its record has under
their names, and the entry writes them there.
-/
namespace AffectedNodes

namespace Layout

variable {layout : Layout σ} {fields other : FieldMap} {row : σ} {name : String}

/-- A row is read again where each member is kept or replaced by what the row writes. -/
theorem Reads.of_kept_or_written (reads : layout.Reads fields row) (faithful : layout.Faithful)
    (unaliased : layout.aliases = [])
    (agree : ∀ name ∈ layout.names,
      other.get? name = fields.get? name ∨ other.get? name = layout.written? row name) :
    layout.Reads other row := by
  induction layout with
  | done => trivial
  | field first rest ih =>
      obtain ⟨value, values⟩ := row
      rw [aliases_field, List.append_eq_nil_iff] at unaliased
      constructor
      · rcases agree first.name List.mem_cons_self with kept | written
        · have read := reads.1
          rw [Field.readFrom, Field.given?_of_aliases_eq_nil unaliased.1] at read ⊢
          rw [kept]
          exact read
        · rw [written?, if_pos rfl] at written
          apply Field.readFrom_of_written faithful.fields.1 written
          simp [unaliased.1]
      · -- names are distinct, so the rest of the row writes the members of the rest
        apply ih reads.2 faithful.tail unaliased.2
        intro name member
        have notFirst : name ≠ first.name := fun same => faithful.name_not_mem (same ▸ member)
        have agreeRest := agree name (List.mem_cons_of_mem _ member)
        rw [written?, if_neg notFirst] at agreeRest
        exact agreeRest

/-- A row tells a value in a field of that name, which is required or may be missing. -/
inductive Tells (name : String) (format : Format α) (layout : Layout σ) (row : σ) :
    Option α → Prop where
  | required {value : α} (holds : Holds (.required name format) value layout row) :
      Tells name format layout row (some value)
  | optional {value : Option α} (holds : Holds (.optional name format) value layout row) :
      Tells name format layout row value

theorem Tells.of_present {format : Format α} {told : Option α} {value : Json}
    (tells : Tells name format layout row told) (faithful : layout.Faithful)
    (reads : layout.Reads fields row) (held : fields.present? name = some value) :
    ∃ read, told = some read ∧ format.read value = .ok read ∧
      layout.written? row name = some (format.write read) := by
  obtain ⟨found, notNull⟩ := FieldMap.present?_eq_some_iff.mp held
  cases tells with
  | @required read holds =>
      have readHeld := Field.read_of_readFrom (reads.readFrom holds) found
      exact ⟨read, rfl, readHeld, holds.written? faithful⟩
  | optional holds =>
      have readHeld : format.optional.read value = .ok told :=
        Field.read_of_readFrom (reads.readFrom holds) found
      rw [Format.optional_read_of_ne_null notNull, map_eq_ok_iff] at readHeld
      obtain ⟨read, readHeld, rfl⟩ := readHeld
      exact ⟨read, rfl, readHeld, holds.written? faithful⟩

end Layout

namespace EntryKind

theorem tells_previousTxnId (kind : EntryKind) (data : kind.Data) :
    Layout.Tells FieldName.previousTxnId .hash kind.schema.layout (kind.schema.toRow data)
      (kind.previousTxnId? data) := by
  cases kind with
  | amm => exact .optional (by repeat first | exact .here | apply Layout.Holds.there)
  | _ => exact .required (by repeat first | exact .here | apply Layout.Holds.there)

theorem tells_previousTxnLgrSeq (kind : EntryKind) (data : kind.Data) :
    Layout.Tells FieldName.previousTxnLgrSeq .sequence kind.schema.layout (kind.schema.toRow data)
      (kind.previousTxnLgrSeq? data) := by
  cases kind with
  | amm => exact .optional (by repeat first | exact .here | apply Layout.Holds.there)
  | _ => exact .required (by repeat first | exact .here | apply Layout.Holds.there)

end EntryKind

namespace LedgerEntry

variable {entry : LedgerEntry} {record other : FieldMap} {value : Json}

theorem written?_index (entry : LedgerEntry) :
    entry.written? FieldName.index = some (.string entry.index.toHex) := by
  rw [← entry.get?_fields_of_ne (by decide), entry.get?_fields_index]

namespace ReadFrom

/-- An entry is read again where each member is kept or replaced by what the entry writes. -/
theorem of_kept_or_written (readFrom : entry.ReadFrom record)
    (tagged : other.get? FieldName.entryType = record.get? FieldName.entryType)
    (agree : ∀ name ∈ entry.names,
      other.get? name = record.get? name ∨ other.get? name = entry.written? name) :
    entry.ReadFrom other := by
  refine ⟨tagged.trans readFrom.1, ?_⟩
  exact readFrom.2.of_kept_or_written entry.kind.schema_faithful.layout entry.kind.schema_unaliased
    agree

theorem exists_index (readFrom : entry.ReadFrom record) :
    ∃ value, record.get? FieldName.index = some value ∧
      Format.hash.read value = .ok entry.index := by
  have read : Field.index.readFrom record = .ok entry.index :=
    readFrom.2.readFrom (entry.kind.holds_index entry.data)
  rcases Field.readFrom_eq_ok_iff.mp read with ⟨value, given, readKey⟩ | ⟨-, absent⟩
  · rw [Field.given?_of_aliases_eq_nil rfl] at given
    exact ⟨value, given, readKey⟩
  · cases absent

theorem previousTxnId (readFrom : entry.ReadFrom record)
    (held : record.present? FieldName.previousTxnId = some value) :
    ∃ txnId, entry.previousTxnId? = some txnId ∧ Format.hash.read value = .ok txnId ∧
      entry.written? FieldName.previousTxnId = some (.string txnId.toHex) :=
  (entry.kind.tells_previousTxnId entry.data).of_present entry.kind.schema_faithful.layout
    readFrom.2 held

theorem previousTxnLgrSeq (readFrom : entry.ReadFrom record)
    (held : record.present? FieldName.previousTxnLgrSeq = some value) :
    ∃ lgrSeq, entry.previousTxnLgrSeq? = some lgrSeq ∧ Format.sequence.read value = .ok lgrSeq ∧
      entry.written? FieldName.previousTxnLgrSeq = some (.nat lgrSeq.number.toNat) :=
  (entry.kind.tells_previousTxnLgrSeq entry.data).of_present entry.kind.schema_faithful.layout
    readFrom.2 held

end ReadFrom

end LedgerEntry

end AffectedNodes
