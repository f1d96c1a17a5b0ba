import AffectedNodes.Entry.Tagged
import AffectedNodes.Proofs.Entry.Schemas

/-!
# Entries written and read again

An entry is written as an object that tells its kind, and that object decodes to the entry under the
tag of that kind.  So what a record decodes to is written in a way that decodes to the same, and two
entries that are written alike are equal.

What a record decodes to is described member by member: the record names the kind, and gives the
row of the entry under the layout of that kind.
-/
namespace AffectedNodes

namespace EntryKind

theorem ofTag?_eq_some_iff {tag : Tag} {kind : EntryKind} :
    ofTag? tag = some kind ↔ kind.tag = tag := by
  constructor
  · intro found
    have alike : kind.wireName = tag.text := by simpa using List.find?_some found
    exact congrArg Tag.mk alike
  · intro same
    exact same ▸ ofTag?_tag kind

end EntryKind

namespace LedgerEntry

variable {entry entry' : LedgerEntry} {fields record : FieldMap} {tag : Tag} {name : String}

/-- What an entry writes under the name of one of its fields. -/
def written? (entry : LedgerEntry) (name : String) : Option Json :=
  entry.kind.schema.written? entry.data name

def names (entry : LedgerEntry) : List String := entry.kind.schema.layout.names

/-- A record names the kind of the entry and gives its row. -/
def ReadFrom (entry : LedgerEntry) (fields : FieldMap) : Prop :=
  fields.get? FieldName.entryType = some (.string entry.kind.wireName) ∧
    entry.kind.schema.layout.Reads fields (entry.kind.schema.toRow entry.data)

theorem get?_fields (entry : LedgerEntry) (name : String) :
    entry.fields.get? name =
      if name = FieldName.entryType then some (.string entry.kind.wireName)
      else entry.written? name := by
  rw [LedgerEntry.fields, FieldMap.get?_insert, entry.kind.schema_faithful.get?_writeFields]
  rfl

theorem get?_fields_entryType (entry : LedgerEntry) :
    entry.fields.get? FieldName.entryType = some (.string entry.kind.wireName) := by
  rw [get?_fields, if_pos rfl]

theorem get?_fields_of_ne (entry : LedgerEntry) (other : name ≠ FieldName.entryType) :
    entry.fields.get? name = entry.written? name := by
  rw [get?_fields, if_neg other]

theorem readKind_eq_ok_iff {value : Json} {kind : EntryKind} :
    readKind value = .ok kind ↔ value = .string kind.wireName := by
  cases value with
  | string text =>
      rw [readKind]
      cases found : EntryKind.ofTag? ⟨text⟩ with
      | none =>
          constructor
          · intro read
            cases read
          · intro same
            cases same
            cases found.symm.trans (EntryKind.ofTag?_tag kind)
      | some other =>
          have named := EntryKind.ofTag?_eq_some_iff.mp found
          constructor
          · intro read
            cases read
            rw [← Tag.mk.inj named]
            rfl
          · intro same
            cases same
            have sameKind := Option.some.inj (found.symm.trans (EntryKind.ofTag?_tag kind))
            exact congrArg Except.ok sameKind
  | null | bool | number | array | object => simp [readKind]

theorem readFields_eq_ok_iff : readFields fields = .ok entry ↔ entry.ReadFrom fields := by
  obtain ⟨kind, data⟩ := entry
  have unaliased : ∀ name ∈ kind.schema.layout.aliases, fields.get? name = none := by
    simp [kind.schema_unaliased]
  rw [readFields, ReadFrom]
  cases found : fields.get? FieldName.entryType with
  | none => simp
  | some value =>
      rw [bind_eq_ok_iff]
      constructor
      · rintro ⟨kind', readTag, later⟩
        obtain ⟨data', readData, same⟩ := bind_eq_ok_iff.mp later
        cases same
        refine ⟨congrArg some (readKind_eq_ok_iff.mp readTag), ?_⟩
        exact (kind.schema_faithful.readFields_eq_ok_iff unaliased).mp
          (mapError_eq_ok_iff.mp readData)
      · rintro ⟨named, reads⟩
        refine ⟨kind, readKind_eq_ok_iff.mpr (Option.some.inj named), ?_⟩
        rw [bind_eq_ok_iff]
        refine ⟨data, mapError_eq_ok_iff.mpr ?_, rfl⟩
        exact (kind.schema_faithful.readFields_eq_ok_iff unaliased).mpr reads

theorem decode_eq_ok_iff :
    decode tag record = .ok entry ↔ entry.tag = tag ∧ entry.ReadFrom record := by
  rw [← readFields_eq_ok_iff, decode]
  cases known : EntryKind.ofTag? tag with
  | none =>
      constructor
      · intro decoded
        cases decoded
      · rintro ⟨same, -⟩
        subst same
        cases known.symm.trans (EntryKind.ofTag?_tag entry.kind)
  | some kind =>
      cases read : readFields record with
      | error fault => simp
      | ok other =>
          by_cases same : other.tag = tag
          · simp only [if_pos same, Except.ok.injEq]
            constructor
            · intro equal
              exact ⟨equal ▸ same, equal⟩
            · exact And.right
          · simp only [if_neg same, Except.ok.injEq]
            constructor
            · intro decoded
              cases decoded
            · rintro ⟨other, rfl⟩
              exact absurd other same

theorem readFrom_fields (entry : LedgerEntry) : entry.ReadFrom entry.fields := by
  refine ⟨entry.get?_fields_entryType, ?_⟩
  apply Layout.reads_of_written entry.kind.schema_faithful.layout
  · intro name member
    have notTag : name ≠ FieldName.entryType := fun same =>
      entry.kind.entryType_not_mem_names (same ▸ member)
    exact entry.get?_fields_of_ne notTag
  · simp [entry.kind.schema_unaliased]

theorem ReadFrom.read_index {value : Json} (readFrom : entry.ReadFrom fields)
    (found : fields.get? FieldName.index = some value) :
    Format.hash.read value = .ok entry.index :=
  Field.read_of_readFrom (readFrom.2.readFrom (entry.kind.holds_index entry.data)) found

theorem decode_fields (entry : LedgerEntry) : decode entry.tag entry.fields = .ok entry :=
  decode_eq_ok_iff.mpr ⟨rfl, entry.readFrom_fields⟩

theorem fields_injective (same : entry.fields = entry'.fields) : entry = entry' := by
  have read := readFields_eq_ok_iff.mpr entry.readFrom_fields
  have read' := readFields_eq_ok_iff.mpr entry'.readFrom_fields
  rw [same] at read
  exact Except.ok.inj (read.symm.trans read')

theorem toJson_injective (same : entry.toJson = entry'.toJson) : entry = entry' := by
  apply fields_injective
  have sameFields := congrArg Json.fields? same
  rw [toJson, toJson, FieldMap.fields?_toJson, FieldMap.fields?_toJson] at sameFields
  exact Option.some.inj sameFields

/-! ### What an entry keeps of its record -/

theorem get?_fields_index (entry : LedgerEntry) :
    entry.fields.get? FieldName.index = some (.string entry.index.toHex) := by
  rw [entry.get?_fields_of_ne (by decide)]
  exact (entry.kind.holds_index entry.data).written? entry.kind.schema_faithful.layout

theorem isEmpty_fields (entry : LedgerEntry) : entry.fields.isEmpty = false := by
  cases empty : entry.fields.isEmpty with
  | false => rfl
  | true =>
      have tagged := entry.get?_fields_entryType
      rw [FieldMap.isEmpty_iff.mp empty] at tagged
      cases tagged

theorem written?_ne_null {value : Json} (written : entry.written? name = some value) :
    value ≠ .null :=
  (entry.kind.schema_faithful.layout.fields.written written).1

theorem names_ne_entryType (member : name ∈ entry.names) : name ≠ FieldName.entryType :=
  fun same => entry.kind.entryType_not_mem_names (same ▸ member)

/-- A declared field that the record has is there in the fields of the entry. -/
theorem ReadFrom.isSome_present? (readFrom : entry.ReadFrom record) (member : name ∈ entry.names)
    (present : (record.present? name).isSome = true) :
    (entry.fields.present? name).isSome = true := by
  cases written : entry.written? name with
  | none =>
      have absent :=
        (readFrom.2.of_unwritten entry.kind.schema_faithful.layout.fields member written).1
      rw [FieldMap.present?_eq_none_iff.mpr absent] at present
      cases present
  | some value =>
      have found := entry.get?_fields_of_ne (names_ne_entryType member)
      rw [written] at found
      rw [FieldMap.present?_eq_some_iff.mpr ⟨found, written?_ne_null written⟩]
      rfl

/-- Laying the fields of one entry over those of another of its kind gives the fields of an entry
of that kind. -/
theorem exists_fields_eq_overlay {base upper : LedgerEntry} (sameTag : base.tag = upper.tag) :
    ∃ laid : LedgerEntry, laid.tag = base.tag ∧ laid.fields = base.fields.overlay upper.fields := by
  obtain ⟨kind, baseData⟩ := base
  obtain ⟨kind', upperData⟩ := upper
  obtain rfl : kind = kind' := EntryKind.tag_injective sameTag
  let row := kind.schema.layout.layOver (kind.schema.toRow baseData) (kind.schema.toRow upperData)
  refine ⟨⟨kind, kind.schema.ofRow row⟩, rfl, ?_⟩
  apply FieldMap.ext_get?
  intro name
  rw [FieldMap.get?_overlay, get?_fields, get?_fields, get?_fields]
  split
  · rfl
  · change kind.schema.layout.written? (kind.schema.toRow (kind.schema.ofRow row)) name = _
    rw [kind.schema_faithful.toRow_ofRow]
    exact Layout.written?_layOver _ _ _ name

/--
Every entry of every kind is written as an object that names its kind and decodes to the entry under
its tag.  So whatever a record decodes to is written as an object that the same tag accepts and that
comes back unchanged, and no two entries are written alike.
-/
theorem roundTrip :
    (∀ entry : LedgerEntry, ∃ written, entry.toJson.fields? = some written ∧
      written.get? FieldName.entryType = some (.string entry.type.wireName) ∧
      decode entry.type.tag written = .ok entry) ∧
    (∀ (tag : Tag) (record : FieldMap) (entry : LedgerEntry), decode tag record = .ok entry →
      ∃ written, entry.toJson.fields? = some written ∧ decode tag written = .ok entry ∧
        (decode tag written).map toJson = .ok entry.toJson) ∧
    Function.Injective toJson := by
  refine ⟨?_, ?_, ?_⟩
  · intro entry
    refine ⟨entry.fields, entry.fields.fields?_toJson, ?_, ?_⟩
    · exact entry.get?_fields_entryType
    · exact entry.decode_fields
  · intro tag record entry decoded
    have sameTag := (decode_eq_ok_iff.mp decoded).1
    subst sameTag
    refine ⟨entry.fields, entry.fields.fields?_toJson, entry.decode_fields, ?_⟩
    rw [entry.decode_fields]
    rfl
  · intro entry entry' same
    exact toJson_injective same

def ticketRecord : FieldMap :=
  .ofList
    [("Account", .string "rEhxGqkqPPSxQ3P25J66ft5TwpzV14k2de"),
      (FieldName.entryType, .string "Ticket"),
      (FieldName.previousTxnId, .string Hash.zero.toHex),
      (FieldName.previousTxnLgrSeq, .nat 7),
      ("TicketSequence", .nat 3),
      (FieldName.index, .string Hash.zero.toHex)]

theorem roundTrip_ticket :
    ∃ entry, decode ⟨"Ticket"⟩ ticketRecord = .ok entry ∧
      ∃ written, entry.toJson.fields? = some written ∧ decode ⟨"Ticket"⟩ written = .ok entry ∧
        (decode ⟨"Ticket"⟩ written).map toJson = .ok entry.toJson := by
  obtain ⟨entry, decoded⟩ : ∃ entry, decode ⟨"Ticket"⟩ ticketRecord = .ok entry := ⟨_, rfl⟩
  exact ⟨entry, decoded, roundTrip.2.1 ⟨"Ticket"⟩ ticketRecord entry decoded⟩

end LedgerEntry

end AffectedNodes
