import AffectedNodes.Proofs.Changes.Snapshots
import AffectedNodes.Proofs.Node.Decoding

/-!
# The report says what the previous values say

Every schema reads a field from the member of that name and from no other.  So the two snapshots of
a modified object agree wherever its previous values are silent, and where they speak of a declared
field, the field of the earlier snapshot depends on nothing else.  The change report lists exactly
the declared fields that the previous values name and whose two values differ.
-/
namespace AffectedNodes

namespace LedgerEntry

variable {entry entry' : LedgerEntry} {record record' : FieldMap} {name : String}

/-- A field of an entry depends only on the kind and on the member of that name. -/
theorem ReadFrom.get?_fields_congr (readFrom : entry.ReadFrom record)
    (readFrom' : entry'.ReadFrom record') (sameTag : entry.tag = entry'.tag)
    (agree : record.get? name = record'.get? name) :
    entry.fields.get? name = entry'.fields.get? name := by
  obtain ⟨kind, data⟩ := entry
  obtain ⟨kind', data'⟩ := entry'
  obtain rfl : kind = kind' := EntryKind.tag_injective sameTag
  rw [get?_fields, get?_fields]
  split
  · rfl
  · exact readFrom.2.written?_congr kind.schema_unaliased readFrom'.2 agree

theorem get?_fields_of_not_mem (undeclared : name ∉ entry.names)
    (other : name ≠ FieldName.entryType) : entry.fields.get? name = none := by
  rw [entry.get?_fields_of_ne other]
  exact Layout.written?_eq_none_of_not_mem undeclared

theorem ReadFrom.of_missing (readFrom : entry.ReadFrom record) (declared : name ∈ entry.names)
    (missing : entry.fields.get? name = none) :
    (record.get? name = none ∨ record.get? name = some .null) ∧
      name ∈ entry.kind.schema.layout.optionalNames := by
  rw [entry.get?_fields_of_ne (names_ne_entryType declared)] at missing
  exact readFrom.2.of_unwritten entry.kind.schema_faithful.layout.fields declared missing

end LedgerEntry

/-- Two snapshots of one object, read from a complete record and from an overlay of it. -/
structure ReadAcross (record delta : FieldMap) (final previous : LedgerEntry) : Prop where
  sameTag : previous.tag = final.tag
  final : final.ReadFrom record
  previous : previous.ReadFrom (record.overlay delta)

namespace ReadAcross

variable {record delta : FieldMap} {final previous : LedgerEntry} {name : String}

theorem sameNames (across : ReadAcross record delta final previous) :
    previous.names = final.names := by
  rw [LedgerEntry.names, LedgerEntry.names, EntryKind.tag_injective across.sameTag]

theorem agree (across : ReadAcross record delta final previous) (silent : delta.get? name = none) :
    previous.fields.get? name = final.fields.get? name := by
  apply across.previous.get?_fields_congr across.final across.sameTag
  rw [FieldMap.get?_overlay, silent, Option.none_or]

theorem determined (across : ReadAcross record delta final previous) {value : Json}
    {record' : FieldMap} {other : LedgerEntry} (named : delta.get? name = some value)
    (decoded : LedgerEntry.decode final.tag record' = .ok other)
    (held : record'.get? name = some value) :
    previous.fields.get? name = other.fields.get? name := by
  obtain ⟨sameTag, readFrom⟩ := LedgerEntry.decode_eq_ok_iff.mp decoded
  apply across.previous.get?_fields_congr readFrom (across.sameTag.trans sameTag.symm)
  rw [FieldMap.get?_overlay, named, held, Option.some_or]

theorem of_differ (across : ReadAcross record delta final previous)
    (differ : previous.fields.get? name ≠ final.fields.get? name) :
    (∃ value, delta.get? name = some value) ∧ name ∈ final.names := by
  constructor
  · cases named : delta.get? name with
    | some value => exact ⟨value, rfl⟩
    | none => exact absurd (across.agree named) differ
  · apply Classical.byContradiction
    intro undeclared
    apply differ
    by_cases tagged : name = FieldName.entryType
    · rw [tagged, previous.get?_fields_entryType, final.get?_fields_entryType,
        EntryKind.tag_injective across.sameTag]
    · have undeclaredBefore : name ∉ previous.names := across.sameNames ▸ undeclared
      rw [LedgerEntry.get?_fields_of_not_mem undeclared tagged,
        LedgerEntry.get?_fields_of_not_mem undeclaredBefore tagged]

theorem null_of_added (across : ReadAcross record delta final previous)
    (missing : previous.fields.get? name = none)
    (differ : previous.fields.get? name ≠ final.fields.get? name) :
    delta.get? name = some .null := by
  obtain ⟨⟨value, named⟩, declared⟩ := across.of_differ differ
  have absent := (across.previous.of_missing (across.sameNames ▸ declared) missing).1
  rw [FieldMap.get?_overlay, named, Option.some_or] at absent
  rcases absent with none | null
  · cases none
  · rw [named, Option.some.inj null]

theorem optional_of_removed (across : ReadAcross record delta final previous)
    (missing : final.fields.get? name = none)
    (differ : previous.fields.get? name ≠ final.fields.get? name) :
    (record.get? name = none ∨ record.get? name = some .null) ∧
      name ∈ final.kind.schema.layout.optionalNames :=
  across.final.of_missing (across.of_differ differ).2 missing

end ReadAcross

/-- The parts of the element of a modified object whose fields and previous values are given. -/
structure ModifiedElement (element : Json) where
  wrapping : FieldMap
  content : Json
  envelope : FieldMap
  block : FieldMap
  delta : FieldMap
  object : element.fields? = some wrapping
  single : wrapping.entries = [(Wrapper.modified.key, content)]
  inner : content.fields? = some envelope
  found : Envelope.block? envelope Wrapper.modified.stateBlock = .ok (some block)
  listing : Envelope.block? envelope previousBlock = .ok (some delta)

/-- A report about two snapshots says what the previous values say. -/
structure FieldChanges.Reflects (report : FieldChanges) (block delta : FieldMap)
    (final previous : LedgerEntry) : Prop where
  sameKind : previous.kind = final.kind
  declared : FieldName.index ∈ final.names ∧ FieldName.entryType ∉ final.names
  silent : ∀ name, delta.get? name = none → previous.fields.get? name = final.fields.get? name
  determined : ∀ name ∈ final.names, ∀ value, delta.get? name = some value →
    ∀ record other, LedgerEntry.decode final.tag record = .ok other →
      record.get? name = some value → previous.fields.get? name = other.fields.get? name
  reported : ∀ name, (∃ change ∈ report.changes, change.field = name) ↔
    (∃ value, delta.get? name = some value) ∧ name ∈ final.names ∧
      previous.fields.get? name ≠ final.fields.get? name
  tagUnreported : ∀ change ∈ report.changes, change.field ≠ FieldName.entryType
  added : ∀ name value, .added name value ∈ report.changes → delta.get? name = some .null
  removed : ∀ name value, .removed name value ∈ report.changes →
    (block.get? name = none ∨ block.get? name = some .null) ∧
      name ∈ final.kind.schema.layout.optionalNames

/-- The report about snapshots read across a completed block says what the delta says. -/
theorem ReadAcross.reflects {block delta : FieldMap} {identifier : Identifier}
    {bookkeeping : Bookkeeping} {final previous : LedgerEntry}
    (across : ReadAcross (Record.complete block identifier bookkeeping) delta final previous) :
    (FieldChanges.between previous.fields final.fields).Reflects block delta final previous where
  sameKind := EntryKind.tag_injective across.sameTag
  declared := by
    constructor
    · exact (final.kind.holds_index final.data).name_mem
    · exact final.kind.entryType_not_mem_names
  silent name := across.agree
  determined name _ value named record other decoded held := across.determined named decoded held
  reported name := by
    rw [LedgerEntry.exists_change_iff]
    constructor
    · intro differ
      obtain ⟨named, declared⟩ := across.of_differ differ
      exact ⟨named, declared, differ⟩
    · intro ⟨_, _, differ⟩
      exact differ
  tagUnreported change listed tagged := by
    have differ := LedgerEntry.exists_change_iff.mp ⟨change, listed, tagged⟩
    exact LedgerEntry.names_ne_entryType (across.of_differ differ).2 rfl
  added name value listed := by
    have differ := LedgerEntry.exists_change_iff.mp ⟨_, listed, rfl⟩
    have missing := FieldChange.eq_none_of_between?_added (FieldChanges.mem_changes_iff.mp listed)
    rw [LedgerEntry.present?_fields] at missing
    exact across.null_of_added missing differ
  removed name value listed := by
    have differ := LedgerEntry.exists_change_iff.mp ⟨_, listed, rfl⟩
    have missing :=
      FieldChange.eq_none_of_between?_removed (FieldChanges.mem_changes_iff.mp listed)
    rw [LedgerEntry.present?_fields] at missing
    obtain ⟨absent, mayLack⟩ := across.optional_of_removed missing differ
    rw [Record.get?_of_present?_complete (FieldMap.present?_eq_none_iff.mpr absent)] at absent
    exact ⟨absent, mayLack⟩

/--
For every element of a modified object that is decoded with both snapshots, the change report says
exactly what the previous values say: the snapshots agree wherever these are silent, a declared
field that they name has the value that it has in every record with that member, and those of these
fields whose two values differ are reported, as added only where they have null, and as removed only
where the field is optional and the final state lacks it.
-/
theorem ModifiedNode.fieldChanges_reflect (catalog : Catalog) (element : Json)
    (node : ModifiedNode) (final previous : LedgerEntry)
    (decoded : decodeElement catalog element = .ok (.modified node))
    (hasFinal : node.finalState = some final) (hasPrevious : node.previousState = some previous) :
    ∃ (parts : ModifiedElement element) (report : FieldChanges),
      node.fieldChanges = .ok (some report) ∧
        report.Reflects parts.block parts.delta final previous := by
  obtain ⟨wrapping, content, envelope, object, single, inner, decodedNode⟩ :=
    decodeElement_eq_ok_iff.mp decoded
  obtain ⟨identifier, _, _, way⟩ := decodeNode_eq_ok_iff.mp decodedNode
  cases way with
  | modifiedIdentity => cases hasFinal
  | modifiedFinal => cases hasPrevious
  | modifiedBoth _ _ found read listing _ readPrevious =>
      cases hasFinal
      cases hasPrevious
      obtain ⟨finalTag, finalRead⟩ := LedgerEntry.decode_eq_ok_iff.mp read
      obtain ⟨previousTag, previousRead⟩ := LedgerEntry.decode_eq_ok_iff.mp readPrevious
      have across : ReadAcross _ _ final previous :=
        ⟨previousTag.trans finalTag.symm, finalRead, previousRead⟩
      exact ⟨⟨wrapping, content, envelope, _, _, object, single, inner, found, listing⟩, _,
        fieldChanges_eq_ok _, across.reflects⟩

def amendedEscrow : Json :=
  .object
    [(Wrapper.modified.key, .object
      [(Wrapper.modified.stateBlock, .object
          [("Account", .string "rEhxGqkqPPSxQ3P25J66ft5TwpzV14k2de"), ("Amount", .string "10"),
            ("Condition", .string "A0"),
            ("Destination", .string "rEhxGqkqPPSxQ3P25J66ft5TwpzV14k2de")]),
        (FieldName.entryType, .string "Escrow"),
        (FieldName.ledgerIndex, .string Hash.zero.toHex),
        (previousBlock, .object
          [("Amount", .string "20"), ("CancelAfter", .nat 5), ("Condition", .null)])])]

theorem ModifiedNode.fieldChanges_reflect_amendedEscrow :
    ∃ (node : ModifiedNode) (final previous : LedgerEntry) (parts : ModifiedElement amendedEscrow)
      (report : FieldChanges),
      decodeElement .standard amendedEscrow = .ok (.modified node) ∧
      node.finalState = some final ∧ node.previousState = some previous ∧
      node.fieldChanges = .ok (some report) ∧
      report.changes.map FieldChange.field = ["Amount", "CancelAfter", "Condition"] ∧
      report.Reflects parts.block parts.delta final previous := by
  obtain ⟨node, final, previous, decoded, hasFinal, hasPrevious, listed⟩ :
      ∃ node final previous, decodeElement .standard amendedEscrow = .ok (.modified node) ∧
        node.finalState = some final ∧ node.previousState = some previous ∧
        node.fieldChanges?.map (·.changes.map FieldChange.field) =
          some ["Amount", "CancelAfter", "Condition"] :=
    ⟨_, _, _, rfl, rfl, rfl, by decide +kernel⟩
  obtain ⟨parts, report, reported, reflects⟩ :=
    fieldChanges_reflect .standard amendedEscrow node final previous decoded hasFinal hasPrevious
  have total := node.fieldChanges_eq_ok.symm.trans reported
  rw [Except.ok.inj total] at listed
  exact ⟨node, final, previous, parts, report, decoded, hasFinal, hasPrevious, reported,
    Option.some.inj listed, reflects⟩

end AffectedNodes
