import AffectedNodes.Node.Envelope
import AffectedNodes.Proofs.Entry.RoundTrip

/-!
# Complete records

A record is complete for an object if it tells the identity of that object and has both bookkeeping
fields.  Completing a block gives a complete record, and changes nothing where the record is
complete already.  The record from before the transaction is an overlay, and it is complete
exactly when the delta leaves identity and bookkeeping in place.

An entry decoded from a complete record has the identity of the object, and its own fields are a
complete record again.
-/
namespace AffectedNodes.Record

variable {block delta record : FieldMap} {identifier : Identifier} {bookkeeping : Bookkeeping}

/-- A record that tells the identity of an object and has both bookkeeping fields. -/
structure IsComplete (identifier : Identifier) (record : FieldMap) : Prop where
  index : record.get? FieldName.index = some (.string identifier.key.toHex)
  entryType : record.get? FieldName.entryType = some (.string identifier.tag.text)
  previousTxnId : (record.present? FieldName.previousTxnId).isSome = true
  previousTxnLgrSeq : (record.present? FieldName.previousTxnLgrSeq).isSome = true

/-- A delta that names no other identity and takes no bookkeeping field away. -/
structure LeavesComplete (identifier : Identifier) (delta : FieldMap) : Prop where
  index : ∀ value, delta.get? FieldName.index = some value →
    value = .string identifier.key.toHex
  entryType : ∀ value, delta.get? FieldName.entryType = some value →
    value = .string identifier.tag.text
  previousTxnId : delta.get? FieldName.previousTxnId ≠ some .null
  previousTxnLgrSeq : delta.get? FieldName.previousTxnLgrSeq ≠ some .null

def completedNames : List String :=
  [FieldName.index, FieldName.entryType, FieldName.previousTxnId, FieldName.previousTxnLgrSeq]

theorem mem_completedNames_iff {name : String} :
    name ∈ completedNames ↔ name = FieldName.index ∨ name = FieldName.entryType ∨
      name = FieldName.previousTxnId ∨ name = FieldName.previousTxnLgrSeq := by
  simp only [completedNames, List.mem_cons, List.not_mem_nil, or_false]

theorem get?_complete_index (block : FieldMap) (identifier : Identifier)
    (bookkeeping : Bookkeeping) :
    (complete block identifier bookkeeping).get? FieldName.index =
      some (.string identifier.key.toHex) := by
  simp [complete, FieldMap.get?_fill, FieldName.index, FieldName.entryType,
    FieldName.previousTxnId, FieldName.previousTxnLgrSeq]

theorem get?_complete_entryType (block : FieldMap) (identifier : Identifier)
    (bookkeeping : Bookkeeping) :
    (complete block identifier bookkeeping).get? FieldName.entryType =
      some (.string identifier.tag.text) := by
  simp [complete, FieldMap.get?_fill, FieldName.index, FieldName.entryType,
    FieldName.previousTxnId, FieldName.previousTxnLgrSeq]

theorem get?_complete_previousTxnId (block : FieldMap) (identifier : Identifier)
    (bookkeeping : Bookkeeping) :
    (complete block identifier bookkeeping).get? FieldName.previousTxnId =
      some ((block.present? FieldName.previousTxnId).getD
        (.string bookkeeping.txnId.toHex)) := by
  simp [complete, FieldMap.get?_fill, FieldMap.present?, FieldName.index, FieldName.entryType,
    FieldName.previousTxnId, FieldName.previousTxnLgrSeq]

theorem get?_complete_previousTxnLgrSeq (block : FieldMap) (identifier : Identifier)
    (bookkeeping : Bookkeeping) :
    (complete block identifier bookkeeping).get? FieldName.previousTxnLgrSeq =
      some ((block.present? FieldName.previousTxnLgrSeq).getD
        (.nat bookkeeping.lgrSeq.number.toNat)) := by
  simp [complete, FieldMap.get?_fill, FieldMap.present?, FieldName.index, FieldName.entryType,
    FieldName.previousTxnId, FieldName.previousTxnLgrSeq]

theorem get?_complete_of_not_mem {name : String} (other : name ∉ completedNames) :
    (complete block identifier bookkeeping).get? name = block.get? name := by
  simp only [mem_completedNames_iff, not_or] at other
  obtain ⟨notIndex, notType, notTxnId, notLgrSeq⟩ := other
  simp [complete, FieldMap.get?_fill, notIndex, notType, notTxnId, notLgrSeq]

theorem isSome_present?_of_filled {name : String} {fallback : Json}
    (found : record.get? name = some ((block.present? name).getD fallback))
    (notNull : fallback ≠ .null) : (record.present? name).isSome = true := by
  have filled : (block.present? name).getD fallback ≠ .null := by
    cases held : block.present? name with
    | none => exact notNull
    | some value => exact (FieldMap.present?_eq_some_iff.mp held).2
  rw [FieldMap.present?_eq_some_iff.mpr ⟨found, filled⟩]
  rfl

theorem isComplete_complete (block : FieldMap) (identifier : Identifier)
    (bookkeeping : Bookkeeping) :
    IsComplete identifier (complete block identifier bookkeeping) where
  index := get?_complete_index block identifier bookkeeping
  entryType := get?_complete_entryType block identifier bookkeeping
  previousTxnId := by
    apply isSome_present?_of_filled (get?_complete_previousTxnId block identifier bookkeeping)
    exact Json.noConfusion
  previousTxnLgrSeq := by
    apply isSome_present?_of_filled (get?_complete_previousTxnLgrSeq block identifier bookkeeping)
    exact Json.noConfusion

theorem getD_present?_of_isSome {name : String} {fallback : Json}
    (present : (record.present? name).isSome = true) :
    some ((record.present? name).getD fallback) = record.get? name := by
  obtain ⟨value, held⟩ := Option.isSome_iff_exists.mp present
  rw [held, (FieldMap.present?_eq_some_iff.mp held).1]
  rfl

/-- A complete record stays as it is, whatever bookkeeping it is completed with. -/
theorem IsComplete.complete_eq (complete : IsComplete identifier record)
    (bookkeeping : Bookkeeping) : Record.complete record identifier bookkeeping = record := by
  apply FieldMap.ext_get?
  intro name
  by_cases completed : name ∈ completedNames
  · rcases mem_completedNames_iff.mp completed with rfl | rfl | rfl | rfl
    · rw [get?_complete_index, complete.index]
    · rw [get?_complete_entryType, complete.entryType]
    · rw [get?_complete_previousTxnId, getD_present?_of_isSome complete.previousTxnId]
    · rw [get?_complete_previousTxnLgrSeq, getD_present?_of_isSome complete.previousTxnLgrSeq]
  · exact get?_complete_of_not_mem completed

theorem get?_of_present?_complete {name : String}
    (absent : (complete block identifier bookkeeping).present? name = none) :
    (complete block identifier bookkeeping).get? name = block.get? name := by
  have complete := isComplete_complete block identifier bookkeeping
  apply get?_complete_of_not_mem
  intro completed
  rcases mem_completedNames_iff.mp completed with rfl | rfl | rfl | rfl
  · rw [FieldMap.present?, complete.index] at absent
    cases absent
  · rw [FieldMap.present?, complete.entryType] at absent
    cases absent
  · cases absent ▸ complete.previousTxnId
  · cases absent ▸ complete.previousTxnLgrSeq

theorem get?_overlay_eq_some_iff {name : String} {wanted : Json}
    (held : record.get? name = some wanted) :
    (record.overlay delta).get? name = some wanted ↔
      ∀ value, delta.get? name = some value → value = wanted := by
  rw [FieldMap.get?_overlay, held]
  cases delta.get? name with
  | none => simp
  | some value => simp

theorem isSome_present?_overlay_iff {name : String}
    (held : (record.present? name).isSome = true) :
    ((record.overlay delta).present? name).isSome = true ↔ delta.get? name ≠ some .null := by
  obtain ⟨value, present⟩ := Option.isSome_iff_exists.mp held
  have found := FieldMap.present?_eq_some_iff.mp present
  rw [FieldMap.present?, FieldMap.get?_overlay, found.1]
  cases delta.get? name with
  | none => cases value <;> simp_all [Json.isNull]
  | some value => cases value <;> simp [Json.isNull]

/-- An overlay of a complete record is complete exactly when the delta leaves it so. -/
theorem isComplete_overlay_iff (complete : IsComplete identifier record) :
    IsComplete identifier (record.overlay delta) ↔ LeavesComplete identifier delta := by
  constructor
  · intro overlaid
    constructor
    · exact (get?_overlay_eq_some_iff complete.index).mp overlaid.index
    · exact (get?_overlay_eq_some_iff complete.entryType).mp overlaid.entryType
    · exact (isSome_present?_overlay_iff complete.previousTxnId).mp overlaid.previousTxnId
    · exact (isSome_present?_overlay_iff complete.previousTxnLgrSeq).mp overlaid.previousTxnLgrSeq
  · intro leaves
    constructor
    · exact (get?_overlay_eq_some_iff complete.index).mpr leaves.index
    · exact (get?_overlay_eq_some_iff complete.entryType).mpr leaves.entryType
    · exact (isSome_present?_overlay_iff complete.previousTxnId).mpr leaves.previousTxnId
    · exact (isSome_present?_overlay_iff complete.previousTxnLgrSeq).mpr leaves.previousTxnLgrSeq

theorem previous?_eq_some_iff {final previous : FieldMap} {delta : Option FieldMap} :
    previous? final delta = some previous ↔
      ∃ values, delta = some values ∧ values.isEmpty = false ∧ final.overlay values = previous := by
  cases delta with
  | none => simp [previous?]
  | some values => cases empty : values.isEmpty <;> simp [previous?, empty]

theorem previous?_eq_none_iff {final : FieldMap} {delta : Option FieldMap} :
    previous? final delta = none ↔ ∀ values, delta = some values → values.isEmpty = true := by
  cases delta with
  | none => simp [previous?]
  | some values => cases empty : values.isEmpty <;> simp [previous?, empty]

/-! ### Entries decoded from complete records -/

variable {entry : LedgerEntry}

theorem IsComplete.identity (complete : IsComplete identifier record)
    (read : LedgerEntry.decode identifier.tag record = .ok entry) :
    entry.index = identifier.key ∧ entry.tag = identifier.tag := by
  obtain ⟨sameTag, readFrom⟩ := LedgerEntry.decode_eq_ok_iff.mp read
  have readKey := readFrom.read_index complete.index
  have ownKey := Format.faithful_hash.lawful identifier.key
  exact ⟨Except.ok.inj (readKey.symm.trans ownKey), sameTag⟩

/-- An entry decoded from an overlay has the tag of the object, and its key unless the delta names
another one. -/
theorem IsComplete.identity_overlay (complete : IsComplete identifier record)
    (read : LedgerEntry.decode identifier.tag (record.overlay delta) = .ok entry) :
    entry.tag = identifier.tag ∧
      (entry.index = identifier.key ↔ ∀ value, delta.get? FieldName.index = some value →
        Format.hash.read value = .ok identifier.key) := by
  obtain ⟨sameTag, readFrom⟩ := LedgerEntry.decode_eq_ok_iff.mp read
  refine ⟨sameTag, ?_⟩
  cases named : delta.get? FieldName.index with
  | none =>
      have found : (record.overlay delta).get? FieldName.index =
          some (.string identifier.key.toHex) := by
        rw [FieldMap.get?_overlay, named, complete.index, Option.none_or]
      have readKey := readFrom.read_index found
      have ownKey := Format.faithful_hash.lawful identifier.key
      have sameKey := Except.ok.inj (readKey.symm.trans ownKey)
      simp [sameKey]
  | some value =>
      have found : (record.overlay delta).get? FieldName.index = some value := by
        rw [FieldMap.get?_overlay, named, Option.some_or]
      have readKey := readFrom.read_index found
      simp [readKey]

theorem IsComplete.fields (complete : IsComplete identifier record)
    (read : LedgerEntry.decode identifier.tag record = .ok entry) :
    IsComplete identifier entry.fields := by
  obtain ⟨sameKey, sameTag⟩ := complete.identity read
  have readFrom := (LedgerEntry.decode_eq_ok_iff.mp read).2
  constructor
  · rw [entry.get?_fields_index, sameKey]
  · rw [entry.get?_fields_entryType, ← sameTag]
    rfl
  · exact readFrom.isSome_present? entry.kind.previousTxnId_mem_names complete.previousTxnId
  · exact readFrom.isSome_present? entry.kind.previousTxnLgrSeq_mem_names
      complete.previousTxnLgrSeq

end AffectedNodes.Record
