import AffectedNodes.Proofs.Json.Exact
import AffectedNodes.Proofs.Ledger.Spelling
import AffectedNodes.Proofs.Steps
import AffectedNodes.Record.Format

/-!
# Faithful formats

A format is faithful when what it writes reads back, is not null, and has integers for its only
numbers.  Null is set apart because it stands for a missing field, and doubles because two of them
can be the same number without being equal.  The formats of scalars are faithful, and lists keep
faithfulness.
-/
namespace AffectedNodes.Format

/-- A format whose writings can stand in a record. -/
structure Faithful (format : Format α) : Prop where
  lawful : format.Lawful
  write_ne_null : ∀ value, format.write value ≠ .null
  write_exact : ∀ value, (format.write value).isExact = true

theorem faithful_ofText {parse : String → Except ReadFault α} {text : α → String}
    (parsed : ∀ value, parse (text value) = .ok value) : (ofText parse text).Faithful where
  lawful := parsed
  write_ne_null := by simp [ofText]
  write_exact _ := rfl

theorem ofText_read_eq_ok_iff {parse : String → Except ReadFault α} {text : α → String}
    {json : Json} {value : α} :
    (ofText parse text).read json = .ok value ↔
      ∃ content, json = .string content ∧ parse content = .ok value := by
  cases json with
  | string content =>
      constructor
      · intro read
        exact ⟨content, rfl, read⟩
      · rintro ⟨_, same, read⟩
        cases same
        exact read
  | null | bool | number | array | object => simp [ofText]

@[simp] theorem faithful_text : text.Faithful := faithful_ofText fun _ => rfl

@[simp] theorem faithful_tag : tag.Faithful := faithful_ofText fun _ => rfl

@[simp] theorem faithful_hash : hash.Faithful :=
  faithful_ofText fun value => by rw [Hash.ofHex_toHex]; rfl

@[simp] theorem faithful_address : address.Faithful :=
  faithful_ofText fun value => by rw [Address.ofText?_text]; rfl

@[simp] theorem faithful_drops : drops.Faithful :=
  faithful_ofText fun value => by rw [Drops.ofText?_text]; rfl

/-- Integers are faithful when every value has a number below the bound and comes back from it. -/
theorem faithful_natural {wanted : String} {bound : Nat} {ofNat : Nat → α} {toNat : α → Nat}
    (below : ∀ value, toNat value < bound) (back : ∀ value, ofNat (toNat value) = value) :
    (natural wanted bound ofNat toNat).Faithful where
  lawful value := by
    change (if toNat value < bound then Except.ok (ofNat (toNat value)) else _) = _
    rw [if_pos (below value), back]
  write_ne_null := by simp [natural, Json.nat]
  write_exact _ := rfl

@[simp] theorem faithful_word8 : word8.Faithful :=
  faithful_natural UInt8.toNat_lt fun _ => UInt8.ofNat_toNat

@[simp] theorem faithful_word16 : word16.Faithful :=
  faithful_natural UInt16.toNat_lt fun _ => UInt16.ofNat_toNat

@[simp] theorem faithful_word32 : word32.Faithful :=
  faithful_natural UInt32.toNat_lt fun _ => UInt32.ofNat_toNat

@[simp] theorem faithful_sequence : sequence.Faithful where
  lawful value := by
    change (word32.read (word32.write value.number)).map LedgerSequence.mk = .ok value
    rw [faithful_word32.lawful]
    rfl
  write_ne_null value := faithful_word32.write_ne_null value.number
  write_exact value := faithful_word32.write_exact value.number

theorem readAll_map_write {format : Format α} (lawful : format.Lawful) (values : List α) :
    format.readAll (values.map format.write) = .ok values := by
  induction values with
  | nil => rfl
  | cons value rest ih =>
      rw [List.map_cons, readAll, lawful value, ih]
      rfl

theorem itemsExact_map_write {format : Format α} (faithful : format.Faithful) (values : List α) :
    Json.itemsExact (values.map format.write) = true := by
  induction values with
  | nil => rfl
  | cons value rest ih =>
      rw [List.map_cons, Json.itemsExact, faithful.write_exact, ih]
      rfl

@[simp] theorem faithful_list {format : Format α} (faithful : format.Faithful) :
    format.list.Faithful where
  lawful values := readAll_map_write faithful.lawful values
  write_ne_null := by simp [list]
  write_exact values := itemsExact_map_write faithful values

theorem optional_read_of_ne_null {format : Format α} {json : Json} (notNull : json ≠ .null) :
    format.optional.read json = (format.read json).map some := by
  cases json with
  | null => exact absurd rfl notNull
  | _ => rfl

theorem eq_null_of_optional_read {format : Format α} {json : Json}
    (missing : format.optional.read json = .ok none) : json = .null := by
  apply Classical.byContradiction
  intro notNull
  rw [optional_read_of_ne_null notNull, map_eq_ok_iff] at missing
  obtain ⟨value, _, same⟩ := missing
  cases same

theorem optional_read_write {format : Format α} (faithful : format.Faithful) (value : α) :
    format.optional.read (format.write value) = .ok (some value) := by
  rw [optional_read_of_ne_null (faithful.write_ne_null value), faithful.lawful value]
  rfl

end AffectedNodes.Format
