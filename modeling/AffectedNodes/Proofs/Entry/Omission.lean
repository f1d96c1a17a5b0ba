import AffectedNodes.Proofs.Entry.RoundTrip
import AffectedNodes.Proofs.Record.Omission

/-!
# Fields that are left out of the record of an entry

Each declared field of the ten kinds must be there, or has a default, or may be null.  Under every
kind, leaving out fields with a default decodes to what their written defaults decode to, and
leaving out fields that may be null to what null decodes to, whether that is an entry or a fault.  A
record is invalid without a field that must be there, and with null for a field that may not be
null.
-/
namespace AffectedNodes

namespace Format

@[simp] theorem refusesNull_issuedAmount : issuedAmount.RefusesNull := ⟨_, rfl⟩

@[simp] theorem refusesNull_issue : issue.RefusesNull := ⟨_, rfl⟩

@[simp] theorem refusesNull_amount : amount.RefusesNull := ⟨_, rfl⟩

end Format

namespace Field

@[simp] theorem omits_account : account.Omits := by simp [account]

@[simp] theorem omits_destination : destination.Omits := by simp [destination]

@[simp] theorem omits_flags : flags.Omits := by simp [flags, Format.faithful_word32.lawful]

@[simp] theorem omits_page (name : String) : (page name).Omits := by
  simp [page, Format.faithful_text.lawful]

@[simp] theorem omits_ownerNode : ownerNode.Omits := omits_page "OwnerNode"

@[simp] theorem omits_previousTxnId : previousTxnId.Omits := by simp [previousTxnId]

@[simp] theorem omits_previousTxnLgrSeq : previousTxnLgrSeq.Omits := by simp [previousTxnLgrSeq]

@[simp] theorem omits_index : index.Omits := by simp [index]

end Field

namespace EntryKind

/-- What it means that the field of that name is missing from a record of the kind, if the kind
declares it. -/
def omission? (kind : EntryKind) (name : String) : Option Omission :=
  kind.schema.layout.omission? name

/-- The value that does as well as none for the field of that name, if it may be missing. -/
def standIn? (kind : EntryKind) (name : String) : Option Json := kind.schema.layout.standIn? name

example : payChannel.omission? "PublicKey" = some .refused := rfl

example : payChannel.omission? "Balance" = some (.default (.string "0")) := rfl

example : payChannel.omission? "Expiration" = some .null := rfl

def writtenDefaults : List Json :=
  [.nat 0, .array [], .string Field.firstPage, .string "0"]

theorem schema_omits (kind : EntryKind) : kind.schema.layout.Omits := by
  cases kind <;>
    simp [schema, AccountRoot.schema, Amm.schema, Check.schema, DepositPreauth.schema,
      Escrow.schema, Offer.schema, PayChannel.schema, RippleState.schema, SignerList.schema,
      Ticket.schema, Format.faithful_word16.lawful, Format.faithful_word32.lawful,
      Format.faithful_drops.lawful,
      (Format.faithful_list VoteSlot.schema_faithful.format).lawful]

theorem defaults_subset (kind : EntryKind) : kind.schema.layout.defaults ⊆ writtenDefaults := by
  have noWord16 : Format.word16.write 0 = .nat 0 := rfl
  have noWord32 : Format.word32.write 0 = .nat 0 := rfl
  have noDrops : Format.drops.write ⟨0⟩ = .string "0" := rfl
  have firstPage : Format.text.write Field.firstPage = .string Field.firstPage := rfl
  have noItems : (VoteSlot.schema.format.list).write [] = .array [] := rfl
  cases kind <;>
    simp [schema, AccountRoot.schema, Amm.schema, Check.schema, DepositPreauth.schema,
      Escrow.schema, Offer.schema, PayChannel.schema, RippleState.schema, SignerList.schema,
      Ticket.schema, Layout.defaults, writtenDefaults, noWord16, noWord32, noDrops, firstPage,
      noItems, Field.account, Field.destination, Field.flags, Field.ownerNode, Field.page,
      Field.previousTxnId, Field.previousTxnLgrSeq, Field.index]

end EntryKind

theorem Layout.leavesOut_setEach {layout : Layout σ} {names : List String} (record : FieldMap)
    (standIns : ∀ name ∈ names, (layout.standIn? name).isSome = true) :
    layout.LeavesOut (record.setEach (fun name => (layout.standIn? name).getD .null) names)
      (record.without names) := by
  intro name
  rw [LeavesOutAt, FieldMap.get?_setEach, FieldMap.get?_without]
  by_cases member : name ∈ names
  · right
    obtain ⟨json, standIn⟩ := Option.isSome_iff_exists.mp (standIns name member)
    rw [if_pos member, if_pos member, standIn]
    exact ⟨rfl, json, rfl, rfl⟩
  · left
    rw [if_neg member, if_neg member]

namespace LedgerEntry

variable {kind : EntryKind} {requested : Tag} {record fields fewer : FieldMap} {name : String}
  {names : List String}

/-- A record that is no record of its kind. -/
def IsInvalid (requested : Tag) (record : FieldMap) : Prop :=
  ∃ fault, decode requested record = .error (.invalidRecord requested fault)

theorem isInvalid_of_unread (listed : requested ∈ EntryKind.catalog)
    (unread : ∀ entry : LedgerEntry, ¬ entry.ReadFrom record) : IsInvalid requested record := by
  obtain ⟨wanted, -, rfl⟩ := List.mem_map.mp listed
  rw [IsInvalid, decode, EntryKind.ofTag?_tag]
  cases read : readFields record with
  | error fault => exact ⟨fault, rfl⟩
  | ok entry => exact absurd (readFields_eq_ok_iff.mp read) (unread entry)

theorem ReadFrom.kind_eq {entry : LedgerEntry} (readFrom : entry.ReadFrom record)
    (told : record.get? FieldName.entryType = some (.string kind.wireName)) :
    entry.kind = kind := by
  have sameName : Json.string entry.kind.wireName = .string kind.wireName :=
    Option.some.inj (readFrom.1.symm.trans told)
  exact EntryKind.tag_injective (congrArg Tag.mk (Json.string.inj sameName))

theorem isInvalid_of_missing (listed : requested ∈ EntryKind.catalog)
    (told : record.get? FieldName.entryType = some (.string kind.wireName))
    (refused : kind.omission? name = some .refused) (missing : record.get? name = none) :
    IsInvalid requested record := by
  apply isInvalid_of_unread listed
  intro entry readFrom
  obtain rfl := readFrom.kind_eq told
  have there := readFrom.2.isSome_of_refused entry.kind.schema_unaliased refused
  rw [missing] at there
  cases there

theorem isInvalid_of_null (listed : requested ∈ EntryKind.catalog)
    (told : record.get? FieldName.entryType = some (.string kind.wireName))
    (declared : name ∈ kind.schema.layout.names) (notNull : kind.omission? name ≠ some .null)
    (null : record.get? name = some .null) : IsInvalid requested record := by
  apply isInvalid_of_unread listed
  intro entry readFrom
  obtain rfl := readFrom.kind_eq told
  exact notNull (readFrom.2.omission?_of_null entry.kind.schema_omits declared null)

/-- A record that tells its kind is read by the schema of that kind. -/
theorem readFields_of_told
    (told : record.get? FieldName.entryType = some (.string kind.wireName)) :
    readFields record =
      ((kind.schema.readFields record).mapError .inTagged).map fun data => ⟨kind, data⟩ := by
  have readKind : readKind (.string kind.wireName) = .ok kind := readKind_eq_ok_iff.mpr rfl
  rw [readFields, told]
  exact bind_of_ok readKind

theorem decode_of_leavesOut (leaves : kind.schema.layout.LeavesOut fields fewer)
    (told : fields.get? FieldName.entryType = some (.string kind.wireName)) :
    decode requested fewer = decode requested fields := by
  have toldFewer : fewer.get? FieldName.entryType = some (.string kind.wireName) := by
    rcases leaves FieldName.entryType with same | ⟨-, json, standIn, -⟩
    · exact same.trans told
    · exact absurd (Layout.name_mem_of_standIn? standIn) kind.entryType_not_mem_names
  have sameData : kind.schema.readFields fewer = kind.schema.readFields fields :=
    Schema.readFields_of_leavesOut kind.schema_faithful kind.schema_omits kind.schema_unaliased
      leaves
  rw [decode, decode, readFields_of_told told, readFields_of_told toldFewer, sameData]

/-! ### The law for one record -/

theorem get?_setEach_told {values : String → Json}
    (told : record.get? FieldName.entryType = some (.string kind.wireName))
    (declared : names ⊆ kind.schema.layout.names) :
    (record.setEach values names).get? FieldName.entryType = some (.string kind.wireName) := by
  have untouched : FieldName.entryType ∉ names := fun member =>
    kind.entryType_not_mem_names (declared member)
  rw [FieldMap.get?_setEach, if_neg untouched, told]

theorem get?_without_told
    (told : record.get? FieldName.entryType = some (.string kind.wireName))
    (declared : names ⊆ kind.schema.layout.names) :
    (record.without names).get? FieldName.entryType = some (.string kind.wireName) := by
  have untouched : FieldName.entryType ∉ names := fun member =>
    kind.entryType_not_mem_names (declared member)
  rw [FieldMap.get?_without, if_neg untouched, told]

theorem decode_without
    (told : record.get? FieldName.entryType = some (.string kind.wireName))
    (standIns : ∀ name ∈ names, (kind.standIn? name).isSome = true) :
    decode requested (record.without names) =
      decode requested (record.setEach (fun name => (kind.standIn? name).getD .null) names) := by
  have declared : names ⊆ kind.schema.layout.names := by
    intro name member
    obtain ⟨json, standIn⟩ := Option.isSome_iff_exists.mp (standIns name member)
    exact Layout.name_mem_of_standIn? standIn
  exact decode_of_leavesOut (Layout.leavesOut_setEach record standIns)
    (get?_setEach_told told declared)

theorem isInvalid_setEach_null (listed : requested ∈ EntryKind.catalog)
    (told : record.get? FieldName.entryType = some (.string kind.wireName))
    (declared : names ⊆ kind.schema.layout.names) (member : name ∈ names)
    (notNull : kind.omission? name ≠ some .null) :
    IsInvalid requested (record.setEach (fun _ => .null) names) := by
  apply isInvalid_of_null listed (get?_setEach_told told declared) (declared member) notNull
  rw [FieldMap.get?_setEach, if_pos member]

theorem isInvalid_without (listed : requested ∈ EntryKind.catalog)
    (told : record.get? FieldName.entryType = some (.string kind.wireName))
    (declared : names ⊆ kind.schema.layout.names) (member : name ∈ names)
    (refused : kind.omission? name = some .refused) :
    IsInvalid requested (record.without names) := by
  apply isInvalid_of_missing listed (get?_without_told told declared) refused
  rw [FieldMap.get?_without, if_pos member]

/-- What leaving a declared field out of a record does, by what it means that the field is missing,
and what null does for it. -/
inductive FollowsOmission (requested : Tag) (record : FieldMap) (name : String) :
    Omission → Prop where
  | null
      (same : decode requested (record.insert name .null) = decode requested (record.erase name)) :
      FollowsOmission requested record name .null
  | default {written : Json} (listed : written ∈ EntryKind.writtenDefaults)
      (same : decode requested (record.erase name) = decode requested (record.insert name written))
      (invalidNull : requested ∈ EntryKind.catalog →
        IsInvalid requested (record.insert name .null)) :
      FollowsOmission requested record name (.default written)
  | refused
      (invalidMissing : requested ∈ EntryKind.catalog → IsInvalid requested (record.erase name))
      (invalidNull : requested ∈ EntryKind.catalog →
        IsInvalid requested (record.insert name .null)) :
      FollowsOmission requested record name .refused

theorem followsOmission
    (told : record.get? FieldName.entryType = some (.string kind.wireName)) {omission : Omission}
    (declared : kind.omission? name = some omission) :
    FollowsOmission requested record name omission := by
  have member : name ∈ kind.schema.layout.names := by
    rw [← Layout.isSome_omission?_iff, ← EntryKind.omission?, declared]
    rfl
  have alone : [name] ⊆ kind.schema.layout.names := by simpa using member
  -- a stand-in for the field alone
  have leftOut {json : Json} (standIn : kind.standIn? name = some json) :
      decode requested (record.erase name) = decode requested (record.insert name json) := by
    have standIns : ∀ other ∈ [name], (kind.standIn? other).isSome = true := by simp [standIn]
    have left : decode requested (record.without [name]) = _ := decode_without told standIns
    rw [FieldMap.without_singleton] at left
    simpa [FieldMap.setEach, standIn] using left
  have invalidNull (notNull : omission ≠ .null) (listed : requested ∈ EntryKind.catalog) :
      IsInvalid requested (record.insert name .null) := by
    apply isInvalid_setEach_null listed told alone List.mem_cons_self
    rw [declared]
    exact fun same => notNull (Option.some.inj same)
  have standIn : kind.standIn? name = omission.standIn? := by
    rw [EntryKind.standIn?, Layout.standIn?, ← EntryKind.omission?, declared, Option.bind_some]
  cases omission with
  | null => exact .null (leftOut standIn).symm
  | default written =>
      have listed := kind.defaults_subset (Layout.mem_defaults_of_omission? declared)
      exact .default listed (leftOut standIn) (invalidNull (by simp))
  | refused =>
      refine .refused (fun listed => ?_) (invalidNull (by simp))
      rw [← FieldMap.without_singleton]
      exact isInvalid_without listed told alone List.mem_cons_self declared

/--
Every declared field of a record may be left out as what is declared of it says: one that may be
null decodes as null does, and one with a default as its written default does, with the same fault
where there is one; without one that must be there the record is invalid, and so it is with null for
one that may not be null.  The same is true of any number of fields together.
-/
theorem decode_omission (kind : EntryKind) (requested : Tag) (record : FieldMap)
    (told : record.get? FieldName.entryType = some (.string kind.wireName)) :
    (∀ name ∈ kind.schema.layout.names, ∃ omission, kind.omission? name = some omission ∧
      FollowsOmission requested record name omission) ∧
    (∀ names : List String, (∀ name ∈ names, (kind.standIn? name).isSome = true) →
      decode requested (record.without names) =
        decode requested (record.setEach (fun name => (kind.standIn? name).getD .null) names)) ∧
    (requested ∈ EntryKind.catalog → ∀ names ⊆ kind.schema.layout.names, ∀ name ∈ names,
      (kind.omission? name = some .refused → IsInvalid requested (record.without names)) ∧
      (kind.omission? name ≠ some .null →
        IsInvalid requested (record.setEach (fun _ => .null) names))) := by
  refine ⟨?_, ?_, ?_⟩
  · intro name member
    obtain ⟨omission, declared⟩ :=
      Option.isSome_iff_exists.mp (Layout.isSome_omission?_iff.mpr member)
    exact ⟨omission, declared, followsOmission told declared⟩
  · intro names standIns
    exact decode_without told standIns
  · intro listed names declared name member
    constructor
    · exact isInvalid_without listed told declared member
    · exact isInvalid_setEach_null listed told declared member

def channelRecord : FieldMap :=
  .ofList
    [("Account", .string "rEhxGqkqPPSxQ3P25J66ft5TwpzV14k2de"), ("Amount", .string "10000"),
      ("Balance", .nat 1), ("Destination", .string "rEhxGqkqPPSxQ3P25J66ft5TwpzV14k2de"),
      ("Expiration", .nat 5), (FieldName.entryType, .string "PayChannel"),
      (FieldName.previousTxnId, .string Hash.zero.toHex), (FieldName.previousTxnLgrSeq, .nat 7),
      ("PublicKey", .string "32D2"), (FieldName.index, .string Hash.zero.toHex)]

theorem decode_omission_channel :
    channelRecord.get? FieldName.entryType = some (.string EntryKind.payChannel.wireName) ∧
    decode ⟨"PayChannel"⟩ (channelRecord.erase "Balance") =
      decode ⟨"PayChannel"⟩ (channelRecord.insert "Balance" (.string "0")) ∧
    decode ⟨"PayChannel"⟩ (channelRecord.insert "Expiration" .null) =
      decode ⟨"PayChannel"⟩ (channelRecord.erase "Expiration") ∧
    decode ⟨"PayChannel"⟩ (channelRecord.without ["Balance", "Expiration"]) =
      decode ⟨"PayChannel"⟩
        ((channelRecord.insert "Expiration" .null).insert "Balance" (.string "0")) ∧
    (∃ entry, decode ⟨"PayChannel"⟩ (channelRecord.without ["Balance", "Expiration"]) =
      .ok entry) ∧
    IsInvalid ⟨"PayChannel"⟩ (channelRecord.without ["PublicKey", "Balance"]) := by
  have told : channelRecord.get? FieldName.entryType =
      some (.string EntryKind.payChannel.wireName) := rfl
  obtain ⟨single, together, invalid⟩ :=
    decode_omission .payChannel ⟨"PayChannel"⟩ channelRecord told
  refine ⟨told, ?_, ?_, ?_, ⟨_, rfl⟩, ?_⟩
  · obtain ⟨omission, declared, follows⟩ := single "Balance" (by decide)
    cases declared
    cases follows with
    | default _ same => exact same
  · obtain ⟨omission, declared, follows⟩ := single "Expiration" (by decide)
    cases declared
    cases follows with
    | null same => exact same
  · exact together ["Balance", "Expiration"] (by decide)
  · exact (invalid (by decide) ["PublicKey", "Balance"] (by decide) "PublicKey" (by decide)).1 rfl

end LedgerEntry

end AffectedNodes
