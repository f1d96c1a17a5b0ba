import AffectedNodes.Input
import AffectedNodes.Proofs.Json.Plain

/-!
# Whatever is written is plain

The formats write texts, words and containers of them, so every entry, every node and all metadata
are plain values.  The deepest entries are pools, whose authorized accounts stand in five containers;
an element of a batch adds two to that, and metadata add two more.
-/
namespace AffectedNodes

variable {depth : Nat}

def Format.Plain (depth : Nat) (format : Format α) : Prop :=
  ∀ value, (format.write value).isPlain depth = true

def Field.Plain (depth : Nat) (field : Field α) : Prop :=
  ∀ value json, field.write value = some json → json.isPlain depth = true

def Layout.Plain (depth : Nat) : Layout σ → Prop
  | done => True
  | field first rest => first.Plain depth ∧ rest.Plain depth

namespace Format

@[simp] theorem plain_ofText (parse : String → Except ReadFault α) (text : α → String) :
    (ofText parse text).Plain depth :=
  fun value => Json.isPlain_string (text value)

@[simp] theorem plain_text : text.Plain depth := plain_ofText _ _

@[simp] theorem plain_tag : tag.Plain depth := plain_ofText _ _

@[simp] theorem plain_hash : hash.Plain depth := plain_ofText _ _

@[simp] theorem plain_address : address.Plain depth := plain_ofText _ _

@[simp] theorem plain_drops : drops.Plain depth := plain_ofText _ _

theorem plain_natural {wanted : String} {bound : Nat} {ofNat : Nat → α} {toNat : α → Nat}
    (below : ∀ value, toNat value < UInt64.size) :
    (natural wanted bound ofNat toNat).Plain depth :=
  fun value => Json.isPlain_nat (below value)

@[simp] theorem plain_word8 : word8.Plain depth :=
  plain_natural fun value => Nat.lt_trans value.toNat_lt (by decide)

@[simp] theorem plain_word16 : word16.Plain depth :=
  plain_natural fun value => Nat.lt_trans value.toNat_lt (by decide)

@[simp] theorem plain_word32 : word32.Plain depth :=
  plain_natural fun value => Nat.lt_trans value.toNat_lt (by decide)

@[simp] theorem plain_sequence : sequence.Plain depth := fun value => plain_word32 value.number

@[simp] theorem plain_list {format : Format α} (plain : format.Plain depth) :
    format.list.Plain (depth + 1) := by
  intro values
  refine Json.isPlain_array.mpr fun item member => ?_
  obtain ⟨value, -, rfl⟩ := List.mem_map.mp member
  exact plain value

end Format

namespace Field

@[simp] theorem plain_required (name : String) {format : Format α} (plain : format.Plain depth)
    (aliases : List String) : (required name format aliases).Plain depth := by
  rintro value json written
  cases written
  exact plain value

@[simp] theorem plain_defaulted (name : String) {format : Format α} (plain : format.Plain depth)
    (default : α) (aliases : List String) :
    (defaulted name format default aliases).Plain depth := by
  rintro value json written
  cases written
  exact plain value

@[simp] theorem plain_optional (name : String) {format : Format α} (plain : format.Plain depth) :
    (optional name format).Plain depth := by
  rintro value json written
  cases value with
  | none => cases written
  | some value =>
      cases written
      exact plain value

end Field

@[simp] theorem Layout.plain_done : done.Plain depth := trivial

@[simp] theorem Layout.plain_field (first : Field α) (rest : Layout σ) :
    (field first rest).Plain depth ↔ first.Plain depth ∧ rest.Plain depth := Iff.rfl

theorem Layout.Plain.write {layout : Layout σ} (plain : layout.Plain depth) (row : σ) :
    ∀ member ∈ layout.write row, member.2.isPlain depth = true := by
  induction layout with
  | done => exact nofun
  | field first rest ih =>
      obtain ⟨value, values⟩ := row
      rw [Layout.write]
      cases written : first.write value with
      | none => exact ih plain.2 values
      | some json =>
          exact List.forall_mem_cons.mpr ⟨plain.1 value json written, ih plain.2 values⟩

theorem Schema.plain_format {schema : Schema α} (plain : schema.layout.Plain depth) :
    schema.format.Plain (depth + 1) :=
  fun record => Json.isPlain_ofList (plain.write (schema.toRow record))

/-! ### Entries -/

namespace Format

@[simp] theorem plain_issuedAmount : issuedAmount.Plain (depth + 1) :=
  Schema.plain_format (by simp [IssuedAmount.schema])

@[simp] theorem plain_issue : issue.Plain (depth + 1) := Schema.plain_format (by simp [Issue.schema])

@[simp] theorem plain_amount : amount.Plain (depth + 1)
  | .xrp count => plain_drops count
  | .issued issued => plain_issuedAmount issued

end Format

theorem VoteSlot.plain_format : VoteSlot.schema.format.Plain (depth + 2) := by
  have vote : VoteEntry.schema.format.Plain (depth + 1) :=
    Schema.plain_format (by simp [VoteEntry.schema])
  exact Schema.plain_format (by simp [VoteSlot.schema, vote])

theorem SignerSlot.plain_format : SignerSlot.schema.format.Plain (depth + 2) := by
  have signer : SignerEntry.schema.format.Plain (depth + 1) :=
    Schema.plain_format (by simp [SignerEntry.schema, Field.account])
  exact Schema.plain_format (by simp [SignerSlot.schema, signer])

theorem AuctionSlot.plain_format : AuctionSlot.schema.format.Plain (depth + 4) := by
  have account : AuthorizedAccount.schema.format.Plain (depth + 1) :=
    Schema.plain_format (by simp [AuthorizedAccount.schema, Field.account])
  have slot : AuthorizedSlot.schema.format.Plain (depth + 2) :=
    Schema.plain_format (by simp [AuthorizedSlot.schema, account])
  exact Schema.plain_format (by simp [AuctionSlot.schema, Field.account, slot])

namespace EntryKind

/-- No kind of entry has fields with more than four containers inside each other. -/
theorem plain_layout (kind : EntryKind) : kind.schema.layout.Plain (depth + 4) := by
  cases kind <;>
    simp [schema, AccountRoot.schema, Amm.schema, Check.schema, DepositPreauth.schema,
      Escrow.schema, Offer.schema, PayChannel.schema, RippleState.schema, SignerList.schema,
      Ticket.schema, Field.account, Field.destination, Field.flags, Field.page, Field.ownerNode,
      Field.previousTxnId, Field.previousTxnLgrSeq, Field.index, VoteSlot.plain_format,
      SignerSlot.plain_format, AuctionSlot.plain_format]

end EntryKind

namespace LedgerEntry

theorem plain_fields {entry : LedgerEntry} {name : String} {value : Json}
    (held : entry.fields.get? name = some value) : value.isPlain (depth + 4) = true := by
  rw [fields, FieldMap.get?_insert] at held
  split at held
  · cases held
    exact Json.isPlain_string _
  · exact entry.kind.plain_layout.write _ _ (FieldMap.mem_of_get?_ofList held)

theorem plain_toJson (entry : LedgerEntry) : entry.toJson.isPlain (depth + 5) = true :=
  Json.isPlain_toJson fun _ _ => plain_fields

end LedgerEntry

/-! ### Nodes and metadata -/

namespace Node

theorem plain_identityMembers (identifier : Identifier) :
    ∀ member ∈ identityMembers identifier, member.2.isPlain depth = true := by
  have plain : Identifier.schema.layout.Plain depth := by simp [Identifier.schema]
  rintro ⟨name, value⟩ member
  have found := FieldMap.get?_eq_some_iff.mpr member
  exact plain.write _ _ (FieldMap.mem_of_get?_ofList found)

theorem plain_snapshotMember (name : String) (snapshot : Option LedgerEntry) :
    ∀ member ∈ snapshotMember name snapshot, member.2.isPlain (depth + 5) = true := by
  intro member listed
  obtain ⟨entry, -, rfl⟩ := List.mem_map.mp listed
  exact entry.plain_toJson

theorem plain_envelope (node : Node) : node.envelope.toJson.isPlain (depth + 6) = true := by
  cases node with
  | created node =>
      apply Json.isPlain_ofList
      rw [List.forall_mem_append]
      exact ⟨plain_identityMembers _, plain_snapshotMember _ _⟩
  | deleted node =>
      apply Json.isPlain_ofList
      rw [List.forall_mem_append]
      exact ⟨plain_identityMembers _, plain_snapshotMember _ _⟩
  | modified node =>
      apply Json.isPlain_ofList
      rw [List.forall_mem_append, List.forall_mem_append, List.forall_mem_append,
        List.forall_mem_cons, List.forall_mem_singleton]
      exact ⟨⟨⟨plain_identityMembers _, plain_snapshotMember _ _⟩, plain_snapshotMember _ _⟩,
        Json.isPlain_string _, Format.plain_sequence node.bookkeeping.lgrSeq⟩

theorem plain_toJson (node : Node) : node.toJson.isPlain (depth + 7) = true :=
  Json.isPlain_object.mpr
    ⟨List.pairwise_singleton _ _, List.forall_mem_singleton.mpr node.plain_envelope⟩

theorem plain_list (nodes : List Node) :
    (Json.array (nodes.map toJson)).isPlain (depth + 8) = true := by
  refine Json.isPlain_array.mpr fun item member => ?_
  obtain ⟨node, -, rfl⟩ := List.mem_map.mp member
  exact node.plain_toJson

end Node

theorem Metadata.plain_toJson (metadata : Metadata) :
    metadata.toJson.isPlain (depth + 9) = true := by
  apply Json.isPlain_ofList
  rw [List.forall_mem_append, List.forall_mem_cons, List.forall_mem_cons,
    List.forall_mem_singleton]
  refine ⟨⟨Node.plain_list _, Format.plain_word32 _, Json.isPlain_string _⟩, ?_⟩
  intro member listed
  obtain ⟨amount, -, rfl⟩ := List.mem_map.mp listed
  exact Format.plain_amount amount

theorem Decoded.plain_toJson (decoded : Decoded) : decoded.toJson.isPlain (depth + 9) = true := by
  cases decoded with
  | metadata metadata => exact metadata.plain_toJson
  | nodes nodes => exact Node.plain_list nodes

end AffectedNodes
