import AffectedNodes.Entry.Kind
import AffectedNodes.Proofs.Record.Schema

/-!
# The schemas of entries are faithful

Every schema of the ledger is faithful: the parts of entries, the two shapes of amounts, and the ten
kinds.  Of all of them only votes have fields with a second name.
-/
namespace AffectedNodes

/-! ### Fields that several kinds have -/

namespace Field

@[simp] theorem faithful_account : account.Faithful := by simp [account]

@[simp] theorem faithful_destination : destination.Faithful := by simp [destination]

@[simp] theorem faithful_flags : flags.Faithful := by simp [flags]

@[simp] theorem faithful_page (name : String) : (page name).Faithful := by simp [page]

@[simp] theorem faithful_ownerNode : ownerNode.Faithful := by simp [ownerNode]

@[simp] theorem faithful_previousTxnId : previousTxnId.Faithful := by simp [previousTxnId]

@[simp] theorem faithful_previousTxnLgrSeq : previousTxnLgrSeq.Faithful := by
  simp [previousTxnLgrSeq]

@[simp] theorem faithful_index : index.Faithful := by simp [index]

end Field

/-! ### Amounts and assets -/

theorem IssuedAmount.schema_faithful : IssuedAmount.schema.Faithful where
  layout := {
    fields := by simp [schema]
    distinct := by decide }
  ofRow_toRow _ := rfl
  toRow_ofRow _ := rfl
  isOpen := rfl

theorem Issue.schema_faithful : Issue.schema.Faithful where
  layout := {
    fields := by simp [schema]
    distinct := by decide }
  ofRow_toRow _ := rfl
  toRow_ofRow _ := rfl
  isOpen := rfl

namespace Format

@[simp] theorem faithful_issuedAmount : issuedAmount.Faithful := IssuedAmount.schema_faithful.format

@[simp] theorem faithful_issue : issue.Faithful := Issue.schema_faithful.format

/-- No object is an amount of XRP, so each shape of amount reads back as itself. -/
@[simp] theorem faithful_amount : amount.Faithful where
  lawful value := by
    cases value with
    | xrp count =>
        have read := faithful_drops.lawful count
        simp only [amount, read]
    | issued issued =>
        have noDrops : drops.read (issuedAmount.write issued) =
            .error (.wrongType .map "a string") := rfl
        have read := faithful_issuedAmount.lawful issued
        simp only [amount, noDrops, read]
  write_ne_null value := by
    cases value with
    | xrp count => exact faithful_drops.write_ne_null count
    | issued issued => exact faithful_issuedAmount.write_ne_null issued
  write_exact value := by
    cases value with
    | xrp count => exact faithful_drops.write_exact count
    | issued issued => exact faithful_issuedAmount.write_exact issued

end Format

/-! ### Parts of pools and of signer lists -/

theorem VoteEntry.schema_faithful : VoteEntry.schema.Faithful where
  layout := {
    fields := by simp [schema]
    distinct := by decide }
  ofRow_toRow _ := rfl
  toRow_ofRow _ := rfl
  isOpen := rfl

theorem VoteSlot.schema_faithful : VoteSlot.schema.Faithful where
  layout := {
    fields := by simp [schema, VoteEntry.schema_faithful.format]
    distinct := by decide }
  ofRow_toRow _ := rfl
  toRow_ofRow _ := rfl
  isOpen := rfl

theorem AuthorizedAccount.schema_faithful : AuthorizedAccount.schema.Faithful where
  layout := {
    fields := by simp [schema]
    distinct := by decide }
  ofRow_toRow _ := rfl
  toRow_ofRow _ := rfl
  isOpen := rfl

theorem AuthorizedSlot.schema_faithful : AuthorizedSlot.schema.Faithful where
  layout := {
    fields := by simp [schema, AuthorizedAccount.schema_faithful.format]
    distinct := by decide }
  ofRow_toRow _ := rfl
  toRow_ofRow _ := rfl
  isOpen := rfl

theorem AuctionSlot.schema_faithful : AuctionSlot.schema.Faithful where
  layout := {
    fields := by simp [schema, AuthorizedSlot.schema_faithful.format]
    distinct := by decide }
  ofRow_toRow _ := rfl
  toRow_ofRow _ := rfl
  isOpen := rfl

theorem SignerEntry.schema_faithful : SignerEntry.schema.Faithful where
  layout := {
    fields := by simp [schema]
    distinct := by decide }
  ofRow_toRow _ := rfl
  toRow_ofRow _ := rfl
  isOpen := rfl

theorem SignerSlot.schema_faithful : SignerSlot.schema.Faithful where
  layout := {
    fields := by simp [schema, SignerEntry.schema_faithful.format]
    distinct := by decide }
  ofRow_toRow _ := rfl
  toRow_ofRow _ := rfl
  isOpen := rfl

/-! ### The ten kinds -/

theorem AccountRoot.schema_faithful : AccountRoot.schema.Faithful where
  layout := {
    fields := by simp [schema]
    distinct := by decide }
  ofRow_toRow _ := rfl
  toRow_ofRow _ := rfl
  isOpen := rfl

theorem Amm.schema_faithful : Amm.schema.Faithful where
  layout := {
    fields := by simp [schema, AuctionSlot.schema_faithful.format, VoteSlot.schema_faithful.format]
    distinct := by decide }
  ofRow_toRow _ := rfl
  toRow_ofRow _ := rfl
  isOpen := rfl

theorem Check.schema_faithful : Check.schema.Faithful where
  layout := {
    fields := by simp [schema]
    distinct := by decide }
  ofRow_toRow _ := rfl
  toRow_ofRow _ := rfl
  isOpen := rfl

theorem DepositPreauth.schema_faithful : DepositPreauth.schema.Faithful where
  layout := {
    fields := by simp [schema]
    distinct := by decide }
  ofRow_toRow _ := rfl
  toRow_ofRow _ := rfl
  isOpen := rfl

theorem Escrow.schema_faithful : Escrow.schema.Faithful where
  layout := {
    fields := by simp [schema]
    distinct := by decide }
  ofRow_toRow _ := rfl
  toRow_ofRow _ := rfl
  isOpen := rfl

theorem Offer.schema_faithful : Offer.schema.Faithful where
  layout := {
    fields := by simp [schema]
    distinct := by decide }
  ofRow_toRow _ := rfl
  toRow_ofRow _ := rfl
  isOpen := rfl

theorem PayChannel.schema_faithful : PayChannel.schema.Faithful where
  layout := {
    fields := by simp [schema]
    distinct := by decide }
  ofRow_toRow _ := rfl
  toRow_ofRow _ := rfl
  isOpen := rfl

theorem RippleState.schema_faithful : RippleState.schema.Faithful where
  layout := {
    fields := by simp [schema]
    distinct := by decide }
  ofRow_toRow _ := rfl
  toRow_ofRow _ := rfl
  isOpen := rfl

theorem SignerList.schema_faithful : SignerList.schema.Faithful where
  layout := {
    fields := by simp [schema, SignerSlot.schema_faithful.format]
    distinct := by decide }
  ofRow_toRow _ := rfl
  toRow_ofRow _ := rfl
  isOpen := rfl

theorem Ticket.schema_faithful : Ticket.schema.Faithful where
  layout := {
    fields := by simp [schema]
    distinct := by decide }
  ofRow_toRow _ := rfl
  toRow_ofRow _ := rfl
  isOpen := rfl

namespace EntryKind

theorem schema_faithful (kind : EntryKind) : kind.schema.Faithful := by
  cases kind with
  | accountRoot => exact AccountRoot.schema_faithful
  | amm => exact Amm.schema_faithful
  | check => exact Check.schema_faithful
  | depositPreauth => exact DepositPreauth.schema_faithful
  | escrow => exact Escrow.schema_faithful
  | offer => exact Offer.schema_faithful
  | payChannel => exact PayChannel.schema_faithful
  | rippleState => exact RippleState.schema_faithful
  | signerList => exact SignerList.schema_faithful
  | ticket => exact Ticket.schema_faithful

theorem schema_unaliased (kind : EntryKind) : kind.schema.layout.aliases = [] := by
  cases kind <;> rfl

/-- The member that tells the kind is no field of any kind. -/
theorem entryType_not_mem_names (kind : EntryKind) :
    FieldName.entryType ∉ kind.schema.layout.names := by
  cases kind <;> decide

theorem holds_index (kind : EntryKind) (data : kind.Data) :
    Layout.Holds Field.index (kind.index data) kind.schema.layout (kind.schema.toRow data) := by
  cases kind <;> repeat first | exact .here | apply Layout.Holds.there

theorem previousTxnId_mem_names (kind : EntryKind) :
    FieldName.previousTxnId ∈ kind.schema.layout.names := by
  cases kind <;> decide

theorem previousTxnLgrSeq_mem_names (kind : EntryKind) :
    FieldName.previousTxnLgrSeq ∈ kind.schema.layout.names := by
  cases kind <;> decide

theorem tag_injective {kind kind' : EntryKind} (same : kind.tag = kind'.tag) : kind = kind' := by
  have found := ofTag?_tag kind
  rw [same, ofTag?_tag] at found
  exact (Option.some.inj found).symm

end EntryKind

end AffectedNodes
