import AffectedNodes.Entry.AccountRoot
import AffectedNodes.Entry.Amm
import AffectedNodes.Entry.Check
import AffectedNodes.Entry.DepositPreauth
import AffectedNodes.Entry.Escrow
import AffectedNodes.Entry.Offer
import AffectedNodes.Entry.PayChannel
import AffectedNodes.Entry.RippleState
import AffectedNodes.Entry.SignerList
import AffectedNodes.Entry.Ticket

/-!
# Kinds of entries with a schema

Of the types in the catalog ten have a schema.  A kind determines the type of its data and the
schema that reads and writes them, so what holds for every schema is said once for all kinds.
-/
namespace AffectedNodes

inductive EntryKind where
  | accountRoot
  | amm
  | check
  | depositPreauth
  | escrow
  | offer
  | payChannel
  | rippleState
  | signerList
  | ticket
  deriving DecidableEq, Repr, Inhabited

namespace EntryKind

def all : List EntryKind :=
  [accountRoot, amm, check, depositPreauth, escrow, offer, payChannel, rippleState, signerList,
    ticket]

def type : EntryKind → EntryType
  | accountRoot => .accountRoot
  | amm => .amm
  | check => .check
  | depositPreauth => .depositPreauth
  | escrow => .escrow
  | offer => .offer
  | payChannel => .payChannel
  | rippleState => .rippleState
  | signerList => .signerList
  | ticket => .ticket

def wireName (kind : EntryKind) : String := kind.type.wireName

def tag (kind : EntryKind) : Tag := kind.type.tag

def ofTag? (tag : Tag) : Option EntryKind := all.find? fun kind => kind.wireName == tag.text

@[simp] theorem ofTag?_tag (kind : EntryKind) : ofTag? kind.tag = some kind := by
  cases kind <;> rfl

def catalog : List Tag := all.map tag

def Data : EntryKind → Type
  | accountRoot => AccountRoot
  | amm => Amm
  | check => Check
  | depositPreauth => DepositPreauth
  | escrow => Escrow
  | offer => Offer
  | payChannel => PayChannel
  | rippleState => RippleState
  | signerList => SignerList
  | ticket => Ticket

instance (kind : EntryKind) : DecidableEq kind.Data :=
  match kind with
  | accountRoot => inferInstanceAs (DecidableEq AccountRoot)
  | amm => inferInstanceAs (DecidableEq Amm)
  | check => inferInstanceAs (DecidableEq Check)
  | depositPreauth => inferInstanceAs (DecidableEq DepositPreauth)
  | escrow => inferInstanceAs (DecidableEq Escrow)
  | offer => inferInstanceAs (DecidableEq Offer)
  | payChannel => inferInstanceAs (DecidableEq PayChannel)
  | rippleState => inferInstanceAs (DecidableEq RippleState)
  | signerList => inferInstanceAs (DecidableEq SignerList)
  | ticket => inferInstanceAs (DecidableEq Ticket)

def schema : (kind : EntryKind) → Schema kind.Data
  | accountRoot => AccountRoot.schema
  | amm => Amm.schema
  | check => Check.schema
  | depositPreauth => DepositPreauth.schema
  | escrow => Escrow.schema
  | offer => Offer.schema
  | payChannel => PayChannel.schema
  | rippleState => RippleState.schema
  | signerList => SignerList.schema
  | ticket => Ticket.schema

def index : (kind : EntryKind) → kind.Data → Hash
  | accountRoot => AccountRoot.index
  | amm => Amm.index
  | check => Check.index
  | depositPreauth => DepositPreauth.index
  | escrow => Escrow.index
  | offer => Offer.index
  | payChannel => PayChannel.index
  | rippleState => RippleState.index
  | signerList => SignerList.index
  | ticket => Ticket.index

/-- The transaction that touched an entry last, which only a pool may leave out. -/
def previousTxnId? : (kind : EntryKind) → kind.Data → Option Hash
  | accountRoot => some ∘ AccountRoot.previousTxnId
  | amm => Amm.previousTxnId
  | check => some ∘ Check.previousTxnId
  | depositPreauth => some ∘ DepositPreauth.previousTxnId
  | escrow => some ∘ Escrow.previousTxnId
  | offer => some ∘ Offer.previousTxnId
  | payChannel => some ∘ PayChannel.previousTxnId
  | rippleState => some ∘ RippleState.previousTxnId
  | signerList => some ∘ SignerList.previousTxnId
  | ticket => some ∘ Ticket.previousTxnId

def previousTxnLgrSeq? : (kind : EntryKind) → kind.Data → Option LedgerSequence
  | accountRoot => some ∘ AccountRoot.previousTxnLgrSeq
  | amm => Amm.previousTxnLgrSeq
  | check => some ∘ Check.previousTxnLgrSeq
  | depositPreauth => some ∘ DepositPreauth.previousTxnLgrSeq
  | escrow => some ∘ Escrow.previousTxnLgrSeq
  | offer => some ∘ Offer.previousTxnLgrSeq
  | payChannel => some ∘ PayChannel.previousTxnLgrSeq
  | rippleState => some ∘ RippleState.previousTxnLgrSeq
  | signerList => some ∘ SignerList.previousTxnLgrSeq
  | ticket => some ∘ Ticket.previousTxnLgrSeq

end EntryKind

end AffectedNodes
