import AffectedNodes.Entry.Shared

/-!
# Automated market makers

A pool of two assets that trades by a formula. Those who fund it vote on its fee, and one account
at a time holds the slot with a discounted fee. A pool may carry no account of its last
transaction.
-/
namespace AffectedNodes

/-- One vote on the trading fee. Some servers spell the names of its fields in lower case. -/
structure VoteEntry where
  account : Address
  tradingFee : UInt16
  voteWeight : UInt32
  deriving DecidableEq, Repr

def VoteEntry.schema : Schema VoteEntry where
  name := "VoteEntry"
  Row := _
  layout :=
    .field (.required "Account" .address ["account"]) <|
    .field (.defaulted "TradingFee" .word16 0 ["trading_fee"]) <|
    .field (.required "VoteWeight" .word32 ["vote_weight"]) .done
  toRow vote := (vote.account, vote.tradingFee, vote.voteWeight, ())
  ofRow := fun (account, tradingFee, voteWeight, ()) => ⟨account, tradingFee, voteWeight⟩
  closed := false

structure VoteSlot where
  voteEntry : VoteEntry
  deriving DecidableEq, Repr

def VoteSlot.schema : Schema VoteSlot where
  name := "VoteEntryWrapper"
  Row := _
  layout :=
    .field (.required "VoteEntry" VoteEntry.schema.format) .done
  toRow slot := (slot.voteEntry, ())
  ofRow := fun (voteEntry, ()) => ⟨voteEntry⟩
  closed := false

/-- An account that trades at the discounted fee as well. -/
structure AuthorizedAccount where
  account : Address
  deriving DecidableEq, Repr

def AuthorizedAccount.schema : Schema AuthorizedAccount where
  name := "AuthAccount"
  Row := _
  layout :=
    .field .account .done
  toRow authorized := (authorized.account, ())
  ofRow := fun (account, ()) => ⟨account⟩
  closed := false

structure AuthorizedSlot where
  authAccount : AuthorizedAccount
  deriving DecidableEq, Repr

def AuthorizedSlot.schema : Schema AuthorizedSlot where
  name := "AuthAccountWrapper"
  Row := _
  layout :=
    .field (.required "AuthAccount" AuthorizedAccount.schema.format) .done
  toRow slot := (slot.authAccount, ())
  ofRow := fun (authAccount, ()) => ⟨authAccount⟩
  closed := false

/-- The discounted slot: who holds it, at what price, and until when. -/
structure AuctionSlot where
  account : Address
  authAccounts : List AuthorizedSlot
  discountedFee : UInt16
  price : IssuedAmount
  expiration : UInt32
  deriving DecidableEq, Repr

def AuctionSlot.schema : Schema AuctionSlot where
  name := "AuctionSlot"
  Row := _
  layout :=
    .field .account <|
    .field (.defaulted "AuthAccounts" AuthorizedSlot.schema.format.list []) <|
    .field (.defaulted "DiscountedFee" .word16 0) <|
    .field (.required "Price" .issuedAmount) <|
    .field (.required "Expiration" .word32) .done
  toRow slot :=
    (slot.account, slot.authAccounts, slot.discountedFee, slot.price, slot.expiration, ())
  ofRow := fun (account, authAccounts, discountedFee, price, expiration, ()) =>
    ⟨account, authAccounts, discountedFee, price, expiration⟩
  closed := false

structure Amm where
  asset : Issue
  asset2 : Issue
  ammAccount : Address
  auctionSlot : Option AuctionSlot
  lpTokenBalance : IssuedAmount
  tradingFee : UInt16
  voteSlots : List VoteSlot
  flags : UInt32
  ownerNode : Option String
  previousTxnId : Option Hash
  previousTxnLgrSeq : Option LedgerSequence
  index : Hash
  deriving DecidableEq, Repr

def Amm.schema : Schema Amm where
  name := "AmmObject"
  Row := _
  layout :=
    .field (.required "Asset" .issue) <|
    .field (.required "Asset2" .issue) <|
    .field (.required "AMMAccount" .address) <|
    .field (.optional "AuctionSlot" AuctionSlot.schema.format) <|
    .field (.required "LPTokenBalance" .issuedAmount) <|
    .field (.defaulted "TradingFee" .word16 0) <|
    .field (.defaulted "VoteSlots" VoteSlot.schema.format.list []) <|
    .field .flags <|
    .field (.optional "OwnerNode" .text) <|
    .field (.optional FieldName.previousTxnId .hash) <|
    .field (.optional FieldName.previousTxnLgrSeq .sequence) <|
    .field .index .done
  toRow pool :=
    (pool.asset, pool.asset2, pool.ammAccount, pool.auctionSlot, pool.lpTokenBalance,
      pool.tradingFee, pool.voteSlots, pool.flags, pool.ownerNode, pool.previousTxnId,
      pool.previousTxnLgrSeq, pool.index, ())
  ofRow := fun (asset, asset2, ammAccount, auctionSlot, lpTokenBalance, tradingFee, voteSlots,
      flags, ownerNode, previousTxnId, previousTxnLgrSeq, index, ()) =>
    ⟨asset, asset2, ammAccount, auctionSlot, lpTokenBalance, tradingFee, voteSlots, flags,
      ownerNode, previousTxnId, previousTxnLgrSeq, index⟩
  closed := false

def Amm.votes (pool : Amm) : List VoteEntry := pool.voteSlots.map (·.voteEntry)

end AffectedNodes
