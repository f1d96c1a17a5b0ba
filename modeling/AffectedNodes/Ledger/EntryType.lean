import AffectedNodes.Ledger.Hash

/-!
# Entry types

Every object of the ledger carries a tag that names its type.  Tags are open: a tag that is not in
the catalog of known types is still a tag, because ledgers gain types over time.  An object is
identified by its key and its tag.
-/
namespace AffectedNodes

/-- The tag of an object's type, compared by its text. -/
structure Tag where
  text : String
  deriving DecidableEq, Repr, Inhabited

namespace Tag

instance : Ord Tag := ⟨fun first second => compare first.text second.text⟩

def debugText (tag : Tag) : String := "EntryTypeTag(" ++ tag.text ++ ")"

end Tag

/-- The types in the catalog, in its order. -/
inductive EntryType where
  | accountRoot
  | amendments
  | amm
  | bridge
  | check
  | depositPreauth
  | did
  | directoryNode
  | escrow
  | feeSettings
  | ledgerHashes
  | negativeUnl
  | nfTokenOffer
  | nfTokenPage
  | offer
  | oracle
  | payChannel
  | rippleState
  | signerList
  | ticket
  deriving DecidableEq, Repr, Inhabited

namespace EntryType

def all : List EntryType :=
  [accountRoot, amendments, amm, bridge, check, depositPreauth, did, directoryNode, escrow,
    feeSettings, ledgerHashes, negativeUnl, nfTokenOffer, nfTokenPage, offer, oracle, payChannel,
    rippleState, signerList, ticket]

def wireName : EntryType → String
  | accountRoot => "AccountRoot"
  | amendments => "Amendments"
  | amm => "AMM"
  | bridge => "Bridge"
  | check => "Check"
  | depositPreauth => "DepositPreauth"
  | did => "DID"
  | directoryNode => "DirectoryNode"
  | escrow => "Escrow"
  | feeSettings => "FeeSettings"
  | ledgerHashes => "LedgerHashes"
  | negativeUnl => "NegativeUNL"
  | nfTokenOffer => "NFTokenOffer"
  | nfTokenPage => "NFTokenPage"
  | offer => "Offer"
  | oracle => "Oracle"
  | payChannel => "PayChannel"
  | rippleState => "RippleState"
  | signerList => "SignerList"
  | ticket => "Ticket"

def position (type : EntryType) : Nat := all.idxOf type

instance : Ord EntryType := ⟨fun first second => compare first.position second.position⟩

def tag (type : EntryType) : Tag := ⟨type.wireName⟩

end EntryType

def Tag.known? (tag : Tag) : Option EntryType :=
  EntryType.all.find? fun type => type.wireName == tag.text

theorem Tag.known?_tag (type : EntryType) : type.tag.known? = some type := by
  cases type <;> rfl

structure Identifier where
  key : Hash
  tag : Tag
  deriving DecidableEq, Repr, Inhabited

def Identifier.text (identifier : Identifier) : String :=
  identifier.tag.text ++ " " ++ identifier.key.shortHex

end AffectedNodes
