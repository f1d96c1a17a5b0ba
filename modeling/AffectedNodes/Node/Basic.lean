import AffectedNodes.Node.Envelope

/-!
# Affected nodes

A decoded node tells what happened to one object.  Its snapshots are entries of the kind that the
tag names; a node of a tag that is not decoded has its identity only.
-/
namespace AffectedNodes

structure CreatedNode where
  identifier : Identifier
  newState : Option LedgerEntry
  deriving DecidableEq

/-- An object that the transaction deleted, as it was right before. -/
structure DeletedNode where
  identifier : Identifier
  finalState : Option LedgerEntry
  deriving DecidableEq

/-- An object that the transaction modified.  There is a previous state only if the node lists
previous values. -/
structure ModifiedNode where
  identifier : Identifier
  finalState : Option LedgerEntry
  previousState : Option LedgerEntry
  bookkeeping : Bookkeeping
  deriving DecidableEq

inductive Node where
  | created (node : CreatedNode)
  | modified (node : ModifiedNode)
  | deleted (node : DeletedNode)
  deriving DecidableEq

namespace Node

def wrapper : Node → Wrapper
  | created _ => .created
  | modified _ => .modified
  | deleted _ => .deleted

def identifier : Node → Identifier
  | created node => node.identifier
  | modified node => node.identifier
  | deleted node => node.identifier

def latestState : Node → Option LedgerEntry
  | created node => node.newState
  | modified node => node.finalState
  | deleted node => node.finalState

def isDecoded (node : Node) : Bool := node.latestState.isSome

def modified? : Node → Option ModifiedNode
  | modified node => some node
  | created _ | deleted _ => none

def identityMembers (identifier : Identifier) : List (String × Json) :=
  (Identifier.schema.writeFields identifier).entries

def snapshotMember (name : String) (snapshot : Option LedgerEntry) : List (String × Json) :=
  snapshot.toList.map fun entry => (name, entry.toJson)

def envelope : Node → FieldMap
  | created node =>
      FieldMap.ofList <|
        identityMembers node.identifier ++
          snapshotMember Wrapper.created.stateBlock node.newState
  | deleted node =>
      FieldMap.ofList <|
        identityMembers node.identifier ++
          snapshotMember Wrapper.deleted.stateBlock node.finalState
  | modified node =>
      FieldMap.ofList <|
        identityMembers node.identifier ++
          snapshotMember Wrapper.modified.stateBlock node.finalState ++
          snapshotMember previousBlock node.previousState ++
          [(FieldName.previousTxnId, .string node.bookkeeping.txnId.toHex),
            (FieldName.previousTxnLgrSeq, .nat node.bookkeeping.lgrSeq.number.toNat)]

def toJson (node : Node) : Json := .object [(node.wrapper.key, node.envelope.toJson)]

end Node

end AffectedNodes
