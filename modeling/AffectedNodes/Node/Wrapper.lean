import AffectedNodes.Record.Format

/-!
# Wrappers of affected nodes

Each element of `AffectedNodes` is an object with one key, which tells whether the transaction
created, modified or deleted the object inside.
-/
namespace AffectedNodes

inductive Wrapper where
  | created
  | modified
  | deleted
  deriving DecidableEq, Repr, Inhabited

namespace Wrapper

def key : Wrapper → String
  | created => "CreatedNode"
  | modified => "ModifiedNode"
  | deleted => "DeletedNode"

def ofKey? (key : String) : Option Wrapper :=
  [created, modified, deleted].find? fun wrapper => wrapper.key == key

@[simp] theorem ofKey?_key (wrapper : Wrapper) : ofKey? wrapper.key = some wrapper := by
  cases wrapper <;> rfl

def stateBlock : Wrapper → String
  | created => "NewFields"
  | modified | deleted => "FinalFields"

def name : Wrapper → String
  | created => "Created"
  | modified => "Modified"
  | deleted => "Deleted"

def format : Format Wrapper :=
  .choice ([created, modified, deleted].map fun wrapper => (wrapper.name, wrapper)) name

end Wrapper

/-- The block that lists what the changed fields were before. -/
def previousBlock : String := "PreviousFields"

end AffectedNodes
