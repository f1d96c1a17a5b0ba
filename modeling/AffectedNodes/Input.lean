import AffectedNodes.Metadata

/-!
# Inputs

An input is a list of nodes, or metadata, which may be wrapped in the transaction that they belong
to: the member `meta`, or else `metaData`, leads to them, through any number of wrappings.
-/
namespace AffectedNodes

inductive Input where
  | metadata (value : Json)
  | nodes (elements : List Json)
  deriving Repr

namespace Input

/-- Why a value is no input. -/
inductive Fault where
  | noMetadata
  | noContainer (found : Json)
  deriving Repr

def Fault.message : Fault → String
  | noMetadata => "expected transaction metadata or an AffectedNodes array"
  | noContainer found => "expected a JSON object or array, got " ++ found.compact

/-- The member of a transaction that holds its metadata. -/
def wrapped? (fields : FieldMap) : Option Json :=
  (fields.get? "meta").or (fields.get? "metaData")

theorem sizeOf_lt_of_wrapped? {members : List (String × Json)} {value : Json}
    (found : wrapped? (FieldMap.ofList members) = some value) :
    sizeOf value < sizeOf (Json.object members) := by
  rw [wrapped?] at found
  cases inner : (FieldMap.ofList members).get? "meta" with
  | some held =>
      rw [inner] at found
      have same : held = value := by simpa using found
      exact FieldMap.sizeOf_lt_of_get?_ofList (same ▸ inner)
  | none =>
      rw [inner] at found
      exact FieldMap.sizeOf_lt_of_get?_ofList (by simpa using found)

def classify : Json → Except Fault Input
  | .array elements => .ok (.nodes elements)
  | .object members =>
      let fields := FieldMap.ofList members
      if fields.contains "AffectedNodes" then .ok (.metadata (.object members))
      else
        match _ : wrapped? fields with
        | some (.object inner) => classify (.object inner)
        | _ => .error .noMetadata
  | other => .error (.noContainer other)
termination_by value => sizeOf value
decreasing_by exact sizeOf_lt_of_wrapped? ‹_›

end Input

inductive Decoded where
  | metadata (decoded : Metadata)
  | nodes (decoded : List Node)

namespace Decoded

def nodeList : Decoded → List Node
  | metadata decoded => decoded.nodes
  | nodes decoded => decoded

def toJson : Decoded → Json
  | metadata decoded => decoded.toJson
  | nodes decoded => .array (decoded.map Node.toJson)

end Decoded

def Input.decode (catalog : Catalog) (settings : Settings) :
    Input → Except DecodeError (Decoded × List Failure)
  | metadata value =>
      (Metadata.decodeWith catalog settings value).map fun (decoded, failures) =>
        (.metadata decoded, failures)
  | nodes elements =>
      (Batch.decodeWith catalog settings elements).map fun outcome =>
        (.nodes outcome.nodes, outcome.failures)

end AffectedNodes
