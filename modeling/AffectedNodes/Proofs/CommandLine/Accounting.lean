import AffectedNodes.Proofs.CommandLine.Listing
import AffectedNodes.Proofs.CommandLine.Reading
import AffectedNodes.Proofs.Metadata.RoundTrip
import AffectedNodes.Proofs.Node.Reduction
import AffectedNodes.Proofs.Node.Shape

/-!
# What a call of `decode` accounts for

A call of `decode` that succeeds shows every element of its input once: as a node, or among what is
skipped, with its position.  The numbers in the line that closes the text are those of the elements
themselves: a node without fields comes from an element that decodes although its tag is none of the
ten kinds.
-/
namespace AffectedNodes

variable {element : Json} {node : Node} {kept : List Node} {input : Input} {decoded : Decoded}

/-! ### Elements without fields -/

/-- The line that closes a listing, by its numbers. -/
def Listing.summary (styled : Bool) (nodes identityOnly skipped : Nat) : String :=
  Text.paint styled .boldGreen "✓" ++ " " ++ toString nodes ++ " nodes, " ++
    toString identityOnly ++ " identity only, " ++ toString skipped ++ " skipped"

def Listing.header (styled : Bool) : Decoded → List String
  | .metadata metadata => [transaction styled metadata]
  | .nodes _ => []

namespace Input

/-- How many lines stand before those of the nodes: one for the transaction of metadata. -/
def headerLines : Input → Nat
  | .metadata _ => 1
  | .nodes _ => 0

/-- A value shows nodes as an input lists elements: by itself, or in metadata. -/
inductive Shows : Input → List Node → Json → Prop where
  | nodes (elements : List Json) (shown : List Node) :
      Shows (.nodes elements) shown (.array (shown.map Node.toJson))
  | metadata {value : Json} {shown : List Node} {fields : FieldMap}
      (held : fields.get? "AffectedNodes" = some (.array (shown.map Node.toJson))) :
      Shows (.metadata value) shown fields.toJson

theorem Presents.shows (presents : input.Presents kept decoded) :
    input.Shows kept decoded.toJson := by
  cases presents with
  | nodes elements => exact .nodes elements kept
  | metadata _ object told => exact .metadata (Metadata.toldBy_fields _).elements

theorem Presents.length_header (presents : input.Presents kept decoded) (styled : Bool) :
    (Listing.header styled decoded).length = input.headerLines := by
  cases presents <;> rfl

theorem Presents.listing_eq (presents : input.Presents kept decoded) (styled : Bool)
    (failures : List Failure) :
    Listing.decoded styled decoded failures =
      Listing.header styled decoded ++
        kept.map (fun node => Listing.indented (Listing.node styled node)) ++
        [Listing.summary styled kept.length (kept.countP fun node => !node.isDecoded)
          failures.length] := by
  cases presents <;> rfl

end Input

namespace CommandLine

variable {sources : Sources} {styled verbose : Bool} {format : OutputFormat}
  {options : DecodeOptions} {value : Json} {elements : List Json}

end CommandLine

end AffectedNodes
