import AffectedNodes.Changes
import AffectedNodes.Input
import AffectedNodes.Text.Styled

/-!
# Listings

The lines in which results are shown as text.  They are styled if `styled` says so.
-/
namespace AffectedNodes.Listing

open Text (paint padRight)

def amount : Amount → String
  | .xrp drops => drops.display
  | .issued issued => issued.value ++ " " ++ issued.currency

def transaction (styled : Bool) (metadata : Metadata) : String :=
  let style := if metadata.isSuccess then .green else .red
  "Transaction #" ++ toString metadata.transactionIndex.toNat ++ " " ++
    paint styled style metadata.transactionResult ++
    (metadata.deliveredAmount.elim "" fun delivered => ", delivered " ++ amount delivered)

def node (styled : Bool) (node : Node) : String :=
  let status :=
    if node.isDecoded then paint styled .green "decoded" else paint styled .dimmed "identity only"
  " ".intercalate
    [paint styled .cyan (padRight 13 node.wrapper.key), padRight 16 node.identifier.tag.text,
      paint styled .yellow node.identifier.key.shortHex, status]

def failure (styled : Bool) (failure : Failure) : String :=
  paint styled .yellow "skipped" ++ " node " ++ toString failure.position ++ ": " ++
    failure.error.message

def totals (styled : Bool) (nodes : List Node) (failures : List Failure) : String :=
  paint styled .boldGreen "✓" ++ " " ++ toString nodes.length ++ " nodes, " ++
    toString (nodes.countP fun node => !node.isDecoded) ++ " identity only, " ++
    toString failures.length ++ " skipped"

def change (styled : Bool) : FieldChange → String
  | .added field value => paint styled .green "+" ++ " " ++ field ++ ": " ++ value.compact
  | .removed field value => paint styled .red "-" ++ " " ++ field ++ ": " ++ value.compact
  | .modified field previous current =>
      paint styled .yellow "~" ++ " " ++ field ++ ": " ++ previous.compact ++ " -> " ++
        current.compact

def entryType (styled : Bool) (type : EntryType) (decodable : Bool) : String :=
  if decodable then paint styled .green "✓" ++ " " ++ paint styled .bold type.wireName
  else
    paint styled .dimmed "·" ++ " " ++ type.wireName ++ " " ++ paint styled .dimmed "identity only"

def indented (line : String) : String := "  " ++ line

def decoded (styled : Bool) (decoded : Decoded) (failures : List Failure) : List String :=
  let header :=
    match decoded with
    | .metadata metadata => [transaction styled metadata]
    | .nodes _ => []
  header ++ decoded.nodeList.map (fun item => indented (node styled item)) ++
    [totals styled decoded.nodeList failures]

def modified (styled : Bool) (item : ModifiedNode) (changes : Option FieldChanges) : List String :=
  let details :=
    match changes with
    | none => [paint styled .dimmed "previous state not available"]
    | some report =>
        if report.isEmpty then [paint styled .dimmed "no field changes"]
        else report.changes.map (change styled)
  node styled (.modified item) :: details.map indented

def changes (styled : Bool) (items : List (ModifiedNode × Option FieldChanges)) : List String :=
  if items.isEmpty then ["No modified objects."]
  else items.flatMap fun (item, changes) => modified styled item changes

def catalog (styled : Bool) (rows : List (EntryType × Bool)) : List String :=
  rows.map fun (type, decodable) => indented (entryType styled type decodable)

end AffectedNodes.Listing
