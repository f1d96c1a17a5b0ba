import AffectedNodes.CommandLine.Arguments
import AffectedNodes.Json.Reader
import AffectedNodes.Listing

/-!
# Running a command

A command reads its input, decodes it, and then prints.  What a command has printed before it fails
stays printed.
-/
namespace AffectedNodes.CommandLine

inductive Failed where
  | settings (fault : SettingsFault)
  | unreadable (input : String) (fault : FileFault)
  | notJson (input : String)
  | noInput (fault : Input.Fault)
  | undecodable (input : String) (error : DecodeError)
  | unwritten (fault : WritingFault)

def inputTitle (input : String) : String := if input = "-" then "stdin" else input

/-- Why a command fails and all that this goes back to, outermost first; what exactly is wrong with
the syntax of an input is not told. -/
def Failed.causes : Failed → List String
  | settings fault => (DecodeError.settings fault).causes
  | unreadable input fault => ["reading " ++ inputTitle input, fault.message]
  | notJson input => ["parsing " ++ input ++ " as JSON", "<json syntax>"]
  | noInput fault => [fault.message]
  | undecodable input error => ("decoding " ++ input) :: error.causes
  | unwritten fault => [fault.message]

/-- What a command has printed: texts on the standard output, and notices on the standard error, each
of them followed by a line break. -/
structure Printed where
  output : List String
  notices : List String
  deriving DecidableEq, Repr

def Printed.nothing : Printed := ⟨[], []⟩

abbrev Run := ExceptT Failed (StateM Printed)

namespace Run

def print (text : String) : Run Unit :=
  modify fun printed => { printed with output := printed.output ++ [text] }

def notify (notice : String) : Run Unit :=
  modify fun printed => { printed with notices := printed.notices ++ [notice] }

/-- What a run comes to if `before` has been printed already, and what has been printed then. -/
def outcome (run : Run α) (before : Printed) : Except Failed α × Printed :=
  (ExceptT.run run).run before

end Run

def lines (texts : List String) : String := String.join (texts.map (· ++ "\n"))

def inputText (sources : Sources) (input : String) : Except FileFault String :=
  if input = "-" then sources.inputText else sources.fileText input

def readInput (sources : Sources) (input : String) : Except Failed Input := do
  let text ← (inputText sources input).mapError (.unreadable input)
  match Json.parse? text with
  | none => .error (.notJson input)
  | some value => (Input.classify value).mapError .noInput

def readDecoded (sources : Sources) (settings : Settings) (input : String) :
    Except Failed (Decoded × List Failure) := do
  let found ← readInput sources input
  (found.decode .standard settings).mapError (.undecodable input)

/-- The settings for a call of `decode`: those of the file, of which the options override some. -/
def DecodeOptions.settings (sources : Sources) (options : DecodeOptions) :
    Except Failed Settings := do
  let settings ←
    match options.config with
    | some path => (Settings.load sources path).mapError .settings
    | none => pure .standard
  let policy := if options.skipInvalid then .skipInvalid else settings.policy
  return { settings with policy, workers := options.workers.getD settings.workers }

def runDecode (sources : Sources) (styled : Bool) (format : OutputFormat)
    (options : DecodeOptions) : Run Unit := do
  let settings ← options.settings sources
  let (decoded, failures) ← readDecoded sources settings options.input
  failures.forM fun failure => Run.notify (Listing.failure styled failure)
  match format with
  | .json => Run.print decoded.toJson.pretty
  | .text => (Listing.decoded styled decoded failures).forM Run.print

def changedObjects (decoded : Decoded) :
    Except Failed (List (ModifiedNode × Option FieldChanges)) :=
  (decoded.nodeList.filterMap Node.modified?).mapM fun item => do
    let changes ← item.fieldChanges.mapError .unwritten
    return (item, changes)

def changesRow : ModifiedNode × Option FieldChanges → Json
  | (item, changes) =>
      (FieldMap.ofList
        [(FieldName.entryType, .string item.identifier.tag.text),
          (FieldName.ledgerIndex, .string item.identifier.key.toHex),
          ("changes", changes.elim .null FieldChanges.toJson)]).toJson

def runChanges (sources : Sources) (styled : Bool) (format : OutputFormat) (input : String) :
    Run Unit := do
  let (decoded, _) ← readDecoded sources .standard input
  let items ← changedObjects decoded
  match format with
  | .json => Run.print (Json.array (items.map changesRow)).pretty
  | .text => (Listing.changes styled items).forM Run.print

def catalogRows (decodableOnly : Bool) : List (EntryType × Bool) :=
  (EntryType.all.map fun type => (type, Catalog.standard.decodes type.tag)).filter
    fun (_, decodable) => decodable || !decodableOnly

def catalogRow : EntryType × Bool → Json
  | (type, decodable) =>
      (FieldMap.ofList
        [(FieldName.entryType, .string type.wireName), ("decodable", .bool decodable)]).toJson

def runCatalog (styled : Bool) (format : OutputFormat) (decodableOnly : Bool) : Run Unit :=
  let rows := catalogRows decodableOnly
  match format with
  | .json => Run.print (Json.array (rows.map catalogRow)).pretty
  | .text => (Listing.catalog styled rows).forM Run.print

def Invocation.run (sources : Sources) (styled : Bool) (invocation : Invocation) : Run Unit :=
  match invocation.command with
  | .decode options => runDecode sources styled invocation.format options
  | .changes input => runChanges sources styled invocation.format input
  | .catalog decodableOnly => runCatalog styled invocation.format decodableOnly

/-- What a run leaves behind: what it wrote to the standard output and to the standard error, and
why it failed if it did. -/
structure Report where
  output : String
  notices : String
  failed : Option Failed

def Invocation.report (sources : Sources) (styled : Bool) (invocation : Invocation) : Report :=
  let (result, printed) := (invocation.run sources styled).outcome .nothing
  let failed :=
    match result with
    | .ok () => none
    | .error failed => some failed
  ⟨lines printed.output, lines printed.notices, failed⟩

end AffectedNodes.CommandLine
