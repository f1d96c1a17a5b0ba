import AffectedNodes.Text.Digit

/-!
# Options of the command line

Each command takes some of the options, and some stand before the command as well.  An option is
given at most once at each place, in a long form or, for some, by a letter.
-/
namespace AffectedNodes.CommandLine

inductive OutputFormat where
  | text
  | json
  deriving DecidableEq, Repr, Inhabited

def OutputFormat.named : List (String × OutputFormat) := [("text", .text), ("json", .json)]

inductive CommandName where
  | decode
  | changes
  | catalog
  deriving DecidableEq, Repr

def CommandName.named : List (String × CommandName) :=
  [("decode", .decode), ("changes", .changes), ("catalog", .catalog)]

inductive Switch where
  | help
  | version
  | verbose
  | format
  | config
  | skipInvalid
  | workers
  | decodable
  deriving DecidableEq, Repr

namespace Switch

def long : Switch → String
  | help => "help"
  | version => "version"
  | verbose => "verbose"
  | format => "format"
  | config => "config"
  | skipInvalid => "skip-invalid"
  | workers => "workers"
  | decodable => "decodable"

def letter? : Switch → Option Char
  | help => some 'h'
  | version => some 'V'
  | verbose => some 'v'
  | workers => some 'j'
  | format | config | skipInvalid | decodable => none

def takesValue : Switch → Bool
  | format | config | workers => true
  | help | version | verbose | skipInvalid | decodable => false

end Switch

/-- Where arguments stand: before the name of the command, or after it. -/
inductive Level where
  | top
  | within (command : CommandName)
  deriving DecidableEq, Repr

namespace Level

def switches : Level → List Switch
  | top => [.help, .version, .verbose, .format]
  | within .decode => [.help, .verbose, .format, .config, .skipInvalid, .workers]
  | within .changes => [.help, .verbose, .format]
  | within .catalog => [.help, .verbose, .format, .decodable]

def takesInput : Level → Bool
  | within .decode | within .changes => true
  | top | within .catalog => false

end Level

/-- What an option that was given says. -/
inductive Setting where
  | verbose
  | format (format : OutputFormat)
  | config (path : String)
  | skipInvalid
  | workers (count : UInt64)
  | decodable
  deriving DecidableEq, Repr

def Setting.switch : Setting → Switch
  | verbose => .verbose
  | format _ => .format
  | config _ => .config
  | skipInvalid => .skipInvalid
  | workers _ => .workers
  | decodable => .decodable

inductive UsageFault where
  | helpWanted
  | versionWanted
  | nothingGiven
  | commandMissing
  | unknownCommand (given : String)
  | unknownArgument (given : String)
  | valueMissing (switch : Switch)
  | valueUnwanted (switch : Switch)
  | notAmongChoices (switch : Switch) (given : String)
  | notNumber (switch : Switch) (given : String)
  | repeated (switch : Switch)
  deriving DecidableEq, Repr

def Switch.setting (switch : Switch) (value : Option String) : Except UsageFault Setting :=
  match switch, value with
  | .help, _ => .error .helpWanted
  | .version, _ => .error .versionWanted
  | .verbose, _ => .ok .verbose
  | .skipInvalid, _ => .ok .skipInvalid
  | .decodable, _ => .ok .decodable
  | .format, some text =>
      (OutputFormat.named.lookup text).elim (.error (.notAmongChoices switch text)) fun format =>
        .ok (.format format)
  | .config, some path => if path = "" then .error (.valueMissing switch) else .ok (.config path)
  | .workers, some text =>
      (Text.word64? text).elim (.error (.notNumber switch text)) fun count => .ok (.workers count)
  | .format, none | .config, none | .workers, none => .error (.valueMissing switch)

end AffectedNodes.CommandLine
