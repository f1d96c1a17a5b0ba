import AffectedNodes.CommandLine.Run

/-!
# Answers

What the program writes and its exit code, as a function of its arguments and of what it can read.
A call that is no command, or not a sound one, is answered without reading anything; any other call
is run, and the report on it is put into words.
-/
namespace AffectedNodes.CommandLine

def UsageFault.message : UsageFault → String
  | helpWanted | nothingGiven =>
      "usage: affected-nodes [-v] [--format text|json] decode|changes|catalog|help ..."
  | versionWanted => "affected-nodes 0.1.0"
  | commandMissing => "error: a command is required"
  | unknownCommand given => "error: unrecognized command " ++ Text.quoted given
  | unknownArgument given => "error: unexpected argument " ++ Text.quoted given
  | valueMissing switch => "error: --" ++ switch.long ++ " requires a value"
  | valueUnwanted switch => "error: --" ++ switch.long ++ " takes no value"
  | notAmongChoices switch given =>
      "error: invalid value " ++ Text.quoted given ++ " for --" ++ switch.long
  | notNumber switch given =>
      "error: invalid number " ++ Text.quoted given ++ " for --" ++ switch.long
  | repeated switch => "error: --" ++ switch.long ++ " cannot be given more than once"

/-- Whether a call was answered although no command ran. -/
def UsageFault.isAnswer : UsageFault → Bool
  | helpWanted | versionWanted => true
  | _ => false

/-- The message about a failure, the outermost cause first. -/
def failureMessage (causes : List String) : List String :=
  match causes with
  | [] => []
  | [first] => ["Error: " ++ first]
  | [first, second] => ["Error: " ++ first, "", "Caused by:", "    " ++ second]
  | first :: rest =>
      ["Error: " ++ first, "", "Caused by:"] ++
        rest.mapIdx fun position cause => "    " ++ toString position ++ ": " ++ cause

structure Answer where
  output : String
  errors : String
  exitCode : UInt32
  deriving DecidableEq, Repr

def UsageFault.answer (fault : UsageFault) : Answer :=
  if fault.isAnswer then ⟨lines [fault.message], "", 0⟩ else ⟨"", lines [fault.message], 2⟩

def Report.answer (report : Report) : Answer :=
  match report.failed with
  | none => ⟨report.output, report.notices, 0⟩
  | some failed => ⟨report.output, report.notices ++ lines (failureMessage failed.causes), 1⟩

/-- The inputs that a call names, the standard input among them if it is read. -/
def Invocation.inputs (invocation : Invocation) : List String :=
  match invocation.command with
  | .decode options => options.config.toList ++ [options.input]
  | .changes input => [input]
  | .catalog _ => []

def inputsOf (arguments : List String) : List String :=
  match Invocation.ofArguments arguments with
  | .error _ => []
  | .ok invocation => invocation.inputs

def answer (sources : Sources) (styled : Bool) (arguments : List String) : Answer :=
  match Invocation.ofArguments arguments with
  | .error fault => fault.answer
  | .ok invocation => (invocation.report sources styled).answer

end AffectedNodes.CommandLine
