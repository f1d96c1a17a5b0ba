import AffectedNodes.CommandLine.Switch

/-!
# Reading the arguments

Arguments are read from left to right.  An option that waits for its value takes the next argument
that does not look like an option; its value is checked when the next option or input is reached,
and at the end.  After the name of a command only the arguments of that command follow, and a lone
pair of dashes says that no more options do.
-/
namespace AffectedNodes.CommandLine

/-- What has been given so far at one level.  The option in `pending` has not been checked yet,
and waits for its value if it has none. -/
structure Given where
  settings : List Setting
  pending : Option (Switch × Option String)
  input : Option String
  deriving Repr

namespace Given

def nothing : Given := ⟨[], none, none⟩

def isWaiting (given : Given) : Bool :=
  match given.pending with
  | some (_, none) => true
  | some (_, some _) | none => false

def note (given : Given) (switch : Switch) (value : Option String) : Except UsageFault Given :=
  if switch.takesValue && value.isNone then .error (.valueMissing switch)
  else if given.settings.any fun setting => setting.switch = switch then .error (.repeated switch)
  else
    (switch.setting value).map fun setting =>
      { given with settings := given.settings ++ [setting] }

def settle (given : Given) : Except UsageFault Given :=
  match given.pending with
  | none => .ok given
  | some (switch, value) => { given with pending := none }.note switch value

def take (given : Given) (switch : Switch) (value : Option String) : Except UsageFault Given := do
  (← given.settle).note switch value

def await (given : Given) (switch : Switch) : Except UsageFault Given := do
  return { ← given.settle with pending := some (switch, none) }

def takeInput (given : Given) (name : String) : Except UsageFault Given := do
  return { ← given.settle with input := some name }

end Given

inductive Shape where
  | endOfOptions
  | long (name : String) (value : Option String)
  | letters (letters : List Char)
  | plain
  deriving DecidableEq, Repr

def Shape.of (argument : String) : Shape :=
  match argument.toList with
  | ['-', '-'] => .endOfOptions
  | '-' :: '-' :: rest =>
      let name := String.ofList (rest.takeWhile (· ≠ '='))
      match rest.dropWhile (· ≠ '=') with
      | [] => .long name none
      | _ :: value => .long name (some (String.ofList value))
  | '-' :: letter :: rest => .letters (letter :: rest)
  | _ => .plain

namespace Level

def takeLong (level : Level) (given : Given) (name : String) (value : Option String) :
    Except UsageFault Given :=
  match level.switches.find? fun switch => switch.long = name with
  | none => .error (.unknownArgument ("--" ++ name))
  | some switch =>
      match switch.takesValue, value with
      | true, some _ | false, none => given.take switch value
      | true, none => given.await switch
      | false, some _ => .error (.valueUnwanted switch)

/-- Take options that are given by their letters.  What follows the letter of an option that takes
a value is that value, after an equals sign that is not part of it. -/
def takeLetters (level : Level) (given : Given) : List Char → Except UsageFault Given
  | [] => .ok given
  | letter :: rest =>
      match level.switches.find? fun switch => switch.letter? = some letter with
      | none => .error (.unknownArgument (String.ofList ['-', letter]))
      | some switch =>
          if switch.takesValue then
            match rest with
            | [] => given.await switch
            | '=' :: value => given.take switch (some (String.ofList value))
            | value => given.take switch (some (String.ofList value))
          else do level.takeLetters (← given.take switch none) rest

def isCommandWord (word : String) : Bool :=
  word = "help" || (CommandName.named.lookup word).isSome

/-- Take an argument that is no option.  After the end of the options the name of a command is no
command any more. -/
def takePlain (level : Level) (afterOptions : Bool) (given : Given) (argument : String) :
    Except UsageFault Given :=
  if level.takesInput && given.input.isNone then given.takeInput argument
  else if level = .top && !(afterOptions && isCommandWord argument) then
    .error (.unknownCommand argument)
  else .error (.unknownArgument argument)

/-- What a call for help on a command, given by the words after it, amounts to. -/
def helpOn : List String → UsageFault
  | [] => .helpWanted
  | [word] => if isCommandWord word then .helpWanted else .unknownCommand word
  | word :: next :: _ => .unknownCommand (if isCommandWord word then next else word)

/-- Read the arguments at a level up to the name of a command, and give that command with what
follows its name. -/
def scan (level : Level) (given : Given) :
    List String → Except UsageFault (Given × Option (CommandName × List String))
  | [] => .ok (given, none)
  | argument :: rest =>
      let command? :=
        if level = .top && !given.isWaiting then CommandName.named.lookup argument else none
      match command? with
      | some command => .ok (given, some (command, rest))
      | none =>
          if level = .top && !given.isWaiting && argument = "help" then .error (helpOn rest)
          else
            match Shape.of argument with
            | .endOfOptions => do
                return (← rest.foldlM (level.takePlain true) given, none)
            | .long name value => do level.scan (← level.takeLong given name value) rest
            | .letters letters => do level.scan (← level.takeLetters given letters) rest
            | .plain =>
                match given.pending with
                | some (switch, none) =>
                    level.scan { given with pending := some (switch, some argument) } rest
                | _ => do level.scan (← level.takePlain false given argument) rest

end Level

structure DecodeOptions where
  input : String
  config : Option String
  skipInvalid : Bool
  workers : Option UInt64
  deriving DecidableEq, Repr

inductive Command where
  | decode (options : DecodeOptions)
  | changes (input : String)
  | catalog (decodableOnly : Bool)
  deriving DecidableEq, Repr

structure Invocation where
  command : Command
  format : OutputFormat
  verbose : Bool
  deriving DecidableEq, Repr

namespace Given

def format? (given : Given) : Option OutputFormat :=
  given.settings.findSome? fun
    | .format format => some format
    | _ => none

def config? (given : Given) : Option String :=
  given.settings.findSome? fun
    | .config path => some path
    | _ => none

def workers? (given : Given) : Option UInt64 :=
  given.settings.findSome? fun
    | .workers count => some count
    | _ => none

/-- The input that was given; a dash stands for the standard input, which is read unless another
input is named. -/
def inputName (given : Given) : String := given.input.getD "-"

def command (given : Given) : CommandName → Command
  | .decode =>
      .decode
        { input := given.inputName
          config := given.config?
          skipInvalid := given.settings.contains .skipInvalid
          workers := given.workers? }
  | .changes => .changes given.inputName
  | .catalog => .catalog (given.settings.contains .decodable)

end Given

/-- Read the arguments of a call.  Of an option that is given both before and after the name of the
command the latter counts. -/
def Invocation.ofArguments (arguments : List String) : Except UsageFault Invocation := do
  let (outer, next) ← Level.top.scan .nothing arguments
  match next with
  | none =>
      let outer ← outer.settle
      .error (if outer.settings.isEmpty then .nothingGiven else .commandMissing)
  | some (name, rest) =>
      let (inner, _) ← (Level.within name).scan .nothing rest
      let inner ← inner.settle
      let outer ← outer.settle
      return {
        command := inner.command name
        format := (inner.format?.or outer.format?).getD .text
        verbose := (inner.settings ++ outer.settings).contains .verbose }

end AffectedNodes.CommandLine
