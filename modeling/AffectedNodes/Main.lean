import AffectedNodes.CommandLine.Answer

/-!
# The program

Reads the arguments, the standard input and the files that the call names, and writes the answer.
-/
namespace AffectedNodes.CommandLine

def readBytes (action : IO ByteArray) : IO (Except FileFault ByteArray) := do
  try return .ok (← action)
  catch
    | .noFileOrDirectory .. => return .error .notFound
    | .inappropriateType .. => return .error .isDirectory
    | error => return .error (.other error.toString)

def readSources (inputs : List String) : IO Sources := do
  let files ← inputs.mapM fun (path : String) => do
    return (path, ← readBytes (IO.FS.readBinFile path))
  let input ←
    if inputs.contains "-" then readBytes (do (← IO.getStdin).readBinToEnd)
    else pure (.ok .empty)
  return ⟨input, fun path => (files.lookup path).getD (.error .notFound)⟩

def runProgram (arguments : List String) : IO UInt32 := do
  let sources ← readSources (inputsOf arguments)
  let plain := (← IO.getEnv "NO_COLOR").isSome
  let styled := !plain && (← (← IO.getStdout).isTty)
  let answer := answer sources styled arguments
  IO.eprint answer.errors
  IO.print answer.output
  return answer.exitCode

end AffectedNodes.CommandLine

def main (arguments : List String) : IO UInt32 :=
  AffectedNodes.CommandLine.runProgram arguments
