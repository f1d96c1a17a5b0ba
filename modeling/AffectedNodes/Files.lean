/-!
# Files

What a run of the program sees of the file system: for each path the bytes of the file there, or
the reason why it cannot be read.  `Folder` is a file system that holds nothing but a few files
below the folder in which the program runs.  A file of settings can be at fault in what it holds as
well.
-/
namespace AffectedNodes

inductive FileFault where
  | notFound
  | isDirectory
  | notDirectory
  | nameTooLong
  | nulInPath
  | notUtf8
  | other (reason : String)
  deriving DecidableEq, Repr

def FileFault.message : FileFault → String
  | notFound => "No such file or directory (os error 2)"
  | isDirectory => "Is a directory (os error 21)"
  | notDirectory => "Not a directory (os error 20)"
  | nameTooLong => "File name too long (os error 36)"
  | nulInPath => "file name contained an unexpected NUL byte"
  | notUtf8 => "stream did not contain valid UTF-8"
  | other reason => reason

def decodeText (bytes : ByteArray) : Except FileFault String :=
  (String.fromUTF8? bytes).elim (.error .notUtf8) .ok

structure Sources where
  input : Except FileFault ByteArray
  file : String → Except FileFault ByteArray

def Sources.inputText (sources : Sources) : Except FileFault String :=
  sources.input.bind decodeText

def Sources.fileText (sources : Sources) (path : String) : Except FileFault String :=
  (sources.file path).bind decodeText

/-- The files below a folder, by the names that lead to them. -/
structure Folder where
  files : List (List String × ByteArray)

namespace Folder

def steps (path : String) : List String :=
  (path.toList.splitOnP (· = '/')).map String.ofList

def ofList (files : List (String × ByteArray)) : Folder :=
  ⟨files.map fun (path, bytes) => (steps path, bytes)⟩

def longestName : Nat := 255

def longestPath : Nat := 4095

/-- Read what the steps lead to from the place `place` below the folder, or from outside the folder
if there is none. -/
def readFrom (folder : Folder) : Option (List String) → List String → Except FileFault ByteArray
  | _, [] => .error .isDirectory
  | place, step :: rest =>
      if step = "" ∨ step = "." then folder.readFrom place rest
      else if step = ".." then
        match place with
        | some (name :: names) => folder.readFrom (some (name :: names).dropLast) rest
        | some [] | none => folder.readFrom none rest
      else if longestName < step.utf8ByteSize then .error .nameTooLong
      else
        match place with
        | none => .error .notFound
        | some names =>
            let names := names ++ [step]
            match folder.files.lookup names with
            | some bytes => if rest.isEmpty then .ok bytes else .error .notDirectory
            | none =>
                if folder.files.any fun file => names.isPrefixOf file.1 then
                  folder.readFrom (some names) rest
                else .error .notFound

def read (folder : Folder) (path : String) : Except FileFault ByteArray :=
  if path.toList.contains '\x00' then .error .nulInPath
  else if path = "" then .error .notFound
  else if longestPath < path.utf8ByteSize then .error .nameTooLong
  else folder.readFrom (if path.toList.head? = some '/' then none else some []) (steps path)

end Folder

inductive SettingsFault where
  | unreadable (path : String) (fault : FileFault)
  | invalidDocument
  deriving DecidableEq, Repr

/-- The reason in words; what exactly is wrong with a document is not told. -/
def SettingsFault.message : SettingsFault → String
  | unreadable path fault => path ++ ": " ++ fault.message
  | invalidDocument => "<toml>"

end AffectedNodes
