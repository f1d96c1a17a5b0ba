import AffectedNodes.Toml.Basic
import AffectedNodes.Toml.Scalar

/-!
# Reading TOML documents

A document is a sequence of lines: blank ones, entries, and headers, which say where the entries
after them go.  Comments run to the end of their line.  A document with a value of a kind that no
setting has, such as a date or a list with items, is not read.
-/
namespace AffectedNodes.Toml

def skipComment : List Char → List Char
  | '#' :: rest => rest.dropWhile isPlain
  | text => text

def endLine? (text : List Char) : Option (List Char) :=
  match skipComment (skipBlanks text) with
  | [] => some []
  | rest => afterLineBreak? rest

def isBareKeyChar (c : Char) : Bool := c.isAlphanum || c = '_' || c = '-'

def name? (text : List Char) : Option (String × List Char) :=
  match quotedLine? text with
  | some found => some found
  | none =>
      match text.takeWhile isBareKeyChar with
      | [] => none
      | bare => some (String.ofList bare, text.dropWhile isBareKeyChar)

def keyWithin : Nat → List Char → Option (Key × List Char)
  | 0, _ => none
  | limit + 1, text => do
      let (name, after) ← name? (skipBlanks text)
      match skipBlanks after with
      | '.' :: rest =>
          let (key, after) ← keyWithin limit rest
          return (⟨name :: key.path, key.name⟩, after)
      | after => return (⟨[], name⟩, after)

def key? (text : List Char) : Option (Key × List Char) := keyWithin text.length text

/-- The key at the start of a text and what follows its equals sign and the blanks after it. -/
def assignment? (text : List Char) : Option (Key × List Char) := do
  match ← key? text with
  | (key, '=' :: rest) => some (key, skipBlanks rest)
  | _ => none

def skipLines (inComment : Bool) : List Char → List Char
  | [] => []
  | '\r' :: '\n' :: rest => skipLines false rest
  | c :: rest =>
      if c = '\n' then skipLines false rest
      else if inComment && isPlain c then skipLines true rest
      else if isBlank c then skipLines inComment rest
      else if c = '#' then skipLines true rest
      else c :: rest

mutual

def valueWithin : Nat → List Char → Option (Value × List Char)
  | 0, _ => none
  | limit + 1, text =>
      match text with
      | '[' :: rest =>
          match skipLines false rest with
          | ']' :: after => some (.emptyList, after)
          | _ => none
      | '\x7b' :: rest =>
          match skipBlanks rest with
          | '\x7d' :: after => some (.inline [], after)
          | rest => entriesWithin limit [] rest
      | '"' :: _ | '\'' :: _ => (quoted? text).map fun (text, after) => (.string text, after)
      | _ => (integer? text).map fun (value, after) => (.integer value, after)

/-- The table between braces that goes on after the entries in `held`, and what follows it. -/
def entriesWithin : Nat → Table → List Char → Option (Value × List Char)
  | 0, _, _ => none
  | limit + 1, held, text => do
      let (key, rest) ← assignment? text
      let (value, after) ← valueWithin limit rest
      let held ← held.addKey? key.name value key.path
      match skipBlanks after with
      | ',' :: rest => entriesWithin limit held rest
      | '\x7d' :: after => return (.inline held, after)
      | _ => none

end

def value? (text : List Char) : Option (Value × List Char) := valueWithin text.length text

/-- The document that goes on, with at most `limit` characters, after the lines that built `root`;
entries go to the table at `place`. -/
def linesWithin : Nat → List String → Table → List Char → Option Table
  | _, _, root, [] => some root
  | 0, _, _, _ => none
  | limit + 1, place, root, text =>
      match endLine? text with
      | some after => linesWithin limit place root after
      | none =>
          match skipBlanks text with
          | '[' :: '[' :: rest => do
              let (key, rest) ← key? rest
              match rest with
              | ']' :: ']' :: rest =>
                  let root ← Table.changeAt? (Table.openElement? key.name) key.path root
                  linesWithin limit key.steps root (← endLine? rest)
              | _ => none
          | '[' :: rest => do
              let (key, rest) ← key? rest
              match rest with
              | ']' :: rest =>
                  let root ← Table.changeAt? (Table.openTable? key.name) key.path root
                  linesWithin limit key.steps root (← endLine? rest)
              | _ => none
          | text => do
              let (key, rest) ← assignment? text
              let (value, rest) ← value? rest
              let root ← Table.changeAt? (Table.addKey? key.name value key.path) place root
              linesWithin limit place root (← endLine? rest)

def skipMark : List Char → List Char
  | '\ufeff' :: rest => rest
  | text => text

def read? (text : String) : Option Table :=
  let chars := skipMark text.toList
  linesWithin chars.length [] [] chars

end AffectedNodes.Toml
