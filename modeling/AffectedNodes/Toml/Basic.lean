import AffectedNodes.Json.FieldMap

/-!
# TOML tables

A TOML document builds a tree of tables.  How a table came about decides what may still be added
to it: a table between braces is complete, a header opens a table once, and a dotted key adds only
to tables that dotted keys made.  Of the values of TOML only those are represented that settings
can have: integers, texts, lists without items, and tables.
-/
namespace AffectedNodes.Toml

inductive Origin where
  | header
  | implied
  | dotted
  deriving DecidableEq, Repr

/-- A value: `inline` is a table between braces, and `tables` is a list of tables that headers
opened one after the other, of which the last is held apart. -/
inductive Value where
  | integer (value : Int)
  | string (text : String)
  | emptyList
  | inline (entries : List (String × Value))
  | table (origin : Origin) (entries : List (String × Value))
  | tables (closed : List (List (String × Value))) (last : List (String × Value))
  deriving Repr, Inhabited

/-- The entries of a table in the order in which they were made. -/
abbrev Table := List (String × Value)

structure Key where
  path : List String
  name : String
  deriving DecidableEq, Repr

def Key.steps (key : Key) : List String := key.path ++ [key.name]

namespace Table

def put (name : String) (value : Value) : Table → Table
  | [] => [(name, value)]
  | (other, held) :: rest =>
      if other = name then (name, value) :: rest else (other, held) :: put name value rest

def add? (name : String) (value : Value) (table : Table) : Option Table :=
  match table.lookup name with
  | none => some (table.put name value)
  | some _ => none

/-- The table inside a value that a step of a header's path leads to, with the way to put it back.
A missing table is implied. -/
def throughHeader? : Option Value → Option (Table × (Table → Value))
  | none => some ([], .table .implied)
  | some (.table origin inner) => some (inner, .table origin)
  | some (.tables closed last) => some (last, .tables closed)
  | some _ => none

/-- The table inside a value that a step of a dotted key leads to, with the way to put it back.
The last step leads only to tables that dotted keys made. -/
def throughDotted? (last : Bool) : Option Value → Option (Table × (Table → Value))
  | none => some ([], .table .dotted)
  | some (.table .dotted inner) => some (inner, .table .dotted)
  | some (.table .implied inner) => if last then none else some (inner, .table .implied)
  | some (.tables closed inner) => if last then none else some (inner, .tables closed)
  | some _ => none

def changeAt? (change : Table → Option Table) : List String → Table → Option Table
  | [], table => change table
  | step :: rest, table => do
      let (inner, restore) ← throughHeader? (table.lookup step)
      return table.put step (restore (← changeAt? change rest inner))

def addKey? (name : String) (value : Value) : List String → Table → Option Table
  | [], table => table.add? name value
  | step :: rest, table => do
      let (inner, restore) ← throughDotted? rest.isEmpty (table.lookup step)
      return table.put step (restore (← addKey? name value rest inner))

def openTable? (name : String) (table : Table) : Option Table :=
  match table.lookup name with
  | none => some (table.put name (.table .header []))
  | some (.table .implied inner) => some (table.put name (.table .header inner))
  | some _ => none

/-- The table in which the header of a list of tables named `name` opens the next of them. -/
def openElement? (name : String) (table : Table) : Option Table :=
  match table.lookup name with
  | none => some (table.put name (.tables [] []))
  | some (.tables closed last) => some (table.put name (.tables (closed ++ [last]) []))
  | some _ => none

end Table

mutual

/-- The value as JSON; a list without items and a table without entries become null. -/
def Value.toJson : Value → Json
  | .integer value => .int value
  | .string text => .string text
  | .emptyList | .inline [] | .table _ [] => .null
  | .inline (entry :: rest) | .table _ (entry :: rest) => .object (Table.members (entry :: rest))
  | .tables closed last => .array (Table.objects closed ++ [.object (Table.members last)])

def Table.members : List (String × Value) → List (String × Json)
  | [] => []
  | (name, value) :: rest => (name, value.toJson) :: Table.members rest

def Table.objects : List (List (String × Value)) → List Json
  | [] => []
  | table :: rest => .object (Table.members table) :: Table.objects rest

end

end AffectedNodes.Toml
