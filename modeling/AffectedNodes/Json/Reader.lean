import AffectedNodes.Json.FieldMap
import AffectedNodes.Json.Token

/-!
# Reading JSON documents

A document is read from its tokens by a machine with a stack of open containers.  Each token either
completes a value, which goes to the innermost open container, or opens one, or separates two
entries.  Of a repeated member name the last value counts, and containers nest at most
`Json.deepestNesting` deep.
-/
namespace AffectedNodes.Json

/-- How many containers may be open at once. -/
def deepestNesting : Nat := 127

/-- An open container, with what it holds so far, the last entry first. -/
inductive Container where
  | items (held : List Json)
  | members (held : List (String × Json))
  | member (held : List (String × Json)) (name : String)
  deriving Repr

inductive Expected where
  | value
  | firstItem
  | firstMember
  | member
  | colon
  | separator
  deriving DecidableEq, Repr

inductive Progress where
  | finished (value : Json)
  | reading (opened : List Container) (expected : Expected)
  deriving Repr

/-- Hand a complete value to the innermost open container; without one the document is complete. -/
def deliver (value : Json) : List Container → Progress
  | .items held :: outer => .reading (.items (value :: held) :: outer) .separator
  | .member held name :: outer => .reading (.members ((name, value) :: held) :: outer) .separator
  | .members _ :: _ | [] => .finished value

def openContainer? (container : Container) (expected : Expected) (opened : List Container) :
    Option Progress :=
  if opened.length < deepestNesting then some (.reading (container :: opened) expected) else none

def beginValue? (opened : List Container) : Token → Option Progress
  | .null => some (deliver .null opened)
  | .bool value => some (deliver (.bool value) opened)
  | .number value => some (deliver (.number value) opened)
  | .string text => some (deliver (.string text) opened)
  | .openArray => openContainer? (.items []) .firstItem opened
  | .openObject => openContainer? (.members []) .firstMember opened
  | .closeArray | .closeObject | .comma | .colon => none

def advance? : Progress → Token → Option Progress
  | .finished _, _ => none
  | .reading opened expected, token =>
      match expected, token, opened with
      | .value, token, opened => beginValue? opened token
      | .firstItem, .closeArray, .items _ :: outer => some (deliver (.array []) outer)
      | .firstItem, token, opened => beginValue? opened token
      | .firstMember, .closeObject, .members _ :: outer => some (deliver (.object []) outer)
      | .firstMember, .string name, .members held :: outer
      | .member, .string name, .members held :: outer =>
          some (.reading (.member held name :: outer) .colon)
      | .colon, .colon, opened => some (.reading opened .value)
      | .separator, .comma, .items held :: outer => some (.reading (.items held :: outer) .value)
      | .separator, .comma, .members held :: outer =>
          some (.reading (.members held :: outer) .member)
      | .separator, .closeArray, .items held :: outer =>
          some (deliver (.array held.reverse) outer)
      | .separator, .closeObject, .members held :: outer =>
          some (deliver (FieldMap.ofList held.reverse).toJson outer)
      | _, _, _ => none

def parse? (text : String) : Option Json := do
  let tokens ← tokens? text
  match ← tokens.foldlM advance? (.reading [] .value) with
  | .finished value => some value
  | .reading _ _ => none

end AffectedNodes.Json
