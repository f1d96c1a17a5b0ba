import AffectedNodes.Ledger.EntryType
import AffectedNodes.Record.Fault

/-!
# Formats of values

A format reads the values of a type from JSON and writes them back.  The formats here are those of
the scalar types, of lists, and of amounts, which have two shapes.  Writing and then reading gives
the value again; reading may accept other spellings, such as lower-case hashes.
-/
namespace AffectedNodes

structure Format (α : Type) where
  read : Json → Except ReadFault α
  write : α → Json

namespace Format

/-- A format is lawful when what it writes reads back as the same value. -/
def Lawful (format : Format α) : Prop := ∀ value, format.read (format.write value) = .ok value

def ofText (parse : String → Except ReadFault α) (text : α → String) : Format α where
  read
    | .string text => parse text
    | other => .error (.wrongType other.shape "a string")
  write value := .string (text value)

def text : Format String := ofText .ok id

def hash : Format Hash := ofText (fun text => (Hash.ofHex text).mapError .badHash) Hash.toHex

def address : Format Address :=
  ofText (fun text => (Address.ofText? text).elim (.error (.badAddress text)) .ok) Address.text

def drops : Format Drops :=
  ofText (fun text => (Drops.ofText? text).elim (.error (.badDrops text)) .ok) Drops.text

def tag : Format Tag := ofText (fun text => .ok ⟨text⟩) Tag.text

/-- Integers from zero to below `bound`.  A double is no integer, even if its value is whole. -/
def natural (wanted : String) (bound : Nat) (ofNat : Nat → α) (toNat : α → Nat) : Format α where
  read
    | .number (.integer value) =>
        match value with
        | .ofNat n => if n < bound then .ok (ofNat n) else .error (.outOfRange value wanted)
        | .negSucc _ => .error (.outOfRange value wanted)
    | other => .error (.wrongType other.shape wanted)
  write value := .nat (toNat value)

def word8 : Format UInt8 := natural "u8" UInt8.size UInt8.ofNat UInt8.toNat

def word16 : Format UInt16 := natural "u16" UInt16.size UInt16.ofNat UInt16.toNat

def word32 : Format UInt32 := natural "u32" UInt32.size UInt32.ofNat UInt32.toNat

def count : Format UInt64 := natural "usize" UInt64.size UInt64.ofNat UInt64.toNat

def sequence : Format LedgerSequence where
  read value := (word32.read value).map .mk
  write value := word32.write value.number

def readAll (format : Format α) : List Json → Except ReadFault (List α)
  | [] => .ok []
  | item :: rest => do
      let value ← format.read item
      let values ← readAll format rest
      return value :: values

def list (format : Format α) : Format (List α) where
  read
    | .array items => format.readAll items
    | other => .error (.wrongType other.shape "a sequence")
  write values := .array (values.map format.write)

def optional (format : Format α) : Format (Option α) where
  read
    | .null => .ok none
    | value => (format.read value).map some
  write
    | none => .null
    | some value => format.write value

def named (names : List (String × α)) (text : String) : Except ReadFault α :=
  match names.lookup text with
  | some value => .ok value
  | none => .error (.unknownVariant text (names.map (·.1)))

/-- One of a few names, or an object whose only key is the name and whose value is null. -/
def choice (names : List (String × α)) (name : α → String) : Format α where
  read
    | .string text => named names text
    | .object members =>
        match (FieldMap.ofList members).entries with
        | [(key, value)] => do
            let chosen ← named names key
            match value with
            | .null => .ok chosen
            | other => .error (.wrongType other.shape "unit")
        | _ => .error .notSingleKey
    | other => .error (.wrongType other.shape "string or map")
  write value := .string (name value)

end Format

end AffectedNodes
