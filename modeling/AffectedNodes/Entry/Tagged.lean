import AffectedNodes.Entry.Kind

/-!
# Ledger entries

A ledger entry is one object of any kind that has a schema.  On the wire its kind is told by the
member `LedgerEntryType`, which is looked at before any field.  `LedgerEntry.decode` reads a
complete record as an entry of a wanted tag.
-/
namespace AffectedNodes

structure LedgerEntry where
  kind : EntryKind
  data : kind.Data
  deriving DecidableEq

inductive EntryFault where
  | unknownKind (tag : Tag)
  | kindMismatch (requested decoded : Tag)
  | invalidRecord (tag : Tag) (fault : ReadFault)
  deriving DecidableEq, Repr

def EntryFault.message : EntryFault → String
  | unknownKind tag => "no schema registered for entry type " ++ tag.text
  | kindMismatch requested decoded =>
      "record requested as " ++ requested.text ++ " decoded as " ++ decoded.text
  | invalidRecord tag fault => "invalid " ++ tag.text ++ " record: " ++ fault.message

namespace LedgerEntry

def type (entry : LedgerEntry) : EntryType := entry.kind.type

def tag (entry : LedgerEntry) : Tag := entry.kind.tag

def index (entry : LedgerEntry) : Hash := entry.kind.index entry.data

def previousTxnId? (entry : LedgerEntry) : Option Hash := entry.kind.previousTxnId? entry.data

def previousTxnLgrSeq? (entry : LedgerEntry) : Option LedgerSequence :=
  entry.kind.previousTxnLgrSeq? entry.data

def readKind : Json → Except ReadFault EntryKind
  | .string text =>
      match EntryKind.ofTag? ⟨text⟩ with
      | some kind => .ok kind
      | none => .error (.unknownVariant text (EntryKind.all.map EntryKind.wireName))
  | other => .error (.wrongType other.shape "variant identifier")

def readFields (fields : FieldMap) : Except ReadFault LedgerEntry :=
  match fields.get? FieldName.entryType with
  | none => .error (.missingField FieldName.entryType)
  | some tag => do
      let kind ← readKind tag
      let data ← (kind.schema.readFields fields).mapError .inTagged
      return ⟨kind, data⟩

/-- Read an entry from its tag and the values of its fields in declaration order. -/
def readItems : List Json → Except ReadFault LedgerEntry
  | [] => .error (.missingField FieldName.entryType)
  | tag :: items => do
      let kind ← readKind tag
      let data ← (kind.schema.readItems items).mapError .inTagged
      return ⟨kind, data⟩

/-- The fields of an entry, with its tag. -/
def fields (entry : LedgerEntry) : FieldMap :=
  (entry.kind.schema.writeFields entry.data).insert FieldName.entryType
    (.string entry.kind.wireName)

def format : Format LedgerEntry where
  read
    | .object members => readFields (FieldMap.ofList members)
    | .array items => readItems items
    | other => .error (.wrongType other.shape "internally tagged enum LedgerObject")
  write entry := entry.fields.toJson

def toJson (entry : LedgerEntry) : Json := entry.fields.toJson

/-- Read a complete record as an entry with the tag `tag`. -/
def decode (tag : Tag) (record : FieldMap) : Except EntryFault LedgerEntry :=
  match EntryKind.ofTag? tag with
  | none => .error (.unknownKind tag)
  | some _ =>
      match readFields record with
      | .error fault => .error (.invalidRecord tag fault)
      | .ok entry =>
          if entry.tag = tag then .ok entry else .error (.kindMismatch tag entry.tag)

end LedgerEntry

end AffectedNodes
