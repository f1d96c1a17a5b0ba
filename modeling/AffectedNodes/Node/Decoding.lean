import AffectedNodes.Node.Basic
import AffectedNodes.Node.Catalog

/-!
# Decoding affected nodes

`decodeNode` reads one envelope.  Every envelope must tell the identity of its object.  If the
catalog has the tag, the state block is completed and read by the schema of the kind, and for a
modified object also the state from before.  If not, the node keeps its identity only, and its
blocks are not looked at; but an object of a known type that was created must not have the blocks
of another wrapper.  The steps are those of `decodeNodeBy`, which leaves open how a snapshot is read
from its record.

A `Decoder` has a catalog and a schema, which may be any function.  It decodes envelopes and the
elements of `AffectedNodes` around them; `decodeNode` and `decodeElement` do so with the schemas of
the ten kinds.
-/
namespace AffectedNodes

/-- A schema: a way to read a record as an entry of a wanted tag. -/
abbrev TypedReader := Tag → FieldMap → Except EntryFault LedgerEntry

def TypedReader.readSnapshot (schema : TypedReader) (identifier : Identifier)
    (record : FieldMap) : Except DecodeError LedgerEntry :=
  (schema identifier.tag record).mapError (.typedDecode identifier)

def decodeSnapshot (identifier : Identifier) (record : FieldMap) : Except DecodeError LedgerEntry :=
  TypedReader.readSnapshot LedgerEntry.decode identifier record

def refuseBlock (envelope : FieldMap) (identifier : Identifier) (name : String) :
    Except DecodeError Unit := do
  match ← Envelope.block? envelope name with
  | some _ => .error (.malformed (.createdCarries identifier.key name))
  | none => return ()

section Steps

variable {m : Type → Type} [Monad m] [MonadLiftT (Except DecodeError) m]

/-- Decode the state block of an object of which the transaction tells one state, if the catalog has
its tag. -/
def decodeStateBy (readSnapshot : Identifier → FieldMap → m LedgerEntry) (catalog : Catalog)
    (wrapper : Wrapper) (identifier : Identifier) (envelope : FieldMap) :
    m (Option LedgerEntry) := do
  if catalog.decodes identifier.tag then
    let block ← Envelope.requiredBlock envelope wrapper.stateBlock identifier
    let state ← readSnapshot identifier (Record.complete block identifier .placeholder)
    return some state
  else return none

def decodeCreatedBy (readSnapshot : Identifier → FieldMap → m LedgerEntry) (catalog : Catalog)
    (identifier : Identifier) (envelope : FieldMap) : m CreatedNode := do
  if identifier.tag.known?.isSome || catalog.decodes identifier.tag then
    refuseBlock envelope identifier Wrapper.modified.stateBlock
    refuseBlock envelope identifier previousBlock
  let state ← decodeStateBy readSnapshot catalog .created identifier envelope
  return ⟨identifier, state⟩

def decodeDeletedBy (readSnapshot : Identifier → FieldMap → m LedgerEntry) (catalog : Catalog)
    (identifier : Identifier) (envelope : FieldMap) : m DeletedNode := do
  let state ← decodeStateBy readSnapshot catalog .deleted identifier envelope
  return ⟨identifier, state⟩

def decodeModifiedBy (readSnapshot : Identifier → FieldMap → m LedgerEntry) (catalog : Catalog)
    (identifier : Identifier) (envelope : FieldMap) : m ModifiedNode := do
  let bookkeeping ← Bookkeeping.forWrapper .modified envelope
  if catalog.decodes identifier.tag then
    let block ← Envelope.requiredBlock envelope Wrapper.modified.stateBlock identifier
    let finalRecord := Record.complete block identifier bookkeeping
    let finalState ← readSnapshot identifier finalRecord
    let delta ← Envelope.block? envelope previousBlock
    match Record.previous? finalRecord delta with
    | some previousRecord =>
        let previousState ← readSnapshot identifier previousRecord
        return ⟨identifier, some finalState, some previousState, bookkeeping⟩
    | none => return ⟨identifier, some finalState, none, bookkeeping⟩
  else return ⟨identifier, none, none, bookkeeping⟩

def decodeNodeBy (readSnapshot : Identifier → FieldMap → m LedgerEntry) (catalog : Catalog)
    (wrapper : Wrapper) (envelope : FieldMap) : m Node := do
  let identifier ← Envelope.identifier envelope
  match wrapper with
  | .created => .created <$> decodeCreatedBy readSnapshot catalog identifier envelope
  | .modified => .modified <$> decodeModifiedBy readSnapshot catalog identifier envelope
  | .deleted => .deleted <$> decodeDeletedBy readSnapshot catalog identifier envelope

end Steps

/-- What a node is decoded with: the tags of which the fields are decoded, and the schema that reads
them. -/
structure Decoder where
  catalog : Catalog
  schema : TypedReader

namespace Decoder

def ofCatalog (catalog : Catalog) : Decoder := ⟨catalog, LedgerEntry.decode⟩

def decodeNode (decoder : Decoder) (wrapper : Wrapper) (envelope : FieldMap) :
    Except DecodeError Node :=
  decodeNodeBy decoder.schema.readSnapshot decoder.catalog wrapper envelope

def decodeElement (decoder : Decoder) (element : Json) : Except DecodeError Node := do
  let (wrapper, envelope) ← Envelope.ofElement element
  decoder.decodeNode wrapper envelope

end Decoder

def decodeNode (catalog : Catalog) (wrapper : Wrapper) (envelope : FieldMap) :
    Except DecodeError Node :=
  decodeNodeBy decodeSnapshot catalog wrapper envelope

def decodeElement (catalog : Catalog) (element : Json) : Except DecodeError Node :=
  (Decoder.ofCatalog catalog).decodeElement element

end AffectedNodes
