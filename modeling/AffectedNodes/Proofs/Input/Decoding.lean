import AffectedNodes.Input
import AffectedNodes.Proofs.Metadata.Acceptance

/-!
# What an input decodes to

An input lists elements, either by itself or in metadata, whose header it tells as well.  If the
header is sound, or there is none, the input decodes exactly when the batch of its elements does,
and to the nodes of the batch behind that header.  So with failing elements left out only a faulty
header fails an input, and an input that decodes although the first failure would fail it decodes to
the same then.
-/
namespace AffectedNodes

open Metadata (Header)

namespace Input

inductive Lists : Input → List Json → Prop where
  | nodes (elements : List Json) : Lists (.nodes elements) elements
  | metadata {value : Json} {fields : FieldMap} {elements : List Json}
      (object : value.fields? = some fields)
      (held : fields.get? "AffectedNodes" = some (.array elements)) :
      Lists (.metadata value) elements

/-- The header that an input tells has a fault. -/
inductive HasFault : Input → Malformed → Prop where
  | header {value : Json} {fields : FieldMap} {cause : Malformed}
      (object : value.fields? = some fields) (fault : Header.Fault fields cause) :
      HasFault (.metadata value) cause

/-- What the nodes of an input are presented as: themselves, or behind the header of metadata. -/
inductive Presents : Input → List Node → Decoded → Prop where
  | nodes (elements : List Json) (nodes : List Node) :
      Presents (.nodes elements) nodes (.nodes nodes)
  | metadata {value : Json} {fields : FieldMap} {header : Header} (nodes : List Node)
      (object : value.fields? = some fields) (told : header.ToldBy fields) :
      Presents (.metadata value) nodes
        (.metadata ⟨nodes, header.transactionIndex, header.transactionResult,
          header.deliveredAmount⟩)

variable {catalog : Catalog} {settings settings' : Settings} {input : Input}
  {elements : List Json} {nodes : List Node} {decoded : Decoded} {failures : List Failure}
  {error : DecodeError}

theorem Lists.unique {others : List Json} (lists : input.Lists elements)
    (lists' : input.Lists others) : elements = others := by
  cases lists with
  | nodes => cases lists'; rfl
  | metadata object held =>
      cases lists' with
      | metadata object' held' =>
          cases object.symm.trans object'
          cases held.symm.trans held'
          rfl

theorem decode_eq_ok_iff_batch :
    input.decode catalog settings = .ok (decoded, failures) ↔
      ∃ elements nodes, input.Lists elements ∧ input.Presents nodes decoded ∧
        Batch.decodeWith catalog settings elements = .ok ⟨nodes, failures⟩ := by
  cases input with
  | nodes elements =>
      rw [decode, map_eq_ok_iff]
      constructor
      · rintro ⟨outcome, batch, same⟩
        cases same
        exact ⟨elements, outcome.nodes, .nodes elements, .nodes elements _, batch⟩
      · rintro ⟨_, nodes, lists, presents, batch⟩
        cases lists
        cases presents
        exact ⟨_, batch, rfl⟩
  | metadata value =>
      rw [decode, map_eq_ok_iff]
      constructor
      · rintro ⟨⟨metadata, failures'⟩, read, same⟩
        cases same
        obtain ⟨fields, elements, object, told, batch⟩ :=
          Decoder.decodeMetadataWith_eq_ok_iff.mp read
        exact ⟨elements, _, .metadata object told.elements, .metadata _ object told, batch⟩
      · rintro ⟨elements, nodes, lists, presents, batch⟩
        cases lists with
        | metadata object held =>
            cases presents with
            | @metadata _ _ header _ object' told =>
                cases object.symm.trans object'
                cases held.symm.trans told.elements
                have read : Metadata.decodeWith catalog settings value =
                    .ok (⟨nodes, header.transactionIndex, header.transactionResult,
                      header.deliveredAmount⟩, failures) :=
                  Decoder.decodeMetadataWith_eq_ok_iff.mpr ⟨_, _, object, told, batch⟩
                exact ⟨_, read, rfl⟩

/-- What an input decodes to are the nodes among its elements, with what is left out. -/
theorem decode_eq_ok_iff :
    input.decode catalog settings = .ok (decoded, failures) ↔
      ∃ elements, input.Lists elements ∧
        input.Presents ((Decoder.ofCatalog catalog).skipped elements).nodes decoded ∧
        failures = ((Decoder.ofCatalog catalog).skipped elements).failures ∧
        (settings.policy = .failFast → failures = []) := by
  rw [decode_eq_ok_iff_batch]
  apply exists_congr
  intro elements
  constructor
  · rintro ⟨nodes, lists, presents, batch⟩
    obtain ⟨same, complete⟩ := Decoder.decodeBatchWith_eq_ok_iff.mp batch
    rw [← same]
    exact ⟨lists, presents, rfl, complete⟩
  · rintro ⟨lists, presents, rfl, complete⟩
    exact ⟨_, lists, presents, Decoder.decodeBatchWith_eq_ok_iff.mpr ⟨rfl, complete⟩⟩

theorem decode_eq_error_iff_of_lenient (lenient : settings.policy = .skipInvalid)
    (object : ∀ value, input = .metadata value → value.fields?.isSome = true) :
    input.decode catalog settings = .error error ↔
      ∃ cause, input.HasFault cause ∧ error = .malformed cause := by
  cases input with
  | nodes elements =>
      rw [decode, map_eq_error_iff]
      constructor
      · intro failed
        have strict := (Decoder.decodeBatchWith_eq_error_iff.mp failed).1
        cases lenient.symm.trans strict
      · rintro ⟨_, hasFault, -⟩
        cases hasFault
  | metadata value =>
      rw [decode, map_eq_error_iff, Metadata.decodeWith, Decoder.decodeMetadataWith_eq_error_iff]
      constructor
      · intro refused
        cases refused with
        | notObject noFields => cases noFields ▸ object value rfl
        | header object fault => exact ⟨_, .header object fault, rfl⟩
        | node _ _ strict => cases lenient.symm.trans strict
      · rintro ⟨cause, hasFault, rfl⟩
        cases hasFault with
        | header object fault => exact .header object fault

/-- An input that decodes although the first failure would fail it is decoded to the same, and
completely, when failing elements are left out. -/
theorem decode_of_strict (strict : settings.policy = .failFast)
    (read : input.decode catalog settings = .ok (decoded, failures)) :
    failures = [] ∧ input.decode catalog settings' = .ok (decoded, failures) := by
  obtain ⟨elements, lists, presents, left, complete⟩ := decode_eq_ok_iff.mp read
  have nothing := complete strict
  exact ⟨nothing, decode_eq_ok_iff.mpr ⟨elements, lists, presents, left, fun _ => nothing⟩⟩

end Input

end AffectedNodes
