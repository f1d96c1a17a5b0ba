import AffectedNodes.Metadata
import AffectedNodes.Proofs.Batch.Policies
import AffectedNodes.Proofs.Node.Envelope

/-!
# Which metadata are accepted

The header of metadata is told by four members, and the first of them that is faulty fails the
metadata, whatever the nodes are.  With a sound header the nodes decide: under the policy that fails
a batch with its first failure they must all decode, and under the other one any nodes will do.

The amount that was delivered is taken from the newer of two members, unless that one is missing,
null or says that the amount is not available.  Where the newer one counts, the older one is never
looked at.
-/
namespace AffectedNodes

namespace Metadata

/-- A member holds a value that says what was delivered. -/
structure Delivers (fields : FieldMap) (name : String) (value : Json) : Prop where
  held : fields.get? name = some value
  notNull : value ≠ .null
  notUnavailable : value ≠ .string "unavailable"

/-- The value that says what was delivered, if there is any: that of the newer member, or else that
of the older one. -/
inductive DeliveredFrom (fields : FieldMap) : Option Json → Prop where
  | newer {value : Json} (delivers : Delivers fields "DeliveredAmount" value) :
      DeliveredFrom fields (some value)
  | older {value : Json} (noNewer : ∀ other, ¬ Delivers fields "DeliveredAmount" other)
      (delivers : Delivers fields "delivered_amount" value) : DeliveredFrom fields (some value)
  | nowhere (noNewer : ∀ other, ¬ Delivers fields "DeliveredAmount" other)
      (noOlder : ∀ other, ¬ Delivers fields "delivered_amount" other) : DeliveredFrom fields none

inductive Delivered (fields : FieldMap) : Option Amount → Prop where
  | none (source : DeliveredFrom fields none) : Delivered fields none
  | some {value : Json} {amount : Amount} (source : DeliveredFrom fields (some value))
      (read : Format.amount.read value = .ok amount) : Delivered fields (some amount)

/-- What metadata tell besides their nodes, and the elements that the nodes are decoded from. -/
structure Header where
  elements : List Json
  transactionIndex : UInt32
  transactionResult : String
  deliveredAmount : Option Amount

structure Header.ToldBy (fields : FieldMap) (header : Header) : Prop where
  elements : fields.get? "AffectedNodes" = some (.array header.elements)
  transactionIndex : fields.get? "TransactionIndex" = some (.nat header.transactionIndex.toNat)
  transactionResult : fields.get? "TransactionResult" = some (.string header.transactionResult)
  deliveredAmount : Delivered fields header.deliveredAmount

/-- The first fault of a header, after what is sound before it. -/
inductive Header.Fault (fields : FieldMap) : Malformed → Prop where
  | elementsMissing (missing : fields.get? "AffectedNodes" = none) :
      Fault fields .affectedNodesMissing
  | elementsNotArray {found : Json} (held : fields.get? "AffectedNodes" = some found)
      (notArray : ∀ elements, found ≠ .array elements) : Fault fields (.affectedNodesNotArray found)
  | transactionIndex {elements : List Json}
      (listed : fields.get? "AffectedNodes" = some (.array elements))
      (noIndex : ∀ index : UInt32, fields.get? "TransactionIndex" ≠ some (.nat index.toNat)) :
      Fault fields .transactionIndexInvalid
  | transactionResult {elements : List Json} {index : UInt32}
      (listed : fields.get? "AffectedNodes" = some (.array elements))
      (indexed : fields.get? "TransactionIndex" = some (.nat index.toNat))
      (noResult : ∀ result, fields.get? "TransactionResult" ≠ some (.string result)) :
      Fault fields .transactionResultInvalid
  | deliveredAmount {elements : List Json} {index : UInt32} {result : String} {value : Json}
      {fault : ReadFault} (listed : fields.get? "AffectedNodes" = some (.array elements))
      (indexed : fields.get? "TransactionIndex" = some (.nat index.toNat))
      (resulted : fields.get? "TransactionResult" = some (.string result))
      (source : DeliveredFrom fields (some value))
      (unread : Format.amount.read value = .error fault) :
      Fault fields (.deliveredAmountInvalid fault)

variable {fields other : FieldMap} {name : String} {value : Json} {error : DecodeError}

/-! ### The delivered amount -/

theorem isUnavailable_iff :
    isUnavailable value = true ↔ value = .null ∨ value = .string "unavailable" := by
  cases value <;> simp [isUnavailable]

theorem delivers_iff :
    Delivers fields name value ↔
      ((fields.get? name).filter fun value => !isUnavailable value) = some value := by
  rw [Option.filter_eq_some_iff, Bool.not_eq_true', ← Bool.not_eq_true, isUnavailable_iff, not_or]
  constructor
  · intro delivers
    exact ⟨delivers.held, delivers.notNull, delivers.notUnavailable⟩
  · rintro ⟨held, notNull, notUnavailable⟩
    exact ⟨held, notNull, notUnavailable⟩

theorem not_delivers_iff :
    (∀ value, ¬ Delivers fields name value) ↔
      ((fields.get? name).filter fun value => !isUnavailable value) = none := by
  rw [Option.eq_none_iff_forall_ne_some]
  exact forall_congr' fun value => not_congr delivers_iff

theorem deliveredFrom_iff {source : Option Json} :
    DeliveredFrom fields source ↔ deliveredValue? fields = source := by
  rw [deliveredValue?, deliveredNames, List.findSome?_cons, List.findSome?_cons, List.findSome?_nil]
  constructor
  · intro chosen
    cases chosen with
    | newer delivers => rw [delivers_iff.mp delivers]
    | older noNewer delivers => rw [not_delivers_iff.mp noNewer, delivers_iff.mp delivers]
    | nowhere noNewer noOlder => rw [not_delivers_iff.mp noNewer, not_delivers_iff.mp noOlder]
  · rintro rfl
    split
    · rename_i delivers
      exact .newer (delivers_iff.mpr delivers)
    · rename_i noNewer
      split
      · rename_i delivers
        exact .older (not_delivers_iff.mpr noNewer) (delivers_iff.mpr delivers)
      · rename_i noOlder
        exact .nowhere (not_delivers_iff.mpr noNewer) (not_delivers_iff.mpr noOlder)

theorem readDelivered_eq_ok_iff {amount : Option Amount} :
    readDelivered fields = .ok amount ↔ Delivered fields amount := by
  rw [readDelivered]
  constructor
  · intro read
    split at read
    · rename_i nowhere
      cases read
      exact .none (deliveredFrom_iff.mpr nowhere)
    · rename_i value found
      split at read
      · rename_i given
        cases read
        exact .some (deliveredFrom_iff.mpr found) given
      · cases read
  · intro delivered
    cases delivered with
    | none source => rw [deliveredFrom_iff.mp source]
    | some source read =>
        rw [deliveredFrom_iff.mp source]
        simp only [read]

theorem readDelivered_eq_error_iff :
    readDelivered fields = .error error ↔
      ∃ value fault, DeliveredFrom fields (some value) ∧ Format.amount.read value = .error fault ∧
        error = .malformed (.deliveredAmountInvalid fault) := by
  rw [readDelivered]
  constructor
  · intro failed
    split at failed
    · cases failed
    · rename_i value found
      split at failed
      · cases failed
      · rename_i fault unread
        cases failed
        exact ⟨value, fault, deliveredFrom_iff.mpr found, unread, rfl⟩
  · rintro ⟨value, fault, source, unread, rfl⟩
    rw [deliveredFrom_iff.mp source]
    simp only [unread]

theorem readDelivered_congr (delivers : Delivers fields "DeliveredAmount" value)
    (same : other.get? "DeliveredAmount" = fields.get? "DeliveredAmount") :
    readDelivered other = readDelivered fields := by
  have otherDelivers : Delivers other "DeliveredAmount" value :=
    ⟨same.trans delivers.held, delivers.notNull, delivers.notUnavailable⟩
  rw [readDelivered, readDelivered, deliveredFrom_iff.mp (.newer delivers),
    deliveredFrom_iff.mp (.newer otherDelivers)]

/-! ### The other members -/

theorem readElements_eq_ok_iff {elements : List Json} :
    readElements fields = .ok elements ↔
      fields.get? "AffectedNodes" = some (.array elements) := by
  rw [readElements]
  split
  · rename_i held
    simp [held]
  · rename_i notArray held
    simp only [held, reduceCtorEq, false_iff, Option.some.injEq]
    exact notArray elements
  · rename_i missing
    simp [missing]

theorem readElements_eq_error_iff :
    readElements fields = .error error ↔
      (fields.get? "AffectedNodes" = none ∧ error = .malformed .affectedNodesMissing) ∨
        ∃ found, fields.get? "AffectedNodes" = some found ∧
          (∀ elements, found ≠ .array elements) ∧
          error = .malformed (.affectedNodesNotArray found) := by
  rw [readElements]
  split
  · rename_i held
    simp [held]
  · rename_i found notArray held
    simp only [held, reduceCtorEq, false_and, false_or, Except.error.injEq, Option.some.injEq]
    constructor
    · rintro rfl
      exact ⟨found, rfl, notArray, rfl⟩
    · rintro ⟨_, rfl, -, rfl⟩
      rfl
  · rename_i missing
    simp [missing, eq_comm]

theorem word32?_index_iff {index : UInt32} :
    (fields.get? "TransactionIndex").bind Bookkeeping.word32? = some index ↔
      fields.get? "TransactionIndex" = some (.nat index.toNat) := by
  simp only [Option.bind_eq_some_iff, Bookkeeping.word32?_eq_some_iff,
    Format.word32_read_eq_ok_iff, exists_eq_right]

theorem readIndex_eq_ok_iff {index : UInt32} :
    readIndex fields = .ok index ↔
      fields.get? "TransactionIndex" = some (.nat index.toNat) := by
  rw [← word32?_index_iff, readIndex]
  split
  · rename_i given
    simp [given]
  · rename_i none
    simp [none]

theorem readIndex_eq_error_iff :
    readIndex fields = .error error ↔
      (∀ index : UInt32, fields.get? "TransactionIndex" ≠ some (.nat index.toNat)) ∧
        error = .malformed .transactionIndexInvalid := by
  rw [readIndex]
  split
  · rename_i index given
    constructor
    · exact nofun
    · rintro ⟨noIndex, -⟩
      exact absurd (word32?_index_iff.mp given) (noIndex index)
  · rename_i none
    constructor
    · intro failed
      cases failed
      refine ⟨fun index held => ?_, rfl⟩
      cases none.symm.trans (word32?_index_iff.mpr held)
    · rintro ⟨-, rfl⟩
      rfl

theorem readResult_eq_ok_iff {result : String} :
    readResult fields = .ok result ↔
      fields.get? "TransactionResult" = some (.string result) := by
  rw [readResult]
  split
  · rename_i held
    simp [held]
  · rename_i noText
    simp only [reduceCtorEq, false_iff]
    exact noText result

theorem readResult_eq_error_iff :
    readResult fields = .error error ↔
      (∀ result, fields.get? "TransactionResult" ≠ some (.string result)) ∧
        error = .malformed .transactionResultInvalid := by
  rw [readResult]
  split
  · rename_i held
    simp [held]
  · rename_i noText
    simp only [Except.error.injEq]
    constructor
    · rintro rfl
      exact ⟨noText, rfl⟩
    · rintro ⟨-, rfl⟩
      rfl

/-! ### The header -/

def Header.read (fields : FieldMap) : Except DecodeError Header := do
  let elements ← readElements fields
  let transactionIndex ← readIndex fields
  let transactionResult ← readResult fields
  let deliveredAmount ← readDelivered fields
  return ⟨elements, transactionIndex, transactionResult, deliveredAmount⟩

theorem Header.read_eq_ok_iff {header : Header} :
    read fields = .ok header ↔ header.ToldBy fields := by
  constructor
  · intro given
    obtain ⟨elements, listed, given⟩ := bind_eq_ok_iff.mp given
    obtain ⟨index, indexed, given⟩ := bind_eq_ok_iff.mp given
    obtain ⟨result, resulted, given⟩ := bind_eq_ok_iff.mp given
    obtain ⟨amount, delivered, same⟩ := bind_eq_ok_iff.mp given
    cases same
    exact ⟨readElements_eq_ok_iff.mp listed, readIndex_eq_ok_iff.mp indexed,
      readResult_eq_ok_iff.mp resulted, readDelivered_eq_ok_iff.mp delivered⟩
  · intro told
    refine (bind_of_ok (readElements_eq_ok_iff.mpr told.elements)).trans ?_
    refine (bind_of_ok (readIndex_eq_ok_iff.mpr told.transactionIndex)).trans ?_
    refine (bind_of_ok (readResult_eq_ok_iff.mpr told.transactionResult)).trans ?_
    exact bind_of_ok (readDelivered_eq_ok_iff.mpr told.deliveredAmount)

theorem Header.read_eq_error_iff :
    read fields = .error error ↔ ∃ cause, Header.Fault fields cause ∧ error = .malformed cause := by
  constructor
  · intro failed
    rcases bind_eq_error_iff.mp failed with unlisted | ⟨elements, listed, failed⟩
    · rcases readElements_eq_error_iff.mp unlisted with ⟨missing, rfl⟩ | ⟨_, held, notArray, rfl⟩
      · exact ⟨_, .elementsMissing missing, rfl⟩
      · exact ⟨_, .elementsNotArray held notArray, rfl⟩
    have listed := readElements_eq_ok_iff.mp listed
    rcases bind_eq_error_iff.mp failed with unindexed | ⟨index, indexed, failed⟩
    · obtain ⟨noIndex, rfl⟩ := readIndex_eq_error_iff.mp unindexed
      exact ⟨_, .transactionIndex listed noIndex, rfl⟩
    have indexed := readIndex_eq_ok_iff.mp indexed
    rcases bind_eq_error_iff.mp failed with unresulted | ⟨result, resulted, failed⟩
    · obtain ⟨noResult, rfl⟩ := readResult_eq_error_iff.mp unresulted
      exact ⟨_, .transactionResult listed indexed noResult, rfl⟩
    have resulted := readResult_eq_ok_iff.mp resulted
    rcases bind_eq_error_iff.mp failed with undelivered | ⟨amount, -, same⟩
    · obtain ⟨value, fault, source, unread, rfl⟩ := readDelivered_eq_error_iff.mp undelivered
      exact ⟨_, .deliveredAmount listed indexed resulted source unread, rfl⟩
    · cases same
  · rintro ⟨cause, fault, rfl⟩
    cases fault with
    | elementsMissing missing =>
        exact bind_of_error (readElements_eq_error_iff.mpr (Or.inl ⟨missing, rfl⟩))
    | elementsNotArray held notArray =>
        exact bind_of_error (readElements_eq_error_iff.mpr (Or.inr ⟨_, held, notArray, rfl⟩))
    | transactionIndex listed noIndex =>
        refine (bind_of_ok (readElements_eq_ok_iff.mpr listed)).trans ?_
        exact bind_of_error (readIndex_eq_error_iff.mpr ⟨noIndex, rfl⟩)
    | transactionResult listed indexed noResult =>
        refine (bind_of_ok (readElements_eq_ok_iff.mpr listed)).trans ?_
        refine (bind_of_ok (readIndex_eq_ok_iff.mpr indexed)).trans ?_
        exact bind_of_error (readResult_eq_error_iff.mpr ⟨noResult, rfl⟩)
    | deliveredAmount listed indexed resulted source unread =>
        refine (bind_of_ok (readElements_eq_ok_iff.mpr listed)).trans ?_
        refine (bind_of_ok (readIndex_eq_ok_iff.mpr indexed)).trans ?_
        refine (bind_of_ok (readResult_eq_ok_iff.mpr resulted)).trans ?_
        exact bind_of_error (readDelivered_eq_error_iff.mpr ⟨_, _, source, unread, rfl⟩)

theorem Header.read_congr (delivers : Delivers fields "DeliveredAmount" value)
    (same : ∀ name, name ≠ "delivered_amount" → other.get? name = fields.get? name) :
    read other = read fields := by
  have sameElements : readElements other = readElements fields := by
    rw [readElements, readElements, same "AffectedNodes" (by decide)]
  have sameIndex : readIndex other = readIndex fields := by
    rw [readIndex, readIndex, same "TransactionIndex" (by decide)]
  have sameResult : readResult other = readResult fields := by
    rw [readResult, readResult, same "TransactionResult" (by decide)]
  have sameDelivered : readDelivered other = readDelivered fields :=
    readDelivered_congr delivers (same "DeliveredAmount" (by decide))
  rw [read, read, sameElements, sameIndex, sameResult, sameDelivered]

end Metadata

namespace Decoder

open Metadata

/-- The error for which metadata are refused: for their header whatever the nodes are, or for their
first failing node if that fails the batch. -/
inductive RefusesMetadata (decoder : Decoder) (policy : Policy) (value : Json) :
    DecodeError → Prop where
  | notObject (noFields : value.fields? = none) :
      RefusesMetadata decoder policy value (.malformed .metadataNotObject)
  | header {fields : FieldMap} {cause : Malformed} (object : value.fields? = some fields)
      (fault : Header.Fault fields cause) : RefusesMetadata decoder policy value (.malformed cause)
  | node {fields : FieldMap} {header : Header} {position : Nat} {source : DecodeError}
      (object : value.fields? = some fields) (told : header.ToldBy fields)
      (strict : policy = .failFast)
      (first : decoder.IsFirstFailure header.elements position source) :
      RefusesMetadata decoder policy value (.atPosition position source)

variable {decoder : Decoder} {order : FinishingOrder} {settings : Settings} {value : Json}
  {fields : FieldMap} {error : DecodeError}

theorem decodeMetadataWith_of_noFields (noFields : value.fields? = none) :
    decoder.decodeMetadataWith order settings value = .error (.malformed .metadataNotObject) := by
  rw [decodeMetadataWith, noFields]

theorem decodeMetadataWith_eq (object : value.fields? = some fields) :
    decoder.decodeMetadataWith order settings value =
      Header.read fields >>= fun header =>
        (decoder.decodeBatchWith order settings header.elements).map fun outcome =>
          (⟨outcome.nodes, header.transactionIndex, header.transactionResult,
            header.deliveredAmount⟩, outcome.failures) := by
  rw [decodeMetadataWith, object, Header.read]
  simp only [bind_assoc, pure_bind]
  rfl

theorem decodeMetadataWith_eq_ok_iff {metadata : Metadata} {failures : List Failure} :
    decoder.decodeMetadataWith order settings value = .ok (metadata, failures) ↔
      ∃ fields elements, value.fields? = some fields ∧
        Header.ToldBy fields ⟨elements, metadata.transactionIndex, metadata.transactionResult,
          metadata.deliveredAmount⟩ ∧
        decoder.decodeBatchWith order settings elements = .ok ⟨metadata.nodes, failures⟩ := by
  cases object : value.fields? with
  | none => simp [decodeMetadataWith_of_noFields object]
  | some fields =>
      rw [decodeMetadataWith_eq object, bind_eq_ok_iff]
      constructor
      · rintro ⟨header, read, decoded⟩
        obtain ⟨outcome, batch, same⟩ := map_eq_ok_iff.mp decoded
        cases same
        exact ⟨fields, header.elements, rfl, Header.read_eq_ok_iff.mp read, batch⟩
      · rintro ⟨_, elements, same, told, batch⟩
        cases same
        refine ⟨_, Header.read_eq_ok_iff.mpr told, map_eq_ok_iff.mpr ⟨_, batch, rfl⟩⟩

theorem decodeMetadataWith_eq_error_iff :
    decoder.decodeMetadataWith order settings value = .error error ↔
      decoder.RefusesMetadata settings.policy value error := by
  cases object : value.fields? with
  | none =>
      rw [decodeMetadataWith_of_noFields object]
      constructor
      · intro failed
        cases failed
        exact .notObject object
      · intro refused
        cases refused with
        | notObject => rfl
        | header object' => cases object.symm.trans object'
        | node object' => cases object.symm.trans object'
  | some fields =>
      rw [decodeMetadataWith_eq object]
      constructor
      · intro failed
        rcases bind_eq_error_iff.mp failed with unread | ⟨header, read, failed⟩
        · obtain ⟨cause, fault, rfl⟩ := Header.read_eq_error_iff.mp unread
          exact .header object fault
        · obtain ⟨strict, position, source, first, rfl⟩ :=
            decodeBatchWith_eq_error_iff.mp (map_eq_error_iff.mp failed)
          exact .node object (Header.read_eq_ok_iff.mp read) strict first
      · intro refused
        cases refused with
        | notObject noFields => cases object.symm.trans noFields
        | header object' fault =>
            cases object.symm.trans object'
            exact bind_of_error (Header.read_eq_error_iff.mpr ⟨_, fault, rfl⟩)
        | node object' told strict first =>
            cases object.symm.trans object'
            refine (bind_of_ok (Header.read_eq_ok_iff.mpr told)).trans ?_
            refine map_eq_error_iff.mpr (decodeBatchWith_eq_error_iff.mpr ?_)
            exact ⟨strict, _, _, first, rfl⟩

/--
Metadata are accepted exactly when they are an object with a sound header, and all nodes decode or
failing ones are left out; what is decoded are then the header and the outcome of the batch.  They
are refused for the first fault of the header, whatever the nodes and the policy are, and otherwise
only for the first failing node.  The older member of the delivered amount does not matter where the
newer one counts.
-/
theorem decodeMetadataWith_acceptance (decoder : Decoder) (order : FinishingOrder)
    (settings : Settings) (value : Json) :
    ((∃ accepted, decoder.decodeMetadataWith order settings value = .ok accepted) ↔
      ∃ fields, ∃ header : Header, value.fields? = some fields ∧ header.ToldBy fields ∧
        (settings.policy = .skipInvalid ∨
          ∀ element ∈ header.elements, ∃ node, decoder.decodeElement element = .ok node)) ∧
    (∀ metadata failures,
      decoder.decodeMetadataWith order settings value = .ok (metadata, failures) ↔
        ∃ fields elements, value.fields? = some fields ∧
          Header.ToldBy fields ⟨elements, metadata.transactionIndex, metadata.transactionResult,
            metadata.deliveredAmount⟩ ∧
          decoder.decodeBatchWith order settings elements = .ok ⟨metadata.nodes, failures⟩) ∧
    (∀ error, decoder.decodeMetadataWith order settings value = .error error ↔
      decoder.RefusesMetadata settings.policy value error) ∧
    (∀ fields delivered other otherFields, value.fields? = some fields →
      Delivers fields "DeliveredAmount" delivered → other.fields? = some otherFields →
      (∀ name, name ≠ "delivered_amount" → otherFields.get? name = fields.get? name) →
      decoder.decodeMetadataWith order settings other =
        decoder.decodeMetadataWith order settings value) := by
  refine ⟨?_, fun _ _ => decodeMetadataWith_eq_ok_iff, fun _ => decodeMetadataWith_eq_error_iff, ?_⟩
  · constructor
    · rintro ⟨⟨metadata, failures⟩, decoded⟩
      obtain ⟨fields, elements, object, told, batch⟩ := decodeMetadataWith_eq_ok_iff.mp decoded
      exact ⟨fields, _, object, told, exists_decodeBatchWith_eq_ok_iff.mp ⟨_, batch⟩⟩
    · rintro ⟨fields, header, object, told, decodes⟩
      obtain ⟨outcome, batch⟩ := exists_decodeBatchWith_eq_ok_iff.mpr decodes
      refine ⟨(⟨outcome.nodes, header.transactionIndex, header.transactionResult,
        header.deliveredAmount⟩, outcome.failures), ?_⟩
      exact decodeMetadataWith_eq_ok_iff.mpr ⟨fields, header.elements, object, told, batch⟩
  · intro fields delivered other otherFields object delivers otherObject same
    rw [decodeMetadataWith_eq object, decodeMetadataWith_eq otherObject,
      Header.read_congr delivers same]

def unreadDelivery : FieldMap :=
  .ofList
    [("AffectedNodes", .array [.null]), ("DeliveredAmount", .bool true),
      ("TransactionIndex", .nat 3), ("TransactionResult", .string "tesSUCCESS"),
      ("delivered_amount", .string "25")]

theorem decodeMetadataWith_acceptance_unreadDelivery :
    (ofCatalog .standard).decodeMetadataWith .inTurn .standard unreadDelivery.toJson =
      .error (.malformed (.deliveredAmountInvalid (.noVariantFits "CurrencyAmount"))) ∧
    Delivers unreadDelivery "DeliveredAmount" (.bool true) ∧
    (ofCatalog .standard).decodeMetadataWith .inTurn .standard
        (unreadDelivery.erase "delivered_amount").toJson =
      (ofCatalog .standard).decodeMetadataWith .inTurn .standard unreadDelivery.toJson ∧
    (ofCatalog .standard).decodeMetadataWith .inTurn .standard
        (unreadDelivery.insert "DeliveredAmount" .null).toJson =
      .error (.atPosition 0 (.malformed (.elementNotObject .null))) := by
  have delivers : Delivers unreadDelivery "DeliveredAmount" (.bool true) := ⟨rfl, nofun, nofun⟩
  have object : unreadDelivery.toJson.fields? = some unreadDelivery := FieldMap.fields?_toJson _
  obtain ⟨-, -, refused, unread⟩ :=
    decodeMetadataWith_acceptance (ofCatalog .standard) .inTurn .standard unreadDelivery.toJson
  refine ⟨(refused _).mpr (.header object ?_), delivers, ?_, ?_⟩
  · have indexed : unreadDelivery.get? "TransactionIndex" = some (.nat (3 : UInt32).toNat) := rfl
    exact .deliveredAmount rfl indexed rfl (.newer delivers) rfl
  · refine unread _ _ _ _ object delivers (FieldMap.fields?_toJson _) ?_
    intro name other
    rw [FieldMap.get?_erase, if_neg other]
  · obtain ⟨-, -, refused, -⟩ :=
      decodeMetadataWith_acceptance (ofCatalog .standard) .inTurn .standard
        (unreadDelivery.insert "DeliveredAmount" .null).toJson
    have noNewer (value : Json) :
        ¬ Delivers (unreadDelivery.insert "DeliveredAmount" .null) "DeliveredAmount" value := by
      intro delivers
      exact delivers.notNull (Option.some.inj delivers.held).symm
    have older : Delivers (unreadDelivery.insert "DeliveredAmount" .null) "delivered_amount"
        (.string "25") := ⟨rfl, nofun, by simp⟩
    have told : Header.ToldBy (unreadDelivery.insert "DeliveredAmount" .null)
        ⟨[.null], 3, "tesSUCCESS", some (.xrp ⟨25⟩)⟩ :=
      ⟨rfl, rfl, rfl, .some (.older noNewer older) rfl⟩
    refine (refused _).mpr (.node (FieldMap.fields?_toJson _) told rfl ⟨⟨.null, rfl, rfl⟩, ?_⟩)
    exact fun before none => absurd none (Nat.not_lt_zero before)

end Decoder

end AffectedNodes
