import AffectedNodes.Proofs.Batch.Outcome
import AffectedNodes.Proofs.Node.Refusal

/-!
# The two policies on one batch

What is left out of a batch is told by positions in the batch, and not among the nodes that are kept,
so an outcome has all results: a merge by position gives them back.  The policy that fails a batch
with its first failure tells the same, as far as it goes.  With either policy the error of an element
is that of the element alone, because decoding an element never adds a position.
-/
namespace AffectedNodes

namespace Outcome

/-- The results that nodes and failures come from, of which the first has the given position. -/
def mergeFrom (position : Nat) : List Node → List Failure → List NodeResult
  | nodes, [] => nodes.map .ok
  | [], failures => failures.map fun failure => .error failure.error
  | node :: nodes, failure :: failures =>
      if failure.position = position then
        .error failure.error :: mergeFrom (position + 1) (node :: nodes) failures
      else .ok node :: mergeFrom (position + 1) nodes (failure :: failures)

def merged (outcome : Outcome) : List NodeResult := mergeFrom 0 outcome.nodes outcome.failures

theorem mergeFrom_nil_left (position : Nat) (failures : List Failure) :
    mergeFrom position [] failures = failures.map fun failure => .error failure.error := by
  cases failures with
  | nil => rw [mergeFrom]; rfl
  | cons failure rest => rw [mergeFrom]; exact nofun

/-- What an outcome of elements says about each of them. -/
structure Tells (decoder : Decoder) (elements : List Json) (outcome : Outcome) : Prop where
  ordered : outcome.failures.Pairwise fun first second => first.position < second.position
  mem_failures_iff : ∀ position error, ⟨position, error⟩ ∈ outcome.failures ↔
    ∃ element, elements[position]? = some element ∧ decoder.decodeElement element = .error error
  nodes_eq : outcome.nodes =
    elements.filterMap fun element => (decoder.decodeElement element).toOption
  length_eq : outcome.nodes.length + outcome.failures.length = elements.length
  merged_eq : outcome.merged = decoder.decodeNodes elements

end Outcome

namespace Batch

/-! ### Positions of failures -/

theorem le_position_of_mem {start : Nat} {results : List NodeResult} {failure : Failure}
    (member : failure ∈ failuresFrom start results) : start ≤ failure.position := by
  induction results generalizing start with
  | nil => cases member
  | cons result rest ih =>
      cases result with
      | ok node => exact Nat.le_of_succ_le (ih member)
      | error error =>
          rcases List.mem_cons.mp member with rfl | later
          · exact Nat.le_refl start
          · exact Nat.le_of_succ_le (ih later)

theorem pairwise_failuresFrom (start : Nat) (results : List NodeResult) :
    (failuresFrom start results).Pairwise fun first second => first.position < second.position := by
  induction results generalizing start with
  | nil => exact .nil
  | cons result rest ih =>
      cases result with
      | ok node => exact ih (start + 1)
      | error error =>
          refine .cons (fun later member => ?_) (ih (start + 1))
          exact le_position_of_mem member

theorem mem_failuresFrom_iff {start index : Nat} {results : List NodeResult}
    {error : DecodeError} :
    ⟨start + index, error⟩ ∈ failuresFrom start results ↔
      results[index]? = some (.error error) := by
  induction results generalizing start index with
  | nil => exact iff_of_false List.not_mem_nil nofun
  | cons result rest ih =>
      cases index with
      | zero =>
          -- the rest has no failure at a position before its own
          have outside : ⟨start, error⟩ ∉ failuresFrom (start + 1) rest := by
            intro member
            exact Nat.lt_irrefl start (le_position_of_mem member)
          cases result with
          | ok node => exact iff_of_false outside nofun
          | error other =>
              constructor
              · intro member
                rcases List.mem_cons.mp member with same | later
                · cases same
                  rfl
                · exact absurd later outside
              · intro same
                cases same
                exact List.mem_cons_self
      | succ index =>
          have shifted : start + (index + 1) = start + 1 + index := by omega
          rw [shifted, List.getElem?_cons_succ, ← ih]
          cases result with
          | ok node => exact Iff.rfl
          | error other =>
              constructor
              · intro member
                rcases List.mem_cons.mp member with same | later
                · have before := congrArg Failure.position same
                  dsimp only at before
                  omega
                · exact later
              · exact List.mem_cons_of_mem _

/-! ### Nothing is lost -/

theorem length_successes_add (start : Nat) (results : List NodeResult) :
    (successes results).length + (failuresFrom start results).length = results.length := by
  induction results generalizing start with
  | nil => rfl
  | cons result rest ih =>
      have counted := ih (start + 1)
      cases result with
      | ok node =>
          rw [successes_cons_ok, failuresFrom, List.length_cons, List.length_cons]
          omega
      | error error =>
          rw [successes_cons_error, failuresFrom, List.length_cons, List.length_cons]
          omega

/-- The nodes and the failures of results give them back. -/
theorem mergeFrom_eq (start : Nat) (results : List NodeResult) :
    Outcome.mergeFrom start (successes results) (failuresFrom start results) = results := by
  induction results generalizing start with
  | nil => rw [failuresFrom, Outcome.mergeFrom]; rfl
  | cons result rest ih =>
      have merged := ih (start + 1)
      cases result with
      | ok node =>
          rw [successes_cons_ok, failuresFrom]
          cases left : failuresFrom (start + 1) rest with
          | nil =>
              rw [left, Outcome.mergeFrom] at merged
              rw [Outcome.mergeFrom, List.map_cons, merged]
          | cons failure failures =>
              rw [left] at merged
              have after : start + 1 ≤ failure.position :=
                le_position_of_mem (left ▸ List.mem_cons_self)
              rw [Outcome.mergeFrom, if_neg (by omega), merged]
      | error error =>
          rw [successes_cons_error, failuresFrom]
          cases nodes : successes rest with
          | nil =>
              rw [nodes, Outcome.mergeFrom_nil_left] at merged
              rw [Outcome.mergeFrom_nil_left, List.map_cons, merged]
          | cons node nodes' =>
              rw [nodes] at merged
              rw [Outcome.mergeFrom, if_pos rfl, merged]

end Batch

namespace Decoder

variable {decoder : Decoder} {elements : List Json}

def skipped (decoder : Decoder) (elements : List Json) : Outcome :=
  ⟨Batch.successes (decoder.decodeNodes elements),
    Batch.failuresFrom 0 (decoder.decodeNodes elements)⟩

theorem decodeBatch_skipInvalid :
    decoder.decodeBatch .skipInvalid elements = .ok (decoder.skipped elements) :=
  Batch.collectFrom_skipInvalid 0 _

theorem decodeBatch_failFast :
    decoder.decodeBatch .failFast elements = (decoder.skipped elements).strict :=
  Batch.collectFrom_failFast 0 _

theorem tells_skipped (decoder : Decoder) (elements : List Json) :
    (decoder.skipped elements).Tells decoder elements where
  ordered := Batch.pairwise_failuresFrom 0 _
  mem_failures_iff position error := by
    have listed : ⟨0 + position, error⟩ ∈ (decoder.skipped elements).failures ↔
        (decoder.decodeNodes elements)[position]? = some (.error error) :=
      Batch.mem_failuresFrom_iff
    rw [Nat.zero_add, decodeNodes, List.getElem?_map, Option.map_eq_some_iff] at listed
    exact listed
  nodes_eq := by
    rw [skipped, Batch.successes, decodeNodes, List.filterMap_map]
    rfl
  length_eq := by
    have counted := Batch.length_successes_add 0 (decoder.decodeNodes elements)
    rw [decodeNodes, List.length_map] at counted
    exact counted
  merged_eq := Batch.mergeFrom_eq 0 _

end Decoder

/-! ### The first failure -/

/-- The first element of a batch that fails, by its position, and its error. -/
structure Decoder.IsFirstFailure (decoder : Decoder) (elements : List Json) (position : Nat)
    (error : DecodeError) : Prop where
  failed : ∃ element, elements[position]? = some element ∧
    decoder.decodeElement element = .error error
  earlier : ∀ before < position, ∀ element, elements[before]? = some element →
    ∃ node, decoder.decodeElement element = .ok node

namespace Outcome.Tells

variable {decoder : Decoder} {elements : List Json} {outcome : Outcome}

theorem failures_eq_nil_iff (tells : outcome.Tells decoder elements) :
    outcome.failures = [] ↔
      ∀ element ∈ elements, ∃ node, decoder.decodeElement element = .ok node := by
  constructor
  · intro none element member
    cases decoded : decoder.decodeElement element with
    | ok node => exact ⟨node, rfl⟩
    | error error =>
        obtain ⟨position, found⟩ := List.mem_iff_getElem?.mp member
        have left := (tells.mem_failures_iff position error).mpr ⟨element, found, decoded⟩
        rw [none] at left
        cases left
  · intro all
    apply List.eq_nil_iff_forall_not_mem.mpr
    rintro ⟨position, error⟩ left
    obtain ⟨element, found, failed⟩ := (tells.mem_failures_iff position error).mp left
    obtain ⟨node, decoded⟩ := all element (List.mem_of_getElem? found)
    cases failed.symm.trans decoded

theorem exists_failures_eq_cons_iff (tells : outcome.Tells decoder elements) {position : Nat}
    {error : DecodeError} :
    (∃ rest, outcome.failures = ⟨position, error⟩ :: rest) ↔
      decoder.IsFirstFailure elements position error := by
  constructor
  · rintro ⟨rest, left⟩
    have ordered := tells.ordered
    rw [left] at ordered
    refine ⟨(tells.mem_failures_iff position error).mp (left ▸ List.mem_cons_self), ?_⟩
    intro before earlier element found
    cases decoded : decoder.decodeElement element with
    | ok node => exact ⟨node, rfl⟩
    | error other =>
        -- a failure before the first one would have to come after it
        have member := (tells.mem_failures_iff before other).mpr ⟨element, found, decoded⟩
        rw [left] at member
        rcases List.mem_cons.mp member with same | later
        · cases same
          exact absurd earlier (Nat.lt_irrefl _)
        · have after := (List.pairwise_cons.mp ordered).1 _ later
          exact absurd earlier (Nat.lt_asymm after)
  · intro first
    have member := (tells.mem_failures_iff position error).mpr first.failed
    cases left : outcome.failures with
    | nil =>
        rw [left] at member
        cases member
    | cons head rest =>
        rw [left] at member
        rcases List.mem_cons.mp member with rfl | later
        · exact ⟨rest, rfl⟩
        · obtain ⟨element, found, failed⟩ :=
            (tells.mem_failures_iff head.position head.error).mp (left ▸ List.mem_cons_self)
          have ordered := tells.ordered
          rw [left] at ordered
          have before := (List.pairwise_cons.mp ordered).1 _ later
          obtain ⟨node, decoded⟩ := first.earlier head.position before element found
          cases failed.symm.trans decoded

end Outcome.Tells

namespace Decoder

variable {decoder : Decoder} {elements : List Json} {order : FinishingOrder} {settings : Settings}

/-- With either policy an outcome is the one with failing elements left out, and if the first failure
fails the batch, none is left out. -/
theorem decodeBatchWith_eq_ok_iff {outcome : Outcome} :
    decoder.decodeBatchWith order settings elements = .ok outcome ↔
      outcome = decoder.skipped elements ∧
        (settings.policy = .failFast → outcome.failures = []) := by
  rw [decodeBatchWith_eq]
  cases settings.policy with
  | skipInvalid =>
      rw [decodeBatch_skipInvalid, Except.ok.injEq]
      constructor
      · intro same
        refine ⟨same.symm, ?_⟩
        intro strict
        cases strict
      · rintro ⟨rfl, -⟩
        rfl
  | failFast =>
      rw [decodeBatch_failFast, Outcome.strict]
      cases left : (decoder.skipped elements).failures with
      | nil =>
          constructor
          · intro same
            cases same
            exact ⟨rfl, fun _ => left⟩
          · rintro ⟨rfl, -⟩
            rfl
      | cons first rest =>
          constructor
          · intro failed
            cases failed
          · rintro ⟨rfl, complete⟩
            cases left.symm.trans (complete rfl)

theorem exists_decodeBatchWith_eq_ok_iff :
    (∃ outcome, decoder.decodeBatchWith order settings elements = .ok outcome) ↔
      settings.policy = .skipInvalid ∨
        ∀ element ∈ elements, ∃ node, decoder.decodeElement element = .ok node := by
  rw [← (decoder.tells_skipped elements).failures_eq_nil_iff]
  simp only [decodeBatchWith_eq_ok_iff, exists_eq_left]
  cases settings.policy <;> simp

theorem decodeBatchWith_eq_error_iff {error : DecodeError} :
    decoder.decodeBatchWith order settings elements = .error error ↔
      settings.policy = .failFast ∧ ∃ position source,
        decoder.IsFirstFailure elements position source ∧ error = .atPosition position source := by
  simp only [← (decoder.tells_skipped elements).exists_failures_eq_cons_iff]
  rw [decodeBatchWith_eq]
  cases settings.policy with
  | skipInvalid => simp [decodeBatch_skipInvalid]
  | failFast =>
      rw [decodeBatch_failFast, Outcome.strict]
      cases (decoder.skipped elements).failures with
      | nil => simp
      | cons first rest =>
          constructor
          · intro failed
            cases failed
            exact ⟨rfl, first.position, first.error, ⟨rest, rfl⟩, rfl⟩
          · rintro ⟨-, position, source, ⟨_, same⟩, rfl⟩
            cases same
            rfl

end Decoder

theorem DecodeError.root_eq_self {error : DecodeError}
    (plain : ∀ position source, error ≠ .atPosition position source) : error.root = error := by
  cases error with
  | atPosition position source => exact absurd rfl (plain position source)
  | malformed | typedDecode | settings => rfl

/--
A batch from which failing elements are left out always has an outcome, which tells what becomes of
every element.  The first of its failures is the error of the batch when the first failure fails it,
and without failures both outcomes are the same.  The error of an element has no position of its own,
and all this holds with any number of workers.
-/
theorem Decoder.decodeBatch_policies (decoder : Decoder) (elements : List Json) :
    ∃ outcome, decoder.decodeBatch .skipInvalid elements = .ok outcome ∧
      outcome.Tells decoder elements ∧
      (∀ whole, decoder.decodeBatch .failFast elements = .ok whole ↔
        outcome.failures = [] ∧ whole = outcome) ∧
      (∀ error, decoder.decodeBatch .failFast elements = .error error ↔
        ∃ first rest, outcome.failures = first :: rest ∧
          error = .atPosition first.position first.error) ∧
      (∀ failure ∈ outcome.failures,
        (∀ position source, failure.error ≠ .atPosition position source) ∧
        (DecodeError.atPosition failure.position failure.error).root = failure.error) ∧
      ∀ order settings, decoder.decodeBatchWith order settings elements =
        decoder.decodeBatch settings.policy elements := by
  have tells := decoder.tells_skipped elements
  refine ⟨decoder.skipped elements, decodeBatch_skipInvalid, tells, ?_, ?_, ?_, ?_⟩
  · intro whole
    rw [decodeBatch_failFast, Outcome.strict]
    cases left : (decoder.skipped elements).failures with
    | nil => simp [eq_comm]
    | cons first rest => simp
  · intro error
    rw [decodeBatch_failFast, Outcome.strict]
    cases left : (decoder.skipped elements).failures with
    | nil => simp
    | cons first rest => simp [eq_comm]
  · intro failure member
    obtain ⟨element, -, failed⟩ := (tells.mem_failures_iff _ _).mp member
    have plain : ∀ position source, failure.error ≠ .atPosition position source := by
      intro position source same
      rcases malformed_or_typedDecode_of_decodeElement failed with ⟨cause, same'⟩ | ⟨_, _, same'⟩
      · cases same.symm.trans same'
      · cases same.symm.trans same'
    exact ⟨plain, DecodeError.root_eq_self plain⟩
  · intro order settings
    exact decoder.decodeBatchWith_eq order settings elements

def Json.createdFeeSettings : Json :=
  .object
    [(Wrapper.created.key, .object
      [(FieldName.entryType, .string "FeeSettings"),
        (FieldName.ledgerIndex, .string Hash.zero.toHex)])]

theorem Decoder.decodeBatch_policies_createdFeeSettings :
    ∃ outcome, (ofCatalog .standard).decodeBatch .skipInvalid [Json.createdFeeSettings, .null] =
        .ok outcome ∧
      outcome.nodes.length = 1 ∧
      ⟨1, .malformed (.elementNotObject .null)⟩ ∈ outcome.failures ∧
      (∀ whole, (ofCatalog .standard).decodeBatch .failFast [Json.createdFeeSettings, .null] ≠
        .ok whole) ∧
      (∀ position source, DecodeError.malformed (.elementNotObject .null) ≠
        .atPosition position source) := by
  obtain ⟨outcome, decoded, tells, whole_iff, -, plain, -⟩ :=
    decodeBatch_policies (ofCatalog .standard) [Json.createdFeeSettings, .null]
  have member : ⟨1, .malformed (.elementNotObject .null)⟩ ∈ outcome.failures :=
    (tells.mem_failures_iff 1 _).mpr ⟨.null, rfl, rfl⟩
  refine ⟨outcome, decoded, ?_, member, ?_, (plain _ member).1⟩
  · rw [tells.nodes_eq]
    rfl
  · intro whole succeeded
    rw [((whole_iff whole).mp succeeded).1] at member
    cases member

end AffectedNodes
