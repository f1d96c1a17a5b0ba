import AffectedNodes.Proofs.Batch.Workers
import AffectedNodes.Proofs.Steps

/-!
# Where the nodes of a batch come from

The nodes of an outcome are the results that succeeded, in the order of the elements, and the
failures are the other results with their positions.  If failing elements are left out, a batch has
both for its outcome.  If the first failure fails the batch, it has the same outcome or, when there
is a failure, ends with the first one.

So, whatever the settings are, each node of an outcome is what some element of the batch decodes to.
The other way round, a batch of which every element decodes has the decoded nodes for its outcome.
-/
namespace AffectedNodes

namespace Batch

def successes (results : List NodeResult) : List Node := results.filterMap Except.toOption

/-- The failures among results of which the first has the given position. -/
def failuresFrom : Nat → List NodeResult → List Failure
  | _, [] => []
  | position, .ok _ :: rest => failuresFrom (position + 1) rest
  | position, .error error :: rest => ⟨position, error⟩ :: failuresFrom (position + 1) rest

end Batch

/-- An outcome without failures, or else the first failure. -/
def Outcome.strict (outcome : Outcome) : Except DecodeError Outcome :=
  match outcome.failures with
  | [] => .ok outcome
  | first :: _ => .error (.atPosition first.position first.error)

namespace Batch

variable {catalog : Catalog} {policy : Policy} {elements : List Json} {node : Node}

theorem successes_cons_ok (node : Node) (rest : List NodeResult) :
    successes (.ok node :: rest) = node :: successes rest := rfl

theorem successes_cons_error (error : DecodeError) (rest : List NodeResult) :
    successes (.error error :: rest) = successes rest := rfl

theorem collectFrom_skipInvalid (position : Nat) (results : List NodeResult) :
    collectFrom .skipInvalid position results =
      .ok ⟨successes results, failuresFrom position results⟩ := by
  induction results generalizing position with
  | nil => rfl
  | cons result rest ih =>
      cases result with
      | ok node =>
          rw [collectFrom, ih, successes_cons_ok, failuresFrom]
          rfl
      | error error =>
          rw [collectFrom, ih, successes_cons_error, failuresFrom]
          rfl

theorem collectFrom_failFast (position : Nat) (results : List NodeResult) :
    collectFrom .failFast position results =
      Outcome.strict ⟨successes results, failuresFrom position results⟩ := by
  induction results generalizing position with
  | nil => rfl
  | cons result rest ih =>
      cases result with
      | ok node =>
          rw [collectFrom, ih, failuresFrom]
          -- a node in front changes the nodes, and not which failure is the first
          cases failuresFrom (position + 1) rest <;> rfl
      | error error => rfl

theorem nodes_eq_successes {position : Nat} {results : List NodeResult} {outcome : Outcome}
    (collected : collectFrom policy position results = .ok outcome) :
    outcome.nodes = successes results := by
  cases policy with
  | skipInvalid =>
      rw [collectFrom_skipInvalid] at collected
      cases collected
      rfl
  | failFast =>
      rw [collectFrom_failFast, Outcome.strict] at collected
      split at collected
      · cases collected
        rfl
      · cases collected

/-- Each node of an outcome is decoded from an element of the batch. -/
theorem exists_element_of_mem {settings : Settings} {outcome : Outcome}
    (decoded : decodeWith catalog settings elements = .ok outcome)
    (member : node ∈ outcome.nodes) :
    ∃ element ∈ elements, decodeElement catalog element = .ok node := by
  rw [decodeWith_eq] at decoded
  rw [nodes_eq_successes decoded] at member
  obtain ⟨result, listed, succeeded⟩ := List.mem_filterMap.mp member
  obtain ⟨element, inBatch, rfl⟩ := List.mem_map.mp listed
  exact ⟨element, inBatch, toOption_eq_some_iff.mp succeeded⟩

theorem collectFrom_map_ok (policy : Policy) (position : Nat) (nodes : List Node) :
    collectFrom policy position (nodes.map .ok) = .ok ⟨nodes, []⟩ := by
  induction nodes generalizing position with
  | nil => rfl
  | cons node rest ih =>
      rw [List.map_cons, collectFrom, ih]
      rfl

theorem decodeWith_of_decoded {settings : Settings} {nodes : List Node} {element : Node → Json}
    (decoded : ∀ node ∈ nodes, decodeElement catalog (element node) = .ok node) :
    decodeWith catalog settings (nodes.map element) = .ok ⟨nodes, []⟩ := by
  have results : (Decoder.ofCatalog catalog).decodeNodes (nodes.map element) = nodes.map .ok := by
    rw [Decoder.decodeNodes, List.map_map]
    exact List.map_congr_left decoded
  rw [decodeWith_eq, decode, Decoder.decodeBatch, results]
  exact collectFrom_map_ok settings.policy 0 nodes

end Batch

end AffectedNodes
