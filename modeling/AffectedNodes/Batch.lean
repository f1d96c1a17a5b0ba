import AffectedNodes.Node.Decoding
import AffectedNodes.Settings

/-!
# Batches

The elements of a batch are decoded independently of each other, so the batch may be split into
runs of neighbouring elements that workers decode at the same time.  The results are put together
by the places of the runs and not by the order in which the workers finish.  `collect` then turns
the results into an outcome: either the first failure fails the batch, or failing elements are
left out and told apart.

A decoder decodes batches with any schema, and its workers may finish in any order.  The functions
that have a catalog for a decoder read with the schemas of the ten kinds and take the results of
the workers in turn.
-/
namespace AffectedNodes

abbrev NodeResult := Except DecodeError Node

/-- An element that was left out, by its position in the batch. -/
structure Failure where
  position : Nat
  error : DecodeError

structure Outcome where
  nodes : List Node
  failures : List Failure

def Outcome.isComplete (outcome : Outcome) : Bool := outcome.failures.isEmpty

namespace Batch

/-- A list cut into at most `count` pieces of `size` items, of which the last may be shorter. -/
def pieces (size : Nat) : Nat → List α → List (List α)
  | _, [] => []
  | 0, _ => []
  | count + 1, items => items.take size :: pieces size count (items.drop size)

/-- How many elements a worker takes: the quotient of the two numbers, rounded up. -/
def pieceSize (length workers : Nat) : Nat := (length + workers - 1) / workers

def assignments (workers : Nat) (elements : List Json) : List (List Json) :=
  pieces (pieceSize elements.length workers) elements.length elements

/-- The results of the pieces when the workers finish in the order `finishing`, each of them
storing its results at the place of its piece. -/
def gather (work : List Json → List NodeResult) (assigned : List (List Json))
    (finishing : List Nat) : List NodeResult :=
  let slots := finishing.foldl
    (fun slots place => slots.set place ((assigned[place]?).elim [] work))
    (List.replicate assigned.length [])
  slots.flatten

def collectFrom (policy : Policy) : Nat → List NodeResult → Except DecodeError Outcome
  | _, [] => .ok ⟨[], []⟩
  | position, .ok node :: rest => do
      let outcome ← collectFrom policy (position + 1) rest
      return { outcome with nodes := node :: outcome.nodes }
  | position, .error error :: rest =>
      match policy with
      | .failFast => .error (.atPosition position error)
      | .skipInvalid => do
          let outcome ← collectFrom policy (position + 1) rest
          return { outcome with failures := ⟨position, error⟩ :: outcome.failures }

def collect (policy : Policy) (results : List NodeResult) : Except DecodeError Outcome :=
  collectFrom policy 0 results

end Batch

/-- An order in which workers finish: for each number of workers an arrangement of their places. -/
structure FinishingOrder where
  places : Nat → List Nat
  everyone : ∀ workers, (places workers).Perm (List.range workers)

def FinishingOrder.inTurn : FinishingOrder where
  places := List.range
  everyone _ := .refl _

namespace Decoder

def decodeNodes (decoder : Decoder) (elements : List Json) : List NodeResult :=
  elements.map decoder.decodeElement

def decodeNodesParallel (decoder : Decoder) (order : FinishingOrder) (elements : List Json)
    (workers : Nat) : List NodeResult :=
  if workers ≤ 1 ∨ elements.length < 2 then decoder.decodeNodes elements
  else
    let assigned := Batch.assignments workers elements
    Batch.gather decoder.decodeNodes assigned (order.places assigned.length)

def decodeBatch (decoder : Decoder) (policy : Policy) (elements : List Json) :
    Except DecodeError Outcome :=
  Batch.collect policy (decoder.decodeNodes elements)

def decodeBatchWith (decoder : Decoder) (order : FinishingOrder) (settings : Settings)
    (elements : List Json) : Except DecodeError Outcome :=
  let results :=
    if settings.runsParallel elements.length then
      decoder.decodeNodesParallel order elements settings.workers.toNat
    else decoder.decodeNodes elements
  Batch.collect settings.policy results

end Decoder

namespace Batch

def decodeNodes (catalog : Catalog) (elements : List Json) : List NodeResult :=
  (Decoder.ofCatalog catalog).decodeNodes elements

def decodeNodesParallel (catalog : Catalog) (elements : List Json) (workers : Nat) :
    List NodeResult :=
  (Decoder.ofCatalog catalog).decodeNodesParallel .inTurn elements workers

def decode (catalog : Catalog) (policy : Policy) (elements : List Json) :
    Except DecodeError Outcome :=
  (Decoder.ofCatalog catalog).decodeBatch policy elements

def decodeWith (catalog : Catalog) (settings : Settings) (elements : List Json) :
    Except DecodeError Outcome :=
  (Decoder.ofCatalog catalog).decodeBatchWith .inTurn settings elements

end Batch

end AffectedNodes
