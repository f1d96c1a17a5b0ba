import AffectedNodes.Node.Fault
import AffectedNodes.Record.Schema
import AffectedNodes.Toml.Reader

/-!
# Settings

How a batch of nodes is decoded: what a failing node means, and when the batch is split among
workers.

Settings are kept in TOML documents.  A setting that a document does not give has its standard
value, and a document that gives anything else is refused.  The policy is written as its name, or
as a table whose only key is the name and whose value is empty.
-/
namespace AffectedNodes

/-- What a failing node means for its batch. -/
inductive Policy where
  | failFast
  | skipInvalid
  deriving DecidableEq, Repr, Inhabited

namespace Policy

def name : Policy → String
  | failFast => "fail-fast"
  | skipInvalid => "skip-invalid"

def named : List (String × Policy) :=
  [failFast, skipInvalid].map fun policy => (policy.name, policy)

def format : Format Policy := .choice named name

end Policy

structure Settings where
  policy : Policy
  workers : UInt64
  minParallelBatch : UInt64
  deriving DecidableEq, Repr

namespace Settings

/-- The settings that apply unless others are given: one worker, and the first failing node fails
the batch. -/
def standard : Settings := ⟨.failFast, 1, 64⟩

instance : Inhabited Settings := ⟨standard⟩

def lenient : Settings := { standard with policy := .skipInvalid }

def runsParallel (settings : Settings) (length : Nat) : Bool :=
  1 < settings.workers && max settings.minParallelBatch.toNat 2 ≤ length

/-- The schema of settings, which refuses names that it does not know. -/
def schema : Schema Settings where
  name := "DecoderConfig"
  Row := _
  layout :=
    .field (.defaulted "policy" Policy.format standard.policy) <|
    .field (.defaulted "workers" .count standard.workers) <|
    .field (.defaulted "min_parallel_batch" .count standard.minParallelBatch) .done
  toRow settings := (settings.policy, settings.workers, settings.minParallelBatch, ())
  ofRow := fun (policy, workers, minParallelBatch, ()) => ⟨policy, workers, minParallelBatch⟩
  closed := true

def format : Format Settings := schema.format

def ofToml? (text : String) : Option Settings :=
  (Toml.read? text).bind fun table =>
    (schema.readFields (FieldMap.ofList (Toml.Table.members table))).toOption

def ofToml (text : String) : Except SettingsFault Settings :=
  (ofToml? text).elim (.error .invalidDocument) .ok

def load (sources : Sources) (path : String) : Except SettingsFault Settings :=
  match sources.fileText path with
  | .ok text => ofToml text
  | .error fault => .error (.unreadable path fault)

end Settings

end AffectedNodes
