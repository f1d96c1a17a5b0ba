import AffectedNodes.Main
import AffectedNodes.Proofs.Batch.Policies
import AffectedNodes.Proofs.Changes.PreviousFields
import AffectedNodes.Proofs.Changes.Snapshots
import AffectedNodes.Proofs.CommandLine.Accounting
import AffectedNodes.Proofs.CommandLine.Failure
import AffectedNodes.Proofs.CommandLine.Lines
import AffectedNodes.Proofs.CommandLine.Rows
import AffectedNodes.Proofs.CommandLine.Workers
import AffectedNodes.Proofs.Entry.Amounts
import AffectedNodes.Proofs.Entry.Omission
import AffectedNodes.Proofs.Input.Classification
import AffectedNodes.Proofs.Ledger.HashCodec
import AffectedNodes.Proofs.Metadata.Acceptance
import AffectedNodes.Proofs.Metadata.RoundTrip
import AffectedNodes.Proofs.Node.Completeness
import AffectedNodes.Proofs.Node.Declared
import AffectedNodes.Proofs.Node.ErrorClasses
import AffectedNodes.Proofs.Node.Fragment
import AffectedNodes.Proofs.Node.Identity
import AffectedNodes.Proofs.Node.Provenance
import AffectedNodes.Proofs.Node.Reconstruction
import AffectedNodes.Proofs.Node.Reduction
import AffectedNodes.Proofs.Node.Shape
import AffectedNodes.Proofs.Node.Unlisted
