import AffectedNodes.Node.Decoding
import AffectedNodes.Proofs.Steps

/-!
# Malformed envelopes

The readers that look at elements and envelopes, and not at the fields inside the blocks, fail with
one class of error only: the metadata are malformed.  This passes from the steps of a reader to
the reader.
-/
namespace AffectedNodes

variable {α β ε : Type}

/-- Whatever error this ends with, it says that the metadata are malformed. -/
def FailsMalformed (given : Except DecodeError α) : Prop :=
  ∀ error, given = .error error → ∃ cause, error = .malformed cause

namespace FailsMalformed

theorem of_ok (value : α) : FailsMalformed (.ok value) := nofun

theorem of_malformed (cause : Malformed) :
    FailsMalformed (.error (.malformed cause) : Except DecodeError α) := by
  intro error same
  cases same
  exact ⟨cause, rfl⟩

theorem of_mapError (given : Except ε α) (restate : ε → Malformed) :
    FailsMalformed (given.mapError fun fault => .malformed (restate fault)) := by
  intro error failed
  obtain ⟨fault, -, rfl⟩ := mapError_eq_error_iff.mp failed
  exact ⟨restate fault, rfl⟩

theorem bind {given : Except DecodeError α} {next : α → Except DecodeError β}
    (first : FailsMalformed given) (later : ∀ value, FailsMalformed (next value)) :
    FailsMalformed (given >>= next) := by
  intro error failed
  rcases bind_eq_error_iff.mp failed with unread | ⟨value, -, unread⟩
  · exact first error unread
  · exact later value error unread

end FailsMalformed

namespace Envelope

open FailsMalformed

theorem failsMalformed_ofElement (element : Json) : FailsMalformed (ofElement element) := by
  unfold ofElement
  split
  · exact of_malformed _
  · split
    · split
      · exact of_malformed _
      · split
        · exact of_malformed _
        · exact of_ok _
    · exact of_malformed _

variable (envelope : FieldMap) (identifier : Identifier) (name : String)

theorem failsMalformed_tag : FailsMalformed (tag envelope) := by
  unfold tag
  split
  · exact of_ok _
  · exact of_malformed _
  · exact of_malformed _

theorem failsMalformed_key (tag : Tag) : FailsMalformed (key tag envelope) := by
  unfold key
  split
  · exact of_mapError _ _
  · exact of_malformed _
  · exact of_malformed _

theorem failsMalformed_identifier : FailsMalformed (Envelope.identifier envelope) := by
  refine (failsMalformed_tag envelope).bind fun tag => ?_
  exact (failsMalformed_key envelope tag).bind fun key => of_ok _

theorem failsMalformed_block? : FailsMalformed (block? envelope name) := by
  unfold block?
  split
  · exact of_ok _
  · exact of_ok _
  · split
    · exact of_ok _
    · exact of_malformed _

theorem failsMalformed_requiredBlock : FailsMalformed (requiredBlock envelope name identifier) := by
  refine (failsMalformed_block? envelope name).bind fun block => ?_
  split
  · exact of_ok _
  · exact of_malformed _

theorem failsMalformed_refuseBlock : FailsMalformed (refuseBlock envelope identifier name) := by
  refine (failsMalformed_block? envelope name).bind fun block => ?_
  split
  · exact of_malformed _
  · exact of_ok _

theorem failsMalformed_ofEnvelope : FailsMalformed (Bookkeeping.ofEnvelope envelope) := by
  have txnId : FailsMalformed (Bookkeeping.readTxnId envelope) := by
    unfold Bookkeeping.readTxnId
    split
    · exact of_ok _
    · exact of_ok _
    · exact of_mapError _ _
    · exact of_malformed _
  have lgrSeq : FailsMalformed (Bookkeeping.readLgrSeq envelope) := by
    unfold Bookkeeping.readLgrSeq
    split
    · exact of_ok _
    · exact of_ok _
    · split
      · exact of_ok _
      · exact of_malformed _
  exact txnId.bind fun txnId => lgrSeq.bind fun lgrSeq => of_ok _

end Envelope

end AffectedNodes
