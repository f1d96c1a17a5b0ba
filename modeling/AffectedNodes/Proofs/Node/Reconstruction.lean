import AffectedNodes.Proofs.Json.Overlay
import AffectedNodes.Proofs.Node.Record

/-!
# Completing and reconstructing

Completing a block settles four fields and leaves every other one alone, so completing the result
again changes nothing.  A delta may be laid over the block before it is completed or afterwards,
with the same result, exactly when it leaves identity and bookkeeping in place.

Reconstructing one record after another lays the deltas over the last one, of which only those that
are there and name a field do anything.  However many there are, they are as good as one delta.
-/
namespace AffectedNodes.Record

variable {block delta : FieldMap} {identifier : Identifier} {bookkeeping : Bookkeeping}
  {name : String}

/-! ### Completing -/

theorem isSome_get?_complete (completed : name ∈ completedNames) :
    ((complete block identifier bookkeeping).get? name).isSome = true := by
  rcases mem_completedNames_iff.mp completed with rfl | rfl | rfl | rfl
  · rw [get?_complete_index, Option.isSome_some]
  · rw [get?_complete_entryType, Option.isSome_some]
  · rw [get?_complete_previousTxnId, Option.isSome_some]
  · rw [get?_complete_previousTxnLgrSeq, Option.isSome_some]

theorem mem_names_complete_iff :
    name ∈ (complete block identifier bookkeeping).names ↔
      name ∈ block.names ∨ name ∈ completedNames := by
  rw [FieldMap.mem_names_iff]
  by_cases completed : name ∈ completedNames
  · exact iff_of_true (isSome_get?_complete completed) (Or.inr completed)
  · rw [get?_complete_of_not_mem completed, FieldMap.mem_names_iff]
    simp only [completed, or_false]

/-- A field that is filled may be filled before the delta is laid or afterwards, unless the delta
makes it null. -/
theorem get?_overlay_of_filled {record : FieldMap} {fallback : Json}
    (filled : record.get? name = some ((block.present? name).getD fallback))
    (notNull : delta.get? name ≠ some .null) :
    (record.overlay delta).get? name =
      some (((block.overlay delta).present? name).getD fallback) := by
  rw [FieldMap.get?_overlay]
  cases named : delta.get? name with
  | none => rw [FieldMap.present?_overlay_of_silent named, filled, Option.none_or]
  | some value =>
      have given : delta.present? name = some value :=
        FieldMap.present?_eq_some_iff.mpr ⟨named, fun null => notNull (null ▸ named)⟩
      rw [FieldMap.present?_overlay_of_named named, given]
      rfl

theorem overlay_complete (leaves : LeavesComplete identifier delta) (block : FieldMap)
    (bookkeeping : Bookkeeping) :
    (complete block identifier bookkeeping).overlay delta =
      complete (block.overlay delta) identifier bookkeeping := by
  apply FieldMap.ext_get?
  intro name
  by_cases completed : name ∈ completedNames
  · rcases mem_completedNames_iff.mp completed with rfl | rfl | rfl | rfl
    · rw [get?_complete_index]
      exact (get?_overlay_eq_some_iff (get?_complete_index ..)).mpr leaves.index
    · rw [get?_complete_entryType]
      exact (get?_overlay_eq_some_iff (get?_complete_entryType ..)).mpr leaves.entryType
    · rw [get?_complete_previousTxnId]
      exact get?_overlay_of_filled (get?_complete_previousTxnId ..) leaves.previousTxnId
    · rw [get?_complete_previousTxnLgrSeq]
      exact get?_overlay_of_filled (get?_complete_previousTxnLgrSeq ..) leaves.previousTxnLgrSeq
  · rw [FieldMap.get?_overlay, get?_complete_of_not_mem completed,
      get?_complete_of_not_mem completed, FieldMap.get?_overlay]

theorem overlay_complete_iff :
    (complete block identifier bookkeeping).overlay delta =
        complete (block.overlay delta) identifier bookkeeping ↔
      LeavesComplete identifier delta := by
  constructor
  · intro same
    have complete := isComplete_complete (block.overlay delta) identifier bookkeeping
    rw [← same] at complete
    exact (isComplete_overlay_iff (isComplete_complete ..)).mp complete
  · exact fun leaves => overlay_complete leaves block bookkeeping

theorem leavesComplete_of_not_mem (noIndex : FieldName.index ∉ delta.names)
    (noType : FieldName.entryType ∉ delta.names)
    (txnId : delta.get? FieldName.previousTxnId ≠ some .null)
    (lgrSeq : delta.get? FieldName.previousTxnLgrSeq ≠ some .null) :
    LeavesComplete identifier delta where
  index _ named := absurd (FieldMap.mem_names_iff.mpr (named ▸ rfl)) noIndex
  entryType _ named := absurd (FieldMap.mem_names_iff.mpr (named ▸ rfl)) noType
  previousTxnId := txnId
  previousTxnLgrSeq := lgrSeq

theorem previous?_complete (leaves : LeavesComplete identifier delta) (block : FieldMap)
    (bookkeeping : Bookkeeping) :
    previous? (complete block identifier bookkeeping) (some delta) =
      (previous? block (some delta)).map fun previous =>
        complete previous identifier bookkeeping := by
  rw [previous?, previous?, overlay_complete leaves]
  cases delta.isEmpty <;> rfl

/--
Completing a block a second time for the same object changes nothing, whatever bookkeeping is filled
in.  Every field but the four that are set stays as it is, null included, and no field but these is
added.  Laying a delta over the block commutes with completing exactly when the delta leaves the
record complete, as it does when it names no identity and makes no bookkeeping null, and then
reconstructing before completing is reconstructing afterwards.
-/
theorem complete_absorption (block : FieldMap) (identifier : Identifier)
    (bookkeeping other : Bookkeeping) (delta : FieldMap) :
    complete (complete block identifier bookkeeping) identifier other =
        complete block identifier bookkeeping ∧
    (∀ name, name ∉ completedNames →
      (complete block identifier bookkeeping).get? name = block.get? name) ∧
    (∀ name, name ∈ (complete block identifier bookkeeping).names ↔
      name ∈ block.names ∨ name ∈ completedNames) ∧
    ((complete block identifier bookkeeping).overlay delta =
        complete (block.overlay delta) identifier bookkeeping ↔
      LeavesComplete identifier delta) ∧
    (FieldName.index ∉ delta.names → FieldName.entryType ∉ delta.names →
      delta.get? FieldName.previousTxnId ≠ some .null →
      delta.get? FieldName.previousTxnLgrSeq ≠ some .null →
      (complete block identifier bookkeeping).overlay delta =
          complete (block.overlay delta) identifier bookkeeping ∧
        previous? (complete block identifier bookkeeping) (some delta) =
          (previous? block (some delta)).map fun previous =>
            complete previous identifier bookkeeping) := by
  refine ⟨?_, fun _ => get?_complete_of_not_mem, fun _ => mem_names_complete_iff,
    overlay_complete_iff, ?_⟩
  · exact (isComplete_complete block identifier bookkeeping).complete_eq other
  · intro noIndex noType txnId lgrSeq
    have leaves : LeavesComplete identifier delta :=
      leavesComplete_of_not_mem noIndex noType txnId lgrSeq
    exact ⟨overlay_complete leaves block bookkeeping, previous?_complete leaves block bookkeeping⟩

def nullsBlock : FieldMap :=
  .ofList [("Memo", .null), (FieldName.previousTxnLgrSeq, .null), ("Sequence", .nat 8)]

def sequenceDelta : FieldMap :=
  .ofList [(FieldName.previousTxnLgrSeq, .nat 5), ("Sequence", .nat 7)]

theorem complete_absorption_sequence :
    (complete nullsBlock ⟨.zero, ⟨"Offer"⟩⟩ .placeholder).overlay sequenceDelta =
      complete (nullsBlock.overlay sequenceDelta) ⟨.zero, ⟨"Offer"⟩⟩ .placeholder ∧
    (complete nullsBlock ⟨.zero, ⟨"Offer"⟩⟩ .placeholder).get? "Memo" = some .null ∧
    (complete nullsBlock ⟨.zero, ⟨"Offer"⟩⟩ .placeholder).overlay
        (sequenceDelta.insert FieldName.previousTxnLgrSeq .null) ≠
      complete (nullsBlock.overlay (sequenceDelta.insert FieldName.previousTxnLgrSeq .null))
        ⟨.zero, ⟨"Offer"⟩⟩ .placeholder := by
  refine ⟨?_, ?_, ?_⟩
  · obtain ⟨-, -, -, -, commutes⟩ :=
      complete_absorption nullsBlock ⟨.zero, ⟨"Offer"⟩⟩ .placeholder .placeholder sequenceDelta
    have txnId : sequenceDelta.get? FieldName.previousTxnId = none := rfl
    have lgrSeq : sequenceDelta.get? FieldName.previousTxnLgrSeq = some (.nat 5) := rfl
    exact (commutes (by decide) (by decide) (txnId ▸ nofun) (lgrSeq ▸ nofun)).1
  · obtain ⟨-, kept, -⟩ :=
      complete_absorption nullsBlock ⟨.zero, ⟨"Offer"⟩⟩ .placeholder .placeholder sequenceDelta
    exact (kept "Memo" (by decide)).trans rfl
  · obtain ⟨-, -, -, exact_iff, -⟩ :=
      complete_absorption nullsBlock ⟨.zero, ⟨"Offer"⟩⟩ .placeholder .placeholder
        (sequenceDelta.insert FieldName.previousTxnLgrSeq .null)
    intro same
    exact (exact_iff.mp same).previousTxnLgrSeq rfl

/-! ### One record after another -/

/-- The record after steps of which each lays a delta over the one before it; where nothing is
reconstructed the record stays. -/
def rewind (final : FieldMap) (steps : List (Option FieldMap)) : FieldMap :=
  steps.foldl (fun record step => (previous? record step).getD record) final

theorem getD_previous? (final : FieldMap) (step : Option FieldMap) :
    (previous? final step).getD final = final.overlayAll step.toList := by
  cases step with
  | none => rfl
  | some delta =>
      rw [previous?]
      split
      · rename_i empty
        rw [FieldMap.isEmpty_iff.mp empty]
        rfl
      · rfl

/-- All steps together lay over the record the deltas that are there. -/
theorem rewind_eq_overlayAll (final : FieldMap) (steps : List (Option FieldMap)) :
    rewind final steps = final.overlayAll (steps.flatMap Option.toList) := by
  induction steps generalizing final with
  | nil => rfl
  | cons step rest ih =>
      change rewind ((previous? final step).getD final) rest = _
      rw [ih, getD_previous?, List.flatMap_cons, FieldMap.overlayAll_append]

theorem previous?_eq_some_iff_overlay {final previous : FieldMap} {step : Option FieldMap} :
    previous? final step = some previous ↔
      ∃ delta, step = some delta ∧ delta ≠ .empty ∧ previous = final.overlay delta := by
  rw [previous?_eq_some_iff]
  apply exists_congr
  intro delta
  rw [← Bool.not_eq_true, FieldMap.isEmpty_iff, eq_comm (a := final.overlay delta)]

/--
Deltas laid over a record one after another are as good as the one merged from them.  A field has
the value of the last delta that names it, or else that of the record, and there is no field that
neither has.  The same delta twice in a row is as good as once.  Two deltas commute exactly when
they agree on the fields that both name, by equality as by the equality of JSON values, and then
also among others; deltas that all agree may be laid in any order.  A step reconstructs a record
exactly when it has a delta that is not empty, by laying it over the record, and the steps together
lay the deltas that are there.
-/
theorem overlayAll_collapse (base : FieldMap) (deltas : List FieldMap) :
    base.overlayAll deltas = base.overlay (.merged deltas) ∧
    (∀ name value, (base.overlayAll deltas).get? name = some value ↔
      FieldMap.LastGives deltas name value ∨
        (∀ delta ∈ deltas, delta.get? name = none) ∧ base.get? name = some value) ∧
    (∀ name, name ∈ (base.overlayAll deltas).names ↔
      name ∈ base.names ∨ ∃ delta ∈ deltas, name ∈ delta.names) ∧
    (∀ before delta after, base.overlayAll (before ++ delta :: delta :: after) =
      base.overlayAll (before ++ delta :: after)) ∧
    (∀ first second,
      ((base.overlay first).overlay second = (base.overlay second).overlay first ↔
        FieldMap.AgreeBy Eq first second) ∧
      (((base.overlay first).overlay second).same ((base.overlay second).overlay first) = true ↔
        FieldMap.AgreeBy FieldMap.SameValue first second) ∧
      (FieldMap.AgreeBy Eq first second → ∀ before after,
        base.overlayAll (before ++ first :: second :: after) =
          base.overlayAll (before ++ second :: first :: after)) ∧
      (FieldMap.AgreeBy FieldMap.SameValue first second → ∀ before after,
        (base.overlayAll (before ++ first :: second :: after)).same
          (base.overlayAll (before ++ second :: first :: after)) = true)) ∧
    (∀ arranged, deltas.Perm arranged →
      (∀ first ∈ deltas, ∀ second ∈ deltas, FieldMap.AgreeBy Eq first second) →
      base.overlayAll deltas = base.overlayAll arranged) ∧
    (∀ final step previous, previous? final step = some previous ↔
      ∃ delta, step = some delta ∧ delta ≠ .empty ∧ previous = final.overlay delta) ∧
    (∀ steps, rewind base steps = base.overlay (.merged (steps.flatMap Option.toList))) := by
  refine ⟨base.overlayAll_eq_overlay_merged deltas, fun _ _ => FieldMap.get?_overlayAll_eq_some_iff,
    fun _ => FieldMap.mem_names_overlayAll_iff, ?_, ?_, ?_, fun _ _ _ =>
    previous?_eq_some_iff_overlay, ?_⟩
  · intro before delta after
    rw [FieldMap.overlayAll_append, FieldMap.overlayAll_append, FieldMap.overlayAll_cons,
      FieldMap.overlayAll_cons, FieldMap.overlay_overlay_self, FieldMap.overlayAll_cons]
  · intro first second
    refine ⟨?_, ?_, ?_, ?_⟩
    · rw [← FieldMap.matches_eq_iff, FieldMap.matches_overlay_comm_iff]
    · rw [← FieldMap.matches_sameValue_iff, FieldMap.matches_overlay_comm_iff]
    · intro agree before after
      exact FieldMap.matches_eq_iff.mp (FieldMap.matches_overlayAll_swap agree base before after)
    · intro agree before after
      exact FieldMap.matches_sameValue_iff.mp
        (FieldMap.matches_overlayAll_swap agree base before after)
  · intro arranged perm agree
    apply perm.foldl_eq'
    intro first listed second alsoListed record
    exact FieldMap.matches_eq_iff.mp
      (FieldMap.matches_overlay_comm_iff.mpr (agree first listed second alsoListed))
  · intro steps
    rw [rewind_eq_overlayAll, FieldMap.overlayAll_eq_overlay_merged]

def balanceDelta (balance : String) : FieldMap := .ofList [("Balance", .string balance)]

def memoDelta : FieldMap := .ofList [("Memo", .null)]

theorem overlayAll_collapse_balance :
    FieldMap.AgreeBy Eq (balanceDelta "2") memoDelta ∧
    FieldMap.empty.overlayAll [balanceDelta "1", balanceDelta "2", memoDelta] =
      FieldMap.empty.overlayAll [balanceDelta "1", memoDelta, balanceDelta "2"] ∧
    (FieldMap.empty.overlayAll [balanceDelta "1", balanceDelta "2", memoDelta]).get? "Balance" =
      some (.string "2") ∧
    (FieldMap.empty.overlay (balanceDelta "1")).overlay (balanceDelta "2") ≠
      (FieldMap.empty.overlay (balanceDelta "2")).overlay (balanceDelta "1") := by
  obtain ⟨-, found, -, -, commute, -⟩ :=
    overlayAll_collapse .empty [balanceDelta "1", balanceDelta "2", memoDelta]
  have agree : FieldMap.AgreeBy Eq (balanceDelta "2") memoDelta := by
    intro name value other balance memo
    have atBalance := FieldMap.mem_of_get?_ofList balance
    have atMemo := FieldMap.mem_of_get?_ofList memo
    simp only [List.mem_singleton, Prod.mk.injEq] at atBalance atMemo
    exact absurd (atBalance.1.symm.trans atMemo.1) (by decide)
  refine ⟨agree, ?_, ?_, ?_⟩
  · exact (commute (balanceDelta "2") memoDelta).2.2.1 agree [balanceDelta "1"] []
  · refine (found "Balance" (.string "2")).mpr (Or.inl ⟨[balanceDelta "1"], balanceDelta "2",
      [memoDelta], rfl, rfl, ?_⟩)
    intro later listed
    rw [List.mem_singleton.mp listed]
    rfl
  · intro same
    have agreeing := (commute (balanceDelta "1") (balanceDelta "2")).1.mp same
    have equal := agreeing "Balance" (.string "1") (.string "2") rfl rfl
    exact absurd (Json.string.inj equal) (by decide)

end AffectedNodes.Record
