import AffectedNodes.Proofs.Changes.Delta

/-!
# Reports on snapshots

The two states of a modified object are compared as they are written.  An entry is always written as
an object, with exact fields none of which is null, so the comparison cannot fail, and the report
leads from the one state to the other exactly and not only up to null fields.
-/
namespace AffectedNodes

theorem LedgerEntry.writtenFields_eq_ok (entry : LedgerEntry) :
    entry.writtenFields = .ok entry.fields := by
  rw [writtenFields, toJson, FieldMap.fields?_toJson]

def ModifiedNode.fieldChanges? (node : ModifiedNode) : Option FieldChanges :=
  match node.previousState, node.finalState with
  | some previous, some final => some (FieldChanges.between previous.fields final.fields)
  | _, _ => none

/-- Both states are written without a fault, so what is compared are their fields. -/
theorem ModifiedNode.fieldChanges_eq_ok (node : ModifiedNode) :
    node.fieldChanges = .ok node.fieldChanges? := by
  rw [fieldChanges, fieldChanges?]
  cases node.previousState with
  | none => rfl
  | some previous =>
      cases node.finalState with
      | none => rfl
      | some final =>
          dsimp only
          rw [LedgerEntry.writtenFields_eq_ok, LedgerEntry.writtenFields_eq_ok]
          rfl

theorem ModifiedNode.fieldChanges?_eq_some_iff {node : ModifiedNode} {report : FieldChanges} :
    node.fieldChanges? = some report ↔
      ∃ previous final, node.previousState = some previous ∧ node.finalState = some final ∧
        FieldChanges.between previous.fields final.fields = report := by
  rw [fieldChanges?]
  cases node.previousState with
  | none => simp
  | some previous => cases node.finalState <;> simp

theorem ModifiedNode.fieldChanges?_eq_none_iff {node : ModifiedNode} :
    node.fieldChanges? = none ↔ node.previousState = none ∨ node.finalState = none := by
  rw [fieldChanges?]
  cases node.previousState with
  | none => simp
  | some previous => cases node.finalState <;> simp

namespace FieldChanges

variable {previous final : LedgerEntry}

theorem apply_between_fields (previous final : LedgerEntry) :
    (between previous.fields final.fields).apply previous.fields = final.fields := by
  apply FieldMap.ext_get?
  intro name
  rw [get?_apply_between, LedgerEntry.present?_fields, LedgerEntry.present?_fields]
  cases changed : FieldChange.between? name (previous.fields.get? name)
      (final.fields.get? name) with
  | none =>
      rw [Option.elim_none]
      apply (FieldChange.between?_eq_none_iff ?_).mp changed
      exact fun value held => (LedgerEntry.get?_fields_exact held).2
  | some change => rw [Option.elim_some, FieldChange.after?_of_between? changed]

theorem isEmpty_between_fields_iff :
    (between previous.fields final.fields).isEmpty = true ↔ previous = final := by
  constructor
  · intro unchanged
    have applied := apply_between_fields previous final
    rw [apply, List.isEmpty_iff.mp unchanged, List.foldl_nil] at applied
    exact LedgerEntry.fields_injective applied
  · rintro rfl
    exact isEmpty_between_iff.mpr fun name => Json.sameField_self _

/-- A report on two entries as they are written: empty only if they are equal, and leading from the
one to what decodes to the other. -/
structure LeadsTo (report : FieldChanges) (previous final : LedgerEntry) : Prop where
  empty_iff : report.isEmpty = true ↔ previous = final
  applied : ∃ before after, previous.toJson.fields? = some before ∧
    final.toJson.fields? = some after ∧ report.apply before = after ∧
    LedgerEntry.decode final.tag after = .ok final

theorem leadsTo_between (previous final : LedgerEntry) :
    (between previous.fields final.fields).LeadsTo previous final where
  empty_iff := isEmpty_between_fields_iff
  applied := by
    refine ⟨previous.fields, final.fields, previous.fields.fields?_toJson,
      final.fields.fields?_toJson, ?_, final.decode_fields⟩
    exact apply_between_fields previous final

end FieldChanges

/--
Whatever states a modified object has, of one kind or of two, comparing them does not fail.  There
is no report exactly when a state is missing; any report is empty only if the states are equal, and
its changes turn the earlier state as it is written into the later one, which decodes to that state.
-/
theorem ModifiedNode.fieldChanges_exact (node : ModifiedNode) :
    ∃ changes, node.fieldChanges = .ok changes ∧
      (changes = none ↔ node.previousState = none ∨ node.finalState = none) ∧
      ∀ report, changes = some report →
        ∃ previous final, node.previousState = some previous ∧ node.finalState = some final ∧
          report.LeadsTo previous final := by
  refine ⟨node.fieldChanges?, node.fieldChanges_eq_ok, fieldChanges?_eq_none_iff, ?_⟩
  intro report reported
  obtain ⟨previous, final, hasPrevious, hasFinal, rfl⟩ := fieldChanges?_eq_some_iff.mp reported
  exact ⟨previous, final, hasPrevious, hasFinal, FieldChanges.leadsTo_between previous final⟩

def LedgerEntry.preauthRecord : FieldMap :=
  .ofList
    [("Account", .string "rEhxGqkqPPSxQ3P25J66ft5TwpzV14k2de"),
      ("Authorize", .string "rEhxGqkqPPSxQ3P25J66ft5TwpzV14k2de"),
      (FieldName.entryType, .string "DepositPreauth"),
      (FieldName.previousTxnId, .string Hash.zero.toHex),
      (FieldName.previousTxnLgrSeq, .nat 7),
      (FieldName.index, .string Hash.zero.toHex)]

theorem ModifiedNode.fieldChanges_exact_twoKinds :
    ∃ ticket preauth : LedgerEntry,
      LedgerEntry.decode ⟨"Ticket"⟩ LedgerEntry.ticketRecord = .ok ticket ∧
      LedgerEntry.decode ⟨"DepositPreauth"⟩ LedgerEntry.preauthRecord = .ok preauth ∧
      ∃ report,
        ModifiedNode.fieldChanges ⟨⟨.zero, ⟨"Ticket"⟩⟩, some preauth, some ticket, .placeholder⟩ =
          .ok (some report) ∧
        report.isEmpty = false ∧ report.LeadsTo ticket preauth := by
  obtain ⟨ticket, decodedTicket, isTicket⟩ : ∃ entry,
      LedgerEntry.decode ⟨"Ticket"⟩ LedgerEntry.ticketRecord = .ok entry ∧ entry.kind = .ticket :=
    ⟨_, rfl, rfl⟩
  obtain ⟨preauth, decodedPreauth, isPreauth⟩ : ∃ entry,
      LedgerEntry.decode ⟨"DepositPreauth"⟩ LedgerEntry.preauthRecord = .ok entry ∧
        entry.kind = .depositPreauth := ⟨_, rfl, rfl⟩
  obtain ⟨changes, compared, missing, exact⟩ :=
    fieldChanges_exact ⟨⟨.zero, ⟨"Ticket"⟩⟩, some preauth, some ticket, .placeholder⟩
  cases changes with
  | none => simp at missing
  | some report =>
      obtain ⟨_, _, hasPrevious, hasFinal, leads⟩ := exact report rfl
      cases hasPrevious
      cases hasFinal
      refine ⟨ticket, preauth, decodedTicket, decodedPreauth, report, compared, ?_, leads⟩
      rw [← Bool.not_eq_true, leads.empty_iff]
      rintro rfl
      cases isTicket.symm.trans isPreauth

end AffectedNodes
