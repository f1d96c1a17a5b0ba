import AffectedNodes.Proofs.Node.Decoding

/-!
# What reaches the schema

The decoder hands records to a schema, which may be any function.  To see the records, the steps of
the decoder are run with a reader that keeps them.  The first record is always complete for the
object of the envelope.  A second one is handed for a modified object only: the first with the
previous values laid over it, and it is complete exactly when these values leave it so, which
nothing makes them do.

So in a decoded node the latest state has the identity of the node, and the state from before has
its tag, but its key only if the previous values do not name another one.
-/
namespace AffectedNodes

/-- The records that were handed to a schema, each with the tag that was asked for, in order. -/
abbrev HandedRecords := List (Tag × FieldMap)

abbrev Handing := ExceptT DecodeError (StateM HandedRecords)

namespace TypedReader

/-- Read a record with the schema and keep that it was handed over. -/
def handSnapshot (schema : TypedReader) (identifier : Identifier) (record : FieldMap) :
    Handing LedgerEntry := do
  modify (· ++ [(identifier.tag, record)])
  schema.readSnapshot identifier record

def handed (schema : TypedReader) (catalog : Catalog) (wrapper : Wrapper) (envelope : FieldMap) :
    HandedRecords :=
  ((decodeNodeBy schema.handSnapshot catalog wrapper envelope).run.run []).2

end TypedReader

namespace Handing

/-- Whatever was handed before, a decoding ends as the plain one does, and the records that it
hands have the property. -/
def Runs (handedHas : HandedRecords → Prop) (program : Handing α) (plain : Except DecodeError α) :
    Prop :=
  ∃ log, handedHas log ∧ ∀ earlier, program.run.run earlier = (plain, earlier ++ log)

variable {handedHas : HandedRecords → Prop} {schema : TypedReader} {identifier : Identifier}
  {record : FieldMap}

theorem runs_pure (value : α) (nothing : handedHas []) :
    Runs handedHas (pure value) (pure value) := by
  refine ⟨[], nothing, ?_⟩
  intro earlier
  rw [List.append_nil]
  rfl

theorem runs_lift_bind {given : Except DecodeError α} {next : α → Handing β}
    {plain : α → Except DecodeError β} (nothing : handedHas [])
    (continued : ∀ value, given = .ok value → Runs handedHas (next value) (plain value)) :
    Runs handedHas (liftM given >>= next) (given >>= plain) := by
  cases given with
  | error error =>
      refine ⟨[], nothing, ?_⟩
      intro earlier
      rw [List.append_nil]
      rfl
  | ok value => exact continued value rfl

theorem runs_hand_bind {next : LedgerEntry → Handing β} {plain : LedgerEntry → Except DecodeError β}
    (stopped : handedHas [(identifier.tag, record)])
    (continued : ∀ entry,
      Runs (fun log => handedHas ((identifier.tag, record) :: log)) (next entry) (plain entry)) :
    Runs handedHas (schema.handSnapshot identifier record >>= next)
      (schema.readSnapshot identifier record >>= plain) := by
  cases read : schema.readSnapshot identifier record with
  | error error =>
      -- what was handed over stays handed over when the schema refuses it
      refine ⟨[(identifier.tag, record)], stopped, ?_⟩
      intro earlier
      simp only [TypedReader.handSnapshot, read]
      rfl
  | ok entry =>
      obtain ⟨log, has, ends⟩ := continued entry
      refine ⟨(identifier.tag, record) :: log, has, ?_⟩
      intro earlier
      have later := ends (earlier ++ [(identifier.tag, record)])
      rw [List.append_assoc] at later
      simp only [TypedReader.handSnapshot, read]
      exact later

theorem runs_map {program : Handing α} {plain : Except DecodeError α} {f : α → β}
    (runs : Runs handedHas program plain) : Runs handedHas (f <$> program) (f <$> plain) := by
  obtain ⟨log, has, ends⟩ := runs
  refine ⟨log, has, ?_⟩
  intro earlier
  rw [ExceptT.run_map, StateT.run_map, ends earlier]
  rfl

theorem runs_bind_pure {program : Handing α} {plain : Except DecodeError α} {f : α → β}
    (runs : Runs handedHas program plain) :
    Runs handedHas (program >>= fun value => pure (f value))
      (plain >>= fun value => pure (f value)) := by
  rw [bind_pure_comp, bind_pure_comp]
  exact runs_map runs

end Handing

/-- The shapes that the handed records can have: nothing, the record of the latest state, or that
record and the one with the previous values of a modified object laid over it. -/
inductive HandedFor (identifier : Identifier) (wrapper : Wrapper) (envelope : FieldMap) :
    HandedRecords → Prop where
  | nothing : HandedFor identifier wrapper envelope []
  | state {record : FieldMap} (complete : Record.IsComplete identifier record) :
      HandedFor identifier wrapper envelope [(identifier.tag, record)]
  | both {record values : FieldMap} (complete : Record.IsComplete identifier record)
      (modified : wrapper = .modified)
      (listing : Envelope.block? envelope previousBlock = .ok (some values)) :
      HandedFor identifier wrapper envelope
        [(identifier.tag, record), (identifier.tag, record.overlay values)]

namespace Handing

variable {schema : TypedReader} {catalog : Catalog} {identifier : Identifier}
  {envelope : FieldMap}

theorem runs_state {wrapper : Wrapper} :
    Runs (HandedFor identifier wrapper envelope)
      (decodeStateBy schema.handSnapshot catalog wrapper identifier envelope)
      (decodeStateBy schema.readSnapshot catalog wrapper identifier envelope) := by
  unfold decodeStateBy
  split
  · apply runs_lift_bind .nothing
    intro block _
    have complete := Record.isComplete_complete block identifier .placeholder
    apply runs_hand_bind (.state complete)
    intro entry
    exact runs_pure _ (.state complete)
  · exact runs_pure _ .nothing

theorem runs_created :
    Runs (HandedFor identifier .created envelope)
      (decodeCreatedBy schema.handSnapshot catalog identifier envelope)
      (decodeCreatedBy schema.readSnapshot catalog identifier envelope) := by
  unfold decodeCreatedBy
  split
  · apply runs_lift_bind .nothing
    intro _ _
    apply runs_lift_bind .nothing
    intro _ _
    exact runs_bind_pure runs_state
  · exact runs_bind_pure runs_state

theorem runs_deleted :
    Runs (HandedFor identifier .deleted envelope)
      (decodeDeletedBy schema.handSnapshot catalog identifier envelope)
      (decodeDeletedBy schema.readSnapshot catalog identifier envelope) :=
  runs_bind_pure runs_state

theorem runs_modified :
    Runs (HandedFor identifier .modified envelope)
      (decodeModifiedBy schema.handSnapshot catalog identifier envelope)
      (decodeModifiedBy schema.readSnapshot catalog identifier envelope) := by
  unfold decodeModifiedBy
  apply runs_lift_bind .nothing
  intro bookkeeping _
  split
  · apply runs_lift_bind .nothing
    intro block _
    have complete := Record.isComplete_complete block identifier bookkeeping
    apply runs_hand_bind (.state complete)
    intro final
    apply runs_lift_bind (.state complete)
    intro delta listing
    cases before : Record.previous? (Record.complete block identifier bookkeeping) delta with
    | none => exact runs_pure _ (.state complete)
    | some record =>
        obtain ⟨values, rfl, _, rfl⟩ := Record.previous?_eq_some_iff.mp before
        apply runs_hand_bind (.both complete rfl listing)
        intro previous
        exact runs_pure _ (.both complete rfl listing)
  · exact runs_pure _ .nothing

theorem runs_node {wrapper : Wrapper}
    (identified : Envelope.identifier envelope = .ok identifier) :
    Runs (HandedFor identifier wrapper envelope)
      (decodeNodeBy schema.handSnapshot catalog wrapper envelope)
      (decodeNodeBy schema.readSnapshot catalog wrapper envelope) := by
  unfold decodeNodeBy
  apply runs_lift_bind .nothing
  intro identifier' identified'
  obtain rfl : identifier = identifier' := Except.ok.inj (identified.symm.trans identified')
  cases wrapper with
  | created => exact runs_map runs_created
  | modified => exact runs_map runs_modified
  | deleted => exact runs_map runs_deleted

end Handing

namespace TypedReader

variable {catalog : Catalog} {wrapper : Wrapper} {envelope : FieldMap} {identifier : Identifier}

theorem handed_of_unidentified (schema : TypedReader) {error : DecodeError}
    (unidentified : Envelope.identifier envelope = .error error) :
    schema.handed catalog wrapper envelope = [] := by
  simp only [handed, decodeNodeBy, unidentified]
  rfl

theorem handedFor (schema : TypedReader)
    (identified : Envelope.identifier envelope = .ok identifier) :
    HandedFor identifier wrapper envelope (schema.handed catalog wrapper envelope) := by
  obtain ⟨log, shape, ends⟩ := Handing.runs_node identified
  rw [handed, ends []]
  exact shape

theorem outcome_handSnapshot (schema : TypedReader) (catalog : Catalog) (wrapper : Wrapper)
    (envelope : FieldMap) :
    ((decodeNodeBy schema.handSnapshot catalog wrapper envelope).run.run []).1 =
      decodeNodeBy schema.readSnapshot catalog wrapper envelope := by
  cases identified : Envelope.identifier envelope with
  | error error =>
      simp only [decodeNodeBy, identified]
      rfl
  | ok identifier =>
      obtain ⟨log, _, ends⟩ := Handing.runs_node identified
      rw [ends []]

end TypedReader

namespace HandedFor

variable {wrapper : Wrapper} {envelope : FieldMap} {identifier : Identifier} {log : HandedRecords}

theorem first_complete (shape : HandedFor identifier wrapper envelope log) :
    ∀ entry ∈ log.take 1, entry.1 = identifier.tag ∧ Record.IsComplete identifier entry.2 := by
  intro entry member
  cases shape with
  | nothing => cases member
  | state complete =>
      obtain rfl := List.mem_singleton.mp member
      exact ⟨rfl, complete⟩
  | both complete =>
      obtain rfl := List.mem_singleton.mp member
      exact ⟨rfl, complete⟩

theorem length_le_one (shape : HandedFor identifier wrapper envelope log)
    (unmodified : wrapper ≠ .modified) : log.length ≤ 1 := by
  cases shape with
  | nothing => exact Nat.zero_le 1
  | state => exact Nat.le_refl 1
  | both _ modified => exact absurd modified unmodified

/-- All records are complete unless the previous values that are laid over one spoil it. -/
theorem all_complete_iff (shape : HandedFor identifier wrapper envelope log) :
    (∀ entry ∈ log, entry.1 = identifier.tag ∧ Record.IsComplete identifier entry.2) ↔
      ∀ values, Envelope.block? envelope previousBlock = .ok (some values) → 1 < log.length →
        Record.LeavesComplete identifier values := by
  cases shape with
  | nothing =>
      constructor
      · intro _ values _ long
        cases long
      · intro _ entry member
        cases member
  | state complete =>
      constructor
      · intro _ values _ long
        exact absurd long (Nat.lt_irrefl 1)
      · intro _ entry member
        obtain rfl := List.mem_singleton.mp member
        exact ⟨rfl, complete⟩
  | both complete _ listing =>
      constructor
      · intro all values listing' _
        cases listing.symm.trans listing'
        have second := all _ (List.mem_cons_of_mem _ (List.mem_singleton.mpr rfl))
        exact (Record.isComplete_overlay_iff complete).mp second.2
      · intro leaves entry member
        rcases List.mem_cons.mp member with rfl | later
        · exact ⟨rfl, complete⟩
        · obtain rfl := List.mem_singleton.mp later
          refine ⟨rfl, (Record.isComplete_overlay_iff complete).mpr ?_⟩
          exact leaves _ listing Nat.one_lt_two

end HandedFor

def Node.snapshots : Node → List LedgerEntry
  | created node => node.newState.toList
  | modified node => node.finalState.toList ++ node.previousState.toList
  | deleted node => node.finalState.toList

namespace Node.DecodedFrom

variable {catalog : Catalog} {envelope : FieldMap} {identifier : Identifier} {node : Node}
  {entry : LedgerEntry}

theorem latestState_identity (way : node.DecodedFrom catalog envelope identifier)
    (latest : node.latestState = some entry) :
    entry.index = identifier.key ∧ entry.tag = identifier.tag := by
  obtain ⟨block, bookkeeping, -, -, read⟩ := way.exists_state latest
  exact (Record.isComplete_complete block identifier bookkeeping).identity read

theorem latestState_of_mem (single : node.snapshots.length ≤ 1)
    (latest : entry ∈ node.snapshots) (way : node.DecodedFrom catalog envelope identifier) :
    node.latestState = some entry := by
  cases way <;> simp_all [snapshots, latestState]

/-- All snapshots have the identity of the node unless the previous values name another key. -/
theorem snapshots_identity_iff (way : node.DecodedFrom catalog envelope identifier) :
    (∀ snapshot ∈ node.snapshots, snapshot.index = identifier.key ∧ snapshot.tag = identifier.tag) ↔
      ∀ values, Envelope.block? envelope previousBlock = .ok (some values) →
        1 < node.snapshots.length → ∀ value, values.get? FieldName.index = some value →
          Format.hash.read value = .ok identifier.key := by
  by_cases single : node.snapshots.length ≤ 1
  · constructor
    · intro _ values _ long
      exact absurd long (Nat.not_lt.mpr single)
    · intro _ snapshot member
      exact way.latestState_identity (latestState_of_mem single member way)
  · cases way with
    | modifiedBoth _ _ _ read listing _ readPrevious =>
        have latest := (Record.isComplete_complete _ _ _).identity read
        have before := (Record.isComplete_complete _ _ _).identity_overlay readPrevious
        constructor
        · intro all values listing' _
          cases listing.symm.trans listing'
          have second := all _ (List.mem_cons_of_mem _ (List.mem_singleton.mpr rfl))
          exact before.2.mp second.1
        · intro keeps snapshot member
          rcases List.mem_cons.mp member with rfl | later
          · exact latest
          · obtain rfl := List.mem_singleton.mp later
            exact ⟨before.2.mpr (keeps _ listing Nat.one_lt_two), before.1⟩
    | _ => exact absurd (by simp [snapshots]) single

end Node.DecodedFrom

/--
What reaches the schema is complete, and the snapshots of a node have its identity, exactly as far
as the previous values leave it so.  Only the record from before a modification can fall short, and
it does so when the previous values name another key or type or take a bookkeeping field away.  The
run that keeps the records decodes as any other does.
-/
theorem TypedReader.completeness_boundary (schema : TypedReader) (catalog : Catalog)
    (wrapper : Wrapper) (envelope : FieldMap) :
    ((decodeNodeBy schema.handSnapshot catalog wrapper envelope).run.run []).1 =
      decodeNodeBy schema.readSnapshot catalog wrapper envelope ∧
    (∀ error, Envelope.identifier envelope = .error error →
      schema.handed catalog wrapper envelope = []) ∧
    ∀ identifier, Envelope.identifier envelope = .ok identifier →
      (∀ entry ∈ (schema.handed catalog wrapper envelope).take 1,
        entry.1 = identifier.tag ∧ Record.IsComplete identifier entry.2) ∧
      (wrapper ≠ .modified → (schema.handed catalog wrapper envelope).length ≤ 1) ∧
      ((∀ entry ∈ schema.handed catalog wrapper envelope,
          entry.1 = identifier.tag ∧ Record.IsComplete identifier entry.2) ↔
        ∀ values, Envelope.block? envelope previousBlock = .ok (some values) →
          1 < (schema.handed catalog wrapper envelope).length →
          Record.LeavesComplete identifier values) ∧
      ∀ node, decodeNode catalog wrapper envelope = .ok node →
        node.identifier = identifier ∧
        (∀ state, node.latestState = some state →
          state.index = identifier.key ∧ state.tag = identifier.tag) ∧
        ((∀ snapshot ∈ node.snapshots,
            snapshot.index = identifier.key ∧ snapshot.tag = identifier.tag) ↔
          ∀ values, Envelope.block? envelope previousBlock = .ok (some values) →
            1 < node.snapshots.length → ∀ value, values.get? FieldName.index = some value →
              Format.hash.read value = .ok identifier.key) := by
  refine ⟨schema.outcome_handSnapshot catalog wrapper envelope,
    fun error unidentified => schema.handed_of_unidentified unidentified, ?_⟩
  intro identifier identified
  have shape : HandedFor identifier wrapper envelope (schema.handed catalog wrapper envelope) :=
    schema.handedFor identified
  refine ⟨shape.first_complete, shape.length_le_one, shape.all_complete_iff, ?_⟩
  intro node decoded
  obtain ⟨identifier', identified', _, way⟩ := decodeNode_eq_ok_iff.mp decoded
  obtain rfl : identifier = identifier' := Except.ok.inj (identified.symm.trans identified')
  exact ⟨way.identifier_eq, fun state latest => way.latestState_identity latest,
    way.snapshots_identity_iff⟩

def Hash.textOf (digit : Char) : String := String.ofList (List.replicate 64 digit)

def Envelope.renamedTicket : FieldMap :=
  .ofList
    [(FieldName.entryType, .string "Ticket"),
      (FieldName.ledgerIndex, .string (Hash.textOf 'A')),
      (Wrapper.modified.stateBlock, .object
        [("Account", .string "rEhxGqkqPPSxQ3P25J66ft5TwpzV14k2de"), ("TicketSequence", .nat 3)]),
      (previousBlock, .object [(FieldName.index, .string (Hash.textOf 'B'))]),
      (FieldName.previousTxnId, .string (Hash.textOf 'C')),
      (FieldName.previousTxnLgrSeq, .nat 7)]

def Identifier.renamedTicket : Identifier := ⟨⟨List.replicate 32 0xAA, rfl⟩, ⟨"Ticket"⟩⟩

/-- The ticket is accepted, but the state from before has the other key. -/
theorem TypedReader.completeness_boundary_renamedTicket :
    Envelope.identifier Envelope.renamedTicket = .ok .renamedTicket ∧
    (¬ ∀ entry ∈ handed LedgerEntry.decode .standard .modified Envelope.renamedTicket,
      entry.1 = Identifier.renamedTicket.tag ∧ Record.IsComplete .renamedTicket entry.2) ∧
    ∃ node, decodeNode .standard .modified Envelope.renamedTicket = .ok node ∧
      ¬ ∀ snapshot ∈ node.snapshots, snapshot.index = Identifier.renamedTicket.key ∧
        snapshot.tag = Identifier.renamedTicket.tag := by
  have identified : Envelope.identifier Envelope.renamedTicket = .ok .renamedTicket := rfl
  have listing : Envelope.block? Envelope.renamedTicket previousBlock =
      .ok (some (.ofList [(FieldName.index, .string (Hash.textOf 'B'))])) := rfl
  have boundary := (completeness_boundary LedgerEntry.decode .standard .modified
    Envelope.renamedTicket).2.2 .renamedTicket identified
  refine ⟨identified, ?_, ?_⟩
  · intro all
    have leaves := boundary.2.2.1.mp all _ listing (by decide +kernel)
    have sameText := Json.string.inj (leaves.index _ rfl)
    exact absurd sameText (by decide)
  · obtain ⟨node, decoded, long⟩ :
        ∃ node, decodeNode .standard .modified Envelope.renamedTicket = .ok node ∧
          1 < node.snapshots.length := ⟨_, rfl, by decide⟩
    refine ⟨node, decoded, ?_⟩
    intro all
    have accepted := (boundary.2.2.2 node decoded).2.2.mp all _ listing long
    have readOther : Format.hash.read (.string (Hash.textOf 'B')) =
        .ok ⟨List.replicate 32 0xBB, rfl⟩ := rfl
    have sameKey := Except.ok.inj (readOther.symm.trans (accepted _ rfl))
    exact absurd sameKey (by decide)

end AffectedNodes
