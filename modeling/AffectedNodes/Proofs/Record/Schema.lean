import AffectedNodes.Proofs.Record.Layout

/-!
# Faithful schemas

A schema looks for faults member by member and reads the fields afterwards.  On an open schema the
search finds nothing that reading the fields would not find, unless a field is given under an alias,
so a record reads from a map exactly when its row does.  A schema on a faithful layout gives a
faithful format.
-/
namespace AffectedNodes

theorem Slot.answersTo_iff {slot : Slot} {name : String} :
    slot.answersTo name = true ↔ name = slot.name ∨ name ∈ slot.aliases := by
  simp [answersTo]

theorem firstFault_eq_none {slots : List Slot} {seen : List String}
    {entries : List (String × Json)}
    (ordered : entries.Pairwise (fun first second => first.1 < second.1))
    (fits : ∀ entry ∈ entries, ∀ slot ∈ slots, slot.answersTo entry.1 = true →
      slot.name = entry.1 ∧ slot.fault? entry.2 = none)
    (fresh : ∀ entry ∈ entries, entry.1 ∉ seen) : firstFault slots false seen entries = none := by
  induction entries generalizing seen with
  | nil => rfl
  | cons entry rest ih =>
      obtain ⟨name, value⟩ := entry
      have below := (List.pairwise_cons.mp ordered).1
      have restOrdered := (List.pairwise_cons.mp ordered).2
      have restFits := fun entry member => fits entry (List.mem_cons_of_mem _ member)
      have restFresh := fun entry member => fresh entry (List.mem_cons_of_mem _ member)
      rw [firstFault]
      cases found : slots.find? fun slot => slot.answersTo name with
      | none => exact ih restOrdered restFits restFresh
      | some slot =>
          obtain ⟨sameName, fitting⟩ := fits (name, value) List.mem_cons_self slot
            (List.mem_of_find?_eq_some found) (by simpa using List.find?_some found)
          have unseen : slot.name ∉ seen := sameName ▸ fresh (name, value) List.mem_cons_self
          simp only [List.contains_iff_mem, unseen, if_false, fitting]
          apply ih restOrdered restFits
          intro entry member inSeen
          rcases List.mem_cons.mp inSeen with same | earlier
          · have above := below entry member
            rw [same, sameName] at above
            exact String.lt_irrefl name above
          · exact restFresh entry member earlier

namespace Layout

variable {layout : Layout σ} {fields : FieldMap} {row : σ}

theorem Reads.fault?_eq_none {slot : Slot} {value : Json} (reads : layout.Reads fields row)
    (member : slot ∈ layout.slots) (found : fields.get? slot.name = some value) :
    slot.fault? value = none := by
  induction layout with
  | done => cases member
  | field first rest ih =>
      obtain ⟨head, values⟩ := row
      rw [slots] at member
      rcases List.mem_cons.mp member with same | later
      · subst same
        have read := Field.read_of_readFrom reads.1 found
        simp only [read]
      · exact ih reads.2 later

/-- A row that is read without aliases leaves no fault to be found. -/
theorem Reads.firstFault_eq_none (reads : layout.Reads fields row)
    (unaliased : ∀ name ∈ layout.aliases, fields.get? name = none) :
    firstFault layout.slots false [] fields.entries = none := by
  apply AffectedNodes.firstFault_eq_none fields.ordered
  · intro entry member slot slotMember answers
    obtain ⟨name, value⟩ := entry
    have found := FieldMap.get?_eq_some_iff.mpr member
    rcases Slot.answersTo_iff.mp answers with same | aliased
    · exact ⟨same.symm, reads.fault?_eq_none slotMember (same ▸ found)⟩
    · have missing := unaliased name (List.mem_flatMap.mpr ⟨slot, slotMember, aliased⟩)
      cases missing.symm.trans found
  · exact fun _ _ => List.not_mem_nil

end Layout

namespace Schema

def written? (schema : Schema ρ) (record : ρ) (name : String) : Option Json :=
  schema.layout.written? (schema.toRow record) name

/-- An open schema on a faithful layout, whose records are no more and no less than its rows. -/
structure Faithful (schema : Schema ρ) : Prop where
  layout : schema.layout.Faithful
  ofRow_toRow : ∀ record, schema.ofRow (schema.toRow record) = record
  toRow_ofRow : ∀ row, schema.toRow (schema.ofRow row) = row
  isOpen : schema.closed = false

namespace Faithful

variable {schema : Schema ρ} {fields : FieldMap} {record : ρ}

theorem readFields_eq_ok_iff (faithful : schema.Faithful)
    (unaliased : ∀ name ∈ schema.layout.aliases, fields.get? name = none) :
    schema.readFields fields = .ok record ↔
      schema.layout.Reads fields (schema.toRow record) := by
  constructor
  · intro read
    rw [readFields] at read
    split at read
    · cases read
    · obtain ⟨row, readRow, same⟩ := map_eq_ok_iff.mp read
      rw [← same, faithful.toRow_ofRow]
      exact Layout.readFields_eq_ok_iff.mp readRow
  · intro reads
    have readRow := Layout.readFields_eq_ok_iff.mpr reads
    rw [readFields, faithful.isOpen, reads.firstFault_eq_none unaliased, readRow]
    exact congrArg Except.ok (faithful.ofRow_toRow record)

/-- A record reads from the arrays that its row reads from with nothing left over. -/
theorem readItems_eq_ok_iff (faithful : schema.Faithful) {items : List Json} :
    schema.readItems items = .ok record ↔
      schema.layout.readItems schema.name schema.layout.size 0 items =
        .ok (schema.toRow record, []) := by
  rw [readItems]
  constructor
  · intro read
    split at read
    · cases read
    · rename_i row given
      cases read
      rw [given, faithful.toRow_ofRow]
    · cases read
  · intro given
    rw [given]
    exact congrArg Except.ok (faithful.ofRow_toRow record)

theorem readFields_of_written (faithful : schema.Faithful)
    (agree : ∀ name ∈ schema.layout.names, fields.get? name = schema.written? record name)
    (unaliased : ∀ name ∈ schema.layout.aliases, fields.get? name = none) :
    schema.readFields fields = .ok record :=
  (faithful.readFields_eq_ok_iff unaliased).mpr
    (Layout.reads_of_written faithful.layout agree unaliased)

theorem get?_writeFields (faithful : schema.Faithful) (record : ρ) (name : String) :
    (schema.writeFields record).get? name = schema.written? record name :=
  Layout.get?_ofList_write faithful.layout _ name

theorem readFields_writeFields (faithful : schema.Faithful) (record : ρ) :
    schema.readFields (schema.writeFields record) = .ok record := by
  apply faithful.readFields_of_written
  · exact fun name _ => faithful.get?_writeFields record name
  · intro name member
    rw [faithful.get?_writeFields]
    exact faithful.layout.written?_alias member _

theorem membersExact_of_forall {members : List (String × Json)}
    (exact : ∀ member ∈ members, member.2.isExact = true) : Json.membersExact members = true := by
  induction members with
  | nil => rfl
  | cons member rest ih =>
      obtain ⟨name, value⟩ := member
      rw [Json.membersExact, exact (name, value) List.mem_cons_self,
        ih fun member later => exact member (List.mem_cons_of_mem _ later)]
      rfl

theorem format (faithful : schema.Faithful) : schema.format.Faithful where
  lawful record := by
    change schema.readFields (FieldMap.ofList (schema.writeFields record).entries) = .ok record
    rw [FieldMap.ofList_entries, faithful.readFields_writeFields]
  write_ne_null := by simp [Schema.format, FieldMap.toJson]
  write_exact record := by
    apply membersExact_of_forall
    rintro ⟨name, value⟩ member
    have found := FieldMap.get?_eq_some_iff.mpr member
    rw [faithful.get?_writeFields] at found
    exact (faithful.layout.fields.written found).2

end Faithful

end Schema

end AffectedNodes
