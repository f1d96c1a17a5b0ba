import AffectedNodes.Proofs.Record.Schema

/-!
# Only declared members are read

An open schema passes over members that it does not know, and each field is looked up under its own
names.  So two records that agree on the declared names are read alike, with the same fault where
there is one.
-/
namespace AffectedNodes

/-- Whether some slot answers to the name. -/
def Slot.anyAnswers (slots : List Slot) (name : String) : Bool :=
  slots.any fun slot => slot.answersTo name

/-- Where the schema is open, members that no slot answers to are without fault. -/
theorem firstFault_filter (slots : List Slot) (seen : List String)
    (entries : List (String × Json)) :
    firstFault slots false seen (entries.filter fun entry => Slot.anyAnswers slots entry.1) =
      firstFault slots false seen entries := by
  induction entries generalizing seen with
  | nil => rfl
  | cons entry rest ih =>
      obtain ⟨name, value⟩ := entry
      rw [List.filter_cons]
      cases answered : Slot.anyAnswers slots name with
      | false =>
          -- no slot is found, and an open schema goes on with the same slots seen
          have unknown : (slots.find? fun slot => slot.answersTo name) = none := by
            rw [List.find?_eq_none]
            exact List.any_eq_false.mp answered
          rw [firstFault]
          simp only [unknown, Bool.false_eq_true, if_false]
          exact ih seen
      | true =>
          simp only [if_true]
          rw [firstFault, firstFault]
          simp only [ih]

theorem firstFault_congr {slots : List Slot} {fields other : FieldMap}
    (agree : ∀ name, Slot.anyAnswers slots name = true → fields.get? name = other.get? name) :
    firstFault slots false [] fields.entries = firstFault slots false [] other.entries := by
  have same := FieldMap.keep_congr agree
  rw [← firstFault_filter, ← firstFault_filter slots [] other.entries]
  exact congrArg (fun kept => firstFault slots false [] kept.entries) same

theorem Field.readFrom_congr {field : Field α} {fields other : FieldMap}
    (agree : ∀ name ∈ field.names, fields.get? name = other.get? name) :
    field.readFrom fields = field.readFrom other := by
  have given : field.given? fields = field.given? other := by
    rw [given?, given?]
    generalize field.names = names at agree
    induction names with
    | nil => rfl
    | cons name rest ih =>
        rw [List.findSome?_cons, List.findSome?_cons, agree name List.mem_cons_self,
          ih fun name member => agree name (List.mem_cons_of_mem _ member)]
  rw [readFrom, readFrom, given]

namespace Layout

variable {layout : Layout σ} {fields other : FieldMap}

def declares (layout : Layout σ) (name : String) : Prop :=
  name ∈ layout.names ∨ name ∈ layout.aliases

theorem declares_of_anyAnswers {name : String}
    (answered : Slot.anyAnswers layout.slots name = true) : layout.declares name := by
  obtain ⟨slot, member, answers⟩ := List.any_eq_true.mp answered
  rcases Slot.answersTo_iff.mp answers with same | aliased
  · exact Or.inl (List.mem_map.mpr ⟨slot, member, same.symm⟩)
  · exact Or.inr (List.mem_flatMap.mpr ⟨slot, member, aliased⟩)

theorem readFields_congr
    (agree : ∀ name, layout.declares name → fields.get? name = other.get? name) :
    layout.readFields fields = layout.readFields other := by
  induction layout with
  | done => rfl
  | field first rest ih =>
      have sameFirst : first.readFrom fields = first.readFrom other := by
        apply Field.readFrom_congr
        intro name member
        apply agree name
        rcases List.mem_cons.mp member with same | aliased
        · exact Or.inl (same ▸ List.mem_cons_self)
        · exact Or.inr (aliases_field first rest ▸ List.mem_append_left _ aliased)
      have sameRest : rest.readFields fields = rest.readFields other := by
        apply ih
        rintro name (named | aliased)
        · exact agree name (Or.inl (List.mem_cons_of_mem _ named))
        · exact agree name (Or.inr (aliases_field first rest ▸ List.mem_append_right _ aliased))
      rw [readFields, readFields, sameFirst, sameRest]

end Layout

/-- With an open schema, records that agree on the declared names are read alike. -/
theorem Schema.readFields_congr {schema : Schema ρ} {fields other : FieldMap}
    (isOpen : schema.closed = false)
    (agree : ∀ name, schema.layout.declares name → fields.get? name = other.get? name) :
    schema.readFields fields = schema.readFields other := by
  have sameFault : firstFault schema.layout.slots false [] fields.entries =
      firstFault schema.layout.slots false [] other.entries :=
    firstFault_congr fun name answered => agree name (Layout.declares_of_anyAnswers answered)
  rw [readFields, readFields, isOpen, sameFault, Layout.readFields_congr agree]

end AffectedNodes
