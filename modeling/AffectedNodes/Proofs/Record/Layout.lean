import AffectedNodes.Proofs.Record.Field

/-!
# Layouts read and written field by field

A record is read one field at a time, each field from its own names, and written the same way.
`Layout.Reads` says which row the fields of a record give, and `Layout.written?` what a row writes
under a name.  On a faithful layout the two are inverse to each other: a map that agrees with what a
row writes gives that row, and rows that write the same are equal.

Where no field has a second name, what is written under a name depends on nothing but the value
that was read under that name.
-/
namespace AffectedNodes

namespace Layout

def names (layout : Layout σ) : List String := layout.slots.map (·.name)

def aliases (layout : Layout σ) : List String := layout.slots.flatMap (·.aliases)

def optionalNames : Layout σ → List String
  | done => []
  | field first rest =>
      if first.isOptional then first.name :: rest.optionalNames else rest.optionalNames

/-- The row that the fields of a record give, each field read from its own names. -/
def Reads : Layout σ → FieldMap → σ → Prop
  | done, _, () => True
  | field first rest, fields, (value, values) =>
      first.readFrom fields = .ok value ∧ rest.Reads fields values

/-- What a row writes under a name. -/
def written? : Layout σ → σ → String → Option Json
  | done, (), _ => none
  | field first rest, (value, values), name =>
      if name = first.name then first.write value else rest.written? values name

/-- The row `base` with every value of `upper` that is written laid over it. -/
def layOver : Layout σ → σ → σ → σ
  | done, (), () => ()
  | field first rest, (value, values), (upper, uppers) =>
      (if (first.write upper).isSome then upper else value, rest.layOver values uppers)

inductive Holds (wanted : Field α) (held : α) : {σ : Type} → Layout σ → σ → Prop where
  | here {rest : Layout σ} {values : σ} : Holds wanted held (field wanted rest) (held, values)
  | there {first : Field β} {value : β} {rest : Layout σ} {values : σ}
      (later : Holds wanted held rest values) : Holds wanted held (field first rest) (value, values)

def FieldsFaithful : Layout σ → Prop
  | done => True
  | field first rest => first.Faithful ∧ rest.FieldsFaithful

structure Faithful (layout : Layout σ) : Prop where
  fields : layout.FieldsFaithful
  distinct : (layout.names ++ layout.aliases).Nodup

@[simp] theorem names_done : done.names = [] := rfl

@[simp] theorem names_field (first : Field α) (rest : Layout σ) :
    (field first rest).names = first.name :: rest.names := rfl

@[simp] theorem aliases_done : done.aliases = [] := rfl

@[simp] theorem aliases_field (first : Field α) (rest : Layout σ) :
    (field first rest).aliases = first.aliases ++ rest.aliases := by
  simp [aliases, slots]

@[simp] theorem fieldsFaithful_done : done.FieldsFaithful := trivial

@[simp] theorem fieldsFaithful_field (first : Field α) (rest : Layout σ) :
    (field first rest).FieldsFaithful ↔ first.Faithful ∧ rest.FieldsFaithful := Iff.rfl

namespace Faithful

variable {first : Field α} {rest : Layout σ}

theorem tail (faithful : (field first rest).Faithful) : rest.Faithful where
  fields := faithful.fields.2
  distinct := by
    have distinct := faithful.distinct
    rw [names_field, aliases_field] at distinct
    refine distinct.sublist ?_
    exact (List.Sublist.append (List.sublist_cons_self _ _) (List.sublist_append_right _ _))

theorem name_not_mem (faithful : (field first rest).Faithful) : first.name ∉ rest.names := by
  have distinct := faithful.distinct
  rw [names_field, List.cons_append, List.nodup_cons] at distinct
  exact fun member => distinct.1 (List.mem_append_left _ member)

end Faithful

variable {layout : Layout σ} {fields fields' : FieldMap} {row row' : σ} {name : String}

theorem readFields_eq_ok_iff : layout.readFields fields = .ok row ↔ layout.Reads fields row := by
  induction layout with
  | done => simp [readFields, Reads]
  | field first rest ih =>
      obtain ⟨value, values⟩ := row
      rw [Reads, ← ih, readFields, bind_eq_ok_iff]
      constructor
      · rintro ⟨value', read, later⟩
        obtain ⟨values', readRest, same⟩ := bind_eq_ok_iff.mp later
        cases same
        exact ⟨read, readRest⟩
      · rintro ⟨read, readRest⟩
        exact ⟨value, read, bind_eq_ok_iff.mpr ⟨values, readRest, rfl⟩⟩

/-- Given in order, the first value is read by the first field, if that field must be given, and the
others by the rest. -/
theorem readItems_eq_ok_iff_of_needed {first : Field α} {rest : Layout σ} {record : String}
    {total position : Nat} {items left : List Json} {value : α} {values : σ}
    (needed : first.absent = none) :
    (field first rest).readItems record total position items = .ok ((value, values), left) ↔
      ∃ item others, items = item :: others ∧ first.read item = .ok value ∧
        rest.readItems record total (position + 1) others = .ok (values, left) := by
  cases items with
  | nil =>
      rw [readItems, needed]
      exact iff_of_false nofun nofun
  | cons item others =>
      rw [readItems, bind_eq_ok_iff]
      constructor
      · rintro ⟨value', read, later⟩
        obtain ⟨⟨values', left'⟩, readRest, same⟩ := bind_eq_ok_iff.mp later
        cases same
        exact ⟨item, others, rfl, read, readRest⟩
      · rintro ⟨_, _, same, read, readRest⟩
        cases same
        exact ⟨value, read, bind_eq_ok_iff.mpr ⟨(values, left), readRest, rfl⟩⟩

theorem Reads.unique (reads : layout.Reads fields row) (reads' : layout.Reads fields row') :
    row = row' := by
  have same := (readFields_eq_ok_iff.mpr reads).symm.trans (readFields_eq_ok_iff.mpr reads')
  exact Except.ok.inj same

theorem Reads.readFrom {wanted : Field α} {held : α} (reads : layout.Reads fields row)
    (holds : Holds wanted held layout row) : wanted.readFrom fields = .ok held := by
  induction holds with
  | here => exact reads.1
  | there _ ih => exact ih reads.2

theorem written?_eq_none_of_not_mem (absent : name ∉ layout.names) :
    layout.written? row name = none := by
  induction layout with
  | done => rfl
  | field first rest ih =>
      obtain ⟨value, values⟩ := row
      rw [names_field, List.mem_cons, not_or] at absent
      rw [written?, if_neg absent.1]
      exact ih absent.2

theorem Holds.name_mem {wanted : Field α} {held : α} (holds : Holds wanted held layout row) :
    wanted.name ∈ layout.names := by
  induction holds with
  | here => exact List.mem_cons_self
  | there _ ih => exact List.mem_cons_of_mem _ ih

theorem Holds.written? {wanted : Field α} {held : α} (holds : Holds wanted held layout row)
    (faithful : layout.Faithful) : layout.written? row wanted.name = wanted.write held := by
  induction holds with
  | here => exact if_pos rfl
  | @there _ _ first _ _ _ later ih =>
      have notFirst : wanted.name ≠ first.name := fun same =>
        faithful.name_not_mem (same ▸ later.name_mem)
      rw [Layout.written?, if_neg notFirst]
      exact ih faithful.tail

theorem get?_ofList_write (faithful : layout.Faithful) (row : σ) (name : String) :
    (FieldMap.ofList (layout.write row)).get? name = layout.written? row name := by
  induction layout with
  | done => rfl
  | field first rest ih =>
      obtain ⟨value, values⟩ := row
      have restWritten := ih faithful.tail values
      rw [write, written?]
      by_cases same : name = first.name
      · subst same
        have notLater : rest.written? values first.name = none :=
          written?_eq_none_of_not_mem faithful.name_not_mem
        cases written : first.write value with
        | none => simp [restWritten, notLater]
        | some json => simp [FieldMap.get?_ofList_cons, restWritten, notLater]
      · cases written : first.write value with
        | none => simp [restWritten, same]
        | some json => simp [FieldMap.get?_ofList_cons, restWritten, same]

/-- A map that agrees with what a row writes, and has nothing under an alias, gives that row. -/
theorem reads_of_written (faithful : layout.Faithful)
    (agree : ∀ name ∈ layout.names, fields.get? name = layout.written? row name)
    (unaliased : ∀ name ∈ layout.aliases, fields.get? name = none) : layout.Reads fields row := by
  induction layout with
  | done => trivial
  | field first rest ih =>
      obtain ⟨value, values⟩ := row
      rw [aliases_field] at unaliased
      constructor
      · apply Field.readFrom_of_written faithful.fields.1
        · rw [agree first.name List.mem_cons_self, written?, if_pos rfl]
        · exact fun name member => unaliased name (List.mem_append_left _ member)
      · apply ih faithful.tail
        · intro name member
          have notFirst : name ≠ first.name := fun same => faithful.name_not_mem (same ▸ member)
          rw [agree name (List.mem_cons_of_mem _ member), written?, if_neg notFirst]
        · exact fun name member => unaliased name (List.mem_append_right _ member)

theorem Faithful.written?_alias (faithful : layout.Faithful) (member : name ∈ layout.aliases)
    (row : σ) : layout.written? row name = none := by
  apply written?_eq_none_of_not_mem
  intro named
  exact (List.nodup_append.mp faithful.distinct).2.2 name named name member rfl

theorem written?_layOver (layout : Layout σ) (base upper : σ) (name : String) :
    layout.written? (layout.layOver base upper) name =
      (layout.written? upper name).or (layout.written? base name) := by
  induction layout with
  | done => rfl
  | field first rest ih =>
      obtain ⟨value, values⟩ := base
      obtain ⟨upper, uppers⟩ := upper
      rw [layOver, written?, written?, written?]
      by_cases same : name = first.name
      · rw [if_pos same, if_pos same, if_pos same]
        cases written : first.write upper with
        | none => simp
        | some json => simp [written]
      · rw [if_neg same, if_neg same, if_neg same, ih values uppers]

theorem FieldsFaithful.written {json : Json} (faithful : layout.FieldsFaithful)
    (written : layout.written? row name = some json) : json ≠ .null ∧ json.isExact = true := by
  induction layout with
  | done => cases written
  | field first rest ih =>
      obtain ⟨value, values⟩ := row
      rw [written?] at written
      split at written
      · exact ⟨faithful.1.write_ne_null written, faithful.1.write_exact written⟩
      · exact ih faithful.2 written

theorem Reads.of_unwritten (reads : layout.Reads fields row) (faithful : layout.FieldsFaithful)
    (member : name ∈ layout.names) (unwritten : layout.written? row name = none) :
    (fields.get? name = none ∨ fields.get? name = some .null) ∧ name ∈ layout.optionalNames := by
  induction layout with
  | done => cases member
  | field first rest ih =>
      obtain ⟨value, values⟩ := row
      rw [written?] at unwritten
      rw [optionalNames]
      split at unwritten
      · rename_i same
        subst same
        rw [if_pos (faithful.1.optional_of_unwritten unwritten)]
        refine ⟨?_, List.mem_cons_self⟩
        cases found : fields.get? first.name with
        | none => exact Or.inl rfl
        | some json =>
            have read := Field.read_of_readFrom reads.1 found
            rw [faithful.1.null_of_unwritten unwritten read]
            exact Or.inr rfl
      · rename_i different
        have later : name ∈ rest.names := by
          rcases List.mem_cons.mp member with same | later
          · exact absurd same different
          · exact later
        have inner := ih reads.2 faithful.2 later unwritten
        refine ⟨inner.1, ?_⟩
        split
        · exact List.mem_cons_of_mem _ inner.2
        · exact inner.2

/-- What is written under a name depends only on the value that was read under it. -/
theorem Reads.written?_congr (unaliased : layout.aliases = []) (reads : layout.Reads fields row)
    (reads' : layout.Reads fields' row') (agree : fields.get? name = fields'.get? name) :
    layout.written? row name = layout.written? row' name := by
  induction layout with
  | done => rfl
  | field first rest ih =>
      obtain ⟨value, values⟩ := row
      obtain ⟨value', values'⟩ := row'
      rw [aliases_field, List.append_eq_nil_iff] at unaliased
      rw [written?, written?]
      by_cases same : name = first.name
      · subst same
        have read := reads.1
        have read' := reads'.1
        rw [Field.readFrom, Field.given?_of_aliases_eq_nil unaliased.1] at read read'
        rw [agree] at read
        rw [if_pos rfl, if_pos rfl, Except.ok.inj (read.symm.trans read')]
      · rw [if_neg same, if_neg same]
        exact ih unaliased.2 reads.2 reads'.2

end Layout

end AffectedNodes
