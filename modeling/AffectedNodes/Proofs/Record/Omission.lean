import AffectedNodes.Proofs.Record.Schema

/-!
# Fields that are left out of a record

A field that is missing is either a fault, or has a value: the default of the field, or none at all.
A value that may be missing has a stand-in, which is null for a field without a value and otherwise
what the default is written as.  Two records of which one has stand-ins where the other has nothing
are read alike, with the same fault where there is one, because a stand-in is never the first fault
and every other member is looked at as before.
-/
namespace AffectedNodes

/-- What it means that a field is missing. -/
inductive Omission where
  | refused
  | default (written : Json)
  | null

/-- The value that does as well as none, if the field may be missing. -/
def Omission.standIn? : Omission → Option Json
  | refused => none
  | default written => some written
  | null => some .null

namespace Format

def RefusesNull (format : Format α) : Prop := ∃ fault, format.read .null = .error fault

@[simp] theorem refusesNull_text : text.RefusesNull := ⟨_, rfl⟩

@[simp] theorem refusesNull_hash : hash.RefusesNull := ⟨_, rfl⟩

@[simp] theorem refusesNull_address : address.RefusesNull := ⟨_, rfl⟩

@[simp] theorem refusesNull_drops : drops.RefusesNull := ⟨_, rfl⟩

@[simp] theorem refusesNull_word16 : word16.RefusesNull := ⟨_, rfl⟩

@[simp] theorem refusesNull_word32 : word32.RefusesNull := ⟨_, rfl⟩

@[simp] theorem refusesNull_sequence : sequence.RefusesNull := ⟨_, rfl⟩

@[simp] theorem refusesNull_list (format : Format α) : format.list.RefusesNull := ⟨_, rfl⟩

@[simp] theorem refusesNull_schema (schema : Schema ρ) : schema.format.RefusesNull := ⟨_, rfl⟩

end Format

namespace Field

def omission (field : Field α) : Omission :=
  match field.absent with
  | none => .refused
  | some value => (field.write value).elim .null .default

@[simp] theorem omission_required (name : String) (format : Format α) (aliases : List String) :
    (required name format aliases).omission = .refused := rfl

@[simp] theorem omission_defaulted (name : String) (format : Format α) (default : α)
    (aliases : List String) :
    (defaulted name format default aliases).omission = .default (format.write default) := rfl

@[simp] theorem omission_optional (name : String) (format : Format α) :
    (optional name format).omission = .null := rfl

/-- The stand-in of a field reads as the value of a missing one, and null is read only if it is the
stand-in. -/
structure Omits (field : Field α) : Prop where
  read_standIn : ∀ {json}, field.omission.standIn? = some json →
    ∃ value, field.absent = some value ∧ field.read json = .ok value
  eq_null_of_read : ∀ {value}, field.read .null = .ok value → field.omission = .null

@[simp] theorem omits_required (name : String) {format : Format α} (refuses : format.RefusesNull)
    (aliases : List String) : (required name format aliases).Omits where
  read_standIn standIn := by cases standIn
  eq_null_of_read read := by
    obtain ⟨fault, unread⟩ := refuses
    cases unread.symm.trans read

@[simp] theorem omits_defaulted (name : String) {format : Format α} (lawful : format.Lawful)
    (refuses : format.RefusesNull) (default : α) (aliases : List String) :
    (defaulted name format default aliases).Omits where
  read_standIn standIn := by
    cases standIn
    exact ⟨default, rfl, lawful default⟩
  eq_null_of_read read := by
    obtain ⟨fault, unread⟩ := refuses
    cases unread.symm.trans read

@[simp] theorem omits_optional (name : String) (format : Format α) :
    (optional name format).Omits where
  read_standIn standIn := by
    cases standIn
    exact ⟨none, rfl, rfl⟩
  eq_null_of_read _ := rfl

end Field

/-! ### The first fault by look-ups -/

namespace FieldMap

theorem findSome?_filter_isSome (f : String × Json → Option β) (entries : List (String × Json)) :
    (entries.filter fun entry => (f entry).isSome).findSome? f = entries.findSome? f := by
  induction entries with
  | nil => rfl
  | cons entry rest ih =>
      rw [List.findSome?_cons, List.filter_cons]
      cases given : f entry with
      | none => exact ih
      | some result => simp [given]

theorem findSome?_congr {f : String × Json → Option β} {fields other : FieldMap}
    (agree : ∀ name, (fields.get? name).filter (fun value => (f (name, value)).isSome) =
      (other.get? name).filter fun value => (f (name, value)).isSome) :
    fields.entries.findSome? f = other.entries.findSome? f := by
  have same : (fields.select fun entry => (f entry).isSome) =
      other.select fun entry => (f entry).isSome := by
    apply ext_get?
    intro name
    rw [get?_select, get?_select, agree name]
  rw [← findSome?_filter_isSome, ← findSome?_filter_isSome f other.entries]
  exact congrArg (fun selected => selected.entries.findSome? f) same

end FieldMap

def Slot.faultAmong? (slots : List Slot) (member : String × Json) : Option ReadFault :=
  (slots.find? fun slot => slot.answersTo member.1).bind fun slot => slot.fault? member.2

/-- Where slots have one name each, no member is given twice, and the first fault is that of the
first member with a fault. -/
theorem firstFault_eq_findSome? {slots : List Slot} {seen : List String}
    {entries : List (String × Json)} (unaliased : ∀ slot ∈ slots, slot.aliases = [])
    (ordered : entries.Pairwise (fun first second => first.1 < second.1))
    (fresh : ∀ entry ∈ entries, entry.1 ∉ seen) :
    firstFault slots false seen entries = entries.findSome? (Slot.faultAmong? slots) := by
  induction entries generalizing seen with
  | nil => rfl
  | cons entry rest ih =>
      obtain ⟨name, value⟩ := entry
      obtain ⟨below, restOrdered⟩ := List.pairwise_cons.mp ordered
      have restFresh := fun entry member => fresh entry (List.mem_cons_of_mem _ member)
      rw [firstFault, List.findSome?_cons, Slot.faultAmong?]
      cases found : slots.find? fun slot => slot.answersTo name with
      | none => exact ih restOrdered restFresh
      | some slot =>
          have sameName : name = slot.name := by
            have answers : slot.answersTo name = true := by simpa using List.find?_some found
            rcases Slot.answersTo_iff.mp answers with same | aliased
            · exact same
            · rw [unaliased slot (List.mem_of_find?_eq_some found)] at aliased
              cases aliased
          have unseen : slot.name ∉ seen := sameName ▸ fresh (name, value) List.mem_cons_self
          simp only [List.contains_iff_mem, unseen, if_false, Option.bind_some]
          cases slot.fault? value with
          | some fault => rfl
          | none =>
              apply ih restOrdered
              intro entry member inSeen
              -- names increase, so no later member has the one that was just seen
              rcases List.mem_cons.mp inSeen with same | earlier
              · have above := below entry member
                rw [same, sameName] at above
                exact String.lt_irrefl _ above
              · exact restFresh entry member earlier

namespace Layout

def omission? : Layout σ → String → Option Omission
  | done, _ => none
  | field first rest, name => if name = first.name then some first.omission else rest.omission? name

def standIn? (layout : Layout σ) (name : String) : Option Json :=
  (layout.omission? name).bind Omission.standIn?

def defaults : Layout σ → List Json
  | done => []
  | field first rest =>
      match first.omission with
      | .default written => written :: rest.defaults
      | .refused | .null => rest.defaults

def Omits : Layout σ → Prop
  | done => True
  | field first rest => first.Omits ∧ rest.Omits

@[simp] theorem omits_done : done.Omits := trivial

@[simp] theorem omits_field (first : Field α) (rest : Layout σ) :
    (field first rest).Omits ↔ first.Omits ∧ rest.Omits := Iff.rfl

/-- Under a name, `fewer` has what `fields` has, or nothing where `fields` has the stand-in. -/
def LeavesOutAt (layout : Layout σ) (fields fewer : FieldMap) (name : String) : Prop :=
  fewer.get? name = fields.get? name ∨
    fewer.get? name = none ∧ ∃ json, layout.standIn? name = some json ∧ fields.get? name = some json

/-- Leaving some fields out of `fields`, which gives their stand-ins, makes `fewer` of it. -/
def LeavesOut (layout : Layout σ) (fields fewer : FieldMap) : Prop :=
  ∀ name, layout.LeavesOutAt fields fewer name

variable {layout : Layout σ} {fields fewer : FieldMap} {row : σ} {name : String} {json : Json}

theorem isSome_omission?_iff : (layout.omission? name).isSome = true ↔ name ∈ layout.names := by
  induction layout with
  | done => simp [omission?]
  | field first rest ih =>
      rw [omission?, names_field, List.mem_cons]
      by_cases same : name = first.name
      · simp [same]
      · simp [same, ih]

theorem name_mem_of_standIn? (standIn : layout.standIn? name = some json) :
    name ∈ layout.names := by
  obtain ⟨omission, found, -⟩ := Option.bind_eq_some_iff.mp standIn
  rw [← isSome_omission?_iff, found]
  rfl

theorem mem_defaults_of_omission? (found : layout.omission? name = some (.default json)) :
    json ∈ layout.defaults := by
  induction layout with
  | done => cases found
  | field first rest ih =>
      rw [omission?] at found
      rw [defaults]
      split at found
      · rw [Option.some.inj found]
        exact List.mem_cons_self
      · have later := ih found
        split
        · exact List.mem_cons_of_mem _ later
        · exact later
        · exact later

theorem faultAmong?_standIn (omits : layout.Omits) (unaliased : layout.aliases = [])
    (standIn : layout.standIn? name = some json) :
    Slot.faultAmong? layout.slots (name, json) = none := by
  induction layout with
  | done => rfl
  | field first rest ih =>
      rw [aliases_field, List.append_eq_nil_iff] at unaliased
      rw [standIn?, omission?] at standIn
      rw [Slot.faultAmong?, slots, List.find?_cons]
      by_cases same : name = first.name
      · rw [if_pos same, Option.bind_some] at standIn
        obtain ⟨value, -, read⟩ := omits.1.read_standIn standIn
        simp [Slot.answersTo, same, read]
      · rw [if_neg same] at standIn
        simp only [Slot.answersTo, unaliased.1, List.contains_nil, Bool.or_false,
          beq_eq_false_iff_ne.mpr same]
        exact ih omits.2 unaliased.2 standIn

theorem LeavesOut.firstFault_eq (leaves : layout.LeavesOut fields fewer) (omits : layout.Omits)
    (unaliased : layout.aliases = []) :
    firstFault layout.slots false [] fewer.entries =
      firstFault layout.slots false [] fields.entries := by
  have single : ∀ slot ∈ layout.slots, slot.aliases = [] := List.flatMap_eq_nil_iff.mp unaliased
  have fresh (fields : FieldMap) : ∀ entry ∈ fields.entries, entry.1 ∉ ([] : List String) :=
    fun _ _ => List.not_mem_nil
  rw [firstFault_eq_findSome? single fewer.ordered (fresh fewer),
    firstFault_eq_findSome? single fields.ordered (fresh fields)]
  apply FieldMap.findSome?_congr
  intro name
  rcases leaves name with same | ⟨missing, json, standIn, given⟩
  · rw [same]
  · rw [missing, given]
    simp [Option.filter, faultAmong?_standIn omits unaliased standIn]

/-- Leaving fields out does not change what the declared fields are read as. -/
theorem readFields_of_leavesOutAt (faithful : layout.Faithful) (omits : layout.Omits)
    (unaliased : layout.aliases = [])
    (leaves : ∀ name ∈ layout.names, layout.LeavesOutAt fields fewer name) :
    layout.readFields fewer = layout.readFields fields := by
  induction layout with
  | done => rfl
  | field first rest ih =>
      rw [aliases_field, List.append_eq_nil_iff] at unaliased
      have sameFirst : first.readFrom fewer = first.readFrom fields := by
        rw [Field.readFrom, Field.readFrom, Field.given?_of_aliases_eq_nil unaliased.1,
          Field.given?_of_aliases_eq_nil unaliased.1]
        rcases leaves first.name List.mem_cons_self with same | ⟨missing, json, standIn, given⟩
        · rw [same]
        · rw [standIn?, omission?, if_pos rfl, Option.bind_some] at standIn
          obtain ⟨value, absent, read⟩ := omits.1.read_standIn standIn
          simp only [missing, given, absent, read, Option.elim]
      have sameRest : rest.readFields fewer = rest.readFields fields := by
        apply ih faithful.tail omits.2 unaliased.2
        intro name member
        -- names are distinct, so the rest has the stand-ins of its own fields
        have notFirst : name ≠ first.name := fun same => faithful.name_not_mem (same ▸ member)
        have leavesRest := leaves name (List.mem_cons_of_mem _ member)
        rw [LeavesOutAt, standIn?, omission?, if_neg notFirst] at leavesRest
        exact leavesRest
      rw [readFields, readFields, sameFirst, sameRest]

/-! ### What must be there -/

theorem Reads.isSome_of_refused (reads : layout.Reads fields row) (unaliased : layout.aliases = [])
    (refused : layout.omission? name = some .refused) : (fields.get? name).isSome = true := by
  induction layout with
  | done => cases refused
  | field first rest ih =>
      obtain ⟨value, values⟩ := row
      rw [aliases_field, List.append_eq_nil_iff] at unaliased
      rw [omission?] at refused
      split at refused
      · rename_i same
        subst same
        rcases Field.readFrom_eq_ok_iff.mp reads.1 with ⟨json, given, -⟩ | ⟨-, absent⟩
        · rw [Field.given?_of_aliases_eq_nil unaliased.1] at given
          rw [given]
          rfl
        · rw [Field.omission, absent] at refused
          cases written : first.write value <;> simp [written] at refused
      · exact ih reads.2 unaliased.2 refused

theorem Reads.omission?_of_null (reads : layout.Reads fields row) (omits : layout.Omits)
    (member : name ∈ layout.names) (null : fields.get? name = some .null) :
    layout.omission? name = some .null := by
  induction layout with
  | done => cases member
  | field first rest ih =>
      obtain ⟨value, values⟩ := row
      rw [omission?]
      split
      · rename_i same
        subst same
        exact congrArg some (omits.1.eq_null_of_read (Field.read_of_readFrom reads.1 null))
      · rename_i different
        rcases List.mem_cons.mp member with same | later
        · exact absurd same different
        · exact ih reads.2 omits.2 later

end Layout

/-- Leaving fields out of a record does not change what it is read as, faults included. -/
theorem Schema.readFields_of_leavesOut {schema : Schema ρ} {fields fewer : FieldMap}
    (faithful : schema.Faithful) (omits : schema.layout.Omits)
    (unaliased : schema.layout.aliases = []) (leaves : schema.layout.LeavesOut fields fewer) :
    schema.readFields fewer = schema.readFields fields := by
  rw [readFields, readFields, faithful.isOpen, leaves.firstFault_eq omits unaliased,
    Layout.readFields_of_leavesOutAt faithful.layout omits unaliased fun name _ => leaves name]

end AffectedNodes
