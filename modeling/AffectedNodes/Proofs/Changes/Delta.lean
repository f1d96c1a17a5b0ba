import AffectedNodes.Proofs.Changes.Inverse
import AffectedNodes.Proofs.Text.ByteOrder
import Mathlib.Data.List.Sort

/-!
# Reports as deltas

A report on two records lists each changed field once, in the order of the names, and only fields
that did change.  Made on the earlier record, its changes give the later one, and taken back from
the later record they give the earlier one, both up to null fields.  Which record is the earlier
one shows in the direction of the changes and in nothing else.
-/
namespace AffectedNodes

/-- Which numbers are equal as JSON values: equal integers, equal doubles, and zeros of either
sign, but no integer and double. -/
inductive Number.Alike : Number → Number → Prop where
  | integers (value : Int) : Alike (.integer value) (.integer value)
  | doubles (value : Double) : Alike (.double value) (.double value)
  | zeros {first second : Double} (isZero : first.isZero = true) (isZero' : second.isZero = true) :
      Alike (.double first) (.double second)

theorem Json.same_number_iff {first second : Number} :
    (Json.number first).same (.number second) = true ↔ first.Alike second := by
  rw [Json.same]
  constructor
  · intro alike
    cases first with
    | integer value =>
        cases second with
        | integer other =>
            obtain rfl : value = other := by simpa [Number.same] using alike
            exact .integers value
        | double other => cases alike
    | double value =>
        cases second with
        | integer other => cases alike
        | double other =>
            simp only [Number.same, Double.sameNumber, Bool.or_eq_true, Bool.and_eq_true,
              beq_iff_eq] at alike
            rcases alike with ⟨isZero, isZero'⟩ | rfl
            · exact .zeros isZero isZero'
            · exact .doubles value
  · intro alike
    cases alike with
    | integers value => exact Number.same_self _
    | doubles value => exact Number.same_self _
    | zeros isZero isZero' => simp [Number.same, Double.sameNumber, isZero, isZero']

/-! ### Changes of one field -/

namespace FieldChange

def after? : FieldChange → Option Json
  | added _ value => some value
  | removed .. => none
  | modified _ _ current => some current

def swap : FieldChange → FieldChange
  | added field value => removed field value
  | removed field value => added field value
  | modified field previous current => modified field current previous

/-- A change that is not idle: it tells no null value, and the two values of a modified field
differ. -/
inductive Genuine : FieldChange → Prop where
  | added {field : String} {value : Json} (notNull : value ≠ .null) : Genuine (.added field value)
  | removed {field : String} {value : Json} (notNull : value ≠ .null) :
      Genuine (.removed field value)
  | modified {field : String} {previous current : Json} (notNull : previous ≠ .null)
      (notNull' : current ≠ .null) (differ : previous.same current = false) :
      Genuine (.modified field previous current)

variable {name : String} {before after : Option Json} {change : FieldChange}

@[simp] theorem before?_swap (change : FieldChange) : change.swap.before? = change.after? := by
  cases change <;> rfl

@[simp] theorem field_swap (change : FieldChange) : change.swap.field = change.field := by
  cases change <;> rfl

theorem apply_swap (fields : FieldMap) (change : FieldChange) :
    change.swap.apply fields = change.revert fields := by
  cases change <;> rfl

theorem between?_swap : between? name after before = (between? name before after).map swap := by
  cases before with
  | none => cases after <;> rfl
  | some old =>
      cases after with
      | none => rfl
      | some value =>
          rw [between?, between?, Json.same_comm value old]
          cases old.same value <;> rfl

theorem after?_of_between? (changed : between? name before after = some change) :
    change.after? = after := by
  have swapped : between? name after before = some change.swap := by
    rw [between?_swap, changed, Option.map_some]
  rw [← before?_swap, before?_of_between? swapped]

theorem genuine_of_between? (changed : between? name before after = some change)
    (notNull : ∀ value, before = some value → value ≠ .null)
    (notNull' : ∀ value, after = some value → value ≠ .null) : change.Genuine := by
  cases before with
  | none =>
      cases after with
      | none => cases changed
      | some value =>
          cases changed
          exact .added (notNull' value rfl)
  | some old =>
      cases after with
      | none =>
          cases changed
          exact .removed (notNull old rfl)
      | some value =>
          rw [between?] at changed
          split at changed
          · cases changed
          · rename_i differ
            cases changed
            exact .modified (notNull old rfl) (notNull' value rfl) (Bool.not_eq_true _ ▸ differ)

/-- Making a change sets its field to the value after it, and nothing else. -/
theorem get?_apply (change : FieldChange) (fields : FieldMap) (name : String) :
    (change.apply fields).get? name =
      if name = change.field then change.after? else fields.get? name := by
  cases change with
  | added field value => exact FieldMap.get?_insert fields field name value
  | removed field value => exact FieldMap.get?_erase fields field name
  | modified field previous current => exact FieldMap.get?_insert fields field name current

theorem get?_foldl_apply {changes : List FieldChange}
    (ordered : changes.Pairwise (fun first second => first.field < second.field))
    (base : FieldMap) (name : String) :
    (changes.foldl apply base).get? name =
      (changes.find? fun change => change.field == name).elim (base.get? name) after? := by
  induction changes generalizing base with
  | nil => rfl
  | cons change rest ih =>
      have later := (List.pairwise_cons.mp ordered).1
      rw [List.foldl_cons, ih (List.pairwise_cons.mp ordered).2, get?_apply]
      by_cases same : name = change.field
      · subst same
        -- the changes are ordered by field, so no later one sets this field again
        have noneLater : (rest.find? fun other => other.field == change.field) = none := by
          rw [List.find?_eq_none]
          intro other member named
          have sameField : other.field = change.field := by simpa using named
          exact String.lt_irrefl _ (sameField ▸ later other member)
        rw [noneLater, List.find?_cons_of_pos (by simp), if_pos rfl]
        rfl
      · have passed : (change.field == name) = false := by simpa using Ne.symm same
        simp only [List.find?_cons, passed, if_neg same]

end FieldChange

namespace FieldChanges

variable {previous current : FieldMap} {name : String} {change : FieldChange}

/-! ### Order and number of changes -/

/-- The change of a field in a report is the change between its two values. -/
theorem get?_between (previous current : FieldMap) (name : String) :
    (between previous current).get? name =
      FieldChange.between? name (previous.present? name) (current.present? name) := by
  cases found : (between previous current).get? name with
  | none =>
      have unlisted := List.find?_eq_none.mp found
      cases changed : FieldChange.between? name (previous.present? name)
          (current.present? name) with
      | none => rfl
      | some change =>
          have named := FieldChange.field_of_between? changed
          subst named
          exact absurd (beq_self_eq_true _) (unlisted change (mem_changes_iff.mpr changed))
  | some change =>
      have named : change.field = name := by simpa using List.find?_some found
      have changed := mem_changes_iff.mp (List.mem_of_find?_eq_some found)
      rw [← named, changed]

theorem get?_between_eq_some_iff :
    (between previous current).get? name = some change ↔
      change ∈ (between previous current).changes ∧ change.field = name := by
  rw [get?_between, mem_changes_iff]
  constructor
  · intro changed
    have named := FieldChange.field_of_between? changed
    exact ⟨named ▸ changed, named⟩
  · rintro ⟨changed, rfl⟩
    exact changed

theorem additions_add_removals_add_modifications (report : FieldChanges) :
    report.additions + report.removals + report.modifications = report.size := by
  obtain ⟨changes⟩ := report
  simp only [additions, removals, modifications, size]
  induction changes with
  | nil => rfl
  | cons change rest ih =>
      simp only [List.countP_cons, List.length_cons]
      cases change <;> simp only [if_true, Bool.false_eq_true, if_false] <;> omega

theorem pairwise_bytes_changes (previous current : FieldMap) :
    (between previous current).changes.Pairwise
      (fun first second => Text.bytes first.field < Text.bytes second.field) :=
  (pairwise_changes previous current).imp Text.bytes_lt

theorem nodup_fields (previous current : FieldMap) :
    ((between previous current).changes.map FieldChange.field).Nodup := by
  refine List.pairwise_map.mpr ((pairwise_changes previous current).imp ?_)
  intro first second before same
  exact String.lt_irrefl _ (same ▸ before)

/-! ### Making the changes and taking them back -/

theorem get?_apply_between (previous current : FieldMap) (name : String) :
    ((between previous current).apply previous).get? name =
      (FieldChange.between? name (previous.present? name) (current.present? name)).elim
        (previous.get? name) FieldChange.after? := by
  rw [apply, FieldChange.get?_foldl_apply (pairwise_changes previous current), ← get?_between]
  rfl

theorem equivalent_apply (previous current : FieldMap) :
    ((between previous current).apply previous).Equivalent current := by
  intro name
  have applied := get?_apply_between previous current name
  cases changed : FieldChange.between? name (previous.present? name) (current.present? name) with
  | none =>
      rw [changed, Option.elim_none] at applied
      rw [FieldMap.present?, applied]
      exact FieldChange.between?_eq_none_iff_same.mp changed
  | some change =>
      rw [changed, Option.elim_some, FieldChange.after?_of_between? changed] at applied
      rw [FieldMap.present?_eq_of_get? applied]
      exact Json.sameField_self _

theorem names_overlay_comm (first second : FieldMap) :
    (first.overlay second).names = (second.overlay first).names := by
  apply (FieldMap.pairwise_names _).eq_of_mem_iff (FieldMap.pairwise_names _)
  intro name
  rw [FieldMap.mem_names_iff, FieldMap.mem_names_iff, FieldMap.get?_overlay,
    FieldMap.get?_overlay, Option.isSome_or, Option.isSome_or, Bool.or_comm]

theorem changes_between_comm (previous current : FieldMap) :
    (between current previous).changes =
      (between previous current).changes.map FieldChange.swap := by
  rw [between, between, List.map_filterMap, names_overlay_comm]
  apply List.filterMap_congr
  intro name _
  exact FieldChange.between?_swap

theorem revert_between (previous current : FieldMap) :
    (between previous current).revert current = (between current previous).apply current := by
  rw [revert, apply, changes_between_comm previous current, List.foldl_map]
  simp only [FieldChange.apply_swap]

theorem equivalent_revert (previous current : FieldMap) :
    ((between previous current).revert current).Equivalent previous := by
  rw [revert_between]
  exact equivalent_apply current previous

theorem isEmpty_between_iff :
    (between previous current).isEmpty = true ↔ previous.Equivalent current := by
  rw [isEmpty, List.isEmpty_iff, List.eq_nil_iff_forall_not_mem]
  constructor
  · intro unchanged name
    apply (@FieldChange.between?_eq_none_iff_same name _ _).mp
    apply Classical.byContradiction
    intro differ
    obtain ⟨change, listed, -⟩ := exists_change_iff.mpr differ
    exact unchanged change listed
  · intro same change listed
    have changed := mem_changes_iff.mp listed
    cases changed.symm.trans (FieldChange.between?_eq_none_iff_same.mpr (same change.field))

/-- A report as a delta between two records: ordered, without idle changes, and leading from each
record to the other. -/
structure IsDelta (report : FieldChanges) (previous current : FieldMap) : Prop where
  ordered : report.changes.Pairwise
    fun first second => Text.bytes first.field < Text.bytes second.field
  distinct : (report.changes.map FieldChange.field).Nodup
  found : ∀ name change, report.get? name = some change ↔
    change ∈ report.changes ∧ change.field = name
  counted : report.additions + report.removals + report.modifications = report.size
  genuine : ∀ change ∈ report.changes, change.Genuine
  applied : (report.apply previous).withoutNulls.same current.withoutNulls = true
  reverted : (report.revert current).withoutNulls.same previous.withoutNulls = true
  empty_iff : report.isEmpty = true ↔ previous.Equivalent current

/--
For any two records, the report on them is a delta between them, and the report in the other
direction has the same changes the other way round.  Values are compared as JSON values: an integer
is no double, and the two zeros are one number.
-/
theorem between_isDelta (previous current : FieldMap) :
    (between previous current).IsDelta previous current ∧
    (between current previous).changes =
      (between previous current).changes.map FieldChange.swap ∧
    ∀ first second : Number,
      (Json.number first).same (.number second) = true ↔ first.Alike second := by
  refine ⟨?_, changes_between_comm previous current, fun _ _ => Json.same_number_iff⟩
  exact {
    ordered := pairwise_bytes_changes previous current
    distinct := nodup_fields previous current
    found := fun name change => get?_between_eq_some_iff
    counted := additions_add_removals_add_modifications _
    genuine := by
      intro change listed
      apply FieldChange.genuine_of_between? (mem_changes_iff.mp listed)
      · exact fun value held => (FieldMap.present?_eq_some_iff.mp held).2
      · exact fun value held => (FieldMap.present?_eq_some_iff.mp held).2
    applied := FieldMap.equivalent_iff_same.mp (equivalent_apply previous current)
    reverted := FieldMap.equivalent_iff_same.mp (equivalent_revert previous current)
    empty_iff := isEmpty_between_iff }

/-- Two records of a fee: one with the zero of the other sign, a field that is null, and an integer
in place of a double. -/
example :
    (between
      (.ofList [("Fee", .number (.double ⟨false, 0, -1074⟩)), ("Memo", .null), ("Rate", .nat 1)])
      (.ofList [("Fee", .number (.double ⟨true, 0, -1074⟩)),
        ("Rate", .number (.double ⟨false, 4503599627370496, -52⟩))])).changes.map
      FieldChange.field = ["Rate"] := by
  decide

end FieldChanges

end AffectedNodes
