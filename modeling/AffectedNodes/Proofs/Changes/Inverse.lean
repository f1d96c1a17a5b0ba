import AffectedNodes.Proofs.Changes.Report
import AffectedNodes.Proofs.Json.Equivalent

/-!
# Overlays undo reports

A report on two records gives a delta that leads back: each changed field with its value from
before, and null for a field that was added.  Laid over the later record it gives the earlier one,
up to null fields.  Previous values on the wire do not list added fields, and without those the
delta leads back exactly when no field was added.  Conversely the report on an overlay and its base
lists the fields in which the delta differs from the base.
-/
namespace AffectedNodes

namespace FieldChange

def before? : FieldChange → Option Json
  | added .. => none
  | removed _ value => some value
  | modified _ previous _ => some previous

def isAdded : FieldChange → Bool
  | added .. => true
  | removed .. | modified .. => false

/-- The entry of a delta that takes the change back. -/
def undoing (change : FieldChange) : String × Json := (change.field, change.before?.getD .null)

variable {name : String} {before after : Option Json} {change : FieldChange}

theorem before?_of_between? (changed : between? name before after = some change) :
    change.before? = before := by
  cases before with
  | none =>
      cases after with
      | none => cases changed
      | some value =>
          cases changed
          rfl
  | some old =>
      cases after with
      | none =>
          cases changed
          rfl
      | some value =>
          rw [between?] at changed
          split at changed
          · cases changed
          · cases changed
            rfl

theorem between?_eq_none_iff_same :
    between? name before after = none ↔ Json.sameField before after = true := by
  cases before with
  | none => cases after <;> simp [between?, Json.sameField]
  | some old =>
      cases after with
      | none => simp [between?, Json.sameField]
      | some value => cases alike : old.same value <;> simp [between?, Json.sameField, alike]

end FieldChange

def FieldChange.undoingAll (changes : List FieldChange) : FieldMap :=
  .ofList (changes.map FieldChange.undoing)

namespace FieldChanges

/-- The delta that takes a report back, with null for the fields that were added. -/
def fullDelta (report : FieldChanges) : FieldMap := FieldChange.undoingAll report.changes

/-- The delta of a report as previous values are listed on the wire, without added fields. -/
def wireDelta (report : FieldChanges) : FieldMap :=
  FieldChange.undoingAll (report.changes.filter fun change => !change.isAdded)

end FieldChanges

variable {previous current final delta : FieldMap} {name : String} {value : Json}
  {change : FieldChange}

theorem FieldMap.pairwise_names (fields : FieldMap) : fields.names.Pairwise (· < ·) := by
  rw [names, List.pairwise_map]
  exact fields.ordered

theorem FieldChange.get?_undoingAll_iff {changes : List FieldChange}
    (ordered : changes.Pairwise (fun first second => first.field < second.field)) :
    (undoingAll changes).get? name = some value ↔
      ∃ change ∈ changes, change.undoing = (name, value) := by
  have entriesOrdered : (changes.map undoing).Pairwise (fun first second => first.1 < second.1) :=
    List.pairwise_map.mpr ordered
  rw [undoingAll, FieldMap.get?_ofList_ordered entriesOrdered,
    FieldMap.findValue_eq_some_iff entriesOrdered, List.mem_map]

namespace FieldChanges

theorem pairwise_changes (previous current : FieldMap) :
    (between previous current).changes.Pairwise
      (fun first second => first.field < second.field) := by
  refine List.Pairwise.filterMap _ ?_ (FieldMap.pairwise_names _)
  intro name name' before change changed change' changed'
  rw [FieldChange.field_of_between? changed, FieldChange.field_of_between? changed']
  exact before

/-! ### From a report to the earlier record -/

/-- The delta of some of the changes has, under each name, what the change between the two values
there takes back, if that change is among them. -/
theorem get?_undoingAll_filter (keeps : FieldChange → Bool) (previous current : FieldMap)
    (name : String) :
    (FieldChange.undoingAll ((between previous current).changes.filter keeps)).get? name =
      ((FieldChange.between? name (previous.present? name) (current.present? name)).filter
        keeps).map fun change => change.before?.getD .null := by
  apply Option.ext
  intro value
  rw [FieldChange.get?_undoingAll_iff ((pairwise_changes previous current).filter keeps),
    Option.map_eq_some_iff]
  apply exists_congr
  intro change
  rw [List.mem_filter, mem_changes_iff, Option.filter_eq_some_iff, FieldChange.undoing,
    Prod.mk.injEq]
  constructor
  · rintro ⟨⟨changed, kept⟩, rfl, same⟩
    exact ⟨⟨changed, kept⟩, same⟩
  · rintro ⟨⟨changed, kept⟩, same⟩
    have named := FieldChange.field_of_between? changed
    exact ⟨⟨named ▸ changed, kept⟩, named, same⟩

theorem get?_fullDelta (previous current : FieldMap) (name : String) :
    (between previous current).fullDelta.get? name =
      (FieldChange.between? name (previous.present? name) (current.present? name)).map
        fun change => change.before?.getD .null := by
  have all := get?_undoingAll_filter (fun _ => true) previous current name
  rw [List.filter_eq_self.mpr fun _ _ => rfl] at all
  rw [fullDelta, all]
  cases FieldChange.between? name (previous.present? name) (current.present? name) <;> rfl

theorem equivalent_overlay_fullDelta (previous current : FieldMap) :
    (current.overlay (between previous current).fullDelta).Equivalent previous := by
  intro name
  have delta := get?_fullDelta previous current name
  cases changed : FieldChange.between? name (previous.present? name) (current.present? name) with
  | none =>
      rw [changed, Option.map_none] at delta
      rw [FieldMap.present?_overlay_of_silent delta, Json.sameField_comm]
      exact FieldChange.between?_eq_none_iff_same.mp changed
  | some change =>
      rw [changed, Option.map_some, FieldChange.before?_of_between? changed] at delta
      rw [FieldMap.present?_overlay_of_named delta, FieldMap.present?_eq_of_copied delta]
      exact Json.sameField_self _

theorem additions_eq_zero_iff {report : FieldChanges} :
    report.additions = 0 ↔ ∀ change ∈ report.changes, change.isAdded = false := by
  rw [additions, List.countP_eq_zero]
  apply forall₂_congr
  intro change _
  cases change <;> simp [FieldChange.isAdded]

theorem wireDelta_eq_fullDelta {report : FieldChanges}
    (noneAdded : ∀ change ∈ report.changes, change.isAdded = false) :
    report.wireDelta = report.fullDelta := by
  have all : (report.changes.filter fun change => !change.isAdded) = report.changes :=
    List.filter_eq_self.mpr fun change listed => by rw [noneAdded change listed]; rfl
  rw [wireDelta, all, fullDelta]

/-- The delta on the wire leads back to the earlier record exactly when no field was added. -/
theorem equivalent_overlay_wireDelta_iff (previous current : FieldMap) :
    (current.overlay (between previous current).wireDelta).Equivalent previous ↔
      (between previous current).additions = 0 := by
  rw [additions_eq_zero_iff]
  constructor
  · intro same change listed
    cases added : change.isAdded with
    | false => rfl
    | true =>
        -- the wire is silent about an added field, so the overlay keeps the later value
        have changed := mem_changes_iff.mp listed
        have silent : (between previous current).wireDelta.get? change.field = none := by
          rw [wireDelta, get?_undoingAll_filter, changed, Option.filter_some, added]
          rfl
        have kept := same change.field
        rw [FieldMap.present?_overlay_of_silent silent, Json.sameField_comm] at kept
        cases changed.symm.trans (FieldChange.between?_eq_none_iff_same.mpr kept)
  · intro noneAdded
    rw [wireDelta_eq_fullDelta noneAdded]
    exact equivalent_overlay_fullDelta previous current

/-! ### From a delta to the report -/

theorem exists_change_overlay_iff :
    (∃ change ∈ (between (final.overlay delta) final).changes, change.field = name) ↔
      (∃ value, delta.get? name = some value) ∧
        Json.sameField (delta.present? name) (final.present? name) = false := by
  rw [exists_change_iff, Ne, FieldChange.between?_eq_none_iff_same, Bool.not_eq_true]
  cases named : delta.get? name with
  | none =>
      rw [FieldMap.present?_overlay_of_silent named, Json.sameField_self]
      simp
  | some value =>
      rw [FieldMap.present?_overlay_of_named named]
      simp

/-- The change of a field that the delta gives this value: the field is added if the value is null,
and else removed or modified, with this value before. -/
inductive ReportsDelta (final : FieldMap) (name : String) : Json → FieldChange → Prop where
  | added {current : Json} (later : final.present? name = some current) :
      ReportsDelta final name .null (.added name current)
  | removed {value : Json} (notNull : value ≠ .null) (later : final.present? name = none) :
      ReportsDelta final name value (.removed name value)
  | modified {value current : Json} (notNull : value ≠ .null)
      (later : final.present? name = some current) :
      ReportsDelta final name value (.modified name value current)

theorem reportsDelta_of_mem (listed : change ∈ (between (final.overlay delta) final).changes)
    (named : delta.get? change.field = some value) :
    ReportsDelta final change.field value change := by
  have changed := mem_changes_iff.mp listed
  rw [FieldMap.present?_overlay_of_named named] at changed
  by_cases null : value = .null
  · subst null
    rw [FieldMap.present?_eq_none_iff.mpr (Or.inr named)] at changed
    cases later : final.present? change.field with
    | none =>
        rw [later] at changed
        cases changed
    | some current =>
        rw [later] at changed
        rw [← Option.some.inj changed]
        exact .added later
  · rw [FieldMap.present?_eq_some_iff.mpr ⟨named, null⟩] at changed
    cases later : final.present? change.field with
    | none =>
        rw [later] at changed
        rw [← Option.some.inj changed]
        exact .removed null later
    | some current =>
        rw [later, FieldChange.between?] at changed
        split at changed
        · cases changed
        · rw [← Option.some.inj changed]
          exact .modified null later

/--
Overlays and reports are inverse to each other.  For any two records, the full delta of their report
laid over the later one gives the earlier one, up to null fields, and the delta on the wire does so
exactly when no field was added.  For any record and any delta, the report on their overlay and the
record lists exactly the fields that the delta names with another value, each as the delta gives it.
-/
theorem overlay_inverse :
    (∀ previous current : FieldMap,
      (current.overlay (between previous current).fullDelta).Equivalent previous ∧
      ((current.overlay (between previous current).wireDelta).Equivalent previous ↔
        (between previous current).additions = 0)) ∧
    ∀ final delta : FieldMap,
      (∀ name, (∃ change ∈ (between (final.overlay delta) final).changes, change.field = name) ↔
        (∃ value, delta.get? name = some value) ∧
          Json.sameField (delta.present? name) (final.present? name) = false) ∧
      ∀ change ∈ (between (final.overlay delta) final).changes, ∀ value,
        delta.get? change.field = some value →
          ReportsDelta final change.field value change := by
  constructor
  · intro previous current
    exact ⟨equivalent_overlay_fullDelta previous current,
      equivalent_overlay_wireDelta_iff previous current⟩
  · intro final delta
    constructor
    · exact fun name => exists_change_overlay_iff
    · exact fun change listed value named => reportsDelta_of_mem listed named

def conditionedEscrow : FieldMap :=
  .ofList [("Amount", .string "10"), ("Condition", .string "A0")]

def plainEscrowDelta : FieldMap :=
  .ofList [("Amount", .string "20"), ("CancelAfter", .nat 5), ("Condition", .null)]

theorem overlay_inverse_condition :
    FieldChange.added "Condition" (.string "A0") ∈
        (between (conditionedEscrow.overlay plainEscrowDelta) conditionedEscrow).changes ∧
      plainEscrowDelta.get? "Condition" = some .null ∧
      ReportsDelta conditionedEscrow "Condition" .null (.added "Condition" (.string "A0")) := by
  have listed : FieldChange.added "Condition" (.string "A0") ∈
      (between (conditionedEscrow.overlay plainEscrowDelta) conditionedEscrow).changes :=
    mem_changes_iff.mpr rfl
  have reports := (overlay_inverse.2 conditionedEscrow plainEscrowDelta).2
  exact ⟨listed, rfl, reports _ listed .null rfl⟩

end FieldChanges

end AffectedNodes
