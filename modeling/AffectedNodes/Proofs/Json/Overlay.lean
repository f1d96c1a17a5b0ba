import AffectedNodes.Proofs.Json.Equivalent
import Mathlib.Order.Defs.Unbundled

/-!
# Overlays one after another

Deltas that are laid over a record one after another give what a single delta gives, which is merged
from them so that the last value of each field counts.  Two deltas may be laid in either order
exactly when they agree on the fields that both of them name, and that is so for equality and for
the coarser equality of JSON values alike.
-/
namespace AffectedNodes

namespace FieldMap

variable {base other first second : FieldMap} {before after deltas : List FieldMap} {name : String}
  {value : Json}

def overlayAll (base : FieldMap) (deltas : List FieldMap) : FieldMap := deltas.foldl overlay base

/-- The delta that has each field of several ones, with the last value among them. -/
def merged (deltas : List FieldMap) : FieldMap := .ofList (deltas.flatMap entries)

/-- The last delta that names a field gives it this value. -/
def LastGives (deltas : List FieldMap) (name : String) (value : Json) : Prop :=
  ∃ before delta after, deltas = before ++ delta :: after ∧ delta.get? name = some value ∧
    ∀ later ∈ after, later.get? name = none

theorem overlayAll_append (base : FieldMap) (before after : List FieldMap) :
    base.overlayAll (before ++ after) = (base.overlayAll before).overlayAll after :=
  List.foldl_append

theorem overlayAll_cons (base delta : FieldMap) (rest : List FieldMap) :
    base.overlayAll (delta :: rest) = (base.overlay delta).overlayAll rest :=
  rfl

theorem get?_merged_cons (delta : FieldMap) (rest : List FieldMap) (name : String) :
    (merged (delta :: rest)).get? name = ((merged rest).get? name).or (delta.get? name) := by
  rw [merged, List.flatMap_cons, get?_ofList_append, ofList_entries, merged]

theorem get?_overlayAll (base : FieldMap) (deltas : List FieldMap) (name : String) :
    (base.overlayAll deltas).get? name = ((merged deltas).get? name).or (base.get? name) := by
  induction deltas generalizing base with
  | nil => rfl
  | cons delta rest ih =>
      rw [overlayAll_cons, ih, get?_overlay, get?_merged_cons, Option.or_assoc]

theorem overlayAll_eq_overlay_merged (base : FieldMap) (deltas : List FieldMap) :
    base.overlayAll deltas = base.overlay (merged deltas) := by
  apply ext_get?
  intro name
  rw [get?_overlayAll, get?_overlay]

theorem get?_merged_eq_none_iff :
    (merged deltas).get? name = none ↔ ∀ delta ∈ deltas, delta.get? name = none := by
  induction deltas with
  | nil => exact iff_of_true rfl nofun
  | cons delta rest ih =>
      rw [get?_merged_cons, Option.or_eq_none_iff, ih, List.forall_mem_cons, and_comm]

theorem lastGives_cons {delta : FieldMap} {rest : List FieldMap} :
    LastGives (delta :: rest) name value ↔
      LastGives rest name value ∨
        (∀ later ∈ rest, later.get? name = none) ∧ delta.get? name = some value := by
  constructor
  · rintro ⟨before, last, after, split, named, silent⟩
    cases before with
    | nil =>
        cases split
        exact Or.inr ⟨silent, named⟩
    | cons _ before =>
        cases split
        exact Or.inl ⟨before, last, after, rfl, named, silent⟩
  · rintro (⟨before, last, after, rfl, named, silent⟩ | ⟨silent, named⟩)
    · exact ⟨delta :: before, last, after, rfl, named, silent⟩
    · exact ⟨[], delta, rest, rfl, named, silent⟩

theorem get?_merged_eq_some_iff :
    (merged deltas).get? name = some value ↔ LastGives deltas name value := by
  induction deltas with
  | nil =>
      refine iff_of_false nofun ?_
      rintro ⟨before, delta, after, split, -⟩
      simp at split
  | cons delta rest ih =>
      rw [get?_merged_cons, Option.or_eq_some_iff, ih, get?_merged_eq_none_iff, lastGives_cons]

theorem get?_overlayAll_eq_some_iff :
    (base.overlayAll deltas).get? name = some value ↔
      LastGives deltas name value ∨
        (∀ delta ∈ deltas, delta.get? name = none) ∧ base.get? name = some value := by
  rw [get?_overlayAll, Option.or_eq_some_iff, get?_merged_eq_some_iff, get?_merged_eq_none_iff]

theorem isSome_get?_merged_iff :
    ((merged deltas).get? name).isSome = true ↔
      ∃ delta ∈ deltas, (delta.get? name).isSome = true := by
  induction deltas with
  | nil => exact iff_of_false nofun nofun
  | cons delta rest ih =>
      rw [get?_merged_cons, Option.isSome_or, Bool.or_eq_true, ih, or_comm]
      simp only [List.mem_cons, exists_eq_or_imp]

theorem mem_names_overlayAll_iff :
    name ∈ (base.overlayAll deltas).names ↔
      name ∈ base.names ∨ ∃ delta ∈ deltas, name ∈ delta.names := by
  simp only [mem_names_iff, ← isSome_get?_merged_iff]
  rw [get?_overlayAll, Option.isSome_or, Bool.or_eq_true, or_comm]

theorem overlay_overlay_self (base delta : FieldMap) :
    (base.overlay delta).overlay delta = base.overlay delta := by
  apply ext_get?
  intro name
  rw [get?_overlay, get?_overlay, ← Option.or_assoc, Option.or_self]

/-! ### Either order -/

/-- Two records have the same fields, with values that are related. -/
def Matches (related : Json → Json → Prop) (first second : FieldMap) : Prop :=
  ∀ name, Option.Rel related (first.get? name) (second.get? name)

/-- The values of the fields that two deltas have both are related. -/
def AgreeBy (related : Json → Json → Prop) (first second : FieldMap) : Prop :=
  ∀ name value other, first.get? name = some value → second.get? name = some other →
    related value other

def SameValue (value other : Json) : Prop := value.same other = true

instance : Std.Refl SameValue := ⟨Json.same_self⟩

instance : Std.Symm SameValue := ⟨fun value other alike => (Json.same_comm other value).trans alike⟩

theorem rel_eq_iff {field otherField : Option Json} :
    Option.Rel Eq field otherField ↔ field = otherField := by
  cases field with
  | none => cases otherField <;> simp
  | some value => cases otherField <;> simp

theorem matches_eq_iff : Matches Eq first second ↔ first = second := by
  constructor
  · intro agree
    exact ext_get? fun name => rel_eq_iff.mp (agree name)
  · rintro rfl name
    exact rel_eq_iff.mpr rfl

theorem rel_sameValue_iff {field otherField : Option Json} :
    Option.Rel SameValue field otherField ↔ Json.sameField field otherField = true := by
  cases field with
  | none => cases otherField <;> simp [Json.sameField]
  | some value => cases otherField <;> simp [Json.sameField, SameValue]

theorem matches_sameValue_iff : Matches SameValue first second ↔ first.same second = true := by
  rw [same, sameMembers_iff first.ordered second.ordered]
  exact forall_congr' fun name => rel_sameValue_iff

section

variable {related : Json → Json → Prop} [Std.Refl related]

theorem rel_self (field : Option Json) : Option.Rel related field field := by
  cases field with
  | none => exact .none
  | some value => exact .some (Std.Refl.refl value)

theorem Matches.overlayAll (agree : Matches related base other) (deltas : List FieldMap) :
    Matches related (base.overlayAll deltas) (other.overlayAll deltas) := by
  intro name
  rw [get?_overlayAll, get?_overlayAll]
  cases (merged deltas).get? name with
  | none => exact agree name
  | some value => exact rel_self (some value)

/-- Which of two deltas is laid first does not matter exactly when they agree. -/
theorem matches_overlay_comm_iff [Std.Symm related] :
    Matches related ((base.overlay first).overlay second) ((base.overlay second).overlay first) ↔
      AgreeBy related first second := by
  constructor
  · intro commute name value other firstNamed secondNamed
    have laid := commute name
    simp only [get?_overlay, firstNamed, secondNamed, Option.some_or] at laid
    exact Std.Symm.symm _ _ (Option.rel_some_some.mp laid)
  · intro agree name
    simp only [get?_overlay]
    cases firstNamed : first.get? name with
    | none => exact rel_self _
    | some value =>
        cases secondNamed : second.get? name with
        | none => exact rel_self (some value)
        | some other =>
            have alike := agree name value other firstNamed secondNamed
            exact .some (Std.Symm.symm _ _ alike)

theorem matches_overlayAll_swap [Std.Symm related] (agree : AgreeBy related first second)
    (base : FieldMap) (before after : List FieldMap) :
    Matches related (base.overlayAll (before ++ first :: second :: after))
      (base.overlayAll (before ++ second :: first :: after)) := by
  rw [overlayAll_append, overlayAll_append]
  exact (matches_overlay_comm_iff.mpr agree).overlayAll after

end

end FieldMap

end AffectedNodes
