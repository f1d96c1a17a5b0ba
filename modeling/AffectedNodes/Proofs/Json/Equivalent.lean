import AffectedNodes.Proofs.Json.Exact
import AffectedNodes.Proofs.Json.Lookup

/-!
# Equivalent records

A field that is null counts as missing.  Two records are equivalent when, null fields left out, they
have the same fields with the same values.  What an overlay has under a name is what the delta has
there, and where the delta is silent what the base has.
-/
namespace AffectedNodes

/-- Whether two fields, each of which may be missing, are both missing or have the same value. -/
def Json.sameField : Option Json → Option Json → Bool
  | none, none => true
  | some first, some second => first.same second
  | _, _ => false

namespace Json

@[simp] theorem sameField_self (field : Option Json) : sameField field field = true := by
  cases field with
  | none => rfl
  | some value => exact same_self value

theorem sameField_comm (first second : Option Json) :
    sameField first second = sameField second first := by
  cases first with
  | none => cases second <;> rfl
  | some value =>
      cases second with
      | none => rfl
      | some other => exact same_comm value other

theorem isSome_eq_of_sameField {first second : Option Json}
    (alike : sameField first second = true) : first.isSome = second.isSome := by
  cases first with
  | none =>
      cases second with
      | none => rfl
      | some value => cases alike
  | some value =>
      cases second with
      | none => cases alike
      | some other => rfl

end Json

namespace FieldMap

variable {base delta first second : FieldMap} {name : String} {value : Json}

/-- Two records have the same fields with the same values, when null fields are left out. -/
def Equivalent (first second : FieldMap) : Prop :=
  ∀ name, Json.sameField (first.present? name) (second.present? name) = true

theorem present?_overlay_of_silent (silent : delta.get? name = none) :
    (base.overlay delta).present? name = base.present? name := by
  rw [present?, present?, get?_overlay, silent, Option.none_or]

theorem present?_overlay_of_named (named : delta.get? name = some value) :
    (base.overlay delta).present? name = delta.present? name := by
  rw [present?, present?, get?_overlay, named, Option.some_or]

theorem present?_eq_of_copied
    (copied : first.get? name = some ((second.present? name).getD .null)) :
    first.present? name = second.present? name := by
  cases held : second.present? name with
  | none =>
      rw [held] at copied
      exact present?_eq_none_iff.mpr (Or.inr copied)
  | some value =>
      rw [held] at copied
      exact present?_eq_some_iff.mpr ⟨copied, (present?_eq_some_iff.mp held).2⟩

theorem head_le_of_findValue {head : String × Json} {rest : List (String × Json)}
    (ordered : (head :: rest).Pairwise (fun first second => first.1 < second.1))
    (found : (findValue name (head :: rest)).isSome = true) : head.1 ≤ name := by
  rw [← String.not_lt]
  intro before
  have missing : findValue name (head :: rest) = none := by
    apply findValue_eq_none
    intro entry member
    rcases List.mem_cons.mp member with rfl | later
    · exact before
    · exact String.lt_trans before ((List.pairwise_cons.mp ordered).1 entry later)
  rw [missing] at found
  cases found

/-- Ordered lists of members are the same exactly when they are so name by name. -/
theorem sameMembers_iff {members others : List (String × Json)}
    (ordered : members.Pairwise (fun first second => first.1 < second.1))
    (otherOrdered : others.Pairwise (fun first second => first.1 < second.1)) :
    Json.sameMembers members others = true ↔
      ∀ name, Json.sameField (findValue name members) (findValue name others) = true := by
  induction members generalizing others with
  | nil =>
      cases others with
      | nil => exact iff_of_true rfl fun _ => rfl
      | cons head rest =>
          refine iff_of_false Bool.false_ne_true fun agree => ?_
          simpa [findValue, Json.sameField] using agree head.1
  | cons head rest ih =>
      obtain ⟨name, value⟩ := head
      cases others with
      | nil =>
          refine iff_of_false Bool.false_ne_true fun agree => ?_
          simpa [findValue, Json.sameField] using agree name
      | cons otherHead otherRest =>
          obtain ⟨otherName, otherValue⟩ := otherHead
          obtain ⟨below, restOrdered⟩ := List.pairwise_cons.mp ordered
          obtain ⟨otherBelow, otherRestOrdered⟩ := List.pairwise_cons.mp otherOrdered
          rw [Json.sameMembers, Bool.and_eq_true, Bool.and_eq_true, beq_iff_eq,
            ih restOrdered otherRestOrdered]
          constructor
          · rintro ⟨⟨rfl, alike⟩, agree⟩ wanted
            rw [findValue, findValue]
            split
            · exact alike
            · exact agree wanted
          · intro agree
            -- each of the first names is among the others, so neither is before the other
            have sameName : name = otherName := by
              apply String.le_antisymm
              · apply head_le_of_findValue ordered
                rw [Json.isSome_eq_of_sameField (agree otherName), findValue, if_pos rfl]
                rfl
              · apply head_le_of_findValue otherOrdered
                rw [← Json.isSome_eq_of_sameField (agree name), findValue, if_pos rfl]
                rfl
            subst sameName
            refine ⟨⟨rfl, ?_⟩, ?_⟩
            · simpa [findValue, Json.sameField] using agree name
            · intro wanted
              by_cases atHead : wanted = name
              · rw [atHead, findValue_eq_none below, findValue_eq_none otherBelow]
                rfl
              · simpa [findValue, atHead] using agree wanted

def withoutNulls (fields : FieldMap) : FieldMap :=
  ⟨fields.entries.filter fun entry => !entry.2.isNull, fields.ordered.filter _⟩

theorem get?_withoutNulls (fields : FieldMap) (name : String) :
    fields.withoutNulls.get? name = fields.present? name := by
  apply Option.ext
  intro value
  rw [get?_eq_some_iff, withoutNulls, List.mem_filter, present?_eq_some_iff, get?_eq_some_iff,
    Bool.not_eq_true', ← Bool.not_eq_true, Json.isNull_iff]

theorem equivalent_iff_same :
    first.Equivalent second ↔ first.withoutNulls.same second.withoutNulls = true := by
  rw [same, sameMembers_iff first.withoutNulls.ordered second.withoutNulls.ordered]
  apply forall_congr'
  intro name
  rw [← get?, ← get?, get?_withoutNulls, get?_withoutNulls]

theorem present?_eq_of_get? (taken : first.get? name = second.present? name) :
    first.present? name = second.present? name := by
  rw [present?, taken, present?, Option.filter_filter]
  simp only [Bool.and_self]

end FieldMap

end AffectedNodes
