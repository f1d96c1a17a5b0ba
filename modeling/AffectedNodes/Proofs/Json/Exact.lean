import AffectedNodes.Json.Basic

/-!
# Equality of values

`Json.same` is the equality that a change report uses.  It is reflexive and symmetric, and on exact
values, in which every number is an integer, it is equality itself.  Two doubles can be the same
number without being equal, because zero has two signs, so exactness is not idle here.
-/
namespace AffectedNodes

namespace Number

@[simp] theorem same_self (number : Number) : number.same number = true := by
  cases number <;> simp [same, Double.sameNumber]

theorem same_comm (first second : Number) : first.same second = second.same first := by
  cases first with
  | integer value =>
      cases second with
      | integer other => exact BEq.comm
      | double other => rfl
  | double value =>
      cases second with
      | integer other => rfl
      | double other => simp [same, Double.sameNumber, Bool.and_comm, BEq.comm]

def isExact : Number → Bool
  | integer _ => true
  | double _ => false

theorem eq_of_same {first second : Number} (exact : first.isExact = true)
    (alike : first.same second = true) : first = second := by
  cases first with
  | double value => simp [isExact] at exact
  | integer value =>
      cases second with
      | double other => simp [same] at alike
      | integer other => simpa [same] using alike

end Number

namespace Json

mutual

def isExact : Json → Bool
  | .number n => n.isExact
  | .array items => itemsExact items
  | .object members => membersExact members
  | .null | .bool _ | .string _ => true

def itemsExact : List Json → Bool
  | [] => true
  | item :: rest => isExact item && itemsExact rest

def membersExact : List (String × Json) → Bool
  | [] => true
  | (_, value) :: rest => isExact value && membersExact rest

end

mutual

@[simp] theorem same_self : ∀ value : Json, value.same value = true
  | .null => rfl
  | .bool _ | .string _ => by simp [same]
  | .number n => by simp [same]
  | .array items => sameItems_self items
  | .object members => sameMembers_self members

@[simp] theorem sameItems_self : ∀ items : List Json, sameItems items items = true
  | [] => rfl
  | item :: rest => by simp [sameItems, same_self item, sameItems_self rest]

@[simp] theorem sameMembers_self :
    ∀ members : List (String × Json), sameMembers members members = true
  | [] => rfl
  | (name, value) :: rest => by simp [sameMembers, same_self value, sameMembers_self rest]

end

mutual

theorem same_comm : ∀ first second : Json, first.same second = second.same first
  | .null, second => by cases second <;> rfl
  | .bool value, second => by
      cases second with
      | bool other => exact BEq.comm
      | _ => rfl
  | .string text, second => by
      cases second with
      | string other => exact BEq.comm
      | _ => rfl
  | .number n, second => by
      cases second with
      | number other => exact Number.same_comm n other
      | _ => rfl
  | .array items, second => by
      cases second with
      | array others => exact sameItems_comm items others
      | _ => rfl
  | .object members, second => by
      cases second with
      | object others => exact sameMembers_comm members others
      | _ => rfl

theorem sameItems_comm : ∀ items others : List Json,
    sameItems items others = sameItems others items
  | [], others => by cases others <;> rfl
  | item :: rest, others => by
      cases others with
      | nil => rfl
      | cons other later =>
          rw [sameItems, sameItems, same_comm item other, sameItems_comm rest later]

theorem sameMembers_comm : ∀ members others : List (String × Json),
    sameMembers members others = sameMembers others members
  | [], others => by cases others <;> rfl
  | (name, value) :: rest, others => by
      cases others with
      | nil => rfl
      | cons other later =>
          obtain ⟨otherName, otherValue⟩ := other
          rw [sameMembers, sameMembers, same_comm value otherValue, sameMembers_comm rest later,
            BEq.comm (a := name)]

end

mutual

/-- An exact value is the same as no other value. -/
theorem eq_of_same : ∀ {first second : Json}, first.isExact = true →
    first.same second = true → first = second
  | .null, second, _, alike => by cases second <;> simp_all [same]
  | .bool _, second, _, alike => by cases second <;> simp_all [same]
  | .string _, second, _, alike => by cases second <;> simp_all [same]
  | .number n, second, exact, alike => by
      cases second with
      | number other => exact congrArg Json.number (Number.eq_of_same exact alike)
      | _ => simp [same] at alike
  | .array items, second, exact, alike => by
      cases second with
      | array others => exact congrArg Json.array (eq_of_sameItems exact alike)
      | _ => simp [same] at alike
  | .object members, second, exact, alike => by
      cases second with
      | object others => exact congrArg Json.object (eq_of_sameMembers exact alike)
      | _ => simp [same] at alike

theorem eq_of_sameItems : ∀ {items others : List Json}, itemsExact items = true →
    sameItems items others = true → items = others
  | [], others, _, alike => by cases others <;> simp_all [sameItems]
  | item :: rest, others, exact, alike => by
      cases others with
      | nil => simp [sameItems] at alike
      | cons other others =>
          simp only [itemsExact, sameItems, Bool.and_eq_true] at exact alike
          rw [eq_of_same exact.1 alike.1, eq_of_sameItems exact.2 alike.2]

theorem eq_of_sameMembers : ∀ {members others : List (String × Json)},
    membersExact members = true → sameMembers members others = true → members = others
  | [], others, _, alike => by cases others <;> simp_all [sameMembers]
  | (name, value) :: rest, others, exact, alike => by
      cases others with
      | nil => simp [sameMembers] at alike
      | cons other others =>
          obtain ⟨otherName, otherValue⟩ := other
          simp only [membersExact, sameMembers, Bool.and_eq_true, beq_iff_eq] at exact alike
          obtain ⟨⟨sameName, sameValue⟩, sameRest⟩ := alike
          rw [sameName, eq_of_same exact.1 sameValue, eq_of_sameMembers exact.2 sameRest]

end

theorem same_iff_eq {first second : Json} (exact : first.isExact = true) :
    first.same second = true ↔ first = second :=
  ⟨eq_of_same exact, fun equal => equal ▸ same_self first⟩

end Json

end AffectedNodes
