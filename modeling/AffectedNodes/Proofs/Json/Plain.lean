import AffectedNodes.Proofs.Json.Lookup

/-!
# Plain values

A value is plain if reading what is printed for it can be expected to give it back: its numbers are
integers that fit a word, each of its objects has its members in the order of their names, and its
containers are not nested too deep.  An object made from a list of members is plain if their values
are, however the list is ordered.
-/
namespace AffectedNodes

def Number.isWord : Number → Bool
  | .integer value => -(UInt64.size / 2 : Int) ≤ value && value < UInt64.size
  | .double _ => false

namespace Json

mutual

/-- Whether a value is plain and has at most `depth` containers inside each other. -/
def isPlain : Nat → Json → Bool
  | _, .null | _, .bool _ | _, .string _ => true
  | _, .number value => value.isWord
  | 0, .array _ | 0, .object _ => false
  | depth + 1, .array items => itemsPlain depth items
  | depth + 1, .object members =>
      decide (members.Pairwise fun first second => first.1 < second.1) && membersPlain depth members

def itemsPlain : Nat → List Json → Bool
  | _, [] => true
  | depth, item :: rest => isPlain depth item && itemsPlain depth rest

def membersPlain : Nat → List (String × Json) → Bool
  | _, [] => true
  | depth, (_, value) :: rest => isPlain depth value && membersPlain depth rest

end

variable {depth : Nat} {items : List Json} {members : List (String × Json)}

@[simp] theorem isPlain_string (text : String) : isPlain depth (.string text) = true := by
  cases depth <;> rfl

theorem isPlain_number (value : Number) : isPlain depth (.number value) = value.isWord := by
  cases depth <;> rfl

theorem isPlain_nat {n : Nat} (fits : n < UInt64.size) : isPlain depth (.nat n) = true := by
  rw [nat, isPlain_number, Number.isWord, Bool.and_eq_true, decide_eq_true_iff, decide_eq_true_iff]
  omega

theorem itemsPlain_iff :
    itemsPlain depth items = true ↔ ∀ item ∈ items, item.isPlain depth = true := by
  induction items with
  | nil => simp [itemsPlain]
  | cons item rest ih => rw [itemsPlain, Bool.and_eq_true, ih, List.forall_mem_cons]

theorem membersPlain_iff :
    membersPlain depth members = true ↔ ∀ member ∈ members, member.2.isPlain depth = true := by
  induction members with
  | nil => simp [membersPlain]
  | cons member rest ih => rw [membersPlain, Bool.and_eq_true, ih, List.forall_mem_cons]

theorem isPlain_array :
    isPlain (depth + 1) (.array items) = true ↔ ∀ item ∈ items, item.isPlain depth = true :=
  itemsPlain_iff

theorem isPlain_object :
    isPlain (depth + 1) (.object members) = true ↔
      (members.Pairwise fun first second => first.1 < second.1) ∧
        ∀ member ∈ members, member.2.isPlain depth = true := by
  rw [isPlain, Bool.and_eq_true, decide_eq_true_iff, membersPlain_iff]

theorem isPlain_toJson {fields : FieldMap}
    (plain : ∀ name value, fields.get? name = some value → value.isPlain depth = true) :
    isPlain (depth + 1) fields.toJson = true :=
  isPlain_object.mpr ⟨fields.ordered, fun ⟨name, value⟩ member =>
    plain name value (FieldMap.get?_eq_some_iff.mpr member)⟩

theorem isPlain_ofList (plain : ∀ member ∈ members, member.2.isPlain depth = true) :
    isPlain (depth + 1) (FieldMap.ofList members).toJson = true :=
  isPlain_toJson fun _ _ found => plain _ (FieldMap.mem_of_get?_ofList found)

end Json

end AffectedNodes
