import AffectedNodes.Json.Basic

/-!
# Field maps

The map from names to values that a JSON object denotes.  A field map keeps its entries in the
order of their names, each name once, so two field maps with equal look-ups are equal
(`FieldMap.ext_get?`) and everything that walks a map walks it in one order.  Names are ordered by
code point, which is the order of their UTF-8 bytes.
-/
namespace AffectedNodes

/-- A finite map from field names to values, ordered by name. -/
structure FieldMap where
  entries : List (String × Json)
  ordered : entries.Pairwise (fun first second => first.1 < second.1) := by simp

namespace FieldMap

def empty : FieldMap := ⟨[], List.Pairwise.nil⟩

instance : Inhabited FieldMap := ⟨empty⟩

def findValue (wanted : String) : List (String × Json) → Option Json
  | [] => none
  | (name, value) :: rest => if wanted = name then some value else findValue wanted rest

def get? (fields : FieldMap) (name : String) : Option Json := findValue name fields.entries

def contains (fields : FieldMap) (name : String) : Bool := (fields.get? name).isSome

def size (fields : FieldMap) : Nat := fields.entries.length

def isEmpty (fields : FieldMap) : Bool := fields.entries.isEmpty

def names (fields : FieldMap) : List String := fields.entries.map (·.1)

def insertEntry (name : String) (value : Json) :
    List (String × Json) → List (String × Json)
  | [] => [(name, value)]
  | (other, held) :: rest =>
      if name < other then (name, value) :: (other, held) :: rest
      else if name = other then (name, value) :: rest
      else (other, held) :: insertEntry name value rest

theorem mem_insertEntry {name : String} {value : Json} {entry : String × Json}
    {entries : List (String × Json)} (member : entry ∈ insertEntry name value entries) :
    entry = (name, value) ∨ entry ∈ entries := by
  induction entries with
  | nil => simpa [insertEntry] using member
  | cons head rest ih =>
      obtain ⟨other, held⟩ := head
      rw [insertEntry] at member
      split at member
      · simpa using member
      · split at member
        · simp only [List.mem_cons] at member ⊢
          exact member.imp_right Or.inr
        · simp only [List.mem_cons] at member ⊢
          rcases member with same | later
          · exact Or.inr (Or.inl same)
          · exact (ih later).imp_right Or.inr

theorem insertEntry_ordered (name : String) (value : Json) {entries : List (String × Json)}
    (ordered : entries.Pairwise (fun first second => first.1 < second.1)) :
    (insertEntry name value entries).Pairwise (fun first second => first.1 < second.1) := by
  induction entries with
  | nil => simp [insertEntry]
  | cons head rest ih =>
      obtain ⟨other, held⟩ := head
      have below := (List.pairwise_cons.mp ordered).1
      have restOrdered := (List.pairwise_cons.mp ordered).2
      rw [insertEntry]
      split
      · rename_i before
        refine List.pairwise_cons.mpr ⟨?_, ordered⟩
        intro entry member
        rcases List.mem_cons.mp member with same | later
        · exact same ▸ before
        · exact String.lt_trans before (below entry later)
      · split
        · rename_i same
          exact List.pairwise_cons.mpr ⟨fun entry member => same ▸ below entry member, restOrdered⟩
        · rename_i notBefore notSame
          refine List.pairwise_cons.mpr ⟨?_, ih restOrdered⟩
          intro entry member
          rcases mem_insertEntry member with same | later
          · subst same
            exact Std.lt_of_le_of_ne (String.not_lt.mp notBefore) (Ne.symm notSame)
          · exact below entry later

def insert (fields : FieldMap) (name : String) (value : Json) : FieldMap :=
  ⟨insertEntry name value fields.entries, insertEntry_ordered name value fields.ordered⟩

/-- The map with the field `name` set to `value` if it has no such field yet. -/
def insertNew (fields : FieldMap) (name : String) (value : Json) : FieldMap :=
  if fields.contains name then fields else fields.insert name value

/-- The map with the field `name` set to `value` if that field is missing or null. -/
def fill (fields : FieldMap) (name : String) (value : Json) : FieldMap :=
  match fields.get? name with
  | none | some .null => fields.insert name value
  | some _ => fields

def erase (fields : FieldMap) (name : String) : FieldMap :=
  ⟨fields.entries.filter fun entry => entry.1 != name, fields.ordered.filter _⟩

/-- The map that a list of members denotes: of a repeated name the last value counts. -/
def ofList (members : List (String × Json)) : FieldMap :=
  members.foldr (fun member fields => fields.insertNew member.1 member.2) empty

def overlay (base delta : FieldMap) : FieldMap :=
  delta.entries.foldl (fun fields entry => fields.insert entry.1 entry.2) base

def toJson (fields : FieldMap) : Json := .object fields.entries

def same (first second : FieldMap) : Bool := Json.sameMembers first.entries second.entries

def present? (fields : FieldMap) (name : String) : Option Json :=
  (fields.get? name).filter fun value => !value.isNull

@[simp] theorem get?_empty (name : String) : empty.get? name = none := rfl

theorem findValue_insertEntry (name wanted : String) (value : Json)
    (entries : List (String × Json)) :
    findValue wanted (insertEntry name value entries) =
      if wanted = name then some value else findValue wanted entries := by
  induction entries with
  | nil => simp [insertEntry, findValue]
  | cons head rest ih =>
      obtain ⟨other, held⟩ := head
      rw [insertEntry]
      split
      · simp [findValue]
      · split
        · rename_i same
          subst same
          by_cases wantedSame : wanted = name <;> simp [findValue, wantedSame]
        · rename_i notSame
          by_cases wantedOther : wanted = other
          · subst wantedOther
            simp [findValue, Ne.symm notSame]
          · simp [findValue, wantedOther, ih]

@[simp] theorem get?_insert (fields : FieldMap) (name wanted : String) (value : Json) :
    (fields.insert name value).get? wanted =
      if wanted = name then some value else fields.get? wanted :=
  findValue_insertEntry name wanted value fields.entries

theorem get?_insertNew (fields : FieldMap) (name wanted : String) (value : Json) :
    (fields.insertNew name value).get? wanted =
      if wanted = name then (fields.get? name).or (some value) else fields.get? wanted := by
  rw [insertNew, contains]
  cases held : fields.get? name with
  | none => simp
  | some old =>
      by_cases same : wanted = name
      · simp [same, held]
      · simp [same]

theorem get?_fill (fields : FieldMap) (name wanted : String) (value : Json) :
    (fields.fill name value).get? wanted =
      if wanted = name then some ((fields.present? name).getD value) else fields.get? wanted := by
  rw [fill, present?]
  cases held : fields.get? name with
  | none => simp
  | some old =>
      by_cases same : wanted = name
      · cases old <;> simp [same, held, Json.isNull, Option.filter]
      · cases old <;> simp [same]

theorem mem_of_get?_ofList {members : List (String × Json)} {name : String} {value : Json}
    (found : (ofList members).get? name = some value) : (name, value) ∈ members := by
  induction members with
  | nil => simp [ofList] at found
  | cons member rest ih =>
      obtain ⟨other, held⟩ := member
      rw [ofList, List.foldr_cons, get?_insertNew] at found
      split at found
      · rename_i same
        cases later : (ofList rest).get? other with
        | none =>
            rw [← ofList, later] at found
            simp_all
        | some old =>
            rw [← ofList, later] at found
            have sameValue : old = value := by simpa using found
            exact List.mem_cons_of_mem _ (ih (by rw [same, later, sameValue]))
      · exact List.mem_cons_of_mem _ (ih found)

theorem sizeOf_lt_of_get?_ofList {members : List (String × Json)} {name : String} {value : Json}
    (found : (ofList members).get? name = some value) :
    sizeOf value < sizeOf (Json.object members) := by
  have smaller := List.sizeOf_lt_of_mem (mem_of_get?_ofList found)
  simp only [Prod.mk.sizeOf_spec] at smaller
  simp only [Json.object.sizeOf_spec]
  omega

theorem findValue_eq_none {name : String} {entries : List (String × Json)}
    (above : ∀ entry ∈ entries, name < entry.1) : findValue name entries = none := by
  induction entries with
  | nil => rfl
  | cons head rest ih =>
      have headAbove := above head (by simp)
      have notHead : name ≠ head.1 := fun same => String.lt_irrefl _ (same ▸ headAbove)
      simp only [findValue, notHead, if_false]
      exact ih fun entry member => above entry (List.mem_cons_of_mem _ member)

theorem entries_eq_of_findValue {first second : List (String × Json)}
    (firstOrdered : first.Pairwise (fun a b => a.1 < b.1))
    (secondOrdered : second.Pairwise (fun a b => a.1 < b.1))
    (agree : ∀ name, findValue name first = findValue name second) : first = second := by
  induction first generalizing second with
  | nil =>
      cases second with
      | nil => rfl
      | cons head rest => simpa [findValue] using agree head.1
  | cons head rest ih =>
      obtain ⟨name, value⟩ := head
      cases second with
      | nil => simpa [findValue] using agree name
      | cons head' rest' =>
          obtain ⟨name', value'⟩ := head'
          have below := (List.pairwise_cons.mp firstOrdered).1
          have below' := (List.pairwise_cons.mp secondOrdered).1
          have notBefore : ¬ name < name' := fun before => by
            have missing := @findValue_eq_none name ((name', value') :: rest') (by
              intro entry member
              rcases List.mem_cons.mp member with same | later
              · exact same ▸ before
              · exact String.lt_trans before (below' entry later))
            have clash := agree name
            rw [missing] at clash
            simp [findValue] at clash
          have notAfter : ¬ name' < name := fun before => by
            have missing := @findValue_eq_none name' ((name, value) :: rest) (by
              intro entry member
              rcases List.mem_cons.mp member with same | later
              · exact same ▸ before
              · exact String.lt_trans before (below entry later))
            have clash := agree name'
            rw [missing] at clash
            simp [findValue] at clash
          have same : name = name' :=
            String.le_antisymm (String.not_lt.mp notAfter) (String.not_lt.mp notBefore)
          subst same
          have sameValue : value = value' := by simpa [findValue] using agree name
          subst sameValue
          have restAgree : ∀ wanted, findValue wanted rest = findValue wanted rest' := by
            intro wanted
            by_cases atHead : wanted = name
            · subst atHead
              rw [findValue_eq_none below, findValue_eq_none below']
            · simpa [findValue, atHead] using agree wanted
          rw [ih (List.pairwise_cons.mp firstOrdered).2 (List.pairwise_cons.mp secondOrdered).2
            restAgree]

theorem ext_get? {first second : FieldMap} (agree : ∀ name, first.get? name = second.get? name) :
    first = second := by
  obtain ⟨entries, ordered⟩ := first
  obtain ⟨entries', ordered'⟩ := second
  obtain rfl := entries_eq_of_findValue ordered ordered' agree
  rfl

end FieldMap

def Json.fields? : Json → Option FieldMap
  | .object members => some (FieldMap.ofList members)
  | _ => none

def Json.items? : Json → Option (List Json)
  | .array items => some items
  | _ => none

end AffectedNodes
