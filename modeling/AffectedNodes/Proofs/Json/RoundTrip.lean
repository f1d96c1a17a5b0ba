import AffectedNodes.Json.Reader
import AffectedNodes.Proofs.Json.Printing

/-!
# Printed values read back

A plain value is read from its own tokens, and so from what is printed for it, compactly or over
several lines.  The machine that reads tokens is followed over the tokens of one value, with any
containers open around it: it ends up where handing that value to the innermost one leads.
-/
namespace AffectedNodes.Json

variable {value : Json} {opened : List Container} {progress : Progress} {text : String}

/-- A state from which a value goes on with these containers open.  A bracket that closes an array
may also stand there. -/
def Awaits (opened : List Container) (progress : Progress) : Prop :=
  ∀ token, token ≠ .closeArray → advance? progress token = beginValue? opened token

def AwaitsMember (held : List (String × Json)) (opened : List Container) (progress : Progress) :
    Prop :=
  ∀ name, advance? progress (.string name) = some (.reading (.member held name :: opened) .colon)

theorem awaits_value (opened : List Container) : Awaits opened (.reading opened .value) :=
  fun _ _ => rfl

theorem awaits_firstItem (opened : List Container) : Awaits opened (.reading opened .firstItem) := by
  intro token notClosing
  cases token <;> first | rfl | exact absurd rfl notClosing

/-- A container takes up one level of the nesting that is allowed. -/
theorem room_inside {depth : Nat} (container : Container)
    (room : opened.length + (depth + 1) ≤ deepestNesting) :
    (container :: opened).length + depth ≤ deepestNesting := by
  rw [List.length_cons]
  omega

theorem Awaits.openContainer (awaits : Awaits opened progress)
    (room : opened.length < deepestNesting) :
    advance? progress .openArray = some (.reading (.items [] :: opened) .firstItem) ∧
      advance? progress .openObject = some (.reading (.members [] :: opened) .firstMember) := by
  rw [awaits .openArray nofun, awaits .openObject nofun, beginValue?, beginValue?, openContainer?,
    openContainer?, if_pos room, if_pos room]
  exact ⟨rfl, rfl⟩

theorem Awaits.single {token : Token} (awaits : Awaits opened progress)
    (begins : beginValue? opened token = some (deliver value opened)) :
    [token].foldlM advance? progress = some (deliver value opened) := by
  have notClosing : token ≠ .closeArray := by
    rintro rfl
    cases begins
  rw [List.foldlM_cons, awaits token notClosing, begins]
  rfl

theorem AwaitsMember.foldlM {held : List (String × Json)} {name : String}
    (awaits : AwaitsMember held opened progress)
    (read : (tokensOf value).foldlM advance? (.reading (.member held name :: opened) .value) =
      some (deliver value (.member held name :: opened))) :
    (.string name :: .colon :: tokensOf value).foldlM advance? progress =
      some (.reading (.members ((name, value) :: held) :: opened) .separator) := by
  rw [List.foldlM_cons, awaits name]
  exact read

theorem reverse_append_cons {α : Type} (held : List α) (entry : α) (rest : List α) :
    held.reverse ++ entry :: rest = (entry :: held).reverse ++ rest := by
  rw [List.reverse_cons, List.append_assoc, List.singleton_append]

mutual

/-- From its tokens a plain value is read and handed to the innermost open container. -/
theorem foldlM_tokensOf : ∀ {depth} {value : Json} {opened progress}, value.isPlain depth = true →
    opened.length + depth ≤ deepestNesting → Awaits opened progress →
    (tokensOf value).foldlM advance? progress = some (deliver value opened)
  | _, .null, _, _, _, _, awaits => awaits.single rfl
  | _, .bool _, _, _, _, _, awaits => awaits.single rfl
  | _, .number _, _, _, _, _, awaits => awaits.single rfl
  | _, .string _, _, _, _, _, awaits => awaits.single rfl
  | 0, .array _, _, _, plain, _, _ | 0, .object _, _, _, plain, _, _ => by cases plain
  | depth + 1, .array items, opened, progress, plain, room, awaits => by
      have first := (awaits.openContainer (by omega)).1
      have entered : Awaits (.items [] :: opened) (.reading (.items [] :: opened) .firstItem) :=
        awaits_firstItem _
      rw [tokensOf, List.foldlM_cons, first]
      cases items with
      | nil => rfl
      | cons item rest =>
          have read := foldlM_itemTokens plain (by omega) entered
          exact read
  | depth + 1, .object members, opened, progress, plain, room, awaits => by
      have first := (awaits.openContainer (by omega)).2
      obtain ⟨ordered, each⟩ := isPlain_object.mp plain
      -- an object that is closed sorts its members, which changes nothing about ordered ones
      have denoted : FieldMap.ofList members = ⟨members, ordered⟩ :=
        FieldMap.ofList_entries ⟨members, ordered⟩
      have entered : AwaitsMember [] opened (.reading (.members [] :: opened) .firstMember) :=
        fun _ => rfl
      rw [tokensOf, List.foldlM_cons, first]
      cases members with
      | nil => rfl
      | cons member rest =>
          have read := foldlM_memberTokens (membersPlain_iff.mpr each) (by omega) entered
          rw [List.reverse_nil, List.nil_append, denoted] at read
          exact read

theorem foldlM_itemTokens : ∀ {depth} {item : Json} {rest : List Json} {held opened progress},
    itemsPlain depth (item :: rest) = true → opened.length + (depth + 1) ≤ deepestNesting →
    Awaits (.items held :: opened) progress →
    ([Token.comma].intercalate (itemTokens (item :: rest)) ++ [Token.closeArray]).foldlM advance?
      progress = some (deliver (.array (held.reverse ++ item :: rest)) opened)
  | depth, item, [], held, opened, progress, plain, room, awaits => by
      have here : item.isPlain depth = true := (Bool.and_eq_true_iff.mp plain).1
      have inside := room_inside (.items held) room
      rw [itemTokens, itemTokens, List.intercalate_singleton, List.foldlM_append,
        foldlM_tokensOf here inside awaits, reverse_append_cons, List.append_nil]
      rfl
  | depth, item, next :: rest, held, opened, progress, plain, room, awaits => by
      obtain ⟨here, later⟩ := Bool.and_eq_true_iff.mp plain
      have inside := room_inside (.items held) room
      rw [itemTokens, itemTokens, List.intercalate_cons_cons, List.append_assoc, List.append_assoc,
        List.foldlM_append, foldlM_tokensOf here inside awaits, reverse_append_cons]
      exact foldlM_itemTokens later room (awaits_value _)

theorem foldlM_memberTokens : ∀ {depth} {member : String × Json} {rest : List (String × Json)}
    {held opened progress},
    membersPlain depth (member :: rest) = true → opened.length + (depth + 1) ≤ deepestNesting →
    AwaitsMember held opened progress →
    ([Token.comma].intercalate (memberTokens (member :: rest)) ++ [Token.closeObject]).foldlM
      advance? progress =
        some (deliver (FieldMap.ofList (held.reverse ++ member :: rest)).toJson opened)
  | depth, (name, value), [], held, opened, progress, plain, room, awaits => by
      have here : value.isPlain depth = true := (Bool.and_eq_true_iff.mp plain).1
      have inside := room_inside (.member held name) room
      have read := awaits.foldlM (foldlM_tokensOf here inside (awaits_value _))
      rw [memberTokens, memberTokens, List.intercalate_singleton, List.foldlM_append, read,
        reverse_append_cons, List.append_nil]
      rfl
  | depth, (name, value), next :: rest, held, opened, progress, plain, room, awaits => by
      obtain ⟨here, later⟩ := Bool.and_eq_true_iff.mp plain
      have inside := room_inside (.member held name) room
      have read := awaits.foldlM (foldlM_tokensOf here inside (awaits_value _))
      -- the comma leads to a state that awaits the next member, with this one held in front
      rw [memberTokens, memberTokens, List.intercalate_cons_cons, List.append_assoc,
        List.append_assoc, List.foldlM_append, read, reverse_append_cons]
      exact foldlM_memberTokens later room fun _ => rfl

end

theorem parse?_of_isText (plain : value.isPlain deepestNesting = true)
    (reads : IsText text (tokensOf value)) : parse? text = some value := by
  have lexed := reads [] [] trivial lexes_nil
  rw [List.append_nil, List.append_nil] at lexed
  have cut : tokens? text = some (tokensOf value) := lexed _ (Nat.le_refl _)
  have outermost : ([] : List Container).length + deepestNesting ≤ deepestNesting :=
    Nat.le_of_eq (Nat.zero_add _)
  have read := foldlM_tokensOf plain outermost (awaits_value [])
  rw [parse?, cut]
  change (tokensOf value).foldlM advance? (.reading [] .value) >>= _ = _
  rw [read]
  rfl

theorem parse?_compact (plain : value.isPlain deepestNesting = true) :
    parse? value.compact = some value :=
  parse?_of_isText plain (isText_compact plain)

theorem parse?_pretty (plain : value.isPlain deepestNesting = true) :
    parse? value.pretty = some value :=
  parse?_of_isText plain (isText_prettyAt 0 plain)

/-- Plain values that are printed alike are equal. -/
theorem pretty_injective {other : Json} (plain : value.isPlain deepestNesting = true)
    (plain' : other.isPlain deepestNesting = true) (same : value.pretty = other.pretty) :
    value = other := by
  have read := parse?_pretty plain
  rw [same, parse?_pretty plain'] at read
  exact (Option.some.inj read).symm

end AffectedNodes.Json
