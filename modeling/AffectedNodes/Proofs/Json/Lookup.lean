import AffectedNodes.Json.FieldMap

/-!
# Field maps by look-up

A field map is determined by its look-ups, so each operation on field maps is described by the
look-ups of its result: a list of members, a part, an overlay, the fields of an object that was
made from a map.  Two facts about overlays are drawn from that: what an overlay leaves as it was,
and when nothing but the delta is left.
-/
namespace AffectedNodes

namespace FieldMap

variable {base delta fields : FieldMap} {name : String} {value : Json}

@[simp] theorem get?_ofList_nil (wanted : String) : (ofList []).get? wanted = none := rfl

/-- Of the values under one name the last one counts. -/
theorem get?_ofList_cons (name wanted : String) (value : Json) (rest : List (String × Json)) :
    (ofList ((name, value) :: rest)).get? wanted =
      ((ofList rest).get? wanted).or (if wanted = name then some value else none) := by
  rw [ofList, List.foldr_cons, get?_insertNew, ← ofList]
  by_cases same : wanted = name
  · rw [if_pos same, if_pos same, same]
  · rw [if_neg same, if_neg same, Option.or_none]

theorem get?_ofList_append (first second : List (String × Json)) (wanted : String) :
    (ofList (first ++ second)).get? wanted =
      ((ofList second).get? wanted).or ((ofList first).get? wanted) := by
  induction first with
  | nil => rw [List.nil_append, get?_ofList_nil, Option.or_none]
  | cons member rest ih =>
      rw [List.cons_append, get?_ofList_cons, get?_ofList_cons, ih, Option.or_assoc]

/-- In an ordered list the names differ, so the first value under a name is the last one too. -/
theorem get?_ofList_ordered {entries : List (String × Json)}
    (ordered : entries.Pairwise (fun first second => first.1 < second.1)) (wanted : String) :
    (ofList entries).get? wanted = findValue wanted entries := by
  induction entries with
  | nil => rfl
  | cons head rest ih =>
      obtain ⟨name, value⟩ := head
      have below := (List.pairwise_cons.mp ordered).1
      rw [get?_ofList_cons, ih (List.pairwise_cons.mp ordered).2, findValue]
      by_cases same : wanted = name
      · subst same
        rw [findValue_eq_none below, if_pos rfl, Option.none_or]
      · rw [if_neg same, if_neg same, Option.or_none]

@[simp] theorem ofList_entries (fields : FieldMap) : ofList fields.entries = fields :=
  ext_get? fun name => get?_ofList_ordered fields.ordered name

@[simp] theorem fields?_toJson (fields : FieldMap) : fields.toJson.fields? = some fields := by
  rw [toJson, Json.fields?, ofList_entries]

theorem findValue_eq_some_iff {entries : List (String × Json)}
    (ordered : entries.Pairwise (fun first second => first.1 < second.1)) :
    findValue name entries = some value ↔ (name, value) ∈ entries := by
  induction entries with
  | nil => simp [findValue]
  | cons head rest ih =>
      obtain ⟨other, held⟩ := head
      have below := (List.pairwise_cons.mp ordered).1
      have restIff := ih (List.pairwise_cons.mp ordered).2
      by_cases same : name = other
      · subst same
        have notLater : (name, value) ∉ rest := fun later =>
          String.lt_irrefl _ (below (name, value) later)
        simp [findValue, notLater, eq_comm]
      · simp [findValue, same, restIff]

theorem get?_eq_some_iff : fields.get? name = some value ↔ (name, value) ∈ fields.entries :=
  findValue_eq_some_iff fields.ordered

theorem mem_names_iff : name ∈ fields.names ↔ (fields.get? name).isSome = true := by
  rw [Option.isSome_iff_exists, names, List.mem_map]
  constructor
  · rintro ⟨⟨other, value⟩, member, rfl⟩
    exact ⟨value, get?_eq_some_iff.mpr member⟩
  · rintro ⟨value, found⟩
    exact ⟨(name, value), get?_eq_some_iff.mp found, rfl⟩

theorem isEmpty_iff : fields.isEmpty = true ↔ fields = empty := by
  rw [isEmpty, List.isEmpty_iff]
  exact ⟨fun none => ext_get? fun name => by rw [get?, none]; rfl, fun same => same ▸ rfl⟩

theorem isEmpty_ofList_iff {members : List (String × Json)} :
    (ofList members).isEmpty = true ↔ members = [] := by
  cases members with
  | nil => exact iff_of_true rfl rfl
  | cons member rest =>
      refine iff_of_false ?_ nofun
      intro nothing
      have held := get?_ofList_cons member.1 member.1 member.2 rest
      rw [isEmpty_iff.mp nothing, if_pos rfl, Option.or_some] at held
      cases held

theorem present?_eq_some_iff :
    fields.present? name = some value ↔ fields.get? name = some value ∧ value ≠ .null := by
  rw [present?, Option.filter_eq_some_iff]
  cases value <;> simp [Json.isNull]

theorem present?_eq_none_iff :
    fields.present? name = none ↔ fields.get? name = none ∨ fields.get? name = some .null := by
  rw [present?]
  cases fields.get? name with
  | none => simp
  | some value => cases value <;> simp [Option.filter, Json.isNull]

theorem present?_congr {other : FieldMap} (same : fields.get? name = other.get? name) :
    fields.present? name = other.present? name := by
  rw [present?, present?, same]

theorem present?_insert_self (fields : FieldMap) (name : String) (notNull : value ≠ .null) :
    (fields.insert name value).present? name = some value := by
  rw [present?_eq_some_iff, get?_insert, if_pos rfl]
  exact ⟨rfl, notNull⟩

def keep (keeps : String → Bool) (fields : FieldMap) : FieldMap :=
  ⟨fields.entries.filter fun entry => keeps entry.1, fields.ordered.filter _⟩

theorem get?_keep (keeps : String → Bool) (fields : FieldMap) (name : String) :
    (fields.keep keeps).get? name = if keeps name then fields.get? name else none := by
  apply Option.ext
  intro value
  rw [get?_eq_some_iff, keep, List.mem_filter, ← get?_eq_some_iff]
  cases keeps name <;> simp

theorem get?_erase (fields : FieldMap) (name wanted : String) :
    (fields.erase name).get? wanted = if wanted = name then none else fields.get? wanted := by
  change (fields.keep fun other => other != name).get? wanted = _
  rw [get?_keep]
  by_cases same : wanted = name <;> simp [same]

theorem keep_congr {keeps : String → Bool} {other : FieldMap}
    (agree : ∀ name, keeps name = true → fields.get? name = other.get? name) :
    fields.keep keeps = other.keep keeps := by
  apply ext_get?
  intro name
  rw [get?_keep, get?_keep]
  split
  · exact agree name ‹_›
  · rfl

def without (removed : List String) (fields : FieldMap) : FieldMap :=
  fields.keep fun name => !removed.contains name

theorem get?_without (removed : List String) (fields : FieldMap) (name : String) :
    (fields.without removed).get? name = if name ∈ removed then none else fields.get? name := by
  rw [without, get?_keep]
  by_cases gone : name ∈ removed <;> simp [gone]

theorem without_singleton (fields : FieldMap) (name : String) :
    fields.without [name] = fields.erase name := by
  apply ext_get?
  intro wanted
  rw [get?_without, get?_erase]
  simp only [List.mem_singleton]

def setEach (values : String → Json) (given : List String) (fields : FieldMap) : FieldMap :=
  given.foldr (fun name fields => fields.insert name (values name)) fields

theorem get?_setEach (values : String → Json) (given : List String) (fields : FieldMap)
    (name : String) :
    (fields.setEach values given).get? name =
      if name ∈ given then some (values name) else fields.get? name := by
  induction given with
  | nil => rfl
  | cons first rest ih =>
      change ((fields.setEach values rest).insert first (values first)).get? name = _
      rw [get?_insert, ih]
      by_cases same : name = first <;> simp [same]

def select (selects : String × Json → Bool) (fields : FieldMap) : FieldMap :=
  ⟨fields.entries.filter selects, fields.ordered.filter _⟩

theorem get?_select (selects : String × Json → Bool) (fields : FieldMap) (name : String) :
    (fields.select selects).get? name =
      (fields.get? name).filter fun value => selects (name, value) := by
  apply Option.ext
  intro value
  rw [get?_eq_some_iff, select, List.mem_filter, Option.filter_eq_some_iff, get?_eq_some_iff]

theorem get?_foldl_insert {entries : List (String × Json)}
    (ordered : entries.Pairwise (fun first second => first.1 < second.1)) (base : FieldMap)
    (wanted : String) :
    (entries.foldl (fun fields entry => fields.insert entry.1 entry.2) base).get? wanted =
      (findValue wanted entries).or (base.get? wanted) := by
  induction entries generalizing base with
  | nil => rfl
  | cons head rest ih =>
      obtain ⟨name, value⟩ := head
      have below := (List.pairwise_cons.mp ordered).1
      rw [List.foldl_cons, ih (List.pairwise_cons.mp ordered).2, get?_insert, findValue]
      by_cases same : wanted = name
      · subst same
        rw [findValue_eq_none below, if_pos rfl, if_pos rfl, Option.none_or, Option.some_or]
      · rw [if_neg same, if_neg same]

@[simp] theorem get?_overlay (base delta : FieldMap) (name : String) :
    (base.overlay delta).get? name = (delta.get? name).or (base.get? name) :=
  get?_foldl_insert delta.ordered base name

theorem overlay_eq_delta_iff :
    base.overlay delta = delta ↔ ∀ name, name ∈ base.names → name ∈ delta.names := by
  constructor
  · intro same name member
    rw [mem_names_iff] at member ⊢
    have found := get?_overlay base delta name
    rw [same] at found
    rw [found]
    cases delta.get? name <;> simp [member]
  · intro within
    refine ext_get? fun name => ?_
    rw [get?_overlay]
    cases inDelta : delta.get? name with
    | some value => rfl
    | none =>
        rw [Option.none_or]
        have notNamed : name ∉ base.names := fun member => by
          simpa [mem_names_iff, inDelta] using within name member
        simpa [mem_names_iff] using notNamed

end FieldMap

end AffectedNodes
