import AffectedNodes.Input
import AffectedNodes.Proofs.Json.Lookup
import AffectedNodes.Proofs.Steps
import Mathlib.Data.List.Chain

/-!
# What a value is classified as

An array is a list of nodes.  From an object a chain leads inwards, from each object to its member
`meta`, or to `metaData` where there is no `meta`, and the first object on the chain that has
affected nodes is the metadata.  Anything else is no input, an array at the end of a chain
included.  So it does not matter how many wrappings there are around metadata, and what else they
hold.
-/
namespace AffectedNodes

def Json.HasNodes (value : Json) : Prop :=
  ∃ fields nodes, value.fields? = some fields ∧ fields.get? "AffectedNodes" = some nodes

namespace Input

/-- The step of a chain: to the member `meta` of an object, or to `metaData` if that is missing. -/
inductive Wraps (outer inner : Json) : Prop where
  | newer {fields : FieldMap} (object : outer.fields? = some fields)
      (held : fields.get? "meta" = some inner) : Wraps outer inner
  | older {fields : FieldMap} (object : outer.fields? = some fields)
      (noNewer : fields.get? "meta" = none) (held : fields.get? "metaData" = some inner) :
      Wraps outer inner

/-- The chain from a value to the first object on it that has affected nodes, with the objects
around that one, the outermost first. -/
structure LeadsTo (value : Json) (outer : List Json) (found : Json) : Prop where
  begins : (outer ++ [found]).head? = some value
  linked : (outer ++ [found]).IsChain Wraps
  objects : ∀ link ∈ outer ++ [found], ∃ fields, link.fields? = some fields
  first : ∀ link ∈ outer, ¬ link.HasNodes
  hasNodes : found.HasNodes

/-- A wrapping: the name of the member that is wrapped, and the members before and after it. -/
structure Wrapping where
  name : String
  before : List (String × Json)
  after : List (String × Json)
  named : name = "meta" ∨ name = "metaData"
  siblings : ∀ member ∈ before ++ after, member.1 ∉ ["AffectedNodes", "meta", name]

def Wrapping.around (wrapping : Wrapping) (inner : Json) : Json :=
  .object (wrapping.before ++ (wrapping.name, inner) :: wrapping.after)

def Wrapping.aroundAll (wrappings : List Wrapping) (inner : Json) : Json :=
  wrappings.foldr around inner

variable {value outer inner found : Json} {members : List (String × Json)}

/-! ### One step -/

theorem hasNodes_object_iff :
    (Json.object members).HasNodes ↔
      (FieldMap.ofList members).contains "AffectedNodes" = true := by
  rw [FieldMap.contains, Option.isSome_iff_exists]
  constructor
  · rintro ⟨fields, nodes, object, held⟩
    cases object
    exact ⟨nodes, held⟩
  · rintro ⟨nodes, held⟩
    exact ⟨_, nodes, rfl, held⟩

theorem wraps_object_iff :
    Wraps (.object members) inner ↔ wrapped? (FieldMap.ofList members) = some inner := by
  rw [wrapped?, Option.or_eq_some_iff]
  constructor
  · intro wraps
    cases wraps with
    | newer object held =>
        cases object
        exact Or.inl held
    | older object noNewer held =>
        cases object
        exact Or.inr ⟨noNewer, held⟩
  · rintro (held | ⟨noNewer, held⟩)
    · exact .newer rfl held
    · exact .older rfl noNewer held

theorem classify_of_hasNodes (hasNodes : value.HasNodes) :
    classify value = .ok (.metadata value) := by
  cases value with
  | object members =>
      rw [classify]
      exact if_pos (hasNodes_object_iff.mp hasNodes)
  | _ => obtain ⟨_, _, object, _⟩ := hasNodes; cases object

theorem classify_of_wraps (noNodes : ¬ outer.HasNodes) (wraps : Wraps outer inner) :
    classify outer = if inner.fields?.isSome then classify inner else .error .noMetadata := by
  cases outer with
  | object members =>
      rw [classify]
      simp only [if_neg (hasNodes_object_iff.not.mp noNodes)]
      have wrapped := wraps_object_iff.mp wraps
      split
      · rename_i members' wrapped'
        cases wrapped.symm.trans wrapped'
        rfl
      · rename_i notObject
        cases inner with
        | object members' => exact absurd wrapped (notObject members')
        | _ => rfl
  | _ => cases wraps <;> contradiction

/-! ### Chains -/

namespace LeadsTo

variable {outers : List Json}

theorem here (hasNodes : value.HasNodes) : LeadsTo value [] value where
  begins := rfl
  linked := List.isChain_singleton value
  objects := by
    obtain ⟨fields, _, object, _⟩ := hasNodes
    intro link member
    rw [List.mem_singleton.mp member]
    exact ⟨fields, object⟩
  first := nofun
  hasNodes := hasNodes

theorem step (noNodes : ¬ outer.HasNodes) (wraps : Wraps outer inner)
    (leads : LeadsTo inner outers found) : LeadsTo outer (outer :: outers) found where
  begins := rfl
  linked := by
    rw [List.cons_append, List.isChain_cons, leads.begins]
    exact ⟨fun _ same => Option.some.inj same ▸ wraps, leads.linked⟩
  objects := by
    intro link member
    rcases List.mem_cons.mp member with rfl | later
    · cases wraps with
      | newer object | older object => exact ⟨_, object⟩
    · exact leads.objects link later
  first := by
    intro link member
    rcases List.mem_cons.mp member with rfl | later
    · exact noNodes
    · exact leads.first link later
  hasNodes := leads.hasNodes

theorem exists_step (leads : LeadsTo value (outer :: outers) found) :
    value = outer ∧ ¬ outer.HasNodes ∧
      ∃ inner, Wraps outer inner ∧ LeadsTo inner outers found := by
  obtain ⟨inner, begins⟩ : ∃ inner, (outers ++ [found]).head? = some inner := by
    cases outers <;> exact ⟨_, rfl⟩
  have linked := leads.linked
  rw [List.cons_append, List.isChain_cons, begins] at linked
  refine ⟨(Option.some.inj leads.begins).symm, leads.first outer List.mem_cons_self, inner,
    linked.1 inner rfl, ?_⟩
  exact {
    begins
    linked := linked.2
    objects := fun link member => leads.objects link (List.mem_cons_of_mem _ member)
    first := fun link member => leads.first link (List.mem_cons_of_mem _ member)
    hasNodes := leads.hasNodes }

theorem isSome_fields? (leads : LeadsTo value outers found) : value.fields?.isSome = true := by
  obtain ⟨fields, object⟩ := leads.objects value (List.mem_of_mem_head? leads.begins)
  rw [object]
  rfl

theorem classify_eq (leads : LeadsTo value outers found) :
    classify value = .ok (.metadata found) := by
  induction outers generalizing value with
  | nil =>
      cases leads.begins
      exact classify_of_hasNodes leads.hasNodes
  | cons outer outers ih =>
      obtain ⟨rfl, noNodes, inner, wraps, later⟩ := leads.exists_step
      rw [classify_of_wraps noNodes wraps, if_pos later.isSome_fields?]
      exact ih later

end LeadsTo

/-! ### Classification -/

/-- A value is a list of nodes, leads to metadata, or is refused for what it is. -/
theorem classify_cases (value : Json) :
    (∃ elements, value = .array elements ∧ classify value = .ok (.nodes elements)) ∨
    (∃ outer found, LeadsTo value outer found) ∨
    (value.fields?.isSome = true ∧ classify value = .error .noMetadata) ∨
    (value.fields? = none ∧ classify value = .error (.noContainer value)) := by
  fun_induction classify value with
  | case1 elements => exact Or.inl ⟨elements, rfl, rfl⟩
  | case2 members fields listed =>
      exact Or.inr (Or.inl ⟨[], _, .here (hasNodes_object_iff.mpr listed)⟩)
  | case3 members fields unlisted inner wrapped ih =>
      have noNodes := hasNodes_object_iff.not.mpr unlisted
      have wraps := wraps_object_iff.mpr wrapped
      rcases ih with ⟨_, same, -⟩ | ⟨outer, found, leads⟩ | ⟨-, refused⟩ | ⟨noObject, -⟩
      · cases same
      · exact Or.inr (Or.inl ⟨_, found, leads.step noNodes wraps⟩)
      · exact Or.inr (Or.inr (Or.inl ⟨rfl, refused⟩))
      · cases noObject
  | case4 members fields unlisted notObject => exact Or.inr (Or.inr (Or.inl ⟨rfl, rfl⟩))
  | case5 other notArray notObject =>
      refine Or.inr (Or.inr (Or.inr ⟨?_, rfl⟩))
      cases other with
      | object members => exact absurd rfl (notObject members)
      | _ => rfl

theorem classify_eq_nodes_iff {elements : List Json} :
    classify value = .ok (.nodes elements) ↔ value = .array elements := by
  constructor
  · intro classified
    rcases classify_cases value with ⟨elements', rfl, classified'⟩ | ⟨outer, found, leads⟩ |
      ⟨-, refused⟩ | ⟨-, refused⟩
    · cases classified'.symm.trans classified
      rfl
    · cases leads.classify_eq.symm.trans classified
    · cases refused.symm.trans classified
    · cases refused.symm.trans classified
  · rintro rfl
    rw [classify]

theorem classify_eq_metadata_iff :
    classify value = .ok (.metadata found) ↔ ∃ outer, LeadsTo value outer found := by
  constructor
  · intro classified
    rcases classify_cases value with ⟨_, -, classified'⟩ | ⟨outer, found', leads⟩ |
      ⟨-, refused⟩ | ⟨-, refused⟩
    · cases classified'.symm.trans classified
    · cases leads.classify_eq.symm.trans classified
      exact ⟨outer, leads⟩
    · cases refused.symm.trans classified
    · cases refused.symm.trans classified
  · rintro ⟨outer, leads⟩
    exact leads.classify_eq

theorem exists_classify_eq_error_iff :
    (∃ fault, classify value = .error fault) ↔
      (∀ elements, value ≠ .array elements) ∧ ∀ outer found, ¬ LeadsTo value outer found := by
  constructor
  · rintro ⟨fault, refused⟩
    constructor
    · intro elements same
      cases (classify_eq_nodes_iff.mpr same).symm.trans refused
    · intro outer found leads
      cases leads.classify_eq.symm.trans refused
  · rintro ⟨notArray, nowhere⟩
    rcases classify_cases value with ⟨elements, same, -⟩ | ⟨outer, found, leads⟩ |
      ⟨-, refused⟩ | ⟨-, refused⟩
    · exact absurd same (notArray elements)
    · exact absurd leads (nowhere outer found)
    · exact ⟨_, refused⟩
    · exact ⟨_, refused⟩

/-- Which fault it is depends on whether the value is an object. -/
theorem fault_of_classify {fault : Fault} (refused : classify value = .error fault) :
    fault = if value.fields?.isSome then .noMetadata else .noContainer value := by
  rcases classify_cases value with ⟨_, -, classified⟩ | ⟨outer, found, leads⟩ |
    ⟨object, refused'⟩ | ⟨noObject, refused'⟩
  · cases classified.symm.trans refused
  · cases leads.classify_eq.symm.trans refused
  · cases refused'.symm.trans refused
    rw [if_pos object]
  · cases refused'.symm.trans refused
    rw [noObject]
    rfl

/-! ### Wrappings -/

namespace Wrapping

variable (wrapping : Wrapping) (inner : Json)

theorem get?_siblings {name : String} (reserved : name ∈ ["AffectedNodes", "meta", wrapping.name])
    {members : List (String × Json)} (within : ∀ member ∈ members,
      member ∈ wrapping.before ++ wrapping.after) :
    (FieldMap.ofList members).get? name = none := by
  cases held : (FieldMap.ofList members).get? name with
  | none => rfl
  | some value =>
      have member := within _ (FieldMap.mem_of_get?_ofList held)
      exact absurd reserved (wrapping.siblings _ member)

theorem exists_fields_around :
    ∃ fields, (wrapping.around inner).fields? = some fields ∧
      ∀ name ∈ ["AffectedNodes", "meta", wrapping.name],
        fields.get? name = if name = wrapping.name then some inner else none := by
  refine ⟨_, rfl, ?_⟩
  intro name reserved
  have noBefore : (FieldMap.ofList wrapping.before).get? name = none :=
    wrapping.get?_siblings reserved fun _ => List.mem_append_left _
  have noAfter : (FieldMap.ofList wrapping.after).get? name = none :=
    wrapping.get?_siblings reserved fun _ => List.mem_append_right _
  rw [FieldMap.get?_ofList_append, FieldMap.get?_ofList_cons, noBefore, noAfter, Option.none_or,
    Option.or_none]

theorem not_hasNodes_around : ¬ (wrapping.around inner).HasNodes := by
  obtain ⟨fields, object, reserved⟩ := wrapping.exists_fields_around inner
  rintro ⟨_, nodes, object', held⟩
  cases object.symm.trans object'
  have notOwn : "AffectedNodes" ≠ wrapping.name := by
    rcases wrapping.named with named | named <;> simp [named]
  rw [reserved "AffectedNodes" (by simp), if_neg notOwn] at held
  cases held

theorem wraps_around : Wraps (wrapping.around inner) inner := by
  obtain ⟨fields, object, reserved⟩ := wrapping.exists_fields_around inner
  have own := reserved wrapping.name (by simp)
  rw [if_pos rfl] at own
  rcases wrapping.named with named | named
  · exact .newer object (named ▸ own)
  · have noNewer := reserved "meta" (by simp)
    rw [named, if_neg (by simp)] at noNewer
    exact .older object noNewer (named ▸ own)

/-- An object with affected nodes is found inside any number of wrappings. -/
theorem leadsTo_aroundAll {found : Json} (hasNodes : found.HasNodes) (wrappings : List Wrapping) :
    ∃ outer, LeadsTo (aroundAll wrappings found) outer found := by
  induction wrappings with
  | nil => exact ⟨[], .here hasNodes⟩
  | cons wrapping rest ih =>
      obtain ⟨outer, leads⟩ := ih
      exact ⟨_, leads.step (wrapping.not_hasNodes_around _) (wrapping.wraps_around _)⟩

theorem classify_aroundAll_of_noObject {inner : Json} (noObject : inner.fields? = none)
    (wrapping : Wrapping) (rest : List Wrapping) :
    classify (aroundAll (wrapping :: rest) inner) = .error .noMetadata := by
  induction rest generalizing wrapping with
  | nil =>
      have step :=
        classify_of_wraps (wrapping.not_hasNodes_around inner) (wrapping.wraps_around inner)
      rw [noObject] at step
      exact step
  | cons next rest ih =>
      have step := classify_of_wraps (wrapping.not_hasNodes_around (aroundAll (next :: rest) inner))
        (wrapping.wraps_around _)
      exact step.trans (ih next)

end Wrapping

/--
A value is a list of nodes exactly when it is an array, and metadata are the first object with
affected nodes on the chain that begins at the value; in all other cases it is refused.  So metadata
are found inside any number of wrappings and decode to the same there, while an array, or anything
else that is no object, is not found inside a wrapping.
-/
theorem classify_chain (value : Json) :
    (∀ elements, classify value = .ok (.nodes elements) ↔ value = .array elements) ∧
    (∀ found, classify value = .ok (.metadata found) ↔ ∃ outer, LeadsTo value outer found) ∧
    ((∃ fault, classify value = .error fault) ↔
      (∀ elements, value ≠ .array elements) ∧ ∀ outer found, ¬ LeadsTo value outer found) ∧
    (∀ fault, classify value = .error fault →
      fault = if value.fields?.isSome then .noMetadata else .noContainer value) ∧
    (value.HasNodes → ∀ wrappings,
      classify (Wrapping.aroundAll wrappings value) = .ok (.metadata value) ∧
      ∀ catalog settings,
        (classify (Wrapping.aroundAll wrappings value)).map (decode catalog settings) =
          .ok ((Metadata.decodeWith catalog settings value).map fun (decoded, failures) =>
            (.metadata decoded, failures))) ∧
    (value.fields? = none → ∀ wrapping rest,
      classify (Wrapping.aroundAll (wrapping :: rest) value) = .error .noMetadata) := by
  refine ⟨fun _ => classify_eq_nodes_iff, fun _ => classify_eq_metadata_iff,
    exists_classify_eq_error_iff, fun _ => fault_of_classify, ?_, ?_⟩
  · intro hasNodes wrappings
    obtain ⟨outer, leads⟩ := Wrapping.leadsTo_aroundAll hasNodes wrappings
    refine ⟨leads.classify_eq, ?_⟩
    intro catalog settings
    rw [leads.classify_eq]
    rfl
  · exact Wrapping.classify_aroundAll_of_noObject

def Wrapping.transaction : Wrapping where
  name := "metaData"
  before := [("hash", .string "AB")]
  after := []
  named := Or.inr rfl
  siblings := by simp

def Wrapping.shadowing : Wrapping where
  name := "meta"
  before := []
  after := [("metaData", .array [])]
  named := Or.inl rfl
  siblings := by simp

theorem classify_chain_twoWrappings :
    (Json.object [("AffectedNodes", .array [])]).HasNodes ∧
    classify (Wrapping.aroundAll [.transaction, .shadowing] (.object [("AffectedNodes", .array [])])) =
      .ok (.metadata (.object [("AffectedNodes", .array [])])) ∧
    (Json.array []).fields? = none ∧
    classify (Wrapping.aroundAll [.transaction] (.array [])) = .error .noMetadata ∧
    ∀ outer found, ¬ LeadsTo (Wrapping.aroundAll [.transaction] (.array [])) outer found := by
  have hasNodes : (Json.object [("AffectedNodes", .array [])]).HasNodes := ⟨_, _, rfl, rfl⟩
  obtain ⟨-, -, -, -, inside, -⟩ := classify_chain (.object [("AffectedNodes", .array [])])
  obtain ⟨-, -, -, -, -, outside⟩ := classify_chain (.array [])
  have refused := outside rfl .transaction []
  obtain ⟨-, -, refused_iff, -⟩ := classify_chain (Wrapping.aroundAll [.transaction] (.array []))
  exact ⟨hasNodes, (inside hasNodes _).1, rfl, refused, (refused_iff.mp ⟨_, refused⟩).2⟩

end Input

end AffectedNodes
