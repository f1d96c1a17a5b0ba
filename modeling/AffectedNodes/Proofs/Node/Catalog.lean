import AffectedNodes.Node.Catalog

/-!
# Catalogs as sets

A catalog is determined by the tags that it decodes: those of the list that it was made of, whose
order and repetitions are not kept.
-/
namespace AffectedNodes.Catalog

variable {catalog catalog' : Catalog} {tag other : Tag} {tags tags' : List Tag}

theorem decodes_iff_mem : catalog.decodes tag = true ↔ tag ∈ catalog.tags :=
  List.contains_iff_mem

theorem decodes_insert :
    (catalog.insert other).decodes tag = true ↔ tag = other ∨ catalog.decodes tag = true := by
  rw [decodes_iff_mem, decodes_iff_mem]
  exact mem_insertTag

theorem decodes_foldl_insert :
    (tags.foldl insert catalog).decodes tag = true ↔
      tag ∈ tags ∨ catalog.decodes tag = true := by
  induction tags generalizing catalog with
  | nil => simp
  | cons first rest ih =>
      rw [List.foldl_cons, ih, decodes_insert, List.mem_cons]
      constructor
      · rintro (later | same | before)
        · exact Or.inl (Or.inr later)
        · exact Or.inl (Or.inl same)
        · exact Or.inr before
      · rintro ((same | later) | before)
        · exact Or.inr (Or.inl same)
        · exact Or.inl later
        · exact Or.inr (Or.inr before)

theorem decodes_ofList : (ofList tags).decodes tag = true ↔ tag ∈ tags := by
  rw [ofList, decodes_foldl_insert]
  simp [decodes]

theorem decodes_ofList_eq_false : (ofList tags).decodes tag = false ↔ tag ∉ tags := by
  rw [← decodes_ofList, Bool.not_eq_true]

theorem decodes_standard : standard.decodes tag = true ↔ tag ∈ EntryKind.catalog :=
  decodes_ofList

theorem nodup_tags (catalog : Catalog) : catalog.tags.Nodup := by
  apply catalog.ordered.imp
  intro first second before same
  subst same
  exact String.lt_irrefl _ before

theorem ext_decodes (same : ∀ tag, catalog.decodes tag = true ↔ catalog'.decodes tag = true) :
    catalog = catalog' := by
  have members : ∀ tag, tag ∈ catalog.tags ↔ tag ∈ catalog'.tags := by
    intro tag
    rw [← decodes_iff_mem, ← decodes_iff_mem]
    exact same tag
  have arranged : catalog.tags.Perm catalog'.tags :=
    (List.perm_ext_iff_of_nodup catalog.nodup_tags catalog'.nodup_tags).mpr members
  have sameTags : catalog.tags = catalog'.tags := by
    refine arranged.eq_of_pairwise ?_ catalog.ordered catalog'.ordered
    intro first second _ _ before after
    exact absurd (String.lt_trans before after) (String.lt_irrefl _)
  cases catalog
  cases catalog'
  cases sameTags
  rfl

/-- Neither the order nor the repetition of tags shows in a catalog. -/
theorem ofList_congr (same : ∀ tag, tag ∈ tags ↔ tag ∈ tags') : ofList tags = ofList tags' := by
  apply ext_decodes
  intro tag
  rw [decodes_ofList, decodes_ofList]
  exact same tag

end AffectedNodes.Catalog
