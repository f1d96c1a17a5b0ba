import AffectedNodes.Entry.Kind

/-!
# Catalogs of decodable tags

A catalog says for which tags the fields of an object are decoded.  It is a set, kept as the list
of its tags in order without repetition, so catalogs with the same tags are equal.
-/
namespace AffectedNodes

structure Catalog where
  tags : List Tag
  ordered : tags.Pairwise (fun first second => first.text < second.text)
  deriving DecidableEq

namespace Catalog

def insertTag (tag : Tag) : List Tag → List Tag
  | [] => [tag]
  | other :: rest =>
      if tag.text < other.text then tag :: other :: rest
      else if tag = other then other :: rest
      else other :: insertTag tag rest

theorem mem_insertTag {tag other : Tag} {tags : List Tag} :
    other ∈ insertTag tag tags ↔ other = tag ∨ other ∈ tags := by
  induction tags with
  | nil => simp [insertTag]
  | cons head rest ih =>
      rw [insertTag]
      split
      · simp
      · split
        · rename_i same
          subst same
          simp
        · simp only [List.mem_cons, ih]
          constructor
          · rintro (h | h | h) <;> simp [h]
          · rintro (h | h | h) <;> simp [h]

theorem insertTag_ordered (tag : Tag) {tags : List Tag}
    (ordered : tags.Pairwise (fun first second => first.text < second.text)) :
    (insertTag tag tags).Pairwise (fun first second => first.text < second.text) := by
  induction tags with
  | nil => simp [insertTag]
  | cons head rest ih =>
      have below := (List.pairwise_cons.mp ordered).1
      have restOrdered := (List.pairwise_cons.mp ordered).2
      rw [insertTag]
      split
      · rename_i before
        refine List.pairwise_cons.mpr ⟨?_, ordered⟩
        intro other member
        rcases List.mem_cons.mp member with same | later
        · exact same ▸ before
        · exact String.lt_trans before (below other later)
      · split
        · exact ordered
        · rename_i notBefore notSame
          refine List.pairwise_cons.mpr ⟨?_, ih restOrdered⟩
          intro other member
          rcases mem_insertTag.mp member with same | later
          · subst same
            refine Std.lt_of_le_of_ne (String.not_lt.mp notBefore) fun sameText => notSame ?_
            obtain ⟨text⟩ := head
            obtain ⟨text'⟩ := other
            simpa using sameText.symm
          · exact below other later

def insert (catalog : Catalog) (tag : Tag) : Catalog :=
  ⟨insertTag tag catalog.tags, insertTag_ordered tag catalog.ordered⟩

def ofList (tags : List Tag) : Catalog :=
  tags.foldl insert ⟨[], List.Pairwise.nil⟩

def standard : Catalog := ofList EntryKind.catalog

def decodes (catalog : Catalog) (tag : Tag) : Bool := catalog.tags.contains tag

def size (catalog : Catalog) : Nat := catalog.tags.length

def isEmpty (catalog : Catalog) : Bool := catalog.tags.isEmpty

end Catalog

end AffectedNodes
