import AffectedNodes.Batch

/-!
# Batches split among workers

A batch that is split among workers gives what it gives in one piece.  The pieces are consecutive
runs of elements, no more of them than workers, and put together they are the batch.  Every worker
stores the results of its piece at the place of the piece, and so it does not matter how many
workers there are and in which order they finish, once each of them has.
-/
namespace AffectedNodes

namespace Batch

/-! ### Cutting a list into pieces -/

theorem flatten_pieces {size count : Nat} {items : List α} (positive : 0 < size)
    (enough : items.length ≤ count) : (pieces size count items).flatten = items := by
  induction count generalizing items with
  | zero =>
      obtain rfl : items = [] := List.eq_nil_of_length_eq_zero (Nat.le_zero.mp enough)
      rfl
  | succ count ih =>
      cases items with
      | nil => rfl
      | cons item rest =>
          have shorter : ((item :: rest).drop size).length ≤ count := by
            rw [List.length_drop]
            omega
          rw [pieces, List.flatten_cons, ih shorter, List.take_append_drop]
          exact List.cons_ne_nil item rest

/-- Each piece is the run of items that begins where the pieces before it end. -/
theorem eq_of_getElem?_pieces {size count place : Nat} {items piece : List α}
    (found : (pieces size count items)[place]? = some piece) :
    piece = (items.drop (place * size)).take size := by
  induction count generalizing items place with
  | zero => cases items <;> cases found
  | succ count ih =>
      cases items with
      | nil => cases found
      | cons item rest =>
          cases place with
          | zero =>
              rw [Nat.zero_mul, List.drop_zero]
              exact (Option.some.inj found).symm
          | succ place =>
              have later : piece = (((item :: rest).drop size).drop (place * size)).take size :=
                ih found
              rw [later, List.drop_drop, Nat.succ_mul, Nat.add_comm]

theorem ne_nil_of_mem_pieces {size count : Nat} {items piece : List α} (positive : 0 < size)
    (member : piece ∈ pieces size count items) : piece ≠ [] := by
  induction count generalizing items with
  | zero => cases items <;> cases member
  | succ count ih =>
      cases items with
      | nil => cases member
      | cons item rest =>
          rcases List.mem_cons.mp member with rfl | later
          · intro empty
            rcases List.take_eq_nil_iff.mp empty with none | none
            · exact Nat.ne_of_gt positive none
            · cases none
          · exact ih later

theorem length_pieces_le {size count workers : Nat} {items : List α}
    (fits : items.length ≤ workers * size) : (pieces size count items).length ≤ workers := by
  induction count generalizing items workers with
  | zero => cases items <;> exact Nat.zero_le workers
  | succ count ih =>
      cases items with
      | nil => exact Nat.zero_le workers
      | cons item rest =>
          cases workers with
          | zero =>
              rw [Nat.zero_mul] at fits
              cases fits
          | succ workers =>
              have restFits : ((item :: rest).drop size).length ≤ workers * size := by
                rw [List.length_drop]
                rw [Nat.succ_mul] at fits
                omega
              exact Nat.succ_le_succ (ih restFits)

/-! ### The pieces of a batch -/

theorem pieceSize_pos {length workers : Nat} (nonempty : 0 < length) (busy : 0 < workers) :
    0 < pieceSize length workers := by
  rw [pieceSize]
  apply Nat.div_pos
  · omega
  · exact busy

theorem le_mul_pieceSize {length workers : Nat} (busy : 0 < workers) :
    length ≤ workers * pieceSize length workers := by
  have rounded := Nat.lt_mul_div_succ (length + workers - 1) busy
  rw [Nat.mul_succ, ← pieceSize] at rounded
  omega

/-- The pieces of a batch are consecutive runs of elements without an empty one, no more of them
than workers, and put together they are the batch. -/
structure IsDivided (workers : Nat) (elements : List Json) : Prop where
  pieceSize_pos : 0 < pieceSize elements.length workers
  length_le : (assignments workers elements).length ≤ workers
  flatten_eq : (assignments workers elements).flatten = elements
  ne_nil : ∀ piece ∈ assignments workers elements, piece ≠ []
  consecutive : ∀ place piece, (assignments workers elements)[place]? = some piece →
    piece = (elements.drop (place * pieceSize elements.length workers)).take
      (pieceSize elements.length workers)

theorem isDivided {workers : Nat} {elements : List Json} (busy : 0 < workers)
    (nonempty : elements ≠ []) : IsDivided workers elements := by
  have positive : 0 < pieceSize elements.length workers :=
    Batch.pieceSize_pos (List.length_pos_iff.mpr nonempty) busy
  constructor
  · exact positive
  · exact length_pieces_le (le_mul_pieceSize busy)
  · exact flatten_pieces positive (Nat.le_refl _)
  · exact fun piece member => ne_nil_of_mem_pieces positive member
  · exact fun place piece found => eq_of_getElem?_pieces found

/-! ### Putting the results together -/

theorem getElem?_foldl_set {result : Nat → β} (finishing : List Nat) (slots : List β)
    (place : Nat) :
    (finishing.foldl (fun slots done => slots.set done (result done)) slots)[place]? =
      if place ∈ finishing ∧ place < slots.length then some (result place)
      else slots[place]? := by
  induction finishing generalizing slots with
  | nil => simp
  | cons first rest ih =>
      rw [List.foldl_cons, ih, List.length_set, List.getElem?_set]
      by_cases same : first = place
      · subst same
        by_cases inside : first < slots.length <;> simp [inside]
      · simp [same, Ne.symm same]

/-- Once every worker has finished, each piece's results stand at the place of the piece. -/
theorem gather_eq {work : List Json → List NodeResult} {assigned : List (List Json)}
    {finishing : List Nat} (everyone : ∀ place, place < assigned.length → place ∈ finishing) :
    gather work assigned finishing = (assigned.map work).flatten := by
  rw [gather]
  apply congrArg List.flatten
  apply List.ext_getElem?
  intro place
  rw [getElem?_foldl_set, List.length_replicate, List.getElem?_map]
  by_cases inside : place < assigned.length
  · rw [if_pos ⟨everyone place inside, inside⟩, List.getElem?_eq_getElem inside]
    rfl
  · rw [if_neg fun both => inside both.2, List.getElem?_eq_none (by simpa using inside),
      List.getElem?_eq_none (by simpa using inside)]
    rfl

end Batch

theorem FinishingOrder.mem_places (order : FinishingOrder) {place workers : Nat}
    (inside : place < workers) : place ∈ order.places workers :=
  (order.everyone workers).mem_iff.mpr (List.mem_range.mpr inside)

namespace Decoder

theorem decodeNodesParallel_eq (decoder : Decoder) (order : FinishingOrder)
    (elements : List Json) (workers : Nat) :
    decoder.decodeNodesParallel order elements workers = decoder.decodeNodes elements := by
  rw [decodeNodesParallel]
  split
  · rfl
  · rename_i several
    have busy : 0 < workers := by omega
    have nonempty : elements ≠ [] := by
      rintro rfl
      exact several (Or.inr Nat.zero_lt_two)
    have whole := (Batch.isDivided busy nonempty).flatten_eq
    have mapped : decoder.decodeNodes = List.map decoder.decodeElement := rfl
    rw [Batch.gather_eq fun place inside => order.mem_places inside, mapped, ← List.map_flatten,
      whole]

/-- The settings of workers do not show in the outcome. -/
theorem decodeBatchWith_eq (decoder : Decoder) (order : FinishingOrder) (settings : Settings)
    (elements : List Json) :
    decoder.decodeBatchWith order settings elements =
      decoder.decodeBatch settings.policy elements := by
  rw [decodeBatchWith, decodeBatch, decodeNodesParallel_eq, ite_self]

end Decoder

theorem Batch.decodeWith_eq (catalog : Catalog) (settings : Settings) (elements : List Json) :
    decodeWith catalog settings elements = decode catalog settings.policy elements :=
  (Decoder.ofCatalog catalog).decodeBatchWith_eq .inTurn settings elements

end AffectedNodes
