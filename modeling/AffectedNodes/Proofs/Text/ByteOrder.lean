/-!
# The order of texts is that of their bytes

Texts are ordered by code point, character by character.  UTF-8 keeps this order: a longer encoding
begins with a greater byte, and encodings of one length have the digits of the code point in base
64, the greatest first.
-/
namespace AffectedNodes.Text

def bytes (text : String) : List UInt8 := text.toUTF8.data.toList

theorem bytes_eq_flatMap (text : String) :
    bytes text = text.toList.flatMap String.utf8EncodeChar := by
  rw [bytes, String.toUTF8_eq_toByteArray, ← String.utf8Encode_toList, List.utf8Encode,
    List.data_toByteArray]

theorem ofNat_lt_ofNat_iff {m n : Nat} (first : m < 256) (second : n < 256) :
    UInt8.ofNat m < UInt8.ofNat n ↔ m < n := by
  rw [UInt8.lt_iff_toNat_lt, UInt8.toNat_ofNat', UInt8.toNat_ofNat', Nat.mod_eq_of_lt first,
    Nat.mod_eq_of_lt second]

theorem ofNat_eq_ofNat_iff {m n : Nat} (first : m < 256) (second : n < 256) :
    UInt8.ofNat m = UInt8.ofNat n ↔ m = n := by
  rw [← UInt8.toNat_inj, UInt8.toNat_ofNat', UInt8.toNat_ofNat', Nat.mod_eq_of_lt first,
    Nat.mod_eq_of_lt second]

theorem utf8EncodeChar_append_lt {c d : Char} (before : c < d) (rest later : List UInt8) :
    String.utf8EncodeChar c ++ rest < String.utf8EncodeChar d ++ later := by
  have smaller : c.val.toNat < d.val.toNat := before
  have bound : d.val.toNat < 1114112 := by
    rcases d.valid with low | high <;> omega
  -- the digits of a code point in base 64, of which the longest encodings have all four
  have digits (n : Nat) (small : n < 1114112) : n = n / 262144 % 8 * 262144 +
      n / 4096 % 64 * 4096 + n / 64 % 64 * 64 + n % 64 := by omega
  have digitsC := digits c.val.toNat (by omega)
  have digitsD := digits d.val.toNat bound
  simp only [String.utf8EncodeChar]
  -- one case for each length of the first character together with one of the second
  repeat' split
  all_goals
    simp (disch := omega) only [List.cons_append, List.nil_append, List.cons_lt_cons_iff,
      ofNat_lt_ofNat_iff, ofNat_eq_ofNat_iff]
    omega

/-- Written item by item, the lesser of two lists has the lesser writing, if the writing of an item
decides against that of a greater one, whatever follows. -/
theorem flatMap_lt_flatMap {α β : Type} [LT α] [LT β] {write : α → List β}
    (notEmpty : ∀ item, write item ≠ [])
    (decides : ∀ {first second : α}, first < second →
      ∀ rest later, write first ++ rest < write second ++ later)
    {items others : List α} (before : items < others) :
    items.flatMap write < others.flatMap write := by
  induction before with
  | @nil other _ =>
      obtain ⟨letter, more, written⟩ := List.exists_cons_of_ne_nil (notEmpty other)
      rw [List.flatMap_cons, written]
      exact List.nil_lt_cons _ _
  | cons later ih =>
      rw [List.flatMap_cons, List.flatMap_cons]
      exact List.append_left_lt ih
  | rel first =>
      rw [List.flatMap_cons, List.flatMap_cons]
      exact decides first _ _

theorem bytes_lt {first second : String} (before : first < second) :
    bytes first < bytes second := by
  rw [bytes_eq_flatMap, bytes_eq_flatMap]
  exact flatMap_lt_flatMap (fun _ => String.utf8EncodeChar_ne_nil) utf8EncodeChar_append_lt
    (String.lt_iff.mp before)

end AffectedNodes.Text
