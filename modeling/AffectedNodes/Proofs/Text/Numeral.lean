import AffectedNodes.Text.Digit

/-!
# Decimal numerals

A numeral is a nonempty list of decimal digits and writes one number, whatever zeros stand in front.
The readers of digits accept the numerals and nothing else.  Among the numerals of a number just one
begins with no zero, zero itself apart, and this is the one that is written.
-/
namespace AffectedNodes.Text

structure IsNumeral (digits : List Char) (value : Nat) : Prop where
  nonempty : digits ≠ []
  isDigit : ∀ c ∈ digits, c.isDigit = true
  value_eq : Nat.ofDigitChars 10 digits 0 = value

/-- A text writes a number by a numeral that may have a plus sign in front. -/
inductive Writes (text : String) (value : Nat) : Prop where
  | unsigned (numeral : IsNumeral text.toList value)
  | signed {digits : List Char} (plus : text.toList = '+' :: digits)
      (numeral : IsNumeral digits value)

/-- A text is the numeral of a number without a zero in front, unless zero is all there is. -/
structure IsCanonical (text : String) (value : Nat) : Prop where
  numeral : IsNumeral text.toList value
  leading : text.toList.head? = some '0' → text.toList = ['0']

variable {digits : List Char} {text : String} {value : Nat}

/-! ### Reading -/

theorem digit?_ten (c : Char) :
    digit? 10 c = if c.isDigit then some (c.toNat - '0'.toNat) else none := by
  have zero : '0'.toNat = 48 := rfl
  have nine : '9'.toNat = 57 := rfl
  have a : 'a'.toNat = 97 := rfl
  have A : 'A'.toNat = 65 := rfl
  have F : 'F'.toNat = 70 := rfl
  simp only [digit?, Char.isDigit_iff_toNat, zero, nine, a, A, F]
  grind

theorem mapM_digit?_eq_some_iff {values : List Nat} :
    digits.mapM (digit? 10) = some values ↔
      (∀ c ∈ digits, c.isDigit = true) ∧ digits.map (fun c => c.toNat - '0'.toNat) = values := by
  induction digits generalizing values with
  | nil => simp
  | cons c rest ih =>
      rw [List.mapM_cons, digit?_ten, List.forall_mem_cons, List.map_cons]
      cases digit : c.isDigit with
      | false => simp
      | true =>
          simp only [if_true, Option.bind_eq_bind, Option.bind_some, Option.bind_eq_some_iff, ih,
            true_and]
          constructor
          · rintro ⟨_, ⟨others, rfl⟩, same⟩
            exact ⟨others, Option.some.inj same⟩
          · rintro ⟨others, rfl⟩
            exact ⟨_, ⟨others, rfl⟩, rfl⟩

theorem valueOf_map (digits : List Char) :
    valueOf 10 (digits.map fun c => c.toNat - '0'.toNat) = Nat.ofDigitChars 10 digits 0 := by
  rw [valueOf, List.foldl_map, Nat.ofDigitChars_eq_foldl]
  simp only [Nat.mul_comm]

theorem natural?_eq_some_iff : natural? digits = some value ↔ IsNumeral digits value := by
  rw [natural?, Option.ite_none_left_eq_some, Option.map_eq_some_iff, List.isEmpty_iff]
  constructor
  · rintro ⟨nonempty, values, read, same⟩
    obtain ⟨each, rfl⟩ := mapM_digit?_eq_some_iff.mp read
    exact ⟨nonempty, each, (valueOf_map digits).symm.trans same⟩
  · rintro ⟨nonempty, each, same⟩
    exact ⟨nonempty, _, mapM_digit?_eq_some_iff.mpr ⟨each, rfl⟩, (valueOf_map digits).trans same⟩

theorem IsNumeral.ne_plus {rest : List Char} (numeral : IsNumeral ('+' :: rest) value) : False :=
  absurd (numeral.isDigit '+' List.mem_cons_self) (by decide)

theorem writes_iff_of_plus {rest : List Char} (plus : text.toList = '+' :: rest) :
    Writes text value ↔ IsNumeral rest value := by
  constructor
  · intro writes
    cases writes with
    | unsigned numeral => exact (plus ▸ numeral).ne_plus.elim
    | signed plus' numeral =>
        cases plus.symm.trans plus'
        exact numeral
  · exact .signed plus

theorem writes_iff_of_not_plus (noPlus : ∀ rest, text.toList ≠ '+' :: rest) :
    Writes text value ↔ IsNumeral text.toList value := by
  constructor
  · intro writes
    cases writes with
    | unsigned numeral => exact numeral
    | signed plus _ => exact absurd plus (noPlus _)
  · exact .unsigned

theorem word_eq_some_iff {word : UInt64} (read : natural? digits = some value) :
    (if value < UInt64.size then some (UInt64.ofNat value) else none) = some word ↔
      IsNumeral digits word.toNat := by
  rw [← natural?_eq_some_iff, read, Option.ite_none_right_eq_some, Option.some.injEq,
    Option.some.injEq]
  constructor
  · rintro ⟨small, rfl⟩
    exact (UInt64.toNat_ofNat_of_lt' small).symm
  · rintro rfl
    exact ⟨word.toNat_lt, UInt64.ofNat_toNat⟩

theorem not_isNumeral (unread : natural? digits = none) : ¬ IsNumeral digits value := by
  rw [← natural?_eq_some_iff, unread]
  exact nofun

theorem word64?_eq_some_iff {word : UInt64} :
    word64? text = some word ↔ Writes text word.toNat := by
  rw [word64?]
  split
  · rename_i number read
    split at read
    · rw [writes_iff_of_plus ‹_›]
      exact word_eq_some_iff read
    · rw [writes_iff_of_not_plus ‹_›]
      exact word_eq_some_iff read
  · rename_i unread
    split at unread
    · rw [writes_iff_of_plus ‹_›]
      exact iff_of_false nofun (not_isNumeral unread)
    · rw [writes_iff_of_not_plus ‹_›]
      exact iff_of_false nofun (not_isNumeral unread)

/-! ### Writing -/

theorem isNumeral_toDigits (n : Nat) : IsNumeral (Nat.toDigits 10 n) n where
  nonempty := Nat.toDigits_ne_nil
  isDigit _ := Nat.isDigit_of_mem_toDigits (by decide) (by decide)
  value_eq := Nat.ofDigitChars_ten_toDigits

/-- Only the numeral of zero that is written begins with a zero. -/
theorem toDigits_of_zero_first (n : Nat) (first : (Nat.toDigits 10 n).head? = some '0') :
    Nat.toDigits 10 n = ['0'] := by
  induction n using Nat.strongRecOn with
  | ind n ih =>
      by_cases small : n < 10
      · rw [Nat.toDigits_of_lt_base small] at first ⊢
        rw [Option.some.inj first]
      · rw [Nat.toDigits_of_base_le (by decide) (by omega),
          List.head?_append, Option.or_of_isSome (by simp)] at first
        have zero := congrArg (Nat.ofDigitChars 10 · 0) (ih (n / 10) (by omega) first)
        rw [Nat.ofDigitChars_ten_toDigits] at zero
        have tens : n / 10 = 0 := zero
        omega

theorem toDigits_of_isDigit {c : Char} (digit : c.isDigit = true) :
    c.toNat - '0'.toNat < 10 ∧ Nat.toDigits 10 (c.toNat - '0'.toNat) = [c] := by
  obtain ⟨low, high⟩ := Char.isDigit_iff_toNat.mp digit
  have zero : '0'.toNat = 48 := rfl
  have nine : '9'.toNat = 57 := rfl
  rw [zero] at low ⊢
  rw [nine] at high
  have small : c.toNat - 48 < 10 := by omega
  have same : (Nat.digitChar (c.toNat - 48)).toNat = c.toNat := by
    rw [Nat.toNat_digitChar_of_lt_ten small]
    omega
  rw [Nat.toDigits_of_lt_base small, Char.toNat_inj.mp same]
  exact ⟨small, rfl⟩

theorem toDigits_append (positive : 0 < value) (each : ∀ c ∈ digits, c.isDigit = true) :
    Nat.toDigits 10 value ++ digits = Nat.toDigits 10 (Nat.ofDigitChars 10 digits value) := by
  induction digits generalizing value with
  | nil => rw [List.append_nil, Nat.ofDigitChars_nil]
  | cons c rest ih =>
      rw [List.forall_mem_cons] at each
      obtain ⟨small, digit⟩ := toDigits_of_isDigit each.1
      -- the first digit goes over to the value, which stays positive
      rw [Nat.ofDigitChars_cons, ← ih (by omega) each.2,
        ← Nat.toDigits_append_toDigits (by decide) positive small, digit, List.append_assoc,
        List.singleton_append]

theorem IsNumeral.eq_toDigits (numeral : IsNumeral digits value)
    (leading : digits.head? = some '0' → digits = ['0']) : digits = Nat.toDigits 10 value := by
  obtain ⟨nonempty, each, rfl⟩ := numeral
  cases digits with
  | nil => exact absurd rfl nonempty
  | cons c rest =>
      rw [List.forall_mem_cons] at each
      by_cases zero : c = '0'
      · rw [leading (congrArg some zero)]
        rfl
      · obtain ⟨-, digit⟩ := toDigits_of_isDigit each.1
        obtain ⟨low, -⟩ := Char.isDigit_iff_toNat.mp each.1
        have notZero : c.toNat ≠ '0'.toNat := fun same => zero (Char.toNat_inj.mp same)
        rw [Nat.ofDigitChars_cons, Nat.mul_zero, Nat.zero_add, ← toDigits_append (by omega) each.2,
          digit, List.singleton_append]

/-- What is written for a number is its one canonical numeral. -/
theorem isCanonical_iff : IsCanonical text value ↔ text = toString value := by
  rw [Nat.toString_eq_ofList_toDigits]
  constructor
  · intro canonical
    rw [← canonical.numeral.eq_toDigits canonical.leading, String.ofList_toList]
  · rintro rfl
    constructor
    · rw [String.toList_ofList]
      exact isNumeral_toDigits value
    · rw [String.toList_ofList]
      exact toDigits_of_zero_first value

end AffectedNodes.Text
