import AffectedNodes.Proofs.Entry.Schemas

/-!
# How amounts are read

An amount of XRP is the text of a number that fits 64 bits.  An amount of an issued currency has
three texts, the second of them an address, and is an object that has them under their names or an
array that has them in order.  No value is both, so the shape of an amount, which carries no tag, is
never in doubt; what is neither is refused, and what is written reads back.
-/
namespace AffectedNodes

/-- The outer shape of an address: 25 to 35 letters and digits, the first of them an `r`. -/
structure Address.IsShaped (text : String) : Prop where
  first : text.toList.head? = some 'r'
  atLeast : 25 ≤ text.toList.length
  atMost : text.toList.length ≤ 35
  isAlphanum : ∀ c ∈ text.toList, c.isAlphanum = true

/-- A value has the three texts of an amount, under their names or in order. -/
inductive IssuedAmount.ToldBy (currency issuer value : String) : Json → Prop where
  | names {members : List (String × Json)}
      (heldCurrency : (FieldMap.ofList members).get? "currency" = some (.string currency))
      (heldIssuer : (FieldMap.ofList members).get? "issuer" = some (.string issuer))
      (heldValue : (FieldMap.ofList members).get? "value" = some (.string value)) :
      ToldBy currency issuer value (.object members)
  | order : ToldBy currency issuer value (.array [.string currency, .string issuer, .string value])

def Drops.IsTold (value : Json) : Prop :=
  ∃ text, value = .string text ∧ ∃ count < UInt64.size, Text.Writes text count

def IssuedAmount.IsTold (value : Json) : Prop :=
  ∃ currency issuer content, Address.IsShaped issuer ∧ ToldBy currency issuer content value

theorem isAddressText_iff {text : String} : isAddressText text = true ↔ Address.IsShaped text := by
  simp only [isAddressText, Bool.and_eq_true, beq_iff_eq, decide_eq_true_eq, List.all_eq_true]
  constructor
  · rintro ⟨⟨⟨first, atLeast⟩, atMost⟩, isAlphanum⟩
    exact ⟨first, atLeast, atMost, isAlphanum⟩
  · rintro ⟨first, atLeast, atMost, isAlphanum⟩
    exact ⟨⟨⟨first, atLeast⟩, atMost⟩, isAlphanum⟩

theorem Drops.ofText?_eq_some_iff {text : String} {drops : Drops} :
    ofText? text = some drops ↔ Text.Writes text drops.count.toNat := by
  rw [ofText?, Option.map_eq_some_iff, ← Text.word64?_eq_some_iff]
  constructor
  · rintro ⟨word, read, rfl⟩
    exact read
  · intro read
    exact ⟨drops.count, read, rfl⟩

theorem Drops.exists_ofText?_iff {text : String} :
    (∃ drops, ofText? text = some drops) ↔ ∃ count < UInt64.size, Text.Writes text count := by
  constructor
  · rintro ⟨drops, read⟩
    exact ⟨_, drops.count.toNat_lt, ofText?_eq_some_iff.mp read⟩
  · rintro ⟨count, bound, writes⟩
    refine ⟨⟨UInt64.ofNat count⟩, ofText?_eq_some_iff.mpr ?_⟩
    rw [UInt64.toNat_ofNat_of_lt' bound]
    exact writes

theorem Address.ofText?_eq_some_iff {text : String} {address : Address} :
    ofText? text = some address ↔ text = address.text := by
  constructor
  · intro read
    rw [ofText?, Option.dite_none_right_eq_some] at read
    obtain ⟨wellFormed, same⟩ := read
    cases same
    rfl
  · rintro rfl
    exact ofText?_text address

namespace Format

variable {value : Json}

/-! ### Scalars -/

theorem elim_eq_ok_iff {α ε : Type} {given : Option α} {fault : ε} {result : α} :
    given.elim (.error fault) Except.ok = .ok result ↔ given = some result := by
  cases given <;> simp

theorem text_read_eq_ok_iff {content : String} :
    text.read value = .ok content ↔ value = .string content := by
  rw [text, ofText_read_eq_ok_iff]
  simp

theorem address_read_eq_ok_iff {account : Address} :
    address.read value = .ok account ↔ value = .string account.text := by
  rw [address, ofText_read_eq_ok_iff]
  simp only [elim_eq_ok_iff, Address.ofText?_eq_some_iff, exists_eq_right]

theorem drops_read_eq_ok_iff {count : Drops} :
    drops.read value = .ok count ↔
      ∃ text, value = .string text ∧ Text.Writes text count.count.toNat := by
  rw [drops, ofText_read_eq_ok_iff]
  simp only [elim_eq_ok_iff, Drops.ofText?_eq_some_iff]

/-! ### Issued currencies -/

section Issued

variable {issued : IssuedAmount}

theorem readFields_issued_iff {fields : FieldMap} :
    IssuedAmount.schema.readFields fields = .ok issued ↔
      fields.get? "currency" = some (.string issued.currency) ∧
        fields.get? "issuer" = some (.string issued.issuer.text) ∧
          fields.get? "value" = some (.string issued.value) := by
  rw [IssuedAmount.schema_faithful.readFields_eq_ok_iff nofun]
  change (Field.required "currency" Format.text).readFrom fields = .ok issued.currency ∧
    (Field.required "issuer" Format.address).readFrom fields = .ok issued.issuer ∧
    (Field.required "value" Format.text).readFrom fields = .ok issued.value ∧ True ↔ _
  simp only [Field.readFrom_required_iff, text_read_eq_ok_iff, address_read_eq_ok_iff,
    exists_eq_right, and_true]

theorem readItems_issued_iff {items : List Json} :
    IssuedAmount.schema.readItems items = .ok issued ↔
      items = [.string issued.currency, .string issued.issuer.text, .string issued.value] := by
  rw [IssuedAmount.schema_faithful.readItems_eq_ok_iff]
  refine (Layout.readItems_eq_ok_iff_of_needed rfl).trans ?_
  constructor
  · rintro ⟨currency, items, rfl, readCurrency, later⟩
    obtain ⟨issuer, items, rfl, readIssuer, later⟩ :=
      (Layout.readItems_eq_ok_iff_of_needed rfl).mp later
    obtain ⟨amount, items, rfl, readAmount, ended⟩ :=
      (Layout.readItems_eq_ok_iff_of_needed rfl).mp later
    cases ended
    rw [text_read_eq_ok_iff.mp readCurrency, address_read_eq_ok_iff.mp readIssuer,
      text_read_eq_ok_iff.mp readAmount]
  · rintro rfl
    refine ⟨_, _, rfl, text_read_eq_ok_iff.mpr rfl, ?_⟩
    refine (Layout.readItems_eq_ok_iff_of_needed rfl).mpr ⟨_, _, rfl, ?_, ?_⟩
    · exact address_read_eq_ok_iff.mpr rfl
    · exact (Layout.readItems_eq_ok_iff_of_needed rfl).mpr
        ⟨_, _, rfl, text_read_eq_ok_iff.mpr rfl, rfl⟩

theorem issuedAmount_read_eq_ok_iff :
    issuedAmount.read value = .ok issued ↔
      IssuedAmount.ToldBy issued.currency issued.issuer.text issued.value value := by
  cases value with
  | object members =>
      refine readFields_issued_iff.trans ?_
      constructor
      · rintro ⟨heldCurrency, heldIssuer, heldValue⟩
        exact .names heldCurrency heldIssuer heldValue
      · intro told
        cases told with
        | names heldCurrency heldIssuer heldValue => exact ⟨heldCurrency, heldIssuer, heldValue⟩
  | array items =>
      refine readItems_issued_iff.trans ?_
      constructor
      · rintro rfl
        exact .order
      · intro told
        cases told
        rfl
  | null | bool | number | string => exact ⟨nofun, nofun⟩

end Issued

/-! ### Either shape -/

theorem exists_drops_read_iff : (∃ count, drops.read value = .ok count) ↔ Drops.IsTold value := by
  constructor
  · rintro ⟨count, read⟩
    obtain ⟨text, rfl, writes⟩ := drops_read_eq_ok_iff.mp read
    exact ⟨text, rfl, Drops.exists_ofText?_iff.mp ⟨count, Drops.ofText?_eq_some_iff.mpr writes⟩⟩
  · rintro ⟨text, rfl, told⟩
    obtain ⟨count, read⟩ := Drops.exists_ofText?_iff.mpr told
    exact ⟨count, drops_read_eq_ok_iff.mpr ⟨text, rfl, Drops.ofText?_eq_some_iff.mp read⟩⟩

theorem exists_issuedAmount_read_iff :
    (∃ issued, issuedAmount.read value = .ok issued) ↔ IssuedAmount.IsTold value := by
  constructor
  · rintro ⟨issued, read⟩
    exact ⟨_, _, _, isAddressText_iff.mp issued.issuer.wellFormed,
      issuedAmount_read_eq_ok_iff.mp read⟩
  · rintro ⟨currency, issuer, content, shaped, told⟩
    exact ⟨⟨currency, ⟨issuer, isAddressText_iff.mpr shaped⟩, content⟩,
      issuedAmount_read_eq_ok_iff.mpr told⟩

theorem not_drops_and_issued : ¬ (Drops.IsTold value ∧ IssuedAmount.IsTold value) := by
  rintro ⟨⟨text, rfl, -⟩, ⟨currency, issuer, content, -, told⟩⟩
  cases told

theorem amount_read_eq_xrp_iff {count : Drops} :
    amount.read value = .ok (.xrp count) ↔ drops.read value = .ok count := by
  simp only [amount]
  cases drops.read value with
  | ok other => simp
  | error fault => cases issuedAmount.read value <;> simp

/-- The first shape hides no amount of the second. -/
theorem amount_read_eq_issued_iff {issued : IssuedAmount} :
    amount.read value = .ok (.issued issued) ↔ issuedAmount.read value = .ok issued := by
  simp only [amount]
  cases isDrops : drops.read value with
  | ok count =>
      have tellsDrops := exists_drops_read_iff.mp ⟨count, isDrops⟩
      constructor
      · intro isXrp
        cases isXrp
      · intro isIssued
        have tellsIssued := exists_issuedAmount_read_iff.mp ⟨issued, isIssued⟩
        exact absurd ⟨tellsDrops, tellsIssued⟩ not_drops_and_issued
  | error fault => cases issuedAmount.read value <;> simp

theorem amount_read_eq_error_iff {fault : ReadFault} :
    amount.read value = .error fault ↔ fault = .noVariantFits "CurrencyAmount" ∧
      ¬ Drops.IsTold value ∧ ¬ IssuedAmount.IsTold value := by
  rw [← exists_drops_read_iff, ← exists_issuedAmount_read_iff]
  simp only [amount]
  cases drops.read value with
  | ok count => simp
  | error _ => cases issuedAmount.read value <;> simp [eq_comm]

/--
An amount of XRP is told by the texts that write its number, which fits 64 bits, and one of them is
canonical: the text it is written as.  An amount of an issued currency is told by its three texts,
the second of them an address.  No value tells both, what tells neither is refused for its shape,
and every amount reads back from what is written.
-/
theorem amount_unambiguous :
    (∀ text, (∃ count, Drops.ofText? text = some count) ↔
      ∃ count < UInt64.size, Text.Writes text count) ∧
    (∀ text (count : Drops), Drops.ofText? text = some count ↔
      Text.Writes text count.count.toNat) ∧
    (∀ text (count : Drops), text = count.text ↔ Text.IsCanonical text count.count.toNat) ∧
    (∀ count : Drops, Drops.ofText? count.text = some count) ∧
    (∀ value, (∃ count, amount.read value = .ok (.xrp count)) ↔ Drops.IsTold value) ∧
    (∀ value count, amount.read value = .ok (.xrp count) ↔
      ∃ text, value = .string text ∧ Text.Writes text count.count.toNat) ∧
    (∀ value, (∃ issued, amount.read value = .ok (.issued issued)) ↔ IssuedAmount.IsTold value) ∧
    (∀ value issued, amount.read value = .ok (.issued issued) ↔
      IssuedAmount.ToldBy issued.currency issued.issuer.text issued.value value) ∧
    (∀ value, ¬ (Drops.IsTold value ∧ IssuedAmount.IsTold value)) ∧
    (∀ value fault, amount.read value = .error fault ↔
      fault = .noVariantFits "CurrencyAmount" ∧
        ¬ Drops.IsTold value ∧ ¬ IssuedAmount.IsTold value) ∧
    ∀ given, amount.read (amount.write given) = .ok given := by
  refine ⟨fun _ => Drops.exists_ofText?_iff, fun _ _ => Drops.ofText?_eq_some_iff, ?_,
    Drops.ofText?_text, ?_, ?_, ?_, ?_, fun _ => not_drops_and_issued,
    fun _ _ => amount_read_eq_error_iff, faithful_amount.lawful⟩
  · exact fun _ _ => Text.isCanonical_iff.symm
  · intro value
    simp only [amount_read_eq_xrp_iff, exists_drops_read_iff]
  · intro value count
    rw [amount_read_eq_xrp_iff, drops_read_eq_ok_iff]
  · intro value
    simp only [amount_read_eq_issued_iff, exists_issuedAmount_read_iff]
  · intro value issued
    rw [amount_read_eq_issued_iff, issuedAmount_read_eq_ok_iff]

end Format

end AffectedNodes
