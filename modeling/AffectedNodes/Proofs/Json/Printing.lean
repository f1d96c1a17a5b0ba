import AffectedNodes.Json.Printer
import AffectedNodes.Json.Token
import AffectedNodes.Proofs.Json.Plain
import AffectedNodes.Proofs.Text.Numeral
import Mathlib.Data.List.Forall2
import Mathlib.Data.Option.Basic

/-!
# The tokens of a printed value

A printed value is cut into the tokens of the value, whichever way it is printed.  A text is read as
some tokens if these come before the tokens of what follows it.  Of all texts only numerals need
anything of what follows: it must not begin with a character that could go on in a numeral.  So texts
are put together from marks, which need nothing and end a numeral before them, and from numerals.
-/
namespace AffectedNodes.Json

variable {chars rest : List Char} {tokens later : List Token} {text next : String}

def Lexes (chars : List Char) (tokens : List Token) : Prop :=
  ∀ limit, chars.length ≤ limit → tokensWithin limit chars = some tokens

/-- No numeral goes on with these characters. -/
def Stops : List Char → Prop
  | [] => True
  | c :: _ => isNumeralChar c = false

/-- A text is read as tokens if no numeral goes on after it. -/
def IsText (text : String) (tokens : List Token) : Prop :=
  ∀ rest later, Stops rest → Lexes rest later → Lexes (text.toList ++ rest) (tokens ++ later)

/-- A text that is read as tokens whatever follows it, and that ends any numeral before it. -/
structure IsMark (text : String) (tokens : List Token) : Prop where
  stops : ∀ rest, Stops (text.toList ++ rest)
  reads : ∀ rest later, Lexes rest later → Lexes (text.toList ++ rest) (tokens ++ later)

theorem lexes_nil : Lexes [] [] := by
  intro limit _
  cases limit <;> rfl

theorem lexes_cons {c : Char}
    (step : ∀ limit, rest.length ≤ limit → tokensWithin (limit + 1) (c :: rest) = some tokens) :
    Lexes (c :: rest) tokens := by
  intro limit within
  cases limit with
  | zero => cases within
  | succ limit => exact step limit (Nat.le_of_succ_le_succ within)

theorem Lexes.blank {c : Char} (blank : isBlank c = true) (lexes : Lexes rest tokens) :
    Lexes (c :: rest) tokens := by
  apply lexes_cons
  intro limit within
  rw [tokensWithin.eq_def]
  dsimp only
  rw [if_pos blank]
  exact lexes limit within

namespace IsMark

theorem isText (mark : IsMark text tokens) : IsText text tokens :=
  fun rest later _ => mark.reads rest later

theorem append (mark : IsMark text tokens) (mark' : IsMark next later) :
    IsMark (text ++ next) (tokens ++ later) where
  stops rest := by
    rw [String.toList_append, List.append_assoc]
    exact mark.stops _
  reads rest others lexes := by
    rw [String.toList_append, List.append_assoc, List.append_assoc]
    exact mark.reads _ _ (mark'.reads rest others lexes)

theorem before (mark : IsMark text tokens) (reads : IsText next later) :
    IsText (text ++ next) (tokens ++ later) := by
  intro rest others stops lexes
  rw [String.toList_append, List.append_assoc, List.append_assoc]
  exact mark.reads _ _ (reads rest others stops lexes)

end IsMark

theorem IsText.join {separator : String} {between others : List Token}
    (reads : IsText text tokens) (mark : IsMark separator between) (reads' : IsText next others) :
    IsText (text ++ (separator ++ next)) (tokens ++ (between ++ others)) := by
  intro rest later stops lexes
  have after := mark.reads _ _ (reads' rest later stops lexes)
  rw [String.toList_append, String.toList_append, List.append_assoc, List.append_assoc,
    List.append_assoc, List.append_assoc]
  exact reads _ _ (mark.stops _) after

theorem IsText.before (reads : IsText text tokens) (mark : IsMark next later) :
    IsText (text ++ next) (tokens ++ later) := by
  intro rest others _ lexes
  rw [String.toList_append, List.append_assoc, List.append_assoc]
  exact reads _ _ (mark.stops rest) (mark.reads rest others lexes)

/-! ### Marks -/

theorem isMark_of_token {c : Char} {word : List Char} {token : Token}
    (spelt : text.toList = c :: word) (stop : isNumeralChar c = false)
    (step : ∀ limit rest, tokensWithin (limit + 1) (c :: (word ++ rest)) =
      (tokensWithin limit rest).map (token :: ·)) : IsMark text [token] where
  stops rest := by
    rw [spelt]
    exact stop
  reads rest later lexes := by
    rw [spelt, List.cons_append]
    apply lexes_cons
    intro limit within
    rw [List.length_append] at within
    rw [step, lexes limit (by omega)]
    rfl

theorem not_isNumeralChar_of_isBlank {c : Char} (blank : isBlank c = true) :
    isNumeralChar c = false := by
  simp only [isBlank, Bool.or_eq_true, decide_eq_true_eq] at blank
  rcases blank with ((rfl | rfl) | rfl) | rfl <;> decide

theorem Lexes.blanks {blanks : List Char} (blank : ∀ c ∈ blanks, isBlank c = true)
    (lexes : Lexes rest tokens) : Lexes (blanks ++ rest) tokens := by
  induction blanks with
  | nil => exact lexes
  | cons c others ih =>
      rw [List.forall_mem_cons] at blank
      exact (ih blank.2).blank blank.1

theorem isMark_of_blanks {c : Char} {blanks : List Char} (spelt : text.toList = c :: blanks)
    (blank : ∀ c ∈ text.toList, isBlank c = true) : IsMark text [] where
  stops rest := by
    rw [spelt]
    exact not_isNumeralChar_of_isBlank (blank c (spelt ▸ List.mem_cons_self))
  reads rest later lexes := lexes.blanks blank

theorem isMark_openArray : IsMark "[" [.openArray] :=
  isMark_of_token rfl rfl fun _ _ => rfl

theorem isMark_closeArray : IsMark "]" [.closeArray] :=
  isMark_of_token rfl rfl fun _ _ => rfl

theorem isMark_openObject : IsMark "\x7b" [.openObject] :=
  isMark_of_token rfl rfl fun _ _ => rfl

theorem isMark_closeObject : IsMark "\x7d" [.closeObject] :=
  isMark_of_token rfl rfl fun _ _ => rfl

theorem isMark_comma : IsMark "," [.comma] :=
  isMark_of_token rfl rfl fun _ _ => rfl

theorem isMark_colon : IsMark ":" [.colon] :=
  isMark_of_token rfl rfl fun _ _ => rfl

theorem isMark_null : IsMark "null" [.null] :=
  isMark_of_token rfl rfl fun _ _ => rfl

theorem isMark_true : IsMark "true" [.bool true] :=
  isMark_of_token rfl rfl fun _ _ => rfl

theorem isMark_false : IsMark "false" [.bool false] :=
  isMark_of_token rfl rfl fun _ _ => rfl

theorem isMark_newLine (level : Nat) : IsMark (newLine level) [] := by
  have spelt : (newLine level).toList = '\n' :: List.replicate (2 * level) ' ' :=
    String.toList_ofList
  refine isMark_of_blanks spelt ?_
  rw [spelt, List.forall_mem_cons]
  exact ⟨rfl, fun c member => (List.eq_of_mem_replicate member) ▸ rfl⟩

/-! ### Strings -/

theorem hexWord?_lowerHexDigit :
    ∀ n < 32, hexWord? '0' '0' (lowerHexDigit (n / 16)) (lowerHexDigit (n % 16)) = some n := by
  decide

theorem stringBody?_plain {c : Char} (noQuote : c ≠ '"') (noEscape : c ≠ '\\')
    (noControl : ¬ c.toNat < 32) (chars : List Char) :
    stringBody? (c :: chars) =
      (stringBody? chars).map fun (text, after) => (c :: text, after) := by
  have plain : ¬ (c = '\\' ∨ c.toNat < 32) := not_or.mpr ⟨noEscape, noControl⟩
  rw [stringBody?, if_neg plain]
  · exact noQuote
  · exact fun _ _ _ _ _ escape _ => noEscape escape
  · exact fun _ _ escape _ => noEscape escape

/-- What stands for a character in a string is read as that character. -/
theorem stringBody?_escaped (c : Char) (chars : List Char) :
    stringBody? (escaped c ++ chars) =
      (stringBody? chars).map fun (text, after) => (c :: text, after) := by
  rw [escaped]
  -- the characters that have an escape of a single letter
  iterate 7
    split
    · subst_vars
      rfl
  split
  · rename_i control
    have code := hexWord?_lowerHexDigit c.toNat control
    have noSurrogate : ¬ (0xD800 ≤ c.toNat ∧ c.toNat < 0xDC00) := by omega
    have noSecond : ¬ (0xDC00 ≤ c.toNat ∧ c.toNat < 0xE000) := by omega
    simp only [List.cons_append, List.nil_append]
    rw [stringBody?]
    simp only [code, noSurrogate, noSecond, if_false, Char.ofNat_toNat]
  · rename_i noQuote noEscape _ _ _ _ _ noControl
    exact stringBody?_plain noQuote noEscape noControl chars

theorem stringBody?_quoted (text rest : List Char) :
    stringBody? (text.flatMap escaped ++ '"' :: rest) = some (text, rest) := by
  induction text with
  | nil => rfl
  | cons c others ih =>
      rw [List.flatMap_cons, List.append_assoc, stringBody?_escaped, ih]
      rfl

theorem isMark_quoted (text : String) : IsMark (quoted text) [.string text] := by
  refine isMark_of_token (c := '"') String.toList_ofList rfl ?_
  intro limit rest
  change (stringBody? (text.toList.flatMap escaped ++ ['"'] ++ rest)).bind _ = _
  rw [List.append_assoc]
  change (stringBody? (text.toList.flatMap escaped ++ '"' :: rest)).bind _ = _
  rw [stringBody?_quoted, Option.bind_some]
  dsimp only
  rw [String.ofList_toList]

/-! ### Numbers -/

theorem takeDigits_of_isDigit (each : ∀ c ∈ chars, c.isDigit = true) :
    takeDigits chars = (chars.map fun c => c.toNat - '0'.toNat, []) := by
  induction chars with
  | nil => rfl
  | cons c others ih =>
      rw [List.forall_mem_cons] at each
      rw [takeDigits, Text.digit?_ten, if_pos each.1, ih each.2]
      rfl

theorem le_foldl_digits (digits : List Nat) (start : Nat) :
    start ≤ digits.foldl (fun value digit => value * 10 + digit) start := by
  induction digits generalizing start with
  | nil => exact Nat.le_refl start
  | cons digit rest ih =>
      have longer := ih (start * 10 + digit)
      rw [List.foldl_cons]
      omega

theorem foldl_pushWhole {digits : List Nat} {start : Nat}
    (fits : digits.foldl (fun value digit => value * 10 + digit) start ≤ greatestWord) :
    digits.foldl Numeral.pushWhole ⟨start, 0⟩ =
      ⟨digits.foldl (fun value digit => value * 10 + digit) start, 0⟩ := by
  induction digits generalizing start with
  | nil => rfl
  | cons digit rest ih =>
      rw [List.foldl_cons] at fits ⊢
      have longer : start * 10 + digit ≤ greatestWord := Nat.le_trans (le_foldl_digits rest _) fits
      rw [Numeral.pushWhole, if_pos ⟨rfl, longer⟩]
      exact ih fits

theorem isWhole_toDigits (n : Nat) :
    isWhole ((Nat.toDigits 10 n).map fun c => c.toNat - '0'.toNat) = true := by
  have nonempty := (Text.isNumeral_toDigits n).nonempty
  have isDigit := (Text.isNumeral_toDigits n).isDigit
  have zeroFirst := Text.toDigits_of_zero_first n
  cases written : Nat.toDigits 10 n with
  | nil => exact absurd written nonempty
  | cons c others =>
      rw [written] at isDigit zeroFirst
      obtain ⟨low, -⟩ := Char.isDigit_iff_toNat.mp (isDigit c List.mem_cons_self)
      cases value : c.toNat - '0'.toNat with
      | succ below => rw [List.map_cons, value]; rfl
      | zero =>
          have zero : c = '0' := Char.toNat_inj.mp (by omega)
          cases zeroFirst (congrArg some zero)
          rfl

theorem unsigned?_toDigits {n : Nat} (negative : Bool) (fits : n < UInt64.size)
    (negated : negative = true → 0 < n ∧ n ≤ UInt64.size / 2) :
    unsigned? negative (Nat.toDigits 10 n) =
      some (.integer (if negative then -(n : Int) else n)) := by
  have digits := takeDigits_of_isDigit (Text.isNumeral_toDigits n).isDigit
  have value : ((Nat.toDigits 10 n).map fun c => c.toNat - '0'.toNat).foldl
      (fun value digit => value * 10 + digit) 0 = n :=
    (Text.valueOf_map _).trans Nat.ofDigitChars_ten_toDigits
  have pushed := foldl_pushWhole (Nat.le_trans (Nat.le_of_eq value) (Nat.le_pred_of_lt fits))
  rw [value] at pushed
  rw [unsigned?, digits]
  simp only [isWhole_toDigits, pushed]
  cases negative with
  | false => rfl
  | true =>
      change (if 0 < n ∧ n ≤ UInt64.size / 2 then some (Number.integer (-(n : Int))) else _) = _
      rw [if_pos (negated rfl)]
      rfl

theorem isNumeralChar_of_isDigit {c : Char} (digit : c.isDigit = true) : isNumeralChar c = true := by
  rw [isNumeralChar, Text.digit?_ten, if_pos digit]
  rfl

theorem number?_toDigits {n : Nat} (fits : n < UInt64.size) :
    number? (Nat.toDigits 10 n) = some (.integer n) := by
  have isDigit := (Text.isNumeral_toDigits n).isDigit
  have read := unsigned?_toDigits false fits nofun
  cases written : Nat.toDigits 10 n with
  | nil => exact absurd written (Text.isNumeral_toDigits n).nonempty
  | cons c others =>
      rw [written] at isDigit read
      have noSign : c ≠ '-' := fun sign => by
        cases sign ▸ isDigit c List.mem_cons_self
      rw [number?]
      · exact read
      · exact fun _ sign => noSign (List.cons.inj sign).1

/-- An integer that fits a word is read from what is written for it, which is nothing but a
numeral. -/
theorem number?_text {value : Number} (word : value.isWord = true) :
    number? value.text.toList = some value ∧ ∀ c ∈ value.text.toList, isNumeralChar c = true := by
  cases value with
  | double value => cases word
  | integer value =>
      rw [Number.isWord, Bool.and_eq_true, decide_eq_true_iff, decide_eq_true_iff] at word
      cases value with
      | ofNat n =>
          have written : (Number.text (.integer (.ofNat n))).toList = Nat.toDigits 10 n :=
            Nat.toList_repr
          rw [written]
          refine ⟨number?_toDigits (Int.ofNat_lt.mp word.2), fun c member => ?_⟩
          exact isNumeralChar_of_isDigit ((Text.isNumeral_toDigits n).isDigit c member)
      | negSucc below =>
          have written : (Number.text (.integer (.negSucc below))).toList =
              '-' :: Nat.toDigits 10 (below + 1) := by
            change ("-" ++ (below + 1).repr).toList = _
            rw [String.toList_append, Nat.toList_repr]
            rfl
          have small : below + 1 ≤ UInt64.size / 2 := by omega
          have read := unsigned?_toDigits (n := below + 1) true (by omega)
            fun _ => ⟨Nat.succ_pos below, small⟩
          rw [written, List.forall_mem_cons]
          refine ⟨read, rfl, fun c member => ?_⟩
          exact isNumeralChar_of_isDigit ((Text.isNumeral_toDigits _).isDigit c member)

theorem Lexes.number {value : Number} (read : number? chars = some value)
    (each : ∀ c ∈ chars, isNumeralChar c = true) (stops : Stops rest) (lexes : Lexes rest tokens) :
    Lexes (chars ++ rest) (.number value :: tokens) := by
  have ended : rest.takeWhile isNumeralChar = [] ∧ rest.dropWhile isNumeralChar = rest := by
    cases rest with
    | nil => exact ⟨rfl, rfl⟩
    | cons c others => exact ⟨List.takeWhile_cons_of_neg (by rw [stops]; nofun),
        List.dropWhile_cons_of_neg (by rw [stops]; nofun)⟩
  cases chars with
  | nil => cases read
  | cons c others =>
      rw [List.forall_mem_cons] at each
      rw [List.cons_append]
      apply lexes_cons
      intro limit within
      have notBlank : isBlank c ≠ true := fun blank => by
        cases each.1.symm.trans (not_isNumeralChar_of_isBlank blank)
      -- the numeral takes all of `others`, and nothing of `rest`
      rw [tokensWithin.eq_def]
      dsimp only
      rw [if_neg notBlank, if_pos each.1, List.takeWhile_append_of_pos each.2,
        List.dropWhile_append_of_pos each.2, ended.1, ended.2, List.append_nil, read]
      change (tokensWithin limit rest).map _ = _
      rw [lexes limit (by rw [List.length_append] at within; omega)]
      rfl

theorem isText_number {value : Number} (word : value.isWord = true) :
    IsText value.text [.number value] := by
  intro rest later stops lexes
  obtain ⟨read, each⟩ := number?_text word
  exact lexes.number read each stops

/-! ### Values -/

mutual

/-- The tokens of a value. -/
def tokensOf : Json → List Token
  | .null => [.null]
  | .bool value => [.bool value]
  | .number value => [.number value]
  | .string text => [.string text]
  | .array items => .openArray :: ([Token.comma].intercalate (itemTokens items) ++ [.closeArray])
  | .object members =>
      .openObject :: ([Token.comma].intercalate (memberTokens members) ++ [.closeObject])

def itemTokens : List Json → List (List Token)
  | [] => []
  | item :: rest => tokensOf item :: itemTokens rest

def memberTokens : List (String × Json) → List (List Token)
  | [] => []
  | (name, value) :: rest => (.string name :: .colon :: tokensOf value) :: memberTokens rest

end

section Containers

variable {separator opening closing : String} {first last : Token} {texts : List String}
  {parts : List (List Token)}

/-- Entries with separators between them, up to the bracket that closes the container. -/
theorem isText_joined (separates : IsMark separator [.comma]) (closes : IsMark closing [last])
    (each : List.Forall₂ IsText texts parts) :
    IsText (separator.intercalate texts ++ closing)
      ([Token.comma].intercalate parts ++ [last]) := by
  induction each with
  | nil =>
      rw [String.intercalate_nil, String.empty_append, List.intercalate_nil, List.nil_append]
      exact closes.isText
  | @cons text part others otherParts here later ih =>
      -- what follows an entry is the bracket after the last one, and a separator after the others
      cases later with
      | nil =>
          rw [String.intercalate_singleton, List.intercalate_singleton]
          exact here.before closes
      | cons _ _ =>
          rw [String.intercalate_cons_cons, List.intercalate_cons_cons, String.append_assoc,
            String.append_assoc, List.append_assoc, List.append_assoc]
          exact here.join separates ih

theorem isText_flat (opens : IsMark opening [first]) (closes : IsMark closing [last])
    (each : List.Forall₂ IsText texts parts) :
    IsText (opening ++ ",".intercalate texts ++ closing)
      (first :: ([Token.comma].intercalate parts ++ [last])) := by
  have whole := opens.before (isText_joined isMark_comma closes each)
  rw [← String.append_assoc] at whole
  exact whole

theorem isText_block (level : Nat) (opens : IsMark opening [first]) (closes : IsMark closing [last])
    (each : List.Forall₂ IsText texts parts) :
    IsText (block level opening closing texts)
      (first :: ([Token.comma].intercalate parts ++ [last])) := by
  have inner := isMark_newLine (level + 1)
  have outer := isMark_newLine level
  have closed := isText_joined (isMark_comma.append inner) (outer.append closes) each
  cases each with
  | nil =>
      rw [block, List.intercalate_nil]
      exact opens.before closes.isText
  | cons _ _ =>
      have whole := (opens.append inner).before closed
      rw [← String.append_assoc, ← String.append_assoc] at whole
      rw [block]
      · exact whole
      · exact nofun

end Containers

mutual

/-- A plain value is printed as its tokens, without any space. -/
theorem isText_compact : ∀ {depth} {value : Json}, value.isPlain depth = true →
    IsText value.compact (tokensOf value)
  | _, .null, _ => isMark_null.isText
  | _, .bool true, _ => isMark_true.isText
  | _, .bool false, _ => isMark_false.isText
  | _, .number value, plain => isText_number (isPlain_number value ▸ plain)
  | _, .string text, _ => (isMark_quoted text).isText
  | 0, .array _, plain | 0, .object _, plain => by cases plain
  | _ + 1, .array _, plain =>
      isText_flat isMark_openArray isMark_closeArray (isText_compactItems plain)
  | _ + 1, .object _, plain =>
      isText_flat isMark_openObject isMark_closeObject
        (isText_compactMembers (Bool.and_eq_true_iff.mp plain).2)

theorem isText_compactItems : ∀ {depth} {items : List Json}, itemsPlain depth items = true →
    List.Forall₂ IsText (compactItems items) (itemTokens items)
  | _, [], _ => .nil
  | _, _ :: _, plain =>
      .cons (isText_compact (Bool.and_eq_true_iff.mp plain).1)
        (isText_compactItems (Bool.and_eq_true_iff.mp plain).2)

theorem isText_compactMembers : ∀ {depth} {members : List (String × Json)},
    membersPlain depth members = true →
    List.Forall₂ IsText (compactMembers members) (memberTokens members)
  | _, [], _ => .nil
  | _, (name, _) :: _, plain =>
      .cons (((isMark_quoted name).append isMark_colon).before
          (isText_compact (Bool.and_eq_true_iff.mp plain).1))
        (isText_compactMembers (Bool.and_eq_true_iff.mp plain).2)

end

theorem isMark_colonBlank : IsMark ": " [.colon] :=
  isMark_colon.append (isMark_of_blanks rfl (List.forall_mem_singleton.mpr rfl) : IsMark " " [])

mutual

theorem isText_prettyAt : ∀ {depth} {value : Json} (level : Nat), value.isPlain depth = true →
    IsText (prettyAt level value) (tokensOf value)
  | _, .null, _, _ => isMark_null.isText
  | _, .bool true, _, _ => isMark_true.isText
  | _, .bool false, _, _ => isMark_false.isText
  | _, .number value, _, plain => isText_number (isPlain_number value ▸ plain)
  | _, .string text, _, _ => (isMark_quoted text).isText
  | 0, .array _, _, plain | 0, .object _, _, plain => by cases plain
  | _ + 1, .array _, level, plain =>
      isText_block level isMark_openArray isMark_closeArray (isText_prettyItems (level + 1) plain)
  | _ + 1, .object _, level, plain =>
      isText_block level isMark_openObject isMark_closeObject
        (isText_prettyMembers (level + 1) (Bool.and_eq_true_iff.mp plain).2)

theorem isText_prettyItems : ∀ {depth} {items : List Json} (level : Nat),
    itemsPlain depth items = true →
    List.Forall₂ IsText (prettyItems level items) (itemTokens items)
  | _, [], _, _ => .nil
  | _, _ :: _, level, plain =>
      .cons (isText_prettyAt level (Bool.and_eq_true_iff.mp plain).1)
        (isText_prettyItems level (Bool.and_eq_true_iff.mp plain).2)

theorem isText_prettyMembers : ∀ {depth} {members : List (String × Json)} (level : Nat),
    membersPlain depth members = true →
    List.Forall₂ IsText (prettyMembers level members) (memberTokens members)
  | _, [], _, _ => .nil
  | _, (name, _) :: _, level, plain =>
      .cons (((isMark_quoted name).append isMark_colonBlank).before
          (isText_prettyAt level (Bool.and_eq_true_iff.mp plain).1))
        (isText_prettyMembers level (Bool.and_eq_true_iff.mp plain).2)

end

end AffectedNodes.Json
