import AffectedNodes.Json.Basic
import AffectedNodes.Text.Digit

/-!
# JSON tokens

A document is first cut into tokens: brackets, separators, literals, numbers and strings.  A token
is the longest one that starts at its place, and blanks between tokens carry nothing.
-/
namespace AffectedNodes.Json

inductive Token where
  | openArray
  | closeArray
  | openObject
  | closeObject
  | comma
  | colon
  | null
  | bool (value : Bool)
  | number (value : Number)
  | string (text : String)
  deriving DecidableEq, Repr

def isBlank (c : Char) : Bool := c = ' ' || c = '\n' || c = '\t' || c = '\r'

/-! ### Numbers -/

def greatestWord : Nat := UInt64.size - 1

structure Numeral where
  significand : Nat
  power : Int
  deriving DecidableEq, Repr

/-- Whole digits: the significand grows while it fits a word; every digit after the first that
does not fit is dropped and raises the power. -/
def Numeral.pushWhole (numeral : Numeral) (digit : Nat) : Numeral :=
  let longer := numeral.significand * 10 + digit
  if numeral.power = 0 ∧ longer ≤ greatestWord then { numeral with significand := longer }
  else { numeral with power := numeral.power + 1 }

/-- Digits after the point: the significand grows while it fits a word, which lowers the power;
the first that does not fit is dropped with all after it. -/
def Numeral.pushFraction (numeral : Numeral) : List Nat → Numeral
  | [] => numeral
  | digit :: rest =>
      let longer := numeral.significand * 10 + digit
      if longer ≤ greatestWord then
        Numeral.pushFraction ⟨longer, numeral.power - 1⟩ rest
      else numeral

def takeDigits : List Char → List Nat × List Char
  | [] => ([], [])
  | c :: rest =>
      match Text.digit? 10 c with
      | some digit => let (digits, after) := takeDigits rest; (digit :: digits, after)
      | none => ([], c :: rest)

def exponent? (text : List Char) : Option Int :=
  let (negative, digitsText) :=
    match text with
    | '-' :: rest => (true, rest)
    | '+' :: rest => (false, rest)
    | rest => (false, rest)
  match takeDigits digitsText with
  | (digit :: digits, []) =>
      let magnitude := Text.valueOf 10 (digit :: digits)
      some (if negative then -(magnitude : Int) else magnitude)
  | _ => none

/-- Whether digits can stand before the point: there is one, and no zero before another digit. -/
def isWhole : List Nat → Bool
  | [] => false
  | 0 :: _ :: _ => false
  | _ => true

/-- The number written by a numeral without its sign.  Without point and exponent it is an integer
if it fits a word of its sign; a negative zero and every other numeral is a double. -/
def unsigned? (negative : Bool) (text : List Char) : Option Number := do
  let (whole, afterWhole) := takeDigits text
  guard (isWhole whole)
  let numeral := whole.foldl Numeral.pushWhole ⟨0, 0⟩
  let double (numeral : Numeral) (exponent : Int) : Option Number :=
    (Double.ofDecimal? negative numeral.significand (numeral.power + exponent)).map .double
  let withExponent (numeral : Numeral) : List Char → Option Number
    | [] => double numeral 0
    | 'e' :: rest | 'E' :: rest => exponent? rest >>= double numeral
    | _ => none
  match afterWhole with
  | [] =>
      if numeral.power ≠ 0 then double numeral 0
      else if !negative then some (.integer numeral.significand)
      else if 0 < numeral.significand ∧ numeral.significand ≤ UInt64.size / 2 then
        some (.integer (-numeral.significand))
      else double numeral 0
  | '.' :: rest =>
      match takeDigits rest with
      | ([], _) => none
      | (fraction, after) => withExponent (numeral.pushFraction fraction) after
  | _ => withExponent numeral afterWhole

def number? : List Char → Option Number
  | '-' :: rest => unsigned? true rest
  | text => unsigned? false text

def isNumeralChar (c : Char) : Bool :=
  (Text.digit? 10 c).isSome || c = '-' || c = '+' || c = '.' || c = 'e' || c = 'E'

/-! ### Strings -/

def hexWord? (a b c d : Char) : Option Nat := do
  let a ← Text.digit? 16 a
  let b ← Text.digit? 16 b
  let c ← Text.digit? 16 c
  let d ← Text.digit? 16 d
  return Text.valueOf 16 [a, b, c, d]

def shortEscape? : Char → Option Char
  | '"' => some '"'
  | '\\' => some '\\'
  | '/' => some '/'
  | 'b' => some '\x08'
  | 'f' => some '\x0c'
  | 'n' => some '\n'
  | 'r' => some '\r'
  | 't' => some '\t'
  | _ => none

/-- The text of a string up to its closing quote, and what follows the quote.  Control characters
must be escaped, and the escapes of surrogates must come in pairs. -/
def stringBody? : List Char → Option (List Char × List Char)
  | [] => none
  | '"' :: rest => some ([], rest)
  | '\\' :: 'u' :: a :: b :: c :: d :: rest =>
      match hexWord? a b c d with
      | none => none
      | some unit =>
          if 0xD800 ≤ unit ∧ unit < 0xDC00 then
            match rest with
            | '\\' :: 'u' :: a' :: b' :: c' :: d' :: rest' =>
                match hexWord? a' b' c' d' with
                | none => none
                | some second =>
                    if 0xDC00 ≤ second ∧ second < 0xE000 then
                      let code := 0x10000 + (unit - 0xD800) * 0x400 + (second - 0xDC00)
                      (stringBody? rest').map fun (text, after) => (Char.ofNat code :: text, after)
                    else none
            | _ => none
          else if 0xDC00 ≤ unit ∧ unit < 0xE000 then none
          else (stringBody? rest).map fun (text, after) => (Char.ofNat unit :: text, after)
  | '\\' :: letter :: rest =>
      match shortEscape? letter with
      | none => none
      | some c => (stringBody? rest).map fun (text, after) => (c :: text, after)
  | c :: rest =>
      if c = '\\' ∨ c.toNat < 32 then none
      else (stringBody? rest).map fun (text, after) => (c :: text, after)

/-! ### All tokens -/

def tokensWithin : Nat → List Char → Option (List Token)
  | _, [] => some []
  | 0, _ => none
  | limit + 1, c :: rest =>
      let next (token : Token) (after : List Char) : Option (List Token) :=
        (tokensWithin limit after).map (token :: ·)
      if isBlank c then tokensWithin limit rest
      else if isNumeralChar c then do
        let number ← number? (c :: rest.takeWhile isNumeralChar)
        next (.number number) (rest.dropWhile isNumeralChar)
      else
        match c, rest with
        | '[', rest => next .openArray rest
        | ']', rest => next .closeArray rest
        | '\x7b', rest => next .openObject rest
        | '\x7d', rest => next .closeObject rest
        | ',', rest => next .comma rest
        | ':', rest => next .colon rest
        | 'n', 'u' :: 'l' :: 'l' :: after => next .null after
        | 't', 'r' :: 'u' :: 'e' :: after => next (.bool true) after
        | 'f', 'a' :: 'l' :: 's' :: 'e' :: after => next (.bool false) after
        | '"', rest => do
            let (text, after) ← stringBody? rest
            next (.string (String.ofList text)) after
        | _, _ => none

def tokens? (text : String) : Option (List Token) :=
  let chars := text.toList
  tokensWithin chars.length chars

end AffectedNodes.Json
