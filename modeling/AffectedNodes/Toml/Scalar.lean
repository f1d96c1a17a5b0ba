import AffectedNodes.Text.Digit

/-!
# Integers and texts in TOML

Integers are decimal with an optional sign, or hexadecimal, octal or binary, with single
underscores between digits, and fit 64 bits.  Texts stand in one of four kinds of quotes: single or
double, on one line or on several.  Escapes are read between double quotes only.
-/
namespace AffectedNodes.Toml

def isBlank (c : Char) : Bool := c = ' ' || c = '\t'

/-- Whether a character may stand in a comment or in a text: a tab, or no ASCII control
character. -/
def isPlain (c : Char) : Bool := c = '\t' || (' ' ≤ c && c ≠ '\x7f')

def skipBlanks (text : List Char) : List Char := text.dropWhile isBlank

def afterLineBreak? : List Char → Option (List Char)
  | '\n' :: rest | '\r' :: '\n' :: rest => some rest
  | _ => none

/-! ### Integers -/

def isIntegerChar (c : Char) : Bool := c.isAlphanum || c = '_' || c = '+' || c = '-' || c = '.'

def digits? (base : Nat) : List Char → Option (List Nat)
  | [] => none
  | [c] => (Text.digit? base c).map fun digit => [digit]
  | c :: '_' :: rest => do return (← Text.digit? base c) :: (← digits? base rest)
  | c :: rest => do return (← Text.digit? base c) :: (← digits? base rest)

def magnitude? (base : Nat) (text : List Char) : Option Int :=
  (digits? base text).map fun digits => (Text.valueOf base digits : Nat)

def decimal? : List Char → Option Int
  | '0' :: _ :: _ => none
  | text => magnitude? 10 text

def integerOf? (text : List Char) : Option Int := do
  let value ←
    match text with
    | '0' :: 'x' :: digits => magnitude? 16 digits
    | '0' :: 'o' :: digits => magnitude? 8 digits
    | '0' :: 'b' :: digits => magnitude? 2 digits
    | '+' :: digits => decimal? digits
    | '-' :: digits => (decimal? digits).map Int.neg
    | digits => decimal? digits
  guard (Int64.minValue.toInt ≤ value ∧ value ≤ Int64.maxValue.toInt)
  return value

def integer? (text : List Char) : Option (Int × List Char) :=
  (integerOf? (text.takeWhile isIntegerChar)).map fun value =>
    (value, text.dropWhile isIntegerChar)

/-! ### Texts -/

structure Quotes where
  mark : Char
  multiline : Bool
  deriving DecidableEq, Repr

def Quotes.escapes (quotes : Quotes) : Bool := quotes.mark = '"'

/-- Where a text over several lines ends: at three quotation marks, before which up to two more
belong to the text. -/
def closing? (mark : Char) (text : List Char) : Option (List Char × List Char) :=
  let marks := (text.takeWhile (· = mark)).length
  if marks < 3 then none
  else
    let kept := min (marks - 3) 2
    some (List.replicate kept mark, text.drop (kept + 3))

def codePoint? (digits : List Char) : Option Char := do
  let code := Text.valueOf 16 (← digits.mapM (Text.digit? 16))
  if code.isValidChar then some (Char.ofNat code) else none

def shortEscape? : Char → Option Char
  | 'b' => some '\x08'
  | 't' => some '\t'
  | 'n' => some '\n'
  | 'f' => some '\x0c'
  | 'r' => some '\r'
  | '"' => some '"'
  | '\\' => some '\\'
  | _ => none

def endsLine (text : List Char) : Bool := (afterLineBreak? (skipBlanks text)).isSome

def keep (c : Char) (result : Option (List Char × List Char)) : Option (List Char × List Char) :=
  result.map fun (text, after) => (c :: text, after)

/-- The text up to its closing quotes, and what follows them.  A backslash that ends a line is left
out with the line break and all blanks and line breaks after it: those are being skipped while
`skipping`. -/
def body? (quotes : Quotes) (skipping : Bool) : List Char → Option (List Char × List Char)
  | [] => none
  | c :: rest =>
      if skipping && (isBlank c || c = '\n') then body? quotes true rest
      else if c = '\r' && rest.head? = some '\n' then body? quotes skipping rest
      else if c = quotes.mark && !quotes.multiline then some ([], rest)
      else if c = quotes.mark && (closing? c (c :: rest)).isSome then closing? c (c :: rest)
      else if c = '\\' && quotes.escapes && quotes.multiline && endsLine rest then
        body? quotes true rest
      else if c = '\\' && quotes.escapes then
        match rest with
        | 'u' :: a :: b :: c :: d :: after => do
            keep (← codePoint? [a, b, c, d]) (body? quotes false after)
        | 'U' :: a :: b :: c :: d :: e :: f :: g :: h :: after => do
            keep (← codePoint? [a, b, c, d, e, f, g, h]) (body? quotes false after)
        | letter :: after => do
            keep (← shortEscape? letter) (body? quotes false after)
        | [] => none
      else if isPlain c || (c = '\n' && quotes.multiline) then keep c (body? quotes false rest)
      else none

def opened? (quotes : Quotes) (rest : List Char) : Option (String × List Char) :=
  (body? quotes false rest).map fun (text, after) => (String.ofList text, after)

def quotedLine? : List Char → Option (String × List Char)
  | '"' :: rest => opened? ⟨'"', false⟩ rest
  | '\'' :: rest => opened? ⟨'\'', false⟩ rest
  | _ => none

/-- The quoted text at the start, and what follows it.  Three marks open a text that may go over
several lines, of which the line break right after the opening is left out. -/
def quoted? : List Char → Option (String × List Char)
  | '"' :: '"' :: '"' :: rest => opened? ⟨'"', true⟩ ((afterLineBreak? rest).getD rest)
  | '\'' :: '\'' :: '\'' :: rest => opened? ⟨'\'', true⟩ ((afterLineBreak? rest).getD rest)
  | text => quotedLine? text

end AffectedNodes.Toml
