/-!
# Padded and styled text

Columns of a listing are padded with spaces or cut to a width, which counts characters.

Text on a terminal gets its style from an escape sequence before it and is followed by one that
ends all styles.  Where the text itself ends all styles, its own style begins anew.
-/
namespace AffectedNodes.Text

def padRight (width : Nat) (text : String) : String :=
  String.ofList (text.toList ++ List.replicate (width - text.toList.length) ' ')

def padLeft (width : Nat) (text : String) : String :=
  String.ofList (List.replicate (width - text.toList.length) ' ' ++ text.toList)

def cut (width : Nat) (text : String) : String := String.ofList (text.toList.take width)

inductive Style where
  | bold
  | dimmed
  | red
  | green
  | boldGreen
  | yellow
  | cyan
  deriving DecidableEq, Repr

namespace Style

def parameters : Style → String
  | bold => "1"
  | dimmed => "2"
  | red => "31"
  | green => "32"
  | boldGreen => "1;32"
  | yellow => "33"
  | cyan => "36"

def opening (style : Style) : List Char := '\x1b' :: '[' :: style.parameters.toList ++ ['m']

def closing : List Char := ['\x1b', '[', '0', 'm']

/-- A text in which the style begins anew wherever all styles end. -/
def resumed (style : Style) : List Char → List Char
  | [] => []
  | '\x1b' :: '[' :: '0' :: 'm' :: rest => closing ++ style.opening ++ style.resumed rest
  | c :: rest => c :: style.resumed rest

end Style

def paint (styled : Bool) (style : Style) (text : String) : String :=
  if styled then String.ofList (style.opening ++ style.resumed text.toList ++ Style.closing)
  else text

end AffectedNodes.Text
