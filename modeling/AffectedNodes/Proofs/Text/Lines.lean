import AffectedNodes.Proofs.Text.Painted
import Mathlib.Data.List.Basic

/-!
# Lines

Every line of an output is ended by a line break.  A text that is put on a line of its own stays one
line if it holds no line break, and otherwise it becomes the pieces into which its breaks cut it.
Padding and styles bring no line break along.
-/
namespace AffectedNodes.Text

def breaks (text : String) : Nat := text.toList.count '\n'

def totalBreaks : List String → Nat
  | [] => 0
  | text :: rest => breaks text + totalBreaks rest

def pieces (text : String) : List String := (text.toList.splitOn '\n').map String.ofList

/-- The lines of an output.  What stands after the last line break is no line. -/
def linesOf (output : String) : List String := (pieces output).dropLast

variable {text : String} {texts : List String}

/-! ### Pieces -/

theorem length_splitOn (chars : List Char) (c : Char) :
    (chars.splitOn c).length = chars.count c + 1 := by
  induction chars with
  | nil => rfl
  | cons head rest ih =>
      rw [List.splitOn_cons_eq_if_modifyHead, List.count_cons]
      split
      · rw [List.length_cons, ih]
      · rw [List.length_modifyHead, ih, Nat.add_zero]

theorem length_pieces (text : String) : (pieces text).length = breaks text + 1 := by
  rw [pieces, List.length_map, length_splitOn, breaks]

theorem pieces_append_break (first second : String) :
    pieces (first ++ "\n" ++ second) = pieces first ++ pieces second := by
  have joined : (first ++ "\n" ++ second).toList = first.toList ++ '\n' :: second.toList := by
    rw [String.toList_append, String.toList_append, List.append_assoc]
    rfl
  rw [pieces, joined, List.splitOn_append_cons_self, List.map_append]
  rfl

theorem breaks_eq_zero_iff : breaks text = 0 ↔ '\n' ∉ text.toList := List.count_eq_zero

theorem pieces_eq_singleton (whole : breaks text = 0) : pieces text = [text] := by
  rw [pieces, List.splitOn_eq_singleton (breaks_eq_zero_iff.mp whole), List.map_singleton,
    String.ofList_toList]

@[simp] theorem totalBreaks_nil : totalBreaks [] = 0 := rfl

@[simp] theorem totalBreaks_cons (text : String) (texts : List String) :
    totalBreaks (text :: texts) = breaks text + totalBreaks texts := rfl

@[simp] theorem totalBreaks_append (texts later : List String) :
    totalBreaks (texts ++ later) = totalBreaks texts + totalBreaks later := by
  induction texts with
  | nil => rw [List.nil_append, totalBreaks_nil, Nat.zero_add]
  | cons text rest ih => rw [List.cons_append, totalBreaks_cons, ih, totalBreaks_cons, Nat.add_assoc]

theorem totalBreaks_eq_zero_iff : totalBreaks texts = 0 ↔ ∀ text ∈ texts, breaks text = 0 := by
  induction texts with
  | nil => simp
  | cons text rest ih => rw [totalBreaks_cons, Nat.add_eq_zero_iff, ih, List.forall_mem_cons]

theorem length_flatMap_pieces (texts : List String) :
    (texts.flatMap pieces).length = texts.length + totalBreaks texts := by
  induction texts with
  | nil => rfl
  | cons text rest ih =>
      rw [List.flatMap_cons, List.length_append, ih, length_pieces, List.length_cons,
        totalBreaks_cons]
      omega

/-- Texts are their own pieces when none of them holds a line break. -/
theorem flatMap_pieces_eq_iff : texts.flatMap pieces = texts ↔ totalBreaks texts = 0 := by
  constructor
  · intro same
    have length := length_flatMap_pieces texts
    rw [same] at length
    omega
  · intro whole
    rw [totalBreaks_eq_zero_iff] at whole
    calc texts.flatMap pieces
      _ = texts.flatMap (fun text => [text]) :=
        List.flatMap_congr fun text member => pieces_eq_singleton (whole text member)
      _ = texts := List.flatMap_singleton' texts

/-! ### Line breaks -/

@[simp] theorem breaks_append (first second : String) :
    breaks (first ++ second) = breaks first + breaks second := by
  rw [breaks, String.toList_append, List.count_append]
  rfl

@[simp] theorem breaks_repr (n : Nat) : breaks n.repr = 0 := by
  rw [breaks_eq_zero_iff, Nat.toList_repr]
  intro member
  exact absurd (Nat.isDigit_of_mem_toDigits (by decide) (by decide) member) (by decide)

@[simp] theorem breaks_padRight (width : Nat) (text : String) :
    breaks (padRight width text) = breaks text := by
  rw [breaks, padRight, String.toList_ofList, List.count_append, List.count_replicate]
  rfl

theorem count_opening (style : Style) : style.opening.count '\n' = 0 := by
  cases style <;> decide

/-- A style that begins anew brings no line break along. -/
theorem count_resumed (style : Style) (chars : List Char) :
    (style.resumed chars).count '\n' = chars.count '\n' := by
  fun_induction Style.resumed style chars with
  | case1 => rfl
  | case2 rest ih =>
      rw [List.count_append, List.count_append, count_opening, ih, List.count_cons, List.count_cons,
        List.count_cons, List.count_cons, Style.closing]
      simp
  | case3 c rest _ ih => rw [List.count_cons, List.count_cons, ih]

@[simp] theorem breaks_paint (styled : Bool) (style : Style) (text : String) :
    breaks (paint styled style text) = breaks text := by
  cases styled with
  | false => rfl
  | true =>
      rw [paint, if_pos rfl, breaks, String.toList_ofList, List.count_append, List.count_append,
        count_opening, count_resumed]
      exact Nat.zero_add _

end AffectedNodes.Text
