import AffectedNodes.Text.Styled
import Mathlib.Data.List.Infix

/-!
# Texts that are shown

A text that is padded is followed by blanks, and one that is styled stands between two escape
sequences.  Where a styled text ends all styles its own one begins anew, so a text that does so is
not shown in one piece.
-/
namespace AffectedNodes.Text

/-- The text occurs in what is shown. -/
def Shows (text shown : String) : Prop := text.toList <:+: shown.toList

/-- A text in a style, between the escape sequences that begin and end it, if styles are wanted. -/
inductive IsPainted (style : Style) (text : String) : Bool → String → Prop where
  | plain : IsPainted style text false text
  | styled {shown : String}
      (spelt : shown.toList = style.opening ++ text.toList ++ Style.closing) :
      IsPainted style text true shown

structure IsPadded (width : Nat) (text column : String) : Prop where
  spelt : ∃ blanks, column.toList = text.toList ++ List.replicate blanks ' '
  length : column.toList.length = max width text.toList.length

variable {text shown : String} {styled : Bool} {style : Style}

theorem shows_self (text : String) : Shows text text := List.infix_rfl

theorem Shows.after (shows : Shows text shown) (before : String) : Shows text (before ++ shown) := by
  rw [Shows, String.toList_append]
  exact shows.trans (List.suffix_append _ _).isInfix

theorem Shows.before (shows : Shows text shown) (later : String) : Shows text (shown ++ later) := by
  rw [Shows, String.toList_append]
  exact shows.trans (List.prefix_append _ _).isInfix

/-- A style does not begin anew in a text that does not end all styles. -/
theorem resumed_eq_self {chars : List Char} (lasts : ¬ Style.closing <:+: chars) :
    style.resumed chars = chars := by
  fun_induction Style.resumed style chars with
  | case1 => rfl
  | case2 rest ih => exact absurd (List.prefix_append _ rest).isInfix lasts
  | case3 c rest _ ih => rw [ih fun later => lasts (List.infix_cons later)]

theorem not_closing_infix {chars : List Char} (noEscape : '\x1b' ∉ chars) :
    ¬ Style.closing <:+: chars :=
  fun closed => noEscape (closed.subset List.mem_cons_self)

theorem isPainted_paint (styled : Bool) (style : Style)
    (lasts : styled = true → ¬ Style.closing <:+: text.toList) :
    IsPainted style text styled (paint styled style text) := by
  cases styled with
  | false => exact .plain
  | true =>
      apply IsPainted.styled
      rw [paint, if_pos rfl, String.toList_ofList, resumed_eq_self (lasts rfl)]

theorem IsPainted.shows (painted : IsPainted style text styled shown) : Shows text shown := by
  cases painted with
  | plain => exact shows_self text
  | styled spelt =>
      rw [Shows, spelt]
      exact (List.suffix_append _ _).isInfix.trans (List.prefix_append _ _).isInfix

theorem isPadded_padRight (width : Nat) (text : String) :
    IsPadded width text (padRight width text) where
  spelt := ⟨_, String.toList_ofList⟩
  length := by
    rw [padRight, String.toList_ofList, List.length_append, List.length_replicate]
    omega

theorem IsPadded.shows {width : Nat} (padded : IsPadded width text shown) : Shows text shown := by
  obtain ⟨blanks, spelt⟩ := padded.spelt
  rw [Shows, spelt]
  exact (List.prefix_append _ _).isInfix

end AffectedNodes.Text
