import AffectedNodes.Listing
import AffectedNodes.Proofs.Changes.Written
import AffectedNodes.Proofs.Json.RoundTrip
import AffectedNodes.Proofs.Text.Painted

/-!
# What a listing shows

Each line of a listing is put together from a few texts: names, which may be styled, numbers in
decimal, values as JSON, and what the input says.  For each sort of line there is a predicate that
tells from which texts the line is made.
-/
namespace AffectedNodes

open Text (Shows IsPainted IsPadded IsCanonical)

namespace Listing

/-- The texts that the one about a transaction shows: its result in a style, which is the result itself
unless that ends all styles, and what was delivered. -/
structure ShowsTransaction (styled : Bool) (metadata : Metadata) (shown : String) : Prop where
  styledResult : Shows (Text.paint styled (if metadata.isSuccess then .green else .red)
    metadata.transactionResult) shown
  result : (styled = true → ¬ Text.Style.closing <:+: metadata.transactionResult.toList) →
    Shows metadata.transactionResult shown
  issued : ∀ given, metadata.deliveredAmount = some (.issued given) →
    Shows given.value shown ∧ Shows given.currency shown

/-- A text that tells what happened to an object, its tag, the beginning of its key, and whether its
fields are decoded. -/
inductive IsNode (styled : Bool) (node : Node) : String → Prop where
  | mk {column action tag key status : String} (padded : IsPadded 13 node.wrapper.key column)
      (happened : IsPainted .cyan column styled action)
      (tagged : IsPadded 16 node.identifier.tag.text tag)
      (keyed : IsPainted .yellow node.identifier.key.shortHex styled key)
      (decoded : node.isDecoded = true → IsPainted .green "decoded" styled status)
      (identityOnly : node.isDecoded = false → IsPainted .dimmed "identity only" styled status) :
      IsNode styled node (action ++ " " ++ tag ++ " " ++ key ++ " " ++ status)

theorem IsNode.shows_tag {styled : Bool} {item : Node} {text : String}
    (shown : IsNode styled item text) : Shows item.identifier.tag.text text := by
  obtain ⟨-, -, tagged, -, -, -⟩ := shown
  exact (((tagged.shows.after _).before _).before _).before _ |>.before _

end Listing

namespace Hash

theorem not_mem_shortHex {hash : Hash} {c : Char} (noDigit : ∀ n < 16, hexDigit n ≠ c) :
    c ∉ hash.shortHex.toList := by
  rw [shortHex, String.toList_ofList]
  intro member
  obtain ⟨byte, -, digit⟩ := List.mem_flatMap.mp member
  have bound := byte.toNat_lt
  simp only [byteDigits, List.mem_cons, List.not_mem_nil, or_false] at digit
  rcases digit with high | low
  · exact noDigit _ (by omega) high.symm
  · exact noDigit _ (by omega) low.symm

theorem lasts_shortHex (hash : Hash) : ¬ Text.Style.closing <:+: hash.shortHex.toList :=
  Text.not_closing_infix (not_mem_shortHex (by decide))

end Hash

theorem Wrapper.lasts_column (wrapper : Wrapper) :
    ¬ Text.Style.closing <:+: (Text.padRight 13 wrapper.key).toList := by
  cases wrapper <;> decide

namespace Listing

theorem showsTransaction_transaction (styled : Bool) (metadata : Metadata) :
    ShowsTransaction styled metadata (transaction styled metadata) := by
  have styledResult : Shows (Text.paint styled (if metadata.isSuccess then .green else .red)
      metadata.transactionResult) (transaction styled metadata) :=
    ((Text.shows_self _).after _).before _
  constructor
  · exact styledResult
  · intro lasts
    exact (Text.isPainted_paint styled _ lasts).shows.trans styledResult
  · intro given delivered
    have shows : Shows (amount (.issued given)) (transaction styled metadata) := by
      delta transaction
      rw [delivered]
      exact ((Text.shows_self _).after ", delivered ").after _
    constructor
    · exact (((Text.shows_self given.value).before " ").before given.currency).trans shows
    · exact ((Text.shows_self given.currency).after (given.value ++ " ")).trans shows

theorem isNode_node (styled : Bool) (item : Node) : IsNode styled item (node styled item) := by
  have decoded : item.isDecoded = true → IsPainted .green "decoded" styled
      (if item.isDecoded then Text.paint styled .green "decoded"
        else Text.paint styled .dimmed "identity only") := by
    intro decoded
    rw [if_pos decoded]
    exact Text.isPainted_paint styled .green fun _ => by decide
  have identityOnly : item.isDecoded = false → IsPainted .dimmed "identity only" styled
      (if item.isDecoded then Text.paint styled .green "decoded"
        else Text.paint styled .dimmed "identity only") := by
    intro identityOnly
    rw [if_neg (by rw [identityOnly]; nofun)]
    exact Text.isPainted_paint styled .dimmed fun _ => by decide
  have shown := IsNode.mk (Text.isPadded_padRight 13 item.wrapper.key)
    (Text.isPainted_paint styled .cyan fun _ => item.wrapper.lasts_column)
    (Text.isPadded_padRight 16 item.identifier.tag.text)
    (Text.isPainted_paint styled .yellow fun _ => item.identifier.key.lasts_shortHex) decoded
    identityOnly
  simp only [String.append_assoc] at shown
  simp only [node, String.intercalate_cons_cons, String.intercalate_singleton, String.append_assoc]
  exact shown

end Listing

end AffectedNodes
