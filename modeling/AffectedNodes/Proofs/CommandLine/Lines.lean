import AffectedNodes.Proofs.CommandLine.Accounting
import AffectedNodes.Proofs.Text.Lines

/-!
# The lines of a listing

What was decoded is listed by a text for the transaction, if it is known, a text for each node, and
one that closes the listing.  A line break is printed after each of them.

Most of what these texts show is made of names and numbers.  But the tags of unknown types, the
result of the transaction, and the value and the currency of what it delivered come from the input
and are shown as they are, but for styles that begin anew in the result.  Each line break in them
adds a line to the listing, and apart from that every text is a line of its own.
-/
namespace AffectedNodes

open Text (breaks pieces linesOf totalBreaks)

def Amount.verbatim : Amount → List String
  | .xrp _ => []
  | .issued given => [given.value, given.currency]

def Metadata.verbatim (metadata : Metadata) : List String :=
  metadata.transactionResult :: metadata.deliveredAmount.elim [] Amount.verbatim

/-- The tag of a node if it is of no known type. -/
def Node.unknownTag? (node : Node) : Option String :=
  match node.identifier.tag.known? with
  | some _ => none
  | none => some node.identifier.tag.text

def Decoded.verbatim : Decoded → List String
  | .metadata told => told.verbatim ++ told.nodes.filterMap Node.unknownTag?
  | .nodes shown => shown.filterMap Node.unknownTag?

/-! ### Line breaks in a listing -/

theorem Tag.breaks_of_known {tag : Tag} {type : EntryType} (known : tag.known? = some type) :
    breaks tag.text = 0 := by
  have same : type.wireName = tag.text := by
    simpa using List.find?_some known
  rw [← same]
  cases type <;> decide

theorem Hash.breaks_shortHex (hash : Hash) : breaks hash.shortHex = 0 :=
  Text.breaks_eq_zero_iff.mpr (not_mem_shortHex (by decide))

theorem Wrapper.breaks_key (wrapper : Wrapper) : breaks wrapper.key = 0 := by
  cases wrapper <;> decide

namespace Listing

theorem breaks_amount (given : Amount) : breaks (amount given) = totalBreaks given.verbatim := by
  cases given <;> simp +decide [amount, Amount.verbatim, Drops.display, Drops.text]

theorem breaks_transaction (styled : Bool) (metadata : Metadata) :
    breaks (transaction styled metadata) = totalBreaks metadata.verbatim := by
  have title : breaks "Transaction #" = 0 := rfl
  have space : breaks " " = 0 := rfl
  have label : breaks ", delivered " = 0 := rfl
  -- `simp` would first have to prove the equation of `transaction`, which takes it seconds.
  delta transaction
  cases delivered : metadata.deliveredAmount with
  | none => simp [Metadata.verbatim, delivered, title, space]
  | some given => simp [Metadata.verbatim, delivered, title, space, label, breaks_amount]

theorem breaks_node (styled : Bool) (item : Node) :
    breaks (node styled item) = breaks item.identifier.tag.text := by
  have status : breaks (if item.isDecoded then Text.paint styled .green "decoded"
      else Text.paint styled .dimmed "identity only") = 0 := by
    split
    · exact Text.breaks_paint ..
    · exact Text.breaks_paint ..
  have space : breaks " " = 0 := rfl
  simp only [node, String.intercalate_cons_cons, String.intercalate_singleton, Text.breaks_append,
    Text.breaks_paint, Text.breaks_padRight, Wrapper.breaks_key, Hash.breaks_shortHex, space, status]
  omega

theorem breaks_totals (styled : Bool) (nodes : List Node) (failures : List Failure) :
    breaks (totals styled nodes failures) = 0 := by
  simp +decide [totals]

/-- The lines of nodes are broken by tags of unknown types only. -/
theorem totalBreaks_nodes (styled : Bool) (nodes : List Node) :
    totalBreaks (nodes.map fun item => indented (node styled item)) =
      totalBreaks (nodes.filterMap Node.unknownTag?) := by
  induction nodes with
  | nil => rfl
  | cons item rest ih =>
      have shown : breaks (indented (node styled item)) = breaks item.identifier.tag.text := by
        rw [indented, Text.breaks_append, breaks_node]
        exact Nat.zero_add _
      rw [List.map_cons, Text.totalBreaks_cons, shown, ih]
      cases known : item.identifier.tag.known? with
      | none =>
          rw [List.filterMap_cons_some (by rw [Node.unknownTag?, known]), Text.totalBreaks_cons]
      | some type =>
          rw [List.filterMap_cons_none (by rw [Node.unknownTag?, known]), Tag.breaks_of_known known,
            Nat.zero_add]

theorem totalBreaks_decoded (styled : Bool) (shown : Decoded) (failures : List Failure) :
    totalBreaks (decoded styled shown failures) = totalBreaks shown.verbatim := by
  cases shown with
  | metadata metadata =>
      simp [decoded, Decoded.verbatim, Decoded.nodeList, totalBreaks_nodes, breaks_transaction,
        breaks_totals]
  | nodes nodes =>
      simp [decoded, Decoded.verbatim, Decoded.nodeList, totalBreaks_nodes, breaks_totals]

end Listing

namespace CommandLine

variable {sources : Sources} {styled verbose : Bool} {options : DecodeOptions}

/-! ### Lines that are printed -/

theorem pieces_lines (texts : List String) :
    pieces (lines texts) = texts.flatMap pieces ++ [""] := by
  induction texts with
  | nil => rfl
  | cons text rest ih =>
      have printed : lines (text :: rest) = text ++ "\n" ++ lines rest := by
        rw [lines, List.map_cons, String.join_cons]
        rfl
      rw [printed, Text.pieces_append_break, ih, List.flatMap_cons, List.append_assoc]

theorem linesOf_lines (texts : List String) : linesOf (lines texts) = texts.flatMap pieces := by
  rw [linesOf, pieces_lines, List.dropLast_concat]

/-- A listing has a line for each of its texts, and one for each line break shown in them. -/
theorem length_linesOf_decoded (styled : Bool) (shown : Decoded) (failures : List Failure) :
    (linesOf (lines (Listing.decoded styled shown failures))).length =
      (Listing.decoded styled shown failures).length + totalBreaks shown.verbatim := by
  rw [linesOf_lines, Text.length_flatMap_pieces, Listing.totalBreaks_decoded]

theorem linesOf_decoded_eq_iff (styled : Bool) (shown : Decoded) (failures : List Failure) :
    linesOf (lines (Listing.decoded styled shown failures)) =
        Listing.decoded styled shown failures ↔
      ∀ text ∈ shown.verbatim, '\n' ∉ text.toList := by
  rw [linesOf_lines, Text.flatMap_pieces_eq_iff, Listing.totalBreaks_decoded,
    Text.totalBreaks_eq_zero_iff]
  simp only [Text.breaks_eq_zero_iff]

/--
A call of `decode` that succeeds prints a text for each node in the order of the nodes, after one for
the transaction of metadata and before one that closes the listing, and a line break after each.  The
lines are the pieces of these texts.  Only what is shown as it is can be broken: tags of unknown
types, the result of the transaction, and the value and currency of what it delivered.  These are
shown in the texts.  Each line break in them adds one line, and without any each text is one line.
-/
theorem decode_lines
    (succeeds :
      (Invocation.report sources styled ⟨.decode options, .text, verbose⟩).failed = none) :
    ∃ value input elements, ∃ outcome : Outcome, ∃ shown texts,
      sources.Gives options.input value ∧ Input.classify value = .ok input ∧
      input.Lists elements ∧ outcome.Tells (.ofCatalog .standard) elements ∧
      input.Presents outcome.nodes shown ∧
      texts = Listing.header styled shown ++
        outcome.nodes.map (fun node => Listing.indented (Listing.node styled node)) ++
          [Listing.summary styled outcome.nodes.length
            (outcome.nodes.countP fun node => !node.isDecoded) outcome.failures.length] ∧
      texts.length = outcome.nodes.length + 1 + input.headerLines ∧
      (Invocation.report sources styled ⟨.decode options, .text, verbose⟩).output = lines texts ∧
      (∀ metadata, shown = .metadata metadata →
        Listing.ShowsTransaction styled metadata (Listing.transaction styled metadata)) ∧
      (∀ node ∈ outcome.nodes,
        Text.Shows node.identifier.tag.text (Listing.indented (Listing.node styled node))) ∧
      linesOf (lines texts) = texts.flatMap pieces ∧
      (linesOf (lines texts)).length = texts.length + totalBreaks shown.verbatim ∧
      (linesOf (lines texts) = texts ↔ ∀ text ∈ shown.verbatim, '\n' ∉ text.toList) := by
  obtain ⟨shown, failures, available, printed⟩ := Invocation.exists_decoded_of_report succeeds
  obtain ⟨settings, -, read⟩ := bind_eq_ok_iff.mp available
  obtain ⟨value, input, gives, classified, decodes⟩ := readDecoded_eq_ok_iff.mp read
  obtain ⟨elements, lists, presents, rfl, -⟩ := Input.decode_eq_ok_iff.mp decodes
  refine ⟨value, input, elements, _, shown, Listing.decoded styled shown _, gives, classified, lists,
    (Decoder.ofCatalog .standard).tells_skipped elements, presents, presents.listing_eq styled _,
    ?_, ?_, fun metadata _ => Listing.showsTransaction_transaction styled metadata,
    fun node _ => (Listing.isNode_node styled node).shows_tag.after "  ", linesOf_lines _,
    length_linesOf_decoded styled shown _,
    linesOf_decoded_eq_iff styled shown _⟩
  · rw [presents.listing_eq styled, List.length_append, List.length_append, List.length_map,
      presents.length_header styled, List.length_singleton]
    omega
  · rw [printed]
    rfl

def Json.brokenTag : Json :=
  .object
    [(Wrapper.created.key, .object
      [(FieldName.entryType, .string "Foo\nBar"),
        (FieldName.ledgerIndex, .string Hash.zero.toHex)])]

def Json.brokenTexts : Json :=
  .object
    [("AffectedNodes", .array [Json.brokenTag]),
      ("TransactionIndex", .nat 0),
      ("TransactionResult", .string "tes\nSUCCESS"),
      ("delivered_amount", .object
        [("currency", .string "U\nSD"), ("issuer", .string "rrrrrrrrrrrrrrrrrrrrrrrrr"),
          ("value", .string "1\n0")])]

def DecodeOptions.plain : DecodeOptions := ⟨"-", none, false, none⟩

def Json.decodeReport (value : Json) : Report :=
  Invocation.report (.ofInput value.compact) false ⟨.decode .plain, .text, false⟩

theorem gives_brokenTexts : (Sources.ofInput Json.brokenTexts.compact).Gives "-" Json.brokenTexts :=
  Sources.gives_compact (by decide +kernel)

theorem classify_brokenTexts :
    Input.classify Json.brokenTexts = .ok (.metadata Json.brokenTexts) :=
  Input.classify_of_hasNodes ⟨_, _, rfl, rfl⟩

set_option maxRecDepth 8000 in
theorem decodeReport_brokenTexts :
    (Json.decodeReport Json.brokenTexts).failed = none ∧
      (linesOf (Json.decodeReport Json.brokenTexts).output).length = 7 := by
  obtain ⟨shown, decodes, texts, broken⟩ : ∃ shown,
      Input.decode .standard (DecodeOptions.plain.override .standard)
        (.metadata Json.brokenTexts) = .ok (shown, []) ∧
      (Listing.decoded false shown []).length = 3 ∧ totalBreaks shown.verbatim = 4 :=
    ⟨_, rfl, rfl, rfl⟩
  have unnamed : DecodeOptions.plain.StartsFrom (.ofInput Json.brokenTexts.compact) .standard :=
    .standard rfl
  have available : DecodeOptions.plain.decoded (.ofInput Json.brokenTexts.compact) =
      .ok (shown, []) := by
    rw [DecodeOptions.decoded_eq unnamed gives_brokenTexts classify_brokenTexts, decodes]
    rfl
  delta Json.decodeReport
  rw [Invocation.report_decode, available]
  refine ⟨rfl, ?_⟩
  have length := length_linesOf_decoded false shown []
  rw [texts, broken] at length
  exact length

theorem lists_brokenTexts : (Input.metadata Json.brokenTexts).Lists [Json.brokenTag] :=
  .metadata rfl rfl

theorem exists_node_brokenTag {outcome : Outcome}
    (tells : outcome.Tells (.ofCatalog .standard) [Json.brokenTag]) :
    ∃ node, outcome.nodes = [node] ∧ node.identifier.tag.text = "Foo\nBar" := by
  rw [tells.nodes_eq]
  exact ⟨_, rfl, rfl⟩

theorem decode_lines_brokenTexts :
    (Json.decodeReport Json.brokenTexts).failed = none ∧
    ∃ outcome : Outcome, ∃ texts, outcome.Tells (.ofCatalog .standard) [Json.brokenTag] ∧
      outcome.nodes.length = 1 ∧ texts.length = 3 ∧
      (Json.decodeReport Json.brokenTexts).output = lines texts ∧
      (∃ text ∈ texts, Text.Shows "tes\nSUCCESS" text) ∧
      (∃ text ∈ texts, Text.Shows "Foo\nBar" text) ∧
      (linesOf (lines texts)).length = 7 ∧ linesOf (lines texts) ≠ texts := by
  obtain ⟨succeeds, seven⟩ := decodeReport_brokenTexts
  obtain ⟨value, input, elements, outcome, shown, texts, gives, classified, lists, tells, presents,
    listed, size, output, transacted, tagged, -⟩ := decode_lines succeeds
  cases gives.unique gives_brokenTexts
  cases classified.symm.trans classify_brokenTexts
  obtain rfl := lists.unique lists_brokenTexts
  obtain ⟨node, one, tag⟩ := exists_node_brokenTag tells
  have three : texts.length = 3 := by
    rw [size, one]
    rfl
  have printed : (Json.decodeReport Json.brokenTexts).output = lines texts := output
  rw [printed] at seven
  refine ⟨succeeds, outcome, texts, tells, congrArg List.length one, three, printed, ?_, ?_, seven,
    fun same => ?_⟩
  · cases presents with
    | @metadata _ _ header _ object told =>
        cases object
        have result : header.transactionResult = "tes\nSUCCESS" :=
          (Json.string.inj (Option.some.inj told.transactionResult)).symm
        have shows : ∃ text ∈ texts, Text.Shows header.transactionResult text := by
          refine ⟨_, ?_, (transacted _ rfl).result nofun⟩
          rw [listed]
          exact List.mem_cons_self
        rwa [result] at shows
  · refine ⟨_, ?_, tag ▸ tagged node (by rw [one]; exact List.mem_cons_self)⟩
    rw [listed, one]
    exact List.mem_append_left _ (List.mem_append_right _ List.mem_cons_self)
  · rw [same, three] at seven
    cases seven

/-- A listing may have more lines than nodes, the transaction and the closing line take up. -/
theorem not_decode_one_line_each :
    ¬ ∀ (sources : Sources) (styled verbose : Bool) (options : DecodeOptions) (value : Json)
        (input : Input) (elements : List Json) (outcome : Outcome),
      sources.Gives options.input value → Input.classify value = .ok input →
        input.Lists elements → outcome.Tells (.ofCatalog .standard) elements →
        (Invocation.report sources styled ⟨.decode options, .text, verbose⟩).failed = none →
        (linesOf (Invocation.report sources styled
          ⟨.decode options, .text, verbose⟩).output).length =
            outcome.nodes.length + 1 + input.headerLines := by
  intro disciplined
  have tells := (Decoder.ofCatalog .standard).tells_skipped [Json.brokenTag]
  obtain ⟨succeeds, seven⟩ := decodeReport_brokenTexts
  have three := disciplined (.ofInput Json.brokenTexts.compact) false false .plain _ _ _ _
    gives_brokenTexts classify_brokenTexts lists_brokenTexts tells succeeds
  obtain ⟨node, one, -⟩ := exists_node_brokenTag tells
  rw [one] at three
  cases seven.symm.trans three

end CommandLine

end AffectedNodes
