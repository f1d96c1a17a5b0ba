import AffectedNodes.Proofs.CommandLine.Flag
import AffectedNodes.Proofs.CommandLine.Reading

/-!
# When calls fail

A call that fails has printed nothing on the standard output, for all that can fail in it comes
before the first text.  Where failing elements are left out, nothing about an element fails a call
of `decode`, but only the header of metadata does.  And a call that succeeds although the first
failing element would fail it prints the same if failing elements are to be left out.
-/
namespace AffectedNodes.CommandLine

open Metadata (Header)

variable {sources : Sources} {styled verbose : Bool} {format : OutputFormat}
  {options : DecodeOptions} {base : Settings} {value : Json} {input : Input} {failed : Failed}

theorem DecodeOptions.policyFrom_eq_skipInvalid_iff :
    options.policyFrom base = .skipInvalid ↔
      options.skipInvalid = true ∨ base.policy = .skipInvalid := by
  rw [policyFrom]
  cases options.skipInvalid <;> simp

theorem isSome_fields?_of_classify (classified : Input.classify value = .ok input) :
    ∀ metadata, input = .metadata metadata → metadata.fields?.isSome = true := by
  rintro metadata rfl
  obtain ⟨outer, leads⟩ := Input.classify_eq_metadata_iff.mp classified
  obtain ⟨fields, -, object, -⟩ := leads.hasNodes
  rw [object]
  rfl

/-- Where failing elements are left out, a call that finds an input fails for its header only. -/
theorem failed_report_iff_of_lenient (starts : options.StartsFrom sources base)
    (lenient : options.policyFrom base = .skipInvalid) (gives : sources.Gives options.input value)
    (classified : Input.classify value = .ok input) :
    (Invocation.report sources styled ⟨.decode options, format, verbose⟩).failed = some failed ↔
      ∃ cause, input.HasFault cause ∧ failed = .undecodable options.input (.malformed cause) := by
  have object := isSome_fields?_of_classify classified
  have policy : (options.override base).policy = .skipInvalid := lenient
  rw [Invocation.failed_report_decode_iff, options.decoded_eq starts gives classified,
    mapError_eq_error_iff]
  constructor
  · rintro ⟨error, undecoded, rfl⟩
    obtain ⟨cause, hasFault, rfl⟩ :=
      (Input.decode_eq_error_iff_of_lenient policy object).mp undecoded
    exact ⟨cause, hasFault, rfl⟩
  · rintro ⟨cause, hasFault, rfl⟩
    exact ⟨_, (Input.decode_eq_error_iff_of_lenient policy object).mpr ⟨cause, hasFault, rfl⟩, rfl⟩

theorem DecodeOptions.decoded_lenient {decoded : Decoded} {failures : List Failure}
    (starts : options.StartsFrom sources base) (strict : options.policyFrom base = .failFast)
    (available : options.decoded sources = .ok (decoded, failures)) :
    failures = [] ∧ options.lenient.decoded sources = .ok (decoded, failures) := by
  obtain ⟨settings, set, read⟩ := bind_eq_ok_iff.mp available
  obtain ⟨value, input, gives, classified, read⟩ := readDecoded_eq_ok_iff.mp read
  cases set.symm.trans (settings_eq starts)
  have starts' : options.lenient.StartsFrom sources base := by
    cases starts with
    | standard unnamed => exact .standard unnamed
    | file named loaded => exact .file named loaded
  obtain ⟨complete, read'⟩ := Input.decode_of_strict strict read
  refine ⟨complete, ?_⟩
  exact bind_eq_ok_iff.mpr
    ⟨_, settings_eq starts', readDecoded_eq_ok_iff.mpr ⟨value, input, gives, classified, read'⟩⟩

/-- A call that succeeds reports the same with failing elements left out. -/
theorem report_lenient (starts : options.StartsFrom sources base)
    (strict : options.policyFrom base = .failFast)
    (succeeds : (Invocation.report sources styled ⟨.decode options, format, verbose⟩).failed =
      none) :
    Invocation.report sources styled ⟨.decode options.lenient, format, verbose⟩ =
      ⟨(Invocation.report sources styled ⟨.decode options, format, verbose⟩).output, "", none⟩ := by
  obtain ⟨decoded, failures, available, shown⟩ := Invocation.exists_decoded_of_report succeeds
  obtain ⟨rfl, available'⟩ := options.decoded_lenient starts strict available
  rw [shown, Invocation.report_decode, available']
  rfl

/--
A call that fails has written nothing to the standard output.  A call of `decode` that leaves
failing elements out and finds an input fails exactly for the header of metadata, so it never does
for an array.  And a call of `decode` that would fail for any failing element, but succeeds, writes
the same and skips nothing if failing elements are to be left out, for which a flag can be added to
its arguments.
-/
theorem failure_unprinted (sources : Sources) (styled : Bool) :
    (∀ (invocation : Invocation) (failed : Failed),
      (invocation.report sources styled).failed = some failed →
      (invocation.report sources styled).output = "") ∧
    (∀ (options : DecodeOptions) (base : Settings) (value : Json) (input : Input)
        (format : OutputFormat) (verbose : Bool),
      options.StartsFrom sources base →
      options.skipInvalid = true ∨ base.policy = .skipInvalid →
      sources.Gives options.input value → Input.classify value = .ok input →
      ∀ failed,
        (Invocation.report sources styled ⟨.decode options, format, verbose⟩).failed = some failed ↔
          ∃ metadata fields cause, input = .metadata metadata ∧ metadata.fields? = some fields ∧
            Header.Fault fields cause ∧ failed = .undecodable options.input (.malformed cause)) ∧
    (∀ (arguments : List String) (options : DecodeOptions) (base : Settings)
        (format : OutputFormat) (verbose : Bool),
      Invocation.ofArguments arguments = .ok ⟨.decode options, format, verbose⟩ →
      options.StartsFrom sources base →
      options.skipInvalid = false → base.policy = .failFast →
      (Invocation.report sources styled ⟨.decode options, format, verbose⟩).failed = none →
      ∃ before after lenient, arguments = before ++ after ∧
        Invocation.ofArguments (before ++ "--skip-invalid" :: after) = .ok lenient ∧
        lenient.report sources styled =
          ⟨(Invocation.report sources styled ⟨.decode options, format, verbose⟩).output, "",
            none⟩) := by
  refine ⟨fun _ _ => Invocation.output_of_failed, ?_, ?_⟩
  · intro options base value input format verbose starts lenient gives classified failed
    have policy := options.policyFrom_eq_skipInvalid_iff.mpr lenient
    rw [failed_report_iff_of_lenient starts policy gives classified]
    constructor
    · rintro ⟨cause, ⟨object, fault⟩, rfl⟩
      exact ⟨_, _, cause, rfl, object, fault, rfl⟩
    · rintro ⟨metadata, fields, cause, rfl, object, fault, rfl⟩
      exact ⟨cause, .header object fault, rfl⟩
  · intro arguments options base format verbose accepted starts noFlag strict succeeds
    obtain ⟨before, after, rfl, accepted'⟩ := Invocation.ofArguments_skipInvalid noFlag accepted
    have policy : options.policyFrom base = .failFast := by
      rw [DecodeOptions.policyFrom, noFlag, strict]
      rfl
    exact ⟨before, after, _, rfl, accepted', report_lenient starts policy succeeds⟩

theorem failure_unprinted_lists :
    (∃ failed, (Invocation.report (.ofInput "[") false ⟨.changes "-", .json, false⟩).failed =
      some failed) ∧
    (Invocation.report (.ofInput "[") false ⟨.changes "-", .json, false⟩).output = "" ∧
    (Invocation.report (.ofInput "[null]") false
      ⟨.decode ⟨"-", none, true, none⟩, .text, false⟩).failed = none ∧
    Invocation.ofArguments ["decode", "-"] = .ok ⟨.decode ⟨"-", none, false, none⟩, .text, false⟩ ∧
    (Invocation.report (.ofInput (Json.array [Json.createdFeeSettings]).compact) false
      ⟨.decode ⟨"-", none, false, none⟩, .text, false⟩).failed = none ∧
    ∃ before after lenient, ["decode", "-"] = before ++ after ∧
      Invocation.ofArguments (before ++ "--skip-invalid" :: after) = .ok lenient ∧
      lenient.report (.ofInput (Json.array [Json.createdFeeSettings]).compact) false =
        ⟨lines ["  CreatedNode   FeeSettings      00000000 identity only",
          "✓ 1 nodes, 1 identity only, 0 skipped"], "", none⟩ := by
  obtain ⟨broken, -, -⟩ := failure_unprinted (.ofInput "[") false
  obtain ⟨-, skipped, -⟩ := failure_unprinted (.ofInput "[null]") false
  obtain ⟨-, -, added⟩ :=
    failure_unprinted (.ofInput (Json.array [Json.createdFeeSettings]).compact) false
  have failed : ∃ failed, (Invocation.report (.ofInput "[") false
      ⟨.changes "-", .json, false⟩).failed = some failed := ⟨_, rfl⟩
  have accepted : Invocation.ofArguments ["decode", "-"] =
      .ok ⟨.decode ⟨"-", none, false, none⟩, .text, false⟩ := rfl
  have shown : Invocation.report (.ofInput (Json.array [Json.createdFeeSettings]).compact) false
      ⟨.decode ⟨"-", none, false, none⟩, .text, false⟩ =
      ⟨lines ["  CreatedNode   FeeSettings      00000000 identity only",
        "✓ 1 nodes, 1 identity only, 0 skipped"], "", none⟩ := by
    rw [Invocation.report_decode, DecodeOptions.decoded_eq (.standard rfl)
      (Sources.gives_compact (by decide +kernel)) (Input.classify_eq_nodes_iff.mpr rfl)]
    rfl
  refine ⟨failed, ?_, ?_, accepted, congrArg Report.failed shown, ?_⟩
  · obtain ⟨cause, failed⟩ := failed
    exact broken _ _ failed
  · have fails_iff := skipped ⟨"-", none, true, none⟩ .standard _ _ .text false (.standard rfl)
      (Or.inl rfl) (Sources.gives_ofInput rfl) (Input.classify_eq_nodes_iff.mpr rfl)
    rw [Option.eq_none_iff_forall_ne_some]
    intro failed fails
    obtain ⟨_, _, _, metadata, -⟩ := (fails_iff failed).mp fails
    cases metadata
  · have lenient := added _ _ .standard .text false accepted (.standard rfl) rfl rfl
      (congrArg Report.failed shown)
    rw [shown] at lenient
    exact lenient

end AffectedNodes.CommandLine
