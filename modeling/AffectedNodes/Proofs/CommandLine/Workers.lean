import AffectedNodes.CommandLine.Answer
import AffectedNodes.Proofs.Batch.Workers
import AffectedNodes.Proofs.CommandLine.Reading

/-!
# The number of workers from outside

The number of workers, and the length from which a batch is split among them, reach decoding as
settings, of which only the policy shows in an outcome.  So they do not show in what is decoded from
metadata or from a list of nodes, nor in what a call of the program prints or in its exit code.
-/
namespace AffectedNodes

variable {order order' : FinishingOrder} {settings settings' : Settings}

theorem Decoder.decodeMetadataWith_congr (decoder : Decoder)
    (samePolicy : settings.policy = settings'.policy) (value : Json) :
    decoder.decodeMetadataWith order settings value =
      decoder.decodeMetadataWith order' settings' value := by
  have sameBatch (elements : List Json) : decoder.decodeBatchWith order settings elements =
      decoder.decodeBatchWith order' settings' elements := by
    rw [decodeBatchWith_eq, decodeBatchWith_eq, samePolicy]
  unfold decodeMetadataWith
  simp only [sameBatch]

theorem Input.decode_congr {catalog : Catalog} (samePolicy : settings.policy = settings'.policy)
    (input : Input) : input.decode catalog settings = input.decode catalog settings' := by
  cases input with
  | metadata value =>
      rw [decode, decode, Metadata.decodeWith, Metadata.decodeWith,
        Decoder.decodeMetadataWith_congr _ samePolicy]
  | nodes elements => rw [decode, decode, Batch.decodeWith_eq, Batch.decodeWith_eq, samePolicy]

namespace CommandLine

/-- The command with another number of workers, or with none given; only decoding has any. -/
def Command.withWorkers (workers : Option UInt64) : Command → Command
  | decode options => decode { options with workers }
  | changes input => changes input
  | catalog decodableOnly => catalog decodableOnly

def Invocation.withWorkers (workers : Option UInt64) (invocation : Invocation) : Invocation :=
  { invocation with command := invocation.command.withWorkers workers }

variable {sources : Sources} {styled : Bool} {workers : Option UInt64}

theorem readDecoded_congr (samePolicy : settings.policy = settings'.policy) (input : String) :
    readDecoded sources settings input = readDecoded sources settings' input := by
  unfold readDecoded
  simp only [Input.decode_congr samePolicy]

/-- The number of workers is no part of the policy, and decides about no fault of the settings. -/
theorem DecodeOptions.policy_withWorkers (options : DecodeOptions) :
    (DecodeOptions.settings sources { options with workers }).map Settings.policy =
      (options.settings sources).map Settings.policy := by
  unfold settings
  cases options.config with
  | none => rfl
  | some path =>
      dsimp only
      cases Settings.load sources path <;> rfl

theorem runDecode_withWorkers (format : OutputFormat) (options : DecodeOptions) :
    runDecode sources styled format { options with workers } =
      runDecode sources styled format options := by
  have same : (DecodeOptions.settings sources { options with workers }).map Settings.policy =
      (options.settings sources).map Settings.policy := options.policy_withWorkers
  unfold runDecode
  cases given : options.settings sources with
  | error fault =>
      rw [given] at same
      rw [map_eq_error_iff.mp same]
  | ok settings =>
      rw [given] at same
      obtain ⟨settings', given', samePolicy⟩ := map_eq_ok_iff.mp same
      have sameDecoded : readDecoded sources settings' options.input =
          readDecoded sources settings options.input := readDecoded_congr samePolicy _
      rw [given']
      change (liftM (readDecoded sources settings' options.input) >>= _ : Run Unit) =
        liftM (readDecoded sources settings options.input) >>= _
      rw [sameDecoded]

namespace Invocation

theorem run_withWorkers (invocation : Invocation) :
    (invocation.withWorkers workers).run sources styled = invocation.run sources styled := by
  obtain ⟨command, format, verbose⟩ := invocation
  cases command with
  | decode options => exact runDecode_withWorkers format options
  | changes | catalog => rfl

theorem report_withWorkers (invocation : Invocation) :
    (invocation.withWorkers workers).report sources styled = invocation.report sources styled := by
  rw [report, report, run_withWorkers]

theorem inputs_withWorkers (invocation : Invocation) :
    (invocation.withWorkers workers).inputs = invocation.inputs := by
  obtain ⟨command, format, verbose⟩ := invocation
  cases command <;> rfl

end Invocation

section Arguments

variable {arguments arguments' : List String} {invocation : Invocation}

theorem inputsOf_withWorkers (given : Invocation.ofArguments arguments = .ok invocation)
    (given' : Invocation.ofArguments arguments' = .ok (invocation.withWorkers workers)) :
    inputsOf arguments' = inputsOf arguments := by
  rw [inputsOf, inputsOf, given, given']
  exact invocation.inputs_withWorkers

theorem answer_withWorkers (given : Invocation.ofArguments arguments = .ok invocation)
    (given' : Invocation.ofArguments arguments' = .ok (invocation.withWorkers workers)) :
    answer sources styled arguments' = answer sources styled arguments := by
  rw [answer, answer, given, given']
  exact congrArg Report.answer invocation.report_withWorkers

end Arguments

/--
Workers give the results of one worker, in whichever order they finish, and the pieces that they take
divide the batch.  So settings of one policy give the same outcome of a batch and of metadata.  With
every number of workers and with none given a call reports the same, and the program reads the same
inputs, writes the same to the standard output and to the standard error, and has the same exit code.
-/
theorem workers_unobservable (decoder : Decoder) (order : FinishingOrder) :
    (∀ elements workers,
      decoder.decodeNodesParallel order elements workers = decoder.decodeNodes elements) ∧
    (∀ (elements : List Json) workers, 1 < workers → 2 ≤ elements.length →
      Batch.IsDivided workers elements) ∧
    (∀ (order' : FinishingOrder) (settings settings' : Settings),
      settings.policy = settings'.policy →
      (∀ elements, decoder.decodeBatchWith order settings elements =
        decoder.decodeBatchWith order' settings' elements) ∧
      ∀ value, decoder.decodeMetadataWith order settings value =
        decoder.decodeMetadataWith order' settings' value) ∧
    ∀ (invocation : Invocation) (workers : Option UInt64),
      (∀ sources styled,
        (invocation.withWorkers workers).report sources styled =
          invocation.report sources styled) ∧
      ∀ arguments arguments', Invocation.ofArguments arguments = .ok invocation →
        Invocation.ofArguments arguments' = .ok (invocation.withWorkers workers) →
        inputsOf arguments' = inputsOf arguments ∧
        ∀ sources styled,
          answer sources styled arguments' = answer sources styled arguments := by
  refine ⟨decoder.decodeNodesParallel_eq order, ?_, ?_, ?_⟩
  · intro elements workers several long
    have nonempty : elements ≠ [] := by
      rintro rfl
      cases long
    exact Batch.isDivided (Nat.zero_lt_of_lt several) nonempty
  · intro order' settings settings' samePolicy
    constructor
    · intro elements
      rw [Decoder.decodeBatchWith_eq, Decoder.decodeBatchWith_eq, samePolicy]
    · exact decoder.decodeMetadataWith_congr samePolicy
  · intro invocation workers
    constructor
    · exact fun sources styled => invocation.report_withWorkers
    · intro arguments arguments' given given'
      exact ⟨inputsOf_withWorkers given given', fun _ _ => answer_withWorkers given given'⟩

theorem workers_unobservable_twoWorkers :
    Batch.assignments 2 [.null, .bool true, .null] = [[.null, .bool true], [.null]] ∧
    Batch.IsDivided 2 [.null, .bool true, .null] ∧
    (Decoder.ofCatalog .standard).decodeBatchWith .inTurn ⟨.failFast, 2, 2⟩ [.null, .null] =
      (Decoder.ofCatalog .standard).decodeBatchWith .inTurn .standard [.null, .null] ∧
    inputsOf ["decode", "-", "--workers=2"] = ["-"] ∧
    (answer (.ofInput "[null]") false ["decode", "-"]).exitCode = 1 ∧
    answer (.ofInput "[null]") false ["decode", "-", "--workers=2"] =
      answer (.ofInput "[null]") false ["decode", "-"] := by
  obtain ⟨-, divided, alike, call⟩ := workers_unobservable (.ofCatalog .standard) .inTurn
  obtain ⟨-, program⟩ := call ⟨.decode ⟨"-", none, false, none⟩, .text, false⟩ (some 2)
  obtain ⟨sameInputs, sameAnswer⟩ := program ["decode", "-"] ["decode", "-", "--workers=2"] rfl rfl
  have fails : (Invocation.report (.ofInput "[null]") false
      ⟨.decode ⟨"-", none, false, none⟩, .text, false⟩).answer.exitCode = 1 := by
    rw [Invocation.report_decode, DecodeOptions.decoded_eq (.standard rfl)
      (Sources.gives_ofInput rfl) (Input.classify_eq_nodes_iff.mpr rfl)]
    rfl
  exact ⟨rfl, divided _ 2 (by decide) (by decide), (alike .inTurn _ _ rfl).1 _, sameInputs, fails,
    sameAnswer _ _⟩

end CommandLine

end AffectedNodes
