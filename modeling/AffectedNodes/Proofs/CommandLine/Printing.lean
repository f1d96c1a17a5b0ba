import AffectedNodes.CommandLine.Run
import AffectedNodes.Proofs.Json.RoundTrip
import AffectedNodes.Proofs.Steps

/-!
# What a run prints

A run goes on from what has been printed before, and that never matters: either it fails and leaves
that as it was, or it succeeds and adds the same texts to it.  `Run.Fails` and `Run.Prints` say so,
and there is one rule for each way to put runs together.  The commands do all that can fail before
they print, so one of the two holds for every call, and it says what the report on the call is.
-/
namespace AffectedNodes.CommandLine

instance : Append Printed :=
  ⟨fun first second => ⟨first.output ++ second.output, first.notices ++ second.notices⟩⟩

namespace Printed

theorem append_eq (first second : Printed) :
    first ++ second = ⟨first.output ++ second.output, first.notices ++ second.notices⟩ := rfl

@[simp] theorem append_nothing (printed : Printed) : printed ++ nothing = printed := by
  rw [append_eq, nothing, List.append_nil, List.append_nil]

@[simp] theorem nothing_append (printed : Printed) : nothing ++ printed = printed := rfl

theorem append_assoc (first second third : Printed) :
    first ++ second ++ third = first ++ (second ++ third) := by
  simp only [append_eq, List.append_assoc]

end Printed

namespace Run

variable {α β : Type} {failed : Failed} {value : α} {given : Except Failed α}
  {next : α → Run β} {printed : Printed}

/-- The run fails without having printed anything. -/
def Fails (run : Run α) (failed : Failed) : Prop :=
  ∀ before, run.outcome before = (.error failed, before)

/-- The run succeeds and prints these texts. -/
def Prints (run : Run Unit) (printed : Printed) : Prop :=
  ∀ before, run.outcome before = (.ok (), before ++ printed)

/-! ### Rules -/

theorem fails_bind_of_error (unavailable : given = .error failed) :
    (liftM given >>= next : Run β).Fails failed := by
  rw [unavailable]
  exact fun _ => rfl

/-- A step that succeeds without printing leaves everything to the steps after it. -/
theorem lift_bind_of_ok (available : given = .ok value) :
    (liftM given >>= next : Run β) = next value := by
  rw [available]
  rfl

theorem prints_pure : (pure () : Run Unit).Prints .nothing := by
  intro before
  rw [Printed.append_nothing]
  rfl

theorem prints_print (text : String) : (print text).Prints ⟨[text], []⟩ := by
  intro before
  rw [Printed.append_eq, List.append_nil]
  rfl

theorem prints_notify (notice : String) : (notify notice).Prints ⟨[], [notice]⟩ := by
  intro before
  rw [Printed.append_eq, List.append_nil]
  rfl

theorem outcome_bind_of_ok {run : Run α} {before after : Printed}
    (ran : run.outcome before = (.ok value, after)) :
    (run >>= next).outcome before = (next value).outcome after := by
  rw [outcome, ExceptT.run_bind, StateT.run_bind]
  change StateT.run (ExceptT.run run) before = (.ok value, after) at ran
  rw [ran]
  rfl

theorem Prints.andThen {first second : Run Unit} {later : Printed}
    (firstPrints : first.Prints printed) (secondPrints : second.Prints later) :
    (first >>= fun _ => second).Prints (printed ++ later) := by
  intro before
  rw [outcome_bind_of_ok (firstPrints before), secondPrints, Printed.append_assoc]

theorem prints_forM_print (texts : List String) : (texts.forM print).Prints ⟨texts, []⟩ := by
  induction texts with
  | nil => exact prints_pure
  | cons text rest ih => exact (prints_print text).andThen ih

theorem prints_forM_notify (notice : α → String) (items : List α) :
    (items.forM fun item => notify (notice item)).Prints ⟨[], items.map notice⟩ := by
  induction items with
  | nil => exact prints_pure
  | cons item rest ih => exact (prints_notify (notice item)).andThen ih

end Run

variable {sources : Sources} {styled verbose : Bool} {format : OutputFormat} {failed : Failed}

/-! ### Commands -/

def DecodeOptions.decoded (sources : Sources) (options : DecodeOptions) :
    Except Failed (Decoded × List Failure) := do
  let settings ← options.settings sources
  readDecoded sources settings options.input

def shownDecoded (styled : Bool) (decoded : Decoded) (failures : List Failure) :
    OutputFormat → List String
  | .json => [decoded.toJson.pretty]
  | .text => Listing.decoded styled decoded failures

theorem fails_runDecode {options : DecodeOptions}
    (unavailable : options.decoded sources = .error failed) :
    (runDecode sources styled format options).Fails failed := by
  rcases bind_eq_error_iff.mp unavailable with unset | ⟨settings, set, undecoded⟩
  · exact Run.fails_bind_of_error unset
  · unfold runDecode
    rw [Run.lift_bind_of_ok set]
    exact Run.fails_bind_of_error undecoded

theorem prints_runDecode {options : DecodeOptions} {decoded : Decoded} {failures : List Failure}
    (available : options.decoded sources = .ok (decoded, failures)) :
    (runDecode sources styled format options).Prints
      ⟨shownDecoded styled decoded failures format, failures.map (Listing.failure styled)⟩ := by
  obtain ⟨settings, set, read⟩ := bind_eq_ok_iff.mp available
  unfold runDecode
  rw [Run.lift_bind_of_ok set, Run.lift_bind_of_ok read]
  have noticed := Run.prints_forM_notify (Listing.failure styled) failures
  have shown : (match format with
      | .json => Run.print decoded.toJson.pretty
      | .text => (Listing.decoded styled decoded failures).forM Run.print).Prints
      ⟨shownDecoded styled decoded failures format, []⟩ := by
    cases format with
    | json => exact Run.prints_print _
    | text => exact Run.prints_forM_print _
  have whole := noticed.andThen shown
  rw [Printed.append_eq, List.append_nil] at whole
  exact whole

def comparedObjects (sources : Sources) (input : String) :
    Except Failed (List (ModifiedNode × Option FieldChanges)) := do
  let (decoded, _) ← readDecoded sources .standard input
  changedObjects decoded

def shownChanges (styled : Bool) (items : List (ModifiedNode × Option FieldChanges)) :
    OutputFormat → List String
  | .json => [(Json.array (items.map changesRow)).pretty]
  | .text => Listing.changes styled items

theorem fails_runChanges {input : String}
    (unavailable : comparedObjects sources input = .error failed) :
    (runChanges sources styled format input).Fails failed := by
  rcases bind_eq_error_iff.mp unavailable with undecoded | ⟨⟨decoded, failures⟩, read, unwritten⟩
  · exact Run.fails_bind_of_error undecoded
  · unfold runChanges
    rw [Run.lift_bind_of_ok read]
    exact Run.fails_bind_of_error unwritten

theorem prints_runChanges {input : String} {items : List (ModifiedNode × Option FieldChanges)}
    (available : comparedObjects sources input = .ok items) :
    (runChanges sources styled format input).Prints ⟨shownChanges styled items format, []⟩ := by
  obtain ⟨⟨decoded, failures⟩, read, compared⟩ := bind_eq_ok_iff.mp available
  unfold runChanges
  rw [Run.lift_bind_of_ok read]
  dsimp only
  rw [Run.lift_bind_of_ok compared]
  cases format with
  | json => exact Run.prints_print _
  | text => exact Run.prints_forM_print _

/-! ### Reports -/

namespace Invocation

variable {invocation : Invocation} {printed : Printed}

theorem report_of_fails (fails : (invocation.run sources styled).Fails failed) :
    invocation.report sources styled = ⟨"", "", some failed⟩ := by
  rw [report, fails]
  rfl

theorem report_of_prints (prints : (invocation.run sources styled).Prints printed) :
    invocation.report sources styled = ⟨lines printed.output, lines printed.notices, none⟩ := by
  rw [report, prints, Printed.nothing_append]

theorem report_decode (options : DecodeOptions) :
    report sources styled ⟨.decode options, format, verbose⟩ =
      match options.decoded sources with
      | .error failed => ⟨"", "", some failed⟩
      | .ok (decoded, failures) =>
          ⟨lines (shownDecoded styled decoded failures format),
            lines (failures.map (Listing.failure styled)), none⟩ := by
  cases available : options.decoded sources with
  | error failed => exact report_of_fails (fails_runDecode available)
  | ok pair =>
      have prints : (run sources styled ⟨.decode options, format, verbose⟩).Prints _ :=
        prints_runDecode available
      exact report_of_prints prints

theorem report_changes (input : String) :
    report sources styled ⟨.changes input, format, verbose⟩ =
      match comparedObjects sources input with
      | .error failed => ⟨"", "", some failed⟩
      | .ok items => ⟨lines (shownChanges styled items format), "", none⟩ := by
  cases available : comparedObjects sources input with
  | error failed => exact report_of_fails (fails_runChanges available)
  | ok items =>
      have prints : (run sources styled ⟨.changes input, format, verbose⟩).Prints _ :=
        prints_runChanges available
      exact report_of_prints prints

theorem failed_report_decode_iff {options : DecodeOptions} :
    (report sources styled ⟨.decode options, format, verbose⟩).failed = some failed ↔
      options.decoded sources = .error failed := by
  rw [report_decode]
  cases options.decoded sources <;> simp

theorem exists_decoded_of_report {options : DecodeOptions}
    (succeeds : (report sources styled ⟨.decode options, format, verbose⟩).failed = none) :
    ∃ decoded failures, options.decoded sources = .ok (decoded, failures) ∧
      report sources styled ⟨.decode options, format, verbose⟩ =
        ⟨lines (shownDecoded styled decoded failures format),
          lines (failures.map (Listing.failure styled)), none⟩ := by
  rw [report_decode] at succeeds ⊢
  cases available : options.decoded sources with
  | error failed =>
      rw [available] at succeeds
      cases succeeds
  | ok pair => exact ⟨pair.1, pair.2, rfl, rfl⟩

/-- A call fails before it prints anything. -/
theorem output_of_failed (unsuccessful : (invocation.report sources styled).failed = some failed) :
    (invocation.report sources styled).output = "" := by
  obtain ⟨command, format, verbose⟩ := invocation
  cases command with
  | decode options =>
      rw [report_decode] at unsuccessful ⊢
      split at unsuccessful
      · rfl
      · cases unsuccessful
  | changes input =>
      rw [report_changes] at unsuccessful ⊢
      split at unsuccessful
      · rfl
      · cases unsuccessful
  | catalog decodableOnly =>
      have succeeds : ∃ printed,
          (run sources styled ⟨.catalog decodableOnly, format, verbose⟩).Prints printed := by
        cases format with
        | json => exact ⟨_, Run.prints_print _⟩
        | text => exact ⟨_, Run.prints_forM_print _⟩
      obtain ⟨printed, prints⟩ := succeeds
      rw [report_of_prints prints] at unsuccessful
      cases unsuccessful

end Invocation

end AffectedNodes.CommandLine
