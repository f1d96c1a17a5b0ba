import AffectedNodes.Proofs.CommandLine.Printing
import AffectedNodes.Proofs.Input.Classification
import AffectedNodes.Proofs.Input.Decoding

/-!
# What a call reads

A call of `decode` starts from the standard settings or from those of a file, and its options
override some of them.  Together with the value that its input holds they decide what is decoded.
-/
namespace AffectedNodes

/-- The input of that name can be read, and it is the document of this value. -/
def Sources.Gives (sources : Sources) (name : String) (value : Json) : Prop :=
  ∃ text, CommandLine.inputText sources name = .ok text ∧ Json.parse? text = some value

theorem Sources.Gives.unique {sources : Sources} {name : String} {value other : Json}
    (gives : sources.Gives name value) (gives' : sources.Gives name other) : value = other := by
  obtain ⟨text, read, parsed⟩ := gives
  obtain ⟨text', read', parsed'⟩ := gives'
  cases read.symm.trans read'
  exact Option.some.inj (parsed.symm.trans parsed')

def Sources.ofInput (text : String) : Sources := ⟨.ok text.toUTF8, fun _ => .error .notFound⟩

theorem Sources.gives_ofInput {text : String} {value : Json}
    (parsed : Json.parse? text = some value) : (Sources.ofInput text).Gives "-" value := by
  have encoded : String.fromUTF8? text.toUTF8 = some text := dif_pos text.isValidUTF8
  have read : decodeText text.toUTF8 = .ok text := by
    rw [decodeText, encoded]
    rfl
  exact ⟨text, read, parsed⟩

theorem Sources.gives_compact {value : Json} (plain : value.isPlain Json.deepestNesting = true) :
    (Sources.ofInput value.compact).Gives "-" value :=
  gives_ofInput (Json.parse?_compact plain)

namespace CommandLine

variable {sources : Sources} {options : DecodeOptions} {base : Settings} {value : Json}
  {input : Input} {name : String}

namespace DecodeOptions

/-- The settings that the options override: those of a file that is named, or the standard ones. -/
inductive StartsFrom (sources : Sources) (options : DecodeOptions) : Settings → Prop where
  | standard (unnamed : options.config = none) : StartsFrom sources options .standard
  | file {path : String} {base : Settings} (named : options.config = some path)
      (loaded : Settings.load sources path = .ok base) : StartsFrom sources options base

def policyFrom (options : DecodeOptions) (base : Settings) : Policy :=
  if options.skipInvalid then .skipInvalid else base.policy

/-- The settings of a call that starts from these settings. -/
def override (options : DecodeOptions) (base : Settings) : Settings :=
  { base with
    policy := options.policyFrom base
    workers := options.workers.getD base.workers }

theorem settings_eq (starts : options.StartsFrom sources base) :
    options.settings sources = .ok (options.override base) := by
  cases starts with
  | standard unnamed =>
      rw [settings, unnamed]
      rfl
  | file named loaded =>
      rw [settings, named]
      dsimp only
      rw [loaded]
      rfl

end DecodeOptions

theorem readInput_eq (gives : sources.Gives name value) :
    readInput sources name = (Input.classify value).mapError .noInput := by
  obtain ⟨text, read, parsed⟩ := gives
  unfold readInput
  rw [bind_of_ok (mapError_eq_ok_iff.mpr read)]
  simp only [parsed]

theorem readDecoded_eq (gives : sources.Gives name value)
    (classified : Input.classify value = .ok input) (settings : Settings) :
    readDecoded sources settings name =
      (input.decode .standard settings).mapError (.undecodable name) := by
  unfold readDecoded
  rw [readInput_eq gives, classified]
  rfl

theorem readInput_eq_ok_iff :
    readInput sources name = .ok input ↔
      ∃ value, sources.Gives name value ∧ Input.classify value = .ok input := by
  constructor
  · intro found
    unfold readInput at found
    obtain ⟨text, read, found⟩ := bind_eq_ok_iff.mp found
    cases parsed : Json.parse? text with
    | none =>
        rw [parsed] at found
        cases found
    | some value =>
        rw [parsed] at found
        exact ⟨value, ⟨text, mapError_eq_ok_iff.mp read, parsed⟩, mapError_eq_ok_iff.mp found⟩
  · rintro ⟨value, gives, classified⟩
    rw [readInput_eq gives, classified]
    rfl

theorem readDecoded_eq_ok_iff {settings : Settings} {result : Decoded × List Failure} :
    readDecoded sources settings name = .ok result ↔
      ∃ value input, sources.Gives name value ∧ Input.classify value = .ok input ∧
        input.decode .standard settings = .ok result := by
  rw [readDecoded, bind_eq_ok_iff]
  constructor
  · rintro ⟨input, found, decoded⟩
    obtain ⟨value, gives, classified⟩ := readInput_eq_ok_iff.mp found
    exact ⟨value, input, gives, classified, mapError_eq_ok_iff.mp decoded⟩
  · rintro ⟨value, input, gives, classified, decoded⟩
    exact ⟨input, readInput_eq_ok_iff.mpr ⟨value, gives, classified⟩,
      mapError_eq_ok_iff.mpr decoded⟩

theorem DecodeOptions.decoded_eq (starts : options.StartsFrom sources base)
    (gives : sources.Gives options.input value) (classified : Input.classify value = .ok input) :
    options.decoded sources =
      (input.decode .standard (options.override base)).mapError (.undecodable options.input) := by
  rw [decoded, bind_of_ok (settings_eq starts), readDecoded_eq gives classified]

end CommandLine

end AffectedNodes
