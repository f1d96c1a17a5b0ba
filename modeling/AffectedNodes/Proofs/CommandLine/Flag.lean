import AffectedNodes.CommandLine.Arguments
import AffectedNodes.Proofs.Steps

/-!
# Adding a flag to a call

Right after the name of the command `decode` the flag that leaves failing elements out can be added
to any accepted arguments that do not have it.  They are accepted then as well, and nothing else
about the call changes.  For reading the arguments after the flag goes along with reading them
without it: every step that does not come to the flag itself takes the same way, whether or not the
flag has been given.
-/
namespace AffectedNodes.CommandLine

def DecodeOptions.lenient (options : DecodeOptions) : DecodeOptions :=
  { options with skipInvalid := true }

namespace Given

/-- What has been given, and the flag before it. -/
def flagged (given : Given) : Given := { given with settings := .skipInvalid :: given.settings }

def HasFlag (given : Given) : Prop := Setting.skipInvalid ∈ given.settings

end Given

/-- A step never forgets the flag, and one that does not come to it goes the same way after it. -/
structure Follows (step : Given → Except UsageFault Given) : Prop where
  keeps : ∀ {given after : Given}, step given = .ok after → given.HasFlag → after.HasFlag
  flagged : ∀ {given after : Given}, step given = .ok after → ¬ after.HasFlag →
    step given.flagged = .ok after.flagged

namespace Follows

variable {first second : Given → Except UsageFault Given}

theorem andThen (firstFollows : Follows first) (secondFollows : Follows second) :
    Follows fun given => first given >>= second where
  keeps done hasFlag := by
    obtain ⟨between, firstDone, secondDone⟩ := bind_eq_ok_iff.mp done
    exact secondFollows.keeps secondDone (firstFollows.keeps firstDone hasFlag)
  flagged done noFlag := by
    obtain ⟨between, firstDone, secondDone⟩ := bind_eq_ok_iff.mp done
    have noFlagBetween : ¬ between.HasFlag := fun hasFlag =>
      noFlag (secondFollows.keeps secondDone hasFlag)
    exact bind_eq_ok_iff.mpr
      ⟨_, firstFollows.flagged firstDone noFlagBetween, secondFollows.flagged secondDone noFlag⟩

theorem error (fault : UsageFault) : Follows fun _ => .error fault := ⟨nofun, nofun⟩

theorem of_settings {change : Given → Given}
    (same : ∀ given, (change given).settings = given.settings)
    (commutes : ∀ given, change given.flagged = (change given).flagged) :
    Follows fun given => .ok (change given) where
  keeps {given after} done hasFlag := by
    cases done
    rw [Given.HasFlag, same]
    exact hasFlag
  flagged {given after} done _ := by
    cases done
    rw [commutes]

end Follows

/-! ### The steps -/

theorem follows_note (switch : Switch) (value : Option String) :
    Follows fun given => given.note switch value where
  keeps {given after} done hasFlag := by
    rw [Given.note] at done
    split at done
    · cases done
    · split at done
      · cases done
      · obtain ⟨setting, -, rfl⟩ := map_eq_ok_iff.mp done
        exact List.mem_append_left _ hasFlag
  flagged {given after} done noFlag := by
    rw [Given.note] at done ⊢
    split at done
    · cases done
    · rename_i supplied
      split at done
      · cases done
      · rename_i unnoted
        obtain ⟨setting, meant, rfl⟩ := map_eq_ok_iff.mp done
        -- this option is not the flag, for that would be among the settings afterwards
        have other : Switch.skipInvalid ≠ switch := by
          rintro rfl
          cases meant
          exact noFlag (List.mem_append_right _ List.mem_cons_self)
        have unnoted' :
            ¬ (given.flagged.settings.any fun setting => setting.switch = switch) = true := by
          simpa [Given.flagged, Setting.switch, other] using unnoted
        rw [if_neg supplied, if_neg unnoted', meant]
        rfl

theorem follows_settle : Follows Given.settle where
  keeps {given after} done hasFlag := by
    rw [Given.settle] at done
    split at done
    · cases done
      exact hasFlag
    · exact (follows_note _ _).keeps done hasFlag
  flagged {given after} done noFlag := by
    have same : given.flagged.pending = given.pending := rfl
    rw [Given.settle] at done ⊢
    rw [same]
    cases pending : given.pending with
    | none =>
        rw [pending] at done
        cases done
        rfl
    | some waiting =>
        rw [pending] at done
        exact (follows_note _ _).flagged done noFlag

theorem follows_take (switch : Switch) (value : Option String) :
    Follows fun given => given.take switch value :=
  follows_settle.andThen (follows_note switch value)

theorem follows_await (switch : Switch) : Follows fun given => given.await switch :=
  follows_settle.andThen (.of_settings (fun _ => rfl) fun _ => rfl)

theorem follows_takeInput (name : String) : Follows fun given => given.takeInput name :=
  follows_settle.andThen (.of_settings (fun _ => rfl) fun _ => rfl)

theorem follows_takeLong (level : Level) (name : String) (value : Option String) :
    Follows fun given => level.takeLong given name value := by
  unfold Level.takeLong
  cases level.switches.find? fun switch => switch.long = name with
  | none => exact .error _
  | some switch =>
      dsimp only
      cases switch.takesValue <;> cases value
      · exact follows_take _ _
      · exact .error _
      · exact follows_await _
      · exact follows_take _ _

theorem follows_takeLetters (level : Level) (letters : List Char) :
    Follows fun given => level.takeLetters given letters := by
  induction letters with
  | nil => exact .of_settings (fun _ => rfl) fun _ => rfl
  | cons letter rest ih =>
      unfold Level.takeLetters
      cases level.switches.find? fun switch => switch.letter? = some letter with
      | none => exact .error _
      | some switch =>
          dsimp only
          split
          · split
            · exact follows_await _
            · exact follows_take _ _
            · exact follows_take _ _
          · exact (follows_take _ _).andThen ih

theorem follows_takePlain (level : Level) (afterOptions : Bool) (argument : String) :
    Follows fun given => level.takePlain afterOptions given argument where
  keeps {given after} done hasFlag := by
    unfold Level.takePlain at done
    split at done
    · exact (follows_takeInput argument).keeps done hasFlag
    · split at done <;> cases done
  flagged {given after} done noFlag := by
    unfold Level.takePlain at done ⊢
    split at done
    · rename_i expected
      rw [if_pos (show (level.takesInput && given.flagged.input.isNone) = true from expected)]
      exact (follows_takeInput argument).flagged done noFlag
    · split at done <;> cases done

theorem follows_foldlM {step : Given → String → Except UsageFault Given}
    (follows : ∀ argument, Follows fun given => step given argument) (arguments : List String) :
    Follows fun given => arguments.foldlM step given := by
  induction arguments with
  | nil => exact .of_settings (fun _ => rfl) fun _ => rfl
  | cons argument rest ih => exact (follows argument).andThen ih

theorem follows_plain {next : Given → Except UsageFault Given} (nextFollows : Follows next)
    (level : Level) (argument : String) :
    Follows fun given =>
      match given.pending with
      | some (switch, none) => next { given with pending := some (switch, some argument) }
      | _ => level.takePlain false given argument >>= next := by
  have taken := (follows_takePlain level false argument).andThen nextFollows
  constructor
  · intro given after done hasFlag
    split at done
    · exact nextFollows.keeps done hasFlag
    · exact taken.keeps done hasFlag
  · intro given after done noFlag
    have same : given.flagged.pending = given.pending := rfl
    rw [same]
    split at done
    · exact nextFollows.flagged done noFlag
    · exact taken.flagged done noFlag

/-! ### Whole arguments -/

/-- What the arguments of a command give, whatever follows them. -/
def givenWithin (command : CommandName) (arguments : List String) (given : Given) :
    Except UsageFault Given :=
  (·.1) <$> (Level.within command).scan given arguments

theorem givenWithin_cons (command : CommandName) (argument : String) (rest : List String)
    (given : Given) :
    givenWithin command (argument :: rest) given =
      match Shape.of argument with
      | .endOfOptions => rest.foldlM ((Level.within command).takePlain true) given
      | .long name value =>
          (Level.within command).takeLong given name value >>= givenWithin command rest
      | .letters letters =>
          (Level.within command).takeLetters given letters >>= givenWithin command rest
      | .plain =>
          match given.pending with
          | some (switch, none) =>
              givenWithin command rest { given with pending := some (switch, some argument) }
          | _ =>
              (Level.within command).takePlain false given argument >>=
                givenWithin command rest := by
  have notTop : (Level.within command = .top) = False := eq_false nofun
  rw [givenWithin, Level.scan]
  simp only [notTop, decide_false, Bool.false_and, Bool.false_eq_true, if_false]
  cases Shape.of argument with
  | endOfOptions =>
      dsimp only
      rw [map_bind]
      cases rest.foldlM ((Level.within command).takePlain true) given <;> rfl
  | long name value => exact map_bind _ _ _
  | letters letters => exact map_bind _ _ _
  | plain =>
      dsimp only
      rcases given.pending with _ | ⟨switch, _ | value⟩
      · exact map_bind _ _ _
      · rfl
      · exact map_bind _ _ _

theorem follows_givenWithin (command : CommandName) (arguments : List String) :
    Follows (givenWithin command arguments) := by
  induction arguments with
  | nil => exact .of_settings (fun _ => rfl) fun _ => rfl
  | cons argument rest ih =>
      have unfolded : givenWithin command (argument :: rest) = _ :=
        funext (givenWithin_cons command argument rest)
      rw [unfolded]
      cases Shape.of argument with
      | endOfOptions => exact follows_foldlM (follows_takePlain _ true) rest
      | long name value => exact (follows_takeLong _ name value).andThen ih
      | letters letters => exact (follows_takeLetters _ letters).andThen ih
      | plain => exact follows_plain ih _ argument

namespace Level

variable {level : Level} {given outer : Given} {argument : String} {arguments rest : List String}
  {command : CommandName}

/-- The command that an argument names where a command is expected. -/
def command? (level : Level) (given : Given) (argument : String) : Option CommandName :=
  if level = .top && !given.isWaiting then CommandName.named.lookup argument else none

theorem scan_cons_of_command (named : level.command? given argument = some command) :
    level.scan given (argument :: arguments) = .ok (given, some (command, arguments)) := by
  rw [scan]
  simp only [show (if level = .top && !given.isWaiting then _ else none) = some command from named]

theorem exists_scan_cons_eq (unnamed : level.command? given argument = none)
    (found : level.scan given (argument :: arguments) = .ok (outer, some (command, rest))) :
    ∃ between, ∀ others, level.scan given (argument :: others) = level.scan between others := by
  have unnamed : (if level = .top && !given.isWaiting then CommandName.named.lookup argument
      else none) = none := unnamed
  rw [scan] at found
  simp only [scan, unnamed] at found ⊢
  split at found
  · cases found
  · rename_i noHelp
    simp only [if_neg noHelp]
    generalize Shape.of argument = shape at found ⊢
    cases shape with
    | endOfOptions =>
        -- after the end of the options nothing is the name of a command any more
        obtain ⟨_, _, last⟩ := bind_eq_ok_iff.mp found
        cases last
    | long name value =>
        obtain ⟨between, taken, -⟩ := bind_eq_ok_iff.mp found
        exact ⟨between, fun others => bind_of_ok taken⟩
    | letters letters =>
        obtain ⟨between, taken, -⟩ := bind_eq_ok_iff.mp found
        exact ⟨between, fun others => bind_of_ok taken⟩
    | plain =>
        rcases pending : given.pending with _ | ⟨switch, _ | value⟩
        all_goals simp only [pending] at found ⊢
        · obtain ⟨between, taken, -⟩ := bind_eq_ok_iff.mp found
          exact ⟨between, fun others => bind_of_ok taken⟩
        · exact ⟨_, fun others => rfl⟩
        · obtain ⟨between, taken, -⟩ := bind_eq_ok_iff.mp found
          exact ⟨between, fun others => bind_of_ok taken⟩

/-- What follows the name of a command does not matter for what comes before it. -/
theorem scan_eq_command
    (found : level.scan given arguments = .ok (outer, some (command, rest))) :
    ∃ before, arguments = before ++ rest ∧
      ∀ others, level.scan given (before ++ others) = .ok (outer, some (command, others)) := by
  induction arguments generalizing given with
  | nil => cases found
  | cons argument later ih =>
      cases named : level.command? given argument with
      | some command =>
          rw [scan_cons_of_command named] at found
          cases found
          exact ⟨[argument], rfl, fun others => scan_cons_of_command named⟩
      | none =>
          obtain ⟨between, step⟩ := exists_scan_cons_eq named found
          obtain ⟨before, rfl, same⟩ := ih ((step later).symm.trans found)
          exact ⟨argument :: before, rfl, fun others => (step _).trans (same others)⟩

end Level

open Level (scan_eq_command)

theorem scan_skipInvalid (arguments : List String) :
    (Level.within .decode).scan .nothing ("--skip-invalid" :: arguments) =
      (Level.within .decode).scan Given.nothing.flagged arguments := by
  rfl

theorem givenWithin_skipInvalid {arguments : List String} {given : Given}
    (settled : givenWithin .decode arguments .nothing >>= Given.settle = .ok given)
    (noFlag : ¬ given.HasFlag) :
    givenWithin .decode ("--skip-invalid" :: arguments) .nothing >>= Given.settle =
      .ok given.flagged := by
  rw [givenWithin, scan_skipInvalid]
  exact ((follows_givenWithin .decode arguments).andThen follows_settle).flagged settled noFlag

theorem Invocation.ofArguments_eq {before rest : List String} {outer : Given} {name : CommandName}
    (scanned : Level.top.scan .nothing (before ++ rest) = .ok (outer, some (name, rest))) :
    Invocation.ofArguments (before ++ rest) = do
      let inner ← givenWithin name rest .nothing >>= Given.settle
      let outer ← outer.settle
      return {
        command := inner.command name
        format := (inner.format?.or outer.format?).getD .text
        verbose := (inner.settings ++ outer.settings).contains .verbose } := by
  rw [ofArguments, bind_of_ok scanned, givenWithin]
  dsimp only
  cases (Level.within name).scan .nothing rest <;> rfl

/-- The flag that leaves failing elements out can be added to a call of `decode` without it. -/
theorem Invocation.ofArguments_skipInvalid {arguments : List String} {options : DecodeOptions}
    {format : OutputFormat} {verbose : Bool} (strict : options.skipInvalid = false)
    (accepted : Invocation.ofArguments arguments = .ok ⟨.decode options, format, verbose⟩) :
    ∃ before after, arguments = before ++ after ∧
      Invocation.ofArguments (before ++ "--skip-invalid" :: after) =
        .ok ⟨.decode options.lenient, format, verbose⟩ := by
  obtain ⟨⟨outer, next⟩, scanned, continued⟩ := bind_eq_ok_iff.mp accepted
  cases next with
  | none =>
      obtain ⟨_, _, failed⟩ := bind_eq_ok_iff.mp continued
      cases failed
  | some next =>
      obtain ⟨name, after⟩ := next
      obtain ⟨before, rfl, same⟩ := scan_eq_command scanned
      rw [ofArguments_eq scanned] at accepted
      obtain ⟨inner, given, accepted⟩ := bind_eq_ok_iff.mp accepted
      obtain ⟨outer', settled, accepted⟩ := bind_eq_ok_iff.mp accepted
      refine ⟨before, after, rfl, ?_⟩
      cases name with
      | changes => cases accepted
      | catalog => cases accepted
      | decode =>
          cases accepted
          have noFlag : ¬ inner.HasFlag := by
            intro hasFlag
            rw [List.contains_iff_mem.mpr hasFlag] at strict
            cases strict
          rw [ofArguments_eq (same _), bind_of_ok (givenWithin_skipInvalid given noFlag),
            bind_of_ok settled]
          rfl

end AffectedNodes.CommandLine
