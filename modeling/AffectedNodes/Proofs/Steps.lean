/-!
# Steps that succeed or fail

A computation that may fail succeeds exactly when each of its steps does, and fails with the fault
of the first step that does not.
-/
namespace AffectedNodes

variable {ε ε' α β : Type}

theorem bind_eq_ok_iff {first : Except ε α} {next : α → Except ε β} {result : β} :
    first >>= next = .ok result ↔ ∃ value, first = .ok value ∧ next value = .ok result := by
  cases first with
  | error fault => exact ⟨nofun, nofun⟩
  | ok value =>
      constructor
      · intro same
        exact ⟨value, rfl, same⟩
      · rintro ⟨_, given, same⟩
        cases given
        exact same

theorem bind_of_ok {first : Except ε α} {next : α → Except ε β} {value : α}
    (given : first = .ok value) : first >>= next = next value := by
  rw [given]
  rfl

theorem bind_of_error {first : Except ε α} {next : α → Except ε β} {fault : ε}
    (failed : first = .error fault) : first >>= next = .error fault := by
  rw [failed]
  rfl

theorem map_eq_ok_iff {given : Except ε α} {f : α → β} {result : β} :
    given.map f = .ok result ↔ ∃ value, given = .ok value ∧ f value = result := by
  cases given with
  | error fault => simp [Except.map]
  | ok value => simp [Except.map]

theorem toOption_eq_some_iff {given : Except ε α} {result : α} :
    given.toOption = some result ↔ given = .ok result := by
  cases given with
  | error fault => exact ⟨nofun, nofun⟩
  | ok value =>
      exact ⟨fun same => congrArg Except.ok (Option.some.inj same), congrArg Except.toOption⟩

theorem mapError_eq_ok_iff {given : Except ε α} {restate : ε → ε'} {result : α} :
    given.mapError restate = .ok result ↔ given = .ok result := by
  cases given with
  | error fault => exact ⟨nofun, nofun⟩
  | ok value =>
      constructor
      · intro same
        cases same
        rfl
      · intro same
        cases same
        rfl

theorem bind_eq_error_iff {first : Except ε α} {next : α → Except ε β} {fault : ε} :
    first >>= next = .error fault ↔
      first = .error fault ∨ ∃ value, first = .ok value ∧ next value = .error fault := by
  cases first with
  | error other =>
      constructor
      · intro same
        cases same
        exact Or.inl rfl
      · rintro (same | ⟨_, given, -⟩)
        · cases same
          rfl
        · cases given
  | ok value =>
      constructor
      · intro failed
        exact Or.inr ⟨value, rfl, failed⟩
      · rintro (given | ⟨_, given, failed⟩)
        · cases given
        · cases given
          exact failed

theorem map_eq_error_iff {given : Except ε α} {f : α → β} {fault : ε} :
    given.map f = .error fault ↔ given = .error fault := by
  cases given with
  | error other => simp [Except.map]
  | ok value => simp [Except.map]

theorem mapError_eq_error_iff {given : Except ε α} {restate : ε → ε'} {fault : ε'} :
    given.mapError restate = .error fault ↔
      ∃ cause, given = .error cause ∧ restate cause = fault := by
  cases given with
  | error cause =>
      constructor
      · intro same
        cases same
        exact ⟨cause, rfl, rfl⟩
      · rintro ⟨_, given, rfl⟩
        cases given
        rfl
  | ok value =>
      constructor
      · intro same
        cases same
      · rintro ⟨_, given, -⟩
        cases given

end AffectedNodes
