import AuthRelay.Proofs.SecretFiles
/-!
# How the absence of a value is reported

A value, or a secret in a file, may be required or not. Both ways of asking for it go the same way
until there turns out to be none. Only then do they part: one fails, and the other returns without a
value, perhaps after a record that says why.
-/
namespace AuthRelay.Resolver

/-- The two ways of asking a machine, first the one that requires a value. They come to the same
unless there is no value, and the failure that reports this is of a kind that reports nothing
else. -/
inductive PartWays (absence : Kind) (machine : Machine) :
    Outcome Machine (Option String) → Outcome Machine (Option String) → Prop
  | found (text : String) (journal : List Mark) : PartWays absence machine
      ⟨.ok (some text), machine, journal⟩ ⟨.ok (some text), machine, journal⟩
  | failed (fault : Fault) (hkind : fault.kind ≠ absence) (journal : List Mark) :
      PartWays absence machine ⟨.error fault, machine, journal⟩ ⟨.error fault, machine, journal⟩
  | absent (fault : Fault) (hkind : fault.kind = absence) (journal told : List Mark) :
      PartWays absence machine ⟨.error fault, machine, journal⟩
        ⟨.ok none, machine, journal ++ told⟩

section

variable {absence : Kind} {machine : Machine}

/-- They have not parted after an act that they have in common. -/
theorem PartWays.after {α : Type} {x : Act Machine α} {f g : α → Act Machine (Option String)}
    {level : Level} {a : α} {before : List Mark} (hx : x level machine = ⟨.ok a, machine, before⟩)
    (h : PartWays absence machine (f a level machine) (g a level machine)) :
    PartWays absence machine ((x >>= f) level machine) ((x >>= g) level machine) := by
  rw [Act.bind_of_ok hx, Act.bind_of_ok hx]
  generalize f a level machine = required at h ⊢
  generalize g a level machine = optional at h ⊢
  cases h with
  | found text journal => exact .found text (before ++ journal)
  | failed fault hkind journal => exact .failed fault hkind (before ++ journal)
  | absent fault hkind journal told =>
    dsimp only
    rw [← List.append_assoc]
    exact .absent fault hkind (before ++ journal) told

theorem resolve_partWays (value name fallback : Option String) (level : Level) :
    PartWays .credentialNotFound machine (resolve value name fallback true level machine)
      (resolve value name fallback false level machine) := by
  rw [resolve, resolve, Act.get_bind_run, Act.get_bind_run]
  cases origin? machine.environment value name fallback with
  | some found => exact PartWays.after rfl (.found found.1 [])
  | none => exact .absent (.valueMissing name) rfl [] []

/-- Looking for a path does not fail. -/
theorem secretPath_run (path name : Option String) (level : Level) (machine : Machine) :
    ∃ found journal, secretPath path name level machine = ⟨.ok found, machine, journal⟩ := by
  cases ho : secretPath path name level machine with
  | mk result later journal =>
    have hresult := secretPath_result path name level machine
    have hlater := (secretPath_looks path name).state level machine
    rw [ho] at hresult hlater
    cases hresult
    obtain rfl : later = machine := hlater
    exact ⟨_, journal, rfl⟩

theorem resolveFromFile_partWays (path name : Option String) (level : Level) :
    PartWays .credentialFile machine (resolveFromFile path name true level machine)
      (resolveFromFile path name false level machine) := by
  obtain ⟨found, journal, hpath⟩ := secretPath_run path name level machine
  rw [resolveFromFile, resolveFromFile]
  refine PartWays.after hpath ?_
  cases found.filter (· ≠ "") with
  | none => exact .absent (.secretFile (.noPath name)) rfl [] []
  | some text =>
    dsimp only
    rw [Act.get_bind_run, Act.get_bind_run]
    cases hread : readSecret machine.files (expandedPath machine text) with
    | ok secret => exact PartWays.after rfl (.found secret [])
    | error fault =>
      obtain ⟨cause, rfl⟩ | hgarbled := readSecret_eq_error hread
      · exact .absent (.secretFile cause) rfl [] _
      · have hkind : fault.kind ≠ .credentialFile := by
          intro hkind
          have hvalue := hgarbled.kind
          rw [hkind] at hvalue
          cases hvalue
        cases hgarbled <;> exact .failed _ hkind []

/-- Requiring a value makes a difference only where there is none: both ways come to the same texts
and fail alike for every other reason, what is told of the one is told of the other, and neither
changes anything. -/
structure DiffersInAbsence (absence : Kind) (machine : Machine)
    (required optional : Outcome Machine (Option String)) : Prop where
  text : ∀ text, required.result = .ok (some text) ↔ optional.result = .ok (some text)
  absent : (∃ fault, required.result = .error fault ∧ fault.kind = absence) ↔
    optional.result = .ok none
  failed : ∀ fault, required.result = .error fault ∧ fault.kind ≠ absence ↔
    optional.result = .error fault
  never_none : required.result ≠ .ok none
  run : required = optional ∨
    optional.result = .ok none ∧ required.journal <+: optional.journal
  unchanged : required.state = machine ∧ optional.state = machine

theorem PartWays.differsInAbsence {required optional : Outcome Machine (Option String)}
    (h : PartWays absence machine required optional) :
    DiffersInAbsence absence machine required optional := by
  cases h with
  | found text journal =>
    exact {
      text := fun _ => .rfl
      absent := by simp
      failed := by simp
      never_none := by simp
      run := .inl rfl
      unchanged := ⟨rfl, rfl⟩ }
  | failed fault hkind journal =>
    exact {
      text := fun _ => .rfl
      absent := by simp [hkind]
      failed := by
        intro other
        refine ⟨And.left, fun hother => ⟨hother, ?_⟩⟩
        cases hother
        exact hkind
      never_none := by simp
      run := .inl rfl
      unchanged := ⟨rfl, rfl⟩ }
  | absent fault hkind journal told =>
    exact {
      text := by simp
      absent := iff_of_true ⟨fault, rfl, hkind⟩ rfl
      failed := by
        intro other
        refine iff_of_false ?_ (by simp)
        rintro ⟨hother, hne⟩
        cases hother
        exact hne hkind
      never_none := by simp
      run := .inr ⟨rfl, List.prefix_append journal told⟩
      unchanged := ⟨rfl, rfl⟩ }

end

/-- Whether a value is required changes nothing but how its absence is reported, for a secret in a
file and for a single value. A single value that is not required is found or not, and asking for it
never fails. -/
theorem required_reports_absence (machine : Machine) (level : Level) :
    (∀ path name, DiffersInAbsence .credentialFile machine
      (resolveFromFile path name true level machine)
      (resolveFromFile path name false level machine)) ∧
    ∀ value name fallback,
      DiffersInAbsence .credentialNotFound machine
        (resolve value name fallback true level machine)
        (resolve value name fallback false level machine) ∧
      ∃ found, (resolve value name fallback false level machine).result = .ok found := by
  refine ⟨fun path name => (resolveFromFile_partWays path name level).differsInAbsence,
    fun value name fallback => ⟨(resolve_partWays value name fallback level).differsInAbsence, ?_⟩⟩
  rw [resolve_result]
  cases origin? machine.environment value name fallback with
  | some found => exact ⟨some found.1, rfl⟩
  | none => exact ⟨none, rfl⟩

end AuthRelay.Resolver
