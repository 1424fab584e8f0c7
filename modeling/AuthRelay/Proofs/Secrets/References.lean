import AuthRelay.EnvFile.Interpolation
import AuthRelay.Files.PathText
/-!
# References to variables

A path text and a value in an environment file may refer to variables. What they come to depends on
the variables that they refer to, and on no others.
-/
namespace AuthRelay

namespace PathText

/-- The names of the variables that a path text refers to. The first argument counts the characters
that belong to the last reference. -/
def referencesFrom : Nat → List Char → List String
  | _, [] => []
  | skip + 1, _ :: rest => referencesFrom skip rest
  | 0, c :: rest =>
    if c = '$' then
      match reference? rest with
      | none => referencesFrom 0 rest
      | some (name, width) => String.ofList name :: referencesFrom width rest
    else referencesFrom 0 rest

/-- The names of the variables that a path text refers to. -/
def references (path : String) : List String :=
  referencesFrom 0 path.toList

theorem expandVariablesFrom_congr {environment environment' : Environment} {skip : Nat}
    {s : List Char} (h : ∀ name ∈ referencesFrom skip s,
      environment.find? name = environment'.find? name) :
    expandVariablesFrom environment skip s = expandVariablesFrom environment' skip s := by
  induction s generalizing skip with
  | nil => cases skip <;> rfl
  | cons c rest ih =>
    cases skip with
    | succ skip => exact ih h
    | zero =>
      unfold referencesFrom at h
      unfold expandVariablesFrom
      by_cases hc : c = '$'
      · rw [if_pos hc] at h ⊢
        rw [if_pos hc]
        cases hr : reference? rest with
        | none =>
          rw [hr] at h
          exact congrArg (c :: ·) (ih h)
        | some found =>
          obtain ⟨name, width⟩ := found
          rw [hr] at h
          obtain ⟨hname, hrest⟩ := List.forall_mem_cons.mp h
          dsimp only
          rw [hname, ih hrest]
      · rw [if_neg hc] at h ⊢
        rw [if_neg hc, ih h]

/-- A path text is replaced in the same way where the variables that it refers to have the same
values. -/
theorem expandVariables_congr {environment environment' : Environment} {path : String}
    (h : ∀ name ∈ references path, environment.find? name = environment'.find? name) :
    expandVariables environment path = expandVariables environment' path :=
  congrArg String.ofList (expandVariablesFrom_congr h)

end PathText

namespace EnvFile

/-- The names of the variables that a value refers to. The number counts the characters that belong
to the last reference. -/
def referencesFrom : Nat → List Char → List String
  | _, [] => []
  | skip + 1, _ :: rest => referencesFrom skip rest
  | 0, c :: rest =>
    match c, rest with
    | '$', '\x7b' :: inner =>
      match reference? inner with
      | some (reference, width) => String.ofList reference.name :: referencesFrom (width + 1) rest
      | none => referencesFrom 0 rest
    | _, _ => referencesFrom 0 rest

theorem interpolateFrom_congr {find? find?' : String → Option String} {skip : Nat}
    {s : List Char} (h : ∀ name ∈ referencesFrom skip s, find? name = find?' name) :
    interpolateFrom find? skip s = interpolateFrom find?' skip s := by
  fun_induction referencesFrom skip s with
  | case1 skip => rw [interpolateFrom, interpolateFrom]
  | case2 skip c rest ih =>
    rw [interpolateFrom, interpolateFrom]
    exact ih h
  | case3 inner reference width hr ih =>
    obtain ⟨hname, hrest⟩ := List.forall_mem_cons.mp h
    rw [interpolateFrom, interpolateFrom]
    simp only [hr]
    rw [hname, ih hrest]
  | case4 inner hr ih =>
    rw [interpolateFrom, interpolateFrom]
    simp only [hr]
    rw [ih h]
  | case5 c rest hne ih =>
    rw [interpolateFrom, interpolateFrom, ih h]
    · exact hne
    · exact hne

end EnvFile
end AuthRelay
