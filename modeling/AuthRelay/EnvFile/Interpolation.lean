import AuthRelay.EnvFile.Grammar
import AuthRelay.Machine
/-!
# Interpolation in environment files

A value may refer to variables as `${NAME}`, or as `${NAME:-default}` with a text for the case that
there is none. The process environment answers first, then the bindings further up in the file. All
this is assumed of the dotenv library.
-/
namespace AuthRelay.EnvFile

/-- A reference to a variable, with the text that stands in for it. -/
structure Reference where
  name : List Char
  fallback : List Char
  deriving Repr, DecidableEq

/-- The reference after `${`, and the number of characters up to its closing brace. -/
def reference? (s : List Char) : Option (Reference × Nat) :=
  let name := s.takeWhile fun c => c != '\x7d' && c != ':'
  match s.drop name.length with
  | '\x7d' :: _ => some (⟨name, []⟩, name.length + 1)
  | ':' :: '-' :: rest =>
    if '\x7d' ∈ rest then
      let fallback := rest.takeWhile (· != '\x7d')
      some (⟨name, fallback⟩, name.length + 2 + fallback.length + 1)
    else none
  | _ => none

/-- Replaces the references of a value, once. The number counts the characters that belong to the
last reference. -/
def interpolateFrom (find? : String → Option String) : Nat → List Char → List Char
  | _, [] => []
  | skip + 1, _ :: rest => interpolateFrom find? skip rest
  | 0, c :: rest =>
    match c, rest with
    | '$', '\x7b' :: inner =>
      match reference? inner with
      | some (reference, width) =>
        ((find? (String.ofList reference.name)).map String.toList).getD reference.fallback ++
          interpolateFrom find? (width + 1) rest
      | none => c :: interpolateFrom find? 0 rest
    | _, _ => c :: interpolateFrom find? 0 rest

/-- The names that a file binds, in the order in which they first come up, with their last values.
A name without an equals sign has none. -/
abbrev Values := Table (Option String)

/-- What a reference finds: a variable of the process, or a name further up, which counts as empty
if it has no value. -/
def lookUp (environment : Environment) (values : Values) (name : String) : Option String :=
  match environment.find? name with
  | some value => some value
  | none => (values.find? name).map (·.getD "")

/-- Interpolates bindings one after another. -/
def interpolate (environment : Environment) : Values → List Binding → Values
  | values, [] => values
  | values, binding :: rest =>
    let value := binding.value.map fun text =>
      String.ofList (interpolateFrom (lookUp environment values) 0 text)
    interpolate environment (values.assign (String.ofList binding.key) value) rest

/-- The values that a file gives in an environment. -/
def values (environment : Environment) (text : List Char) : Values :=
  interpolate environment [] (bindings text)

end AuthRelay.EnvFile
