import AuthRelay.Act
import AuthRelay.Files.PathText
import AuthRelay.Text.Blank
import AuthRelay.Text.Newline
/-!
# Resolving single values

A value comes from its caller, from an environment variable or from a default, in this order, or
from a secret file whose path is found in that way. Records tell where a value came from and never
the value itself.
-/
namespace AuthRelay.Resolver

/-- The variable of a name, if it is bound. The empty name stands for no name. -/
def binding? (environment : Environment) : Option String → Option (String × String)
  | none => none
  | some name =>
    if name = "" then none else (environment.find? name).map fun value => (name, value)

/-- The value for a request, and where it comes from. -/
def origin? (environment : Environment) (value name fallback : Option String) :
    Option (String × String) :=
  match value, binding? environment name, fallback with
  | some value, _, _ => some (value, "explicit parameter")
  | none, some (name, value), _ => some (value, "environment variable '" ++ name ++ "'")
  | none, none, some value => some (value, "default value")
  | none, none, none => none

/-- Resolves a value. A missing value is a failure if it is required. -/
def resolve (value name fallback : Option String) (required : Bool) :
    Act Machine (Option String) := do
  match origin? (← Act.get).environment value name fallback with
  | some (value, origin) =>
    Act.log .debug .resolver ("Resolved credential from " ++ origin ++ ": ***")
    pure (some value)
  | none => if required then Act.fail (.valueMissing name) else pure none

/-- The path of a secret file: the one given, else the value of a variable. -/
def secretPath (path name : Option String) : Act Machine (Option String) :=
  match path, name with
  | some path, _ => pure (some path)
  | none, some name => if name = "" then pure none else resolve none (some name) none false
  | none, none => pure none

/-- The text of a secret file, read as UTF-8, with line ends unified and the blanks around it
dropped. -/
def readSecret (files : Files) (path : String) : Except Fault String :=
  if holdsNul path then .error .embeddedNul
  else match files.read path with
    | .error .missing => .error (.secretFile (.missing path))
    | .error reason => .error (.secretFile (.unreadable path (.ofReading path reason)))
    | .ok content =>
      match Text.Utf8.decode? content with
      | none => .error (.text .undecodable)
      | some text => .ok (String.ofList (Text.trim (Text.unifyNewlines text.toList)))

/-- How grave it is that an optional secret file gives no secret. -/
def levelOf : SecretFileFault → Level
  | .unreadable _ _ => .warning
  | _ => .debug

/-- The path that is opened for a path text. -/
def expandedPath (machine : Machine) (path : String) : String :=
  PathText.normalize
    (PathText.expandHome machine (PathText.expandVariables machine.environment path))

/-- Reads a secret from a file. A missing or unreadable file is a failure if the secret is
required; a file that is not text, and a path that cannot be one, always are. -/
def resolveFromFile (path name : Option String) (required : Bool) :
    Act Machine (Option String) := do
  match (← secretPath path name).filter (· ≠ "") with
  | none => if required then Act.fail (.secretFile (.noPath name)) else pure none
  | some text =>
    let machine ← Act.get
    let path := expandedPath machine text
    match readSecret machine.files path with
    | .ok secret =>
      Act.log .debug .resolver ("Resolved credential from file: " ++ path ++ " (***)")
      pure (some secret)
    | .error (.secretFile cause) =>
      if required then Act.fail (.secretFile cause)
      else
        Act.log (levelOf cause) .resolver cause.message
        pure none
    | .error fault => Act.fail fault

end AuthRelay.Resolver
