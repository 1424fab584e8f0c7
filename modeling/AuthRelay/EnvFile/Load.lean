import AuthRelay.Act
import AuthRelay.EnvFile.Interpolation
import AuthRelay.Text.Newline
/-!
# Loading environment files

Loading a file binds the names that are unbound so far and leaves the others alone. A resolver
loads a file when it is made, and at most once: the file it was given, or else the nearest file
called `.env` from the working directory upwards.

How the file is found and read and how its variables are bound is assumed of the dotenv library; the
variable that switches loading off (`switch`) is one of version 1.2. What a resolver makes of a load
that fails is its own.
-/
namespace AuthRelay

namespace EnvFile

/-- The name of an environment file. -/
def defaultName : String := ".env"

/-- The variable that switches loading off. -/
def switch : String := "PYTHON_DOTENV_DISABLED"

/-- A letter as case-insensitive comparison takes it; the long s is an s. -/
def foldLetter (c : Char) : Char :=
  if c = 'ſ' then 's' else c.toLower

/-- Whether loading is switched off. -/
def isDisabled (environment : Environment) : Bool :=
  match environment.find? switch with
  | none => false
  | some value =>
    ["1", "true", "t", "yes", "y"].contains (String.ofList (value.toList.map foldLetter))

/-- The environment file nearest to the working directory, going upwards. -/
def nearest? (files : Files) : Except Fault (Option String) :=
  match files.currentPlace? with
  | none => .error (.file ⟨.missing, []⟩)
  | some here =>
    let paths := (Files.upwards here).map fun place =>
      (if place = [] then "" else Files.pathOfPlace place) ++ "/" ++ defaultName
    .ok (paths.find? files.isFile)

/-- The file to load: the one given, unless its path is empty, else the nearest one. -/
def choose (files : Files) (given : Option String) : Except Fault (Option String) :=
  match given with
  | some path => if path = "" then nearest? files else .ok (some path)
  | none => nearest? files

/-- The text of an environment file, without a byte order mark. A path that leads to no file gives
an empty text. -/
def contentAt (files : Files) (path : String) : Except Fault (List Char) :=
  if holdsNul path then .error .embeddedNul
  else if files.isFile path = false then .ok []
  else match files.read path with
    | .error reason => .error (.file (.ofReading path reason))
    | .ok octets =>
      match Text.Utf8.decode? octets with
      | none => .error (.text .undecodable)
      | some text =>
        match Text.unifyNewlines text.toList with
        | '\uFEFF' :: rest => .ok rest
        | text => .ok text

/-- Why a variable cannot be bound. -/
def bindingFault? (name value : String) : Option Fault :=
  if holdsNul name ∨ holdsNul value then some .embeddedNul
  else if '=' ∈ name.toList then some .illegalVariable
  else if name = "" then some (.file ⟨.invalidArgument, []⟩)
  else none

/-- Binds the names that are unbound, up to the first one that cannot be bound. -/
def assignMissing : Values → Act Machine Unit
  | [] => pure ()
  | (_, none) :: rest => assignMissing rest
  | (name, some value) :: rest => do
    if ((← Act.get).environment.find? name).isNone then
      match bindingFault? name value with
      | some fault => Act.fail fault
      | none =>
        Act.modify fun m => { m with environment := Table.assign m.environment name value }
    assignMissing rest

/-- Loads a file, unless loading is switched off. -/
def loadAt (path : Option String) : Act Machine Unit := do
  let machine ← Act.get
  if isDisabled machine.environment then pure ()
  else match path with
    | none => pure ()
    | some path =>
      let text ← Act.ofExcept (contentAt machine.files path)
      assignMissing (values machine.environment text)

/-- Finds the file for a path and loads it. -/
def load (given : Option String) : Act Machine Unit := do
  let path ← Act.ofExcept (choose (← Act.get).files given)
  loadAt path

end EnvFile

/-- A resolver: the environment file it was given, whether it loads one at all, and whether it has
done so. -/
structure Resolver where
  path : Option String
  loads : Bool
  loaded : Bool
  deriving Repr, DecidableEq

namespace Resolver

/-- What comes after an attempt to load a file. That the system has refused something on the way is
forgiven, at the price of a warning; other failures are passed on. -/
def afterLoading : Except Fault Unit → Act Machine Unit
  | .ok _ => Act.log .debug .resolver "Loaded .env file for credential resolution"
  | .error fault =>
    if fault.kind.isA .system then
      Act.log .warning .resolver ("Failed to load .env file: " ++ fault.message)
    else Act.fail fault

/-- Loads the resolver's environment file unless that has been done. -/
def ensureLoaded (r : Resolver) : Act Machine Resolver := do
  if r.loaded then pure r
  else
    afterLoading (← Act.attempt (EnvFile.load r.path))
    pure { r with loaded := true }

/-- Makes a resolver. -/
def create (path : Option String) (loads : Bool) : Act Machine Resolver :=
  let fresh : Resolver := ⟨path, loads, false⟩
  if loads then fresh.ensureLoaded else pure fresh

end Resolver
end AuthRelay
