import AuthRelay.Credential.Resolver
import AuthRelay.Credential.Set
/-!
# Credentials from the environment

A credential set read from four variables with a common stem. The password may stand in a file
instead, which a fifth variable names.
-/
namespace AuthRelay.FromEnvironment

/-- The fields of a credential set that a variable can hold. -/
inductive Field
  | username
  | password
  | auth
  | registryToken
  deriving Repr, DecidableEq

/-- The end of the name of a field's variable. -/
def Field.suffix : Field → String
  | .username => "USERNAME"
  | .password => "PASSWORD"
  | .auth => "AUTH"
  | .registryToken => "TOKEN"

/-- The variable of a field. -/
def variableOf (stem : String) (field : Field) : String :=
  stem ++ field.suffix

/-- The variable that names the file with the password. -/
def fileVariable (stem : String) : String :=
  variableOf stem .password ++ "_FILE"

/-- Resolves the variable of a field. -/
def resolveField (stem : String) (field : Field) : Act Machine (Option String) :=
  Resolver.resolve none (some (variableOf stem field)) none false

/-- The password: the value of its variable if that is bound, else the content of its file. -/
def orFile (stem : String) : Option String → Act Machine (Option String)
  | some password => pure (some password)
  | none => Resolver.resolveFromFile none (some (fileVariable stem)) false

/-- Reads a credential set. Without any value the set is empty, or a failure if one is required. -/
def credentials (stem : String) (required : Bool) : Act Machine CredentialSet := do
  let username ← resolveField stem .username
  let password ← resolveField stem .password
  let auth ← resolveField stem .auth
  let registryToken ← resolveField stem .registryToken
  let password ← orFile stem password
  let set : CredentialSet := {
    username := username.getD ""
    password := password.getD ""
    auth := auth.getD ""
    registryToken := registryToken.getD "" }
  if set = {} then
    if required then Act.fail (.environmentEmpty stem (variableOf stem .username))
    Act.log .debug .credentials
      ("No credentials in environment for prefix '" ++ stem ++ "', using anonymous")
  pure set

end AuthRelay.FromEnvironment
