import AuthRelay.Text.Base64
/-!
# Credential sets

The material for one attempt, which of its shapes is used, and the `Authorization` header that it
makes. `CredentialSet.masked` shows a set without giving anything away but which fields are empty.
-/
namespace AuthRelay

/-- Authentication material for one attempt. An empty field is absent. -/
structure CredentialSet where
  username : String := ""
  password : String := ""
  auth : String := ""
  registryToken : String := ""
  deriving Repr, DecidableEq

/-- The forms in which credentials are sent. -/
inductive Shape
  /-- An opaque token. -/
  | bearer
  /-- User name and password. -/
  | basic
  /-- User name and password, encoded already. -/
  | auth
  deriving Repr, DecidableEq

namespace CredentialSet

/-- The shape that is used: a token before a user name with a password, and that before encoded
material. -/
def activeShape (c : CredentialSet) : Option Shape :=
  if c.registryToken ≠ "" then some .bearer
  else if c.username ≠ "" ∧ c.password ≠ "" then some .basic
  else if c.auth ≠ "" then some .auth
  else none

/-- The value of the `Authorization` header, if any shape is active. -/
def authorization? (c : CredentialSet) : Option String :=
  match c.activeShape with
  | some .bearer => some ("Bearer " ++ c.registryToken)
  | some .basic => some ("Basic " ++ String.ofList
      (Text.Base64.encode (Text.Utf8.encode (c.username ++ ":" ++ c.password))))
  | some .auth => some ("Basic " ++ c.auth)
  | none => none

/-- A field as a diagnostic shows it. -/
def mask (field : String) : String :=
  if field = "" then "''" else "'***'"

/-- The set as a diagnostic shows it. -/
def masked (c : CredentialSet) : String :=
  "CredentialSet(username=" ++ mask c.username ++ ", password=" ++ mask c.password ++
    ", auth=" ++ mask c.auth ++ ", registry_token=" ++ mask c.registryToken ++ ")"

end CredentialSet
end AuthRelay
