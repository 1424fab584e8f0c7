/-!
# The public interface

The version of the library, and the names that its packages offer.
-/
namespace AuthRelay

/-- The version. -/
def version : String := "0.1.0"

/-- The packages of the library. -/
inductive Package
  | root
  | auth
  | errors
  | transport
  deriving Repr, DecidableEq

/-- The names that a package offers. -/
def Package.exports : Package → List String
  | .root => ["__version__"]
  | .auth => ["Anonymous", "Basic", "Bearer", "CredentialError", "CredentialFileError",
      "CredentialNotFoundError", "CredentialResolver", "CredentialSet", "CredentialSource",
      "EnvCredentials", "FromConfig", "MultiCredentialSource", "MultiCredentials",
      "NoCredentialsError", "SingleCredentialSource"]
  | .errors => ["APIError", "AuthenticationRejectedError", "ForbiddenError", "UnauthorizedError",
      "raise_for_auth_status"]
  | .transport => ["AUTH_FAILURE_STATUS_CODES", "BasicAuthTransport", "SyncBasicAuthTransport",
      "authorization_header", "gather_candidates", "host_matches"]

/-- No package lists a name twice. -/
theorem Package.nodup_exports (p : Package) : p.exports.Nodup := by
  cases p <;> decide

end AuthRelay
