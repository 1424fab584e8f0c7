import AuthRelay.Files.Basic
import AuthRelay.Table
/-!
# The machine

What the library reads of the machine it runs on: the environment variables of the process, the
file tree with the working directory, and the home directories of the accounts.
-/
namespace AuthRelay

/-- Environment variables with their values. -/
abbrev Environment := Table String

/-- Environment, files, and the home directory of each account. That of the account under which the
process runs stands under the empty name. -/
structure Machine where
  environment : Environment
  files : Files
  homes : Table String := []
  deriving Repr, DecidableEq

end AuthRelay
