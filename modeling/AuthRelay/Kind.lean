/-!
# Kinds of failure

Failures fall into kinds, and a kind may be a special case of another one. `Kind.isA` is the
resulting order: a handler for a kind takes every kind below it.
-/
namespace AuthRelay

/-- The kinds of failure that can be seen from outside. -/
inductive Kind
  | credential
  | credentialNotFound
  | credentialFile
  | noCredentials
  | api
  | authenticationRejected
  | unauthorized
  | forbidden
  | runtime
  | value
  | connect
  | connectTimeout
  | read
  | readTimeout
  | write
  | poolTimeout
  | remoteProtocol
  | unsupportedProtocol
  | proxy
  | bodyUnread
  | streamClosed
  | streamConsumed
  | invalidUrl
  | unicode
  | unencodable
  | undecodable
  | frozenField
  | unknownName
  | missingQuery
  | incomparable
  | assertion
  | outOfRange
  | system
  | missingFile
  | existingFile
  | notADirectory
  | isADirectory
  | permission
  deriving Repr, DecidableEq

namespace Kind

/-- The kind that a kind is directly a case of. -/
def parent? : Kind → Option Kind
  | .credentialNotFound | .credentialFile | .noCredentials => some .credential
  | .authenticationRejected => some .api
  | .unauthorized | .forbidden => some .authenticationRejected
  | .unicode => some .value
  | .unencodable | .undecodable => some .unicode
  | .bodyUnread | .streamClosed | .streamConsumed => some .runtime
  | .missingFile | .existingFile | .notADirectory | .isADirectory | .permission => some .system
  | _ => none

/-- A kind and every kind that it is a case of, nearest first. No chain is longer than three. -/
def lineage (k : Kind) : List Kind :=
  match k.parent? with
  | none => [k]
  | some p => k :: p :: p.parent?.toList

/-- The chains are complete: nothing stands above the third kind of one. -/
theorem parent?_parent?_parent? (k : Kind) :
    ((k.parent?.bind parent?).bind parent?) = none := by
  cases k <;> rfl

/-- Whether a failure of the first kind is also one of the second. -/
def isA (k general : Kind) : Bool :=
  k.lineage.contains general

end Kind

/-- A failure that a collaborator raises in its own words: a credential supplier, a carrier, or the
stream of a response. -/
structure Given where
  kind : Kind
  message : String := ""
  variableName : Option String := none
  status : Option Int := none
  deriving Repr, DecidableEq

end AuthRelay
