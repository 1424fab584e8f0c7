import AuthRelay.Headers
import AuthRelay.Kind
/-!
# Responses

A response as a carrier hands it over: the head, and a body that is either in memory already or
still to be drawn from a stream. Drawing the body may fail after the octets have been delivered. The
body is the one that the caller gets to see: a content encoding such as gzip has been undone.
-/
namespace AuthRelay

/-- How far the body of a response has come. -/
inductive Phase
  /-- Nothing has been drawn yet. -/
  | pending
  /-- Drawing has begun and has failed. -/
  | spent
  /-- The whole body is in memory. -/
  | loaded
  deriving Repr, DecidableEq

/-- A failure of a codec, which knows nothing of rejections. -/
structure CodecFault where
  kind : Kind
  message : String := ""
  notRejection : kind.isA .authenticationRejected = false
  deriving Repr, DecidableEq

/-- What the runtime makes of a body in a charset that is none of ASCII, ISO-8859-1 and UTF-8. Which
other charsets there are, and what they read, is left to it. -/
inductive Foreign
  /-- It does not know the charset. -/
  | unknown
  | text (s : String)
  | failure (cause : CodecFault)
  deriving Repr, DecidableEq

/-- A response. `serial` is the number of the send that it answers, `failure` is raised once the
body has been drawn, `closed` tells whether its stream has been closed, and `foreign` is what the
runtime makes of the body if it is asked. -/
structure Response where
  serial : Nat
  status : Int
  headers : Headers
  body : Bytes
  failure : Option Given
  phase : Phase
  closed : Bool
  foreign : Foreign := .unknown
  deriving Repr, DecidableEq

namespace Response

/-- A response whose body is still in its stream. -/
def streaming (serial : Nat) (status : Int) (headers : Headers) (body : Bytes)
    (failure : Option Given) (foreign : Foreign := .unknown) : Response :=
  ⟨serial, status, headers, body, failure, .pending, false, foreign⟩

/-- A response whose body is in memory, with nothing left to close. -/
def inMemory (serial : Nat) (status : Int) (headers : Headers) (body : Bytes)
    (foreign : Foreign := .unknown) : Response :=
  ⟨serial, status, headers, body, none, .loaded, true, foreign⟩

end Response

/-- The statuses that hand a request over to the next credentials. -/
def authFailureStatuses : List Int := [401, 403]

/-- Whether a response is a rejection of the credentials. -/
def Response.isRejection (r : Response) : Bool :=
  authFailureStatuses.contains r.status

theorem Response.isRejection_iff (r : Response) :
    r.isRejection = true ↔ r.status = 401 ∨ r.status = 403 := by
  simp [isRejection, authFailureStatuses]

end AuthRelay
