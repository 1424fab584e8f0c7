import AuthRelay.Credential.Source
import AuthRelay.Request
import AuthRelay.Response.Reading
/-!
# The parts of a relay

A carrier takes the request on a line and answers it. A relay is a carrier in front of another one:
it authorises requests for its target with one candidate after another, as long as the carrier
behind it rejects them. Here are the steps that make up an attempt.
-/
namespace AuthRelay

/-- A carrier answers the request on its line. It may edit the request and change its own state. -/
abbrev Carrier (σ : Type) := Act (Line σ) Response

namespace Relay

variable {σ : Type}

/-- The header that carries the credentials. -/
def authorization : String := "Authorization"

/-- What an attempt starts from: the candidates, and the header that the caller put on the
request. -/
def prepare (gather : Act σ Candidates) : Act (Line σ) (Candidates × Option String) := do
  let candidates ← Line.onPeer gather
  let callerHeader ← Line.header authorization
  pure (candidates, callerHeader)

/-- Writes a candidate into a request for the target. A candidate without an active shape puts back
the caller's own header, or the absence of one. A request for anyone else is left alone. -/
def authorize (target : String) (callerHeader : Option String) (candidate : CredentialSet) :
    Act (Line σ) Unit := do
  if ← Line.isAddressedTo target then
    match candidate.authorization?, callerHeader with
    | some value, _ => Line.setHeader authorization value
    | none, some value => Line.setHeader authorization value
    | none, none => Line.dropHeader authorization

/-- The record of a rejection. -/
def rejectionText (request : Request) (response : Response) (attempt total : Nat)
    (body : String) : String :=
  "Request " ++ request.method ++ " " ++ request.url.render ++ " rejected with " ++
    toString response.status ++ " (credentials " ++ toString attempt ++ "/" ++ toString total ++
    "), trying next credentials. Response body: " ++ body

/-- Records that an attempt was rejected. The body is decoded only if the record is written. -/
def logRejection (response : Response) (attempt total : Nat) : Act (Line σ) Unit := do
  if ← Act.writes .debug then
    let body ← Act.ofExcept response.text
    let line ← Act.get
    Act.log .debug .relay (rejectionText line.request response attempt total body)

/-- Runs an act on a response, and returns the response as it is then. -/
def onResponse {α : Type} (response : Response) (act : Act Response α) :
    Act (Line σ) Response := do
  let (result, response) ← Act.within response act
  let _ ← Act.ofExcept result
  pure response

end Relay
end AuthRelay
