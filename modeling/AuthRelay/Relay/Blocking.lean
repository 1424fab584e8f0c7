import AuthRelay.Relay.Basic
/-!
# The blocking relay

Gathers the candidates, then tries them one after another. Every rejected response but the last is
drained and recorded before the next attempt; the first other response, or the last one whatever
it is, is returned as the carrier gave it.
-/
namespace AuthRelay.Relay

variable {σ : Type}

/-- The attempts from the given one on. -/
def attempts (target : String) (callerHeader : Option String) (total : Nat) (next : Carrier σ) :
    Nat → CredentialSet → List CredentialSet → Act (Line σ) Response
  | _, last, [] => do
    authorize target callerHeader last
    next
  | attempt, candidate, following :: rest => do
    authorize target callerHeader candidate
    let response ← next
    if response.isRejection then
      let drained ← onResponse response Response.drain
      logRejection drained attempt total
      attempts target callerHeader total next (attempt + 1) following rest
    else pure response

/-- A relay for a target, with a source of candidates, in front of a carrier. -/
def blocking (target : String) (gather : Act σ Candidates) (next : Carrier σ) :
    Act (Line σ) Response := do
  let (candidates, callerHeader) ← prepare gather
  attempts target callerHeader candidates.toList.length next 1 candidates.first candidates.rest

end AuthRelay.Relay
