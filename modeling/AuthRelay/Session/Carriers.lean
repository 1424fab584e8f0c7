import AuthRelay.Relay.Blocking
import AuthRelay.Relay.Stepwise
import AuthRelay.Session.Sources
/-!
# The carriers of a session

A scripted carrier follows its replies; a stack passes a request from relay to relay down to its
carrier. Entering, leaving and closing a stack reach the carrier through all relays.
-/
namespace AuthRelay.Session

/-- The response of a reply to the send with the given number. -/
def Reply.response (reply : Reply) (serial : Nat) : Except TextFault Response := do
  let headers : Headers := { entries := ← entriesOf reply.headers }
  if reply.streams then
    pure (.streaming serial reply.status headers reply.body reply.bodyFailure reply.foreign)
  else pure (.inMemory serial reply.status headers reply.body reply.foreign)

/-- Counts a send of a scripted carrier, and returns its number and its reply. -/
def nextReply (cell : Nat) : Act World (Nat × Reply) := fun _ w =>
  match w.scripts[cell]? with
  | none => ⟨.error (.unknownName "script"), w, []⟩
  | some script =>
    let serial := script.sent + 1
    ⟨(nth serial script.replies).map (serial, ·),
      { w with scripts := w.scripts.set cell { script with sent := serial } }, []⟩

/-- Draws the body of the request on the line if it is wanted. The body is empty otherwise. -/
def drawIf (wanted : Bool) : Act (Line World) (Except Fault (Option Bytes)) := do
  if wanted then
    let result ← Line.drawBody
    pure (result.map some)
  else pure (.ok none)

/-- Makes a send known, with the request as it stands. -/
def announce (serial : Nat) (body : Option Bytes) : Act (Line World) Unit := do
  let request := (← Act.get).request
  Act.emit (.send serial request.method request.url.render request.headers.entries body)

/-- Applies a reply's edit: headers to set, headers to drop, and last the URL. -/
def applyEdit (edit : Request.Edit) : Act (Line World) Unit := do
  Line.setHeaders edit.setHeaders
  Line.dropHeaders edit.dropHeaders
  Line.setUrl? edit.url

/-- A scripted carrier answers a request. -/
def sendScripted (cell : Nat) : Act (Line World) Response := do
  let (serial, reply) ← Line.onPeer (nextReply cell)
  applyEdit reply.edit
  let drawn ← drawIf reply.drawsBody
  announce serial (drawn.toOption.getD none)
  let _ ← Act.ofExcept drawn
  match reply.failure with
  | some g => Act.fail (.given g)
  | none => Act.ofExcept ((reply.response serial).mapError .text)

namespace Stack

/-- The attributes of a relay. -/
def layerAt (cell : Nat) : Act (Line World) Layer := do
  match (← Act.get).peer.layers[cell]? with
  | some found => pure found
  | none => Act.fail (.unknownName "relay")

/-- Sends the request on the line. -/
def send : Stack → Act (Line World) Response
  | .network => Act.fail (.given { kind := .connect, message := "network is unreachable" })
  | .script cell => sendScripted cell
  | .layer mode cell inner => do
    let here ← layerAt cell
    let gather := (suppliers here.source).gather
    match mode with
    | .blocking => Relay.blocking here.target gather inner.send
    | .stepwise => (Relay.stepwise here.target gather (Task.once inner.send)).run

/-- The carrier under the relays. -/
def carrier : Stack → Stack
  | .layer _ _ inner => inner.carrier
  | s => s

/-- Enters the carrier. -/
def enter (s : Stack) : Act World Unit :=
  match s.carrier with
  | .script _ => Act.emit .entered
  | _ => pure ()

/-- Leaves the carrier, maybe because of a failure, and returns what it answers. -/
def exit (s : Stack) (kind : Option Kind) : Act World (Option Bool) :=
  match s.carrier with
  | .script cell => do
    Act.emit (.exited kind)
    pure (((← Act.get).scripts[cell]?).bind Script.exitAnswer)
  | _ => pure none

/-- Closes the carrier. -/
def close (s : Stack) : Act World Unit :=
  match s.carrier with
  | .script _ => Act.emit .shut
  | _ => pure ()

end Stack
end AuthRelay.Session
