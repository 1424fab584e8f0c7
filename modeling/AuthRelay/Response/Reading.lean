import AuthRelay.Act
import AuthRelay.Charset
/-!
# Reading responses

Drawing the body of a response, closing its stream, and turning a final rejection into a failure.
Drawing the body to its end closes the stream; a body can be drawn once, and is kept. Drawing may
fail, and closing a stream does not.
-/
namespace AuthRelay.Response

/-- What the runtime makes of the body, if it has to be asked. -/
def reading (r : Response) : Except Fault Foreign := do
  match ← (r.headers.get? "Content-Type").mapError .text with
  | some contentType => pure (if Charset.isForeign contentType then r.foreign else .unknown)
  | none => pure .unknown

/-- The encoding of the body's text, unless the runtime has one of its own for it. -/
def encoding (r : Response) : Except Fault Encoding := do
  match ← (r.headers.get? "Content-Type").mapError .text with
  | some contentType => (Charset.ofContentType contentType).mapError .contentType
  | none => pure .utf8

/-- The text of the whole body. An empty body is empty text, whatever its content type says. -/
def bodyText (r : Response) : Except Fault String := do
  if r.body = [] then pure ""
  else match ← r.reading with
    | .unknown => pure (Charset.decodeLossy (← r.encoding) r.body)
    | .text s => pure s
    | .failure cause => throw (.codec cause)

/-- The text of the body, once it has been read. -/
def text (r : Response) : Except Fault String :=
  match r.phase with
  | .loaded => r.bodyText
  | _ => .error .bodyUnread

/-- Reads the body, or gives it again if it is in memory already. -/
def readBody : Act Response Bytes := fun _ r =>
  match r.phase with
  | .loaded => ⟨.ok r.body, r, []⟩
  | .spent => ⟨.error .streamConsumed, r, []⟩
  | .pending =>
    if r.closed then ⟨.error .streamClosed, r, []⟩
    else match r.failure with
      | none => ⟨.ok r.body, { r with phase := .loaded, closed := true },
          [.event (.read r.serial), .event (.close r.serial)]⟩
      | some g => ⟨.error (.given g), { r with phase := .spent }, [.event (.read r.serial)]⟩

/-- Closes the stream, unless it is closed. -/
def close : Act Response Unit := fun _ r =>
  if r.closed then ⟨.ok (), r, []⟩
  else ⟨.ok (), { r with closed := true }, [.event (.close r.serial)]⟩

/-- Reads the body and closes the stream. -/
def drain : Act Response Unit := do
  let _ ← readBody
  close

/-- The number of characters of a body that a rejection quotes. -/
def quotedLength : Nat := 200

/-- The statuses that are reported as failures, with the kinds of these. -/
def rejectionKinds : List (Int × Kind) := [(401, .unauthorized), (403, .forbidden)]

/-- Fails with the rejection if the response is one. -/
def checkAuth (r : Response) : Except Fault Unit := do
  match rejectionKinds.lookup r.status with
  | none => pure ()
  | some kind =>
    let text ← r.text
    throw (.rejected kind r (String.ofList (text.toList.take quotedLength)))

end AuthRelay.Response
