import AuthRelay.Act
import AuthRelay.Text.Case
import AuthRelay.Url.Parser
/-!
# Requests

A request with its header list and body, how a request is built from a draft, and the line on which
it is sent: the request, which everyone on the way may edit, beside the state of the other side. How
requests are built and how bodies are drawn is assumed of the HTTP library.
-/
namespace AuthRelay

/-- The body of a request: octets in memory, or chunks that are handed out one after another. A
one-shot body can be drawn once; `drawn` tells whether it has been. -/
inductive Body
  | bytes (content : Bytes)
  | chunks (parts : List Bytes) (oneShot drawn : Bool)
  deriving Repr, DecidableEq

namespace Body

/-- The octets of a whole body. -/
def content : Body → Bytes
  | .bytes content => content
  | .chunks parts _ _ => parts.flatten

/-- Draws the body. A one-shot body fails the second time. -/
def draw : Body → Except Fault Bytes × Body
  | .bytes content => (.ok content, .bytes content)
  | .chunks parts oneShot drawn =>
    if oneShot && drawn then (.error .streamConsumed, .chunks parts oneShot drawn)
    else (.ok parts.flatten, .chunks parts oneShot true)

end Body

/-- A name or value in a draft: octets as they are, or a text, which must be ASCII. -/
inductive HeaderText
  | octets (b : Bytes)
  | text (s : String)
  deriving Repr, DecidableEq

/-- The octets of a name or value. -/
def HeaderText.toBytes : HeaderText → Except TextFault Bytes
  | .octets b => .ok b
  | .text s =>
    match Encoding.ascii.encode? s with
    | some b => .ok b
    | none => .error .unencodable

/-- The entries of a header list. -/
def entriesOf (drafts : List (HeaderText × HeaderText)) : Except TextFault (List (Bytes × Bytes)) :=
  drafts.mapM fun (name, value) => do pure (← name.toBytes, ← value.toBytes)

/-- What a caller gives to have a request built. -/
structure Draft where
  method : String := "GET"
  url : String
  headers : List (HeaderText × HeaderText) := []
  body : Option Body := none
  deriving Repr, DecidableEq

/-- A request. -/
structure Request where
  method : String
  url : Url
  headers : Headers
  body : Body
  deriving Repr, DecidableEq

namespace Request

/-- The authority that a header would name. -/
def namedAuthority (url : Url) : Except TextFault String :=
  match url.asciiNetloc? with
  | some netloc => .ok netloc
  | none => .error .unencodable

/-- Adds the header that announces the body's length, unless the caller announced it. -/
def announceBody (body : Option Body) (headers : Headers) : Except TextFault Headers :=
  match body with
  | some (.bytes (_ :: rest)) =>
    headers.setIfAbsent "Content-Length" (toString (rest.length + 1))
  | some (.chunks _ _ _) => do
    if ← headers.contains "Content-Length" then pure headers
    else headers.setIfAbsent "Transfer-Encoding" "chunked"
  | _ => pure headers

/-- The entries that go in front of the caller's: the host, if the URL names one, and the length of
an empty body for methods that should have a body. -/
def leadingEntries (method : String) (url : Url) (headers : Headers) :
    Except TextFault (List (Bytes × Bytes)) := do
  let hasHost ← headers.contains "Host"
  let hasLength := (← headers.contains "Content-Length") || (← headers.contains "Transfer-Encoding")
  let host ← if hasHost || url.host = "" then pure []
    else do pure [(Text.Utf8.encode "Host", Text.Utf8.encode (← namedAuthority url))]
  let length := if !hasLength && ["POST", "PUT", "PATCH"].contains method
    then [(Text.Utf8.encode "Content-Length", Text.Utf8.encode "0")] else []
  pure (host ++ length)

/-- Builds a request. The URL is read first, then the headers; the method is capitalised. -/
def build (draft : Draft) : Except Fault Request := do
  let url ← (Url.parse draft.url).mapError .url
  let method := Text.upper draft.method
  let headers ← (do
    let listed : Headers := { entries := ← entriesOf draft.headers }
    let announced ← announceBody draft.body listed.settle
    let leading ← leadingEntries method url announced
    pure { entries := leading ++ announced.entries } : Except TextFault Headers).mapError .text
  pure { method, url, headers, body := draft.body.getD (.bytes []) }

/-- The request with the encoding of its headers settled. -/
def settle (r : Request) : Request :=
  { r with headers := r.headers.settle }

/-- The value of a header. -/
def header (r : Request) (name : String) : Except Fault (Option String) :=
  (r.headers.get? name).mapError .text

/-- The authority of the request's URL. -/
def authority (r : Request) : Except Fault String :=
  (namedAuthority r.url).mapError .text

/-- Whether a request is addressed to a target: its `Host` header or the authority of its URL, both
without user information, is the target to the letter. -/
def isAddressedTo (r : Request) (target : String) : Except Fault Bool := do
  if (← r.header "Host") = some target then pure true else pure ((← r.authority) == target)

/-- Changes to a request: a new URL, headers to set, headers to drop. The `Host` header does not
follow the URL. -/
structure Edit where
  url : Option String := none
  setHeaders : List (String × String) := []
  dropHeaders : List String := []
  deriving Repr, DecidableEq

end Request

/-- A line: a request and the state of the other side. -/
structure Line (σ : Type) where
  request : Request
  peer : σ

namespace Line

variable {σ : Type}

/-- Looks a header up, which settles the encoding of the header list. -/
def header (name : String) : Act (Line σ) (Option String) := fun _ line =>
  let request := line.request.settle
  ⟨request.header name, { line with request }, []⟩

/-- Sets a header. -/
def setHeader (name value : String) : Act (Line σ) Unit := fun _ line =>
  match line.request.headers.set name value with
  | .ok headers => ⟨.ok (), { line with request := { line.request with headers } }, []⟩
  | .error cause => ⟨.error (.text cause), line, []⟩

/-- Drops a header, if it is there. -/
def dropHeader (name : String) : Act (Line σ) Unit := fun _ line =>
  let request := line.request.settle
  match request.headers.erase name with
  | .ok headers => ⟨.ok (), { line with request := { request with headers } }, []⟩
  | .error cause => ⟨.error (.text cause), { line with request }, []⟩

/-- Gives the request a new URL. -/
def setUrl (text : String) : Act (Line σ) Unit := fun _ line =>
  match Url.parse text with
  | .ok url => ⟨.ok (), { line with request := { line.request with url } }, []⟩
  | .error cause => ⟨.error (.url cause), line, []⟩

/-- Draws the body of the request and hands over the result. -/
def drawBody : Act (Line σ) (Except Fault Bytes) := fun _ line =>
  let (result, body) := line.request.body.draw
  ⟨.ok result, { line with request := { line.request with body } }, []⟩

/-- Whether the request is addressed to a target. -/
def isAddressedTo (target : String) : Act (Line σ) Bool := do
  if (← header "Host") = some target then pure true
  else pure ((← Act.ofExcept (← Act.get).request.authority) == target)

/-- Sets headers one after another. -/
def setHeaders : List (String × String) → Act (Line σ) Unit
  | [] => pure ()
  | (name, value) :: rest => do
    setHeader name value
    setHeaders rest

/-- Drops headers one after another. -/
def dropHeaders : List String → Act (Line σ) Unit
  | [] => pure ()
  | name :: rest => do
    dropHeader name
    dropHeaders rest

/-- Gives the request a new URL if there is one. -/
def setUrl? : Option String → Act (Line σ) Unit
  | some url => setUrl url
  | none => pure ()

/-- An act of the other side. -/
def onPeer {α : Type} (act : Act σ α) : Act (Line σ) α :=
  Act.zoom Line.peer (fun peer line => { line with peer }) act

end Line
end AuthRelay
