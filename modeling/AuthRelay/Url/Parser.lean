import AuthRelay.Text.Integer
import AuthRelay.Url.Address
import AuthRelay.Url.Basic
import AuthRelay.Url.Percent
import AuthRelay.Url.Reference
/-!
# Reading URLs

`Url.parse` checks a text and brings it into normal form. The checks come in a fixed order: length,
unprintable characters, host, port, path. Checks and normal form are assumed of the HTTP library,
httpx 0.28, but for a host that is not ASCII: it is always refused here, while the library has an
ASCII form (IDNA) for most of them.
-/
namespace AuthRelay.Url

/-- The greatest number of characters of a URL. -/
def maxLength : Nat := 65536

/-- The first control character of ASCII and its position. -/
def unprintable? (s : List Char) : Option (Char × Nat) :=
  let bad := fun c : Char => c.toNat < 0x20 || c.toNat == 0x7F
  match s.dropWhile (!bad ·) with
  | [] => none
  | c :: _ => some (c, (s.takeWhile (!bad ·)).length)

/-- The host in normal form. A version 6 address loses its brackets and keeps its spelling. -/
def normalHost (host : List Char) : Except UrlFault (List Char) :=
  if host = [] then .ok []
  else if looksNumeric host then
    if isAddress4 host then .ok host else .error (.address4 (String.ofList host))
  else if host.head? = some '[' ∧ host.getLast? = some ']' then
    if isAddress6 host.tail.dropLast then .ok host.tail.dropLast
    else .error (.address6 (String.ofList host))
  else if host.all (·.toNat < 0x80) then .ok (Part.host.encode (host.map Char.toLower))
  else .error (.foreignHost (String.ofList host))

/-- The port that a scheme, as written, stands for. -/
def defaultPort? (scheme : List Char) : Option Int :=
  if scheme = ['f', 't', 'p'] then some 21
  else if scheme = ['h', 't', 't', 'p'] ∨ scheme = ['w', 's'] then some 80
  else if scheme = ['h', 't', 't', 'p', 's'] ∨ scheme = ['w', 's', 's'] then some 443
  else none

/-- The port that is worth writing: an absent or default one is not. -/
def normalPort (scheme port : List Char) : Except UrlFault (Option Int) :=
  if port = [] then .ok none
  else match Text.Integer.read? port with
    | none => .error (.port (String.ofList port))
    | some n => .ok (if defaultPort? scheme = some n then none else some n)

/-- Resolves `.` and `..` among path segments, `kept` being the segments so far, last one first. -/
def resolveDots : List (List Char) → List (List Char) → List (List Char)
  | kept, [] => kept.reverse
  | kept, segment :: rest =>
    if segment = ['.'] then resolveDots kept rest
    else if segment = ['.', '.'] then
      resolveDots (if kept = [[]] then kept else kept.tail) rest
    else resolveDots (segment :: kept) rest

/-- The path without dot segments. -/
def normalPath (path : List Char) : List Char :=
  Text.glue '/' (resolveDots [] (Text.pieces '/' path))

/-- Whether a path may stand behind the given components. -/
def checkPath (hasScheme hasAuthority : Bool) (path : List Char) : Except UrlFault Unit :=
  if hasAuthority then
    if path = [] ∨ path.head? = some '/' then .ok () else .error .pathNotRooted
  else if hasScheme then .ok ()
  else match path with
    | '/' :: '/' :: _ => .error .pathOpensAuthority
    | ':' :: _ => .error .pathOpensColon
    | _ => .ok ()

/-- Reads a URL and brings it into normal form. -/
def parse (text : String) : Except UrlFault Url := do
  let s := text.toList
  if maxLength < s.length then throw .tooLong
  if let some (c, position) := unprintable? s then throw (.unprintable c position)
  let reference := Reference.ofText s
  let authority := Authority.ofText reference.authority
  let userinfo := Part.userinfo.encode authority.userinfo
  let host ← normalHost authority.host
  let port ← normalPort reference.scheme authority.port
  let hasScheme := !reference.scheme.isEmpty
  let hasAuthority := !userinfo.isEmpty || !host.isEmpty || port.isSome
  checkPath hasScheme hasAuthority reference.path
  let path := if hasScheme || hasAuthority then normalPath reference.path else reference.path
  return {
    scheme := String.ofList (reference.scheme.map Char.toLower)
    userinfo := String.ofList userinfo
    host := String.ofList host
    port := port
    path := String.ofList (Part.path.encode path)
    query := reference.query.map fun query => String.ofList (Part.query.encode query)
    fragment := reference.fragment.map fun part => String.ofList (Part.fragment.encode part) }

end AuthRelay.Url
