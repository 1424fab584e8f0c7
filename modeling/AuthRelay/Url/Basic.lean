import AuthRelay.Text.Quoted
/-!
# URLs

A URL in its normal form: scheme and host in lower case, a default port left out, dot segments
resolved, and every part percent-encoded. `Url.netloc` is the authority that a request names in its
`Host` header: host and port, never the user information. Only the zone of a version 6 address can
keep it from being ASCII, and then no header can carry it.
-/
namespace AuthRelay

/-- A URL in normal form. An absent scheme, user information or host is empty. -/
structure Url where
  scheme : String
  userinfo : String
  host : String
  port : Option Int
  path : String
  query : Option String
  fragment : Option String
  deriving Repr, DecidableEq

/-- Why a text is not a URL. -/
inductive UrlFault
  | tooLong
  | unprintable (c : Char) (position : Nat)
  | address4 (host : String)
  | address6 (host : String)
  | foreignHost (host : String)
  | port (text : String)
  | pathNotRooted
  | pathOpensAuthority
  | pathOpensColon
  deriving Repr, DecidableEq

/-- The wording of a URL fault. -/
def UrlFault.message : UrlFault → String
  | .tooLong => "URL too long"
  | .unprintable c position => "Invalid non-printable ASCII character in URL, " ++
      Text.Quoted.encode (String.ofList [c]) ++ " at position " ++ toString position ++ "."
  | .address4 host => "Invalid IPv4 address: " ++ Text.Quoted.encode host
  | .address6 host => "Invalid IPv6 address: " ++ Text.Quoted.encode host
  | .foreignHost host => "Invalid IDNA hostname: " ++ Text.Quoted.encode host
  | .port text => "Invalid port: " ++ Text.Quoted.encode text
  | .pathNotRooted => "For absolute URLs, path must be empty or begin with '/'"
  | .pathOpensAuthority => "Relative URLs cannot have a path starting with '//'"
  | .pathOpensColon => "Relative URLs cannot have a path starting with ':'"

namespace Url

/-- The host as it stands in an authority: a version 6 address is bracketed. -/
def bracketedHost (u : Url) : String :=
  if ':' ∈ u.host.toList then "[" ++ u.host ++ "]" else u.host

/-- The port with its colon, or nothing. -/
def portSuffix (u : Url) : String :=
  match u.port with
  | some port => ":" ++ toString port
  | none => ""

/-- Host and port, without user information. -/
def netloc (u : Url) : String :=
  u.bracketedHost ++ u.portSuffix

/-- Host and port as a header carries them. -/
def asciiNetloc? (u : Url) : Option String :=
  if u.netloc.toList.all (·.toNat < 0x80) then some u.netloc else none

/-- User information, host and port. -/
def authority (u : Url) : String :=
  (if u.userinfo = "" then "" else u.userinfo ++ "@") ++ u.netloc

/-- The text of a URL. -/
def render (u : Url) : String :=
  (if u.scheme = "" then "" else u.scheme ++ ":") ++
  (if u.authority = "" then "" else "//" ++ u.authority) ++
  u.path ++
  (match u.query with
    | some query => "?" ++ query
    | none => "") ++
  (match u.fragment with
    | some fragment => "#" ++ fragment
    | none => "")

end Url
end AuthRelay
