import AuthRelay.Text.Pieces
/-!
# The five components of a reference

The split of a text into scheme, authority, path, query and fragment, and of an authority into user
information, host and port. Every text splits: what the components may hold is checked later.
-/
namespace AuthRelay.Url

/-- The components of a reference, as written. -/
structure Reference where
  scheme : List Char
  authority : List Char
  path : List Char
  query : Option (List Char)
  fragment : Option (List Char)
  deriving Repr, DecidableEq

/-- The components of an authority, as written. -/
structure Authority where
  userinfo : List Char
  host : List Char
  port : List Char
  deriving Repr, DecidableEq

/-- A character of a scheme after the first, which is a letter. -/
def isSchemeChar (c : Char) : Bool :=
  c.isAlphanum || c == '+' || c == '.' || c == '-'

/-- The scheme and what follows its colon. A colon at the very start ends an empty scheme. -/
def cutScheme (s : List Char) : List Char × List Char :=
  match s with
  | [] => ([], [])
  | c :: _ =>
    let scheme := if c.isAlpha then s.takeWhile isSchemeChar else []
    match s.drop scheme.length with
    | ':' :: rest => (scheme, rest)
    | _ => ([], s)

/-- The authority, if two slashes open one, and what follows it. -/
def cutAuthority (s : List Char) : List Char × List Char :=
  match s with
  | '/' :: '/' :: rest =>
    let inside := fun c => c != '/' && c != '?' && c != '#'
    (rest.takeWhile inside, rest.dropWhile inside)
  | _ => ([], s)

/-- The fragment of what follows the query. -/
def fragment? : List Char → Option (List Char)
  | '#' :: rest => some rest
  | _ => none

/-- Splits a text into its five components. -/
def Reference.ofText (s : List Char) : Reference :=
  let (scheme, s) := cutScheme s
  let (authority, s) := cutAuthority s
  let path := s.takeWhile fun c => c != '?' && c != '#'
  match s.drop path.length with
  | '?' :: rest =>
    let query := rest.takeWhile (· != '#')
    ⟨scheme, authority, path, some query, fragment? (rest.drop query.length)⟩
  | rest => ⟨scheme, authority, path, none, fragment? rest⟩

/-- Splits an authority: the user information ends at the last `@`, a bracketed host at the last
bracket, any other host at the first colon. -/
def Authority.ofText (s : List Char) : Authority :=
  let (userinfo, s) := (Text.cutLast? '@' s).getD ([], s)
  let (host, s) := match s, Text.cutLast? ']' s with
    | '[' :: _, some (before, after) => (before ++ [']'], after)
    | _, _ => (s.takeWhile (· != ':'), s.dropWhile (· != ':'))
  match s with
  | ':' :: port => ⟨userinfo, host, port⟩
  | port => ⟨userinfo, host, port⟩

end AuthRelay.Url
