import AuthRelay.Text.Blank
/-!
# The grammar of environment files

An environment file is a sequence of bindings `KEY=value`. A key may be quoted, a value may be
quoted and then span lines, `export` may stand in front, and comments begin with `#`. A binding that
breaks the grammar is dropped together with the rest of the line on which it broke.

The rules are those of the dotenv library, which is no part of this program, and are assumed of it;
that a backslash takes any character of a quoted value along (`cutQuoted?`) holds of version 1.2.

Every reader below takes the text that is left and returns what it has read with the text that is
left then; a reader that fails returns the text where it failed.
-/
namespace AuthRelay.EnvFile

/-- A binding as written: a key, and its value if an equals sign follows it. -/
structure Binding where
  key : List Char
  value : Option (List Char)
  deriving Repr, DecidableEq

/-- What a reader has read and the text that is left, or the text where it failed. -/
abbrev Reading (α : Type) := Except (List Char) (α × List Char)

/-- The text after blanks that stay on the line. -/
def skipBlanks (s : List Char) : List Char :=
  s.dropWhile Text.isInlineBlank

/-- Whether a character ends a line. -/
def isLineEnd (c : Char) : Bool :=
  c == '\n' || c == '\r'

/-- The text of the following lines. -/
def skipLine (s : List Char) : List Char :=
  match s.dropWhile (!isLineEnd ·) with
  | '\r' :: '\n' :: rest => rest
  | _ :: rest => rest
  | [] => []

/-- The text after `export` and blanks, if both are there. -/
def skipExport (s : List Char) : List Char :=
  match s with
  | 'e' :: 'x' :: 'p' :: 'o' :: 'r' :: 't' :: rest =>
    if (rest.head?.map Text.isInlineBlank).getD false then skipBlanks rest else s
  | _ => s

/-- Reads a key. A comment stands in for none. -/
def readKey (s : List Char) : Reading (Option (List Char)) :=
  match s with
  | '#' :: _ => .ok (none, s)
  | '\'' :: rest =>
    let key := rest.takeWhile (· != '\'')
    match rest.drop key.length with
    | '\'' :: rest => if key = [] then .error s else .ok (some key, rest)
    | _ => .error s
  | _ =>
    let inKey := fun c => c != '=' && c != '#' && !Text.isBlank c
    let key := s.takeWhile inKey
    if key = [] then .error s else .ok (some key, s.dropWhile inKey)

/-- The text up to a closing quote, and the text after it. A backslash takes the next character
along. -/
def cutQuoted? (quote : Char) : List Char → Option (List Char × List Char)
  | [] => none
  | '\\' :: c :: rest =>
    (cutQuoted? quote rest).map fun (inside, after) => ('\\' :: c :: inside, after)
  | c :: rest =>
    if c = quote then some ([], rest)
    else (cutQuoted? quote rest).map fun (inside, after) => (c :: inside, after)

/-- The characters that a backslash stands before in a quoted value, with what the pair means. -/
def escapes (quote : Char) : List (Char × Char) :=
  if quote = '"' then
    [('\\', '\\'), ('\'', '\''), ('"', '"'), ('a', '\x07'), ('b', '\x08'), ('f', '\x0c'),
      ('n', '\n'), ('r', '\r'), ('t', '\t'), ('v', '\x0b')]
  else [('\\', '\\'), ('\'', '\'')]

/-- Replaces the escapes of a quoted value. A backslash before any other character stays. -/
def unescape (table : List (Char × Char)) : List Char → List Char
  | [] => []
  | [c] => [c]
  | c :: d :: rest =>
    if c = '\\' then
      match table.lookup d with
      | some meant => meant :: unescape table rest
      | none => c :: unescape table (d :: rest)
    else c :: unescape table (d :: rest)

/-- The part of a line before a comment, which begins after a blank. -/
def beforeComment (afterBlank : Bool) : List Char → List Char
  | [] => []
  | c :: rest =>
    if c = '#' ∧ afterBlank then [] else c :: beforeComment (Text.isBlank c) rest

/-- Reads a quoted value. -/
def readQuoted (quote : Char) (s rest : List Char) : Reading (List Char) :=
  match cutQuoted? quote rest with
  | some (inside, after) => .ok (unescape (escapes quote) inside, after)
  | none => .error s

/-- Reads a value after the equals sign. A comment right after blanks leaves it empty. -/
def readValue (s : List Char) : Reading (List Char) :=
  let value := skipBlanks s
  match value with
  | [] => .ok ([], value)
  | c :: rest =>
    if c = '#' ∧ value.length < s.length then .ok ([], value)
    else if c = '\'' ∨ c = '"' then readQuoted c value rest
    else if isLineEnd c then .ok ([], value)
    else
      let line := value.takeWhile (!isLineEnd ·)
      .ok (Text.trimRight (beforeComment false line), value.dropWhile (!isLineEnd ·))

/-- Reads an equals sign and the value after it, if they are there. -/
def readAssignment (s : List Char) : Reading (Option (List Char)) :=
  match s with
  | '=' :: rest => (readValue rest).map fun (value, rest) => (some value, rest)
  | _ => .ok (none, s)

/-- The text after a comment, if one follows on the line. -/
def skipComment (s : List Char) : List Char :=
  match skipBlanks s with
  | '#' :: rest => rest.dropWhile (!isLineEnd ·)
  | _ => s

/-- Requires that nothing but a comment is left on the line. -/
def readLineEnd (s : List Char) : Reading Unit :=
  let s := skipComment s
  match skipBlanks s with
  | [] => .ok ((), [])
  | '\r' :: '\n' :: rest => .ok ((), rest)
  | c :: rest => if isLineEnd c then .ok ((), rest) else .error s

/-- Reads a binding, or a line that holds a comment only. -/
def readBinding (s : List Char) : Except (List Char) (Option Binding × List Char) := do
  let (key, s) ← readKey (skipExport s)
  let (value, s) ← readAssignment (skipBlanks s)
  let (_, s) ← readLineEnd s
  pure (key.map fun key => ⟨key, value⟩, s)

/-- Reads bindings, at most as many as the first argument says. -/
def readBindings : Nat → List Char → List Binding
  | 0, _ => []
  | limit + 1, s =>
    match Text.trimLeft s with
    | [] => []
    | s =>
      match readBinding s with
      | .ok (some binding, rest) => binding :: readBindings limit rest
      | .ok (none, rest) => readBindings limit rest
      | .error rest => readBindings limit (skipLine rest)

/-- The bindings of a file. A binding takes one character at least. -/
def bindings (text : List Char) : List Binding :=
  readBindings text.length text

end AuthRelay.EnvFile
