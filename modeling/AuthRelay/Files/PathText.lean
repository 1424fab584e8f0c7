import AuthRelay.Machine
import AuthRelay.Text.Pieces
/-!
# Path texts

What happens to the text of a secret's path before it is used: references to variables are
replaced, a leading tilde becomes a home directory, and superfluous slashes and dots go.
-/
namespace AuthRelay.PathText

/-- A character of a variable's name. -/
def isNameChar (c : Char) : Bool :=
  c.isAlphanum || c == '_'

/-- The name after a dollar sign and the number of characters it takes: `NAME`, or any text between
braces. -/
def reference? (s : List Char) : Option (List Char × Nat) :=
  match s with
  | '\x7b' :: rest =>
    if '\x7d' ∈ rest then
      let name := rest.takeWhile (· != '\x7d')
      some (name, name.length + 2)
    else none
  | _ =>
    let name := s.takeWhile isNameChar
    if name = [] then none else some (name, name.length)

/-- Replaces references to bound variables, once, and leaves the others as they are. The first
argument counts the characters that belong to the last reference. -/
def expandVariablesFrom (env : Environment) : Nat → List Char → List Char
  | _, [] => []
  | skip + 1, _ :: rest => expandVariablesFrom env skip rest
  | 0, c :: rest =>
    if c = '$' then
      match reference? rest with
      | none => c :: expandVariablesFrom env 0 rest
      | some (name, width) =>
        (match env.find? (String.ofList name) with
          | some value => value.toList
          | none => c :: rest.take width) ++ expandVariablesFrom env width rest
    else c :: expandVariablesFrom env 0 rest

/-- Replaces references to bound variables. -/
def expandVariables (env : Environment) (path : String) : String :=
  String.ofList (expandVariablesFrom env 0 path.toList)

/-- The home directory that a tilde with a name behind it stands for. Without a name it is that of
the user: the value of `HOME`, or if that is unbound the home of the account. -/
def home? (machine : Machine) (name : String) : Option String :=
  let account := machine.homes.find? name
  if name = "" then (machine.environment.find? "HOME").or account else account

/-- Replaces a tilde at the start, together with the account's name behind it. -/
def expandHome (machine : Machine) (path : String) : String :=
  match path.toList with
  | '~' :: rest =>
    let name := rest.takeWhile (· != '/')
    match home? machine (String.ofList name) with
    | some home =>
      let expanded := (home.toList.reverse.dropWhile (· == '/')).reverse ++ rest.drop name.length
      if expanded = [] then "/" else String.ofList expanded
    | none => path
  | _ => path

/-- Drops repeated and trailing slashes and single dots. Two slashes at the start stay, three do
not. -/
def normalize (path : String) : String :=
  let s := path.toList
  let slashes := (s.takeWhile (· == '/')).length
  let root := if slashes = 0 then [] else if slashes = 2 then ['/', '/'] else ['/']
  let names := (Text.pieces '/' s).filter fun name => name != [] && name != ['.']
  if root = [] ∧ names = [] then "." else String.ofList (root ++ Text.glue '/' names)

end AuthRelay.PathText
