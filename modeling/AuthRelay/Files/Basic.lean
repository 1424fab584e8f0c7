import AuthRelay.Files.Fault
import AuthRelay.Text.Pieces
import AuthRelay.Text.Utf8
/-!
# The file tree

Files, directories and symbolic links, each at its place below the root, and the working directory
of the process. `Files.resolve` follows a path text to where it leads: it walks the path name by
name and goes on at the target of each link, through forty links at most. A file may be closed to
the process, or damaged; a directory may not: every one that is there can be gone through.
-/
namespace AuthRelay

/-- A place in the tree: the names from the root down. -/
abbrev Place := List String

/-- What stands at a place. -/
inductive Entry
  | file (content : Bytes)
  /-- A file that is there and cannot be read. -/
  | unreadable (reason : FileReason)
  | directory
  | link (target : String)
  deriving Repr, DecidableEq

/-- Whether a file stands at a place, be it one that cannot be read. -/
def Entry.isFile : Entry → Bool
  | .file _ | .unreadable _ => true
  | .directory | .link _ => false

/-- The working directory of a process. One that has been removed under the process is kept: nothing
lies in it, but the way up is still there. `lost` counts the names at the end of its place that have
been removed. -/
structure WorkingDirectory where
  place : Place
  lost : Nat := 0
  deriving Repr, DecidableEq

/-- The working directory after what stands at a place has been removed. -/
def WorkingDirectory.afterRemoval (here : WorkingDirectory) (place : Place) : WorkingDirectory :=
  if place.isPrefixOf here.place then
    { here with lost := max here.lost (here.place.length + 1 - place.length) }
  else here

/-- The tree below the root, which is a directory itself, and the working directory. -/
structure Files where
  entries : List (Place × Entry)
  workingDirectory : WorkingDirectory
  deriving Repr, DecidableEq

/-- Where a path leads: to a place, or to a directory that has been removed. -/
inductive Destination
  | place (p : Place)
  | removed
  deriving Repr, DecidableEq

/-- The names that a path text goes through. An empty name stands for a superfluous slash. -/
def namesOfPath (path : String) : List String :=
  (Text.pieces '/' path.toList).map String.ofList

/-- Whether a path starts at the root. -/
def isAbsolute (path : String) : Bool :=
  path.toList.head? == some '/'

/-- Whether a text holds a NUL character, which no path, name of a variable or value can. -/
def holdsNul (text : String) : Bool :=
  '\x00' ∈ text.toList

namespace Files

/-- The greatest number of octets of a name. -/
def maxName : Nat := 255

/-- A path text of this many octets or more is refused. -/
def maxPath : Nat := 4096

/-- The number of links that a path may lead through. -/
def maxLinks : Nat := 40

/-- What stands at a place. -/
def entry? (files : Files) (place : Place) : Option Entry :=
  if place = [] then some .directory else files.entries.lookup place

/-- Walks on from a directory, name by name. `follow` walks on after a link. -/
def walkBy (files : Files) (follow : Place → List String → Except FileReason Place) :
    Place → List String → Except FileReason Place
  | here, [] => .ok here
  | here, name :: rest =>
    if name = "" ∨ name = "." then walkBy files follow here rest
    else if name = ".." then walkBy files follow here.dropLast rest
    else if maxName < (Text.Utf8.encode name).length then .error .nameTooLong
    else match files.entry? (here ++ [name]) with
      | none => .error .missing
      | some .directory => walkBy files follow (here ++ [name]) rest
      | some (.file _) | some (.unreadable _) =>
        if rest = [] then .ok (here ++ [name]) else .error .notADirectory
      | some (.link target) =>
        follow (if isAbsolute target then [] else here) (namesOfPath target ++ rest)

/-- Walks on from a directory through a limited number of links. -/
def walk (files : Files) : Nat → Place → List String → Except FileReason Place
  | 0 => files.walkBy fun _ _ => .error .tooManyLinks
  | links + 1 => files.walkBy (files.walk links)

/-- Walks on from a directory of whose place the last names, `lost` in number, have been removed. -/
def walkFrom (files : Files) (here : Place) : Nat → List String → Except FileReason Destination
  | 0, names => (files.walk maxLinks here names).map .place
  | _ + 1, [] => .ok .removed
  | lost + 1, name :: rest =>
    if name = "" ∨ name = "." then walkFrom files here (lost + 1) rest
    else if name = ".." then walkFrom files here.dropLast lost rest
    else .error .missing

/-- Where a path leads. -/
def resolve (files : Files) (path : String) : Except FileReason Destination :=
  if path = "" then .error .missing
  else if maxPath ≤ (Text.Utf8.encode path).length then .error .nameTooLong
  else if isAbsolute path then files.walkFrom [] 0 (namesOfPath path)
  else files.walkFrom files.workingDirectory.place files.workingDirectory.lost (namesOfPath path)

/-- The content of the file that a path leads to. -/
def read (files : Files) (path : String) : Except FileReason Bytes :=
  match files.resolve path with
  | .error reason => .error reason
  | .ok .removed => .error .isADirectory
  | .ok (.place place) =>
    match files.entry? place with
    | some (.file content) => .ok content
    | some (.unreadable reason) => .error reason
    | some .directory => .error .isADirectory
    | _ => .error .missing

/-- Whether a path leads to a file. That one cannot be read makes no difference. -/
def isFile (files : Files) (path : String) : Bool :=
  match files.resolve path with
  | .ok (.place place) => (files.entry? place).any Entry.isFile
  | _ => false

/-- The place of the working directory, unless that has been removed. -/
def currentPlace? (files : Files) : Option Place :=
  if files.workingDirectory.lost = 0 then some files.workingDirectory.place else none

/-- The path text of a place. -/
def pathOfPlace (place : Place) : String :=
  if place = [] then "/" else String.join (place.map ("/" ++ ·))

/-- A directory and every directory above it, nearest first. -/
def upwards (place : Place) : List Place :=
  (List.range (place.length + 1)).reverse.map place.take

end Files
end AuthRelay
