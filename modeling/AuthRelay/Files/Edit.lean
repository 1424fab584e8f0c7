import AuthRelay.Files.Basic
/-!
# Changing the file tree

What an administrator does to the tree between requests: writing files, making and removing
directories and links, and changing the working directory. All paths are absolute.
-/
namespace AuthRelay.Files

/-- The tree with an entry put at a place. -/
def put (files : Files) (place : Place) (entry : Entry) : Files :=
  { files with entries := (place, entry) :: files.entries.filter (·.1 != place) }

/-- What an edit leaves: the tree, and why the edit failed if it did. -/
structure Edited where
  files : Files
  fault : Option FileFault
  deriving Repr, DecidableEq

/-- What an edit leaves that does everything or nothing. -/
def Edited.ofExcept (files : Files) : Except FileFault Files → Edited
  | .ok changed => ⟨changed, none⟩
  | .error fault => ⟨files, some fault⟩

/-- Whether a path leads to a directory. -/
def isDirectory (files : Files) (path : String) : Bool :=
  match files.resolve path with
  | .ok (.place place) => files.entry? place = some .directory
  | .ok .removed => true
  | .error _ => false

/-- The names of the directory that a path lies in, and its last name. -/
def splitLast (path : String) : List String × Option String :=
  let names := (namesOfPath path).filter (· != "")
  (names.dropLast, names.getLast?)

/-- The place of an entry of a directory that is there. A link at the end is not followed. -/
def placeOfEntry (files : Files) (path : String) : Except FileReason Place := do
  match splitLast path with
  | (_, none) => throw .existing
  | (above, some name) =>
    if maxPath ≤ (Text.Utf8.encode path).length then throw .nameTooLong
    let place ← files.walk maxLinks [] above
    if files.entry? place ≠ some .directory then throw .notADirectory
    if maxName < (Text.Utf8.encode name).length then throw .nameTooLong
    pure (place ++ [name])

/-- The place of an entry that is not there yet. -/
def vacantPlace (files : Files) (path : String) : Except FileReason Place := do
  let place ← files.placeOfEntry path
  if (files.entry? place).isSome then throw .existing
  pure place

/-- Makes a directory, unless it is there. -/
def makeDirectory (files : Files) (path : String) : Edited :=
  match files.vacantPlace path with
  | .ok place => ⟨files.put place .directory, none⟩
  | .error reason =>
    ⟨files, if files.isDirectory path then none else some ⟨reason, [path]⟩⟩

/-- Makes the directory of a path that is given by its names, last one first, and those above it.
A directory above that is taken by something else shows when the one below it is made. -/
def makeDirectoriesAlong (files : Files) : List String → Edited
  | [] => ⟨files, none⟩
  | name :: above =>
    let made : Edited :=
      if (files.resolve (pathOfPlace above.reverse)).isOk then ⟨files, none⟩
      else files.makeDirectoriesAlong above
    if made.fault.all (·.reason = .existing) then
      made.files.makeDirectory (pathOfPlace (name :: above).reverse)
    else made

/-- Makes a directory and those above it. What has been made before a fault stays. -/
def makeDirectories (files : Files) (path : String) : Edited :=
  files.makeDirectoriesAlong ((namesOfPath path).filter (· != "")).reverse

/-- Puts a file where a path leads, in place of the one that is there if there is one. -/
def putFile (files : Files) (path : String) (content : Bytes) : Except FileReason Files := do
  match files.resolve path with
  | .ok (.place place) =>
    if files.entry? place = some .directory then throw .isADirectory
    pure (files.put place (.file content))
  | .ok .removed => throw .isADirectory
  | .error .missing => pure (files.put (← files.placeOfEntry path) (.file content))
  | .error reason => throw reason

/-- Writes a file, making missing directories. -/
def write (files : Files) (path : String) (content : Bytes) : Edited :=
  let made := files.makeDirectoriesAlong (splitLast path).1.reverse
  if made.fault.isSome then made
  else .ofExcept made.files ((made.files.putFile path content).mapError (⟨·, [path]⟩))

/-- The place of a new link. A link must have a target, which need not be there. -/
def placeOfLink (files : Files) (path target : String) : Except FileReason Place := do
  if target = "" then throw .missing
  if maxPath ≤ (Text.Utf8.encode target).length then throw .nameTooLong
  files.vacantPlace path

/-- Makes a symbolic link. -/
def link (files : Files) (path target : String) : Edited := .ofExcept files do
  let place ← (files.placeOfLink path target).mapError (⟨·, [target, path]⟩)
  pure (files.put place (.link target))

/-- Removes an entry and everything below it, the working directory included. -/
def remove (files : Files) (path : String) : Edited := .ofExcept files do
  let place ← (files.placeOfEntry path).mapError (⟨·, [path]⟩)
  if (files.entry? place).isNone then throw ⟨.missing, [path]⟩
  pure {
    entries := files.entries.filter fun entry => !place.isPrefixOf entry.1
    workingDirectory := files.workingDirectory.afterRemoval place }

/-- The place of the directory that a path leads to. -/
def directoryAt (files : Files) (path : String) : Except FileReason WorkingDirectory := do
  match ← files.resolve path with
  | .removed => pure files.workingDirectory
  | .place place =>
    if files.entry? place = some .directory then pure ⟨place, 0⟩ else throw .notADirectory

/-- Changes the working directory. -/
def changeDirectory (files : Files) (path : String) : Edited := .ofExcept files do
  let workingDirectory ← (files.directoryAt path).mapError (⟨·, [path]⟩)
  pure { files with workingDirectory }

/-- Makes a directory, enters it and removes it under the process. -/
def loseDirectory (files : Files) (path : String) : Edited := .ofExcept files do
  let place ← (files.vacantPlace path).mapError (⟨·, [path]⟩)
  pure { files with workingDirectory := ⟨place, 1⟩ }

end AuthRelay.Files
