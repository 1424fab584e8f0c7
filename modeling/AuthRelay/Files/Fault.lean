import AuthRelay.Kind
import AuthRelay.Text.Quoted
/-!
# System faults

Why the operating system refuses a request, with the number and the wording that it gives.
-/
namespace AuthRelay

/-- The reasons for which a request is refused. -/
inductive FileReason
  | missing
  | inputOutput
  | permissionDenied
  | existing
  | notADirectory
  | isADirectory
  | invalidArgument
  | nameTooLong
  | tooManyLinks
  deriving Repr, DecidableEq

namespace FileReason

/-- The number of a reason. -/
def number : FileReason → Nat
  | .missing => 2
  | .inputOutput => 5
  | .permissionDenied => 13
  | .existing => 17
  | .notADirectory => 20
  | .isADirectory => 21
  | .invalidArgument => 22
  | .nameTooLong => 36
  | .tooManyLinks => 40

/-- The wording of a reason. -/
def text : FileReason → String
  | .missing => "No such file or directory"
  | .inputOutput => "Input/output error"
  | .permissionDenied => "Permission denied"
  | .existing => "File exists"
  | .notADirectory => "Not a directory"
  | .isADirectory => "Is a directory"
  | .invalidArgument => "Invalid argument"
  | .nameTooLong => "File name too long"
  | .tooManyLinks => "Too many levels of symbolic links"

/-- The kind of failure that a reason makes. -/
def kind : FileReason → Kind
  | .missing => .missingFile
  | .permissionDenied => .permission
  | .existing => .existingFile
  | .notADirectory => .notADirectory
  | .isADirectory => .isADirectory
  | .inputOutput | .invalidArgument | .nameTooLong | .tooManyLinks => .system

/-- Whatever the reason is, it is the system that refuses. -/
theorem isA_system_kind (reason : FileReason) : reason.kind.isA .system = true := by
  cases reason <;> rfl

end FileReason

/-- A refused request, with the paths that it named: none, one, or a link's target and place. -/
structure FileFault where
  reason : FileReason
  paths : List String := []
  deriving Repr, DecidableEq

/-- The fault of a file that cannot be read. An error of the device shows only after the file has
been opened, and then no path is named any more. -/
def FileFault.ofReading (path : String) (reason : FileReason) : FileFault :=
  ⟨reason, if reason = .inputOutput then [] else [path]⟩

/-- The wording of a file fault. -/
def FileFault.message (f : FileFault) : String :=
  "[Errno " ++ toString f.reason.number ++ "] " ++ f.reason.text ++
    if f.paths = [] then "" else ": " ++ " -> ".intercalate (f.paths.map Text.Quoted.encode)

end AuthRelay
