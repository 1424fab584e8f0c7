import AuthRelay.ContentType
import AuthRelay.Files.Fault
import AuthRelay.Response.Basic
import AuthRelay.Url.Basic
/-!
# Faults

Everything that can go wrong, by cause. `Fault.message` words a fault and `Fault.kind` places it
among the kinds of failure.
-/
namespace AuthRelay

/-- Why no path to a secret file was at hand, or why the file gave no secret. -/
inductive SecretFileFault
  | noPath (variableName : Option String)
  | missing (path : String)
  | unreadable (path : String) (cause : FileFault)
  deriving Repr, DecidableEq

/-- A cause of failure. -/
inductive Fault
  /-- A collaborator failed in its own words. -/
  | given (g : Given)
  /-- A required value has no source. -/
  | valueMissing (variableName : Option String)
  /-- No variable with the given stem yields a credential. -/
  | environmentEmpty (stem variableName : String)
  /-- A required secret file yields nothing. -/
  | secretFile (cause : SecretFileFault)
  /-- A source of the given class has no candidates. -/
  | noCandidates (source : String)
  /-- The response is a rejection of the given kind; the text is the beginning of its body. -/
  | rejected (kind : Kind) (response : Response) (text : String)
  /-- A text and a header list do not go together. -/
  | text (cause : TextFault)
  /-- A text is not a URL. -/
  | url (cause : UrlFault)
  /-- The content type of a body leaves open in which encoding it is. -/
  | contentType (cause : ContentTypeFault)
  /-- A codec of the runtime failed. -/
  | codec (cause : CodecFault)
  /-- The text of a body was asked for before the body was read. -/
  | bodyUnread
  /-- A body was drawn for a second time. -/
  | streamConsumed
  /-- A body was drawn after its stream had been closed. -/
  | streamClosed
  /-- A path, a variable's name or its value holds a NUL character. -/
  | embeddedNul
  /-- A variable's name holds an equals sign. -/
  | illegalVariable
  /-- The file system refused a request. -/
  | file (cause : FileFault)
  /-- A field of a credential set was assigned to. -/
  | frozenField (name : String)
  /-- A source of the given class does not answer the query. -/
  | missingQuery (source query : String)
  /-- A list from which one element after another is given, the last one for ever, is empty. -/
  | nothingToGive
  /-- No object goes by the name. -/
  | unknownName (name : String)
  deriving Repr, DecidableEq

/-- A remark in parentheses about a variable, if a name is given. -/
def variableRemark (name : Option String) (opening closing : String) : String :=
  match name with
  | some name => if name = "" then "" else " (" ++ opening ++ name ++ closing ++ ")"
  | none => ""

/-- The wording of a secret file fault. -/
def SecretFileFault.message : SecretFileFault → String
  | .noPath name => "No file path provided for credential resolution" ++
      variableRemark name "env var '" "' not set"
  | .missing path => "Credential file not found: " ++ path
  | .unreadable path cause => "Error reading credential file " ++ path ++ ": " ++ cause.message

namespace Fault

/-- The wording of a fault. -/
def message : Fault → String
  | .given g => g.message
  | .valueMissing name => "Required credential not found" ++
      variableRemark name "checked env var: " ""
  | .environmentEmpty stem _ =>
      "No credentials found in environment (prefix '" ++ stem ++ "')"
  | .secretFile cause => cause.message
  | .noCandidates source => "Credential source " ++ source ++ " returned no candidates"
  | .rejected _ response shown =>
      "HTTP " ++ toString response.status ++ if shown = "" then "" else ": " ++ shown
  | .text .unencodable => "text cannot be encoded"
  | .text .undecodable => "octets cannot be decoded"
  | .url cause => cause.message
  | .contentType cause => cause.message
  | .codec cause => cause.message
  | .bodyUnread =>
      "Attempted to access streaming response content, without having called `read()`."
  | .streamConsumed => "Attempted to read or stream some content, but the content has already " ++
      "been streamed. For requests, this could be due to passing a generator as request " ++
      "content, and then receiving a redirect response or a secondary request as part of an " ++
      "authentication flow.For responses, this could be due to attempting to stream the " ++
      "response content more than once."
  | .streamClosed =>
      "Attempted to read or stream content, but the stream has been closed."
  | .embeddedNul => "embedded null byte"
  | .illegalVariable => "illegal environment variable name"
  | .file cause => cause.message
  | .frozenField name => "cannot assign to field " ++ Text.Quoted.encode name
  | .missingQuery source query =>
      "'" ++ source ++ "' object has no attribute '" ++ query ++ "'"
  | .nothingToGive => "list index out of range"
  | .unknownName name => Text.Quoted.encode name

/-- The kind of a fault. -/
def kind : Fault → Kind
  | .given g => g.kind
  | .valueMissing _ | .environmentEmpty _ _ => .credentialNotFound
  | .secretFile _ => .credentialFile
  | .noCandidates _ => .noCredentials
  | .rejected kind _ _ => kind
  | .text .unencodable => .unencodable
  | .text .undecodable => .undecodable
  | .url _ => .invalidUrl
  | .contentType (.mixedSections _) => .incomparable
  | .contentType _ => .value
  | .codec cause => cause.kind
  | .bodyUnread => .bodyUnread
  | .streamConsumed => .streamConsumed
  | .streamClosed => .streamClosed
  | .embeddedNul | .illegalVariable => .value
  | .file cause => cause.reason.kind
  | .frozenField _ => .frozenField
  | .missingQuery _ _ => .missingQuery
  | .nothingToGive => .outOfRange
  | .unknownName _ => .unknownName

/-- The variable that a missing credential was looked for in. -/
def soughtVariable? : Fault → Option String
  | .given g => g.variableName
  | .valueMissing name => name
  | .environmentEmpty _ name => some name
  | _ => none

/-- The status of the response that a fault is about. -/
def status? : Fault → Option Int
  | .given g => g.status
  | .rejected _ response _ => some response.status
  | _ => none

/-- The response that a fault is about. -/
def response? : Fault → Option Response
  | .rejected _ response _ => some response
  | _ => none

end Fault
end AuthRelay
