import AuthRelay.Proofs.SecretFiles
import AuthRelay.Text.Stripped
import AuthRelay.Text.Utf8.Lemmas
/-!
# The text of a secret file

What a file gives for a secret, told from the text that it holds: the text between the blanks around
it, with its line ends unified. So a secret is read back as it was written, whatever blanks stand
around it, exactly if there is no carriage return in it.
-/
namespace AuthRelay

/-- A path that a file can have leads to one that holds the octets of a text. -/
def Files.HoldsText (files : Files) (path text : String) : Prop :=
  holdsNul path = false ∧ files.read path = .ok (Text.Utf8.encode text)

namespace Resolver

/-! ## What is read of a file -/

section

variable {files : Files} {path : String}

theorem readSecret_of_readable {octets : Bytes} (hnul : holdsNul path = false)
    (hread : files.read path = .ok octets) :
    readSecret files path =
      match Text.Utf8.decode? octets with
      | none => .error (.text .undecodable)
      | some text => .ok (String.ofList (Text.trim (Text.unifyNewlines text.toList))) := by
  cases hdecoded : Text.Utf8.decode? octets <;> simp [readSecret, hnul, hread, hdecoded]

/-- A file that the system does not let one read is a reason why there is no secret. -/
theorem readSecret_of_unreadable {reason : FileReason} (hnul : holdsNul path = false)
    (hread : files.read path = .error reason) :
    ∃ cause, readSecret files path = .error (.secretFile cause) := by
  rw [readSecret, hnul, if_neg Bool.false_ne_true, hread]
  cases reason <;> exact ⟨_, rfl⟩

/-- A text is read without the blanks around it, and with its line ends unified. -/
theorem readSecret_of_holdsText {text secret : String} (h : files.HoldsText path text)
    (hsecret : Text.Stripped (Text.unifyNewlines text.toList) secret.toList) :
    readSecret files path = .ok secret := by
  rw [readSecret_of_readable h.1 h.2, Text.Utf8.decode?_encode]
  dsimp only
  rw [hsecret.trim_eq, String.ofList_toList]

end

section

variable {machine : Machine} {path name : Option String} {opened : String}

/-- A secret with blanks around it is read with its line ends unified and otherwise as it was
written. -/
theorem search_padded {p s q : String} (hopens : Opens machine path name opened)
    (hfile : machine.files.HoldsText opened (p ++ s ++ q)) (hp : Text.AllBlank p.toList)
    (hq : Text.AllBlank q.toList) (hs : Text.IsTrimmed s.toList) :
    search machine path name = .ok (String.ofList (Text.unifyNewlines s.toList)) := by
  have hpadded : Text.Stripped (p ++ s ++ q).toList s.toList := by
    rw [String.toList_append, String.toList_append]
    exact ⟨hs, p.toList, q.toList, hp, hq, rfl⟩
  rw [hopens.search_eq]
  refine readSecret_of_holdsText hfile ?_
  rw [String.toList_ofList]
  exact hpadded.unifyNewlines

/-- Unifying line ends leaves a text alone exactly if there is no carriage return in it. -/
theorem ofList_unifyNewlines_eq_iff {s : String} :
    String.ofList (Text.unifyNewlines s.toList) = s ↔ '\r' ∉ s.toList := by
  rw [← Text.unifyNewlines_eq_self_iff]
  constructor
  · intro h
    have hchars := congrArg String.toList h
    rwa [String.toList_ofList] at hchars
  · intro h
    rw [h, String.ofList_toList]

/-- A secret that neither begins nor ends with a blank is read back from a file in which it stands
between blanks, with each of its line ends turned into a line feed. So what is read is the secret
exactly if there is no carriage return in it. -/
theorem secret_read_back_iff {p s q : String} (hopens : Opens machine path name opened)
    (hfile : machine.files.HoldsText opened (p ++ s ++ q)) (hp : Text.AllBlank p.toList)
    (hq : Text.AllBlank q.toList) (hs : Text.IsTrimmed s.toList) (required : Bool)
    (level : Level) :
    (resolveFromFile path name required level machine).result =
        .ok (some (String.ofList (Text.unifyNewlines s.toList))) ∧
    ((resolveFromFile path name required level machine).result = .ok (some s) ↔
      '\r' ∉ s.toList) := by
  have hsearch := search_padded hopens hfile hp hq hs
  refine ⟨(resolveFromFile_eq_some_iff required level _).mpr hsearch, ?_⟩
  rw [resolveFromFile_eq_some_iff, hsearch, Except.ok.injEq, ofList_unifyNewlines_eq_iff]

end

/-- A machine with a file in the root directory, the working directory. -/
def withSecret (text : String) : Machine where
  environment := []
  files := ⟨[(["f"], .file (Text.Utf8.encode text))], ⟨[], 0⟩⟩

/-- Two words with a line end between them, and with blanks of several kinds around them, come
back as they were. -/
theorem secret_read_back_iff_two_words :
    Opens (withSecret " \r\n\u2003pä\n\tss\u0085\n") (some "f") none "f" ∧
    (resolveFromFile (some "f") none true .error
      (withSecret " \r\n\u2003pä\n\tss\u0085\n")).result = .ok (some "pä\n\tss") := by
  have hopens : Opens (withSecret " \r\n\u2003pä\n\tss\u0085\n") (some "f") none "f" :=
    ⟨"f", rfl, PathText.comesTo_iff.mpr (by decide)⟩
  have hfile : (withSecret " \r\n\u2003pä\n\tss\u0085\n").files.HoldsText "f"
      (" \r\n\u2003" ++ "pä\n\tss" ++ "\u0085\n") := ⟨by decide, rfl⟩
  have hread := secret_read_back_iff hopens hfile (by decide) (by decide) (by decide) true .error
  exact ⟨hopens, hread.2.mpr (by decide)⟩

/-- A carriage return in a secret does not come back. -/
theorem carriage_return_lost :
    Text.IsTrimmed "a\rb".toList ∧
    Opens (withSecret "a\rb") (some "f") none "f" ∧
    (withSecret "a\rb").files.HoldsText "f" ("" ++ "a\rb" ++ "") ∧
    (resolveFromFile (some "f") none false .error (withSecret "a\rb")).result =
      .ok (some "a\nb") ∧
    (resolveFromFile (some "f") none false .error (withSecret "a\rb")).result ≠
      .ok (some "a\rb") :=
  ⟨by decide, ⟨"f", rfl, PathText.comesTo_iff.mpr (by decide)⟩, ⟨by decide, rfl⟩, rfl, by decide⟩

end Resolver
end AuthRelay
