import AuthRelay.Proofs.PathTexts
import AuthRelay.Proofs.SecretTexts
/-!
# The credentials that an environment holds

Which credentials are read from an environment, told variable by variable. The password is the one
field that may come from a file, and `Password` says when it does and what it is then. A set is read
without changing anything, and without looking at any file but that one.
-/
namespace AuthRelay

namespace FromEnvironment

/-! ## The password -/

/-- The variable for the file of the password names a file: the one that its value comes to. An
empty value names none. -/
def NamesFile (machine : Machine) (stem path : String) : Prop :=
  ∃ text, machine.environment.find? (stem ++ "PASSWORD_FILE") = some text ∧ text ≠ "" ∧
    PathText.ComesTo machine text path

/-- The password, or the fault in its place. It comes from a file only if its variable is not
bound. -/
inductive Password (machine : Machine) (stem : String) : Except Fault String → Prop
  | bound {password : String}
      (hbound : machine.environment.find? (stem ++ "PASSWORD") = some password) :
      Password machine stem (.ok password)
  | unnamed (hunbound : machine.environment.find? (stem ++ "PASSWORD") = none)
      (hname : (machine.environment.find? (stem ++ "PASSWORD_FILE")).getD "" = "") :
      Password machine stem (.ok "")
  | unread {path : String} {reason : FileReason}
      (hunbound : machine.environment.find? (stem ++ "PASSWORD") = none)
      (hname : NamesFile machine stem path) (hpath : holdsNul path = false)
      (hread : machine.files.read path = .error reason) : Password machine stem (.ok "")
  | content {path text password : String}
      (hunbound : machine.environment.find? (stem ++ "PASSWORD") = none)
      (hname : NamesFile machine stem path) (hfile : machine.files.HoldsText path text)
      (hpassword : Text.Stripped (Text.unifyNewlines text.toList) password.toList) :
      Password machine stem (.ok password)
  | undecodable {path : String} {octets : Bytes}
      (hunbound : machine.environment.find? (stem ++ "PASSWORD") = none)
      (hname : NamesFile machine stem path) (hpath : holdsNul path = false)
      (hread : machine.files.read path = .ok octets)
      (htext : ∀ text, octets ≠ Text.Utf8.encode text) :
      Password machine stem (.error (.text .undecodable))
  | unopenable {path : String}
      (hunbound : machine.environment.find? (stem ++ "PASSWORD") = none)
      (hname : NamesFile machine stem path) (hpath : holdsNul path = true) :
      Password machine stem (.error .embeddedNul)

theorem fileVariable_eq (stem : String) : fileVariable stem = stem ++ "PASSWORD_FILE" := by
  rw [fileVariable, variableOf, String.append_assoc]
  rfl

section

variable {machine : Machine} {stem path : String}

theorem pathText?_fileVariable (machine : Machine) (stem : String) :
    Resolver.pathText? machine.environment none (some (fileVariable stem)) =
      (machine.environment.find? (stem ++ "PASSWORD_FILE")).filter (· ≠ "") := by
  have hne : stem ++ "PASSWORD_FILE" ≠ "" := by
    rw [Ne, String.append_eq_empty_iff]
    exact fun h => absurd h.2 (by decide)
  rw [fileVariable_eq, Resolver.pathText?, Option.none_or, Resolver.binding?, if_neg hne,
    Option.map_map]
  cases machine.environment.find? (stem ++ "PASSWORD_FILE") <;> rfl

theorem namesFile_iff_opens : NamesFile machine stem path ↔
    Resolver.Opens machine none (some (fileVariable stem)) path := by
  simp only [NamesFile, Resolver.Opens, pathText?_fileVariable, Option.filter_eq_some_iff,
    decide_eq_true_eq, and_assoc]

/-- The variable names a file, or it is unbound or empty. -/
theorem namesFile_or_empty (machine : Machine) (stem : String) :
    (∃ path, NamesFile machine stem path) ∨
      (machine.environment.find? (stem ++ "PASSWORD_FILE")).getD "" = "" := by
  cases htext : machine.environment.find? (stem ++ "PASSWORD_FILE") with
  | none => exact .inr rfl
  | some text =>
    by_cases hempty : text = ""
    · exact .inr hempty
    · exact .inl ⟨_, text, htext, hempty, PathText.comesTo_iff.mpr rfl⟩

/-- What the search for the password comes to in the file that is named for it. -/
theorem NamesFile.orFile_result (h : NamesFile machine stem path) (level : Level) :
    (orFile stem none level machine).result =
      match Resolver.readSecret machine.files path with
      | .ok secret => .ok (some secret)
      | .error (.secretFile _) => .ok none
      | .error fault => .error fault := by
  rw [orFile, Resolver.resolveFromFile_result, (namesFile_iff_opens.mp h).search_eq]
  rfl

/-- What is come to for the password, with an empty text for one that is not found. -/
theorem Password.orFile_result {found : Except Fault String} (h : Password machine stem found)
    (level : Level) :
    (orFile stem (machine.environment.find? (stem ++ "PASSWORD")) level machine).result.map
      (·.getD "") = found := by
  cases h with
  | bound hbound =>
    rw [hbound]
    rfl
  | unnamed hunbound hname =>
    rw [hunbound, orFile, Resolver.resolveFromFile_result, Resolver.search, pathText?_fileVariable]
    cases htext : machine.environment.find? (stem ++ "PASSWORD_FILE") with
    | none => rfl
    | some text =>
      rw [htext] at hname
      obtain rfl : text = "" := hname
      rfl
  | unread hunbound hname hpath hread =>
    obtain ⟨cause, hsecret⟩ := Resolver.readSecret_of_unreadable hpath hread
    rw [hunbound, hname.orFile_result, hsecret]
    rfl
  | content hunbound hname hfile hpassword =>
    rw [hunbound, hname.orFile_result, Resolver.readSecret_of_holdsText hfile hpassword]
    rfl
  | undecodable hunbound hname hpath hread htext =>
    have hgarbled := Resolver.Garbled.content hpath hread (Text.Utf8.decode?_eq_none_iff.mpr htext)
    rw [hunbound, hname.orFile_result, hgarbled.readSecret]
    rfl
  | unopenable hunbound hname hpath =>
    rw [hunbound, hname.orFile_result, (Resolver.Garbled.path hpath).readSecret]
    rfl

theorem exists_password (machine : Machine) (stem : String) :
    ∃ found, Password machine stem found := by
  cases hpassword : machine.environment.find? (stem ++ "PASSWORD") with
  | some password => exact ⟨_, .bound hpassword⟩
  | none =>
    obtain ⟨path, hname⟩ | hempty := namesFile_or_empty machine stem
    · cases hpath : holdsNul path with
      | true => exact ⟨_, .unopenable hpassword hname hpath⟩
      | false =>
        cases hread : machine.files.read path with
        | error reason => exact ⟨_, .unread hpassword hname hpath hread⟩
        | ok octets =>
          by_cases htext : ∃ text, octets = Text.Utf8.encode text
          · obtain ⟨text, rfl⟩ := htext
            refine ⟨.ok (String.ofList (Text.trim (Text.unifyNewlines text.toList))),
              .content hpassword hname ⟨hpath, hread⟩ ?_⟩
            rw [String.toList_ofList]
            exact Text.stripped_trim _
          · exact ⟨_, .undecodable hpassword hname hpath hread fun text h => htext ⟨text, h⟩⟩
    · exact ⟨_, .unnamed hpassword hempty⟩

/-- There is one password, or one fault in its place. -/
theorem existsUnique_password (machine : Machine) (stem : String) :
    ∃! found, Password machine stem found := by
  obtain ⟨found, hfound⟩ := exists_password machine stem
  refine ⟨found, hfound, fun other hother => ?_⟩
  rw [← hother.orFile_result .error, ← hfound.orFile_result .error]

/-- A path with a NUL character is opened only on a machine with one in a variable or in a home
directory. -/
theorem Password.ne_embeddedNul (hclean : machine.NulFree) :
    ¬Password machine stem (.error .embeddedNul) := by
  intro h
  cases h with
  | unopenable hunbound hname hpath =>
    obtain ⟨text, htext, -, hcomes⟩ := hname
    have hnul := hclean.holdsNul_of_comesTo hcomes (hclean.1 _ (Table.mem_of_find? htext))
    rw [hpath] at hnul
    cases hnul

/-! ## The set -/

/-- The set that the other variables and a password make. An unbound variable counts as empty. -/
def withPassword (environment : Environment) (stem password : String) : CredentialSet where
  username := (environment.find? (stem ++ "USERNAME")).getD ""
  password := password
  auth := (environment.find? (stem ++ "AUTH")).getD ""
  registryToken := (environment.find? (stem ++ "TOKEN")).getD ""

/-- The failure of a reading that needs a value and finds none. -/
def notFound (stem : String) : Fault :=
  .environmentEmpty stem (stem ++ "USERNAME")

theorem Password.credentials_result {found : Except Fault String}
    (h : Password machine stem found) (required : Bool) (level : Level) :
    (credentials stem required level machine).result = found.bind fun password =>
      if withPassword machine.environment stem password = {} ∧ required = true then
        .error (notFound stem)
      else .ok (withPassword machine.environment stem password) := by
  rw [FromEnvironment.credentials_result, ← h.orFile_result level]
  show Except.bind (orFile stem (machine.environment.find? (stem ++ "PASSWORD")) level
    machine).result _ = _
  cases (orFile stem (machine.environment.find? (stem ++ "PASSWORD")) level machine).result <;> rfl

/-- A fault in place of the password is not taken for a missing credential. -/
theorem Password.kind_ne {fault : Fault} (h : Password machine stem (.error fault)) :
    fault.kind ≠ .credentialNotFound := by
  cases h <;> decide

theorem Password.not_found_iff {found : Except Fault String} (h : Password machine stem found)
    {required : Bool} {level : Level} {fault : Fault} :
    (credentials stem required level machine).result = .error fault ∧
        fault.kind = .credentialNotFound ↔
      fault = notFound stem ∧ required = true ∧ found = .ok "" ∧
        withPassword machine.environment stem "" = {} := by
  rw [h.credentials_result]
  cases found with
  | error cause =>
    simp only [Except.bind]
    refine iff_of_false ?_ (by simp)
    rintro ⟨hfault, hkind⟩
    cases hfault
    exact h.kind_ne hkind
  | ok password =>
    simp only [Except.bind]
    constructor
    · rintro ⟨hfault, hkind⟩
      split at hfault
      next hmissing =>
        cases hfault
        -- the password is a part of the set, so it is empty too
        obtain rfl : password = "" := congrArg CredentialSet.password hmissing.1
        exact ⟨rfl, hmissing.2, rfl, hmissing.1⟩
      next => cases hfault
    · rintro ⟨rfl, hrequired, hpassword, hempty⟩
      cases hpassword
      rw [if_pos ⟨hempty, hrequired⟩]
      exact ⟨rfl, rfl⟩

/-! ## What is looked at -/

/-- A machine, and the same machine with other files. -/
def Refiled (machine : Machine) (files : Files) (s t : Machine) : Prop :=
  s = machine ∧ t = { machine with files }

section

variable {files : Files}

theorem resolve_refiled (value name fallback : Option String) (required : Bool) :
    Act.Alike (Refiled machine files) some (Resolver.resolve value name fallback required)
      (Resolver.resolve value name fallback required) := by
  refine .get_bind ?_
  rintro _ _ ⟨rfl, rfl⟩
  dsimp only
  split
  · exact .bind (.log _ _ _) fun _ => .pure _
  · exact .ite (.fail _) (.pure _)

theorem expandedPath_withFiles (machine : Machine) (files : Files) (text : String) :
    Resolver.expandedPath { machine with files } text = Resolver.expandedPath machine text :=
  rfl

theorem secretPath_refiled (path name : Option String) :
    Act.Alike (Refiled machine files) some (Resolver.secretPath path name)
      (Resolver.secretPath path name) := by
  unfold Resolver.secretPath
  cases path with
  | some path => exact .pure _
  | none =>
    cases name with
    | none => exact .pure _
    | some name => exact .ite (.pure _) (resolve_refiled _ _ _ _)

/-- The search for an optional secret looks at the file that it opens and at no other. -/
theorem resolveFromFile_refiled {name : Option String}
    (h : ∀ path, Resolver.Opens machine none name path →
      files.read path = machine.files.read path) :
    Act.Alike (Refiled machine files) some (Resolver.resolveFromFile none name false)
      (Resolver.resolveFromFile none name false) := by
  rintro level machine _ ⟨rfl, rfl⟩
  refine (secretPath_refiled none name level _ _ ⟨rfl, rfl⟩).bind_of_result fun found hfound => ?_
  rw [Resolver.secretPath_result] at hfound
  cases hfound
  dsimp only
  split
  next => exact .pure _
  next text htext =>
    refine .get_bind ?_
    rintro machine _ ⟨rfl, rfl⟩
    have hread : Resolver.readSecret files (Resolver.expandedPath machine text) =
        Resolver.readSecret machine.files (Resolver.expandedPath machine text) := by
      rw [Resolver.readSecret, Resolver.readSecret, h _ ⟨text, htext, PathText.comesTo_iff.mpr rfl⟩]
    dsimp only
    rw [expandedPath_withFiles machine files, hread]
    split
    · exact .bind (.log _ _ _) fun _ => .pure _
    · exact .bind (.log _ _ _) fun _ => .pure _
    · exact .fail _

theorem credentials_refiled (required : Bool)
    (h : machine.environment.find? (stem ++ "PASSWORD") = none →
      ∀ path, NamesFile machine stem path → files.read path = machine.files.read path) :
    Act.Alike (Refiled machine files) some (credentials stem required)
      (credentials stem required) := by
  refine .bind (resolve_refiled _ _ _ _) fun username => ?_
  rintro level machine _ ⟨rfl, rfl⟩
  refine (resolve_refiled _ _ _ _ level _ _ ⟨rfl, rfl⟩).bind_of_result fun password hpassword => ?_
  refine .bind (resolve_refiled _ _ _ _) fun auth => ?_
  refine .bind (resolve_refiled _ _ _ _) fun registryToken => ?_
  refine .bind ?_ fun found => ?_
  · rw [← resolveField, resolveField_result] at hpassword
    cases hpassword
    dsimp only
    cases hbound : machine.environment.find? (variableOf stem .password) with
    | some password => exact .pure _
    | none =>
      exact resolveFromFile_refiled fun path hopens =>
        h hbound path (namesFile_iff_opens.mpr hopens)
  · refine .ite (.ite ?_ ?_) (.pure _)
    · exact .bind (.fail _) fun _ => .bind (.log _ _ _) fun _ => .pure _
    · exact .bind (.log _ _ _) fun _ => .pure _

end

/-- With other files the same is read, unless the file that is named for the password is another. -/
theorem credentials_withFiles (required : Bool)
    (h : machine.environment.find? (stem ++ "PASSWORD") = none →
      ∀ path, NamesFile machine stem path → files.read path = machine.files.read path)
    (level : Level) : credentials stem required level { machine with files } =
      { credentials stem required level machine with state := { machine with files } } := by
  obtain ⟨hresult, ⟨-, hstate⟩, hjournal⟩ := credentials_refiled required h level _ _ ⟨rfl, rfl⟩
  rw [List.filterMap_some, List.filterMap_some] at hjournal
  exact (Outcome.mk.injEq ..).mpr ⟨hresult.symm, hstate, hjournal.symm⟩

end

/-- What is read is the set of the variables and of the one password there is, unless that one is a
fault, which is passed on, or the set is empty though credentials are required. That failure names
the variable of the user name, and no other one is of its kind. Nothing is changed, and no file is
looked at but the one that is named for the password, and that one only if the password's own
variable is not bound. -/
theorem credentials_exactly (machine : Machine) (stem : String) (required : Bool) (level : Level) :
    (∃! found, Password machine stem found) ∧
    (machine.NulFree → ¬Password machine stem (.error .embeddedNul)) ∧
    (∀ found, Password machine stem found →
      (credentials stem required level machine).result = found.bind fun password =>
        if withPassword machine.environment stem password = {} ∧ required = true then
          .error (notFound stem)
        else .ok (withPassword machine.environment stem password)) ∧
    ((notFound stem).kind = .credentialNotFound ∧
      (notFound stem).soughtVariable? = some (stem ++ "USERNAME")) ∧
    (∀ fault, (credentials stem required level machine).result = .error fault ∧
        fault.kind = .credentialNotFound ↔
      fault = notFound stem ∧ required = true ∧ Password machine stem (.ok "") ∧
        withPassword machine.environment stem "" = {}) ∧
    (credentials stem required level machine).state = machine ∧
    ∀ files : Files,
      (machine.environment.find? (stem ++ "PASSWORD") = none →
        ∀ path, NamesFile machine stem path → files.read path = machine.files.read path) →
      credentials stem required level { machine with files } =
        { credentials stem required level machine with state := { machine with files } } := by
  have hunique := existsUnique_password machine stem
  refine ⟨hunique, Password.ne_embeddedNul, fun found h => h.credentials_result required level,
    ⟨rfl, rfl⟩, fun fault => ?_, (credentials_looks stem required).state level machine,
    fun files h => credentials_withFiles required h level⟩
  obtain ⟨found, hfound, honly⟩ := hunique
  rw [hfound.not_found_iff]
  constructor
  · rintro ⟨hfault, hrequired, rfl, hempty⟩
    exact ⟨hfault, hrequired, hfound, hempty⟩
  · rintro ⟨hfault, hrequired, hpassword, hempty⟩
    exact ⟨hfault, hrequired, (honly _ hpassword).symm, hempty⟩

/-- A user whose password stands in a file of the home directory, which a variable holds the tilde
for, and a second file. -/
def withPasswordFile (other : Bytes) : Machine where
  environment := [("HOME", "/home/u/"), ("H", "~"), ("N", "pw"), ("P_USERNAME", "u"),
    ("P_PASSWORD_FILE", "$H/$\x7bN\x7d")]
  files := ⟨[(["home"], .directory), (["home", "u"], .directory),
    (["home", "u", "pw"], .file (Text.Utf8.encode " p\r\nq\n")), (["f"], .file other)], ⟨[], 0⟩⟩

theorem credentials_exactly_password_file :
    (withPasswordFile []).NulFree ∧
    ¬Password (withPasswordFile []) "P_" (.error .embeddedNul) ∧
    (credentials "P_" true .error (withPasswordFile [])).result =
      .ok { username := "u", password := "p\nq" } ∧
    (credentials "P_" true .error (withPasswordFile [0xFF])).result =
      .ok { username := "u", password := "p\nq" } := by
  obtain ⟨-, hclean, hresult, -, -, -, hfiles⟩ :=
    credentials_exactly (withPasswordFile []) "P_" true .error
  have hname : NamesFile (withPasswordFile []) "P_" "/home/u/pw" :=
    ⟨"$H/$\x7bN\x7d", rfl, by decide, PathText.comesTo_iff.mpr (by decide)⟩
  have hpassword : Password (withPasswordFile []) "P_" (.ok "p\nq") :=
    .content rfl hname ⟨by decide, rfl⟩ (Text.trim_eq_iff.mp (by decide))
  have hset := hresult _ hpassword
  have hsame := hfiles (withPasswordFile [0xFF]).files fun _ path hpath => ?_
  · refine ⟨by decide, hclean (by decide), hset, ?_⟩
    exact (congrArg Outcome.result hsame).trans hset
  · obtain ⟨text, htext, -, hcomes⟩ := hpath
    cases htext
    obtain rfl := PathText.comesTo_iff.mp hcomes
    decide

end FromEnvironment
end AuthRelay
