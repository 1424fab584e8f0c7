import AuthRelay.Credential.FromEnvironment
import AuthRelay.Proofs.PathGrammar
import AuthRelay.Proofs.Session.Machine
/-!
# Secrets in files

The search for a secret in a file comes to the secret, or to a reason why there is none: no path, no
file, or a file that the system does not let one read. Such a reason is a failure only if the secret
is required. But a path with a NUL character in it and a content that is not UTF-8 are failures
always, and of another kind.
-/
namespace AuthRelay

namespace Resolver

/-! ## The search for a secret -/

/-- The path text to start from: the one that is given, else the value of the variable. An empty one
counts as none. -/
def pathText? (environment : Environment) (path name : Option String) : Option String :=
  (path.or ((binding? environment name).map Prod.snd)).filter (· ≠ "")

/-- The secret that a file search comes to, or the reason why it comes to none. -/
def search (machine : Machine) (path name : Option String) : Except Fault String :=
  match pathText? machine.environment path name with
  | none => .error (.secretFile (.noPath name))
  | some text => readSecret machine.files (expandedPath machine text)

/-- The path that a file search opens, if it opens one at all. -/
def Opens (machine : Machine) (path name : Option String) (opened : String) : Prop :=
  ∃ text, pathText? machine.environment path name = some text ∧
    PathText.ComesTo machine text opened

theorem Opens.search_eq {machine : Machine} {path name : Option String} {opened : String}
    (h : Opens machine path name opened) :
    search machine path name = readSecret machine.files opened := by
  obtain ⟨text, htext, hopened⟩ := h
  rw [search, htext, ← PathText.comesTo_iff.mp hopened]

/-- A search opens one path, unless there is no path text to start from. -/
theorem exists_opens_or_none (machine : Machine) (path name : Option String) :
    (∃ opened, Opens machine path name opened) ∨
      search machine path name = .error (.secretFile (.noPath name)) := by
  unfold search Opens
  cases pathText? machine.environment path name with
  | none => exact .inr rfl
  | some text => exact .inl ⟨_, text, rfl, PathText.comesTo_iff.mpr rfl⟩

theorem resolve_result (value name fallback : Option String) (required : Bool) (level : Level)
    (machine : Machine) :
    (resolve value name fallback required level machine).result =
      match origin? machine.environment value name fallback with
      | some (value, _) => .ok (some value)
      | none => if required then .error (.valueMissing name) else .ok none := by
  rw [resolve, Act.get_bind_run]
  cases origin? machine.environment value name fallback with
  | some found => rfl
  | none => cases required <;> rfl

theorem secretPath_result (path name : Option String) (level : Level) (machine : Machine) :
    (secretPath path name level machine).result =
      .ok (path.or ((binding? machine.environment name).map Prod.snd)) := by
  cases path with
  | some path => rfl
  | none =>
    cases name with
    | none => rfl
    | some name =>
      by_cases hname : name = ""
      · subst hname
        rfl
      · rw [secretPath, if_neg hname, resolve_result]
        simp only [origin?]
        cases binding? machine.environment (some name) <;> rfl

/-- A file search comes to the secret. A reason why there is none is passed on if the secret is
required, and any other fault always. -/
theorem resolveFromFile_result (path name : Option String) (required : Bool) (level : Level)
    (machine : Machine) :
    (resolveFromFile path name required level machine).result =
      match search machine path name with
      | .ok secret => .ok (some secret)
      | .error (.secretFile cause) => if required then .error (.secretFile cause) else .ok none
      | .error fault => .error fault := by
  rw [resolveFromFile, (secretPath_looks path name).bind_result, secretPath_result]
  simp only [Except.bind, search, pathText?]
  cases (path.or ((binding? machine.environment name).map Prod.snd)).filter (· ≠ "") with
  | none => cases required <;> rfl
  | some text =>
    dsimp only
    rw [Act.get_bind_run]
    cases readSecret machine.files (expandedPath machine text) with
    | ok secret => rfl
    | error fault =>
      cases fault with
      | secretFile cause => cases required <;> rfl
      | _ => rfl

/-! ## Files that hold no text -/

/-- A path that no file can have, or one to a file that can be read but is not UTF-8, with the fault
that it makes. -/
inductive Garbled (files : Files) (path : String) : Fault → Prop
  | path (hnul : holdsNul path = true) : Garbled files path .embeddedNul
  | content {octets : Bytes} (hpath : holdsNul path = false)
      (hread : files.read path = .ok octets) (htext : Text.Utf8.decode? octets = none) :
      Garbled files path (.text .undecodable)

theorem Garbled.readSecret {files : Files} {path : String} {fault : Fault}
    (h : Garbled files path fault) : readSecret files path = .error fault := by
  cases h with
  | path hnul => rw [Resolver.readSecret, if_pos hnul]
  | content hpath hread htext =>
    simp only [Resolver.readSecret, hpath, hread, htext, Bool.false_eq_true, if_false]

theorem Garbled.kind {files : Files} {path : String} {fault : Fault}
    (h : Garbled files path fault) : fault.kind.isA .value = true := by
  cases h <;> decide

/-- A file that gives no secret is missing, or unreadable, or not one with a text. -/
theorem readSecret_eq_error {files : Files} {path : String} {fault : Fault}
    (h : readSecret files path = .error fault) :
    (∃ cause, fault = .secretFile cause) ∨ Garbled files path fault := by
  rw [readSecret] at h
  by_cases hnul : holdsNul path = true
  · rw [if_pos hnul] at h
    cases h
    exact .inr (.path hnul)
  · rw [if_neg hnul] at h
    cases hread : files.read path with
    | error reason =>
      rw [hread] at h
      cases reason <;> cases h <;> exact .inl ⟨_, rfl⟩
    | ok octets =>
      rw [hread] at h
      cases htext : Text.Utf8.decode? octets with
      | some text =>
        simp only [htext] at h
        cases h
      | none =>
        simp only [htext] at h
        cases h
        exact .inr (.content ((Bool.not_eq_true _).mp hnul) hread htext)

/-- A search that opens a path of that sort trips over it, with that fault. -/
def Trips (machine : Machine) (path name : Option String) (fault : Fault) : Prop :=
  ∃ opened, Opens machine path name opened ∧ Garbled machine.files opened fault

section

variable {machine : Machine} {path name : Option String} {fault : Fault}

theorem Trips.search_eq (h : Trips machine path name fault) :
    search machine path name = .error fault := by
  obtain ⟨opened, hopens, hgarbled⟩ := h
  rw [hopens.search_eq, hgarbled.readSecret]

theorem Trips.kind (h : Trips machine path name fault) : fault.kind.isA .value = true := by
  obtain ⟨opened, -, hgarbled⟩ := h
  exact hgarbled.kind

theorem Trips.kind_ne (h : Trips machine path name fault) {k : Kind}
    (hk : k.isA .value = false) : fault.kind ≠ k := by
  rintro rfl
  rw [h.kind] at hk
  cases hk

/-- A search comes to a secret, or to a reason why there is none, or it trips. -/
theorem search_cases (machine : Machine) (path name : Option String) :
    (∃ secret, search machine path name = .ok secret) ∨
      (∃ cause, search machine path name = .error (.secretFile cause)) ∨
      ∃ fault, Trips machine path name fault := by
  obtain ⟨opened, hopens⟩ | hnone := exists_opens_or_none machine path name
  · rw [hopens.search_eq]
    cases hread : readSecret machine.files opened with
    | ok secret => exact .inl ⟨secret, rfl⟩
    | error fault =>
      obtain ⟨cause, rfl⟩ | hgarbled := readSecret_eq_error hread
      · exact .inr (.inl ⟨cause, rfl⟩)
      · exact .inr (.inr ⟨fault, opened, hopens, hgarbled⟩)
  · exact .inr (.inl ⟨_, hnone⟩)

/-- Whether the secret is required makes no difference if the search trips. -/
theorem Trips.resolveFromFile (h : Trips machine path name fault) (required : Bool)
    (level : Level) :
    (resolveFromFile path name required level machine).result = .error fault := by
  rw [resolveFromFile_result, h.search_eq]
  obtain ⟨opened, -, hgarbled⟩ := h
  cases hgarbled <;> rfl

/-- A search for an optional secret fails exactly if it trips. -/
theorem optional_ok_iff (level : Level) :
    (∃ found, (resolveFromFile path name false level machine).result = .ok found) ↔
      ¬∃ fault, Trips machine path name fault := by
  constructor
  · rintro ⟨found, hfound⟩ ⟨fault, htrips⟩
    rw [htrips.resolveFromFile] at hfound
    cases hfound
  · intro hnone
    rw [resolveFromFile_result]
    obtain ⟨secret, hsearch⟩ | ⟨cause, hsearch⟩ | htrips := search_cases machine path name
    · exact ⟨some secret, by rw [hsearch]⟩
    · exact ⟨none, by rw [hsearch]; rfl⟩
    · exact absurd htrips hnone

/-- A search for a required secret comes to one, or fails as one for want of a secret, exactly if it
does not trip. -/
theorem required_iff (level : Level) :
    ((∃ secret, (resolveFromFile path name true level machine).result = .ok (some secret)) ∨
        ∃ fault, (resolveFromFile path name true level machine).result = .error fault ∧
          fault.kind = .credentialFile) ↔
      ¬∃ fault, Trips machine path name fault := by
  constructor
  · rintro h ⟨fault, htrips⟩
    rw [htrips.resolveFromFile] at h
    obtain ⟨secret, hsecret⟩ | ⟨other, hother, hkind⟩ := h
    · cases hsecret
    · cases hother
      exact htrips.kind_ne (by decide) hkind
  · intro hnone
    rw [resolveFromFile_result]
    obtain ⟨secret, hsearch⟩ | ⟨cause, hsearch⟩ | htrips := search_cases machine path name
    · exact .inl ⟨secret, by rw [hsearch]⟩
    · exact .inr ⟨.secretFile cause, by rw [hsearch]; rfl, rfl⟩
    · exact absurd htrips hnone

/-- A fault of value comes of tripping only, and of that whether the secret is required or not. -/
theorem error_of_value_iff (required : Bool) (level : Level) :
    (resolveFromFile path name required level machine).result = .error fault ∧
        fault.kind.isA .value = true ↔ Trips machine path name fault := by
  refine ⟨?_, fun h => ⟨h.resolveFromFile required level, h.kind⟩⟩
  rintro ⟨hresult, hvalue⟩
  obtain ⟨secret, hsearch⟩ | ⟨cause, hsearch⟩ | ⟨other, htrips⟩ := search_cases machine path name
  · rw [resolveFromFile_result, hsearch] at hresult
    cases hresult
  · rw [resolveFromFile_result, hsearch] at hresult
    cases required with
    | false => cases hresult
    | true =>
      cases hresult
      exact absurd hvalue Bool.false_ne_true
  · rw [htrips.resolveFromFile] at hresult
    cases hresult
    exact htrips

/-- A search gives a secret exactly if it comes to one, whether that is required or not. -/
theorem resolveFromFile_eq_some_iff (required : Bool) (level : Level) (secret : String) :
    (resolveFromFile path name required level machine).result = .ok (some secret) ↔
      search machine path name = .ok secret := by
  rw [resolveFromFile_result]
  cases search machine path name with
  | ok found => simp
  | error fault =>
    cases fault with
    | secretFile cause => cases required <;> simp
    | _ => simp

end

end Resolver

namespace FromEnvironment

/-! ## Credential sets with a password in a file -/

/-- The set of what the variables give and of the password that was found. -/
def gathered (environment : Environment) (stem : String) (password : Option String) :
    CredentialSet :=
  let value := fun field => (environment.find? (variableOf stem field)).getD ""
  { username := value .username
    password := password.getD ""
    auth := value .auth
    registryToken := value .registryToken }

theorem variableOf_ne_empty (stem : String) (field : Field) : variableOf stem field ≠ "" := by
  intro h
  have hchars := congrArg String.toList h
  rw [variableOf, String.toList_append] at hchars
  cases field <;> exact absurd (List.append_eq_nil_iff.mp hchars).2 (by decide)

theorem resolveField_result (stem : String) (field : Field) (level : Level) (machine : Machine) :
    (resolveField stem field level machine).result =
      .ok (machine.environment.find? (variableOf stem field)) := by
  rw [resolveField, Resolver.resolve_result]
  simp only [Resolver.origin?, Resolver.binding?, if_neg (variableOf_ne_empty stem field)]
  cases machine.environment.find? (variableOf stem field) <;> rfl

/-- The set is what the variables and the file give. Only an empty one can be a failure. -/
theorem credentials_result (stem : String) (required : Bool) (level : Level) (machine : Machine) :
    (credentials stem required level machine).result =
      Except.bind
        (orFile stem (machine.environment.find? (variableOf stem .password)) level machine).result
        fun password =>
          let set := gathered machine.environment stem password
          if set = {} ∧ required = true then
            .error (.environmentEmpty stem (variableOf stem .username))
          else .ok set := by
  have hfield : ∀ field, Act.Looks id (resolveField stem field) :=
    fun field => Resolver.resolve_looks _ _ _ _
  rw [credentials, (hfield _).bind_result, resolveField_result, Except.bind,
    (hfield _).bind_result, resolveField_result, Except.bind,
    (hfield _).bind_result, resolveField_result, Except.bind,
    (hfield _).bind_result, resolveField_result, Except.bind, (orFile_looks _ _).bind_result]
  refine congrArg _ (funext fun password => ?_)
  unfold gathered
  dsimp only
  split
  next hempty =>
    rw [hempty]
    cases required <;> rfl
  next hfilled =>
    rw [if_neg fun h => hfilled h.1]
    rfl

/-- The password is found, or found to be missing, unless it has to be searched for in a file and
that search trips. -/
theorem orFile_ok_or_trips (stem : String) (password : Option String) (level : Level)
    (machine : Machine) :
    (∃ found, (orFile stem password level machine).result = .ok found) ∧
        ¬(password = none ∧ ∃ fault, Resolver.Trips machine none (some (fileVariable stem)) fault) ∨
      ∃ fault, (orFile stem password level machine).result = .error fault ∧ password = none ∧
        Resolver.Trips machine none (some (fileVariable stem)) fault := by
  cases password with
  | some password => exact .inl ⟨⟨some password, rfl⟩, by simp⟩
  | none =>
    by_cases htrips : ∃ fault, Resolver.Trips machine none (some (fileVariable stem)) fault
    · obtain ⟨fault, htrips⟩ := htrips
      exact .inr ⟨fault, htrips.resolveFromFile false level, rfl, htrips⟩
    · exact .inl ⟨(Resolver.optional_ok_iff level).mpr htrips, fun h => htrips h.2⟩

/-- Reading a set succeeds, or fails for want of a required one, exactly if the search for the
password in a file is not made or does not trip. -/
theorem credentials_iff (stem : String) (required : Bool) (level : Level) (machine : Machine) :
    ((∃ set, (credentials stem required level machine).result = .ok set) ∨
        required = true ∧ ∃ fault, (credentials stem required level machine).result = .error fault ∧
          fault.kind = .credentialNotFound) ↔
      ¬(machine.environment.find? (variableOf stem .password) = none ∧
        ∃ fault, Resolver.Trips machine none (some (fileVariable stem)) fault) := by
  rw [credentials_result]
  obtain ⟨⟨found, hfound⟩, hnone⟩ | ⟨fault, hfault, hunbound, htrips⟩ :=
    orFile_ok_or_trips stem (machine.environment.find? (variableOf stem .password)) level machine
  · rw [hfound]
    refine iff_of_true ?_ hnone
    simp only [Except.bind]
    split
    next h => exact .inr ⟨h.2, _, rfl, rfl⟩
    next => exact .inl ⟨_, rfl⟩
  · rw [hfault]
    refine iff_of_false ?_ fun h => h ⟨hunbound, fault, htrips⟩
    rintro (⟨set, hset⟩ | ⟨-, other, hother, hkind⟩)
    · cases hset
    · cases hother
      exact htrips.kind_ne (by decide) hkind

/-- A search for a secret in a file does not break its caller, and neither does reading a set of
credentials, exactly if it does not trip over a path with a NUL character or over a content that is
not UTF-8: an optional secret is found or not, a required one is found or reported missing as a
secret of a file, and a set is read or reported missing if it is required. Over those two every
search fails in the same way, with a fault of value. -/
theorem unbroken_iff_not_trips (machine : Machine) (path name : Option String) (stem : String)
    (level : Level) :
    ((∃ found, (Resolver.resolveFromFile path name false level machine).result = .ok found) ↔
      ¬∃ fault, Resolver.Trips machine path name fault) ∧
    ((∃ secret, (Resolver.resolveFromFile path name true level machine).result =
            .ok (some secret)) ∨
          (∃ fault, (Resolver.resolveFromFile path name true level machine).result =
            .error fault ∧ fault.kind = .credentialFile) ↔
      ¬∃ fault, Resolver.Trips machine path name fault) ∧
    (∀ required secret, (Resolver.resolveFromFile path name required level machine).result =
        .ok (some secret) ↔ Resolver.search machine path name = .ok secret) ∧
    (∀ required fault, (Resolver.resolveFromFile path name required level machine).result =
        .error fault ∧ fault.kind.isA .value = true ↔ Resolver.Trips machine path name fault) ∧
    ∀ required, (∃ set, (credentials stem required level machine).result = .ok set) ∨
        (required = true ∧ ∃ fault, (credentials stem required level machine).result =
          .error fault ∧ fault.kind = .credentialNotFound) ↔
      ¬(machine.environment.find? (variableOf stem .password) = none ∧
        ∃ fault, Resolver.Trips machine none (some (fileVariable stem)) fault) :=
  ⟨Resolver.optional_ok_iff level, Resolver.required_iff level,
    fun required secret => Resolver.resolveFromFile_eq_some_iff required level secret,
    fun required _ => Resolver.error_of_value_iff required level,
    fun required => credentials_iff stem required level machine⟩

/-- A machine with one file in the root directory, the working directory, and with one variable that
names it. -/
def besideFile (name file : String) (content : Bytes) : Machine where
  environment := [(name, "/" ++ file)]
  files := ⟨[([file], .file content)], ⟨[], 0⟩⟩

/-- A file with the single octet FF breaks the search for a secret, whether that is required or not,
and the reading of optional credentials. -/
theorem broken_by_octet :
    (Resolver.resolveFromFile none (some "PASSWORD_FILE") false .error
        (besideFile "PASSWORD_FILE" "f" [0xFF])).result = .error (.text .undecodable) ∧
    (Resolver.resolveFromFile none (some "PASSWORD_FILE") true .error
        (besideFile "PASSWORD_FILE" "f" [0xFF])).result = .error (.text .undecodable) ∧
    (credentials "" false .error (besideFile "PASSWORD_FILE" "f" [0xFF])).result =
      .error (.text .undecodable) :=
  ⟨rfl, rfl, rfl⟩

end FromEnvironment

end AuthRelay
