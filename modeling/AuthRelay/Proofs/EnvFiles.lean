import AuthRelay.Proofs.Loading
/-!
# What environment files add

Loading a file adds the variables that were unbound, in the order of the file, up to the first one
that cannot be bound. The system may refuse the file, and a resolver is made without it. A path with
a NUL character, a content that is not UTF-8 and a variable that cannot be bound break the loading
off, and with it the making of a resolver.
-/
namespace AuthRelay

/-- A machine with more variables. -/
def Machine.adding (machine : Machine) (added : List (String × String)) : Machine :=
  { machine with environment := machine.environment ++ added }

@[simp] theorem Machine.adding_nil (machine : Machine) : machine.adding [] = machine := by
  simp [adding]

theorem Machine.adding_inj {machine : Machine} {added added' : List (String × String)} :
    machine.adding added = machine.adding added' ↔ added = added' := by
  simp [adding]

theorem Machine.adding_eq_self_iff {machine : Machine} {added : List (String × String)} :
    machine.adding added = machine ↔ added = [] := by
  simpa using @Machine.adding_inj machine added []

namespace EnvFile

/-! ## The variables that a file adds -/

/-- The variables that values add to an environment: those with a value that are unbound there. -/
def additions (environment : Environment) (values : Values) : List (String × String) :=
  values.filterMap fun (name, value) =>
    if environment.find? name = none then value.map fun value => (name, value) else none

/-- Why an addition cannot be made. -/
def obstacle? (addition : String × String) : Option Fault :=
  bindingFault? addition.1 addition.2

theorem additions_cons_none (environment : Environment) (name : String) (rest : Values) :
    additions environment ((name, none) :: rest) = additions environment rest := by
  simp [additions]

theorem additions_cons_some (environment : Environment) (name value : String) (rest : Values) :
    additions environment ((name, some value) :: rest) =
      if environment.find? name = none then (name, value) :: additions environment rest
      else additions environment rest := by
  by_cases hfree : environment.find? name = none <;> simp [additions, hfree]

/-- What values add does not depend on a name that is none of theirs. -/
theorem additions_assign {values : Values} {name : String} (h : name ∉ values.map Prod.fst)
    (environment : Environment) (value : String) :
    additions (environment.assign name value) values = additions environment values := by
  refine List.filterMap_congr fun entry hmem => ?_
  have hne : name ≠ entry.1 := by
    rintro rfl
    exact h (List.mem_map_of_mem hmem)
  simp only [Table.find?_assign_of_ne hne]

/-- The additions are made in order, up to the first that cannot be made. -/
theorem assignMissing_run {values : Values} (hnodup : (values.map Prod.fst).Nodup) (level : Level)
    (machine : Machine) :
    assignMissing values level machine =
      let entries := additions machine.environment values
      ⟨match entries.findSome? obstacle? with
        | some fault => .error fault
        | none => .ok (),
        machine.adding (entries.takeWhile fun a => (obstacle? a).isNone), []⟩ := by
  dsimp only
  induction values generalizing machine with
  | nil => simp [assignMissing, additions, Machine.adding, Act.pure_def]
  | cons entry rest ih =>
    obtain ⟨name, value?⟩ := entry
    rw [List.map_cons, List.nodup_cons] at hnodup
    cases value? with
    | none =>
      rw [additions_cons_none]
      exact ih hnodup.2 machine
    | some value =>
      rw [assignMissing_cons_run, additions_cons_some]
      by_cases hfree : machine.environment.find? name = none
      · rw [if_pos hfree, if_pos hfree]
        have hobstacle : obstacle? (name, value) = bindingFault? name value := rfl
        cases hfault : bindingFault? name value with
        | some fault => simp [hobstacle, hfault, Machine.adding]
        | none =>
          rw [List.findSome?_cons, List.takeWhile_cons, hobstacle, hfault]
          dsimp only
          rw [ih hnodup.2, additions_assign hnodup.1]
          simp [Machine.adding, Table.assign_of_find?_eq_none hfree]
      · rw [if_neg hfree, if_neg hfree]
        exact ih hnodup.2 machine

/-- The file that is loaded for a path. -/
def Loads (machine : Machine) (path : Option String) (file : String) : Prop :=
  isDisabled machine.environment = false ∧ choose machine.files path = .ok (some file)

theorem Loads.load_run {machine : Machine} {path : Option String} {file : String}
    (h : Loads machine path file) (level : Level) : load path level machine =
      match contentAt machine.files file with
      | .error fault => ⟨.error fault, machine, []⟩
      | .ok text => assignMissing (values machine.environment text) level machine := by
  have hon : ¬isDisabled machine.environment = true := by simp [h.1]
  rw [EnvFile.load_run, h.2]
  dsimp only
  rw [EnvFile.loadAt_run]
  exact if_neg hon

/-! ## Files that the system refuses -/

/-- Why the system refuses what is to be loaded for a path: no path is given, and the working
directory from which the file would be looked for is gone, or the file cannot be read. -/
inductive Refused (machine : Machine) (path : Option String) : FileFault → Prop
  | directory (hpath : path.getD "" = "") (hgone : machine.files.workingDirectory.lost ≠ 0) :
      Refused machine path ⟨.missing, []⟩
  | file {file : String} {reason : FileReason} (hloads : Loads machine path file)
      (hpath : holdsNul file = false) (hfile : machine.files.isFile file = true)
      (hread : machine.files.read file = .error reason) :
      Refused machine path (.ofReading file reason)

/-- There is no telling which file is to be loaded only if the working directory is gone. -/
theorem choose_eq_error_iff {files : Files} {path : Option String} {fault : Fault} :
    choose files path = .error fault ↔
      path.getD "" = "" ∧ files.workingDirectory.lost ≠ 0 ∧ fault = .file ⟨.missing, []⟩ := by
  have hnearest : nearest? files = .error fault ↔
      files.workingDirectory.lost ≠ 0 ∧ fault = .file ⟨.missing, []⟩ := by
    by_cases hlost : files.workingDirectory.lost = 0 <;>
      simp [nearest?, Files.currentPlace?, hlost, eq_comm]
  cases path with
  | none => simp [choose, hnearest]
  | some path => by_cases hpath : path = "" <;> simp [choose, hpath, hnearest]

/-- What the system refuses is not loaded, and nothing is added. -/
theorem Refused.load_run {machine : Machine} {path : Option String} {cause : FileFault}
    (h : Refused machine path cause) (level : Level) :
    load path level machine = ⟨.error (.file cause), machine, []⟩ := by
  cases h with
  | directory hpath hgone =>
    rw [EnvFile.load_run, choose_eq_error_iff.mpr ⟨hpath, hgone, rfl⟩]
  | file hloads hpath hfile hread =>
    rw [hloads.load_run]
    simp [contentAt, hpath, hfile, hread]

/-! ## Files that break the loading -/

/-- Why the loading for a path breaks off, and the variables that have been added by then. The path
holds a NUL character, the file is not UTF-8, or one of the additions cannot be made, and then those
before it have been made. -/
inductive Breaks (machine : Machine) (path : Option String) :
    Fault → List (String × String) → Prop
  | path {file : String} (hloads : Loads machine path file) (hnul : holdsNul file = true) :
      Breaks machine path .embeddedNul []
  | content {file : String} {octets : Bytes} (hloads : Loads machine path file)
      (hpath : holdsNul file = false) (hread : machine.files.read file = .ok octets)
      (htext : Text.Utf8.decode? octets = none) : Breaks machine path (.text .undecodable) []
  | addition {file : String} {text : List Char} {before after : List (String × String)}
      {name value : String} {fault : Fault} (hloads : Loads machine path file)
      (hcontent : contentAt machine.files file = .ok text)
      (hadditions : additions machine.environment (values machine.environment text) =
        before ++ (name, value) :: after)
      (hbefore : ∀ a ∈ before, obstacle? a = none)
      (hobstacle : obstacle? (name, value) = some fault) : Breaks machine path fault before

/-- What can be read is a file. -/
theorem isFile_of_read {files : Files} {path : String} {octets : Bytes}
    (h : files.read path = .ok octets) : files.isFile path = true := by
  unfold Files.read at h
  unfold Files.isFile
  cases hresolve : files.resolve path with
  | error reason =>
    rw [hresolve] at h
    cases h
  | ok destination =>
    cases destination with
    | removed =>
      rw [hresolve] at h
      cases h
    | place place =>
      simp only [hresolve] at h ⊢
      cases hentry : files.entry? place with
      | none =>
        rw [hentry] at h
        cases h
      | some entry =>
        rw [hentry] at h
        cases entry <;> first | rfl | cases h

/-- A text is found unless the system refuses the file or something breaks the loading off. -/
theorem refused_or_breaks_of_contentAt {machine : Machine} {path : Option String} {file : String}
    {fault : Fault} (hloads : Loads machine path file)
    (h : contentAt machine.files file = .error fault) :
    (∃ cause, Refused machine path cause) ∨ Breaks machine path fault [] := by
  rw [contentAt] at h
  by_cases hnul : holdsNul file = true
  · rw [if_pos hnul] at h
    cases h
    exact .inr (.path hloads hnul)
  · rw [if_neg hnul] at h
    have hpath := (Bool.not_eq_true _).mp hnul
    cases hfile : machine.files.isFile file with
    | false =>
      rw [if_pos hfile] at h
      cases h
    | true =>
      rw [if_neg (by simp [hfile])] at h
      cases hread : machine.files.read file with
      | error reason => exact .inl ⟨_, .file hloads hpath hfile hread⟩
      | ok octets =>
        cases htext : Text.Utf8.decode? octets with
        | none =>
          simp only [hread, htext] at h
          cases h
          exact .inr (.content hloads hpath hread htext)
        | some text =>
          simp only [hread, htext] at h
          split at h <;> cases h

/-- Only values are at fault: no addition has the empty name. -/
theorem kind_of_obstacle? {environment : Environment} {text : List Char}
    {addition : String × String} {fault : Fault}
    (hmem : addition ∈ additions environment (values environment text))
    (h : obstacle? addition = some fault) : fault.kind = .value := by
  obtain ⟨name, value⟩ := addition
  refine kind_of_bindingFault? ?_ h
  obtain ⟨⟨name', value'⟩, hentry, hsome⟩ := List.mem_filterMap.mp hmem
  refine values_name_ne_empty (List.mem_map.mpr ⟨(name', value'), hentry, ?_⟩)
  dsimp only at hsome
  split at hsome
  · cases value' <;> cases hsome
    rfl
  · cases hsome

/-- The loading ends with the fault, and what has been added by then stays. -/
theorem Breaks.load_run {machine : Machine} {path : Option String} {fault : Fault}
    {added : List (String × String)} (h : Breaks machine path fault added) (level : Level) :
    load path level machine = ⟨.error fault, machine.adding added, []⟩ := by
  cases h with
  | path hloads hnul => rw [hloads.load_run, contentAt, if_pos hnul, Machine.adding_nil]
  | content hloads hpath hread htext =>
    rw [hloads.load_run]
    simp [contentAt, hpath, isFile_of_read hread, hread, htext]
  | @addition file text _ after name value _ hloads hcontent hadditions hbefore hobstacle =>
    have hfind : (added ++ (name, value) :: after).findSome? obstacle? = some fault :=
      List.findSome?_eq_some_iff.mpr ⟨added, (name, value), after, rfl, hobstacle, hbefore⟩
    have hmade : (added ++ (name, value) :: after).takeWhile (fun a => (obstacle? a).isNone) =
        added := by
      rw [List.takeWhile_append_of_pos fun a ha => by rw [hbefore a ha]; rfl,
        List.takeWhile_cons_of_neg (by simp [hobstacle]), List.append_nil]
    rw [hloads.load_run, hcontent]
    dsimp only
    simp only [assignMissing_run (nodup_values _ _), hadditions, hfind, hmade]

theorem Breaks.kind {machine : Machine} {path : Option String} {fault : Fault}
    {added : List (String × String)} (h : Breaks machine path fault added) :
    fault.kind.isA .value = true := by
  cases h with
  | path => rfl
  | content => rfl
  | @addition file text _ after name value _ hloads hcontent hadditions hbefore hobstacle =>
    have hmem : (name, value) ∈ added ++ (name, value) :: after :=
      List.mem_append_right _ List.mem_cons_self
    rw [← hadditions] at hmem
    rw [kind_of_obstacle? hmem hobstacle]
    rfl

theorem Breaks.not_system {machine : Machine} {path : Option String} {fault : Fault}
    {added : List (String × String)} (h : Breaks machine path fault added) :
    fault.kind.isA .system = false := by
  have hvalue := h.kind
  revert hvalue
  cases fault.kind <;> decide

/-- The loading succeeds, or the system refuses the file, or something breaks it off. -/
theorem load_cases (path : Option String) (level : Level) (machine : Machine) :
    (load path level machine).result = .ok () ∨ (∃ cause, Refused machine path cause) ∨
      ∃ fault added, Breaks machine path fault added := by
  cases hchoose : choose machine.files path with
  | error fault =>
    obtain ⟨hpath, hgone, -⟩ := choose_eq_error_iff.mp hchoose
    exact .inr (.inl ⟨_, .directory hpath hgone⟩)
  | ok found =>
    by_cases hd : isDisabled machine.environment = true
    · rw [load_run, hchoose]
      simp only [loadAt_run, if_pos hd, true_or]
    · cases found with
      | none =>
        rw [load_run, hchoose]
        simp only [loadAt_run, if_neg hd, true_or]
      | some file =>
        have hloads : Loads machine path file := ⟨(Bool.not_eq_true _).mp hd, hchoose⟩
        cases hcontent : contentAt machine.files file with
        | error fault =>
          exact .inr ((refused_or_breaks_of_contentAt hloads hcontent).imp_right
            fun h => ⟨fault, [], h⟩)
        | ok text =>
          rw [hloads.load_run, hcontent]
          simp only [assignMissing_run (nodup_values _ _)]
          cases hfind : (additions machine.environment
              (values machine.environment text)).findSome? obstacle? with
          | none => exact .inl rfl
          | some fault =>
            obtain ⟨before, ⟨name, value⟩, after, hadditions, hobstacle, hbefore⟩ :=
              List.findSome?_eq_some_iff.mp hfind
            exact .inr (.inr ⟨fault, before,
              .addition hloads hcontent hadditions hbefore hobstacle⟩)

end EnvFile

namespace Resolver

open EnvFile

section

variable {machine : Machine} {path : Option String} {fault : Fault}
  {added : List (String × String)}

/-- If the loading breaks off, no resolver is made, and what has been added stays. -/
theorem create_of_breaks (h : Breaks machine path fault added) (level : Level) :
    (create path true level machine).result = .error fault ∧
      (create path true level machine).state = machine.adding added := by
  rw [create_state, h.load_run]
  exact ⟨create_of_failed (congrArg Outcome.result (h.load_run level)) h.not_system, rfl⟩

/-- If the system refuses the file, a warning is all that comes of it. -/
theorem create_of_refused {cause : FileFault} (h : Refused machine path cause) (level : Level) :
    create path true level machine = ⟨.ok ⟨path, true, true⟩, machine,
      if Level.passes .warning level then
        [.record ⟨.warning, .resolver, "Failed to load .env file: " ++ cause.message⟩]
      else []⟩ :=
  create_of_system_fault (h.load_run level) cause.reason.isA_system_kind

/-- A resolver is made unless the loading breaks off. -/
theorem created_or_breaks (path : Option String) (level : Level) (machine : Machine) :
    (create path true level machine).result = .ok ⟨path, true, true⟩ ∨
      ∃ fault added, Breaks machine path fault added := by
  obtain hloaded | ⟨cause, hrefused⟩ | hbreaks := load_cases path level machine
  · exact .inl (create_of_loaded hloaded)
  · exact .inl (congrArg Outcome.result (create_of_refused hrefused level))
  · exact .inr hbreaks

/-- A failure and the variables that have been added by then tell that the loading broke off, and
how. -/
theorem create_eq_error_iff (level : Level) :
    (create path true level machine).result = .error fault ∧
        (create path true level machine).state = machine.adding added ↔
      Breaks machine path fault added := by
  refine ⟨?_, fun h => create_of_breaks h level⟩
  rintro ⟨hresult, hstate⟩
  obtain hok | ⟨fault', added', hbreaks⟩ := created_or_breaks path level machine
  · rw [hok] at hresult
    cases hresult
  · obtain ⟨hresult', hstate'⟩ := create_of_breaks hbreaks level
    rw [hresult'] at hresult
    rw [hstate', Machine.adding_inj] at hstate
    cases hresult
    cases hstate
    exact hbreaks

theorem created_iff (path : Option String) (level : Level) (machine : Machine) :
    (∃ r, (create path true level machine).result = .ok r ∧ r.loaded = true) ↔
      ¬∃ fault added, Breaks machine path fault added := by
  constructor
  · rintro ⟨r, hr, -⟩ ⟨fault, added, hbreaks⟩
    rw [(create_of_breaks hbreaks level).1] at hr
    cases hr
  · intro hnone
    exact ⟨⟨path, true, true⟩, (created_or_breaks path level machine).resolve_right hnone, rfl⟩

/-- A resolver that has been made has loaded its file, or the system has refused it. -/
theorem loaded_or_refused_of_created {r : Resolver} {level : Level}
    (h : (create path true level machine).result = .ok r) :
    (load path level machine).result = .ok () ∨ ∃ cause, Refused machine path cause := by
  obtain hloaded | hrefused | ⟨fault, added, hbreaks⟩ := load_cases path level machine
  · exact .inl hloaded
  · exact .inr hrefused
  · rw [(create_of_breaks hbreaks level).1] at h
    cases h

end

/-- A resolver is made, and marked as having seen to its file, exactly if the loading of that file
does not break off, over a path with a NUL character, a content that is not UTF-8, or a variable
that cannot be bound. If it does, the failure is a fault of value, and variables have been added
exactly if there were some to be added before the one that cannot be bound. What the system refuses
costs a warning and nothing else: a working directory that is gone, or a file that cannot be read. A
resolver that is made has loaded its file, but for that. -/
theorem created_iff_not_breaks (path : Option String) (level : Level) (machine : Machine) :
    ((∃ r, (create path true level machine).result = .ok r ∧ r.loaded = true) ↔
      ¬∃ fault added, Breaks machine path fault added) ∧
    (∀ fault added, (create path true level machine).result = .error fault ∧
        (create path true level machine).state = machine.adding added ↔
      Breaks machine path fault added) ∧
    (∀ fault added, Breaks machine path fault added → fault.kind.isA .value = true ∧
      ((create path true level machine).state = machine ↔ added = [])) ∧
    (∀ cause, Refused machine path cause →
      create path true level machine = ⟨.ok ⟨path, true, true⟩, machine,
        if Level.passes .warning level then
          [.record ⟨.warning, .resolver, "Failed to load .env file: " ++ cause.message⟩]
        else []⟩) ∧
    ∀ r, (create path true level machine).result = .ok r →
      (load path level machine).result = .ok () ∨ ∃ cause, Refused machine path cause := by
  refine ⟨created_iff path level machine, fun fault added => create_eq_error_iff level,
    fun fault added h => ⟨h.kind, ?_⟩, fun cause h => create_of_refused h level,
    fun r h => loaded_or_refused_of_created h⟩
  rw [(create_of_breaks h level).2]
  exact Machine.adding_eq_self_iff

/-- A machine with nothing but an environment file in the root directory, and with a working
directory from whose place some names have been removed. -/
def withEnvFile (file : Entry) (lost : Nat) : Machine where
  environment := []
  files := ⟨[([defaultName], file)], ⟨[], lost⟩⟩

/-- One variable, and after it one whose value has a NUL character in it. -/
def brokenOff : Machine :=
  withEnvFile (.file (Text.Utf8.encode "A=1\nB=\x00\n")) 0

/-- An environment file that the process may not read. -/
def closed : Machine :=
  withEnvFile (.unreadable .permissionDenied) 0

theorem created_iff_not_breaks_closed :
    create none true .warning closed = ⟨.ok ⟨none, true, true⟩, closed, [.record ⟨.warning,
      .resolver, "Failed to load .env file: [Errno 13] Permission denied: '/.env'"⟩]⟩ ∧
    create none true .warning (withEnvFile .directory 1) =
      ⟨.ok ⟨none, true, true⟩, withEnvFile .directory 1, [.record ⟨.warning, .resolver,
        "Failed to load .env file: [Errno 2] No such file or directory"⟩]⟩ ∧
    Breaks brokenOff none .embeddedNul [("A", "1")] ∧
    (create none true .error brokenOff).state ≠ brokenOff := by
  obtain ⟨-, herror, hbreaks, -⟩ := created_iff_not_breaks none .error brokenOff
  have hbroken := (herror .embeddedNul [("A", "1")]).mp (by decide +kernel)
  have hclosed := (created_iff_not_breaks none .warning closed).2.2.2.1 _
    (@Refused.file closed none "/.env" .permissionDenied ⟨rfl, rfl⟩ rfl rfl rfl)
  have hlost := (created_iff_not_breaks none .warning (withEnvFile .directory 1)).2.2.2.1 _
    (.directory rfl (by decide))
  refine ⟨hclosed, hlost, hbroken, fun hstate => ?_⟩
  exact absurd ((hbreaks _ _ hbroken).2.mp hstate) (by decide)

/-- A file with the single octet FF breaks the making of a resolver, and so does a value with a NUL
character, after the variable before it has been added. -/
theorem creation_broken :
    (create none true .error (withEnvFile (.file [0xFF]) 0)).result =
      .error (.text .undecodable) ∧
    (create none true .error brokenOff).result = .error .embeddedNul ∧
    (create none true .error brokenOff).state.environment = [("A", "1")] := by
  refine ⟨?_, ?_, ?_⟩ <;> decide +kernel

end Resolver

end AuthRelay
