import AuthRelay.Credential.Resolver
import AuthRelay.EnvFile.Load
import AuthRelay.Proofs.Acts
import AuthRelay.Proofs.Tables
/-!
# Loading environment files

Loading a file does nothing but bind unbound names, so whatever survives that survives the loading,
also when it fails midway. Which names a file gives values to does not depend on the environment;
once a file has been loaded without a failure they are all bound, and it gives nothing more.
-/
namespace AuthRelay

namespace EnvFile

/-! ## The names in a file -/

/-- A key that is read is not empty. -/
theorem readKey_ne_nil {s key rest : List Char} (h : readKey s = .ok (some key, rest)) :
    key ≠ [] := by
  unfold readKey at h
  split at h
  · cases h
  · dsimp only at h
    split at h
    · split at h
      · cases h
      · cases h
        assumption
    · cases h
  · dsimp only at h
    split at h
    · cases h
    · cases h
      assumption

/-- What is read after something else starts from what that one has read. -/
theorem exists_of_bind_ok {ε α β : Type} {x : Except ε α} {f : α → Except ε β} {b : β}
    (h : x >>= f = .ok b) : ∃ a, x = .ok a ∧ f a = .ok b := by
  cases x with
  | error left => cases h
  | ok a => exact ⟨a, rfl, h⟩

theorem readBinding_ne_nil {s rest : List Char} {binding : Binding}
    (h : readBinding s = .ok (some binding, rest)) : binding.key ≠ [] := by
  obtain ⟨⟨key, afterKey⟩, hkey, h⟩ := exists_of_bind_ok h
  obtain ⟨⟨value, afterValue⟩, -, h⟩ := exists_of_bind_ok h
  obtain ⟨⟨_, afterLine⟩, -, h⟩ := exists_of_bind_ok h
  cases key with
  | none => cases h
  | some key =>
    cases h
    exact readKey_ne_nil hkey

theorem readBindings_ne_nil {limit : Nat} {s : List Char} {binding : Binding}
    (h : binding ∈ readBindings limit s) : binding.key ≠ [] := by
  induction limit generalizing s with
  | zero => cases h
  | succ limit ih =>
    rw [readBindings] at h
    split at h
    · cases h
    · split at h
      next first rest hread =>
        obtain rfl | hrest := List.mem_cons.mp h
        · exact readBinding_ne_nil hread
        · exact ih hrest
      next => exact ih h
      next => exact ih h

/-- Whatever holds of the names that are there and of every key holds of the names of the values. -/
theorem interpolate_names {P : String → Prop} {environment : Environment} {bindings : List Binding}
    {values : Values} (hvalues : ∀ name ∈ values.map Prod.fst, P name)
    (hkeys : ∀ binding ∈ bindings, P (String.ofList binding.key)) :
    ∀ name ∈ (interpolate environment values bindings).map Prod.fst, P name := by
  induction bindings generalizing values with
  | nil => exact hvalues
  | cons binding rest ih =>
    refine ih (fun name hmem => ?_) fun binding hmem => hkeys binding (List.mem_cons_of_mem _ hmem)
    obtain rfl | hmem := (Table.mem_names_assign _ _ _ _).mp hmem
    · exact hkeys binding List.mem_cons_self
    · exact hvalues name hmem

theorem nodup_interpolate {environment : Environment} {bindings : List Binding} {values : Values}
    (h : (values.map Prod.fst).Nodup) :
    ((interpolate environment values bindings).map Prod.fst).Nodup := by
  induction bindings generalizing values with
  | nil => exact h
  | cons binding rest ih => exact ih (Table.nodup_names_assign h _ _)

/-- A file gives at most one value to a name. -/
theorem nodup_values (environment : Environment) (text : List Char) :
    ((values environment text).map Prod.fst).Nodup :=
  nodup_interpolate List.nodup_nil

/-- No file binds the empty name. -/
theorem values_name_ne_empty {environment : Environment} {text : List Char} {name : String}
    (h : name ∈ (values environment text).map Prod.fst) : name ≠ "" := by
  refine interpolate_names (P := (· ≠ "")) (by simp) (fun binding hmem => ?_) name h
  rw [Ne, String.ofList_eq_empty_iff]
  exact readBindings_ne_nil hmem

/-! ## Binding what is unbound -/

/-- The values are assigned one after another, and one whose name is bound is left out. -/
theorem assignMissing_cons_run (name value : String) (rest : Values) (level : Level)
    (machine : Machine) : assignMissing ((name, some value) :: rest) level machine =
      if machine.environment.find? name = none then
        match bindingFault? name value with
        | some fault => ⟨.error fault, machine, []⟩
        | none => assignMissing rest level
            { machine with environment := machine.environment.assign name value }
      else assignMissing rest level machine := by
  rw [assignMissing, Act.get_bind_run]
  by_cases hfree : machine.environment.find? name = none
  · simp only [hfree, Option.isNone_none, if_true]
    cases bindingFault? name value <;> rfl
  · simp only [Option.isNone_iff_eq_none, if_neg hfree]

/-- Only the empty name makes the system refuse a variable. -/
theorem kind_of_bindingFault? {name value : String} {fault : Fault} (hname : name ≠ "")
    (h : bindingFault? name value = some fault) : fault.kind = .value := by
  unfold bindingFault? at h
  rw [if_neg hname] at h
  split at h
  · cases h
    rfl
  · split at h
    · cases h
      rfl
    · cases h

theorem kind_of_assignMissing {values : Values} {level : Level} {machine : Machine} {fault : Fault}
    (hnames : ∀ name ∈ values.map Prod.fst, name ≠ "")
    (h : (assignMissing values level machine).result = .error fault) : fault.kind = .value := by
  induction values generalizing machine with
  | nil => cases h
  | cons entry rest ih =>
    obtain ⟨name, value?⟩ := entry
    obtain ⟨hname, hrest⟩ := List.forall_mem_cons.mp hnames
    cases value? with
    | none => exact ih hrest h
    | some value =>
      rw [assignMissing_cons_run] at h
      split at h
      · cases hfault : bindingFault? name value with
        | some cause =>
          rw [hfault] at h
          cases h
          exact kind_of_bindingFault? hname hfault
        | none =>
          rw [hfault] at h
          exact ih hrest h
      · exact ih hrest h

/-- What is loaded from a path, if anything is. -/
theorem loadAt_run (path : Option String) (level : Level) (machine : Machine) :
    loadAt path level machine =
      if isDisabled machine.environment then ⟨.ok (), machine, []⟩
      else match path with
        | none => ⟨.ok (), machine, []⟩
        | some path =>
          match contentAt machine.files path with
          | .error fault => ⟨.error fault, machine, []⟩
          | .ok text => assignMissing (values machine.environment text) level machine := by
  rw [loadAt, Act.get_bind_run]
  by_cases hd : isDisabled machine.environment = true
  · simp only [if_pos hd]
    rfl
  · simp only [if_neg hd]
    cases path with
    | none => rfl
    | some path =>
      have hask := Act.ofExcept_run (contentAt machine.files path) level machine
      cases hc : contentAt machine.files path with
      | error fault =>
        rw [hc] at hask
        simp only [hc]
        rw [Act.bind_of_error hask]
      | ok text =>
        rw [hc] at hask
        simp only [hc]
        rw [Act.bind_of_ok hask]
        simp

/-- There is nothing to load if there is no telling which file it is. -/
theorem load_run (given : Option String) (level : Level) (machine : Machine) :
    load given level machine =
      match choose machine.files given with
      | .error fault => ⟨.error fault, machine, []⟩
      | .ok found => loadAt found level machine := by
  rw [load, Act.get_bind_run]
  have hask := Act.ofExcept_run (choose machine.files given) level machine
  cases hchoose : choose machine.files given with
  | error fault =>
    rw [hchoose] at hask
    exact Act.bind_of_error hask
  | ok found =>
    rw [hchoose] at hask
    rw [Act.bind_of_ok hask]
    simp

/-- A later machine has the same files, and what was bound is bound to the same value. -/
def GrowsTo (machine later : Machine) : Prop :=
  later.files = machine.files ∧ machine.environment.Within later.environment

theorem GrowsTo.refl (machine : Machine) : GrowsTo machine machine :=
  ⟨rfl, .refl _⟩

theorem GrowsTo.trans {a b c : Machine} (h : GrowsTo a b) (h' : GrowsTo b c) : GrowsTo a c :=
  ⟨h'.1.trans h.1, h.2.trans h'.2⟩

/-- A property of machines that survives the binding of an unbound name. -/
def SurvivesBinding (P : Machine → Prop) : Prop :=
  ∀ machine name value, machine.environment.find? name = none → P machine →
    P { machine with environment := machine.environment.assign name value }

theorem survivesBinding_growsTo (machine : Machine) : SurvivesBinding (GrowsTo machine) :=
  fun _ _ value hfree h => ⟨h.1, h.2.assign hfree value⟩

section

variable {P : Machine → Prop}

theorem assignMissing_keeps (hP : SurvivesBinding P) (values : Values) :
    Act.Keeps P (assignMissing values) := by
  induction values with
  | nil => exact .pure _
  | cons entry rest ih =>
    obtain ⟨name, value?⟩ := entry
    cases value? with
    | none => exact ih
    | some value =>
      intro level machine h
      rw [assignMissing_cons_run]
      by_cases hfree : machine.environment.find? name = none
      · rw [if_pos hfree]
        cases bindingFault? name value with
        | some fault => exact h
        | none => exact ih level _ (hP machine name value hfree h)
      · rw [if_neg hfree]
        exact ih level machine h

theorem loadAt_keeps (hP : SurvivesBinding P) (path : Option String) :
    Act.Keeps P (loadAt path) := by
  refine .get_bind fun machine => .ite (.pure _) ?_
  cases path with
  | none => exact .pure _
  | some path => exact (Act.Keeps.ofExcept _).bind fun _ => assignMissing_keeps hP _

theorem load_keeps (hP : SurvivesBinding P) (given : Option String) :
    Act.Keeps P (load given) :=
  .get_bind fun _ => (Act.Keeps.ofExcept _).bind fun path => loadAt_keeps hP path

end

/-! ## What a file binds -/

/-- The names of values, each with whether it has one. -/
def shape (values : Values) : Table Bool :=
  values.map fun (name, value) => (name, value.isSome)

theorem shape_interpolate {environment environment' : Environment} {values values' : Values}
    (h : shape values = shape values') (bindings : List Binding) :
    shape (interpolate environment values bindings) =
      shape (interpolate environment' values' bindings) := by
  induction bindings generalizing values values' with
  | nil => exact h
  | cons binding rest ih =>
    refine ih ?_
    unfold shape at h ⊢
    rw [Table.map_assign, Table.map_assign, h, Option.isSome_map, Option.isSome_map]

/-- Which names a file gives values to does not depend on the environment. -/
theorem shape_values (environment environment' : Environment) (text : List Char) :
    shape (values environment text) = shape (values environment' text) :=
  shape_interpolate rfl (bindings text)

/-- Every name that has a value is bound. -/
def Bound (environment : Environment) (values : Values) : Prop :=
  ∀ name, (name, true) ∈ shape values → ∃ found, environment.find? name = some found

theorem bound_cons_none {environment : Environment} {name : String} {rest : Values} :
    Bound environment ((name, none) :: rest) ↔ Bound environment rest := by
  simp [Bound, shape]

theorem bound_cons_some {environment : Environment} {name value : String} {rest : Values} :
    Bound environment ((name, some value) :: rest) ↔
      (∃ found, environment.find? name = some found) ∧ Bound environment rest := by
  simp [Bound, shape]

theorem Bound.mono {environment larger : Environment} {values : Values}
    (h : Bound environment values) (hw : environment.Within larger) : Bound larger values :=
  fun name hmem => (h name hmem).imp fun found => hw name found

/-- After an assignment without a failure every name with a value is bound. -/
theorem bound_of_assignMissing {values : Values} {level : Level} {machine finish : Machine}
    {journal : List Mark}
    (h : assignMissing values level machine = ⟨.ok (), finish, journal⟩) :
    Bound finish.environment values := by
  induction values generalizing machine with
  | nil => exact fun name hmem => by simp [shape] at hmem
  | cons entry rest ih =>
    obtain ⟨name, value?⟩ := entry
    cases value? with
    | none => exact bound_cons_none.mpr (ih h)
    | some value =>
      rw [assignMissing_cons_run] at h
      refine bound_cons_some.mpr ?_
      by_cases hfree : machine.environment.find? name = none
      · rw [if_pos hfree] at h
        cases hfault : bindingFault? name value with
        | some fault =>
          rw [hfault] at h
          cases h
        | none =>
          rw [hfault] at h
          dsimp only at h
          have hlater := assignMissing_keeps (survivesBinding_growsTo _) rest level _
            (.refl { machine with environment := machine.environment.assign name value })
          rw [h] at hlater
          exact ⟨⟨value, hlater.2 name value (Table.find?_assign_self _ _ _)⟩, ih h⟩
      · rw [if_neg hfree] at h
        obtain ⟨found, hfound⟩ := Option.ne_none_iff_exists'.mp hfree
        have hlater := assignMissing_keeps (survivesBinding_growsTo _) rest level _ (.refl machine)
        rw [h] at hlater
        exact ⟨⟨found, hlater.2 name found hfound⟩, ih h⟩

/-- Nothing is assigned when every name with a value is bound. -/
theorem assignMissing_of_bound {values : Values} {machine : Machine}
    (h : Bound machine.environment values) (level : Level) :
    assignMissing values level machine = ⟨.ok (), machine, []⟩ := by
  induction values with
  | nil => rfl
  | cons entry rest ih =>
    obtain ⟨name, value?⟩ := entry
    cases value? with
    | none => exact ih (bound_cons_none.mp h)
    | some value =>
      obtain ⟨⟨found, hfound⟩, hrest⟩ := bound_cons_some.mp h
      rw [assignMissing_cons_run, if_neg (by simp [hfound])]
      exact ih hrest

theorem isDisabled_mono {environment larger : Environment} (hw : environment.Within larger)
    (h : isDisabled environment = true) : isDisabled larger = true := by
  unfold isDisabled at h ⊢
  cases hs : environment.find? switch with
  | none =>
    rw [hs] at h
    cases h
  | some value =>
    rw [hs] at h
    rw [hw switch value hs]
    exact h

end EnvFile

namespace Resolver

/-! ## Resolvers and their files -/

section

variable {P : Machine → Prop}

theorem afterLoading_keeps (result : Except Fault Unit) : Act.Keeps P (afterLoading result) := by
  cases result with
  | ok _ => exact .log _ _ _
  | error fault => exact .ite (.log _ _ _) (.fail _)

theorem ensureLoaded_keeps {r : Resolver} (hP : r.loaded = false → EnvFile.SurvivesBinding P) :
    Act.Keeps P r.ensureLoaded := by
  unfold Resolver.ensureLoaded
  cases hr : r.loaded with
  | true => exact .pure r
  | false =>
    exact (EnvFile.load_keeps (hP hr) r.path).attempt.bind fun result =>
      (afterLoading_keeps result).bind fun _ => .pure _

theorem create_keeps (hP : EnvFile.SurvivesBinding P) (path : Option String) :
    Act.Keeps P (Resolver.create path true) := by
  have hloaded := ensureLoaded_keeps (P := P) (r := ⟨path, true, false⟩) fun _ => hP
  exact hloaded

end

/-- A resolver that has seen to its environment file without a failure is marked. -/
theorem ensureLoaded_result {r marked : Resolver} {level : Level} {machine finish : Machine}
    {journal : List Mark} (h : r.ensureLoaded level machine = ⟨.ok marked, finish, journal⟩) :
    marked = { r with loaded := true } := by
  unfold Resolver.ensureLoaded at h
  cases hr : r.loaded with
  | true =>
    rw [hr] at h
    cases h
    rw [← hr]
  | false =>
    simp only [hr, Bool.false_eq_true, if_false] at h
    obtain ⟨_, _, _, _, -, h⟩ := Act.of_bind_ok h
    obtain ⟨_, _, _, _, -, h⟩ := Act.of_bind_ok h
    cases h
    rfl

section

variable {path : Option String} {level : Level} {machine finish : Machine} {fault : Fault}
  {journal : List Mark}

/-- Making a resolver comes to what is made of the result of loading its file. -/
theorem create_run (path : Option String) (level : Level) (machine : Machine) :
    create path true level machine =
      let loading := EnvFile.load path level machine
      let after := afterLoading loading.result level loading.state
      ⟨after.result.map fun _ => ⟨path, true, true⟩, after.state,
        loading.journal ++ after.journal⟩ := by
  unfold create ensureLoaded
  simp only [if_true, Bool.false_eq_true, if_false]
  rw [Act.bind_of_ok rfl]
  cases ho : afterLoading (EnvFile.load path level machine).result level
      (EnvFile.load path level machine).state with
  | mk result finish journal =>
    cases result with
    | error fault =>
      simp only [Act.bind_of_error ho]
      rfl
    | ok _ =>
      simp only [Act.bind_of_ok ho]
      simp [Act.pure_def, Except.map]

/-- It leaves what that leaves, whether it fails or not. -/
theorem create_state (path : Option String) (level : Level) (machine : Machine) :
    (create path true level machine).state = (EnvFile.load path level machine).state := by
  rw [create_run]
  exact afterLoading_keeps (P := (· = (EnvFile.load path level machine).state)) _ level _ rfl

theorem create_of_loaded (h : (EnvFile.load path level machine).result = .ok ()) :
    (create path true level machine).result = .ok ⟨path, true, true⟩ := by
  simp only [create_run, h]
  rfl

/-- What the system has refused costs a warning. -/
theorem create_of_system_fault
    (h : EnvFile.load path level machine = ⟨.error fault, finish, journal⟩)
    (hsystem : fault.kind.isA .system = true) :
    create path true level machine = ⟨.ok ⟨path, true, true⟩, finish, journal ++
      if Level.passes .warning level then
        [.record ⟨.warning, .resolver, "Failed to load .env file: " ++ fault.message⟩]
      else []⟩ := by
  simp only [create_run, h, afterLoading, if_pos hsystem]
  rfl

theorem create_of_failed (h : (EnvFile.load path level machine).result = .error fault)
    (hsystem : fault.kind.isA .system = false) :
    (create path true level machine).result = .error fault := by
  simp only [create_run, h, afterLoading, hsystem, Bool.false_eq_true, if_false]
  rfl

/-- A resolver is made if its file is loaded, or if the system has refused something. -/
theorem loaded_or_refused {r : Resolver} (h : (create path true level machine).result = .ok r) :
    (EnvFile.load path level machine).result = .ok () ∨
      ∃ fault, (EnvFile.load path level machine).result = .error fault ∧
        fault.kind.isA .system = true := by
  cases hload : (EnvFile.load path level machine).result with
  | ok _ => exact .inl rfl
  | error fault =>
    cases hsystem : fault.kind.isA .system with
    | true => exact .inr ⟨fault, rfl, hsystem⟩
    | false =>
      rw [create_of_failed hload hsystem] at h
      cases h

end

/-- Nothing is left to load from a path: a resolver for it leaves the machine as it is, and every
machine to which it grows. -/
def Settled (path : Option String) (machine : Machine) : Prop :=
  ∀ later, EnvFile.GrowsTo machine later → ∀ level, (create path true level later).state = later

theorem Settled.mono {path : Option String} {machine larger : Machine} (h : Settled path machine)
    (hgrown : EnvFile.GrowsTo machine larger) : Settled path larger :=
  fun later hlater => h later (hgrown.trans hlater)

/-- Once a resolver has been made without a failure, nothing is left to load from its path. -/
theorem settled_of_create {path : Option String} {r : Resolver} {level : Level}
    {machine finish : Machine} {journal : List Mark}
    (h : create path true level machine = ⟨.ok r, finish, journal⟩) : Settled path finish := by
  intro later hlater again
  have hgrown := create_keeps (EnvFile.survivesBinding_growsTo machine) path level machine (.refl _)
  have hloaded := loaded_or_refused (congrArg Outcome.result h)
  rw [h] at hgrown
  have hfinish := create_state path level machine
  rw [h] at hfinish
  have hfiles : later.files = machine.files := (hgrown.trans hlater).1
  rw [create_state]
  rw [EnvFile.load_run] at hloaded hfinish ⊢
  rw [hfiles]
  cases hchoose : EnvFile.choose machine.files path with
  | error fault => rfl
  | ok found =>
    simp only [hchoose] at hloaded hfinish ⊢
    rw [EnvFile.loadAt_run] at hloaded hfinish ⊢
    by_cases hd : EnvFile.isDisabled later.environment = true
    · rw [if_pos hd]
    · -- loading was not switched off at the first time either
      have hd' : ¬ EnvFile.isDisabled machine.environment = true :=
        fun h' => hd (EnvFile.isDisabled_mono (hgrown.trans hlater).2 h')
      rw [if_neg hd]
      rw [if_neg hd'] at hloaded hfinish
      cases found with
      | none => rfl
      | some path =>
        simp only [hfiles] at hloaded hfinish ⊢
        cases hcontent : EnvFile.contentAt machine.files path with
        | error fault => rfl
        | ok text =>
          simp only [hcontent] at hloaded hfinish ⊢
          -- the system refuses none of the variables that a file gives
          obtain hload | ⟨fault, hfault, hsystem⟩ := hloaded
          · have hbound := (EnvFile.bound_of_assignMissing
              (Outcome.ext hload hfinish.symm rfl)).mono hlater.2
            unfold EnvFile.Bound at hbound
            rw [EnvFile.shape_values _ later.environment] at hbound
            rw [EnvFile.assignMissing_of_bound hbound]
          · rw [EnvFile.kind_of_assignMissing (fun _ => EnvFile.values_name_ne_empty) hfault]
              at hsystem
            cases hsystem

end Resolver
end AuthRelay
