import AuthRelay.Proofs.Session.Rotation
/-!
# What a session does to its environment

The library only ever adds to the environment, and it adds what an environment file gives. A name
that is bound keeps its value until the caller sets or unsets it. Files are loaded for resolvers
only, once for each: a resolver that has loaded its file never loads anything again, whatever
becomes of the file, and a resolver that is made like an earlier one finds nothing left to bind.
-/
namespace AuthRelay.Session

/-! ## What survives all steps of a history -/

/-- What survives each of some steps still holds after them. -/
theorem after_keeps {P : Machine → Table Resolver → Prop} {level : Level} {w : World}
    {steps : List Step}
    (hP : ∀ step ∈ steps, ∀ v : World, P v.machine v.resolvers → Survives P v step)
    (h : P w.machine w.resolvers) :
    P (after level w steps).2.machine (after level w steps).2.resolvers := by
  induction steps generalizing level w with
  | nil => exact h
  | cons step rest ih =>
    obtain ⟨hstep, hrest⟩ := List.forall_mem_cons.mp hP
    exact ih hrest (Step.perform_keeps (hstep w h) h)

/-- What is bound stays bound in a step in which the caller sets and unsets no variable. -/
theorem survives_within (environment : Environment) {step : Step}
    (hstep : step.setsVariable = false) (w : World) :
    Survives (fun machine _ => environment.Within machine.environment) w step where
  binding _ _ _ _ value hfree h := h.assign hfree value
  environment h := by rw [hstep] at h; cases h
  files _ _ _ _ h := h
  made _ _ _ _ _ _ _ h := h
  marked _ _ _ _ _ _ h := h

/-- Steps that load no file change no variable. -/
theorem survives_of_given {step : Step} {w : World} (hstep : step.setsVariable = false)
    (hgiven : step.given w = []) (environment : Environment) :
    Survives (fun machine _ => machine.environment = environment) w step where
  binding h := absurd hgiven h
  environment h := by rw [hstep] at h; cases h
  files _ _ _ _ h := h
  made _ _ _ _ _ _ _ h := h
  marked _ _ _ _ _ _ h := h

/-- A resolver that has loaded its file is left as it is by every step in which no other one is made
under its name. -/
theorem survives_loaded {name : String} {r : Resolver} (hr : r.loaded = true) {step : Step}
    (hstep : ∀ path loads, step ≠ .makeResolver name path loads) {w : World}
    (h : w.resolvers.find? name = some r) :
    Survives (fun _ resolvers => resolvers.find? name = some r) w step where
  binding _ _ _ _ _ _ h := h
  environment _ _ _ _ h := h
  files _ _ _ _ h := h
  made other path loads heq _ resolvers r' hfound := by
    have hne : other ≠ name := by
      rintro rfl
      exact hstep path loads heq
    rw [Table.find?_assign_of_ne hne]
    exact hfound
  marked other r' heq hr' _ resolvers hfound := by
    by_cases hname : other = name
    · subst hname
      cases hr'.symm.trans h
      rw [Table.find?_assign_self, ← hr]
    · rw [Table.find?_assign_of_ne hname]
      exact hfound

/-! ## Constructions that are repeated -/

/-- A step that works with the resolver of the given name. -/
def Step.isOn (name : String) : Step → Bool
  | .ensureLoaded n | .isLoaded n | .resolve n _ _ _ _ | .resolveFromFile n _ _ _ => n = name
  | _ => false

theorem onMachine_of_ok {α : Type} {x : Act Machine α} {level : Level} {w finish : World} {a : α}
    {journal : List Mark} (h : World.onMachine x level w = ⟨.ok a, finish, journal⟩) :
    x level w.machine = ⟨.ok a, finish.machine, journal⟩ := by
  cases ho : x level w.machine with
  | mk result machine entries =>
    simp only [World.onMachine, Act.zoom, ho] at h
    cases h
    rfl

/-- Making sources changes no file, and what was bound stays bound. -/
theorem makeAll_growsTo (plans : List SourcePlan) (level : Level) (w : World) :
    EnvFile.GrowsTo w.machine (SourcePlan.makeAll plans level w).state.machine :=
  makeAll_keeps (P := fun machine _ => EnvFile.GrowsTo w.machine machine) plans
    (fun p _ _ => Resolver.create_keeps (EnvFile.survivesBinding_growsTo w.machine) p) level w
    (.refl _)

/-- A step on a resolver that has loaded its file loads nothing. -/
theorem given_of_isOn {name : String} {step : Step} {w : World} {r : Resolver}
    (h : step.isOn name = true) (hfound : w.resolvers.find? name = some r)
    (hloaded : r.loaded = true) : step.setsVariable = false ∧ step.given w = [] := by
  cases step <;> simp only [Step.isOn, decide_eq_true_eq, Bool.false_eq_true] at h
  case ensureLoaded n =>
    subst h
    exact ⟨rfl, by simp [Step.given, hfound, hloaded]⟩
  all_goals exact ⟨rfl, rfl⟩

mutual

/-- Once a source has been made, nothing is left to load for it. -/
theorem settled_of_make (plan : SourcePlan) {level : Level} {w finish : World}
    {source : Source Provider} {journal : List Mark}
    (h : plan.make level w = ⟨.ok source, finish, journal⟩) :
    ∀ path ∈ plan.given, Resolver.Settled path finish.machine := by
  match plan with
  | .named _ | .fixed _ _ | .failing _ | .both _ _ | .lazy _ _ | .counting _ | .rotating _ =>
    simp [SourcePlan.given]
  | .environment _ _ _ (some _) => simp [SourcePlan.given]
  | .environment stem required path none =>
    obtain ⟨_, _, _, _, hresolver, hrest⟩ := Act.of_bind_ok h
    cases hrest
    obtain ⟨_, _, _, _, hcreate, hrest⟩ := Act.of_bind_ok hresolver
    cases hrest
    have hsettled := Resolver.settled_of_create (onMachine_of_ok hcreate)
    simpa [SourcePlan.given] using hsettled
  | .chain members =>
    obtain ⟨_, _, _, _, hmembers, hrest⟩ := Act.of_bind_ok h
    cases hrest
    exact settled_of_makeAll members hmembers

theorem settled_of_makeAll (plans : List SourcePlan) {level : Level} {w finish : World}
    {sources : List (Source Provider)} {journal : List Mark}
    (h : SourcePlan.makeAll plans level w = ⟨.ok sources, finish, journal⟩) :
    ∀ path ∈ SourcePlan.givenAll plans, Resolver.Settled path finish.machine := by
  match plans with
  | [] => simp [SourcePlan.givenAll]
  | plan :: rest =>
    obtain ⟨_, between, _, _, hplan, hothers⟩ := Act.of_bind_ok h
    obtain ⟨_, _, _, _, hrest, hpure⟩ := Act.of_bind_ok hothers
    cases hpure
    have hgrown := makeAll_growsTo rest level between
    rw [hrest] at hgrown
    intro path hmem
    rcases List.mem_append.mp hmem with hmem | hmem
    · exact (settled_of_make plan hplan path hmem).mono hgrown
    · exact settled_of_makeAll rest hrest path hmem

end

/-- A source for which nothing is left to load is made without a change to the machine. -/
theorem make_of_settled {plan : SourcePlan} {w : World}
    (h : ∀ path ∈ plan.given, Resolver.Settled path w.machine) (level : Level) :
    (plan.make level w).state.machine = w.machine := by
  refine make_keeps (P := fun machine _ => machine = w.machine) plan (fun path hmem _ => ?_)
    level w rfl
  rintro again _ rfl
  exact h path hmem w.machine (.refl _) again

/-- A resolver is put under its name, unless it cannot be made. -/
theorem makeResolver_run (name : String) (path : Option String) (loads : Bool) (level : Level)
    (w : World) :
    let made := Resolver.create path loads level w.machine
    (Step.makeResolver name path loads).perform level w =
      match made.result with
      | .error fault => ⟨.error fault, { w with machine := made.state }, made.journal⟩
      | .ok r => ⟨.ok .nothing,
          { w with machine := made.state, resolvers := w.resolvers.assign name r }, made.journal⟩ := by
  intro made
  rw [Step.perform]
  cases hr : made.result with
  | error fault =>
    have hrun : World.onMachine (Resolver.create path loads) level w =
        ⟨.error fault, { w with machine := made.state }, made.journal⟩ := by
      rw [← hr]
      rfl
    rw [Act.bind_of_error hrun]
  | ok r =>
    have hrun : World.onMachine (Resolver.create path loads) level w =
        ⟨.ok r, { w with machine := made.state }, made.journal⟩ := by
      rw [← hr]
      rfl
    rw [Act.bind_of_ok hrun]
    simp [bind, Act.bind, Act.modify, pure, Act.pure]

theorem makeResolver_machine (name : String) (path : Option String) (loads : Bool) (level : Level)
    (w : World) : ((Step.makeResolver name path loads).perform level w).state.machine =
      (Resolver.create path loads level w.machine).state := by
  rw [makeResolver_run]
  cases (Resolver.create path loads level w.machine).result <;> rfl

/-- A resolver that has been made has nothing left to load. -/
theorem settled_of_makeResolver {name : String} {path : Option String} {level : Level} {w : World}
    {answer : Answer}
    (h : ((Step.makeResolver name path true).perform level w).result = .ok answer) :
    Resolver.Settled path ((Step.makeResolver name path true).perform level w).state.machine := by
  rw [makeResolver_machine]
  rw [makeResolver_run] at h
  cases ho : Resolver.create path true level w.machine with
  | mk result machine journal =>
    cases result with
    | error fault =>
      rw [ho] at h
      cases h
    | ok r => exact Resolver.settled_of_create ho

/-! ## Whole sessions -/

/-- The caller sets and unsets no variable in some steps. It may change files in them. -/
def LeavesVariables (steps : List Step) : Prop :=
  ∀ step ∈ steps, step.setsVariable = false

instance (steps : List Step) : Decidable (LeavesVariables steps) :=
  inferInstanceAs (Decidable (∀ step ∈ steps, step.setsVariable = false))

theorem LeavesVariables.within {steps : List Step} (h : LeavesVariables steps) (level : Level)
    (w : World) :
    w.machine.environment.Within (after level w steps).2.machine.environment :=
  after_keeps (P := fun machine _ => w.machine.environment.Within machine.environment)
    (fun step hmem v _ => survives_within w.machine.environment (h step hmem) v) (.refl _)

/-- What is settled when something has been made is settled later on, if the files are the same. -/
theorem LeavesVariables.settled {steps : List Step} (h : LeavesVariables steps) {level : Level}
    {made : World} {path : Option String} (hpath : Resolver.Settled path made.machine)
    (hfiles : (after level made steps).2.machine.files = made.machine.files) :
    Resolver.Settled path (after level made steps).2.machine :=
  hpath.mono ⟨hfiles, h.within level made⟩

/-- The library only ever adds to the environment, and it loads an environment file once for each
resolver. In every session in which the caller sets and unsets no variable, whatever else happens
and whatever fails, what is bound keeps its value. A step changes the environment only if it makes
resolvers that load, or tells one to load that has not. One that has loaded stays as it is, and no
step on it changes the environment again. And once a source or a resolver has been made without a
failure, one that is made in the same way changes nothing as long as the files and the working
directory are the same. -/
theorem environment_only_grows :
    (∀ (level : Level) (w : World) (steps : List Step), LeavesVariables steps →
      w.machine.environment.Within (after level w steps).2.machine.environment) ∧
    (∀ (level : Level) (w : World) (step : Step), step.setsVariable = false → step.given w = [] →
      (step.perform level w).state.machine.environment = w.machine.environment) ∧
    (∀ (level : Level) (w : World) (steps : List Step) (name : String) (r : Resolver),
      w.resolvers.find? name = some r → r.loaded = true →
      (∀ path loads, Step.makeResolver name path loads ∉ steps) →
      let reached := after level w steps
      reached.2.resolvers.find? name = some r ∧
      ∀ step : Step, step.isOn name = true →
        (step.perform reached.1 reached.2).state.machine.environment =
          reached.2.machine.environment) ∧
    (∀ (plan : SourcePlan) (level : Level) (w : World) (source : Source Provider),
      (plan.make level w).result = .ok source →
      ∀ steps : List Step, LeavesVariables steps →
      let made := (plan.make level w).state
      let later := after level made steps
      later.2.machine.files = made.machine.files →
      (plan.make later.1 later.2).state.machine.environment = later.2.machine.environment) ∧
    ∀ (name : String) (path : Option String) (loads : Bool) (level : Level) (w : World)
      (answer : Answer),
      ((Step.makeResolver name path loads).perform level w).result = .ok answer →
      ∀ steps : List Step, LeavesVariables steps →
      let made := ((Step.makeResolver name path loads).perform level w).state
      let later := after level made steps
      later.2.machine.files = made.machine.files →
      ∀ again : String,
        ((Step.makeResolver again path loads).perform later.1 later.2).state.machine.environment =
          later.2.machine.environment := by
  have hgiven : ∀ (level : Level) (w : World) (step : Step), step.setsVariable = false →
      step.given w = [] →
      (step.perform level w).state.machine.environment = w.machine.environment :=
    fun level w step hstep hnone =>
      Step.perform_keeps (survives_of_given hstep hnone w.machine.environment) rfl
  refine ⟨fun level w steps h => h.within level w, hgiven, ?_, ?_, ?_⟩
  · intro level w steps name r hfound hloaded hsteps reached
    -- the name goes on to lead to the resolver that has loaded, so no step on it loads
    have hreached : reached.2.resolvers.find? name = some r := by
      refine after_keeps (P := fun _ resolvers => resolvers.find? name = some r) ?_ hfound
      intro step hmem v hv
      refine survives_loaded hloaded (fun path loads heq => ?_) hv
      rw [heq] at hmem
      exact hsteps path loads hmem
    refine ⟨hreached, fun step hon => ?_⟩
    obtain ⟨hstep, hnone⟩ := given_of_isOn hon hreached hloaded
    exact hgiven reached.1 reached.2 step hstep hnone
  · intro plan level w source hmade steps hsteps made later hfiles
    -- every file that the plan loads has been loaded, so its names are bound
    have hsettled : ∀ path ∈ plan.given, Resolver.Settled path made.machine := by
      cases ho : plan.make level w with
      | mk result finish journal =>
        rw [ho] at hmade
        cases hmade
        have hfinish : made = finish := congrArg Outcome.state ho
        rw [hfinish]
        exact settled_of_make plan ho
    rw [make_of_settled (fun path hmem => hsteps.settled (hsettled path hmem) hfiles) later.1]
  · intro name path loads level w answer hmade steps hsteps made later hfiles again
    rw [makeResolver_machine]
    cases loads with
    | false => rfl
    | true =>
      have hsettled := hsteps.settled (settled_of_makeResolver hmade) hfiles
      rw [hsettled later.2.machine (.refl _)]

/-- A file that gives a variable, and nothing that is bound. -/
def withEnvFile : World where
  machine := {
    environment := []
    files := ⟨[([".env"], .file (Text.Utf8.encode "A=1\n"))], { place := [] }⟩ }

/-- The file gets another value and another variable, and one more resolver is made. -/
def changeEnvFile : List Step :=
  [.write "/.env" (Text.Utf8.encode "A=2\nB=3\n"), .makeResolver "s" none true]

/-- A file is changed after it has been loaded. The resolver does not load it again. One that is
made later does, but what was bound stays. Without the change it finds nothing left to load. -/
theorem environment_only_grows_changed_file :
    let loaded := ((Step.makeResolver "r" none true).perform .warning withEnvFile).state
    let changed := after .warning loaded changeEnvFile
    let unchanged := after .warning loaded [.ensureLoaded "r"]
    loaded.machine.environment = [("A", "1")] ∧
    changed.2.machine.environment = [("A", "1"), ("B", "3")] ∧
    loaded.machine.environment.Within changed.2.machine.environment ∧
    ((Step.ensureLoaded "r").perform changed.1 changed.2).state.machine.environment =
      changed.2.machine.environment ∧
    ((Step.makeResolver "s" none true).perform unchanged.1 unchanged.2).state.machine.environment =
      unchanged.2.machine.environment := by
  obtain ⟨hgrows, -, honce, -, hrepeated⟩ := environment_only_grows
  refine ⟨by decide +kernel, by decide +kernel, ?_, ?_, ?_⟩
  · exact hgrows .warning _ changeEnvFile (by decide)
  · refine (honce .warning _ changeEnvFile "r" ⟨none, true, true⟩ ?_ rfl ?_).2 (.ensureLoaded "r") rfl
    · decide +kernel
    · simp [changeEnvFile]
  · refine hrepeated "r" none true .warning withEnvFile .nothing ?_ [.ensureLoaded "r"] (by decide)
      ?_ "s"
    · have hmade : (Resolver.create none true .warning withEnvFile.machine).result =
          .ok ⟨none, true, true⟩ := by decide +kernel
      rw [makeResolver_run, hmade]
    · decide +kernel

end AuthRelay.Session
