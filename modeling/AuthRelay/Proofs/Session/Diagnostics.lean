import AuthRelay.Proofs.Session.Machine
import AuthRelay.Proofs.Session.Secrets
/-!
# Secrets never show

What shows of a session in diagnostics are its records, its failures, and credentials in the form in
which they are shown. Two sessions with the same steps that differ in secrets only show the same. A
step of the one is performed in step with that of the other, as long as no secret variable has a say
in where a secret file is or in what an environment file binds.
-/
namespace AuthRelay.Session

/-! ## What shows -/

/-- The failures in an answer: that of a send, and those of the uses of a response. -/
def Answer.failures : Answer → List Fault
  | .delivery d =>
    match d.result with
    | .error fault => [fault]
    | .ok receipt => receipt.uses.filterMap fun
      | .error fault => some fault
      | .ok _ => none
  | _ => []

/-- The credential sets and sources in an answer, as diagnostics show them. -/
def Answer.shown : Answer → List String
  | .credentials c => [c.masked]
  | .candidates l => l.map CredentialSet.masked
  | .description d => d.shown.toList
  | _ => []

/-- What shows of a step in diagnostics: its records, its failures with all that their kinds and
messages say, and credentials as they are shown. -/
structure Exposure where
  records : List Record
  failures : List Fault
  shown : List String
  deriving DecidableEq

/-- What shows of a step. -/
def Report.exposed (report : Report) : Exposure :=
  match report.result with
  | .error fault => ⟨recordsOf report.journal, [fault], []⟩
  | .ok answer => ⟨recordsOf report.journal, answer.failures, answer.shown⟩

/-- Two answers of which the same shows. -/
def Answer.Twins (a a' : Answer) : Prop :=
  a.failures = a'.failures ∧ a.shown = a'.shown

theorem Answer.Twins.refl (a : Answer) : a.Twins a :=
  ⟨rfl, rfl⟩

theorem candidates_twins {sets sets' : List CredentialSet}
    (h : List.Forall₂ CredentialSet.Twins sets sets') :
    (Answer.candidates sets).Twins (.candidates sets') := by
  refine ⟨rfl, ?_⟩
  show sets.map CredentialSet.masked = sets'.map CredentialSet.masked
  induction h with
  | nil => rfl
  | cons hset _ ih => rw [List.map_cons, List.map_cons, hset.masked_eq, ih]

theorem delivery_twins {d d' : Delivery} (h : d.result = d'.result) :
    (Answer.delivery d).Twins (.delivery d') := by
  refine ⟨?_, rfl⟩
  simp only [Answer.failures, h]

/-! ## Steps that differ in secrets -/

/-- The plan of the source that a step makes. -/
def Step.plan? : Step → Option SourcePlan
  | .keepSource _ plan | .describe plan | .askOne plan | .askAll plan | .gather plan
  | .makeRelay _ _ _ plan _ => some plan
  | .assignRelay _ _ plan => plan
  | _ => none

/-- Two steps that differ in secrets only: in the value of a secret variable, the content of a
secret file, the value or default that is resolved, or the sets in the plan of a source. -/
inductive Step.Twins (V : Veil) : Step → Step → Prop
  | same {step : Step} (h : step.plan? = none) : Twins V step step
  | setVariable (name : String) {value value' : String} (h : V.Under name value value') :
    Twins V (.setVariable name value) (.setVariable name value')
  | write (path : String) {content content' : Bytes} (h : ContentTwins content content') :
    Twins V (.write path content) (.write path content')
  | resolve (name : String) {value value' : Option String} (variableName : Option String)
      {fallback fallback' : Option String} (required : Bool)
      (hvalue : Option.Rel (fun _ _ => True) value value')
      (hfallback : Option.Rel (fun _ _ => True) fallback fallback') :
    Twins V (.resolve name value variableName fallback required)
      (.resolve name value' variableName fallback' required)
  | keepSource (name : String) {plan plan' : SourcePlan} (h : plan.Twins plan') :
    Twins V (.keepSource name plan) (.keepSource name plan')
  | describe {plan plan' : SourcePlan} (h : plan.Twins plan') :
    Twins V (.describe plan) (.describe plan')
  | askOne {plan plan' : SourcePlan} (h : plan.Twins plan') :
    Twins V (.askOne plan) (.askOne plan')
  | askAll {plan plan' : SourcePlan} (h : plan.Twins plan') :
    Twins V (.askAll plan) (.askAll plan')
  | gather {plan plan' : SourcePlan} (h : plan.Twins plan') :
    Twins V (.gather plan) (.gather plan')
  | makeRelay (name : String) (mode : Mode) (target : String) {plan plan' : SourcePlan}
      (carrier : CarrierPlan) (h : plan.Twins plan') :
    Twins V (.makeRelay name mode target plan carrier) (.makeRelay name mode target plan' carrier)
  | assignRelay (name : String) (target : Option String) {plan plan' : SourcePlan}
      (h : plan.Twins plan') :
    Twins V (.assignRelay name target (some plan)) (.assignRelay name target (some plan'))

/-- What the resolvers that load an environment file in a step load. -/
def Step.loads (level : Level) (w : World) : Step → List (Environment × Option String)
  | .makeResolver _ path loads => if loads then [(w.machine.environment, path)] else []
  | .ensureLoaded name =>
    ((w.resolvers.find? name).toList.filter fun r => !r.loaded).map fun r =>
      (w.machine.environment, r.path)
  | .keepSource _ plan | .describe plan | .askOne plan | .askAll plan | .gather plan
  | .makeRelay _ _ _ plan _ => plan.loads level w
  | .assignRelay name target (some plan) =>
    match w.relays.find? name with
    | none => []
    | some stack => plan.loads level (assignLayer stack target none level w).state
  | _ => []

/-- A step in whose course no secret variable has a say in where a secret file is or in what an
environment file binds. -/
structure Step.IsDiscreet (V : Veil) (level : Level) (w w' : World) (step : Step) : Prop where
  loads : ∀ load ∈ step.loads level w,
    EnvFile.LoadsAlike V load.1 w.machine.files w'.machine.files load.2
  file : ∀ name path variableName required,
    step = .resolveFromFile name path variableName required →
      V.ClearFile w.machine.environment path variableName
  paths : V.PathsClear (step.perform level w).state.machine.environment

/-- Two sessions whose steps are discreet as they come. -/
def Discreet (V : Veil) : Level → World → World → List Step → List Step → Prop
  | level, w, w', step :: rest, step' :: rest' =>
    step.IsDiscreet V level w w' ∧
      Discreet V (step.threshold level) (step.perform level w).state (step'.perform level w').state
        rest rest'
  | _, _, _, _, _ => True

/-! ## Steps in step -/

section

variable {V : Veil} {level : Level} {w w' : World}

/-- The trees that are there when a step begins. -/
theorem World.Twins.loading (hw : w.Twins (Machine.Twins V) w') :
    w.Twins (EnvFile.Loading V w.machine.files w'.machine.files) w' :=
  hw.mono ⟨hw.machine, rfl, rfl⟩

/-- What does not change two machines can be followed on these two alone. -/
theorem inStepAt_of_held {α β : Type} {S : α → β → Prop} {x : Act World α} {y : Act World β}
    (hw : w.Twins (Machine.Twins V) w')
    (h : Together (Machine.Held w.machine w'.machine) S x y) :
    Act.InStepAt (World.Twins (Machine.Twins V)) S x y level w w' := by
  refine (h level w w' (hw.mono ⟨rfl, rfl⟩)).mono (fun v v' hv => hv.mono ?_) fun _ _ h => h
  rw [← hv.machine.1, ← hv.machine.2]
  exact hw.machine

/-- What is done while the files stay as they are. -/
theorem inStepAt_of_loading {α β : Type} {S : α → β → Prop} {x : Act World α} {y : Act World β}
    {files files' : Files}
    (h : Act.InStepAt (World.Twins (EnvFile.Loading V files files')) S x y level w w') :
    Act.InStepAt (World.Twins (Machine.Twins V)) S x y level w w' :=
  h.mono (fun _ _ hv => hv.mono hv.machine.1) fun _ _ h => h

theorem changeFiles_together (paths : List String) {f f' : Files → Files.Edited}
    (hf : ∀ files files', files.Twins files' → (f files).Twins (f' files')) :
    Together (Machine.Twins V) Answer.Twins (changeFiles paths f) (changeFiles paths f') := by
  unfold changeFiles
  by_cases h : paths.any holdsNul = true
  · simp only [if_pos h, Act.fail_bind]
    exact .fail _
  · simp only [if_neg h]
    refine .get_bind fun v v' hv => ?_
    have hedited := hf _ _ hv.machine.files
    refine Act.InStep.bind (S := Eq) (.modify fun u u' hu => ?_) fun _ _ _ => ?_
    · exact hu.onMachines ⟨hu.machine.environment, hedited.files, hu.machine.homes⟩
    · rw [hedited.fault]
      cases (f' v'.machine.files).fault with
      | none => exact .pure (.refl _)
      | some cause => exact .fail _

theorem changeEnvironment_together {f f' : Environment → Environment}
    (hf : ∀ environment environment', Environment.Twins V environment environment' →
      Environment.Twins V (f environment) (f' environment')) :
    Together (Machine.Twins V) Answer.Twins (changeEnvironment f) (changeEnvironment f') := by
  refine (onMachine_together (.modify fun machine machine' h => ?_)).bind fun _ _ _ =>
    .pure (.refl _)
  exact ⟨hf _ _ h.environment, h.files, h.homes⟩

variable {plan plan' : SourcePlan}

/-- A source is made and then something is done with it that changes nothing on the machine. -/
theorem make_bind_together {α β : Type} {S : α → β → Prop} (h : plan.Twins plan')
    (hw : w.Twins (Machine.Twins V) w')
    (hload : ∀ load ∈ plan.loads level w,
      EnvFile.LoadsAlike V load.1 w.machine.files w'.machine.files load.2)
    {f : Source Provider → Act World α} {f' : Source Provider → Act World β}
    (hkeeps : ∀ machine source, Preserves (fun m _ => m = machine) (f source))
    (hf : ∀ source source' machine machine', SourceTwins source source' →
      machine.Twins V machine' → V.PathsClear machine.environment →
        Together (Machine.Held machine machine') S (f source) (f' source'))
    (hclear : V.PathsClear ((plan.make >>= f) level w).state.machine.environment) :
    Act.InStepAt (World.Twins (Machine.Twins V)) S (plan.make >>= f) (plan'.make >>= f') level w
      w' := by
  have hmake := make_together level h hw.loading hload
  refine (inStepAt_of_loading hmake).bind fun source source' v v' _ _ hrun _ hsource hv => ?_
  -- the machine that the source is used on is the one that the step leaves
  have hkept : (f source level v).state.machine = v.machine := hkeeps v.machine source level v rfl
  rw [Act.bind_of_ok hrun, hkept] at hclear
  exact inStepAt_of_held hv (hf source source' _ _ hsource hv.machine hclear)

theorem assignLayer_eq (stack : Stack) (target : Option String) (plan : Option SourcePlan) :
    assignLayer stack target plan =
      assignLayer stack target none >>= fun _ => assignLayer stack none plan := by
  cases target with
  | none => exact (pure_bind _ _).symm
  | some target =>
    simp only [assignLayer, bind_assoc, pure_bind]

/-- An assignment of no source. -/
theorem assignLayer_none_together {M : Machine → Machine → Prop} (stack : Stack)
    (target : Option String) :
    Together M Eq (assignLayer stack target none) (assignLayer stack target none) := by
  cases target with
  | none => exact .pure rfl
  | some target =>
    exact (changeLayer_together stack fun _ _ hlayer => by exact ⟨rfl, hlayer.source⟩).bind_eq
      fun _ => .pure rfl

theorem assignLayer_together (stack : Stack) (target : Option String) (h : plan.Twins plan')
    (hw : w.Twins (Machine.Twins V) w')
    (hload : ∀ load ∈ plan.loads level (assignLayer stack target none level w).state,
      EnvFile.LoadsAlike V load.1 w.machine.files w'.machine.files load.2) :
    Act.InStepAt (World.Twins (Machine.Twins V)) Eq (assignLayer stack target (some plan))
      (assignLayer stack target (some plan')) level w w' := by
  rw [assignLayer_eq stack target (some plan), assignLayer_eq stack target (some plan')]
  refine inStepAt_of_loading
    ((assignLayer_none_together stack target level w w' hw.loading).bind ?_)
  intro _ _ v v' _ _ hrun _ _ hv
  rw [hrun] at hload
  exact (make_together level h hv hload).bind_inStep fun source source' hsource =>
    changeLayer_together stack fun _ _ hlayer => ⟨hlayer.target, hsource⟩

theorem named_inversion {α : Type} {table : World → Table α} {name : String} {v : World} {a : α}
    {j : List Mark} (h : World.named table name level w = ⟨.ok a, v, j⟩) :
    (table w).find? name = some a ∧ v = w := by
  cases hfound : (table w).find? name with
  | none =>
    rw [named_of_none hfound] at h
    cases h
  | some found =>
    rw [named_of_some hfound] at h
    cases h
    exact ⟨rfl, rfl⟩

theorem keepResolver_together {M : Machine → Machine → Prop} (name : String) (r : Resolver)
    (answer : Answer) :
    Together M Answer.Twins
      (do Act.modify fun w => { w with resolvers := w.resolvers.assign name r }; pure answer)
      (do Act.modify fun w => { w with resolvers := w.resolvers.assign name r }; pure answer) :=
  (Act.InStep.modify fun _ _ hv => by
    exact { hv with resolvers := congrArg (·.assign name r) hv.resolvers }).bind fun _ _ _ =>
      .pure (.refl _)

theorem ensureLoaded_together (name : String) (hw : w.Twins (Machine.Twins V) w')
    (hdiscreet : (Step.ensureLoaded name).IsDiscreet V level w w') :
    Act.InStepAt (World.Twins (Machine.Twins V)) Answer.Twins (Step.ensureLoaded name).perform
      (Step.ensureLoaded name).perform level w w' := by
  refine inStepAt_of_loading
    ((named_together_eq (fun _ _ hw => hw.resolvers) name level w w' hw.loading).bind ?_)
  rintro r _ v v' _ _ hrun - rfl hv
  -- the resolver that is found is the one whose file `Step.loads` tells
  obtain ⟨hfound, rfl⟩ := named_inversion hrun
  have hload : r.loaded = false →
      EnvFile.LoadsAlike V v.machine.environment v.machine.files w'.machine.files r.path :=
    fun hl => hdiscreet.loads (v.machine.environment, r.path) (by simp [Step.loads, hfound, hl])
  have hensure := Resolver.ensureLoaded_inStep hv.machine r hload level
  refine (Act.InStepAt.zoom (fun _ _ => hv.onMachines) hensure).bind_inStep ?_
  rintro loaded _ rfl
  exact keepResolver_together name loaded _

theorem makeResolver_together (name : String) (path : Option String) (loads : Bool)
    (hw : w.Twins (Machine.Twins V) w')
    (hdiscreet : (Step.makeResolver name path loads).IsDiscreet V level w w') :
    Act.InStepAt (World.Twins (Machine.Twins V)) Answer.Twins
      (Step.makeResolver name path loads).perform (Step.makeResolver name path loads).perform level
      w w' := by
  have hcreate : Act.InStepAt (EnvFile.Loading V w.machine.files w'.machine.files) Eq
      (Resolver.create path loads) (Resolver.create path loads) level w.machine w'.machine := by
    cases loads with
    | false => exact Act.InStep.pure rfl level _ _ hw.loading.machine
    | true =>
      exact Resolver.create_inStep hw.loading.machine
        (hdiscreet.loads (w.machine.environment, path) (by simp [Step.loads])) level
  refine inStepAt_of_loading
    ((Act.InStepAt.zoom (fun _ _ => hw.loading.onMachines) hcreate).bind_inStep ?_)
  rintro r _ rfl
  exact keepResolver_together name r _

theorem send_step_machine (relay : String) (plan : RequestPlan) (uses : List Use) :
    ((Step.send relay plan uses).perform level w).state.machine = w.machine := by
  refine Step.perform_keeps (P := fun machine _ => machine = w.machine) ?_ rfl
  exact {
    binding := fun h => absurd rfl h
    environment := fun h => by cases h
    files := fun h => by cases h
    made := fun _ _ _ h => by cases h
    marked := fun _ _ h => by cases h }

/-- What is resolved is not recorded, nor has it a say in whether anything is. -/
theorem resolve_together (name : String) {value value' : Option String}
    (variableName : Option String) {fallback fallback' : Option String} (required : Bool)
    (hvalue : Option.Rel (fun _ _ => True) value value')
    (hfallback : Option.Rel (fun _ _ => True) fallback fallback')
    (hw : w.Twins (Machine.Twins V) w') :
    Act.InStepAt (World.Twins (Machine.Twins V)) Answer.Twins
      (Step.resolve name value variableName fallback required).perform
      (Step.resolve name value' variableName fallback' required).perform level w w' := by
  refine inStepAt_of_held hw (Act.InStep.bind (S := Eq) ?_ fun _ _ _ => ?_)
  · exact (named_together_eq (fun _ _ hw => hw.resolvers) name).bind_eq fun _ => .pure rfl
  · exact (onMachine_together (Resolver.resolve_inStep hw.machine hvalue
      (fun _ _ _ _ _ => trivial) hfallback required)).bind fun _ _ _ => .pure ⟨rfl, rfl⟩

/-- A step that makes no source and is the same in both worlds. -/
theorem perform_same {step : Step} (h : step.plan? = none) (hw : w.Twins (Machine.Twins V) w')
    (hdiscreet : step.IsDiscreet V level w w') :
    Act.InStepAt (World.Twins (Machine.Twins V)) Answer.Twins step.perform step.perform level w
      w' := by
  cases step
  case keepSource | describe | askOne | askAll | gather | makeRelay => cases h
  -- steps that depend on what is loaded or read
  case ensureLoaded name => exact ensureLoaded_together name hw hdiscreet
  case makeResolver name path loads => exact makeResolver_together name path loads hw hdiscreet
  case send relay plan uses =>
    have hclear := hdiscreet.paths
    rw [send_step_machine] at hclear
    refine inStepAt_of_held hw ((RequestPlan.make_together plan).bind fun _ _ hrequest =>
      (named_together_eq (fun _ _ hw => hw.relays) relay).bind_eq fun stack =>
        (deliver_together hw.machine hclear stack uses hrequest).bind ?_)
    rintro ⟨delivery, left⟩ ⟨delivery', left'⟩ ⟨hresult, hleft⟩
    exact (RequestPlan.keep_together plan hleft).bind fun _ _ _ => .pure (delivery_twins hresult)
  case resolveFromFile name path variableName required =>
    refine inStepAt_of_held hw (Act.InStep.bind (S := Eq) ?_ fun _ _ _ => ?_)
    · exact (named_together_eq (fun _ _ hw => hw.resolvers) name).bind_eq fun _ => .pure rfl
    · exact (onMachine_together (Resolver.resolveFromFile_inStep hw.machine
        (hdiscreet.file name path variableName required rfl) required)).bind fun _ _ _ =>
          .pure ⟨rfl, rfl⟩
  case resolve name value variableName fallback required =>
    exact resolve_together name variableName required (optionRel_refl (fun _ => trivial) value)
      (optionRel_refl (fun _ => trivial) fallback) hw
  -- steps that are in step wherever the machines differ in secrets only
  all_goals
    refine (?_ : Together (Machine.Twins V) Answer.Twins (Step.perform _) (Step.perform _)) level w
      w' hw
    simp only [Step.perform]
  case setVariable name value =>
    cases EnvFile.bindingFault? name value with
    | some fault => exact .fail _
    | none => exact changeEnvironment_together fun _ _ h => h.assign (.inl rfl)
  case unsetVariable name => exact changeEnvironment_together fun _ _ h => h.without name
  case showEnvironment => exact .get_bind fun _ _ _ => .pure ⟨rfl, rfl⟩
  case write path content => exact changeFiles_together _ fun _ _ h => h.write path (.refl _)
  case makeDirectory path => exact changeFiles_together _ fun _ _ h => h.makeDirectoriesAlong _
  case link path target => exact changeFiles_together _ fun _ _ h => h.link path target
  case remove path => exact changeFiles_together _ fun _ _ h => h.remove path
  case changeDirectory path => exact changeFiles_together _ fun _ _ h => h.changeDirectory path
  case loseDirectory path => exact changeFiles_together _ fun _ _ h => h.loseDirectory path
  case setThreshold => exact .pure (.refl _)
  case isLoaded name =>
    exact (named_together_eq (fun _ _ hw => hw.resolvers) name).bind_eq fun _ => .pure (.refl _)
  case assignRelay name target plan =>
    cases h
    refine (named_together_eq (fun _ _ hw => hw.relays) name).bind_eq fun stack => ?_
    exact (assignLayer_none_together stack target).bind_eq fun _ => .pure (.refl _)
  case keepRequest name draft =>
    exact (Act.InStep.ofExcept (.of_eq rfl)).bind_eq fun request =>
      (keepRequest_together name (.refl request)).bind_eq fun _ => .pure ⟨rfl, rfl⟩
  case editRequest name edit =>
    refine (named_together (fun _ _ hw => hw.requests) name).bind fun _ _ hrequest => ?_
    refine (editRequest_together edit hrequest).bind ?_
    rintro ⟨result, edited⟩ ⟨_, edited'⟩ ⟨rfl, hedited⟩
    exact (keepRequest_together name hedited).bind fun _ _ _ =>
      (Act.InStep.ofExcept (.of_eq rfl)).bind fun _ _ _ => .pure ⟨rfl, rfl⟩
  case enter relay =>
    exact (named_together_eq (fun _ _ hw => hw.relays) relay).bind_eq fun stack =>
      (enter_together stack).bind_eq fun _ => .pure (.refl _)
  case exit relay kind =>
    exact (named_together_eq (fun _ _ hw => hw.relays) relay).bind_eq fun stack =>
      (exit_together stack kind).bind_eq fun _ => .pure (.refl _)
  case close relay =>
    exact (named_together_eq (fun _ _ hw => hw.relays) relay).bind_eq fun stack =>
      (close_together stack).bind_eq fun _ => .pure (.refl _)

/-- A step and one that differs from it in secrets only are performed in step, and the same shows of
their answers. -/
theorem perform_together {step step' : Step} (h : step.Twins V step')
    (hw : w.Twins (Machine.Twins V) w') (hdiscreet : step.IsDiscreet V level w w') :
    Act.InStepAt (World.Twins (Machine.Twins V)) Answer.Twins step.perform step'.perform level w
      w' := by
  have hkeep : ∀ (machine : Machine) (source : Source Provider),
      ∀ supplier ∈ (suppliers source).leaves, supplier.Keeps fun w => w.machine = machine :=
    fun machine source => leaves_keep (P := fun m _ => m = machine) source
  cases h with
  | same h => exact perform_same h hw hdiscreet
  | setVariable name hunder =>
    refine (?_ : Together (Machine.Twins V) Answer.Twins _ _) level w w' hw
    simp only [Step.perform, hunder.veiled.bindingFault?_eq name]
    cases EnvFile.bindingFault? name _ with
    | some fault => exact .fail _
    | none => exact changeEnvironment_together fun _ _ h => h.assign hunder
  | write path hcontent =>
    exact changeFiles_together _ (fun _ _ h => h.write path hcontent) level w w' hw
  | resolve name variableName required hvalue hfallback =>
    exact resolve_together name variableName required hvalue hfallback hw
  | keepSource name hplan =>
    refine inStepAt_of_loading ((make_together level hplan hw.loading hdiscreet.loads).bind_inStep
      fun source source' hsource => ?_)
    exact (Act.InStep.modify fun _ _ hv => by
      exact { hv with sources := hv.sources.assign hsource }).bind fun _ _ _ => .pure (.refl _)
  | describe hplan =>
    refine inStepAt_of_loading ((make_together level hplan hw.loading hdiscreet.loads).bind_inStep
      fun source source' hsource => .pure ⟨rfl, ?_⟩)
    exact congrArg Option.toList hsource.shown_eq
  | askOne hplan =>
    refine make_bind_together hplan hw hdiscreet.loads (fun machine source => ?_) ?_ hdiscreet.paths
    · exact (Source.one_keeps (hkeep machine source)).bind fun _ => .pure _
    · intro source source' machine machine' hsource hm hclear
      exact (suppliers_together hm hclear hsource).one.bind fun set set' hset =>
        .pure ⟨rfl, congrArg ([·]) hset.masked_eq⟩
  | askAll hplan =>
    refine make_bind_together hplan hw hdiscreet.loads (fun machine source => ?_) ?_ hdiscreet.paths
    · exact (Source.all_keeps (hkeep machine source)).bind fun _ => .pure _
    · intro source source' machine machine' hsource hm hclear
      exact (suppliers_together hm hclear hsource).all.bind fun _ _ hsets =>
        .pure (candidates_twins hsets)
  | gather hplan =>
    refine make_bind_together hplan hw hdiscreet.loads (fun machine source => ?_) ?_ hdiscreet.paths
    · exact (Source.gather_keeps (hkeep machine source)).bind fun _ => .pure _
    · intro source source' machine machine' hsource hm hclear
      exact (suppliers_together hm hclear hsource).gather.bind fun _ _ hsets =>
        .pure (candidates_twins hsets.toList)
  | makeRelay name mode target carrier hplan =>
    simp only [Step.perform, makeStack_eq]
    refine inStepAt_of_loading (((make_together level hplan hw.loading hdiscreet.loads).bind_inStep
      fun source source' hsource => (CarrierPlan.make_together carrier).bind_eq fun inner =>
        placeRelay_together mode target hsource inner).bind_inStep ?_)
    rintro stack _ rfl
    exact (Act.InStep.modify fun _ _ hv => by
      exact { hv with relays := congrArg (·.assign name stack) hv.relays }).bind fun _ _ _ =>
        .pure (.refl _)
  | assignRelay name target hplan =>
    refine ((named_together_eq (fun _ _ hw => hw.relays) name level w w' hw)).bind ?_
    rintro stack _ v v' _ _ hrun hrun' rfl hv
    obtain ⟨hfound, rfl⟩ := named_inversion hrun
    obtain ⟨-, rfl⟩ := named_inversion hrun'
    refine (assignLayer_together stack target hplan hw fun load hmem => ?_).bind_inStep
      fun _ _ _ => .pure (.refl _)
    exact hdiscreet.loads load (by simpa only [Step.loads, hfound] using hmem)

/-- What shows of two steps in step is the same. -/
theorem exposed_eq_of_inStepAt {M : Machine → Machine → Prop} {x y : Act World Answer}
    (h : Act.InStepAt (World.Twins M) Answer.Twins x y level w w') :
    Report.exposed ⟨(x level w).result, (x level w).journal⟩ =
      Report.exposed ⟨(y level w').result, (y level w').journal⟩ := by
  obtain ⟨hresult, -, hrecords⟩ := h
  generalize (x level w).result = found, (y level w').result = found' at hresult
  cases hresult with
  | error fault => simp only [Report.exposed, hrecords]
  | ok hanswer => simp only [Report.exposed, hrecords, hanswer.1, hanswer.2]

/-- Secrets never show: two sessions with the same steps that differ in secrets only write the same
records, fail in the same ways, and show credentials in the same form, step by step. -/
theorem secrets_never_show (V : Veil) (level : Level) (w w' : World) (steps steps' : List Step)
    (hw : w.Twins (Machine.Twins V) w') (hsteps : List.Forall₂ (Step.Twins V) steps steps')
    (hdiscreet : Discreet V level w w' steps steps') :
    (run level w steps).map Report.exposed = (run level w' steps').map Report.exposed := by
  induction hsteps generalizing level w w' with
  | nil => rfl
  | @cons step step' rest rest' hstep _ ih =>
    obtain ⟨hhere, hlater⟩ := hdiscreet
    -- the two worlds that are left differ in secrets only, so the rest of the steps go on from them
    have htogether := perform_together hstep hw hhere
    have hthreshold : step.threshold level = step'.threshold level := by
      cases hstep <;> rfl
    simp only [run, List.map_cons, List.cons.injEq]
    refine ⟨exposed_eq_of_inStepAt htogether, ?_⟩
    rw [ih _ _ _ htogether.state hlater, hthreshold]

end

/-- A step that loads no environment file and reads no secret file for the caller, with no reference
in any variable. -/
theorem isDiscreet_of_loads_nil {V : Veil} {level : Level} {w w' : World} {step : Step}
    (hloads : step.loads level w = [])
    (hfile : ∀ name path variableName required,
      step ≠ .resolveFromFile name path variableName required)
    (hreferences : ∀ entry ∈ (step.perform level w).state.machine.environment,
      PathText.references entry.2 = []) : step.IsDiscreet V level w w' where
  loads load hmem := by
    rw [hloads] at hmem
    cases hmem
  file name path variableName required h := absurd h (hfile name path variableName required)
  paths := Veil.pathsClear_of_references_nil hreferences

/-- A machine with a secret in a variable, one in a file, and one in an environment file. -/
def secretive (token password auth : String) : World where
  machine := {
    environment := [("APP_TOKEN", token), ("APP_PASSWORD_FILE", "/secret")]
    files := ⟨[(["secret"], .file (Text.Utf8.encode password)),
      ([".env"], .file (Text.Utf8.encode ("APP_AUTH=" ++ auth)))], { place := [] }⟩ }

/-- A session in which secrets are loaded, resolved, set, shown and sent. -/
def handleSecrets (value : String) (set : CredentialSet) : List Step :=
  [.makeResolver "r" none true,
    .resolve "r" (some value) none none true,
    .resolveFromFile "r" none (some "APP_PASSWORD_FILE") true,
    .setVariable "APP_USERNAME" value,
    .describe (.fixed .basic set),
    .makeRelay "a" .blocking "h"
      (.chain [.fixed .config set, .environment "APP_" true none (some "r")])
      (.script [{ status := 401 }] none),
    .send "a" (.draft { url := "https://h/" }) [.check]]

/-- The secrets are sent, so what is sent is different, and the same shows. -/
theorem secrets_never_show_sent_secrets :
    let w := secretive "t" "p" "a"
    let w' := secretive "token" " pass\n" "auth"
    let steps := handleSecrets "v" { username := "u", password := "p" }
    let steps' := handleSecrets "value" { username := "user", password := "pass" }
    (run .debug w steps).map (fun report => eventsOf report.journal) ≠
      (run .debug w' steps').map (fun report => eventsOf report.journal) ∧
    (run .debug w steps).map Report.exposed = (run .debug w' steps').map Report.exposed := by
  intro w w' steps steps'
  have hset : CredentialSet.Twins { username := "u", password := "p" }
      { username := "user", password := "pass" } :=
    ⟨by decide, by decide, .refl _, .refl _⟩
  have hw : w.Twins (Machine.Twins Veil.full) w' := by
    refine .of_machines ⟨.cons ⟨rfl, .inr ⟨⟨"APP_", .registryToken, rfl⟩, by decide⟩⟩
      (.cons ⟨rfl, .inl rfl⟩ .nil), ⟨?_, rfl⟩, rfl⟩
    exact .cons ⟨rfl, .file (.of_texts (by decide +kernel))⟩
      (.cons ⟨rfl, .file (.of_texts (by decide +kernel))⟩ .nil)
  have hsteps : List.Forall₂ (Step.Twins Veil.full) steps steps' := by
    refine .cons (.same rfl) (.cons (.resolve _ _ _ (.some trivial) .none) (.cons (.same rfl)
      (.cons (.setVariable _ (.inr ⟨⟨"APP_", .username, rfl⟩, by decide⟩)) (.cons (.describe ?_)
        (.cons (.makeRelay _ _ _ _ ?_) (.cons (.same rfl) .nil))))))
    · exact .fixed _ hset
    · exact .chain (.cons (.fixed _ hset) (.cons (.environment _ _ _ _) .nil))
  -- the environment file is loaded in the first step, and the secret file is read in the third
  have hload : EnvFile.LoadsAlike Veil.full w.machine.environment w.machine.files w'.machine.files
      none := by
    intro _ path text text' hchoose htext htext'
    have hpath : EnvFile.choose w.machine.files none = .ok (some "/.env") := by decide +kernel
    rw [hpath] at hchoose
    cases hchoose
    have hcontent : EnvFile.contentAt w.machine.files "/.env" = .ok "APP_AUTH=a".toList := by
      decide +kernel
    have hcontent' : EnvFile.contentAt w'.machine.files "/.env" = .ok "APP_AUTH=auth".toList := by
      decide +kernel
    rw [hcontent] at htext
    rw [hcontent'] at htext'
    cases htext
    cases htext'
    have hbindings : EnvFile.bindings "APP_AUTH=a".toList =
      [⟨"APP_AUTH".toList, some "a".toList⟩] := by decide +kernel
    have hbindings' : EnvFile.bindings "APP_AUTH=auth".toList =
      [⟨"APP_AUTH".toList, some "auth".toList⟩] := by decide +kernel
    rw [EnvFile.TextTwins, hbindings, hbindings']
    have hclear : EnvFile.referencesFrom 0 "a".toList ++ EnvFile.referencesFrom 0 "auth".toList =
      [] := by decide +kernel
    refine .cons rfl (.some ⟨?_, .inr ⟨⟨"APP_", .auth, by decide⟩, by decide +kernel⟩⟩) (.nil _)
    rw [hclear]
    exact fun _ hmem => by cases hmem
  refine ⟨by decide +kernel, secrets_never_show Veil.full .debug w w' steps steps' hw hsteps ?_⟩
  refine ⟨⟨?_, ?_, ?_⟩, ?_, ⟨?_, ?_, ?_⟩, ?_, ?_, ?_, ?_, trivial⟩
  · intro load hmem
    rw [List.mem_singleton.mp hmem]
    exact hload
  · exact fun _ _ _ _ h => by cases h
  · exact Veil.pathsClear_of_references_nil (by decide +kernel)
  · exact isDiscreet_of_loads_nil rfl (fun _ _ _ _ h => by cases h) (by decide +kernel)
  · exact fun _ hmem => by cases hmem
  · rintro _ _ _ _ ⟨⟩
    refine ⟨(fun _ h => by cases h), ?_⟩
    rintro _ - ⟨⟩
    exact ⟨Veil.not_covers_fileVariable "APP_",
      Veil.pathsClear_of_references_nil (by decide +kernel) "APP_"⟩
  · exact Veil.pathsClear_of_references_nil (by decide +kernel)
  · exact isDiscreet_of_loads_nil rfl (fun _ _ _ _ h => by cases h) (by decide +kernel)
  · exact isDiscreet_of_loads_nil rfl (fun _ _ _ _ h => by cases h) (by decide +kernel)
  · exact isDiscreet_of_loads_nil (by decide +kernel) (fun _ _ _ _ h => by cases h)
      (by decide +kernel)
  · exact isDiscreet_of_loads_nil rfl (fun _ _ _ _ h => by cases h) (by decide +kernel)

end AuthRelay.Session
