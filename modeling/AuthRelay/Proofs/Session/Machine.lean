import AuthRelay.Proofs.Gathering
import AuthRelay.Proofs.Loading
import AuthRelay.Proofs.Session.Modes
/-!
# What a session does to its machine

Looking credentials up changes nothing on the machine, and a send changes nothing on it either, by
whatever relays and providers it goes. Steps change variables, files and the working directory, and
`Step.given` tells which environment files a step may load. Whatever holds of the machine and of the
resolvers still holds after a step if it survives the few things that a step of its kind does to
them. So the home directories of the accounts stay as they are.
-/
namespace AuthRelay

theorem Machine.eq_of_parts {m m' : Machine} (henvironment : m.environment = m'.environment)
    (hfiles : m.files = m'.files) (hhomes : m.homes = m'.homes) : m = m' := by
  cases m
  cases m'
  cases henvironment
  cases hfiles
  cases hhomes
  rfl

/-! ## Looking credentials up -/

namespace Resolver

theorem resolve_looks (value name fallback : Option String) (required : Bool) :
    Act.Looks id (resolve value name fallback required) := by
  refine .get_bind fun machine => ?_
  cases origin? machine.environment value name fallback with
  | none => exact .ite (.fail _) (.pure _)
  | some found => exact (Act.Looks.log _ _ _).bind fun _ => .pure _

theorem secretPath_looks (path name : Option String) : Act.Looks id (secretPath path name) := by
  unfold secretPath
  cases path with
  | some path => exact .pure _
  | none =>
    cases name with
    | none => exact .pure _
    | some name => exact .ite (.pure _) (resolve_looks _ _ _ _)

theorem resolveFromFile_looks (path name : Option String) (required : Bool) :
    Act.Looks id (resolveFromFile path name required) := by
  refine (secretPath_looks path name).bind fun found => ?_
  cases found.filter (· ≠ "") with
  | none => exact .ite (.fail _) (.pure _)
  | some text =>
    refine .get_bind fun machine => ?_
    dsimp only
    cases readSecret machine.files (expandedPath machine text) with
    | ok secret => exact (Act.Looks.log _ _ _).bind fun _ => .pure _
    | error fault =>
      cases fault with
      | secretFile cause => exact .ite (.fail _) ((Act.Looks.log _ _ _).bind fun _ => .pure _)
      | _ => exact .fail _

end Resolver

namespace FromEnvironment

theorem orFile_looks (stem : String) (password : Option String) :
    Act.Looks id (orFile stem password) := by
  cases password with
  | some password => exact .pure _
  | none => exact Resolver.resolveFromFile_looks _ _ _

/-- Reading credentials from the environment changes nothing on the machine. -/
theorem credentials_looks (stem : String) (required : Bool) :
    Act.Looks id (credentials stem required) := by
  have hfield : ∀ field, Act.Looks id (resolveField stem field) :=
    fun field => Resolver.resolve_looks _ _ _ _
  refine (hfield _).bind fun username => (hfield _).bind fun password => (hfield _).bind fun auth =>
    (hfield _).bind fun registryToken => (orFile_looks stem password).bind fun password => ?_
  refine .ite ?_ (.pure _)
  refine .ite ((Act.Looks.fail _).bind fun _ => ?_) ?_
  · exact (Act.Looks.log _ _ _).bind fun _ => .pure _
  · exact (Act.Looks.log _ _ _).bind fun _ => .pure _

end FromEnvironment

namespace Session

/-- A provider that comes with the library: fixed credentials, or the environment. -/
def Provider.isStock : Provider → Bool
  | .fixed _ _ | .environment _ _ => true
  | _ => false

/-- What a provider of the library delivers is to be seen on the machine. -/
theorem Provider.deliver_looks {p : Provider} (h : p.isStock = true) :
    Act.Looks World.machine p.supplier.deliver := by
  cases p with
  | fixed stock set => exact (Act.Looks.pure set).bind fun _ => .pure _
  | environment stem required =>
    refine (Act.Looks.zoom (fun _ => rfl) ?_).bind fun _ => .pure _
    exact FromEnvironment.credentials_looks stem required
  | counting | failing | rotating | both | «lazy» => cases h

theorem gather_looks {source : Source Provider} (h : ∀ p ∈ source.leaves, p.isStock = true) :
    Act.Looks World.machine (suppliers source).gather := by
  refine Source.gather_looks fun supplier hmem => ?_
  rw [suppliers, Source.leaves_map] at hmem
  obtain ⟨p, hp, rfl⟩ := List.mem_map.mp hmem
  exact Provider.deliver_looks (h p hp)

/-! ## Sends leave the machine and the resolvers alone -/

/-- An act that preserves what holds of the machine and of the resolvers. -/
abbrev Preserves {α : Type} (P : Machine → Table Resolver → Prop) (x : Act World α) : Prop :=
  Act.Keeps (fun w => P w.machine w.resolvers) x

/-- An act on lines that preserves what holds of the machine and of the resolvers. -/
abbrev PreservesInLine {α : Type} (P : Machine → Table Resolver → Prop)
    (x : Act (Line World) α) : Prop :=
  Act.Keeps (fun line => P line.peer.machine line.peer.resolvers) x

/-- An act on lines that retains what holds of the machine. -/
abbrev RetainsInLine {α : Type} (P : Machine → Prop) (x : Act (Line World) α) : Prop :=
  PreservesInLine (fun machine _ => P machine) x

section

variable {P : Machine → Table Resolver → Prop}

theorem count_keeps (cell : Nat) : Preserves P (World.count cell) :=
  fun _ _ h => h

theorem deliverLazily_keeps (failure : Option Given) (sets : List CredentialSet) :
    Preserves P (Provider.deliverLazily failure sets) := by
  induction sets with
  | nil =>
    cases failure with
    | none => exact .pure _
    | some g => exact .fail _
  | cons set rest ih => exact (Act.Keeps.emit _).bind fun _ => ih.bind fun _ => .pure _

/-- No provider changes the machine, stateful or not. -/
theorem supplier_keeps (p : Provider) : p.supplier.Keeps (fun w => P w.machine w.resolvers) := by
  cases p with
  | fixed stock set => exact ⟨by rintro _ ⟨⟩; exact .pure _, nofun⟩
  | environment stem required =>
    refine ⟨?_, nofun⟩
    rintro _ ⟨⟩
    exact (Act.Looks.zoom (fun _ => rfl) (FromEnvironment.credentials_looks stem required)).keeps _
  | counting tally stem =>
    refine ⟨?_, nofun⟩
    rintro _ ⟨⟩
    exact (Act.Keeps.emit _).bind fun _ => (count_keeps tally).bind fun _ => .pure _
  | failing failure =>
    refine ⟨?_, nofun⟩
    rintro _ ⟨⟩
    exact (Act.Keeps.emit _).bind fun _ => .fail _
  | rotating tally lists =>
    refine ⟨nofun, ?_⟩
    rintro _ ⟨⟩
    exact (Act.Keeps.emit _).bind fun _ => (count_keeps tally).bind fun _ => .ofExcept _
  | both one all =>
    constructor
    all_goals
      rintro _ ⟨⟩
      exact (Act.Keeps.emit _).bind fun _ => .pure _
  | «lazy» all failure =>
    refine ⟨nofun, ?_⟩
    rintro _ ⟨⟩
    exact deliverLazily_keeps failure all

theorem leaves_keep (source : Source Provider) :
    ∀ supplier ∈ (suppliers source).leaves, supplier.Keeps (fun w => P w.machine w.resolvers) := by
  intro supplier hmem
  rw [suppliers, Source.leaves_map] at hmem
  obtain ⟨p, -, rfl⟩ := List.mem_map.mp hmem
  exact supplier_keeps p

/-- An act on lines that cannot tell apart two equal worlds leaves what holds of the machine and of
the resolvers. -/
theorem keeps_of_alike {α : Type} {x : Act (Line World) α}
    (h : Act.Alike (Line.Agree fun w w' => w = w' ∧ P w.machine w.resolvers) some x x) :
    PreservesInLine P x :=
  fun level line hline => (h level line line ⟨rfl, rfl, hline⟩).state.2.2

theorem onPeer_keeps {α : Type} {x : Act World α} (h : Preserves P x) :
    PreservesInLine P (Line.onPeer x) :=
  fun level line hline => h level line.peer hline

theorem nextReply_keeps (cell : Nat) : Preserves P (nextReply cell) := by
  intro level w h
  unfold nextReply
  cases w.scripts[cell]? <;> exact h

theorem sendScripted_keeps (cell : Nat) : PreservesInLine P (sendScripted cell) := by
  refine (onPeer_keeps (nextReply_keeps cell)).bind fun (serial, reply) => ?_
  refine (keeps_of_alike ?_).bind fun _ => ?_
  · exact (Relay.setHeaders_alike _).bind fun _ => (Relay.dropHeaders_alike _).bind fun _ =>
      Relay.setUrl?_alike _
  refine (keeps_of_alike ?_).bind fun drawn => ?_
  · exact Act.Alike.ite (Relay.drawBody_alike.bind fun _ => .pure _) (.pure _)
  refine (Act.Keeps.get_bind fun _ => .emit _).bind fun _ => (Act.Keeps.ofExcept drawn).bind
    fun _ => ?_
  cases reply.failure with
  | some g => exact .fail _
  | none => exact .ofExcept _

theorem blocking_keeps (target : String) {gather : Act World Candidates} {next : Carrier World}
    (hgather : Preserves P gather) (hnext : PreservesInLine P next) :
    PreservesInLine P (Relay.blocking target gather next) := by
  refine ((onPeer_keeps hgather).bind fun _ =>
    (keeps_of_alike (Relay.header_alike Relay.authorization)).bind fun _ => .pure _).bind
    fun (candidates, callerHeader) => ?_
  refine Relay.attempts_keeps hnext (fun c _ => ?_) 1
  exact keeps_of_alike (Relay.authorize_alike target callerHeader c)

/-- A send leaves the machine and the resolvers as they are, however many relays and providers take
part in it. -/
theorem Stack.send_keeps (stack : Stack) : PreservesInLine P stack.send := by
  induction stack with
  | network => exact .fail _
  | script cell => exact sendScripted_keeps cell
  | layer mode cell inner ih =>
    rw [Stack.send_layer]
    refine Act.Keeps.bind (.get_bind fun line => ?_) fun here =>
      blocking_keeps here.target (Source.gather_keeps (leaves_keep here.source)) ih
    cases line.peer.layers[cell]? with
    | none => exact .fail _
    | some found => exact .pure _

theorem onLine_keeps {α : Type} (request : Request) {x : Act (Line World) α}
    (h : PreservesInLine P x) : Preserves P (onLine request x) :=
  fun level w hw => h level ⟨request, w⟩ hw

theorem within_keeps {α τ : Type} (t : τ) (x : Act τ α) : Preserves P (Act.within t x) :=
  fun _ _ h => h

theorem deliver_keeps (stack : Stack) (request : Request) (uses : List Use) :
    Preserves P (deliver stack request uses) := by
  refine (onLine_keeps request (Stack.send_keeps stack)).bind fun (result, request) => ?_
  cases result with
  | error fault => exact .pure _
  | ok response =>
    exact (Act.Keeps.emit _).bind fun _ => (within_keeps _ _).bind fun (results, _) =>
      (Act.Keeps.ofExcept results).bind fun _ => .pure _

/-! ## Objects are kept beside the machine -/

theorem named_keeps {α : Type} (table : World → Table α) (name : String) :
    Preserves P (World.named table name) := by
  refine .get_bind fun w => ?_
  cases (table w).find? name with
  | none => exact .fail _
  | some a => exact .pure a

theorem named_of_some {α : Type} {table : World → Table α} {name : String} {w : World} {a : α}
    (h : (table w).find? name = some a) (level : Level) :
    World.named table name level w = ⟨.ok a, w, []⟩ := by
  unfold World.named
  rw [Act.get_bind_run, h]
  rfl

theorem named_of_none {α : Type} {table : World → Table α} {name : String} {w : World}
    (h : (table w).find? name = none) (level : Level) :
    World.named table name level w = ⟨.error (.unknownName name), w, []⟩ := by
  unfold World.named
  rw [Act.get_bind_run, h]
  rfl

theorem modify_keeps {f : World → World} (h : ∀ w, (f w).machine = w.machine)
    (h' : ∀ w, (f w).resolvers = w.resolvers) : Preserves P (Act.modify f) := by
  refine .modify fun w hw => ?_
  rw [h, h']
  exact hw

theorem onMachine_keeps {α : Type} {x : Act Machine α}
    (h : ∀ resolvers, Act.Keeps (P · resolvers) x) : Preserves P (World.onMachine x) :=
  fun level w hw => h w.resolvers level w.machine hw

theorem newTally_keeps : Preserves P World.newTally :=
  fun _ _ h => h

theorem changeLayer_keeps (stack : Stack) (f : Layer → Layer) :
    Preserves P (changeLayer stack f) := by
  cases stack with
  | layer mode cell inner => exact modify_keeps (fun _ => rfl) fun _ => rfl
  | network | script => exact .pure _

theorem editRequest_keeps (request : Request) (edit : Request.Edit) :
    Preserves P (editRequest request edit) :=
  onLine_keeps request <| keeps_of_alike <| (Relay.setUrl?_alike _).bind fun _ =>
    (Relay.setHeaders_alike _).bind fun _ => Relay.dropHeaders_alike _

theorem plan_keeps (plan : RequestPlan) : Preserves P plan.make := by
  cases plan with
  | named name => exact named_keeps _ name
  | draft d => exact .ofExcept _

theorem keep_keeps (plan : RequestPlan) (request : Request) : Preserves P (plan.keep request) := by
  cases plan with
  | named name => exact modify_keeps (fun _ => rfl) fun _ => rfl
  | draft d => exact .pure _

theorem enter_keeps (stack : Stack) : Preserves P stack.enter := by
  unfold Stack.enter
  cases stack.carrier with
  | script cell => exact .emit _
  | network | layer => exact .pure _

theorem exit_keeps (stack : Stack) (kind : Option Kind) : Preserves P (stack.exit kind) := by
  unfold Stack.exit
  cases stack.carrier with
  | script cell => exact (Act.Keeps.emit _).bind fun _ => .get_bind fun _ => .pure _
  | network | layer => exact .pure _

theorem close_keeps (stack : Stack) : Preserves P stack.close := by
  unfold Stack.close
  cases stack.carrier with
  | script cell => exact .emit _
  | network | layer => exact .pure _

end

/-! ## What a step may load -/

mutual

/-- What the resolvers that are made for a plan are given as the paths of their environment
files. -/
def SourcePlan.given : SourcePlan → List (Option String)
  | .environment _ _ path none => [path]
  | .chain members => SourcePlan.givenAll members
  | _ => []

/-- What the resolvers that are made for some plans are given. -/
def SourcePlan.givenAll : List SourcePlan → List (Option String)
  | [] => []
  | plan :: rest => plan.given ++ SourcePlan.givenAll rest

end

/-- What the resolvers that load an environment file in a step have been given as its path: those
that are made in the step, and the one that is told to load and has not done so yet. -/
def Step.given (w : World) : Step → List (Option String)
  | .makeResolver _ path loads => if loads then [path] else []
  | .ensureLoaded name =>
    ((w.resolvers.find? name).toList.filter fun r => !r.loaded).map Resolver.path
  | .keepSource _ plan | .describe plan | .askOne plan | .askAll plan | .gather plan
  | .makeRelay _ _ _ plan _ | .assignRelay _ _ (some plan) => plan.given
  | _ => []

/-- A step in which the caller sets or unsets a variable. -/
def Step.setsVariable : Step → Bool
  | .setVariable _ _ | .unsetVariable _ => true
  | _ => false

/-- A step in which the caller changes the files or the working directory. -/
def Step.changesFiles : Step → Bool
  | .write _ _ | .makeDirectory _ | .link _ _ | .remove _ | .changeDirectory _
  | .loseDirectory _ => true
  | _ => false

/-! ## What survives a step -/

section

variable {P : Machine → Table Resolver → Prop}

theorem seeToResolver_keeps {stem : String} {required : Bool} {path resolver : Option String}
    (hP : ∀ p ∈ (SourcePlan.environment stem required path resolver).given, ∀ resolvers,
      Act.Keeps (P · resolvers) (Resolver.create p true)) :
    Preserves P (SourcePlan.seeToResolver path resolver) := by
  cases resolver with
  | none => exact (onMachine_keeps (hP path (by simp [SourcePlan.given]))).bind fun _ => .pure _
  | some name => exact (named_keeps _ name).bind fun _ => .pure _

mutual

/-- Whatever holds of the machine and of the resolvers still holds after a source has been made, if
it does so after each of the resolvers that are made for it. -/
theorem make_keeps (plan : SourcePlan)
    (hP : ∀ p ∈ plan.given, ∀ resolvers, Act.Keeps (P · resolvers) (Resolver.create p true)) :
    Preserves P plan.make :=
  match plan with
  | .named name => named_keeps _ name
  | .fixed _ _ | .failing _ | .both _ _ | .lazy _ _ => .pure _
  | .chain members => (makeAll_keeps members hP).bind fun _ => .pure _
  | .environment _ _ _ _ => (seeToResolver_keeps hP).bind fun _ => .pure _
  | .counting _ | .rotating _ => newTally_keeps.bind fun _ => .pure _

theorem makeAll_keeps (plans : List SourcePlan)
    (hP : ∀ p ∈ SourcePlan.givenAll plans, ∀ resolvers,
      Act.Keeps (P · resolvers) (Resolver.create p true)) :
    Preserves P (SourcePlan.makeAll plans) :=
  match plans with
  | [] => .pure _
  | plan :: rest =>
    (make_keeps plan fun p h => hP p (List.mem_append_left _ h)).bind fun _ =>
      (makeAll_keeps rest fun p h => hP p (List.mem_append_right _ h)).bind fun _ => .pure _

end

theorem makeStack_keeps (mode : Mode) (target : String) (plan : SourcePlan)
    (carrier : CarrierPlan)
    (hP : ∀ p ∈ plan.given, ∀ resolvers, Act.Keeps (P · resolvers) (Resolver.create p true)) :
    Preserves P (makeStack mode target plan carrier) := by
  rw [makeStack_eq]
  refine (make_keeps plan hP).bind fun source => Act.Keeps.bind ?_ fun inner => fun _ _ h => h
  cases carrier with
  | network => exact .pure _
  | named name => exact named_keeps _ name
  | script replies exitAnswer => exact fun _ _ h => h

theorem assignLayer_keeps (stack : Stack) (target : Option String) (plan : Option SourcePlan)
    (hP : ∀ made, plan = some made → ∀ p ∈ made.given, ∀ resolvers,
      Act.Keeps (P · resolvers) (Resolver.create p true)) :
    Preserves P (assignLayer stack target plan) := by
  have hplan : Preserves P (assignLayer stack none plan) := by
    cases plan with
    | none => exact .pure _
    | some plan => exact (make_keeps plan (hP plan rfl)).bind fun _ => changeLayer_keeps stack _
  cases target with
  | none => exact hplan
  | some target => exact (changeLayer_keeps stack _).bind fun _ => hplan

theorem changeFiles_keeps
    (hP : ∀ machine resolvers files, P machine resolvers → P { machine with files } resolvers)
    (paths : List String) (f : Files → Files.Edited) : Preserves P (changeFiles paths f) := by
  unfold changeFiles
  by_cases h : paths.any holdsNul = true
  · simp only [if_pos h, Act.fail_bind]
    exact .fail _
  · simp only [if_neg h]
    refine .get_bind fun w =>
      Act.Keeps.bind (.modify fun v => hP v.machine v.resolvers _) fun _ => ?_
    cases (f w.machine.files).fault with
    | none => exact .pure _
    | some cause => exact .fail _

theorem changeEnvironment_keeps
    (hP : ∀ machine resolvers environment, P machine resolvers →
      P { machine with environment } resolvers)
    (f : Environment → Environment) : Preserves P (changeEnvironment f) := by
  refine (onMachine_keeps fun resolvers => ?_).bind fun _ => .pure _
  exact .modify fun machine => hP machine resolvers _

/-- What holds of the machine and of the resolvers survives what a step may do to them in a world:
bindings of unbound names, what the caller changes on the machine, a new resolver, and the mark that
a resolver has loaded its file. -/
structure Survives (P : Machine → Table Resolver → Prop) (w : World) (step : Step) : Prop where
  binding : step.given w ≠ [] → ∀ resolvers, EnvFile.SurvivesBinding (P · resolvers)
  environment : step.setsVariable = true → ∀ machine resolvers environment,
    P machine resolvers → P { machine with environment } resolvers
  files : step.changesFiles = true → ∀ machine resolvers files,
    P machine resolvers → P { machine with files } resolvers
  made : ∀ name path loads, step = .makeResolver name path loads → ∀ machine resolvers r,
    P machine resolvers → P machine (resolvers.assign name r)
  marked : ∀ name r, step = .ensureLoaded name → w.resolvers.find? name = some r →
    ∀ machine resolvers, P machine resolvers →
      P machine (resolvers.assign name { r with loaded := true })

/-- What survives everything that a step may do still holds after the step. -/
theorem Step.perform_keeps {level : Level} {w : World} {step : Step} (hP : Survives P w step)
    (h : P w.machine w.resolvers) :
    P (step.perform level w).state.machine (step.perform level w).state.resolvers := by
  have hmade : ∀ p ∈ step.given w, ∀ resolvers,
      Act.Keeps (P · resolvers) (Resolver.create p true) :=
    fun p hp resolvers => Resolver.create_keeps (hP.binding (List.ne_nil_of_mem hp) resolvers) p
  cases step
  case ensureLoaded name =>
    rw [Step.perform]
    cases hr : w.resolvers.find? name with
    | none =>
      rw [Act.bind_of_error (named_of_none hr level)]
      exact h
    | some r =>
      rw [Act.bind_of_ok (named_of_some hr level)]
      -- what is loaded survives first, and then the mark on the resolver that was found
      have hbinding : r.loaded = false → EnvFile.SurvivesBinding (P · w.resolvers) :=
        fun hl => hP.binding (by simp [Step.given, hr, hl]) w.resolvers
      have hloaded := Resolver.ensureLoaded_keeps hbinding level w.machine h
      cases ho : r.ensureLoaded level w.machine with
      | mk result machine journal =>
        rw [ho] at hloaded
        have hrun : World.onMachine r.ensureLoaded level w =
            ⟨result, { w with machine }, journal⟩ := by
          simp only [World.onMachine, Act.zoom, ho]
        cases result with
        | error fault =>
          rw [Act.bind_of_error hrun]
          exact hloaded
        | ok marked =>
          have hmarked := Resolver.ensureLoaded_result ho
          rw [Act.bind_of_ok hrun, hmarked]
          exact hP.marked name r rfl hr machine w.resolvers hloaded
  all_goals
    refine (?_ : Preserves P (Step.perform _)) level w h
    simp only [Step.perform]
  case setVariable name value =>
    cases EnvFile.bindingFault? name value with
    | some fault => exact .fail _
    | none => exact changeEnvironment_keeps (hP.environment rfl) _
  case unsetVariable name => exact changeEnvironment_keeps (hP.environment rfl) _
  case showEnvironment => exact .get_bind fun _ => .pure _
  case write path content => exact changeFiles_keeps (hP.files rfl) _ _
  case makeDirectory path => exact changeFiles_keeps (hP.files rfl) _ _
  case link path target => exact changeFiles_keeps (hP.files rfl) _ _
  case remove path => exact changeFiles_keeps (hP.files rfl) _ _
  case changeDirectory path => exact changeFiles_keeps (hP.files rfl) _ _
  case loseDirectory path => exact changeFiles_keeps (hP.files rfl) _ _
  case setThreshold => exact .pure _
  case makeResolver name path loads =>
    refine Act.Keeps.bind ?_ fun r => Act.Keeps.bind (.modify fun v => ?_) fun _ => .pure _
    · cases loads with
      | false => exact onMachine_keeps fun _ => .pure _
      | true => exact onMachine_keeps (hmade path (by simp [Step.given]))
    · exact hP.made name path loads rfl v.machine v.resolvers r
  case isLoaded name => exact (named_keeps _ name).bind fun _ => .pure _
  case resolve name value variableName fallback required =>
    exact ((named_keeps _ name).bind fun _ => .pure _).bind fun _ =>
      (onMachine_keeps fun _ => (Resolver.resolve_looks _ _ _ _).keeps _).bind fun _ => .pure _
  case resolveFromFile name path variableName required =>
    exact ((named_keeps _ name).bind fun _ => .pure _).bind fun _ =>
      (onMachine_keeps fun _ => (Resolver.resolveFromFile_looks _ _ _).keeps _).bind fun _ =>
        .pure _
  case keepSource name plan =>
    exact (make_keeps plan hmade).bind fun _ =>
      (modify_keeps (fun _ => by rfl) fun _ => by rfl).bind fun _ => .pure _
  case describe plan => exact (make_keeps plan hmade).bind fun _ => .pure _
  case askOne plan =>
    exact (make_keeps plan hmade).bind fun source =>
      (Source.one_keeps (leaves_keep source)).bind fun _ => .pure _
  case askAll plan =>
    exact (make_keeps plan hmade).bind fun source =>
      (Source.all_keeps (leaves_keep source)).bind fun _ => .pure _
  case gather plan =>
    exact (make_keeps plan hmade).bind fun source =>
      (Source.gather_keeps (leaves_keep source)).bind fun _ => .pure _
  case makeRelay name mode target plan carrier =>
    exact (makeStack_keeps mode target plan carrier hmade).bind fun _ =>
      (modify_keeps (fun _ => by rfl) fun _ => by rfl).bind fun _ => .pure _
  case assignRelay name target plan =>
    refine (named_keeps _ name).bind fun stack =>
      (assignLayer_keeps stack target plan ?_).bind fun _ => .pure _
    rintro made rfl
    exact hmade
  case keepRequest name draft =>
    exact (Act.Keeps.ofExcept _).bind fun request =>
      (modify_keeps (fun _ => by rfl) fun _ => by rfl).bind fun _ => .pure _
  case editRequest name edit =>
    exact (named_keeps _ name).bind fun request =>
      (editRequest_keeps request edit).bind fun _ =>
        (modify_keeps (fun _ => by rfl) fun _ => by rfl).bind fun _ =>
          (Act.Keeps.ofExcept _).bind fun _ => .pure _
  case send relay plan uses =>
    exact (plan_keeps plan).bind fun request => (named_keeps _ relay).bind fun stack =>
      (deliver_keeps stack request uses).bind fun _ => (keep_keeps plan _).bind fun _ => .pure _
  case enter relay =>
    exact (named_keeps _ relay).bind fun stack => (enter_keeps stack).bind fun _ => .pure _
  case exit relay kind =>
    exact (named_keeps _ relay).bind fun stack => (exit_keeps stack kind).bind fun _ => .pure _
  case close relay =>
    exact (named_keeps _ relay).bind fun stack => (close_keeps stack).bind fun _ => .pure _

/-- No step changes the home directories of the accounts. -/
theorem Step.perform_homes (step : Step) (level : Level) (w : World) :
    (step.perform level w).state.machine.homes = w.machine.homes := by
  refine Step.perform_keeps (P := fun machine _ => machine.homes = w.machine.homes) ?_ rfl
  exact {
    binding := fun _ _ _ _ _ _ h => h
    environment := fun _ _ _ _ h => h
    files := fun _ _ _ _ h => h
    made := fun _ _ _ _ _ _ _ h => h
    marked := fun _ _ _ _ _ _ h => h }

end

end Session
end AuthRelay
