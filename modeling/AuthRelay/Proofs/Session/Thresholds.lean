import AuthRelay.Proofs.Session.Rotation
import AuthRelay.Proofs.Thresholds
/-!
# Logging has no effect

The threshold for records sways no step of a session as long as the bodies of all responses have a
text. So a session can be run under any threshold, and the threshold can be changed at any time:
what the steps answer, what they fail with, what they do and what they leave is the same, and the
records are those of the session in which everything is recorded, without the ones that are below
the threshold in force.
-/
namespace AuthRelay.Session

/-- A reply whose response, if it makes one, has a text. -/
def Reply.IsLegible (reply : Reply) : Prop :=
  ∀ serial response, reply.response serial = .ok response → response.IsLegible

/-- All carriers of a world answer with what can be read. -/
def World.IsCalm (w : World) : Prop :=
  ∀ script ∈ w.scripts, ∀ reply ∈ script.replies, reply.IsLegible

/-- A carrier that a step makes answers with what can be read. -/
def Step.IsCalm : Step → Prop
  | .makeRelay _ _ _ _ (.script replies _) => ∀ reply ∈ replies, reply.IsLegible
  | _ => True

/-- An act of a session that no threshold sways. -/
abbrev Steady {α : Type} (x : Act World α) : Prop :=
  Act.Unswayed World.IsCalm (fun _ => True) x

/-- An act on lines that no threshold sways. -/
abbrev SteadyInLine {α : Type} (Q : α → Prop) (x : Act (Line World) α) : Prop :=
  Act.Unswayed (Relay.OfPeer World.IsCalm) Q x

/-- An act on the machine that no threshold sways. -/
abbrev SteadyOnMachine {α : Type} (x : Act Machine α) : Prop :=
  Act.Unswayed (fun _ => True) (fun _ => True) x

/-! ## Acts on the machine -/

theorem resolve_steady (value name fallback : Option String) (required : Bool) :
    SteadyOnMachine (Resolver.resolve value name fallback required) := by
  refine .get_bind fun machine _ => ?_
  cases Resolver.origin? machine.environment value name fallback with
  | none => exact .ite (.fail _) (.pure trivial)
  | some found => exact (Act.Unswayed.log _ _ _).bind fun _ _ => .pure trivial

theorem secretPath_steady (path name : Option String) :
    SteadyOnMachine (Resolver.secretPath path name) := by
  unfold Resolver.secretPath
  cases path with
  | some path => exact .pure trivial
  | none =>
    cases name with
    | none => exact .pure trivial
    | some name => exact .ite (.pure trivial) (resolve_steady _ _ _ _)

theorem resolveFromFile_steady (path name : Option String) (required : Bool) :
    SteadyOnMachine (Resolver.resolveFromFile path name required) := by
  refine (secretPath_steady path name).bind fun found _ => ?_
  cases found.filter (· ≠ "") with
  | none => exact .ite (.fail _) (.pure trivial)
  | some text =>
    refine .get_bind fun machine _ => ?_
    dsimp only
    cases Resolver.readSecret machine.files (Resolver.expandedPath machine text) with
    | ok secret => exact (Act.Unswayed.log _ _ _).bind fun _ _ => .pure trivial
    | error fault =>
      cases fault with
      | secretFile cause =>
        exact .ite (.fail _) ((Act.Unswayed.log _ _ _).bind fun _ _ => .pure trivial)
      | _ => exact .fail _

theorem credentials_steady (stem : String) (required : Bool) :
    SteadyOnMachine (FromEnvironment.credentials stem required) := by
  have hfield : ∀ field, SteadyOnMachine (FromEnvironment.resolveField stem field) :=
    fun field => resolve_steady _ _ _ _
  have hfile : ∀ password, SteadyOnMachine (FromEnvironment.orFile stem password) := by
    intro password
    cases password with
    | some password => exact .pure trivial
    | none => exact resolveFromFile_steady _ _ _
  refine (hfield _).bind fun username _ => (hfield _).bind fun password _ =>
    (hfield _).bind fun auth _ => (hfield _).bind fun registryToken _ =>
      (hfile password).bind fun password _ => ?_
  have hempty : SteadyOnMachine (Act.log .debug .credentials
      ("No credentials in environment for prefix '" ++ stem ++ "', using anonymous")) :=
    .log _ _ _
  refine .ite (.ite ?_ ?_) (.pure trivial)
  · exact (Act.Unswayed.fail _ (Q := fun _ => True)).bind fun _ _ => hempty.bind fun _ _ =>
      .pure trivial
  · exact hempty.bind fun _ _ => .pure trivial

theorem assignMissing_steady (values : EnvFile.Values) :
    SteadyOnMachine (EnvFile.assignMissing values) := by
  induction values with
  | nil => exact .pure trivial
  | cons entry rest ih =>
    obtain ⟨name, value?⟩ := entry
    cases value? with
    | none => exact ih
    | some value =>
      refine .get_bind fun machine _ => ?_
      dsimp only
      split
      · cases EnvFile.bindingFault? name value with
        | some fault => exact (Act.Unswayed.fail _ (Q := fun _ => True)).bind fun _ _ => ih
        | none => exact (Act.Unswayed.modify fun _ _ => trivial).bind fun _ _ => ih
      · exact ih

theorem loadAt_steady (path : Option String) : SteadyOnMachine (EnvFile.loadAt path) := by
  refine .get_bind fun machine _ => .ite (.pure trivial) ?_
  cases path with
  | none => exact .pure trivial
  | some path =>
    exact (Act.Unswayed.decided _).bind fun _ _ => assignMissing_steady _

theorem load_steady (given : Option String) : SteadyOnMachine (EnvFile.load given) :=
  .get_bind fun _ _ => (Act.Unswayed.decided _).bind fun path _ => loadAt_steady path

theorem afterLoading_steady (result : Except Fault Unit) :
    SteadyOnMachine (Resolver.afterLoading result) := by
  cases result with
  | ok _ => exact .log _ _ _
  | error fault => exact .ite (.log _ _ _) (.fail _)

theorem ensureLoaded_steady (r : Resolver) : SteadyOnMachine r.ensureLoaded :=
  .ite (.pure trivial) ((load_steady r.path).attempt.bind fun result _ =>
    (afterLoading_steady result).bind fun _ _ => .pure trivial)

theorem create_steady (path : Option String) (loads : Bool) :
    SteadyOnMachine (Resolver.create path loads) :=
  .ite (ensureLoaded_steady _) (.pure trivial)

/-! ## Looking at a world and changing it -/

theorem onMachine_steady {α : Type} {x : Act Machine α} (h : SteadyOnMachine x) :
    Steady (World.onMachine x) :=
  .zoom (fun _ _ => trivial) (fun _ _ hw _ => hw) h

theorem named_steady {α : Type} (table : World → Table α) (name : String) :
    Steady (World.named table name) := by
  refine .get_bind fun w _ => ?_
  cases (table w).find? name with
  | none => exact .fail _
  | some a => exact .pure trivial

theorem modify_steady {f : World → World} (h : ∀ w, (f w).scripts = w.scripts) :
    Steady (Act.modify f) := by
  refine .modify fun w hw => ?_
  rw [World.IsCalm, h]
  exact hw

theorem newTally_steady : Steady World.newTally :=
  fun _ _ hw => ⟨rfl, hw, fun _ _ => trivial⟩

theorem count_steady (cell : Nat) : Steady (World.count cell) :=
  fun _ _ hw => ⟨rfl, hw, fun _ _ => trivial⟩

/-! ## Sources -/

theorem deliverLazily_steady (failure : Option Given) (sets : List CredentialSet) :
    Steady (Provider.deliverLazily failure sets) := by
  induction sets with
  | nil =>
    cases failure with
    | none => exact .pure trivial
    | some g => exact .fail _
  | cons set rest ih =>
    exact (Act.Unswayed.emit _).bind fun _ _ => ih.bind fun _ _ => .pure trivial

theorem supplier_steady (p : Provider) : p.supplier.Unswayed World.IsCalm := by
  cases p with
  | fixed stock set => exact ⟨by rintro _ ⟨⟩; exact .pure trivial, nofun⟩
  | environment stem required =>
    refine ⟨?_, nofun⟩
    rintro _ ⟨⟩
    exact onMachine_steady (credentials_steady stem required)
  | counting tally stem =>
    refine ⟨?_, nofun⟩
    rintro _ ⟨⟩
    exact (Act.Unswayed.emit _).bind fun _ _ => (count_steady tally).bind fun _ _ => .pure trivial
  | failing failure =>
    refine ⟨?_, nofun⟩
    rintro _ ⟨⟩
    exact (Act.Unswayed.emit _).bind fun _ _ => .fail _
  | rotating tally lists =>
    refine ⟨nofun, ?_⟩
    rintro _ ⟨⟩
    exact (Act.Unswayed.emit _).bind fun _ _ => (count_steady tally).bind fun _ _ =>
      .decided _
  | both one all =>
    constructor
    all_goals
      rintro _ ⟨⟩
      exact (Act.Unswayed.emit _).bind fun _ _ => .pure trivial
  | «lazy» all failure =>
    refine ⟨nofun, ?_⟩
    rintro _ ⟨⟩
    exact deliverLazily_steady failure all

theorem leaves_steady (source : Source Provider) :
    ∀ supplier ∈ (suppliers source).leaves, supplier.Unswayed World.IsCalm := by
  intro supplier hmem
  rw [suppliers, Source.leaves_map] at hmem
  obtain ⟨p, -, rfl⟩ := List.mem_map.mp hmem
  exact supplier_steady p

theorem seeToResolver_steady (path resolver : Option String) :
    Steady (SourcePlan.seeToResolver path resolver) := by
  cases resolver with
  | none => exact (onMachine_steady (create_steady path true)).map _
  | some name => exact (named_steady _ name).map _

mutual

theorem make_steady (plan : SourcePlan) : Steady plan.make :=
  match plan with
  | .named name => named_steady _ name
  | .fixed _ _ | .failing _ | .both _ _ | .lazy _ _ => .pure trivial
  | .chain members => (makeAll_steady members).bind fun _ _ => .pure trivial
  | .environment _ _ path resolver =>
    (seeToResolver_steady path resolver).bind fun _ _ => .pure trivial
  | .counting _ | .rotating _ => newTally_steady.bind fun _ _ => .pure trivial

theorem makeAll_steady (plans : List SourcePlan) : Steady (SourcePlan.makeAll plans) :=
  match plans with
  | [] => .pure trivial
  | plan :: rest =>
    (make_steady plan).bind fun _ _ => (makeAll_steady rest).bind fun _ _ => .pure trivial

end

/-! ## Carriers -/

theorem mem_of_nth {α : Type} {n : Nat} {l : List α} {a : α} (h : nth n l = .ok a) : a ∈ l := by
  unfold nth at h
  split at h
  · rename_i found hfound
    cases h
    exact List.mem_of_getElem? hfound
  · rename_i found _ hlast
    cases h
    exact List.mem_of_getLast? hlast
  · cases h

/-- The reply to a send is one of the script's. -/
theorem nextReply_steady (cell : Nat) :
    Act.Unswayed World.IsCalm (fun found => found.2.IsLegible) (nextReply cell) := by
  intro level w hw
  cases hscript : w.scripts[cell]? with
  | none =>
    have hrun : ∀ level, nextReply cell level w = ⟨.error (.unknownName "script"), w, []⟩ :=
      fun _ => by simp only [nextReply, hscript]
    exact .of_quiet hrun rfl hw (fun _ hfound => by cases hfound) level
  | some script =>
    have hmem := List.mem_of_getElem? hscript
    have hrun : ∀ level, nextReply cell level w =
        ⟨(nth (script.sent + 1) script.replies).map (script.sent + 1, ·),
          { w with scripts := w.scripts.set cell { script with sent := script.sent + 1 } }, []⟩ :=
      fun _ => by simp only [nextReply, hscript]
    -- counting a send changes none of the replies
    refine .of_quiet hrun rfl (fun other hother => ?_) (fun found hfound => ?_) level
    · rcases List.mem_or_eq_of_mem_set hother with hother | rfl
      · exact hw other hother
      · exact hw script hmem
    · cases hreply : nth (script.sent + 1) script.replies with
      | error fault =>
        rw [hreply] at hfound
        cases hfound
      | ok reply =>
        rw [hreply] at hfound
        cases hfound
        exact hw script hmem reply (mem_of_nth hreply)

theorem setHeader_steady (name value : String) :
    SteadyInLine (fun _ => True) (Line.setHeader name value) := by
  refine Relay.unswayed_of_request (fun _ _ => rfl) (fun line => ?_) fun line => ?_
  all_goals
    unfold Line.setHeader
    cases line.request.headers.set name value <;> rfl

theorem setHeaders_steady (headers : List (String × String)) :
    SteadyInLine (fun _ => True) (Line.setHeaders headers) := by
  induction headers with
  | nil => exact .pure trivial
  | cons entry rest ih => exact (setHeader_steady entry.1 entry.2).bind fun _ _ => ih

theorem dropHeader_steady (name : String) :
    SteadyInLine (fun _ => True) (Line.dropHeader name) := by
  refine Relay.unswayed_of_request (fun _ _ => rfl) (fun line => ?_) fun line => ?_
  all_goals
    unfold Line.dropHeader
    dsimp only
    cases line.request.settle.headers.erase name <;> rfl

theorem dropHeaders_steady (names : List String) :
    SteadyInLine (fun _ => True) (Line.dropHeaders names) := by
  induction names with
  | nil => exact .pure trivial
  | cons name rest ih => exact (dropHeader_steady name).bind fun _ _ => ih

theorem setUrl?_steady (url : Option String) :
    SteadyInLine (fun _ => True) (Line.setUrl? url) := by
  cases url with
  | none => exact .pure trivial
  | some text =>
    rw [Line.setUrl?]
    refine Relay.unswayed_of_request (fun _ _ => rfl) (fun line => ?_) fun line => ?_
    all_goals
      unfold Line.setUrl
      cases Url.parse text <;> rfl

theorem drawIf_steady (wanted : Bool) : SteadyInLine (fun _ => True) (drawIf wanted) := by
  refine .ite (Act.Unswayed.bind (Q := fun _ => True) ?_ fun _ _ => .pure trivial) (.pure trivial)
  exact Relay.unswayed_of_request (fun _ _ => rfl) (fun _ => rfl) fun _ => rfl

theorem announce_steady (serial : Nat) (body : Option Bytes) :
    SteadyInLine (fun _ => True) (announce serial body) :=
  .get_bind fun _ _ => .emit _

theorem legible_of_response {reply : Reply} (h : reply.IsLegible) {serial : Nat}
    {response : Response} (hok : (reply.response serial).mapError Fault.text = .ok response) :
    response.IsLegible := by
  cases hr : reply.response serial with
  | error cause =>
    rw [hr] at hok
    cases hok
  | ok found =>
    rw [hr] at hok
    cases hok
    exact h serial response hr

theorem sendScripted_steady (cell : Nat) :
    SteadyInLine Response.IsLegible (sendScripted cell) := by
  refine (Relay.onPeer_unswayed (nextReply_steady cell)).bind fun (serial, reply) hreply => ?_
  refine Act.Unswayed.bind (Q := fun _ => True) ?_ fun _ _ => ?_
  · exact (setHeaders_steady _).bind fun _ _ => (dropHeaders_steady _).bind fun _ _ =>
      setUrl?_steady _
  refine (drawIf_steady _).bind fun drawn _ => (announce_steady _ _).bind fun _ _ =>
    (Act.Unswayed.decided _).bind fun _ _ => ?_
  cases reply.failure with
  | some g => exact .fail _
  | none => exact .ofExcept fun response hok => legible_of_response hreply hok

/-- No threshold sways a send, and what it answers can be read. -/
theorem Stack.send_steady (stack : Stack) : SteadyInLine Response.IsLegible stack.send := by
  induction stack with
  | network => exact .fail _
  | script cell => exact sendScripted_steady cell
  | layer mode cell inner ih =>
    rw [Stack.send_layer]
    refine Act.Unswayed.bind (Q := fun _ => True) (.get_bind fun line _ => ?_) fun here _ =>
      Relay.blocking_unswayed here.target (Source.gather_unswayed (leaves_steady here.source)) ih
    cases line.peer.layers[cell]? with
    | none => exact .fail _
    | some found => exact .pure trivial

/-! ## Deliveries -/

theorem onLine_steady {α : Type} {Q : α → Prop} (request : Request) {x : Act (Line World) α}
    (h : SteadyInLine Q x) :
    Act.Unswayed World.IsCalm (fun found => ∀ a, found.1 = .ok a → Q a) (onLine request x) := by
  intro level w hw
  obtain ⟨hrun, hstate, hfound⟩ := h level ⟨request, w⟩ hw
  refine ⟨?_, hstate, fun found hok => ?_⟩
  · simp only [onLine]
    rw [hrun]
    rfl
  · cases hok
    exact hfound

theorem Use.perform_steady (use : Use) :
    Act.Unswayed Response.IsLegible (fun _ => True) use.perform := by
  cases use with
  | read =>
    exact Response.readBody_unswayed.bind fun _ _ => .get_bind fun response _ =>
      (Act.Unswayed.decided _).map _
  | close => exact Response.close_unswayed.bind fun _ _ => .pure trivial
  | check =>
    exact .get_bind fun response _ => (Act.Unswayed.decided _).bind fun _ _ => .pure trivial

theorem performUses_steady (uses : List Use) :
    Act.Unswayed Response.IsLegible (fun _ => True) (performUses uses) := by
  induction uses with
  | nil => exact .pure trivial
  | cons use rest ih =>
    exact use.perform_steady.attempt.bind fun _ _ => ih.bind fun _ _ => .pure trivial

theorem deliver_steady (stack : Stack) (request : Request) (uses : List Use) :
    Steady (deliver stack request uses) := by
  refine (onLine_steady request stack.send_steady).bind fun (result, request) hresult => ?_
  cases result with
  | error fault => exact .pure trivial
  | ok response =>
    have hlegible := hresult response rfl
    refine (Act.Unswayed.emit _).bind fun _ _ =>
      (Act.Unswayed.within hlegible (performUses_steady uses)).bind fun (results, _) _ => ?_
    exact (Act.Unswayed.decided _).bind fun _ _ =>
      .pure trivial

theorem enter_steady (stack : Stack) : Steady stack.enter := by
  unfold Stack.enter
  cases stack.carrier with
  | script cell => exact .emit _
  | network | layer => exact .pure trivial

theorem exit_steady (stack : Stack) (kind : Option Kind) : Steady (stack.exit kind) := by
  unfold Stack.exit
  cases stack.carrier with
  | script cell =>
    exact (Act.Unswayed.emit _).bind fun _ _ => .get_bind fun _ _ => .pure trivial
  | network | layer => exact .pure trivial

theorem close_steady (stack : Stack) : Steady stack.close := by
  unfold Stack.close
  cases stack.carrier with
  | script cell => exact .emit _
  | network | layer => exact .pure trivial

/-! ## Steps -/

theorem changeFiles_steady (paths : List String) (f : Files → Files.Edited) :
    Steady (changeFiles paths f) := by
  unfold changeFiles
  by_cases h : paths.any holdsNul = true
  · simp only [if_pos h, Act.fail_bind]
    exact .fail _
  · simp only [if_neg h]
    refine .get_bind fun w _ => (modify_steady fun _ => by rfl).bind fun _ _ => ?_
    cases (f w.machine.files).fault with
    | none => exact .pure trivial
    | some cause => exact .fail _

theorem changeLayer_steady (stack : Stack) (f : Layer → Layer) : Steady (changeLayer stack f) := by
  cases stack with
  | layer mode cell inner => exact modify_steady fun _ => rfl
  | network | script => exact .pure trivial

theorem assignLayer_steady (stack : Stack) (target : Option String) (plan : Option SourcePlan) :
    Steady (assignLayer stack target plan) := by
  have hplan : Steady (assignLayer stack none plan) := by
    cases plan with
    | none => exact .pure trivial
    | some plan => exact (make_steady plan).bind fun _ _ => changeLayer_steady stack _
  cases target with
  | none => exact hplan
  | some target => exact (changeLayer_steady stack _).bind fun _ _ => hplan

/-- A new carrier joins those that are there. -/
theorem CarrierPlan.make_steady {carrier : CarrierPlan}
    (h : ∀ replies answer, carrier = .script replies answer → ∀ reply ∈ replies, reply.IsLegible) :
    Steady carrier.make := by
  cases carrier with
  | network => exact .pure trivial
  | named name => exact named_steady _ name
  | script replies exitAnswer =>
    refine .get_bind fun w _ => Act.Unswayed.bind (.modify fun v hv => ?_) fun _ _ => .pure trivial
    intro script hmem
    -- a script is one of those that are there, or the new one
    rcases List.mem_append.mp hmem with hmem | hmem
    · exact hv script hmem
    · cases List.mem_singleton.mp hmem
      exact h replies exitAnswer rfl

theorem makeStack_steady (mode : Mode) (target : String) (plan : SourcePlan)
    {carrier : CarrierPlan} (h : Steady carrier.make) :
    Steady (makeStack mode target plan carrier) := by
  rw [makeStack_eq]
  refine (make_steady plan).bind fun source _ => h.bind fun inner _ => ?_
  exact .get_bind fun _ _ => (modify_steady fun _ => by rfl).bind fun _ _ => .pure trivial

theorem RequestPlan.make_steady (plan : RequestPlan) : Steady plan.make := by
  cases plan with
  | named name => exact named_steady _ name
  | draft d => exact .decided _

theorem RequestPlan.keep_steady (plan : RequestPlan) (request : Request) :
    Steady (plan.keep request) := by
  cases plan with
  | named name => exact modify_steady fun _ => rfl
  | draft d => exact .pure trivial

theorem editRequest_steady (request : Request) (edit : Request.Edit) :
    Steady (editRequest request edit) := by
  have hedit : SteadyInLine (fun _ => True) (do
      Line.setUrl? edit.url
      Line.setHeaders edit.setHeaders
      Line.dropHeaders edit.dropHeaders) :=
    (setUrl?_steady _).bind fun _ _ => (setHeaders_steady _).bind fun _ _ => dropHeaders_steady _
  intro level w hw
  obtain ⟨hrun, hstate, -⟩ := onLine_steady request hedit level w hw
  exact ⟨hrun, hstate, fun _ _ => trivial⟩

/-- No threshold sways a step, and all carriers go on to answer with what can be read. -/
theorem Step.perform_steady {step : Step} (h : step.IsCalm) : Steady step.perform := by
  cases step <;> simp only [Step.perform]
  case setVariable name value =>
    cases EnvFile.bindingFault? name value with
    | some fault => exact .fail _
    | none =>
      exact (onMachine_steady (.modify fun _ _ => trivial)).bind fun _ _ => .pure trivial
  case unsetVariable name =>
    exact (onMachine_steady (.modify fun _ _ => trivial)).bind fun _ _ => .pure trivial
  case showEnvironment => exact .get_bind fun _ _ => .pure trivial
  case write | makeDirectory | link | remove | changeDirectory | loseDirectory =>
    exact changeFiles_steady _ _
  case setThreshold => exact .pure trivial
  case makeResolver name path loads =>
    exact (onMachine_steady (create_steady path loads)).bind fun _ _ =>
      (modify_steady fun _ => by rfl).bind fun _ _ => .pure trivial
  case ensureLoaded name =>
    exact (named_steady _ name).bind fun r _ =>
      (onMachine_steady (ensureLoaded_steady r)).bind fun _ _ =>
        (modify_steady fun _ => by rfl).bind fun _ _ => .pure trivial
  case isLoaded name => exact (named_steady _ name).bind fun _ _ => .pure trivial
  case resolve name value variableName fallback required =>
    exact ((named_steady _ name).map _).bind fun _ _ =>
      (onMachine_steady (resolve_steady _ _ _ _)).bind fun _ _ => .pure trivial
  case resolveFromFile name path variableName required =>
    exact ((named_steady _ name).map _).bind fun _ _ =>
      (onMachine_steady (resolveFromFile_steady _ _ _)).bind fun _ _ => .pure trivial
  case keepSource name plan =>
    exact (make_steady plan).bind fun _ _ => (modify_steady fun _ => by rfl).bind fun _ _ =>
      .pure trivial
  case describe plan => exact (make_steady plan).bind fun _ _ => .pure trivial
  case askOne plan =>
    exact (make_steady plan).bind fun source _ =>
      (Source.one_unswayed (leaves_steady source)).bind fun _ _ => .pure trivial
  case askAll plan =>
    exact (make_steady plan).bind fun source _ =>
      (Source.all_unswayed (leaves_steady source)).bind fun _ _ => .pure trivial
  case gather plan =>
    exact (make_steady plan).bind fun source _ =>
      (Source.gather_unswayed (leaves_steady source)).bind fun _ _ => .pure trivial
  case makeRelay name mode target plan carrier =>
    have hcarrier : Steady carrier.make := by
      refine CarrierPlan.make_steady ?_
      rintro replies answer rfl
      exact h
    exact (makeStack_steady mode target plan hcarrier).bind fun _ _ =>
      (modify_steady fun _ => by rfl).bind fun _ _ => .pure trivial
  case assignRelay name target plan =>
    exact (named_steady _ name).bind fun stack _ =>
      (assignLayer_steady stack target plan).bind fun _ _ => .pure trivial
  case keepRequest name draft =>
    exact (Act.Unswayed.decided _).bind fun _ _ =>
      (modify_steady fun _ => by rfl).bind fun _ _ => .pure trivial
  case editRequest name edit =>
    exact (named_steady _ name).bind fun request _ =>
      (editRequest_steady request edit).bind fun _ _ =>
        (modify_steady fun _ => by rfl).bind fun _ _ =>
          (Act.Unswayed.decided _).bind fun _ _ =>
            .pure trivial
  case send relay plan uses =>
    exact plan.make_steady.bind fun request _ => (named_steady _ relay).bind fun stack _ =>
      (deliver_steady stack request uses).bind fun _ _ => (plan.keep_steady _).bind fun _ _ =>
        .pure trivial
  case enter relay =>
    exact (named_steady _ relay).bind fun stack _ => (enter_steady stack).bind fun _ _ =>
      .pure trivial
  case exit relay kind =>
    exact (named_steady _ relay).bind fun stack _ => (exit_steady stack kind).bind fun _ _ =>
      .pure trivial
  case close relay =>
    exact (named_steady _ relay).bind fun stack _ => (close_steady stack).bind fun _ _ =>
      .pure trivial

/-! ## Sessions -/

/-- The step, with the threshold as low as possible if it sets one. -/
def Step.loud : Step → Step
  | .setThreshold _ => .setThreshold .debug
  | step => step

/-- The thresholds under which steps are performed. -/
def thresholds : Level → List Step → List Level
  | _, [] => []
  | level, step :: rest => level :: thresholds (step.threshold level) rest

/-- A report without the records below a threshold. -/
def Report.above (threshold : Level) (report : Report) : Report :=
  ⟨report.result, report.journal.filter (Mark.passes threshold)⟩

theorem Step.perform_loud (step : Step) : step.loud.perform = step.perform := by
  cases step <;> rfl

theorem Step.threshold_loud (step : Step) : step.loud.threshold .debug = .debug := by
  cases step <;> rfl

theorem Step.isCalm_loud {step : Step} : step.loud.IsCalm ↔ step.IsCalm := by
  cases step <;> rfl

/-- A session reports what it reports when everything is recorded, without the records below the
threshold in force, and it leaves the same world. -/
theorem run_above {w : World} (hw : w.IsCalm) {steps : List Step}
    (hsteps : ∀ step ∈ steps, step.IsCalm) (level : Level) :
    run level w steps =
      List.zipWith Report.above (thresholds level steps) (run .debug w (steps.map Step.loud)) ∧
    (after level w steps).2 = (after .debug w (steps.map Step.loud)).2 := by
  induction steps generalizing level w with
  | nil => exact ⟨rfl, rfl⟩
  | cons step rest ih =>
    obtain ⟨hstep, hrest⟩ := List.forall_mem_cons.mp hsteps
    -- the step leaves the same world under both thresholds, and the rest goes on from it
    obtain ⟨hrun, hcalm, -⟩ := Step.perform_steady hstep level w hw
    rw [hrun] at hcalm
    obtain ⟨hreports, hafter⟩ := ih hcalm hrest (step.threshold level)
    simp only [List.map_cons, run, after, thresholds, Step.perform_loud, Step.threshold_loud,
      List.zipWith_cons_cons, hrun]
    exact ⟨congrArg₂ List.cons rfl hreports, hafter⟩

/-- Leaving out records leaves the results and the events of all reports. -/
theorem map_above {α : Type} {f : Report → α} (hf : ∀ threshold report,
    f (report.above threshold) = f report) {levels : List Level} {reports : List Report}
    (h : levels.length = reports.length) :
    (List.zipWith Report.above levels reports).map f = reports.map f := by
  induction levels generalizing reports with
  | nil =>
    cases reports with
    | nil => rfl
    | cons report rest => cases h
  | cons level levels ih =>
    cases reports with
    | nil => cases h
    | cons report rest =>
      rw [List.zipWith_cons_cons, List.map_cons, List.map_cons, hf, ih (Nat.succ.inj h)]

theorem length_thresholds (level level' : Level) (w : World) (steps : List Step) :
    (thresholds level steps).length = (run level' w (steps.map Step.loud)).length := by
  induction steps generalizing level level' w with
  | nil => rfl
  | cons step rest ih =>
    simp only [List.map_cons, run, thresholds, List.length_cons]
    exact congrArg (· + 1) (ih _ _ _)

theorem eventsOf_above (threshold : Level) (report : Report) :
    eventsOf (report.above threshold).journal = eventsOf report.journal := by
  rw [eventsOf, eventsOf, Report.above, List.filterMap_filter]
  refine List.filterMap_congr fun mark _ => ?_
  cases mark with
  | event e => rfl
  | record r => cases hp : r.level.passes threshold <;> simp [Mark.passes, Mark.event?, hp]

/-- Logging has no effect on behaviour. Take a session in which the body of every response has a
text, with its thresholds set and changed in any way. Its reports are those of the same session with
everything recorded, in which no step differs but those that set a threshold: the results and
failures are the same, and the entries in the journal are the same and in the same order, without
the records below the threshold in force. The world it leaves is the same too. So of two sessions
that start from one world and differ in their thresholds only, both have the same results and
failures in all steps, the same queries, sends, readings and closings, and the same world at the
end. -/
theorem logging_without_effect (w : World) (hw : w.IsCalm) (steps : List Step)
    (hsteps : ∀ step ∈ steps, step.IsCalm) :
    (∀ level, run level w steps =
        List.zipWith Report.above (thresholds level steps) (run .debug w (steps.map Step.loud)) ∧
      (after level w steps).2 = (after .debug w (steps.map Step.loud)).2) ∧
    ∀ (level level' : Level) (steps' : List Step), steps.map Step.loud = steps'.map Step.loud →
      (run level w steps).map Report.result = (run level' w steps').map Report.result ∧
      (run level w steps).map (fun report => eventsOf report.journal) =
        (run level' w steps').map (fun report => eventsOf report.journal) ∧
      (after level w steps).2 = (after level' w steps').2 := by
  refine ⟨run_above hw hsteps, fun level level' steps' heq => ?_⟩
  have hsteps' : ∀ step ∈ steps', step.IsCalm := by
    intro step hmem
    have hloud : step.loud ∈ steps.map Step.loud := heq ▸ List.mem_map_of_mem hmem
    obtain ⟨other, hother, hsame⟩ := List.mem_map.mp hloud
    exact Step.isCalm_loud.mp (hsame ▸ Step.isCalm_loud.mpr (hsteps other hother))
  obtain ⟨hreports, hafter⟩ := run_above hw hsteps level
  obtain ⟨hreports', hafter'⟩ := run_above hw hsteps' level'
  have hlength := length_thresholds level .debug w steps
  have hlength' := length_thresholds level' .debug w steps'
  rw [heq] at hreports hafter hlength
  refine ⟨?_, ?_, hafter.trans hafter'.symm⟩
  · rw [hreports, hreports', map_above (fun _ _ => rfl) hlength, map_above (fun _ _ => rfl) hlength']
  · rw [hreports, hreports', map_above eventsOf_above hlength, map_above eventsOf_above hlength']

/-- A session that makes a relay with two candidates, of which the first one is rejected, sends a
request through it, and records less from then on. -/
def rejectedOnce : List Step :=
  [.makeRelay "t" .blocking "h"
      (.chain [.fixed .bearer { registryToken := "a" }, .fixed .bearer { registryToken := "b" }])
      (.script [{ status := 401, body := Text.Utf8.encode "no" }, {}] none),
    .send "t" (.draft { url := "//h" }) [.check],
    .setThreshold .error]

/-- A rejection is recorded in one of two sessions, and nothing else is different. -/
theorem logging_without_effect_rejected_once :
    let start : World := { machine := { environment := [], files := ⟨[], { place := [] }⟩ } }
    recordsOf ((run .debug start rejectedOnce).flatMap Report.journal) =
      [⟨.debug, .relay, "Request GET //h rejected with 401 (credentials 1/2), " ++
        "trying next credentials. Response body: no"⟩] ∧
    recordsOf ((run .info start rejectedOnce).flatMap Report.journal) = [] ∧
    run .info start rejectedOnce = List.zipWith Report.above [.info, .info, .info]
      (run .debug start (rejectedOnce.map Step.loud)) ∧
    (run .info start rejectedOnce).map Report.result =
      (run .debug start rejectedOnce).map Report.result := by
  intro start
  have hcalm : start.IsCalm := fun _ hmem => by cases hmem
  have hsteps : ∀ step ∈ rejectedOnce, step.IsCalm := by
    simp only [rejectedOnce, List.forall_mem_cons, Step.IsCalm, List.not_mem_nil,
      IsEmpty.forall_iff, implies_true, and_true]
    refine ⟨?_, ?_⟩
    · rintro serial _ ⟨⟩
      exact ⟨"no", rfl⟩
    · rintro serial _ ⟨⟩
      exact ⟨"", rfl⟩
  have hrun := logging_without_effect start hcalm rejectedOnce hsteps
  exact ⟨by decide +kernel, by decide +kernel, (hrun.1 .info).1,
    (hrun.2 .info .debug rejectedOnce rfl).1⟩

end AuthRelay.Session
