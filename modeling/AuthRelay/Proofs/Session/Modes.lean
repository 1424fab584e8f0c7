import AuthRelay.Proofs.Gathering
import AuthRelay.Proofs.Relay.Stacks
import AuthRelay.Proofs.Tables
import AuthRelay.Session.Step
/-!
# The mode makes no difference

Whoever uses a session cannot tell in which mode its relays run. With all relays set to one mode, in
the steps that are to come and in the world as it stands, every step has the same answer, makes the
same entries in the journal, and leaves the world as it otherwise would but for the modes. Sources,
scripts and requests are shared by the relays of a session, so this has to hold of whole sessions
and not only of single sends.
-/
namespace AuthRelay

namespace Session

/-- The stack with all its relays in one mode. -/
def Stack.inMode (mode : Mode) : Stack → Stack
  | .network => .network
  | .script cell => .script cell
  | .layer _ cell inner => .layer mode cell (inner.inMode mode)

/-- The world with all its relays in one mode. -/
def World.inMode (mode : Mode) (w : World) : World :=
  { w with relays := w.relays.map fun (name, stack) => (name, stack.inMode mode) }

/-- The step with the relay that it makes in one mode. -/
def Step.inMode (mode : Mode) : Step → Step
  | .makeRelay name _ target plan carrier => .makeRelay name mode target plan carrier
  | step => step

/-- A world that is another one with all its relays in one mode. -/
def World.SetTo (mode : Mode) (w w' : World) : Prop :=
  w = w'.inMode mode

/-- Two acts that come to the same, the first of them in a world with all relays in one mode. -/
abbrev SameIn (mode : Mode) {α : Type} (x y : Act World α) : Prop :=
  Act.Alike (World.SetTo mode) some x y

/-- Two acts on lines that come to the same, the first of them in a world with all relays in one
mode. -/
abbrev SameInLine (mode : Mode) {α : Type} (x y : Act (Line World) α) : Prop :=
  Act.Alike (Line.Agree (World.SetTo mode)) some x y

variable {mode : Mode}

/-! ## Looking at a world and changing it -/

theorem onMachine_alike {α : Type} (act : Act Machine α) :
    SameIn mode (World.onMachine act) (World.onMachine act) := by
  rintro level _ w rfl
  exact ⟨rfl, rfl, rfl⟩

theorem modify_alike {f : World → World} (h : ∀ w, f (w.inMode mode) = (f w).inMode mode) :
    SameIn mode (Act.modify f) (Act.modify f) :=
  .modify (by rintro _ w rfl; exact h w)

/-- A table without stacks holds the same. -/
theorem named_alike {α : Type} {table : World → Table α}
    (h : ∀ w, table (w.inMode mode) = table w) (name : String) :
    SameIn mode (World.named table name) (World.named table name) := by
  refine .get_bind ?_
  rintro _ w rfl
  rw [h]
  cases (table w).find? name with
  | none => exact .fail _
  | some a => exact .pure a

/-- The stack under a name is the same but for the modes. -/
theorem named_relays_alike (name : String) :
    SameIn mode (World.named World.relays name)
      (Stack.inMode mode <$> World.named World.relays name) := by
  unfold World.named
  rw [map_bind]
  refine .get_bind ?_
  rintro _ w rfl
  simp only [World.inMode, Table.find?_map]
  cases w.relays.find? name with
  | none => exact .fail _
  | some stack => exact .pure _

theorem newTally_alike : SameIn mode World.newTally World.newTally := by
  rintro level _ w rfl
  exact ⟨rfl, rfl, rfl⟩

theorem count_alike (cell : Nat) :
    SameIn mode (World.count cell) (World.count cell) := by
  rintro level _ w rfl
  exact ⟨rfl, rfl, rfl⟩

/-! ## Sources -/

theorem deliverLazily_alike (failure : Option Given) (sets : List CredentialSet) :
    SameIn mode (Provider.deliverLazily failure sets) (Provider.deliverLazily failure sets) := by
  induction sets with
  | nil =>
    cases failure with
    | none => exact .pure _
    | some g => exact .fail _
  | cons set rest ih => exact (Act.Alike.emit _).bind fun _ => ih.bind fun _ => .pure _

theorem supplier_alike (p : Provider) :
    p.supplier.Alike (World.SetTo mode) some p.supplier := by
  cases p with
  | fixed stock set => exact ⟨rfl, .some (.pure _), .none⟩
  | environment stem required => exact ⟨rfl, .some (onMachine_alike _), .none⟩
  | counting tally stem =>
    exact ⟨rfl, .some ((Act.Alike.emit _).bind fun _ => (count_alike _).bind fun _ => .pure _),
      .none⟩
  | failing failure => exact ⟨rfl, .some ((Act.Alike.emit _).bind fun _ => .fail _), .none⟩
  | rotating tally lists =>
    exact ⟨rfl, .none, .some ((Act.Alike.emit _).bind fun _ =>
      (count_alike _).bind fun _ => .ofExcept _)⟩
  | both one all =>
    exact ⟨rfl, .some ((Act.Alike.emit _).bind fun _ => .pure _),
      .some ((Act.Alike.emit _).bind fun _ => .pure _)⟩
  | «lazy» all failure => exact ⟨rfl, .none, .some (deliverLazily_alike failure all)⟩

theorem seeToResolver_alike (path resolver : Option String) :
    SameIn mode (SourcePlan.seeToResolver path resolver)
      (SourcePlan.seeToResolver path resolver) := by
  cases resolver with
  | none => exact (onMachine_alike _).map _
  | some name => exact (named_alike (fun _ => rfl) name).map _

mutual

theorem make_alike (plan : SourcePlan) :
    SameIn mode plan.make plan.make :=
  match plan with
  | .named name => named_alike (fun _ => rfl) name
  | .fixed _ _ | .failing _ | .both _ _ | .lazy _ _ => .pure _
  | .chain members => (makeAll_alike members).bind fun _ => .pure _
  | .environment _ _ path resolver => (seeToResolver_alike path resolver).bind fun _ => .pure _
  | .counting _ | .rotating _ => newTally_alike.bind fun _ => .pure _

theorem makeAll_alike (plans : List SourcePlan) :
    SameIn mode (SourcePlan.makeAll plans) (SourcePlan.makeAll plans) :=
  match plans with
  | [] => .pure _
  | plan :: rest => (make_alike plan).bind fun _ => (makeAll_alike rest).bind fun _ => .pure _

end

/-! ## Carriers -/

theorem nextReply_alike (cell : Nat) :
    SameIn mode (nextReply cell) (nextReply cell) := by
  rintro level _ w rfl
  rw [Act.alikeAt_iff]
  unfold nextReply World.inMode
  cases w.scripts[cell]? <;> exact ⟨rfl, rfl, rfl⟩

theorem drawIf_alike (wanted : Bool) :
    SameInLine mode (drawIf wanted) (drawIf wanted) :=
  Act.Alike.ite (Relay.drawBody_alike.bind fun _ => .pure _) (.pure _)

theorem announce_alike (serial : Nat) (body : Option Bytes) :
    SameInLine mode (announce serial body) (announce serial body) := by
  refine .get_bind ?_
  rintro ⟨request, peer⟩ ⟨_, peer'⟩ ⟨rfl, -⟩
  exact .emit _

theorem sendScripted_alike (cell : Nat) :
    SameInLine mode (sendScripted cell) (sendScripted cell) := by
  refine (Relay.onPeer_alike (nextReply_alike cell)).bind fun (serial, reply) => ?_
  refine Act.Alike.bind ?_ fun _ => ?_
  · exact (Relay.setHeaders_alike _).bind fun _ => (Relay.dropHeaders_alike _).bind fun _ =>
      Relay.setUrl?_alike _
  · refine (drawIf_alike _).bind fun drawn => (announce_alike _ _).bind fun _ =>
      (Act.Alike.ofExcept drawn).bind fun _ => ?_
    cases reply.failure with
    | some g => exact .fail _
    | none => exact .ofExcept _

theorem layerAt_alike (cell : Nat) :
    SameInLine mode (Stack.layerAt cell) (Stack.layerAt cell) := by
  refine .get_bind fun line line' ⟨_, hpeer⟩ => ?_
  have hlayers : line.peer.layers = line'.peer.layers := by
    rw [show line.peer = line'.peer.inMode mode from hpeer]
    rfl
  rw [hlayers]
  cases line'.peer.layers[cell]? with
  | none => exact .fail _
  | some found => exact .pure found

/-- A relay of a session does the same in either mode. -/
theorem Stack.send_layer (m : Mode) (cell : Nat) (inner : Stack) :
    (Stack.layer m cell inner).send = layerAt cell >>= fun here =>
      Relay.blocking here.target (suppliers here.source).gather inner.send := by
  rw [Stack.send]
  congr 1
  funext here
  cases m with
  | blocking => rfl
  | stepwise =>
    dsimp only
    rw [Relay.stepwise_run, Task.run_once]

theorem send_alike (stack : Stack) :
    SameInLine mode (stack.inMode mode).send stack.send := by
  induction stack with
  | network => exact .fail _
  | script cell => exact sendScripted_alike cell
  | layer m cell inner ih =>
    rw [Stack.inMode, Stack.send_layer, Stack.send_layer]
    exact (layerAt_alike cell).bind fun here =>
      Relay.blocking_alike (Source.gather_alike supplier_alike here.source) ih

@[simp] theorem Stack.carrier_inMode (stack : Stack) :
    (stack.inMode mode).carrier = stack.carrier := by
  induction stack with
  | network => rfl
  | script cell => rfl
  | layer m cell inner ih => exact ih

theorem onLine_alike {α : Type} {x y : Act (Line World) α} (request : Request)
    (h : SameInLine mode x y) : SameIn mode (onLine request x) (onLine request y) := by
  intro level w w' hw
  obtain ⟨hresult, ⟨hrequest, hpeer⟩, hjournal⟩ := h level ⟨request, w⟩ ⟨request, w'⟩ ⟨rfl, hw⟩
  exact ⟨congrArg Except.ok (Prod.ext hresult hrequest), hpeer, hjournal⟩

theorem within_alike {α τ : Type} (t : τ) (act : Act τ α) :
    SameIn mode (Act.within t act) (Act.within t act) :=
  fun _ _ _ h => ⟨rfl, h, rfl⟩

theorem deliver_alike (stack : Stack) (request : Request) (uses : List Use) :
    SameIn mode (deliver (stack.inMode mode) request uses) (deliver stack request uses) := by
  refine (onLine_alike request (send_alike stack)).bind fun (result, request) => ?_
  cases result with
  | error fault => exact .pure _
  | ok response =>
    exact (Act.Alike.emit _).bind fun _ => (within_alike _ _).bind fun (results, _) =>
      (Act.Alike.ofExcept results).bind fun _ => .pure _

theorem enter_alike (stack : Stack) :
    SameIn mode (stack.inMode mode).enter stack.enter := by
  unfold Stack.enter
  rw [Stack.carrier_inMode]
  cases stack.carrier with
  | script cell => exact .emit _
  | network => exact .pure _
  | layer m cell inner => exact .pure _

theorem exit_alike (stack : Stack) (kind : Option Kind) :
    SameIn mode ((stack.inMode mode).exit kind) (stack.exit kind) := by
  unfold Stack.exit
  rw [Stack.carrier_inMode]
  cases stack.carrier with
  | script cell =>
    refine (Act.Alike.emit _).bind fun _ => .get_bind ?_
    rintro _ w rfl
    exact .pure _
  | network => exact .pure _
  | layer m cell inner => exact .pure _

theorem close_alike (stack : Stack) :
    SameIn mode (stack.inMode mode).close stack.close := by
  unfold Stack.close
  rw [Stack.carrier_inMode]
  cases stack.carrier with
  | script cell => exact .emit _
  | network => exact .pure _
  | layer m cell inner => exact .pure _

/-! ## Steps -/

theorem changeFiles_alike (paths : List String) (f : Files → Files.Edited) :
    SameIn mode (changeFiles paths f) (changeFiles paths f) := by
  unfold changeFiles
  by_cases h : paths.any holdsNul = true
  · simp only [if_pos h, Act.fail_bind]
    exact .fail _
  · simp only [if_neg h]
    refine .get_bind ?_
    rintro _ w rfl
    rw [show (w.inMode mode).machine = w.machine from rfl]
    refine (modify_alike fun _ => by rfl).bind fun _ => ?_
    cases (f w.machine.files).fault with
    | none => exact .pure _
    | some cause => exact .fail _

theorem changeLayer_alike (stack : Stack) (f : Layer → Layer) :
    SameIn mode (changeLayer (stack.inMode mode) f) (changeLayer stack f) := by
  cases stack with
  | layer m cell inner => exact modify_alike fun _ => rfl
  | network => exact .pure _
  | script cell => exact .pure _

theorem assignLayer_alike (stack : Stack) (target : Option String) (plan : Option SourcePlan) :
    SameIn mode (assignLayer (stack.inMode mode) target plan) (assignLayer stack target plan) := by
  have hplan : SameIn mode
      (assignLayer (stack.inMode mode) none plan) (assignLayer stack none plan) := by
    cases plan with
    | none => exact .pure _
    | some plan =>
      exact (make_alike plan).bind fun source => changeLayer_alike stack _
  cases target with
  | none => exact hplan
  | some target => exact (changeLayer_alike stack _).bind fun _ => hplan

/-- Makes the carrier that a new relay stands in front of. -/
def CarrierPlan.make : CarrierPlan → Act World Stack
  | .network => pure .network
  | .named name => World.named World.relays name
  | .script replies exitAnswer => do
    let cell := (← Act.get).scripts.length
    Act.modify fun w => { w with scripts := w.scripts ++ [⟨replies, exitAnswer, 0⟩] }
    pure (.script cell)

/-- Puts a relay with a source in front of a carrier. -/
def placeRelay (mode : Mode) (target : String) (source : Source Provider) (inner : Stack) :
    Act World Stack := do
  let cell := (← Act.get).layers.length
  Act.modify fun w => { w with layers := w.layers ++ [⟨target, source⟩] }
  pure (.layer mode cell inner)

theorem makeStack_eq (m : Mode) (target : String) (plan : SourcePlan) (carrier : CarrierPlan) :
    makeStack m target plan carrier =
      plan.make >>= fun source => carrier.make >>= placeRelay m target source := by
  cases carrier <;> rfl

theorem CarrierPlan.make_alike (carrier : CarrierPlan) :
    SameIn mode carrier.make (Stack.inMode mode <$> carrier.make) := by
  cases carrier with
  | network => exact .pure _
  | named name => exact named_relays_alike name
  | script replies exitAnswer =>
    rintro level _ w rfl
    exact ⟨rfl, rfl, rfl⟩

theorem placeRelay_alike (m : Mode) (target : String) (source : Source Provider) (inner : Stack) :
    SameIn mode (placeRelay mode target source (inner.inMode mode))
      (Stack.inMode mode <$> placeRelay m target source inner) := by
  rintro level _ w rfl
  exact ⟨rfl, rfl, rfl⟩

theorem makeStack_alike (m : Mode) (target : String) (plan : SourcePlan) (carrier : CarrierPlan) :
    SameIn mode (makeStack mode target plan carrier)
      (Stack.inMode mode <$> makeStack m target plan carrier) := by
  rw [makeStack_eq, makeStack_eq, map_bind]
  refine (make_alike plan).bind fun source => ?_
  rw [map_bind]
  exact carrier.make_alike.bind_map fun inner => placeRelay_alike m target source inner

theorem keepRequest_alike (name : String) (request : Request) :
    SameIn mode (keepRequest name request) (keepRequest name request) :=
  modify_alike fun _ => rfl

theorem assign_relays_alike (name : String) (stack : Stack) :
    SameIn mode (Act.modify fun w => { w with relays := w.relays.assign name (stack.inMode mode) })
      (Act.modify fun w => { w with relays := w.relays.assign name stack }) := by
  refine .modify ?_
  rintro _ w rfl
  show _ = World.inMode mode _
  unfold World.inMode
  rw [Table.map_assign]

theorem RequestPlan.make_alike (plan : RequestPlan) :
    SameIn mode plan.make plan.make := by
  cases plan with
  | named name => exact named_alike (fun _ => rfl) name
  | draft d => exact .ofExcept _

theorem RequestPlan.keep_alike (plan : RequestPlan) (request : Request) :
    SameIn mode (plan.keep request) (plan.keep request) := by
  cases plan with
  | named name => exact keepRequest_alike name request
  | draft d => exact .pure _

theorem editRequest_alike (request : Request) (edit : Request.Edit) :
    SameIn mode (editRequest request edit) (editRequest request edit) :=
  onLine_alike request <| (Relay.setUrl?_alike _).bind fun _ =>
    (Relay.setHeaders_alike _).bind fun _ => Relay.dropHeaders_alike _

/-- A step does the same whatever the mode of the relays. -/
theorem perform_alike (step : Step) :
    SameIn mode (step.inMode mode).perform step.perform := by
  cases step <;> simp only [Step.inMode, Step.perform]
  case setVariable name value =>
    cases EnvFile.bindingFault? name value with
    | some fault => exact .fail _
    | none => exact (onMachine_alike _).bind fun _ => .pure _
  case unsetVariable name => exact (onMachine_alike _).bind fun _ => .pure _
  case showEnvironment =>
    refine .get_bind ?_
    rintro _ w rfl
    exact .pure _
  case write path content => exact changeFiles_alike _ _
  case makeDirectory path => exact changeFiles_alike _ _
  case link path target => exact changeFiles_alike _ _
  case remove path => exact changeFiles_alike _ _
  case changeDirectory path => exact changeFiles_alike _ _
  case loseDirectory path => exact changeFiles_alike _ _
  case setThreshold level => exact .pure _
  case makeResolver name path loads =>
    exact (onMachine_alike _).bind fun _ => (modify_alike fun _ => by rfl).bind fun _ => .pure _
  case ensureLoaded name =>
    exact (named_alike (fun _ => rfl) name).bind fun _ => (onMachine_alike _).bind fun _ =>
      (modify_alike fun _ => by rfl).bind fun _ => .pure _
  case isLoaded name => exact (named_alike (fun _ => rfl) name).bind fun _ => .pure _
  case resolve name value variableName fallback required =>
    exact ((named_alike (fun _ => rfl) name).map _).bind fun _ =>
      (onMachine_alike _).bind fun _ => .pure _
  case resolveFromFile name path variableName required =>
    exact ((named_alike (fun _ => rfl) name).map _).bind fun _ =>
      (onMachine_alike _).bind fun _ => .pure _
  case keepSource name plan =>
    exact (make_alike plan).bind fun _ => (modify_alike fun _ => by rfl).bind fun _ => .pure _
  case describe plan => exact (make_alike plan).bind fun _ => .pure _
  case askOne plan =>
    exact (make_alike plan).bind fun source =>
      (Source.one_alike supplier_alike source).bind fun _ => .pure _
  case askAll plan =>
    exact (make_alike plan).bind fun source =>
      (Source.all_alike supplier_alike source).bind fun _ => .pure _
  case gather plan =>
    exact (make_alike plan).bind fun source =>
      (Source.gather_alike supplier_alike source).bind fun _ => .pure _
  -- a stack is the same but for the modes, so its uses are compared and not it itself
  case makeRelay name m target plan carrier =>
    exact (makeStack_alike m target plan carrier).bind_map fun stack =>
      (assign_relays_alike name stack).bind fun _ => .pure _
  case assignRelay name target plan =>
    exact (named_relays_alike name).bind_map fun stack =>
      (assignLayer_alike stack target plan).bind fun _ => .pure _
  case keepRequest name draft =>
    exact (Act.Alike.ofExcept _).bind fun request => (keepRequest_alike name request).bind fun _ =>
      .pure _
  case editRequest name edit =>
    exact (named_alike (fun _ => rfl) name).bind fun request =>
      (editRequest_alike request edit).bind fun (result, request) =>
        (keepRequest_alike name request).bind fun _ =>
          (Act.Alike.ofExcept result).bind fun _ => .pure _
  case send relay plan uses =>
    exact plan.make_alike.bind fun request => (named_relays_alike relay).bind_map fun stack =>
      (deliver_alike stack request uses).bind fun (delivery, request) =>
        (plan.keep_alike request).bind fun _ => .pure _
  case enter relay =>
    exact (named_relays_alike relay).bind_map fun stack => (enter_alike stack).bind fun _ =>
      .pure _
  case exit relay kind =>
    exact (named_relays_alike relay).bind_map fun stack => (exit_alike stack kind).bind fun _ =>
      .pure _
  case close relay =>
    exact (named_relays_alike relay).bind_map fun stack => (close_alike stack).bind fun _ =>
      .pure _

/-- A session with all its relays in one mode reports what it reports otherwise. -/
theorem run_inMode (mode : Mode) (level : Level) (w : World) (steps : List Step) :
    run level (w.inMode mode) (steps.map (Step.inMode mode)) = run level w steps := by
  induction steps generalizing level w with
  | nil => rfl
  | cons step rest ih =>
    obtain ⟨hresult, hstate, hjournal⟩ := perform_alike step level (w.inMode mode) w rfl
    have hthreshold : (step.inMode mode).threshold level = step.threshold level := by
      cases step <;> rfl
    rw [List.filterMap_some, List.filterMap_some] at hjournal
    simp only [List.map_cons, run, hresult, hjournal, hthreshold]
    rw [show _ = _ from hstate, ih]

/-- The two modes agree. Run to its end, the stepwise relay is the blocking one, as an act: for
every target, every source and every carrier, whether it answers at once or in steps, it comes to
the same result from the same request and state of the other side, makes the same entries in the
journal in the same order, and leaves the same request and the same state. And a session in which
all relays are set to one of the modes reports, step by step, what it reports in any other modes,
whatever its relays share and however they are stacked. -/
theorem modes_agree :
    (∀ {σ : Type} (target : String) (gather : Act σ Candidates) (next : Task (Line σ) Response),
      (Relay.stepwise target gather next).run = Relay.blocking target gather next.run) ∧
    ∀ (mode : Mode) (level : Level) (w : World) (steps : List Step),
      run level (w.inMode mode) (steps.map (Step.inMode mode)) = run level w steps :=
  ⟨Relay.stepwise_run, run_inMode⟩

end Session
end AuthRelay
