import AuthRelay.Files.Edit
import AuthRelay.Session.Carriers
/-!
# The steps of a session

A step changes the machine, makes or uses an object, or sends a request. `Step.perform` says what it
does; a failure ends the step, keeps what has been changed so far, and never ends the session.
-/
namespace AuthRelay.Session

/-- The request of a send: one that is kept under a name, or a new one. -/
inductive RequestPlan
  | named (name : String)
  | draft (d : Draft)
  deriving Repr, DecidableEq

/-- What a new relay stands in front of. -/
inductive CarrierPlan
  | network
  | named (name : String)
  | script (replies : List Reply) (exitAnswer : Option Bool)
  deriving Repr, DecidableEq

/-- What the caller does with a response. -/
inductive Use
  | read
  | close
  | check
  deriving Repr, DecidableEq

/-- A step. Paths are absolute. -/
inductive Step
  | setVariable (name value : String)
  | unsetVariable (name : String)
  | showEnvironment
  | write (path : String) (content : Bytes)
  | makeDirectory (path : String)
  | link (path target : String)
  | remove (path : String)
  | changeDirectory (path : String)
  | loseDirectory (path : String)
  | setThreshold (level : Level)
  | makeResolver (name : String) (path : Option String) (loads : Bool)
  | ensureLoaded (name : String)
  | isLoaded (name : String)
  | resolve (name : String) (value variableName fallback : Option String) (required : Bool)
  | resolveFromFile (name : String) (path variableName : Option String) (required : Bool)
  | keepSource (name : String) (plan : SourcePlan)
  | describe (plan : SourcePlan)
  | askOne (plan : SourcePlan)
  | askAll (plan : SourcePlan)
  | gather (plan : SourcePlan)
  | makeRelay (name : String) (mode : Mode) (target : String) (plan : SourcePlan)
      (carrier : CarrierPlan)
  | assignRelay (name : String) (target : Option String) (plan : Option SourcePlan)
  | keepRequest (name : String) (draft : Draft)
  | editRequest (name : String) (edit : Request.Edit)
  | send (relay : String) (request : RequestPlan) (uses : List Use)
  | enter (relay : String)
  | exit (relay : String) (kind : Option Kind)
  | close (relay : String)
  deriving Repr

/-- What the caller has of a response: its status, whether it came closed, and the result of each
use, with the text for a reading. -/
structure Receipt where
  status : Int
  closed : Bool
  uses : List (Except Fault (Option String))

/-- The end of a send: the headers of the request, and the response or the failure. -/
structure Delivery where
  headers : List (Bytes × Bytes)
  result : Except Fault Receipt

/-- The answer to a step. -/
inductive Answer
  | nothing
  | flag (b : Option Bool)
  | text (s : Option String)
  | environment (e : Environment)
  | credentials (c : CredentialSet)
  | candidates (l : List CredentialSet)
  | description (d : Description)
  | request (r : Request)
  | delivery (d : Delivery)

/-- A step's answer or failure, and what was seen of it. -/
structure Report where
  result : Except Fault Answer
  journal : List Mark

/-- Changes the files of the machine. The paths that the change names must be free of NUL. -/
def changeFiles (paths : List String) (f : Files → Files.Edited) : Act World Answer := do
  if paths.any holdsNul then Act.fail .embeddedNul
  let edited := f (← Act.get).machine.files
  Act.modify fun w => { w with machine := { w.machine with files := edited.files } }
  match edited.fault with
  | none => pure .nothing
  | some cause => Act.fail (.file cause)

/-- Changes the environment of the machine. -/
def changeEnvironment (f : Environment → Environment) : Act World Answer := do
  World.onMachine (Act.modify fun m => { m with environment := f m.environment })
  pure .nothing

/-- Puts a relay in front of a carrier. -/
def makeStack (mode : Mode) (target : String) (plan : SourcePlan) (carrier : CarrierPlan) :
    Act World Stack := do
  let source ← plan.make
  let inner ← match carrier with
    | .network => pure .network
    | .named name => World.named World.relays name
    | .script replies exitAnswer => do
      let cell := (← Act.get).scripts.length
      Act.modify fun w => { w with scripts := w.scripts ++ [⟨replies, exitAnswer, 0⟩] }
      pure (.script cell)
  let cell := (← Act.get).layers.length
  Act.modify fun w => { w with layers := w.layers ++ [⟨target, source⟩] }
  pure (.layer mode cell inner)

/-- Changes the attributes of a relay. -/
def changeLayer (stack : Stack) (f : Layer → Layer) : Act World Unit :=
  match stack with
  | .layer _ cell _ => Act.modify fun w => { w with layers := w.layers.modify cell f }
  | _ => pure ()

/-- Assigns the target of a relay and then its source. A source that cannot be made leaves the new
target in force. -/
def assignLayer (stack : Stack) (target : Option String) (plan : Option SourcePlan) :
    Act World Unit := do
  if let some target := target then
    changeLayer stack fun layer => { layer with target }
  if let some plan := plan then
    let source ← plan.make
    changeLayer stack fun layer => { layer with source }

/-- Runs an act on a request and the world, and returns the request as it is then. -/
def onLine {α : Type} (request : Request) (act : Act (Line World) α) :
    Act World (Except Fault α × Request) := fun level w =>
  let outcome := act level ⟨request, w⟩
  ⟨.ok (outcome.result, outcome.state.request), outcome.state.peer, outcome.journal⟩

/-- Uses a response. -/
def Use.perform : Use → Act Response (Option String)
  | .read => do
    let _ ← Response.readBody
    some <$> Act.ofExcept (← Act.get).text
  | .close => do
    Response.close
    pure none
  | .check => do
    Act.ofExcept (← Act.get).checkAuth
    pure none

/-- Uses a response in several ways, one after another. -/
def performUses : List Use → Act Response (List (Except Fault (Option String)))
  | [] => pure []
  | use :: rest => do
    let result ← Act.attempt use.perform
    let others ← performUses rest
    pure (result :: others)

/-- Sends a request and uses the response. -/
def deliver (stack : Stack) (request : Request) (uses : List Use) :
    Act World (Delivery × Request) := do
  let (result, request) ← onLine request stack.send
  match result with
  | .error fault => pure (⟨request.headers.entries, .error fault⟩, request)
  | .ok response =>
    Act.emit .returned
    let (results, _) ← Act.within response (performUses uses)
    let results ← Act.ofExcept results
    pure (⟨request.headers.entries, .ok ⟨response.status, response.closed, results⟩⟩, request)

/-- The request of a send. -/
def RequestPlan.make : RequestPlan → Act World Request
  | .named name => World.named World.requests name
  | .draft d => Act.ofExcept (Request.build d)

/-- Keeps a request under its name. -/
def keepRequest (name : String) (request : Request) : Act World Unit :=
  Act.modify fun w => { w with requests := w.requests.assign name request }

/-- Keeps a request that has a name. -/
def RequestPlan.keep (plan : RequestPlan) (request : Request) : Act World Unit :=
  match plan with
  | .named name => keepRequest name request
  | .draft _ => pure ()

/-- Edits a request: the URL first, then headers to set, then headers to drop. -/
def editRequest (request : Request) (edit : Request.Edit) :
    Act World (Except Fault Unit × Request) :=
  onLine request do
    Line.setUrl? edit.url
    Line.setHeaders edit.setHeaders
    Line.dropHeaders edit.dropHeaders

/-- What a step does. -/
def Step.perform : Step → Act World Answer
  | .setVariable name value =>
    match EnvFile.bindingFault? name value with
    | some fault => Act.fail fault
    | none => changeEnvironment (Table.assign · name value)
  | .unsetVariable name => changeEnvironment (Table.without · name)
  | .showEnvironment => do pure (.environment (← Act.get).machine.environment)
  | .write path content => changeFiles [path] (·.write path content)
  | .makeDirectory path => changeFiles [path] (·.makeDirectories path)
  | .link path target => changeFiles [path, target] (·.link path target)
  | .remove path => changeFiles [path] (·.remove path)
  | .changeDirectory path => changeFiles [path] (·.changeDirectory path)
  | .loseDirectory path => changeFiles [path] (·.loseDirectory path)
  | .setThreshold _ => pure .nothing
  | .makeResolver name path loads => do
    let resolver ← World.onMachine (Resolver.create path loads)
    Act.modify fun w => { w with resolvers := w.resolvers.assign name resolver }
    pure .nothing
  | .ensureLoaded name => do
    let resolver ← World.onMachine (← World.named World.resolvers name).ensureLoaded
    Act.modify fun w => { w with resolvers := w.resolvers.assign name resolver }
    pure (.flag resolver.loaded)
  | .isLoaded name => do pure (.flag (← World.named World.resolvers name).loaded)
  | .resolve name value variableName fallback required => do
    discard (World.named World.resolvers name)
    pure (.text (← World.onMachine (Resolver.resolve value variableName fallback required)))
  | .resolveFromFile name path variableName required => do
    discard (World.named World.resolvers name)
    pure (.text (← World.onMachine (Resolver.resolveFromFile path variableName required)))
  | .keepSource name plan => do
    let source ← plan.make
    Act.modify fun w => { w with sources := w.sources.assign name source }
    pure .nothing
  | .describe plan => do pure (.description (Session.describe (← plan.make)))
  | .askOne plan => do pure (.credentials (← (suppliers (← plan.make)).one))
  | .askAll plan => do pure (.candidates (← (suppliers (← plan.make)).all))
  | .gather plan => do pure (.candidates (← (suppliers (← plan.make)).gather).toList)
  | .makeRelay name mode target plan carrier => do
    let stack ← makeStack mode target plan carrier
    Act.modify fun w => { w with relays := w.relays.assign name stack }
    pure .nothing
  | .assignRelay name target plan => do
    assignLayer (← World.named World.relays name) target plan
    pure .nothing
  | .keepRequest name draft => do
    let request ← Act.ofExcept (Request.build draft)
    Session.keepRequest name request
    pure (.request request)
  | .editRequest name edit => do
    let (result, request) ← Session.editRequest (← World.named World.requests name) edit
    Session.keepRequest name request
    Act.ofExcept result
    pure (.request request)
  | .send relay plan uses => do
    let request ← plan.make
    let (delivery, request) ← deliver (← World.named World.relays relay) request uses
    plan.keep request
    pure (.delivery delivery)
  | .enter relay => do
    (← World.named World.relays relay).enter
    pure (.flag true)
  | .exit relay kind => do pure (.flag (← (← World.named World.relays relay).exit kind))
  | .close relay => do
    (← World.named World.relays relay).close
    pure .nothing

/-- The threshold after a step. -/
def Step.threshold (step : Step) (threshold : Level) : Level :=
  match step with
  | .setThreshold level => level
  | _ => threshold

/-- Performs steps one after another, from a world and a threshold. -/
def run : Level → World → List Step → List Report
  | _, _, [] => []
  | threshold, w, step :: rest =>
    let outcome := step.perform threshold w
    ⟨outcome.result, outcome.journal⟩ :: run (step.threshold threshold) outcome.state rest

end AuthRelay.Session
