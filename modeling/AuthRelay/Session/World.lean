import AuthRelay.Credential.FromEnvironment
import AuthRelay.EnvFile.Load
import AuthRelay.Files.Edit
import AuthRelay.Relay.Basic
/-!
# The world of a session

A session keeps objects under names: resolvers, sources, relays and requests. Objects that change
and may be shared live in numbered cells: the tallies of suppliers, the scripts of carriers, and the
attributes of relays. A name that is given again goes to the new object, and whoever holds the old
one keeps it.
-/
namespace AuthRelay.Session

/-- The sources of fixed credentials. -/
inductive Stock
  | anonymous
  | basic
  | bearer
  | config
  deriving Repr, DecidableEq

/-- The name of the class of a fixed source. -/
def Stock.name : Stock → String
  | .anonymous => "Anonymous"
  | .basic => "Basic"
  | .bearer => "Bearer"
  | .config => "FromConfig"

/-- A supplier at a leaf of a session's source: fixed credentials, the environment, or one that is
written for the session. -/
inductive Provider
  | fixed (stock : Stock) (set : CredentialSet)
  | environment (stem : String) (required : Bool)
  /-- Numbers its calls and gives a new token each time. -/
  | counting (tally : Nat) (stem : String)
  | failing (failure : Given)
  /-- Gives one list after another, and the last one from then on. -/
  | rotating (tally : Nat) (lists : List (List CredentialSet))
  /-- Answers both queries. -/
  | both (one : CredentialSet) (all : List CredentialSet)
  /-- Gives its sets one by one, and may fail after the last one. -/
  | lazy (all : List CredentialSet) (failure : Option Given)
  deriving Repr, DecidableEq

/-- The reply of a scripted carrier to one send: what it does to the request, whether it draws the
body, and the failure or response that it answers with, together with what the runtime makes of the
body of that. -/
structure Reply where
  edit : Request.Edit := {}
  drawsBody : Bool := true
  failure : Option Given := none
  status : Int := 200
  headers : List (HeaderText × HeaderText) := []
  body : Bytes := []
  streams : Bool := true
  bodyFailure : Option Given := none
  foreign : Foreign := .unknown
  deriving Repr, DecidableEq

/-- A scripted carrier: its replies, the last of which is repeated, what leaving it answers, and
the number of sends so far. -/
structure Script where
  replies : List Reply
  exitAnswer : Option Bool
  sent : Nat
  deriving Repr, DecidableEq

/-- The two ways of running a relay. -/
inductive Mode
  | blocking
  | stepwise
  deriving Repr, DecidableEq

/-- The attributes of a relay. -/
structure Layer where
  target : String
  source : Source Provider

/-- Relays in front of a carrier: the network, which no session reaches, or a script. -/
inductive Stack
  | network
  | script (cell : Nat)
  | layer (mode : Mode) (cell : Nat) (inner : Stack)
  deriving Repr, DecidableEq

/-- Everything that a session changes. -/
structure World where
  machine : Machine
  tallies : List Nat := []
  scripts : List Script := []
  layers : List Layer := []
  resolvers : Table Resolver := []
  sources : Table (Source Provider) := []
  relays : Table Stack := []
  requests : Table Request := []

namespace World

/-- The world at the start of a session: a machine, to whose tree files are added. -/
def start (machine : Machine) (contents : List (String × Bytes)) : Except Fault World := do
  if let some fault := machine.environment.findSome? fun (name, value) =>
      EnvFile.bindingFault? name value then throw fault
  if contents.any fun (path, _) => holdsNul path then throw .embeddedNul
  let files ← contents.foldlM (fun (files : Files) (path, content) =>
    let edited := files.write path content
    match edited.fault with
    | none => .ok edited.files
    | some cause => .error (.file cause)) machine.files
  pure { machine := { machine with files } }

/-- An act on the machine. -/
def onMachine {α : Type} (act : Act Machine α) : Act World α :=
  Act.zoom World.machine (fun machine w => { w with machine }) act

/-- The object under a name. -/
def named {α : Type} (table : World → Table α) (name : String) : Act World α := do
  match (table (← Act.get)).find? name with
  | some a => pure a
  | none => Act.fail (.unknownName name)

/-- A new tally, at zero. -/
def newTally : Act World Nat := do
  let cell := (← Act.get).tallies.length
  Act.modify fun w => { w with tallies := w.tallies ++ [0] }
  pure cell

/-- Counts a tally up and returns it. -/
def count (cell : Nat) : Act World Nat := do
  let n := (← Act.get).tallies.getD cell 0 + 1
  Act.modify fun w => { w with tallies := w.tallies.set cell n }
  pure n

end World

/-- The element with the given number, counted from one; the last one from then on. -/
def nth {α : Type} (n : Nat) (l : List α) : Except Fault α :=
  match l[n - 1]?, l.getLast? with
  | some a, _ => .ok a
  | none, some a => .ok a
  | none, none => .error .nothingToGive

namespace Provider

/-- The name of the class of a provider. -/
def name : Provider → String
  | .fixed stock _ => stock.name
  | .environment _ _ => "EnvCredentials"
  | .counting _ _ => "CountingSource"
  | .failing _ => "FailingSource"
  | .rotating _ _ => "RotatingSource"
  | .both _ _ => "BothSource"
  | .lazy _ _ => "LazySource"

/-- The sets of a lazy provider, one query each, and then its failure. -/
def deliverLazily (failure : Option Given) :
    List CredentialSet → Act World (List CredentialSet)
  | [] => match failure with
    | some g => Act.fail (.given g)
    | none => pure []
  | set :: rest => do
    Act.emit (.query .next)
    let others ← deliverLazily failure rest
    pure (set :: others)

/-- The answer to the query for one set. -/
def one? : Provider → Option (Act World CredentialSet)
  | .fixed _ set => some (pure set)
  | .environment stem required => some (World.onMachine (FromEnvironment.credentials stem required))
  | .counting tally stem => some do
    Act.emit (.query .one)
    let n ← World.count tally
    pure { registryToken := stem ++ toString n }
  | .failing failure => some do
    Act.emit (.query .one)
    Act.fail (.given failure)
  | .both one _ => some do
    Act.emit (.query .one)
    pure one
  | .rotating _ _ | .lazy _ _ => none

/-- The answer to the query for all candidates. -/
def all? : Provider → Option (Act World (List CredentialSet))
  | .rotating tally lists => some do
    Act.emit (.query .all)
    let n ← World.count tally
    Act.ofExcept (nth n lists)
  | .both _ all => some do
    Act.emit (.query .all)
    pure all
  | .lazy all failure => some (deliverLazily failure all)
  | _ => none

/-- The provider as a supplier of credentials. -/
def supplier (p : Provider) : Supplier World :=
  ⟨p.name, p.one?, p.all?⟩

/-- A fixed source as a diagnostic shows it. -/
def shown? : Provider → Option String
  | .fixed stock set => some (stock.name ++ "(" ++ set.masked ++ ")")
  | _ => none

end Provider
end AuthRelay.Session
