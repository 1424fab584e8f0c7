import AuthRelay.Session.World
/-!
# Making sources

How a session makes a source from its plan. Plans name sources made earlier, so a provider that
counts may stand at several leaves. A source of environment credentials that is not given a resolver
makes one of its own, which loads an environment file.
-/
namespace AuthRelay.Session

/-- The plan of a source. -/
inductive SourcePlan where
  | named (name : String)
  | fixed (stock : Stock) (set : CredentialSet)
  | chain (members : List SourcePlan)
  | environment (stem : String) (required : Bool) (path resolver : Option String)
  | counting (stem : String)
  | failing (failure : Given)
  | rotating (lists : List (List CredentialSet))
  | both (one : CredentialSet) (all : List CredentialSet)
  | lazy (all : List CredentialSet) (failure : Option Given)
  deriving Repr

namespace SourcePlan

/-- Sees to the resolver of a source of environment credentials. -/
def seeToResolver (path resolver : Option String) : Act World Unit := do
  match resolver with
  | some name => discard (World.named World.resolvers name)
  | none => discard (World.onMachine (Resolver.create path true))

mutual

/-- Makes a source. -/
def make : SourcePlan → Act World (Source Provider)
  | .named name => World.named World.sources name
  | .fixed stock set => pure (.leaf (.fixed stock set))
  | .chain members => do pure (.chain (← makeAll members))
  | .environment stem required path resolver => do
    seeToResolver path resolver
    pure (.leaf (.environment stem required))
  | .counting stem => do pure (.leaf (.counting (← World.newTally) stem))
  | .failing failure => pure (.leaf (.failing failure))
  | .rotating lists => do pure (.leaf (.rotating (← World.newTally) lists))
  | .both one all => pure (.leaf (.both one all))
  | .lazy all failure => pure (.leaf (.lazy all failure))

/-- Makes sources one after another. -/
def makeAll : List SourcePlan → Act World (List (Source Provider))
  | [] => pure []
  | plan :: rest => do
    let source ← make plan
    let others ← makeAll rest
    pure (source :: others)

end

end SourcePlan

/-- A source whose leaves are suppliers. -/
def suppliers (source : Source Provider) : Source (Supplier World) :=
  source.map Provider.supplier

/-- Whether a source answers the query for one set, whether it answers the query for all, and how
a diagnostic shows it. -/
structure Description where
  one : Bool
  all : Bool
  shown : Option String
  deriving Repr, DecidableEq

/-- Describes a source. -/
def describe : Source Provider → Description
  | .leaf p => ⟨p.one?.isSome, p.all?.isSome, p.shown?⟩
  | .chain _ => ⟨false, true, none⟩

end AuthRelay.Session
