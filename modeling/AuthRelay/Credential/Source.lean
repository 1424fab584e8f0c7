import AuthRelay.Act
import AuthRelay.Credential.Set
/-!
# Credential sources

A source is a supplier of credentials or a chain of sources. A supplier answers one or both of two
queries: for one set, or for all its candidates in order. Gathering asks the suppliers of a tree
from left to right, each once, and hands over all that they deliver; there must be at least one
candidate.
-/
namespace AuthRelay

/-- A supplier of credentials: the name of its class and the queries it answers. -/
structure Supplier (σ : Type) where
  name : String
  one? : Option (Act σ CredentialSet)
  all? : Option (Act σ (List CredentialSet))

/-- A tree of suppliers. -/
inductive Source (ι : Type) where
  | leaf (supplier : ι)
  | chain (members : List (Source ι))
  deriving Repr

/-- One candidate or more, in the order in which they are tried. -/
structure Candidates where
  first : CredentialSet
  rest : List CredentialSet
  deriving Repr, DecidableEq

namespace Candidates

/-- The candidates in order. -/
def toList (c : Candidates) : List CredentialSet :=
  c.first :: c.rest

/-- The candidate that is tried last. -/
def last (c : Candidates) : CredentialSet :=
  c.toList.getLast (by simp [toList])

/-- The candidates that are tried before the last one. -/
def earlier (c : Candidates) : List CredentialSet :=
  c.toList.dropLast

/-- The candidates of a list that has any. -/
def ofList? : List CredentialSet → Option Candidates
  | [] => none
  | first :: rest => some ⟨first, rest⟩

theorem earlier_append_last (c : Candidates) : c.earlier ++ [c.last] = c.toList :=
  List.dropLast_concat_getLast _

end Candidates

namespace Supplier

variable {σ : Type}

/-- Asks a supplier for all that it has, as a chain asks its members: for all its candidates if it
answers that query, else for its one set. -/
def deliver (s : Supplier σ) : Act σ (List CredentialSet) :=
  match s.all?, s.one? with
  | some all, _ => all
  | none, some one => do pure [← one]
  | none, none => Act.fail (.missingQuery s.name "get_credentials")

end Supplier

namespace Source

variable {σ ι κ : Type}

mutual

/-- The same tree over other suppliers. -/
def map (f : ι → κ) : Source ι → Source κ
  | .leaf i => .leaf (f i)
  | .chain members => .chain (mapAll f members)

/-- The same trees over other suppliers. -/
def mapAll (f : ι → κ) : List (Source ι) → List (Source κ)
  | [] => []
  | member :: rest => map f member :: mapAll f rest

end

mutual

/-- The suppliers of a tree from left to right, with repetitions. -/
def leaves : Source ι → List ι
  | .leaf i => [i]
  | .chain members => leavesOfAll members

/-- The suppliers of some trees from left to right. -/
def leavesOfAll : List (Source ι) → List ι
  | [] => []
  | member :: rest => leaves member ++ leavesOfAll rest

end

mutual

/-- Asks every supplier of a tree, from left to right, for all that it has. -/
def collect : Source (Supplier σ) → Act σ (List CredentialSet)
  | .leaf supplier => supplier.deliver
  | .chain members => collectAll members

/-- Asks every supplier of some trees, from left to right, for all that it has. -/
def collectAll : List (Source (Supplier σ)) → Act σ (List CredentialSet)
  | [] => pure []
  | member :: rest => do
    let here ← collect member
    let others ← collectAll rest
    pure (here ++ others)

end

/-- The name of a source's class. -/
def name : Source (Supplier σ) → String
  | .leaf supplier => supplier.name
  | .chain _ => "MultiCredentials"

/-- Asks a source for one set. A chain does not answer this query. -/
def one : Source (Supplier σ) → Act σ CredentialSet
  | .leaf supplier => supplier.one?.getD (Act.fail (.missingQuery supplier.name "get_credentials"))
  | .chain _ => Act.fail (.missingQuery "MultiCredentials" "get_credentials")

/-- Asks a source for all its candidates. -/
def all : Source (Supplier σ) → Act σ (List CredentialSet)
  | .leaf supplier =>
    supplier.all?.getD (Act.fail (.missingQuery supplier.name "get_all_credentials"))
  | .chain members => collectAll members

/-- Whether a source answers the query for all its candidates. A chain always does. -/
def offersAll : Source (Supplier σ) → Bool
  | .leaf supplier => supplier.all?.isSome
  | .chain _ => true

/-- Asks a source for all that it has, as the one asks who gathers: for all its candidates if it
answers that query, else for its one set. -/
def poll (source : Source (Supplier σ)) : Act σ (List CredentialSet) :=
  if source.offersAll then source.all else do pure [← source.one]

/-- Gathers the candidates for one request. -/
def gather (source : Source (Supplier σ)) : Act σ Candidates := do
  match Candidates.ofList? (← source.poll) with
  | some candidates => pure candidates
  | none => Act.fail (.noCandidates source.name)

end Source
end AuthRelay
