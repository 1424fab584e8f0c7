import AuthRelay.Relay.Basic
/-!
# The stepwise relay

The same relay for callers that interleave several requests. A task is a computation that gives
way between its steps; each step is an act. The stepwise relay gives way after the query to its
source, after each send, after reading a body, after closing a response and after recording a
rejection. `Task.run` runs a task to its end with nothing in between.
-/
namespace AuthRelay

/-- A computation in steps. -/
inductive Task (σ : Type) (α : Type) : Type 1 where
  | done (a : α)
  | step {β : Type} (act : Act σ β) (next : β → Task σ α)

namespace Task

variable {σ α β : Type}

/-- Goes on with another task. -/
protected def bind (x : Task σ α) (f : α → Task σ β) : Task σ β :=
  match x with
  | .done a => f a
  | .step act next => .step act fun b => (next b).bind f

instance : Monad (Task σ) where
  pure := .done
  bind := Task.bind

/-- A single step. -/
def once (act : Act σ α) : Task σ α :=
  .step act .done

/-- Runs a task to its end. -/
def run : Task σ α → Act σ α
  | .done a => pure a
  | .step act next => do (next (← act)).run

@[simp] theorem run_done (a : α) : (Task.done a : Task σ α).run = pure a := rfl

@[simp] theorem run_once (act : Act σ α) : (once act).run = act := by
  simp [once, run]

theorem run_bind (x : Task σ α) (f : α → Task σ β) :
    (x >>= f).run = x.run >>= fun a => (f a).run := by
  show (Task.bind x f).run = _
  induction x with
  | done a => simp [Task.bind]
  | step act next ih => simp [Task.bind, run, ih]

end Task

namespace Relay

variable {σ : Type}

/-- The steps after a rejection: read the body, close the response, record the rejection. -/
def discard (response : Response) (attempt total : Nat) : Task (Line σ) Unit := do
  let loaded ← Task.once (onResponse response Response.readBody)
  let closed ← Task.once (onResponse loaded Response.close)
  Task.once (logRejection closed attempt total)

/-- The attempts with all candidates but the last, and then the last one. -/
def attemptsBefore (target : String) (callerHeader : Option String) (total : Nat)
    (next : Task (Line σ) Response) (last : CredentialSet) :
    Nat → List CredentialSet → Task (Line σ) Response
  | _, [] => do
    Task.once (authorize target callerHeader last)
    next
  | attempt, candidate :: rest => do
    Task.once (authorize target callerHeader candidate)
    let response ← next
    if response.isRejection then
      discard response attempt total
      attemptsBefore target callerHeader total next last (attempt + 1) rest
    else pure response

/-- A relay for a target, with a source of candidates, in front of a carrier. -/
def stepwise (target : String) (gather : Act σ Candidates) (next : Task (Line σ) Response) :
    Task (Line σ) Response := do
  let (candidates, callerHeader) ← Task.once (prepare gather)
  attemptsBefore target callerHeader candidates.toList.length next candidates.last 1
    candidates.earlier

end Relay
end AuthRelay
