import AuthRelay.Kind
import AuthRelay.Text.Utf8
/-!
# The journal of a run

What a run does that others can observe, in order: its dealings with suppliers, carriers and
responses, and the diagnostic records that it writes.
-/
namespace AuthRelay

/-- How grave a diagnostic record is. -/
inductive Level
  | debug
  | info
  | warning
  | error
  | critical
  deriving Repr, DecidableEq

namespace Level

/-- The rank of a level. -/
def rank : Level → Nat
  | .debug => 10
  | .info => 20
  | .warning => 30
  | .error => 40
  | .critical => 50

/-- Whether records of a level are written when the threshold is set. -/
def passes (level threshold : Level) : Bool :=
  threshold.rank ≤ level.rank

end Level

/-- The part of the library that writes a record. -/
inductive Channel
  | resolver
  | credentials
  | relay
  deriving Repr, DecidableEq

/-- A diagnostic record. -/
structure Record where
  level : Level
  channel : Channel
  text : String
  deriving Repr, DecidableEq

/-- The ways of asking a supplier for credentials. -/
inductive Query
  | one
  | all
  | next
  deriving Repr, DecidableEq

/-- An observable event. The number in `send`, `read` and `close` is that of the send. -/
inductive Event
  | query (q : Query)
  | send (serial : Nat) (method url : String) (headers : List (Bytes × Bytes))
      (body : Option Bytes)
  | read (serial : Nat)
  | close (serial : Nat)
  | returned
  | entered
  | exited (kind : Option Kind)
  | shut
  deriving Repr, DecidableEq

/-- An entry of the journal. -/
inductive Mark
  | event (e : Event)
  | record (r : Record)
  deriving Repr, DecidableEq

namespace Mark

/-- The event of an entry. -/
def event? : Mark → Option Event
  | .event e => some e
  | .record _ => none

/-- The record of an entry. -/
def record? : Mark → Option Record
  | .event _ => none
  | .record r => some r

end Mark

/-- The events of a journal, in order. -/
def eventsOf (journal : List Mark) : List Event :=
  journal.filterMap Mark.event?

/-- The records of a journal, in order. -/
def recordsOf (journal : List Mark) : List Record :=
  journal.filterMap Mark.record?

@[simp] theorem eventsOf_append (a b : List Mark) :
    eventsOf (a ++ b) = eventsOf a ++ eventsOf b := by
  simp [eventsOf]

@[simp] theorem recordsOf_append (a b : List Mark) :
    recordsOf (a ++ b) = recordsOf a ++ recordsOf b := by
  simp [recordsOf]

end AuthRelay
