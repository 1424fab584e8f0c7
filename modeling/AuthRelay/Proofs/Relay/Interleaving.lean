import AuthRelay.Proofs.Relay.Watch
import AuthRelay.Proofs.Tasks
import Mathlib.Logic.Function.Basic
/-!
# Calls that are interleaved

Several calls are on their way through one relay, each with a request of its own, and they take
their steps in any order. They share the source of the relay and the carrier behind it, and so the
state of the other side. If the carrier answers each request from that request's own history, a
call does not notice the others: after any schedule it stands where it would stand after as many
steps of its own. That is a simulation, with one lemma for a step of the call itself and one for a
step of another call. What a call depends on beside its own history is the answer of the source to
its own query.
-/
namespace AuthRelay.Relay

variable {σ ν ρ : Type}

/-! ## The steps of a call -/

section

variable {P : σ → Prop} {target : String} {next : Task (Line σ) Response}

theorem authorize_keeps_peer (target : String) (callerHeader : Option String)
    (candidate : CredentialSet) :
    Act.Keeps (fun line : Line σ => P line.peer) (authorize target callerHeader candidate) := by
  intro level line h
  rw [authorize_run]
  exact h

theorem discard_keeps (P : Line σ → Prop) (response : Response) (attempt total : Nat) :
    Task.Keeps P (Relay.discard response attempt total) :=
  (Task.Keeps.once (onResponse_keeps P response _)).bind fun loaded =>
    (Task.Keeps.once (onResponse_keeps P loaded _)).bind fun closed =>
      .once (logRejection_keeps P closed attempt total)

/-- What the carrier keeps of the other side, all attempts keep. -/
theorem attemptsBefore_keeps (hnext : Task.Keeps (fun line => P line.peer) next)
    (callerHeader : Option String) (total : Nat) (last : CredentialSet) (attempt : Nat)
    (earlier : List CredentialSet) : Task.Keeps (fun line => P line.peer)
      (attemptsBefore target callerHeader total next last attempt earlier) := by
  induction earlier generalizing attempt with
  | nil =>
    exact (Task.Keeps.once (authorize_keeps_peer target callerHeader last)).bind fun _ => hnext
  | cons candidate rest ih =>
    refine (Task.Keeps.once (authorize_keeps_peer target callerHeader candidate)).bind fun _ =>
      hnext.bind fun response => .ite ?_ (.done response)
    exact (discard_keeps _ response attempt total).bind fun _ => ih (attempt + 1)

/-- What the source and the carrier keep of the other side, a call keeps. -/
theorem stepwise_keeps {gather : Act σ Candidates} (hgather : Act.Keeps P gather)
    (hnext : Task.Keeps (fun line => P line.peer) next) :
    Task.Keeps (fun line => P line.peer) (stepwise target gather next) := by
  have hprepare : Act.Keeps (fun line : Line σ => P line.peer) (prepare gather) :=
    Act.Keeps.bind (fun level line => hgather level line.peer) fun _ =>
      Act.Keeps.bind (fun _ _ h => h) fun _ => .pure _
  exact (Task.Keeps.once hprepare).bind fun _ => attemptsBefore_keeps hnext _ _ _ _ _

end

section

variable {τ : Type} {Q : σ → τ → Prop} {see : Mark → Option ρ}

theorem discard_alike (response : Response) (attempt total : Nat) :
    Task.Alike (Line.Agree Q) see (Relay.discard response attempt total)
      (Relay.discard response attempt total) :=
  (Task.Alike.once (onResponse_alike response _)).bind fun loaded =>
    (Task.Alike.once (onResponse_alike loaded _)).bind fun closed =>
      .once (logRejection_alike see (fun _ _ h => h.1) closed attempt total)

/-- Attempts with the same candidates are alike step by step if the carriers are. -/
theorem attemptsBefore_alike {next : Task (Line σ) Response} {next' : Task (Line τ) Response}
    (hnext : Task.Alike (Line.Agree Q) see next next') (target : String)
    (callerHeader : Option String) (total : Nat) (last : CredentialSet) (attempt : Nat)
    (earlier : List CredentialSet) : Task.Alike (Line.Agree Q) see
      (attemptsBefore target callerHeader total next last attempt earlier)
      (attemptsBefore target callerHeader total next' last attempt earlier) := by
  induction earlier generalizing attempt with
  | nil => exact (Task.Alike.once (authorize_alike target callerHeader last)).bind fun _ => hnext
  | cons candidate rest ih =>
    refine (Task.Alike.once (authorize_alike target callerHeader candidate)).bind fun _ =>
      hnext.bind fun response => .ite ?_ (.done response)
    exact (discard_alike response attempt total).bind fun _ => ih (attempt + 1)

end

/-! ## A call on its way -/

/-- A call on its way: its request, what it has still to do or the failure with which it has ended,
and its journal. -/
structure Call (σ : Type) where
  request : Request
  rest : Except Fault (Task (Line σ) Response)
  journal : List Mark

namespace Call

/-- A call that has been made and has not taken a step yet, behind some entries of the journal. -/
def made (target : String) (gather : Act σ Candidates) (next : Task (Line σ) Response)
    (request : Request) (journal : List Mark) : Call σ :=
  ⟨request, .ok (stepwise target gather next), journal⟩

/-- The response or the failure with which a call has ended. -/
def result? (call : Call σ) : Option (Except Fault Response) :=
  match call.rest with
  | .error fault => some (.error fault)
  | .ok (.done response) => some (.ok response)
  | .ok (.step _ _) => none

/-- The next step of a call. A call that has ended takes no more steps. -/
def advance (level : Level) (call : Call σ) (peer : σ) : Call σ × σ :=
  match call.rest with
  | .ok (.step act next) =>
    let outcome := act level ⟨call.request, peer⟩
    (⟨outcome.state.request, outcome.result.map next, call.journal ++ outcome.journal⟩,
      outcome.state.peer)
  | _ => (call, peer)

/-- Several steps of a call with nothing in between. -/
def advances (level : Level) : Nat → Call σ → σ → Call σ × σ
  | 0, call, peer => (call, peer)
  | n + 1, call, peer =>
    advances level n (call.advance level peer).1 (call.advance level peer).2

/-- A call that has ended with an outcome, and the other side. -/
def ended (journal : List Mark) (outcome : Outcome (Line σ) Response) : Call σ × σ :=
  (⟨outcome.state.request, outcome.result.map .done, journal ++ outcome.journal⟩,
    outcome.state.peer)

@[simp] theorem result?_ended (journal : List Mark) (outcome : Outcome (Line σ) Response) :
    (ended journal outcome).1.result? = some outcome.result := by
  unfold ended result?
  cases outcome.result <;> rfl

theorem advances_of_ended {call : Call σ} {result : Except Fault Response}
    (h : call.result? = some result) (level : Level) (n : Nat) (peer : σ) :
    call.advances level n peer = (call, peer) := by
  have hstay : call.advance level peer = (call, peer) := by
    unfold result? at h
    unfold advance
    split
    · rename_i hrest
      rw [hrest] at h
      cases h
    · rfl
  induction n with
  | zero => rfl
  | succ n ih =>
    rw [advances, hstay]
    exact ih

/-- A call whose steps have nothing between them ends as its task does when it is run. Before, it
has made a part of the entries. -/
theorem advances_eq (level : Level) (task : Task (Line σ) Response) (request : Request) (peer : σ)
    (journal : List Mark) :
    let run := task.run level ⟨request, peer⟩
    ∃ n, ∀ k, let reached := advances level k ⟨request, .ok task, journal⟩ peer
      (k < n → reached.1.result? = none ∧ reached.1.journal <+: journal ++ run.journal) ∧
      (n ≤ k → reached = ended journal run) := by
  induction task generalizing request peer journal with
  | done response =>
    refine ⟨0, fun k => ⟨fun h => absurd h (Nat.not_lt_zero k), fun _ => ?_⟩⟩
    have hended : (⟨request, .ok (.done response), journal⟩ : Call σ).result? =
        some (.ok response) := rfl
    rw [advances_of_ended hended]
    simp [ended, Act.pure_def, Except.map]
  | step act next ih =>
    cases ho : act level ⟨request, peer⟩ with
    | mk result line entries =>
      have hstep : (⟨request, .ok (.step act next), journal⟩ : Call σ).advance level peer =
          (⟨line.request, result.map next, journal ++ entries⟩, line.peer) := by
        simp only [advance, ho]
      cases result with
      | error fault =>
        have hrun : (Task.step act next).run level ⟨request, peer⟩ =
            ⟨.error fault, line, entries⟩ := Act.bind_of_error ho
        refine ⟨1, fun k => ?_⟩
        cases k with
        | zero => exact ⟨fun _ => ⟨rfl, List.prefix_append _ _⟩, fun h => absurd h (by omega)⟩
        | succ k =>
          have hended : (⟨line.request, .error fault, journal ++ entries⟩ : Call σ).result? =
              some (.error fault) := rfl
          refine ⟨fun h => absurd h (by omega), fun _ => ?_⟩
          rw [advances, hstep]
          exact (advances_of_ended hended level k line.peer).trans (by rw [hrun]; rfl)
      | ok b =>
        obtain ⟨n, hn⟩ := ih b line.request line.peer (journal ++ entries)
        have hrun : (Task.step act next).run level ⟨request, peer⟩ = _ := Act.bind_of_ok ho
        refine ⟨n + 1, fun k => ?_⟩
        cases k with
        | zero => exact ⟨fun _ => ⟨rfl, List.prefix_append _ _⟩, fun h => absurd h (by omega)⟩
        | succ k =>
          have hk := hn k
          rw [hrun, advances, hstep]
          simp only [List.append_assoc, ended] at hk ⊢
          exact ⟨fun h => hk.1 (by omega), fun h => hk.2 (by omega)⟩

/-- Alone, a call ends as the relay does when it is run. -/
theorem made_advances_eq (level : Level) (target : String) (gather : Act σ Candidates)
    (next : Task (Line σ) Response) (request : Request) (peer : σ) (journal : List Mark) :
    let run := (stepwise target gather next).run level ⟨request, peer⟩
    ∃ n, ∀ k, let reached := (made target gather next request journal).advances level k peer
      (k < n → reached.1.result? = none ∧ reached.1.journal <+: journal ++ run.journal) ∧
      (n ≤ k → reached = ended journal run) :=
  advances_eq level (stepwise target gather next) request peer journal

/-! ## Calls that are alike -/

section

variable {τ : Type}

/-- What two calls have still to do cannot be told apart. -/
inductive RestAlike (Q : σ → τ → Prop) (see : Mark → Option ρ) :
    Except Fault (Task (Line σ) Response) → Except Fault (Task (Line τ) Response) → Prop
  | failed (fault : Fault) : RestAlike Q see (.error fault) (.error fault)
  | going {x : Task (Line σ) Response} {y : Task (Line τ) Response}
      (h : Task.Alike (Line.Agree Q) see x y) : RestAlike Q see (.ok x) (.ok y)

/-- Two calls, each with its other side, that cannot be told apart. -/
structure Alike (Q : σ → τ → Prop) (see : Mark → Option ρ) (here : Call σ × σ)
    (there : Call τ × τ) : Prop where
  request : here.1.request = there.1.request
  rest : RestAlike Q see here.1.rest there.1.rest
  journal : here.1.journal.filterMap see = there.1.journal.filterMap see
  peer : Q here.2 there.2

variable {Q : σ → τ → Prop} {see : Mark → Option ρ}

/-- They stay alike when each takes a step. -/
theorem Alike.advance {call : Call σ} {peer : σ} {call' : Call τ} {peer' : τ}
    (h : Alike Q see (call, peer) (call', peer')) (level : Level) :
    Alike Q see (call.advance level peer) (call'.advance level peer') := by
  obtain ⟨request, rest, journal⟩ := call
  obtain ⟨request', rest', journal'⟩ := call'
  obtain ⟨hrequest, hrest, hjournal, hpeer⟩ := h
  cases hrest with
  | failed fault => exact ⟨hrequest, .failed fault, hjournal, hpeer⟩
  | going htask =>
    cases htask with
    | done response => exact ⟨hrequest, .going (.done response), hjournal, hpeer⟩
    | @step _ x y f g hact hnext =>
      obtain ⟨hresult, ⟨hreq, hside⟩, hentries⟩ :=
        hact level ⟨request, peer⟩ ⟨request', peer'⟩ ⟨hrequest, hpeer⟩
      refine ⟨hreq, ?_, ?_, hside⟩
      · simp only [Call.advance, hresult]
        cases (y level ⟨request', peer'⟩).result with
        | error fault => exact .failed fault
        | ok b => exact .going (hnext b)
      · simp only [Call.advance, List.filterMap_append, hentries]
        exact congrArg (· ++ _) hjournal

/-- They have ended with the same result, or neither has ended. -/
theorem Alike.result?_eq {call : Call σ} {peer : σ} {call' : Call τ} {peer' : τ}
    (h : Alike Q see (call, peer) (call', peer')) : call.result? = call'.result? := by
  obtain ⟨request, rest, journal⟩ := call
  obtain ⟨request', rest', journal'⟩ := call'
  cases h.rest with
  | failed fault => rfl
  | going htask => cases htask <;> rfl

end

/-! ## Calls that leave something alone -/

/-- A call none of whose steps touches a property of the other side. -/
def Leaves (P : σ → Prop) (call : Call σ) : Prop :=
  ∀ task, call.rest = .ok task → Task.Keeps (fun line => P line.peer) task

theorem Leaves.advance {P : σ → Prop} {call : Call σ} (h : call.Leaves P) (level : Level)
    (peer : σ) :
    (call.advance level peer).1.Leaves P ∧ (P peer → P (call.advance level peer).2) := by
  obtain ⟨request, rest, journal⟩ := call
  cases rest with
  | error fault => exact ⟨h, id⟩
  | ok task =>
    cases h task rfl with
    | done response => exact ⟨h, id⟩
    | @step _ act next hact hnext =>
      refine ⟨fun task htask => ?_, hact level ⟨request, peer⟩⟩
      simp only [Call.advance] at htask
      cases hresult : (act level ⟨request, peer⟩).result with
      | error fault =>
        rw [hresult] at htask
        cases htask
      | ok b =>
        rw [hresult] at htask
        cases htask
        exact hnext b

end Call

/-! ## Many calls -/

/-- Calls on their way, and the other side that they share. -/
structure Crowd (ι σ : Type) where
  calls : ι → Call σ
  peer : σ

namespace Crowd

variable {ι : Type}

/-- Calls that have been made through one relay, each with a request of its own. -/
def start (target : String) (gather : Act σ Candidates) (next : ι → Task (Line σ) Response)
    (requests : ι → Request) (peer : σ) : Crowd ι σ where
  calls i := .made target gather (next i) (requests i) []
  peer := peer

variable [DecidableEq ι]

/-- One of the calls takes a step. -/
def advance (level : Level) (crowd : Crowd ι σ) (i : ι) : Crowd ι σ :=
  let following := (crowd.calls i).advance level crowd.peer
  ⟨Function.update crowd.calls i following.1, following.2⟩

/-- The calls take steps in the order of a schedule. -/
def run (level : Level) (crowd : Crowd ι σ) (schedule : List ι) : Crowd ι σ :=
  schedule.foldl (advance level) crowd

theorem advance_self (level : Level) (crowd : Crowd ι σ) (i : ι) :
    ((crowd.advance level i).calls i, (crowd.advance level i).peer) =
      (crowd.calls i).advance level crowd.peer := by
  simp only [advance, Function.update_self]

theorem advance_of_ne (level : Level) (crowd : Crowd ι σ) {i j : ι} (h : i ≠ j) :
    (crowd.advance level j).calls i = crowd.calls i := by
  simp only [advance, Function.update_of_ne h]

theorem run_append (level : Level) (crowd : Crowd ι σ) (before after : List ι) :
    crowd.run level (before ++ after) = (crowd.run level before).run level after :=
  List.foldl_append

/-- A call that is not scheduled stays as it is. -/
theorem run_of_not_mem (level : Level) (crowd : Crowd ι σ) {i : ι} {schedule : List ι}
    (h : i ∉ schedule) : (crowd.run level schedule).calls i = crowd.calls i := by
  induction schedule generalizing crowd with
  | nil => rfl
  | cons j rest ih =>
    exact (ih (crowd.advance level j) (List.not_mem_of_not_mem_cons h)).trans
      (advance_of_ne level crowd (List.ne_of_not_mem_cons h))

variable {view : ι → σ → ν} {see : Mark → Option ρ} {i : ι} {crowd : Crowd ι σ}

/-- The calls other than a given one leave alone what is to be seen of its history. -/
def Apart (view : ι → σ → ν) (i : ι) (crowd : Crowd ι σ) : Prop :=
  ∀ j, j ≠ i → ∀ v, (crowd.calls j).Leaves (view i · = v)

theorem Apart.advance (h : crowd.Apart view i) (level : Level) (k : ι) :
    (crowd.advance level k).Apart view i := by
  intro j hj v
  by_cases hk : j = k
  · subst hk
    rw [show (crowd.advance level j).calls j = _ from
      congrArg Prod.fst (advance_self level crowd j)]
    exact ((h j hj v).advance level crowd.peer).1
  · rw [advance_of_ne level crowd hk]
    exact h j hj v

theorem Apart.run (h : crowd.Apart view i) (level : Level) (schedule : List ι) :
    (crowd.run level schedule).Apart view i := by
  induction schedule generalizing crowd with
  | nil => exact h
  | cons j rest ih => exact ih (h.advance level j)

/-- A step of another call does not show in the history of this one. -/
theorem Apart.view_advance (h : crowd.Apart view i) (level : Level) {j : ι} (hj : j ≠ i) :
    view i (crowd.advance level j).peer = view i crowd.peer :=
  ((h j hj _).advance level crowd.peer).2 rfl

theorem Apart.view_run (h : crowd.Apart view i) (level : Level) {schedule : List ι}
    (hi : i ∉ schedule) : view i (crowd.run level schedule).peer = view i crowd.peer := by
  induction schedule generalizing crowd with
  | nil => rfl
  | cons j rest ih =>
    exact (ih (h.advance level j) (List.not_mem_of_not_mem_cons hi)).trans
      (h.view_advance level (List.ne_of_not_mem_cons hi).symm)

/-- After any schedule a call stands where it stands, alone, after as many steps of its own. The
induction is on the schedule: a step of the call is a step on both sides, and a step of another call
is none. -/
theorem Apart.run_alike (h : crowd.Apart view i) {call : Call σ} {peer : σ}
    (halike : Call.Alike (fun s t => view i s = view i t) see (crowd.calls i, crowd.peer)
      (call, peer)) (level : Level) (schedule : List ι) :
    Call.Alike (fun s t => view i s = view i t) see
      ((crowd.run level schedule).calls i, (crowd.run level schedule).peer)
      (call.advances level (schedule.count i) peer) := by
  induction schedule generalizing crowd call peer with
  | nil => exact halike
  | cons j rest ih =>
    by_cases hj : j = i
    · subst hj
      rw [List.count_cons_self]
      refine ih (h.advance level j) ?_
      rw [advance_self]
      exact halike.advance level
    · rw [List.count_cons_of_ne hj]
      refine ih (h.advance level j) ?_
      obtain ⟨hrequest, hrest, hjournal, hpeer⟩ := halike
      rw [advance_of_ne level crowd (Ne.symm hj)]
      exact ⟨hrequest, hrest, hjournal, (h.view_advance level hj).trans hpeer⟩

end Crowd

/-! ## Carriers with a history for each request -/

/-- Makes known that a request is handed over, as it stands. -/
def handOver : Act (Line σ) Unit := fun _ line =>
  ⟨.ok (), line, [.event (.send 0 line.request.method line.request.url.render
    line.request.headers.entries none)]⟩

/-- A carrier whose sends are made known. -/
def announcing (next : Task (Line σ) Response) : Task (Line σ) Response := do
  Task.once handOver
  next

/-- A carrier that answers each request from that request's own history: in its dealings with a
request it sees no more of the other side than the history of that request, and it leaves the
histories of the others alone. So does the source. -/
structure OwnHistories {ι : Type} (gather : Act σ Candidates) (next : ι → Task (Line σ) Response)
    (view : ι → σ → ν) (see : Mark → Option ρ) : Prop where
  source : ∀ i v, Act.Keeps (view i · = v) gather
  others : ∀ i j, j ≠ i → ∀ v, Task.Keeps (fun line => view i line.peer = v) (next j)
  own : ∀ i, Task.Alike (Line.Agree fun s t => view i s = view i t) see (next i) (next i)

section

variable {ι : Type} {gather : Act σ Candidates} {next : ι → Task (Line σ) Response}
  {view : ι → σ → ν} {see : Mark → Option ρ}

/-- Making the sends known changes nothing about that. -/
theorem OwnHistories.announcing (h : OwnHistories gather next view see) :
    OwnHistories gather (fun i => Relay.announcing (next i)) view see where
  source := h.source
  others i j hj v := (Task.Keeps.once fun _ _ hv => hv).bind fun _ => h.others i j hj v
  own i := by
    refine (Task.Alike.once ?_).bind fun _ => h.own i
    intro level line line' hline
    rw [Act.alikeAt_iff]
    exact ⟨rfl, hline, by simp only [handOver, hline.1]⟩

theorem OwnHistories.apart_start (h : OwnHistories gather next view see) (target : String)
    (requests : ι → Request) (peer : σ) (i : ι) :
    (Crowd.start target gather next requests peer).Apart view i := by
  intro j hj v task htask
  cases htask
  exact stepwise_keeps (h.source i v) (h.others i j hj v)

/-- The first step of a call is its query. What follows depends on the answer, and not on whether
the source has been asked or the answer was there already. -/
theorem OwnHistories.alike_first (h : OwnHistories gather next view see) (target : String)
    (request : Request) (level : Level) {i : ι} {peer peer' : σ}
    (hview : view i peer = view i peer') :
    let query := gather level peer
    Call.Alike (fun s t => view i s = view i t) see
      ((Call.made target gather (next i) request []).advance level peer)
      ((Call.made target (Act.ofExcept query.result) (next i) request query.journal).advance level
        peer') := by
  intro query
  have hkept : view i query.state = view i peer' := (h.source i _ level peer rfl).trans hview
  have hown := attemptsBefore_alike (h.own i) target
  have hstep : ∀ (gather : Act σ Candidates) (journal : List Mark) (peer : σ),
      (Call.made target gather (next i) request journal).advance level peer =
        let outcome := prepare gather level ⟨request, peer⟩
        (⟨outcome.state.request, outcome.result.map fun found =>
            attemptsBefore target found.2 found.1.toList.length (next i) found.1.last 1
              found.1.earlier, journal ++ outcome.journal⟩, outcome.state.peer) :=
    fun _ _ _ => rfl
  have hasked : gather level peer = ⟨query.result, query.state, query.journal⟩ := rfl
  have hgiven := Act.ofExcept_run query.result level peer'
  rw [hstep, hstep]
  generalize query.result = result at hasked hgiven
  cases result with
  | error fault =>
    rw [prepare_of_gather_error request hasked, prepare_of_gather_error request hgiven]
    exact ⟨rfl, .failed fault, by simp, hkept⟩
  | ok candidates =>
    rw [prepare_of_gather_ok request hasked, prepare_of_gather_ok request hgiven]
    refine ⟨rfl, ?_, by simp, hkept⟩
    cases request.header authorization with
    | error fault => exact .failed fault
    | ok callerHeader => exact .going (hown callerHeader _ _ _ _)

/-- From its query on a call stands, after any schedule, where it stands alone with the answer of
the source after as many steps. -/
theorem OwnHistories.run_alike [DecidableEq ι] (h : OwnHistories gather next view see)
    (target : String) (requests : ι → Request) (level : Level) (start : σ) {i : ι}
    {before : List ι} (hi : i ∉ before) (after : List ι) :
    let crowd := Crowd.start target gather next requests start
    let query := gather level (crowd.run level before).peer
    let finish := crowd.run level (before ++ i :: after)
    Call.Alike (fun s t => view i s = view i t) see (finish.calls i, finish.peer)
      ((Call.made target (Act.ofExcept query.result) (next i) (requests i) query.journal).advances
        level (after.count i + 1) start) := by
  intro crowd query finish
  have hapart : crowd.Apart view i := h.apart_start target requests start i
  have hfirst := h.alike_first target (requests i) level
    (show view i (crowd.run level before).peer = view i start from hapart.view_run level hi)
  -- the call has not been scheduled before, so this is its first step
  have hcall : (crowd.run level before).calls i = .made target gather (next i) (requests i) [] :=
    Crowd.run_of_not_mem level crowd hi
  rw [← hcall, ← Crowd.advance_self] at hfirst
  rw [show finish = ((crowd.run level before).advance level i).run level after from
    Crowd.run_append level crowd before (i :: after)]
  exact ((hapart.run level before).advance level i).run_alike hfirst level after

/-- Calls that are interleaved do not interfere. Any number of calls are made through one relay,
each with a request of its own, and take their steps in any order; the carrier answers each request
from that request's own history. Once a call has been answered by the source, it is, after any
schedule, on the course that it takes alone with that answer: it makes the same sends and deals with
the same responses, as its journal shows, and it ends after as many steps of its own with the same
response or failure, the same request and the same history, no matter how the others proceed. -/
theorem calls_do_not_interfere [DecidableEq ι] (h : OwnHistories gather next view see)
    (target : String) (requests : ι → Request) (level : Level) (start : σ) {i : ι}
    {before : List ι} (hi : i ∉ before) :
    let crowd := Crowd.start target gather (fun j => announcing (next j)) requests start
    let query := gather level (crowd.run level before).peer
    let alone := (stepwise target (Act.ofExcept query.result) (announcing (next i))).run level
      ⟨requests i, start⟩
    let seen := fun journal : List Mark => journal.filterMap see
    ∃ n, ∀ after,
      let finish := crowd.run level (before ++ i :: after)
      let call := finish.calls i
      seen call.journal <+: seen query.journal ++ seen alone.journal ∧
      (call.result? = none ↔ after.count i < n) ∧
      (n ≤ after.count i → call.result? = some alone.result ∧
        call.request = alone.state.request ∧
        seen call.journal = seen query.journal ++ seen alone.journal ∧
        view i finish.peer = view i alone.state.peer) := by
  intro crowd query alone seen
  obtain ⟨n, hn⟩ := Call.made_advances_eq level target (Act.ofExcept query.result)
    (announcing (next i)) (requests i) start query.journal
  -- the first step of the call stands before the rest of the schedule
  refine ⟨n - 1, fun after => ?_⟩
  have hrun := h.announcing.run_alike target requests level start hi after
  obtain ⟨hbefore, hafter⟩ := hn (after.count i + 1)
  dsimp only at hrun
  generalize Call.advances level (after.count i + 1) _ start = reached at hrun hbefore hafter
  have hresult : Call.result? _ = reached.1.result? := hrun.result?_eq
  dsimp only [seen]
  rw [← List.filterMap_append, hrun.journal, hresult]
  by_cases hlt : after.count i + 1 < n
  · obtain ⟨hgoing, hpart⟩ := hbefore hlt
    exact ⟨hpart.filterMap see, iff_of_true hgoing (by omega), fun hge => absurd hge (by omega)⟩
  · rw [hafter (by omega)] at hrun ⊢
    have hended := Call.result?_ended query.journal alone
    exact ⟨List.prefix_rfl, iff_of_false (by rw [hended]; simp) (by omega),
      fun _ => ⟨hended, hrun.request, rfl, hrun.peer⟩⟩

end

/-- A carrier that has answers for each request, and gives them one after another. -/
def replayFor {ι : Type} [DecidableEq ι] (i : ι) : Carrier (ι → List (Except Fault Response)) :=
  Act.zoom (fun line => ⟨line.request, line.peer i⟩)
    (fun inner line => ⟨inner.request, Function.update line.peer i inner.peer⟩) replay

theorem replayFor_run {ι : Type} [DecidableEq ι] (i : ι) (level : Level)
    (line : Line (ι → List (Except Fault Response))) :
    replayFor i level line =
      let outcome := replay level ⟨line.request, line.peer i⟩
      ⟨outcome.result, ⟨outcome.state.request, Function.update line.peer i outcome.state.peer⟩,
        outcome.journal⟩ := rfl

theorem ownHistories_replayFor {ι : Type} [DecidableEq ι] (candidates : Candidates) :
    OwnHistories (pure candidates) (fun i : ι => Task.once (replayFor i)) (fun i s => s i)
      some where
  source _ _ := .pure candidates
  others i j hj v := .once fun level line h => by
    simp only [replayFor_run, Function.update_of_ne hj.symm]
    exact h
  own i := .once fun level line line' h => by
    have hline : (⟨line.request, line.peer i⟩ : Line _) = ⟨line'.request, line'.peer i⟩ := by
      rw [h.1, h.2]
    rw [Act.alikeAt_iff, replayFor_run, replayFor_run, hline]
    exact ⟨rfl, ⟨rfl, by simp only [Function.update_self]⟩, rfl⟩

/-- Two calls with two tokens each, one of which the carrier accepts at the second. However the
other call proceeds, this one ends with that answer once it has taken its steps. -/
theorem calls_do_not_interfere_two_calls :
    let answers := fun accepted : Bool => if accepted
      then [answerOf 401 "text/plain", answerOf 200 "text/plain"]
      else [answerOf 403 "text/plain", answerOf 401 "text/plain"]
    let next := fun i : Bool => Task.once (replayFor i)
    let crowd := Crowd.start "h" (pure twoTokens) (fun i => announcing (next i))
      (fun _ => rootOf "h") answers
    OwnHistories (pure twoTokens) next (fun i s => s i) some ∧ true ∉ [false] ∧
    ∃ n, ∀ after, n ≤ after.count true →
      let call := (crowd.run .warning ([false] ++ true :: after)).calls true
      call.result? = some (answerOf 200 "text/plain") ∧
      call.request.header authorization = .ok (some "Bearer b") := by
  have hown : OwnHistories (pure twoTokens) (fun i : Bool => Task.once (replayFor i)) _ some :=
    ownHistories_replayFor twoTokens
  have hfirst : true ∉ [false] := by decide
  obtain ⟨n, hn⟩ := calls_do_not_interfere hown "h" (fun _ => rootOf "h") .warning
    (fun accepted : Bool => if accepted
      then [answerOf 401 "text/plain", answerOf 200 "text/plain"]
      else [answerOf 403 "text/plain", answerOf 401 "text/plain"]) hfirst
  refine ⟨hown, hfirst, n, fun after hcount => ?_⟩
  obtain ⟨hresult, hrequest, -⟩ := (hn after).2.2 hcount
  exact ⟨hresult, by rw [hrequest]; rfl⟩

end AuthRelay.Relay
