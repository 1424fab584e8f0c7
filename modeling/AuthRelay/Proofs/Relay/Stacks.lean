import AuthRelay.Proofs.Relay.Course
import AuthRelay.Relay.Stepwise
import AuthRelay.Session.World
/-!
# Stacks of relays

A relay is a carrier itself, so relays can stand in front of relays. A layer is a relay without the
carrier behind it, in one of its two modes, and a stack nests layers in front of a base. Run without
interleaving the two modes are the same act, so whatever holds of the blocking relay holds of every
layer. A call of a layer goes one of three ways, and `Layer.goes` says which.
-/
namespace AuthRelay.Relay

variable {σ τ : Type}

/-! ## The two modes -/

theorem drain_eq (response : Response) :
    onResponse (σ := σ) response Response.drain =
      onResponse response Response.readBody >>= fun loaded => onResponse loaded Response.close := by
  funext level line
  have hread := onResponse_run (σ := σ) response Response.readBody level line
  rw [onResponse_run]
  cases ho : Response.readBody level response with
  | mk result loaded journal =>
    rw [ho] at hread
    cases result with
    | error fault =>
      have hdrain : Response.drain level response = ⟨.error fault, loaded, journal⟩ :=
        Act.bind_of_error ho
      rw [Act.bind_of_error hread, hdrain]
      rfl
    | ok body =>
      have hdrain : Response.drain level response =
          ⟨(Response.close level loaded).result, (Response.close level loaded).state,
            journal ++ (Response.close level loaded).journal⟩ := Act.bind_of_ok ho
      rw [Act.bind_of_ok hread, hdrain, onResponse_run]

theorem discard_run (response : Response) (attempt total : Nat) :
    (Relay.discard response attempt total).run = setAside (σ := σ) response attempt total := by
  simp only [Relay.discard, setAside, Task.run_bind, Task.run_once, drain_eq, bind_assoc]

theorem attemptsBefore_run (target : String) (callerHeader : Option String) (total : Nat)
    (next : Task (Line σ) Response) (last : CredentialSet) (earlier : List CredentialSet)
    (attempt : Nat) {first : CredentialSet} {rest : List CredentialSet}
    (h : first :: rest = earlier ++ [last]) :
    (attemptsBefore target callerHeader total next last attempt earlier).run =
      attempts target callerHeader total next.run attempt first rest := by
  induction earlier generalizing attempt first rest with
  | nil =>
    cases h
    simp only [attemptsBefore, Task.run_bind, Task.run_once]
    rfl
  | cons candidate earlier ih =>
    obtain ⟨rfl, hrest⟩ := List.cons.inj h
    -- the last candidate is still to come, so there is a following one
    cases rest with
    | nil => simp at hrest
    | cons following others =>
      rw [attempts_eq]
      simp only [attemptsBefore, onward, Task.run_bind, Task.run_once]
      congr 1
      funext _
      congr 1
      funext response
      by_cases hr : response.isRejection = true
      · simp only [if_pos hr, Task.run_bind, discard_run]
        congr 1
        funext _
        exact ih (attempt + 1) hrest
      · simp only [if_neg hr]
        rfl

/-- Run to its end, the stepwise relay is the blocking one. -/
theorem stepwise_run (target : String) (gather : Act σ Candidates)
    (next : Task (Line σ) Response) :
    (stepwise target gather next).run = blocking target gather next.run := by
  unfold stepwise blocking
  rw [Task.run_bind, Task.run_once]
  congr 1
  funext (candidates, callerHeader)
  exact attemptsBefore_run target callerHeader _ next candidates.last candidates.earlier 1
    candidates.earlier_append_last.symm

/-! ## Layers -/

/-- A relay without the carrier behind it. -/
structure Layer (σ : Type) where
  mode : Session.Mode
  target : String
  gather : Act σ Candidates

/-- A layer in front of a carrier. -/
def Layer.send (layer : Layer σ) (next : Carrier σ) : Carrier σ :=
  match layer.mode with
  | .blocking => blocking layer.target layer.gather next
  | .stepwise => (stepwise layer.target layer.gather (Task.once next)).run

/-- Layers in front of a base, the outermost first. -/
def stack : List (Layer σ) → Carrier σ → Carrier σ
  | [], base => base
  | layer :: inner, base => layer.send (stack inner base)

/-- A layer whose candidates are recorded. -/
def Layer.watch (layer : Layer σ) : Layer (Watched σ) where
  mode := layer.mode
  target := layer.target
  gather := watchSource layer.target layer.gather

theorem Layer.send_eq (layer : Layer σ) (next : Carrier σ) :
    layer.send next = blocking layer.target layer.gather next := by
  unfold Layer.send
  cases layer.mode with
  | blocking => rfl
  | stepwise => rw [stepwise_run, Task.run_once]

theorem Layer.watch_send_eq (layer : Layer σ) (next : Carrier (Watched σ)) :
    layer.watch.send next = blocking layer.target (watchSource layer.target layer.gather) next :=
  layer.watch.send_eq next

/-- Watching a stack changes nothing. -/
theorem stack_watch_alike (layers : List (Layer σ)) (base : Carrier σ) :
    Act.Alike (Line.Agree fun (w : Watched σ) s => w.state = s) some
      (stack (layers.map Layer.watch) (Relay.watch base)) (stack layers base) := by
  induction layers with
  | nil => exact watch_alike base
  | cons layer inner ih =>
    simp only [List.map_cons, stack, Layer.send_eq]
    exact blocking_alike (watchSource_alike layer.target layer.gather) ih

/-! ## Calls -/

/-- How a call of a layer goes, and which requests it sends: it ends without candidates, or with a
header of the caller that cannot be read, or it takes a course. -/
inductive Goes (layer : Layer σ) (next : Carrier σ) (level : Level) (line : Line σ) :
    Outcome (Line σ) Response → List Request → Prop
  | unsupplied {fault : Fault} {peer : σ} {journal : List Mark}
      (hgather : layer.gather level line.peer = ⟨.error fault, peer, journal⟩) :
    Goes layer next level line ⟨.error fault, ⟨line.request, peer⟩, journal⟩ []
  | unreadable {candidates : Candidates} {fault : Fault} {peer : σ} {journal : List Mark}
      (hgather : layer.gather level line.peer = ⟨.ok candidates, peer, journal⟩)
      (hheader : line.request.header authorization = .error fault) :
    Goes layer next level line ⟨.error fault, ⟨line.request.settle, peer⟩, journal⟩ []
  | course {candidates : Candidates} {entry : Option String} {peer : σ} {journal : List Mark}
      {run : Outcome (Line σ) Response} {made : List (Made σ)}
      (hgather : layer.gather level line.peer = ⟨.ok candidates, peer, journal⟩)
      (hheader : line.request.header authorization = .ok entry)
      (hcourse : Course level candidates.toList.length 1
        (Attempt.series level layer.target entry next candidates.toList
          ⟨line.request.settle, peer⟩) run.result run.state made)
      (hjournal : run.journal = journal ++ entriesOf level next made) :
    Goes layer next level line run (sendsOf made)

theorem Layer.goes (layer : Layer σ) (next : Carrier σ) (level : Level) (line : Line σ) :
    Goes layer next level line (layer.send next level line)
      (layer.watch.send (Relay.watch next) level (line.watched [] [])).state.peer.sends := by
  rw [Layer.send_eq, Layer.watch_send_eq]
  cases hgather : layer.gather level line.peer with
  | mk result peer journal =>
    cases result with
    | error fault =>
      rw [sends_of_gather_error layer.target next hgather,
        show blocking _ _ _ _ line = _ from
          blocking_of_gather_error layer.target next line.request hgather]
      exact .unsupplied hgather
    | ok candidates =>
      cases hheader : line.request.header authorization with
      | error fault =>
        rw [sends_of_header_error layer.target next hgather hheader,
          show blocking _ _ _ _ line = _ from
            blocking_of_header_error layer.target next hgather hheader]
        exact .unreadable hgather hheader
      | ok entry =>
        obtain ⟨made, hcourse, hsends, hjournal⟩ :=
          course_of_blocking layer.target next hgather hheader
        rw [hsends]
        exact .course hgather hheader hcourse hjournal

end AuthRelay.Relay
