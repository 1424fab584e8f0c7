import AuthRelay.Proofs.Gathering
import AuthRelay.Proofs.Relay.Stacks
/-!
# What a call asks and what it sends

A call deals with two sides, the suppliers of its source and its carrier. Noted in one list, its
deeds come in order: first every leaf of the source is asked, once and from left to right, and only
then are requests sent, with the candidates that the leaves have delivered. Nothing is asked a
second time, however many candidates are tried.
-/
namespace AuthRelay

variable {σ ι : Type}

/-- What a call does to the other side: it asks the supplier at a leaf, or it sends a request. -/
inductive Deed (ι : Type)
  | asked (leaf : ι)
  | sent (request : Request)

/-- The state of the other side, and what has been done to it, in order. -/
structure Noted (ι σ : Type) where
  state : σ
  deeds : List (Deed ι) := []

/-- Notes a deed and does it. -/
def noting {α : Type} (deed : Deed ι) (act : Act σ α) : Act (Noted ι σ) α := do
  Act.modify fun noted => { noted with deeds := noted.deeds ++ [deed] }
  Act.zoom Noted.state (fun state noted => { noted with state }) act

theorem noting_run {α : Type} (deed : Deed ι) (act : Act σ α) (level : Level) (s : σ)
    (deeds : List (Deed ι)) :
    noting deed act level ⟨s, deeds⟩ =
      ⟨(act level s).result, ⟨(act level s).state, deeds ++ [deed]⟩, (act level s).journal⟩ := rfl

/-! ## Asking -/

namespace Supplier

/-- A supplier that makes a note whenever it is asked, also when it cannot answer. -/
def noted (suppliers : ι → Supplier σ) (i : ι) : Supplier (Noted ι σ) where
  name := (suppliers i).name
  one? := some (noting (.asked i) ((suppliers i).one?.getD
    (Act.fail (.missingQuery (suppliers i).name "get_credentials"))))
  all? := (suppliers i).all?.map (noting (.asked i))

theorem deliver_noted (suppliers : ι → Supplier σ) (i : ι) :
    (noted suppliers i).deliver = noting (.asked i) (suppliers i).deliver := by
  unfold noted
  cases suppliers i with
  | mk name one? all? =>
    cases all? with
    | some all => rfl
    | none =>
      cases one? with
      | none => rfl
      | some one =>
        funext level ⟨s, deeds⟩
        simp only [deliver, Option.map_none, Option.getD_some, bind_pure_comp]
        rw [Act.map_run, noting_run, noting_run, Act.map_run]

/-- Which of some leaves are asked: all of them, or those up to the first that fails. -/
inductive Asked (suppliers : ι → Supplier σ) (level : Level) (start : σ) (leaves : List ι) :
    List ι → Prop
  | all {sets : List CredentialSet} {finish : σ} {journal : List Mark}
      (h : deliverAll (leaves.map suppliers) level start = ⟨.ok sets, finish, journal⟩) :
    Asked suppliers level start leaves leaves
  | upTo (before : List ι) {after : List ι} {failing : ι} {sets : List CredentialSet}
      {between finish : σ} {fault : Fault} {journal answered : List Mark}
      (hleaves : leaves = before ++ failing :: after)
      (hbefore : deliverAll (before.map suppliers) level start = ⟨.ok sets, between, journal⟩)
      (hfails : (suppliers failing).deliver level between = ⟨.error fault, finish, answered⟩) :
    Asked suppliers level start leaves (before ++ [failing])

variable {suppliers : ι → Supplier σ} {level : Level}

theorem Asked.cons {start between : σ} {i : ι} {leaves asked : List ι} {here : List CredentialSet}
    {journal : List Mark} (h : (suppliers i).deliver level start = ⟨.ok here, between, journal⟩)
    (hasked : Asked suppliers level between leaves asked) :
    Asked suppliers level start (i :: leaves) (i :: asked) := by
  cases hasked with
  | all hall => exact .all (deliverAll_cons_of_ok h hall)
  | upTo before hleaves hbefore hfails =>
    exact .upTo (i :: before) (congrArg (i :: ·) hleaves) (deliverAll_cons_of_ok h hbefore) hfails

/-- All leaves are asked unless one of them fails. -/
theorem Asked.eq_of_ok {start finish : σ} {leaves asked : List ι} {sets : List CredentialSet}
    {journal : List Mark} (hasked : Asked suppliers level start leaves asked)
    (h : deliverAll (leaves.map suppliers) level start = ⟨.ok sets, finish, journal⟩) :
    asked = leaves := by
  cases hasked with
  | all => rfl
  | upTo before hleaves hbefore hfails =>
    rw [hleaves, List.map_append, List.map_cons] at h
    rw [deliverAll_eq_error_iff.mpr (.intro _ rfl hbefore hfails)] at h
    cases h

/-- Making notes changes nothing in what the leaves deliver, and notes each that is asked once. -/
theorem deliverAll_noted (suppliers : ι → Supplier σ) (level : Level) (leaves : List ι)
    (start : σ) (deeds : List (Deed ι)) :
    let run := deliverAll (leaves.map suppliers) level start
    ∃ asked, Asked suppliers level start leaves asked ∧
      deliverAll (leaves.map (noted suppliers)) level ⟨start, deeds⟩ =
        ⟨run.result, ⟨run.state, deeds ++ asked.map .asked⟩, run.journal⟩ := by
  induction leaves generalizing start deeds with
  | nil => exact ⟨[], .all rfl, by simp only [List.map_nil, List.append_nil]; rfl⟩
  | cons i leaves ih =>
    have hnoted := noting_run (.asked i) (suppliers i).deliver level start deeds
    simp only [List.map_cons, deliverAll, deliver_noted]
    cases hdeliver : (suppliers i).deliver level start with
    | mk result between journal =>
      rw [hdeliver] at hnoted
      cases result with
      | error fault =>
        rw [Act.bind_of_error hnoted, Act.bind_of_error hdeliver]
        exact ⟨[i], .upTo [] rfl rfl hdeliver, rfl⟩
      | ok here =>
        obtain ⟨asked, hasked, hrest⟩ := ih between (deeds ++ [.asked i])
        refine ⟨i :: asked, hasked.cons hdeliver, ?_⟩
        rw [Act.bind_of_ok hnoted, Act.bind_of_ok hdeliver]
        simp only [bind_pure_comp, Act.map_run, hrest, List.map_cons, List.append_assoc,
          List.singleton_append]

end Supplier

namespace Source

variable {suppliers : ι → Supplier σ} {level : Level}

theorem gather_noted (suppliers : ι → Supplier σ) (level : Level) (source : Source ι) (start : σ)
    (deeds : List (Deed ι)) :
    let run := (source.map suppliers).gather level start
    ∃ asked, Supplier.Asked suppliers level start source.leaves asked ∧
      (source.map (Supplier.noted suppliers)).gather level ⟨start, deeds⟩ =
        ⟨run.result, ⟨run.state, deeds ++ asked.map .asked⟩, run.journal⟩ := by
  have hname : (source.map (Supplier.noted suppliers)).name = (source.map suppliers).name := by
    cases source <;> rfl
  obtain ⟨asked, hasked, hrun⟩ := Supplier.deliverAll_noted suppliers level source.leaves start deeds
  refine ⟨asked, hasked, ?_⟩
  rw [gather_eq, gather_eq, leaves_map, leaves_map, hname]
  cases ho : Supplier.deliverAll (source.leaves.map suppliers) level start with
  | mk result finish journal =>
    rw [ho] at hrun
    cases result with
    | error fault => rw [Act.bind_of_error hrun, Act.bind_of_error ho]
    | ok sets =>
      rw [Act.bind_of_ok hrun, Act.bind_of_ok ho]
      cases Candidates.ofList? sets <;> rfl

theorem asked_of_gather_ok {source : Source ι} {start finish : σ} {candidates : Candidates}
    {journal : List Mark} {asked : List ι}
    (h : (source.map suppliers).gather level start = ⟨.ok candidates, finish, journal⟩)
    (hasked : Supplier.Asked suppliers level start source.leaves asked) : asked = source.leaves := by
  cases ho : Supplier.deliverAll (source.leaves.map suppliers) level start with
  | mk result between entered =>
    cases result with
    | ok sets => exact hasked.eq_of_ok ho
    | error fault =>
      rw [gather_eq, leaves_map, Act.bind_of_error ho] at h
      cases h

end Source

/-! ## Asking and sending -/

namespace Relay

/-- A carrier whose requests are noted. -/
def noteSends (next : Carrier σ) : Act (Line (Noted ι σ)) Response := do
  Act.modify fun line =>
    { line with peer := { line.peer with deeds := line.peer.deeds ++ [.sent line.request] } }
  Act.zoom (fun line => ⟨line.request, line.peer.state⟩)
    (fun inner line => ⟨inner.request, { line.peer with state := inner.peer }⟩) next

theorem noteSends_run (next : Carrier σ) (level : Level) (request : Request) (s : σ)
    (deeds : List (Deed ι)) :
    noteSends next level ⟨request, ⟨s, deeds⟩⟩ =
      let sent := next level ⟨request, s⟩
      ⟨sent.result, ⟨sent.state.request, ⟨sent.state.peer, deeds ++ [.sent request]⟩⟩,
        sent.journal⟩ := rfl

/-- Making notes of the sends changes nothing. -/
theorem noteSends_alike (next : Carrier σ) :
    Act.Alike (Line.Agree fun (noted : Noted ι σ) s => noted.state = s) some (noteSends next)
      next := by
  rintro level ⟨request, s, deeds⟩ ⟨_, _⟩ ⟨rfl, rfl⟩
  rw [Act.alikeAt_iff, noteSends_run]
  exact ⟨rfl, ⟨rfl, rfl⟩, rfl⟩

/-- Making notes of the queries changes nothing. -/
theorem gather_noted_alike (suppliers : ι → Supplier σ) (source : Source ι) :
    Act.Alike (fun (noted : Noted ι σ) s => noted.state = s) some
      (source.map (Supplier.noted suppliers)).gather (source.map suppliers).gather := by
  rintro level ⟨s, deeds⟩ _ rfl
  obtain ⟨asked, -, hrun⟩ := Source.gather_noted suppliers level source s deeds
  rw [Act.alikeAt_iff, hrun]
  exact ⟨rfl, rfl, rfl⟩

/-- Notes of the sends, after those that are there already, are the record of a watched carrier. -/
theorem noteSends_watch_alike (before : List (Deed ι)) (next : Carrier σ) :
    Act.Alike (Line.Agree fun (noted : Noted ι σ) (w : Watched σ) =>
      noted.state = w.state ∧ noted.deeds = before ++ w.sends.map .sent) some
      (noteSends next) (watch next) := by
  rintro level ⟨request, s, deeds⟩ ⟨_, _, supplies, sends⟩ ⟨rfl, rfl, hdeeds⟩
  dsimp only at hdeeds
  rw [Act.alikeAt_iff, noteSends_run, hdeeds]
  refine ⟨rfl, ⟨rfl, rfl, ?_⟩, rfl⟩
  dsimp only
  rw [show (watch next level _).state.peer.sends = sends ++ [request] from rfl,
    List.map_append, List.append_assoc]
  rfl

/-- Behind the same requests the notes of the attempts agree with the record of watched ones. -/
theorem deeds_of_attempts (target : String) (entry : Option String) (total : Nat)
    (next : Carrier σ) (candidates : Candidates) (level : Level) (request : Request) (peer : σ)
    (deeds : List (Deed ι)) (supplies : List (String × Candidates)) :
    let noted := attempts target entry total (noteSends next) 1 candidates.first candidates.rest
      level ⟨request, ⟨peer, deeds⟩⟩
    let watched := attempts target entry total (watch next) 1 candidates.first candidates.rest
      level ⟨request, ⟨peer, supplies, []⟩⟩
    noted.state.peer.deeds = deeds ++ watched.state.peer.sends.map .sent := by
  have hstart : deeds = deeds ++ ([] : List Request).map .sent := by simp
  obtain ⟨-, ⟨-, -, hdeeds⟩, -⟩ := attempts_alike (noteSends_watch_alike deeds next) target entry
    total 1 candidates.first candidates.rest level ⟨request, ⟨peer, deeds⟩⟩
    ⟨request, ⟨peer, supplies, []⟩⟩ ⟨rfl, rfl, hstart⟩
  exact hdeeds

/-- How a call from one line to another deals with its two sides: the leaves that it asks, and the
requests that it sends. -/
inductive Deals (suppliers : ι → Supplier σ) (source : Source ι) (target : String)
    (next : Carrier σ) (level : Level) (line finish : Line σ) : List ι → List Request → Prop
  /-- Without candidates nothing is sent. -/
  | unsupplied {asked : List ι} {fault : Fault} {peer : σ} {journal : List Mark}
      (hgather : (source.map suppliers).gather level line.peer = ⟨.error fault, peer, journal⟩)
      (hasked : Supplier.Asked suppliers level line.peer source.leaves asked) :
    Deals suppliers source target next level line finish asked []
  /-- Nothing is sent if the caller's own header cannot be read. -/
  | unreadable {candidates : Candidates} {fault : Fault} {peer : σ} {journal : List Mark}
      (hgather : (source.map suppliers).gather level line.peer = ⟨.ok candidates, peer, journal⟩)
      (hheader : line.request.header authorization = .error fault) :
    Deals suppliers source target next level line finish source.leaves []
  /-- The candidates are tried in order, as many as there are sends. -/
  | tried {candidates : Candidates} {entry : Option String} {peer : σ} {journal : List Mark}
      {sends : List Request}
      (hgather : (source.map suppliers).gather level line.peer = ⟨.ok candidates, peer, journal⟩)
      (hheader : line.request.header authorization = .ok entry)
      (hlength : sends.length ≤ candidates.toList.length)
      (htrials : Trials level target entry next ⟨line.request.settle, peer⟩
        (candidates.toList.zip sends) finish) :
    Deals suppliers source target next level line finish source.leaves sends

/-- A call asks the leaves of its source first, each once, and then sends requests with what they
have delivered. -/
theorem deeds_of_blocking (suppliers : ι → Supplier σ) (source : Source ι) (target : String)
    (next : Carrier σ) (level : Level) (line : Line σ) :
    let call := blocking target (source.map suppliers).gather next level line
    let noted := blocking target (source.map (Supplier.noted suppliers)).gather (noteSends next)
      level ⟨line.request, ⟨line.peer, []⟩⟩
    ∃ asked sends, noted.state.peer.deeds = asked.map .asked ++ sends.map .sent ∧
      Deals suppliers source target next level line call.state asked sends := by
  obtain ⟨asked, hasked, hnoted⟩ := Source.gather_noted suppliers level source line.peer []
  cases hgather : (source.map suppliers).gather level line.peer with
  | mk result peer journal =>
    rw [hgather] at hnoted
    cases result with
    | error fault =>
      have hcall := blocking_of_gather_error target (noteSends next) line.request hnoted
      exact ⟨asked, [], (congrArg (·.state.peer.deeds) hcall).trans (List.append_nil _).symm,
        .unsupplied hgather hasked⟩
    | ok candidates =>
      have hall := Source.asked_of_gather_ok hgather hasked
      subst hall
      cases hv : line.request.header authorization with
      | error fault =>
        have hcall := blocking_of_header_error target (noteSends next) hnoted hv
        exact ⟨_, [], (congrArg (·.state.peer.deeds) hcall).trans (List.append_nil _).symm,
          .unreadable hgather hv⟩
      | ok entry =>
        obtain ⟨made, hcourse, hsends, -⟩ := course_of_blocking target next hgather hv
        obtain ⟨hlength, htrials⟩ := hcourse.trials
        refine ⟨_, sendsOf made, ?_, .tried hgather hv hlength htrials⟩
        have hwatched := watchSource_of_ok target (w := (line.watched [] []).peer) hgather
        have hcall := blocking_of_header_ok target (noteSends next) hnoted hv
        have hseen := blocking_of_header_ok target (watch next) hwatched hv
        rw [← (congrArg (·.state.peer.sends) hseen).symm.trans hsends]
        exact (congrArg (·.state.peer.deeds) hcall).trans
          (deeds_of_attempts target entry _ next candidates level _ peer _ [(target, candidates)])

/-- A call asks its source once and before it sends anything: with notes made of what it asks and
sends it comes to the same, and the notes tell of the leaves first and then of the requests. -/
def AsksFirst (mode : Session.Mode) (target : String) (suppliers : ι → Supplier σ)
    (source : Source ι) (next : Carrier σ) (level : Level) (line : Line σ)
    (call : Outcome (Line σ) Response) : Prop :=
  let layer : Layer (Noted ι σ) := ⟨mode, target, (source.map (Supplier.noted suppliers)).gather⟩
  let noted := layer.send (noteSends next) level ⟨line.request, ⟨line.peer, []⟩⟩
  (noted.result = call.result ∧ noted.state.request = call.state.request ∧
    noted.state.peer.state = call.state.peer ∧ noted.journal = call.journal) ∧
  ∃ asked sends, noted.state.peer.deeds = asked.map .asked ++ sends.map .sent ∧
    Deals suppliers source target next level line call.state asked sends

theorem Layer.asksFirst (mode : Session.Mode) (target : String) (suppliers : ι → Supplier σ)
    (source : Source ι) (next : Carrier σ) (level : Level) (line : Line σ) :
    AsksFirst mode target suppliers source next level line
      (Layer.send ⟨mode, target, (source.map suppliers).gather⟩ next level line) := by
  unfold AsksFirst
  simp only [Layer.send_eq]
  refine ⟨?_, deeds_of_blocking suppliers source target next level line⟩
  obtain ⟨hresult, ⟨hrequest, hpeer⟩, hjournal⟩ :=
    blocking_alike (gather_noted_alike suppliers source) (noteSends_alike next) level
      ⟨line.request, ⟨line.peer, []⟩⟩ line ⟨rfl, rfl⟩
  rw [List.filterMap_some, List.filterMap_some] at hjournal
  exact ⟨hresult, hrequest, hpeer, hjournal⟩

end Relay
end AuthRelay
