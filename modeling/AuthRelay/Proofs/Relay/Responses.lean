import AuthRelay.Proofs.Relay.Course
import AuthRelay.Proofs.Relay.Stacks
/-!
# What becomes of the responses

A relay receives one response for each of its sends that does not fail. It returns one of them, as
it came, and closes the others. The exception is a rejected response whose body cannot be read: the
failure ends the call before the response is closed, so that the response stays open unless it came
closed.
-/
namespace AuthRelay

namespace Response

/-- A response is closed after some dealings with it: it came closed, or it has been closed. -/
def ClosedBy (r : Response) (entries : List Mark) : Prop :=
  r.closed = true ∨ .event (.close r.serial) ∈ entries

theorem closedBy_append_records (r : Response) (entries : List Mark) (records : List Record) :
    r.ClosedBy (entries ++ records.map .record) ↔ r.ClosedBy entries := by
  simp [ClosedBy]

/-- Reading either succeeds, and the response is closed by then or can be, or it fails and does
not close. -/
theorem closedBy_drain_iff (r : Response) (level : Level) :
    r.ClosedBy (drain level r).journal ↔ r.closed = true ∨ (drain level r).result = .ok () := by
  obtain ⟨serial, status, headers, body, failure, phase, closed⟩ := r
  cases closed with
  | true => simp [ClosedBy]
  | false =>
    cases phase with
    | spent => simp [ClosedBy, drain, readBody, bind, Act.bind]
    | loaded => simp [ClosedBy, drain, readBody, close, bind, Act.bind]
    | pending =>
      cases failure <;> simp [ClosedBy, drain, readBody, close, bind, Act.bind]

end Response

namespace Relay

variable {σ : Type}

/-- The entries of a rejected response that is set aside tell whether it has been closed. -/
theorem closedBy_asideEntries_iff (response : Response) (level : Level) (request : Request)
    (attempt total : Nat) :
    response.ClosedBy (asideEntries level request response attempt total) ↔
      response.closed = true ∨ (Response.drain level response).result = .ok () := by
  rw [← response.closedBy_drain_iff level]
  unfold asideEntries
  dsimp only
  split
  · exact response.closedBy_append_records _ [_]
  · exact response.closedBy_append_records _ []

/-- A send of a call: the line as it reaches the carrier, and what the relay enters in the journal
between the answer and the next send. -/
structure Exchange (σ : Type) where
  sent : Line σ
  entered : List Mark

/-- What becomes of the response to a send. The relay returns it as it came, and makes no other
send; or it is a rejection, which ends up closed if it came closed or if its body can be read, and
which ends the call if its body cannot be read. -/
def Settled (level : Level) (result : Except Fault Response) (response : Response)
    (entered : List Mark) (later : List (Exchange σ)) : Prop :=
  (later = [] ∧ result = .ok response ∧ entered = []) ∨
  (response.isRejection = true ∧
    (response.ClosedBy entered ↔
      response.closed = true ∨ (Response.drain level response).result = .ok ()) ∧
    ∀ fault, (Response.drain level response).result = .error fault →
      later = [] ∧ result = .error fault)

/-- Every response that the carrier gives in some exchanges is settled. -/
def AllSettled (level : Level) (next : Carrier σ) (result : Except Fault Response)
    (exchanges : List (Exchange σ)) : Prop :=
  ∀ before e later response, exchanges = before ++ e :: later →
    (next level e.sent).result = .ok response → Settled level result response e.entered later

section

variable {level : Level} {next : Carrier σ} {result : Except Fault Response}
  {exchanges : List (Exchange σ)}

theorem AllSettled.nil : AllSettled level next result [] := by
  intro before e later response heq
  simp at heq

theorem AllSettled.cons {e : Exchange σ} (he : ∀ response, (next level e.sent).result =
      .ok response → Settled level result response e.entered exchanges)
    (h : AllSettled level next result exchanges) :
    AllSettled level next result (e :: exchanges) := by
  intro before e' later response heq hresponse
  rcases List.append_eq_cons_iff.mp heq.symm with ⟨rfl, hc⟩ | ⟨rest, rfl, hrest⟩
  · cases hc
    exact he response hresponse
  · exact h rest e' later response hrest hresponse

/-- Every response but the one that is returned has been closed. -/
def NoneLeftOpen (level : Level) (next : Carrier σ) (result : Except Fault Response)
    (exchanges : List (Exchange σ)) : Prop :=
  ∀ before e later response, exchanges = before ++ e :: later →
    (next level e.sent).result = .ok response →
      (later = [] ∧ result = .ok response) ∨ response.ClosedBy e.entered

theorem AllSettled.noneLeftOpen_iff (h : AllSettled level next result exchanges) :
    NoneLeftOpen level next result exchanges ↔
      ∀ before e later response, exchanges = before ++ e :: later →
        (next level e.sent).result = .ok response →
          (later = [] ∧ result = .ok response) ∨ response.closed = true ∨
            (Response.drain level response).result = .ok () := by
  refine forall₄_congr fun before e later response => ?_
  refine forall₂_congr fun heq hresponse => ?_
  rcases h before e later response heq hresponse with ⟨hlater, hresult, -⟩ | ⟨-, hclosed, -⟩
  · simp [hlater, hresult]
  · rw [hclosed]

/-! ## How exchanges end -/

/-- How an exchange of a call ends, and the exchanges that come later. The answer of the carrier is
the answer of the call, and if it is rejected there is no other candidate; or there is another
candidate, and the answer is a rejection. If that cannot be set aside, it ends the call; if it is
set aside, there is another exchange unless the next attempt fails before its send. -/
inductive Ends (level : Level) (next : Carrier σ) (result : Except Fault Response)
    (total number : Nat) (e : Exchange σ) : List (Exchange σ) → Prop
  | answered (hentered : e.entered = []) (hresult : result = (next level e.sent).result)
      (hfinal : number = total ∨
        ∀ response, result = .ok response → ¬ response.isRejection = true) :
    Ends level next result total number e []
  | stuck {response : Response} {fault : Fault} (h : (next level e.sent).result = .ok response)
      (hr : response.isRejection = true)
      (hentered : e.entered =
        asideEntries level (next level e.sent).state.request response number total)
      (haside : asideResult level response = .error fault) (hresult : result = .error fault)
      (hnumber : number < total) :
    Ends level next result total number e []
  | passed {response : Response} {later : List (Exchange σ)}
      (h : (next level e.sent).result = .ok response) (hr : response.isRejection = true)
      (hentered : e.entered =
        asideEntries level (next level e.sent).state.request response number total)
      (haside : asideResult level response = .ok ())
      (hlater : later = [] → ∃ fault, result = .error fault) (hnumber : number < total) :
    Ends level next result total number e later

/-- The response of an exchange that ends is settled. -/
theorem Ends.settled {total number : Nat} {e : Exchange σ}
    (he : Ends level next result total number e exchanges) {response : Response}
    (hresponse : (next level e.sent).result = .ok response) :
    Settled level result response e.entered exchanges := by
  cases he with
  | answered hentered hresult hfinal => exact .inl ⟨rfl, hresult.trans hresponse, hentered⟩
  | stuck h hr hentered haside hresult =>
    cases hresponse.symm.trans h
    rw [hentered]
    refine .inr ⟨hr, closedBy_asideEntries_iff response level _ number total, fun cause hdrain => ?_⟩
    -- the failure of reading the body is the failure of setting the response aside
    rw [asideResult, hdrain] at haside
    cases haside
    exact ⟨rfl, hresult⟩
  | passed h hr hentered haside hlater =>
    cases hresponse.symm.trans h
    rw [hentered]
    refine .inr ⟨hr, closedBy_asideEntries_iff response level _ number total, fun cause hdrain => ?_⟩
    -- a body that cannot be read would have ended the call
    rw [asideResult, hdrain] at haside
    cases haside

/-- Every exchange of a call ends, from the one with the given number on. Without an exchange the
call fails. -/
structure AllEnd (level : Level) (next : Carrier σ) (result : Except Fault Response)
    (total number : Nat) (exchanges : List (Exchange σ)) : Prop where
  failed : exchanges = [] → ∃ fault, result = .error fault
  ends : ∀ before e later, exchanges = before ++ e :: later →
    Ends level next result total (number + before.length) e later

theorem AllEnd.nil {fault : Fault} (h : result = .error fault) (total number : Nat) :
    AllEnd level next result total number [] :=
  ⟨fun _ => ⟨fault, h⟩, fun before e later heq => by simp at heq⟩

theorem AllEnd.cons {total number : Nat} {e : Exchange σ}
    (he : Ends level next result total number e exchanges)
    (h : ∀ before e later, exchanges = before ++ e :: later →
      Ends level next result total (number + 1 + before.length) e later) :
    AllEnd level next result total number (e :: exchanges) := by
  refine ⟨by simp, fun before e' later heq => ?_⟩
  rcases List.append_eq_cons_iff.mp heq.symm with ⟨rfl, hc⟩ | ⟨rest, rfl, hrest⟩
  · cases hc
    exact he
  · rw [List.length_cons, Nat.add_comm rest.length, ← Nat.add_assoc]
    exact h rest e' later hrest

/-- The only exchange that is left. -/
theorem AllEnd.single {total number : Nat} {e : Exchange σ}
    (he : Ends level next result total number e []) :
    AllEnd level next result total number [e] :=
  .cons he fun before e later heq => by simp at heq

/-! ## The exchanges of a course -/

/-- Attempts come to exchanges that send the same requests, that make the same entries in the
journal, and whose responses are all settled. -/
def ComeTo (level : Level) (next : Carrier σ) (result : Except Fault Response)
    (made : List (Made σ)) (exchanges : List (Exchange σ)) : Prop :=
  sendsOf made = exchanges.map (·.sent.request) ∧
  entriesOf level next made =
    exchanges.flatMap (fun e => (next level e.sent).journal ++ e.entered) ∧
  AllSettled level next result exchanges

/-- An attempt that sends its request is an exchange. -/
theorem ComeTo.cons {a : Attempt σ} {sent : Line σ} {aside : List Mark} {made : List (Made σ)}
    (hsends : a.sends = [sent.request])
    (hentries : a.entries level next = (next level sent).journal)
    (hsettled : ∀ response, (next level sent).result = .ok response →
      Settled level result response aside exchanges)
    (h : ComeTo level next result made exchanges) :
    ComeTo level next result (⟨a, aside⟩ :: made) (⟨sent, aside⟩ :: exchanges) := by
  obtain ⟨hsent, hentered, hrest⟩ := h
  refine ⟨?_, ?_, .cons hsettled hrest⟩
  · rw [sendsOf, List.flatMap_cons, hsends, ← sendsOf, hsent]
    rfl
  · rw [entriesOf, List.flatMap_cons, hentries, ← entriesOf, hentered]
    rfl

/-- The attempt whose answer is the answer of the call. -/
theorem comeTo_final {a : Attempt σ} (ha : a.Reaches level next) {total number : Nat}
    (hfinal : number = total ∨
      ∀ response, a.answer = .ok response → ¬ response.isRejection = true) :
    ∃ exchanges, ComeTo level next a.answer [⟨a, []⟩] exchanges ∧
      AllEnd level next a.answer total number exchanges := by
  rcases ha with ⟨fault, hanswer, hsends, hentries⟩ | ⟨sent, hanswer, -, hsends, hentries⟩
  · exact ⟨[], ⟨by simp [sendsOf, hsends], by simp [entriesOf, hentries], .nil⟩,
      .nil hanswer total number⟩
  · have hends : Ends level next a.answer total number ⟨sent, []⟩ [] :=
      .answered rfl hanswer hfinal
    exact ⟨_, .cons hsends hentries (fun _ h => hends.settled h) ⟨rfl, rfl, .nil⟩, .single hends⟩

/-- The attempts of a course come to exchanges. The induction is on the course; the numbers of the
attempts that are left go up to the number of all candidates. -/
theorem Course.comeTo {total number : Nat} {all : List (Attempt σ)} {finish : Line σ}
    {made : List (Made σ)} (h : Course level total number all result finish made)
    (hall : ∀ a ∈ all, a.Reaches level next) (hnumber : number + all.length = total + 1) :
    ∃ exchanges, ComeTo level next result made exchanges ∧
      AllEnd level next result total number exchanges := by
  induction h with
  | last a => exact comeTo_final (hall a (by simp)) (.inl (by simpa using hnumber))
  | @settled _ a later h => exact comeTo_final (hall a (by simp)) (.inr h)
  | @stuck number a later response fault hlater hanswer hr haside =>
    rcases hall a (by simp) with ⟨cause, hfault, -⟩ | ⟨sent, hsent, hfinish, hsends, hentries⟩
    · rw [hanswer] at hfault
      cases hfault
    · rw [hanswer] at hsent
      have hmore := List.length_pos_iff.mpr hlater
      have hends : Ends level next (.error fault) total number
          ⟨sent, asideEntries level a.finish.request response number total⟩ [] :=
        .stuck hsent.symm hr (by rw [hfinish]) haside rfl
          (by rw [List.length_cons] at hnumber; omega)
      exact ⟨_, .cons hsends hentries (fun _ h => hends.settled h) ⟨rfl, rfl, .nil⟩,
        .single hends⟩
  | @passed number a later response result finish made hanswer hr haside hlater ih =>
    rcases hall a (by simp) with ⟨cause, hfault, -⟩ | ⟨sent, hsent, hfinish, hsends, hentries⟩
    · rw [hanswer] at hfault
      cases hfault
    · obtain ⟨exchanges, hrest, hfailed, hlast⟩ := ih (fun b hb => hall b (by simp [hb]))
        (by rw [List.length_cons] at hnumber; omega)
      rw [hanswer] at hsent
      have hmore := List.length_pos_iff.mpr hlater.ne_nil
      have hends : Ends level next result total number
          ⟨sent, asideEntries level a.finish.request response number total⟩ exchanges :=
        .passed hsent.symm hr (by rw [hfinish]) haside hfailed
          (by rw [List.length_cons] at hnumber; omega)
      exact ⟨_, .cons hsends hentries (fun _ h => hends.settled h) hrest, .cons hends hlast⟩

end

/-! ## Whole calls -/

/-- A call consists of exchanges, which all end, and so every response is settled. There can be as
many exchanges as it has candidates, and if it returns it has some. -/
theorem exchanges_all_end (layer : Layer σ) (next : Carrier σ) (level : Level) (line : Line σ) :
    let run := layer.send next level line
    let sends := (layer.watch.send (watch next) level (line.watched [] [])).state.peer.sends
    ∃ exchanges : List (Exchange σ),
      sends = exchanges.map (·.sent.request) ∧
      run.journal = (layer.gather level line.peer).journal ++
        exchanges.flatMap (fun e => (next level e.sent).journal ++ e.entered) ∧
      AllSettled level next run.result exchanges ∧
      ∃ total, AllEnd level next run.result total 1 exchanges ∧
        (∀ candidates, (layer.gather level line.peer).result = .ok candidates →
          total = candidates.toList.length) ∧
        ∀ response, run.result = .ok response →
          ∃ candidates, (layer.gather level line.peer).result = .ok candidates := by
  have hgoes := layer.goes next level line
  generalize layer.send next level line = run at hgoes ⊢
  generalize (layer.watch.send (watch next) level (line.watched [] [])).state.peer.sends = sends
    at hgoes ⊢
  cases hgoes with
  | unsupplied hgather =>
    refine ⟨[], rfl, by simp [hgather], .nil, 0, .nil rfl 0 1, fun _ h => ?_, fun _ h => by cases h⟩
    rw [hgather] at h
    cases h
  | @unreadable candidates fault peer journal hgather hheader =>
    refine ⟨[], rfl, by simp [hgather], .nil, candidates.toList.length, .nil rfl _ 1,
      fun _ h => ?_, fun _ h => by cases h⟩
    rw [hgather] at h
    cases h
    rfl
  | @course candidates entry peer journal run made hgather hheader hcourse hjournal =>
    obtain ⟨exchanges, ⟨hsent, hentered, hsettled⟩, hends⟩ := hcourse.comeTo
      (fun a ha => Attempt.reaches_of_mem_series ha) (by rw [Attempt.length_series, Nat.add_comm])
    refine ⟨exchanges, hsent, ?_, hsettled, _, hends, fun _ h => ?_, fun _ _ => ⟨candidates, ?_⟩⟩
    · rw [hjournal, hentered, hgather]
    · rw [hgather] at h
      cases h
      rfl
    · rw [hgather]

/-- A call consists of exchanges, and every response is settled. -/
theorem exchanges_of_send (layer : Layer σ) (next : Carrier σ) (level : Level) (line : Line σ) :
    let run := layer.send next level line
    let sends := (layer.watch.send (watch next) level (line.watched [] [])).state.peer.sends
    ∃ exchanges : List (Exchange σ),
      sends = exchanges.map (·.sent.request) ∧
      run.journal = (layer.gather level line.peer).journal ++
        exchanges.flatMap (fun e => (next level e.sent).journal ++ e.entered) ∧
      AllSettled level next run.result exchanges := by
  obtain ⟨exchanges, hsends, hjournal, hsettled, -⟩ := exchanges_all_end layer next level line
  exact ⟨exchanges, hsends, hjournal, hsettled⟩

/-- Every response that a relay receives in a call, in either mode and from any carrier, is the one
that it returns, as it came; or it is a rejection that is closed before anything else is sent; or
it is a rejection whose body cannot be read, and then it stays open unless it came closed, and the
failure ends the call. So none is left open if and only if those that are not returned came closed
or can be read. -/
theorem closed_iff_read (layer : Layer σ) (next : Carrier σ) (level : Level) (line : Line σ) :
    let run := layer.send next level line
    let sends := (layer.watch.send (watch next) level (line.watched [] [])).state.peer.sends
    ∃ exchanges : List (Exchange σ),
      sends = exchanges.map (·.sent.request) ∧
      run.journal = (layer.gather level line.peer).journal ++
        exchanges.flatMap (fun e => (next level e.sent).journal ++ e.entered) ∧
      AllSettled level next run.result exchanges ∧
      (NoneLeftOpen level next run.result exchanges ↔
        ∀ before e later response, exchanges = before ++ e :: later →
          (next level e.sent).result = .ok response →
            (later = [] ∧ run.result = .ok response) ∨ response.closed = true ∨
              (Response.drain level response).result = .ok ()) := by
  obtain ⟨exchanges, hsends, hjournal, hsettled⟩ := exchanges_of_send layer next level line
  exact ⟨exchanges, hsends, hjournal, hsettled, hsettled.noneLeftOpen_iff⟩

/-- A rejection whose body cannot be read. -/
def unreadable : Response :=
  Response.streaming 1 401 { entries := [] } (Text.Utf8.encode "no") (some { kind := .read })

/-- A rejected response whose body cannot be read is left open, in both modes: the carrier has
handed it over, it is not returned, and nothing closes it. -/
theorem left_open_of_unread :
    let run := Layer.send ⟨.blocking, "h", pure twoTokens⟩ replay .warning
      ⟨rootOf "h", [.ok unreadable, answerOf 200 "text/plain"]⟩
    Layer.send ⟨.stepwise, "h", pure twoTokens⟩ replay .warning
      ⟨rootOf "h", [.ok unreadable, answerOf 200 "text/plain"]⟩ = run ∧
    run.state.peer = [answerOf 200 "text/plain"] ∧
    run.result = .error (.given { kind := .read }) ∧ run.journal = [.event (.read 1)] ∧
    ¬ unreadable.ClosedBy run.journal := by
  have hjournal : (Layer.send ⟨.blocking, "h", pure twoTokens⟩ replay .warning
      ⟨rootOf "h", [.ok unreadable, answerOf 200 "text/plain"]⟩).journal =
      [.event (.read 1)] := rfl
  refine ⟨by rw [Layer.send_eq, Layer.send_eq], rfl, rfl, hjournal, ?_⟩
  rintro (hcame | hclosed)
  · cases hcame
  · rw [hjournal] at hclosed
    simp at hclosed

end Relay
end AuthRelay
