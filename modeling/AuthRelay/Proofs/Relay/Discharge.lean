import AuthRelay.Proofs.Relay.Responses
/-!
# How responses are discharged

A relay discharges every rejected response before it sends anything else: it reads the body to its
end and closes the stream, once. Reading to the end closes the stream already, a response in memory
has none, and the response that is returned is not touched at all. So at any moment of a call at
most one of the responses that it has received is open, and none while something is being sent.
-/
namespace AuthRelay

namespace Response

/-- Nothing stands in the way of the body: it is in memory, or its stream gives all of it. -/
def Readable (r : Response) : Prop :=
  r.phase = .loaded ∨ r.phase = .pending ∧ r.closed = false ∧ r.failure = none

/-- The events of reading a body to its end and closing the stream. Nothing has to be drawn if the
body is in memory, and nothing to be closed if the response came closed. -/
def dischargeEvents (r : Response) : List Event :=
  (if r.phase = .pending then [.read r.serial] else []) ++
    if r.closed then [] else [.close r.serial]

/-- A body gives the whole of its octets if and only if it can be read. -/
theorem readBody_eq_ok_iff (r : Response) (level : Level) :
    (readBody level r).result = .ok r.body ↔ r.Readable := by
  obtain ⟨serial, status, headers, body, failure, phase, closed⟩ := r
  cases phase with
  | loaded => simp [readBody, Readable]
  | spent => simp [readBody, Readable]
  | pending => cases closed <;> cases failure <;> simp [readBody, Readable]

theorem drain_eq_ok_iff (r : Response) (level : Level) :
    (drain level r).result = .ok () ↔ r.Readable := by
  obtain ⟨serial, status, headers, body, failure, phase, closed⟩ := r
  cases phase with
  | loaded => cases closed <;> simp [drain, readBody, close, Readable, bind, Act.bind]
  | spent => simp [drain, readBody, Readable, bind, Act.bind]
  | pending =>
    cases closed <;> cases failure <;>
      simp [drain, readBody, close, Readable, bind, Act.bind]

theorem journal_drain {r : Response} (h : r.Readable) (level : Level) :
    (drain level r).journal = r.dischargeEvents.map .event := by
  obtain ⟨serial, status, headers, body, failure, phase, closed⟩ := r
  rcases h with h | ⟨h, hclosed, hfailure⟩
  · cases h
    cases closed <;> simp [drain, readBody, close, dischargeEvents, bind, Act.bind]
  · cases h
    cases hclosed
    cases hfailure
    simp [drain, readBody, close, dischargeEvents, bind, Act.bind]

/-- A response has been discharged: its whole body has been read, and the dealings with it are those
of reading it to its end and closing it. -/
structure Discharged (r : Response) (level : Level) (entered : List Mark) : Prop where
  whole : (readBody level r).result = .ok r.body
  events : eventsOf entered = r.dischargeEvents

/-- The stream has been closed exactly once, unless the response came closed. -/
theorem Discharged.count_close {r : Response} {level : Level} {entered : List Mark}
    (h : r.Discharged level entered) :
    (eventsOf entered).count (.close r.serial) = if r.closed then 0 else 1 := by
  rw [h.events, dischargeEvents]
  cases r.closed <;> cases r.phase <;> simp

theorem Discharged.closedBy {r : Response} {level : Level} {entered : List Mark}
    (h : r.Discharged level entered) : r.ClosedBy entered := by
  have hcount := h.count_close
  cases hc : r.closed with
  | true => exact .inl hc
  | false =>
    rw [hc] at hcount
    have hmem : Event.close r.serial ∈ eventsOf entered :=
      List.count_pos_iff.mp (by rw [hcount]; decide)
    obtain ⟨mark, hmark, hevent⟩ := List.mem_filterMap.mp hmem
    cases mark with
    | event e =>
      cases hevent
      exact .inr hmark
    | record r => cases hevent

end Response

namespace Relay

variable {σ : Type}

/-- A rejection that can be read is discharged when it is set aside, also if it cannot be
recorded. -/
theorem discharged_asideEntries {response : Response} (h : response.Readable) (level : Level)
    (request : Request) (number total : Nat) :
    response.Discharged level (asideEntries level request response number total) := by
  refine ⟨(response.readBody_eq_ok_iff level).mpr h, ?_⟩
  have hevents : eventsOf (response.dischargeEvents.map Mark.event) = response.dischargeEvents := by
    simp [eventsOf, List.filterMap_map, Function.comp_def, Mark.event?]
  unfold asideEntries
  dsimp only
  rw [Response.journal_drain h, eventsOf_append, hevents]
  split <;> simp [eventsOf, Mark.event?]

theorem readable_of_aside {level : Level} {response : Response}
    (h : asideResult level response = .ok ()) : response.Readable := by
  rw [← response.drain_eq_ok_iff level]
  rcases asideResult_cases level response with
    ⟨fault, -, hfault⟩ | ⟨hdrain, -⟩ | ⟨hdrain, -⟩
  · rw [h] at hfault
    cases hfault
  · exact hdrain
  · exact hdrain

/-- The responses that have been received in some exchanges and are open after them. -/
def stillOpen (level : Level) (next : Carrier σ) (exchanges : List (Exchange σ)) :
    List Response :=
  exchanges.filterMap fun e =>
    match (next level e.sent).result with
    | .ok response =>
      if response.closed || e.entered.contains (.event (.close response.serial)) then none
      else some response
    | .error _ => none

/-- How far a call has come at some moment: some of its exchanges, the last of them with as much as
has been entered in the journal by then. -/
def Reached (exchanges soFar : List (Exchange σ)) : Prop :=
  ∃ before e later entered rest, exchanges = before ++ e :: later ∧ e.entered = entered ++ rest ∧
    soFar = before ++ [⟨e.sent, entered⟩]

/-- How a call deals with the responses that it receives in some exchanges. -/
structure Disciplined (level : Level) (next : Carrier σ) (result : Except Fault Response)
    (exchanges : List (Exchange σ)) : Prop where
  /-- A response before the last one is a rejection, and it is discharged before the next send. -/
  earlier : ∀ before e later, exchanges = before ++ e :: later → later ≠ [] →
    ∃ response, (next level e.sent).result = .ok response ∧ response.isRejection = true ∧
      response.Discharged level e.entered
  /-- The last response is returned and left alone, or the call fails; then it is a rejection, and
  it is discharged if it can be read. -/
  last : ∀ before e response, exchanges = before ++ [e] →
    (next level e.sent).result = .ok response →
    (result = .ok response ∧ e.entered = []) ∨
    ((∃ fault, result = .error fault) ∧ response.isRejection = true ∧
      (response.Readable → response.Discharged level e.entered))
  /-- What is returned is the last response, as the carrier has handed it over. Reading it gives its
  whole body if that can be read. -/
  returned : ∀ response, result = .ok response →
    ∃ before e, exchanges = before ++ [e] ∧ (next level e.sent).result = .ok response ∧
      e.entered = [] ∧
      (response.Readable → (Response.readBody level response).result = .ok response.body)
  /-- While something is being sent, no response is open. -/
  sending : ∀ before e later, exchanges = before ++ e :: later → stillOpen level next before = []
  /-- At any moment at most one response is open. -/
  moment : ∀ soFar, Reached exchanges soFar → (stillOpen level next soFar).length ≤ 1

section

variable {level : Level} {next : Carrier σ} {result : Except Fault Response} {total number : Nat}
  {e : Exchange σ} {exchanges : List (Exchange σ)}

/-- An exchange after which there is another one was a rejection, and has been discharged. -/
theorem Ends.discharged (h : Ends level next result total number e exchanges)
    (hlater : exchanges ≠ []) :
    ∃ response, (next level e.sent).result = .ok response ∧ response.isRejection = true ∧
      response.Discharged level e.entered := by
  cases h with
  | answered => exact absurd rfl hlater
  | stuck => exact absurd rfl hlater
  | passed h hr hentered haside =>
    refine ⟨_, h, hr, ?_⟩
    rw [hentered]
    exact discharged_asideEntries (readable_of_aside haside) level _ number total

/-- The last response of a call is returned and left alone, or the call fails. -/
theorem Ends.returned_or_failed (h : Ends level next result total number e [])
    {response : Response} (hresponse : (next level e.sent).result = .ok response) :
    (result = .ok response ∧ e.entered = []) ∨
    ((∃ fault, result = .error fault) ∧ response.isRejection = true ∧
      (response.Readable → response.Discharged level e.entered)) := by
  cases h with
  | answered hentered hresult => exact .inl ⟨hresult.trans hresponse, hentered⟩
  | stuck h hr hentered haside hresult =>
    cases hresponse.symm.trans h
    refine .inr ⟨⟨_, hresult⟩, hr, fun hreadable => ?_⟩
    rw [hentered]
    exact discharged_asideEntries hreadable level _ number total
  | passed h hr hentered haside hfailed =>
    cases hresponse.symm.trans h
    refine .inr ⟨hfailed rfl, hr, fun hreadable => ?_⟩
    rw [hentered]
    exact discharged_asideEntries hreadable level _ number total

theorem stillOpen_append (front back : List (Exchange σ)) :
    stillOpen level next (front ++ back) = stillOpen level next front ++
      stillOpen level next back :=
  List.filterMap_append ..

theorem stillOpen_of_discharged
    (h : ∀ e ∈ exchanges, ∃ response, (next level e.sent).result = .ok response ∧
      response.Discharged level e.entered) : stillOpen level next exchanges = [] := by
  refine List.filterMap_eq_nil_iff.mpr fun e he => ?_
  obtain ⟨response, hresponse, hdischarged⟩ := h e he
  rw [hresponse]
  rcases hdischarged.closedBy with hclosed | hclosed <;> simp [hclosed]

/-- What has been exchanged before an exchange is all discharged. -/
theorem AllEnd.stillOpen_before (h : AllEnd level next result total number exchanges)
    {before later : List (Exchange σ)} (heq : exchanges = before ++ e :: later) :
    stillOpen level next before = [] := by
  refine stillOpen_of_discharged fun other hother => ?_
  obtain ⟨front, back, rfl⟩ := List.append_of_mem hother
  obtain ⟨response, hresponse, -, hdischarged⟩ :=
    (h.ends front other (back ++ e :: later) (by rw [heq]; simp)).discharged (by simp)
  exact ⟨response, hresponse, hdischarged⟩

/-- A call whose exchanges all end is disciplined. -/
theorem AllEnd.disciplined (h : AllEnd level next result total number exchanges) :
    Disciplined level next result exchanges where
  earlier before e later heq hlater := (h.ends before e later heq).discharged hlater
  last before e response heq hresponse := (h.ends before e [] heq).returned_or_failed hresponse
  returned response hresult := by
    rcases List.eq_nil_or_concat' exchanges with hnil | ⟨before, e, hlast⟩
    · obtain ⟨fault, hfault⟩ := h.failed hnil
      rw [hresult] at hfault
      cases hfault
    · have hreadable := (response.readBody_eq_ok_iff level).mpr
      cases h.ends before e [] hlast with
      | answered hentered hanswer =>
        exact ⟨before, e, hlast, hanswer.symm.trans hresult, hentered, hreadable⟩
      | stuck _ _ _ _ hfault =>
        rw [hresult] at hfault
        cases hfault
      | passed _ _ _ _ hfailed =>
        obtain ⟨fault, hfault⟩ := hfailed rfl
        rw [hresult] at hfault
        cases hfault
  sending before e later heq := h.stillOpen_before heq
  moment soFar hreached := by
    obtain ⟨before, e, later, entered, rest, heq, -, rfl⟩ := hreached
    -- all that can be open is the response of the last exchange
    rw [stillOpen_append, h.stillOpen_before heq, List.nil_append]
    exact List.length_filterMap_le _ _

end

/-! ## Whole calls -/

/-- In every call, in either mode and behind any carrier, a response before the last one is read to
its end and closed exactly once, after its own send and before the next one. At any moment at most
one response is open. And the response that is returned is the last one, neither read nor closed but
just as the carrier has handed it over. That holds of calls in which a body cannot be read too: such
a body belongs to the last response, and the call fails. -/
theorem responses_discharged (layer : Layer σ) (next : Carrier σ) (level : Level)
    (line : Line σ) :
    let run := layer.send next level line
    let sends := (layer.watch.send (watch next) level (line.watched [] [])).state.peer.sends
    ∃ exchanges : List (Exchange σ),
      sends = exchanges.map (·.sent.request) ∧
      run.journal = (layer.gather level line.peer).journal ++
        exchanges.flatMap (fun e => (next level e.sent).journal ++ e.entered) ∧
      Disciplined level next run.result exchanges := by
  obtain ⟨exchanges, hsends, hjournal, -, total, hends, -⟩ :=
    exchanges_all_end layer next level line
  exact ⟨exchanges, hsends, hjournal, hends.disciplined⟩

/-- Three tokens: a rejection in memory, one with a stream, and a response with a stream. Only the
second has anything to be read and closed, and the third is left alone. -/
example :
    let inMemory := Response.inMemory 1 401 { entries := [] } (Text.Utf8.encode "no")
    let streamed := Response.streaming 2 403 { entries := [] } (Text.Utf8.encode "no") none
    let returned := Response.streaming 3 200 { entries := [] } (Text.Utf8.encode "yes") none
    let layer : Layer (List (Except Fault Response)) := ⟨.blocking, "h",
      pure ⟨{ registryToken := "a" }, [{ registryToken := "b" }, { registryToken := "c" }]⟩⟩
    let run := layer.send replay .warning
      ⟨rootOf "h", [.ok inMemory, .ok streamed, .ok returned]⟩
    run.result = .ok returned ∧ run.journal = [.event (.read 2), .event (.close 2)] :=
  ⟨rfl, rfl⟩

end Relay
end AuthRelay
