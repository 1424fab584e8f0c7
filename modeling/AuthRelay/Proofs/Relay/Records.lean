import AuthRelay.Proofs.Thresholds
/-!
# What a call records

When everything is recorded, a relay records each rejection that it passes over, after it has closed
the response and before it sends anything else. A record tells the attempt by its number and quotes
the whole body as text; nothing else that a call does is recorded by the relay. So the numbers run
from one on without a gap. A body that has no text, because nobody can tell in which encoding it is,
leaves no record: the failure to find the text ends the call.
-/
namespace AuthRelay.Relay

variable {σ : Type}

/-- A response that should be recorded: it is a rejection, it does not answer the last candidate,
and its body can be read. -/
structure Due (number total : Nat) (r : Response) : Prop where
  rejected : r.status = 401 ∨ r.status = 403
  notLast : number < total
  read : (Response.readBody .debug r).result = .ok r.body

/-- What the record of a rejection says: the method and the URL of the request as they are by then,
the status, the number of the attempt out of how many, and the body as text. -/
structure Reports (record : Record) (request : Request) (r : Response) (number total : Nat)
    (body : String) : Prop where
  level : record.level = .debug
  channel : record.channel = .relay
  text : record.text = "Request " ++ request.method ++ " " ++ request.url.render ++
    " rejected with " ++ toString r.status ++ " (credentials " ++ toString number ++ "/" ++
    toString total ++ "), trying next credentials. Response body: " ++ body

/-- The relay records the response of an exchange: its dealings with the response leave that closed,
and the record comes after them, before the next send. -/
def Recorded (next : Carrier σ) (total number : Nat) (e : Exchange σ) (r : Response) : Prop :=
  ∃ (dealings : List Event) (record : Record) (body : String),
    e.entered = dealings.map .event ++ [.record record] ∧ r.ClosedBy (dealings.map .event) ∧
    r.bodyText = .ok body ∧ Reports record (next .debug e.sent).state.request r number total body

/-- What the relay records of an exchange, and the exchanges that come later. -/
inductive Traced (next : Carrier σ) (result : Except Fault Response) (total number : Nat)
    (e : Exchange σ) : List (Exchange σ) → Prop
  /-- The response is due, and it is recorded. -/
  | recorded {r : Response} {later : List (Exchange σ)} (h : (next .debug e.sent).result = .ok r)
      (hdue : Due number total r) (hrecorded : Recorded next total number e r) :
    Traced next result total number e later
  /-- No response is due, and nothing is recorded. -/
  | unrecorded (h : ∀ r, (next .debug e.sent).result = .ok r → ¬ Due number total r)
      (hnone : recordsOf e.entered = []) :
    Traced next result total number e []
  /-- The response is due, but its body has no text, and that ends the call. -/
  | textless {r : Response} {fault : Fault} (h : (next .debug e.sent).result = .ok r)
      (hdue : Due number total r) (htext : r.bodyText = .error fault)
      (hresult : result = .error fault) (hnone : recordsOf e.entered = []) :
    Traced next result total number e []

/-- How the exchanges of a call are recorded. -/
structure RecordedInTurn (next : Carrier σ) (result : Except Fault Response) (total : Nat)
    (exchanges : List (Exchange σ)) : Prop where
  /-- Each of them is recorded at its place, or is the last one and leaves no record. -/
  traced : ∀ before e later, exchanges = before ++ e :: later →
    Traced next result total (before.length + 1) e later
  /-- The first record is of the first attempt, the second of the second, and so on. -/
  numbered : ∀ i record, (exchanges.flatMap fun e => recordsOf e.entered)[i]? = some record →
    ∃ e r body, exchanges[i]? = some e ∧ (next .debug e.sent).result = .ok r ∧
      Due (i + 1) total r ∧ r.bodyText = .ok body ∧
      Reports record (next .debug e.sent).state.request r (i + 1) total body
  /-- Nothing at all is entered after the response that is returned. -/
  returned : ∀ r, result = .ok r →
    ∃ before e, exchanges = before ++ [e] ∧ (next .debug e.sent).result = .ok r ∧ e.entered = []

/-- The responses that are recorded are exactly those that are due. -/
def ExactlyRecorded (next : Carrier σ) (total : Nat) (exchanges : List (Exchange σ)) : Prop :=
  ∀ before e later, exchanges = before ++ e :: later →
    (∀ r, (next .debug e.sent).result = .ok r → Due (before.length + 1) total r →
      Recorded next total (before.length + 1) e r) ∧
    ((∀ r, (next .debug e.sent).result = .ok r → ¬ Due (before.length + 1) total r) →
      recordsOf e.entered = [])

/-! ## The entries of one exchange -/

section

variable {request : Request} {r : Response} {number total : Nat} {fault : Fault}

theorem recordsOf_events (events : List Event) : recordsOf (events.map .event) = [] := by
  simp [recordsOf, Mark.record?]

/-- Reading and closing a response leaves no record, whether it succeeds or not. -/
theorem recordsOf_drain (level : Level) (r : Response) :
    recordsOf (Response.drain level r).journal = [] := by
  obtain ⟨serial, status, headers, body, failure, phase, closed⟩ := r
  cases phase with
  | spent => rfl
  | loaded => cases closed <;> rfl
  | pending => cases closed <;> cases failure <;> rfl

theorem status_drain (level : Level) (r : Response) :
    (Response.drain level r).state.status = r.status := by
  obtain ⟨serial, status, headers, body, failure, phase, closed⟩ := r
  cases phase with
  | spent => rfl
  | loaded => cases closed <;> rfl
  | pending => cases closed <;> cases failure <;> rfl

theorem recordsOf_asideEntries_of_unread
    (hdrain : (Response.drain .debug r).result = .error fault) :
    recordsOf (asideEntries .debug request r number total) = [] := by
  simp only [asideEntries, hdrain, List.append_nil, recordsOf_drain]

theorem recordsOf_asideEntries_of_textless (hdrain : (Response.drain .debug r).result = .ok ())
    (htext : r.bodyText = .error fault) :
    recordsOf (asideEntries .debug request r number total) = [] := by
  have hpasses : Level.debug.passes .debug = true := rfl
  have hfound := Response.text_drain hdrain
  rw [htext] at hfound
  simp only [asideEntries, hdrain, hfound, hpasses, List.append_nil, recordsOf_drain]

/-- A rejection that is set aside is discharged, then recorded. -/
theorem recorded_of_aside {next : Carrier σ} {e : Exchange σ}
    (hentered : e.entered =
      asideEntries .debug (next .debug e.sent).state.request r number total)
    (haside : asideResult .debug r = .ok ()) : Recorded next total number e r := by
  have hreadable := readable_of_aside haside
  have hdrain := (r.drain_eq_ok_iff .debug).mpr hreadable
  have hjournal := Response.journal_drain hreadable .debug
  have htext := Response.text_drain hdrain
  cases hbody : r.bodyText with
  | error fault =>
    -- the text is needed to set the response aside
    simp [asideResult, hdrain, htext, hbody, Except.map, Level.passes] at haside
  | ok body =>
    refine ⟨r.dischargeEvents, ⟨.debug, .relay, rejectionText (next .debug e.sent).state.request
      (Response.drain .debug r).state number total body⟩, body, ?_, ?_, hbody, ⟨rfl, rfl, ?_⟩⟩
    · have hpasses : Level.debug.passes .debug = true := rfl
      rw [hbody] at htext
      simp only [hentered, asideEntries, hdrain, htext, hjournal, hpasses]
    · have hclosed := (r.closedBy_drain_iff .debug).mpr (.inr hdrain)
      rwa [hjournal] at hclosed
    · unfold rejectionText
      rw [status_drain]

end

/-! ## All exchanges of a call -/

section

variable {next : Carrier σ} {result : Except Fault Response} {total number : Nat} {e : Exchange σ}
  {later exchanges : List (Exchange σ)}

theorem Recorded.exists_record {r : Response} (h : Recorded next total number e r) :
    ∃ record body, recordsOf e.entered = [record] ∧ r.bodyText = .ok body ∧
      Reports record (next .debug e.sent).state.request r number total body := by
  obtain ⟨dealings, record, body, hentered, -, hbody, hreports⟩ := h
  refine ⟨record, body, ?_, hbody, hreports⟩
  rw [hentered, recordsOf_append, recordsOf_events]
  rfl

/-- Every way in which an exchange can end leaves its trace. -/
theorem Ends.traced (h : Ends .debug next result total number e later) :
    Traced next result total number e later := by
  cases h with
  | answered hentered hresult hfinal =>
    refine .unrecorded (fun r hr hdue => ?_) (by rw [hentered]; rfl)
    rcases hfinal with hlast | haccepted
    · exact absurd hdue.notLast (by omega)
    · exact haccepted r (hresult.trans hr) (r.isRejection_iff.mpr hdue.rejected)
  | @stuck r fault hr hrejected hentered haside hresult hnumber =>
    rcases asideResult_cases .debug r with
      ⟨cause, hdrain, -⟩ | ⟨hdrain, -, cause, htext, hcause⟩ | ⟨-, -, hok⟩
    · -- the body cannot be read, so nothing is due
      refine .unrecorded (fun other hother hdue => ?_) ?_
      · cases hr.symm.trans hother
        have hreadable := (r.readBody_eq_ok_iff .debug).mp hdue.read
        rw [(r.drain_eq_ok_iff .debug).mpr hreadable] at hdrain
        cases hdrain
      · rw [hentered]
        exact recordsOf_asideEntries_of_unread hdrain
    · cases haside.symm.trans hcause
      rw [Response.text_drain hdrain] at htext
      have hread := (r.readBody_eq_ok_iff .debug).mpr ((r.drain_eq_ok_iff .debug).mp hdrain)
      refine .textless hr ⟨r.isRejection_iff.mp hrejected, hnumber, hread⟩ htext hresult ?_
      rw [hentered]
      exact recordsOf_asideEntries_of_textless hdrain htext
    · rw [hok] at haside
      cases haside
  | @passed r _ hr hrejected hentered haside _ hnumber =>
    have hread := (r.readBody_eq_ok_iff .debug).mpr (readable_of_aside haside)
    exact .recorded hr ⟨r.isRejection_iff.mp hrejected, hnumber, hread⟩
      (recorded_of_aside hentered haside)

/-- The records have the numbers of their attempts, without a gap: only the last exchange can be
without one. -/
theorem numbered_of_traced
    (h : ∀ before e later, exchanges = before ++ e :: later →
      Traced next result total (number + before.length) e later)
    {i : Nat} {record : Record}
    (hrecord : (exchanges.flatMap fun e => recordsOf e.entered)[i]? = some record) :
    ∃ e r body, exchanges[i]? = some e ∧ (next .debug e.sent).result = .ok r ∧
      Due (number + i) total r ∧ r.bodyText = .ok body ∧
      Reports record (next .debug e.sent).state.request r (number + i) total body := by
  induction exchanges generalizing number i with
  | nil => simp at hrecord
  | cons e rest ih =>
    rw [List.flatMap_cons] at hrecord
    cases h [] e rest rfl with
    | unrecorded _ hnone => simp [hnone] at hrecord
    | textless _ _ _ _ hnone => simp [hnone] at hrecord
    | @recorded r _ hr hdue hrecorded =>
      obtain ⟨first, body, hfirst, hbody, hreports⟩ := hrecorded.exists_record
      rw [hfirst] at hrecord
      cases i with
      | zero =>
        cases hrecord
        exact ⟨e, r, body, rfl, hr, hdue, hbody, hreports⟩
      | succ i =>
        have hrest : ∀ before e' later, rest = before ++ e' :: later →
            Traced next result total (number + 1 + before.length) e' later := by
          intro before e' later heq
          have hshift := h (e :: before) e' later (by rw [heq]; rfl)
          rwa [List.length_cons, Nat.add_comm before.length, ← Nat.add_assoc] at hshift
        have hfound := ih hrest hrecord
        rwa [Nat.add_assoc, Nat.add_comm 1 i] at hfound

/-- Exchanges that all end are recorded in turn. -/
theorem AllEnd.recordedInTurn (h : AllEnd .debug next result total 1 exchanges) :
    RecordedInTurn next result total exchanges where
  traced before e later heq := by
    rw [Nat.add_comm]
    exact (h.ends before e later heq).traced
  numbered i record hrecord := by
    rw [Nat.add_comm]
    exact numbered_of_traced (fun before e later heq => (h.ends before e later heq).traced) hrecord
  returned r hr := by
    obtain ⟨before, e, heq, hresponse, hentered, -⟩ := h.disciplined.returned r hr
    exact ⟨before, e, heq, hresponse, hentered⟩

/-- Every response that is due is recorded, if and only if their bodies all have a text. -/
theorem RecordedInTurn.exactlyRecorded_iff (h : RecordedInTurn next result total exchanges) :
    ExactlyRecorded next total exchanges ↔
      ∀ before e later r, exchanges = before ++ e :: later → (next .debug e.sent).result = .ok r →
        Due (before.length + 1) total r → ∃ body, r.bodyText = .ok body := by
  constructor
  · intro hexact before e later r heq hr hdue
    obtain ⟨record, body, -, hbody, -⟩ := ((hexact before e later heq).1 r hr hdue).exists_record
    exact ⟨body, hbody⟩
  · intro htexts before e later heq
    cases h.traced before e later heq with
    | recorded hr hdue hrecorded =>
      refine ⟨fun other hother _ => ?_, fun hnot => absurd hdue (hnot _ hr)⟩
      cases hr.symm.trans hother
      exact hrecorded
    | unrecorded hnot hnone => exact ⟨fun r hr hdue => absurd hdue (hnot r hr), fun _ => hnone⟩
    | textless hr hdue htext =>
      obtain ⟨body, hbody⟩ := htexts before e _ _ heq hr hdue
      rw [htext] at hbody
      cases hbody

end

/-! ## Whole calls -/

/-- At the lowest threshold a call with candidates, in either mode and behind any carrier, records
the rejections that it passes over, each when it has closed the response and before it sends
anything else, with the number of the attempt and the whole text of the body. Nothing is recorded of
the response that is returned, of another status, or of an attempt that fails, and the numbers run
from one on without a gap. The exception is a body that has no text, and the failure to find it ends
the call; so a call records all that is due if and only if the text of all that is due can be
found. -/
theorem rejections_recorded (layer : Layer σ) (next : Carrier σ) {line : Line σ}
    {candidates : Candidates} (hgather : (layer.gather .debug line.peer).result = .ok candidates) :
    let run := layer.send next .debug line
    let sends := (layer.watch.send (watch next) .debug (line.watched [] [])).state.peer.sends
    let total := candidates.toList.length
    ∃ exchanges : List (Exchange σ),
      sends = exchanges.map (·.sent.request) ∧
      run.journal = (layer.gather .debug line.peer).journal ++
        exchanges.flatMap (fun e => (next .debug e.sent).journal ++ e.entered) ∧
      RecordedInTurn next run.result total exchanges ∧
      (ExactlyRecorded next total exchanges ↔
        ∀ before e later r, exchanges = before ++ e :: later → (next .debug e.sent).result = .ok r →
          Due (before.length + 1) total r → ∃ body, r.bodyText = .ok body) := by
  obtain ⟨exchanges, hsends, hjournal, -, total, hends, htotal, -⟩ :=
    exchanges_all_end layer next .debug line
  rw [htotal candidates hgather] at hends
  have hrecorded := hends.recordedInTurn
  exact ⟨exchanges, hsends, hjournal, hrecorded, hrecorded.exactlyRecorded_iff⟩

/-- Two tokens, one rejected: there is one record. -/
theorem rejections_recorded_two_tokens :
    let line : Line (List (Except Fault Response)) :=
      ⟨rootOf "h", [answerOf 401 "text/plain", answerOf 200 "text/plain"]⟩
    let layer : Layer (List (Except Fault Response)) := ⟨.stepwise, "h", pure twoTokens⟩
    let run := layer.send replay .debug line
    let sends := (layer.watch.send (watch replay) .debug (line.watched [] [])).state.peer.sends
    (layer.gather .debug line.peer).result = .ok twoTokens ∧
    recordsOf run.journal = [⟨.debug, .relay, "Request GET http://h/ rejected with 401 " ++
      "(credentials 1/2), trying next credentials. Response body: no"⟩] ∧
    ∃ exchanges, sends = exchanges.map (·.sent.request) ∧
      RecordedInTurn replay run.result 2 exchanges := by
  have hgather : ((⟨.stepwise, "h", pure twoTokens⟩ : Layer _).gather .debug
      (⟨rootOf "h", [answerOf 401 "text/plain", answerOf 200 "text/plain"]⟩ : Line _).peer).result =
      .ok twoTokens := rfl
  obtain ⟨exchanges, hsends, -, hrecorded, -⟩ := rejections_recorded _ replay hgather
  exact ⟨hgather, rfl, exchanges, hsends, hrecorded⟩

/-- A rejection leaves no record though its body has been read, and there is no other attempt: the
two forms in which the content type gives a parameter cannot be put in order, so the body has no
text. -/
theorem not_recorded_of_no_text :
    let line : Line (List (Except Fault Response)) :=
      ⟨rootOf "h", [answerOf 401 "text/plain; a*=1; a*0=2", answerOf 200 "text/plain"]⟩
    let layer : Layer (List (Except Fault Response)) := ⟨.blocking, "h", pure twoTokens⟩
    let run := layer.send replay .debug line
    let sends := (layer.watch.send (watch replay) .debug (line.watched [] [])).state.peer.sends
    run.result = .error (.contentType (.mixedSections false)) ∧
    run.journal = [.event (.read 1), .event (.close 1)] ∧
    ∃ sent, sends = [sent] ∧
      ¬ ExactlyRecorded replay twoTokens.toList.length [⟨⟨sent, line.peer⟩, run.journal⟩] := by
  refine ⟨rfl, rfl, _, rfl, fun hexact => ?_⟩
  obtain ⟨hrecorded, -⟩ := hexact [] _ [] rfl
  obtain ⟨record, -, hrecord, -⟩ := (hrecorded _ rfl ⟨.inl rfl, by decide, rfl⟩).exists_record
  cases hrecord

end AuthRelay.Relay
