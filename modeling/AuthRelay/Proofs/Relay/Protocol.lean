import AuthRelay.Proofs.Relay.Course
/-!
# The protocol of the attempts

Attempts are made with one candidate after another until the first whose response is not rejected;
the last candidate's response is final whatever it is. The protocol says where in the series of the
attempts that are possible a call stops, and what it answers. A call follows it exactly as long as
the rejections that it passes over can be recorded: the record needs the text of the body, and a
text that cannot be found ends the call.
-/
namespace AuthRelay.Relay

variable {σ : Type}

namespace Attempt

/-- Whether an attempt hands over to the next one: its response is rejected, and the body of the
response is read without a failure. -/
def PassedOn (level : Level) (a : Attempt σ) : Prop :=
  ∃ response, a.answer = .ok response ∧ response.isRejection = true ∧
    (Response.drain level response).result = .ok ()

/-- What an attempt before the last one makes of its answer: a rejected body is read first. -/
def verdict (level : Level) (a : Attempt σ) : Except Fault Response := do
  let response ← a.answer
  if response.isRejection then (Response.drain level response).result
  pure response

/-- The failure of recording a rejection: it is to be recorded, and its body has no text. -/
def Unrecorded (level : Level) (a : Attempt σ) (fault : Fault) : Prop :=
  Level.debug.passes level = true ∧ ∃ response, a.answer = .ok response ∧
    (Response.drain level response).state.text = .error fault

/-- The header for credentials at the send of an attempt. A request that is addressed to the target
just then carries what the candidate makes, or else the value that the call began with; any other
request is as the attempt found it. -/
def Credited (target : String) (entry : Option String) (a : Attempt σ) : Prop :=
  a.written = .ok () →
    (a.ready.request.AddressedTo target →
      a.ready.request.header authorization = .ok (a.candidate.authorization?.or entry)) ∧
    (¬ a.ready.request.AddressedTo target → a.ready.request = a.start.request.settle)

end Attempt

/-- The protocol, over the attempts that are possible: every attempt before the final one is passed
on, and the final one is the last of all or is not passed on. Its answer is the answer of the call,
and the requests that have been sent are those of the attempts up to it. -/
def Protocol (level : Level) (all : List (Attempt σ)) (result : Except Fault Response)
    (finish : Line σ) (sends : List Request) : Prop :=
  ∃ earlier final later, all = earlier ++ final :: later ∧
    (∀ a ∈ earlier, a.PassedOn level) ∧ (later = [] ∨ ¬ final.PassedOn level) ∧
    result = (if later = [] then final.answer else final.verdict level) ∧
    finish = final.finish ∧ sends = (earlier ++ [final]).flatMap Attempt.sends

/-- The one departure from the protocol: an attempt that should be passed on ends the call, with the
failure of recording it. -/
def Departure (level : Level) (all : List (Attempt σ)) (result : Except Fault Response)
    (finish : Line σ) (sends : List Request) : Prop :=
  ∃ earlier final later fault, all = earlier ++ final :: later ∧ later ≠ [] ∧
    (∀ a ∈ earlier ++ [final], a.PassedOn level) ∧ final.Unrecorded level fault ∧
    result = .error fault ∧ finish = final.finish ∧
    sends = (earlier ++ [final]).flatMap Attempt.sends

/-- Every rejection that the protocol passes over can be recorded. -/
def Recordable (level : Level) (all : List (Attempt σ)) : Prop :=
  ∀ earlier final later, all = earlier ++ final :: later → later ≠ [] →
    (∀ a ∈ earlier ++ [final], a.PassedOn level) → ∀ fault, ¬ final.Unrecorded level fault

/-! ## A single attempt -/

/-- At every send the header is the one that belongs there. -/
theorem credited_make (level : Level) (target : String) (entry : Option String)
    (next : Carrier σ) (candidate : CredentialSet) (start : Line σ) :
    (Attempt.make level target entry next candidate start).Credited target entry := by
  unfold Attempt.make Attempt.Credited
  dsimp only
  cases hr : (authorize target entry candidate level start).result with
  | error fault =>
    intro h
    cases h
  | ok _ =>
    intro _
    rcases authorize_cases hr with ⟨haddr, hheader⟩ | ⟨hnot, hready⟩
    · exact ⟨fun _ => hheader, fun h => absurd haddr h⟩
    · exact ⟨fun h => absurd h hnot, fun _ => hready⟩

theorem credited_of_mem_series {level : Level} {target : String} {entry : Option String}
    {next : Carrier σ} {candidates : List CredentialSet} {start : Line σ} {a : Attempt σ}
    (h : a ∈ Attempt.series level target entry next candidates start) :
    a.Credited target entry := by
  induction candidates generalizing start with
  | nil => simp [Attempt.series] at h
  | cons candidate rest ih =>
    rcases List.mem_cons.mp h with rfl | h
    · exact credited_make level target entry next candidate start
    · exact ih h

/-! ## What an attempt makes of its answer -/

namespace Attempt

variable {level : Level} {a : Attempt σ} {response : Response} {fault : Fault}

theorem verdict_of_error (h : a.answer = .error fault) :
    ¬ a.PassedOn level ∧ a.verdict level = .error fault := by
  constructor
  · simp [PassedOn, h]
  · simp [verdict, h, bind, Except.bind]

theorem verdict_of_accepted (h : a.answer = .ok response) (hr : ¬ response.isRejection = true) :
    ¬ a.PassedOn level ∧ a.verdict level = .ok response := by
  constructor
  · simp [PassedOn, h, hr]
  · simp [verdict, h, hr, bind, Except.bind, pure, Except.pure]

theorem verdict_of_unread (h : a.answer = .ok response) (hr : response.isRejection = true)
    (hdrain : (Response.drain level response).result = .error fault) :
    ¬ a.PassedOn level ∧ a.verdict level = .error fault := by
  constructor
  · simp [PassedOn, h, hdrain]
  · simp [verdict, h, hr, hdrain, bind, Except.bind]

theorem not_unrecorded (h : a.answer = .ok response)
    (htext : Level.debug.passes level = true →
      ∀ fault, (Response.drain level response).state.text ≠ .error fault) (fault : Fault) :
    ¬ a.Unrecorded level fault := by
  rintro ⟨hdebug, other, hother, hfault⟩
  rw [h] at hother
  cases hother
  exact htext hdebug fault hfault

end Attempt

/-! ## The series, attempt by attempt -/

section

variable {level : Level} {a : Attempt σ} {all : List (Attempt σ)} {finish : Line σ}
  {result : Except Fault Response} {sends : List Request}

theorem Protocol.last (level : Level) (a : Attempt σ) :
    Protocol level [a] a.answer a.finish a.sends :=
  ⟨[], a, [], rfl, by simp, .inl rfl, rfl, rfl, by simp⟩

theorem Protocol.stop (h : ¬ a.PassedOn level) (hall : all ≠ []) :
    Protocol level (a :: all) (a.verdict level) a.finish a.sends :=
  ⟨[], a, all, rfl, by simp, .inr h, by rw [if_neg hall], rfl, by simp⟩

theorem Protocol.pass (h : a.PassedOn level) (hp : Protocol level all result finish sends) :
    Protocol level (a :: all) result finish (a.sends ++ sends) := by
  obtain ⟨earlier, final, later, rfl, hearlier, hfinal, hresult, hfinish, rfl⟩ := hp
  refine ⟨a :: earlier, final, later, rfl, ?_, hfinal, hresult, hfinish, rfl⟩
  exact List.forall_mem_cons.mpr ⟨h, hearlier⟩

theorem Departure.here {fault : Fault} (h : a.PassedOn level) (hu : a.Unrecorded level fault)
    (hall : all ≠ []) : Departure level (a :: all) (.error fault) a.finish a.sends :=
  ⟨[], a, all, fault, rfl, hall, by simpa using h, hu, rfl, rfl, by simp⟩

theorem Departure.pass (h : a.PassedOn level) (hd : Departure level all result finish sends) :
    Departure level (a :: all) result finish (a.sends ++ sends) := by
  obtain ⟨earlier, final, later, fault, rfl, hlater, hpassed, hu, hresult, hfinish, rfl⟩ := hd
  refine ⟨a :: earlier, final, later, fault, rfl, hlater, ?_, hu, hresult, hfinish, rfl⟩
  exact List.forall_mem_cons.mpr ⟨h, hpassed⟩

theorem Recordable.last (level : Level) (a : Attempt σ) : Recordable level [a] := by
  intro earlier final later heq hlater
  obtain ⟨-, h⟩ | ⟨_, -, h⟩ := List.append_eq_cons_iff.mp heq.symm
  · cases h
    exact absurd rfl hlater
  · simp at h

theorem Recordable.stop (h : ¬ a.PassedOn level) : Recordable level (a :: all) := by
  intro earlier final later heq _ hpassed
  obtain ⟨rfl, hc⟩ | ⟨rest, rfl, -⟩ := List.append_eq_cons_iff.mp heq.symm
  · cases hc
    exact absurd (hpassed a (by simp)) h
  · exact absurd (hpassed a (by simp)) h

theorem stop_course (h : ¬ a.PassedOn level ∧ a.verdict level = result) (hall : all ≠ []) :
    Protocol level (a :: all) result a.finish a.sends ∧ Recordable level (a :: all) := by
  obtain ⟨hnot, rfl⟩ := h
  exact ⟨.stop hnot hall, .stop hnot⟩

theorem Recordable.pass (h : ∀ fault, ¬ a.Unrecorded level fault)
    (hr : Recordable level all) : Recordable level (a :: all) := by
  intro earlier final later heq hlater hpassed
  obtain ⟨rfl, hc⟩ | ⟨rest, rfl, rfl⟩ := List.append_eq_cons_iff.mp heq.symm
  · cases hc
    exact h
  · exact hr rest final later rfl hlater fun b hb => hpassed b (by simp at hb ⊢; tauto)

/-- Where no rejection is recorded, none fails to be. -/
theorem recordable_of_not_passes (h : Level.debug.passes level = false) : Recordable level all := by
  intro earlier final later _ _ _ fault hu
  rw [hu.1] at h
  cases h

/-- Where the protocol is departed from, a rejection cannot be recorded. -/
theorem Departure.not_recordable (hd : Departure level all result finish sends) :
    ¬ Recordable level all := by
  obtain ⟨earlier, final, later, fault, heq, hlater, hpassed, hu, -⟩ := hd
  exact fun h => h earlier final later heq hlater hpassed fault hu

theorem length_flatMap_sends {l : List (Attempt σ)} (h : ∀ a ∈ l, a.written = .ok ()) :
    (l.flatMap Attempt.sends).length = l.length := by
  induction l with
  | nil => rfl
  | cons b rest ih =>
    have hb : b.sends.length = 1 := by
      simp [Attempt.sends, h b (by simp)]
    rw [List.flatMap_cons, List.length_append, hb, ih fun c hc => h c (by simp [hc]),
      List.length_cons, Nat.add_comm]

/-- A departure shows: if every header can be written, too few requests are sent. -/
theorem Departure.not_protocol (hd : Departure level all result finish sends)
    (hwritten : ∀ a ∈ all, a.written = .ok ()) :
    ¬ Protocol level all result finish sends := by
  obtain ⟨earlier, a, later, fault, heq, hlater, hpassed, -, -, -, hsends⟩ := hd
  rintro ⟨earlier', final, later', heq', -, hfinal, -, -, hsends'⟩
  -- one request for each attempt, so both splits of the series are at the same place
  have hlen := length_flatMap_sends (l := earlier ++ [a]) fun b hb => hwritten b (by
    rw [heq]; simp at hb ⊢; tauto)
  have hlen' := length_flatMap_sends (l := earlier' ++ [final]) fun b hb => hwritten b (by
    rw [heq']; simp at hb ⊢; tauto)
  rw [← hsends, hsends', hlen'] at hlen
  have hsplit : earlier ++ a :: later = earlier' ++ final :: later' := by
    rw [← heq, heq']
  obtain ⟨-, hc⟩ := List.append_inj hsplit (by simp at hlen; omega)
  cases hc
  rcases hfinal with hnil | hnot
  · exact hlater hnil
  · exact hnot (hpassed a (by simp))

end

/-! ## The series and the call -/

/-- A course follows the protocol, with every rejection recorded, or departs from it. -/
theorem Course.protocol {level : Level} {total number : Nat} {all : List (Attempt σ)}
    {result : Except Fault Response} {finish : Line σ} {made : List (Made σ)}
    (h : Course level total number all result finish made) :
    Protocol level all result finish (sendsOf made) ∧ Recordable level all ∨
      Departure level all result finish (sendsOf made) := by
  induction h with
  | last a =>
    have hlast := Protocol.last level a
    exact .inl ⟨by simpa [sendsOf] using hlast, .last level a⟩
  | @settled _ a later h =>
    have hsends : sendsOf [⟨a, []⟩] = a.sends := by simp [sendsOf]
    rw [hsends]
    rcases List.eq_nil_or_concat later with rfl | ⟨_, _, rfl⟩
    · exact .inl ⟨.last level a, .last level a⟩
    · refine .inl (stop_course ?_ (by simp))
      cases hanswer : a.answer with
      | error fault => exact a.verdict_of_error hanswer
      | ok response => exact a.verdict_of_accepted hanswer (h response hanswer)
  | @stuck _ a later response fault hlater hanswer hr haside =>
    simp only [sendsOf, List.flatMap_cons, List.flatMap_nil, List.append_nil]
    rcases asideResult_cases level response with
      ⟨cause, hdrain, hresult⟩ | ⟨hdrain, hdebug, cause, htext, hresult⟩ | ⟨-, -, hresult⟩
    · -- the body cannot be read
      rw [hresult] at haside
      cases haside
      exact .inl (stop_course (a.verdict_of_unread hanswer hr hdrain) hlater)
    · -- the body has been read, but it has no text for the record
      rw [hresult] at haside
      cases haside
      have hpassed : a.PassedOn level := ⟨response, hanswer, hr, hdrain⟩
      exact .inr (.here hpassed ⟨hdebug, response, hanswer, htext⟩ hlater)
    · rw [hresult] at haside
      cases haside
  | @passed _ a later response result finish made hanswer hr haside hlater ih =>
    simp only [sendsOf, List.flatMap_cons]
    rcases asideResult_cases level response with
      ⟨cause, -, hresult⟩ | ⟨-, -, cause, -, hresult⟩ | ⟨hdrain, htext, -⟩
    · rw [hresult] at haside
      cases haside
    · rw [hresult] at haside
      cases haside
    · have hpassed : a.PassedOn level := ⟨response, hanswer, hr, hdrain⟩
      rcases ih with ⟨hprotocol, hrest⟩ | hdeparture
      · exact .inl ⟨hprotocol.pass hpassed, hrest.pass (a.not_unrecorded hanswer htext)⟩
      · exact .inr (hdeparture.pass hpassed)

section

variable {gather : Act σ Candidates} {level : Level} {line : Line σ} {candidates : Candidates}
  {peer : σ} {journal : List Mark}

theorem blocking_course (target : String) (next : Carrier σ) {entry : Option String}
    (hgather : gather level line.peer = ⟨.ok candidates, peer, journal⟩)
    (hv : line.request.header authorization = .ok entry) :
    let run := blocking target gather next level line
    let sends := (blocking target (watchSource target gather) (watch next) level
      (line.watched [] [])).state.peer.sends
    let all := Attempt.series level target entry next candidates.toList ⟨line.request.settle, peer⟩
    Protocol level all run.result run.state sends ∧ Recordable level all ∨
      Departure level all run.result run.state sends := by
  obtain ⟨made, hcourse, hsends, -⟩ := course_of_blocking target next hgather hv
  dsimp only
  rw [hsends]
  exact hcourse.protocol

/-- A call of a relay, for any source that has candidates, any carrier and any request. Unless the
caller's own header cannot be read, every send carries what belongs there, and the call follows the
protocol if the rejections on its way can be recorded. If one of them cannot, the call ends there
with the failure of recording it. -/
theorem blocking_protocol (target : String) (next : Carrier σ)
    (hgather : gather level line.peer = ⟨.ok candidates, peer, journal⟩) :
    let run := blocking target gather next level line
    let sends := (blocking target (watchSource target gather) (watch next) level
      (line.watched [] [])).state.peer.sends
    (∀ fault, line.request.header authorization = .error fault →
      run.result = .error fault ∧ sends = []) ∧
    ∀ entry, line.request.header authorization = .ok entry →
      let all := Attempt.series level target entry next candidates.toList
        ⟨line.request.settle, peer⟩
      (∀ a ∈ all, a.Credited target entry) ∧
      (Recordable level all → Protocol level all run.result run.state sends) ∧
      (¬ Recordable level all → Departure level all run.result run.state sends) ∧
      ((∀ a ∈ all, a.written = .ok ()) →
        (Protocol level all run.result run.state sends ↔ Recordable level all)) := by
  refine ⟨fun fault hv => ?_, fun entry hv => ⟨fun a ha => credited_of_mem_series ha, ?_⟩⟩
  · have hwatched := watchSource_of_ok target (w := (line.watched [] []).peer) hgather
    have hrun := blocking_of_header_error target next hgather hv
    have hseen := blocking_of_header_error target (watch next) hwatched hv
    exact ⟨congrArg Outcome.result hrun,
      congrArg (fun outcome => outcome.state.peer.sends) hseen⟩
  · rcases blocking_course target next hgather hv with
      ⟨hprotocol, hrec⟩ | hdeparture
    · exact ⟨fun _ => hprotocol, fun h => absurd hrec h,
        fun _ => ⟨fun _ => hrec, fun _ => hprotocol⟩⟩
    · have hnot := hdeparture.not_recordable
      exact ⟨fun h => absurd h hnot, fun _ => hdeparture, fun hwritten =>
        ⟨fun h => absurd h (hdeparture.not_protocol hwritten), fun h => absurd h hnot⟩⟩

end

/-- A token that is rejected, and one that is not. -/
theorem blocking_protocol_two_tokens :
    let line : Line (List (Except Fault Response)) :=
      ⟨rootOf "h", [answerOf 401 "text/plain", answerOf 200 "text/plain"]⟩
    let run := blocking "h" (pure twoTokens) replay .warning line
    let sends := (blocking "h" (watchSource "h" (pure twoTokens)) (watch replay) .warning
      (line.watched [] [])).state.peer.sends
    (pure twoTokens : Act _ Candidates) .warning line.peer = ⟨.ok twoTokens, line.peer, []⟩ ∧
    Protocol .warning (Attempt.series .warning "h" none replay twoTokens.toList
      ⟨line.request.settle, line.peer⟩) run.result run.state sends ∧
    sends.map (·.header authorization) = [.ok (some "Bearer a"), .ok (some "Bearer b")] := by
  refine ⟨rfl, ?_, rfl⟩
  have hgather : (pure twoTokens : Act _ Candidates) .warning
      (⟨rootOf "h", [answerOf 401 "text/plain", answerOf 200 "text/plain"]⟩ : Line _).peer =
      ⟨.ok twoTokens, _, []⟩ := rfl
  obtain ⟨-, hcall⟩ := blocking_protocol "h" replay hgather
  obtain ⟨-, hfollows, -⟩ := hcall none rfl
  exact hfollows (recordable_of_not_passes rfl)

/-- A rejection that cannot be recorded ends the call, though a token is left that is not
rejected: the two forms in which the content type gives a parameter cannot be put in order. -/
theorem not_protocol_of_unrecorded :
    let line : Line (List (Except Fault Response)) :=
      ⟨rootOf "h", [answerOf 401 "text/plain; a*=1; a*0=2", answerOf 200 "text/plain"]⟩
    let run := blocking "h" (pure twoTokens) replay .debug line
    let sends := (blocking "h" (watchSource "h" (pure twoTokens)) (watch replay) .debug
      (line.watched [] [])).state.peer.sends
    run.result = .error (.contentType (.mixedSections false)) ∧
    sends.map (·.header authorization) = [.ok (some "Bearer a")] ∧
    ¬ Protocol .debug (Attempt.series .debug "h" none replay twoTokens.toList
      ⟨line.request.settle, line.peer⟩) run.result run.state sends := by
  refine ⟨rfl, rfl, Departure.not_protocol ?_ ?_⟩
  · exact .here ⟨_, rfl, rfl, rfl⟩ ⟨rfl, _, rfl, rfl⟩ (List.cons_ne_nil _ _)
  · intro a ha
    rcases List.mem_cons.mp ha with rfl | ha
    · rfl
    · rw [List.mem_singleton.mp ha]
      rfl

end AuthRelay.Relay
