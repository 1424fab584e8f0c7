import AuthRelay.Proofs.Relay.Discharge
import AuthRelay.Session.Step
/-!
# What a returned rejection means

A relay goes by one table of the statuses that are rejections, and checking a response by another,
which gives each status its kind of failure. The tables agree, so a response that a relay returns is
a rejection if and only if all candidates have been refused, and checking it tells the caller. The
failure that says so quotes the text of the body; where the body has no text, because nobody can
tell in which encoding it is or its codec fails, the check fails with that instead.
-/
namespace AuthRelay

namespace Response

/-- Checking a response fails, and the failure is a refusal of the credentials. -/
def Refused (r : Response) : Prop :=
  ∃ fault, r.checkAuth = .error fault ∧ fault.kind.isA .authenticationRejected = true

/-- The failure for a refusal: it carries the response and its status, is of the kind of that
status, and quotes the beginning of the text of the body, if there is any. -/
structure Refusal (r : Response) (text : String) (fault : Fault) : Prop where
  response : fault.response? = some r
  status : fault.status? = some r.status
  kind : r.status = 401 ∧ fault.kind = .unauthorized ∨ r.status = 403 ∧ fault.kind = .forbidden
  message : fault.message = "HTTP " ++ toString r.status ++
    if text = "" then "" else ": " ++ String.ofList (text.toList.take 200)

theorem lookup_rejectionKinds {status : Int} {kind : Kind} :
    rejectionKinds.lookup status = some kind ↔
      status = 401 ∧ kind = .unauthorized ∨ status = 403 ∧ kind = .forbidden := by
  by_cases h401 : status = 401
  · subst h401
    simp [rejectionKinds, eq_comm]
  · by_cases h403 : status = 403
    · subst h403
      simp [rejectionKinds, List.lookup_cons, eq_comm]
    · have hnone : rejectionKinds.lookup status = none := by
        simp [rejectionKinds, List.lookup_cons, beq_eq_false_iff_ne.mpr h401,
          beq_eq_false_iff_ne.mpr h403]
      simp [hnone, h401, h403]

/-- The table of a relay and the one of a check agree on every status. -/
theorem isRejection_eq_isSome_lookup (r : Response) :
    r.isRejection = (rejectionKinds.lookup r.status).isSome := by
  rw [Bool.eq_iff_iff, isRejection_iff, Option.isSome_iff_exists]
  simp only [lookup_rejectionKinds]
  constructor
  · rintro (h | h)
    · exact ⟨_, .inl ⟨h, rfl⟩⟩
    · exact ⟨_, .inr ⟨h, rfl⟩⟩
  · rintro ⟨kind, ⟨h, -⟩ | ⟨h, -⟩⟩
    · exact .inl h
    · exact .inr h

/-- Other responses pass, also if their body has not been read. -/
theorem checkAuth_of_not_isRejection {r : Response} (h : ¬ r.isRejection = true) :
    r.checkAuth = .ok () := by
  rw [isRejection_eq_isSome_lookup, Option.not_isSome_iff_eq_none] at h
  simp only [checkAuth, h]
  rfl

theorem checkAuth_of_text_error {r : Response} {fault : Fault} (h : r.isRejection = true)
    (htext : r.text = .error fault) : r.checkAuth = .error fault := by
  rw [isRejection_eq_isSome_lookup, Option.isSome_iff_exists] at h
  obtain ⟨kind, hkind⟩ := h
  simp only [checkAuth, hkind, htext]
  rfl

theorem ofList_take_eq_empty_iff {n : Nat} (hn : n ≠ 0) (text : String) :
    String.ofList (text.toList.take n) = "" ↔ text = "" := by
  rw [← String.toList_inj, String.toList_ofList, ← String.toList_inj]
  simp [hn]

theorem message_rejected (kind : Kind) (r : Response) (shown : String) :
    (Fault.rejected kind r shown).message =
      "HTTP " ++ toString r.status ++ if shown = "" then "" else ": " ++ shown := rfl

/-- A rejection whose body has a text is a refusal. -/
theorem checkAuth_of_text {r : Response} {text : String} (h : r.isRejection = true)
    (htext : r.text = .ok text) : ∃ fault, r.checkAuth = .error fault ∧ r.Refusal text fault := by
  rw [isRejection_eq_isSome_lookup, Option.isSome_iff_exists] at h
  obtain ⟨kind, hkind⟩ := h
  have hcheck : r.checkAuth =
      .error (.rejected kind r (String.ofList (text.toList.take 200))) := by
    simp only [checkAuth, hkind, htext]
    rfl
  have hempty := ofList_take_eq_empty_iff (n := 200) (by decide) text
  refine ⟨_, hcheck, rfl, rfl, lookup_rejectionKinds.mp hkind, ?_⟩
  rw [message_rejected]
  simp only [hempty]

theorem Refusal.isA {r : Response} {text : String} {fault : Fault} (h : r.Refusal text fault) :
    fault.kind.isA .authenticationRejected = true := by
  obtain ⟨-, hkind⟩ | ⟨-, hkind⟩ := h.kind <;> rw [hkind] <;> rfl

/-- A sequence fails with its first step, or after it. -/
theorem error_of_bind {ε α β : Type} {x : Except ε α} {f : α → Except ε β} {cause : ε}
    (h : x >>= f = .error cause) : x = .error cause ∨ ∃ a, x = .ok a ∧ f a = .error cause := by
  cases x with
  | error _ =>
    cases h
    exact .inl rfl
  | ok a => exact .inr ⟨a, rfl, h⟩

/-- Text and octets that do not go together are not a refusal. -/
theorem not_isA_of_mapError_text {α : Type} {x : Except TextFault α} {fault : Fault}
    (h : x.mapError .text = .error fault) : fault.kind.isA .authenticationRejected = false := by
  cases x with
  | ok _ => cases h
  | error cause =>
    cases h
    cases cause <;> rfl

theorem not_isA_of_encoding_error {r : Response} {fault : Fault} (h : r.encoding = .error fault) :
    fault.kind.isA .authenticationRejected = false := by
  obtain herror | ⟨found, -, h⟩ := error_of_bind h
  · exact not_isA_of_mapError_text herror
  · cases found with
    | none => cases h
    | some contentType =>
      dsimp only at h
      cases hcharset : Charset.ofContentType contentType with
      | ok encoding => simp [hcharset, Except.mapError] at h
      | error cause =>
        rw [hcharset] at h
        cases h
        cases cause <;> rfl

theorem not_isA_of_reading_error {r : Response} {fault : Fault} (h : r.reading = .error fault) :
    fault.kind.isA .authenticationRejected = false := by
  obtain herror | ⟨found, -, h⟩ := error_of_bind h
  · exact not_isA_of_mapError_text herror
  · cases found <;> cases h

theorem not_isA_of_bodyText_error {r : Response} {fault : Fault} (h : r.bodyText = .error fault) :
    fault.kind.isA .authenticationRejected = false := by
  unfold bodyText at h
  split at h
  · cases h
  · obtain herror | ⟨reading, -, h⟩ := error_of_bind h
    · exact not_isA_of_reading_error herror
    · cases reading with
      | unknown =>
        obtain herror | ⟨encoding, -, h⟩ := error_of_bind h
        · exact not_isA_of_encoding_error herror
        · cases h
      | text s => cases h
      | failure cause =>
        cases h
        exact cause.notRejection

/-- Whatever keeps the text of a body from being found is not a refusal. -/
theorem not_isA_of_text_error {r : Response} {fault : Fault} (h : r.text = .error fault) :
    fault.kind.isA .authenticationRejected = false := by
  unfold text at h
  split at h
  · exact not_isA_of_bodyText_error h
  · cases h
    rfl

/-- Checking tells of a refusal exactly for rejections whose body has a text. -/
theorem refused_iff (r : Response) :
    r.Refused ↔ r.isRejection = true ∧ ∃ text, r.text = .ok text := by
  constructor
  · rintro ⟨fault, hcheck, hkind⟩
    by_cases hr : r.isRejection = true
    · cases htext : r.text with
      | ok text => exact ⟨hr, text, rfl⟩
      | error cause =>
        cases hcheck.symm.trans (checkAuth_of_text_error hr htext)
        rw [not_isA_of_text_error htext] at hkind
        cases hkind
    · cases hcheck.symm.trans (checkAuth_of_not_isRejection hr)
  · rintro ⟨hr, text, htext⟩
    obtain ⟨fault, hcheck, hrefusal⟩ := checkAuth_of_text hr htext
    exact ⟨fault, hcheck, hrefusal.isA⟩

/-- Reading a response changes it only in how far its body has come. -/
theorem eq_of_readBody {r loaded : Response} {body : Bytes} {level : Level}
    {entries : List Mark} (h : readBody level r = ⟨.ok body, loaded, entries⟩) :
    loaded = { r with phase := .loaded, closed := loaded.closed } := by
  obtain ⟨serial, status, headers, octets, failure, phase, closed, foreign⟩ := r
  cases phase with
  | loaded =>
    cases h
    rfl
  | spent => cases h
  | pending => cases closed <;> cases failure <;> cases h; rfl

end Response

/-- Checking a response again and again comes to the same every time, and leaves the response as it
is. -/
theorem Session.performUses_check (response : Response) (level : Level) (times : Nat) :
    performUses (List.replicate times .check) level response =
      ⟨.ok (List.replicate times (response.checkAuth.map fun _ => none)), response, []⟩ := by
  have hcheck : Use.check.perform level response =
      ⟨response.checkAuth.map fun _ => none, response, []⟩ := by
    rw [Use.perform, Act.get_bind_run]
    cases h : response.checkAuth with
    | error fault => rw [Act.bind_of_error (Act.ofExcept_run _ _ _)]; rfl
    | ok _ => rw [Act.bind_of_ok (Act.ofExcept_run _ _ _)]; rfl
  induction times with
  | zero => rfl
  | succ times ih =>
    have hattempt : Act.attempt Use.check.perform level response =
        ⟨.ok (response.checkAuth.map fun _ => none), response, []⟩ := by
      rw [Act.attempt, hcheck]
    rw [List.replicate_succ, List.replicate_succ, performUses, Act.bind_of_ok hattempt,
      Act.bind_of_ok ih]
    rfl

namespace Relay

variable {σ : Type}

/-- All candidates have been refused: each of them has been sent, and every response to a send has
one of the two statuses. -/
def Exhausted (level : Level) (next : Carrier σ) (candidates : Candidates)
    (exchanges : List (Exchange σ)) : Prop :=
  exchanges.length = candidates.toList.length ∧
  ∀ e ∈ exchanges, ∃ response, (next level e.sent).result = .ok response ∧
    (response.status = 401 ∨ response.status = 403)

/-- The responses up to the last one are rejections, and the last one is not. -/
def AcceptedAtLast (level : Level) (next : Carrier σ) (response : Response)
    (exchanges : List (Exchange σ)) : Prop :=
  ∃ before e, exchanges = before ++ [e] ∧ (next level e.sent).result = .ok response ∧
    ¬ (response.status = 401 ∨ response.status = 403) ∧
    ∀ other ∈ before, ∃ rejected, (next level other.sent).result = .ok rejected ∧
      (rejected.status = 401 ∨ rejected.status = 403)

section

variable {level : Level} {next : Carrier σ} {total : Nat} {response : Response}
  {exchanges : List (Exchange σ)}

/-- The exchanges of a call that returns: the response of the last one is returned, the others are
rejections, and if the last one is a rejection too it is that of the last candidate. -/
theorem AllEnd.of_returned (h : AllEnd level next (.ok response) total 1 exchanges) :
    ∃ before e, exchanges = before ++ [e] ∧ (next level e.sent).result = .ok response ∧
      (response.isRejection = true → exchanges.length = total) ∧
      ∀ other ∈ before, ∃ rejected, (next level other.sent).result = .ok rejected ∧
        rejected.isRejection = true := by
  obtain ⟨before, e, rfl, hresponse, -⟩ := h.disciplined.returned response rfl
  refine ⟨before, e, rfl, hresponse, fun hr => ?_, fun other hother => ?_⟩
  · cases h.ends before e [] rfl with
    | answered _ _ hfinal =>
      rcases hfinal with hlast | haccepted
      · rw [← hlast, List.length_append, List.length_singleton, Nat.add_comm]
      · exact absurd hr (haccepted response rfl)
    | stuck _ _ _ _ hfault => cases hfault
    | passed _ _ _ _ hfailed =>
      obtain ⟨fault, hfault⟩ := hfailed rfl
      cases hfault
  · obtain ⟨front, back, rfl⟩ := List.append_of_mem hother
    obtain ⟨rejected, hrejected, hr, -⟩ :=
      h.disciplined.earlier front other (back ++ [e]) (by simp) (by simp)
    exact ⟨rejected, hrejected, hr⟩

/-- A call returns a rejection if and only if its candidates are exhausted. -/
theorem AllEnd.isRejection_iff {candidates : Candidates}
    (h : AllEnd level next (.ok response) candidates.toList.length 1 exchanges) :
    response.isRejection = true ↔ Exhausted level next candidates exchanges := by
  obtain ⟨before, e, rfl, hresponse, hlength, hbefore⟩ := h.of_returned
  constructor
  · refine fun hr => ⟨hlength hr, fun other hother => ?_⟩
    rcases List.mem_append.mp hother with hother | hother
    · obtain ⟨rejected, hrejected, hr'⟩ := hbefore other hother
      exact ⟨rejected, hrejected, rejected.isRejection_iff.mp hr'⟩
    · rw [List.mem_singleton.mp hother]
      exact ⟨response, hresponse, response.isRejection_iff.mp hr⟩
  · rintro ⟨-, hall⟩
    obtain ⟨other, hother, hstatus⟩ := hall e (by simp)
    cases hresponse.symm.trans hother
    exact response.isRejection_iff.mpr hstatus

/-- A call that returns a response that is not a rejection has been refused until then. -/
theorem AllEnd.acceptedAtLast (h : AllEnd level next (.ok response) total 1 exchanges)
    (hr : ¬ response.isRejection = true) : AcceptedAtLast level next response exchanges := by
  obtain ⟨before, e, heq, hresponse, -, hbefore⟩ := h.of_returned
  refine ⟨before, e, heq, hresponse, fun hs => hr (response.isRejection_iff.mpr hs), ?_⟩
  intro other hother
  obtain ⟨rejected, hrejected, hr'⟩ := hbefore other hother
  exact ⟨rejected, hrejected, rejected.isRejection_iff.mp hr'⟩

end

/-- A call that returns has candidates and consists of exchanges. -/
theorem exchanges_of_returned {layer : Layer σ} {next : Carrier σ} {level : Level}
    {line : Line σ} {response : Response}
    (hrun : (layer.send next level line).result = .ok response) :
    let sends := (layer.watch.send (watch next) level (line.watched [] [])).state.peer.sends
    ∃ candidates exchanges, (layer.gather level line.peer).result = .ok candidates ∧
      sends = exchanges.map (·.sent.request) ∧
      AllEnd level next (.ok response) candidates.toList.length 1 exchanges := by
  obtain ⟨exchanges, hsends, -, -, total, hends, htotal, hcandidates⟩ :=
    exchanges_all_end layer next level line
  obtain ⟨candidates, hgather⟩ := hcandidates response hrun
  rw [hrun, htotal candidates hgather] at hends
  exact ⟨candidates, exchanges, hgather, hsends, hends⟩

/-- Once a response that a call has returned is read, checking it tells of a refusal if and only if
all candidates have been refused and the body has a text. So it tells of every refusal of all
candidates unless the body of the last response has no text; then it fails with the reason for
that. It passes if and only if some candidate has not been refused, which is the last one that was
tried. Checking again comes to the same, and other statuses pass whether or not the body has been
read. -/
theorem refused_iff_exhausted (layer : Layer σ) (next : Carrier σ) {level : Level}
    {line : Line σ} {response loaded : Response} {body : Bytes} {entries : List Mark}
    (hrun : (layer.send next level line).result = .ok response)
    (hread : Response.readBody level response = ⟨.ok body, loaded, entries⟩) :
    let sends := (layer.watch.send (watch next) level (line.watched [] [])).state.peer.sends
    ∃ candidates exchanges, (layer.gather level line.peer).result = .ok candidates ∧
      sends = exchanges.map (·.sent.request) ∧
      loaded = { response with phase := .loaded, closed := loaded.closed } ∧
      (loaded.Refused ↔
        Exhausted level next candidates exchanges ∧ ∃ text, loaded.text = .ok text) ∧
      ((loaded.Refused ↔ Exhausted level next candidates exchanges) ↔
        (Exhausted level next candidates exchanges → ∃ text, loaded.text = .ok text)) ∧
      (Exhausted level next candidates exchanges →
        (∀ text, loaded.text = .ok text →
          ∃ fault, loaded.checkAuth = .error fault ∧ loaded.Refusal text fault) ∧
        ∀ fault, loaded.text = .error fault → loaded.checkAuth = .error fault) ∧
      (loaded.checkAuth = .ok () ↔ ¬ Exhausted level next candidates exchanges) ∧
      (loaded.checkAuth = .ok () → AcceptedAtLast level next response exchanges) ∧
      (∀ times, Session.performUses (List.replicate times .check) level loaded =
        ⟨.ok (List.replicate times (loaded.checkAuth.map fun _ => none)), loaded, []⟩) ∧
      ∀ other : Response, ¬ (other.status = 401 ∨ other.status = 403) →
        other.checkAuth = .ok () := by
  obtain ⟨candidates, exchanges, hgather, hsends, hends⟩ := exchanges_of_returned hrun
  have hloaded := Response.eq_of_readBody hread
  have hstatus : loaded.isRejection = response.isRejection := by rw [hloaded]; rfl
  have hexhausted : loaded.isRejection = true ↔ Exhausted level next candidates exchanges := by
    rw [hstatus, hends.isRejection_iff]
  have hrefused := loaded.refused_iff
  rw [hexhausted] at hrefused
  have hpasses : loaded.checkAuth = .ok () → ¬ loaded.isRejection = true := by
    intro hcheck hr
    cases htext : loaded.text with
    | ok text =>
      obtain ⟨fault, hfault, -⟩ := Response.checkAuth_of_text hr htext
      cases hcheck.symm.trans hfault
    | error fault => cases hcheck.symm.trans (Response.checkAuth_of_text_error hr htext)
  refine ⟨candidates, exchanges, hgather, hsends, hloaded, hrefused, ?_, fun h => ⟨?_, ?_⟩, ?_, ?_,
    Session.performUses_check loaded level, ?_⟩
  · rw [hrefused]
    tauto
  · exact fun text htext => Response.checkAuth_of_text (hexhausted.mpr h) htext
  · exact fun fault htext => Response.checkAuth_of_text_error (hexhausted.mpr h) htext
  · rw [← hexhausted]
    exact ⟨hpasses, Response.checkAuth_of_not_isRejection⟩
  · exact fun hcheck => hends.acceptedAtLast (hstatus ▸ hpasses hcheck)
  · exact fun other h => Response.checkAuth_of_not_isRejection (h ∘ other.isRejection_iff.mp)

/-- A refusal whose body is still to be read. -/
def forbidden : Response :=
  Response.streaming 2 403 { entries := [] } (Text.Utf8.encode "no") none

/-- Two tokens, both refused. -/
theorem refused_iff_exhausted_two_tokens :
    let run := Layer.send ⟨.blocking, "h", pure twoTokens⟩ replay .warning
      ⟨rootOf "h", [answerOf 401 "text/plain", .ok forbidden]⟩
    let loaded : Response := { forbidden with phase := .loaded, closed := true }
    run.result = .ok forbidden ∧
    Response.readBody .warning forbidden =
      ⟨.ok forbidden.body, loaded, [.event (.read 2), .event (.close 2)]⟩ ∧
    loaded.Refused ∧ loaded.checkAuth = .error (.rejected .forbidden loaded "no") ∧
    (Fault.rejected .forbidden loaded "no").message = "HTTP 403: no" := by
  have hrun : (Layer.send ⟨.blocking, "h", pure twoTokens⟩ replay .warning
      ⟨rootOf "h", [answerOf 401 "text/plain", .ok forbidden]⟩).result = .ok forbidden := rfl
  have hread : Response.readBody .warning forbidden =
      ⟨.ok forbidden.body, { forbidden with phase := .loaded, closed := true },
        [.event (.read 2), .event (.close 2)]⟩ := rfl
  obtain ⟨candidates, exchanges, -, -, -, hrefused, -, -, hpasses, -⟩ :=
    refused_iff_exhausted ⟨.blocking, "h", pure twoTokens⟩ replay hrun hread
  refine ⟨hrun, hread, hrefused.mpr ⟨?_, "no", rfl⟩, rfl, rfl⟩
  by_contra h
  cases hpasses.mpr h

/-- All candidates have been refused, but checking does not tell of it: the two forms in which the
content type gives a parameter cannot be put in order, so the body has no text. -/
theorem not_refused_of_no_text :
    let line : Line (List (Except Fault Response)) :=
      ⟨rootOf "h", [answerOf 401 "text/plain; a*=1; a*0=2"]⟩
    let layer : Layer (List (Except Fault Response)) :=
      ⟨.blocking, "h", pure ⟨{ registryToken := "a" }, []⟩⟩
    let run := layer.send replay .warning line
    let sends := (layer.watch.send (watch replay) .warning (line.watched [] [])).state.peer.sends
    sends.length = 1 ∧ ∃ response loaded body entries, run.result = .ok response ∧
      response.status = 401 ∧
      Response.readBody .warning response = ⟨.ok body, loaded, entries⟩ ∧
      loaded.checkAuth = .error (.contentType (.mixedSections false)) ∧ ¬ loaded.Refused := by
  refine ⟨rfl, _, _, _, _, rfl, rfl, rfl, rfl, ?_⟩
  rintro ⟨fault, hcheck, hkind⟩
  cases hcheck
  cases hkind

end Relay
end AuthRelay
