import AuthRelay.Proofs.Relay.Course
import AuthRelay.Proofs.Relay.Stacks
import Mathlib.Data.List.Induction
/-!
# A request that is moved between attempts

A carrier may give a request another URL or another `Host` header while it answers. A relay looks at
the address before every attempt, and leaves a request alone that is not for its target; it does not
take back what it wrote while the request still was. So a request that has left the target carries
what the last attempt there has written. It carries the caller's own header if it has not been there
yet, or if the candidate of that attempt had nothing else to write.
-/
namespace AuthRelay.Relay

variable {σ : Type}

/-- A carrier that may change a request, but not its header for credentials. -/
def KeepsCredentials (next : Carrier σ) : Prop :=
  ∀ level line, (next level line).state.request.header authorization =
    line.request.header authorization

/-- The header at each of several sends, when the first of them finds the given value: what belongs
to the candidate if the request is for the target, and what was there before if it is not. -/
inductive Carries (target : String) (entry : Option String) :
    Option String → List (CredentialSet × Request) → Prop
  | nil {value : Option String} : Carries target entry value []
  | there {value : Option String} {c : CredentialSet} {sent : Request}
      {later : List (CredentialSet × Request)} (haddr : sent.AddressedTo target)
      (hheader : sent.header authorization = .ok (c.authorization?.or entry))
      (hlater : Carries target entry (c.authorization?.or entry) later) :
    Carries target entry value ((c, sent) :: later)
  | elsewhere {value : Option String} {c : CredentialSet} {sent : Request}
      {later : List (CredentialSet × Request)} (hforeign : ¬ sent.AddressedTo target)
      (hheader : sent.header authorization = .ok value)
      (hlater : Carries target entry value later) :
    Carries target entry value ((c, sent) :: later)

/-- A send after the request has left the target: the last send to the target before it was made
with the given candidate. -/
def LeftAfter (target : String) (trials : List (CredentialSet × Request)) (c : CredentialSet)
    (sent : Request) : Prop :=
  ∃ before there between d later,
    trials = before ++ (c, there) :: (between ++ (d, sent) :: later) ∧
    there.AddressedTo target ∧ (∀ trial ∈ between, ¬ trial.2.AddressedTo target) ∧
    ¬ sent.AddressedTo target

/-! ## What the sends carry -/

section

variable {target : String} {entry value : Option String}
  {before between later : List (CredentialSet × Request)} {c d : CredentialSet}
  {there sent : Request}

/-- From a send to the target on, it does not matter what was there before. -/
theorem Carries.after (h : Carries target entry value (before ++ (c, there) :: later))
    (haddr : there.AddressedTo target) :
    Carries target entry (c.authorization?.or entry) later := by
  induction before generalizing value with
  | nil =>
    cases h with
    | there _ _ hlater => exact hlater
    | elsewhere hforeign => exact absurd haddr hforeign
  | cons trial before ih =>
    cases h with
    | there _ _ hlater => exact ih hlater
    | elsewhere _ _ hlater => exact ih hlater

/-- As long as no send goes to the target, the header stays. -/
theorem Carries.header_of_foreign (h : Carries target entry value (between ++ (d, sent) :: later))
    (hbetween : ∀ trial ∈ between, ¬ trial.2.AddressedTo target)
    (hforeign : ¬ sent.AddressedTo target) : sent.header authorization = .ok value := by
  induction between with
  | nil =>
    cases h with
    | there haddr => exact absurd haddr hforeign
    | elsewhere _ hheader => exact hheader
  | cons trial between ih =>
    obtain ⟨htrial, hrest⟩ := List.forall_mem_cons.mp hbetween
    cases h with
    | there haddr => exact absurd haddr htrial
    | elsewhere _ _ hlater => exact ih hlater hrest

theorem LeftAfter.foreign {trials : List (CredentialSet × Request)}
    (h : LeftAfter target trials c sent) : ¬ sent.AddressedTo target := by
  obtain ⟨before, there, between, d, later, -, -, -, hforeign⟩ := h
  exact hforeign

theorem LeftAfter.mem_sends {candidates : List CredentialSet} {sends : List Request}
    (h : LeftAfter target (candidates.zip sends) c sent) : sent ∈ sends := by
  obtain ⟨before, there, between, d, later, heq, -⟩ := h
  have hmem : (d, sent) ∈ candidates.zip sends := by
    rw [heq]
    simp
  exact (List.of_mem_zip hmem).2

/-- If there are candidates enough, every send is made with one. -/
theorem exists_trial {candidates : List CredentialSet} {sends : List Request}
    (hlength : sends.length ≤ candidates.length) (hmem : sent ∈ sends) :
    ∃ d, (d, sent) ∈ candidates.zip sends := by
  rw [← List.map_snd_zip hlength] at hmem
  obtain ⟨⟨d, _⟩, htrial, rfl⟩ := List.mem_map.mp hmem
  exact ⟨d, htrial⟩

theorem Carries.header_of_leftAfter {trials : List (CredentialSet × Request)}
    (h : Carries target entry value trials) (hleft : LeftAfter target trials c sent) :
    sent.header authorization = .ok (c.authorization?.or entry) := by
  obtain ⟨before, there, between, d, later, rfl, haddr, hbetween, hforeign⟩ := hleft
  exact (h.after haddr).header_of_foreign hbetween hforeign

/-- Among several sends there is a last one to the target, unless none goes there. -/
theorem foreign_or_last_there (target : String) (trials : List (CredentialSet × Request)) :
    (∀ trial ∈ trials, ¬ trial.2.AddressedTo target) ∨
    ∃ before c there between, trials = before ++ (c, there) :: between ∧
      there.AddressedTo target ∧ ∀ trial ∈ between, ¬ trial.2.AddressedTo target := by
  induction trials using List.reverseRecOn with
  | nil => exact .inl (by simp)
  | append_singleton trials trial ih =>
    by_cases haddr : trial.2.AddressedTo target
    · exact .inr ⟨trials, trial.1, trial.2, [], rfl, haddr, by simp⟩
    · rcases ih with hnone | ⟨before, c, there, between, rfl, hthere, hbetween⟩
      · refine .inl fun other hother => ?_
        rcases List.mem_append.mp hother with hother | hother
        · exact hnone other hother
        · rw [List.mem_singleton.mp hother]
          exact haddr
      · refine .inr ⟨before, c, there, between ++ [trial], by simp, hthere, fun other hother => ?_⟩
        rcases List.mem_append.mp hother with hother | hother
        · exact hbetween other hother
        · rw [List.mem_singleton.mp hother]
          exact haddr

/-- A send to anyone else carries what the first send found, or it comes after the request has left
the target. -/
theorem Carries.header_or_leftAfter {trials : List (CredentialSet × Request)}
    (h : Carries target entry value trials) (hmem : (d, sent) ∈ trials)
    (hforeign : ¬ sent.AddressedTo target) :
    sent.header authorization = .ok value ∨ ∃ c, LeftAfter target trials c sent := by
  obtain ⟨before, later, rfl⟩ := List.append_of_mem hmem
  rcases foreign_or_last_there target before with
    hnone | ⟨earlier, c, there, between, rfl, haddr, hbetween⟩
  · exact .inl (h.header_of_foreign hnone hforeign)
  · exact .inr ⟨c, earlier, there, between, d, later, by simp, haddr, hbetween, hforeign⟩

end

/-! ## The sends of a course -/

section

variable {level : Level} {target : String} {entry value : Option String} {next : Carrier σ}

/-- A trial goes on from the header that the one before it has left. -/
theorem Trials.carries (hnext : KeepsCredentials next) {start finish : Line σ}
    {trials : List (CredentialSet × Request)}
    (h : Trials level target entry next start trials finish)
    (hstart : start.request.header authorization = .ok value) :
    Carries target entry value trials := by
  induction h generalizing value with
  | done => exact .nil
  | unwritten => exact .nil
  | @sent c line _ _ hwritten _ ih =>
    have hkept := hnext level (authorize target entry c level line).state
    rcases authorize_cases hwritten with ⟨haddr, hheader⟩ | ⟨hnot, hready⟩
    · exact .there haddr hheader (ih (hkept.trans hheader))
    · have hheader := congrArg (Request.header · authorization) hready
      rw [Request.header_settle, hstart] at hheader
      exact .elsewhere hnot hheader (ih (hkept.trans hheader))

/-- The sends of a course go through the candidates in order. -/
theorem Course.carries (hnext : KeepsCredentials next) {total : Nat}
    {candidates : List CredentialSet} {number : Nat} {start finish : Line σ}
    {result : Except Fault Response} {made : List (Made σ)}
    (h : Course level total number (Attempt.series level target entry next candidates start)
      result finish made)
    (hstart : start.request.header authorization = .ok value) :
    (sendsOf made).length ≤ candidates.length ∧
      Carries target entry value (candidates.zip (sendsOf made)) := by
  obtain ⟨hlength, htrials⟩ := h.trials
  exact ⟨hlength, htrials.carries hnext hstart⟩

end

/-! ## Whole calls -/

/-- What a call sends to anyone but the target, when the carrier may move the request but keeps its
header for credentials. After the request has left the target it carries what the last attempt there
has written, and otherwise the caller's own header. So it carries the caller's own header throughout
if and only if the request only leaves the target after attempts that had nothing else to write. -/
theorem foreign_sends (layer : Layer σ) {next : Carrier σ} (hnext : KeepsCredentials next)
    {level : Level} {line : Line σ} {candidates : Candidates} {peer : σ} {journal : List Mark}
    (hgather : layer.gather level line.peer = ⟨.ok candidates, peer, journal⟩) :
    let sends := (layer.watch.send (watch next) level (line.watched [] [])).state.peer.sends
    let trials := candidates.toList.zip sends
    (∀ fault, line.request.header authorization = .error fault → sends = []) ∧
    ∀ entry, line.request.header authorization = .ok entry →
      sends.length ≤ candidates.toList.length ∧
      (∀ c sent, LeftAfter layer.target trials c sent →
        sent.header authorization = .ok (c.authorization?.or entry)) ∧
      (∀ sent ∈ sends, ¬ sent.AddressedTo layer.target →
        sent.header authorization = .ok entry ∨ ∃ c, LeftAfter layer.target trials c sent) ∧
      ((∀ sent ∈ sends, ¬ sent.AddressedTo layer.target →
          sent.header authorization = .ok entry) ↔
        ∀ c sent, LeftAfter layer.target trials c sent → c.authorization?.or entry = entry) := by
  intro sends trials
  refine ⟨fun fault hv => ?_, fun entry hv => ?_⟩
  · have hsent := sends_of_header_error layer.target next hgather hv
    rwa [← Layer.watch_send_eq] at hsent
  · obtain ⟨made, hcourse, hsends, -⟩ := course_of_blocking layer.target next hgather hv
    rw [← Layer.watch_send_eq] at hsends
    obtain ⟨hlength, hcarries⟩ := hcourse.carries hnext (by rw [Request.header_settle, hv])
    rw [← hsends] at hlength hcarries
    have hleft : ∀ c sent, LeftAfter layer.target trials c sent →
        sent.header authorization = .ok (c.authorization?.or entry) :=
      fun c sent h => hcarries.header_of_leftAfter h
    have hown : ∀ sent ∈ sends, ¬ sent.AddressedTo layer.target →
        sent.header authorization = .ok entry ∨ ∃ c, LeftAfter layer.target trials c sent := by
      intro sent hmem hforeign
      obtain ⟨d, htrial⟩ := exists_trial hlength hmem
      exact hcarries.header_or_leftAfter htrial hforeign
    refine ⟨hlength, hleft, hown, fun h c sent hc => ?_, fun h sent hmem hforeign => ?_⟩
    · have hsame := (hleft c sent hc).symm.trans (h sent hc.mem_sends hc.foreign)
      exact Except.ok.inj hsame
    · rcases hown sent hmem hforeign with hheader | ⟨c, hc⟩
      · exact hheader
      · rw [hleft c sent hc, h c sent hc]

/-- A carrier that gives one answer after another, and moves the request to a URL with each. -/
def replayElsewhere : Carrier (List (Except Fault Response × Url)) := fun _ line =>
  match line.peer with
  | [] => ⟨.error .nothingToGive, line, []⟩
  | (answer, url) :: rest => ⟨answer, ⟨{ line.request with url }, rest⟩, []⟩

theorem keepsCredentials_replayElsewhere : KeepsCredentials replayElsewhere := by
  intro level line
  unfold replayElsewhere
  cases line.peer with
  | nil => rfl
  | cons answer rest => rfl

/-- An empty set is rejected first, and the carrier moves the request: the token that follows is
not sent elsewhere, and the caller's own header stays away. -/
theorem foreign_sends_after_empty_set :
    let line : Line (List (Except Fault Response × Url)) :=
      ⟨rootOf "h", [(answerOf 401 "text/plain", (rootOf "elsewhere").url),
        (answerOf 200 "text/plain", (rootOf "elsewhere").url)]⟩
    let layer : Layer (List (Except Fault Response × Url)) :=
      ⟨.blocking, "h", pure ⟨{}, [{ registryToken := "b" }]⟩⟩
    let sends := (layer.watch.send (watch replayElsewhere) .warning
      (line.watched [] [])).state.peer.sends
    KeepsCredentials replayElsewhere ∧ sends.map (·.authority) = [.ok "h", .ok "elsewhere"] ∧
    ∀ sent ∈ sends, ¬ sent.AddressedTo "h" → sent.header authorization = .ok none := by
  refine ⟨keepsCredentials_replayElsewhere, rfl, ?_⟩
  have hsends := @foreign_sends _ ⟨.blocking, "h", pure ⟨{}, [{ registryToken := "b" }]⟩⟩ _
    keepsCredentials_replayElsewhere .warning
    ⟨rootOf "h", [(answerOf 401 "text/plain", (rootOf "elsewhere").url),
      (answerOf 200 "text/plain", (rootOf "elsewhere").url)]⟩ _ _ _ rfl
  refine (hsends.2 none rfl).2.2.2.mpr ?_
  -- only the first of the two can be left behind
  rintro c sent ⟨before, there, between, d, later, heq, -⟩
  generalize Watched.sends _ = sends at heq
  have hlength := congrArg List.length heq
  have hbefore : before = [] := by
    simp only [List.length_zip, List.length_append, List.length_cons, Candidates.toList,
      List.length_nil] at hlength
    exact List.eq_nil_of_length_eq_zero (by omega)
  subst hbefore
  cases sends with
  | nil => cases heq
  | cons first rest =>
    obtain ⟨hfirst, -⟩ := List.cons.inj heq
    cases hfirst
    rfl

/-- A token that was written for the target goes on to another host: the carrier moves the request
after the first attempt, and the second one leaves alone what it finds there. -/
theorem stale_token_sent_elsewhere :
    let line : Line (List (Except Fault Response × Url)) :=
      ⟨rootOf "h", [(answerOf 401 "text/plain", (rootOf "elsewhere").url),
        (answerOf 200 "text/plain", (rootOf "elsewhere").url)]⟩
    let layer : Layer (List (Except Fault Response × Url)) := ⟨.blocking, "h", pure twoTokens⟩
    let sends := (layer.watch.send (watch replayElsewhere) .warning
      (line.watched [] [])).state.peer.sends
    KeepsCredentials replayElsewhere ∧ line.request.header authorization = .ok none ∧
    sends.map (·.authority) = [.ok "h", .ok "elsewhere"] ∧
    sends.map (·.header authorization) = [.ok (some "Bearer a"), .ok (some "Bearer a")] :=
  ⟨keepsCredentials_replayElsewhere, rfl, rfl, rfl⟩

end AuthRelay.Relay
