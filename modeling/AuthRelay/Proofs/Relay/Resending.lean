import AuthRelay.Proofs.Relay.Stacks
/-!
# A request that is sent again

A call leaves on the request what its last attempt has written, and the next call with the same
request takes what it finds there for the caller's own header. So a candidate that has nothing to
write puts back the caller's header only as long as no call has ended with one that has: from then
on it puts back the header of the candidate with which the last such call has ended.
-/
namespace AuthRelay.Relay

variable {σ : Type}

/-- What a call through a layer tries: its candidates in order, each with the request as it was
sent. -/
def trialsOf (layer : Layer σ) (next : Carrier σ) (level : Level) (line : Line σ) :
    List (CredentialSet × Request) :=
  match (layer.gather level line.peer).result with
  | .error _ => []
  | .ok candidates =>
    candidates.toList.zip (layer.watch.send (watch next) level (line.watched [] [])).state.peer.sends

/-- What several calls with one request try. Each finds the request as the call before it has left
it, and the threshold and the other side in any state. -/
def trialsOfCalls (layer : Layer σ) (next : Carrier σ) :
    Request → List (Level × σ) → List (List (CredentialSet × Request))
  | _, [] => []
  | request, (level, peer) :: rest =>
    trialsOf layer next level ⟨request, peer⟩ ::
      trialsOfCalls layer next (layer.send next level ⟨request, peer⟩).state.request rest

/-- The header of the candidate that a call has tried last. -/
def lastHeader (trials : List (CredentialSet × Request)) : Option String :=
  trials.getLast?.bind (·.1.authorization?)

/-- The header that some calls have left on the request: that of the last of them which has tried a
candidate with a header last. -/
def leftBehind (calls : List (List (CredentialSet × Request))) : Option String :=
  (calls.filterMap lastHeader).getLast?

theorem leftBehind_cons (trials : List (CredentialSet × Request))
    (calls : List (List (CredentialSet × Request))) :
    leftBehind (trials :: calls) = (leftBehind calls).or (lastHeader trials) := by
  unfold leftBehind
  cases hl : lastHeader trials with
  | none => simp [hl]
  | some value =>
    rw [List.filterMap_cons, hl, List.getLast?_cons]
    cases (calls.filterMap lastHeader).getLast? <;> rfl

theorem authorization?_of_shapeless {c : CredentialSet} (h : c.activeShape = none) :
    c.authorization? = none := by
  rw [CredentialSet.authorization?, h]

/-! ## One call -/

section

variable {level : Level} {target : String} {entry value : Option String} {next : Carrier σ}

/-- As long as nobody else edits a request for the target, it stays one, every trial carries what
belongs to its candidate, and the last of them shows in the end. -/
theorem Trials.of_untouching (hnext : Untouching next) {start finish : Line σ}
    {trials : List (CredentialSet × Request)}
    (h : Trials level target entry next start trials finish)
    (haddr : start.request.AddressedTo target)
    (hstart : start.request.header authorization = .ok value) :
    (∀ c sent, (c, sent) ∈ trials → sent.AddressedTo target ∧
      sent.header authorization = .ok (c.authorization?.or entry)) ∧
    finish.request.AddressedTo target ∧
    finish.request.header authorization =
      .ok ((trials.getLast?.map fun trial => trial.1.authorization?.or entry).getD value) := by
  induction h generalizing value with
  | done => exact ⟨by simp, haddr, hstart⟩
  | unwritten hr =>
    rw [authorize_run] at hr ⊢
    rw [Request.stamp_of_error hr]
    exact ⟨by simp, haddr, hstart⟩
  | @sent c line finish later hwritten hlater ih =>
    have hkept := hnext level (authorize target entry c level line).state
    rcases authorize_cases hwritten with ⟨hready, hheader⟩ | ⟨hnot, hready⟩
    · obtain ⟨htrials, hfinish, hlast⟩ := ih ((hkept.sameAddress.addressedTo target).mpr hready)
        ((hkept.header_eq authorization).trans hheader)
      refine ⟨fun d sent hmem => ?_, hfinish, ?_⟩
      · rcases List.mem_cons.mp hmem with heq | hmem
        · cases heq
          exact ⟨hready, hheader⟩
        · exact htrials d sent hmem
      · rw [hlast, List.getLast?_cons]
        cases later.getLast? <;> rfl
    · rw [hready] at hnot
      exact absurd haddr hnot

end

section

variable {layer : Layer σ} {next : Carrier σ}

/-- The trials of a call account for everything that it sends. -/
theorem map_snd_trialsOf (layer : Layer σ) (next : Carrier σ) (level : Level) (line : Line σ) :
    (trialsOf layer next level line).map Prod.snd =
      (layer.watch.send (watch next) level (line.watched [] [])).state.peer.sends := by
  have hgoes := layer.goes next level line
  unfold trialsOf
  generalize layer.send next level line = run at hgoes
  generalize (layer.watch.send (watch next) level (line.watched [] [])).state.peer.sends = sends
    at hgoes ⊢
  cases hgoes with
  | unsupplied hgather => simp only [hgather, List.map_nil]
  | unreadable hgather => simp only [hgather, List.zip_nil_right, List.map_nil]
  | course hgather hheader hcourse =>
    rw [hgather]
    exact List.map_snd_zip hcourse.trials.1

/-- A call tries nothing and leaves the request alone, or the header of the request can be read and
what the call does to the request is to try its candidates. -/
theorem trialsOf_cases (layer : Layer σ) (next : Carrier σ) (level : Level) (line : Line σ) :
    let finish := (layer.send next level line).state
    (trialsOf layer next level line = [] ∧ finish.request.Untouched line.request) ∨
    ∃ entry peer, line.request.header authorization = .ok entry ∧
      Trials level layer.target entry next ⟨line.request.settle, peer⟩
        (trialsOf layer next level line) finish := by
  have hgoes := layer.goes next level line
  unfold trialsOf
  generalize layer.send next level line = run at hgoes ⊢
  generalize (layer.watch.send (watch next) level (line.watched [] [])).state.peer.sends = sends
    at hgoes ⊢
  cases hgoes with
  | unsupplied hgather => exact .inl ⟨by simp only [hgather], rfl, rfl⟩
  | unreadable hgather => exact .inl ⟨by simp only [hgather, List.zip_nil_right], rfl, rfl⟩
  | course hgather hheader hcourse =>
    rw [hgather]
    exact .inr ⟨_, _, hheader, hcourse.trials.2⟩

/-- Nothing is tried with a request whose header cannot be read, and it stays that way. -/
theorem trialsOf_of_header_error (layer : Layer σ) (next : Carrier σ) (level : Level)
    (line : Line σ) {fault : Fault} (hv : line.request.header authorization = .error fault) :
    trialsOf layer next level line = [] ∧
      (layer.send next level line).state.request.header authorization = .error fault := by
  rcases trialsOf_cases layer next level line with ⟨hnone, hkept⟩ | ⟨entry, peer, hentry, -⟩
  · exact ⟨hnone, (hkept.header_eq authorization).trans hv⟩
  · rw [hv] at hentry
    cases hentry

/-- What a call with a request for the target tries, and what it leaves on the request. -/
theorem trialsOf_header (hnext : Untouching next) (level : Level) (line : Line σ)
    {found : Option String} (haddr : line.request.AddressedTo layer.target)
    (hv : line.request.header authorization = .ok found) :
    let trials := trialsOf layer next level line
    let finish := (layer.send next level line).state.request
    (∀ c sent, (c, sent) ∈ trials → sent.AddressedTo layer.target ∧
      sent.header authorization = .ok (c.authorization?.or found)) ∧
    finish.AddressedTo layer.target ∧
    finish.header authorization = .ok ((lastHeader trials).or found) := by
  rcases trialsOf_cases layer next level line with ⟨hnone, hkept⟩ | ⟨entry, peer, hentry, htrials⟩
  · rw [hnone]
    exact ⟨by simp, (hkept.sameAddress.addressedTo layer.target).mpr haddr,
      (hkept.header_eq authorization).trans hv⟩
  · cases hv.symm.trans hentry
    obtain ⟨hsent, hfinish, hlast⟩ := htrials.of_untouching hnext haddr hv
    refine ⟨hsent, hfinish, hlast.trans ?_⟩
    unfold lastHeader
    cases (trialsOf layer next level line).getLast? <;> rfl

end

/-! ## Several calls with one request -/

section

variable {layer : Layer σ} {next : Carrier σ} {request : Request}

theorem trialsOfCalls_of_header_error (layer : Layer σ) (next : Carrier σ) {fault : Fault}
    (hv : request.header authorization = .error fault) (settings : List (Level × σ)) :
    ∀ trials ∈ trialsOfCalls layer next request settings, trials = [] := by
  induction settings generalizing request with
  | nil => simp [trialsOfCalls]
  | cons setting rest ih =>
    obtain ⟨level, peer⟩ := setting
    obtain ⟨htrials, hend⟩ := trialsOf_of_header_error layer next level ⟨request, peer⟩ hv
    rw [trialsOfCalls]
    exact List.forall_mem_cons.mpr ⟨htrials, ih hend⟩

/-- A trial carries the header of its candidate. If that has none, it carries what the calls before
have left, and the caller's own header only if they have left nothing. -/
theorem trialsOfCalls_header (hnext : Untouching next)
    (haddr : request.AddressedTo layer.target) {caller : Option String}
    (hv : request.header authorization = .ok caller) {settings : List (Level × σ)}
    {before after : List (List (CredentialSet × Request))}
    {trials : List (CredentialSet × Request)}
    (hcalls : trialsOfCalls layer next request settings = before ++ trials :: after)
    {c : CredentialSet} {sent : Request} (hmem : (c, sent) ∈ trials) :
    sent.AddressedTo layer.target ∧
      sent.header authorization = .ok (c.authorization?.or ((leftBehind before).or caller)) := by
  induction settings generalizing request caller before with
  | nil => simp [trialsOfCalls] at hcalls
  | cons setting rest ih =>
    obtain ⟨level, peer⟩ := setting
    obtain ⟨htrials, hend, hheader⟩ := trialsOf_header hnext level ⟨request, peer⟩ haddr hv
    rw [trialsOfCalls] at hcalls
    cases before with
    | nil =>
      obtain ⟨rfl, -⟩ := List.cons.inj hcalls
      exact htrials c sent hmem
    | cons first before =>
      obtain ⟨rfl, hlater⟩ := List.cons.inj hcalls
      rw [leftBehind_cons, Option.or_assoc]
      exact ih hend hheader hlater

end

/-- What the sends of one request through a relay carry, call after call, when the request is for
the target and neither its caller nor the carrier edits it in between. The trials of a call account
for all its sends, and each is for the target. It carries the header of its candidate, or what the
calls before have left behind if the candidate has none, or the caller's own header if they have
left nothing. So the candidates without an active shape are tried with the caller's own header
throughout if and only if the calls before such a trial have left nothing else. -/
theorem resent_header (layer : Layer σ) {next : Carrier σ} (hnext : Untouching next)
    {request : Request} (haddr : request.AddressedTo layer.target)
    (settings : List (Level × σ)) :
    let calls := trialsOfCalls layer next request settings
    (∀ level line, (trialsOf layer next level line).map Prod.snd =
      (layer.watch.send (watch next) level (line.watched [] [])).state.peer.sends) ∧
    (∀ fault, request.header authorization = .error fault → ∀ trials ∈ calls, trials = []) ∧
    ∀ caller, request.header authorization = .ok caller →
      (∀ before trials after, calls = before ++ trials :: after → ∀ c sent, (c, sent) ∈ trials →
        sent.AddressedTo layer.target ∧ sent.header authorization =
          .ok (c.authorization?.or ((leftBehind before).or caller))) ∧
      ((∀ trials ∈ calls, ∀ c sent, (c, sent) ∈ trials → c.activeShape = none →
          sent.header authorization = .ok caller) ↔
        ∀ before trials after, calls = before ++ trials :: after →
          (∃ c sent, (c, sent) ∈ trials ∧ c.activeShape = none) →
          (leftBehind before).or caller = caller) := by
  intro calls
  refine ⟨map_snd_trialsOf layer next,
    fun fault hv => trialsOfCalls_of_header_error layer next hv settings, fun caller hv => ?_⟩
  have hheader : ∀ before trials after, calls = before ++ trials :: after →
      ∀ c sent, (c, sent) ∈ trials → sent.AddressedTo layer.target ∧
        sent.header authorization = .ok (c.authorization?.or ((leftBehind before).or caller)) :=
    fun before trials after hcalls c sent => trialsOfCalls_header hnext haddr hv hcalls
  refine ⟨hheader, ?_, ?_⟩
  · rintro hown before trials after hcalls ⟨c, sent, hmem, hshape⟩
    have hfound := (hheader before trials after hcalls c sent hmem).2
    rw [authorization?_of_shapeless hshape, Option.none_or,
      hown trials (by rw [hcalls]; simp) c sent hmem hshape] at hfound
    exact (Except.ok.inj hfound).symm
  · intro hleft trials htrials c sent hmem hshape
    obtain ⟨before, after, hcalls⟩ := List.append_of_mem htrials
    rw [(hheader before trials after hcalls c sent hmem).2, authorization?_of_shapeless hshape,
      Option.none_or, hleft before trials after hcalls ⟨c, sent, hmem, hshape⟩]

/-- A request is sent twice with a token and then with an empty set, and the token is rejected both
times. The first call ends with the empty set, so it leaves nothing, and the empty set is tried
without a header in the second call too. -/
theorem resent_header_after_empty_set :
    let layer : Layer (List (Except Fault Response)) :=
      ⟨.blocking, "h", pure ⟨{ registryToken := "a" }, [{}]⟩⟩
    let answers := [answerOf 401 "text/plain", answerOf 200 "text/plain"]
    let calls := trialsOfCalls layer replay (rootOf "h") [(.warning, answers), (.warning, answers)]
    Untouching replay ∧ (rootOf "h").AddressedTo layer.target ∧
    calls.map (·.map (·.1.activeShape)) = [[some .bearer, none], [some .bearer, none]] ∧
    ∀ trials ∈ calls, ∀ c sent, (c, sent) ∈ trials → c.activeShape = none →
      sent.header authorization = .ok none := by
  have haddr : (rootOf "h").AddressedTo "h" := .inr rfl
  have hcalls := resent_header (⟨.blocking, "h", pure ⟨{ registryToken := "a" }, [{}]⟩⟩ : Layer _)
    untouching_replay haddr
    [(.warning, [answerOf 401 "text/plain", answerOf 200 "text/plain"]),
      (.warning, [answerOf 401 "text/plain", answerOf 200 "text/plain"])]
  refine ⟨untouching_replay, haddr, rfl, (hcalls.2.2 none rfl).2.mpr ?_⟩
  rintro before trials after heq -
  -- nothing is left before the first call or the second, and there is no third one
  cases before with
  | nil => rfl
  | cons first before =>
    obtain ⟨rfl, hlater⟩ := List.cons.inj heq
    cases before with
    | nil => rfl
    | cons second before =>
      obtain ⟨-, hnone⟩ := List.cons.inj hlater
      simp [trialsOfCalls] at hnone

/-- A token left behind: the first call is answered at the token, and in the second call, with the
same request, the empty set is tried with that token, though the caller had put no header there. -/
theorem stale_token_resent :
    let layer : Layer (List (Except Fault Response)) :=
      ⟨.blocking, "h", pure ⟨{ registryToken := "a" }, [{}]⟩⟩
    let calls := trialsOfCalls layer replay (rootOf "h") [(.warning, [answerOf 200 "text/plain"]),
      (.warning, [answerOf 401 "text/plain", answerOf 200 "text/plain"])]
    Untouching replay ∧ (rootOf "h").AddressedTo layer.target ∧
    (rootOf "h").header authorization = .ok none ∧
    calls.map (·.map fun (c, sent) => (c.activeShape, sent.header authorization)) =
      [[(some .bearer, .ok (some "Bearer a"))],
        [(some .bearer, .ok (some "Bearer a")), (none, .ok (some "Bearer a"))]] :=
  ⟨untouching_replay, .inr rfl, rfl, rfl⟩

end AuthRelay.Relay
