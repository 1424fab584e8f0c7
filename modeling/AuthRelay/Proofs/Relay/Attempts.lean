import AuthRelay.Proofs.Relay.Stamp
import Mathlib.Data.List.Forall2
/-!
# What the attempts consist of

Between two attempts a rejected response is set aside, and setting it aside never touches the line.
With that step named, an attempt is the writing of its header and what comes onward from there, and
properties of whole runs follow from properties of the writing and of the carrier: those that every
attempt keeps, and those in which two runs are alike.
-/
namespace AuthRelay.Relay

variable {σ τ ν : Type}

/-! ## Setting a rejection aside -/

/-- What follows a rejection: the response is drained, and the rejection is recorded. -/
def setAside (response : Response) (attempt total : Nat) : Act (Line σ) Unit := do
  let drained ← onResponse response Response.drain
  logRejection drained attempt total

/-- Whether a response can be set aside: its body has to be read and, if the rejection is to be
recorded, the text of the body has to be found. -/
def asideResult (level : Level) (response : Response) : Except Fault Unit :=
  match (Response.drain level response).result with
  | .error fault => .error fault
  | .ok () =>
    if Level.debug.passes level then (Response.drain level response).state.text.map fun _ => ()
    else .ok ()

/-- A response cannot be set aside because its body cannot be read, or because its body has no text
to be recorded; otherwise it can. -/
theorem asideResult_cases (level : Level) (response : Response) :
    (∃ fault, (Response.drain level response).result = .error fault ∧
      asideResult level response = .error fault) ∨
    ((Response.drain level response).result = .ok () ∧ Level.debug.passes level = true ∧
      ∃ fault, (Response.drain level response).state.text = .error fault ∧
        asideResult level response = .error fault) ∨
    ((Response.drain level response).result = .ok () ∧
      (Level.debug.passes level = true →
        ∀ fault, (Response.drain level response).state.text ≠ .error fault) ∧
      asideResult level response = .ok ()) := by
  unfold asideResult
  cases (Response.drain level response).result with
  | error fault => exact .inl ⟨fault, rfl, rfl⟩
  | ok _ =>
    cases Level.debug.passes level with
    | false => exact .inr (.inr ⟨rfl, by simp, rfl⟩)
    | true =>
      cases (Response.drain level response).state.text with
      | error fault => exact .inr (.inl ⟨rfl, rfl, fault, rfl, rfl⟩)
      | ok body => exact .inr (.inr ⟨rfl, by simp, rfl⟩)

theorem onResponse_run {α : Type} (response : Response) (act : Act Response α) (level : Level)
    (line : Line σ) : onResponse response act level line =
      ⟨(act level response).result.map fun _ => (act level response).state, line,
        (act level response).journal⟩ := by
  have hrun : Act.within (σ := Line σ) response act level line =
      ⟨.ok ((act level response).result, (act level response).state), line,
        (act level response).journal⟩ := rfl
  have hresult := Act.ofExcept_run (act level response).result level line
  unfold onResponse
  rw [Act.bind_of_ok hrun]
  dsimp only
  cases ho : (act level response).result with
  | error fault =>
    rw [ho] at hresult
    rw [Act.bind_of_error hresult]
    simp [Except.map]
  | ok a =>
    rw [ho] at hresult
    rw [Act.bind_of_ok hresult]
    simp [Except.map, Act.pure_def]

/-- Recording a rejection needs the text of its body, and makes at most an entry in the journal. -/
theorem logRejection_run (response : Response) (attempt total : Nat) (level : Level)
    (line : Line σ) : logRejection response attempt total level line =
      if Level.debug.passes level then
        match response.text with
        | .error fault => ⟨.error fault, line, []⟩
        | .ok body => ⟨.ok (), line,
            [.record ⟨.debug, .relay, rejectionText line.request response attempt total body⟩]⟩
      else ⟨.ok (), line, []⟩ := by
  have hrun : Act.writes (σ := Line σ) .debug level line =
      ⟨.ok (Level.debug.passes level), line, []⟩ := rfl
  unfold logRejection
  rw [Act.bind_of_ok hrun]
  cases hp : Level.debug.passes level with
  | false => rfl
  | true =>
    cases ht : response.text with
    | error fault =>
      simp only [if_true]
      rw [Act.bind_of_error (Act.ofExcept_run _ _ _)]
      rfl
    | ok body =>
      simp only [if_true]
      rw [Act.bind_of_ok (Act.ofExcept_run _ _ _), Act.get_bind_run]
      simp [Act.log, hp]

/-- What setting a response aside enters in the journal: the dealings with its stream and, if the
rejection is to be recorded and can be, the record. -/
def asideEntries (level : Level) (request : Request) (response : Response)
    (attempt total : Nat) : List Mark :=
  let drained := Response.drain level response
  let records := match drained.result, Level.debug.passes level, drained.state.text with
    | .ok (), true, .ok body =>
      [.record ⟨.debug, .relay, rejectionText request drained.state attempt total body⟩]
    | _, _, _ => []
  drained.journal ++ records

/-- Setting a rejection aside leaves the line as it is, whatever comes of it. -/
theorem setAside_run (response : Response) (attempt total : Nat) (level : Level)
    (line : Line σ) : setAside response attempt total level line =
      ⟨asideResult level response, line,
        asideEntries level line.request response attempt total⟩ := by
  have hdrain := onResponse_run response Response.drain level line
  unfold setAside asideResult asideEntries
  dsimp only
  cases hr : (Response.drain level response).result with
  | error fault =>
    rw [hr] at hdrain
    rw [Act.bind_of_error hdrain]
    simp
  | ok _ =>
    rw [hr] at hdrain
    rw [Act.bind_of_ok hdrain, logRejection_run]
    cases Level.debug.passes level with
    | false => simp
    | true =>
      cases (Response.drain level response).state.text with
      | error fault => simp [Except.map]
      | ok body => simp [Except.map]

/-! ## One attempt after another -/

/-- What follows once the header of an attempt has been written: the send, and the other attempts
if the response is rejected. -/
def onward (target : String) (callerHeader : Option String) (total : Nat) (next : Carrier σ)
    (attempt : Nat) : List CredentialSet → Act (Line σ) Response
  | [] => next
  | following :: rest => do
    let response ← next
    if response.isRejection then
      setAside response attempt total
      attempts target callerHeader total next (attempt + 1) following rest
    else pure response

variable {target : String} {callerHeader : Option String} {total : Nat} {next : Carrier σ}

theorem attempts_eq (attempt : Nat) (candidate : CredentialSet) (rest : List CredentialSet) :
    attempts target callerHeader total next attempt candidate rest =
      authorize target callerHeader candidate >>= fun _ =>
        onward target callerHeader total next attempt rest := by
  cases rest with
  | nil => rfl
  | cons following rest =>
    simp only [attempts, onward, setAside, bind_assoc]

/-- An attempt before the last one, and what becomes of its answer. -/
theorem attempts_cons (attempt : Nat) (candidate following : CredentialSet)
    (rest : List CredentialSet) :
    attempts target callerHeader total next attempt candidate (following :: rest) =
      (authorize target callerHeader candidate >>= fun _ => next) >>= fun response =>
        if response.isRejection then do
          setAside response attempt total
          attempts target callerHeader total next (attempt + 1) following rest
        else pure response := by
  rw [attempts_eq, bind_assoc]
  rfl

/-- The attempts with a list of candidates and with those after it. -/
theorem attempts_append (attempt : Nat) (candidate : CredentialSet)
    (rest : List CredentialSet) (following : CredentialSet) (others : List CredentialSet) :
    attempts target callerHeader total next attempt candidate (rest ++ following :: others) =
      attempts target callerHeader total next attempt candidate rest >>= fun response =>
        if response.isRejection then do
          setAside response (attempt + rest.length) total
          attempts target callerHeader total next (attempt + rest.length + 1) following others
        else pure response := by
  induction rest generalizing attempt candidate with
  | nil =>
    simp only [List.nil_append, List.length_nil, Nat.add_zero]
    rw [attempts_eq attempt candidate [], attempts_eq attempt candidate (following :: others),
      bind_assoc]
    rfl
  | cons c rest ih =>
    -- the first attempt is the same on both sides, and so is setting its rejection aside
    rw [List.cons_append, attempts_eq, attempts_eq attempt candidate (c :: rest)]
    simp only [onward, bind_assoc]
    congr 1
    funext _
    congr 1
    funext response
    by_cases hr : response.isRejection = true
    · simp only [if_pos hr, bind_assoc]
      congr 1
      funext _
      rw [ih, List.length_cons, Nat.add_right_comm attempt 1, Nat.add_assoc attempt]
    · simp only [if_neg hr, pure_bind]

/-! ## Before the first attempt -/

section

variable {gather : Act σ Candidates} {level : Level} {request : Request} {start peer : σ}
  {journal : List Mark}

/-- Without candidates the request is not even looked at. -/
theorem prepare_of_gather_error (request : Request) {fault : Fault}
    (h : gather level start = ⟨.error fault, peer, journal⟩) :
    prepare gather level ⟨request, start⟩ = ⟨.error fault, ⟨request, peer⟩, journal⟩ := by
  have hpeer : Line.onPeer gather level ⟨request, start⟩ =
      ⟨.error fault, ⟨request, peer⟩, journal⟩ := by
    simp only [Line.onPeer, Act.zoom, h]
  exact Act.bind_of_error hpeer

theorem blocking_of_gather_error (target : String) (next : Carrier σ) (request : Request)
    {fault : Fault} (h : gather level start = ⟨.error fault, peer, journal⟩) :
    blocking target gather next level ⟨request, start⟩ =
      ⟨.error fault, ⟨request, peer⟩, journal⟩ :=
  Act.bind_of_error (prepare_of_gather_error request h)

/-- What the call starts from once it has its candidates. -/
theorem prepare_of_gather_ok (request : Request) {candidates : Candidates}
    (h : gather level start = ⟨.ok candidates, peer, journal⟩) :
    prepare gather level ⟨request, start⟩ =
      ⟨(request.header authorization).map (candidates, ·), ⟨request.settle, peer⟩, journal⟩ := by
  have hpeer : Line.onPeer gather level ⟨request, start⟩ =
      ⟨.ok candidates, ⟨request, peer⟩, journal⟩ := by
    simp only [Line.onPeer, Act.zoom, h]
  have hheader : Line.header authorization level (⟨request, peer⟩ : Line σ) =
      ⟨request.header authorization, ⟨request.settle, peer⟩, []⟩ := rfl
  unfold prepare
  rw [Act.bind_of_ok hpeer]
  cases hv : request.header authorization with
  | error fault =>
    rw [hv] at hheader
    rw [Act.bind_of_error hheader]
    simp [Except.map]
  | ok entry =>
    rw [hv] at hheader
    rw [Act.bind_of_ok hheader]
    simp [Except.map, Act.pure_def]

/-- A header that cannot be read ends the call before the first attempt. -/
theorem blocking_of_header_error (target : String) (next : Carrier σ) {candidates : Candidates}
    {fault : Fault} (h : gather level start = ⟨.ok candidates, peer, journal⟩)
    (hv : request.header authorization = .error fault) :
    blocking target gather next level ⟨request, start⟩ =
      ⟨.error fault, ⟨request.settle, peer⟩, journal⟩ := by
  have hprepare := prepare_of_gather_ok request h
  rw [hv] at hprepare
  exact Act.bind_of_error hprepare

/-- With candidates and a header that can be read, the call consists of its attempts. -/
theorem blocking_of_header_ok (target : String) (next : Carrier σ) {candidates : Candidates}
    {entry : Option String} (h : gather level start = ⟨.ok candidates, peer, journal⟩)
    (hv : request.header authorization = .ok entry) :
    let run := attempts target entry candidates.toList.length next 1 candidates.first
      candidates.rest level ⟨request.settle, peer⟩
    blocking target gather next level ⟨request, start⟩ =
      ⟨run.result, run.state, journal ++ run.journal⟩ := by
  have hprepare := prepare_of_gather_ok request h
  rw [hv] at hprepare
  exact Act.bind_of_ok hprepare

end

/-! ## What a run keeps, and runs that are alike -/

theorem onResponse_keeps {α : Type} (P : Line σ → Prop) (response : Response)
    (act : Act Response α) : Act.Keeps P (onResponse response act) := by
  intro level line h
  rw [onResponse_run]
  exact h

theorem logRejection_keeps (P : Line σ → Prop) (response : Response) (attempt total : Nat) :
    Act.Keeps P (logRejection response attempt total) := by
  intro level line h
  rw [logRejection_run]
  cases Level.debug.passes level with
  | false => exact h
  | true => cases response.text <;> exact h

theorem setAside_keeps (P : Line σ → Prop) (response : Response) (attempt total : Nat) :
    Act.Keeps P (setAside response attempt total) :=
  (onResponse_keeps P response Response.drain).bind fun drained =>
    logRejection_keeps P drained attempt total

/-- What the writing of every header and the carrier keep, the attempts keep. -/
theorem attempts_keeps {P : Line σ → Prop} (hnext : Act.Keeps P next) {candidate : CredentialSet}
    {rest : List CredentialSet}
    (hwrite : ∀ c ∈ candidate :: rest, Act.Keeps P (authorize target callerHeader c))
    (attempt : Nat) :
    Act.Keeps P (attempts target callerHeader total next attempt candidate rest) := by
  induction rest generalizing attempt candidate with
  | nil => exact (hwrite candidate (by simp)).bind fun _ => hnext
  | cons following rest ih =>
    rw [attempts_eq]
    refine (hwrite candidate (by simp)).bind fun _ => hnext.bind fun response => ?_
    refine .ite ?_ (.pure response)
    exact (setAside_keeps P response attempt total).bind fun _ =>
      ih (fun c hc => hwrite c (by simp [hc])) (attempt + 1)

/-- Rejections are recorded alike if the requests are the same. -/
theorem logRejection_alike {R : Line σ → Line τ → Prop} (see : Mark → Option ν)
    (hR : ∀ line line', R line line' → line.request = line'.request) (response : Response)
    (attempt total : Nat) :
    Act.Alike R see (logRejection response attempt total)
      (logRejection response attempt total) := by
  intro level line line' h
  rw [Act.alikeAt_iff, logRejection_run, logRejection_run, hR line line' h]
  cases Level.debug.passes level with
  | false => exact ⟨rfl, h, rfl⟩
  | true => cases response.text <;> exact ⟨rfl, h, rfl⟩

/-- To one who does not see the records, rejections are recorded alike whatever their numbers. -/
theorem logRejection_alike_of_unseen {R : Line σ → Line τ → Prop} {see : Mark → Option ν}
    (hsee : ∀ r, see (.record r) = none) (response : Response)
    (attempt total attempt' total' : Nat) :
    Act.Alike R see (logRejection response attempt total)
      (logRejection response attempt' total') := by
  intro level line line' h
  rw [Act.alikeAt_iff, logRejection_run, logRejection_run]
  cases Level.debug.passes level with
  | false => exact ⟨rfl, h, rfl⟩
  | true =>
    cases response.text with
    | error fault => exact ⟨rfl, h, rfl⟩
    | ok body => exact ⟨rfl, h, by simp [hsee]⟩

theorem onResponse_alike {α : Type} {R : Line σ → Line τ → Prop} {see : Mark → Option ν}
    (response : Response) (act : Act Response α) :
    Act.Alike R see (onResponse response act) (onResponse response act) := by
  intro level line line' h
  rw [Act.alikeAt_iff, onResponse_run, onResponse_run]
  exact ⟨rfl, h, rfl⟩

theorem setAside_alike {R : Line σ → Line τ → Prop} {see : Mark → Option ν}
    {attempt total attempt' total' : Nat}
    (hlog : ∀ drained, Act.Alike R see (logRejection drained attempt total)
      (logRejection drained attempt' total')) (response : Response) :
    Act.Alike R see (setAside response attempt total) (setAside response attempt' total') :=
  (onResponse_alike response Response.drain).bind hlog

/-- Two runs are alike if the carriers are, the headers are written alike, and the rejections are
recorded alike. The numbers of the attempts may be apart. -/
theorem onward_alike {R : Line σ → Line τ → Prop} {see : Mark → Option ν} {target' : String}
    {callerHeader' : Option String} {total' : Nat} {next' : Carrier τ} (apart : Nat)
    (hnext : Act.Alike R see next next')
    (hlog : ∀ drained k, Act.Alike R see (logRejection drained k total)
      (logRejection drained (k + apart) total'))
    {rest rest' : List CredentialSet}
    (hwrite : List.Forall₂ (fun c c' => Act.Alike R see (authorize target callerHeader c)
      (authorize target' callerHeader' c')) rest rest') (attempt : Nat) :
    Act.Alike R see (onward target callerHeader total next attempt rest)
      (onward target' callerHeader' total' next' (attempt + apart) rest') := by
  induction hwrite generalizing attempt with
  | nil => exact hnext
  | cons h _ ih =>
    refine hnext.bind fun response => .ite ?_ (.pure response)
    refine (setAside_alike (hlog · attempt) response).bind fun _ => ?_
    rw [attempts_eq, attempts_eq, Nat.add_right_comm]
    exact h.bind fun _ => ih (attempt + 1)

end AuthRelay.Relay
