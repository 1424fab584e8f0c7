import AuthRelay.Proofs.Relay.Watch
/-!
# The course of a call

The attempts that are possible are laid out in advance, each from where the one before it ended; a
call makes the first few of them. Its course says which they are, where the call stops and what it
answers, and what the relay enters in the journal after each of them. There is one rule for every
way in which an attempt can end, so that what holds of whole calls follows by induction on their
courses. For what the requests carry it is enough to know the trials of a course: the candidates in
order, each with the request as it was sent.
-/
namespace AuthRelay.Relay

variable {σ : Type}

/-- An attempt with a candidate, as it is made from a line. -/
structure Attempt (σ : Type) where
  candidate : CredentialSet
  start : Line σ
  /-- What comes of writing the header. -/
  written : Except Fault Unit
  /-- The line once the header has been written. -/
  ready : Line σ
  /-- What the carrier answers, or the failure that kept the request from it. -/
  answer : Except Fault Response
  finish : Line σ

namespace Attempt

/-- The attempt with a candidate from a line. -/
def make (level : Level) (target : String) (entry : Option String) (next : Carrier σ)
    (candidate : CredentialSet) (start : Line σ) : Attempt σ :=
  let writing := authorize target entry candidate level start
  match writing.result with
  | .error fault => ⟨candidate, start, .error fault, writing.state, .error fault, writing.state⟩
  | .ok () =>
    let sending := next level writing.state
    ⟨candidate, start, .ok (), writing.state, sending.result, sending.state⟩

/-- The attempts with some candidates, each from where the one before it ended. -/
def series (level : Level) (target : String) (entry : Option String) (next : Carrier σ) :
    List CredentialSet → Line σ → List (Attempt σ)
  | [], _ => []
  | candidate :: rest, start =>
    let first := make level target entry next candidate start
    first :: series level target entry next rest first.finish

theorem length_series (level : Level) (target : String) (entry : Option String)
    (next : Carrier σ) (candidates : List CredentialSet) (start : Line σ) :
    (series level target entry next candidates start).length = candidates.length := by
  induction candidates generalizing start with
  | nil => rfl
  | cons candidate rest ih => exact congrArg (· + 1) (ih _)

/-- The requests that an attempt sends: one, or none if the header could not be written. -/
def sends (a : Attempt σ) : List Request :=
  match a.written with
  | .ok () => [a.ready.request]
  | .error _ => []

/-- What the carrier enters in the journal during an attempt. -/
def entries (level : Level) (next : Carrier σ) (a : Attempt σ) : List Mark :=
  match a.written with
  | .ok () => (next level a.ready).journal
  | .error _ => []

/-- An attempt either ends with the writing of its header, or it is a send. -/
theorem make_cases (level : Level) (target : String) (entry : Option String) (next : Carrier σ)
    (candidate : CredentialSet) (start : Line σ) :
    let a := make level target entry next candidate start
    let writing := authorize target entry candidate level start
    (∃ fault, writing.result = .error fault ∧ a.answer = .error fault ∧
      a.finish = writing.state ∧ a.sends = [] ∧ a.entries level next = []) ∨
    (writing.result = .ok () ∧ a.answer = (next level writing.state).result ∧
      a.finish = (next level writing.state).state ∧ a.sends = [writing.state.request] ∧
      a.entries level next = (next level writing.state).journal) := by
  unfold make
  dsimp only
  cases (authorize target entry candidate level start).result with
  | error fault => exact .inl ⟨fault, rfl, rfl, rfl, rfl, rfl⟩
  | ok _ => exact .inr ⟨rfl, rfl, rfl, rfl, rfl⟩

/-- An attempt fails without a send, or the carrier answers it. -/
def Reaches (level : Level) (next : Carrier σ) (a : Attempt σ) : Prop :=
  (∃ fault, a.answer = .error fault ∧ a.sends = [] ∧ a.entries level next = []) ∨
  ∃ sent, a.answer = (next level sent).result ∧ a.finish = (next level sent).state ∧
    a.sends = [sent.request] ∧ a.entries level next = (next level sent).journal

theorem reaches_of_mem_series {level : Level} {target : String} {entry : Option String}
    {next : Carrier σ} {candidates : List CredentialSet} {start : Line σ} {a : Attempt σ}
    (h : a ∈ series level target entry next candidates start) : a.Reaches level next := by
  induction candidates generalizing start with
  | nil => simp [series] at h
  | cons candidate rest ih =>
    rcases List.mem_cons.mp h with rfl | h
    · rcases make_cases level target entry next candidate start with
        ⟨fault, -, hanswer, -, hsends, hentries⟩ | ⟨-, hanswer, hfinish, hsends, hentries⟩
      · exact .inl ⟨fault, hanswer, hsends, hentries⟩
      · exact .inr ⟨_, hanswer, hfinish, hsends, hentries⟩
    · exact ih h

end Attempt

/-- An attempt that is made, and what the relay enters in the journal once it has been answered. -/
structure Made (σ : Type) where
  attempt : Attempt σ
  aside : List Mark

/-- The course of a call over the attempts that are possible, from the one with the given number
on. -/
inductive Course (level : Level) (total : Nat) :
    Nat → List (Attempt σ) → Except Fault Response → Line σ → List (Made σ) → Prop
  /-- The answer to the last candidate is final, whatever it is. -/
  | last {number : Nat} (a : Attempt σ) :
    Course level total number [a] a.answer a.finish [⟨a, []⟩]
  /-- A failure is final, and so is a response that is not rejected. -/
  | settled {number : Nat} {a : Attempt σ} {later : List (Attempt σ)}
      (h : ∀ response, a.answer = .ok response → ¬ response.isRejection = true) :
    Course level total number (a :: later) a.answer a.finish [⟨a, []⟩]
  /-- A rejected response that cannot be set aside ends the call. -/
  | stuck {number : Nat} {a : Attempt σ} {later : List (Attempt σ)} {response : Response}
      {fault : Fault} (hlater : later ≠ []) (h : a.answer = .ok response)
      (hr : response.isRejection = true) (haside : asideResult level response = .error fault) :
    Course level total number (a :: later) (.error fault) a.finish
      [⟨a, asideEntries level a.finish.request response number total⟩]
  /-- A rejected response is set aside, and the next attempt is made. -/
  | passed {number : Nat} {a : Attempt σ} {later : List (Attempt σ)} {response : Response}
      {result : Except Fault Response} {finish : Line σ} {made : List (Made σ)}
      (h : a.answer = .ok response) (hr : response.isRejection = true)
      (haside : asideResult level response = .ok ())
      (hlater : Course level total (number + 1) later result finish made) :
    Course level total number (a :: later) result finish
      (⟨a, asideEntries level a.finish.request response number total⟩ :: made)

/-- A course begins with the first attempt that is possible. -/
theorem Course.head {level : Level} {total number : Nat} {a : Attempt σ} {later : List (Attempt σ)}
    {result : Except Fault Response} {finish : Line σ} {made : List (Made σ)}
    (h : Course level total number (a :: later) result finish made) :
    ∃ aside rest, made = ⟨a, aside⟩ :: rest := by
  cases h <;> exact ⟨_, _, rfl⟩

/-- A course goes over at least one attempt. -/
theorem Course.ne_nil {level : Level} {total number : Nat} {all : List (Attempt σ)}
    {result : Except Fault Response} {finish : Line σ} {made : List (Made σ)}
    (h : Course level total number all result finish made) : all ≠ [] := by
  cases h <;> simp

/-- The requests that have been sent. -/
def sendsOf (made : List (Made σ)) : List Request :=
  made.flatMap (·.attempt.sends)

/-- What carrier and relay have entered in the journal. -/
def entriesOf (level : Level) (next : Carrier σ) (made : List (Made σ)) : List Mark :=
  made.flatMap fun m => m.attempt.entries level next ++ m.aside

/-! ## Every call has a course -/

theorem authorize_watched (target : String) (entry : Option String) (candidate : CredentialSet)
    (level : Level) (line : Line σ) (supplies : List (String × Candidates))
    (sends : List Request) :
    authorize target entry candidate level (line.watched supplies sends) =
      ⟨(authorize target entry candidate level line).result,
        (authorize target entry candidate level line).state.watched supplies sends, []⟩ := by
  rw [authorize_run, authorize_run]
  rfl

/-- An attempt is what happens from the writing of the header to the answer of the carrier. -/
theorem attempt_run (target : String) (entry : Option String) (next : Carrier σ)
    (candidate : CredentialSet) (level : Level) (start : Line σ)
    (supplies : List (String × Candidates)) (sends : List Request) :
    let a := Attempt.make level target entry next candidate start
    (authorize target entry candidate >>= fun _ => watch next) level
      (start.watched supplies sends) =
        ⟨a.answer, a.finish.watched supplies (sends ++ a.sends), a.entries level next⟩ := by
  have hwrite := authorize_watched target entry candidate level start supplies sends
  rcases Attempt.make_cases level target entry next candidate start with
    ⟨fault, hr, hanswer, hfinish, hsends, hentries⟩ | ⟨hr, hanswer, hfinish, hsends, hentries⟩
  · rw [hr] at hwrite
    rw [Act.bind_of_error hwrite]
    simp only [hanswer, hfinish, hsends, hentries, List.append_nil]
  · rw [hr] at hwrite
    rw [Act.bind_of_ok hwrite, watch_run]
    simp only [hanswer, hfinish, hsends, hentries, List.nil_append]

/-- The attempts of a call take a course. The induction is on the candidates that are left; each
attempt is the first of the series from the line on which it finds the request. -/
theorem course_of_attempts (target : String) (entry : Option String) (next : Carrier σ)
    (level : Level) (total : Nat) (supplies : List (String × Candidates))
    (rest : List CredentialSet) (number : Nat) (candidate : CredentialSet) (start : Line σ)
    (sends : List Request) :
    let all := Attempt.series level target entry next (candidate :: rest) start
    let run := attempts target entry total (watch next) number candidate rest level
      (start.watched supplies sends)
    ∃ finish made, Course level total number all run.result finish made ∧
      run.state = finish.watched supplies (sends ++ sendsOf made) ∧
      run.journal = entriesOf level next made := by
  induction rest generalizing number candidate start sends with
  | nil =>
    have hrun := attempt_run target entry next candidate level start supplies sends
    rw [attempts_eq, Attempt.series, Attempt.series]
    generalize Attempt.make level target entry next candidate start = a at hrun ⊢
    dsimp only [onward] at hrun ⊢
    rw [hrun]
    exact ⟨a.finish, _, .last a, by simp [sendsOf], by simp [entriesOf]⟩
  | cons following rest ih =>
    have hrun := attempt_run target entry next candidate level start supplies sends
    rw [attempts_cons, Attempt.series]
    generalize Attempt.make level target entry next candidate start = a at hrun ⊢
    dsimp only at hrun ⊢
    cases hanswer : a.answer with
    | error fault =>
      have hsettled : Course level total number
          (a :: Attempt.series level target entry next (following :: rest) a.finish) a.answer
          a.finish [⟨a, []⟩] := .settled (by simp [hanswer])
      rw [hanswer] at hrun hsettled
      rw [Act.bind_of_error hrun]
      exact ⟨a.finish, _, hsettled, by simp [sendsOf], by simp [entriesOf]⟩
    | ok response =>
      have haside := setAside_run response number total level
        (a.finish.watched supplies (sends ++ a.sends))
      rw [hanswer] at hrun
      rw [Act.bind_of_ok hrun]
      by_cases hr : response.isRejection = true
      · simp only [if_pos hr]
        cases hresult : asideResult level response with
        | error fault =>
          rw [hresult] at haside
          rw [Act.bind_of_error haside]
          exact ⟨a.finish, _, .stuck (by simp [Attempt.series]) hanswer hr hresult,
            by simp [sendsOf], by simp [entriesOf]; rfl⟩
        | ok _ =>
          rw [hresult] at haside
          rw [Act.bind_of_ok haside]
          obtain ⟨finish, made, hcourse, hstate, hjournal⟩ :=
            ih (number + 1) following a.finish (sends ++ a.sends)
          refine ⟨finish, _, .passed hanswer hr hresult hcourse, ?_, ?_⟩
          · rw [hstate, sendsOf, sendsOf, List.flatMap_cons, List.append_assoc]
          · rw [hjournal, entriesOf, entriesOf, List.flatMap_cons, List.append_assoc]
            rfl
      · simp only [if_neg hr]
        have hsettled : Course level total number
            (a :: Attempt.series level target entry next (following :: rest) a.finish) a.answer
            a.finish [⟨a, []⟩] := by
          refine .settled fun other hother => ?_
          rw [hanswer] at hother
          cases hother
          exact hr
        rw [hanswer] at hsettled
        exact ⟨a.finish, _, hsettled, by simp [sendsOf, Act.pure_def],
          by simp [entriesOf, Act.pure_def]⟩

/-- A call with candidates and a header that can be read takes a course. -/
theorem course_of_blocking (target : String) (next : Carrier σ) {gather : Act σ Candidates}
    {level : Level} {line : Line σ} {candidates : Candidates} {peer : σ} {journal : List Mark}
    {entry : Option String} (hgather : gather level line.peer = ⟨.ok candidates, peer, journal⟩)
    (hv : line.request.header authorization = .ok entry) :
    let run := blocking target gather next level line
    let sends := (blocking target (watchSource target gather) (watch next) level
      (line.watched [] [])).state.peer.sends
    let all := Attempt.series level target entry next candidates.toList ⟨line.request.settle, peer⟩
    ∃ made, Course level candidates.toList.length 1 all run.result run.state made ∧
      sends = sendsOf made ∧ run.journal = journal ++ entriesOf level next made := by
  have hwatched := watchSource_of_ok target (w := (line.watched [] []).peer) hgather
  have hseen := blocking_of_header_ok target (watch next) hwatched hv
  obtain ⟨hresult, hstate, hjournal⟩ := blocking_watch_alike target gather next level
    (line.watched [] []) line ⟨rfl, rfl⟩
  obtain ⟨finish, made, hcourse, hfinish, hentries⟩ := course_of_attempts target entry next level
    candidates.toList.length [(target, candidates)] candidates.rest 1 candidates.first
    ⟨line.request.settle, peer⟩ []
  have hend : (blocking target (watchSource target gather) (watch next) level
      (line.watched [] [])).state = finish.watched [(target, candidates)] (sendsOf made) :=
    (congrArg Outcome.state hseen).trans hfinish
  have hanswer := hresult.symm.trans (congrArg Outcome.result hseen)
  have hentered : (blocking target (watchSource target gather) (watch next) level
      (line.watched [] [])).journal = journal ++ entriesOf level next made :=
    (congrArg Outcome.journal hseen).trans (congrArg (journal ++ ·) hentries)
  rw [List.filterMap_some, List.filterMap_some, hentered] at hjournal
  rw [hend] at hstate
  -- the watched call and the call itself end on the same line
  dsimp only
  rw [eq_of_agree_watched hstate, hend, hanswer]
  exact ⟨made, hcourse, rfl, hjournal.symm⟩

/-! ## Trials -/

/-- What a call tries on its way from one line to another: the candidates in order, each with the
request as it was sent. A header that cannot be written ends the trials. -/
inductive Trials (level : Level) (target : String) (entry : Option String) (next : Carrier σ) :
    Line σ → List (CredentialSet × Request) → Line σ → Prop
  | done {line : Line σ} : Trials level target entry next line [] line
  | unwritten {c : CredentialSet} {line : Line σ} {fault : Fault}
      (h : (authorize target entry c level line).result = .error fault) :
      Trials level target entry next line [] (authorize target entry c level line).state
  | sent {c : CredentialSet} {line finish : Line σ} {later : List (CredentialSet × Request)}
      (h : (authorize target entry c level line).result = .ok ())
      (hlater : Trials level target entry next
        (next level (authorize target entry c level line).state).state later finish) :
      Trials level target entry next line
        ((c, (authorize target entry c level line).state.request) :: later) finish

/-- The attempts of a course are trials of the candidates in order. -/
theorem Course.trials {level : Level} {target : String} {entry : Option String} {next : Carrier σ}
    {total number : Nat} {candidates : List CredentialSet} {start finish : Line σ}
    {result : Except Fault Response} {made : List (Made σ)}
    (h : Course level total number (Attempt.series level target entry next candidates start)
      result finish made) :
    (sendsOf made).length ≤ candidates.length ∧
      Trials level target entry next start (candidates.zip (sendsOf made)) finish := by
  induction candidates generalizing number start made with
  | nil => cases h
  | cons c rest ih =>
    have hcases := Attempt.make_cases level target entry next c start
    have hseries : Attempt.series level target entry next (c :: rest) start =
        Attempt.make level target entry next c start ::
          Attempt.series level target entry next rest
            (Attempt.make level target entry next c start).finish := rfl
    rw [hseries] at h
    generalize Attempt.make level target entry next c start = a at h hcases
    -- an attempt with which the call ends
    have hfinal : ∀ aside, (sendsOf [⟨a, aside⟩]).length ≤ (c :: rest).length ∧
        Trials level target entry next start ((c :: rest).zip (sendsOf [⟨a, aside⟩])) a.finish := by
      intro aside
      rcases hcases with ⟨fault, hr, -, hfinish, hsends, -⟩ | ⟨hr, -, hfinish, hsends, -⟩
      · simp only [sendsOf, List.flatMap_cons, List.flatMap_nil, hsends, hfinish]
        exact ⟨Nat.zero_le _, .unwritten hr⟩
      · simp only [sendsOf, List.flatMap_cons, List.flatMap_nil, hsends, hfinish]
        exact ⟨by simp, by simpa using Trials.sent hr .done⟩
    generalize hrest : Attempt.series level target entry next rest a.finish = later at h
    cases h with
    | last => exact hfinal []
    | settled => exact hfinal []
    | stuck => exact hfinal _
    | passed hanswer hr haside hlater =>
      subst hrest
      rcases hcases with ⟨fault, -, hfault, -⟩ | ⟨hwritten, -, hfinish, hsends, -⟩
      · rw [hanswer] at hfault
        cases hfault
      · obtain ⟨hlength, htrials⟩ := ih hlater
        rw [sendsOf, List.flatMap_cons, hsends, ← sendsOf]
        rw [hfinish] at htrials
        exact ⟨Nat.succ_le_succ hlength, .sent hwritten htrials⟩

end AuthRelay.Relay
