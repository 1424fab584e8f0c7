import AuthRelay.Proofs.Relay.Attempts
/-!
# Relays that are watched

Which requests reach a carrier and which candidates a source hands over is part of no state and of
no result. A watched carrier and a watched source keep a record of it beside the state of the other
side, and do the same as the unwatched ones otherwise. That follows from a fact about all relays:
behind the same requests they cannot tell apart two sides that behave alike.
-/
namespace AuthRelay

/-- Two lines with the same request, and with related states of the other side. -/
def Line.Agree {σ τ : Type} (Q : σ → τ → Prop) (line : Line σ) (line' : Line τ) : Prop :=
  line.request = line'.request ∧ Q line.peer line'.peer

/-- The state of the other side, and a record of what has come to it: the candidates that sources
have handed over, with the target of the relay, and the requests that have been sent, as they
stood. -/
structure Watched (σ : Type) where
  state : σ
  supplies : List (String × Candidates) := []
  sends : List Request := []

/-- The line with a record beside the state of the other side. -/
def Line.watched {σ : Type} (line : Line σ) (supplies : List (String × Candidates))
    (sends : List Request) : Line (Watched σ) :=
  ⟨line.request, ⟨line.peer, supplies, sends⟩⟩

namespace Relay

variable {σ τ ν ρ : Type}

/-! ## Sides that behave alike -/

section

variable {Q : σ → τ → Prop} {see : Mark → Option ν}

theorem onPeer_alike {α : Type} {x : Act σ α} {y : Act τ α} (h : Act.Alike Q see x y) :
    Act.Alike (Line.Agree Q) see (Line.onPeer x) (Line.onPeer y) := by
  intro level line line' hline
  obtain ⟨hresult, hpeer, hjournal⟩ := h level line.peer line'.peer hline.2
  exact ⟨hresult, ⟨hline.1, hpeer⟩, hjournal⟩

theorem header_alike (name : String) :
    Act.Alike (Line.Agree Q) see (Line.header name) (Line.header name) := by
  intro level line line' hline
  rw [Act.alikeAt_iff]
  unfold Line.header
  rw [hline.1]
  exact ⟨rfl, ⟨rfl, hline.2⟩, rfl⟩

theorem setHeader_alike (name value : String) :
    Act.Alike (Line.Agree Q) see (Line.setHeader name value) (Line.setHeader name value) := by
  rintro level ⟨request, peer⟩ ⟨_, peer'⟩ ⟨rfl, hpeer⟩
  rw [Act.alikeAt_iff]
  unfold Line.setHeader
  dsimp only
  cases request.headers.set name value <;> exact ⟨rfl, ⟨rfl, hpeer⟩, rfl⟩

theorem setHeaders_alike (headers : List (String × String)) :
    Act.Alike (Line.Agree Q) see (Line.setHeaders headers) (Line.setHeaders headers) := by
  induction headers with
  | nil => exact .pure ()
  | cons entry rest ih => exact (setHeader_alike entry.1 entry.2).bind fun _ => ih

theorem dropHeader_alike (name : String) :
    Act.Alike (Line.Agree Q) see (Line.dropHeader name) (Line.dropHeader name) := by
  rintro level ⟨request, peer⟩ ⟨_, peer'⟩ ⟨rfl, hpeer⟩
  rw [Act.alikeAt_iff]
  unfold Line.dropHeader
  dsimp only
  cases request.settle.headers.erase name <;> exact ⟨rfl, ⟨rfl, hpeer⟩, rfl⟩

theorem dropHeaders_alike (names : List String) :
    Act.Alike (Line.Agree Q) see (Line.dropHeaders names) (Line.dropHeaders names) := by
  induction names with
  | nil => exact .pure ()
  | cons name rest ih => exact (dropHeader_alike name).bind fun _ => ih

theorem setUrl?_alike (url : Option String) :
    Act.Alike (Line.Agree Q) see (Line.setUrl? url) (Line.setUrl? url) := by
  cases url with
  | none => exact .pure ()
  | some text =>
    rintro level ⟨request, peer⟩ ⟨_, peer'⟩ ⟨rfl, hpeer⟩
    rw [Act.alikeAt_iff]
    unfold Line.setUrl? Line.setUrl
    dsimp only
    cases Url.parse text <;> exact ⟨rfl, ⟨rfl, hpeer⟩, rfl⟩

theorem drawBody_alike : Act.Alike (Line.Agree Q) see Line.drawBody Line.drawBody := by
  rintro level ⟨request, peer⟩ ⟨_, peer'⟩ ⟨rfl, hpeer⟩
  exact ⟨rfl, ⟨rfl, hpeer⟩, rfl⟩

theorem authorize_alike (target : String) (callerHeader : Option String)
    (candidate : CredentialSet) : Act.Alike (Line.Agree Q) see
      (authorize target callerHeader candidate) (authorize target callerHeader candidate) := by
  intro level line line' hline
  rw [Act.alikeAt_iff, authorize_run, authorize_run, hline.1]
  exact ⟨rfl, ⟨rfl, hline.2⟩, rfl⟩

theorem prepare_alike {gather : Act σ Candidates} {gather' : Act τ Candidates}
    (h : Act.Alike Q see gather gather') :
    Act.Alike (Line.Agree Q) see (prepare gather) (prepare gather') :=
  (onPeer_alike h).bind fun _ => (header_alike authorization).bind fun _ => .pure _

/-- Attempts with the same candidates are alike if the carriers are. -/
theorem attempts_alike {next : Carrier σ} {next' : Carrier τ}
    (hnext : Act.Alike (Line.Agree Q) see next next') (target : String)
    (callerHeader : Option String) (total attempt : Nat) (candidate : CredentialSet)
    (rest : List CredentialSet) : Act.Alike (Line.Agree Q) see
      (attempts target callerHeader total next attempt candidate rest)
      (attempts target callerHeader total next' attempt candidate rest) := by
  rw [attempts_eq, attempts_eq]
  refine (authorize_alike target callerHeader candidate).bind fun _ => ?_
  refine onward_alike 0 hnext (fun drained k => ?_) ?_ attempt
  · exact logRejection_alike see (fun _ _ h => h.1) drained k _
  · exact List.forall₂_same.mpr fun c _ => authorize_alike target callerHeader c

/-- Relays in front of carriers that are alike, with sources that are alike, are alike. -/
theorem blocking_alike {target : String} {gather : Act σ Candidates} {gather' : Act τ Candidates}
    {next : Carrier σ} {next' : Carrier τ} (hgather : Act.Alike Q see gather gather')
    (hnext : Act.Alike (Line.Agree Q) see next next') :
    Act.Alike (Line.Agree Q) see (blocking target gather next) (blocking target gather' next') :=
  (prepare_alike hgather).bind fun (candidates, callerHeader) =>
    attempts_alike hnext target callerHeader candidates.toList.length 1 candidates.first
      candidates.rest

end

/-! ## Watching -/

/-- A carrier whose requests are recorded. -/
def watch (next : Carrier σ) : Act (Line (Watched σ)) Response := do
  Act.modify fun line =>
    { line with peer := { line.peer with sends := line.peer.sends ++ [line.request] } }
  Act.zoom (fun line => ⟨line.request, line.peer.state⟩)
    (fun inner line => ⟨inner.request, { line.peer with state := inner.peer }⟩) next

/-- The source of a relay for a target, whose candidates are recorded. -/
def watchSource (target : String) (gather : Act σ Candidates) : Act (Watched σ) Candidates := do
  let candidates ← Act.zoom Watched.state (fun state w => { w with state }) gather
  Act.modify fun w => { w with supplies := w.supplies ++ [(target, candidates)] }
  pure candidates

theorem watch_run (next : Carrier σ) (level : Level) (line : Line σ)
    (supplies : List (String × Candidates)) (sends : List Request) :
    watch next level (line.watched supplies sends) =
      ⟨(next level line).result,
        (next level line).state.watched supplies (sends ++ [line.request]),
        (next level line).journal⟩ := rfl

theorem eq_of_agree_watched {line line' : Line σ} {supplies : List (String × Candidates)}
    {sends : List Request}
    (h : Line.Agree (fun (w : Watched σ) s => w.state = s) (line.watched supplies sends) line') :
    line' = line := by
  cases line
  cases line'
  obtain ⟨hrequest, hpeer⟩ := h
  cases hrequest
  cases hpeer
  rfl

/-- Watching a carrier changes nothing. -/
theorem watch_alike (next : Carrier σ) :
    Act.Alike (Line.Agree fun (w : Watched σ) s => w.state = s) some (watch next) next := by
  intro level line line' h
  have heq : line = line'.watched line.peer.supplies line.peer.sends := by
    rw [Line.watched, ← h.1, ← h.2]
  rw [Act.alikeAt_iff, heq, watch_run]
  exact ⟨rfl, ⟨rfl, rfl⟩, rfl⟩

theorem watchSource_of_ok (target : String) {gather : Act σ Candidates} {level : Level}
    {w : Watched σ} {candidates : Candidates} {peer : σ} {journal : List Mark}
    (h : gather level w.state = ⟨.ok candidates, peer, journal⟩) :
    watchSource target gather level w = ⟨.ok candidates,
      { w with state := peer, supplies := w.supplies ++ [(target, candidates)] }, journal⟩ := by
  have hrun : Act.zoom Watched.state (fun state (w : Watched σ) => { w with state }) gather level w
      = ⟨.ok candidates, { w with state := peer }, journal⟩ := by
    simp only [Act.zoom, h]
  unfold watchSource
  rw [Act.bind_of_ok hrun]
  simp only [bind, Act.bind, Act.modify, pure, Act.pure, List.append_nil]

theorem watchSource_of_error (target : String) {gather : Act σ Candidates} {level : Level}
    {w : Watched σ} {fault : Fault} {peer : σ} {journal : List Mark}
    (h : gather level w.state = ⟨.error fault, peer, journal⟩) :
    watchSource target gather level w = ⟨.error fault, { w with state := peer }, journal⟩ := by
  have hrun : Act.zoom Watched.state (fun state (w : Watched σ) => { w with state }) gather level w
      = ⟨.error fault, { w with state := peer }, journal⟩ := by
    simp only [Act.zoom, h]
  unfold watchSource
  rw [Act.bind_of_error hrun]

/-- Watching a source changes nothing. -/
theorem watchSource_alike (target : String) (gather : Act σ Candidates) :
    Act.Alike (fun (w : Watched σ) s => w.state = s) some (watchSource target gather) gather := by
  intro level w s h
  subst h
  cases ho : gather level w.state with
  | mk result peer journal =>
    cases result with
    | error fault =>
      rw [Act.alikeAt_iff, watchSource_of_error target ho, ho]
      exact ⟨rfl, rfl, rfl⟩
    | ok candidates =>
      rw [Act.alikeAt_iff, watchSource_of_ok target ho, ho]
      exact ⟨rfl, rfl, rfl⟩

/-- Watching a relay changes nothing. -/
theorem blocking_watch_alike (target : String) (gather : Act σ Candidates) (next : Carrier σ) :
    Act.Alike (Line.Agree fun (w : Watched σ) s => w.state = s) some
      (blocking target (watchSource target gather) (watch next)) (blocking target gather next) :=
  blocking_alike (watchSource_alike target gather) (watch_alike next)

section

variable {gather : Act σ Candidates} {level : Level} {line : Line σ} {peer : σ}
  {journal : List Mark} {fault : Fault}

/-- Without candidates nothing is sent. -/
theorem sends_of_gather_error (target : String) (next : Carrier σ)
    (h : gather level line.peer = ⟨.error fault, peer, journal⟩) :
    (blocking target (watchSource target gather) (watch next) level
      (line.watched [] [])).state.peer.sends = [] := by
  have hwatched := watchSource_of_error target (w := (line.watched [] []).peer) h
  exact congrArg (fun outcome => outcome.state.peer.sends)
    (blocking_of_gather_error target (watch next) line.request hwatched)

/-- Nothing is sent if the caller's own header cannot be read. -/
theorem sends_of_header_error (target : String) (next : Carrier σ) {candidates : Candidates}
    (h : gather level line.peer = ⟨.ok candidates, peer, journal⟩)
    (hv : line.request.header authorization = .error fault) :
    (blocking target (watchSource target gather) (watch next) level
      (line.watched [] [])).state.peer.sends = [] := by
  have hwatched := watchSource_of_ok target (w := (line.watched [] []).peer) h
  exact congrArg (fun outcome => outcome.state.peer.sends)
    (blocking_of_header_error target (watch next) hwatched hv)

end

/-! ## Carriers that leave the request alone -/

/-- A carrier that leaves the URL and the headers of every request as they are. -/
def Untouching (next : Carrier σ) : Prop :=
  ∀ level line, (next level line).state.request.Untouched line.request

theorem Untouching.watch {next : Carrier σ} (h : Untouching next) :
    Untouching (Relay.watch next) := by
  intro level line
  exact h level ⟨line.request, line.peer.state⟩

/-- A carrier that gives one answer after another. -/
def replay : Carrier (List (Except Fault Response)) := fun _ line =>
  match line.peer with
  | [] => ⟨.error .nothingToGive, line, []⟩
  | answer :: rest => ⟨answer, { line with peer := rest }, []⟩

theorem untouching_replay : Untouching replay := by
  intro level line
  unfold replay
  cases line.peer with
  | nil => exact ⟨rfl, rfl⟩
  | cons answer rest => exact ⟨rfl, rfl⟩

/-- A request for the root of a host. -/
def rootOf (host : String) : Request where
  method := "GET"
  url := ⟨"http", "", host, none, "/", none, none⟩
  headers := { entries := [] }
  body := .bytes []

/-- A request for the root of a host with some headers. -/
def rootWith (host : String) (entries : List (Bytes × Bytes)) : Request :=
  { rootOf host with headers := { entries } }

/-- An answer with a status, a content type and a body that is still to be read. -/
def answerOf (status : Int) (contentType : String) : Except Fault Response :=
  .ok (Response.streaming 1 status
    { entries := [(Text.Utf8.encode "Content-Type", Text.Utf8.encode contentType)] }
    (Text.Utf8.encode "no") none)

/-- Candidates that are two tokens. -/
def twoTokens : Candidates :=
  ⟨{ registryToken := "a" }, [{ registryToken := "b" }]⟩

/-! ## Relays with a source of their own -/

/-- A carrier beside something that it has nothing to do with. -/
def besides (next : Carrier σ) : Act (Line (ρ × σ)) Response :=
  Act.zoom (fun line => ⟨line.request, line.peer.2⟩)
    (fun inner line => ⟨inner.request, (line.peer.1, inner.peer)⟩) next

/-- A relay whose source and whose carrier have nothing to do with each other. -/
def relay (target : String) (gather : Act ρ Candidates) (next : Carrier σ) : Carrier (ρ × σ) :=
  blocking target (Act.zoom Prod.fst (fun r peer => (r, peer.2)) gather) (besides next)

theorem besides_run (next : Carrier σ) (level : Level) (line : Line (ρ × σ)) :
    besides next level line =
      let sent := next level ⟨line.request, line.peer.2⟩
      ⟨sent.result, ⟨sent.state.request, (line.peer.1, sent.state.peer)⟩, sent.journal⟩ := rfl

theorem sourceOf_run {gather : Act ρ Candidates} {level : Level} {r p : ρ}
    {result : Except Fault Candidates} {journal : List Mark} (s : σ)
    (h : gather level r = ⟨result, p, journal⟩) :
    Act.zoom Prod.fst (fun r (peer : ρ × σ) => (r, peer.2)) gather level (r, s) =
      ⟨result, (p, s), journal⟩ := by
  simp only [Act.zoom, h]

/-- A header that cannot be read ends the call before the first attempt. -/
theorem relay_of_header_error (target : String) {gather : Act ρ Candidates} (next : Carrier σ)
    {level : Level} {request : Request} {r p : ρ} (s : σ) {candidates : Candidates}
    {journal : List Mark} {fault : Fault} (h : gather level r = ⟨.ok candidates, p, journal⟩)
    (hv : request.header authorization = .error fault) :
    relay target gather next level ⟨request, (r, s)⟩ =
      ⟨.error fault, ⟨request.settle, (p, s)⟩, journal⟩ :=
  blocking_of_header_error target (besides next) (sourceOf_run s h) hv

/-- With candidates and a header that can be read, the call consists of its attempts. -/
theorem relay_of_header_ok (target : String) {gather : Act ρ Candidates} (next : Carrier σ)
    {level : Level} {request : Request} {r p : ρ} (s : σ) {candidates : Candidates}
    {journal : List Mark} {entry : Option String}
    (h : gather level r = ⟨.ok candidates, p, journal⟩)
    (hv : request.header authorization = .ok entry) :
    let run := attempts target entry candidates.toList.length (besides next) 1 candidates.first
      candidates.rest level ⟨request.settle, (p, s)⟩
    relay target gather next level ⟨request, (r, s)⟩ =
      ⟨run.result, run.state, journal ++ run.journal⟩ :=
  blocking_of_header_ok target (besides next) (sourceOf_run s h) hv

end Relay
end AuthRelay
