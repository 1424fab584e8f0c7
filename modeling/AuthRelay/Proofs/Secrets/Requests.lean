import AuthRelay.Proofs.Relay.Attempts
import AuthRelay.Proofs.Secrets.Headers
/-!
# Requests that differ in their credentials

Two requests that differ in nothing but the value of the header for credentials are edited,
addressed and authorised alike. A relay records of a request and of a response what is the same in
both runs, so it stays in step with itself, whatever its candidates are, if they differ in secrets
only.
-/
namespace AuthRelay

/-- Two requests that are the same but for ASCII credentials in their headers. -/
structure Request.Twins (r r' : Request) : Prop where
  method : r.method = r'.method
  url : r.url = r'.url
  headers : r.headers.Twins r'.headers
  body : r.body = r'.body

namespace Request

variable {r r' : Request}

theorem Twins.refl (r : Request) : r.Twins r :=
  ⟨rfl, rfl, .refl _, rfl⟩

theorem Twins.withHeaders (h : r.Twins r') {headers headers' : Headers}
    (hheaders : headers.Twins headers') :
    Request.Twins { r with headers } { r' with headers := headers' } :=
  ⟨h.method, h.url, hheaders, h.body⟩

theorem Twins.settle (h : r.Twins r') : r.settle.Twins r'.settle :=
  h.withHeaders h.headers.settle

theorem Twins.header (h : r.Twins r') (name : String) :
    Corresponds (Option.Rel WrittenAlike) (r.header name) (r'.header name) :=
  (h.headers.get? name).mapError Fault.text

/-- Both are addressed to the same targets. -/
theorem Twins.isAddressedTo_eq (h : r.Twins r') (target : String) :
    r.isAddressedTo target = r'.isAddressedTo target := by
  refine SameAddress.isAddressedTo_eq ⟨h.url, ?_⟩ target
  rw [Request.header, Request.header, h.headers.get?_host_eq]

/-- Stamping fails in both in the same way, or in neither. -/
theorem Twins.stamp (h : r.Twins r') (target : String) {value value' : Option String}
    (hvalue : Option.Rel WrittenAlike value value') :
    (r.stamp target value).1 = (r'.stamp target value').1 ∧
      (r.stamp target value).2.Twins (r'.stamp target value').2 := by
  have hsettled := h.settle
  unfold Request.stamp
  rw [h.isAddressedTo_eq]
  cases r'.isAddressedTo target with
  | error fault => exact ⟨rfl, hsettled⟩
  | ok answer =>
    cases answer with
    | false => exact ⟨rfl, hsettled⟩
    | true =>
      cases hvalue with
      | none =>
        have herase := hsettled.headers.erase Relay.authorization
        dsimp only
        generalize r.settle.headers.erase Relay.authorization = found,
          r'.settle.headers.erase Relay.authorization = found' at herase
        cases herase with
        | ok hheaders => exact ⟨rfl, h.withHeaders hheaders⟩
        | error cause => exact ⟨rfl, hsettled⟩
      | @some text text' halike =>
        have hset := hsettled.headers.setAuthorization halike
        dsimp only
        generalize r.settle.headers.set Relay.authorization text = found,
          r'.settle.headers.set Relay.authorization text' = found' at hset
        cases hset with
        | ok hheaders => exact ⟨rfl, h.withHeaders hheaders⟩
        | error cause => exact ⟨rfl, hsettled⟩

end Request

/-- Two lines with requests that differ in their credentials only, and related other sides. -/
structure Line.Twins {σ τ : Type} (Q : σ → τ → Prop) (line : Line σ) (line' : Line τ) : Prop where
  request : line.request.Twins line'.request
  peer : Q line.peer line'.peer

namespace Line

variable {σ τ : Type} {Q : σ → τ → Prop}

theorem header_inStep (name : String) :
    Act.InStep (Line.Twins Q) (Option.Rel WrittenAlike) (header name) (header name) :=
  fun _ _ _ h => .of_runs rfl rfl (h.request.settle.header name) ⟨h.request.settle, h.peer⟩ rfl

theorem setHeader_inStep (name value : String) :
    Act.InStep (Line.Twins Q) Eq (setHeader name value) (setHeader name value) := by
  intro level line line' h
  have hset := h.request.headers.set name value
  rw [Act.inStepAt_iff]
  unfold setHeader
  generalize line.request.headers.set name value = found,
    line'.request.headers.set name value = found' at hset
  cases hset with
  | ok hheaders => exact ⟨.ok rfl, ⟨h.request.withHeaders hheaders, h.peer⟩, rfl⟩
  | error cause => exact ⟨.error _, h, rfl⟩

theorem setHeaders_inStep (headers : List (String × String)) :
    Act.InStep (Line.Twins Q) Eq (setHeaders headers) (setHeaders headers) := by
  induction headers with
  | nil => exact .pure rfl
  | cons entry rest ih => exact (setHeader_inStep entry.1 entry.2).bind fun _ _ _ => ih

theorem dropHeader_inStep (name : String) :
    Act.InStep (Line.Twins Q) Eq (dropHeader name) (dropHeader name) := by
  intro level line line' h
  have hsettled := h.request.settle
  have herase := hsettled.headers.erase name
  rw [Act.inStepAt_iff]
  unfold dropHeader
  dsimp only
  generalize line.request.settle.headers.erase name = found,
    line'.request.settle.headers.erase name = found' at herase
  cases herase with
  | ok hheaders => exact ⟨.ok rfl, ⟨hsettled.withHeaders hheaders, h.peer⟩, rfl⟩
  | error cause => exact ⟨.error _, ⟨hsettled, h.peer⟩, rfl⟩

theorem dropHeaders_inStep (names : List String) :
    Act.InStep (Line.Twins Q) Eq (dropHeaders names) (dropHeaders names) := by
  induction names with
  | nil => exact .pure rfl
  | cons name rest ih => exact (dropHeader_inStep name).bind fun _ _ _ => ih

theorem setUrl?_inStep (url : Option String) :
    Act.InStep (Line.Twins Q) Eq (setUrl? url) (setUrl? url) := by
  cases url with
  | none => exact .pure rfl
  | some text =>
    rw [setUrl?, setUrl?]
    intro level line line' h
    rw [Act.inStepAt_iff]
    unfold setUrl
    cases Url.parse text with
    | ok url =>
      exact ⟨.ok rfl, ⟨⟨h.request.method, rfl, h.request.headers, h.request.body⟩, h.peer⟩, rfl⟩
    | error cause => exact ⟨.error _, h, rfl⟩

theorem drawBody_inStep : Act.InStep (Line.Twins Q) Eq drawBody drawBody := by
  intro level line line' h
  rw [Act.inStepAt_iff]
  unfold drawBody
  rw [h.request.body]
  exact ⟨.ok rfl, ⟨⟨h.request.method, h.request.url, h.request.headers, rfl⟩, h.peer⟩, rfl⟩

theorem onPeer_inStep {α β : Type} {S : α → β → Prop} {x : Act σ α} {y : Act τ β}
    (h : Act.InStep Q S x y) : Act.InStep (Line.Twins Q) S (onPeer x) (onPeer y) :=
  .zoom (fun _ _ hline => hline.peer) (fun _ _ _ _ hline hpeer => ⟨hline.request, hpeer⟩) h

end Line

/-! ## Relays -/

namespace Relay

variable {σ τ : Type} {Q : σ → τ → Prop} {target : String} {next : Carrier σ} {next' : Carrier τ}

theorem authorize_inStep (target : String) {callerHeader callerHeader' : Option String}
    (hheader : Option.Rel WrittenAlike callerHeader callerHeader') {c c' : CredentialSet}
    (hc : c.Twins c') : Act.InStep (Line.Twins Q) Eq (authorize target callerHeader c)
      (authorize target callerHeader' c') := by
  intro level line line' h
  obtain ⟨hresult, hrequest⟩ := h.request.stamp target (optionRel_or hc.authorization? hheader)
  rw [Act.inStepAt_iff, authorize_run, authorize_run]
  exact ⟨.of_eq hresult, ⟨hrequest, h.peer⟩, rfl⟩

/-- What is recorded of a rejection are the method and the URL, and nothing of the headers. -/
theorem setAside_inStep (response : Response) (attempt total : Nat) :
    Act.InStep (Line.Twins Q) Eq (setAside response attempt total)
      (setAside response attempt total) := by
  intro level line line' h
  have hentries : asideEntries level line.request response attempt total =
      asideEntries level line'.request response attempt total := by
    unfold asideEntries rejectionText
    rw [h.request.method, h.request.url]
  rw [Act.inStepAt_iff, setAside_run, setAside_run, hentries]
  exact ⟨.of_eq rfl, h, rfl⟩

theorem attempts_inStep (hnext : Act.InStep (Line.Twins Q) Eq next next')
    {callerHeader callerHeader' : Option String}
    (hheader : Option.Rel WrittenAlike callerHeader callerHeader') (total attempt : Nat)
    {c c' : CredentialSet} (hc : c.Twins c') {rest rest' : List CredentialSet}
    (hrest : List.Forall₂ CredentialSet.Twins rest rest') :
    Act.InStep (Line.Twins Q) Eq (attempts target callerHeader total next attempt c rest)
      (attempts target callerHeader' total next' attempt c' rest') := by
  -- on the candidates that are left; what is recorded of a rejection counts the attempts
  induction hrest generalizing attempt c c' with
  | nil => exact (authorize_inStep target hheader hc).bind fun _ _ _ => hnext
  | cons hfollowing _ ih =>
    rw [attempts_eq, attempts_eq]
    refine (authorize_inStep target hheader hc).bind fun _ _ _ => hnext.bind_eq fun response => ?_
    refine .ite .rfl ?_ (.pure rfl)
    exact (setAside_inStep response attempt total).bind fun _ _ _ => ih (attempt + 1) hfollowing

/-- Two relays with sources and carriers in step are in step. -/
theorem blocking_inStep {gather : Act σ Candidates} {gather' : Act τ Candidates}
    (hgather : Act.InStep Q (Candidates.Related CredentialSet.Twins) gather gather')
    (hnext : Act.InStep (Line.Twins Q) Eq next next') :
    Act.InStep (Line.Twins Q) Eq (blocking target gather next) (blocking target gather' next') := by
  refine Act.InStep.bind (S := fun start start' => start.1.Related CredentialSet.Twins start'.1 ∧
    Option.Rel WrittenAlike start.2 start'.2) ?_ ?_
  · exact (Line.onPeer_inStep hgather).bind fun _ _ hcandidates =>
      (Line.header_inStep authorization).bind fun _ _ hheader => .pure ⟨hcandidates, hheader⟩
  · rintro ⟨candidates, callerHeader⟩ ⟨candidates', callerHeader'⟩ ⟨hcandidates, hheader⟩
    dsimp only
    rw [hcandidates.toList.length_eq]
    exact attempts_inStep hnext hheader _ 1 hcandidates.first hcandidates.rest

end Relay
end AuthRelay
