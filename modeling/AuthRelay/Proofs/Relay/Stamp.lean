import AuthRelay.Proofs.Acts
import AuthRelay.Proofs.HeaderLists
import AuthRelay.Relay.Blocking
/-!
# What an attempt does to the request

Writing a candidate into a request touches the request alone, and it depends on the candidate and on
the caller's header only through the value that is to stand there: the candidate's own, or else the
caller's. `Request.stamp` is that step as a function on requests, and `stamp_cases` says everything
that it can do.
-/
namespace AuthRelay

namespace Request

/-- A request is addressed to a target by its `Host` header or by the authority of its URL. -/
def AddressedTo (r : Request) (target : String) : Prop :=
  r.header "Host" = .ok (some target) ∨ r.authority = .ok target

@[simp] theorem header_settle (r : Request) (name : String) :
    r.settle.header name = r.header name := rfl

@[simp] theorem settle_settle (r : Request) : r.settle.settle = r.settle := rfl

theorem get?_of_header {r : Request} {name : String} {found : Option String}
    (h : r.header name = .ok found) : r.headers.get? name = .ok found := by
  unfold header at h
  cases hg : r.headers.get? name with
  | error cause =>
    rw [hg] at h
    cases h
  | ok other =>
    rw [hg] at h
    cases h
    rfl

/-- The authority is looked at only if the `Host` header is not the target. -/
theorem isAddressedTo_eq (r : Request) (target : String) : r.isAddressedTo target =
    match r.header "Host" with
    | .error fault => .error fault
    | .ok host => if host = some target then .ok true else r.authority.map (· == target) := by
  unfold isAddressedTo
  cases r.header "Host" with
  | error fault => rfl
  | ok host =>
    simp only [bind, Except.bind]
    by_cases ht : host = some target
    · simp only [if_pos ht]
      rfl
    · simp only [if_neg ht]
      cases r.authority <;> rfl

/-- Where the question can be answered, the answer is the one that the two places give. -/
theorem addressedTo_iff {r : Request} {target : String} {answer : Bool}
    (h : r.isAddressedTo target = .ok answer) : r.AddressedTo target ↔ answer = true := by
  rw [isAddressedTo_eq] at h
  unfold AddressedTo
  cases hh : r.header "Host" with
  | error fault => simp [hh] at h
  | ok host =>
    simp only [hh] at h
    by_cases ht : host = some target
    · rw [if_pos ht] at h
      cases h
      simp [ht]
    · rw [if_neg ht] at h
      cases ha : r.authority with
      | error fault => simp [ha, Except.map] at h
      | ok authority =>
        simp only [ha, Except.map] at h
        cases h
        simp [ht]

/-- Two requests with one URL and one `Host` header are addressed to the same targets. -/
def SameAddress (r r' : Request) : Prop :=
  r.url = r'.url ∧ r.header "Host" = r'.header "Host"

theorem SameAddress.authority_eq {r r' : Request} (h : r.SameAddress r') :
    r.authority = r'.authority := by
  rw [authority, h.1, authority]

theorem SameAddress.addressedTo {r r' : Request} (h : r.SameAddress r') (target : String) :
    r.AddressedTo target ↔ r'.AddressedTo target := by
  rw [AddressedTo, h.2, h.authority_eq, AddressedTo]

theorem SameAddress.isAddressedTo_eq {r r' : Request} (h : r.SameAddress r') (target : String) :
    r.isAddressedTo target = r'.isAddressedTo target := by
  rw [Request.isAddressedTo_eq, Request.isAddressedTo_eq, h.2, h.authority_eq]

/-- A request with the URL and the headers of another one. The encoding of the headers may have been
settled in between. -/
def Untouched (r r' : Request) : Prop :=
  r.url = r'.url ∧ r.headers.settle = r'.headers.settle

theorem Untouched.header_eq {r r' : Request} (h : r.Untouched r') (name : String) :
    r.header name = r'.header name := by
  rw [← header_settle, settle, header, h.2]
  rfl

theorem Untouched.sameAddress {r r' : Request} (h : r.Untouched r') : r.SameAddress r' :=
  ⟨h.1, h.header_eq "Host"⟩

theorem Untouched.entries_eq {r r' : Request} (h : r.Untouched r') :
    r.headers.entries = r'.headers.entries := by
  rw [← Headers.entries_settle, h.2, Headers.entries_settle]

theorem Untouched.trans {r r' r'' : Request} (h : r.Untouched r') (h' : r'.Untouched r'') :
    r.Untouched r'' :=
  ⟨h.1.trans h'.1, h.2.trans h'.2⟩

theorem Untouched.of_settle {r r' : Request} (h : r.Untouched r') : r.settle.Untouched r' :=
  ⟨h.1, h.2⟩

/-- The request with a value under the header for credentials, or without that header. -/
def credited (r : Request) (octets : Option Bytes) : Request :=
  { r with headers := r.headers.settle.withCredentials octets }

@[simp] theorem authority_credited (r : Request) (octets : Option Bytes) :
    (r.credited octets).authority = r.authority := rfl

@[simp] theorem header_host_credited (r : Request) (octets : Option Bytes) :
    (r.credited octets).header "Host" = r.header "Host" := by
  have hg := Headers.get?_host_withCredentials (h := r.headers.settle) rfl octets
  simp only [header, credited, hg, Headers.get?_settle]

@[simp] theorem addressedTo_credited (r : Request) (octets : Option Bytes) (target : String) :
    (r.credited octets).AddressedTo target ↔ r.AddressedTo target := by
  simp only [AddressedTo, header_host_credited, authority_credited]

/-- What has been written is what the request carries. -/
theorem header_authorization_credited {r : Request} {value : Option String}
    {octets : Option Bytes} (hw : r.headers.chosen.Writes value octets) :
    (r.credited octets).header Relay.authorization = .ok value := by
  have hg := Headers.get?_withCredentials (h := r.headers.settle) rfl hw
  unfold header credited
  rw [hg]
  rfl

/-- Puts a value under the header for credentials of a request for the target, or takes that header
out of it. A request for anyone else only has the encoding of its headers settled. -/
def stamp (target : String) (value : Option String) (r : Request) : Except Fault Unit × Request :=
  match r.isAddressedTo target with
  | .error fault => (.error fault, r.settle)
  | .ok false => (.ok (), r.settle)
  | .ok true =>
    let written := match value with
      | some text => r.settle.headers.set Relay.authorization text
      | none => r.settle.headers.erase Relay.authorization
    match written with
    | .ok headers => (.ok (), { r with headers })
    | .error cause => (.error (.text cause), r.settle)

/-- A text is put on a request for the target if the encoding of the request has it. -/
theorem stamp_text {target : String} {r : Request} (haddr : r.isAddressedTo target = .ok true)
    (text : String) : r.stamp target (some text) =
      match r.headers.chosen.encode? text with
      | some octets => (.ok (), r.credited (some octets))
      | none => (.error (.text .unencodable), r.settle) := by
  have hset : r.settle.headers.set Relay.authorization text = _ :=
    Headers.set_authorization (h := r.headers.settle) rfl text
  simp only [stamp, haddr, hset]
  cases r.headers.chosen.encode? text <;> rfl

/-- The header is taken out of a request for the target if it can be read. -/
theorem stamp_nothing {target : String} {r : Request} (haddr : r.isAddressedTo target = .ok true) :
    r.stamp target none =
      match r.headers.get? Relay.authorization with
      | .ok _ => (.ok (), r.credited none)
      | .error cause => (.error (.text cause), r.settle) := by
  have herase : r.settle.headers.erase Relay.authorization = _ :=
    Headers.erase_authorization r.headers.settle
  simp only [stamp, haddr, herase, Headers.get?_settle]
  cases r.headers.get? Relay.authorization <;> rfl

/-- Everything that stamping can do: it fails and leaves the request as it was, it leaves alone a
request for someone else, or it writes the value, and nothing but the value. -/
theorem stamp_cases (target : String) (value : Option String) (r : Request) :
    (∃ fault, r.stamp target value = (.error fault, r.settle)) ∨
    (¬ r.AddressedTo target ∧ r.stamp target value = (.ok (), r.settle)) ∨
    (r.AddressedTo target ∧ ∃ octets, r.headers.chosen.Writes value octets ∧
      r.stamp target value = (.ok (), r.credited octets)) := by
  cases ha : r.isAddressedTo target with
  | error fault => exact .inl ⟨fault, by simp only [stamp, ha]⟩
  | ok answer =>
    have hiff := addressedTo_iff ha
    cases answer with
    | false => exact .inr (.inl ⟨by simpa using hiff, by simp only [stamp, ha]⟩)
    | true =>
      have haddr : r.AddressedTo target := hiff.mpr rfl
      cases value with
      | none =>
        rw [stamp_nothing ha]
        cases r.headers.get? Relay.authorization with
        | error cause => exact .inl ⟨.text cause, rfl⟩
        | ok found => exact .inr (.inr ⟨haddr, none, .nothing, rfl⟩)
      | some text =>
        rw [stamp_text ha]
        cases hb : r.headers.chosen.encode? text with
        | none => exact .inl ⟨.text .unencodable, rfl⟩
        | some octets => exact .inr (.inr ⟨haddr, some octets, .text hb, rfl⟩)

/-- A stamp that fails leaves the request as it was. -/
theorem stamp_of_error {target : String} {r : Request} {value : Option String} {fault : Fault}
    (h : (r.stamp target value).1 = .error fault) :
    r.stamp target value = (.error fault, r.settle) := by
  rcases stamp_cases target value r with ⟨cause, hs⟩ | ⟨-, hs⟩ | ⟨-, octets, -, hs⟩
  · rw [hs] at h ⊢
    cases h
    rfl
  · rw [hs] at h
    cases h
  · rw [hs] at h
    cases h

/-- A request for the target carries what has been stamped on it. -/
theorem header_stamp {target : String} {r : Request} {value : Option String}
    (h : (r.stamp target value).1 = .ok ()) (haddr : r.AddressedTo target) :
    (r.stamp target value).2.header Relay.authorization = .ok value := by
  have hcases := stamp_cases target value r
  rcases hcases with ⟨fault, hs⟩ | ⟨hnot, -⟩ | ⟨-, octets, hw, hs⟩
  · rw [hs] at h
    cases h
  · exact absurd haddr hnot
  · rw [hs]
    exact header_authorization_credited hw

/-- A request for anyone else is not touched. -/
theorem stamp_untouched {target : String} {r : Request} (h : ¬ r.AddressedTo target)
    (value : Option String) : (r.stamp target value).2.Untouched r := by
  have hcases := stamp_cases target value r
  rcases hcases with ⟨fault, hs⟩ | ⟨-, hs⟩ | ⟨haddr, -⟩
  · rw [hs]
    exact ⟨rfl, rfl⟩
  · rw [hs]
    exact ⟨rfl, rfl⟩
  · exact absurd haddr h

/-- Outside the target the value makes no difference. -/
theorem stamp_of_not_addressedTo {target : String} {r : Request}
    (h : ¬ r.AddressedTo target) (value other : Option String) :
    r.stamp target value = r.stamp target other := by
  unfold stamp
  cases ha : r.isAddressedTo target with
  | error fault => rfl
  | ok answer =>
    cases answer with
    | false => rfl
    | true => exact absurd ((addressedTo_iff ha).mpr rfl) h

end Request

namespace Line

variable {σ : Type}

theorem isAddressedTo_run (target : String) (level : Level) (line : Line σ) :
    isAddressedTo target level line =
      ⟨line.request.isAddressedTo target, { line with request := line.request.settle }, []⟩ := by
  have hrun : header "Host" level line =
      ⟨line.request.header "Host", { line with request := line.request.settle }, []⟩ := rfl
  rw [Request.isAddressedTo_eq]
  unfold isAddressedTo
  cases hh : line.request.header "Host" with
  | error fault =>
    rw [hh] at hrun
    rw [Act.bind_of_error hrun]
  | ok host =>
    rw [hh] at hrun
    rw [Act.bind_of_ok hrun]
    by_cases ht : host = some target
    · simp only [if_pos ht]
      rfl
    · simp only [if_neg ht, Act.get_bind_run]
      have hask := Act.ofExcept_run line.request.authority level
        { line with request := line.request.settle }
      cases ha : line.request.authority with
      | error fault =>
        rw [ha] at hask
        rw [show line.request.settle.authority = .error fault from ha, Act.bind_of_error hask]
        rfl
      | ok authority =>
        rw [ha] at hask
        rw [show line.request.settle.authority = .ok authority from ha, Act.bind_of_ok hask]
        rfl

end Line

namespace Relay

variable {σ : Type}

/-- Authorising a request is stamping it: nothing but the request is touched, nothing shows in the
journal, and a candidate without an active shape stands for the caller's own header. -/
theorem authorize_run (target : String) (callerHeader : Option String) (candidate : CredentialSet)
    (level : Level) (line : Line σ) :
    authorize target callerHeader candidate level line =
      ⟨(line.request.stamp target (candidate.authorization?.or callerHeader)).1,
        { line with
          request := (line.request.stamp target (candidate.authorization?.or callerHeader)).2 },
        []⟩ := by
  have hrun := Line.isAddressedTo_run target level line
  unfold authorize Request.stamp
  cases ha : line.request.isAddressedTo target with
  | error fault =>
    rw [ha] at hrun
    rw [Act.bind_of_error hrun]
  | ok answer =>
    rw [ha] at hrun
    rw [Act.bind_of_ok hrun]
    cases answer with
    | false => rfl
    | true =>
      cases hc : candidate.authorization? with
      | some value =>
        simp only [Option.some_or, if_true, Line.setHeader]
        cases line.request.settle.headers.set authorization value <;> rfl
      | none =>
        cases callerHeader with
        | some value =>
          simp only [Option.none_or, if_true, Line.setHeader]
          cases line.request.settle.headers.set authorization value <;> rfl
        | none =>
          simp only [Option.none_or, if_true, Line.dropHeader, Request.settle_settle]
          cases line.request.settle.headers.erase authorization <;> rfl

/-- Once a request has been authorised, it carries what belongs there if it is for the target, and
what it carried before if it is for anyone else. -/
theorem authorize_cases {target : String} {callerHeader : Option String}
    {candidate : CredentialSet} {level : Level} {line : Line σ}
    (h : (authorize target callerHeader candidate level line).result = .ok ()) :
    let ready := (authorize target callerHeader candidate level line).state.request
    (ready.AddressedTo target ∧
      ready.header authorization = .ok (candidate.authorization?.or callerHeader)) ∨
    (¬ ready.AddressedTo target ∧ ready = line.request.settle) := by
  rw [authorize_run] at h ⊢
  dsimp only at h ⊢
  have hcases := Request.stamp_cases target (candidate.authorization?.or callerHeader) line.request
  rcases hcases with ⟨fault, hs⟩ | ⟨hnot, hs⟩ | ⟨haddr, octets, hw, hs⟩
  · rw [hs] at h
    cases h
  · rw [hs]
    exact .inr ⟨hnot, rfl⟩
  · rw [hs]
    exact .inl ⟨(Request.addressedTo_credited _ octets target).mpr haddr,
      Request.header_authorization_credited hw⟩

end Relay
end AuthRelay
