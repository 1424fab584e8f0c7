import AuthRelay.Proofs.Relay.Flattening
import AuthRelay.Proofs.Relay.Resending
import AuthRelay.Text.Base64.Lemmas
/-!
# Which candidates can be written

The value of a candidate is a text, and it goes into the request in the encoding that the headers of
the request have settled on. So whether a candidate can be sent depends on the headers beside it:
with UTF-8 all can, with ASCII and ISO-8859-1 only those whose value has no other characters. A user
name and a password are encoded before, and their value is ASCII whatever they are.
-/
namespace AuthRelay

/-- A user name and a password make an ASCII value, whatever characters stand in them. -/
theorem CredentialSet.isAscii_of_basic {c : CredentialSet} (h : c.activeShape = some .basic) :
    c.IsAscii := by
  intro text htext
  rw [authorization?, h] at htext
  cases htext
  simp only [String.toList_append, Encoding.isAscii_append, String.toList_ofList,
    Text.Base64.isAscii_encode]
  rfl

namespace Request

variable {r : Request} {target : String}

/-- A request for a target whose headers can be read. -/
structure IsFor (r : Request) (target : String) : Prop where
  addressed : r.AddressedTo target
  readable : r.headers.Readable

/-- Whom a request is for can be found out. -/
theorem IsFor.isAddressedTo (h : r.IsFor target) : r.isAddressedTo target = .ok true := by
  obtain ⟨host, hhost⟩ := h.readable.get? (Headers.key_host r.headers)
  have hheader : r.header "Host" = .ok host := by
    rw [header, hhost]
    rfl
  rw [isAddressedTo_eq, hheader]
  by_cases ht : host = some target
  · simp only [if_pos ht]
  · have hauthority : r.authority = .ok target := by
      refine h.addressed.resolve_left fun hhost => ht ?_
      rw [hheader] at hhost
      exact Except.ok.inj hhost
    simp [hauthority, Except.map]

/-- A request that names its host in a header, and nothing else, is kept in ASCII. -/
theorem isFor_rootWith_host {host : String} (hascii : Charset.isAscii host.toList = true) :
    let request := Relay.rootWith "" [(Text.Utf8.encode "Host", Encoding.asciiOctets host)]
    request.headers.chosen = .ascii ∧ request.IsFor host := by
  intro request
  have hvalue := Encoding.decode?_asciiOctets hascii .ascii
  have hread : request.headers.readableIn .ascii = true := by
    have hname : (Encoding.ascii.decode? (Text.Utf8.encode "Host")).isSome = true := rfl
    simp [request, Relay.rootWith, Headers.readableIn, hname, hvalue]
  have hchosen : request.headers.chosen = .ascii := by
    unfold Headers.chosen
    rw [if_pos hread]
    rfl
  refine ⟨hchosen, .inl ?_, Headers.readable_of_unsettled rfl⟩
  have hfound : request.headers.get? "Host" = .ok (some host) :=
    Headers.get?_of_rawValues_singleton (Headers.key_host _) rfl (by rw [hchosen, hvalue])
  rw [header, hfound]
  rfl

end Request

namespace Relay

variable {σ : Type} {target : String} {c : CredentialSet} {value : String}

/-- Writing a candidate with a value into a request for the target. -/
theorem authorize_text (hc : c.authorization? = some value) {request : Request}
    (h : request.IsFor target) (caller : Option String) (level : Level) (peer : σ) :
    authorize target caller c level ⟨request, peer⟩ =
      match request.headers.chosen.encode? value with
      | some octets => ⟨.ok (), ⟨request.credited (some octets), peer⟩, []⟩
      | none => ⟨.error (.text .unencodable), ⟨request.settle, peer⟩, []⟩ := by
  rw [authorize_run, hc, Option.some_or, Request.stamp_text h.isAddressedTo]
  cases request.headers.chosen.encode? value <;> rfl

/-- It succeeds if the encoding of the request has the characters of the value. -/
theorem authorize_ok_iff (hc : c.authorization? = some value) {request : Request}
    (h : request.IsFor target) (caller : Option String) (level : Level) (peer : σ) :
    (authorize target caller c level ⟨request, peer⟩).result = .ok () ↔
      ∀ ch ∈ value.toList, request.headers.chosen.Covers ch := by
  rw [authorize_text hc h, ← Encoding.encode?_isSome_iff]
  cases request.headers.chosen.encode? value <;> simp

/-- If it succeeds, the value is the only one that the request carries. -/
theorem carries_of_authorize_ok (hc : c.authorization? = some value) {request : Request}
    (h : request.IsFor target) {caller : Option String} {level : Level} {peer : σ}
    (hok : (authorize target caller c level ⟨request, peer⟩).result = .ok ()) :
    let sent := (authorize target caller c level ⟨request, peer⟩).state.request
    ∃ octets, request.headers.chosen.encode? value = some octets ∧
      sent.headers.rawValues Headers.authorizationKey = [octets] ∧
      sent.header authorization = .ok (some value) := by
  have hwrite := authorize_text hc h caller level peer
  cases hb : request.headers.chosen.encode? value with
  | none =>
    rw [hwrite, hb] at hok
    cases hok
  | some octets =>
    rw [hwrite, hb]
    exact ⟨octets, rfl, Headers.rawValues_withCredentials request.headers.settle (some octets),
      Request.header_authorization_credited (.text hb)⟩

/-- If it fails, nothing has happened to the request. -/
theorem authorize_of_not_ok (hc : c.authorization? = some value) {request : Request}
    (h : request.IsFor target) {caller : Option String} {level : Level} {peer : σ}
    (hno : (authorize target caller c level ⟨request, peer⟩).result ≠ .ok ()) :
    authorize target caller c level ⟨request, peer⟩ =
      ⟨.error (.text .unencodable), ⟨request.settle, peer⟩, []⟩ := by
  have hwrite := authorize_text hc h caller level peer
  cases hb : request.headers.chosen.encode? value with
  | none => rw [hwrite, hb]
  | some octets =>
    rw [hwrite, hb] at hno
    exact absurd rfl hno

/-- A token that neither ASCII nor ISO-8859-1 has. -/
def wideToken : CredentialSet := { registryToken := "€" }

theorem eq_utf8_of_covers_wideToken {e : Encoding}
    (h : ∀ ch ∈ "Bearer €".toList, e.Covers ch) : e = .utf8 := by
  have hwide : e.Covers '€' := h '€' (by decide)
  cases e with
  | utf8 => rfl
  | ascii => exact absurd hwide (by decide)
  | latin1 => exact absurd hwide (by decide)

/-- Which candidates can be sent, when a request for the target has headers that can be read. A
candidate with an active shape is written, and the request then carries its value, if and only if
the encoding of the headers has all characters of the value; otherwise the attempt fails with an
encoding error, before anything is sent, and the request stays as it was. So a request takes every
candidate if and only if the encoding of its headers is UTF-8; a candidate goes with every request
if and only if its value is ASCII, as that of a user name and a password always is. -/
theorem written_iff_covered (target : String) (caller : Option String) (level : Level) (peer : σ) :
    let write := fun (c : CredentialSet) (request : Request) =>
      authorize target caller c level ⟨request, peer⟩
    (∀ c (request : Request), c.activeShape ≠ none → request.IsFor target → ∃ value,
      c.authorization? = some value ∧
      ((write c request).result = .ok () ↔
        ∀ ch ∈ value.toList, request.headers.chosen.Covers ch) ∧
      ((write c request).result = .ok () → ∃ octets,
        request.headers.chosen.encode? value = some octets ∧
        (write c request).state.request.headers.rawValues Headers.authorizationKey = [octets] ∧
        (write c request).state.request.header authorization = .ok (some value)) ∧
      ((write c request).result ≠ .ok () →
        write c request = ⟨.error (.text .unencodable), ⟨request.settle, peer⟩, []⟩)) ∧
    (∀ request : Request, request.IsFor target →
      ((∀ c, c.activeShape ≠ none → (write c request).result = .ok ()) ↔
        request.headers.chosen = .utf8)) ∧
    (Charset.isAscii target.toList = true → ∀ c value, c.authorization? = some value →
      ((∀ request : Request, request.IsFor target → (write c request).result = .ok ()) ↔
        Charset.isAscii value.toList = true)) ∧
    (∀ c (request : Request), c.activeShape = some .basic → request.IsFor target →
      (write c request).result = .ok ()) := by
  intro write
  refine ⟨fun c request hshape h => ?_,
    fun request h => ⟨fun hall => ?_, fun hutf8 c hshape => ?_⟩,
    fun hascii c value hc => ⟨fun hall => ?_, fun hplain request h => ?_⟩,
    fun c request hshape h => ?_⟩
  · obtain ⟨value, hc⟩ := CredentialSet.exists_authorization? hshape
    exact ⟨value, hc, authorize_ok_iff hc h caller level peer, carries_of_authorize_ok hc h,
      authorize_of_not_ok hc h⟩
  · exact eq_utf8_of_covers_wideToken
      ((authorize_ok_iff rfl h caller level peer).mp (hall wideToken (by decide)))
  · obtain ⟨value, hc⟩ := CredentialSet.exists_authorization? hshape
    rw [authorize_ok_iff hc h, hutf8]
    exact fun _ _ => trivial
  · obtain ⟨hchosen, hfor⟩ := Request.isFor_rootWith_host hascii
    have hcovers := (authorize_ok_iff hc hfor caller level peer).mp (hall _ hfor)
    rw [hchosen] at hcovers
    exact Encoding.isAscii_iff_covers.mpr hcovers
  · exact (authorize_ok_iff hc h caller level peer).mpr (Encoding.covers_of_isAscii hplain _)
  · obtain ⟨value, hc⟩ := CredentialSet.exists_authorization? (c := c) (by simp [hshape])
    exact (authorize_ok_iff hc h caller level peer).mpr
      (Encoding.covers_of_isAscii (CredentialSet.isAscii_of_basic hshape value hc) _)

/-- A header in UTF-8 beside it lets a token through that has a letter beyond ASCII. -/
theorem written_iff_covered_beside_utf8 :
    let request := rootWith "h" [(Text.Utf8.encode "Name", Text.Utf8.encode "ü")]
    let token : CredentialSet := { registryToken := "é" }
    token.activeShape ≠ none ∧ request.IsFor "h" ∧ token.authorization? = some "Bearer é" ∧
    (authorize "h" none token .warning ⟨request, ()⟩).result = .ok () := by
  have hfor : (rootWith "h" [(Text.Utf8.encode "Name", Text.Utf8.encode "ü")]).IsFor "h" :=
    ⟨.inr rfl, Headers.readable_of_unsettled rfl⟩
  exact ⟨by decide, hfor, rfl,
    ((written_iff_covered "h" none .warning ()).2.1 _ hfor).mpr rfl _ (by decide)⟩

/-- The same token is not sent with a request that has no such header, and its call fails. -/
theorem token_not_written :
    let token : CredentialSet := { registryToken := "é" }
    let layer : Layer (List (Except Fault Response)) := ⟨.blocking, "h", pure ⟨token, []⟩⟩
    let line : Line (List (Except Fault Response)) := ⟨rootOf "h", [answerOf 200 "text/plain"]⟩
    token.authorization? = some "Bearer é" ∧ line.request.IsFor "h" ∧
    (authorize "h" none token .warning line).result = .error (.text .unencodable) ∧
    (layer.send replay .warning line).result = .error (.text .unencodable) ∧
    trialsOf layer replay .warning line = [] :=
  ⟨rfl, ⟨.inr rfl, Headers.readable_of_unsettled rfl⟩, rfl, rfl, rfl⟩

end Relay
end AuthRelay
