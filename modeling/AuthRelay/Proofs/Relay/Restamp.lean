import AuthRelay.Proofs.Relay.Stamp
/-!
# Requests that are stamped again and again

Every attempt of a call stamps the request that the attempt before it has left. As long as nobody
else edits the request, only the last stamp shows: the request is the one that the call began with,
with the last value in the place where the first one went. `Request.Restamped` is that invariant,
and under it stamping has a closed form.
-/
namespace AuthRelay

theorem Encoding.Writes.eq_none {e : Encoding} {value : Option String} {octets : Option Bytes}
    (h : e.Writes value octets) (ho : octets = none) : value = none := by
  cases h with
  | nothing => rfl
  | text h => cases ho

/-- A candidate whose header is ASCII, if it makes one. -/
def CredentialSet.IsAscii (c : CredentialSet) : Prop :=
  ∀ text, c.authorization? = some text → Charset.isAscii text.toList = true

namespace Request

/-- A value that can be put on a request again and again. The absence of a value can be, if the
request came without one. -/
def Writable (origin : Request) (value : Option String) (octets : Option Bytes) : Prop :=
  origin.headers.chosen.Writes value octets ∧
    (value = none → origin.headers.rawValues Headers.authorizationKey = [])

/-- A request as it was at first, or with a value under the header for credentials since. -/
def Restamped (origin r : Request) : Prop :=
  r.Untouched origin ∨
    ∃ value octets, origin.Writable value octets ∧ r.Untouched (origin.credited octets)

/-! ## Values that can be written -/

theorem writable_of_covers {origin : Request} {text : String}
    (h : ∀ c ∈ text.toList, origin.headers.chosen.Covers c) :
    ∃ octets, origin.Writable (some text) octets := by
  obtain ⟨octets, ho⟩ := Option.isSome_iff_exists.mp (Encoding.encode?_isSome_iff.mpr h)
  exact ⟨some octets, .text ho, fun hn => by cases hn⟩

/-- What a request carries can be put on it again. -/
theorem writable_of_header {origin : Request} {entry : Option String}
    (h : origin.header Relay.authorization = .ok entry) :
    ∃ octets, origin.Writable entry octets := by
  have hg := get?_of_header h
  cases entry with
  | none =>
    exact ⟨none, .nothing, fun _ =>
      Headers.rawValues_of_get?_none (Headers.key_authorization _) hg⟩
  | some text => exact writable_of_covers (Headers.covers_of_get? (Headers.key_authorization _) hg)

/-- An ASCII candidate can be put on any request, and so can what stands in for one that has no
active shape. -/
theorem writable_of_candidate {origin : Request} {entry : Option String} {c : CredentialSet}
    (h : origin.header Relay.authorization = .ok entry)
    (hascii : c.IsAscii) :
    ∃ octets, origin.Writable (c.authorization?.or entry) octets := by
  cases hc : c.authorization? with
  | none => exact writable_of_header h
  | some text => exact writable_of_covers (Encoding.covers_of_isAscii (hascii text hc) _)

/-! ## The invariant -/

variable {origin r : Request}

theorem Untouched.credited {r' : Request} (h : r.Untouched r') (octets : Option Bytes) :
    (r.credited octets).headers = (r'.credited octets).headers := by
  simp only [Request.credited, h.2]

theorem Untouched.chosen_eq {r' : Request} (h : r.Untouched r') :
    r.headers.chosen = r'.headers.chosen :=
  Option.some.inj (congrArg Headers.encoding h.2)

theorem chosen_credited (r : Request) (octets : Option Bytes) :
    (r.credited octets).headers.chosen = r.headers.chosen :=
  Headers.chosen_withCredentials (h := r.headers.settle) rfl octets

theorem settle_headers_credited (r : Request) (octets : Option Bytes) :
    (r.credited octets).headers.settle = (r.credited octets).headers :=
  Headers.settle_of_encoding (Headers.encoding_withCredentials r.headers.settle octets)

theorem Restamped.sameAddress (h : origin.Restamped r) : r.SameAddress origin := by
  rcases h with h | ⟨value, octets, -, h⟩
  · exact h.sameAddress
  · exact ⟨h.1, h.sameAddress.2.trans (header_host_credited origin octets)⟩

theorem Restamped.chosen_eq (h : origin.Restamped r) :
    r.headers.chosen = origin.headers.chosen := by
  rcases h with h | ⟨value, octets, -, h⟩
  · exact h.chosen_eq
  · exact h.chosen_eq.trans (chosen_credited origin octets)

theorem Restamped.settle (h : origin.Restamped r) : origin.Restamped r.settle := by
  rcases h with h | ⟨value, octets, hw, h⟩
  · exact .inl h.of_settle
  · exact .inr ⟨value, octets, hw, h.of_settle⟩

theorem Restamped.untouched {r' : Request} (h : origin.Restamped r) (hr : r'.Untouched r) :
    origin.Restamped r' := by
  rcases h with h | ⟨value, octets, hw, h⟩
  · exact .inl (hr.trans h)
  · exact .inr ⟨value, octets, hw, hr.trans h⟩

/-- Nothing shows of an earlier stamp. -/
theorem Restamped.headers_credited (h : origin.Restamped r) (octets : Option Bytes) :
    (r.credited octets).headers = (origin.credited octets).headers := by
  rcases h with h | ⟨value, first, hw, h⟩
  · exact h.credited octets
  · -- the new value takes the place of the first one
    rw [h.credited octets, Request.credited, settle_headers_credited]
    exact Headers.withCredentials_withCredentials (h := origin.headers.settle)
      (fun ho => hw.2 (hw.1.eq_none ho)) octets

theorem Restamped.credited (h : origin.Restamped r) {value : Option String}
    {octets : Option Bytes} (hw : origin.Writable value octets) :
    origin.Restamped (r.credited octets) := by
  refine .inr ⟨value, octets, hw, h.sameAddress.1, ?_⟩
  rw [h.headers_credited octets]

theorem Restamped.credited_credited (h : origin.Restamped r) {value : Option String}
    {first : Option Bytes} (hw : origin.Writable value first) (octets : Option Bytes) :
    (r.credited first).credited octets = r.credited octets := by
  have hheaders := ((h.credited hw).headers_credited octets).trans (h.headers_credited octets).symm
  exact congrArg (fun headers => { r with headers }) hheaders

/-- The header for credentials can be read at any time. -/
theorem Restamped.readable (h : origin.Restamped r)
    (hraw : origin.headers.rawValues Headers.authorizationKey = []) :
    ∃ found, r.headers.settle.get? Relay.authorization = .ok found := by
  rcases h with h | ⟨value, octets, hw, h⟩
  · rw [h.2]
    exact ⟨none, Headers.get?_of_rawValues_nil (Headers.key_authorization _) hraw⟩
  · rw [h.2]
    exact ⟨value, Headers.get?_withCredentials (h := origin.headers.settle) rfl hw.1⟩

/-- The closed form of stamping: only the address of the request decides whether it fails. -/
theorem Restamped.stamp_eq (h : origin.Restamped r) {value : Option String}
    {octets : Option Bytes} (hw : origin.Writable value octets) (target : String) :
    r.stamp target value =
      match origin.isAddressedTo target with
      | .error fault => (.error fault, r.settle)
      | .ok false => (.ok (), r.settle)
      | .ok true => (.ok (), r.credited octets) := by
  obtain ⟨hwrites, hraw⟩ := hw
  rw [← h.sameAddress.isAddressedTo_eq target]
  cases ha : r.isAddressedTo target with
  | error fault => simp only [stamp, ha]
  | ok answer =>
    cases answer with
    | false => simp only [stamp, ha]
    | true =>
      cases hwrites with
      | nothing =>
        -- only a header that can be read can be dropped
        obtain ⟨found, hfound⟩ := h.readable (hraw rfl)
        rw [Headers.get?_settle] at hfound
        rw [stamp_nothing ha, hfound]
      | text hencode =>
        rw [← h.chosen_eq] at hencode
        rw [stamp_text ha, hencode]

theorem Restamped.stamp (h : origin.Restamped r) {value : Option String}
    {octets : Option Bytes} (hw : origin.Writable value octets) (target : String) :
    origin.Restamped (r.stamp target value).2 := by
  rw [h.stamp_eq hw target]
  cases origin.isAddressedTo target with
  | error fault => exact h.settle
  | ok answer =>
    cases answer with
    | false => exact h.settle
    | true => exact h.credited hw

/-- Stamping fails with every value or with none. -/
theorem Restamped.stamp_of_error (h : origin.Restamped r) {value other : Option String}
    {octets more : Option Bytes} (hw : origin.Writable value octets)
    (hw' : origin.Writable other more) {target : String} {fault : Fault}
    (hs : (r.stamp target value).1 = .error fault) :
    r.stamp target other = (.error fault, r.settle) := by
  rw [h.stamp_eq hw target] at hs
  rw [h.stamp_eq hw' target]
  cases ha : origin.isAddressedTo target with
  | error cause =>
    rw [ha] at hs
    cases hs
    rfl
  | ok answer =>
    rw [ha] at hs
    cases answer <;> cases hs

/-- Of two stamps the second is the one that counts. -/
theorem Restamped.stamp_stamp (h : origin.Restamped r) {value other : Option String}
    {octets more : Option Bytes} (hw : origin.Writable value octets)
    (hw' : origin.Writable other more) {target : String}
    (hs : (r.stamp target value).1 = .ok ()) :
    (r.stamp target value).2.settle.stamp target other = r.stamp target other := by
  rw [(h.stamp hw target).settle.stamp_eq hw' target, h.stamp_eq hw' target]
  rw [h.stamp_eq hw target] at hs ⊢
  cases ha : origin.isAddressedTo target with
  | error cause =>
    rw [ha] at hs
    cases hs
  | ok answer =>
    cases answer with
    | false => rfl
    | true =>
      have hcredited := h.credited_credited hw more
      simp only [Prod.mk.injEq, true_and]
      exact hcredited

/-- If the header for credentials could be read at first, it can be read at any time. -/
theorem Restamped.header_ok (h : origin.Restamped r) {entry : Option String}
    (hv : origin.header Relay.authorization = .ok entry) :
    ∃ found, r.header Relay.authorization = .ok found := by
  rcases h with h | ⟨value, octets, hw, h⟩
  · exact ⟨entry, (h.header_eq _).trans hv⟩
  · exact ⟨value, (h.header_eq _).trans (header_authorization_credited hw.1)⟩

end Request
end AuthRelay
