import AuthRelay.Proofs.Relay.Flattening
import AuthRelay.Proofs.Relay.Resending
/-!
# The headers that a candidate is sent with

An attempt finds the request as the attempts before it have left it. As long as nobody else edits
the request, nothing of them shows: the headers of a send are those that the caller gave the
request, with what belongs to the candidate in the place of the caller's own header for credentials.
That is a function of the caller's headers and of the candidate, and `Headers.outgoing` is that
function. What becomes of several values of the caller's own can be read off from it, and the other
headers are the same on both sides of it.
-/
namespace AuthRelay

namespace Headers

/-- The headers with which a candidate is sent to the target of a relay: the caller's, with the
candidate's own value, or else the caller's, under the header for credentials. -/
def outgoing (h : Headers) (c : CredentialSet) : Headers :=
  match h.get? Relay.authorization with
  | .ok entry => h.settle.withCredentials ((c.authorization?.or entry).bind h.chosen.encode?)
  | .error _ => h.settle

theorem outgoing_of_get? {h : Headers} {entry : Option String}
    (hg : h.get? Relay.authorization = .ok entry) (c : CredentialSet) :
    h.outgoing c =
      h.settle.withCredentials ((c.authorization?.or entry).bind h.chosen.encode?) := by
  rw [outgoing, hg]

/-- The value of a candidate stands in a single entry, in the place of the caller's first one. -/
theorem putIn_withCredentials (h : Headers) (octets : Bytes) :
    (h.withCredentials (some octets)).entries.filter (named authorizationKey) =
        [(authorizationName, octets)] ∧
      PutIn authorizationKey (authorizationName, octets) h.entries
        (h.withCredentials (some octets)).entries :=
  ⟨filter_named_putEntry (named_authorizationName octets) h.entries,
    putIn_putEntry authorizationKey (authorizationName, octets) h.entries⟩

/-! ## What the caller's own header becomes -/

/-- What stands between two values that are joined. -/
def separator : Bytes := Text.Utf8.encode ", "

/-- Several values as one. -/
def joined : List Bytes → List Bytes
  | [] => []
  | value :: rest => [separator.intercalate (value :: rest)]

theorem joined_eq_self_iff {values : List Bytes} : joined values = values ↔ values.length ≤ 1 := by
  match values with
  | [] => simp [joined]
  | [value] => simp [joined]
  | first :: second :: rest => simp [joined]

theorem encode?_separator (e : Encoding) : e.encode? ", " = some separator := by
  cases e <;> rfl

/-- What a look-up finds is written as the values joined. -/
theorem bind_encode?_of_get? {h : Headers} {name : String} {key : Bytes} {found : Option String}
    (hk : h.key name = .ok key) (hg : h.get? name = .ok found) :
    (found.bind h.chosen.encode?).toList = joined (h.rawValues key) := by
  simp only [get?, hk, bind, Except.bind] at hg
  split at hg
  · rename_i hv
    cases hg
    rw [hv]
    rfl
  · rename_i value rest hv
    split at hg
    · rename_i texts htexts
      cases hg
      rw [hv, Option.bind_some,
        Encoding.encode?_intercalate (encode?_separator h.chosen) htexts]
      rfl
    · cases hg

/-- A candidate without an active shape is sent with the caller's own values joined. -/
theorem rawValues_outgoing {h : Headers} {entry : Option String} {c : CredentialSet}
    (hg : h.get? Relay.authorization = .ok entry) (hc : c.authorization? = none) :
    (h.outgoing c).rawValues authorizationKey = joined (h.rawValues authorizationKey) := by
  rw [outgoing_of_get? hg, rawValues_withCredentials, hc, Option.none_or,
    ← bind_encode?_of_get? (key_authorization h) hg]

end Headers

namespace Request

variable {target : String} {origin r : Request} {entry : Option String} {c : CredentialSet}

/-- A request that has at most been stamped for a target since a call began. -/
structure OnlyStamped (target : String) (origin r : Request) : Prop where
  restamped : origin.Restamped r
  untouched : ¬ origin.AddressedTo target → r.Untouched origin

/-- A request as a candidate is sent with it, when the caller's own header has been found on it. -/
structure SentWith (target : String) (origin : Request) (entry : Option String)
    (c : CredentialSet) (sent : Request) : Prop where
  sameAddress : sent.SameAddress origin
  toTarget : origin.AddressedTo target → ∃ octets,
    origin.headers.chosen.Writes (c.authorization?.or entry) octets ∧
      sent.headers = origin.headers.settle.withCredentials octets
  elsewhere : ¬ origin.AddressedTo target → sent.headers = origin.headers.settle

theorem Restamped.filter_entries (h : origin.Restamped r) :
    r.headers.entries.filter (!Headers.named Headers.authorizationKey ·) =
      origin.headers.entries.filter (!Headers.named Headers.authorizationKey ·) := by
  rcases h with h | ⟨value, octets, -, h⟩
  · rw [h.entries_eq]
  · rw [h.entries_eq]
    exact Headers.filter_withCredentials origin.headers.settle octets

theorem SentWith.filter_entries {sent : Request} (h : SentWith target origin entry c sent) :
    sent.headers.entries.filter (!Headers.named Headers.authorizationKey ·) =
      origin.headers.entries.filter (!Headers.named Headers.authorizationKey ·) := by
  by_cases haddr : origin.AddressedTo target
  · obtain ⟨octets, -, hheaders⟩ := h.toTarget haddr
    rw [hheaders]
    exact Headers.filter_withCredentials origin.headers.settle octets
  · rw [h.elsewhere haddr, Headers.entries_settle]

/-- What is sent to the target depends on the caller's headers and on the candidate only. -/
theorem SentWith.headers_eq {sent : Request} (h : SentWith target origin entry c sent)
    (hv : origin.header Relay.authorization = .ok entry) (haddr : origin.AddressedTo target) :
    sent.headers = origin.headers.outgoing c := by
  obtain ⟨octets, hw, hheaders⟩ := h.toTarget haddr
  rw [hheaders, Headers.outgoing_of_get? (get?_of_header hv), hw.bind_encode?]

theorem onlyStamped_self (target : String) (origin : Request) : OnlyStamped target origin origin :=
  ⟨.inl ⟨rfl, rfl⟩, fun _ => ⟨rfl, rfl⟩⟩

theorem OnlyStamped.of_untouched {r' : Request} (h : OnlyStamped target origin r)
    (hr : r'.Untouched r) : OnlyStamped target origin r' :=
  ⟨h.restamped.untouched hr, fun hforeign => hr.trans (h.untouched hforeign)⟩

/-- What has been written on behalf of a candidate can be written again. -/
theorem writable_of_writes {octets : Option Bytes}
    (hv : origin.header Relay.authorization = .ok entry)
    (hw : origin.headers.chosen.Writes (c.authorization?.or entry) octets) :
    origin.Writable (c.authorization?.or entry) octets := by
  refine ⟨hw, fun hnone => ?_⟩
  -- nothing is written only if the caller had put nothing there
  rw [(Option.or_eq_none_iff.mp hnone).2] at hv
  exact Headers.rawValues_of_get?_none (Headers.key_authorization _) (get?_of_header hv)

/-- One attempt: the request is still one that has at most been stamped, and it is sent with the
headers that belong to the candidate. -/
theorem OnlyStamped.stamp (h : OnlyStamped target origin r)
    (hv : origin.header Relay.authorization = .ok entry) (c : CredentialSet) :
    let stamped := r.stamp target (c.authorization?.or entry)
    OnlyStamped target origin stamped.2 ∧
      (stamped.1 = .ok () → SentWith target origin entry c stamped.2) := by
  have haddress := h.restamped.sameAddress
  have hsettled : OnlyStamped target origin r.settle := h.of_untouched ⟨rfl, rfl⟩
  rcases stamp_cases target (c.authorization?.or entry) r with
    ⟨fault, hs⟩ | ⟨hforeign, hs⟩ | ⟨haddr, octets, hw, hs⟩
  · rw [hs]
    exact ⟨hsettled, fun hok => by cases hok⟩
  · rw [hs]
    rw [haddress.addressedTo] at hforeign
    exact ⟨hsettled, fun _ => ⟨haddress, fun haddr => absurd haddr hforeign,
      fun _ => (h.untouched hforeign).2⟩⟩
  · rw [hs]
    rw [haddress.addressedTo] at haddr
    rw [h.restamped.chosen_eq] at hw
    have hcredited := h.restamped.credited (writable_of_writes hv hw)
    exact ⟨⟨hcredited, fun hforeign => absurd haddr hforeign⟩, fun _ =>
      ⟨hcredited.sameAddress, fun _ => ⟨octets, hw, h.restamped.headers_credited octets⟩,
        fun hforeign => absurd haddr hforeign⟩⟩

end Request

namespace Relay

open Request (OnlyStamped SentWith)

variable {σ : Type} {level : Level} {target : String} {entry : Option String} {next : Carrier σ}

/-- The trials of a call, one after another: each sends its candidate with the headers that belong
to it, whatever has been tried before. -/
theorem Trials.onlyStamped (hnext : Untouching next) {origin : Request}
    (hv : origin.header authorization = .ok entry) {start finish : Line σ}
    {trials : List (CredentialSet × Request)}
    (h : Trials level target entry next start trials finish)
    (hstart : OnlyStamped target origin start.request) :
    (∀ c sent, (c, sent) ∈ trials → SentWith target origin entry c sent) ∧
      OnlyStamped target origin finish.request := by
  induction h with
  | done => exact ⟨by simp, hstart⟩
  | @unwritten c line fault hr =>
    rw [authorize_run]
    exact ⟨by simp, (hstart.stamp hv c).1⟩
  | @sent c line finish later hwritten hlater ih =>
    obtain ⟨hstamped, hsent⟩ := hstart.stamp hv c
    rw [authorize_run] at hwritten
    have hready := authorize_run target entry c level line
    have hkept := hnext level (authorize target entry c level line).state
    simp only [hready] at hkept ih ⊢
    obtain ⟨htrials, hfinish⟩ := ih (hstamped.of_untouched hkept)
    refine ⟨fun d sent hmem => ?_, hfinish⟩
    rcases List.mem_cons.mp hmem with heq | hmem
    · cases heq
      exact hsent hwritten
    · exact htrials d sent hmem

/-- The trials of a call with a request whose header can be read, and the request in the end. A call
whose header cannot be read tries nothing. -/
theorem trialsOf_onlyStamped (layer : Layer σ) (hnext : Untouching next) (level : Level)
    (line : Line σ) :
    (∀ c sent, (c, sent) ∈ trialsOf layer next level line →
      ∃ entry, line.request.header authorization = .ok entry ∧
        SentWith layer.target line.request entry c sent) ∧
    (layer.send next level line).state.request.headers.entries.filter
      (!Headers.named Headers.authorizationKey ·) =
        line.request.headers.entries.filter (!Headers.named Headers.authorizationKey ·) := by
  rcases trialsOf_cases layer next level line with ⟨hnone, hkept⟩ | ⟨entry, peer, hentry, htrials⟩
  · rw [hnone, hkept.entries_eq]
    exact ⟨by simp, rfl⟩
  · have hself : OnlyStamped layer.target line.request line.request.settle :=
      (Request.onlyStamped_self layer.target line.request).of_untouched ⟨rfl, rfl⟩
    obtain ⟨hsent, hfinish⟩ := htrials.onlyStamped hnext hentry hself
    exact ⟨fun c sent hmem => ⟨entry, hentry, hsent c sent hmem⟩,
      hfinish.restamped.filter_entries⟩

/-- The header frame of a call whose request nobody but the relay edits. The trials account for all
sends. At every send, and when the call ends, the headers other than that for credentials are
those that the caller gave the request, in name, value, number and order. The headers of a send to
the target are a function of the caller's headers and of the candidate, whatever has been tried
before; a request for anyone else is sent with the caller's. A candidate with an active shape that
is sent to the target has its value in a single entry, which stands where the caller's first entry
of that name stood, or last if there was none. -/
theorem header_frame (layer : Layer σ) (hnext : Untouching next) (level : Level) (line : Line σ) :
    let trials := trialsOf layer next level line
    let caller := line.request.headers
    let others := fun entries : List (Bytes × Bytes) =>
      entries.filter (!Headers.named Headers.authorizationKey ·)
    trials.map Prod.snd =
      (layer.watch.send (watch next) level (line.watched [] [])).state.peer.sends ∧
    others (layer.send next level line).state.request.headers.entries = others caller.entries ∧
    ∀ c sent, (c, sent) ∈ trials →
      others sent.headers.entries = others caller.entries ∧
      (sent.AddressedTo layer.target ↔ line.request.AddressedTo layer.target) ∧
      (sent.AddressedTo layer.target → sent.headers = caller.outgoing c) ∧
      (¬ sent.AddressedTo layer.target → sent.headers = caller.settle) ∧
      (sent.AddressedTo layer.target → c.activeShape ≠ none → ∃ value octets,
        c.authorization? = some value ∧ caller.chosen.encode? value = some octets ∧
        sent.headers.entries.filter (Headers.named Headers.authorizationKey) =
          [(Headers.authorizationName, octets)] ∧
        Headers.PutIn Headers.authorizationKey (Headers.authorizationName, octets)
          caller.entries sent.headers.entries) := by
  intro trials caller others
  obtain ⟨htrials, hfinish⟩ := trialsOf_onlyStamped layer hnext level line
  refine ⟨map_snd_trialsOf layer next level line, hfinish, fun c sent hmem => ?_⟩
  obtain ⟨entry, hv, hsent⟩ := htrials c sent hmem
  have haddr := hsent.sameAddress.addressedTo layer.target
  refine ⟨hsent.filter_entries, haddr, fun h => hsent.headers_eq hv (haddr.mp h),
    fun h => hsent.elsewhere (mt haddr.mpr h), fun h hshape => ?_⟩
  obtain ⟨value, hvalue⟩ := CredentialSet.exists_authorization? hshape
  obtain ⟨octets, hw, hheaders⟩ := hsent.toTarget (haddr.mp h)
  rw [hvalue, Option.some_or] at hw
  cases hw with
  | text hencode =>
    rw [hheaders]
    exact ⟨value, _, hvalue, hencode, Headers.putIn_withCredentials caller.settle _⟩

/-- Two headers for credentials among two others. -/
def ownTwice : List (Bytes × Bytes) :=
  [("First", "1"), ("authorization", "a"), ("Second", "2"), ("AUTHORIZATION", "b")].map
    fun (name, value) => (Text.Utf8.encode name, Text.Utf8.encode value)

/-- A token and then an empty set: the other headers stay, and the token has one entry, in the place
of the caller's first one. -/
theorem header_frame_token_then_empty :
    let layer : Layer (List (Except Fault Response)) :=
      ⟨.stepwise, "h", pure ⟨{ registryToken := "t" }, [{}]⟩⟩
    let line : Line (List (Except Fault Response)) :=
      ⟨rootWith "h" ownTwice, [answerOf 401 "text/plain", answerOf 200 "text/plain"]⟩
    let trials := trialsOf layer replay .warning line
    Untouching replay ∧ trials.map (·.1.activeShape) = [some .bearer, none] ∧
    ∀ c sent, (c, sent) ∈ trials →
      sent.headers = line.request.headers.outgoing c ∧
      sent.headers.entries.filter (!Headers.named Headers.authorizationKey ·) =
        [(Text.Utf8.encode "First", Text.Utf8.encode "1"),
          (Text.Utf8.encode "Second", Text.Utf8.encode "2")] := by
  have haddr : (rootWith "h" ownTwice).AddressedTo "h" := .inr rfl
  have hothers : ownTwice.filter (!Headers.named Headers.authorizationKey ·) =
      [(Text.Utf8.encode "First", Text.Utf8.encode "1"),
        (Text.Utf8.encode "Second", Text.Utf8.encode "2")] := rfl
  refine ⟨untouching_replay, rfl, fun c sent hmem => ?_⟩
  obtain ⟨hsent, haddress, hheaders, -⟩ :=
    (header_frame _ untouching_replay .warning _).2.2 c sent hmem
  exact ⟨hheaders (haddress.mpr haddr), hsent.trans hothers⟩

/-! ## The caller's own header -/

/-- What a candidate without an active shape is sent with, when nobody but the relay edits a request
for the target: the values that the caller had put under the header for credentials, joined into one
if there are several. So the values are sent as they were, octet for octet and whatever has been
tried before, if and only if no such candidate is sent or the caller had put at most one there. -/
theorem own_values_sent (layer : Layer σ) (hnext : Untouching next) (level : Level) (line : Line σ)
    (haddr : line.request.AddressedTo layer.target) :
    let trials := trialsOf layer next level line
    let values := fun request : Request => request.headers.rawValues Headers.authorizationKey
    let own := values line.request
    trials.map Prod.snd =
      (layer.watch.send (watch next) level (line.watched [] [])).state.peer.sends ∧
    (∀ c sent, (c, sent) ∈ trials → c.activeShape = none → values sent = Headers.joined own) ∧
    ((∀ c sent, (c, sent) ∈ trials → c.activeShape = none → values sent = own) ↔
      ((∃ c sent, (c, sent) ∈ trials ∧ c.activeShape = none) → own.length ≤ 1)) := by
  intro trials values own
  have hjoined : ∀ c sent, (c, sent) ∈ trials → c.activeShape = none →
      values sent = Headers.joined own := by
    intro c sent hmem hshape
    obtain ⟨entry, hv, hsent⟩ := (trialsOf_onlyStamped layer hnext level line).1 c sent hmem
    dsimp only [values, own]
    rw [hsent.headers_eq hv haddr]
    exact Headers.rawValues_outgoing (Request.get?_of_header hv)
      (authorization?_of_shapeless hshape)
  refine ⟨map_snd_trialsOf layer next level line, hjoined, ?_, ?_⟩
  · rintro hown ⟨c, sent, hmem, hshape⟩
    rw [← Headers.joined_eq_self_iff, ← hjoined c sent hmem hshape]
    exact hown c sent hmem hshape
  · intro hlength c sent hmem hshape
    rw [hjoined c sent hmem hshape, Headers.joined_eq_self_iff]
    exact hlength ⟨c, sent, hmem, hshape⟩

/-- A single value of the caller's own, in ISO-8859-1, is what the empty set is sent with after a
token has been rejected. -/
theorem own_values_sent_after_token :
    let layer : Layer (List (Except Fault Response)) :=
      ⟨.blocking, "h", pure ⟨{ registryToken := "t" }, [{}]⟩⟩
    let line : Line (List (Except Fault Response)) :=
      ⟨rootWith "h" [(Headers.authorizationName, [0xE9])],
        [answerOf 401 "text/plain", answerOf 200 "text/plain"]⟩
    let trials := trialsOf layer replay .warning line
    Untouching replay ∧ line.request.AddressedTo layer.target ∧
    trials.map (·.1.activeShape) = [some .bearer, none] ∧
    ∀ c sent, (c, sent) ∈ trials → c.activeShape = none →
      sent.headers.rawValues Headers.authorizationKey = [[0xE9]] := by
  have haddr : (rootWith "h" [(Headers.authorizationName, [0xE9])]).AddressedTo "h" := .inr rfl
  exact ⟨untouching_replay, haddr, rfl,
    (own_values_sent _ untouching_replay .warning _ haddr).2.2.mpr fun _ => by decide⟩

/-- Two values that the caller had put there are sent as one. -/
theorem own_values_sent_as_one :
    let layer : Layer (List (Except Fault Response)) := ⟨.blocking, "h", pure ⟨{}, []⟩⟩
    let line : Line (List (Except Fault Response)) :=
      ⟨rootWith "h" ownTwice, [answerOf 200 "text/plain"]⟩
    Untouching replay ∧ line.request.AddressedTo layer.target ∧
    line.request.headers.rawValues Headers.authorizationKey =
      [Text.Utf8.encode "a", Text.Utf8.encode "b"] ∧
    (trialsOf layer replay .warning line).map (fun (c, sent) =>
      (c.activeShape, sent.headers.rawValues Headers.authorizationKey)) =
        [(none, [Text.Utf8.encode "a, b"])] :=
  ⟨untouching_replay, .inr rfl, rfl, rfl⟩

end Relay
end AuthRelay
