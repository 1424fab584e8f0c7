import AuthRelay.Proofs.Relay.Watch
/-!
# A request for another host

Whatever the candidates of a relay are, a request that is not for the target of the relay goes out
as the caller made it. All that shows of the candidates is how many there are: two relays whose
sources have equally many of them cannot be told apart by such a request.
-/
namespace AuthRelay.Relay

variable {σ ρ ρ' : Type}

/-- Two lines with one request, which is as the caller made it, and one state of the carrier. -/
def SideBySide (origin : Request) (line : Line (ρ × σ)) (line' : Line (ρ' × σ)) : Prop :=
  line.request = line'.request ∧ line.peer.2 = line'.peer.2 ∧ line.request.Untouched origin

variable {origin : Request} {target : String} {next : Carrier σ}

theorem besides_sideBySide (hnext : Untouching next) :
    Act.Alike (SideBySide origin : Line (ρ × σ) → Line (ρ' × σ) → Prop) some (besides next)
      (besides next) := by
  intro level line line' h
  obtain ⟨hrequest, hpeer, huntouched⟩ := h
  have hnext := hnext level ⟨line.request, line.peer.2⟩
  rw [Act.alikeAt_iff, besides_run, besides_run, ← hrequest, ← hpeer]
  exact ⟨rfl, ⟨rfl, rfl, hnext.trans huntouched⟩, rfl⟩

/-- No candidate makes a difference. -/
theorem authorize_sideBySide (hforeign : ¬ origin.AddressedTo target) (entry : Option String)
    (c c' : CredentialSet) :
    Act.Alike (SideBySide origin : Line (ρ × σ) → Line (ρ' × σ) → Prop) some
      (authorize target entry c) (authorize target entry c') := by
  intro level line line' h
  obtain ⟨hrequest, hpeer, huntouched⟩ := h
  have hnot : ¬ line.request.AddressedTo target := fun haddr =>
    hforeign ((huntouched.sameAddress.addressedTo target).mp haddr)
  rw [Act.alikeAt_iff, authorize_run, authorize_run, ← hrequest,
    Request.stamp_of_not_addressedTo hnot (c'.authorization?.or entry) (c.authorization?.or entry)]
  exact ⟨rfl, ⟨rfl, hpeer, (Request.stamp_untouched hnot _).trans huntouched⟩, rfl⟩

theorem attempts_sideBySide (hforeign : ¬ origin.AddressedTo target) (hnext : Untouching next)
    (entry : Option String) {candidates candidates' : Candidates}
    (hlen : candidates.rest.length = candidates'.rest.length) (total : Nat) :
    Act.Alike (SideBySide origin : Line (ρ × σ) → Line (ρ' × σ) → Prop) some
      (attempts target entry total (besides next) 1 candidates.first candidates.rest)
      (attempts target entry total (besides next) 1 candidates'.first candidates'.rest) := by
  rw [attempts_eq, attempts_eq]
  refine (authorize_sideBySide hforeign entry candidates.first candidates'.first).bind fun _ => ?_
  refine onward_alike 0 (besides_sideBySide hnext) (fun drained k => ?_) ?_ 1
  · exact logRejection_alike some (fun _ _ h => h.1) drained k total
  · exact List.forall₂_iff_get.mpr ⟨hlen, fun _ _ _ => authorize_sideBySide hforeign entry _ _⟩

/-! ## Whole calls -/

section

variable {gather : Act ρ Candidates} {gather' : Act ρ' Candidates} {level : Level} {r p : ρ}
  {r' p' : ρ'} {candidates candidates' : Candidates} {journal journal' : List Mark}

theorem relay_sideBySide (hnext : Untouching next) (hforeign : ¬ origin.AddressedTo target)
    (hgather : gather level r = ⟨.ok candidates, p, journal⟩)
    (hgather' : gather' level r' = ⟨.ok candidates', p', journal'⟩)
    (hlen : candidates.toList.length = candidates'.toList.length) (s : σ) :
    let run := relay target gather next level ⟨origin, (r, s)⟩
    let run' := relay target gather' next level ⟨origin, (r', s)⟩
    run.result = run'.result ∧ SideBySide origin run.state run'.state ∧
      ∃ rest, run.journal = journal ++ rest ∧ run'.journal = journal' ++ rest := by
  cases hv : origin.header authorization with
  | error fault =>
    rw [relay_of_header_error target next s hgather hv,
      relay_of_header_error target next s hgather' hv]
    exact ⟨rfl, ⟨rfl, rfl, rfl, rfl⟩, [], by simp, by simp⟩
  | ok entry =>
    rw [relay_of_header_ok target next s hgather hv,
      relay_of_header_ok target next s hgather' hv, ← hlen]
    obtain ⟨hresult, hstate, hjournal⟩ := attempts_sideBySide hforeign hnext entry
      (Nat.succ.inj hlen) candidates.toList.length level ⟨origin.settle, (p, s)⟩
      ⟨origin.settle, (p', s)⟩ ⟨rfl, rfl, rfl, rfl⟩
    rw [List.filterMap_some, List.filterMap_some] at hjournal
    exact ⟨hresult, hstate, _, rfl, by rw [hjournal]⟩

/-- A line on which the request, now and at every send, is as the caller made it. -/
def AsMade (origin : Request) (line : Line (ρ × Watched σ)) : Prop :=
  line.request.Untouched origin ∧ ∀ sent ∈ line.peer.2.sends, sent.Untouched origin

theorem besides_keeps_asMade (hnext : Untouching next) :
    Act.Keeps (AsMade (ρ := ρ) origin) (besides (watch next)) := by
  intro level line h
  obtain ⟨huntouched, hsends⟩ := h
  have hnext := hnext level ⟨line.request, line.peer.2.state⟩
  refine ⟨hnext.trans huntouched, fun sent hsent => ?_⟩
  rcases List.mem_append.mp hsent with hsent | hsent
  · exact hsends sent hsent
  · rw [List.mem_singleton.mp hsent]
    exact huntouched

theorem authorize_keeps_asMade (hforeign : ¬ origin.AddressedTo target) (entry : Option String)
    (c : CredentialSet) :
    Act.Keeps (AsMade (ρ := ρ) (σ := σ) origin) (authorize target entry c) := by
  intro level line h
  have hnot : ¬ line.request.AddressedTo target := fun haddr =>
    hforeign ((h.1.sameAddress.addressedTo target).mp haddr)
  rw [authorize_run]
  exact ⟨(Request.stamp_untouched hnot _).trans h.1, h.2⟩

theorem relay_asMade (hnext : Untouching next) (hforeign : ¬ origin.AddressedTo target)
    (hgather : gather level r = ⟨.ok candidates, p, journal⟩) (s : σ) :
    AsMade origin
      (relay target gather (watch next) level ⟨origin, (r, ⟨s, [], []⟩)⟩).state := by
  cases hv : origin.header authorization with
  | error fault =>
    rw [relay_of_header_error target (watch next) ⟨s, [], []⟩ hgather hv]
    exact ⟨⟨rfl, rfl⟩, by simp⟩
  | ok entry =>
    rw [relay_of_header_ok target (watch next) ⟨s, [], []⟩ hgather hv]
    exact attempts_keeps (besides_keeps_asMade hnext)
      (fun c _ => authorize_keeps_asMade hforeign entry c) 1 level _ ⟨⟨rfl, rfl⟩, by simp⟩

/-- Take a request that is not for the target, a carrier that leaves requests alone, and two sources
with equally many candidates. The answers, the requests that are sent and everything that shows
after the sources have been asked are the same, and every request goes out, and comes back, with the
headers that the caller gave it. -/
theorem relay_noninterference (hnext : Untouching next) {request : Request}
    (hforeign : ¬ request.AddressedTo target)
    (hgather : gather level r = ⟨.ok candidates, p, journal⟩)
    (hgather' : gather' level r' = ⟨.ok candidates', p', journal'⟩)
    (hlen : candidates.toList.length = candidates'.toList.length) (s : σ) :
    let run := relay target gather next level ⟨request, (r, s)⟩
    let run' := relay target gather' next level ⟨request, (r', s)⟩
    let sends := (relay target gather (watch next) level
      ⟨request, (r, ⟨s, [], []⟩)⟩).state.peer.2.sends
    let sends' := (relay target gather' (watch next) level
      ⟨request, (r', ⟨s, [], []⟩)⟩).state.peer.2.sends
    run.result = run'.result ∧ run.state.request = run'.state.request ∧
    run.state.peer.2 = run'.state.peer.2 ∧
    (∃ rest, run.journal = journal ++ rest ∧ run'.journal = journal' ++ rest) ∧
    sends = sends' ∧ (∀ sent ∈ sends, sent.headers.entries = request.headers.entries) ∧
    run.state.request.headers.entries = request.headers.entries := by
  obtain ⟨hresult, ⟨hrequest, hpeer, huntouched⟩, hjournal⟩ :=
    relay_sideBySide hnext hforeign hgather hgather' hlen s
  -- the same two runs once more, in front of the watched carrier
  obtain ⟨-, ⟨-, hwatched, -⟩, -⟩ :=
    relay_sideBySide hnext.watch hforeign hgather hgather' hlen ⟨s, [], []⟩
  have hmade := relay_asMade hnext hforeign hgather s
  exact ⟨hresult, hrequest, hpeer, hjournal, congrArg Watched.sends hwatched,
    fun sent hsent => (hmade.2 sent hsent).entries_eq, huntouched.entries_eq⟩

end

/-- Two tokens, or anything else twice: the caller's own header goes out both times. -/
theorem relay_noninterference_two_tokens :
    let request : Request := { rootOf "h" with headers :=
      { entries := [(Text.Utf8.encode "AUTHORIZATION", Text.Utf8.encode "mine")] } }
    let answers := [answerOf 401 "text/plain", answerOf 403 "text/plain"]
    let other : Candidates := ⟨{ auth := "c" }, [{}]⟩
    let sends := (relay "elsewhere" (pure twoTokens : Act Unit Candidates) (watch replay) .warning
      ⟨request, ((), ⟨answers, [], []⟩)⟩).state.peer.2.sends
    let sends' := (relay "elsewhere" (pure other : Act Nat Candidates) (watch replay) .warning
      ⟨request, (0, ⟨answers, [], []⟩)⟩).state.peer.2.sends
    Untouching replay ∧ ¬ request.AddressedTo "elsewhere" ∧
    twoTokens.toList.length = other.toList.length ∧ sends = sends' ∧ sends.length = 2 ∧
    ∀ sent ∈ sends, sent.headers.entries = request.headers.entries := by
  have hforeign : ¬ Request.AddressedTo { rootOf "h" with headers :=
      { entries := [(Text.Utf8.encode "AUTHORIZATION", Text.Utf8.encode "mine")] } }
      "elsewhere" := by
    have hanswer : Request.isAddressedTo { rootOf "h" with headers :=
        { entries := [(Text.Utf8.encode "AUTHORIZATION", Text.Utf8.encode "mine")] } }
        "elsewhere" = .ok false := rfl
    rw [Request.addressedTo_iff hanswer]
    simp
  have hgather : (pure twoTokens : Act Unit Candidates) .warning () = ⟨.ok twoTokens, (), []⟩ := rfl
  have hgather' : (pure ⟨{ auth := "c" }, [{}]⟩ : Act Nat Candidates) .warning 0 =
      ⟨.ok ⟨{ auth := "c" }, [{}]⟩, 0, []⟩ := rfl
  obtain ⟨-, -, -, -, hsends, hentries, -⟩ := relay_noninterference untouching_replay hforeign
    hgather hgather' rfl [answerOf 401 "text/plain", answerOf 403 "text/plain"]
  exact ⟨untouching_replay, hforeign, rfl, hsends, rfl, hentries⟩

end AuthRelay.Relay
