import AuthRelay.Proofs.Relay.Restamp
import AuthRelay.Proofs.Relay.Watch
/-!
# Two relays for one target

A relay in front of a relay for the same target tries every candidate of its own with every
candidate of the inner one. That is what a single relay does whose candidates are the pairs, in
order: of each pair the inner candidate counts if it has an active shape, and the outer one
otherwise. The inner relay takes what the outer one has written for the caller's own header, and it
leaves the rejection of its last candidate to the outer one; at both seams the single relay does
the same.
-/
namespace AuthRelay

/-- What an entry of the journal shows of the dealings with carriers and responses. The queries to
sources and the records are left out. -/
def Mark.dealing? : Mark → Option Event
  | .event (.query _) => none
  | .event e => some e
  | .record _ => none

namespace CredentialSet

/-- The candidate itself if it has an active shape, and else another one. -/
def orElse (c other : CredentialSet) : CredentialSet :=
  if c.activeShape.isSome then c else other

theorem authorization?_isSome (c : CredentialSet) :
    c.authorization?.isSome = c.activeShape.isSome := by
  unfold authorization?
  cases c.activeShape with
  | none => rfl
  | some shape => cases shape <;> rfl

/-- A set with an active shape makes a header. -/
theorem exists_authorization? {c : CredentialSet} (h : c.activeShape ≠ none) :
    ∃ value, c.authorization? = some value := by
  rw [← Option.isSome_iff_exists, c.authorization?_isSome]
  exact Option.isSome_iff_ne_none.mpr h

theorem authorization?_orElse (c other : CredentialSet) :
    (c.orElse other).authorization? = c.authorization?.or other.authorization? := by
  have h := c.authorization?_isSome
  unfold orElse
  cases hc : c.authorization? with
  | none =>
    rw [hc] at h
    simp [← h]
  | some text =>
    rw [hc] at h
    simp [← h, hc]

theorem IsAscii.orElse {c other : CredentialSet} (hc : c.IsAscii) (ho : other.IsAscii) :
    (c.orElse other).IsAscii := by
  unfold CredentialSet.orElse
  split
  · exact hc
  · exact ho

end CredentialSet

/-- The candidates of two relays as one list: for every outer candidate all the inner ones. -/
def Candidates.flatten (outer inner : Candidates) : Candidates where
  first := inner.first.orElse outer.first
  rest := inner.rest.map (·.orElse outer.first) ++
    outer.rest.flatMap fun c => inner.toList.map (·.orElse c)

example (outer inner : Candidates) : (outer.flatten inner).toList =
    outer.toList.flatMap fun c => inner.toList.map (·.orElse c) := rfl

namespace Relay

variable {σ π ρ ρ₁ ρ₂ : Type}

/-- A source that always hands over the same candidates. -/
def Yields (gather : Act ρ Candidates) (candidates : Candidates) : Prop :=
  ∀ level r, ∃ p journal, gather level r = ⟨.ok candidates, p, journal⟩ ∧
    journal.filterMap Mark.dealing? = []

/-- Two lines with one request, which has at most been stamped since the call began, and one state
of the carrier. -/
def Abreast (origin : Request) (view : π → σ) (line : Line π) (line' : Line (ρ × σ)) : Prop :=
  line.request = line'.request ∧ view line.peer = line'.peer.2 ∧ origin.Restamped line.request

variable {origin : Request} {target : String} {entry : Option String} {view : π → σ}

theorem logRejection_abreast (response : Response) (attempt total attempt' total' : Nat) :
    Act.Alike (Abreast (ρ := ρ) origin view) Mark.dealing? (logRejection response attempt total)
      (logRejection response attempt' total') :=
  logRejection_alike_of_unseen (fun _ => rfl) response attempt total attempt' total'

theorem besides_abreast {base : Carrier σ} (hbase : Untouching base) :
    Act.Alike (Abreast (ρ := ρ) origin (Prod.snd : ρ₂ × σ → σ)) Mark.dealing? (besides base)
      (besides base) := by
  intro level line line' h
  obtain ⟨hrequest, hpeer, hrestamped⟩ := h
  have hbase := hbase level ⟨line.request, line.peer.2⟩
  rw [Act.alikeAt_iff, besides_run, besides_run, ← hrequest, ← hpeer]
  exact ⟨rfl, ⟨rfl, rfl, hrestamped.untouched hbase⟩, rfl⟩

/-- Two headers are written alike if they are the same for the target. -/
theorem authorize_abreast {entry' : Option String} {c c' : CredentialSet}
    {octets : Option Bytes} (hw : origin.Writable (c'.authorization?.or entry') octets)
    (hvalue : origin.AddressedTo target →
      c.authorization?.or entry = c'.authorization?.or entry') :
    Act.Alike (Abreast (ρ := ρ) origin view) Mark.dealing? (authorize target entry c)
      (authorize target entry' c') := by
  intro level line line' h
  obtain ⟨hrequest, hpeer, hrestamped⟩ := h
  have hstamp : line.request.stamp target (c.authorization?.or entry) =
      line.request.stamp target (c'.authorization?.or entry') := by
    by_cases haddr : origin.AddressedTo target
    · rw [hvalue haddr]
    · refine Request.stamp_of_not_addressedTo ?_ _ _
      exact fun h => haddr ((hrestamped.sameAddress.addressedTo target).mp h)
  rw [Act.alikeAt_iff, authorize_run, authorize_run, ← hrequest, hstamp]
  exact ⟨rfl, ⟨rfl, hpeer, hrestamped.stamp hw target⟩, rfl⟩

/-! ## The attempts of the inner relay -/

section

variable {base : Carrier σ} {inner : Candidates} {c : CredentialSet}

/-- The header of a pair. -/
theorem pair_value {found : Option String} (d : CredentialSet)
    (hfound : found = c.authorization?.or entry) :
    d.authorization?.or found = (d.orElse c).authorization?.or entry := by
  rw [CredentialSet.authorization?_orElse, hfound, Option.or_assoc]

/-- On a line on which the outer relay has written its candidate, the attempts of the inner relay
are the attempts with the pairs on the line as it was. -/
theorem inner_abreast (hbase : Untouching base) (hv : origin.header authorization = .ok entry)
    (hc : c.IsAscii) (hinner : ∀ d ∈ inner.toList, d.IsAscii) {found : Option String}
    {request : Request} (hrestamped : origin.Restamped request)
    (hs : (request.stamp target (c.authorization?.or entry)).1 = .ok ())
    (hfound : (request.stamp target (c.authorization?.or entry)).2.header authorization =
      .ok found) (total total' apart : Nat) (level : Level) (p : ρ₂) (q : ρ) (s : σ) :
    Act.AlikeAt (Abreast origin Prod.snd) Mark.dealing?
      (attempts target found total (besides base) 1 inner.first inner.rest)
      (attempts target entry total' (besides base) (1 + apart) (inner.first.orElse c)
        (inner.rest.map (·.orElse c))) level
      ⟨(request.stamp target (c.authorization?.or entry)).2.settle, (p, s)⟩
      ⟨request, (q, s)⟩ := by
  -- for the target, the inner relay begins with what the outer one has written
  have hvalue : origin.AddressedTo target → found = c.authorization?.or entry := by
    intro haddr
    have hheader := Request.header_stamp hs
      ((hrestamped.sameAddress.addressedTo target).mpr haddr)
    exact Except.ok.inj (hfound.symm.trans hheader)
  rw [attempts_eq, attempts_eq]
  refine Act.AlikeAt.bind ?_ fun _ => onward_alike apart (besides_abreast hbase)
    (fun drained k => logRejection_abreast drained k _ _ _) ?_ 1
  · obtain ⟨octets, hw⟩ := Request.writable_of_candidate hv hc
    obtain ⟨more, hw'⟩ := Request.writable_of_candidate hv
      ((hinner inner.first (by simp [Candidates.toList])).orElse hc)
    have hsame : (request.stamp target (c.authorization?.or entry)).2.settle.stamp target
          (inner.first.authorization?.or found) =
        (request.stamp target (c.authorization?.or entry)).2.settle.stamp target
          ((inner.first.orElse c).authorization?.or entry) := by
      by_cases haddr : origin.AddressedTo target
      · rw [pair_value inner.first (hvalue haddr)]
      · -- for anyone else it does not matter what the inner relay has found
        refine Request.stamp_of_not_addressedTo ?_ _ _
        exact fun h => haddr
          (((hrestamped.stamp hw target).settle.sameAddress.addressedTo target).mp h)
    rw [Act.alikeAt_iff, authorize_run, authorize_run, hsame,
      hrestamped.stamp_stamp hw hw' hs]
    exact ⟨rfl, ⟨rfl, rfl, hrestamped.stamp hw' target⟩, rfl⟩
  · refine List.forall₂_map_right_iff.mpr (List.forall₂_same.mpr fun d hd => ?_)
    obtain ⟨octets, hw⟩ := Request.writable_of_candidate hv
      ((hinner d (by simp [Candidates.toList, hd])).orElse hc)
    exact authorize_abreast hw fun haddr => pair_value d (hvalue haddr)

/-- What the outer relay does with one of its candidates is what the single relay does with the
pairs of that candidate. -/
theorem block_abreast {gather : Act ρ₂ Candidates} (hgather : Yields gather inner)
    (hbase : Untouching base) (hv : origin.header authorization = .ok entry) (hc : c.IsAscii)
    (hinner : ∀ d ∈ inner.toList, d.IsAscii) (total apart : Nat) :
    Act.Alike (Abreast (ρ := ρ) origin fun peer : ρ₁ × ρ₂ × σ => peer.2.2) Mark.dealing?
      (authorize target entry c >>= fun _ => besides (relay target gather base))
      (attempts target entry total (besides base) (1 + apart) (inner.first.orElse c)
        (inner.rest.map (·.orElse c))) := by
  rintro level ⟨request, p₁, p₂, s⟩ ⟨request', q, s'⟩ ⟨hrequest, hpeer, hrestamped⟩
  dsimp only at hrequest hpeer hrestamped
  subst hrequest hpeer
  obtain ⟨octets, hw⟩ := Request.writable_of_candidate hv hc
  obtain ⟨more, hw'⟩ := Request.writable_of_candidate hv
    ((hinner inner.first (by simp [Candidates.toList])).orElse hc)
  have hwrite := authorize_run target entry c level (⟨request, p₁, p₂, s⟩ : Line (ρ₁ × ρ₂ × σ))
  dsimp only at hwrite
  cases hs : (request.stamp target (c.authorization?.or entry)).1 with
  | error fault =>
    -- the request has no address that could be compared, whatever is to be written
    have hwrite' := authorize_run target entry (inner.first.orElse c) level
      (⟨request, q, s⟩ : Line (ρ × σ))
    dsimp only at hwrite'
    rw [hrestamped.stamp_of_error hw hw hs] at hwrite
    rw [hrestamped.stamp_of_error hw hw' hs] at hwrite'
    rw [attempts_eq, Act.alikeAt_iff, Act.bind_of_error hwrite, Act.bind_of_error hwrite']
    exact ⟨rfl, ⟨rfl, rfl, hrestamped.settle⟩, rfl⟩
  | ok _ =>
    rw [hs] at hwrite
    obtain ⟨found, hfound⟩ := (hrestamped.stamp hw target).header_ok hv
    obtain ⟨p, journal, hcandidates, hquiet⟩ := hgather level p₂
    have hrelay := relay_of_header_ok target base s hcandidates hfound
    have hpairs := inner_abreast hbase hv hc hinner hrestamped hs hfound inner.toList.length
      total apart level p q s
    rw [Act.alikeAt_iff, Act.bind_of_ok hwrite, besides_run, hrelay]
    refine ⟨hpairs.result, hpairs.state, ?_⟩
    rw [← hpairs.journal, List.nil_append, List.filterMap_append, hquiet, List.nil_append]

/-- The attempts of the outer relay are the attempts with all the pairs. The induction is on the
outer candidates; each of them is a block of pairs, and the rejection at the end of a block is set
aside by the outer relay. -/
theorem outer_abreast {gather : Act ρ₂ Candidates} (hgather : Yields gather inner)
    (hbase : Untouching base) (hv : origin.header authorization = .ok entry)
    (hinner : ∀ d ∈ inner.toList, d.IsAscii) (total total' : Nat) (rest : List CredentialSet)
    (houter : ∀ c ∈ rest, c.IsAscii) (hc : c.IsAscii) (attempt apart : Nat) :
    Act.Alike (Abreast (ρ := ρ) origin fun peer : ρ₁ × ρ₂ × σ => peer.2.2) Mark.dealing?
      (attempts target entry total (besides (relay target gather base)) attempt c rest)
      (attempts target entry total' (besides base) (1 + apart) (inner.first.orElse c)
        (inner.rest.map (·.orElse c) ++
          rest.flatMap fun c => inner.toList.map (·.orElse c))) := by
  induction rest generalizing c attempt apart with
  | nil =>
    rw [attempts_eq, List.flatMap_nil, List.append_nil]
    exact block_abreast hgather hbase hv hc hinner total' apart
  | cons following rest ih =>
    have hpairs : (following :: rest).flatMap (fun c => inner.toList.map (·.orElse c)) =
        inner.first.orElse following :: (inner.rest.map (·.orElse following) ++
          rest.flatMap fun c => inner.toList.map (·.orElse c)) := by
      simp [Candidates.toList]
    rw [attempts_cons, hpairs, attempts_append]
    refine (block_abreast hgather hbase hv hc hinner total' apart).bind fun response =>
      .ite ?_ (.pure response)
    refine (setAside_alike (fun drained => logRejection_abreast drained _ _ _ _) response).bind
      fun _ => ?_
    -- the numbers of the single relay go on after the block
    have hrest := ih (fun c hc => houter c (by simp [hc])) (houter following (by simp))
      (attempt + 1) (apart + (inner.rest.map (·.orElse c)).length + 1)
    have hnumber : 1 + (apart + (inner.rest.map (·.orElse c)).length + 1) =
        1 + apart + (inner.rest.map (·.orElse c)).length + 1 := by omega
    rw [hnumber] at hrest
    exact hrest

end

/-! ## Whole calls -/

section

variable {base : Carrier σ} {outer inner : Candidates} {outerSource : Act ρ₁ Candidates}
  {innerSource : Act ρ₂ Candidates} {flatSource : Act ρ Candidates}

theorem relay_abreast (target : String) (houter : Yields outerSource outer)
    (hinner : Yields innerSource inner) (hflat : Yields flatSource (outer.flatten inner))
    (hbase : Untouching base) (hascii : ∀ c ∈ outer.toList ++ inner.toList, c.IsAscii)
    (level : Level) (request : Request) (r₁ : ρ₁) (r₂ : ρ₂) (r : ρ) (s : σ) :
    Act.AlikeAt (Abreast request fun peer : ρ₁ × ρ₂ × σ => peer.2.2) Mark.dealing?
      (relay target outerSource (relay target innerSource base)) (relay target flatSource base)
      level ⟨request, (r₁, r₂, s)⟩ ⟨request, (r, s)⟩ := by
  obtain ⟨p, journal, hcandidates, hquiet⟩ := houter level r₁
  obtain ⟨p', journal', hpairs, hquiet'⟩ := hflat level r
  have hstart : request.Restamped request.settle := .inl ⟨rfl, rfl⟩
  rw [Act.alikeAt_iff]
  cases hv : request.header authorization with
  | error fault =>
    rw [relay_of_header_error target _ (r₂, s) hcandidates hv,
      relay_of_header_error target base s hpairs hv]
    exact ⟨rfl, ⟨rfl, rfl, hstart⟩, hquiet.trans hquiet'.symm⟩
  | ok entry =>
    rw [relay_of_header_ok target _ (r₂, s) hcandidates hv,
      relay_of_header_ok target base s hpairs hv]
    obtain ⟨hresult, hstate, hjournal⟩ := outer_abreast hinner hbase hv
      (fun d hd => hascii d (by simp [hd])) outer.toList.length
      (outer.flatten inner).toList.length outer.rest
      (fun c hc => hascii c (by simp [Candidates.toList, hc]))
      (hascii outer.first (by simp [Candidates.toList])) 1 0 level
      ⟨request.settle, (p, r₂, s)⟩ ⟨request.settle, (p', s)⟩ ⟨rfl, rfl, hstart⟩
    refine ⟨hresult, hstate, ?_⟩
    rw [List.filterMap_append, List.filterMap_append, hquiet, hquiet', hjournal]
    rfl

/-- A relay in front of a relay for the same target is a single relay with the pairs of their
candidates. Around any carrier that leaves requests alone, and for every request, the answer, the
requests that are sent, the dealings with carrier and responses and the request in the end are the
same. -/
theorem relay_relay (target : String) (houter : Yields outerSource outer)
    (hinner : Yields innerSource inner) (hflat : Yields flatSource (outer.flatten inner))
    (hbase : Untouching base) (hascii : ∀ c ∈ outer.toList ++ inner.toList, c.IsAscii)
    (level : Level) (request : Request) (r₁ : ρ₁) (r₂ : ρ₂) (r : ρ) (s : σ) :
    let nested := relay target outerSource (relay target innerSource base) level
      ⟨request, (r₁, r₂, s)⟩
    let flat := relay target flatSource base level ⟨request, (r, s)⟩
    let nestedSends := (relay target outerSource (relay target innerSource (watch base)) level
      ⟨request, (r₁, r₂, ⟨s, [], []⟩)⟩).state.peer.2.2.sends
    let flatSends := (relay target flatSource (watch base) level
      ⟨request, (r, ⟨s, [], []⟩)⟩).state.peer.2.sends
    nested.result = flat.result ∧ nested.state.request = flat.state.request ∧
    nested.state.peer.2.2 = flat.state.peer.2 ∧
    nested.journal.filterMap Mark.dealing? = flat.journal.filterMap Mark.dealing? ∧
    nestedSends = flatSends := by
  obtain ⟨hresult, ⟨hrequest, hpeer, -⟩, hjournal⟩ :=
    relay_abreast target houter hinner hflat hbase hascii level request r₁ r₂ r s
  obtain ⟨-, ⟨-, hwatched, -⟩, -⟩ :=
    relay_abreast target houter hinner hflat hbase.watch hascii level request r₁ r₂ r ⟨s, [], []⟩
  exact ⟨hresult, hrequest, hpeer, hjournal, congrArg Watched.sends hwatched⟩

end

theorem yields_pure (candidates : Candidates) :
    Yields (pure candidates : Act ρ Candidates) candidates :=
  fun _ r => ⟨r, [], rfl, rfl⟩

/-- Two tokens in front of encoded material and an empty set: the tokens go where the set is. -/
theorem relay_relay_two_by_two :
    let inner : Candidates := ⟨{ auth := "c" }, [{}]⟩
    let answers := [answerOf 401 "text/plain", answerOf 403 "text/plain",
      answerOf 401 "text/plain", answerOf 200 "text/plain"]
    let nestedSends := (relay "h" (pure twoTokens : Act Unit Candidates)
      (relay "h" (pure inner : Act Unit Candidates) (watch replay)) .warning
      ⟨rootOf "h", ((), (), ⟨answers, [], []⟩)⟩).state.peer.2.2.sends
    let flatSends := (relay "h" (pure (twoTokens.flatten inner) : Act Unit Candidates)
      (watch replay) .warning ⟨rootOf "h", ((), ⟨answers, [], []⟩)⟩).state.peer.2.sends
    Yields (pure twoTokens : Act Unit Candidates) twoTokens ∧
    Yields (pure inner : Act Unit Candidates) inner ∧ Untouching replay ∧
    (∀ c ∈ twoTokens.toList ++ inner.toList, c.IsAscii) ∧ nestedSends = flatSends ∧
    nestedSends.map (·.header authorization) = [.ok (some "Basic c"), .ok (some "Bearer a"),
      .ok (some "Basic c"), .ok (some "Bearer b")] := by
  have hascii : ∀ c ∈ twoTokens.toList ++
      (⟨{ auth := "c" }, [{}]⟩ : Candidates).toList, c.IsAscii := by
    intro c hc text htext
    simp only [twoTokens, Candidates.toList, List.cons_append, List.nil_append, List.mem_cons,
      List.not_mem_nil, or_false] at hc
    rcases hc with rfl | rfl | rfl | rfl <;> cases htext <;> rfl
  obtain ⟨-, -, -, -, hsends⟩ := relay_relay "h" (yields_pure (ρ := Unit) twoTokens)
    (yields_pure (ρ := Unit) ⟨{ auth := "c" }, [{}]⟩) (yields_pure (ρ := Unit) _)
    untouching_replay hascii .warning (rootOf "h") () () ()
    [answerOf 401 "text/plain", answerOf 403 "text/plain", answerOf 401 "text/plain",
      answerOf 200 "text/plain"]
  exact ⟨yields_pure _, yields_pure _, untouching_replay, hascii, hsends, rfl⟩

end Relay
end AuthRelay
