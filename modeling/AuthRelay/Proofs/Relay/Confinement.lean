import AuthRelay.Proofs.Relay.Stacks
/-!
# Credentials stay where they belong

In a stack every relay takes for the caller's own header what the relay in front of it has written.
All that ever stands there is the header that the caller put on the request, or what a candidate
makes that a layer for the request's own host has supplied. That is an invariant of the line: every
layer keeps it if what is behind the layer keeps it, whatever the carrier answers.
-/
namespace AuthRelay.Relay

variable {σ : Type}

/-- A value that may stand under the header for credentials of a request: the one that the caller
put there, or what a supplied candidate makes, if the request is addressed to the target that it was
supplied for. -/
def Permitted (origin : Request) (supplies : List (String × Candidates))
    (value : Except Fault (Option String)) : Prop :=
  value = origin.header authorization ∨
    ∃ target candidates, (target, candidates) ∈ supplies ∧ origin.AddressedTo target ∧
      ∃ c ∈ candidates.toList, ∃ text, c.authorization? = some text ∧ value = .ok (some text)

theorem Permitted.mono {origin : Request} {supplies more : List (String × Candidates)}
    {value : Except Fault (Option String)} (hsub : supplies ⊆ more)
    (h : Permitted origin supplies value) : Permitted origin more value := by
  rcases h with h | ⟨target, candidates, hmem, haddr, hc⟩
  · exact .inl h
  · exact .inr ⟨target, candidates, hsub hmem, haddr, hc⟩

/-- Candidates that the source of a layer has handed over, with the target of that layer. -/
def SuppliedBy (layers : List (Layer σ)) (supply : String × Candidates) : Prop :=
  ∃ layer ∈ layers, layer.target = supply.1 ∧
    ∃ level peer, (layer.gather level peer).result = .ok supply.2

/-- The invariant: the request has kept its address, and it carries only what is permitted, now and
at every send so far. What was known to be supplied stays so, and layers have supplied it. -/
structure Confined (layers : List (Layer σ)) (origin : Request)
    (known : List (String × Candidates)) (line : Line (Watched σ)) : Prop where
  address : line.request.SameAddress origin
  carried : Permitted origin line.peer.supplies (line.request.header authorization)
  sent : ∀ r ∈ line.peer.sends,
    r.SameAddress origin ∧ Permitted origin line.peer.supplies (r.header authorization)
  known : known ⊆ line.peer.supplies
  supplied : ∀ supply ∈ line.peer.supplies, SuppliedBy layers supply

variable {layers : List (Layer σ)} {origin : Request} {known : List (String × Candidates)}
  {line : Line (Watched σ)}

theorem Confined.rewrite (h : Confined layers origin known line) {request : Request}
    (haddr : request.SameAddress line.request)
    (hp : Permitted origin line.peer.supplies (request.header authorization)) :
    Confined layers origin known { line with request } :=
  ⟨⟨haddr.1.trans h.address.1, haddr.2.trans h.address.2⟩, hp, h.sent, h.known, h.supplied⟩

theorem Confined.settle (h : Confined layers origin known line) :
    Confined layers origin known { line with request := line.request.settle } :=
  h.rewrite ⟨rfl, rfl⟩ h.carried

theorem Confined.weaken {fewer : List (String × Candidates)} (hsub : fewer ⊆ known)
    (h : Confined layers origin known line) : Confined layers origin fewer line :=
  ⟨h.address, h.carried, h.sent, fun _ hs => h.known (hsub hs), h.supplied⟩

theorem Confined.all (h : Confined layers origin known line) :
    Confined layers origin line.peer.supplies line :=
  ⟨h.address, h.carried, h.sent, fun _ hs => hs, h.supplied⟩

/-- A source hands its candidates over. -/
theorem Confined.supply (h : Confined layers origin known line) {layer : Layer σ}
    (hlayer : layer ∈ layers) {level : Level} {candidates : Candidates} (peer : σ)
    (hgather : (layer.gather level line.peer.state).result = .ok candidates) :
    Confined layers origin (known ++ [(layer.target, candidates)])
      { line with peer := { line.peer with
          state := peer, supplies := line.peer.supplies ++ [(layer.target, candidates)] } } where
  address := h.address
  carried := h.carried.mono (List.subset_append_left _ _)
  sent r hr := ⟨(h.sent r hr).1, (h.sent r hr).2.mono (List.subset_append_left _ _)⟩
  known := List.append_subset.mpr ⟨fun _ hs => List.mem_append_left _ (h.known hs),
    List.subset_append_right _ _⟩
  supplied supply hs := by
    rcases List.mem_append.mp hs with hs | hs
    · exact h.supplied supply hs
    · rw [List.mem_singleton.mp hs]
      exact ⟨layer, hlayer, rfl, level, line.peer.state, hgather⟩

/-- A base that leaves the request alone sends only what is permitted. -/
theorem watch_keeps_confined {base : Carrier σ} (hbase : Untouching base) :
    Act.Keeps (Confined layers origin known) (watch base) := by
  intro level line h
  have hbase := hbase level ⟨line.request, line.peer.state⟩
  have hsent : Confined layers origin known
      { line with peer := { line.peer with sends := line.peer.sends ++ [line.request] } } := by
    refine ⟨h.address, h.carried, fun r hr => ?_, h.known, h.supplied⟩
    rcases List.mem_append.mp hr with hr | hr
    · exact h.sent r hr
    · rw [List.mem_singleton.mp hr]
      exact ⟨h.address, h.carried⟩
  have hafter := hsent.rewrite hbase.sameAddress (by rw [hbase.header_eq]; exact h.carried)
  exact ⟨hafter.address, hafter.carried, hafter.sent, hafter.known, hafter.supplied⟩

/-- What an attempt writes is permitted: the candidate's value only for the layer's own target, and
otherwise what the call began with. -/
theorem authorize_keeps_confined {target : String} {candidates : Candidates}
    {entry : Option String} (hknown : (target, candidates) ∈ known)
    (hentry : Permitted origin known (.ok entry)) {c : CredentialSet}
    (hc : c ∈ candidates.toList) :
    Act.Keeps (Confined layers origin known) (authorize target entry c) := by
  intro level line h
  rw [authorize_run]
  have hcases := Request.stamp_cases target (c.authorization?.or entry) line.request
  rcases hcases with ⟨fault, hs⟩ | ⟨-, hs⟩ | ⟨haddr, octets, hw, hs⟩
  · rw [hs]
    exact h.settle
  · rw [hs]
    exact h.settle
  · rw [hs]
    refine h.rewrite ⟨rfl, Request.header_host_credited _ _⟩ ?_
    rw [Request.header_authorization_credited hw]
    cases hv : c.authorization? with
    | none =>
      -- what the layer in front has left there is put back
      exact hentry.mono h.known
    | some text =>
      exact .inr ⟨target, candidates, h.known hknown, (h.address.addressedTo target).mp haddr,
        c, hc, text, hv, rfl⟩

/-- A layer keeps the invariant if what is behind it does. -/
theorem layer_keeps_confined {layer : Layer σ} (hlayer : layer ∈ layers)
    {next : Carrier (Watched σ)}
    (hnext : ∀ known, Act.Keeps (Confined layers origin known) next)
    (known : List (String × Candidates)) :
    Act.Keeps (Confined layers origin known) (layer.watch.send next) := by
  intro level line h
  rw [Layer.watch_send_eq]
  cases ho : layer.gather level line.peer.state with
  | mk result peer journal =>
    cases result with
    | error fault =>
      -- nothing has been supplied, and the request has not been looked at
      rw [blocking_of_gather_error _ _ _ (watchSource_of_error _ ho)]
      exact ⟨h.address, h.carried, h.sent, h.known, h.supplied⟩
    | ok candidates =>
      have hgather := watchSource_of_ok layer.target ho
      -- all that has been supplied so far is known from here on
      have hsupply := h.all.supply hlayer peer (congrArg Outcome.result ho)
      have hsub : known ⊆ line.peer.supplies ++ [(layer.target, candidates)] :=
        fun _ hs => List.mem_append_left _ (h.known hs)
      cases hv : line.request.header authorization with
      | error fault =>
        rw [blocking_of_header_error _ _ hgather hv]
        exact hsupply.settle.weaken hsub
      | ok entry =>
        rw [blocking_of_header_ok _ _ hgather hv]
        have hentry := h.carried.mono
          (List.subset_append_left line.peer.supplies [(layer.target, candidates)])
        rw [hv] at hentry
        have hmem : (layer.target, candidates) ∈
            line.peer.supplies ++ [(layer.target, candidates)] := by simp
        have hattempts : Act.Keeps (Confined layers origin _) (attempts layer.target entry
            candidates.toList.length next 1 candidates.first candidates.rest) :=
          attempts_keeps (hnext _) (fun c hc => authorize_keeps_confined hmem hentry hc) 1
        exact (hattempts level _ hsupply.settle).weaken hsub

theorem stack_keeps_confined {base : Carrier σ} (hbase : Untouching base) {inner : List (Layer σ)}
    (hinner : inner ⊆ layers) (known : List (String × Candidates)) :
    Act.Keeps (Confined layers origin known) (stack (inner.map Layer.watch) (watch base)) := by
  induction inner generalizing known with
  | nil => exact watch_keeps_confined hbase
  | cons layer inner ih =>
    exact layer_keeps_confined (hinner (by simp)) (ih fun _ hl => hinner (by simp [hl])) known

/-- In a stack in front of a base that leaves requests alone, every request that reaches the base
carries the caller's own header, or what a candidate makes that a layer has supplied whose target
the request is addressed to. -/
theorem stack_confines {base : Carrier σ} (hbase : Untouching base) (layers : List (Layer σ))
    (level : Level) (line : Line σ) :
    let run := stack layers base level line
    let seen := stack (layers.map Layer.watch) (watch base) level (line.watched [] [])
    seen.result = run.result ∧ seen.state.request = run.state.request ∧
    ∀ sent ∈ seen.state.peer.sends,
      sent.header authorization = line.request.header authorization ∨
      ∃ layer ∈ layers, sent.AddressedTo layer.target ∧
        ∃ candidates, (layer.target, candidates) ∈ seen.state.peer.supplies ∧
          (∃ level peer, (layer.gather level peer).result = .ok candidates) ∧
          ∃ c ∈ candidates.toList, ∃ text, c.authorization? = some text ∧
            sent.header authorization = .ok (some text) := by
  obtain ⟨hresult, hstate, -⟩ := stack_watch_alike layers base level (line.watched [] []) line
    ⟨rfl, rfl⟩
  have hstart : Confined layers line.request [] (line.watched [] []) :=
    ⟨⟨rfl, rfl⟩, .inl rfl, by simp [Line.watched], by simp, by simp [Line.watched]⟩
  have hend := stack_keeps_confined hbase (List.Subset.refl layers) [] level _ hstart
  refine ⟨hresult, hstate.1, fun sent hsent => ?_⟩
  obtain ⟨haddress, hpermitted⟩ := hend.sent sent hsent
  rcases hpermitted with hown | ⟨target, candidates, hmem, haddr, hc⟩
  · exact .inl hown
  · obtain ⟨layer, hlayer, rfl, hgather⟩ := hend.supplied _ hmem
    exact .inr ⟨layer, hlayer, (haddress.addressedTo _).mpr haddr, candidates, hmem, hgather, hc⟩

/-- A token for another host in front of two for this one: only the two are sent. -/
theorem stack_confines_two_layers :
    let layers : List (Layer (List (Except Fault Response))) :=
      [⟨.blocking, "elsewhere", pure ⟨{ registryToken := "other" }, []⟩⟩,
        ⟨.stepwise, "h", pure twoTokens⟩]
    let line : Line (List (Except Fault Response)) :=
      ⟨rootOf "h", [answerOf 401 "text/plain", answerOf 200 "text/plain"]⟩
    let sends := (stack (layers.map Layer.watch) (watch replay) .warning
      (line.watched [] [])).state.peer.sends
    Untouching replay ∧
    sends.map (·.header authorization) = [.ok (some "Bearer a"), .ok (some "Bearer b")] ∧
    ∀ sent ∈ sends, sent.header authorization = .ok none ∨
      ∃ layer ∈ layers, sent.AddressedTo layer.target := by
  refine ⟨untouching_replay, rfl, fun sent hsent => ?_⟩
  obtain ⟨-, -, hall⟩ := stack_confines untouching_replay
    [⟨.blocking, "elsewhere", pure ⟨{ registryToken := "other" }, []⟩⟩,
      ⟨.stepwise, "h", pure twoTokens⟩] .warning
    ⟨rootOf "h", [answerOf 401 "text/plain", answerOf 200 "text/plain"]⟩
  rcases hall sent hsent with hown | ⟨layer, hlayer, haddr, -⟩
  · exact .inl hown
  · exact .inr ⟨layer, hlayer, haddr⟩

end AuthRelay.Relay
