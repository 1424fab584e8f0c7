import AuthRelay.Proofs.Relay.Queries
import AuthRelay.Proofs.Session.Machine
/-!
# Credentials that change between sends

A session may change variables, files and the working directory between its sends. Nothing that was
found out for one send is kept for another: each send asks its source anew, and a source of fixed
credentials and of the environment hands over what the machine holds at that moment, whatever the
session has sent before.
-/
namespace AuthRelay.Session

/-! ## Histories -/

/-- The threshold and the world after some steps. -/
def after (level : Level) (w : World) : List Step → Level × World
  | [] => (level, w)
  | step :: rest => after (step.threshold level) (step.perform level w).state rest

/-- Further steps go on from where the steps so far have led. -/
theorem run_append (level : Level) (w : World) (front back : List Step) :
    run level w (front ++ back) =
      run level w front ++ run (after level w front).1 (after level w front).2 back := by
  induction front generalizing level w with
  | nil => rfl
  | cons step rest ih => simp only [List.cons_append, run, after, ih]

/-- No history changes the home directories of the accounts. -/
theorem after_homes (level : Level) (w : World) (history : List Step) :
    (after level w history).2.machine.homes = w.machine.homes := by
  induction history generalizing level w with
  | nil => rfl
  | cons step rest ih =>
    rw [after, ih]
    exact step.perform_homes level w

/-- A send through a relay is a call of the layer that it has at that moment. -/
theorem Stack.send_run {level : Level} {cell : Nat} {here : Layer} (mode : Mode) (inner : Stack)
    (line : Line World) (hlayer : line.peer.layers[cell]? = some here) :
    (Stack.layer mode cell inner).send level line =
      Relay.Layer.send ⟨mode, here.target, (suppliers here.source).gather⟩ inner.send level
        line := by
  have hfound : Stack.layerAt cell level line = ⟨.ok here, line, []⟩ := by
    rw [Stack.layerAt, Act.get_bind_run, hlayer]
    rfl
  rw [Stack.send_layer, Act.bind_of_ok hfound, Relay.Layer.send_eq]
  rfl

/-- The report of a send begins with the entries of the call. -/
theorem journal_of_send {relay : String} {plan : RequestPlan} {level : Level} {w : World}
    {request : Request} {stack : Stack} (uses : List Use)
    (hplan : plan.make level w = ⟨.ok request, w, []⟩)
    (hrelay : w.relays.find? relay = some stack) :
    (stack.send level ⟨request, w⟩).journal <+:
      ((Step.send relay plan uses).perform level w).journal := by
  rw [Step.perform, Act.bind_of_ok hplan, Act.bind_of_ok (named_of_some hrelay level)]
  refine List.IsPrefix.trans ?_ (Act.prefix_journal_bind _ _ level w)
  exact Act.prefix_journal_bind (onLine request stack.send) _ level w

/-- Credentials are fetched once per send and never kept. Every call of a relay, with suppliers and
carriers of any kind, asks the leaves of its source first, each once and in order up to one that
fails, and then tries the candidates that they have delivered in their order. So does every send of
a session, after any history, with the world as it is then; the send's report begins with the
entries of that call, and the call leaves the machine as it was. And a tree of fixed credentials
and of the environment changes nothing and hands over what is to be seen on the machine: where the
accounts have the same home directories, any two histories that lead to the same variables, files
and working directory lead to the same candidates, or to the same failure. -/
theorem queried_per_send :
    (∀ {σ ι : Type} (mode : Mode) (target : String) (suppliers : ι → Supplier σ)
        (source : Source ι) (next : Carrier σ) (level : Level) (line : Line σ),
      let layer : Relay.Layer σ := ⟨mode, target, (source.map suppliers).gather⟩
      Relay.AsksFirst mode target suppliers source next level line
        (layer.send next level line)) ∧
    (∀ (level₀ : Level) (w₀ : World) (history : List Step) (relay : String) (plan : RequestPlan)
        (uses : List Use) (request : Request) (mode : Mode) (cell : Nat) (inner : Stack)
        (here : Layer),
      let level := (after level₀ w₀ history).1
      let w := (after level₀ w₀ history).2
      let call := (Stack.layer mode cell inner).send level ⟨request, w⟩
      plan.make level w = ⟨.ok request, w, []⟩ →
      w.relays.find? relay = some (.layer mode cell inner) → w.layers[cell]? = some here →
      (∃ report, run level₀ w₀ (history ++ [.send relay plan uses]) =
        run level₀ w₀ history ++ [report] ∧ call.journal <+: report.journal) ∧
      call.state.peer.machine = w.machine ∧
      Relay.AsksFirst mode here.target Provider.supplier here.source inner.send level
        ⟨request, w⟩ call) ∧
    ∀ source : Source Provider, (∀ p ∈ source.leaves, p.isStock = true) →
      ∀ (level₁ : Level) (w₁ : World) (history₁ : List Step) (level₂ : Level) (w₂ : World)
        (history₂ : List Step),
      let first := after level₁ w₁ history₁
      let second := after level₂ w₂ history₂
      ((suppliers source).gather first.1 first.2).state = first.2 ∧
      (w₁.machine.homes = w₂.machine.homes →
        first.2.machine.environment = second.2.machine.environment →
        first.2.machine.files = second.2.machine.files →
        ((suppliers source).gather first.1 first.2).result =
          ((suppliers source).gather second.1 second.2).result) := by
  refine ⟨?_, ?_, ?_⟩
  · intro σ ι mode target suppliers source next level line layer
    exact Relay.Layer.asksFirst mode target suppliers source next level line
  · intro level₀ w₀ history relay plan uses request mode cell inner here level w call hplan hrelay
      hlayer
    refine ⟨⟨_, run_append level₀ w₀ history [.send relay plan uses],
      journal_of_send uses hplan hrelay⟩, ?_, ?_⟩
    · let P : Machine → Prop := (· = w.machine)
      have hkeeps : RetainsInLine P (Stack.layer mode cell inner).send := Stack.send_keeps _
      exact hkeeps level ⟨request, w⟩ rfl
    · have hcall : call = Relay.Layer.send ⟨mode, here.target, (suppliers here.source).gather⟩
          inner.send level ⟨request, w⟩ := Stack.send_run mode inner ⟨request, w⟩ hlayer
      rw [hcall]
      exact Relay.Layer.asksFirst mode here.target Provider.supplier here.source inner.send level
        ⟨request, w⟩
  · intro source hstock level₁ w₁ history₁ level₂ w₂ history₂ first second
    have hlooks := gather_looks hstock
    refine ⟨hlooks.state _ _, fun hhomes henvironment hfiles => hlooks.result _ _ _ _ ?_⟩
    refine Machine.eq_of_parts henvironment hfiles ?_
    rw [after_homes, after_homes, hhomes]

/-- A world with a relay whose candidate is in the environment, and two requests for its target. -/
def tokenFromEnvironment : World where
  machine := { environment := [], files := ⟨[], { place := [] }⟩ }
  scripts := [⟨[{}], none, 0⟩]
  layers := [⟨"h", .leaf (.environment "X_" false)⟩]
  relays := [("t", .layer .blocking 0 (.script 0))]
  requests := [("first", Relay.rootOf "h"), ("second", Relay.rootOf "h")]

/-- A token is replaced between two sends. The second send gets the new one, as it does in a session
that has sent nothing before. -/
theorem queried_per_send_after_rotation :
    let source : Source Provider := .leaf (.environment "X_" false)
    let history : List Step :=
      [.setVariable "X_TOKEN" "a", .send "t" (.named "first") [], .setVariable "X_TOKEN" "b"]
    let rotated := after .warning tokenFromEnvironment history
    let unsent := after .warning tokenFromEnvironment [.setVariable "X_TOKEN" "b"]
    let call := (Stack.layer .blocking 0 (.script 0)).send rotated.1
      ⟨Relay.rootOf "h", rotated.2⟩
    rotated.2.machine.environment = unsent.2.machine.environment ∧
    rotated.2.machine.files = unsent.2.machine.files ∧
    ((suppliers source).gather rotated.1 rotated.2).result =
      .ok ⟨{ registryToken := "b" }, []⟩ ∧
    call.state.peer.machine = rotated.2.machine ∧
    Relay.AsksFirst .blocking "h" Provider.supplier source (Stack.script 0).send rotated.1
      ⟨Relay.rootOf "h", rotated.2⟩ call := by
  have hcall := queried_per_send.2.1 .warning tokenFromEnvironment
    [.setVariable "X_TOKEN" "a", .send "t" (.named "first") [], .setVariable "X_TOKEN" "b"]
    "t" (.named "second") [] (Relay.rootOf "h") .blocking 0 (.script 0)
    ⟨"h", .leaf (.environment "X_" false)⟩ rfl rfl rfl
  have hsame := queried_per_send.2.2 (.leaf (.environment "X_" false)) (by decide)
    .warning tokenFromEnvironment
    [.setVariable "X_TOKEN" "a", .send "t" (.named "first") [], .setVariable "X_TOKEN" "b"]
    .warning tokenFromEnvironment [.setVariable "X_TOKEN" "b"]
  exact ⟨rfl, rfl, hsame.2 rfl rfl rfl, hcall.2⟩

end AuthRelay.Session
