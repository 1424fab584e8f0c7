import AuthRelay.Proofs.Gathering
import AuthRelay.Proofs.Relay.Course
import AuthRelay.Proofs.Relay.Restamp
import AuthRelay.Proofs.Relay.Stacks
import AuthRelay.Session.Sources
/-!
# Calls that send nothing

A call has all its candidates, and the header of its first attempt, before anything is sent. What
can go wrong until then ends the call as if it had not been made: the carrier is not asked, and the
request is left as it was.
-/
namespace AuthRelay

namespace Request

variable {r : Request} {entry : Option String} {c : CredentialSet} {target : String}

/-- What belongs on a request can be written, unless the candidate has a text that the encoding of
the request does not have. -/
theorem writable_or_unencodable (c : CredentialSet)
    (h : r.header Relay.authorization = .ok entry) :
    (∃ octets, r.Writable (c.authorization?.or entry) octets) ∨
      ∃ text, c.authorization? = some text ∧ r.headers.chosen.encode? text = none := by
  cases hc : c.authorization? with
  | none => exact .inl (writable_of_header h)
  | some text =>
    cases hb : r.headers.chosen.encode? text with
    | none => exact .inr ⟨text, rfl, hb⟩
    | some octets => exact .inl ⟨some octets, .text hb, fun hn => by cases hn⟩

theorem stamp_settle (target : String) (value : Option String) (r : Request) :
    r.settle.stamp target value = r.stamp target value := rfl

theorem stamp_of_unencodable {text : String} (haddr : r.isAddressedTo target = .ok true)
    (htext : r.headers.chosen.encode? text = none) :
    r.stamp target (some text) = (.error (.text .unencodable), r.settle) := by
  rw [stamp_text haddr, htext]

/-- The header of an attempt cannot be written if the address of the request cannot be read, or if
the request is for the target and the candidate has a text that cannot be encoded. -/
theorem stamp_eq_error_iff {fault : Fault} (h : r.header Relay.authorization = .ok entry) :
    (r.stamp target (c.authorization?.or entry)).1 = .error fault ↔
      r.isAddressedTo target = .error fault ∨
      r.isAddressedTo target = .ok true ∧ fault = .text .unencodable ∧
        ∃ text, c.authorization? = some text ∧ r.headers.chosen.encode? text = none := by
  have hr : r.Restamped r := .inl ⟨rfl, rfl⟩
  cases ha : r.isAddressedTo target with
  | error cause => simp [stamp, ha]
  | ok answer =>
    cases answer with
    | false => simp [stamp, ha]
    | true =>
      constructor
      · intro hs
        rcases writable_or_unencodable c h with ⟨octets, hw⟩ | ⟨text, hc, htext⟩
        · rw [hr.stamp_eq hw, ha] at hs
          cases hs
        · rw [hc, Option.some_or, stamp_of_unencodable ha htext] at hs
          cases hs
          exact .inr ⟨rfl, rfl, text, hc, htext⟩
      · rintro (haddr | ⟨-, rfl, text, hc, htext⟩)
        · cases haddr
        · rw [hc, Option.some_or, stamp_of_unencodable ha htext]

end Request

namespace Relay

variable {σ : Type}

/-- Why a call sends nothing: the fault with which it ends, the state in which it leaves the other
side, and what has been entered in the journal. -/
inductive Unsent (target : String) (source : Source (Supplier σ)) (level : Level)
    (line : Line σ) : Fault → σ → List Mark → Prop
  /-- The source hands over no candidates. -/
  | unsupplied {fault : Fault} {finish : σ} {journal : List Mark}
      (h : source.Unsupplied level line.peer fault finish journal) :
    Unsent target source level line fault finish journal
  /-- The caller's own header cannot be read. -/
  | unreadable {candidates : Candidates} {fault : Fault} {finish : σ} {journal : List Mark}
      (hgather : source.gather level line.peer = ⟨.ok candidates, finish, journal⟩)
      (hheader : line.request.header authorization = .error fault) :
    Unsent target source level line fault finish journal
  /-- The address of the request cannot be read. -/
  | unaddressed {candidates : Candidates} {entry : Option String} {fault : Fault} {finish : σ}
      {journal : List Mark}
      (hgather : source.gather level line.peer = ⟨.ok candidates, finish, journal⟩)
      (hheader : line.request.header authorization = .ok entry)
      (haddr : line.request.isAddressedTo target = .error fault) :
    Unsent target source level line fault finish journal
  /-- The request is for the target, and the text of the first candidate cannot be written. -/
  | unwritable {candidates : Candidates} {entry : Option String} {text : String} {finish : σ}
      {journal : List Mark}
      (hgather : source.gather level line.peer = ⟨.ok candidates, finish, journal⟩)
      (hheader : line.request.header authorization = .ok entry)
      (haddr : line.request.isAddressedTo target = .ok true)
      (hfirst : candidates.first.authorization? = some text)
      (htext : line.request.headers.chosen.encode? text = none) :
    Unsent target source level line (.text .unencodable) finish journal

section

variable {target : String} {gather : Act σ Candidates} {next : Carrier σ} {level : Level}
  {request : Request} {start peer : σ} {journal : List Mark} {candidates : Candidates}
  {entry : Option String} {fault : Fault}

/-- A call whose first header cannot be written ends there. -/
theorem blocking_of_stamp_error (next : Carrier σ)
    (hgather : gather level start = ⟨.ok candidates, peer, journal⟩)
    (hv : request.header authorization = .ok entry)
    (hs : (request.stamp target (candidates.first.authorization?.or entry)).1 = .error fault) :
    blocking target gather next level ⟨request, start⟩ =
      ⟨.error fault, ⟨request.settle, peer⟩, journal⟩ := by
  have hauthorize := authorize_run target entry candidates.first level
    (⟨request.settle, peer⟩ : Line σ)
  simp only [Request.stamp_settle, Request.stamp_of_error hs] at hauthorize
  have hrun := blocking_of_header_ok target next hgather hv
  rw [attempts_eq, Act.bind_of_error hauthorize] at hrun
  simpa using hrun

/-- Nothing is sent if the first header cannot be written. -/
theorem sends_of_stamp_error {line : Line σ} (next : Carrier σ)
    (hgather : gather level line.peer = ⟨.ok candidates, peer, journal⟩)
    (hv : line.request.header authorization = .ok entry)
    (hs : (line.request.stamp target (candidates.first.authorization?.or entry)).1 =
      .error fault) :
    (blocking target (watchSource target gather) (watch next) level
      (line.watched [] [])).state.peer.sends = [] := by
  have hwatched := watchSource_of_ok target (w := (line.watched [] []).peer) hgather
  exact congrArg (fun outcome => outcome.state.peer.sends)
    (blocking_of_stamp_error (watch next) hwatched hv hs)

/-- A call whose first header can be written sends something. -/
theorem sends_of_stamp_ok {line : Line σ}
    (hgather : gather level line.peer = ⟨.ok candidates, peer, journal⟩)
    (hv : line.request.header authorization = .ok entry)
    (hs : (line.request.stamp target (candidates.first.authorization?.or entry)).1 = .ok ()) :
    (blocking target (watchSource target gather) (watch next) level
      (line.watched [] [])).state.peer.sends ≠ [] := by
  obtain ⟨made, hcourse, hsends, -⟩ := course_of_blocking target next hgather hv
  obtain ⟨aside, rest, rfl⟩ := Course.head hcourse
  rcases Attempt.make_cases level target entry next candidates.first
      ⟨line.request.settle, peer⟩ with ⟨fault, hfault, -⟩ | ⟨-, -, -, hsent, -⟩
  · simp only [authorize_run, Request.stamp_settle, hs] at hfault
    cases hfault
  · rw [hsends, sendsOf, List.flatMap_cons]
    dsimp only
    rw [hsent]
    simp

end

section

variable {target : String} {source : Source (Supplier σ)} {level : Level} {line : Line σ}
  {fault : Fault} {finish : σ} {journal : List Mark}

/-- What becomes of a call that has a reason to send nothing. -/
theorem Unsent.blocking (next : Carrier σ)
    (h : Unsent target source level line fault finish journal) :
    (∃ request, request.settle = line.request.settle ∧
      Relay.blocking target source.gather next level line =
        ⟨.error fault, ⟨request, finish⟩, journal⟩) ∧
    (Relay.blocking target (watchSource target source.gather) (watch next) level
      (line.watched [] [])).state.peer.sends = [] := by
  cases h with
  | unsupplied h =>
    have hgather := Source.gather_eq_error_iff.mpr h
    exact ⟨⟨line.request, rfl, blocking_of_gather_error target next line.request hgather⟩,
      sends_of_gather_error target next hgather⟩
  | unreadable hgather hheader =>
    exact ⟨⟨line.request.settle, rfl, blocking_of_header_error target next hgather hheader⟩,
      sends_of_header_error target next hgather hheader⟩
  | unaddressed hgather hheader haddr =>
    have hs := fun c => (Request.stamp_eq_error_iff (c := c) hheader).mpr (.inl haddr)
    exact ⟨⟨line.request.settle, rfl, blocking_of_stamp_error next hgather hheader (hs _)⟩,
      sends_of_stamp_error next hgather hheader (hs _)⟩
  | unwritable hgather hheader haddr hfirst htext =>
    have hs := (Request.stamp_eq_error_iff hheader).mpr (.inr ⟨haddr, rfl, _, hfirst, htext⟩)
    exact ⟨⟨line.request.settle, rfl, blocking_of_stamp_error next hgather hheader hs⟩,
      sends_of_stamp_error next hgather hheader hs⟩

/-- A call that sends nothing has a reason. -/
theorem unsent_of_sends_eq_nil (next : Carrier σ)
    (h : (blocking target (watchSource target source.gather) (watch next) level
      (line.watched [] [])).state.peer.sends = []) :
    ∃ fault finish journal, Unsent target source level line fault finish journal := by
  cases hgather : source.gather level line.peer with
  | mk result peer journal =>
    cases result with
    | error fault => exact ⟨_, _, _, .unsupplied (Source.gather_eq_error_iff.mp hgather)⟩
    | ok candidates =>
      cases hv : line.request.header authorization with
      | error fault => exact ⟨_, _, _, .unreadable hgather hv⟩
      | ok entry =>
        cases hs : (line.request.stamp target (candidates.first.authorization?.or entry)).1 with
        | ok _ => exact absurd h (sends_of_stamp_ok hgather hv hs)
        | error fault =>
          rcases (Request.stamp_eq_error_iff hv).mp hs with
            haddr | ⟨haddr, rfl, text, hfirst, htext⟩
          · exact ⟨_, _, _, .unaddressed hgather hv haddr⟩
          · exact ⟨_, _, _, .unwritable hgather hv haddr hfirst htext⟩

end

/-- A call sends nothing if and only if it has a reason to: a supplier fails anywhere in the tree
of its source, or the source hands over no candidates, or the caller's header or the address of the
request cannot be read, or the first candidate cannot be written into the request. Such a call fails
with that fault and no other, whatever the carrier would have answered. Nothing is done but asking
the suppliers, the request is as the caller passed it, and its body has not been drawn. -/
theorem nothing_sent_iff (mode : Session.Mode) (target : String) (source : Source (Supplier σ))
    (next : Carrier σ) (level : Level) (line : Line σ) :
    let layer : Layer σ := ⟨mode, target, source.gather⟩
    let run := layer.send next level line
    let sends := (layer.watch.send (watch next) level (line.watched [] [])).state.peer.sends
    (sends = [] ↔ ∃ fault finish journal, Unsent target source level line fault finish journal) ∧
    ∀ fault finish journal, Unsent target source level line fault finish journal →
      run.result = .error fault ∧ run.state.peer = finish ∧ run.journal = journal ∧
      run.state.request.method = line.request.method ∧ run.state.request.url = line.request.url ∧
      run.state.request.headers.entries = line.request.headers.entries ∧
      run.state.request.body = line.request.body := by
  dsimp only
  simp only [Layer.send_eq]
  refine ⟨⟨unsent_of_sends_eq_nil next, fun ⟨fault, finish, journal, h⟩ => (h.blocking next).2⟩,
    fun fault finish journal h => ?_⟩
  obtain ⟨⟨request, hrequest, hrun⟩, -⟩ := h.blocking next
  rw [hrun]
  exact ⟨rfl, rfl, rfl, congrArg (·.method) hrequest, congrArg (·.url) hrequest,
    congrArg (·.headers.entries) hrequest, congrArg (·.body) hrequest⟩

/-- A chain whose second member is a chain of its own, in which a supplier gives two sets one by one
and then fails. -/
def failingMidway : Source Session.Provider :=
  .chain [.leaf (.fixed .bearer { registryToken := "a" }),
    .chain [.leaf (.fixed .anonymous {}),
      .leaf (.lazy [{ registryToken := "b" }, { registryToken := "c" }]
        (some { kind := .runtime }))],
    .leaf (.failing { kind := .value })]

/-- Four candidates are delivered before the failure, and none of them is tried. -/
theorem nothing_sent_failing_midway :
    let w : Session.World := { machine := { environment := [], files := ⟨[], { place := [] }⟩ } }
    let source := Session.suppliers failingMidway
    let next : Carrier Session.World := Act.ofExcept (answerOf 200 "text/plain")
    let layer : Layer Session.World := ⟨.stepwise, "h", source.gather⟩
    let run := layer.send next .warning ⟨rootOf "h", w⟩
    let fault := Fault.given { kind := .runtime }
    let asked := [Mark.event (.query .next), .event (.query .next)]
    Unsent "h" source .warning ⟨rootOf "h", w⟩ fault w asked ∧ run.result = .error fault ∧
    run.journal = asked ∧ run.state.request.headers.entries = [] := by
  intro w source next layer run fault asked
  have hunsent : Unsent "h" source .warning ⟨rootOf "h", w⟩ fault w asked :=
    .unsupplied (Source.gather_eq_error_iff.mp rfl)
  obtain ⟨hresult, -, hjournal, -, -, hentries, -⟩ :=
    (nothing_sent_iff .stepwise "h" source next .warning ⟨rootOf "h", w⟩).2 _ _ _ hunsent
  exact ⟨hunsent, hresult, hjournal, hentries⟩

end Relay
end AuthRelay
