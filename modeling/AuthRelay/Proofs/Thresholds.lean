import AuthRelay.Proofs.Gathering
import AuthRelay.Proofs.Relay.Discharge
/-!
# The threshold for records

An act that the threshold does not sway does under every threshold what it does when everything is
recorded: its journal lacks the records below the threshold, and nothing else is different. Acts
are put together of such acts. The one place where a relay looks at the threshold is the record of
a rejection, which takes the text of the body; it is not swayed either if that text can be had.
-/
namespace AuthRelay

universe u

variable {σ τ : Type} {α β : Type u}

/-- Whether an entry is made under a threshold. An event always is. -/
def Mark.passes (threshold : Level) : Mark → Bool
  | .event _ => true
  | .record r => r.level.passes threshold

/-- What a run leaves behind, without the records below a threshold. -/
def Outcome.above (threshold : Level) (o : Outcome σ α) : Outcome σ α :=
  { o with journal := o.journal.filter (Mark.passes threshold) }

namespace Act

/-- A run that does what it does when everything is recorded, but for the records. It leaves a state
with a property, and a result with another one if it succeeds. -/
structure UnswayedAt (P : σ → Prop) (Q : α → Prop) (x : Act σ α) (level : Level) (s : σ) :
    Prop where
  run : x level s = (x .debug s).above level
  state : P (x level s).state
  result : ∀ a, (x level s).result = .ok a → Q a

/-- An act that no threshold sways in states with a property, which it keeps. -/
def Unswayed (P : σ → Prop) (Q : α → Prop) (x : Act σ α) : Prop :=
  ∀ level s, P s → UnswayedAt P Q x level s

section

variable {P : σ → Prop} {Q : α → Prop} {Q' : β → Prop}

/-- A run that enters nothing in the journal and has no use for the threshold. -/
theorem UnswayedAt.of_quiet {x : Act σ α} {s : σ} {o : Outcome σ α} (hrun : ∀ level, x level s = o)
    (hquiet : o.journal = []) (hstate : P o.state) (hresult : ∀ a, o.result = .ok a → Q a)
    (level : Level) : UnswayedAt P Q x level s := by
  refine ⟨?_, ?_, ?_⟩
  · rw [hrun, hrun, Outcome.above, hquiet, List.filter_nil, ← hquiet]
  · rw [hrun]
    exact hstate
  · rw [hrun]
    exact hresult

/-- An act that enters nothing in the journal and has no use for the threshold. -/
theorem Unswayed.of_quiet {x : Act σ α} (hlevel : ∀ level s, x level s = x .debug s)
    (hquiet : ∀ s, (x .debug s).journal = []) (hkeeps : Keeps P x) :
    Unswayed P (fun _ => True) x :=
  fun level s hs => .of_quiet (hlevel · s) (hquiet s) (hkeeps .debug s hs) (fun _ _ => trivial) level

theorem Unswayed.ofExcept {x : Except Fault α} (h : ∀ a, x = .ok a → Q a) :
    Unswayed P Q (Act.ofExcept x) := by
  intro level s hs
  refine ⟨?_, ?_, fun a ha => h a ?_⟩
  · rw [ofExcept_run, ofExcept_run]
    rfl
  · rw [ofExcept_run]
    exact hs
  · rwa [ofExcept_run] at ha

/-- What has been decided before is not swayed. -/
theorem Unswayed.decided (x : Except Fault α) : Unswayed P (fun _ => True) (Act.ofExcept x) :=
  .ofExcept fun _ _ => trivial

theorem Unswayed.pure {a : α} (h : Q a) : Unswayed P Q (Pure.pure a : Act σ α) :=
  .ofExcept (x := .ok a) fun _ ha => by cases ha; exact h

theorem Unswayed.fail (fault : Fault) : Unswayed P Q (Act.fail fault : Act σ α) :=
  .ofExcept (x := .error fault) nofun

theorem Unswayed.emit (e : Event) : Unswayed P (fun _ => True) (Act.emit e) :=
  fun _ _ hs => ⟨rfl, hs, fun _ _ => trivial⟩

/-- Below the threshold a record is not written, and at the lowest threshold every record is. -/
theorem Unswayed.log (level : Level) (channel : Channel) (text : String) :
    Unswayed P (fun _ => True) (Act.log level channel text) := by
  intro threshold s hs
  refine ⟨?_, hs, fun _ _ => trivial⟩
  have hall : level.passes .debug = true := by cases level <;> rfl
  cases hp : level.passes threshold <;> simp [Act.log, Outcome.above, hall, hp, Mark.passes]

theorem Unswayed.modify {f : σ → σ} (h : ∀ s, P s → P (f s)) :
    Unswayed P (fun _ => True) (Act.modify f) :=
  .of_quiet (fun _ _ => rfl) (fun _ => rfl) (.modify h)

/-- What goes on from an unswayed result is not swayed if it is not for such results. -/
theorem Unswayed.bind {x : Act σ α} {f : α → Act σ β} (hx : Unswayed P Q x)
    (hf : ∀ a, Q a → Unswayed P Q' (f a)) : Unswayed P Q' (x >>= f) := by
  intro level s hs
  obtain ⟨hrun, hstate, hfound⟩ := hx level s hs
  cases ho : x .debug s with
  | mk result t journal =>
    rw [ho] at hrun
    rw [hrun] at hstate hfound
    cases result with
    | error fault =>
      have hleft := bind_of_error (f := f) hrun
      have hright := bind_of_error (f := f) ho
      refine ⟨?_, ?_, ?_⟩
      · rw [hleft, hright]
        rfl
      · rw [hleft]
        exact hstate
      · rw [hleft]
        nofun
    | ok a =>
      have hleft := bind_of_ok (f := f) hrun
      have hright := bind_of_ok (f := f) ho
      obtain ⟨hnext, hstate', hfound'⟩ := hf a (hfound a rfl) level t hstate
      refine ⟨?_, ?_, ?_⟩
      · rw [hleft, hright, hnext]
        simp only [Outcome.above, List.filter_append]
      · rw [hleft]
        exact hstate'
      · rw [hleft]
        exact hfound'

theorem Unswayed.map {x : Act σ α} (hx : Unswayed P Q x) (f : α → β) :
    Unswayed P (fun _ => True) (f <$> x) := by
  rw [map_eq_pure_bind]
  exact hx.bind fun _ _ => .pure trivial

theorem Unswayed.ite {c : Prop} [Decidable c] {x y : Act σ α} (hx : Unswayed P Q x)
    (hy : Unswayed P Q y) : Unswayed P Q (if c then x else y) := by
  split
  · exact hx
  · exact hy

/-- An act that begins by looking at the state. -/
theorem Unswayed.get_bind {α : Type} {Q : α → Prop} {f : σ → Act σ α}
    (h : ∀ s, P s → Unswayed P Q (f s)) : Unswayed P Q (Act.get >>= f) := by
  intro level s hs
  obtain ⟨hrun, hstate, hfound⟩ := h s hs level s hs
  exact ⟨hrun, hstate, hfound⟩

/-- An act on a part of the state. -/
theorem Unswayed.zoom {T : τ → Prop} {view : σ → τ} {update : τ → σ → σ} {x : Act τ α}
    (hview : ∀ s, P s → T (view s)) (hupdate : ∀ s t, P s → T t → P (update t s))
    (hx : Unswayed T Q x) : Unswayed P Q (Act.zoom view update x) := by
  intro level s hs
  obtain ⟨hrun, hstate, hfound⟩ := hx level (view s) (hview s hs)
  refine ⟨?_, hupdate s _ hs hstate, hfound⟩
  simp only [Act.zoom]
  rw [hrun]
  rfl

/-- An act on a state of its own. -/
theorem Unswayed.within {α : Type} {Q : α → Prop} {T : τ → Prop} {t : τ} (ht : T t)
    {x : Act τ α} (hx : Unswayed T Q x) :
    Unswayed P (fun found => T found.2 ∧ ∀ a, found.1 = .ok a → Q a) (Act.within t x) := by
  intro level s hs
  obtain ⟨hrun, hstate, hfound⟩ := hx level t ht
  refine ⟨?_, hs, fun found h => ?_⟩
  · simp only [Act.within]
    rw [hrun]
    rfl
  · cases h
    exact ⟨hstate, hfound⟩

/-- An act whose failure is handed over. -/
theorem Unswayed.attempt {x : Act σ α} (hx : Unswayed P Q x) :
    Unswayed P (fun _ => True) (Act.attempt x) := by
  intro level s hs
  obtain ⟨hrun, hstate, -⟩ := hx level s hs
  refine ⟨?_, hstate, fun _ _ => trivial⟩
  simp only [Act.attempt]
  rw [hrun]
  rfl

end

end Act

/-! ## Gathering -/

section

variable {P : σ → Prop}

/-- A supplier whose answers to both queries are not swayed. -/
structure Supplier.Unswayed (P : σ → Prop) (s : Supplier σ) : Prop where
  one : ∀ query ∈ s.one?, Act.Unswayed P (fun _ => True) query
  all : ∀ query ∈ s.all?, Act.Unswayed P (fun _ => True) query

theorem Supplier.Unswayed.deliver {s : Supplier σ} (h : s.Unswayed P) :
    Act.Unswayed P (fun _ => True) s.deliver := by
  unfold Supplier.deliver
  split
  next all hall => exact h.all all hall
  next one _ hone => exact (h.one one hone).bind fun _ _ => .pure trivial
  next => exact .fail _

theorem Supplier.getD_unswayed {α : Type} {query? : Option (Act σ α)}
    (h : ∀ query ∈ query?, Act.Unswayed P (fun _ => True) query) (fault : Fault) :
    Act.Unswayed P (fun _ => True) (query?.getD (Act.fail fault)) := by
  cases query? with
  | none => exact .fail fault
  | some query => exact h query rfl

theorem Supplier.deliverAll_unswayed {suppliers : List (Supplier σ)}
    (h : ∀ supplier ∈ suppliers, supplier.Unswayed P) :
    Act.Unswayed P (fun _ => True) (deliverAll suppliers) := by
  induction suppliers with
  | nil => exact .pure trivial
  | cons supplier rest ih =>
    obtain ⟨hhere, hrest⟩ := List.forall_mem_cons.mp h
    exact hhere.deliver.bind fun _ _ => (ih hrest).bind fun _ _ => .pure trivial

namespace Source

variable {source : Source (Supplier σ)} (h : ∀ supplier ∈ source.leaves, supplier.Unswayed P)
include h

theorem gather_unswayed : Act.Unswayed P (fun _ => True) source.gather := by
  rw [gather_eq]
  refine (Supplier.deliverAll_unswayed h).bind fun sets _ => ?_
  cases Candidates.ofList? sets with
  | none => exact .fail _
  | some candidates => exact .pure trivial

theorem one_unswayed : Act.Unswayed P (fun _ => True) source.one := by
  cases source with
  | chain members => exact .fail _
  | leaf supplier => exact Supplier.getD_unswayed (h supplier (List.mem_singleton_self _)).one _

theorem all_unswayed : Act.Unswayed P (fun _ => True) source.all := by
  cases source with
  | chain members =>
    rw [all, collectAll_eq]
    exact Supplier.deliverAll_unswayed h
  | leaf supplier => exact Supplier.getD_unswayed (h supplier (List.mem_singleton_self _)).all _

end Source

end

/-! ## Responses -/

namespace Response

/-- The body of a response has a text. An empty one has, and so has any other if its charset can be
told from its content type and is not one whose codec fails on it. -/
def IsLegible (r : Response) : Prop :=
  ∃ text, r.bodyText = .ok text

/-- Reading changes how far the body has come, and not what it says. -/
theorem readBody_unswayed : Act.Unswayed IsLegible (fun _ => True) readBody := by
  intro level r hr
  obtain ⟨serial, status, headers, body, failure, phase, closed⟩ := r
  cases phase with
  | loaded | spent => exact ⟨rfl, hr, fun _ _ => trivial⟩
  | pending => cases closed <;> cases failure <;> exact ⟨rfl, hr, fun _ _ => trivial⟩

theorem close_unswayed : Act.Unswayed IsLegible (fun _ => True) close := by
  intro level r hr
  obtain ⟨serial, status, headers, body, failure, phase, closed⟩ := r
  cases closed <;> exact ⟨rfl, hr, fun _ _ => trivial⟩

theorem drain_unswayed : Act.Unswayed IsLegible (fun _ => True) drain :=
  readBody_unswayed.bind fun _ _ => close_unswayed

/-- Once a body has been drained its text is at hand. -/
theorem text_drain {r : Response} {level : Level} (h : (drain level r).result = .ok ()) :
    (drain level r).state.text = r.bodyText := by
  obtain ⟨serial, status, headers, body, failure, phase, closed⟩ := r
  cases phase with
  | loaded => cases closed <;> rfl
  | spent => cases h
  | pending =>
    cases closed with
    | true => cases h
    | false =>
      cases failure with
      | some g => cases h
      | none => rfl

end Response

/-! ## Relays -/

namespace Relay

variable {P : σ → Prop}

/-- A property of the other side of a line. -/
def OfPeer (P : σ → Prop) (line : Line σ) : Prop :=
  P line.peer

/-- An act on a line in which the other side has no part. -/
theorem unswayed_of_request {α : Type} {x : Act (Line σ) α}
    (hlevel : ∀ level line, x level line = x .debug line)
    (hquiet : ∀ line, (x .debug line).journal = [])
    (hpeer : ∀ line, (x .debug line).state.peer = line.peer) :
    Act.Unswayed (OfPeer P) (fun _ => True) x := by
  refine .of_quiet hlevel hquiet fun level line h => ?_
  rw [OfPeer, hlevel, hpeer]
  exact h

theorem onPeer_unswayed {α : Type} {Q : α → Prop} {x : Act σ α} (h : Act.Unswayed P Q x) :
    Act.Unswayed (OfPeer P) Q (Line.onPeer x) :=
  .zoom (fun _ hline => hline) (fun _ _ _ hpeer => hpeer) h

theorem header_unswayed (name : String) :
    Act.Unswayed (OfPeer P) (fun _ => True) (Line.header name) :=
  unswayed_of_request (fun _ _ => rfl) (fun _ => rfl) fun _ => rfl

theorem authorize_unswayed (target : String) (callerHeader : Option String) (c : CredentialSet) :
    Act.Unswayed (OfPeer P) (fun _ => True) (authorize target callerHeader c) := by
  refine unswayed_of_request (fun level line => ?_) (fun line => ?_) fun line => ?_
  · rw [authorize_run, authorize_run]
  · rw [authorize_run]
  · rw [authorize_run]

/-- Whether a rejection is recorded or not, it can be set aside in the same cases: the body has been
read by then, and its text is at hand. -/
theorem setAside_unswayed {response : Response} (h : response.IsLegible) (attempt total : Nat) :
    Act.Unswayed (OfPeer P) (fun _ => True) (setAside response attempt total) := by
  intro level line hline
  obtain ⟨hdrain, -, -⟩ := Response.drain_unswayed level response h
  have hall : Level.debug.passes .debug = true := rfl
  refine ⟨?_, ?_, fun _ _ => trivial⟩
  · rw [setAside_run, setAside_run, asideResult, asideResult, asideEntries, asideEntries, hdrain]
    cases hresult : (Response.drain .debug response).result with
    | error fault => simp [Outcome.above, hresult]
    | ok _ =>
      obtain ⟨text, htext⟩ := h
      have hfound := Response.text_drain hresult
      rw [htext] at hfound
      cases hp : Level.debug.passes level <;>
        simp [Outcome.above, hresult, hfound, hall, hp, Except.map, Mark.passes]
  · rw [setAside_run]
    exact hline

theorem attempts_unswayed {target : String} {callerHeader : Option String} {total : Nat}
    {next : Carrier σ} (hnext : Act.Unswayed (OfPeer P) Response.IsLegible next)
    (attempt : Nat) (candidate : CredentialSet) (rest : List CredentialSet) :
    Act.Unswayed (OfPeer P) Response.IsLegible
      (attempts target callerHeader total next attempt candidate rest) := by
  induction rest generalizing attempt candidate with
  | nil => exact (authorize_unswayed target callerHeader candidate).bind fun _ _ => hnext
  | cons following rest ih =>
    rw [attempts_eq]
    refine (authorize_unswayed target callerHeader candidate).bind fun _ _ => ?_
    refine hnext.bind fun response hresponse => .ite ?_ (.pure hresponse)
    exact (setAside_unswayed hresponse attempt total).bind fun _ _ => ih (attempt + 1) following

/-- A relay is not swayed if its source and its carrier are not, and the carrier answers with what
can be read. -/
theorem blocking_unswayed (target : String) {gather : Act σ Candidates} {next : Carrier σ}
    (hgather : Act.Unswayed P (fun _ => True) gather)
    (hnext : Act.Unswayed (OfPeer P) Response.IsLegible next) :
    Act.Unswayed (OfPeer P) Response.IsLegible (blocking target gather next) := by
  have hprepare : Act.Unswayed (OfPeer P) (fun _ => True) (prepare gather) :=
    (onPeer_unswayed hgather).bind fun _ _ => (header_unswayed _).bind fun _ _ => .pure trivial
  exact hprepare.bind fun (candidates, callerHeader) _ =>
    attempts_unswayed hnext 1 candidates.first candidates.rest

end Relay
end AuthRelay
