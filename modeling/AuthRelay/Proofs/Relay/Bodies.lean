import AuthRelay.Proofs.Relay.Responses
import AuthRelay.Session.Carriers
/-!
# The body of a request

All attempts of a call send the same request, and so do later calls with it, so they share its body.
A recipient is a carrier that either draws the whole body or leaves it alone. It obtains all of the
body or is refused: a one-shot body is given to the first attempt that draws it and to no other. A
refusal ends the call, and what has been rejected before is closed by then.
-/
namespace AuthRelay

namespace Body

/-- A body that can be drawn once only. -/
def isOneShot : Body → Bool
  | .bytes _ => false
  | .chunks _ oneShot _ => oneShot

/-- A body of chunks that has been drawn before. -/
def isDrawn : Body → Bool
  | .bytes _ => false
  | .chunks _ _ drawn => drawn

/-- What becomes of a body that has been drawn as often as there are results. -/
def after (b : Body) : List (Except Fault Bytes) → Body
  | [] => b
  | _ :: rest => b.draw.2.after rest

theorem draw_fst (b : Body) :
    b.draw.1 = if b.isOneShot && b.isDrawn then .error .streamConsumed else .ok b.content := by
  cases b with
  | bytes content => rfl
  | chunks parts oneShot drawn => cases oneShot <;> cases drawn <;> rfl

@[simp] theorem content_draw (b : Body) : b.draw.2.content = b.content := by
  cases b with
  | bytes content => rfl
  | chunks parts oneShot drawn => cases oneShot <;> cases drawn <;> rfl

@[simp] theorem isOneShot_draw (b : Body) : b.draw.2.isOneShot = b.isOneShot := by
  cases b with
  | bytes content => rfl
  | chunks parts oneShot drawn => cases oneShot <;> cases drawn <;> rfl

theorem isDrawn_draw {b : Body} (h : b.isOneShot = true) : b.draw.2.isDrawn = true := by
  cases b with
  | bytes content => cases h
  | chunks parts oneShot drawn =>
    have hone : oneShot = true := h
    subst hone
    cases drawn <;> rfl

theorem after_append (b : Body) (front back : List (Except Fault Bytes)) :
    b.after (front ++ back) = (b.after front).after back := by
  induction front generalizing b with
  | nil => rfl
  | cons _ front ih => exact ih b.draw.2

/-- The next draw gives the whole body, unless the body is one-shot and has been drawn already. -/
theorem draw_after (b : Body) (drawings : List (Except Fault Bytes)) :
    (b.after drawings).draw.1 =
      if b.isOneShot = true ∧ (b.isDrawn = true ∨ drawings ≠ []) then .error .streamConsumed
      else .ok b.content := by
  induction drawings generalizing b with
  | nil => simp [after, draw_fst]
  | cons _ rest ih =>
    rw [after, ih b.draw.2, content_draw, isOneShot_draw]
    cases h : b.isOneShot with
    | false => simp
    | true => simp [isDrawn_draw h]

end Body

namespace Relay

variable {ρ σ : Type}

/-! ## Recipients -/

/-- The request on a line has the given body. -/
def HasBody (b : Body) (line : Line σ) : Prop :=
  line.request.body = b

/-- A carrier that draws the whole body or leaves it alone. First it finds out which; in the end it
makes an answer of what it has obtained, and it answers a failure with that failure. -/
structure Recipient (ρ σ : Type) where
  look : Act (Line σ) (Bool × ρ)
  answer : ρ → Option (Except Fault Bytes) → Carrier σ
  look_keeps : ∀ b, Act.Keeps (HasBody b) look
  answer_keeps : ∀ b seen drawn, Act.Keeps (HasBody b) (answer seen drawn)
  answer_error : ∀ seen fault level line,
    (answer seen (some (.error fault)) level line).result = .error fault

namespace Recipient

/-- The recipient as a carrier. -/
def carrier (r : Recipient ρ σ) : Act (Line σ) Response := do
  let (draws, seen) ← r.look
  if draws then
    let drawn ← Line.drawBody
    r.answer seen (some drawn)
  else r.answer seen none

/-- What the recipient obtains of the body on a line, if it draws it. -/
def obtained (r : Recipient ρ σ) (level : Level) (line : Line σ) : Option (Except Fault Bytes) :=
  match r.look level line with
  | ⟨.ok (true, _), reached, _⟩ => (Line.drawBody level reached).result.toOption
  | _ => none

/-- A recipient leaves the body as its drawing has left it, and a failure to draw is its answer. -/
theorem carrier_body (r : Recipient ρ σ) (level : Level) (line : Line σ) :
    (r.carrier level line).state.request.body =
      line.request.body.after (r.obtained level line).toList ∧
    ∀ got, r.obtained level line = some got → got = line.request.body.draw.1 ∧
      ∀ fault, got = .error fault → (r.carrier level line).result = .error fault := by
  have hlook := r.look_keeps line.request.body level line rfl
  unfold carrier obtained
  cases ho : r.look level line with
  | mk result reached journal =>
    rw [ho] at hlook
    cases result with
    | error fault =>
      rw [Act.bind_of_error ho]
      exact ⟨hlook, by simp⟩
    | ok found =>
      obtain ⟨draws, seen⟩ := found
      rw [Act.bind_of_ok ho]
      cases draws with
      | false => exact ⟨r.answer_keeps _ seen none level reached hlook, by simp⟩
      | true =>
        have hdraw : Line.drawBody level reached = ⟨.ok line.request.body.draw.1,
            { reached with request := { reached.request with body := line.request.body.draw.2 } },
            []⟩ := by
          rw [← show reached.request.body = line.request.body from hlook]
          rfl
        simp only [if_true]
        rw [Act.bind_of_ok hdraw, hdraw]
        refine ⟨r.answer_keeps line.request.body.draw.2 seen _ level _ rfl, ?_⟩
        rintro _ ⟨⟩
        refine ⟨rfl, fun fault hfault => ?_⟩
        rw [hfault]
        exact r.answer_error seen fault level _

end Recipient

end Relay

namespace Session

/-! ## Scripted recipients -/

/-- Whatever a reply does to the request, it leaves the body alone. -/
theorem applyEdit_keeps_body (b : Body) (edit : Request.Edit) :
    Act.Keeps (Relay.HasBody b) (applyEdit edit) := by
  have hset : ∀ name value, Act.Keeps (σ := Line World) (Relay.HasBody b)
      (Line.setHeader name value) := by
    intro name value level line h
    unfold Line.setHeader
    cases line.request.headers.set name value <;> exact h
  have hdrop : ∀ name, Act.Keeps (σ := Line World) (Relay.HasBody b) (Line.dropHeader name) := by
    intro name level line h
    unfold Line.dropHeader
    dsimp only
    cases line.request.settle.headers.erase name <;> exact h
  refine .bind ?_ fun _ => .bind ?_ fun _ => ?_
  · induction edit.setHeaders with
    | nil => exact .pure ()
    | cons entry rest ih => exact (hset entry.1 entry.2).bind fun _ => ih
  · induction edit.dropHeaders with
    | nil => exact .pure ()
    | cons name rest ih => exact (hdrop name).bind fun _ => ih
  · cases edit.url with
    | none => exact .pure ()
    | some text =>
      intro level line h
      show Relay.HasBody b (Line.setUrl text level line).state
      unfold Line.setUrl
      cases Url.parse text <;> exact h

/-- What a scripted carrier makes of the body: it makes the send known, and answers. -/
def Reply.answer (reply : Reply) (serial : Nat) (got : Option (Except Fault Bytes)) :
    Act (Line World) Response := do
  let drawn : Except Fault (Option Bytes) := match got with
    | some got => got.map some
    | none => .ok none
  announce serial (drawn.toOption.getD none)
  let _ ← Act.ofExcept drawn
  match reply.failure with
  | some g => Act.fail (.given g)
  | none => Act.ofExcept ((reply.response serial).mapError .text)

/-- A scripted carrier as a recipient. -/
def scripted (cell : Nat) : Relay.Recipient (Nat × Reply) World where
  look := do
    let (serial, reply) ← Line.onPeer (nextReply cell)
    applyEdit reply.edit
    pure (reply.drawsBody, serial, reply)
  answer := fun (serial, reply) => reply.answer serial
  look_keeps b := by
    refine .bind ?_ fun seen => (applyEdit_keeps_body b seen.2.edit).bind fun _ => .pure _
    exact fun _ _ h => h
  answer_keeps b seen got := by
    refine .bind (.get_bind fun _ => .emit _) fun _ => .bind (.ofExcept _) fun _ => ?_
    split
    · exact .fail _
    · exact .ofExcept _
  answer_error _ _ _ _ := rfl

end Session

namespace Relay

variable {ρ σ : Type}

/-! ## The attempts of a call -/

/-- The attempts that are made of those that are possible, from the one with the given number on. -/
def madeOf (level : Level) (total : Nat) : Nat → List (Attempt σ) → List (Made σ)
  | _, [] => []
  | _, [a] => [⟨a, []⟩]
  | number, a :: later =>
    match a.answer with
    | .error _ => [⟨a, []⟩]
    | .ok response =>
      if response.isRejection then
        ⟨a, asideEntries level a.finish.request response number total⟩ ::
          match asideResult level response with
          | .error _ => []
          | .ok () => madeOf level total (number + 1) later
      else [⟨a, []⟩]

/-- What the attempts of a course are is settled by the attempts that are possible. -/
theorem Course.made_eq {level : Level} {total number : Nat} {all : List (Attempt σ)}
    {result : Except Fault Response} {finish : Line σ} {made : List (Made σ)}
    (h : Course level total number all result finish made) :
    made = madeOf level total number all := by
  induction h with
  | last a => rfl
  | @settled number a later h =>
    cases later with
    | nil => rfl
    | cons b later =>
      cases ha : a.answer with
      | error fault => simp only [madeOf, ha]
      | ok response => simp only [madeOf, ha, if_neg (h response ha)]
  | @stuck number a later response fault hlater ha hr haside =>
    cases later with
    | nil => exact absurd rfl hlater
    | cons b later => simp only [madeOf, ha, if_pos hr, haside]
  | @passed number a later response result finish made ha hr haside hlater ih =>
    cases later with
    | nil => cases hlater
    | cons b later => simp only [madeOf, ha, if_pos hr, haside, ih]

/-- What ends a call has nothing before it or after it, if it is the only attempt that is left. -/
theorem split_single {m m' : Made σ} {front back : List (Made σ)}
    (h : [m] = front ++ m' :: back) : front = [] ∧ m' = m ∧ back = [] := by
  rcases List.singleton_eq_append_iff.mp h with ⟨rfl, hcons⟩ | ⟨-, hcons⟩
  · cases hcons
    exact ⟨rfl, rfl, rfl⟩
  · cases hcons

/-- Every attempt before another one has been rejected, and its response has been closed. A failed
attempt is the last one, and its failure is that of the call. -/
theorem Course.ended {level : Level} {total number : Nat} {all : List (Attempt σ)}
    {result : Except Fault Response} {finish : Line σ} {made front back : List (Made σ)}
    {m : Made σ} (h : Course level total number all result finish made)
    (hmade : made = front ++ m :: back) :
    (∀ m' ∈ front, ∃ response, m'.attempt.answer = .ok response ∧
      response.isRejection = true ∧ response.ClosedBy m'.aside) ∧
    ∀ fault, m.attempt.answer = .error fault → back = [] ∧ result = .error fault := by
  induction h generalizing front with
  | last a =>
    obtain ⟨rfl, rfl, rfl⟩ := split_single hmade
    exact ⟨by simp, fun fault ha => ⟨rfl, ha⟩⟩
  | settled h =>
    obtain ⟨rfl, rfl, rfl⟩ := split_single hmade
    exact ⟨by simp, fun fault ha => ⟨rfl, ha⟩⟩
  | stuck hlater h hr haside =>
    obtain ⟨rfl, rfl, rfl⟩ := split_single hmade
    refine ⟨by simp, fun fault ha => ?_⟩
    rw [h] at ha
    cases ha
  | @passed number a later response result finish made h hr haside hlater ih =>
    cases front with
    | nil =>
      obtain ⟨rfl, -⟩ := List.cons.inj hmade
      refine ⟨by simp, fun fault ha => ?_⟩
      rw [h] at ha
      cases ha
    | cons first front =>
      obtain ⟨rfl, hrest⟩ := List.cons.inj hmade
      obtain ⟨hfront, hlast⟩ := ih hrest
      have hdrained : (Response.drain level response).result = .ok () := by
        rcases asideResult_cases level response with ⟨_, -, hf⟩ | ⟨-, -, _, -, hf⟩ | ⟨hok, -⟩
        · cases haside.symm.trans hf
        · cases haside.symm.trans hf
        · exact hok
      refine ⟨List.forall_mem_cons.mpr ⟨⟨response, h, hr, ?_⟩, hfront⟩, hlast⟩
      exact (closedBy_asideEntries_iff response level _ number total).mpr (.inr hdrained)

/-- The attempts that a call through a layer makes. -/
def Layer.made (layer : Layer σ) (next : Carrier σ) (level : Level) (line : Line σ) :
    List (Made σ) :=
  match layer.gather level line.peer with
  | ⟨.error _, _, _⟩ => []
  | ⟨.ok candidates, peer, _⟩ =>
    match line.request.header authorization with
    | .error _ => []
    | .ok entry => madeOf level candidates.toList.length 1
        (Attempt.series level layer.target entry next candidates.toList
          ⟨line.request.settle, peer⟩)

/-- The attempts of a call account for everything that it sends and for all entries that are not
those of its source. -/
theorem Layer.made_sends (layer : Layer σ) (next : Carrier σ) (level : Level) (line : Line σ) :
    (layer.watch.send (Relay.watch next) level (line.watched [] [])).state.peer.sends =
      sendsOf (layer.made next level line) ∧
    (layer.send next level line).journal = (layer.gather level line.peer).journal ++
      entriesOf level next (layer.made next level line) := by
  have hgoes := layer.goes next level line
  unfold made
  generalize layer.send next level line = run at hgoes ⊢
  generalize (layer.watch.send (Relay.watch next) level (line.watched [] [])).state.peer.sends =
    sends at hgoes ⊢
  cases hgoes with
  | unsupplied hgather => simp [hgather, sendsOf, entriesOf]
  | unreadable hgather hheader => simp [hgather, hheader, sendsOf, entriesOf]
  | course hgather hheader hcourse hjournal =>
    simp only [hgather, hheader, ← hcourse.made_eq]
    exact ⟨trivial, hjournal⟩

/-! ## The body on its way through a call -/

section

variable {r : Recipient ρ σ} {level : Level}

/-- What an attempt obtains of the body, if it draws it. -/
def Attempt.obtained (r : Recipient ρ σ) (level : Level) (a : Attempt σ) :
    Option (Except Fault Bytes) :=
  match a.written with
  | .ok () => r.obtained level a.ready
  | .error _ => none

/-- What some attempts have obtained, in order. -/
def drawings (r : Recipient ρ σ) (level : Level) (made : List (Made σ)) :
    List (Except Fault Bytes) :=
  made.filterMap (·.attempt.obtained r level)

/-- An attempt finds a body: if it draws it, it obtains what there is to be obtained, a failure is
its answer, and it leaves the body as the drawing has left it. -/
structure Finds (r : Recipient ρ σ) (level : Level) (b : Body) (a : Attempt σ) : Prop where
  left : a.finish.request.body = b.after (a.obtained r level).toList
  got : ∀ got, a.obtained r level = some got → got = b.draw.1 ∧
    ∀ fault, got = .error fault → a.answer = .error fault

theorem body_authorize (target : String) (entry : Option String) (c : CredentialSet)
    (level : Level) (line : Line σ) :
    (authorize target entry c level line).state.request.body = line.request.body := by
  rw [authorize_run]
  rcases Request.stamp_cases target (c.authorization?.or entry) line.request with
    ⟨fault, hs⟩ | ⟨-, hs⟩ | ⟨-, octets, -, hs⟩ <;> rw [hs] <;> rfl

/-- An attempt finds the body that is on its line. -/
theorem finds_make (r : Recipient ρ σ) (level : Level) (target : String) (entry : Option String)
    (c : CredentialSet) (start : Line σ) :
    Finds r level start.request.body (Attempt.make level target entry r.carrier c start) := by
  have hbody := body_authorize target entry c level start
  have hcarrier := r.carrier_body level (authorize target entry c level start).state
  rw [hbody] at hcarrier
  unfold Attempt.make
  dsimp only
  cases (authorize target entry c level start).result with
  | error fault => exact ⟨hbody, by simp [Attempt.obtained]⟩
  | ok _ => exact ⟨hcarrier.1, hcarrier.2⟩

/-- Each of some attempts finds the body as those before it have left it. -/
def AllFind (r : Recipient ρ σ) (level : Level) : Body → List (Attempt σ) → Prop
  | _, [] => True
  | b, a :: later => Finds r level b a ∧ AllFind r level (b.after (a.obtained r level).toList) later

theorem allFind_series (r : Recipient ρ σ) (level : Level) (target : String)
    (entry : Option String) (candidates : List CredentialSet) (start : Line σ) :
    AllFind r level start.request.body (Attempt.series level target entry r.carrier candidates start) := by
  induction candidates generalizing start with
  | nil => trivial
  | cons c rest ih =>
    have hfinds := finds_make r level target entry c start
    refine ⟨hfinds, ?_⟩
    rw [← hfinds.left]
    exact ih _

theorem drawings_cons (m : Made σ) (rest : List (Made σ)) :
    drawings r level (m :: rest) =
      (m.attempt.obtained r level).toList ++ drawings r level rest := by
  unfold drawings
  rw [List.filterMap_cons]
  cases m.attempt.obtained r level <;> rfl

/-- The attempts of a course pass the body on. -/
theorem Course.finds {total number : Nat} {all : List (Attempt σ)}
    {result : Except Fault Response} {finish : Line σ} {made : List (Made σ)} {b : Body}
    (h : Course level total number all result finish made) (hall : AllFind r level b all) :
    finish.request.body = b.after (drawings r level made) ∧
    ∀ front m back, made = front ++ m :: back →
      Finds r level (b.after (drawings r level front)) m.attempt := by
  -- the attempt with which the call ends
  have hfinal : ∀ {a : Attempt σ} {aside : List Mark} {b : Body}, Finds r level b a →
      a.finish.request.body = b.after (drawings r level [⟨a, aside⟩]) ∧
      ∀ front m back, [⟨a, aside⟩] = front ++ m :: back →
        Finds r level (b.after (drawings r level front)) m.attempt := by
    intro a aside b hfinds
    refine ⟨?_, fun front m back heq => ?_⟩
    · rw [drawings_cons, drawings, List.filterMap_nil, List.append_nil]
      exact hfinds.left
    · obtain ⟨rfl, rfl, rfl⟩ := split_single heq
      exact hfinds
  induction h generalizing b with
  | last a => exact hfinal hall.1
  | settled _ => exact hfinal hall.1
  | stuck _ _ _ _ => exact hfinal hall.1
  | passed h hr haside hlater ih =>
    obtain ⟨hfinish, hrest⟩ := ih hall.2
    refine ⟨?_, fun front m back heq => ?_⟩
    · rw [drawings_cons, Body.after_append]
      exact hfinish
    · cases front with
      | nil =>
        obtain ⟨rfl, -⟩ := List.cons.inj heq
        exact hall.1
      | cons first front =>
        obtain ⟨rfl, htail⟩ := List.cons.inj heq
        rw [drawings_cons, Body.after_append]
        exact hrest front m back htail

/-- A call leaves the body as its attempts have left it, each of which finds it as those before it
have left it. What comes before an attempt has been rejected and closed, and a failed attempt is the
last one. -/
theorem Layer.made_finds (layer : Layer σ) (r : Recipient ρ σ) (level : Level) (line : Line σ) :
    let made := layer.made r.carrier level line
    let run := layer.send r.carrier level line
    run.state.request.body = line.request.body.after (drawings r level made) ∧
    ∀ front m back, made = front ++ m :: back →
      Finds r level (line.request.body.after (drawings r level front)) m.attempt ∧
      (∀ m' ∈ front, ∃ response, m'.attempt.answer = .ok response ∧
        response.isRejection = true ∧ response.ClosedBy m'.aside) ∧
      ∀ fault, m.attempt.answer = .error fault → back = [] ∧ run.result = .error fault := by
  have hgoes := layer.goes r.carrier level line
  unfold made
  generalize layer.send r.carrier level line = run at hgoes ⊢
  generalize (layer.watch.send (Relay.watch r.carrier) level (line.watched [] [])).state.peer.sends =
    sends at hgoes
  cases hgoes with
  | unsupplied hgather =>
    simp only [hgather]
    exact ⟨rfl, fun front m back heq => by simp at heq⟩
  | unreadable hgather hheader =>
    simp only [hgather, hheader]
    exact ⟨rfl, fun front m back heq => by simp at heq⟩
  | @course candidates entry peer _ _ _ hgather hheader hcourse hjournal =>
    have hseries := allFind_series r level layer.target entry candidates.toList
      ⟨line.request.settle, peer⟩
    obtain ⟨hfinish, hfinds⟩ := hcourse.finds hseries
    simp only [hgather, hheader, ← hcourse.made_eq]
    exact ⟨hfinish, fun front m back heq => ⟨hfinds front m back heq, hcourse.ended heq⟩⟩

end

/-! ## Several calls with one request -/

/-- A call with a request that others have sent before: through a layer to a recipient, under a
threshold and from a state of the other side. The caller may have edited the request, but not its
body. -/
structure Sending (ρ σ : Type) where
  layer : Layer σ
  recipient : Recipient ρ σ
  level : Level
  peer : σ
  edit : Request → Request
  body_edit : ∀ request, (edit request).body = request.body

namespace Sending

/-- The line of a call that finds a request. -/
def line (s : Sending ρ σ) (found : Request) : Line σ :=
  ⟨s.edit found, s.peer⟩

/-- What the call leaves behind. -/
def outcome (s : Sending ρ σ) (found : Request) : Outcome (Line σ) Response :=
  s.layer.send s.recipient.carrier s.level (s.line found)

/-- The attempts of the call. -/
def made (s : Sending ρ σ) (found : Request) : List (Made σ) :=
  s.layer.made s.recipient.carrier s.level (s.line found)

/-- What an attempt of the call obtains of the body. -/
def obtained (s : Sending ρ σ) (m : Made σ) : Option (Except Fault Bytes) :=
  m.attempt.obtained s.recipient s.level

/-- What the attempts of the call obtain, in order. -/
def drawings (s : Sending ρ σ) (found : Request) : List (Except Fault Bytes) :=
  Relay.drawings s.recipient s.level (s.made found)

end Sending

/-- Calls with one request, each with the request as it finds it. -/
def callsOf : Request → List (Sending ρ σ) → List (Sending ρ σ × Request)
  | _, [] => []
  | found, s :: rest => (s, found) :: callsOf (s.outcome found).state.request rest

/-- A call finds the body as the calls before it have left it. -/
theorem body_callsOf {request : Request} {sendings : List (Sending ρ σ)}
    {before after : List (Sending ρ σ × Request)} {s : Sending ρ σ} {found : Request}
    (h : callsOf request sendings = before ++ (s, found) :: after) :
    found.body = request.body.after (before.flatMap fun call => call.1.drawings call.2) := by
  induction sendings generalizing request before with
  | nil => simp [callsOf] at h
  | cons first rest ih =>
    rw [callsOf] at h
    cases before with
    | nil =>
      obtain ⟨heq, -⟩ := List.cons.inj h
      cases heq
      rfl
    | cons call before =>
      obtain ⟨rfl, hrest⟩ := List.cons.inj h
      have hleft := (first.layer.made_finds first.recipient first.level (first.line request)).1
      rw [List.flatMap_cons, Body.after_append, ih hrest]
      refine congrArg (Body.after · _) (hleft.trans ?_)
      rw [Sending.line, first.body_edit]
      rfl

theorem drawings_ne_nil_iff {r : Recipient ρ σ} {level : Level} {made : List (Made σ)} :
    drawings r level made ≠ [] ↔ ∃ m ∈ made, (m.attempt.obtained r level).isSome = true := by
  simp [drawings, Option.isSome_iff_ne_none]

/-- Calls with one request, whoever they go to and whatever its body is: every attempt that draws
the body obtains all of it or is refused. It is refused if and only if the body is one-shot and has
been drawn, by an earlier attempt of this call or of a call before it unless that was before all
calls. A refusal ends the call, no other attempt is made, and the responses to those before it have
been rejected and closed. -/
theorem drawn_whole_or_refused (request : Request) (sendings : List (Sending ρ σ))
    {before after : List (Sending ρ σ × Request)} {s : Sending ρ σ} {found : Request}
    (hcalls : callsOf request sendings = before ++ (s, found) :: after) :
    let run := s.outcome found
    let made := s.made found
    (s.layer.watch.send (watch s.recipient.carrier) s.level
      ((s.line found).watched [] [])).state.peer.sends = sendsOf made ∧
    run.journal = (s.layer.gather s.level s.peer).journal ++
      entriesOf s.level s.recipient.carrier made ∧
    ∀ front m back got, made = front ++ m :: back → s.obtained m = some got →
      (got = .ok request.body.content ∨ got = .error .streamConsumed) ∧
      (got = .error .streamConsumed ↔ request.body.isOneShot = true ∧
        (request.body.isDrawn = true ∨
          (∃ call ∈ before, ∃ m' ∈ call.1.made call.2, (call.1.obtained m').isSome = true) ∨
          ∃ m' ∈ front, (s.obtained m').isSome = true)) ∧
      (got = .error .streamConsumed → back = [] ∧ run.result = .error .streamConsumed ∧
        ∀ m' ∈ front, ∃ response, m'.attempt.answer = .ok response ∧
          response.isRejection = true ∧ response.ClosedBy m'.aside) := by
  obtain ⟨hsends, hjournal⟩ := s.layer.made_sends s.recipient.carrier s.level (s.line found)
  refine ⟨hsends, hjournal, fun front m back got hmade hgot => ?_⟩
  obtain ⟨hfinds, hfront, hlast⟩ :=
    (s.layer.made_finds s.recipient s.level (s.line found)).2 front m back hmade
  have hbody : (s.line found).request.body =
      request.body.after (before.flatMap fun call => call.1.drawings call.2) :=
    (s.body_edit found).trans (body_callsOf hcalls)
  obtain ⟨hdraw, hfault⟩ := hfinds.got got hgot
  rw [hbody, ← Body.after_append, Body.draw_after] at hdraw
  -- the body has been drawn if and only if an earlier attempt obtained something
  have hearlier : (before.flatMap fun call => call.1.drawings call.2) ++
      drawings s.recipient s.level front ≠ [] ↔
        (∃ call ∈ before, ∃ m' ∈ call.1.made call.2, (call.1.obtained m').isSome = true) ∨
        ∃ m' ∈ front, (s.obtained m').isSome = true := by
    rw [ne_eq, List.append_eq_nil_iff, not_and_or, ← ne_eq (drawings _ _ _), drawings_ne_nil_iff]
    refine or_congr ?_ .rfl
    rw [List.flatMap_eq_nil_iff, not_forall₂]
    exact exists_congr fun call =>
      exists_prop.trans (and_congr_right fun _ => drawings_ne_nil_iff)
  rw [← hearlier, hdraw]
  refine ⟨?_, ?_, fun hrefused => ?_⟩
  · split
    · exact .inr rfl
    · exact .inl rfl
  · split
    case isTrue h => exact ⟨fun _ => h, fun _ => rfl⟩
    case isFalse h => exact ⟨(by cases ·), fun h' => absurd h' h⟩
  · obtain ⟨hback, hresult⟩ := hlast _ (hfault _ (hdraw.trans hrefused))
    exact ⟨hback, hresult, hfront⟩

/-- A one-shot body in two chunks. -/
def oneShotRequest : Request :=
  { rootOf "h" with body := .chunks [[1], [2, 3]] true false }

/-- A call with two tokens, to a recipient that draws every body and rejects every request. -/
def toRejecting : Sending (Nat × Session.Reply) Session.World where
  layer := ⟨.blocking, "h", pure twoTokens⟩
  recipient := Session.scripted 0
  level := .warning
  peer := { machine := ⟨[], ⟨[], { place := [] }⟩, []⟩, scripts := [⟨[{ status := 401 }], none, 0⟩] }
  edit := id
  body_edit := fun _ => rfl

/-- A one-shot body is sent twice. The first call is refused it at its second candidate, when the
response to the first has been closed, and the second call at its first candidate. -/
theorem drawn_whole_or_refused_one_shot :
    let left := (toRejecting.outcome oneShotRequest).state.request
    ∃ first second again, toRejecting.made oneShotRequest = [first, second] ∧
      toRejecting.made left = [again] ∧
      toRejecting.obtained first = some (.ok [1, 2, 3]) ∧
      toRejecting.obtained second = some (.error .streamConsumed) ∧
      toRejecting.obtained again = some (.error .streamConsumed) ∧
      (toRejecting.outcome oneShotRequest).result = .error .streamConsumed ∧
      (∃ response, first.attempt.answer = .ok response ∧ response.ClosedBy first.aside) ∧
      (toRejecting.outcome left).result = .error .streamConsumed := by
  refine ⟨_, _, _, rfl, rfl, rfl, rfl, rfl, ?_⟩
  obtain ⟨-, -, hone⟩ := @drawn_whole_or_refused _ _ oneShotRequest [toRejecting, toRejecting]
    [] _ toRejecting _ rfl
  obtain ⟨-, -, htwo⟩ := @drawn_whole_or_refused _ _ oneShotRequest [toRejecting, toRejecting]
    [_] [] toRejecting _ rfl
  obtain ⟨-, -, hrefused⟩ := hone [_] _ [] _ rfl rfl
  obtain ⟨-, -, hagain⟩ := htwo [] _ [] _ rfl rfl
  obtain ⟨-, hresult, hrejected⟩ := hrefused rfl
  obtain ⟨response, hanswer, -, hclosed⟩ := hrejected _ (List.mem_singleton.mpr rfl)
  exact ⟨hresult, ⟨response, hanswer, hclosed⟩, (hagain rfl).2.1⟩

end Relay
end AuthRelay
