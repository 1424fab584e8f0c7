import AuthRelay.Fault
import AuthRelay.Journal
/-!
# Acts

An act runs from a state and leaves a state, whether it succeeds or fails; on the way it makes
entries in the journal. It knows the threshold below which diagnostic records are dropped, and
nothing else from outside. The first failure ends a sequence of acts.
-/
namespace AuthRelay

universe u v

/-- What a run leaves behind. -/
@[ext] structure Outcome (σ : Type) (α : Type u) where
  result : Except Fault α
  state : σ
  journal : List Mark

/-- A run from a state, under a threshold for diagnostic records. -/
def Act (σ : Type) (α : Type u) : Type u :=
  Level → σ → Outcome σ α

namespace Act

variable {σ τ : Type} {α : Type u} {β : Type v}

/-- Succeeds at once. -/
protected def pure (a : α) : Act σ α := fun _ s => ⟨.ok a, s, []⟩

/-- Goes on from a success; a failure is passed on. -/
protected def bind (x : Act σ α) (f : α → Act σ β) : Act σ β := fun level s =>
  match x level s with
  | ⟨.ok a, s, journal⟩ =>
    let next := f a level s
    ⟨next.result, next.state, journal ++ next.journal⟩
  | ⟨.error fault, s, journal⟩ => ⟨.error fault, s, journal⟩

instance : Monad (Act.{u} σ) where
  pure := Act.pure
  bind := Act.bind

/-- Fails. -/
def fail (fault : Fault) : Act σ α := fun _ s => ⟨.error fault, s, []⟩

/-- Succeeds or fails as already decided. -/
def ofExcept : Except Fault α → Act σ α
  | .ok a => fun _ s => ⟨.ok a, s, []⟩
  | .error fault => fail fault

/-- The state. -/
def get : Act σ σ := fun _ s => ⟨.ok s, s, []⟩

/-- Changes the state. -/
def modify (f : σ → σ) : Act σ Unit := fun _ s => ⟨.ok (), f s, []⟩

/-- Makes an event known. -/
def emit (e : Event) : Act σ Unit := fun _ s => ⟨.ok (), s, [.event e]⟩

/-- Whether records of a level are written. -/
def writes (level : Level) : Act σ Bool := fun threshold s =>
  ⟨.ok (level.passes threshold), s, []⟩

/-- Writes a diagnostic record, unless it is below the threshold. -/
def log (level : Level) (channel : Channel) (text : String) : Act σ Unit := fun threshold s =>
  ⟨.ok (), s, if level.passes threshold then [.record ⟨level, channel, text⟩] else []⟩

/-- Runs an act and hands over its result instead of failing. -/
def attempt (x : Act σ α) : Act σ (Except Fault α) := fun level s =>
  let outcome := x level s
  ⟨.ok outcome.result, outcome.state, outcome.journal⟩

/-- Runs an act on a state of its own, and returns that state too. -/
def within (t : τ) (x : Act τ α) : Act σ (Except Fault α × τ) := fun level s =>
  let outcome := x level t
  ⟨.ok (outcome.result, outcome.state), s, outcome.journal⟩

/-- Runs an act on a part of the state. -/
def zoom (view : σ → τ) (update : τ → σ → σ) (x : Act τ α) : Act σ α := fun level s =>
  let outcome := x level (view s)
  ⟨outcome.result, update outcome.state s, outcome.journal⟩

theorem pure_def (a : α) : (pure a : Act σ α) = fun _ s => ⟨.ok a, s, []⟩ := rfl

theorem bind_def {α β : Type u} (x : Act σ α) (f : α → Act σ β) : (x >>= f) = Act.bind x f := rfl

/-- What a sequence leaves behind when its first act succeeds. -/
theorem bind_of_ok {α β : Type u} {x : Act σ α} {f : α → Act σ β} {level : Level} {s t : σ} {a : α}
    {journal : List Mark} (h : x level s = ⟨.ok a, t, journal⟩) :
    (x >>= f) level s =
      ⟨(f a level t).result, (f a level t).state, journal ++ (f a level t).journal⟩ := by
  rw [bind_def, Act.bind, h]

/-- What a sequence leaves behind when its first act fails. -/
theorem bind_of_error {α β : Type u} {x : Act σ α} {f : α → Act σ β} {level : Level} {s t : σ}
    {fault : Fault} {journal : List Mark} (h : x level s = ⟨.error fault, t, journal⟩) :
    (x >>= f) level s = ⟨.error fault, t, journal⟩ := by
  rw [bind_def, Act.bind, h]

theorem id_map_eq (x : Act σ α) : id <$> x = x := by
  funext level s
  simp only [Functor.map, Act.bind]
  cases h : x level s with
  | mk result state journal => cases result <;> simp [Act.pure, Function.comp]

theorem pure_bind_eq {α β : Type u} (a : α) (f : α → Act σ β) : (pure a >>= f) = f a := by
  funext level s
  show Act.bind (Act.pure a) f level s = f a level s
  simp [Act.bind, Act.pure]

theorem bind_assoc_eq {α β γ : Type u} (x : Act σ α) (f : α → Act σ β) (g : β → Act σ γ) :
    (x >>= f >>= g) = (x >>= fun a => f a >>= g) := by
  funext level s
  simp only [bind_def, Act.bind]
  cases x level s with
  | mk result state journal =>
    cases result with
    | error fault => rfl
    | ok a =>
      dsimp only
      cases f a level state with
      | mk result state journal => cases result <;> simp [List.append_assoc]

instance : LawfulMonad (Act.{u} σ) :=
  LawfulMonad.mk' (Act.{u} σ) id_map_eq pure_bind_eq bind_assoc_eq

end Act
end AuthRelay
