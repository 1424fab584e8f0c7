import AuthRelay.Proofs.Acts
import AuthRelay.Relay.Stepwise
/-!
# Steps of tasks

What is known of every step of a task. `Task.Keeps` is a property of states that each step
preserves; `Task.Alike` compares two tasks step by step, so that whoever runs one of them with
interruptions cannot tell it from the other, as long as the interruptions are alike too.
-/
namespace AuthRelay.Task

variable {σ τ ν α β : Type}

/-! ## Properties that are kept -/

/-- Every step of a task keeps a property. -/
inductive Keeps (P : σ → Prop) : Task σ α → Prop
  | done (a : α) : Keeps P (.done a)
  | step {β : Type} {act : Act σ β} {next : β → Task σ α} (h : Act.Keeps P act)
      (hnext : ∀ b, Keeps P (next b)) : Keeps P (.step act next)

theorem Keeps.once {P : σ → Prop} {act : Act σ α} (h : Act.Keeps P act) : Keeps P (once act) :=
  .step h fun a => .done a

theorem Keeps.bind {P : σ → Prop} {x : Task σ α} {f : α → Task σ β} (hx : Keeps P x)
    (hf : ∀ a, Keeps P (f a)) : Keeps P (x >>= f) := by
  induction hx with
  | done a => exact hf a
  | step h _ ih => exact .step h ih

theorem Keeps.ite {P : σ → Prop} {c : Prop} [Decidable c] {x y : Task σ α} (hx : Keeps P x)
    (hy : Keeps P y) : Keeps P (if c then x else y) := by
  split
  · exact hx
  · exact hy

/-! ## Tasks that are alike -/

/-- Two tasks whose steps cannot be told apart. -/
inductive Alike (R : σ → τ → Prop) (see : Mark → Option ν) : Task σ α → Task τ α → Prop
  | done (a : α) : Alike R see (.done a) (.done a)
  | step {β : Type} {x : Act σ β} {y : Act τ β} {f : β → Task σ α} {g : β → Task τ α}
      (h : Act.Alike R see x y) (hnext : ∀ b, Alike R see (f b) (g b)) :
      Alike R see (.step x f) (.step y g)

variable {R : σ → τ → Prop} {see : Mark → Option ν}

theorem Alike.once {x : Act σ α} {y : Act τ α} (h : Act.Alike R see x y) :
    Alike R see (once x) (once y) :=
  .step h fun a => .done a

theorem Alike.bind {x : Task σ α} {y : Task τ α} {f : α → Task σ β} {g : α → Task τ β}
    (hx : Alike R see x y) (hf : ∀ a, Alike R see (f a) (g a)) :
    Alike R see (x >>= f) (y >>= g) := by
  induction hx with
  | done a => exact hf a
  | step h _ ih => exact .step h ih

theorem Alike.ite {c : Prop} [Decidable c] {x x' : Task σ α} {y y' : Task τ α}
    (hx : Alike R see x y) (hy : Alike R see x' y') :
    Alike R see (if c then x else x') (if c then y else y') := by
  split
  · exact hx
  · exact hy

end AuthRelay.Task
