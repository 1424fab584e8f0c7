import AuthRelay.Proofs.Gathering
import Mathlib.Data.List.Forall2
/-!
# Acts in step

Two acts are in step if from related states they come to related results or to the same failure,
leave related states, and write the same records. The events of the two may be different. What two
runs do with a secret that differs between them can be followed in this way: the secrets are
related, and whatever is recorded or fails is the same.
-/
namespace AuthRelay

universe u v

/-- Both have failed in the same way, or both have succeeded with related results. -/
inductive Corresponds {ε : Type} {α : Type u} {β : Type v} (S : α → β → Prop) :
    Except ε α → Except ε β → Prop
  | ok {a : α} {b : β} (h : S a b) : Corresponds S (.ok a) (.ok b)
  | error (fault : ε) : Corresponds S (.error fault) (.error fault)

namespace Corresponds

variable {ε δ : Type} {α α' : Type u} {β β' : Type v} {S : α → β → Prop} {S' : α' → β' → Prop}
  {x : Except ε α} {y : Except ε β}

theorem of_eq {x y : Except ε α} (h : x = y) : Corresponds Eq x y := by
  subst h
  cases x with
  | ok a => exact .ok rfl
  | error fault => exact .error fault

theorem eq {x y : Except ε α} (h : Corresponds Eq x y) : x = y := by
  cases h with
  | ok h => rw [h]
  | error fault => rfl

theorem mono (h : Corresponds S x y) {T : α → β → Prop} (hT : ∀ a b, S a b → T a b) :
    Corresponds T x y := by
  cases h with
  | ok h => exact .ok (hT _ _ h)
  | error fault => exact .error fault

theorem mapError (h : Corresponds S x y) (f : ε → δ) :
    Corresponds S (x.mapError f) (y.mapError f) := by
  cases h with
  | ok h => exact .ok h
  | error fault => exact .error (f fault)

end Corresponds

namespace Act

variable {σ τ σ' τ' : Type} {α α' : Type u} {β β' : Type u}

/-- Two runs in step. -/
structure InStepAt (R : σ → τ → Prop) (S : α → β → Prop) (x : Act σ α) (y : Act τ β)
    (level : Level) (s : σ) (t : τ) : Prop where
  result : Corresponds S (x level s).result (y level t).result
  state : R (x level s).state (y level t).state
  records : recordsOf (x level s).journal = recordsOf (y level t).journal

/-- Two acts that are in step from any two related states. -/
def InStep (R : σ → τ → Prop) (S : α → β → Prop) (x : Act σ α) (y : Act τ β) : Prop :=
  ∀ level s t, R s t → InStepAt R S x y level s t

section

variable {R : σ → τ → Prop} {S : α → β → Prop} {S' : α' → β' → Prop} {x : Act σ α} {y : Act τ β}

/-- Two runs whose outcomes are known. -/
theorem InStepAt.of_runs {level : Level} {s s' : σ} {t t' : τ} {r : Except Fault α}
    {r' : Except Fault β} {j j' : List Mark} (hx : x level s = ⟨r, s', j⟩)
    (hy : y level t = ⟨r', t', j'⟩) (hresult : Corresponds S r r') (hstate : R s' t')
    (hrecords : recordsOf j = recordsOf j') : InStepAt R S x y level s t := by
  constructor
  · rwa [hx, hy]
  · rwa [hx, hy]
  · rwa [hx, hy]

theorem inStepAt_iff {level : Level} {s : σ} {t : τ} : InStepAt R S x y level s t ↔
    Corresponds S (x level s).result (y level t).result ∧ R (x level s).state (y level t).state ∧
      recordsOf (x level s).journal = recordsOf (y level t).journal :=
  ⟨fun h => ⟨h.result, h.state, h.records⟩, fun h => ⟨h.1, h.2.1, h.2.2⟩⟩

/-- The relation between the states that are left may be weakened, and that between the results. -/
theorem InStepAt.mono {R' : σ → τ → Prop} {T : α → β → Prop} {level : Level} {s : σ} {t : τ}
    (h : InStepAt R S x y level s t) (hR : ∀ s t, R s t → R' s t) (hS : ∀ a b, S a b → T a b) :
    InStepAt R' T x y level s t :=
  ⟨h.result.mono hS, hR _ _ h.state, h.records⟩

theorem InStep.ofExcept {r : Except Fault α} {r' : Except Fault β} (h : Corresponds S r r') :
    InStep R S (Act.ofExcept r) (Act.ofExcept r') :=
  fun level s t hst => .of_runs (ofExcept_run r level s) (ofExcept_run r' level t) h hst rfl

theorem InStep.pure {a : α} {b : β} (h : S a b) :
    InStep R S (Pure.pure a : Act σ α) (Pure.pure b : Act τ β) :=
  .ofExcept (.ok h)

theorem InStep.fail (fault : Fault) :
    InStep R S (Act.fail fault : Act σ α) (Act.fail fault : Act τ β) :=
  .ofExcept (.error fault)

/-- Events are not compared. -/
theorem InStep.emit (e e' : Event) :
    InStep R Eq (Act.emit e : Act σ Unit) (Act.emit e' : Act τ Unit) :=
  fun _ _ _ hst => ⟨.ok rfl, hst, rfl⟩

theorem InStep.log (level : Level) (channel : Channel) (text : String) :
    InStep R Eq (Act.log level channel text : Act σ Unit) (Act.log level channel text) :=
  fun _ _ _ hst => ⟨.ok rfl, hst, rfl⟩

theorem InStep.modify {f : σ → σ} {g : τ → τ} (h : ∀ s t, R s t → R (f s) (g t)) :
    InStep R Eq (Act.modify f) (Act.modify g) :=
  fun _ s t hst => ⟨.ok rfl, h s t hst, rfl⟩

/-- Two sequences are in step if they go on in step from what their first acts leave. -/
theorem InStepAt.bind {level : Level} {s : σ} {t : τ} {f : α → Act σ α'} {g : β → Act τ β'}
    (hx : InStepAt R S x y level s t)
    (hf : ∀ a b s' t' j j', x level s = ⟨.ok a, s', j⟩ → y level t = ⟨.ok b, t', j'⟩ → S a b →
      R s' t' → InStepAt R S' (f a) (g b) level s' t') :
    InStepAt R S' (x >>= f) (y >>= g) level s t := by
  obtain ⟨hresult, hstate, hrecords⟩ := hx
  cases ho : x level s with
  | mk r s' j =>
    cases ho' : y level t with
    | mk r' t' j' =>
      rw [ho, ho'] at hresult hstate hrecords
      cases hresult with
      | error fault =>
        exact .of_runs (bind_of_error ho) (bind_of_error ho') (.error fault) hstate hrecords
      | ok h =>
        obtain ⟨hresult, hstate, hlater⟩ := hf _ _ s' t' j j' ho ho' h hstate
        refine .of_runs (bind_of_ok ho) (bind_of_ok ho') hresult hstate ?_
        rw [recordsOf_append, recordsOf_append, hlater]
        exact congrArg (· ++ _) hrecords

/-- What follows may be in step from any two states. -/
theorem InStepAt.bind_inStep {level : Level} {s : σ} {t : τ} {f : α → Act σ α'} {g : β → Act τ β'}
    (hx : InStepAt R S x y level s t) (hf : ∀ a b, S a b → InStep R S' (f a) (g b)) :
    InStepAt R S' (x >>= f) (y >>= g) level s t :=
  hx.bind fun a b s' t' _ _ _ _ hab hst' => hf a b hab level s' t' hst'

/-- The results are handed over, whatever they are. -/
theorem InStepAt.attempt {level : Level} {s : σ} {t : τ} (hx : InStepAt R S x y level s t) :
    InStepAt R (Corresponds S) (Act.attempt x) (Act.attempt y) level s t :=
  ⟨.ok hx.result, hx.state, hx.records⟩

theorem InStep.bind {f : α → Act σ α'} {g : β → Act τ β'} (hx : InStep R S x y)
    (hf : ∀ a b, S a b → InStep R S' (f a) (g b)) : InStep R S' (x >>= f) (y >>= g) :=
  fun level s t hst => (hx level s t hst).bind_inStep hf

/-- Where the first results are the same, only one of them has to be followed. -/
theorem InStep.bind_eq {x : Act σ α} {y : Act τ α} {f : α → Act σ α'} {g : α → Act τ β'}
    (hx : InStep R Eq x y) (hf : ∀ a, InStep R S' (f a) (g a)) :
    InStep R S' (x >>= f) (y >>= g) :=
  hx.bind fun a _ hab => hab ▸ hf a

theorem InStep.map {f : α → α'} {g : β → β'} (hx : InStep R S x y)
    (h : ∀ a b, S a b → S' (f a) (g b)) : InStep R S' (f <$> x) (g <$> y) := by
  rw [map_eq_pure_bind, map_eq_pure_bind]
  exact hx.bind fun a b hab => .pure (h a b hab)

theorem InStep.ite {c c' : Prop} [Decidable c] [Decidable c'] {x₁ x₂ : Act σ α} {y₁ y₂ : Act τ β}
    (hc : c ↔ c') (h₁ : InStep R S x₁ y₁) (h₂ : InStep R S x₂ y₂) :
    InStep R S (if c then x₁ else x₂) (if c' then y₁ else y₂) := by
  by_cases h : c
  · rw [if_pos h, if_pos (hc.mp h)]
    exact h₁
  · rw [if_neg h, if_neg (mt hc.mpr h)]
    exact h₂

/-- Acts that begin by looking at the state. -/
theorem InStepAt.get_bind {α β : Type} {S : α → β → Prop} {f : σ → Act σ α} {g : τ → Act τ β}
    {level : Level} {s : σ} {t : τ} (h : InStepAt R S (f s) (g t) level s t) :
    InStepAt R S (Act.get >>= f) (Act.get >>= g) level s t := by
  obtain ⟨hresult, hstate, hrecords⟩ := h
  exact ⟨hresult, hstate, hrecords⟩

theorem InStep.get_bind {α β : Type} {S : α → β → Prop} {f : σ → Act σ α} {g : τ → Act τ β}
    (h : ∀ s t, R s t → InStep R S (f s) (g t)) :
    InStep R S (Act.get >>= f) (Act.get >>= g) :=
  fun level s t hst => .get_bind (h s t hst level s t hst)

/-- Acts on a part of the state. -/
theorem InStepAt.zoom {T : σ' → τ' → Prop} {view : σ → σ'} {update : σ' → σ → σ} {view' : τ → τ'}
    {update' : τ' → τ → τ} {x : Act σ' α} {y : Act τ' β} {level : Level} {s : σ} {t : τ}
    (hupdate : ∀ s' t', T s' t' → R (update s' s) (update' t' t))
    (hx : InStepAt T S x y level (view s) (view' t)) :
    InStepAt R S (Act.zoom view update x) (Act.zoom view' update' y) level s t := by
  obtain ⟨hresult, hstate, hrecords⟩ := hx
  exact ⟨hresult, hupdate _ _ hstate, hrecords⟩

theorem InStep.zoom {T : σ' → τ' → Prop} {view : σ → σ'} {update : σ' → σ → σ} {view' : τ → τ'}
    {update' : τ' → τ → τ} {x : Act σ' α} {y : Act τ' β}
    (hview : ∀ s t, R s t → T (view s) (view' t))
    (hupdate : ∀ s t s' t', R s t → T s' t' → R (update s' s) (update' t' t))
    (hx : InStep T S x y) : InStep R S (Act.zoom view update x) (Act.zoom view' update' y) :=
  fun level s t hst => .zoom (fun s' t' => hupdate s t s' t' hst)
    (hx level (view s) (view' t) (hview s t hst))

/-- An act on a state of its own comes to the same in both runs. -/
theorem InStep.within {α ρ : Type} (r : ρ) (x : Act ρ α) :
    InStep R Eq (Act.within r x) (Act.within r x) :=
  fun _ _ _ hst => ⟨.ok rfl, hst, rfl⟩

end

end Act

/-! ## Gathering -/

section

variable {σ τ : Type} {R : σ → τ → Prop} {S : CredentialSet → CredentialSet → Prop}

/-- Candidates that are related one by one. -/
structure Candidates.Related (S : CredentialSet → CredentialSet → Prop) (c c' : Candidates) :
    Prop where
  first : S c.first c'.first
  rest : List.Forall₂ S c.rest c'.rest

theorem Candidates.Related.toList {c c' : Candidates} (h : c.Related S c') :
    List.Forall₂ S c.toList c'.toList :=
  .cons h.first h.rest

/-- Two suppliers of one name that answer the same queries in step. -/
structure Supplier.InStep (R : σ → τ → Prop) (S : CredentialSet → CredentialSet → Prop)
    (s : Supplier σ) (s' : Supplier τ) : Prop where
  name : s.name = s'.name
  one : Option.Rel (Act.InStep R S) s.one? s'.one?
  all : Option.Rel (Act.InStep R (List.Forall₂ S)) s.all? s'.all?

theorem Supplier.InStep.deliver {s : Supplier σ} {s' : Supplier τ} (h : s.InStep R S s') :
    Act.InStep R (List.Forall₂ S) s.deliver s'.deliver := by
  obtain ⟨name, one?, all?⟩ := s
  obtain ⟨name', one?', all?'⟩ := s'
  obtain ⟨hname, hone, hall⟩ := h
  cases hname
  cases hall with
  | some hall => exact hall
  | none =>
    cases hone with
    | some hone => exact hone.bind fun _ _ hset => .pure (.cons hset .nil)
    | none => exact .fail _

theorem Supplier.deliverAll_inStep {suppliers : List (Supplier σ)} {suppliers' : List (Supplier τ)}
    (h : List.Forall₂ (Supplier.InStep R S) suppliers suppliers') :
    Act.InStep R (List.Forall₂ S) (deliverAll suppliers) (deliverAll suppliers') := by
  induction h with
  | nil => exact .pure .nil
  | cons h _ ih =>
    exact h.deliver.bind fun _ _ hhere => ih.bind fun _ _ hothers =>
      .pure (List.rel_append hhere hothers)

theorem Supplier.getD_inStep {α β : Type} {T : α → β → Prop} {x : Option (Act σ α)}
    {y : Option (Act τ β)} (h : Option.Rel (Act.InStep R T) x y) (fault : Fault) :
    Act.InStep R T (x.getD (Act.fail fault)) (y.getD (Act.fail fault)) := by
  cases h with
  | some h => exact h
  | none => exact .fail fault

namespace Source

/-- Two sources that are both leaves or both chains, with suppliers in step from left to right. They
may be nested in different ways. -/
inductive InStep (R : σ → τ → Prop) (S : CredentialSet → CredentialSet → Prop) :
    Source (Supplier σ) → Source (Supplier τ) → Prop
  | leaf {s : Supplier σ} {s' : Supplier τ} (h : s.InStep R S s') : InStep R S (.leaf s) (.leaf s')
  | chain {members : List (Source (Supplier σ))} {members' : List (Source (Supplier τ))}
      (h : List.Forall₂ (Supplier.InStep R S) (leavesOfAll members) (leavesOfAll members')) :
    InStep R S (.chain members) (.chain members')

variable {source : Source (Supplier σ)} {source' : Source (Supplier τ)}

theorem InStep.leaves (h : source.InStep R S source') :
    List.Forall₂ (Supplier.InStep R S) source.leaves source'.leaves := by
  cases h with
  | leaf h => exact .cons h .nil
  | chain h => exact h

theorem InStep.gather (h : source.InStep R S source') :
    Act.InStep R (Candidates.Related S) source.gather source'.gather := by
  have hname : source.name = source'.name := by
    cases h with
    | leaf h => exact h.name
    | chain h => rfl
  rw [gather_eq, gather_eq, hname]
  refine (Supplier.deliverAll_inStep h.leaves).bind fun _ _ hsets => ?_
  cases hsets with
  | nil => exact .fail _
  | cons hfirst hrest => exact .pure ⟨hfirst, hrest⟩

theorem InStep.one (h : source.InStep R S source') : Act.InStep R S source.one source'.one := by
  cases h with
  | chain h => exact .fail _
  | leaf h =>
    simp only [Source.one, h.name]
    exact Supplier.getD_inStep h.one _

theorem InStep.all (h : source.InStep R S source') :
    Act.InStep R (List.Forall₂ S) source.all source'.all := by
  cases h with
  | chain h =>
    rw [Source.all, Source.all, collectAll_eq, collectAll_eq]
    exact Supplier.deliverAll_inStep h
  | leaf h =>
    simp only [Source.all, h.name]
    exact Supplier.getD_inStep h.all _

end Source

end

end AuthRelay
