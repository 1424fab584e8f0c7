import AuthRelay.Act
/-!
# Runs of acts

Three ways of speaking about every run of an act at once. `Act.Keeps` is a property of states that
the act preserves whether it succeeds or fails. `Act.Looks` says that an act changes nothing, and
comes to the same wherever it sees the same. `Act.Alike` compares two acts: from related states
they come to the same result, leave related states, and make the same entries in the journal as far
as an observer sees them.
-/
namespace AuthRelay.Act

universe u v

variable {σ τ ν : Type} {α β : Type u}

theorem ofExcept_run (x : Except Fault α) (level : Level) (s : σ) :
    ofExcept x level s = ⟨x, s, []⟩ := by
  cases x <;> rfl

/-- Reading the state first changes nothing. -/
theorem get_bind_run {α : Type} (f : σ → Act σ α) (level : Level) (s : σ) :
    (get >>= f) level s = f s level s := rfl

theorem fail_bind (fault : Fault) (f : α → Act σ β) :
    (fail fault >>= f) = (fail fault : Act σ β) := rfl

/-- A sequence begins with the entries of its first act. -/
theorem prefix_journal_bind (x : Act σ α) (f : α → Act σ β) (level : Level) (s : σ) :
    (x level s).journal <+: ((x >>= f) level s).journal := by
  cases ho : x level s with
  | mk result t journal =>
    cases result with
    | error fault => simp only [bind_of_error ho, List.prefix_rfl]
    | ok a => simp only [bind_of_ok ho, List.prefix_append]

/-- A sequence fails with its first act, or after it. -/
theorem bind_eq_error_iff {x : Act σ α} {f : α → Act σ β} {level : Level} {s finish : σ}
    {fault : Fault} {journal : List Mark} :
    (x >>= f) level s = ⟨.error fault, finish, journal⟩ ↔
      x level s = ⟨.error fault, finish, journal⟩ ∨
      ∃ a between before after, x level s = ⟨.ok a, between, before⟩ ∧
        f a level between = ⟨.error fault, finish, after⟩ ∧ journal = before ++ after := by
  cases ho : x level s with
  | mk result between before =>
    cases result with
    | error cause => simp [bind_of_error ho]
    | ok a =>
      rw [bind_of_ok ho]
      cases hf : f a level between with
      | mk result finish' after =>
        constructor
        · rintro ⟨⟩
          exact .inr ⟨a, between, before, after, rfl, hf, rfl⟩
        · rintro (h | ⟨a', between', before', after', h, hafter, rfl⟩)
          · cases h
          · cases h
            rw [hf] at hafter
            cases hafter
            rfl

/-- A sequence succeeds if its first act does, and what follows it. -/
theorem of_bind_ok {x : Act σ α} {f : α → Act σ β} {level : Level} {s finish : σ} {b : β}
    {journal : List Mark} (h : (x >>= f) level s = ⟨.ok b, finish, journal⟩) :
    ∃ a between before after, x level s = ⟨.ok a, between, before⟩ ∧
      f a level between = ⟨.ok b, finish, after⟩ := by
  cases ho : x level s with
  | mk result between before =>
    cases result with
    | error fault =>
      rw [bind_of_error ho] at h
      cases h
    | ok a =>
      rw [bind_of_ok ho] at h
      cases hf : f a level between with
      | mk result finish' after =>
        rw [hf] at h
        cases h
        exact ⟨a, between, before, after, rfl, hf⟩

/-- What is made of a result in the end does not fail. -/
theorem bind_pure_eq_error_iff {x : Act σ α} {g : α → β} {level : Level} {s finish : σ}
    {fault : Fault} {journal : List Mark} :
    (x >>= fun a => Pure.pure (g a)) level s = ⟨.error fault, finish, journal⟩ ↔
      x level s = ⟨.error fault, finish, journal⟩ := by
  rw [bind_eq_error_iff]
  constructor
  · rintro (h | ⟨a, between, before, after, -, hpure, -⟩)
    · exact h
    · cases hpure
  · exact .inl

/-! ## Properties that are kept -/

/-- A property of states that an act preserves, also when it fails. -/
def Keeps (P : σ → Prop) (x : Act σ α) : Prop :=
  ∀ level s, P s → P (x level s).state

theorem Keeps.pure {P : σ → Prop} (a : α) : Keeps P (Pure.pure a : Act σ α) :=
  fun _ _ h => h

theorem Keeps.bind {P : σ → Prop} {x : Act σ α} {f : α → Act σ β} (hx : Keeps P x)
    (hf : ∀ a, Keeps P (f a)) : Keeps P (x >>= f) := by
  intro level s h
  have h' := hx level s h
  cases ho : x level s with
  | mk result t journal =>
    rw [ho] at h'
    cases result with
    | ok a =>
      rw [bind_of_ok ho]
      exact hf a level t h'
    | error fault =>
      rw [bind_of_error ho]
      exact h'

theorem Keeps.ite {P : σ → Prop} {c : Prop} [Decidable c] {x y : Act σ α} (hx : Keeps P x)
    (hy : Keeps P y) : Keeps P (if c then x else y) := by
  split
  · exact hx
  · exact hy

theorem Keeps.fail {P : σ → Prop} (fault : Fault) : Keeps P (Act.fail fault : Act σ α) :=
  fun _ _ h => h

theorem Keeps.ofExcept {P : σ → Prop} (x : Except Fault α) : Keeps P (Act.ofExcept x) := by
  cases x with
  | error fault => exact .fail fault
  | ok a => exact .pure a

theorem Keeps.emit {P : σ → Prop} (e : Event) : Keeps P (Act.emit e) :=
  fun _ _ h => h

theorem Keeps.log {P : σ → Prop} (level : Level) (channel : Channel) (text : String) :
    Keeps P (Act.log level channel text) :=
  fun _ _ h => h

theorem Keeps.modify {P : σ → Prop} {f : σ → σ} (h : ∀ s, P s → P (f s)) :
    Keeps P (Act.modify f) :=
  fun _ s => h s

theorem Keeps.attempt {P : σ → Prop} {x : Act σ α} (hx : Keeps P x) : Keeps P (Act.attempt x) :=
  hx

/-- An act that begins by looking at the state. -/
theorem Keeps.get_bind {α : Type} {P : σ → Prop} {f : σ → Act σ α} (h : ∀ s, Keeps P (f s)) :
    Keeps P (Act.get >>= f) :=
  fun level s => h s level s

/-! ## Acts that only look -/

/-- An act that leaves every state as it is, and whose result depends on nothing but what is to be
seen of the state. What it records may depend on the threshold too. -/
structure Looks (view : σ → ν) (x : Act σ α) : Prop where
  state : ∀ level s, (x level s).state = s
  result : ∀ level level' s s', view s = view s' → (x level s).result = (x level' s').result

theorem Looks.ofExcept {view : σ → ν} (x : Except Fault α) : Looks view (Act.ofExcept x) := by
  constructor
  · intro level s
    rw [ofExcept_run]
  · intro level level' s s' _
    rw [ofExcept_run, ofExcept_run]

theorem Looks.pure {view : σ → ν} (a : α) : Looks view (Pure.pure a : Act σ α) :=
  .ofExcept (.ok a)

theorem Looks.fail {view : σ → ν} (fault : Fault) : Looks view (Act.fail fault : Act σ α) :=
  .ofExcept (.error fault)

theorem Looks.log {view : σ → ν} (level : Level) (channel : Channel) (text : String) :
    Looks view (Act.log level channel text) :=
  ⟨fun _ _ => rfl, fun _ _ _ _ _ => rfl⟩

/-- What follows looks at the state that was there from the beginning. -/
theorem Looks.bind {view : σ → ν} {x : Act σ α} {f : α → Act σ β} (hx : Looks view x)
    (hf : ∀ a, Looks view (f a)) : Looks view (x >>= f) := by
  constructor
  · intro level s
    have hs := hx.state level s
    cases ho : x level s with
    | mk result t journal =>
      rw [ho] at hs
      cases hs
      cases result with
      | error fault => rw [bind_of_error ho]
      | ok a =>
        rw [bind_of_ok ho]
        exact (hf a).state level t
  · intro level level' s s' hview
    have hr := hx.result level level' s s' hview
    have hs := hx.state level s
    have hs' := hx.state level' s'
    cases ho : x level s with
    | mk result t journal =>
      cases ho' : x level' s' with
      | mk result' t' journal' =>
        rw [ho, ho'] at hr
        rw [ho] at hs
        rw [ho'] at hs'
        cases hr
        cases hs
        cases hs'
        cases result with
        | error fault => rw [bind_of_error ho, bind_of_error ho']
        | ok a =>
          rw [bind_of_ok ho, bind_of_ok ho']
          exact (hf a).result level level' t t' hview

/-- What comes after a look starts from the same state. -/
theorem Looks.bind_result {view : σ → ν} {x : Act σ α} (hx : Looks view x) (f : α → Act σ β)
    (level : Level) (s : σ) :
    ((x >>= f) level s).result = (x level s).result.bind fun a => (f a level s).result := by
  have hs := hx.state level s
  cases ho : x level s with
  | mk result t journal =>
    rw [ho] at hs
    cases hs
    cases result with
    | error fault => rw [bind_of_error ho]; rfl
    | ok a => rw [bind_of_ok ho]; rfl

/-- Whatever holds of a state still holds after a look at it. -/
theorem Looks.keeps {view : σ → ν} {x : Act σ α} (h : Looks view x) (P : σ → Prop) : Keeps P x := by
  intro level s hs
  rw [h.state]
  exact hs

theorem Looks.ite {view : σ → ν} {c : Prop} [Decidable c] {x y : Act σ α} (hx : Looks view x)
    (hy : Looks view y) : Looks view (if c then x else y) := by
  split
  · exact hx
  · exact hy

/-- An act that begins by looking at the whole state. -/
theorem Looks.get_bind {α : Type} {f : σ → Act σ α} (h : ∀ s, Looks id (f s)) :
    Looks id (Act.get >>= f) := by
  constructor
  · exact fun level s => (h s).state level s
  · rintro level level' s _ rfl
    exact (h s).result level level' s s rfl

/-- An act on a part of the state looks at that part. -/
theorem Looks.zoom {view : σ → τ} {update : τ → σ → σ} (hupdate : ∀ s, update (view s) s = s)
    {x : Act τ α} (hx : Looks id x) : Looks view (Act.zoom view update x) := by
  constructor
  · intro level s
    show update (x level (view s)).state s = s
    rw [hx.state, hupdate]
  · intro level level' s s' hview
    exact hx.result level level' (view s) (view s') hview

/-! ## Acts that are alike -/

/-- Two acts that cannot be told apart, from two given states, by their results and by the entries
of the journal that an observer sees. They leave related states. -/
structure AlikeAt (R : σ → τ → Prop) (see : Mark → Option ν) (x : Act σ α) (y : Act τ α)
    (level : Level) (s : σ) (t : τ) : Prop where
  result : (x level s).result = (y level t).result
  state : R (x level s).state (y level t).state
  journal : (x level s).journal.filterMap see = (y level t).journal.filterMap see

theorem alikeAt_iff {R : σ → τ → Prop} {see : Mark → Option ν} {x : Act σ α} {y : Act τ α}
    {level : Level} {s : σ} {t : τ} : AlikeAt R see x y level s t ↔
      (x level s).result = (y level t).result ∧ R (x level s).state (y level t).state ∧
        (x level s).journal.filterMap see = (y level t).journal.filterMap see :=
  ⟨fun h => ⟨h.result, h.state, h.journal⟩, fun h => ⟨h.1, h.2.1, h.2.2⟩⟩

/-- Two acts that cannot be told apart from any two related states. -/
def Alike (R : σ → τ → Prop) (see : Mark → Option ν) (x : Act σ α) (y : Act τ α) : Prop :=
  ∀ level s t, R s t → AlikeAt R see x y level s t

theorem Alike.pure {R : σ → τ → Prop} {see : Mark → Option ν} (a : α) :
    Alike R see (Pure.pure a : Act σ α) (Pure.pure a : Act τ α) :=
  fun _ _ _ h => ⟨rfl, h, rfl⟩

theorem map_run {α β : Type u} (h : α → β) (y : Act τ α) (level : Level) (t : τ) :
    (h <$> y) level t = ⟨(y level t).result.map h, (y level t).state, (y level t).journal⟩ := by
  rw [map_eq_pure_bind]
  cases ho : y level t with
  | mk result t' journal =>
    cases result with
    | error fault => rw [bind_of_error ho]; rfl
    | ok a => rw [bind_of_ok ho]; simp [Act.pure_def, Except.map]

/-- A sequence goes on in the same way if what it goes on from corresponds. -/
theorem AlikeAt.bind_map_of_result {γ : Type u} {R : σ → τ → Prop} {see : Mark → Option ν}
    {x : Act σ γ} {y : Act τ α} {h : α → γ} {f : γ → Act σ β} {g : α → Act τ β} {level : Level}
    {s : σ} {t : τ} (hx : AlikeAt R see x (h <$> y) level s t)
    (hf : ∀ a, (y level t).result = .ok a → Alike R see (f (h a)) (g a)) :
    AlikeAt R see (x >>= f) (y >>= g) level s t := by
  obtain ⟨hresult, hstate, hjournal⟩ := hx
  rw [map_run] at hresult hstate hjournal
  cases ho : x level s with
  | mk result s' journal =>
    cases ho' : y level t with
    | mk result' t' journal' =>
      rw [ho, ho'] at hresult hstate hjournal
      rw [ho'] at hf
      dsimp only at hresult hstate hjournal hf
      subst hresult
      cases result' with
      | error fault =>
        rw [alikeAt_iff, bind_of_error ho, bind_of_error ho']
        exact ⟨rfl, hstate, hjournal⟩
      | ok a =>
        obtain ⟨hr, hs, hj⟩ := hf a rfl level s' t' hstate
        rw [alikeAt_iff, bind_of_ok ho, bind_of_ok ho']
        refine ⟨hr, hs, ?_⟩
        simp only [List.filterMap_append, hjournal, hj]

theorem AlikeAt.bind_map {γ : Type u} {R : σ → τ → Prop} {see : Mark → Option ν} {x : Act σ γ}
    {y : Act τ α} {h : α → γ} {f : γ → Act σ β} {g : α → Act τ β} {level : Level} {s : σ} {t : τ}
    (hx : AlikeAt R see x (h <$> y) level s t) (hf : ∀ a, Alike R see (f (h a)) (g a)) :
    AlikeAt R see (x >>= f) (y >>= g) level s t :=
  hx.bind_map_of_result fun a _ => hf a

/-- It has to go on in the same way from the result that is come to, and from no other. -/
theorem AlikeAt.bind_of_result {R : σ → τ → Prop} {see : Mark → Option ν} {x : Act σ α}
    {y : Act τ α} {f : α → Act σ β} {g : α → Act τ β} {level : Level} {s : σ} {t : τ}
    (hx : AlikeAt R see x y level s t)
    (hf : ∀ a, (y level t).result = .ok a → Alike R see (f a) (g a)) :
    AlikeAt R see (x >>= f) (y >>= g) level s t := by
  rw [← id_map y] at hx
  exact hx.bind_map_of_result hf

theorem AlikeAt.bind {R : σ → τ → Prop} {see : Mark → Option ν} {x : Act σ α} {y : Act τ α}
    {f : α → Act σ β} {g : α → Act τ β} {level : Level} {s : σ} {t : τ}
    (hx : AlikeAt R see x y level s t) (hf : ∀ a, Alike R see (f a) (g a)) :
    AlikeAt R see (x >>= f) (y >>= g) level s t :=
  hx.bind_of_result fun a _ => hf a

theorem Alike.bind {R : σ → τ → Prop} {see : Mark → Option ν} {x : Act σ α} {y : Act τ α}
    {f : α → Act σ β} {g : α → Act τ β} (hx : Alike R see x y)
    (hf : ∀ a, Alike R see (f a) (g a)) : Alike R see (x >>= f) (y >>= g) :=
  fun level s t h => (hx level s t h).bind hf

theorem Alike.ite {R : σ → τ → Prop} {see : Mark → Option ν} {c : Prop} [Decidable c]
    {x x' : Act σ α} {y y' : Act τ α} (hx : Alike R see x y) (hy : Alike R see x' y') :
    Alike R see (if c then x else x') (if c then y else y') := by
  split
  · exact hx
  · exact hy

theorem Alike.bind_map {γ : Type u} {R : σ → τ → Prop} {see : Mark → Option ν} {x : Act σ γ}
    {y : Act τ α} {h : α → γ} {f : γ → Act σ β} {g : α → Act τ β} (hx : Alike R see x (h <$> y))
    (hf : ∀ a, Alike R see (f (h a)) (g a)) : Alike R see (x >>= f) (y >>= g) :=
  fun level s t hst => (hx level s t hst).bind_map hf

theorem Alike.map {R : σ → τ → Prop} {see : Mark → Option ν} {x : Act σ α} {y : Act τ α}
    (hx : Alike R see x y) (h : α → β) : Alike R see (h <$> x) (h <$> y) := by
  rw [map_eq_pure_bind, map_eq_pure_bind]
  exact hx.bind fun _ => .pure _

theorem Alike.ofExcept {R : σ → τ → Prop} {see : Mark → Option ν} (x : Except Fault α) :
    Alike R see (Act.ofExcept x : Act σ α) (Act.ofExcept x : Act τ α) := by
  intro level s t h
  rw [alikeAt_iff, ofExcept_run, ofExcept_run]
  exact ⟨rfl, h, rfl⟩

theorem Alike.fail {R : σ → τ → Prop} {see : Mark → Option ν} (fault : Fault) :
    Alike R see (Act.fail fault : Act σ α) (Act.fail fault : Act τ α) :=
  .ofExcept (.error fault)

theorem Alike.emit {R : σ → τ → Prop} {see : Mark → Option ν} (e : Event) :
    Alike R see (Act.emit e : Act σ Unit) (Act.emit e : Act τ Unit) :=
  fun _ _ _ h => ⟨rfl, h, rfl⟩

theorem Alike.log {R : σ → τ → Prop} {see : Mark → Option ν} (grade : Level) (channel : Channel)
    (text : String) :
    Alike R see (Act.log grade channel text : Act σ Unit) (Act.log grade channel text) :=
  fun _ _ _ h => ⟨rfl, h, rfl⟩

theorem Alike.modify {R : σ → τ → Prop} {see : Mark → Option ν} {f : σ → σ} {g : τ → τ}
    (h : ∀ s t, R s t → R (f s) (g t)) :
    Alike R see (Act.modify f : Act σ Unit) (Act.modify g : Act τ Unit) :=
  fun _ s t hst => ⟨rfl, h s t hst, rfl⟩

/-- Acts that begin by looking at the state. -/
theorem Alike.get_bind {α : Type} {R : σ → τ → Prop} {see : Mark → Option ν} {f : σ → Act σ α}
    {g : τ → Act τ α} (h : ∀ s t, R s t → Alike R see (f s) (g t)) :
    Alike R see (Act.get >>= f) (Act.get >>= g) := by
  intro level s t hst
  rw [alikeAt_iff, get_bind_run, get_bind_run]
  exact alikeAt_iff.mp (h s t hst level s t hst)

end AuthRelay.Act
