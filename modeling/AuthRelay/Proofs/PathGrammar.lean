import AuthRelay.Credential.Resolver
/-!
# What a path text comes to

The rules of a path text, told without the loops that follow them: how a reference to a variable is
written, what a text says once the variables are put in, and what a tilde at the start stands for.
The variables come first. So a tilde can come out of a variable, and what a home directory puts in
is not looked through for variables.
-/
namespace AuthRelay.PathText

/-! ## Variables -/

/-- Behind a dollar sign `written` refers to the variable of that name if `rest` follows. It is
either the name, which goes as far as letters, digits and underscores do, or any name without a
closing brace between braces. -/
inductive Refers : (written name rest : List Char) → Prop
  | bare {name rest : List Char} (hname : name ≠ [])
      (hchars : ∀ c ∈ name, isNameChar c = true)
      (hrest : ∀ c ∈ rest.head?, isNameChar c = false) : Refers name name rest
  | braced {name rest : List Char} (hname : '\x7d' ∉ name) :
      Refers ('\x7b' :: (name ++ ['\x7d'])) name rest

section

variable {environment : Environment} {written name rest s t : List Char}

theorem takeWhile_not_brace (hname : '\x7d' ∉ name) :
    (name ++ '\x7d' :: rest).takeWhile (· != '\x7d') = name := by
  refine Text.takeWhile_stretch (fun c hc => bne_iff_ne.mpr ?_) (by simp)
  rintro rfl
  exact hname hc

theorem Refers.reference?_eq (h : Refers written name rest) :
    reference? (written ++ rest) = some (name, written.length) := by
  cases h with
  | bare hname hchars hrest =>
    obtain ⟨c, tail, rfl⟩ := List.exists_cons_of_ne_nil hname
    have hc := hchars c List.mem_cons_self
    unfold reference?
    split
    next hbrace =>
      obtain ⟨rfl, -⟩ := List.cons_eq_cons.mp hbrace
      exact absurd hc (by decide)
    next =>
      dsimp only
      rw [Text.takeWhile_stretch hchars hrest, if_neg hname]
  | braced hname => simp [reference?, takeWhile_not_brace hname]

theorem exists_refers {width : Nat} (h : reference? s = some (name, width)) :
    ∃ written rest, s = written ++ rest ∧ written.length = width ∧ Refers written name rest := by
  unfold reference? at h
  split at h
  next tail =>
    split at h
    next hmem =>
      obtain ⟨before, after, rfl, hbefore⟩ := List.eq_append_cons_of_mem hmem
      dsimp only at h
      rw [takeWhile_not_brace hbefore] at h
      cases h
      exact ⟨_, after, by simp, by simp, .braced hbefore⟩
    next => cases h
  next =>
    dsimp only at h
    split at h
    next => cases h
    next hne =>
      cases h
      obtain ⟨name, tail, rfl, hchars, htail⟩ := Text.exists_stretch isNameChar s
      rw [Text.takeWhile_stretch hchars htail] at hne ⊢
      exact ⟨name, tail, rfl, rfl, .bare hne hchars htail⟩

/-- A text says another once the variables are put in. A reference to a variable that is not bound
stands for itself, as does a dollar sign that begins no reference. -/
inductive Expands (environment : Environment) : List Char → List Char → Prop
  | nil : Expands environment [] []
  | char {c : Char} {s t : List Char} (hc : c ≠ '$') (h : Expands environment s t) :
      Expands environment (c :: s) (c :: t)
  | dollar {s t : List Char}
      (hs : ∀ written name rest, s = written ++ rest → ¬Refers written name rest)
      (h : Expands environment s t) : Expands environment ('$' :: s) ('$' :: t)
  | bound {written name rest t : List Char} {value : String} (href : Refers written name rest)
      (hvalue : environment.find? (String.ofList name) = some value)
      (h : Expands environment rest t) :
      Expands environment ('$' :: (written ++ rest)) (value.toList ++ t)
  | unbound {written name rest t : List Char} (href : Refers written name rest)
      (hvalue : environment.find? (String.ofList name) = none)
      (h : Expands environment rest t) :
      Expands environment ('$' :: (written ++ rest)) ('$' :: (written ++ t))

theorem expandVariablesFrom_length (environment : Environment) (s rest : List Char) :
    expandVariablesFrom environment s.length (s ++ rest) =
      expandVariablesFrom environment 0 rest := by
  induction s with
  | nil => rfl
  | cons c s ih => exact ih

theorem expandVariablesFrom_reference (href : Refers written name rest) :
    expandVariablesFrom environment 0 ('$' :: (written ++ rest)) =
      (environment.find? (String.ofList name)).elim ('$' :: written) String.toList ++
        expandVariablesFrom environment 0 rest := by
  rw [expandVariablesFrom, if_pos rfl, href.reference?_eq]
  dsimp only
  rw [expandVariablesFrom_length, List.take_left]
  cases environment.find? (String.ofList name) <;> rfl

theorem expandVariablesFrom_dollar (h : reference? s = none) :
    expandVariablesFrom environment 0 ('$' :: s) =
      '$' :: expandVariablesFrom environment 0 s := by
  rw [expandVariablesFrom, if_pos rfl, h]

theorem Expands.eq (h : Expands environment s t) : expandVariablesFrom environment 0 s = t := by
  induction h with
  | nil => rfl
  | char hc _ ih => rw [expandVariablesFrom, if_neg hc, ih]
  | dollar hs _ ih =>
    rw [expandVariablesFrom_dollar, ih]
    refine Option.eq_none_iff_forall_ne_some.mpr fun ⟨name, width⟩ hsome => ?_
    obtain ⟨written, rest, heq, -, href⟩ := exists_refers hsome
    exact hs written name rest heq href
  | bound href hvalue _ ih =>
    rw [expandVariablesFrom_reference href, hvalue, ih]
    rfl
  | unbound href hvalue _ ih =>
    rw [expandVariablesFrom_reference href, hvalue, ih]
    rfl

-- A reference is read as a whole, so the induction is on the length and not on the list.
theorem expands_expandVariablesFrom (environment : Environment) (s : List Char) :
    Expands environment s (expandVariablesFrom environment 0 s) := by
  match s with
  | [] => exact .nil
  | c :: tail =>
    by_cases hc : c = '$'
    · subst hc
      cases href : reference? tail with
      | none =>
        rw [expandVariablesFrom_dollar href]
        refine .dollar (fun written name rest heq hrefers => ?_)
          (expands_expandVariablesFrom environment tail)
        rw [heq, hrefers.reference?_eq] at href
        cases href
      | some found =>
        obtain ⟨name, width⟩ := found
        obtain ⟨written, rest, rfl, -, hrefers⟩ := exists_refers href
        have hrest := expands_expandVariablesFrom environment rest
        rw [expandVariablesFrom_reference hrefers]
        cases hvalue : environment.find? (String.ofList name) with
        | some value => exact .bound hrefers hvalue hrest
        | none => exact .unbound hrefers hvalue hrest
    · rw [expandVariablesFrom, if_neg hc]
      exact .char hc (expands_expandVariablesFrom environment tail)
termination_by s.length

theorem expands_iff : Expands environment s t ↔ expandVariablesFrom environment 0 s = t :=
  ⟨Expands.eq, fun h => h ▸ expands_expandVariablesFrom environment s⟩

end

/-! ## Home directories -/

/-- The home directory of an account. An empty name is that of the user, whose home the variable
`HOME` tells before the account does. -/
inductive IsHome (machine : Machine) : (account home : String) → Prop
  | told {home : String} (hvalue : machine.environment.find? "HOME" = some home) :
      IsHome machine "" home
  | own {home : String} (hunbound : machine.environment.find? "HOME" = none)
      (hhome : machine.homes.find? "" = some home) : IsHome machine "" home
  | account {account home : String} (hname : account ≠ "")
      (hhome : machine.homes.find? account = some home) : IsHome machine account home

/-- A text, and what is left of it without the slashes at its end. -/
def Unslashed (s kept : List Char) : Prop :=
  (∃ slashes, s = kept ++ slashes ∧ ∀ c ∈ slashes, c = '/') ∧ ∀ c ∈ kept.getLast?, c ≠ '/'

/-- A text says another once a tilde at its start, with the account's name that goes on to the next
slash, has made way for a home directory. One of an account without a home stays. -/
inductive HomeExpands (machine : Machine) : List Char → List Char → Prop
  | plain {s : List Char} (hs : ∀ c ∈ s.head?, c ≠ '~') : HomeExpands machine s s
  | unknown {account rest : List Char} (haccount : '/' ∉ account)
      (hrest : ∀ c ∈ rest.head?, c = '/')
      (hhome : ∀ home, ¬IsHome machine (String.ofList account) home) :
      HomeExpands machine ('~' :: (account ++ rest)) ('~' :: (account ++ rest))
  | known {account rest kept : List Char} {home : String} (haccount : '/' ∉ account)
      (hrest : ∀ c ∈ rest.head?, c = '/') (hhome : IsHome machine (String.ofList account) home)
      (hkept : Unslashed home.toList kept) :
      HomeExpands machine ('~' :: (account ++ rest))
        (if kept ++ rest = [] then ['/'] else kept ++ rest)

section

variable {machine : Machine} {account home : String} {s t kept : List Char}

theorem isHome_iff : IsHome machine account home ↔ home? machine account = some home := by
  unfold home?
  constructor
  · rintro (hvalue | ⟨hunbound, hhome⟩ | ⟨hname, hhome⟩)
    · simp [hvalue]
    · simp [hunbound, hhome]
    · simp [hname, hhome]
  · intro h
    dsimp only at h
    split at h
    next hname =>
      subst hname
      obtain hvalue | ⟨hunbound, hhome⟩ := Option.or_eq_some_iff.mp h
      · exact .told hvalue
      · exact .own hunbound hhome
    next hname => exact .account hname h

theorem unslashed_iff : Unslashed s kept ↔ (s.reverse.dropWhile (· == '/')).reverse = kept := by
  constructor
  · rintro ⟨⟨slashes, rfl, hslashes⟩, hkept⟩
    rw [List.reverse_append, Text.dropWhile_stretch, List.reverse_reverse]
    · simpa using hslashes
    · simpa using hkept
  · rintro rfl
    obtain ⟨slashes, tail, hs, hslashes, htail⟩ := Text.exists_stretch (· == '/') s.reverse
    rw [hs, Text.dropWhile_stretch hslashes htail]
    refine ⟨⟨slashes.reverse, ?_, ?_⟩, ?_⟩
    · rw [← List.reverse_append, ← hs, List.reverse_reverse]
    · simpa using hslashes
    · simpa using htail

theorem takeWhile_not_slash {account rest : List Char} (haccount : '/' ∉ account)
    (hrest : ∀ c ∈ rest.head?, c = '/') : (account ++ rest).takeWhile (· != '/') = account := by
  refine Text.takeWhile_stretch (fun c hc => bne_iff_ne.mpr ?_) fun c hc => ?_
  · rintro rfl
    exact haccount hc
  · simp [hrest c hc]

theorem HomeExpands.eq (h : HomeExpands machine s t) :
    (expandHome machine (String.ofList s)).toList = t := by
  rw [expandHome, String.toList_ofList]
  cases h with
  | plain hs =>
    split
    next rest => exact absurd rfl (hs '~' rfl)
    next => rw [String.toList_ofList]
  | @unknown account rest haccount hrest hhome =>
    have hnone : home? machine (String.ofList account) = none :=
      Option.eq_none_iff_forall_ne_some.mpr fun home h => hhome home (isHome_iff.mpr h)
    simp only [takeWhile_not_slash haccount hrest, hnone, String.toList_ofList]
  | known haccount hrest hhome hkept =>
    simp only [takeWhile_not_slash haccount hrest, isHome_iff.mp hhome, List.drop_left,
      unslashed_iff.mp hkept]
    split
    · rfl
    · rw [String.toList_ofList]

theorem exists_homeExpands (machine : Machine) (s : List Char) :
    ∃ t, HomeExpands machine s t := by
  by_cases hs : ∀ c ∈ s.head?, c ≠ '~'
  · exact ⟨s, .plain hs⟩
  · obtain ⟨tail, rfl⟩ : ∃ tail, s = '~' :: tail := by
      cases s with
      | nil => simp at hs
      | cons c tail => exact ⟨tail, by simpa using hs⟩
    obtain ⟨account, rest, rfl, hname, hrest⟩ := Text.exists_stretch (· != '/') tail
    have haccount : '/' ∉ account := fun hc => absurd (hname '/' hc) (by decide)
    have hslash : ∀ c ∈ rest.head?, c = '/' := by simpa using hrest
    by_cases hhome : ∃ home, IsHome machine (String.ofList account) home
    · obtain ⟨home, hhome⟩ := hhome
      exact ⟨_, .known haccount hslash hhome (unslashed_iff.mpr rfl)⟩
    · exact ⟨_, .unknown haccount hslash fun home h => hhome ⟨home, h⟩⟩

theorem homeExpands_iff :
    HomeExpands machine s t ↔ (expandHome machine (String.ofList s)).toList = t := by
  refine ⟨HomeExpands.eq, ?_⟩
  rintro rfl
  obtain ⟨t, ht⟩ := exists_homeExpands machine s
  rwa [ht.eq]

end

/-! ## The path -/

/-- The path that is opened for a path text: what the text says once the variables are put in, and
then a home directory, without the slashes and dots that `normalize` drops. -/
def ComesTo (machine : Machine) (text path : String) : Prop :=
  ∃ named homed, Expands machine.environment text.toList named ∧
    HomeExpands machine named homed ∧ normalize (String.ofList homed) = path

/-- Every path text comes to one path. -/
theorem comesTo_iff {machine : Machine} {text path : String} :
    ComesTo machine text path ↔ Resolver.expandedPath machine text = path := by
  unfold ComesTo Resolver.expandedPath expandVariables
  simp only [expands_iff, homeExpands_iff, exists_eq_left', exists_and_left, String.ofList_toList]

/-- A tilde that comes out of a variable stands for a home directory. -/
example : Resolver.expandedPath
    { environment := [("H", "~")], homes := [("", "/root/")], files := ⟨[], ⟨[], 0⟩⟩ } "$H//pw" =
      "/root/pw" := by
  decide

end AuthRelay.PathText
