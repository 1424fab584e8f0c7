import AuthRelay.Credential.Source
import AuthRelay.Proofs.Acts
/-!
# Gathering candidates

A tree of suppliers is asked from left to right. Who gathers and a chain have a rule each for which
query they put to a source, and the two rules agree. How the suppliers are nested makes no
difference: what a tree delivers is what its leaves deliver one after another. Gathering fails where
the first of them fails, however much the others have delivered by then, or in the end if there is
no candidate at all.
-/
namespace AuthRelay

variable {σ : Type} {level : Level} {start finish : σ} {fault : Fault} {journal : List Mark}

namespace Supplier

/-- Asks suppliers one after another for all that they have. -/
def deliverAll : List (Supplier σ) → Act σ (List CredentialSet)
  | [] => pure []
  | supplier :: rest => do
    let here ← supplier.deliver
    let others ← deliverAll rest
    pure (here ++ others)

theorem deliverAll_append (front back : List (Supplier σ)) :
    deliverAll (front ++ back) =
      deliverAll front >>= fun here => deliverAll back >>= fun others => pure (here ++ others) := by
  induction front with
  | nil => simp [deliverAll]
  | cons supplier front ih =>
    simp only [List.cons_append, deliverAll, ih, bind_assoc, pure_bind, List.append_assoc]

theorem deliverAll_cons_of_ok {supplier : Supplier σ} {rest : List (Supplier σ)}
    {here others : List CredentialSet} {between : σ} {asked : List Mark}
    (hhere : supplier.deliver level start = ⟨.ok here, between, asked⟩)
    (hrest : deliverAll rest level between = ⟨.ok others, finish, journal⟩) :
    deliverAll (supplier :: rest) level start =
      ⟨.ok (here ++ others), finish, asked ++ journal⟩ := by
  rw [deliverAll, Act.bind_of_ok hhere, Act.bind_of_ok hrest]
  simp only [Act.pure_def, List.append_nil]

/-- Some suppliers are asked up to one that fails: those before it have delivered, and those after
it are not asked any more. -/
inductive BreaksOff (level : Level) (start : σ) (suppliers : List (Supplier σ)) :
    Fault → σ → List Mark → Prop
  | intro (before : List (Supplier σ)) {after : List (Supplier σ)} {failing : Supplier σ}
      {delivered : List CredentialSet} {between finish : σ} {asked answered : List Mark}
      {fault : Fault} (hsuppliers : suppliers = before ++ failing :: after)
      (hbefore : deliverAll before level start = ⟨.ok delivered, between, asked⟩)
      (hfails : failing.deliver level between = ⟨.error fault, finish, answered⟩) :
    BreaksOff level start suppliers fault finish (asked ++ answered)

/-- Several suppliers fail together where one of them fails. -/
theorem deliverAll_eq_error_iff {suppliers : List (Supplier σ)} :
    deliverAll suppliers level start = ⟨.error fault, finish, journal⟩ ↔
      BreaksOff level start suppliers fault finish journal := by
  constructor
  · intro h
    induction suppliers generalizing start journal with
    | nil => cases h
    | cons supplier rest ih =>
      rw [deliverAll, Act.bind_eq_error_iff] at h
      rcases h with hfails | ⟨here, between, asked, later, hhere, hlater, rfl⟩
      · exact .intro [] rfl rfl hfails
      · obtain ⟨before, rfl, hbefore, hfails⟩ := ih (Act.bind_pure_eq_error_iff.mp hlater)
        rw [← List.append_assoc]
        exact .intro (supplier :: before) rfl (deliverAll_cons_of_ok hhere hbefore) hfails
  · rintro ⟨before, rfl, hbefore, hfails⟩
    rw [deliverAll_append, Act.bind_of_ok hbefore, deliverAll, bind_assoc, Act.bind_of_error hfails]

end Supplier

namespace Source

mutual

/-- A tree delivers what its leaves deliver. -/
theorem collect_eq (source : Source (Supplier σ)) :
    source.collect = Supplier.deliverAll source.leaves :=
  match source with
  | .leaf supplier => by simp [collect, leaves, Supplier.deliverAll]
  | .chain members => by rw [collect, leaves, collectAll_eq members]

/-- Some trees deliver what the leaves of all of them deliver. -/
theorem collectAll_eq (members : List (Source (Supplier σ))) :
    collectAll members = Supplier.deliverAll (leavesOfAll members) :=
  match members with
  | [] => rfl
  | member :: rest => by
    rw [collectAll, leavesOfAll, Supplier.deliverAll_append, collect_eq member, collectAll_eq rest]

end

mutual

/-- Other suppliers at the leaves of a tree. -/
theorem leaves_map {ι κ : Type} (f : ι → κ) (source : Source ι) :
    (source.map f).leaves = source.leaves.map f :=
  match source with
  | .leaf _ => rfl
  | .chain members => leavesOfAll_mapAll f members

/-- Other suppliers at the leaves of some trees. -/
theorem leavesOfAll_mapAll {ι κ : Type} (f : ι → κ) (members : List (Source ι)) :
    leavesOfAll (mapAll f members) = (leavesOfAll members).map f :=
  match members with
  | [] => rfl
  | member :: rest => by
    rw [mapAll, leavesOfAll, leavesOfAll, leaves_map f member, leavesOfAll_mapAll f rest,
      List.map_append]

end

/-- Who gathers asks a source as a chain asks it as a member. -/
theorem poll_eq_collect (source : Source (Supplier σ)) : source.poll = source.collect := by
  cases source with
  | chain members => rfl
  | leaf supplier =>
    obtain ⟨name, one?, all?⟩ := supplier
    cases all? with
    | some all => rfl
    | none => cases one? <;> rfl

/-- Gathering is asking the leaves, whatever the tree. -/
theorem gather_eq (source : Source (Supplier σ)) :
    source.gather = Supplier.deliverAll source.leaves >>= fun sets =>
      match Candidates.ofList? sets with
      | some candidates => pure candidates
      | none => Act.fail (.noCandidates source.name) :=
  congrArg (Bind.bind · _) ((poll_eq_collect source).trans (collect_eq source))

/-- A source hands over no candidates: one of its leaves fails, or all that they deliver is
nothing. -/
inductive Unsupplied (source : Source (Supplier σ)) (level : Level) (start : σ) :
    Fault → σ → List Mark → Prop
  | failed {fault : Fault} {finish : σ} {journal : List Mark}
      (h : Supplier.BreaksOff level start source.leaves fault finish journal) :
    Unsupplied source level start fault finish journal
  | nothing {finish : σ} {journal : List Mark}
      (h : Supplier.deliverAll source.leaves level start = ⟨.ok [], finish, journal⟩) :
    Unsupplied source level start (.noCandidates source.name) finish journal

/-- Gathering fails for two reasons, and for no others. -/
theorem gather_eq_error_iff {source : Source (Supplier σ)} :
    source.gather level start = ⟨.error fault, finish, journal⟩ ↔
      source.Unsupplied level start fault finish journal := by
  unfold gather
  rw [poll_eq_collect, collect_eq, Act.bind_eq_error_iff, Supplier.deliverAll_eq_error_iff]
  constructor
  · rintro (h | ⟨sets, between, asked, later, hcollect, hsets, rfl⟩)
    · exact .failed h
    · cases sets with
      | nil =>
        cases hsets
        rw [List.append_nil]
        exact .nothing hcollect
      | cons first rest => cases hsets
  · rintro (h | h)
    · exact .inl h
    · exact .inr ⟨[], finish, journal, [], h, rfl, (List.append_nil journal).symm⟩

end Source

/-! ## What suppliers keep, and suppliers that only look -/

section

variable {P : σ → Prop} {ν : Type} {view : σ → ν}

/-- A supplier whose answers to both queries preserve a property of states. -/
structure Supplier.Keeps (P : σ → Prop) (s : Supplier σ) : Prop where
  one : ∀ query ∈ s.one?, Act.Keeps P query
  all : ∀ query ∈ s.all?, Act.Keeps P query

theorem Supplier.Keeps.deliver {s : Supplier σ} (h : s.Keeps P) : Act.Keeps P s.deliver := by
  unfold Supplier.deliver
  split
  next all hall => exact h.all all hall
  next one _ hone => exact (h.one one hone).bind fun _ => .pure _
  next => exact .fail _

/-- A query that is not answered keeps everything. -/
theorem Supplier.getD_keeps {α : Type} {query? : Option (Act σ α)}
    (h : ∀ query ∈ query?, Act.Keeps P query) (fault : Fault) :
    Act.Keeps P (query?.getD (Act.fail fault)) := by
  cases query? with
  | none => exact .fail fault
  | some query => exact h query rfl

theorem Supplier.deliverAll_keeps {suppliers : List (Supplier σ)}
    (h : ∀ supplier ∈ suppliers, supplier.Keeps P) : Act.Keeps P (deliverAll suppliers) := by
  induction suppliers with
  | nil => exact .pure _
  | cons supplier rest ih =>
    obtain ⟨hhere, hrest⟩ := List.forall_mem_cons.mp h
    exact hhere.deliver.bind fun _ => (ih hrest).bind fun _ => .pure _

section

variable {source : Source (Supplier σ)} (h : ∀ supplier ∈ source.leaves, supplier.Keeps P)
include h

/-- What all leaves keep, gathering keeps. -/
theorem Source.gather_keeps : Act.Keeps P source.gather := by
  rw [gather_eq]
  refine (Supplier.deliverAll_keeps h).bind fun sets => ?_
  cases Candidates.ofList? sets with
  | none => exact .fail _
  | some candidates => exact .pure _

theorem Source.one_keeps : Act.Keeps P source.one := by
  cases source with
  | chain members => exact .fail _
  | leaf supplier => exact Supplier.getD_keeps (h supplier (List.mem_singleton_self _)).one _

theorem Source.all_keeps : Act.Keeps P source.all := by
  cases source with
  | chain members =>
    rw [all, collectAll_eq]
    exact Supplier.deliverAll_keeps h
  | leaf supplier => exact Supplier.getD_keeps (h supplier (List.mem_singleton_self _)).all _

end

theorem Supplier.deliverAll_looks {suppliers : List (Supplier σ)}
    (h : ∀ supplier ∈ suppliers, Act.Looks view supplier.deliver) :
    Act.Looks view (deliverAll suppliers) := by
  induction suppliers with
  | nil => exact .pure _
  | cons supplier rest ih =>
    obtain ⟨hhere, hrest⟩ := List.forall_mem_cons.mp h
    exact hhere.bind fun _ => (ih hrest).bind fun _ => .pure _

/-- If all leaves only look, gathering only looks. -/
theorem Source.gather_looks {source : Source (Supplier σ)}
    (h : ∀ supplier ∈ source.leaves, Act.Looks view supplier.deliver) :
    Act.Looks view source.gather := by
  rw [gather_eq]
  refine (Supplier.deliverAll_looks h).bind fun sets => ?_
  cases Candidates.ofList? sets with
  | none => exact .fail _
  | some candidates => exact .pure _

end

/-! ## Suppliers that behave alike -/

/-- Two suppliers of one name that answer the same queries alike. -/
structure Supplier.Alike {τ ν : Type} (R : σ → τ → Prop) (see : Mark → Option ν) (s : Supplier σ)
    (s' : Supplier τ) : Prop where
  name : s.name = s'.name
  one : Option.Rel (Act.Alike R see) s.one? s'.one?
  all : Option.Rel (Act.Alike R see) s.all? s'.all?

section

variable {τ ν ι : Type} {R : σ → τ → Prop} {see : Mark → Option ν}

theorem Supplier.Alike.deliver {s : Supplier σ} {s' : Supplier τ} (h : s.Alike R see s') :
    Act.Alike R see s.deliver s'.deliver := by
  obtain ⟨name, one?, all?⟩ := s
  obtain ⟨name', one?', all?'⟩ := s'
  obtain ⟨hname, hone, hall⟩ := h
  cases hname
  cases hall with
  | some hall => exact hall
  | none =>
    cases hone with
    | some hone => exact hone.bind fun _ => .pure _
    | none => exact .fail _

/-- A query fails alike where it is not answered. -/
theorem Supplier.getD_alike {α : Type} {x : Option (Act σ α)} {y : Option (Act τ α)}
    (h : Option.Rel (Act.Alike R see) x y) (fault : Fault) :
    Act.Alike R see (x.getD (Act.fail fault)) (y.getD (Act.fail fault)) := by
  cases h with
  | some h => exact h
  | none => exact .fail fault

namespace Source

variable {f : ι → Supplier σ} {g : ι → Supplier τ}

mutual

/-- A tree delivers alike if the suppliers at its leaves do. -/
theorem collect_alike (h : ∀ i, (f i).Alike R see (g i)) (source : Source ι) :
    Act.Alike R see (source.map f).collect (source.map g).collect :=
  match source with
  | .leaf i => (h i).deliver
  | .chain members => collectAll_alike h members

/-- Some trees deliver alike if the suppliers at their leaves do. -/
theorem collectAll_alike (h : ∀ i, (f i).Alike R see (g i)) (members : List (Source ι)) :
    Act.Alike R see (collectAll (mapAll f members)) (collectAll (mapAll g members)) :=
  match members with
  | [] => .pure _
  | member :: rest =>
    (collect_alike h member).bind fun _ => (collectAll_alike h rest).bind fun _ => .pure _

end

theorem gather_alike (h : ∀ i, (f i).Alike R see (g i)) (source : Source ι) :
    Act.Alike R see (source.map f).gather (source.map g).gather := by
  have hname : (source.map f).name = (source.map g).name := by
    cases source with
    | leaf i => exact (h i).name
    | chain members => rfl
  unfold gather
  rw [hname, poll_eq_collect, poll_eq_collect]
  refine (collect_alike h source).bind fun sets => ?_
  cases sets with
  | nil => exact .fail _
  | cons first rest => exact .pure _

theorem one_alike (h : ∀ i, (f i).Alike R see (g i)) (source : Source ι) :
    Act.Alike R see (source.map f).one (source.map g).one := by
  cases source with
  | chain members => exact .fail _
  | leaf i =>
    simp only [map, one, (h i).name]
    exact Supplier.getD_alike (h i).one _

theorem all_alike (h : ∀ i, (f i).Alike R see (g i)) (source : Source ι) :
    Act.Alike R see (source.map f).all (source.map g).all := by
  cases source with
  | chain members => exact collectAll_alike h members
  | leaf i =>
    simp only [map, all, (h i).name]
    exact Supplier.getD_alike (h i).all _

end Source

end

end AuthRelay
