import AuthRelay.Proofs.Relay.Queries
import AuthRelay.Session.Sources
/-!
# Chains within chains

A tree of sources is gathered like the row of its leaves: each leaf is asked once, from left to
right, from the state that the one before it has left, and what they deliver comes one after
another. The first leaf that fails ends it. So two trees with the same leaves, and these are the
trees that can be regrouped into each other, cannot be told apart but by the name in the message
that there are no candidates.
-/
namespace AuthRelay

variable {σ τ ι : Type} {level : Level}

/-- A state with notes that have been made beside it. -/
def Noted.Over (noted : Noted ι σ) (s : σ) : Prop :=
  noted.state = s

/-! ## Asking one leaf after another -/

namespace Supplier

/-- What a supplier is asked and what comes of it: for all its candidates if it answers that query,
else for its one set. If it answers neither query it fails. -/
inductive Answers (s : Supplier σ) (level : Level) (start : σ) :
    Query → Except Fault (List CredentialSet) → σ → List Mark → Prop
  | all {act : Act σ (List CredentialSet)} {result : Except Fault (List CredentialSet)}
      {finish : σ} {journal : List Mark} (hall : s.all? = some act)
      (h : act level start = ⟨result, finish, journal⟩) :
    Answers s level start .all result finish journal
  | one {act : Act σ CredentialSet} {result : Except Fault CredentialSet} {finish : σ}
      {journal : List Mark} (hall : s.all? = none) (hone : s.one? = some act)
      (h : act level start = ⟨result, finish, journal⟩) :
    Answers s level start .one (result.map fun set => [set]) finish journal
  | neither (hall : s.all? = none) (hone : s.one? = none) :
    Answers s level start .one (.error (.missingQuery s.name "get_credentials")) start []

/-- A supplier that makes a note of each query that it is asked, also if it cannot answer. -/
def recorded (suppliers : ι → Supplier σ) (i : ι) : Supplier (Noted (ι × Query) σ) where
  name := (suppliers i).name
  one? := some (noting (.asked (i, .one)) ((suppliers i).one?.getD
    (Act.fail (.missingQuery (suppliers i).name "get_credentials"))))
  all? := (suppliers i).all?.map (noting (.asked (i, .all)))

theorem exists_answers (s : Supplier σ) (level : Level) (start : σ) :
    ∃ q result finish journal, s.Answers level start q result finish journal := by
  cases hall : s.all? with
  | some act => exact ⟨_, _, _, _, .all hall rfl⟩
  | none =>
    cases hone : s.one? with
    | some act => exact ⟨_, _, _, _, .one hall hone rfl⟩
    | none => exact ⟨_, _, _, _, .neither hall hone⟩

section

variable {suppliers : ι → Supplier σ} {i : ι} {start finish : σ} {q : Query}
  {result : Except Fault (List CredentialSet)} {journal : List Mark}

theorem Answers.deliver {s : Supplier σ} (h : s.Answers level start q result finish journal) :
    s.deliver level start = ⟨result, finish, journal⟩ := by
  cases h with
  | all hall h => simp only [Supplier.deliver, hall, h]
  | one hall hone h =>
    simp only [Supplier.deliver, hall, hone, bind_pure_comp]
    rw [Act.map_run, h]
  | neither hall hone =>
    simp only [Supplier.deliver, hall, hone]
    rfl

/-- The query is noted, and otherwise it comes to the same. -/
theorem Answers.deliver_recorded (h : (suppliers i).Answers level start q result finish journal)
    (deeds : List (Deed (ι × Query))) :
    (recorded suppliers i).deliver level ⟨start, deeds⟩ =
      ⟨result, ⟨finish, deeds ++ [.asked (i, q)]⟩, journal⟩ := by
  cases h with
  | all hall h => simp only [Supplier.deliver, recorded, hall, Option.map_some, noting_run, h]
  | one hall hone h =>
    simp only [Supplier.deliver, recorded, hall, hone, Option.map_none, Option.getD_some,
      bind_pure_comp]
    rw [Act.map_run, noting_run, h]
  | neither hall hone =>
    simp only [Supplier.deliver, recorded, hall, hone, Option.map_none, Option.getD_none,
      bind_pure_comp]
    rfl

end

theorem deliver_recorded_alike (suppliers : ι → Supplier σ) (i : ι) :
    Act.Alike Noted.Over some (recorded suppliers i).deliver (suppliers i).deliver := by
  rintro level ⟨s, deeds⟩ _ rfl
  obtain ⟨q, result, finish, journal, h⟩ := exists_answers (suppliers i) level s
  rw [Act.alikeAt_iff, h.deliver_recorded, h.deliver]
  exact ⟨rfl, rfl, rfl⟩

/-- Suppliers that deliver alike one by one deliver alike in a row. -/
theorem deliverAll_alike {ν : Type} {R : σ → τ → Prop} {see : Mark → Option ν}
    {f : ι → Supplier σ} {g : ι → Supplier τ}
    (h : ∀ i, Act.Alike R see (f i).deliver (g i).deliver) (leaves : List ι) :
    Act.Alike R see (deliverAll (leaves.map f)) (deliverAll (leaves.map g)) := by
  induction leaves with
  | nil => exact .pure _
  | cons i leaves ih => exact (h i).bind fun _ => ih.bind fun _ => .pure _

/-- Leaves are asked one after another, each from the state that the one before it has left, and all
of them deliver. -/
inductive Delivered (suppliers : ι → Supplier σ) (level : Level) :
    σ → List (ι × Query) → List (List CredentialSet) → σ → List Mark → Prop
  | nil (s : σ) : Delivered suppliers level s [] [] s []
  | cons {i : ι} {q : Query} {asked : List (ι × Query)} {sets : List CredentialSet}
      {lists : List (List CredentialSet)} {start between finish : σ}
      {answered journal : List Mark}
      (h : (suppliers i).Answers level start q (.ok sets) between answered)
      (hrest : Delivered suppliers level between asked lists finish journal) :
    Delivered suppliers level start ((i, q) :: asked) (sets :: lists) finish (answered ++ journal)

/-- Leaves are asked one after another up to one that fails; those after it are not asked. -/
inductive Stopped (suppliers : ι → Supplier σ) (level : Level) (start : σ) (leaves : List ι) :
    Fault → σ → List (ι × Query) → List Mark → Prop
  | intro {asked : List (ι × Query)} {failing : ι} {after : List ι} {q : Query} {fault : Fault}
      {lists : List (List CredentialSet)} {between finish : σ} {journal answered : List Mark}
      (hleaves : leaves = asked.map Prod.fst ++ failing :: after)
      (hbefore : Delivered suppliers level start asked lists between journal)
      (hfails : (suppliers failing).Answers level between q (.error fault) finish answered) :
    Stopped suppliers level start leaves fault finish (asked ++ [(failing, q)])
      (journal ++ answered)

section

variable {suppliers : ι → Supplier σ} {start finish : σ} {asked : List (ι × Query)}
  {lists : List (List CredentialSet)} {journal : List Mark}

/-- What leaves deliver one after another is delivered together, and each query is noted. -/
theorem Delivered.deliverAll_recorded
    (h : Delivered suppliers level start asked lists finish journal)
    (deeds : List (Deed (ι × Query))) :
    deliverAll ((asked.map Prod.fst).map (recorded suppliers)) level ⟨start, deeds⟩ =
      ⟨.ok lists.flatten, ⟨finish, deeds ++ asked.map .asked⟩, journal⟩ := by
  induction h generalizing deeds with
  | nil s => simp [deliverAll, Act.pure_def]
  | cons h hrest ih =>
    have hall := deliverAll_cons_of_ok (h.deliver_recorded deeds) (ih _)
    simpa using hall

theorem Stopped.cons {i : ι} {q : Query} {leaves : List ι} {between : σ} {sets : List CredentialSet}
    {answered : List Mark} {fault : Fault}
    (h : (suppliers i).Answers level start q (.ok sets) between answered)
    (hrest : Stopped suppliers level between leaves fault finish asked journal) :
    Stopped suppliers level start (i :: leaves) fault finish ((i, q) :: asked)
      (answered ++ journal) := by
  obtain ⟨hleaves, hbefore, hfails⟩ := hrest
  rw [← List.append_assoc]
  exact .intro (congrArg (i :: ·) hleaves) (.cons h hbefore) hfails

/-- All leaves deliver, or they are asked up to one that fails. -/
theorem delivered_or_stopped (suppliers : ι → Supplier σ) (level : Level) (start : σ)
    (leaves : List ι) :
    (∃ asked lists finish journal, leaves = asked.map Prod.fst ∧
      Delivered suppliers level start asked lists finish journal) ∨
    ∃ fault finish asked journal,
      Stopped suppliers level start leaves fault finish asked journal := by
  induction leaves generalizing start with
  | nil => exact .inl ⟨[], [], start, [], rfl, .nil start⟩
  | cons i leaves ih =>
    obtain ⟨q, result, between, answered, h⟩ := exists_answers (suppliers i) level start
    cases result with
    | error fault => exact .inr ⟨_, _, _, _, .intro rfl (.nil start) h⟩
    | ok sets =>
      rcases ih between with ⟨asked, lists, finish, journal, rfl, hrest⟩ | ⟨_, _, _, _, hrest⟩
      · exact .inl ⟨_, _, _, _, rfl, .cons h hrest⟩
      · exact .inr ⟨_, _, _, _, .cons h hrest⟩

/-- What fails is the row of the leaves, and each query up to then is noted. -/
theorem Stopped.deliverAll_recorded {leaves : List ι} {fault : Fault}
    (h : Stopped suppliers level start leaves fault finish asked journal)
    (deeds : List (Deed (ι × Query))) :
    deliverAll (leaves.map (recorded suppliers)) level ⟨start, deeds⟩ =
      ⟨.error fault, ⟨finish, deeds ++ asked.map .asked⟩, journal⟩ := by
  obtain ⟨rfl, hbefore, hfails⟩ := h
  rw [deliverAll_eq_error_iff, List.map_append, List.map_append, ← List.append_assoc]
  exact .intro _ rfl (hbefore.deliverAll_recorded deeds) (hfails.deliver_recorded _)

end

end Supplier

namespace Source

open Supplier

/-! ## Gathering -/

/-- How the gathering of a source ends, and which leaf has been asked which query. -/
inductive Gathers (suppliers : ι → Supplier σ) (source : Source ι) (level : Level) (start : σ) :
    Except Fault (List CredentialSet) → σ → List (ι × Query) → List Mark → Prop
  /-- All leaves deliver, and some of them deliver something. -/
  | candidates {asked : List (ι × Query)} {lists : List (List CredentialSet)} {finish : σ}
      {journal : List Mark} (hleaves : source.leaves = asked.map Prod.fst)
      (h : Delivered suppliers level start asked lists finish journal)
      (hsome : ∃ sets ∈ lists, sets ≠ []) :
    Gathers suppliers source level start (.ok lists.flatten) finish asked journal
  /-- All leaves deliver, and none of them delivers anything. -/
  | nothing {asked : List (ι × Query)} {lists : List (List CredentialSet)} {finish : σ}
      {journal : List Mark} (hleaves : source.leaves = asked.map Prod.fst)
      (h : Delivered suppliers level start asked lists finish journal)
      (hnone : ∀ sets ∈ lists, sets = []) :
    Gathers suppliers source level start (.error (.noCandidates (source.map suppliers).name)) finish
      asked journal
  /-- One of the leaves fails. -/
  | failed {asked : List (ι × Query)} {fault : Fault} {finish : σ} {journal : List Mark}
      (h : Stopped suppliers level start source.leaves fault finish asked journal) :
    Gathers suppliers source level start (.error fault) finish asked journal

theorem exists_gathers (suppliers : ι → Supplier σ) (source : Source ι) (level : Level)
    (start : σ) : ∃ result finish asked journal,
      Gathers suppliers source level start result finish asked journal := by
  rcases delivered_or_stopped suppliers level start source.leaves with
    ⟨asked, lists, finish, journal, hleaves, h⟩ | ⟨fault, finish, asked, journal, h⟩
  · by_cases hnone : ∀ sets ∈ lists, sets = []
    · exact ⟨_, _, _, _, .nothing hleaves h hnone⟩
    · push Not at hnone
      exact ⟨_, _, _, _, .candidates hleaves h hnone⟩
  · exact ⟨_, _, _, _, .failed h⟩

theorem name_map_recorded (suppliers : ι → Supplier σ) (source : Source ι) :
    (source.map (recorded suppliers)).name = (source.map suppliers).name := by
  cases source <;> rfl

section

variable {suppliers : ι → Supplier σ} {source : Source ι} {start finish : σ}
  {asked : List (ι × Query)} {journal : List Mark}
  {result : Except Fault (List CredentialSet)}

theorem gather_of_deliverAll {source : Source (Supplier τ)} {start finish : τ}
    {sets : List CredentialSet}
    (h : deliverAll source.leaves level start = ⟨.ok sets, finish, journal⟩) :
    source.gather level start =
      ⟨match Candidates.ofList? sets with
        | some candidates => .ok candidates
        | none => .error (.noCandidates source.name), finish, journal⟩ := by
  rw [gather_eq, Act.bind_of_ok h]
  cases Candidates.ofList? sets <;> simp [Act.pure_def, Act.fail]

/-- Gathering ends as it says, and the notes tell of the same queries. -/
theorem Gathers.gather_recorded
    (h : Gathers suppliers source level start result finish asked journal) :
    let noted := (source.map (recorded suppliers)).gather level ⟨start, []⟩
    noted.result.map Candidates.toList = result ∧ noted.state = ⟨finish, asked.map .asked⟩ ∧
      noted.journal = journal := by
  have hrow : (source.map (recorded suppliers)).leaves = source.leaves.map (recorded suppliers) :=
    leaves_map _ _
  cases h with
  | candidates hleaves h hsome =>
    have hrun := h.deliverAll_recorded []
    rw [← hleaves, ← hrow] at hrun
    obtain ⟨sets, hsets, hne⟩ := hsome
    obtain ⟨first, rest, hflat⟩ :=
      List.exists_cons_of_ne_nil (List.flatten_ne_nil_iff.mpr ⟨sets, hsets, hne⟩)
    rw [gather_of_deliverAll hrun, hflat]
    exact ⟨rfl, rfl, rfl⟩
  | nothing hleaves h hnone =>
    have hrun := h.deliverAll_recorded []
    rw [← hleaves, ← hrow, List.flatten_eq_nil_iff.mpr hnone] at hrun
    rw [gather_of_deliverAll hrun, name_map_recorded]
    exact ⟨rfl, rfl, rfl⟩
  | failed h =>
    have hrun := h.deliverAll_recorded []
    rw [← hrow] at hrun
    rw [gather_eq, Act.bind_of_error hrun]
    exact ⟨rfl, rfl, rfl⟩

/-- Making notes of the queries changes nothing. -/
theorem gather_recorded_alike (suppliers : ι → Supplier σ) (source : Source ι) :
    Act.Alike Noted.Over some (source.map (recorded suppliers)).gather
      (source.map suppliers).gather := by
  rw [gather_eq, gather_eq, leaves_map, leaves_map, name_map_recorded]
  refine (deliverAll_alike (deliver_recorded_alike suppliers) source.leaves).bind fun sets => ?_
  cases Candidates.ofList? sets with
  | none => exact .fail _
  | some candidates => exact .pure _

end

/-! ## Regrouping -/

/-- Trees that differ in the brackets around their leaves only. -/
inductive Regrouped : Source ι → Source ι → Prop
  | refl (source : Source ι) : Regrouped source source
  | symm {a b : Source ι} (h : Regrouped a b) : Regrouped b a
  | trans {a b c : Source ι} (h : Regrouped a b) (h' : Regrouped b c) : Regrouped a c
  /-- A chain around a single source. -/
  | wrap (source : Source ι) : Regrouped source (.chain [source])
  /-- The members of a chain instead of the chain; instead of an empty one there is nothing. -/
  | splice (front inner back : List (Source ι)) :
    Regrouped (.chain (front ++ .chain inner :: back)) (.chain (front ++ inner ++ back))
  /-- Regrouping below a chain. -/
  | member (front back : List (Source ι)) {a b : Source ι} (h : Regrouped a b) :
    Regrouped (.chain (front ++ a :: back)) (.chain (front ++ b :: back))

theorem leavesOfAll_append (front back : List (Source ι)) :
    leavesOfAll (front ++ back) = leavesOfAll front ++ leavesOfAll back := by
  induction front with
  | nil => rfl
  | cons member front ih => rw [List.cons_append, leavesOfAll, leavesOfAll, ih, List.append_assoc]

theorem Regrouped.leaves_eq {a b : Source ι} (h : Regrouped a b) : a.leaves = b.leaves := by
  induction h with
  | refl source => rfl
  | symm h ih => exact ih.symm
  | trans h h' ih ih' => exact ih.trans ih'
  | wrap source => simp [leaves, leavesOfAll]
  | splice front inner back => simp [leaves, leavesOfAll_append, leavesOfAll]
  | member front back h ih => simp [leaves, leavesOfAll_append, leavesOfAll, ih]

mutual

/-- Every tree can be regrouped into the chain of its leaves. -/
theorem regrouped_row (source : Source ι) :
    Regrouped source (.chain (source.leaves.map .leaf)) :=
  match source with
  | .leaf i => .wrap (.leaf i)
  | .chain members => regrouped_rows [] members

/-- So can some members of a chain, behind others. -/
theorem regrouped_rows (front members : List (Source ι)) :
    Regrouped (.chain (front ++ members)) (.chain (front ++ (leavesOfAll members).map .leaf)) :=
  match members with
  | [] => .refl _
  | member :: rest => by
    have hmember := Regrouped.member front rest (regrouped_row member)
    have hspliced := hmember.trans (.splice front (member.leaves.map .leaf) rest)
    have hrest := hspliced.trans (regrouped_rows (front ++ member.leaves.map .leaf) rest)
    rwa [List.append_assoc, ← List.map_append] at hrest

end

/-- The trees into which a tree can be regrouped are those with the same leaves. -/
theorem regrouped_iff {a b : Source ι} : Regrouped a b ↔ a.leaves = b.leaves := by
  constructor
  · exact Regrouped.leaves_eq
  · intro h
    have hrow := (regrouped_row b).symm
    rw [← h] at hrow
    exact (regrouped_row a).trans hrow

/-- Trees with the same leaves gather alike, up to the name of the class that has no candidates. -/
theorem gather_of_leaves_eq {a b : Source (Supplier τ)} (h : a.leaves = b.leaves) (level : Level)
    (start : τ) :
    (b.gather level start).result.mapError Fault.kind =
        (a.gather level start).result.mapError Fault.kind ∧
      (b.gather level start).state = (a.gather level start).state ∧
      (b.gather level start).journal = (a.gather level start).journal := by
  rw [gather_eq a, gather_eq b, h]
  cases hrun : deliverAll b.leaves level start with
  | mk result finish journal =>
    cases result with
    | error fault =>
      rw [Act.bind_of_error hrun, Act.bind_of_error hrun]
      exact ⟨rfl, rfl, rfl⟩
    | ok sets =>
      rw [Act.bind_of_ok hrun, Act.bind_of_ok hrun]
      cases Candidates.ofList? sets <;> exact ⟨rfl, rfl, rfl⟩

/-- Gathering asks each leaf of a tree, at each place where it stands, once and from left to right,
for all its candidates if it can give them and else for its one set; it hands over what they
deliver, one after another. If a leaf fails it ends with that fault, and the leaves after it are not
asked; if none fails and none delivers anything there are no candidates. Nothing else can happen.
The trees into which a tree can be regrouped are those with the same leaves; with all of them the
same queries are made, the candidates are the same, and so is the kind of the failure. -/
theorem gather_flattens (suppliers : ι → Supplier σ) (source : Source ι) (level : Level)
    (start : σ) :
    let call := fun tree : Source ι => (tree.map suppliers).gather level start
    let noted := fun tree : Source ι => (tree.map (recorded suppliers)).gather level ⟨start, []⟩
    ((noted source).result = (call source).result ∧
      (noted source).state.state = (call source).state ∧
      (noted source).journal = (call source).journal) ∧
    (∀ result finish asked journal,
      Gathers suppliers source level start result finish asked journal ↔
        (call source).result.map Candidates.toList = result ∧ (call source).state = finish ∧
        (noted source).state.deeds = asked.map .asked ∧ (call source).journal = journal) ∧
    ∀ other : Source ι, (source.Regrouped other ↔ source.leaves = other.leaves) ∧
      (source.Regrouped other →
        (call other).result.mapError Fault.kind = (call source).result.mapError Fault.kind ∧
        (call other).state = (call source).state ∧
        (noted other).state.deeds = (noted source).state.deeds ∧
        (call other).journal = (call source).journal) := by
  intro call noted
  obtain ⟨hresult, hstate, hjournal⟩ :=
    gather_recorded_alike suppliers source level ⟨start, []⟩ start rfl
  rw [List.filterMap_some, List.filterMap_some] at hjournal
  refine ⟨⟨hresult, hstate, hjournal⟩, fun result finish asked journal => ?_,
    fun other => ⟨regrouped_iff, fun h => ?_⟩⟩
  · constructor
    · intro h
      obtain ⟨hr, hs, hj⟩ := h.gather_recorded
      exact ⟨by rw [← hresult, hr], by rw [← hstate, hs], by rw [hs], by rw [← hjournal, hj]⟩
    · rintro ⟨rfl, rfl, hasked, rfl⟩
      obtain ⟨result', finish', asked', journal', h⟩ := exists_gathers suppliers source level start
      obtain ⟨hr, hs, hj⟩ := h.gather_recorded
      -- the notes tell which queries were asked
      rw [hs] at hasked
      have hsame : asked' = asked :=
        List.map_injective_iff.mpr (fun _ _ he => by cases he; rfl) hasked
      rw [← hresult, hr, ← hstate, hs, ← hsame, ← hjournal, hj]
      exact h
  · have hleaves := h.leaves_eq
    obtain ⟨hresult, hstate, hjournal⟩ := gather_of_leaves_eq
      (a := source.map suppliers) (b := other.map suppliers)
      (by rw [leaves_map, leaves_map, hleaves]) level start
    obtain ⟨-, hnoted, -⟩ := gather_of_leaves_eq
      (a := source.map (recorded suppliers)) (b := other.map (recorded suppliers))
      (by rw [leaves_map, leaves_map, hleaves]) level ⟨start, []⟩
    exact ⟨hresult, hstate, congrArg (·.deeds) hnoted, hjournal⟩

/-- A supplier that counts its calls stands at two leaves, with one between them that answers both
queries. -/
def countedTwice : Source Session.Provider :=
  .chain [.leaf (.counting 0 "t"), .chain [.chain [.leaf (.both {} [{ auth := "x" }])], .chain []],
    .leaf (.counting 0 "t")]

/-- It is asked twice and gives two tokens, however the leaves are bracketed. -/
theorem gather_flattens_counted_twice :
    let w : Session.World :=
      { machine := { environment := [], files := ⟨[], { place := [] }⟩ }, tallies := [0] }
    let row : Source Session.Provider := .chain (countedTwice.leaves.map .leaf)
    let sets : List CredentialSet :=
      [{ registryToken := "t1" }, { auth := "x" }, { registryToken := "t2" }]
    let asked : List (Session.Provider × Query) :=
      [(.counting 0 "t", .one), (.both {} [{ auth := "x" }], .all), (.counting 0 "t", .one)]
    let journal := [Mark.event (.query .one), .event (.query .all), .event (.query .one)]
    countedTwice.Regrouped row ∧
    Gathers Session.Provider.supplier countedTwice .warning w (.ok sets) { w with tallies := [2] }
      asked journal ∧
    ((row.map Session.Provider.supplier).gather .warning w).state = { w with tallies := [2] } := by
  intro w row sets asked journal
  obtain ⟨-, hgathers, hregrouped⟩ :=
    gather_flattens Session.Provider.supplier countedTwice .warning w
  have hrow : countedTwice.Regrouped row := (hregrouped row).1.mpr rfl
  obtain ⟨-, hstate, -, -⟩ := (hregrouped row).2 hrow
  have hcandidates : ((countedTwice.map Session.Provider.supplier).gather .warning w).result.map
      Candidates.toList = .ok sets := by
    decide +kernel
  exact ⟨hrow, (hgathers _ _ _ _).mpr ⟨hcandidates, rfl, rfl, rfl⟩, hstate.trans rfl⟩

end Source

end AuthRelay
