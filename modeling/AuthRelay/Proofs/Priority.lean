import AuthRelay.Proofs.EnvFiles
import AuthRelay.Proofs.SecretFiles
import Mathlib.Data.List.TakeWhile
/-!
# Where a value comes from

A value is the caller's, or else that of a variable, or else what an environment file offers for the
variable, or else the default. The file comes in only by way of the environment: a resolver adds to
it, when it is made, what the file offers for names that are unbound. So of several files the first
one that offers something for a name decides, and none of them does for a name that was bound.
-/
namespace AuthRelay

namespace EnvFile

/-! ## What an environment file offers -/

/-- The names that the environment file for a path offers in an environment, with their values.
There are none if loading is switched off, if there is no such file, or if it cannot be read. -/
def offered (machine : Machine) (path : Option String) : Values :=
  if isDisabled machine.environment then []
  else match choose machine.files path with
    | .error _ | .ok none => []
    | .ok (some file) =>
      match contentAt machine.files file with
      | .error _ => []
      | .ok text => values machine.environment text

/-- The value that is offered for a name. -/
def Values.value? (offers : Values) (name : String) : Option String :=
  (Table.find? offers name).join

theorem nodup_offered (machine : Machine) (path : Option String) :
    ((offered machine path).map Prod.fst).Nodup := by
  unfold offered
  split
  · exact List.nodup_nil
  · split
    · exact List.nodup_nil
    · exact List.nodup_nil
    · split
      · exact List.nodup_nil
      · exact nodup_values _ _

/-- What is added for an unbound name is what is offered for it. -/
theorem find?_additions {offers : Values} (hnodup : (offers.map Prod.fst).Nodup)
    {environment : Environment} {name : String} (hfree : environment.find? name = none) :
    Table.find? (additions environment offers) name = offers.value? name := by
  induction offers with
  | nil => rfl
  | cons entry rest ih =>
    obtain ⟨n, value?⟩ := entry
    rw [List.map_cons, List.nodup_cons] at hnodup
    have hrest := ih hnodup.2
    rw [Values.value?, Table.find?_cons]
    cases value? with
    | none =>
      rw [additions_cons_none, hrest, Values.value?]
      by_cases hn : n = name
      · -- the name has no second entry
        subst hn
        rw [if_pos rfl, Table.find?_eq_none_of_not_mem hnodup.1]
        rfl
      · rw [if_neg hn]
    | some value =>
      rw [additions_cons_some]
      by_cases hn : n = name
      · subst hn
        rw [if_pos hfree, Table.find?_cons, if_pos rfl, if_pos rfl]
        rfl
      · rw [if_neg hn, ← Values.value?, ← hrest]
        split
        · rw [Table.find?_cons, if_neg hn]
        · rfl

/-- Loading a file without a failure adds all that it offers for unbound names. -/
theorem load_state {machine : Machine} {path : Option String} {level : Level}
    (h : (load path level machine).result = .ok ()) : (load path level machine).state =
      machine.adding (additions machine.environment (offered machine path)) := by
  rw [load_run] at h ⊢
  cases hchoose : choose machine.files path with
  | error fault =>
    rw [hchoose] at h
    cases h
  | ok found =>
    rw [hchoose] at h
    dsimp only at h ⊢
    rw [loadAt_run] at h ⊢
    simp only [offered, hchoose]
    by_cases hdisabled : isDisabled machine.environment = true
    · rw [if_pos hdisabled, if_pos hdisabled]
      exact machine.adding_nil.symm
    · rw [if_neg hdisabled] at h ⊢
      rw [if_neg hdisabled]
      cases found with
      | none => exact machine.adding_nil.symm
      | some file =>
        dsimp only at h ⊢
        cases hcontent : contentAt machine.files file with
        | error fault =>
          rw [hcontent] at h
          cases h
        | ok text =>
          rw [hcontent] at h
          dsimp only at h ⊢
          rw [assignMissing_run (nodup_values _ _)] at h ⊢
          dsimp only at h ⊢
          cases hfind : (additions machine.environment
              (values machine.environment text)).findSome? obstacle? with
          | some fault =>
            rw [hfind] at h
            cases h
          | none =>
            -- no addition is in the way, so all of them are made
            have hall : ∀ a ∈ additions machine.environment (values machine.environment text),
                (obstacle? a).isNone = true := fun a hmem =>
              Option.isNone_iff_eq_none.mpr (List.findSome?_eq_none_iff.mp hfind a hmem)
            rw [List.takeWhile_eq_self_iff.mpr hall]

/-- A file that the system refuses offers nothing. -/
theorem Refused.offered_eq {machine : Machine} {path : Option String} {cause : FileFault}
    (h : Refused machine path cause) : offered machine path = [] := by
  cases h with
  | directory hpath hgone =>
    simp [offered, choose_eq_error_iff.mpr ⟨hpath, hgone, rfl⟩]
  | file hloads hpath hfile hread =>
    simp [offered, hloads.2, contentAt, hpath, hfile, hread]

end EnvFile

namespace Resolver

open EnvFile

section

variable {machine : Machine} {path : Option String} {r : Resolver} {level : Level}

/-- A resolver that is made adds all that its file offers for unbound names. -/
theorem create_state_of_ok (h : (create path true level machine).result = .ok r) :
    (create path true level machine).state =
      machine.adding (additions machine.environment (offered machine path)) := by
  rw [create_state]
  obtain hloaded | ⟨cause, hrefused⟩ := loaded_or_refused_of_created h
  · exact load_state hloaded
  · rw [hrefused.load_run, hrefused.offered_eq]
    exact machine.adding_nil.symm

/-- After that a name has the value that it had, or else the one that is offered for it. -/
theorem find?_create (h : (create path true level machine).result = .ok r) (name : String) :
    (create path true level machine).state.environment.find? name =
      (machine.environment.find? name).or ((offered machine path).value? name) := by
  rw [create_state_of_ok h, Machine.adding, Table.find?_append]
  cases hbound : machine.environment.find? name with
  | some value => rfl
  | none => rw [find?_additions (nodup_offered machine path) hbound]

/-- What asking for the variable of a name comes to if there is some value, or none. -/
def answer (name : String) (required : Bool) : Option String → Except Fault (Option String)
  | some value => .ok (some value)
  | none => if required then .error (.valueMissing (some name)) else .ok none

theorem resolve_named {name : String} (hname : name ≠ "") (value fallback : Option String)
    (required : Bool) (level : Level) (machine : Machine) :
    (resolve value (some name) fallback required level machine).result =
      answer name required (value.or ((machine.environment.find? name).or fallback)) := by
  rw [resolve_result]
  simp only [origin?, binding?, if_neg hname]
  cases value with
  | some value => rfl
  | none =>
    cases machine.environment.find? name with
    | some value => rfl
    | none => cases fallback <;> rfl

/-- Resolvers are made one after another, with what their files offer at the time. In between
nothing happens to the environment, but files may change. -/
inductive MadeInTurn : Machine → List Values → Machine → Prop
  | nil (machine : Machine) : MadeInTurn machine [] machine
  | cons {machine next finish : Machine} {path : Option String} {level : Level} {r : Resolver}
      {offers : List Values} (hmade : (create path true level machine).result = .ok r)
      (hnext : next.environment = (create path true level machine).state.environment)
      (hrest : MadeInTurn next offers finish) :
      MadeInTurn machine (offered machine path :: offers) finish

/-- In the end a name has the value that it had, or else the first one that was offered for it. -/
theorem MadeInTurn.find? {finish : Machine} {offers : List Values}
    (h : MadeInTurn machine offers finish) (name : String) : finish.environment.find? name =
      (machine.environment.find? name).or (offers.findSome? (·.value? name)) := by
  induction h with
  | nil machine => rw [List.findSome?_nil, Option.or_none]
  | @cons machine next finish path level r offers hmade hnext hrest ih =>
    rw [ih, hnext, find?_create hmade, Option.or_assoc, List.findSome?_cons]
    cases (offered machine path).value? name <;> rfl

end

/-- A value is the one that the caller gives; or else that of the variable in the environment in
which the resolver was made; or else the one that the resolver's file offers there; or else the
default; or else there is none, which is a failure if the value is required. If several resolvers
have been made in turn, the first of their files that offers a value decides. -/
theorem resolved_by_priority :
    (∀ (machine : Machine) (path : Option String) (level : Level) (r : Resolver),
      (create path true level machine).result = .ok r →
      ∀ (value fallback : Option String) (name : String) (required : Bool) (later : Level),
        name ≠ "" →
        (resolve value (some name) fallback required later
            (create path true level machine).state).result =
          answer name required (value.or ((machine.environment.find? name).or
            (((offered machine path).value? name).or fallback)))) ∧
    (∀ (machine finish : Machine) (offers : List Values), MadeInTurn machine offers finish →
      ∀ (value fallback : Option String) (name : String) (required : Bool) (level : Level),
        name ≠ "" →
        (resolve value (some name) fallback required level finish).result =
          answer name required (value.or ((machine.environment.find? name).or
            ((offers.findSome? (·.value? name)).or fallback)))) ∧
    ∀ name, (Fault.valueMissing (some name)).kind = .credentialNotFound ∧
      (Fault.valueMissing (some name)).soughtVariable? = some name := by
  refine ⟨?_, ?_, fun name => ⟨rfl, rfl⟩⟩
  · intro machine path level r hmade value fallback name required later hname
    rw [resolve_named hname, find?_create hmade, Option.or_assoc]
  · intro machine finish offers hmade value fallback name required level hname
    rw [resolve_named hname, hmade.find?, Option.or_assoc]

/-- Two environment files that offer values for the same names. -/
def withTwoFiles : Machine where
  environment := [("H", "h"), ("E", "")]
  files := ⟨[(["a"], .file (Text.Utf8.encode "A=1\nB=${H}x\nD\nE=5\n")),
    (["b"], .file (Text.Utf8.encode "A=2\nC=${A}3\nD=4\n"))], ⟨[], 0⟩⟩

/-- The machine after a resolver has been made for the first file. -/
def withFirstFile : Machine :=
  (create (some "a") true .error withTwoFiles).state

/-- The machine after a resolver has been made for the second file too. -/
def withBothFiles : Machine :=
  (create (some "b") true .error withFirstFile).state

/-- The first file decides where both offer a value, and the second one where the first names a
variable without a value. What is bound already stays, even if it is empty. -/
theorem resolved_by_priority_two_files :
    (resolve none (some "D") (some "d") false .error withFirstFile).result = .ok (some "d") ∧
    (resolve none (some "A") none false .error withBothFiles).result = .ok (some "1") ∧
    (resolve none (some "C") none false .error withBothFiles).result = .ok (some "13") ∧
    (resolve none (some "D") (some "d") false .error withBothFiles).result = .ok (some "4") ∧
    (resolve none (some "E") (some "e") false .error withBothFiles).result = .ok (some "") ∧
    (resolve none (some "F") none true .error withBothFiles).result =
      .error (.valueMissing (some "F")) := by
  obtain ⟨hone, hboth, -⟩ := resolved_by_priority
  have hfirst : (create (some "a") true .error withTwoFiles).result =
      .ok ⟨some "a", true, true⟩ := by decide +kernel
  have hsecond : (create (some "b") true .error withFirstFile).result =
      .ok ⟨some "b", true, true⟩ := by decide +kernel
  have hmade : MadeInTurn withTwoFiles
      [offered withTwoFiles (some "a"), offered withFirstFile (some "b")] withBothFiles :=
    .cons hfirst rfl (.cons hsecond rfl (.nil withBothFiles))
  have hlater := fun fallback name required hname =>
    hboth _ _ _ hmade none fallback name required .error hname
  refine ⟨(hone _ _ _ _ hfirst none (some "d") "D" false .error (by decide)).trans ?_,
    (hlater none "A" false (by decide)).trans ?_, (hlater none "C" false (by decide)).trans ?_,
    (hlater (some "d") "D" false (by decide)).trans ?_,
    (hlater (some "e") "E" false (by decide)).trans ?_,
    (hlater none "F" true (by decide)).trans ?_⟩ <;> decide +kernel

end Resolver
end AuthRelay
