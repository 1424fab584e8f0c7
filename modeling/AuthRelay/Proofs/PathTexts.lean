import AuthRelay.Proofs.PathGrammar
import AuthRelay.Proofs.Tables
/-!
# What an opened path is made of

The path that is opened for a path text is made of the characters of that text, of variables and of
home directories, and of slashes and dots. So there is no NUL character in it on a machine on which
there is none in those.
-/
namespace AuthRelay

namespace PathText

section

variable {P : Char → Prop} {machine : Machine} {s t : List Char}

/-- Every character of a variable and of a home directory has a property. -/
structure MadeOf (P : Char → Prop) (machine : Machine) : Prop where
  values : ∀ name value, machine.environment.find? name = some value → ∀ c ∈ value.toList, P c
  homes : ∀ name home, machine.homes.find? name = some home → ∀ c ∈ home.toList, P c

theorem MadeOf.expands (h : MadeOf P machine) (hexpands : Expands machine.environment s t)
    (hs : ∀ c ∈ s, P c) : ∀ c ∈ t, P c := by
  induction hexpands with
  | nil => exact hs
  | char _ _ ih | dollar _ _ ih =>
    obtain ⟨hc, hrest⟩ := List.forall_mem_cons.mp hs
    exact List.forall_mem_cons.mpr ⟨hc, ih hrest⟩
  | bound _ hvalue _ ih =>
    obtain ⟨-, hrest⟩ := List.forall_mem_append.mp (List.forall_mem_cons.mp hs).2
    exact List.forall_mem_append.mpr ⟨h.values _ _ hvalue, ih hrest⟩
  | unbound _ _ _ ih =>
    obtain ⟨hdollar, hreference⟩ := List.forall_mem_cons.mp hs
    obtain ⟨hwritten, hrest⟩ := List.forall_mem_append.mp hreference
    exact List.forall_mem_cons.mpr ⟨hdollar, List.forall_mem_append.mpr ⟨hwritten, ih hrest⟩⟩

theorem MadeOf.isHome (h : MadeOf P machine) {account home : String}
    (hhome : IsHome machine account home) : ∀ c ∈ home.toList, P c := by
  cases hhome with
  | told hvalue => exact h.values _ home hvalue
  | own _ hhome | account _ hhome => exact h.homes _ home hhome

theorem MadeOf.homeExpands (h : MadeOf P machine) (hslash : P '/')
    (hexpands : HomeExpands machine s t) (hs : ∀ c ∈ s, P c) : ∀ c ∈ t, P c := by
  cases hexpands with
  | plain | unknown => exact hs
  | known _ _ hhome hkept =>
    obtain ⟨⟨slashes, heq, -⟩, -⟩ := hkept
    have hmade := h.isHome hhome
    rw [heq] at hmade
    have hrest := List.forall_mem_append.mp (List.forall_mem_cons.mp hs).2
    split
    · simpa using hslash
    · exact List.forall_mem_append.mpr ⟨(List.forall_mem_append.mp hmade).1, hrest.2⟩

/-- What is opened for a path text is made of the same characters, and of slashes and dots. -/
theorem forall_mem_normalize (hslash : P '/') (hdot : P '.') {path : String}
    (hpath : ∀ c ∈ path.toList, P c) : ∀ c ∈ (normalize path).toList, P c := by
  unfold normalize
  extract_lets s slashes root names
  have hroot : ∀ c ∈ root, P c := by
    unfold root
    split
    · simp
    · split <;> simpa using hslash
  split
  · simpa using hdot
  · rw [String.toList_ofList]
    refine List.forall_mem_append.mpr ⟨hroot, fun c hc => ?_⟩
    obtain rfl | ⟨name, hname, hc⟩ := Text.mem_glue hc
    · exact hslash
    · exact hpath c (Text.mem_of_mem_pieces (List.mem_of_mem_filter hname) hc)

end

end PathText

/-- No variable and no home directory has a NUL character in it, which the system sees to. -/
def Machine.NulFree (machine : Machine) : Prop :=
  (∀ entry ∈ machine.environment, holdsNul entry.2 = false) ∧
    ∀ entry ∈ machine.homes, holdsNul entry.2 = false

instance (machine : Machine) : Decidable machine.NulFree :=
  inferInstanceAs (Decidable (_ ∧ _))

theorem holdsNul_eq_false_iff {text : String} :
    holdsNul text = false ↔ ∀ c ∈ text.toList, c ≠ '\x00' := by
  rw [holdsNul, decide_eq_false_iff_not]
  exact ⟨fun h c hc heq => h (heq ▸ hc), fun h hmem => h _ hmem rfl⟩

theorem Machine.NulFree.madeOf {machine : Machine} (h : machine.NulFree) :
    PathText.MadeOf (· ≠ '\x00') machine where
  values _ _ hvalue := holdsNul_eq_false_iff.mp (h.1 _ (Table.mem_of_find? hvalue))
  homes _ _ hhome := holdsNul_eq_false_iff.mp (h.2 _ (Table.mem_of_find? hhome))

/-- A path text without a NUL character does not come to a path with one. -/
theorem Machine.NulFree.holdsNul_of_comesTo {machine : Machine} (h : machine.NulFree)
    {text path : String} (hcomes : PathText.ComesTo machine text path)
    (htext : holdsNul text = false) : holdsNul path = false := by
  obtain ⟨named, homed, hnamed, hhomed, rfl⟩ := hcomes
  rw [holdsNul_eq_false_iff] at htext ⊢
  have hvariables := h.madeOf.expands hnamed htext
  have hhome := h.madeOf.homeExpands (by decide) hhomed hvariables
  refine PathText.forall_mem_normalize (by decide) (by decide) ?_
  rwa [String.toList_ofList]

end AuthRelay
