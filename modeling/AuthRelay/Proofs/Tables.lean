import AuthRelay.Table
import Mathlib.Data.List.Forall2
/-!
# Tables and what they hold

Renaming the values of a table commutes with looking up and assigning. A table lies within another
one that holds whatever it holds. Assigning keeps the names of a table apart, and of two tables one
after the other the first is looked at first.
-/
namespace AuthRelay

theorem Table.find?_map {α β : Type} (f : α → β) (table : Table α) (name : String) :
    Table.find? (table.map fun (n, a) => (n, f a)) name = (table.find? name).map f := by
  induction table with
  | nil => rfl
  | cons entry rest ih =>
    obtain ⟨n, a⟩ := entry
    by_cases h : n = name <;> simp [Table.find?_cons, h, ih]

theorem Table.map_assign {α β : Type} (f : α → β) (table : Table α) (name : String) (a : α) :
    (table.assign name a).map (fun (n, a) => (n, f a)) =
      Table.assign (table.map fun (n, a) => (n, f a)) name (f a) := by
  induction table with
  | nil => rfl
  | cons entry rest ih =>
    obtain ⟨n, b⟩ := entry
    by_cases h : n = name <;> simp [Table.assign, h, ih]

theorem Table.mem_of_find? {α : Type} {table : Table α} {name : String} {value : α}
    (h : table.find? name = some value) : (name, value) ∈ table := by
  induction table with
  | nil => cases h
  | cons entry rest ih =>
    obtain ⟨n, a⟩ := entry
    rw [Table.find?_cons] at h
    by_cases hn : n = name
    · rw [if_pos hn] at h
      cases hn
      cases h
      exact List.mem_cons_self
    · rw [if_neg hn] at h
      exact List.mem_cons_of_mem _ (ih h)

/-- Whatever a table holds, another one holds too. -/
def Table.Within {α : Type} (table larger : Table α) : Prop :=
  ∀ name value, table.find? name = some value → larger.find? name = some value

theorem Table.Within.refl {α : Type} (table : Table α) : table.Within table :=
  fun _ _ h => h

theorem Table.Within.trans {α : Type} {a b c : Table α} (h : a.Within b) (h' : b.Within c) :
    a.Within c :=
  fun name value hv => h' name value (h name value hv)

theorem Table.Within.assign {α : Type} {table larger : Table α} (h : table.Within larger)
    {name : String} (hfree : larger.find? name = none) (value : α) :
    table.Within (larger.assign name value) := by
  intro other found hfound
  have hne : name ≠ other := by
    rintro rfl
    rw [h name found hfound] at hfree
    cases hfree
  rw [Table.find?_assign_of_ne hne]
  exact h other found hfound

/-! ## The names of a table -/

namespace Table

variable {α : Type} {table : Table α} {name : String}

theorem find?_eq_none_of_not_mem (h : name ∉ table.map Prod.fst) : table.find? name = none := by
  cases hfound : table.find? name with
  | none => rfl
  | some a => exact absurd (List.mem_map_of_mem (mem_of_find? hfound)) h

/-- What a table does not hold is looked up in what comes after it. -/
theorem find?_append (table more : Table α) (name : String) :
    Table.find? (table ++ more) name = (table.find? name).or (Table.find? more name) := by
  induction table with
  | nil => rfl
  | cons entry rest ih =>
    obtain ⟨n, a⟩ := entry
    rw [List.cons_append, find?_cons, find?_cons]
    by_cases hn : n = name
    · rw [if_pos hn, if_pos hn, Option.some_or]
    · rw [if_neg hn, if_neg hn, ih]

/-- A name that a table does not hold yet is put at its end. -/
theorem assign_of_find?_eq_none (h : table.find? name = none) (value : α) :
    table.assign name value = table ++ [(name, value)] := by
  induction table with
  | nil => rfl
  | cons entry rest ih =>
    obtain ⟨n, v⟩ := entry
    rw [find?_cons] at h
    by_cases hn : n = name
    · rw [if_pos hn] at h
      cases h
    · rw [if_neg hn] at h
      rw [assign, if_neg hn, ih h, List.cons_append]

theorem mem_names_assign (table : Table α) (name other : String) (value : α) :
    other ∈ (table.assign name value).map Prod.fst ↔ other = name ∨ other ∈ table.map Prod.fst := by
  induction table with
  | nil => simp [assign]
  | cons entry rest ih =>
    obtain ⟨n, v⟩ := entry
    rw [assign]
    by_cases hn : n = name
    · subst hn
      simp
    · simp [hn, ih, or_left_comm]

theorem nodup_names_assign (h : (table.map Prod.fst).Nodup) (name : String) (value : α) :
    ((table.assign name value).map Prod.fst).Nodup := by
  induction table with
  | nil => simp [assign]
  | cons entry rest ih =>
    obtain ⟨n, v⟩ := entry
    rw [List.map_cons, List.nodup_cons] at h
    rw [assign]
    by_cases hn : n = name
    · rw [if_pos hn, List.map_cons, List.nodup_cons]
      exact h
    · rw [if_neg hn, List.map_cons, List.nodup_cons, mem_names_assign]
      exact ⟨fun hmem => hmem.elim hn h.1, ih h.2⟩

end Table

/-! ## Tables with related values -/

/-- Two tables with the same names in the same order, and with related values under each. -/
def Table.Related {α β : Type} (R : String → α → β → Prop) : Table α → Table β → Prop :=
  List.Forall₂ fun entry entry' => entry.1 = entry'.1 ∧ R entry.1 entry.2 entry'.2

namespace Table.Related

variable {α β : Type} {R : String → α → β → Prop} {table : Table α} {table' : Table β}

theorem refl {R : String → α → α → Prop} (hR : ∀ name a, R name a a) (table : Table α) :
    Table.Related R table table :=
  List.forall₂_same.mpr fun entry _ => ⟨rfl, hR entry.1 entry.2⟩

/-- A look-up finds related values, or nothing in either. -/
theorem find? (h : Table.Related R table table') (name : String) :
    Option.Rel (R name) (table.find? name) (table'.find? name) := by
  induction h with
  | nil => exact .none
  | @cons entry entry' rest rest' hentry _ ih =>
    obtain ⟨n, a⟩ := entry
    obtain ⟨_, b⟩ := entry'
    obtain ⟨rfl, hvalue⟩ := hentry
    rw [Table.find?_cons, Table.find?_cons]
    by_cases hn : n = name
    · subst hn
      rw [if_pos rfl, if_pos rfl]
      exact .some hvalue
    · rw [if_neg hn, if_neg hn]
      exact ih

theorem assign (h : Table.Related R table table') {name : String} {a : α} {b : β}
    (hab : R name a b) : Table.Related R (table.assign name a) (table'.assign name b) := by
  induction h with
  | nil => exact .cons ⟨rfl, hab⟩ .nil
  | @cons entry entry' rest rest' hentry hrest ih =>
    obtain ⟨n, c⟩ := entry
    obtain ⟨_, d⟩ := entry'
    obtain ⟨rfl, hvalue⟩ := hentry
    simp only [Table.assign]
    by_cases hn : n = name
    · subst hn
      rw [if_pos rfl, if_pos rfl]
      exact .cons ⟨rfl, hab⟩ hrest
    · rw [if_neg hn, if_neg hn]
      exact .cons ⟨rfl, hvalue⟩ ih

theorem without (h : Table.Related R table table') (name : String) :
    Table.Related R (table.without name) (table'.without name) := by
  refine List.rel_filter ?_ h
  rintro ⟨n, a⟩ ⟨_, b⟩ ⟨rfl, -⟩
  exact .rfl

end Table.Related
end AuthRelay
