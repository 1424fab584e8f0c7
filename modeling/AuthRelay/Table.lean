/-!
# Tables

Values under names, in the order in which the names first came up. Assigning to a name again keeps
its place. `find?_assign_self` and `find?_assign_of_ne` say what a look-up finds afterwards.
-/
namespace AuthRelay

/-- Names with their values. The first entry of a name counts. -/
abbrev Table (α : Type) := List (String × α)

namespace Table

variable {α : Type}

/-- The value under a name. -/
def find? : Table α → String → Option α
  | [], _ => none
  | (n, v) :: rest, name => if n = name then some v else find? rest name

/-- Puts a value under a name, over the old one if there is one. -/
def assign : Table α → String → α → Table α
  | [], name, value => [(name, value)]
  | (n, v) :: rest, name, value =>
    if n = name then (n, value) :: rest else (n, v) :: assign rest name value

/-- Takes a name out. -/
def without (table : Table α) (name : String) : Table α :=
  table.filter fun (n, _) => n != name

theorem find?_cons (n name : String) (v : α) (rest : Table α) :
    find? ((n, v) :: rest) name = if n = name then some v else find? rest name := rfl

@[simp] theorem find?_assign_self (table : Table α) (name : String) (value : α) :
    find? (assign table name value) name = some value := by
  induction table with
  | nil => simp [assign, find?]
  | cons entry rest ih =>
    obtain ⟨n, v⟩ := entry
    by_cases h : n = name <;> simp [assign, find?, h, ih]

theorem find?_assign_of_ne {name other : String} (h : name ≠ other) (table : Table α) (value : α) :
    find? (assign table name value) other = find? table other := by
  induction table with
  | nil => simp [assign, find?, h]
  | cons entry rest ih =>
    obtain ⟨n, v⟩ := entry
    by_cases hn : n = name
    · subst hn
      simp [assign, find?, h]
    · simp [assign, find?_cons, hn, ih]

end Table
end AuthRelay
