/-!
# Cutting a text at a character

`pieces` cuts at every occurrence of a separator and `glue` puts the pieces together again.
`cutFirst?` and `cutLast?` cut once, at the first or the last occurrence. Where a stretch of
characters of one kind ends is told by what follows it.
-/
namespace AuthRelay.Text

/-- The stretches between the separators; there is one more of them than separators. -/
def pieces (sep : Char) : List Char → List (List Char)
  | [] => [[]]
  | c :: rest =>
    if c = sep then [] :: pieces sep rest
    else match pieces sep rest with
      | [] => [[c]]
      | first :: others => (c :: first) :: others

/-- The pieces with a separator between each two. -/
def glue (sep : Char) : List (List Char) → List Char
  | [] => []
  | [piece] => piece
  | piece :: rest => piece ++ sep :: glue sep rest

/-- What stands before and after the first separator. -/
def cutFirst? (sep : Char) : List Char → Option (List Char × List Char)
  | [] => none
  | c :: rest =>
    if c = sep then some ([], rest)
    else (cutFirst? sep rest).map fun (before, after) => (c :: before, after)

/-- What stands before and after the last separator. -/
def cutLast? (sep : Char) : List Char → Option (List Char × List Char)
  | [] => none
  | c :: rest =>
    match cutLast? sep rest with
    | some (before, after) => some (c :: before, after)
    | none => if c = sep then some ([], rest) else none

theorem pieces_ne_nil (sep : Char) (s : List Char) : pieces sep s ≠ [] := by
  cases s with
  | nil => simp [pieces]
  | cons c rest =>
    simp only [pieces]
    split
    · simp
    · split <;> simp

theorem glue_cons {sep : Char} {piece : List Char} {rest : List (List Char)} (h : rest ≠ []) :
    glue sep (piece :: rest) = piece ++ sep :: glue sep rest := by
  cases rest with
  | nil => exact absurd rfl h
  | cons a l => rfl

theorem glue_cons_cons (sep c : Char) (first : List Char) (others : List (List Char)) :
    glue sep ((c :: first) :: others) = c :: glue sep (first :: others) := by
  cases others <;> rfl

/-- Cutting loses nothing. -/
theorem glue_pieces (sep : Char) (s : List Char) : glue sep (pieces sep s) = s := by
  induction s with
  | nil => rfl
  | cons c rest ih =>
    simp only [pieces]
    split
    · rename_i h
      rw [glue_cons (pieces_ne_nil sep rest), ih, h, List.nil_append]
    · split
      · rename_i h
        exact absurd h (pieces_ne_nil sep rest)
      · rename_i first others h
        rw [glue_cons_cons, ← h, ih]

/-- There is nothing in a glued text but its pieces and separators. -/
theorem mem_glue {sep c : Char} {names : List (List Char)} (h : c ∈ glue sep names) :
    c = sep ∨ ∃ name ∈ names, c ∈ name := by
  induction names with
  | nil => cases h
  | cons name rest ih =>
    cases rest with
    | nil => exact .inr ⟨name, List.mem_cons_self, h⟩
    | cons next others =>
      rw [glue_cons (List.cons_ne_nil _ _), List.mem_append, List.mem_cons] at h
      rcases h with h | h | h
      · exact .inr ⟨name, List.mem_cons_self, h⟩
      · exact .inl h
      · obtain h | ⟨other, hmem, h⟩ := ih h
        · exact .inl h
        · exact .inr ⟨other, List.mem_cons_of_mem _ hmem, h⟩

theorem mem_glue_of_mem {sep c : Char} {names : List (List Char)} {name : List Char}
    (hname : name ∈ names) (hc : c ∈ name) : c ∈ glue sep names := by
  induction names with
  | nil => cases hname
  | cons first rest ih =>
    cases rest with
    | nil =>
      obtain rfl := List.mem_singleton.mp hname
      exact hc
    | cons next others =>
      rw [glue_cons (List.cons_ne_nil _ _), List.mem_append, List.mem_cons]
      obtain rfl | hmem := List.mem_cons.mp hname
      · exact .inl hc
      · exact .inr (.inr (ih hmem))

/-- There is nothing in a piece that is not in the text. -/
theorem mem_of_mem_pieces {sep c : Char} {s piece : List Char} (hpiece : piece ∈ pieces sep s)
    (hc : c ∈ piece) : c ∈ s := by
  have hglued : c ∈ glue sep (pieces sep s) := mem_glue_of_mem hpiece hc
  rwa [glue_pieces] at hglued

theorem cutLast?_of_not_mem {sep : Char} {s : List Char} (h : sep ∉ s) : cutLast? sep s = none := by
  induction s with
  | nil => rfl
  | cons c rest ih =>
    simp only [List.mem_cons, not_or] at h
    simp only [cutLast?, ih h.2, if_neg (Ne.symm h.1)]

/-- The cut is at the separator behind which there is no other. -/
theorem cutLast?_append {sep : Char} {after : List Char} (h : sep ∉ after) (before : List Char) :
    cutLast? sep (before ++ sep :: after) = some (before, after) := by
  induction before with
  | nil => simp only [List.nil_append, cutLast?, cutLast?_of_not_mem h, if_true]
  | cons c before ih => simp only [List.cons_append, cutLast?, ih]

section Stretches

variable {p : Char → Bool} {s tail : List Char}

/-- A stretch of characters of a kind ends before the first one that is not. -/
theorem takeWhile_stretch (hs : ∀ c ∈ s, p c = true) (htail : ∀ c ∈ tail.head?, p c = false) :
    (s ++ tail).takeWhile p = s := by
  rw [List.takeWhile_append_of_pos hs]
  cases tail with
  | nil => simp
  | cons c rest => simp [htail c rfl]

theorem dropWhile_stretch (hs : ∀ c ∈ s, p c = true) (htail : ∀ c ∈ tail.head?, p c = false) :
    (s ++ tail).dropWhile p = tail := by
  rw [List.dropWhile_append_of_pos hs]
  cases tail with
  | nil => simp
  | cons c rest => simp [htail c rfl]

/-- Every text is such a stretch and what follows it. -/
theorem exists_stretch (p : Char → Bool) (s : List Char) :
    ∃ stretch tail, s = stretch ++ tail ∧ (∀ c ∈ stretch, p c = true) ∧
      ∀ c ∈ tail.head?, p c = false := by
  refine ⟨s.takeWhile p, s.dropWhile p, List.takeWhile_append_dropWhile.symm,
    List.all_eq_true.mp List.all_takeWhile, fun c hc => ?_⟩
  have hstop := List.head?_dropWhile_not p s
  rw [Option.mem_def.mp hc] at hstop
  exact hstop

end Stretches

end AuthRelay.Text
