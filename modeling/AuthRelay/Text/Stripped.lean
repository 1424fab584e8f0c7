import AuthRelay.Text.Blank
import AuthRelay.Text.Newline
/-!
# Texts and the blanks around them

`Stripped s t` says what trimming is for: `t` stands between blanks in `s`, and neither begins nor
ends with a blank itself. `trim_eq_iff` says that trimming finds this text and no other, and
`Stripped.unifyNewlines` that line ends may be unified before or after it: a line end never reaches
across the border between a text and the blanks around it.
-/
namespace AuthRelay.Text

/-- A text of blanks only. -/
def AllBlank (s : List Char) : Prop :=
  ∀ c ∈ s, isBlank c = true

/-- A text that neither begins nor ends with a blank. -/
structure IsTrimmed (s : List Char) : Prop where
  head : ∀ c ∈ s.head?, isBlank c = false
  last : ∀ c ∈ s.getLast?, isBlank c = false

/-- The second text is what the first one holds between the blanks around it. -/
def Stripped (s t : List Char) : Prop :=
  IsTrimmed t ∧ ∃ p q, AllBlank p ∧ AllBlank q ∧ s = p ++ t ++ q

instance (s : List Char) : Decidable (AllBlank s) :=
  decidable_of_iff (s.all isBlank) List.all_eq_true

instance (s : List Char) : Decidable (IsTrimmed s) :=
  decidable_of_iff (s.head?.all (!isBlank ·) ∧ s.getLast?.all (!isBlank ·)) <| by
    simp only [Option.all_eq_true, Bool.not_eq_true']
    exact ⟨fun h => ⟨h.1, h.2⟩, fun h => ⟨h.head, h.last⟩⟩

/-! ## Trimming -/

section

variable {p q s t : List Char}

theorem allBlank_cons {c : Char} : AllBlank (c :: s) ↔ isBlank c = true ∧ AllBlank s :=
  List.forall_mem_cons

theorem AllBlank.append (hp : AllBlank p) (hq : AllBlank q) : AllBlank (p ++ q) :=
  fun c hc => (List.mem_append.mp hc).elim (hp c) (hq c)

theorem AllBlank.reverse (hp : AllBlank p) : AllBlank p.reverse :=
  fun c hc => hp c (List.mem_reverse.mp hc)

theorem IsTrimmed.reverse (hs : IsTrimmed s) : IsTrimmed s.reverse where
  head := by
    rw [List.head?_reverse]
    exact hs.last
  last := by
    rw [List.getLast?_reverse]
    exact hs.head

theorem trimLeft_append (hp : AllBlank p) (s : List Char) : trimLeft (p ++ s) = trimLeft s :=
  List.dropWhile_append_of_pos hp

theorem trimLeft_eq_self (h : ∀ c ∈ s.head?, isBlank c = false) : trimLeft s = s := by
  cases s with
  | nil => rfl
  | cons c rest => exact trimLeft_cons_of_not_isBlank (h c rfl)

theorem head?_trimLeft (s : List Char) : ∀ c ∈ (trimLeft s).head?, isBlank c = false := by
  intro c hc
  have hnot := List.head?_dropWhile_not isBlank s
  rw [← trimLeft, Option.mem_def.mp hc] at hnot
  exact hnot

/-- Trimming drops nothing but blanks. -/
theorem exists_trimLeft (s : List Char) : ∃ p, AllBlank p ∧ s = p ++ trimLeft s :=
  ⟨s.takeWhile isBlank, List.all_eq_true.mp List.all_takeWhile,
    List.takeWhile_append_dropWhile.symm⟩

theorem trimRight_append (hq : AllBlank q) (s : List Char) : trimRight (s ++ q) = trimRight s := by
  rw [trimRight, List.reverse_append, ← trimLeft, trimLeft_append hq.reverse]
  rfl

theorem trimRight_eq_self (hs : IsTrimmed s) : trimRight s = s := by
  rw [trimRight, ← trimLeft, trimLeft_eq_self hs.reverse.head, List.reverse_reverse]

theorem getLast?_trimRight (s : List Char) :
    ∀ c ∈ (trimRight s).getLast?, isBlank c = false := by
  rw [trimRight, ← trimLeft, List.getLast?_reverse]
  exact head?_trimLeft s.reverse

theorem exists_trimRight (s : List Char) : ∃ q, AllBlank q ∧ s = trimRight s ++ q := by
  obtain ⟨q, hq, hs⟩ := exists_trimLeft s.reverse
  refine ⟨q.reverse, hq.reverse, ?_⟩
  rw [trimRight, ← trimLeft, ← List.reverse_append, ← hs, List.reverse_reverse]

/-- Blanks around a trimmed text are what trimming drops. -/
theorem Stripped.trim_eq (h : Stripped s t) : trim s = t := by
  obtain ⟨ht, p, q, hp, hq, rfl⟩ := h
  rw [trim, List.append_assoc, trimLeft_append hp]
  cases t with
  | nil =>
    -- there are only blanks left
    have hnone := trimLeft_append hq []
    rw [List.append_nil] at hnone
    rw [List.nil_append, hnone]
    rfl
  | cons c rest =>
    rw [trimLeft_eq_self (s := c :: rest ++ q) ht.head, trimRight_append hq, trimRight_eq_self ht]

theorem stripped_trim (s : List Char) : Stripped s (trim s) := by
  obtain ⟨p, hp, hleft⟩ := exists_trimLeft s
  obtain ⟨q, hq, hright⟩ := exists_trimRight (trimLeft s)
  refine ⟨⟨fun c hc => ?_, getLast?_trimRight _⟩, p, q, hp, hq, ?_⟩
  · refine head?_trimLeft s c ?_
    rw [hright, List.head?_append, ← trim, Option.mem_def.mp hc]
    rfl
  · rw [List.append_assoc, trim, ← hright, ← hleft]

/-- Trimming finds the text between the blanks. -/
theorem trim_eq_iff : trim s = t ↔ Stripped s t :=
  ⟨fun h => h ▸ stripped_trim s, Stripped.trim_eq⟩

/-! ## Line ends beside blanks -/

/-- Line ends are unified on either side of a cut that does not go through one. -/
theorem unifyNewlines_append (h : s.getLast? = some '\r' → t.head? ≠ some '\n') :
    unifyNewlines (s ++ t) = unifyNewlines s ++ unifyNewlines t := by
  induction s using unifyNewlines.induct with
  | case1 => rfl
  | case2 rest ih =>
    have hrest := ih fun hlast => h (by simp [List.getLast?_cons, hlast])
    simp only [List.cons_append, unifyNewlines, hrest]
  | case3 c rest hpair ih =>
    have hrest := ih fun hlast => h (by simp [List.getLast?_cons, hlast])
    -- a carriage return before the cut does not pair up with what comes after it
    have hpair' : ∀ others, c = '\r' → rest ++ t = '\n' :: others → False := by
      intro others hc hothers
      cases rest with
      | nil =>
        subst hc
        exact h rfl (congrArg List.head? hothers)
      | cons d rest =>
        cases hothers
        exact hpair rest hc rfl
    rw [List.cons_append, unifyNewlines, unifyNewlines, hrest, List.cons_append]
    · exact fun others hc => hpair others hc
    · exact fun others hc => hpair' others hc

theorem not_mem_unifyNewlines (s : List Char) : '\r' ∉ unifyNewlines s := by
  induction s using unifyNewlines.induct with
  | case1 => exact List.not_mem_nil
  | case2 rest ih => simpa [unifyNewlines] using ih
  | case3 c rest hpair ih =>
    rw [unifyNewlines, List.mem_cons, not_or]
    · refine ⟨?_, ih⟩
      split
      next => decide
      next hc => exact Ne.symm hc
    · exact fun others hc => hpair others hc

/-- Only carriage returns are changed. -/
theorem unifyNewlines_eq_self_iff : unifyNewlines s = s ↔ '\r' ∉ s :=
  ⟨fun h => h ▸ not_mem_unifyNewlines s, unifyNewlines_of_not_mem⟩

theorem unifyNewlines_cons {c : Char} (h : c ≠ '\r') (rest : List Char) :
    unifyNewlines (c :: rest) = c :: unifyNewlines rest := by
  rw [unifyNewlines, if_neg h]
  exact fun _ hc => absurd hc h

theorem AllBlank.unifyNewlines (hs : AllBlank s) : AllBlank (unifyNewlines s) := by
  induction s using Text.unifyNewlines.induct with
  | case1 => exact hs
  | case2 rest ih =>
    rw [allBlank_cons, allBlank_cons] at hs
    rw [Text.unifyNewlines, allBlank_cons]
    exact ⟨hs.2.1, ih hs.2.2⟩
  | case3 c rest hpair ih =>
    rw [allBlank_cons] at hs
    rw [Text.unifyNewlines, allBlank_cons]
    · refine ⟨?_, ih hs.2⟩
      split
      next => decide
      next => exact hs.1
    · exact fun others hc => hpair others hc

theorem ne_of_not_isBlank {c d : Char} (hc : isBlank c = false) (hd : isBlank d = true) :
    c ≠ d := by
  rintro rfl
  rw [hc] at hd
  cases hd

theorem IsTrimmed.unifyNewlines (hs : IsTrimmed s) : IsTrimmed (unifyNewlines s) where
  head := by
    cases s with
    | nil => exact hs.head
    | cons c rest =>
      rw [unifyNewlines_cons (ne_of_not_isBlank (hs.head c rfl) (by decide))]
      exact hs.head
  last := by
    cases hlast : s.getLast? with
    | none =>
      rw [List.getLast?_eq_none_iff.mp hlast]
      rintro c ⟨⟩
    | some c =>
      have hc : isBlank c = false := hs.last c hlast
      obtain ⟨before, rfl⟩ := List.getLast?_eq_some_iff.mp hlast
      rw [unifyNewlines_append fun _ => by simpa using ne_of_not_isBlank hc (by decide),
        unifyNewlines_cons (ne_of_not_isBlank hc (by decide)), List.getLast?_append]
      intro d hd
      cases hd
      exact hc

/-- Blanks stay blanks, and the text between them still is one. -/
theorem Stripped.unifyNewlines (h : Stripped s t) :
    Stripped (unifyNewlines s) (unifyNewlines t) := by
  obtain ⟨ht, p, q, hp, hq, rfl⟩ := h
  refine ⟨ht.unifyNewlines, ?_⟩
  cases t with
  | nil =>
    refine ⟨_, [], (hp.append hq).unifyNewlines, fun _ hc => absurd hc List.not_mem_nil, ?_⟩
    simp [Text.unifyNewlines]
  | cons c rest =>
    refine ⟨_, _, hp.unifyNewlines, hq.unifyNewlines, ?_⟩
    have hc : c ≠ '\n' := ne_of_not_isBlank (ht.head c rfl) (by decide)
    rw [List.append_assoc, unifyNewlines_append, unifyNewlines_append, List.append_assoc]
    · intro hlast
      exact absurd rfl (ne_of_not_isBlank (ht.last _ hlast) (by decide))
    · intro _ hhead
      exact hc (Option.some.inj hhead)

end
end AuthRelay.Text
