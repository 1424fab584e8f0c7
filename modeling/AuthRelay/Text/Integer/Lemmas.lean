import AuthRelay.Text.Integer
import AuthRelay.Text.Stripped
/-!
# Reading decimal digits

Of all the ways in which an integer may be written, the plain one: digits of ASCII and nothing else.
It is read as the number that the digits denote, with or without leading zeros, unless there are too
many of them.
-/
namespace AuthRelay.Text.Integer

variable {c : Char} {s : List Char}

theorem toNat_of_isDigit (h : c.isDigit = true) : 48 ≤ c.toNat ∧ c.toNat ≤ 57 := by
  simpa [Char.isDigit, UInt32.le_iff_toNat_le] using h

theorem isBlank_of_isDigit (h : c.isDigit = true) : isBlank c = false := by
  obtain ⟨hlow, hhigh⟩ := toNat_of_isDigit h
  simp only [isBlank, Bool.or_eq_false_iff, Bool.and_eq_false_iff, decide_eq_false_iff_not,
    beq_eq_false_iff_ne]
  omega

theorem digit?_of_isDigit (h : c.isDigit = true) : digit? c = some (c.toNat - 48) := by
  obtain ⟨hlow, hhigh⟩ := toNat_of_isDigit h
  -- the digits of ASCII are the first run in the table
  have hfind : zeros.find? (fun low => low ≤ c.toNat && c.toNat < low + 10) = some 0x30 := by
    refine List.find?_cons_of_pos ?_
    simp only [Bool.and_eq_true, decide_eq_true_eq]
    omega
  rw [digit?, hfind]
  rfl

theorem digits?_of_isDigit (hne : s ≠ []) (h : ∀ c ∈ s, c.isDigit = true) :
    digits? s = some (s.map fun c => c.toNat - 48) := by
  fun_induction digits? s with
  | case1 => exact absurd rfl hne
  | case2 c => simp [digit?_of_isDigit (h c (by simp))]
  | case3 c rest => exact absurd (h '_' (by simp)) (by decide)
  | case4 c rest hrest _ ih =>
    obtain ⟨hc, hrest'⟩ := List.forall_mem_cons.mp h
    simp [digit?_of_isDigit hc, ih hrest hrest']

theorem ofDigits_eq (s : List Char) :
    ofDigits (s.map fun c => c.toNat - 48) = Nat.ofDigitChars 10 s 0 := by
  rw [ofDigits, List.foldl_map, Nat.ofDigitChars]
  congr 1
  funext n c
  rw [Nat.mul_comm]
  rfl

/-- Digits are read as the number that they denote. -/
theorem read?_of_isDigit (hne : s ≠ []) (h : ∀ c ∈ s, c.isDigit = true) :
    read? s = if s.length ≤ maxDigits then some ↑(Nat.ofDigitChars 10 s 0) else none := by
  have htrim : trim s = s := by
    refine trim_eq_iff.mpr ⟨⟨?_, ?_⟩, [], [], by simp [AllBlank], by simp [AllBlank], by simp⟩
    · exact fun c hc => isBlank_of_isDigit (h c (List.mem_of_head? hc))
    · exact fun c hc => isBlank_of_isDigit (h c (List.mem_of_getLast? hc))
  have hread : readNat? s =
      if s.length ≤ maxDigits then some (Nat.ofDigitChars 10 s 0) else none := by
    simp [readNat?, digits?_of_isDigit hne h, ofDigits_eq]
  have hplus : '+' ∉ s := fun hmem => absurd (h '+' hmem) (by decide)
  have hminus : '-' ∉ s := fun hmem => absurd (h '-' hmem) (by decide)
  unfold read?
  rw [htrim]
  split
  · simp at hplus
  · simp at hminus
  · rw [hread]
    split <;> rfl

end AuthRelay.Text.Integer
