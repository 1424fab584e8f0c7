import AuthRelay.Charset
import AuthRelay.Text.Base64
/-!
# Base64 reads what it writes, and nothing else

Main statements: `decode?_encode`, that strict reading gives the written octets back, and
`decode?_eq_some_iff`, that it accepts no other text for them; `length_encode`, that the written
form is made of whole groups of four, `padded_encode`, that it is letters with padding at the end,
and `isAscii_encode`, that it is ASCII.
-/
namespace AuthRelay.Text.Base64

/-- A letter is read as its number. -/
theorem value?_letter {n : Nat} (h : n < 64) : value? (letter n) = some n := by
  have hall : ∀ m : Fin 64, value? (letter m.val) = some m.val := by decide
  exact hall ⟨n, h⟩

/-- The padding is not a letter. -/
theorem letter_ne_padding {n : Nat} (h : n < 64) : letter n ≠ '=' := by
  have hall : ∀ m : Fin 64, letter m.val ≠ '=' := by decide
  exact hall ⟨n, h⟩

/-- An octet is known by its number. -/
theorem ofNat_eq_of_toNat {b : UInt8} {n : Nat} (h : n = b.toNat) : UInt8.ofNat n = b := by
  rw [h, UInt8.ofNat_toNat]

/-- Four letters give back the three octets that they were written for. -/
theorem three?_letters (a b c : UInt8) {n : Nat}
    (hn : n = a.toNat * 65536 + b.toNat * 256 + c.toNat) :
    three? (letter (n / 262144 % 64)) (letter (n / 4096 % 64)) (letter (n / 64 % 64))
      (letter (n % 64)) = some [a, b, c] := by
  have ha := a.toNat_lt
  have hb := b.toNat_lt
  have hc := c.toNat_lt
  have h : ((n / 262144 % 64 * 64 + n / 4096 % 64) * 64 + n / 64 % 64) * 64 + n % 64 = n := by
    omega
  simp only [three?, value?_letter (Nat.mod_lt _ (by decide : 0 < 64)), Option.bind_eq_bind,
    Option.bind_some, h]
  rw [ofNat_eq_of_toNat (b := a) (by omega), ofNat_eq_of_toNat (b := b) (by omega),
    ofNat_eq_of_toNat (b := c) (by omega)]

/-- Three letters and padding give back the two octets that they were written for. -/
theorem two?_letters (a b : UInt8) {n : Nat} (hn : n = a.toNat * 65536 + b.toNat * 256) :
    two? (letter (n / 262144 % 64)) (letter (n / 4096 % 64)) (letter (n / 64 % 64)) =
      some [a, b] := by
  have ha := a.toNat_lt
  have hb := b.toNat_lt
  have h : ((n / 262144 % 64 * 64 + n / 4096 % 64) * 64 + n / 64 % 64) = n / 64 := by omega
  simp only [two?, value?_letter (Nat.mod_lt _ (by decide : 0 < 64)), Option.bind_eq_bind,
    Option.bind_some, h]
  rw [if_pos (by omega), ofNat_eq_of_toNat (b := a) (by omega),
    ofNat_eq_of_toNat (b := b) (by omega)]

/-- Two letters and padding give back the octet that they were written for. -/
theorem one?_letters (a : UInt8) {n : Nat} (hn : n = a.toNat * 65536) :
    one? (letter (n / 262144 % 64)) (letter (n / 4096 % 64)) = some [a] := by
  have ha := a.toNat_lt
  have h : (n / 262144 % 64 * 64 + n / 4096 % 64) = n / 4096 := by omega
  simp only [one?, value?_letter (Nat.mod_lt _ (by decide : 0 < 64)), Option.bind_eq_bind,
    Option.bind_some, h]
  rw [if_pos (by omega), ofNat_eq_of_toNat (b := a) (by omega)]

/-- Strict reading gives the written octets back. -/
theorem decode?_encode (b : Bytes) : decode? (encode b) = some b := by
  induction b using encode.induct with
  | case1 a b c rest ih =>
    have hz := letter_ne_padding (n := (a.toNat * 65536 + b.toNat * 256 + c.toNat) % 64)
      (by omega)
    simp only [encode, decode?, if_neg hz, three?_letters a b c rfl, ih, Option.bind_eq_bind,
      Option.bind_some]
    rfl
  | case2 a b =>
    have hy := letter_ne_padding (n := (a.toNat * 65536 + b.toNat * 256) / 64 % 64) (by omega)
    simp only [encode, decode?, if_pos, if_neg hy, two?_letters a b rfl]
  | case3 a => simp only [encode, decode?, if_pos, one?_letters a rfl]
  | case4 => rfl

/-! ## What has been read is written as it was -/

/-- A number is read from its letter only. -/
theorem value?_eq_some_iff {c : Char} {n : Nat} : value? c = some n ↔ n < 64 ∧ c = letter n := by
  constructor
  · intro h
    have hchar : Char.ofNat c.toNat = c := Char.ofNat_toNat c
    unfold value? at h
    unfold letter
    dsimp only at h
    split at h
    · cases h
      rw [if_pos (by omega), Nat.sub_add_cancel (by omega), hchar]
      exact ⟨by omega, rfl⟩
    split at h
    · cases h
      rw [if_neg (by omega), if_pos (by omega), Nat.add_sub_cancel, Nat.sub_add_cancel (by omega),
        hchar]
      exact ⟨by omega, rfl⟩
    split at h
    · cases h
      rw [if_neg (by omega), if_neg (by omega), if_pos (by omega), Nat.add_sub_cancel,
        Nat.sub_add_cancel (by omega), hchar]
      exact ⟨by omega, rfl⟩
    split at h
    · cases h
      exact ⟨by decide, by assumption⟩
    split at h
    · cases h
      exact ⟨by decide, by assumption⟩
    · cases h
  · rintro ⟨hn, rfl⟩
    exact value?_letter hn

section

variable {w x y z : Char} {group : Bytes}

/-- Three octets are read from the four letters that are written for them. -/
theorem eq_encode_of_three? (h : three? w x y z = some group) :
    ∃ a b c, group = [a, b, c] ∧ [w, x, y, z] = encode [a, b, c] := by
  simp only [three?, Option.bind_eq_bind, Option.bind_eq_some_iff, value?_eq_some_iff] at h
  obtain ⟨i, ⟨hi, rfl⟩, j, ⟨hj, rfl⟩, k, ⟨hk, rfl⟩, l, ⟨hl, rfl⟩, heq⟩ := h
  cases heq
  refine ⟨_, _, _, rfl, ?_⟩
  simp only [encode, UInt8.toNat_ofNat', List.cons.injEq, and_true]
  refine ⟨congrArg letter ?_, congrArg letter ?_, congrArg letter ?_, congrArg letter ?_⟩ <;> omega

/-- Two octets are read from the three letters that are written for them. -/
theorem eq_encode_of_two? (h : two? w x y = some group) :
    ∃ a b, group = [a, b] ∧ [w, x, y, '='] = encode [a, b] := by
  simp only [two?, Option.bind_eq_bind, Option.bind_eq_some_iff, value?_eq_some_iff] at h
  obtain ⟨i, ⟨hi, rfl⟩, j, ⟨hj, rfl⟩, k, ⟨hk, rfl⟩, h⟩ := h
  split at h
  · -- the bits under the padding are zero, so nothing is lost by writing them again
    cases h
    refine ⟨_, _, rfl, ?_⟩
    simp only [encode, UInt8.toNat_ofNat', List.cons.injEq, and_true]
    refine ⟨congrArg letter ?_, congrArg letter ?_, congrArg letter ?_⟩ <;> omega
  · cases h

/-- One octet is read from the two letters that are written for it. -/
theorem eq_encode_of_one? (h : one? w x = some group) :
    ∃ a, group = [a] ∧ [w, x, '=', '='] = encode [a] := by
  simp only [one?, Option.bind_eq_bind, Option.bind_eq_some_iff, value?_eq_some_iff] at h
  obtain ⟨i, ⟨hi, rfl⟩, j, ⟨hj, rfl⟩, h⟩ := h
  split at h
  · cases h
    refine ⟨_, rfl, ?_⟩
    simp only [encode, UInt8.toNat_ofNat', List.cons.injEq, and_true]
    refine ⟨congrArg letter ?_, congrArg letter ?_⟩ <;> omega
  · cases h

end

/-- Strict reading accepts what is written, and nothing else. -/
theorem decode?_eq_some_iff {s : List Char} {b : Bytes} : decode? s = some b ↔ s = encode b := by
  constructor
  · intro h
    induction s using decode?.induct generalizing b with
    | case1 =>
      cases h
      rfl
    | case2 w x =>
      simp only [decode?, if_true] at h
      obtain ⟨a, rfl, hs⟩ := eq_encode_of_one? h
      exact hs
    | case3 w x y hy =>
      simp only [decode?, if_true, if_neg hy] at h
      obtain ⟨a, c, rfl, hs⟩ := eq_encode_of_two? h
      exact hs
    | case4 w x y rest hrest => simp [decode?, hrest] at h
    | case5 w x y z rest hz ih =>
      simp only [decode?, if_neg hz, Option.bind_eq_bind, Option.bind_eq_some_iff] at h
      obtain ⟨group, hgroup, tail, htail, heq⟩ := h
      cases heq
      obtain ⟨a, c, d, rfl, hs⟩ := eq_encode_of_three? hgroup
      rw [ih htail]
      exact congrArg (· ++ encode tail) hs
    | case6 s hnil hfour => simp [decode?] at h
  · rintro rfl
    exact decode?_encode b

/-! ## Length and letters -/

/-- The written form is made of whole groups. -/
theorem length_encode (b : Bytes) : (encode b).length = 4 * ((b.length + 2) / 3) := by
  induction b using encode.induct with
  | case1 a b c rest ih =>
    simp only [encode, List.length_cons, ih]
    omega
  | case2 a b => simp [encode]
  | case3 a => simp [encode]
  | case4 => rfl

/-- A letter of the alphabet: `A` to `Z`, `a` to `z`, `0` to `9`, `+` or `/`. -/
def IsLetter (c : Char) : Prop :=
  c.isAlphanum = true ∨ c = '+' ∨ c = '/'

instance (c : Char) : Decidable (IsLetter c) :=
  inferInstanceAs (Decidable (_ ∨ _))

/-- Letters, with at most two signs of padding after them. -/
def Padded (s : List Char) : Prop :=
  ∃ letters padding, s = letters ++ List.replicate padding '=' ∧ padding ≤ 2 ∧
    ∀ c ∈ letters, IsLetter c

theorem isLetter_letter {n : Nat} (h : n < 64) : IsLetter (letter n) := by
  have hall : ∀ m : Fin 64, IsLetter (letter m.val) := by decide
  exact hall ⟨n, h⟩

theorem Padded.append (front : List Char) {s : List Char} (hfront : ∀ c ∈ front, IsLetter c)
    (h : Padded s) : Padded (front ++ s) := by
  obtain ⟨letters, padding, rfl, hpadding, hletters⟩ := h
  refine ⟨front ++ letters, padding, (List.append_assoc _ _ _).symm, hpadding, ?_⟩
  exact List.forall_mem_append.mpr ⟨hfront, hletters⟩

/-- What is written is letters with padding at the end. -/
theorem padded_encode (b : Bytes) : Padded (encode b) := by
  have hletter : ∀ n, IsLetter (letter (n % 64)) :=
    fun n => isLetter_letter (Nat.mod_lt n (by decide))
  induction b using encode.induct with
  | case1 a b c rest ih =>
    exact Padded.append [_, _, _, _] (by simp [hletter]) ih
  | case2 a b => exact ⟨[_, _, _], 1, rfl, by decide, by simp [hletter]⟩
  | case3 a => exact ⟨[_, _], 2, rfl, by decide, by simp [hletter]⟩
  | case4 => exact ⟨[], 0, rfl, by decide, by simp⟩

theorem toNat_letter_lt {n : Nat} (h : n < 64) : (letter n).toNat < 0x80 := by
  have hall : ∀ m : Fin 64, (letter m.val).toNat < 0x80 := by decide
  exact hall ⟨n, h⟩

/-- What is encoded is ASCII, whatever it is. -/
theorem isAscii_encode (b : Bytes) : Charset.isAscii (encode b) = true := by
  have hletter : ∀ n, decide ((letter (n % 64)).toNat < 0x80) = true :=
    fun n => decide_eq_true (toNat_letter_lt (Nat.mod_lt n (by decide)))
  unfold Charset.isAscii
  induction b using encode.induct with
  | case1 a b c rest ih => simp only [encode, List.all_cons, hletter, ih, Bool.and_self]
  | case2 a b =>
    simp only [encode, List.all_cons, hletter, List.all_nil, Bool.and_true, Bool.true_and]
    decide
  | case3 a =>
    simp only [encode, List.all_cons, hletter, List.all_nil, Bool.and_true, Bool.true_and]
    decide
  | case4 => rfl

end AuthRelay.Text.Base64
