import AuthRelay.Text.Utf8
/-!
# UTF-8 reads what it writes, and writes what it reads

Main statements: `scan_encodeChars_append`, that the octets of a text are read as that text whatever
follows them, and its consequences `decode?_encode` and `encode_injective`; and the other way round
`encode_of_decode?`, that octets which are read without a malformed stretch are the octets of what
has been read.
-/
namespace AuthRelay.Text.Utf8

/-- The first octet in terms of numbers. -/
theorem lead_eq (b : UInt8) : lead b =
    if b.toNat < 0x80 then .ascii (Char.ofNat b.toNat)
    else if b.toNat < 0xC2 then .malformed
    else if b.toNat < 0xE0 then .sequence ⟨0, 0x80, 0xBF, b.toNat - 0xC0⟩
    else if b.toNat = 0xE0 then .sequence ⟨1, 0xA0, 0xBF, 0⟩
    else if b.toNat = 0xED then .sequence ⟨1, 0x80, 0x9F, 0x0D⟩
    else if b.toNat < 0xF0 then .sequence ⟨1, 0x80, 0xBF, b.toNat - 0xE0⟩
    else if b.toNat = 0xF0 then .sequence ⟨2, 0x90, 0xBF, 0⟩
    else if b.toNat < 0xF4 then .sequence ⟨2, 0x80, 0xBF, b.toNat - 0xF0⟩
    else if b.toNat = 0xF4 then .sequence ⟨2, 0x80, 0x8F, 4⟩
    else .malformed := by
  simp only [lead, UInt8.lt_iff_toNat_lt, ← UInt8.toNat_inj]
  rfl

/-- A first octet that announces a sequence is remembered. -/
theorem scan_sequence {b : UInt8} {p : Pending} (h : lead b = .sequence p) (rest : Bytes) :
    scan none (b :: rest) = scan (some p) rest := by
  rw [scan, h]

/-- A last continuation octet completes a character. -/
theorem scan_last {p : Pending} {n : Nat} (hd : p.due = 0) (hl : p.low.toNat ≤ n)
    (hh : n ≤ p.high.toNat) (rest : Bytes) : scan (some p) (UInt8.ofNat n :: rest) =
      some (Char.ofNat (p.bits * 64 + (n - 0x80))) :: scan none rest := by
  have hn : (UInt8.ofNat n).toNat = n := by
    have := p.high.toNat_lt
    rw [UInt8.toNat_ofNat', Nat.mod_eq_of_lt (by omega)]
  have h : p.low ≤ UInt8.ofNat n ∧ UInt8.ofNat n ≤ p.high := by
    rw [UInt8.le_iff_toNat_le, UInt8.le_iff_toNat_le, hn]
    exact ⟨hl, hh⟩
  rw [scan, if_pos h, hn, hd]

/-- Another continuation octet is remembered. -/
theorem scan_middle {p : Pending} {n due : Nat} (hd : p.due = due + 1) (hl : p.low.toNat ≤ n)
    (hh : n ≤ p.high.toNat) (rest : Bytes) : scan (some p) (UInt8.ofNat n :: rest) =
      scan (some ⟨due, 0x80, 0xBF, p.bits * 64 + (n - 0x80)⟩) rest := by
  have hn : (UInt8.ofNat n).toNat = n := by
    have := p.high.toNat_lt
    rw [UInt8.toNat_ofNat', Nat.mod_eq_of_lt (by omega)]
  have h : p.low ≤ UInt8.ofNat n ∧ UInt8.ofNat n ≤ p.high := by
    rw [UInt8.le_iff_toNat_le, UInt8.le_iff_toNat_le, hn]
    exact ⟨hl, hh⟩
  rw [scan, if_pos h, hn, hd]

/-- The first octet of a two-octet sequence. -/
theorem lead_two {n : Nat} (h : 0xC2 ≤ n) (h' : n < 0xE0) :
    lead (UInt8.ofNat n) = .sequence ⟨0, 0x80, 0xBF, n - 0xC0⟩ := by
  rw [lead_eq, UInt8.toNat_ofNat', Nat.mod_eq_of_lt (by omega), if_neg (by omega),
    if_neg (by omega), if_pos h']

/-- The first octet of a three-octet sequence. -/
theorem lead_three {n : Nat} (h : 0xE0 ≤ n) (h' : n < 0xF0) :
    lead (UInt8.ofNat n) = .sequence ⟨1, if n = 0xE0 then 0xA0 else 0x80,
      if n = 0xED then 0x9F else 0xBF, n - 0xE0⟩ := by
  rw [lead_eq, UInt8.toNat_ofNat', Nat.mod_eq_of_lt (by omega), if_neg (by omega),
    if_neg (by omega), if_neg (by omega)]
  split
  · subst n; rfl
  · split
    · subst n; rfl
    · rfl

/-- The first octet of a four-octet sequence. -/
theorem lead_four {n : Nat} (h : 0xF0 ≤ n) (h' : n ≤ 0xF4) :
    lead (UInt8.ofNat n) = .sequence ⟨2, if n = 0xF0 then 0x90 else 0x80,
      if n = 0xF4 then 0x8F else 0xBF, n - 0xF0⟩ := by
  rw [lead_eq, UInt8.toNat_ofNat', Nat.mod_eq_of_lt (by omega), if_neg (by omega),
    if_neg (by omega), if_neg (by omega), if_neg (by omega), if_neg (by omega), if_neg (by omega)]
  split
  · subst n; rfl
  · by_cases hn : n = 0xF4
    · subst n; rfl
    · rw [if_pos (by omega), if_neg hn]

/-- The octets of a character are read as that character. -/
theorem scan_utf8EncodeChar_append (c : Char) (rest : Bytes) :
    scan none (String.utf8EncodeChar c ++ rest) = some c :: scan none rest := by
  have hv : c.toNat < 0xD800 ∨ 0xDFFF < c.toNat ∧ c.toNat < 0x110000 := c.valid
  have hc : Char.ofNat c.toNat = c := Char.ofNat_toNat c
  have he := String.utf8EncodeChar.eq_1 c
  rw [show c.val.toNat = c.toNat from rfl] at he
  rw [he]
  generalize c.toNat = n at hv hc he
  clear he
  split
  · rename_i h
    have hn : (UInt8.ofNat n).toNat = n := by
      rw [UInt8.toNat_ofNat', Nat.mod_eq_of_lt (by omega)]
    rw [List.singleton_append, scan, lead_eq, hn, if_pos (by omega), hc]
  · split
    · rw [List.cons_append, List.singleton_append, scan_sequence (lead_two (by omega) (by omega)),
        scan_last rfl (by show 0x80 ≤ _; omega) (by show _ ≤ 0xBF; omega), ← hc]
      refine congrArg (fun m => some (Char.ofNat m) :: scan none rest) ?_
      dsimp only
      omega
    · split
      · rw [List.cons_append, List.cons_append, List.singleton_append,
          scan_sequence (lead_three (by omega) (by omega)),
          scan_middle rfl (by dsimp only; split <;> simp; omega)
            (by dsimp only; split <;> simp <;> omega),
          scan_last rfl (by show 0x80 ≤ _; omega) (by show _ ≤ 0xBF; omega), ← hc]
        refine congrArg (fun m => some (Char.ofNat m) :: scan none rest) ?_
        dsimp only
        omega
      · rw [List.cons_append, List.cons_append, List.cons_append, List.singleton_append,
          scan_sequence (lead_four (by omega) (by omega)),
          scan_middle rfl (by dsimp only; split <;> simp; omega)
            (by dsimp only; split <;> simp <;> omega),
          scan_middle rfl (by show 0x80 ≤ _; omega) (by show _ ≤ 0xBF; omega),
          scan_last rfl (by show 0x80 ≤ _; omega) (by show _ ≤ 0xBF; omega), ← hc]
        refine congrArg (fun m => some (Char.ofNat m) :: scan none rest) ?_
        dsimp only
        omega

/-- The octets of a text are read as that text, whatever follows. -/
theorem scan_encodeChars_append (s : List Char) (rest : Bytes) :
    scan none (encodeChars s ++ rest) = s.map some ++ scan none rest := by
  induction s with
  | nil => rfl
  | cons c s ih =>
    rw [encodeChars, List.flatMap_cons, List.append_assoc, scan_utf8EncodeChar_append]
    rw [encodeChars] at ih
    rw [ih]
    rfl

theorem scan_encodeChars (s : List Char) : scan none (encodeChars s) = s.map some := by
  have h := scan_encodeChars_append s []
  rwa [List.append_nil, scan, List.append_nil] at h

theorem mapM_id_map_some {α : Type} (s : List α) : (s.map some).mapM id = some s := by
  induction s with
  | nil => rfl
  | cons a s ih => simp [List.mapM_cons, ih]

/-- Strict decoding gives the encoded text back. -/
theorem decode?_encode (s : String) : decode? (encode s) = some s := by
  rw [decode?, encode, scan_encodeChars, mapM_id_map_some, Option.map_some, String.ofList_toList]

/-- Different texts have different octets. -/
theorem encode_injective {s t : String} (h : encode s = encode t) : s = t := by
  have hs := decode?_encode s
  rw [h, decode?_encode] at hs
  exact (Option.some.inj hs).symm

theorem encodeChars_append (s t : List Char) :
    encodeChars (s ++ t) = encodeChars s ++ encodeChars t := by
  simp [encodeChars]

/-! ## What has been read is written as it was

The induction is on the octets, one character at a time: a text without a malformed stretch begins
with a first octet that is followed by just as many others as it announces, each in its range, and
these are the octets of the character that they make. -/

/-- The octets of the character with a given number. -/
theorem utf8EncodeChar_ofNat {v : Nat} (hv : v < 0xD800 ∨ 0xDFFF < v ∧ v < 0x110000) :
    String.utf8EncodeChar (Char.ofNat v) =
      if v ≤ 0x7F then [UInt8.ofNat v]
      else if v ≤ 0x7FF then [UInt8.ofNat (v / 64 % 32 + 0xC0), UInt8.ofNat (v % 64 + 0x80)]
      else if v ≤ 0xFFFF then
        [UInt8.ofNat (v / 4096 % 16 + 0xE0), UInt8.ofNat (v / 64 % 64 + 0x80),
          UInt8.ofNat (v % 64 + 0x80)]
      else
        [UInt8.ofNat (v / 262144 % 8 + 0xF0), UInt8.ofNat (v / 4096 % 64 + 0x80),
          UInt8.ofNat (v / 64 % 64 + 0x80), UInt8.ofNat (v % 64 + 0x80)] := by
  have hn : (Char.ofNat v).val.toNat = v := by
    rw [Char.ofNat, dif_pos hv]
    rfl
  rw [String.utf8EncodeChar.eq_1, hn]

theorem exists_of_cons_eq_map_some {x : Option Char} {l : List (Option Char)} {s : List Char}
    (h : x :: l = s.map some) : ∃ c s', s = c :: s' ∧ x = some c ∧ l = s'.map some := by
  obtain ⟨c, s', rfl, hc, hl⟩ := List.map_eq_cons_iff.mp h.symm
  exact ⟨c, s', rfl, hc.symm, hl.symm⟩

section

variable {p : Pending} {b : Bytes} {s : List Char}

/-- A sequence under way goes on with an octet in the right range. -/
theorem next_of_scan (h : scan (some p) b = s.map some) :
    ∃ n rest, b = UInt8.ofNat n :: rest ∧ p.low.toNat ≤ n ∧ n ≤ p.high.toNat := by
  cases b with
  | nil =>
    obtain ⟨c, s', -, hc, -⟩ := exists_of_cons_eq_map_some h
    cases hc
  | cons o rest =>
    rw [scan] at h
    split at h
    · rename_i hrange
      rw [UInt8.le_iff_toNat_le, UInt8.le_iff_toNat_le] at hrange
      exact ⟨o.toNat, rest, by rw [UInt8.ofNat_toNat], hrange⟩
    · split at h <;>
      · obtain ⟨c, s', -, hc, -⟩ := exists_of_cons_eq_map_some h
        cases hc

/-- The last octet that is due completes a character. -/
theorem last_of_scan (hd : p.due = 0) (h : scan (some p) b = s.map some) :
    ∃ n rest s', b = UInt8.ofNat n :: rest ∧ p.low.toNat ≤ n ∧ n ≤ p.high.toNat ∧
      s = Char.ofNat (p.bits * 64 + (n - 0x80)) :: s' ∧ scan none rest = s'.map some := by
  obtain ⟨n, rest, rfl, hl, hh⟩ := next_of_scan h
  rw [scan_last hd hl hh] at h
  obtain ⟨c, s', rfl, hc, hrest⟩ := exists_of_cons_eq_map_some h
  obtain rfl := Option.some.inj hc
  exact ⟨n, rest, s', rfl, hl, hh, rfl, hrest⟩

/-- After any other octet the sequence is still under way. -/
theorem middle_of_scan {due : Nat} (hd : p.due = due + 1) (h : scan (some p) b = s.map some) :
    ∃ n rest, b = UInt8.ofNat n :: rest ∧ p.low.toNat ≤ n ∧ n ≤ p.high.toNat ∧
      scan (some ⟨due, 0x80, 0xBF, p.bits * 64 + (n - 0x80)⟩) rest = s.map some := by
  obtain ⟨n, rest, rfl, hl, hh⟩ := next_of_scan h
  rw [scan_middle hd hl hh] at h
  exact ⟨n, rest, rfl, hl, hh, h⟩

end

/-- Octets that begin with those of a character and go on without a malformed stretch. -/
def BeginsWithChar (b : Bytes) (s : List Char) : Prop :=
  ∃ c rest s', s = c :: s' ∧ b = String.utf8EncodeChar c ++ rest ∧ scan none rest = s'.map some

theorem toNat_80 : (0x80 : UInt8).toNat = 0x80 := rfl

theorem toNat_BF : (0xBF : UInt8).toNat = 0xBF := rfl

section

variable {k : Nat} {b : Bytes} {s : List Char}

theorem beginsWithChar_two (hk : 0xC2 ≤ k) (hk' : k < 0xE0)
    (h : scan none (UInt8.ofNat k :: b) = s.map some) :
    BeginsWithChar (UInt8.ofNat k :: b) s := by
  rw [scan_sequence (lead_two hk hk')] at h
  obtain ⟨m, rest, s', rfl, hl, hh, rfl, hrest⟩ := last_of_scan rfl h
  refine ⟨_, rest, s', rfl, ?_, hrest⟩
  simp only [toNat_80, toNat_BF] at hl hh ⊢
  generalize hv : (k - 0xC0) * 64 + (m - 0x80) = v
  rw [utf8EncodeChar_ofNat (by omega), if_neg (by omega), if_pos (by omega),
    show v / 64 % 32 + 0xC0 = k by omega, show v % 64 + 0x80 = m by omega]
  rfl

theorem beginsWithChar_three (hk : 0xE0 ≤ k) (hk' : k < 0xF0)
    (h : scan none (UInt8.ofNat k :: b) = s.map some) :
    BeginsWithChar (UInt8.ofNat k :: b) s := by
  rw [scan_sequence (lead_three hk hk')] at h
  obtain ⟨m, b', rfl, hl, hh, h⟩ := middle_of_scan rfl h
  obtain ⟨m', rest, s', rfl, hl', hh', rfl, hrest⟩ := last_of_scan rfl h
  refine ⟨_, rest, s', rfl, ?_, hrest⟩
  simp only [apply_ite UInt8.toNat, toNat_80, toNat_BF, show (0xA0 : UInt8).toNat = 0xA0 from rfl,
    show (0x9F : UInt8).toNat = 0x9F from rfl] at hl hh hl' hh' ⊢
  -- the narrowed ranges keep out overlong forms and surrogates
  have hlow : 0x80 ≤ m ∧ (k = 0xE0 → 0xA0 ≤ m) := by split at hl <;> omega
  have hhigh : m ≤ 0xBF ∧ (k = 0xED → m ≤ 0x9F) := by split at hh <;> omega
  generalize hv : ((k - 0xE0) * 64 + (m - 0x80)) * 64 + (m' - 0x80) = v
  rw [utf8EncodeChar_ofNat (by omega), if_neg (by omega), if_neg (by omega), if_pos (by omega),
    show v / 4096 % 16 + 0xE0 = k by omega, show v / 64 % 64 + 0x80 = m by omega,
    show v % 64 + 0x80 = m' by omega]
  rfl

theorem beginsWithChar_four (hk : 0xF0 ≤ k) (hk' : k ≤ 0xF4)
    (h : scan none (UInt8.ofNat k :: b) = s.map some) :
    BeginsWithChar (UInt8.ofNat k :: b) s := by
  rw [scan_sequence (lead_four hk hk')] at h
  obtain ⟨m, b', rfl, hl, hh, h⟩ := middle_of_scan rfl h
  obtain ⟨m', b'', rfl, hl', hh', h⟩ := middle_of_scan rfl h
  obtain ⟨m'', rest, s', rfl, hl'', hh'', rfl, hrest⟩ := last_of_scan rfl h
  refine ⟨_, rest, s', rfl, ?_, hrest⟩
  simp only [apply_ite UInt8.toNat, toNat_80, toNat_BF, show (0x90 : UInt8).toNat = 0x90 from rfl,
    show (0x8F : UInt8).toNat = 0x8F from rfl] at hl hh hl' hh' hl'' hh'' ⊢
  -- the narrowed ranges keep out overlong forms and numbers above U+10FFFF
  have hlow : 0x80 ≤ m ∧ (k = 0xF0 → 0x90 ≤ m) := by split at hl <;> omega
  have hhigh : m ≤ 0xBF ∧ (k = 0xF4 → m ≤ 0x8F) := by split at hh <;> omega
  generalize hv : (((k - 0xF0) * 64 + (m - 0x80)) * 64 + (m' - 0x80)) * 64 + (m'' - 0x80) = v
  rw [utf8EncodeChar_ofNat (by omega), if_neg (by omega), if_neg (by omega), if_neg (by omega),
    show v / 262144 % 8 + 0xF0 = k by omega, show v / 4096 % 64 + 0x80 = m by omega,
    show v / 64 % 64 + 0x80 = m' by omega, show v % 64 + 0x80 = m'' by omega]
  rfl

/-- No character begins with any other octet above 7F. -/
theorem lead_malformed {o : UInt8} (ho : 0x80 ≤ o.toNat)
    (h : o.toNat < 0xC2 ∨ 0xF4 < o.toNat) : lead o = .malformed := by
  rw [lead_eq, if_neg (by omega)]
  rcases h with h | h
  · rw [if_pos h]
  · rw [if_neg (by omega), if_neg (by omega), if_neg (by omega), if_neg (by omega),
      if_neg (by omega), if_neg (by omega), if_neg (by omega), if_neg (by omega)]

/-- A text without a malformed stretch begins with a character. -/
theorem beginsWithChar_of_scan {o : UInt8} (h : scan none (o :: b) = s.map some) :
    BeginsWithChar (o :: b) s := by
  have ho : o = UInt8.ofNat o.toNat := UInt8.ofNat_toNat.symm
  by_cases hascii : o.toNat < 0x80
  · rw [scan, lead_eq, if_pos hascii] at h
    obtain ⟨c, s', rfl, hc, hb⟩ := exists_of_cons_eq_map_some h
    obtain rfl := Option.some.inj hc
    refine ⟨_, b, s', rfl, ?_, hb⟩
    rw [utf8EncodeChar_ofNat (by omega), if_pos (by omega), UInt8.ofNat_toNat]
    rfl
  by_cases hmalformed : o.toNat < 0xC2 ∨ 0xF4 < o.toNat
  · rw [scan, lead_malformed (by omega) hmalformed] at h
    obtain ⟨c, s', -, hc, -⟩ := exists_of_cons_eq_map_some h
    cases hc
  rw [ho] at h ⊢
  by_cases htwo : o.toNat < 0xE0
  · exact beginsWithChar_two (by omega) htwo h
  by_cases hthree : o.toNat < 0xF0
  · exact beginsWithChar_three (by omega) hthree h
  · exact beginsWithChar_four (by omega) (by omega) h

end

/-- What has been read without a malformed stretch is written as it was. -/
theorem encodeChars_of_scan {s : List Char} {b : Bytes} (h : scan none b = s.map some) :
    encodeChars s = b := by
  induction s generalizing b with
  | nil =>
    cases b with
    | nil => rfl
    | cons o b =>
      obtain ⟨c, rest, s', hs, -⟩ := beginsWithChar_of_scan h
      cases hs
  | cons c s ih =>
    cases b with
    | nil => cases h
    | cons o b =>
      obtain ⟨c', rest, s', hs, hb, hrest⟩ := beginsWithChar_of_scan h
      obtain ⟨rfl, rfl⟩ := List.cons.inj hs
      rw [hb, encodeChars, List.flatMap_cons, ← encodeChars, ih hrest]

theorem eq_map_some_of_mapM_id {α : Type} {l : List (Option α)} {s : List α}
    (h : l.mapM id = some s) : l = s.map some := by
  induction l generalizing s with
  | nil =>
    cases h
    rfl
  | cons x l ih =>
    simp only [List.mapM_cons, Option.bind_eq_bind, Option.bind_eq_some_iff] at h
    obtain ⟨a, ha, rest, hrest, heq⟩ := h
    cases heq
    rw [List.map_cons, ← ih hrest, ← ha, id]

/-- Octets that can be read strictly are the encoding of what is read. -/
theorem encode_of_decode? {b : Bytes} {s : String} (h : decode? b = some s) : encode s = b := by
  obtain ⟨chars, hchars, rfl⟩ := Option.map_eq_some_iff.mp h
  rw [encode, String.toList_ofList]
  exact encodeChars_of_scan (eq_map_some_of_mapM_id hchars)

/-- Octets that cannot be read strictly are the encoding of no text. -/
theorem decode?_eq_none_iff {b : Bytes} : decode? b = none ↔ ∀ s, b ≠ encode s := by
  constructor
  · rintro hnone s rfl
    rw [decode?_encode] at hnone
    cases hnone
  · intro hno
    cases hs : decode? b with
    | none => rfl
    | some s => exact absurd (encode_of_decode? hs).symm (hno s)

end AuthRelay.Text.Utf8
