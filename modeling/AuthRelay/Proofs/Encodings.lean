import AuthRelay.Charset
import AuthRelay.Text.Utf8.Lemmas
import Mathlib.Data.List.Basic
/-!
# Encodings read what they write

A text goes into a header list through an encoding and comes back through the same one. Here: what
an encoding writes it reads back as it was, what it reads it writes again to the octet, and an ASCII
text is written by all of them. An encoding has octets for certain characters, and which texts it
writes is a matter of their characters alone.
-/
namespace AuthRelay.Encoding

/-- Whether an encoding has octets for a character. -/
def Covers : Encoding → Char → Prop
  | .ascii, c => c.toNat < 0x80
  | .utf8, _ => True
  | .latin1, c => c.toNat < 0x100

instance (e : Encoding) (c : Char) : Decidable (e.Covers c) :=
  match e with
  | .ascii => inferInstanceAs (Decidable (c.toNat < 0x80))
  | .utf8 => inferInstanceAs (Decidable True)
  | .latin1 => inferInstanceAs (Decidable (c.toNat < 0x100))

theorem narrow?_isSome_iff {bound : Nat} {s : List Char} :
    (narrow? bound s).isSome ↔ ∀ c ∈ s, c.toNat < bound := by
  unfold narrow?
  split
  · rename_i h
    simpa using h
  · rename_i h
    simpa using h

/-- An encoding writes exactly the texts whose characters it has. -/
theorem encode?_isSome_iff {e : Encoding} {s : String} :
    (e.encode? s).isSome ↔ ∀ c ∈ s.toList, e.Covers c := by
  cases e with
  | ascii => exact narrow?_isSome_iff
  | utf8 => simp [encode?, Covers]
  | latin1 => exact narrow?_isSome_iff

theorem ofNat_toNat_toUInt8 {c : Char} (h : c.toNat < 0x100) :
    Char.ofNat c.toNat.toUInt8.toNat = c := by
  have hn : c.toNat.toUInt8.toNat = c.toNat := by
    rw [Nat.toUInt8, UInt8.toNat_ofNat', Nat.mod_eq_of_lt (by omega)]
  rw [hn, Char.ofNat_toNat]

/-- Code points below 256 survive as octets. -/
theorem widen_of_narrow? {bound : Nat} {s : List Char} {b : Bytes} (hb : bound ≤ 0x100)
    (h : narrow? bound s = some b) : widen b = String.ofList s := by
  unfold narrow? at h
  split at h
  · rename_i hall
    simp only [List.all_eq_true, decide_eq_true_eq] at hall
    cases h
    rw [widen, List.map_map]
    congr 1
    calc s.map ((fun o : UInt8 => Char.ofNat o.toNat) ∘ fun c => c.toNat.toUInt8)
        = s.map id := List.map_congr_left fun c hc =>
          ofNat_toNat_toUInt8 (Nat.lt_of_lt_of_le (hall c hc) hb)
      _ = s := List.map_id s
  · cases h

theorem all_lt_of_narrow? {s : List Char} {b : Bytes} (h : narrow? 0x80 s = some b) :
    b.all (· < 0x80) = true := by
  unfold narrow? at h
  split at h
  · rename_i hall
    simp only [List.all_eq_true, decide_eq_true_eq] at hall
    cases h
    simp only [List.all_map, List.all_eq_true, Function.comp_apply, decide_eq_true_eq]
    intro c hc
    have hlt := hall c hc
    rw [UInt8.lt_iff_toNat_lt, Nat.toUInt8, UInt8.toNat_ofNat', Nat.mod_eq_of_lt (by omega)]
    exact hlt
  · cases h

/-- What an encoding writes it reads back. -/
theorem decode?_of_encode? {e : Encoding} {s : String} {b : Bytes} (h : e.encode? s = some b) :
    e.decode? b = some s := by
  cases e with
  | ascii =>
    have hw : widen b = s := by
      rw [widen_of_narrow? (by omega) h, String.ofList_toList]
    simp [decode?, all_lt_of_narrow? h, hw]
  | utf8 =>
    cases h
    exact Text.Utf8.decode?_encode s
  | latin1 =>
    have hw : widen b = s := by
      rw [widen_of_narrow? (by omega) h, String.ofList_toList]
    simp [decode?, hw]

theorem toNat_lt_of_mem_widen {b : Bytes} {bound : Nat} (hb : bound ≤ 0x100)
    (h : ∀ o ∈ b, o.toNat < bound) {c : Char} (hc : c ∈ (widen b).toList) :
    c.toNat < bound := by
  simp only [widen, String.toList_ofList, List.mem_map] at hc
  obtain ⟨o, ho, rfl⟩ := hc
  have hlt := h o ho
  have hvalid : o.toNat.isValidChar := .inl (by omega)
  rw [Char.ofNat, dif_pos hvalid]
  exact hlt

/-- What an encoding reads consists of characters that it has. -/
theorem covers_of_decode? {e : Encoding} {b : Bytes} {s : String} (h : e.decode? b = some s) :
    ∀ c ∈ s.toList, e.Covers c := by
  intro c hc
  cases e with
  | ascii =>
    simp only [decode?] at h
    split at h
    · rename_i hall
      simp only [List.all_eq_true, decide_eq_true_eq] at hall
      cases h
      exact toNat_lt_of_mem_widen (by omega) (fun o ho => hall o ho) hc
    · cases h
  | utf8 => trivial
  | latin1 =>
    cases h
    exact toNat_lt_of_mem_widen (by omega) (fun o _ => o.toNat_lt) hc

theorem toNat_ofNat_toNat (o : UInt8) : (Char.ofNat o.toNat).toNat = o.toNat := by
  have hvalid : o.toNat.isValidChar := .inl (Nat.lt_trans o.toNat_lt (by omega))
  rw [Char.ofNat, dif_pos hvalid]
  rfl

/-- Octets survive as code points. -/
theorem narrow?_widen {bound : Nat} {b : Bytes} (hb : bound ≤ 0x100)
    (h : ∀ o ∈ b, o.toNat < bound) : narrow? bound (widen b).toList = some b := by
  have hall : (widen b).toList.all (·.toNat < bound) = true := by
    simpa using fun c hc => toNat_lt_of_mem_widen hb h hc
  rw [narrow?, if_pos hall, widen, String.toList_ofList, List.map_map]
  congr 1
  calc b.map ((fun c : Char => c.toNat.toUInt8) ∘ fun o : UInt8 => Char.ofNat o.toNat)
      = b.map id := List.map_congr_left fun o _ => by
        simp only [Function.comp_apply, toNat_ofNat_toNat, id_eq]
        exact UInt8.ofNat_toNat
    _ = b := List.map_id b

/-- What an encoding reads it writes as it was. -/
theorem encode?_of_decode? {e : Encoding} {b : Bytes} {s : String} (h : e.decode? b = some s) :
    e.encode? s = some b := by
  cases e with
  | ascii =>
    simp only [decode?] at h
    split at h
    · rename_i hall
      simp only [List.all_eq_true, decide_eq_true_eq] at hall
      cases h
      exact narrow?_widen (by omega) fun o ho => hall o ho
    · cases h
  | utf8 => exact congrArg some (Text.Utf8.encode_of_decode? h)
  | latin1 =>
    cases h
    exact narrow?_widen (by omega) fun o _ => o.toNat_lt

theorem narrow?_append {bound : Nat} {s t : List Char} {a b : Bytes}
    (hs : narrow? bound s = some a) (ht : narrow? bound t = some b) :
    narrow? bound (s ++ t) = some (a ++ b) := by
  simp only [narrow?, Option.ite_none_right_eq_some, Option.some.injEq] at hs ht ⊢
  obtain ⟨hs, rfl⟩ := hs
  obtain ⟨ht, rfl⟩ := ht
  exact ⟨by rw [List.all_append, hs, ht]; rfl, List.map_append⟩

/-- Texts are written one after another. -/
theorem encode?_append {e : Encoding} {s t : String} {a b : Bytes} (hs : e.encode? s = some a)
    (ht : e.encode? t = some b) : e.encode? (s ++ t) = some (a ++ b) := by
  cases e with
  | ascii => simpa [encode?] using narrow?_append hs ht
  | utf8 =>
    cases hs
    cases ht
    simp [encode?, Text.Utf8.encode, Text.Utf8.encodeChars]
  | latin1 => simpa [encode?] using narrow?_append hs ht

theorem mapM_cons_eq_some {f : Bytes → Option String} {value : Bytes} {rest : List Bytes}
    {texts : List String} (h : (value :: rest).mapM f = some texts) :
    ∃ text others, f value = some text ∧ rest.mapM f = some others ∧ texts = text :: others := by
  simp only [List.mapM_cons, Option.bind_eq_bind, Option.bind_eq_some_iff] at h
  obtain ⟨text, htext, others, hothers, heq⟩ := h
  cases heq
  exact ⟨text, others, htext, hothers, rfl⟩

/-- A separated list of texts that have been read is written as the separated list of what stood
there. -/
theorem encode?_intercalate {e : Encoding} {sep : String} {octets : Bytes}
    (hsep : e.encode? sep = some octets) {values : List Bytes} {texts : List String}
    (h : values.mapM e.decode? = some texts) :
    e.encode? (sep.intercalate texts) = some (octets.intercalate values) := by
  induction values generalizing texts with
  | nil =>
    cases h
    cases e <;> rfl
  | cons value rest ih =>
    obtain ⟨text, others, htext, hothers, rfl⟩ := mapM_cons_eq_some h
    have hvalue := encode?_of_decode? htext
    have hrest := ih hothers
    cases rest with
    | nil =>
      cases hothers
      simpa using hvalue
    | cons second rest =>
      obtain ⟨next, more, -, -, rfl⟩ := mapM_cons_eq_some hothers
      rw [String.intercalate_cons_cons, List.intercalate_cons_cons]
      exact encode?_append (encode?_append hvalue hsep) hrest

theorem covers_of_isAscii {s : String} (h : Charset.isAscii s.toList = true) (e : Encoding) :
    ∀ c ∈ s.toList, e.Covers c := by
  intro c hc
  have hlt : c.toNat < 0x80 := by
    simpa using List.all_eq_true.mp h c hc
  cases e with
  | ascii => exact hlt
  | utf8 => trivial
  | latin1 => exact Nat.lt_trans hlt (by omega)

/-- A separated list of covered texts is covered if the separator is. -/
theorem covers_intercalate {e : Encoding} {sep : String} {texts : List String}
    (hsep : ∀ c ∈ sep.toList, e.Covers c) (h : ∀ s ∈ texts, ∀ c ∈ s.toList, e.Covers c) :
    ∀ c ∈ (sep.intercalate texts).toList, e.Covers c := by
  rw [String.toList_intercalate]
  induction texts with
  | nil => simp
  | cons s rest ih =>
    have hs := h s (by simp)
    have hrest := ih fun t ht => h t (by simp [ht])
    intro c hc
    cases rest with
    | nil => exact hs c (by simpa using hc)
    | cons t rest =>
      simp only [List.map_cons, List.intercalate_cons_cons, List.mem_append] at hc hrest
      rcases hc with (hc | hc) | hc
      · exact hs c hc
      · exact hsep c hc
      · exact hrest c hc

/-! ## ASCII texts have the same octets in all encodings -/

theorem isAscii_append (s t : List Char) :
    Charset.isAscii (s ++ t) = (Charset.isAscii s && Charset.isAscii t) :=
  List.all_append

/-- The ASCII texts are those that every encoding has. -/
theorem isAscii_iff_covers {s : String} :
    Charset.isAscii s.toList = true ↔ ∀ c ∈ s.toList, Encoding.ascii.Covers c := by
  simp [Charset.isAscii, Covers]

/-- A number is written in ASCII. -/
theorem isAscii_toString (n : Nat) : Charset.isAscii (toString n).toList = true := by
  simp only [Charset.isAscii, List.all_eq_true, decide_eq_true_eq]
  intro c hc
  rw [Nat.toString_eq_repr, Nat.toList_repr] at hc
  have hdigit := Nat.isDigit_of_mem_toDigits (by decide) (by decide) hc
  simp only [Char.isDigit, Bool.and_eq_true, decide_eq_true_eq, UInt32.le_iff_toNat_le] at hdigit
  exact Nat.lt_of_le_of_lt hdigit.2 (by decide)

/-- The octets of an ASCII text, one for each character. -/
def asciiOctets (s : String) : Bytes :=
  s.toList.map fun c => c.toNat.toUInt8

theorem utf8EncodeChar_of_lt {c : Char} (h : c.toNat < 0x80) :
    String.utf8EncodeChar c = [c.toNat.toUInt8] := by
  rw [String.utf8EncodeChar.eq_1, show c.val.toNat = c.toNat from rfl, if_pos (by omega)]

theorem encode?_of_isAscii {s : String} (h : Charset.isAscii s.toList = true) (e : Encoding) :
    e.encode? s = some (asciiOctets s) := by
  have hlt : ∀ c ∈ s.toList, c.toNat < 0x80 := by
    simpa [Charset.isAscii, List.all_eq_true] using h
  cases e with
  | ascii =>
    rw [encode?, narrow?, if_pos (by simpa using hlt)]
    rfl
  | latin1 =>
    have hwide : ∀ c ∈ s.toList, c.toNat < 0x100 := fun c hc => Nat.lt_trans (hlt c hc) (by decide)
    rw [encode?, narrow?, if_pos (by simpa using hwide)]
    rfl
  | utf8 =>
    rw [encode?, Text.Utf8.encode, Text.Utf8.encodeChars, asciiOctets, List.map_eq_flatMap]
    exact congrArg some (List.flatMap_congr fun c hc => utf8EncodeChar_of_lt (hlt c hc))

theorem decode?_asciiOctets {s : String} (h : Charset.isAscii s.toList = true) (e : Encoding) :
    e.decode? (asciiOctets s) = some s :=
  decode?_of_encode? (encode?_of_isAscii h e)

/-- A separated list of ASCII texts is ASCII if the separator is. -/
theorem isAscii_intercalate {sep : String} {texts : List String}
    (hsep : Charset.isAscii sep.toList = true)
    (h : ∀ s ∈ texts, Charset.isAscii s.toList = true) :
    Charset.isAscii (sep.intercalate texts).toList = true := by
  have hcovers := covers_intercalate (covers_of_isAscii hsep .ascii)
    fun s hs => covers_of_isAscii (h s hs) .ascii
  exact isAscii_iff_covers.mpr hcovers

end AuthRelay.Encoding
