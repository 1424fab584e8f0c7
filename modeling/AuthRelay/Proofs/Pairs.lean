import AuthRelay.Credential.Set
import AuthRelay.Text.Base64.Lemmas
import AuthRelay.Text.Utf8.Lemmas
import Mathlib.Data.List.Basic
/-!
# User names and passwords

A user name and a password are sent as one value: both in UTF-8 with a colon between them, written
in Base64. The octets can be read back from the value, and from no other text. So two pairs have the
same value only if they are the same, as long as no user name holds a colon; and encoded material
that was made of a pair is sent like the pair itself.
-/
namespace AuthRelay.CredentialSet

/-- A set that is sent as a user name and a password: it has both, and no token. -/
structure IsPair (c : CredentialSet) : Prop where
  token : c.registryToken = ""
  username : c.username ≠ ""
  password : c.password ≠ ""

/-- The octets of a pair: the user name, a colon and the password, in UTF-8. -/
def pairOctets (c : CredentialSet) : Bytes :=
  Text.Utf8.encode c.username ++ 0x3A :: Text.Utf8.encode c.password

/-- The octets of a pair in Base64. -/
def encodedPair (c : CredentialSet) : String :=
  String.ofList (Text.Base64.encode c.pairOctets)

variable {c d : CredentialSet}

theorem encode_joined (c : CredentialSet) :
    Text.Utf8.encode (c.username ++ ":" ++ c.password) = c.pairOctets := by
  have hcolon : Text.Utf8.encodeChars ":".toList = [0x3A] := by decide
  simp only [Text.Utf8.encode, pairOctets, String.toList_append, Text.Utf8.encodeChars_append,
    hcolon, List.append_assoc, List.singleton_append]

theorem IsPair.authorization? (h : c.IsPair) :
    c.authorization? = some ("Basic " ++ c.encodedPair) := by
  have hshape : c.activeShape = some .basic := by
    simp [activeShape, h.token, h.username, h.password]
  simp only [CredentialSet.authorization?, hshape, encode_joined, encodedPair]

/-- Material that is encoded already is sent as it is. -/
theorem authorization?_encoded {material : String} (h : material ≠ "") :
    CredentialSet.authorization? { auth := material } = some ("Basic " ++ material) := by
  simp [CredentialSet.authorization?, activeShape, h]

theorem encodedPair_ne_empty (c : CredentialSet) : c.encodedPair ≠ "" := by
  intro h
  have hlength : c.encodedPair.length = 0 := by rw [h]; rfl
  simp only [encodedPair, String.length_ofList, Text.Base64.length_encode, pairOctets,
    List.length_append, List.length_cons] at hlength
  omega

/-- Where a mark stands for the first time, a list is cut in one way only. -/
theorem cut_unique {α : Type} {mark : α} {front front' back back' : List α}
    (hfront : mark ∉ front) (hfront' : mark ∉ front')
    (h : front ++ mark :: back = front' ++ mark :: back') : front = front' ∧ back = back' := by
  classical
  have hcut : ∀ f b : List α, mark ∉ f → (f ++ mark :: b).takeWhile (· ≠ mark) = f := by
    intro f b hf
    have hne : ∀ a ∈ f, decide (a ≠ mark) = true := by
      intro a ha
      exact decide_eq_true (ne_of_mem_of_not_mem ha hf)
    rw [List.takeWhile_append_of_pos hne]
    simp
  have hfronts : front = front' := by
    rw [← hcut front back hfront, h, hcut front' back' hfront']
  subst hfronts
  exact ⟨rfl, (List.cons.inj (List.append_cancel_left h)).2⟩

/-- The octets of a pair tell user name and password apart if there is no colon in the user
name. -/
theorem pairOctets_eq_iff (hc : ':' ∉ c.username.toList) (hd : ':' ∉ d.username.toList) :
    c.pairOctets = d.pairOctets ↔ c.username = d.username ∧ c.password = d.password := by
  constructor
  · intro h
    rw [← encode_joined, ← encode_joined] at h
    have hjoined := congrArg String.toList (Text.Utf8.encode_injective h)
    simp only [String.toList_append, List.append_assoc] at hjoined
    obtain ⟨husername, hpassword⟩ := cut_unique hc hd hjoined
    exact ⟨String.toList_inj.mp husername, String.toList_inj.mp hpassword⟩
  · rintro ⟨husername, hpassword⟩
    rw [pairOctets, pairOctets, husername, hpassword]

/-- Pairs with the same octets are sent alike, and no others. -/
theorem IsPair.authorization?_eq_iff (hc : c.IsPair) (hd : d.IsPair) :
    c.authorization? = d.authorization? ↔ c.pairOctets = d.pairOctets := by
  rw [hc.authorization?, hd.authorization?, Option.some_inj, String.append_right_inj]
  constructor
  · intro h
    have hread := Text.Base64.decode?_encode c.pairOctets
    rw [String.ofList_inj.mp h, Text.Base64.decode?_encode] at hread
    exact (Option.some.inj hread).symm
  · intro h
    rw [encodedPair, encodedPair, h]

/-- The value of a user name and a password, neither of them empty, beside which there is no token.
It is a text of letters and digits in whole groups of four, padded at the end at most, and strict
reading gives the octets of the pair from this text and from no other. If there is no colon in their
user names, two such sets have the same value if and only if they have the same user name and the
same password, whatever else is in them. A set that holds nothing but the encoded text has the very
same value. -/
theorem pair_read_back (c : CredentialSet) (h : c.IsPair) :
    ∃ b : String, c.authorization? = some ("Basic " ++ b) ∧
      Text.Base64.Padded b.toList ∧ 4 ∣ b.length ∧
      Text.Base64.decode? b.toList =
        some (Text.Utf8.encode c.username ++ 0x3A :: Text.Utf8.encode c.password) ∧
      (∀ t, Text.Base64.decode? t = Text.Base64.decode? b.toList → t = b.toList) ∧
      (∀ d : CredentialSet, d.IsPair → ':' ∉ c.username.toList → ':' ∉ d.username.toList →
        (c.authorization? = d.authorization? ↔
          c.username = d.username ∧ c.password = d.password)) ∧
      CredentialSet.authorization? { auth := b } = c.authorization? := by
  have hletters : c.encodedPair.toList = Text.Base64.encode c.pairOctets := String.toList_ofList
  refine ⟨c.encodedPair, h.authorization?, ?_, ?_, ?_, fun t ht => ?_,
    fun d hd hcolon hcolon' => ?_, ?_⟩
  · rw [hletters]
    exact Text.Base64.padded_encode c.pairOctets
  · rw [encodedPair, String.length_ofList, Text.Base64.length_encode]
    exact Nat.dvd_mul_right 4 _
  · rw [hletters]
    exact Text.Base64.decode?_encode c.pairOctets
  · rw [hletters, Text.Base64.decode?_encode] at ht
    rw [hletters]
    exact Text.Base64.decode?_eq_some_iff.mp ht
  · rw [h.authorization?_eq_iff hd]
    exact pairOctets_eq_iff hcolon hcolon'
  · rw [h.authorization?, authorization?_encoded c.encodedPair_ne_empty]

/-- A password with a colon and letters beyond ASCII, beside material that does not count. -/
theorem pair_read_back_beyond_ascii :
    let c : CredentialSet := { username := "ü", password := "p:€", auth := "x" }
    let d : CredentialSet := { username := "ü", password := "p:€" }
    c.IsPair ∧ d.IsPair ∧ ':' ∉ c.username.toList ∧
    c.authorization? = some ("Basic " ++ "w7w6cDrigqw=") ∧ c.authorization? = d.authorization? ∧
    Text.Base64.decode? "w7w6cDrigqw=".toList =
      some [0xC3, 0xBC, 0x3A, 0x70, 0x3A, 0xE2, 0x82, 0xAC] := by
  intro c d
  have hc : c.IsPair := ⟨rfl, by decide, by decide⟩
  have hd : d.IsPair := ⟨rfl, by decide, by decide⟩
  have hvalue : c.authorization? = some ("Basic " ++ "w7w6cDrigqw=") := by decide +kernel
  obtain ⟨b, hb, -, -, hread, -, halike, -⟩ := pair_read_back c hc
  obtain rfl : b = "w7w6cDrigqw=" := by
    rw [hvalue] at hb
    exact ((String.append_right_inj "Basic ").mp (Option.some.inj hb)).symm
  refine ⟨hc, hd, by decide, hvalue, (halike d hd (by decide) (by decide)).mpr ⟨rfl, rfl⟩, ?_⟩
  rw [hread]
  decide +kernel

end AuthRelay.CredentialSet
