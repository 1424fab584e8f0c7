import AuthRelay.Proofs.HeaderLists
import AuthRelay.Proofs.Secrets.InStep
import AuthRelay.Proofs.Secrets.Texts
/-!
# Header lists that differ in their credentials

Two header lists that differ in nothing but the value of the header for credentials, which is ASCII
in both where it differs. Every encoding reads both values, so the two lists settle on the same one,
and the same look-ups and edits succeed.
-/
namespace AuthRelay

theorem WrittenAlike.refl (s : String) : WrittenAlike s s :=
  .inl rfl

theorem optionRel_refl {α : Type} {S : α → α → Prop} (hS : ∀ a, S a a) (x : Option α) :
    Option.Rel S x x := by
  cases x with
  | none => exact .none
  | some a => exact .some (hS a)

theorem optionRel_or {α β : Type} {S : α → β → Prop} {x x' : Option α} {y y' : Option β}
    (h : Option.Rel S x y) (h' : Option.Rel S x' y') : Option.Rel S (x.or x') (y.or y') := by
  cases h with
  | some h => exact .some h
  | none => exact h'

namespace Headers

/-- Two entries of one name: the same, or two for credentials with values in ASCII. -/
inductive EntryTwins : Bytes × Bytes → Bytes × Bytes → Prop
  | other {entry : Bytes × Bytes} (h : named authorizationKey entry = false) :
    EntryTwins entry entry
  | credentials {name : Bytes} {s t : String} (h : foldName name = authorizationKey)
      (hs : Charset.isAscii s.toList = true) (ht : Charset.isAscii t.toList = true) :
    EntryTwins (name, Encoding.asciiOctets s) (name, Encoding.asciiOctets t)

/-- Two header lists that are the same, or differ in ASCII credentials only. -/
def Twins (h h' : Headers) : Prop :=
  h = h' ∨ h.encoding = h'.encoding ∧ List.Forall₂ EntryTwins h.entries h'.entries

theorem Twins.refl (h : Headers) : h.Twins h :=
  .inl rfl

theorem EntryTwins.named_eq {entry entry' : Bytes × Bytes} (h : EntryTwins entry entry')
    (key : Bytes) : named key entry = named key entry' := by
  cases h <;> rfl

theorem EntryTwins.isSome_decode? {entry entry' : Bytes × Bytes} (h : EntryTwins entry entry')
    (e : Encoding) : ((e.decode? entry.1).isSome && (e.decode? entry.2).isSome) =
      ((e.decode? entry'.1).isSome && (e.decode? entry'.2).isSome) := by
  cases h with
  | other h => rfl
  | credentials h hs ht =>
    rw [Encoding.decode?_asciiOctets hs, Encoding.decode?_asciiOctets ht]
    rfl

variable {h h' : Headers} {entries entries' : List (Bytes × Bytes)}

theorem readableIn_eq (hentries : List.Forall₂ EntryTwins h.entries h'.entries) (e : Encoding) :
    h.readableIn e = h'.readableIn e := by
  obtain ⟨entries, encoding⟩ := h
  obtain ⟨entries', encoding'⟩ := h'
  unfold readableIn
  dsimp only at hentries ⊢
  induction hentries with
  | nil => rfl
  | cons hentry _ ih =>
    rw [List.all_cons, List.all_cons, ih]
    exact congrArg (· && _) (hentry.isSome_decode? e)

/-- Both lists settle on the same encoding. -/
theorem Twins.chosen_eq (ht : h.Twins h') : h.chosen = h'.chosen := by
  rcases ht with rfl | ⟨hencoding, hentries⟩
  · rfl
  · rw [chosen, chosen, hencoding, readableIn_eq hentries, readableIn_eq hentries]

theorem Twins.settle (ht : h.Twins h') : h.settle.Twins h'.settle := by
  have hchosen := ht.chosen_eq
  rcases ht with rfl | ⟨-, hentries⟩
  · exact .refl _
  · exact .inr ⟨congrArg some hchosen, hentries⟩

theorem Twins.key_eq (ht : h.Twins h') (name : String) : h.key name = h'.key name := by
  rw [key, key, ht.chosen_eq]

/-! ## Look-ups -/

theorem filter_named_eq (hentries : List.Forall₂ EntryTwins entries entries') {key : Bytes}
    (hkey : key ≠ authorizationKey) : entries.filter (named key) = entries'.filter (named key) := by
  induction hentries with
  | nil => rfl
  | cons hentry _ ih =>
    cases hentry with
    | other hother => rw [List.filter_cons, List.filter_cons, ih]
    | credentials hname _ _ =>
      have hnot : ∀ value, named key (_, value) = false := fun value => by
        rw [named, hname, beq_eq_false_iff_ne]
        exact hkey.symm
      rw [List.filter_cons_of_neg (by simp [hnot]), List.filter_cons_of_neg (by simp [hnot]), ih]

theorem filter_not_named_eq (hentries : List.Forall₂ EntryTwins entries entries') :
    entries.filter (!named authorizationKey ·) = entries'.filter (!named authorizationKey ·) := by
  induction hentries with
  | nil => rfl
  | cons hentry _ ih =>
    cases hentry with
    | other hother => rw [List.filter_cons, List.filter_cons, ih]
    | credentials hname _ _ =>
      have hnamed : ∀ value, named authorizationKey (_, value) = true := fun value => by
        rw [named, hname, beq_self_eq_true]
      rw [List.filter_cons_of_neg (by simp [hnamed]), List.filter_cons_of_neg (by simp [hnamed]),
        ih]

/-- The values of the credentials in both lists, which are ASCII. -/
theorem exists_values (hentries : List.Forall₂ EntryTwins entries entries') :
    ∃ texts texts' : List String, texts.length = texts'.length ∧
      (∀ s ∈ texts, Charset.isAscii s.toList = true) ∧
      (∀ s ∈ texts', Charset.isAscii s.toList = true) ∧
      (entries.filter (named authorizationKey)).map (·.2) = texts.map Encoding.asciiOctets ∧
      (entries'.filter (named authorizationKey)).map (·.2) = texts'.map Encoding.asciiOctets := by
  induction hentries with
  | nil => exact ⟨[], [], rfl, nofun, nofun, rfl, rfl⟩
  | cons hentry _ ih =>
    obtain ⟨texts, texts', hlen, hascii, hascii', hvalues, hvalues'⟩ := ih
    cases hentry with
    | other hother =>
      refine ⟨texts, texts', hlen, hascii, hascii', ?_, ?_⟩
      · rw [List.filter_cons_of_neg (by simp [hother]), hvalues]
      · rw [List.filter_cons_of_neg (by simp [hother]), hvalues']
    | @credentials name s t hname hs ht =>
      have hnamed : ∀ value, named authorizationKey (name, value) = true := fun value => by
        rw [named, hname, beq_self_eq_true]
      refine ⟨s :: texts, t :: texts', by simp [hlen], List.forall_mem_cons.mpr ⟨hs, hascii⟩,
        List.forall_mem_cons.mpr ⟨ht, hascii'⟩, ?_, ?_⟩
      · rw [List.filter_cons_of_pos (hnamed _), List.map_cons, hvalues, List.map_cons]
      · rw [List.filter_cons_of_pos (hnamed _), List.map_cons, hvalues', List.map_cons]

theorem mapM_decode?_asciiOctets {texts : List String}
    (htexts : ∀ s ∈ texts, Charset.isAscii s.toList = true) (e : Encoding) :
    (texts.map Encoding.asciiOctets).mapM e.decode? = some texts := by
  induction texts with
  | nil => rfl
  | cons s rest ih =>
    obtain ⟨hs, hrest⟩ := List.forall_mem_cons.mp htexts
    rw [List.map_cons, List.mapM_cons, Encoding.decode?_asciiOctets hs, ih hrest]
    rfl

/-- What a look-up finds if the values are the octets of ASCII texts. -/
theorem get?_of_asciiOctets {name : String} {k : Bytes} (hk : h.key name = .ok k)
    {texts : List String} (hvalues : h.rawValues k = texts.map Encoding.asciiOctets)
    (htexts : ∀ s ∈ texts, Charset.isAscii s.toList = true) :
    h.get? name = .ok (if texts = [] then none else some (", ".intercalate texts)) := by
  have hdecode := mapM_decode?_asciiOctets htexts h.chosen
  simp only [get?, hk, hvalues, bind, Except.bind]
  cases texts with
  | nil => rfl
  | cons s rest =>
    rw [List.map_cons] at hdecode ⊢
    simp only [hdecode]
    rfl

/-- A look-up fails in both lists alike, or finds nothing in either, or finds two values that are
written alike. -/
theorem Twins.get? (ht : h.Twins h') (name : String) :
    Corresponds (Option.Rel WrittenAlike) (h.get? name) (h'.get? name) := by
  have hkey := ht.key_eq name
  have hchosen := ht.chosen_eq
  rcases ht with rfl | ⟨-, hentries⟩
  · exact (Corresponds.of_eq rfl).mono fun _ _ heq => heq ▸ optionRel_refl WrittenAlike.refl _
  · cases hk : h.key name with
    | error cause =>
      rw [hk] at hkey
      simp only [Headers.get?, hk, ← hkey, bind, Except.bind]
      exact .error cause
    | ok k =>
      rw [hk] at hkey
      by_cases hauth : k = authorizationKey
      · subst hauth
        -- as many values in both lists, and every encoding reads all of them
        obtain ⟨texts, texts', hlen, hascii, hascii', hvalues, hvalues'⟩ := exists_values hentries
        rw [get?_of_asciiOctets hk hvalues hascii, get?_of_asciiOctets hkey.symm hvalues' hascii']
        have hnil : texts = [] ↔ texts' = [] := by
          rw [← List.length_eq_zero_iff, hlen, List.length_eq_zero_iff]
        by_cases hempty : texts = []
        · rw [if_pos hempty, if_pos (hnil.mp hempty)]
          exact .ok .none
        · rw [if_neg hempty, if_neg (mt hnil.mpr hempty)]
          exact .ok (.some (.inr ⟨Encoding.isAscii_intercalate rfl hascii,
            Encoding.isAscii_intercalate rfl hascii'⟩))
      · have hvalues : h.rawValues k = h'.rawValues k := by
          rw [rawValues, rawValues, filter_named_eq hentries hauth]
        rw [get?_congr hk hkey.symm hchosen hvalues]
        exact (Corresponds.of_eq rfl).mono fun _ _ heq => heq ▸ optionRel_refl WrittenAlike.refl _

/-- The host is the same in both. -/
theorem Twins.get?_host_eq (ht : h.Twins h') : h.get? "Host" = h'.get? "Host" := by
  refine get?_congr (key_host h) (key_host h') ht.chosen_eq ?_
  rcases ht with rfl | ⟨-, hentries⟩
  · rfl
  · rw [rawValues, rawValues, filter_named_eq hentries (by decide)]

/-! ## Edits -/

/-- The same entry for credentials takes the place of different ones. -/
theorem putEntry_eq (hentries : List.Forall₂ EntryTwins entries entries') (entry : Bytes × Bytes) :
    putEntry authorizationKey entry entries = putEntry authorizationKey entry entries' := by
  induction hentries with
  | nil => rfl
  | cons hentry hrest ih =>
    -- what is left behind the first entry of the name is what does not have that name
    have hfilter := filter_not_named_eq hrest
    cases hentry with
    | other hother =>
      rw [putEntry, putEntry, if_neg (by simp [hother]), if_neg (by simp [hother]), ih]
    | @credentials name s t hname hs ht =>
      have hpos : ∀ value, named authorizationKey (name, value) = true := fun value => by
        rw [named, hname, beq_self_eq_true]
      rw [putEntry, putEntry, if_pos (hpos _), if_pos (hpos _), hfilter]

theorem filter_twins (hentries : List.Forall₂ EntryTwins entries entries') (key : Bytes) :
    List.Forall₂ EntryTwins (entries.filter (!named key ·)) (entries'.filter (!named key ·)) := by
  refine List.rel_filter (fun entry entry' hentry => ?_) hentries
  simp only [hentry.named_eq key]

theorem putEntry_twins (hentries : List.Forall₂ EntryTwins entries entries') {key : Bytes}
    {entry entry' : Bytes × Bytes} (hentry : EntryTwins entry entry') :
    List.Forall₂ EntryTwins (putEntry key entry entries) (putEntry key entry' entries') := by
  induction hentries with
  | nil => exact .cons hentry .nil
  | cons hhere hrest ih =>
    rw [putEntry, putEntry, hhere.named_eq key]
    split
    · exact .cons hentry (filter_twins hrest key)
    · exact .cons hhere ih

/-- Two ASCII values for credentials, put into one list. No others are left in it. -/
theorem putEntry_credentials_twins {s t : String} (hs : Charset.isAscii s.toList = true)
    (ht : Charset.isAscii t.toList = true) (l : List (Bytes × Bytes)) :
    List.Forall₂ EntryTwins
      (putEntry authorizationKey (authorizationName, Encoding.asciiOctets s) l)
      (putEntry authorizationKey (authorizationName, Encoding.asciiOctets t) l) := by
  have hentry : EntryTwins (authorizationName, Encoding.asciiOctets s)
      (authorizationName, Encoding.asciiOctets t) := .credentials rfl hs ht
  induction l with
  | nil => exact .cons hentry .nil
  | cons entry rest ih =>
    rw [putEntry, putEntry]
    by_cases hnamed : named authorizationKey entry = true
    · rw [if_pos hnamed, if_pos hnamed]
      refine .cons hentry (List.forall₂_same.mpr fun other hother => .other ?_)
      simpa using (List.mem_filter.mp hother).2
    · rw [if_neg hnamed, if_neg hnamed]
      exact .cons (.other (by simpa using hnamed)) ih

/-- Setting a header succeeds in both lists or in neither. -/
theorem Twins.set (ht : h.Twins h') (name value : String) :
    Corresponds Twins (h.set name value) (h'.set name value) := by
  rcases ht with rfl | ⟨hencoding, hentries⟩
  · exact (Corresponds.of_eq rfl).mono fun _ _ heq => heq ▸ .refl _
  · simp only [Headers.set, hencoding]
    cases (h'.encoding.getD .utf8).encode? name with
    | none => exact .error _
    | some n =>
      cases (h'.encoding.getD .utf8).encode? value with
      | none => exact .error _
      | some v =>
        refine .ok ?_
        by_cases hauth : foldName n = authorizationKey
        · refine .inl ?_
          rw [hauth, putEntry_eq hentries]
        · refine .inr ⟨rfl, putEntry_twins hentries (.other ?_)⟩
          rw [named, beq_eq_false_iff_ne]
          exact hauth

/-- So does setting the credentials to values that are written alike. -/
theorem Twins.setAuthorization (ht : h.Twins h') {value value' : String}
    (hvalue : WrittenAlike value value') :
    Corresponds Twins (h.set Relay.authorization value) (h'.set Relay.authorization value') := by
  rcases hvalue with rfl | ⟨hs, hs'⟩
  · exact ht.set Relay.authorization value
  · have hset : ∀ (g : Headers) {s : String}, Charset.isAscii s.toList = true →
        g.set Relay.authorization s = .ok ⟨putEntry authorizationKey
          (authorizationName, Encoding.asciiOctets s) g.entries, g.encoding⟩ := by
      intro g s hascii
      simp only [Headers.set, encode?_authorization, Encoding.encode?_of_isAscii hascii]
      rfl
    rw [hset h hs, hset h' hs']
    refine .ok (.inr ?_)
    rcases ht with rfl | ⟨hencoding, hentries⟩
    · exact ⟨rfl, putEntry_credentials_twins hs hs' h.entries⟩
    · refine ⟨hencoding, ?_⟩
      dsimp only
      rw [putEntry_eq hentries]
      exact putEntry_credentials_twins hs hs' h'.entries

theorem Twins.erase (ht : h.Twins h') (name : String) :
    Corresponds Twins (h.erase name) (h'.erase name) := by
  have hkey := ht.key_eq name
  have hget := ht.get? name
  unfold Headers.erase
  rw [hkey]
  cases h'.key name with
  | error cause => exact .error cause
  | ok k =>
    simp only [bind, Except.bind]
    generalize h.get? name = found, h'.get? name = found' at hget
    cases hget with
    | error cause => exact .error cause
    | ok hfound =>
      cases hfound with
      | none => exact .ok ht
      | some _ =>
        refine .ok ?_
        rcases ht with rfl | ⟨hencoding, hentries⟩
        · exact .refl _
        · exact .inr ⟨hencoding, filter_twins hentries k⟩

end Headers
end AuthRelay
