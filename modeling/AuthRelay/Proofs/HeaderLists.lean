import AuthRelay.Proofs.Encodings
import AuthRelay.Relay.Basic
/-!
# The header for credentials in a header list

What a look-up finds after the header has been written or dropped, what stays as it was, and that
the last of several writes is the only one that shows. The encoding of the list has been settled by
then, so a look-up reads what was written.
-/
namespace AuthRelay

/-- A text, or its absence, and the octets that stand for it in an encoding. -/
inductive Encoding.Writes (e : Encoding) : Option String → Option Bytes → Prop
  | nothing : Writes e none none
  | text {value : String} {octets : Bytes} (h : e.encode? value = some octets) :
      Writes e (some value) (some octets)

theorem Encoding.Writes.bind_encode? {e : Encoding} {value : Option String}
    {octets : Option Bytes} (h : e.Writes value octets) : value.bind e.encode? = octets := by
  cases h with
  | nothing => rfl
  | text h => exact h

namespace Headers

/-- The name of the header for credentials, as it is written. -/
def authorizationName : Bytes := Text.Utf8.encode Relay.authorization

/-- The name of the header for credentials, as names are compared. -/
def authorizationKey : Bytes := foldName authorizationName

/-- The name of the header for the host, as names are compared. -/
def hostKey : Bytes := Text.Utf8.encode "host"

@[simp] theorem entries_settle (h : Headers) : h.settle.entries = h.entries := rfl

@[simp] theorem get?_settle (h : Headers) (name : String) : h.settle.get? name = h.get? name := rfl

theorem settle_of_encoding {h : Headers} {e : Encoding} (he : h.encoding = some e) :
    h.settle = h := by
  cases h
  subst he
  rfl

theorem key_authorization (h : Headers) : h.key Relay.authorization = .ok authorizationKey := by
  unfold key
  cases h.chosen <;> rfl

theorem key_host (h : Headers) : h.key "Host" = .ok hostKey := by
  unfold key
  cases h.chosen <;> rfl

theorem encode?_authorization (e : Encoding) :
    e.encode? Relay.authorization = some authorizationName := by
  cases e <;> rfl

theorem named_authorizationName (value : Bytes) :
    named authorizationKey (authorizationName, value) = true := rfl

/-- A look-up depends on the values under the name and on the encoding only. -/
theorem get?_congr {h h' : Headers} {name : String} {key : Bytes} (hk : h.key name = .ok key)
    (hk' : h'.key name = .ok key) (hc : h.chosen = h'.chosen)
    (hv : h.rawValues key = h'.rawValues key) : h.get? name = h'.get? name := by
  simp only [get?, hk, hk', hc, hv, bind, Except.bind]

theorem get?_of_rawValues_nil {h : Headers} {name : String} {key : Bytes}
    (hk : h.key name = .ok key) (hv : h.rawValues key = []) : h.get? name = .ok none := by
  simp [get?, hk, hv, bind, Except.bind, pure, Except.pure]

theorem get?_of_rawValues_singleton {h : Headers} {name value : String} {key octets : Bytes}
    (hk : h.key name = .ok key) (hv : h.rawValues key = [octets])
    (hd : h.chosen.decode? octets = some value) : h.get? name = .ok (some value) := by
  simp [get?, hk, hv, hd, bind, Except.bind, pure, Except.pure]

theorem rawValues_of_get?_none {h : Headers} {name : String} {key : Bytes}
    (hk : h.key name = .ok key) (hg : h.get? name = .ok none) : h.rawValues key = [] := by
  simp only [get?, hk, bind, Except.bind] at hg
  split at hg
  · assumption
  · split at hg <;> cases hg

theorem exists_of_mem_mapM {f : Bytes → Option String} {values : List Bytes}
    {texts : List String} (h : values.mapM f = some texts) {s : String} (hs : s ∈ texts) :
    ∃ octets, f octets = some s := by
  induction values generalizing texts with
  | nil =>
    cases h
    simp at hs
  | cons octets rest ih =>
    obtain ⟨t, others, ht, hothers, rfl⟩ := Encoding.mapM_cons_eq_some h
    rcases List.mem_cons.mp hs with rfl | hs
    · exact ⟨octets, ht⟩
    · exact ih hothers hs

/-- A header list whose encoding reads everything in it. -/
def Readable (h : Headers) : Prop :=
  h.readableIn h.chosen = true

/-- A list that has not settled on an encoding takes one that reads it. -/
theorem readable_of_unsettled {h : Headers} (hnone : h.encoding = none) : h.Readable := by
  have hlatin1 : h.readableIn .latin1 = true := by simp [readableIn, Encoding.decode?]
  unfold Readable chosen
  rw [hnone, Option.getD_none]
  split
  · assumption
  · split
    · assumption
    · exact hlatin1

theorem exists_mapM_eq_some {f : Bytes → Option String} {values : List Bytes}
    (h : ∀ value ∈ values, (f value).isSome) : ∃ texts, values.mapM f = some texts := by
  induction values with
  | nil => exact ⟨[], rfl⟩
  | cons value rest ih =>
    obtain ⟨text, htext⟩ := Option.isSome_iff_exists.mp (h value (by simp))
    obtain ⟨texts, htexts⟩ := ih fun other hother => h other (by simp [hother])
    exact ⟨text :: texts, by simp [List.mapM_cons, htext, htexts]⟩

/-- Every header of a readable list can be looked up. -/
theorem Readable.get? {h : Headers} (hread : h.Readable) {name : String} {key : Bytes}
    (hk : h.key name = .ok key) : ∃ found, h.get? name = .ok found := by
  have hvalues : ∀ value ∈ h.rawValues key, (h.chosen.decode? value).isSome := by
    intro value hvalue
    obtain ⟨entry, hentry, rfl⟩ := List.mem_map.mp hvalue
    have hall := List.all_eq_true.mp hread entry (List.mem_filter.mp hentry).1
    simp only [Bool.and_eq_true] at hall
    exact hall.2
  obtain ⟨texts, htexts⟩ := exists_mapM_eq_some hvalues
  simp only [Headers.get?, hk, bind, Except.bind]
  split
  · exact ⟨none, rfl⟩
  · rename_i value rest hv
    rw [hv] at htexts
    simp only [htexts]
    exact ⟨_, rfl⟩

/-- What a look-up finds can be written again. -/
theorem covers_of_get? {h : Headers} {name value : String} {key : Bytes}
    (hk : h.key name = .ok key) (hg : h.get? name = .ok (some value)) :
    ∀ c ∈ value.toList, h.chosen.Covers c := by
  simp only [get?, hk, bind, Except.bind] at hg
  split at hg
  · cases hg
  · split at hg
    · rename_i texts htexts
      cases hg
      refine Encoding.covers_intercalate ?_ fun s hs => ?_
      · exact Encoding.covers_of_isAscii rfl _
      · obtain ⟨octets, hd⟩ := exists_of_mem_mapM htexts hs
        exact Encoding.covers_of_decode? hd
    · cases hg

/-- The entries of one name are none of another. -/
theorem filter_named_filter_not_named {key other : Bytes} (hne : other ≠ key)
    (l : List (Bytes × Bytes)) :
    (l.filter (!named key ·)).filter (named other) = l.filter (named other) := by
  rw [List.filter_filter]
  refine List.filter_congr fun entry _ => ?_
  by_cases hn : named other entry = true
  · have hkey : named key entry = false := by
      simp only [named, beq_iff_eq] at hn
      simp only [named, hn, beq_eq_false_iff_ne]
      exact hne
    simp [hn, hkey]
  · simp [hn]

/-- Entries of other names are found as before. -/
theorem filter_named_putEntry_of_ne {key other : Bytes} {entry : Bytes × Bytes}
    (h : named key entry = true) (hne : other ≠ key) (l : List (Bytes × Bytes)) :
    (putEntry key entry l).filter (named other) = l.filter (named other) := by
  rw [← filter_named_filter_not_named hne, filter_not_named_putEntry h,
    filter_named_filter_not_named hne]

/-- What becomes of a list into which an entry is put: it stands where the first entry of its name
stood, and the others of that name are gone, or it comes last if there was none. -/
inductive PutIn (key : Bytes) (entry : Bytes × Bytes) :
    List (Bytes × Bytes) → List (Bytes × Bytes) → Prop
  | inPlace {before after : List (Bytes × Bytes)} {old : Bytes × Bytes}
      (hbefore : ∀ e ∈ before, named key e = false) (hold : named key old = true) :
    PutIn key entry (before ++ old :: after) (before ++ entry :: after.filter (!named key ·))
  | atEnd {l : List (Bytes × Bytes)} (h : ∀ e ∈ l, named key e = false) :
    PutIn key entry l (l ++ [entry])

theorem putIn_putEntry (key : Bytes) (entry : Bytes × Bytes) (l : List (Bytes × Bytes)) :
    PutIn key entry l (putEntry key entry l) := by
  induction l with
  | nil => exact .atEnd (by simp)
  | cons e rest ih =>
    cases he : named key e with
    | true =>
      rw [putEntry, if_pos he, ← List.nil_append (e :: rest), ← List.nil_append (entry :: _)]
      exact .inPlace (by simp) he
    | false =>
      rw [putEntry, if_neg (by simp [he])]
      generalize putEntry key entry rest = put at ih
      cases ih with
      | inPlace hbefore hold =>
        rw [← List.cons_append, ← List.cons_append]
        exact .inPlace (List.forall_mem_cons.mpr ⟨he, hbefore⟩) hold
      | atEnd h => exact .atEnd (List.forall_mem_cons.mpr ⟨he, h⟩)

/-! ## Writing and dropping the header for credentials -/

/-- The list with a value under the header for credentials, or without that header. -/
def withCredentials (h : Headers) : Option Bytes → Headers
  | some value =>
    { h with entries := putEntry authorizationKey (authorizationName, value) h.entries }
  | none => { h with entries := h.entries.filter (!named authorizationKey ·) }

theorem encoding_withCredentials (h : Headers) (octets : Option Bytes) :
    (h.withCredentials octets).encoding = h.encoding := by
  cases octets <;> rfl

theorem chosen_withCredentials {h : Headers} {e : Encoding} (he : h.encoding = some e)
    (octets : Option Bytes) : (h.withCredentials octets).chosen = h.chosen := by
  simp only [chosen, encoding_withCredentials, he, Option.getD_some]

/-- Every other entry stays where it is. -/
theorem filter_withCredentials (h : Headers) (octets : Option Bytes) :
    (h.withCredentials octets).entries.filter (!named authorizationKey ·) =
      h.entries.filter (!named authorizationKey ·) := by
  cases octets with
  | none => simp [withCredentials, List.filter_filter]
  | some value => exact filter_not_named_putEntry (named_authorizationName value) h.entries

theorem rawValues_withCredentials (h : Headers) (octets : Option Bytes) :
    (h.withCredentials octets).rawValues authorizationKey = octets.toList := by
  cases octets with
  | none => simp [withCredentials, rawValues, List.filter_filter]
  | some value =>
    simp [withCredentials, rawValues, filter_named_putEntry (named_authorizationName value)]

theorem rawValues_host_withCredentials (h : Headers) (octets : Option Bytes) :
    (h.withCredentials octets).rawValues hostKey = h.rawValues hostKey := by
  have hne : hostKey ≠ authorizationKey := by decide
  simp only [rawValues]
  rw [← filter_named_filter_not_named hne, filter_withCredentials,
    filter_named_filter_not_named hne]

/-- The host is found as before. -/
theorem get?_host_withCredentials {h : Headers} {e : Encoding} (he : h.encoding = some e)
    (octets : Option Bytes) : (h.withCredentials octets).get? "Host" = h.get? "Host" :=
  get?_congr (key_host _) (key_host _) (chosen_withCredentials he octets)
    (rawValues_host_withCredentials h octets)

/-- What has been written is what a look-up finds. -/
theorem get?_withCredentials {h : Headers} {e : Encoding} (he : h.encoding = some e)
    {value : Option String} {octets : Option Bytes} (hw : h.chosen.Writes value octets) :
    (h.withCredentials octets).get? Relay.authorization = .ok value := by
  have hv := rawValues_withCredentials h octets
  cases hw with
  | nothing => exact get?_of_rawValues_nil (key_authorization _) hv
  | text hb =>
    refine get?_of_rawValues_singleton (key_authorization _) hv ?_
    rw [chosen_withCredentials he]
    exact Encoding.decode?_of_encode? hb

theorem withCredentials_none_of_rawValues_nil {h : Headers}
    (hv : h.rawValues authorizationKey = []) : h.withCredentials none = h := by
  have hall : ∀ entry ∈ h.entries, (!named authorizationKey entry) = true := by
    simpa [rawValues, List.filter_eq_nil_iff] using hv
  simp only [withCredentials, List.filter_eq_self.mpr hall]

/-- Of two writes the second one is all that shows. If the first one dropped the header, the list
must have been without it before: otherwise the second would not know where it stood. -/
theorem withCredentials_withCredentials {h : Headers} {first : Option Bytes}
    (hf : first = none → h.rawValues authorizationKey = []) (second : Option Bytes) :
    (h.withCredentials first).withCredentials second = h.withCredentials second := by
  cases first with
  | none => rw [withCredentials_none_of_rawValues_nil (hf rfl)]
  | some value =>
    have hn := named_authorizationName value
    -- the first value stands where the second one is put
    cases second with
    | none => simp only [withCredentials, filter_not_named_putEntry hn]
    | some other => simp only [withCredentials, putEntry_putEntry hn]

/-- Setting the header writes the value in the encoding of the list, if that has it. -/
theorem set_authorization {h : Headers} {e : Encoding} (he : h.encoding = some e)
    (value : String) : h.set Relay.authorization value =
      match e.encode? value with
      | some octets => .ok (h.withCredentials (some octets))
      | none => .error .unencodable := by
  obtain ⟨entries, encoding⟩ := h
  subst he
  simp only [set, Option.getD_some, encode?_authorization]
  cases e.encode? value <;> rfl

/-- Dropping the header takes out all its entries, if their values can be read. -/
theorem erase_authorization (h : Headers) : h.erase Relay.authorization =
    match h.get? Relay.authorization with
    | .ok _ => .ok (h.withCredentials none)
    | .error cause => .error cause := by
  simp only [erase, key_authorization, bind, Except.bind]
  cases hg : h.get? Relay.authorization with
  | error cause => rfl
  | ok found =>
    cases found with
    | none =>
      -- there is nothing to take out
      have hv := rawValues_of_get?_none (key_authorization h) hg
      simp only [withCredentials_none_of_rawValues_nil hv]
      rfl
    | some value => rfl

end Headers
end AuthRelay
