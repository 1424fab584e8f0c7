import AuthRelay.Credential.FromEnvironment
import AuthRelay.EnvFile.Load
import AuthRelay.Proofs.Encodings
import AuthRelay.Proofs.Tables
import AuthRelay.Text.Base64.Lemmas
/-!
# Secret texts

Two secrets are veiled from each other if nothing can be told from them but what they say: both are
empty or neither is, and neither has a character that a header or a variable cannot take. A veil
says which variables hold secrets. What is decided by looking at a credential set or at an
environment is decided in the same way for another one that differs from it in secrets only.
-/
namespace AuthRelay

/-- A text of ASCII characters without NUL. -/
def IsPlain (s : String) : Prop :=
  Charset.isAscii s.toList = true ∧ holdsNul s = false

instance (s : String) : Decidable (IsPlain s) :=
  inferInstanceAs (Decidable (_ ∧ _))

/-- Two secrets that are the same, or both plain. Both are empty or neither is. -/
structure Veiled (s t : String) : Prop where
  empty : s = "" ↔ t = ""
  plain : s = t ∨ IsPlain s ∧ IsPlain t

instance (s t : String) : Decidable (Veiled s t) :=
  decidable_of_iff ((s = "" ↔ t = "") ∧ (s = t ∨ IsPlain s ∧ IsPlain t))
    ⟨fun h => ⟨h.1, h.2⟩, fun h => ⟨h.empty, h.plain⟩⟩

theorem Veiled.refl (s : String) : Veiled s s :=
  ⟨.rfl, .inl rfl⟩

theorem Veiled.holdsNul {s t : String} (h : Veiled s t) : holdsNul s = holdsNul t := by
  rcases h.plain with rfl | ⟨hs, ht⟩
  · rfl
  · rw [hs.2, ht.2]

/-- Two values of one header: the same, or two that every encoding has. -/
def WrittenAlike (s t : String) : Prop :=
  s = t ∨ Charset.isAscii s.toList = true ∧ Charset.isAscii t.toList = true

theorem Veiled.writtenAlike {s t : String} (h : Veiled s t) : WrittenAlike s t :=
  h.plain.imp_right fun ⟨hs, ht⟩ => ⟨hs.1, ht.1⟩

/-! ## Credential sets -/

theorem WrittenAlike.append {s t : String} (h : WrittenAlike s t) {start : String}
    (hstart : Charset.isAscii start.toList = true) : WrittenAlike (start ++ s) (start ++ t) := by
  rcases h with rfl | ⟨hs, ht⟩
  · exact .inl rfl
  · simp only [WrittenAlike, String.toList_append, Encoding.isAscii_append, hstart, hs, ht,
      Bool.and_self, and_self, or_true]

namespace CredentialSet

/-- Two sets that differ in secrets only. A user name and a password are encoded before they go into
a header, so any characters may stand in them. -/
structure Twins (c c' : CredentialSet) : Prop where
  username : c.username = "" ↔ c'.username = ""
  password : c.password = "" ↔ c'.password = ""
  auth : Veiled c.auth c'.auth
  registryToken : Veiled c.registryToken c'.registryToken

variable {c c' : CredentialSet}

theorem mask_congr {s t : String} (h : s = "" ↔ t = "") : mask s = mask t := by
  simp only [mask, h]

/-- Diagnostics show both in the same way. -/
theorem Twins.masked_eq (h : c.Twins c') : c.masked = c'.masked := by
  have husername := mask_congr h.username
  have hpassword := mask_congr h.password
  have hauth := mask_congr h.auth.empty
  have hregistryToken := mask_congr h.registryToken.empty
  unfold masked
  rw [husername, hpassword, hauth, hregistryToken]

theorem Twins.activeShape_eq (h : c.Twins c') : c.activeShape = c'.activeShape := by
  simp only [activeShape, ne_eq, h.username, h.password, h.auth.empty, h.registryToken.empty]

theorem Twins.eq_empty_iff (h : c.Twins c') : c = {} ↔ c' = {} := by
  obtain ⟨username, password, auth, registryToken⟩ := c
  obtain ⟨username', password', auth', registryToken'⟩ := c'
  obtain ⟨husername, hpassword, hauth, hregistryToken⟩ := h
  simp only [CredentialSet.mk.injEq]
  rw [husername, hpassword, hauth.empty, hregistryToken.empty]

/-- Both make a header or neither does, and the two values are written alike. -/
theorem Twins.authorization? (h : c.Twins c') :
    Option.Rel WrittenAlike c.authorization? c'.authorization? := by
  unfold CredentialSet.authorization?
  rw [h.activeShape_eq]
  cases c'.activeShape with
  | none => exact .none
  | some shape =>
    cases shape with
    | bearer => exact .some (h.registryToken.writtenAlike.append rfl)
    | auth => exact .some (h.auth.writtenAlike.append rfl)
    | basic =>
      refine .some (WrittenAlike.append (.inr ?_) rfl)
      simp only [String.toList_ofList, Text.Base64.isAscii_encode, and_self]

end CredentialSet

/-! ## Variables that hold secrets -/

/-- Which variables hold secrets. Only those can from which a field of a credential set is read. -/
structure Veil where
  covers : String → Prop
  named : ∀ name, covers name → ∃ stem field, name = FromEnvironment.variableOf stem field

namespace Veil

/-- The veil over all variables from which a field can be read. -/
def full : Veil where
  covers name := ∃ stem field, name = FromEnvironment.variableOf stem field
  named _ h := h

variable {V : Veil}

/-- Two values of a variable: the same unless the variable holds a secret. -/
def Under (V : Veil) (name : String) (s t : String) : Prop :=
  s = t ∨ V.covers name ∧ Veiled s t

theorem Under.veiled {name s t : String} (h : V.Under name s t) : Veiled s t := by
  rcases h with rfl | ⟨-, h⟩
  · exact .refl _
  · exact h

theorem Under.eq {name s t : String} (h : V.Under name s t) (hname : ¬ V.covers name) : s = t := by
  rcases h with rfl | ⟨hc, -⟩
  · rfl
  · exact absurd hc hname

/-- The last four characters of a name, backwards. -/
def ending (name : String) : List Char :=
  name.toList.reverse.take 4

theorem ending_append {front back : String} (h : 4 ≤ back.length) :
    ending (front ++ back) = ending back := by
  have hlen : 4 ≤ back.toList.reverse.length := by
    rw [List.length_reverse, String.length_toList]
    exact h
  rw [ending, String.toList_append, List.reverse_append, List.take_append_of_le_length hlen, ending]

theorem ending_variableOf (stem : String) (field : FromEnvironment.Field) :
    ending (FromEnvironment.variableOf stem field) = ending field.suffix := by
  rw [FromEnvironment.variableOf, ending_append]
  cases field <;> decide

theorem not_covers {name : String} (h : ∀ field : FromEnvironment.Field,
    ending name ≠ ending field.suffix) : ¬ V.covers name := by
  intro hc
  obtain ⟨stem, field, rfl⟩ := V.named name hc
  exact h field (ending_variableOf stem field)

/-- A variable that names a file holds no secret itself. -/
theorem not_covers_fileVariable (stem : String) :
    ¬ V.covers (FromEnvironment.fileVariable stem) := by
  refine not_covers fun field => ?_
  rw [FromEnvironment.fileVariable, ending_append (by decide)]
  cases field <;> decide

theorem not_covers_home : ¬ V.covers "HOME" :=
  not_covers fun field => by cases field <;> decide

theorem not_covers_switch : ¬ V.covers EnvFile.switch :=
  not_covers fun field => by cases field <;> decide

end Veil

/-- Two environments with the same variables, which differ in secrets only. -/
def Environment.Twins (V : Veil) (environment environment' : Environment) : Prop :=
  Table.Related V.Under environment environment'

namespace Environment.Twins

variable {V : Veil} {environment environment' : Environment}

theorem find?_eq (h : Environment.Twins V environment environment') {name : String}
    (hname : ¬ V.covers name) : environment.find? name = environment'.find? name := by
  have hfound := Table.Related.find? h name
  generalize environment.find? name = found, environment'.find? name = found' at hfound
  cases hfound with
  | none => rfl
  | some hvalue => rw [hvalue.eq hname]

theorem isDisabled_eq (h : Environment.Twins V environment environment') :
    EnvFile.isDisabled environment = EnvFile.isDisabled environment' := by
  rw [EnvFile.isDisabled, EnvFile.isDisabled, h.find?_eq Veil.not_covers_switch]

end Environment.Twins

/-- Whether a value can be bound does not depend on the secret. -/
theorem Veiled.bindingFault?_eq {s t : String} (h : Veiled s t) (name : String) :
    EnvFile.bindingFault? name s = EnvFile.bindingFault? name t := by
  rw [EnvFile.bindingFault?, EnvFile.bindingFault?, h.holdsNul]

end AuthRelay
