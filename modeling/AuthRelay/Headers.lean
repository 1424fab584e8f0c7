import AuthRelay.Text.Case
import AuthRelay.Text.Utf8
/-!
# Header lists

A header list keeps names and values as octets, in order, with duplicates. Names are compared
without regard to ASCII case. Texts go in and out through one encoding, which the list settles on
at its first look-up and keeps from then on: the first of ASCII, UTF-8 and ISO-8859-1 that reads
every entry. Until then texts are written as UTF-8. All this is assumed of the HTTP library.
-/
namespace AuthRelay

/-- The encodings a header list can settle on. -/
inductive Encoding
  | ascii
  | utf8
  | latin1
  deriving Repr, DecidableEq

namespace Encoding

/-- The code points of a text as octets, if all lie below a bound. -/
def narrow? (bound : Nat) (s : List Char) : Option Bytes :=
  if s.all (·.toNat < bound) then some (s.map fun c => c.toNat.toUInt8) else none

/-- Octets as code points. -/
def widen (b : Bytes) : String :=
  String.ofList (b.map fun o => Char.ofNat o.toNat)

/-- The octets of a text, if the encoding has them. -/
def encode? : Encoding → String → Option Bytes
  | .ascii, s => narrow? 0x80 s.toList
  | .utf8, s => some (Text.Utf8.encode s)
  | .latin1, s => narrow? 0x100 s.toList

/-- The text of some octets, if the encoding reads them. -/
def decode? : Encoding → Bytes → Option String
  | .ascii, b => if b.all (· < 0x80) then some (widen b) else none
  | .utf8, b => Text.Utf8.decode? b
  | .latin1, b => some (widen b)

end Encoding

/-- Why a text and a header list do not go together. -/
inductive TextFault
  | unencodable
  | undecodable
  deriving Repr, DecidableEq

/-- An octet with ASCII capitals made small. -/
def lowerOctet (b : UInt8) : UInt8 :=
  if 65 ≤ b ∧ b ≤ 90 then b + 32 else b

/-- A name in the form in which names are compared. -/
def foldName (name : Bytes) : Bytes :=
  name.map lowerOctet

/-- A header list: name and value of each entry, and the encoding settled on, if any. -/
structure Headers where
  entries : List (Bytes × Bytes)
  encoding : Option Encoding := none
  deriving Repr, DecidableEq

namespace Headers

/-- Whether an encoding reads every name and value. -/
def readableIn (h : Headers) (e : Encoding) : Bool :=
  h.entries.all fun (name, value) => (e.decode? name).isSome && (e.decode? value).isSome

/-- The encoding of the list: the one settled on, else the first that reads it. -/
def chosen (h : Headers) : Encoding :=
  h.encoding.getD <|
    if h.readableIn .ascii then .ascii else if h.readableIn .utf8 then .utf8 else .latin1

/-- The list with its encoding settled. -/
def settle (h : Headers) : Headers :=
  { h with encoding := some h.chosen }

/-- Whether an entry goes by a name, given as it is compared. -/
def named (key : Bytes) (entry : Bytes × Bytes) : Bool :=
  foldName entry.1 == key

/-- The values under a name, in order, as octets. -/
def rawValues (h : Headers) (key : Bytes) : List Bytes :=
  (h.entries.filter (named key)).map (·.2)

/-- The octets under which a name is looked up. -/
def key (h : Headers) (name : String) : Except TextFault Bytes :=
  match h.chosen.encode? (Text.lower name) with
  | some key => .ok key
  | none => .error .unencodable

/-- The values under a name, joined by commas; none if there is no entry of that name. -/
def get? (h : Headers) (name : String) : Except TextFault (Option String) := do
  match h.rawValues (← h.key name) with
  | [] => pure none
  | value :: rest =>
    match (value :: rest).mapM h.chosen.decode? with
    | some texts => pure (some (", ".intercalate texts))
    | none => throw .undecodable

/-- Whether there is an entry of a name. -/
def contains (h : Headers) (name : String) : Except TextFault Bool := do
  pure (!(h.rawValues (← h.key name)).isEmpty)

/-- Overwrites the first entry of a name and drops the others, or adds one at the end. -/
def putEntry (key : Bytes) (entry : Bytes × Bytes) : List (Bytes × Bytes) → List (Bytes × Bytes)
  | [] => [entry]
  | e :: rest =>
    if named key e then entry :: rest.filter (!named key ·) else e :: putEntry key entry rest

/-- Afterwards the new entry is the only one of its name. -/
theorem filter_named_putEntry {key : Bytes} {entry : Bytes × Bytes} (h : named key entry = true)
    (l : List (Bytes × Bytes)) : (putEntry key entry l).filter (named key) = [entry] := by
  induction l with
  | nil => simp [putEntry, h]
  | cons e rest ih =>
    by_cases he : named key e
    · simp [putEntry, he, h]
    · simp [putEntry, he, ih]

/-- Entries of other names stay as they are, in order. -/
theorem filter_not_named_putEntry {key : Bytes} {entry : Bytes × Bytes}
    (h : named key entry = true) (l : List (Bytes × Bytes)) :
    (putEntry key entry l).filter (!named key ·) = l.filter (!named key ·) := by
  induction l with
  | nil => simp [putEntry, h]
  | cons e rest ih =>
    by_cases he : named key e
    · simp [putEntry, he, h, List.filter_filter]
    · simp [putEntry, he, ih]

/-- A second entry of a name leaves no trace of the first. -/
theorem putEntry_putEntry {key : Bytes} {a b : Bytes × Bytes} (ha : named key a = true)
    (l : List (Bytes × Bytes)) : putEntry key b (putEntry key a l) = putEntry key b l := by
  induction l with
  | nil => simp [putEntry, ha]
  | cons e rest ih =>
    by_cases he : named key e
    · simp [putEntry, he, ha, List.filter_filter]
    · simp [putEntry, he, ih]

/-- Sets the value under a name. The name takes the spelling given. -/
def set (h : Headers) (name value : String) : Except TextFault Headers :=
  let encoding := h.encoding.getD .utf8
  match encoding.encode? name, encoding.encode? value with
  | some name, some value =>
    .ok { h with entries := putEntry (foldName name) (name, value) h.entries }
  | _, _ => .error .unencodable

/-- Drops every entry of a name. A value that cannot be read keeps its entry from being dropped. -/
def erase (h : Headers) (name : String) : Except TextFault Headers := do
  let key ← h.key name
  match ← h.get? name with
  | none => pure h
  | some _ => pure { h with entries := h.entries.filter (!named key ·) }

/-- Sets the value under a name unless there is one. -/
def setIfAbsent (h : Headers) (name value : String) : Except TextFault Headers := do
  match ← h.get? name with
  | none => h.set name value
  | some _ => pure h

end Headers
end AuthRelay
