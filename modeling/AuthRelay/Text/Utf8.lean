/-!
# UTF-8

Encoding is core's; decoding reads the octets with a small machine that remembers how many
continuation octets are still due and in which range the next one must lie. An octet outside that
range closes the sequence as malformed and is read afresh, so a malformed stretch is cut into the
maximal subparts that Unicode recommends: `decodeLossy` shows one U+FFFD for each of them, and
`decode?` refuses the text if there is any.
-/
namespace AuthRelay

/-- A sequence of octets. -/
abbrev Bytes := List UInt8

namespace Text.Utf8

/-- A sequence under way: `due` more octets after the next one, which must lie in `low … high`,
and the bits read so far. -/
structure Pending where
  due : Nat
  low : UInt8
  high : UInt8
  bits : Nat
  deriving Repr, DecidableEq

/-- What the first octet of a sequence announces. -/
inductive Lead
  | ascii (c : Char)
  | sequence (p : Pending)
  | malformed
  deriving Repr, DecidableEq

/-- Reads a first octet. The narrowed ranges after E0, ED, F0 and F4 keep out overlong forms,
surrogates and numbers above U+10FFFF. -/
def lead (b : UInt8) : Lead :=
  if b < 0x80 then .ascii (Char.ofNat b.toNat)
  else if b < 0xC2 then .malformed
  else if b < 0xE0 then .sequence ⟨0, 0x80, 0xBF, b.toNat - 0xC0⟩
  else if b = 0xE0 then .sequence ⟨1, 0xA0, 0xBF, 0⟩
  else if b = 0xED then .sequence ⟨1, 0x80, 0x9F, 0x0D⟩
  else if b < 0xF0 then .sequence ⟨1, 0x80, 0xBF, b.toNat - 0xE0⟩
  else if b = 0xF0 then .sequence ⟨2, 0x90, 0xBF, 0⟩
  else if b < 0xF4 then .sequence ⟨2, 0x80, 0xBF, b.toNat - 0xF0⟩
  else if b = 0xF4 then .sequence ⟨2, 0x80, 0x8F, 4⟩
  else .malformed

/-- The characters in order, with `none` for each malformed stretch. -/
def scan : Option Pending → Bytes → List (Option Char)
  | none, [] => []
  | some _, [] => [none]
  | none, b :: rest =>
    match lead b with
    | .ascii c => some c :: scan none rest
    | .sequence p => scan (some p) rest
    | .malformed => none :: scan none rest
  | some p, b :: rest =>
    if p.low ≤ b ∧ b ≤ p.high then
      let bits := p.bits * 64 + (b.toNat - 0x80)
      match p.due with
      | 0 => some (Char.ofNat bits) :: scan none rest
      | due + 1 => scan (some ⟨due, 0x80, 0xBF, bits⟩) rest
    else
      match lead b with
      | .ascii c => none :: some c :: scan none rest
      | .sequence q => none :: scan (some q) rest
      | .malformed => none :: none :: scan none rest

/-- The octets of a text. -/
def encodeChars (s : List Char) : Bytes :=
  s.flatMap String.utf8EncodeChar

/-- The octets of a text. -/
def encode (s : String) : Bytes :=
  encodeChars s.toList

/-- The text whose encoding is given, if it is well formed. -/
def decode? (b : Bytes) : Option String :=
  ((scan none b).mapM id).map String.ofList

/-- The text with each malformed stretch shown as U+FFFD. -/
def decodeLossy (b : Bytes) : String :=
  String.ofList ((scan none b).map (·.getD '\uFFFD'))

end Text.Utf8
end AuthRelay
