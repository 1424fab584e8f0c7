import AuthRelay.Text.Utf8
/-!
# Percent-encoding

Each part of a URL keeps the printable ASCII characters that cannot be mistaken for a delimiter
there, and writes every other character as the percent-encoded octets of its UTF-8 form. The
percent sign itself is kept everywhere, so text that is encoded already stays as it is.
-/
namespace AuthRelay.Url

/-- The parts of a URL that are written percent-encoded. -/
inductive Part
  | userinfo
  | host
  | path
  | query
  | fragment
  deriving Repr, DecidableEq

/-- The characters that a part writes in another way although they are printable ASCII. -/
def Part.reserved : Part → List Char
  | .userinfo => ['"', '#', '<', '>', '?', '`', '\x7b', '\x7d', '/', ';', '=', '@', '[', '\\',
      ']', '^', '|']
  | .host => ['#', '/', ':', '<', '>', '?', '@', '[', ']', '^']
  | .path => ['"', '#', '<', '>', '?', '`', '\x7b', '\x7d']
  | .query => ['"', '#', '<', '>']
  | .fragment => ['"', '<', '>', '`']

/-- Whether a part shows the character as it is. -/
def Part.keeps (part : Part) (c : Char) : Bool :=
  0x20 < c.toNat && c.toNat < 0x7F && !part.reserved.contains c

/-- A hexadecimal digit, in upper case. -/
def hexDigit (n : Nat) : Char :=
  if n < 10 then Char.ofNat (n + 48) else Char.ofNat (n - 10 + 65)

/-- One octet, percent-encoded. -/
def escapeOctet (b : UInt8) : List Char :=
  ['%', hexDigit (b.toNat / 16), hexDigit (b.toNat % 16)]

/-- A text as it stands in a part. -/
def Part.encode (part : Part) (s : List Char) : List Char :=
  s.flatMap fun c => if part.keeps c then [c] else (String.utf8EncodeChar c).flatMap escapeOctet

theorem Part.encode_cons (part : Part) (c : Char) (s : List Char) :
    part.encode (c :: s) =
      (if part.keeps c then [c] else (String.utf8EncodeChar c).flatMap escapeOctet) ++
        part.encode s := by
  simp [Part.encode]

/-- A text of kept characters is left alone. -/
theorem Part.encode_of_all_keeps {part : Part} {s : List Char}
    (h : ∀ c ∈ s, part.keeps c = true) : part.encode s = s := by
  induction s with
  | nil => rfl
  | cons c s ih =>
    rw [encode_cons, h c (by simp), ih fun d hd => h d (by simp [hd])]
    rfl

end AuthRelay.Url
