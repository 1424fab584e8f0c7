import AuthRelay.Text.Blank
/-!
# Reading integers

A decimal integer as people may write it: blanks around it, a sign, digits of any script, and
single underscores between digits. Every script's decimal digits stand in ten consecutive code
points, so the table holds the zeros only (Unicode 14).
-/
namespace AuthRelay.Text.Integer

/-- The code points of the digit zero, one for each run of ten. -/
def zeros : List Nat :=
  [ 0x30, 0x660, 0x6F0, 0x7C0, 0x966, 0x9E6, 0xA66, 0xAE6, 0xB66, 0xBE6, 0xC66, 0xCE6, 0xD66,
    0xDE6, 0xE50, 0xED0, 0xF20, 0x1040, 0x1090, 0x17E0, 0x1810, 0x1946, 0x19D0, 0x1A80, 0x1A90,
    0x1B50, 0x1BB0, 0x1C40, 0x1C50, 0xA620, 0xA8D0, 0xA900, 0xA9D0, 0xA9F0, 0xAA50, 0xABF0,
    0xFF10, 0x104A0, 0x10D30, 0x11066, 0x110F0, 0x11136, 0x111D0, 0x112F0, 0x11450, 0x114D0,
    0x11650, 0x116C0, 0x11730, 0x118E0, 0x11950, 0x11C50, 0x11D50, 0x11DA0, 0x16A60, 0x16AC0,
    0x16B50, 0x1D7CE, 0x1D7D8, 0x1D7E2, 0x1D7EC, 0x1D7F6, 0x1E140, 0x1E2F0, 0x1E950, 0x1FBF0 ]

/-- The value of a decimal digit of any script. -/
def digit? (c : Char) : Option Nat :=
  (zeros.find? fun low => low ≤ c.toNat && c.toNat < low + 10).map (c.toNat - ·)

/-- Longer numerals are refused, leading zeros counted. -/
def maxDigits : Nat := 4300

/-- Digits with single underscores between them, most significant first. -/
def digits? : List Char → Option (List Nat)
  | [] => none
  | [c] => (digit? c).map ([·])
  | c :: '_' :: rest => do (← digit? c) :: (← digits? rest)
  | c :: rest => do (← digit? c) :: (← digits? rest)

/-- The number that a list of decimal digits denotes. -/
def ofDigits (ds : List Nat) : Nat :=
  ds.foldl (fun n d => n * 10 + d) 0

/-- A numeral without a sign. -/
def readNat? (s : List Char) : Option Nat := do
  let ds ← digits? s
  if ds.length ≤ maxDigits then some (ofDigits ds) else none

/-- A numeral with an optional sign and blanks around it. -/
def read? (s : List Char) : Option Int :=
  match trim s with
  | '+' :: rest => (readNat? rest).map Int.ofNat
  | '-' :: rest => (readNat? rest).map fun n => -Int.ofNat n
  | rest => (readNat? rest).map Int.ofNat

end AuthRelay.Text.Integer
