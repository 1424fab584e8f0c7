import AuthRelay.Text.Utf8
/-!
# Base64

The standard alphabet with padding. Three octets are written as four letters; one or two octets at
the end are padded with `=`.
-/
namespace AuthRelay.Text.Base64

/-- The letter of a six-bit number. -/
def letter (n : Nat) : Char :=
  if n < 26 then Char.ofNat (n + 65)
  else if n < 52 then Char.ofNat (n - 26 + 97)
  else if n < 62 then Char.ofNat (n - 52 + 48)
  else if n = 62 then '+'
  else '/'

/-- Writes octets in groups of three. -/
def encode : Bytes → List Char
  | a :: b :: c :: rest =>
    let n := a.toNat * 65536 + b.toNat * 256 + c.toNat
    letter (n / 262144 % 64) :: letter (n / 4096 % 64) :: letter (n / 64 % 64) ::
      letter (n % 64) :: encode rest
  | [a, b] =>
    let n := a.toNat * 65536 + b.toNat * 256
    [letter (n / 262144 % 64), letter (n / 4096 % 64), letter (n / 64 % 64), '=']
  | [a] =>
    let n := a.toNat * 65536
    [letter (n / 262144 % 64), letter (n / 4096 % 64), '=', '=']
  | [] => []

/-- The number of a letter. -/
def value? (c : Char) : Option Nat :=
  let n := c.toNat
  if 65 ≤ n ∧ n ≤ 90 then some (n - 65)
  else if 97 ≤ n ∧ n ≤ 122 then some (n - 97 + 26)
  else if 48 ≤ n ∧ n ≤ 57 then some (n - 48 + 52)
  else if c = '+' then some 62
  else if c = '/' then some 63
  else none

/-- The octet of two letters before padding. The bits under the padding must be zero. -/
def one? (w x : Char) : Option Bytes := do
  let n := (← value? w) * 64 + (← value? x)
  if n % 16 = 0 then some [UInt8.ofNat (n / 16)] else none

/-- The octets of three letters before padding. The bits under the padding must be zero. -/
def two? (w x y : Char) : Option Bytes := do
  let n := ((← value? w) * 64 + (← value? x)) * 64 + (← value? y)
  if n % 4 = 0 then some [UInt8.ofNat (n / 1024), UInt8.ofNat (n / 4 % 256)] else none

/-- The octets of four letters. -/
def three? (w x y z : Char) : Option Bytes := do
  let n := (((← value? w) * 64 + (← value? x)) * 64 + (← value? y)) * 64 + (← value? z)
  some [UInt8.ofNat (n / 65536), UInt8.ofNat (n / 256 % 256), UInt8.ofNat (n % 256)]

/-- Strict reading: groups of four letters, padding only in the last one, and no stray bits under
it. -/
def decode? : List Char → Option Bytes
  | [] => some []
  | w :: x :: y :: z :: rest =>
    if z = '=' then
      if rest = [] then (if y = '=' then one? w x else two? w x y) else none
    else do
      let group ← three? w x y z
      let tail ← decode? rest
      some (group ++ tail)
  | _ => none

end AuthRelay.Text.Base64
