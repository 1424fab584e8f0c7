import AuthRelay.Text.Hex
import AuthRelay.Text.Pieces
/-!
# Numeric addresses

Which texts are internet addresses of version 4 and 6, and which host names are written like a
version 4 address, so that they must be one.
-/
namespace AuthRelay.Url

/-- A decimal number from 0 to 255, without superfluous zeros. -/
def isOctet (s : List Char) : Bool :=
  match s with
  | [a] => a.isDigit
  | [a, b] => a.isDigit && b.isDigit && a != '0'
  | [a, b, c] => a.isDigit && b.isDigit && c.isDigit && a != '0' &&
      (a.toNat - 48) * 100 + (b.toNat - 48) * 10 + (c.toNat - 48) ≤ 255
  | _ => false

/-- Four octets with dots between them. -/
def isAddress4 (s : List Char) : Bool :=
  match Text.pieces '.' s with
  | [a, b, c, d] => isOctet a && isOctet b && isOctet c && isOctet d
  | _ => false

/-- Up to four hexadecimal digits. -/
def isGroup (s : List Char) : Bool :=
  !s.isEmpty && s.length ≤ 4 && s.all fun c => (Text.Hex.value? c).isSome

/-- Replaces a version 4 address at the end by two groups; none if it is malformed. -/
def expandTail? : List (List Char) → Option (List (List Char))
  | [] => some []
  | [last] => if '.' ∈ last then if isAddress4 last then some [['0'], ['0']] else none
      else some [last]
  | group :: rest => (expandTail? rest).map (group :: ·)

/-- The groups on one side of `::`; an empty side is written by one empty piece. -/
def sideLength? (side : List (List Char)) : Option Nat :=
  if side = [[]] then some 0
  else if side.all isGroup then some side.length else none

/-- Eight groups, or at most seven around one `::`. The first and last piece may be empty only
next to it. -/
def isGroups (parts : List (List Char)) : Bool :=
  match parts with
  | [] => false
  | first :: others =>
    match others.dropLast.findIdx? List.isEmpty with
    | none => parts.length = 8 && parts.all isGroup
    | some i =>
      match sideLength? (first :: others.take i), sideLength? (others.drop (i + 1)) with
      | some high, some low => high + low ≤ 7
      | _, _ => false

/-- A version 6 address, which may name a zone after a percent sign. -/
def isAddress6 (s : List Char) : Bool :=
  let (address, zoneOk) := match Text.cutFirst? '%' s with
    | none => (s, true)
    | some (before, zone) => (before, !zone.isEmpty && '%' ∉ zone)
  let parts := Text.pieces ':' address
  zoneOk && 3 ≤ parts.length && match expandTail? parts with
    | none => false
    | some groups => isGroups groups

/-- Whether a text is four non-empty runs of digits with dots between them. -/
def looksNumeric (s : List Char) : Bool :=
  let parts := Text.pieces '.' s
  parts.length = 4 && parts.all fun part => !part.isEmpty && part.all Char.isDigit

end AuthRelay.Url
