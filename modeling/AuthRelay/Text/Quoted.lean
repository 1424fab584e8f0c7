import AuthRelay.Text.Hex
import AuthRelay.Text.Printable
/-!
# Quoted texts in diagnostics

A diagnostic shows a text between single quotes, or between double quotes when the text holds a
single quote and no double one. The quote and the backslash are escaped, and what cannot be
printed is written by its code point.
-/
namespace AuthRelay.Text.Quoted

/-- One character between quotes. -/
def escape (quote c : Char) : List Char :=
  if c = quote ∨ c = '\\' then ['\\', c]
  else if c = '\n' then ['\\', 'n']
  else if c = '\r' then ['\\', 'r']
  else if c = '\t' then ['\\', 't']
  else if isPrintable c then [c]
  else if c.toNat < 0x100 then '\\' :: 'x' :: Hex.digits 2 c.toNat
  else if c.toNat < 0x10000 then '\\' :: 'u' :: Hex.digits 4 c.toNat
  else '\\' :: 'U' :: Hex.digits 8 c.toNat

/-- The quote that a text is shown with. -/
def quoteFor (s : List Char) : Char :=
  if '\'' ∈ s ∧ '"' ∉ s then '"' else '\''

/-- The text as a diagnostic shows it. -/
def encode (s : String) : String :=
  let quote := quoteFor s.toList
  String.ofList (quote :: s.toList.flatMap (escape quote) ++ [quote])

end AuthRelay.Text.Quoted
