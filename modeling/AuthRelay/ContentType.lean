import AuthRelay.Text.Blank
import AuthRelay.Text.Case
import AuthRelay.Text.Hex
import AuthRelay.Text.Integer
import AuthRelay.Text.Pieces
/-!
# Content types

A content type is followed by parameters, `name=value`, with semicolons between them. A long value
may be spread over sections, `name*0=…`, `name*1=…`, or stand under `name*` alone. A section whose
name ends in an asterisk is percent-encoded, and a value with such a section may start with the
name of its own charset and with its language, each closed by an apostrophe. Sections count from
the second parameter on: the first place is that of the media type.
-/
namespace AuthRelay

/-- Why the charset of a content type cannot be told. -/
inductive ContentTypeFault
  /-- The number of a section has too many digits. -/
  | longNumber (digits : Nat)
  /-- Some sections of a value are numbered and others are not. -/
  | mixedSections (firstNumbered : Bool)
  /-- The name of a charset holds a NUL character. -/
  | nulInCharset
  deriving Repr, DecidableEq

/-- The wording of a content type fault. -/
def ContentTypeFault.message : ContentTypeFault → String
  | .longNumber digits => "Exceeds the limit (" ++ toString Text.Integer.maxDigits ++
      " digits) for integer string conversion: value has " ++ toString digits ++
      " digits; use sys.set_int_max_str_digits() to increase the limit"
  | .mixedSections firstNumbered =>
      let first := if firstNumbered then "int" else "NoneType"
      let other := if firstNumbered then "NoneType" else "int"
      "'<' not supported between instances of '" ++ other ++ "' and '" ++ first ++ "'"
  | .nulInCharset => "embedded null character"

namespace ContentType

/-- The value of a parameter. -/
inductive Value
  | plain (text : List Char)
  /-- A text together with the name of its own charset, which is empty if none is given. -/
  | extended (charset text : List Char)
  deriving Repr, DecidableEq

/-- The charset in which a value is written, empty if it has none of its own. -/
def Value.charset : Value → List Char
  | .plain _ => []
  | .extended charset _ => charset

/-- A parameter. -/
structure Parameter where
  name : List Char
  value : Value
  deriving Repr, DecidableEq

/-- A section of a value. -/
structure Section where
  number : Option Nat
  text : List Char
  encoded : Bool
  deriving Repr, DecidableEq

/-- What a field of a content type holds: a whole parameter, or a section of the one named. -/
inductive Item
  | whole (p : Parameter)
  | part (name : List Char) (s : Section)
  deriving Repr, DecidableEq

/-- Cuts at semicolons outside double quotes. A quote after a backslash neither opens nor closes;
`inside` tells whether a quote is open and `escaped` whether a backslash came last. -/
def fields (inside escaped : Bool) : List Char → List (List Char)
  | [] => [[]]
  | c :: rest =>
    if c = ';' ∧ inside = false then [] :: fields false false rest
    else
      let inside := if c = '"' ∧ escaped = false then !inside else inside
      match fields inside (c == '\\') rest with
      | [] => [[c]]
      | first :: others => (c :: first) :: others

/-- Name and value of a field. A name with a value is put in small letters, one without a value is
left as it is. -/
def nameAndValue (field : List Char) : List Char × List Char :=
  match Text.cutFirst? '=' field with
  | some (name, value) => (Text.lowerAfter [] (Text.trim name), Text.trim value)
  | none => (Text.trim field, [])

/-- Reads `\c` as `c`. -/
def unescape (c : Char) : List Char → List Char
  | [] => []
  | a :: b :: rest => if a = '\\' ∧ b = c then c :: unescape c rest else a :: unescape c (b :: rest)
  | [a] => [a]

/-- A value without the quotes or angle brackets around it. -/
def unquote (value : List Char) : List Char :=
  match value with
  | '"' :: rest =>
    if rest.getLast? = some '"' then unescape '"' (unescape '\\' rest.dropLast) else value
  | '<' :: rest => if rest.getLast? = some '>' then rest.dropLast else value
  | _ => value

/-- Reads `%XX` as the character with that code point. -/
def unescapePercent : List Char → List Char
  | '%' :: a :: b :: rest =>
    match Text.Hex.value? a, Text.Hex.value? b with
    | some high, some low => Char.ofNat (high * 16 + low) :: unescapePercent rest
    | _, _ => '%' :: unescapePercent (a :: b :: rest)
  | c :: rest => c :: unescapePercent rest
  | [] => []

/-- A character of a name that has sections. -/
def isNameChar (c : Char) : Bool :=
  c.isAlphanum || c == '_'

/-- The name of a parameter that has sections, and the digits of the section's number, which may be
missing: `name*`, `name*0` or `name*0*`. -/
def sectionOf? (name : List Char) : Option (List Char × List Char) :=
  let base := name.takeWhile isNameChar
  match base, name.drop base.length with
  | _ :: _, '*' :: rest =>
    let digits := rest.takeWhile Char.isDigit
    match digits, rest.drop digits.length with
    | _, [] => some (base, digits)
    | _ :: _, ['*'] => some (base, digits)
    | _, _ => none
  | _, _ => none

/-- The number of a section. -/
def sectionNumber (digits : List Char) : Except ContentTypeFault (Option Nat) :=
  if digits = [] then .ok none
  else if Text.Integer.maxDigits < digits.length then .error (.longNumber digits.length)
  else .ok (some (Text.Integer.ofDigits (digits.map fun c => c.toNat - 48)))

/-- What a field holds. -/
def Item.ofField (name value : List Char) : Except ContentTypeFault Item :=
  match sectionOf? name with
  | none => .ok (.whole ⟨name, .plain (unquote value)⟩)
  | some (base, digits) => do
    pure (.part base ⟨← sectionNumber digits, unquote value, name.getLast? == some '*'⟩)

/-- The parameter of an item that is whole. -/
def Item.whole? : Item → Option Parameter
  | .whole p => some p
  | .part _ _ => none

/-- The section of an item that is none, with its name. -/
def Item.part? : Item → Option (List Char × Section)
  | .whole _ => none
  | .part name s => some (name, s)

/-- The sections under each name, in the order in which the names first came up. -/
def families (parts : List (List Char × Section)) : List (List Char × List Section) :=
  (parts.map (·.1)).eraseDups.map fun name => (name, (parts.filter (·.1 == name)).map (·.2))

/-- The order of sections: by number, then by text, and last the encoded one. -/
def Section.le (a b : Section) : Bool :=
  let m := a.number.getD 0
  let n := b.number.getD 0
  m < n || (m == n && (a.text < b.text || (a.text == b.text && (!a.encoded || b.encoded))))

/-- The text of a section, decoded if it is encoded. -/
def Section.plainText (s : Section) : List Char :=
  if s.encoded then unescapePercent s.text else s.text

/-- Splits a text into charset, language and the rest, if it has the first two. -/
def Value.ofExtended (text : List Char) : Value :=
  match Text.cutFirst? '\'' text with
  | none => .extended [] text
  | some (charset, rest) =>
    match Text.cutFirst? '\'' rest with
    | none => .extended [] text
    | some (_, rest) => .extended charset rest

/-- Puts the sections of a value together. All of them are numbered, or none. -/
def assemble (sections : List Section) : Except ContentTypeFault Value :=
  let firstNumbered := sections.head?.any (·.number.isSome)
  if sections.any (·.number.isSome != firstNumbered) then .error (.mixedSections firstNumbered)
  else
    let text := (sections.mergeSort Section.le).flatMap Section.plainText
    .ok (if sections.any (·.encoded) then .ofExtended text else .plain text)

/-- The parameters of a content type, those in sections last. -/
def parameters (contentType : String) : Except ContentTypeFault (List Parameter) :=
  match (fields false false contentType.toList).map nameAndValue with
  | [] => .ok []
  | (name, value) :: rest => do
    let items ← rest.mapM fun (name, value) => Item.ofField name value
    let spread ← (families (items.filterMap Item.part?)).mapM fun (name, sections) => do
      pure (⟨name, ← assemble sections⟩ : Parameter)
    pure (⟨name, .plain (unquote value)⟩ :: items.filterMap Item.whole? ++ spread)

/-- The value of the first parameter of a name, given in small letters. -/
def find? (name : List Char) (parameters : List Parameter) : Option Value :=
  (parameters.find? fun p => Text.lowerAfter [] p.name == name).map (·.value)

end ContentType
end AuthRelay
