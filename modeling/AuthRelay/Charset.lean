import AuthRelay.ContentType
import AuthRelay.Headers
/-!
# The charset of a content type

A content type may name, among its parameters, the charset of the body. ASCII, ISO-8859-1 and UTF-8
are known under many names. A missing name stands for UTF-8, and so does one that nobody knows;
`Charset.isForeign` tells when the runtime has to be asked whether it knows one.
-/
namespace AuthRelay.Charset

/-- A charset name in the form in which names are compared: small letters, digits and dots, with
one underscore for whatever stands between them. `gap` tells whether an underscore is due. -/
def foldName (gap : Bool) : List Char → List Char
  | [] => []
  | c :: rest =>
    if c.isAlphanum || c == '.' then
      if gap then '_' :: c.toLower :: foldName false rest else c.toLower :: foldName false rest
    else foldName true rest

/-- The names of ASCII. -/
def asciiNames : List String :=
  ["ascii", "646", "ansi_x3.4_1968", "ansi_x3.4_1986", "ansi_x3_4_1968", "cp367", "csascii",
    "ibm367", "iso646_us", "iso_646.irv_1991", "iso_ir_6", "us", "us_ascii"]

/-- The names of ISO-8859-1. -/
def latin1Names : List String :=
  ["8859", "cp819", "csisolatin1", "ibm819", "iso8859", "iso8859_1", "iso_8859_1",
    "iso_8859_1_1987", "iso_ir_100", "l1", "latin", "latin1"]

/-- The names of UTF-8. -/
def utf8Names : List String :=
  ["cp65001", "u8", "utf", "utf8", "utf8_ucs2", "utf8_ucs4"]

/-- The encoding of a name. A dot in an alias may stand for an underscore. -/
def named? (name : List Char) : Option Encoding :=
  let folded := foldName false (name.dropWhile fun c => !(c.isAlphanum || c == '.'))
  let spellings := [String.ofList folded,
    String.ofList (folded.map fun c => if c = '.' then '_' else c)]
  if spellings.any asciiNames.contains then some .ascii
  else if String.ofList folded = "latin_1" ∨ spellings.any latin1Names.contains then some .latin1
  else if String.ofList folded = "utf_8" ∨ spellings.any utf8Names.contains then some .utf8
  else none

/-- Whether a text is ASCII. -/
def isAscii (s : List Char) : Bool :=
  s.all (·.toNat < 0x80)

/-- Whether a name may be that of a charset beyond the three. -/
def isForeignName (name : List Char) : Bool :=
  name != [] && isAscii name && !name.contains '\x00' && (named? name).isNone

/-- The encoding that a charset name stands for if none is known beyond the three. A name beyond
ASCII is as good as none. -/
def encodingOf (name : List Char) : Except ContentTypeFault Encoding :=
  if !isAscii name then .ok .utf8
  else if '\x00' ∈ name then .error .nulInCharset
  else .ok ((named? name).getD .utf8)

/-- A character that has no octet of its own, written by its code point. -/
def spellWide (c : Char) : List Char :=
  if c.toNat < 0x100 then [c]
  else if c.toNat < 0x10000 then '\\' :: 'u' :: Text.Hex.digits 4 c.toNat
  else '\\' :: 'U' :: Text.Hex.digits 8 c.toNat

/-- The charset name that a parameter's value gives. A value in a charset of its own, which is ASCII
unless it is named, is made of octets if that charset is known. -/
def nameOf : ContentType.Value → Except ContentTypeFault (List Char)
  | .plain name => .ok name
  | .extended charset name =>
    if '\x00' ∈ charset then .error .nulInCharset
    else if charset = [] ∨ (named? charset).isSome then .ok (name.flatMap spellWide)
    else .ok name

/-- Whether it hangs on the runtime what the charset of a content type is: the charset may be one
beyond the three, or its name may be written in one. -/
def isForeign (contentType : String) : Bool :=
  match ContentType.parameters contentType with
  | .error _ => false
  | .ok parameters => (ContentType.find? "charset".toList parameters).any fun value =>
      isForeignName value.charset || (nameOf value).toOption.any isForeignName

/-- The encoding that a content type gives its body if no charset is known beyond the three. -/
def ofContentType (contentType : String) : Except ContentTypeFault Encoding := do
  match ContentType.find? "charset".toList (← ContentType.parameters contentType) with
  | none => pure .utf8
  | some value => encodingOf (← nameOf value)

/-- The text of some octets, with U+FFFD for what the encoding cannot read. -/
def decodeLossy : Encoding → Bytes → String
  | .ascii, b => String.ofList (b.map fun o => if o < 0x80 then Char.ofNat o.toNat else '\uFFFD')
  | .utf8, b => Text.Utf8.decodeLossy b
  | .latin1, b => Encoding.widen b

end AuthRelay.Charset
