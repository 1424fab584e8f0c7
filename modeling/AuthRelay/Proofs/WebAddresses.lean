import AuthRelay.Proofs.Encodings
import AuthRelay.Text.Integer.Lemmas
import AuthRelay.Url.Parser
import Mathlib.Data.List.Basic
import Mathlib.Data.List.TakeWhile
import Mathlib.Data.Option.Basic
/-!
# The site of a web address

What the normal form of a URL keeps of a web address: its site, that is the host name in small
letters and the port, if that is not the one that the scheme stands for. `WebAddress` has the parts
of a URL as its author writes them, and every part may hold the delimiters of the parts around it as
far as the grammar lets them in: an `@` or a `:` in the user information, whole URLs in the path.
None of them reaches the site, and the site tells hosts and ports apart. The default port is left
out only behind a scheme in small letters, though; behind another spelling it is kept like any other
port, and `WebAddress.shownSite` is what is shown then.
-/
namespace AuthRelay

open Text Url

/-- The schemes of the web. -/
inductive WebScheme
  | http
  | https
  deriving Repr, DecidableEq

/-- The name of a scheme in small letters. -/
def WebScheme.name : WebScheme → List Char
  | .http => ['h', 't', 't', 'p']
  | .https => ['h', 't', 't', 'p', 's']

/-- The port that a scheme stands for. -/
def WebScheme.port : WebScheme → Nat
  | .http => 80
  | .https => 443

/-- A character of host names: a letter or digit of ASCII, a dot or a hyphen. -/
def isHostChar (c : Char) : Bool :=
  c.isAlphanum || c == '.' || c == '-'

/-- A host name, which must not be written like a version 4 address. -/
structure IsHostName (s : List Char) : Prop where
  ne_nil : s ≠ []
  chars : ∀ c ∈ s, isHostChar c = true
  not_numeric : ∀ groups : List (List Char), groups.length = 4 →
    (∀ group ∈ groups, group ≠ [] ∧ ∀ c ∈ group, c.isDigit = true) → s ≠ glue '.' groups

/-- The parts of the URL of a web address. The scheme may be spelled with capital letters. -/
structure WebAddress where
  scheme : WebScheme
  spelling : List Char
  userinfo : Option (List Char)
  host : List Char
  port : Option (List Char)
  path : List Char
  query : Option (List Char)
  fragment : Option (List Char)
  spelling_scheme : spelling.map Char.toLower = scheme.name
  userinfo_inside : ∀ part ∈ userinfo, ∀ c ∈ part, c ≠ '/' ∧ c ≠ '?' ∧ c ≠ '#'
  isHostName : IsHostName host
  port_digits : ∀ part ∈ port, ∀ c ∈ part, c.isDigit = true
  path_rooted : ∀ c ∈ path.head?, c = '/'
  path_inside : ∀ c ∈ path, c ≠ '?' ∧ c ≠ '#'
  query_inside : ∀ part ∈ query, ∀ c ∈ part, c ≠ '#'

/-- An optional part behind the mark that announces it. -/
def marked (mark : Char) : Option (List Char) → List Char
  | some part => mark :: part
  | none => []

@[simp] theorem marked_some (mark : Char) (part : List Char) :
    marked mark (some part) = mark :: part := rfl

namespace WebAddress

/-- The part of an authority in front of the host. -/
def userPrefix (w : WebAddress) : List Char :=
  match w.userinfo with
  | some part => part ++ ['@']
  | none => []

/-- User information, host and port as they are written. -/
def authority (w : WebAddress) : List Char :=
  w.userPrefix ++ (w.host ++ marked ':' w.port)

/-- What follows the authority. -/
def tail (w : WebAddress) : List Char :=
  w.path ++ (marked '?' w.query ++ marked '#' w.fragment)

/-- The text of the URL. -/
def text (w : WebAddress) : String :=
  String.ofList (w.spelling ++ ':' :: '/' :: '/' :: (w.authority ++ w.tail))

/-- The host name in small letters. -/
def hostName (w : WebAddress) : List Char :=
  w.host.map Char.toLower

/-- The number of the port, if one is given. -/
def portNumber? (w : WebAddress) : Option Nat :=
  match w.port with
  | none | some [] => none
  | some digits => some (Nat.ofDigitChars 10 digits 0)

/-- The port that has to be named: one that is given and is not the default. -/
def namedPort? (w : WebAddress) : Option Nat :=
  w.portNumber?.filter (· ≠ w.scheme.port)

/-- The port that is shown: the default one too if there is a capital letter in the scheme. -/
def shownPort? (w : WebAddress) : Option Nat :=
  if w.spelling = w.scheme.name then w.namedPort? else w.portNumber?

/-- The host with a port, or without one. -/
def siteWith (w : WebAddress) (port : Option Nat) : String :=
  String.ofList w.hostName ++
    match port with
    | some port => ":" ++ toString port
    | none => ""

/-- Whom the address is addressed to. -/
def site (w : WebAddress) : String :=
  w.siteWith w.namedPort?

/-- Whom the address shows itself as addressed to. -/
def shownSite (w : WebAddress) : String :=
  w.siteWith w.shownPort?

end WebAddress

/-! ## Splitting the text -/

theorem head?_marked {mark c : Char} {part : Option (List Char)}
    (h : c ∈ (marked mark part).head?) : c = mark := by
  cases part with
  | none => cases h
  | some part => exact (Option.some.inj h).symm

theorem marked_injective (mark : Char) : Function.Injective (marked mark) := by
  intro part other h
  cases part <;> cases other <;> simp_all [marked]

theorem isAlpha_of_toLower {c : Char} (h : c.toLower.isAlpha = true) : c.isAlpha = true := by
  by_cases hupper : c.isUpper = true
  · exact Bool.or_eq_true_iff.mpr (.inl hupper)
  · have hsame : c.toLower = c := dif_neg fun hrange => hupper (decide_eq_true hrange)
    rwa [hsame] at h

/-- A scheme of letters ends at the colon. -/
theorem cutScheme_of_isAlpha {scheme : List Char} (hne : scheme ≠ [])
    (halpha : ∀ c ∈ scheme, c.isAlpha = true) (rest : List Char) :
    cutScheme (scheme ++ ':' :: rest) = (scheme, rest) := by
  have hstretch : (scheme ++ ':' :: rest).takeWhile isSchemeChar = scheme := by
    refine takeWhile_stretch (fun c hc => ?_) fun c hc => ?_
    · simp [isSchemeChar, Char.isAlphanum, halpha c hc]
    · cases hc
      rfl
  cases scheme with
  | nil => exact absurd rfl hne
  | cons c s =>
    rw [List.cons_append] at hstretch ⊢
    simp only [cutScheme, if_pos (halpha c List.mem_cons_self), hstretch]
    rw [← List.cons_append, List.drop_left]
    rfl

namespace WebAddress

variable (w : WebAddress)

theorem cutScheme_spelling (rest : List Char) :
    cutScheme (w.spelling ++ ':' :: rest) = (w.spelling, rest) := by
  have hletters : ∀ c ∈ w.scheme.name, c.isAlpha = true := by
    cases w.scheme <;> exact List.all_eq_true.mp rfl
  have hname : w.scheme.name ≠ [] := by
    cases w.scheme <;> exact List.cons_ne_nil _ _
  refine cutScheme_of_isAlpha (fun hnil => hname ?_) (fun c hc => ?_) rest
  · rw [← w.spelling_scheme, hnil, List.map_nil]
  · exact isAlpha_of_toLower (hletters _ (w.spelling_scheme ▸ List.mem_map_of_mem hc))

theorem host_not_mem {c : Char} (h : isHostChar c = false) : c ∉ w.host := by
  intro hmem
  rw [w.isHostName.chars c hmem] at h
  cases h

theorem port_not_mem {mark c : Char} (hmark : c ≠ mark) (h : c.isDigit = false) :
    c ∉ marked mark w.port := by
  intro hmem
  cases hport : w.port with
  | none =>
    rw [hport] at hmem
    cases hmem
  | some part =>
    rw [hport] at hmem
    rcases List.mem_cons.mp hmem with rfl | hmem
    · exact hmark rfl
    · rw [w.port_digits part hport c hmem] at h
      cases h

/-- Neither host nor port can be mistaken for anything else. -/
theorem hostPort_not_mem {c : Char} (hhost : isHostChar c = false) (hcolon : c ≠ ':') :
    c ∉ w.host ++ marked ':' w.port := by
  have hdigit : c.isDigit = false := by
    cases hd : c.isDigit with
    | false => rfl
    | true => simp [isHostChar, Char.isAlphanum, hd] at hhost
  rw [List.mem_append, not_or]
  exact ⟨w.host_not_mem hhost, w.port_not_mem hcolon hdigit⟩

theorem authority_not_mem {c : Char} (hmark : c = '/' ∨ c = '?' ∨ c = '#') :
    c ∉ w.authority := by
  have hhostPort : c ∉ w.host ++ marked ':' w.port := by
    refine w.hostPort_not_mem ?_ ?_ <;> rcases hmark with rfl | rfl | rfl <;> decide
  have huser : c ∉ w.userPrefix := by
    intro hmem
    unfold userPrefix at hmem
    cases hu : w.userinfo with
    | none =>
      rw [hu] at hmem
      cases hmem
    | some part =>
      simp only [hu, List.mem_append, List.mem_singleton] at hmem
      rcases hmem with hmem | rfl
      · have hinside := w.userinfo_inside part hu c hmem
        grind
      · revert hmark
        decide
  rw [authority, List.mem_append, not_or]
  exact ⟨huser, hhostPort⟩

/-- What follows the authority is announced by one of three marks. -/
theorem head?_tail {c : Char} (h : c ∈ w.tail.head?) : c = '/' ∨ c = '?' ∨ c = '#' := by
  cases hpath : w.path with
  | cons first rest =>
    rw [tail, hpath] at h
    refine .inl (w.path_rooted c ?_)
    rw [hpath]
    exact h
  | nil =>
    rw [tail, hpath, List.nil_append] at h
    cases hquery : w.query with
    | some query =>
      rw [hquery] at h
      exact .inr (.inl (Option.some.inj h).symm)
    | none =>
      rw [hquery] at h
      exact .inr (.inr (head?_marked h))

theorem cutAuthority_text :
    cutAuthority ('/' :: '/' :: (w.authority ++ w.tail)) = (w.authority, w.tail) := by
  have hinside : ∀ c ∈ w.authority, (c != '/' && c != '?' && c != '#') = true := by
    intro c hc
    have hmark := mt w.authority_not_mem (not_not_intro hc)
    simp only [not_or] at hmark
    simp [hmark]
  have hstop : ∀ c ∈ w.tail.head?, (c != '/' && c != '?' && c != '#') = false := by
    intro c hc
    rcases w.head?_tail hc with rfl | rfl | rfl <;> rfl
  simp only [cutAuthority, takeWhile_stretch hinside hstop, dropWhile_stretch hinside hstop]

theorem takeWhile_path : (w.tail.takeWhile fun c => c != '?' && c != '#') = w.path := by
  refine takeWhile_stretch (fun c hc => by simp [w.path_inside c hc]) fun c hc => ?_
  cases hquery : w.query with
  | some query =>
    rw [hquery] at hc
    cases hc
    rfl
  | none =>
    rw [hquery] at hc
    cases head?_marked hc
    rfl

/-- The text splits into the parts that it was put together from. -/
theorem reference_ofText : Reference.ofText w.text.toList =
    ⟨w.spelling, w.authority, w.path, w.query, w.fragment⟩ := by
  have hfragment : ∀ fragment, Url.fragment? (marked '#' fragment) = fragment := by
    intro fragment
    cases fragment <;> rfl
  have hdrop : w.tail.drop w.path.length = marked '?' w.query ++ marked '#' w.fragment :=
    List.drop_left
  simp only [Reference.ofText, text, String.toList_ofList, w.cutScheme_spelling,
    w.cutAuthority_text, w.takeWhile_path, hdrop]
  cases hquery : w.query with
  | some query =>
    have hstretch : (query ++ marked '#' w.fragment).takeWhile (· != '#') = query := by
      refine takeWhile_stretch (fun c hc => by simp [w.query_inside query hquery c hc]) ?_
      intro c hc
      cases head?_marked hc
      rfl
    simp only [marked_some, List.cons_append, hstretch, List.drop_left, hfragment]
  | none =>
    cases hfrag : w.fragment <;> rfl

/-- Behind the host there is the port with its colon, or nothing. -/
theorem port_of_cut {userinfo host : List Char} {port : Option (List Char)}
    {cut : List Char × List Char} (h : cut = (host, marked ':' port)) :
    (match cut.2 with
      | ':' :: digits => Authority.mk userinfo cut.1 digits
      | digits => ⟨userinfo, cut.1, digits⟩) = ⟨userinfo, host, port.getD []⟩ := by
  subst h
  cases port <;> rfl

/-- The host is what stands between the last `@`, or the beginning, and the colon behind it. -/
theorem authority_ofText : Authority.ofText w.authority =
    ⟨w.userinfo.getD [], w.host, w.port.getD []⟩ := by
  have hat : '@' ∉ w.host ++ marked ':' w.port := w.hostPort_not_mem rfl (by decide)
  have hcut : (cutLast? '@' w.authority).getD ([], w.authority) =
      (w.userinfo.getD [], w.host ++ marked ':' w.port) := by
    unfold authority userPrefix
    cases w.userinfo with
    | none => simp [cutLast?_of_not_mem hat]
    | some part => simp [cutLast?_append hat]
  have hcolon : ∀ c ∈ w.host, (c != ':') = true := by
    intro c hc
    refine bne_iff_ne.mpr ?_
    rintro rfl
    exact w.host_not_mem rfl hc
  have hstop : ∀ c ∈ (marked ':' w.port).head?, (c != ':') = false := by
    intro c hc
    cases head?_marked hc
    rfl
  have hbracket : ∀ rest, w.host ++ marked ':' w.port ≠ '[' :: rest := by
    intro rest h
    exact w.hostPort_not_mem (c := '[') rfl (by decide) (by simp [h])
  simp only [Authority.ofText, hcut]
  refine port_of_cut ?_
  -- a bracket cannot open the host
  split
  · exact absurd ‹_› (hbracket _)
  · rw [takeWhile_stretch hcolon hstop, dropWhile_stretch hcolon hstop]

end WebAddress

/-! ## Host and port in normal form -/

theorem toNat_lt_of_isHostChar {c : Char} (h : isHostChar c = true) : c.toNat < 0x80 := by
  have hlast : ∀ last : Char, last.toNat < 0x80 → c.val ≤ last.val → c.toNat < 0x80 :=
    fun last hlt hle => Nat.lt_of_le_of_lt (UInt32.le_iff_toNat_le.mp hle) hlt
  simp only [isHostChar, Char.isAlphanum, Bool.or_eq_true, beq_iff_eq] at h
  rcases h with ((hletter | hdigit) | rfl) | rfl
  · obtain hupper | hlower := Bool.or_eq_true_iff.mp hletter
    · exact hlast 'Z' (by decide) (of_decide_eq_true hupper).2
    · exact hlast 'z' (by decide) (of_decide_eq_true (Bool.and_eq_true_iff.mp hlower).2)
  · exact Nat.lt_of_le_of_lt (Text.Integer.toNat_of_isDigit hdigit).2 (by decide)
  · decide
  · decide

/-- Host names are made of ASCII, so a property of their characters can be checked one by one. -/
theorem forall_isHostChar {q : Char → Prop}
    (hall : ∀ n < 0x80, isHostChar (Char.ofNat n) = true → q (Char.ofNat n)) {c : Char}
    (h : isHostChar c = true) : q c := by
  have hc := hall c.toNat (toNat_lt_of_isHostChar h)
  rw [Char.ofNat_toNat] at hc
  exact hc h

theorem isHostChar_toLower {c : Char} (h : isHostChar c = true) : isHostChar c.toLower = true :=
  forall_isHostChar (q := fun c => isHostChar c.toLower = true) (by decide) h

theorem keeps_of_isHostChar {c : Char} (h : isHostChar c = true) : Part.host.keeps c = true :=
  forall_isHostChar (q := fun c => Part.host.keeps c = true) (by decide) h

theorem IsHostName.looksNumeric_eq_false {s : List Char} (h : IsHostName s) :
    looksNumeric s = false := by
  rw [Bool.eq_false_iff]
  intro hnumeric
  simp only [looksNumeric, Bool.and_eq_true, decide_eq_true_eq, List.all_eq_true,
    Bool.not_eq_true', List.isEmpty_eq_false_iff] at hnumeric
  exact h.not_numeric _ hnumeric.1 hnumeric.2 (glue_pieces '.' s).symm

/-- A host name is put in small letters, and nothing else happens to it. -/
theorem IsHostName.normalHost_eq {s : List Char} (h : IsHostName s) :
    normalHost s = .ok (s.map Char.toLower) := by
  have hbracket : s.head? ≠ some '[' := by
    intro hhead
    have hchar := h.chars '[' (List.mem_of_head? hhead)
    exact absurd hchar (by decide)
  have hascii : s.all (·.toNat < 0x80) = true := by
    simp only [List.all_eq_true, decide_eq_true_eq]
    exact fun c hc => toNat_lt_of_isHostChar (h.chars c hc)
  have hkeeps : ∀ c ∈ s.map Char.toLower, Part.host.keeps c = true := by
    simp only [List.forall_mem_map]
    exact fun c hc => keeps_of_isHostChar (isHostChar_toLower (h.chars c hc))
  unfold normalHost
  rw [if_neg h.ne_nil, h.looksNumeric_eq_false, if_neg Bool.false_ne_true,
    if_neg fun hhead => hbracket hhead.1, if_pos hascii, Part.encode_of_all_keeps hkeeps]

/-- A spelling has a default port only if it is in small letters. -/
theorem WebAddress.defaultPort?_spelling (w : WebAddress) : defaultPort? w.spelling =
    if w.spelling = w.scheme.name then some (w.scheme.port : Int) else none := by
  by_cases hsmall : w.spelling = w.scheme.name
  · rw [if_pos hsmall, hsmall]
    cases w.scheme <;> rfl
  · have hother : ∀ name : List Char, name.map Char.toLower = name → w.spelling ≠ name := by
      rintro name hname rfl
      exact hsmall (hname.symm.trans w.spelling_scheme)
    rw [if_neg hsmall, defaultPort?, if_neg (hother _ rfl),
      if_neg (not_or.mpr ⟨hother _ rfl, hother _ rfl⟩),
      if_neg (not_or.mpr ⟨hother _ rfl, hother _ rfl⟩)]

/-! ## Which texts are URLs -/

/-- No control character is found if and only if there is none. -/
theorem unprintable?_eq_none_iff {s : List Char} :
    unprintable? s = none ↔ ∀ c ∈ s, 0x20 ≤ c.toNat ∧ c.toNat ≠ 0x7F := by
  have hstop : s.dropWhile (fun c => !(c.toNat < 0x20 || c.toNat == 0x7F)) = [] ↔
      ∀ c ∈ s, 0x20 ≤ c.toNat ∧ c.toNat ≠ 0x7F := by
    simp [List.dropWhile_eq_nil_iff]
  rw [← hstop]
  unfold unprintable?
  dsimp only
  split
  · simp_all
  · simp_all

/-- The checks that a text passes if it is a URL with the given host and port. -/
structure Passes (text : String) (host : List Char) (port : Option Int) : Prop where
  short : text.toList.length ≤ maxLength
  printable : unprintable? text.toList = none
  host_ok : normalHost (Authority.ofText (Reference.ofText text.toList).authority).host = .ok host
  port_ok : normalPort (Reference.ofText text.toList).scheme
    (Authority.ofText (Reference.ofText text.toList).authority).port = .ok port
  path_ok : checkPath (!(Reference.ofText text.toList).scheme.isEmpty)
    (!(Part.userinfo.encode
      (Authority.ofText (Reference.ofText text.toList).authority).userinfo).isEmpty ||
      !host.isEmpty || port.isSome)
    (Reference.ofText text.toList).path = .ok ()

/-- A text is a URL if and only if it passes the checks. -/
theorem parse_iff_passes {text : String} {host : List Char} {port : Option Int} :
    (∃ url, Url.parse text = .ok url ∧ url.host.toList = host ∧ url.port = port) ↔
      Passes text host port := by
  unfold Url.parse
  simp only [bind, Except.bind]
  constructor
  · rintro ⟨url, h, rfl, rfl⟩
    split at h
    · cases h
    · rename_i hshort
      split at h
      · cases h
      · rename_i hprintable
        split at h
        · cases h
        · rename_i host hhost
          split at h
          · cases h
          · rename_i port hport
            split at h
            · cases h
            · rename_i hpath
              cases h
              rw [String.toList_ofList]
              refine ⟨Nat.le_of_not_lt hshort, ?_, hhost, hport, hpath⟩
              exact Option.eq_none_iff_forall_ne_some.mpr fun found => hprintable found.1 found.2
  · intro h
    simp only [if_neg (Nat.not_lt.mpr h.short), h.printable, h.host_ok, h.port_ok, h.path_ok]
    exact ⟨_, rfl, String.toList_ofList, rfl⟩

/-! ## Which web addresses are URLs, and what is kept of them -/

namespace WebAddress

variable {w : WebAddress} {url : Url}

/-- Of the number of a port only that of the default one is left out. -/
theorem shown_portNumber (n : Nat) :
    (if defaultPort? w.spelling = some (n : Int) then none else some (n : Int)) =
      (if w.spelling = w.scheme.name then (some n).filter (· ≠ w.scheme.port)
        else some n).map Int.ofNat := by
  rw [w.defaultPort?_spelling]
  by_cases hsmall : w.spelling = w.scheme.name
  · rw [if_pos hsmall, if_pos hsmall]
    by_cases hdefault : w.scheme.port = n
    · simp [Option.filter, hdefault]
    · have hother : (w.scheme.port : Int) ≠ n := fun h => hdefault (Int.ofNat_inj.mp h)
      simp [Option.filter, hother, Ne.symm hdefault]
  · rw [if_neg hsmall, if_neg hsmall, if_neg (by simp)]
    rfl

/-- A port of digits is a number, unless there are too many. -/
theorem normalPort_ok_iff {port : Option Int} :
    normalPort w.spelling (w.port.getD []) = .ok port ↔
      (∀ part ∈ w.port, part.length ≤ Text.Integer.maxDigits) ∧
      port = w.shownPort?.map Int.ofNat := by
  unfold shownPort? namedPort? portNumber?
  cases hport : w.port with
  | none => simp [normalPort, eq_comm]
  | some digits =>
    cases digits with
    | nil => simp [normalPort, eq_comm]
    | cons c rest =>
      have hne : c :: rest ≠ [] := List.cons_ne_nil c rest
      dsimp only
      rw [Option.getD_some, normalPort, if_neg hne,
        Text.Integer.read?_of_isDigit hne (w.port_digits _ hport), ← shown_portNumber]
      simp only [Option.mem_some_iff, forall_eq', List.length_cons]
      by_cases hlength : rest.length + 1 ≤ Text.Integer.maxDigits
      · simp [hlength, eq_comm (b := port)]
      · simp [hlength]

/-- What the checks come down to for a web address, whose host and path are as they should be. -/
theorem passes_iff {host : List Char} {port : Option Int} :
    Passes w.text host port ↔ w.text.toList.length ≤ maxLength ∧
      (∀ c ∈ w.text.toList, 0x20 ≤ c.toNat ∧ c.toNat ≠ 0x7F) ∧
      (∀ part ∈ w.port, part.length ≤ Text.Integer.maxDigits) ∧
      host = w.hostName ∧ port = w.shownPort?.map Int.ofNat := by
  have hpath : ∀ hasScheme, ∀ port : Option Int,
      checkPath hasScheme (!(Part.userinfo.encode (w.userinfo.getD [])).isEmpty ||
        !w.hostName.isEmpty || port.isSome) w.path = .ok () := by
    intro hasScheme port
    have hname : w.hostName.isEmpty = false := by
      simp [hostName, w.isHostName.ne_nil]
    have hrooted : w.path = [] ∨ w.path.head? = some '/' := by
      cases hfirst : w.path.head? with
      | none => exact .inl (List.head?_eq_none_iff.mp hfirst)
      | some c => exact .inr (w.path_rooted c hfirst ▸ rfl)
    simp [checkPath, hname, hrooted]
  constructor
  · intro h
    have hhost := h.host_ok
    have hport := h.port_ok
    simp only [w.reference_ofText, w.authority_ofText] at hhost hport
    rw [w.isHostName.normalHost_eq] at hhost
    obtain ⟨hdigits, hnumber⟩ := normalPort_ok_iff.mp hport
    exact ⟨h.short, unprintable?_eq_none_iff.mp h.printable, hdigits,
      (Except.ok.inj hhost).symm, hnumber⟩
  · rintro ⟨hshort, hprintable, hdigits, rfl, rfl⟩
    refine ⟨hshort, unprintable?_eq_none_iff.mpr hprintable, ?_, ?_, ?_⟩ <;>
      simp only [w.reference_ofText, w.authority_ofText]
    · exact w.isHostName.normalHost_eq
    · exact normalPort_ok_iff.mpr ⟨hdigits, rfl⟩
    · exact hpath _ _

/-- The host of a web address that is a URL, and its port. -/
theorem host_port (h : Url.parse w.text = .ok url) :
    url.host = String.ofList w.hostName ∧ url.port = w.shownPort?.map Int.ofNat := by
  obtain ⟨-, -, -, hhost, hport⟩ := passes_iff.mp (parse_iff_passes.mp ⟨url, h, rfl, rfl⟩)
  exact ⟨by rw [← hhost, String.ofList_toList], hport⟩

/-- Which web addresses are URLs: those that are not too long, have no control characters, and do
not name a port of too many digits. -/
theorem exists_parse_iff : (∃ url, Url.parse w.text = .ok url) ↔
    w.text.toList.length ≤ maxLength ∧
    (∀ c ∈ w.text.toList, 0x20 ≤ c.toNat ∧ c.toNat ≠ 0x7F) ∧
    ∀ part ∈ w.port, part.length ≤ Text.Integer.maxDigits := by
  constructor
  · rintro ⟨url, h⟩
    obtain ⟨hshort, hprintable, hdigits, -, -⟩ :=
      passes_iff.mp (parse_iff_passes.mp ⟨url, h, rfl, rfl⟩)
    exact ⟨hshort, hprintable, hdigits⟩
  · rintro ⟨hshort, hprintable, hdigits⟩
    obtain ⟨url, h, -, -⟩ := parse_iff_passes.mpr
      (passes_iff.mpr ⟨hshort, hprintable, hdigits, rfl, rfl⟩)
    exact ⟨url, h⟩

/-! ## The site -/

theorem isHostChar_of_mem_hostName {c : Char} (h : c ∈ w.hostName) : isHostChar c = true := by
  obtain ⟨d, hd, rfl⟩ := List.mem_map.mp h
  exact isHostChar_toLower (w.isHostName.chars d hd)

theorem colon_not_mem_hostName : ':' ∉ w.hostName := by
  intro hmem
  exact absurd (isHostChar_of_mem_hostName hmem) (by decide)

theorem toDigits_injective : Function.Injective (Nat.toDigits 10) := by
  intro m n h
  have hread := congrArg (Nat.ofDigitChars 10 · 0) h
  simpa only [Nat.ofDigitChars_toDigits (b := 10) (by decide) (by decide)] using hread

theorem toList_siteWith (w : WebAddress) (port : Option Nat) :
    (w.siteWith port).toList = w.hostName ++ marked ':' (port.map (Nat.toDigits 10)) := by
  unfold siteWith
  cases port with
  | none => simp [marked]
  | some port => simp [Nat.toString_eq_repr, Nat.toList_repr]

/-- A site tells host and port: the host ends before the colon, and digits are read one way. -/
theorem siteWith_eq_iff {v : WebAddress} {p q : Option Nat} :
    v.siteWith p = w.siteWith q ↔ v.hostName = w.hostName ∧ p = q := by
  constructor
  · intro h
    have hlist := congrArg String.toList h
    rw [toList_siteWith, toList_siteWith] at hlist
    have hstretch : ∀ (u : WebAddress) (port : Option Nat),
        (u.hostName ++ marked ':' (port.map (Nat.toDigits 10))).takeWhile (· != ':') =
          u.hostName := by
      refine fun u port => takeWhile_stretch (fun c hc => ?_) fun c hc => ?_
      · exact bne_iff_ne.mpr (ne_of_mem_of_not_mem hc u.colon_not_mem_hostName)
      · cases head?_marked hc
        rfl
    have hhost : v.hostName = w.hostName := by
      rw [← hstretch v p, hlist, hstretch w q]
    rw [hhost] at hlist
    have hport := marked_injective ':' (List.append_cancel_left hlist)
    exact ⟨hhost, Option.map_injective toDigits_injective hport⟩
  · rintro ⟨hhost, rfl⟩
    unfold siteWith
    rw [hhost]

/-- A site is shown as it is, unless the default port is given behind a capital letter. -/
theorem shownSite_eq_site_iff (w : WebAddress) : w.shownSite = w.site ↔
    (w.spelling = w.scheme.name ∨ w.portNumber? ≠ some w.scheme.port) := by
  rw [shownSite, site, siteWith_eq_iff, shownPort?, namedPort?]
  by_cases hsmall : w.spelling = w.scheme.name
  · simp [hsmall]
  · cases hnumber : w.portNumber? with
    | none => simp [hsmall]
    | some n => by_cases hdefault : n = w.scheme.port <;> simp [hsmall, hdefault, Option.filter]

/-- A site can stand in a header. -/
theorem isAscii_siteWith (w : WebAddress) (port : Option Nat) :
    Charset.isAscii (w.siteWith port).toList = true := by
  have hhost : Charset.isAscii w.hostName = true := by
    simp only [Charset.isAscii, List.all_eq_true, decide_eq_true_eq]
    exact fun c hc => toNat_lt_of_isHostChar (isHostChar_of_mem_hostName hc)
  unfold siteWith
  rw [String.toList_append, Encoding.isAscii_append, String.toList_ofList, hhost]
  cases port with
  | none => rfl
  | some port =>
    simp only [String.toList_append, Encoding.isAscii_append, Encoding.isAscii_toString]
    rfl

/-- Of the URL of a web address, only its site is named as the authority. -/
theorem netloc_eq (h : Url.parse w.text = .ok url) : url.netloc = w.shownSite := by
  obtain ⟨hhost, hport⟩ := host_port h
  have hcolon : ':' ∉ url.host.toList := by
    rw [hhost, String.toList_ofList]
    exact colon_not_mem_hostName
  rw [Url.netloc, Url.bracketedHost, if_neg hcolon, Url.portSuffix, shownSite, siteWith.eq_def,
    hhost, hport]
  cases w.shownPort? <;> rfl

theorem asciiNetloc?_eq (h : Url.parse w.text = .ok url) :
    url.asciiNetloc? = some w.shownSite := by
  rw [Url.asciiNetloc?, netloc_eq h]
  exact if_pos (w.isAscii_siteWith _)

theorem host_ne_empty (h : Url.parse w.text = .ok url) : url.host ≠ "" := by
  rw [(host_port h).1]
  intro hempty
  have hlist := congrArg String.toList hempty
  rw [String.toList_ofList] at hlist
  exact w.isHostName.ne_nil (List.map_eq_nil_iff.mp hlist)

end WebAddress
end AuthRelay
