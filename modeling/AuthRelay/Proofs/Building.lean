import AuthRelay.Proofs.Relay.Stamp
import AuthRelay.Proofs.WebAddresses
/-!
# Whom a built request is addressed to

A request that is built without a `Host` header gets one: the authority of its URL. So its two
addresses, the header and the URL, agree, and it is addressed to one target and to no other. For the
URL of a web address this is the site of the address as it is shown, whatever its other parts say.
-/
namespace AuthRelay

namespace Headers

variable {h : Headers} {name value : String} {key : Bytes}

theorem key_contentLength (h : Headers) :
    h.key "Content-Length" = .ok (Text.Utf8.encode "content-length") := by
  unfold key
  cases h.chosen <;> rfl

theorem key_transferEncoding (h : Headers) :
    h.key "Transfer-Encoding" = .ok (Text.Utf8.encode "transfer-encoding") := by
  unfold key
  cases h.chosen <;> rfl

theorem contains_of_key (hk : h.key name = .ok key) :
    h.contains name = .ok (!(h.rawValues key).isEmpty) := by
  simp only [contains, hk]
  rfl

/-- Setting a header that is none for the host leaves the host alone. -/
theorem rawValues_host_setIfAbsent (hread : h.Readable) (hk : h.key name = .ok key)
    (hname : Charset.isAscii name.toList = true) (hvalue : Charset.isAscii value.toList = true)
    (hother : hostKey ≠ foldName (Encoding.asciiOctets name)) :
    ∃ h', h.setIfAbsent name value = .ok h' ∧ h'.rawValues hostKey = h.rawValues hostKey := by
  obtain ⟨found, hfound⟩ := hread.get? hk
  unfold setIfAbsent
  rw [hfound]
  cases found with
  | some present => exact ⟨h, rfl, rfl⟩
  | none =>
    let entry := (Encoding.asciiOctets name, Encoding.asciiOctets value)
    refine ⟨{ h with entries := putEntry (foldName entry.1) entry h.entries }, ?_, ?_⟩
    · simp only [bind, Except.bind, set, Encoding.encode?_of_isAscii hname,
        Encoding.encode?_of_isAscii hvalue, entry]
    · have hnamed : named (foldName entry.1) entry = true := by simp [named]
      simp only [rawValues, filter_named_putEntry_of_ne hnamed hother]

end Headers

namespace Request

variable {h : Headers} {url : Url} {draft : Draft} {netloc : String}

/-- Every body can be announced, and the announcement leaves the host alone. -/
theorem rawValues_host_announceBody (hread : h.Readable) (body : Option Body) :
    ∃ h', announceBody body h = .ok h' ∧
      h'.rawValues Headers.hostKey = h.rawValues Headers.hostKey := by
  unfold announceBody
  split
  · exact Headers.rawValues_host_setIfAbsent hread (Headers.key_contentLength h) (by decide)
      (Encoding.isAscii_toString _) (by decide)
  · rw [Headers.contains_of_key (Headers.key_contentLength h)]
    cases !(h.rawValues (Text.Utf8.encode "content-length")).isEmpty with
    | true => exact ⟨h, rfl, rfl⟩
    | false =>
      exact Headers.rawValues_host_setIfAbsent hread (Headers.key_transferEncoding h) (by decide)
        (by decide) (by decide)
  · exact ⟨h, rfl, rfl⟩

/-- Where no header names a host, the authority of the URL goes in front of all others. -/
theorem filter_host_leadingEntries (method : String) (hurl : url.asciiNetloc? = some netloc)
    (hne : url.host ≠ "") (hnone : h.rawValues Headers.hostKey = []) :
    ∃ leading, leadingEntries method url h = .ok leading ∧
      leading.filter (Headers.named Headers.hostKey) =
        [(Text.Utf8.encode "Host", Text.Utf8.encode netloc)] := by
  have hhost : h.contains "Host" = .ok false := by
    rw [Headers.contains_of_key (Headers.key_host h), hnone]
    rfl
  unfold leadingEntries namedAuthority
  rw [hhost, Headers.contains_of_key (Headers.key_contentLength h),
    Headers.contains_of_key (Headers.key_transferEncoding h), hurl]
  simp only [bind, Except.bind, pure, Except.pure, Bool.false_or, decide_eq_true_eq, if_neg hne]
  refine ⟨_, rfl, ?_⟩
  split <;> rfl

/-- An authority in ASCII is read in every encoding. -/
theorem decode?_netloc (hurl : url.asciiNetloc? = some netloc) (e : Encoding) :
    e.decode? (Text.Utf8.encode netloc) = some netloc := by
  unfold Url.asciiNetloc? at hurl
  split at hurl
  · rename_i hascii
    cases hurl
    rw [Option.some.inj (Encoding.encode?_of_isAscii hascii .utf8)]
    exact Encoding.decode?_asciiOctets hascii e
  · cases hurl

/-- A request that is built without a host names the authority of its URL in both places. -/
theorem build_of_no_host (hparse : Url.parse draft.url = .ok url)
    (hurl : url.asciiNetloc? = some netloc) (hne : url.host ≠ "") {entries : List (Bytes × Bytes)}
    (hentries : entriesOf draft.headers = .ok entries)
    (hnone : ∀ entry ∈ entries, Headers.named Headers.hostKey entry = false) :
    ∃ request, build draft = .ok request ∧ request.header "Host" = .ok (some netloc) ∧
      request.authority = .ok netloc := by
  let listed : Headers := { entries }
  have hread : listed.settle.Readable := Headers.readable_of_unsettled (h := listed) rfl
  have hempty : listed.settle.rawValues Headers.hostKey = [] := by
    simpa [listed, Headers.rawValues, List.filter_eq_nil_iff] using hnone
  obtain ⟨announced, hannounce, hkept⟩ := rawValues_host_announceBody hread draft.body
  rw [hempty] at hkept
  obtain ⟨leading, hleading, hhost⟩ :=
    filter_host_leadingEntries (Text.upper draft.method) hurl hne hkept
  refine ⟨⟨Text.upper draft.method, url, { entries := leading ++ announced.entries },
    draft.body.getD (.bytes [])⟩, ?_, ?_, ?_⟩
  · unfold build
    simp only [hparse, hentries, hannounce, hleading, bind, Except.bind, pure, Except.pure,
      Except.mapError, listed]
  · have hvalues : Headers.rawValues { entries := leading ++ announced.entries }
        Headers.hostKey = [Text.Utf8.encode netloc] := by
      have hrest : announced.entries.filter (Headers.named Headers.hostKey) = [] :=
        List.map_eq_nil_iff.mp hkept
      simp [Headers.rawValues, hhost, hrest]
    rw [header, Headers.get?_of_rawValues_singleton (Headers.key_host _) hvalues
      (decode?_netloc hurl _)]
    rfl
  · rw [authority, namedAuthority, hurl]
    rfl

/-- Where both places name one authority, the request is addressed to it and to nothing else. -/
theorem isAddressedTo_of_agree {request : Request}
    (hheader : request.header "Host" = .ok (some netloc))
    (hauthority : request.authority = .ok netloc) (target : String) :
    request.isAddressedTo target = .ok (decide (target = netloc)) := by
  rw [isAddressedTo_eq, hheader, hauthority]
  by_cases ht : target = netloc
  · simp [ht]
  · simp [ht, Ne.symm ht, Except.map]

/-- A request built from the URL of a web address, with whatever method, body and headers, but none
for the host, is addressed to one target and to no other, whatever user information, path, query and
fragment hold: to the host name in small letters, and behind it the port that is shown. So it is
addressed to the site that another address shows if and only if the host names agree up to case and
the ports that are shown are the same. It is addressed to the site of its own address if and only if
the scheme is in small letters or the port that is given, if one is, is not the default. -/
theorem addressed_to_site_only (w : WebAddress) (draft : Draft) (hdraft : draft.url = w.text)
    (hparse : Url.parse w.text = .ok url) {entries : List (Bytes × Bytes)}
    (hentries : entriesOf draft.headers = .ok entries)
    (hnone : ∀ entry ∈ entries, Headers.named Headers.hostKey entry = false) :
    ∃ request, build draft = .ok request ∧
      (∀ target, request.isAddressedTo target = .ok (decide (target = w.shownSite))) ∧
      (∀ (σ : Type) (peer : σ) level target,
        (Line.isAddressedTo target level ⟨request, peer⟩).result =
          .ok (decide (target = w.shownSite))) ∧
      (∀ other : WebAddress, request.isAddressedTo other.shownSite = .ok true ↔
        other.hostName = w.hostName ∧ other.shownPort? = w.shownPort?) ∧
      ((∀ target, request.isAddressedTo target = .ok (decide (target = w.site))) ↔
        w.spelling = w.scheme.name ∨ w.portNumber? ≠ some w.scheme.port) := by
  rw [← hdraft] at hparse
  have hurl : url.asciiNetloc? = some w.shownSite := WebAddress.asciiNetloc?_eq (hdraft ▸ hparse)
  have hne : url.host ≠ "" := WebAddress.host_ne_empty (hdraft ▸ hparse)
  obtain ⟨request, hbuild, hheader, hauthority⟩ :=
    build_of_no_host hparse hurl hne hentries hnone
  have hasked := isAddressedTo_of_agree hheader hauthority
  refine ⟨request, hbuild, hasked, fun _ peer level target => ?_, fun other => ?_, ?_⟩
  · rw [Line.isAddressedTo_run]
    exact hasked target
  · rw [hasked, Except.ok.injEq, decide_eq_true_eq, WebAddress.shownSite, WebAddress.shownSite,
      WebAddress.siteWith_eq_iff]
  · rw [← w.shownSite_eq_site_iff]
    constructor
    · intro h
      have hown := hasked w.shownSite
      rw [h w.shownSite, Except.ok.injEq, decide_eq_decide] at hown
      exact hown.mpr rfl
    · intro heq
      rw [← heq]
      exact hasked

/-- An address of the host `A.b.c`, which names `b.c` with its port in every part but the host. -/
def decoy : WebAddress where
  scheme := .https
  spelling := ['H', 't', 't', 'p', 's']
  userinfo := some ['u', '@', 'b', '.', 'c', ':', '8', '0']
  host := ['A', '.', 'b', '.', 'c']
  port := some ['0', '8', '4', '4', '3']
  path := ['/', '@', 'b', '.', 'c', ':', '8', '0']
  query := some ['/', '/', 'b', '.', 'c', '?']
  fragment := some ['@', 'b', '.', 'c', '#']
  spelling_scheme := rfl
  userinfo_inside := by simp
  isHostName := by
    refine ⟨by simp, List.all_eq_true.mp rfl, fun groups _ hdigits h => ?_⟩
    have hmem : 'A' ∈ Text.glue '.' groups := h ▸ List.mem_cons_self
    obtain hdot | ⟨group, hgroup, hA⟩ := Text.mem_glue hmem
    · exact absurd hdot (by decide)
    · exact absurd ((hdigits group hgroup).2 'A' hA) (by decide)
  port_digits := by
    rintro part ⟨⟩
    exact List.all_eq_true.mp rfl
  path_rooted := by simp
  path_inside := by simp
  query_inside := by simp

/-- A request for `A.b.c` is for nobody else, with a header of another name and all. -/
theorem addressed_to_site_only_decoy :
    decoy.text = "Https://u@b.c:80@A.b.c:08443/@b.c:80?//b.c?#@b.c#" ∧
    ∃ request,
      build { url := decoy.text, headers := [(.text "X-Host", .text "b.c")] } = .ok request ∧
      request.isAddressedTo "a.b.c:8443" = .ok true ∧
      request.isAddressedTo "a.b.c" = .ok false ∧
      request.isAddressedTo "b.c" = .ok false ∧
      request.isAddressedTo "b.c:80" = .ok false := by
  obtain ⟨url, hparse⟩ : ∃ url, Url.parse decoy.text = .ok url := by
    refine WebAddress.exists_parse_iff.mpr ⟨?_, ?_, ?_⟩
    · rw [WebAddress.text, String.toList_ofList]
      decide
    · rw [WebAddress.text, String.toList_ofList]
      simp [decoy, WebAddress.authority, WebAddress.userPrefix, WebAddress.tail,
        marked]
    · simp [decoy, Text.Integer.maxDigits]
  have hentries : entriesOf [(.text "X-Host", .text "b.c")] =
      .ok [(Text.Utf8.encode "X-Host", Text.Utf8.encode "b.c")] := rfl
  obtain ⟨request, hbuild, hasked, -⟩ := addressed_to_site_only decoy
    { url := decoy.text, headers := [(.text "X-Host", .text "b.c")] } rfl hparse hentries
    (by decide)
  have hsite : decoy.shownSite = "a.b.c:8443" := rfl
  rw [hsite] at hasked
  refine ⟨rfl, request, hbuild, ?_, ?_, ?_, ?_⟩ <;> rw [hasked] <;> rfl

/-- An address whose scheme is in capital letters, and which gives the default port. -/
def loud : WebAddress where
  scheme := .http
  spelling := ['H', 'T', 'T', 'P']
  userinfo := none
  host := ['h']
  port := some ['8', '0']
  path := ['/']
  query := none
  fragment := none
  spelling_scheme := rfl
  userinfo_inside := by simp
  isHostName := by
    refine ⟨by simp, List.all_eq_true.mp rfl, fun groups _ hdigits h => ?_⟩
    have hmem : 'h' ∈ Text.glue '.' groups := h ▸ List.mem_cons_self
    obtain hdot | ⟨group, hgroup, hletter⟩ := Text.mem_glue hmem
    · exact absurd hdot (by decide)
    · exact absurd ((hdigits group hgroup).2 'h' hletter) (by decide)
  port_digits := by
    rintro part ⟨⟩
    exact List.all_eq_true.mp rfl
  path_rooted := by simp
  path_inside := by simp
  query_inside := by simp

/-- The default port of a scheme in capital letters is kept, so a request for `HTTP://h:80/` is not
addressed to `h`. -/
theorem not_addressed_to_site :
    loud.text = "HTTP://h:80/" ∧ loud.site = "h" ∧
    ∃ request, build { url := "HTTP://h:80/" } = .ok request ∧
      request.isAddressedTo "h" = .ok false ∧ request.isAddressedTo "h:80" = .ok true :=
  ⟨rfl, rfl, _, rfl, rfl, rfl⟩

end Request
end AuthRelay
