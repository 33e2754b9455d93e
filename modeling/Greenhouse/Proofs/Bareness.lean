import Greenhouse.Proofs.Redirects

/-!
# Greenhouse.Proofs.Bareness

Bare addresses give bare urls.

A channel looks at five parts of its url: the user name, the password, the path, the query and the
fragment.  Four of these looks are never in vain, and never needed: credentials end at an at sign, a
query begins with a question mark and a fragment with a number sign, and a bare address brings none of
these into the text of the url.  Only the path is left to go wrong.

* `isBare_of_parse` — what a text without these signs reads as.
* `Channel.exists_open?_iff_path` — the path alone decides about a url that can be read.
-/

namespace Greenhouse

open Dialogue Greenhouse.Text Greenhouse.Url Greenhouse.Exchange

namespace Url

/-- Whether an address has nothing but a machine, a port and a path. -/
structure IsBare (url : Url) : Prop where
  username : url.username = []
  password : url.password = none
  query : url.query = none
  fragment : url.fragment = none

/-- The text of a bare address shows its scheme, its authority and its path. -/
theorem IsBare.chars_eq {url : Url} (h : url.IsBare) :
    url.chars = url.scheme.name ++ "://".toList ++ url.authorityText ++ Path.text url.path := by
  simp [chars, credentialsText, h.username, h.password, h.query, h.fragment]

/-! ## signs that are not there -/

/-- Whether a character sets off credentials, a query or a fragment. -/
def isSign (c : Char) : Bool := c == '@' || endsPath c

theorem mem_of_mem_clean {cs : List Char} {c : Char} (h : c ∈ clean cs) : c ∈ cs := by
  have hback := (List.mem_filter.mp h).1
  rw [List.mem_reverse] at hback
  have hfront := (List.dropWhile_suffix _).subset hback
  rw [List.mem_reverse] at hfront
  exact (List.dropWhile_suffix _).subset hfront

/-- The parts of a text hold nothing that the text does not hold. -/
theorem Layout.mem_of_mem_text {cs : List Char} {l : Layout} (h : layout? cs = some l) {c : Char}
    (hc : c ∈ l.text) : c ∈ cs := by
  obtain ⟨s, hs, rfl⟩ := Option.map_eq_some_iff.mp h
  rw [text_behind] at hc
  unfold splitScheme at hs
  dsimp only at hs
  split at hs
  · cases hs
    exact mem_of_mem_clean ((List.dropWhile_suffix _).subset (List.mem_of_mem_drop hc))
  · cases hs

/-- What stands behind the path begins with a sign. -/
theorem Layout.isSign_of_mem_rest {cs : List Char} {l : Layout} (h : layout? cs = some l) :
    ∀ c ∈ l.rest.head?, isSign c := by
  obtain ⟨s, -, rfl⟩ := Option.map_eq_some_iff.mp h
  intro c hc
  have hhead := List.head?_dropWhile_not (! endsPath ·)
    ((s.2.dropWhile Path.isSeparator).dropWhile (! endsAuthority ·))
  rw [behind, Option.mem_def] at hc
  rw [hc] at hhead
  simpa [isSign] using Or.inr hhead

/-- An authority without an at sign, with nothing behind the path, reads as a bare address. -/
theorem Layout.isBare_of_read {l : Layout} {url : Url} (hat : '@' ∉ l.authority) (hrest : l.rest = [])
    (h : l.read = .ok url) : url.IsBare := by
  rw [read, splitCredentials_of_not_mem hat, hrest] at h
  cases hm : hostAndPort l.authority with
  | error fault =>
    simp only [hm] at h
    split at h
    · cases h
    · split at h <;> cases h
  | ok m =>
    simp only [hm] at h
    split at h
    · cases h
      exact ⟨rfl, rfl, rfl, rfl⟩
    · split at h
      · cases h
        exact ⟨rfl, rfl, rfl, rfl⟩
      · cases h

/-- A text without signs reads as a bare address, if it reads as an address. -/
theorem isBare_of_parse {cs : List Char} {url : Url} (h : ∀ c ∈ cs, isSign c = false)
    (hurl : parse cs = .ok url) : url.IsBare := by
  rw [parse_eq_read] at hurl
  cases hl : layout? cs with
  | none =>
    rw [hl] at hurl
    cases hurl
  | some l =>
    rw [hl, Option.elim_some] at hurl
    have hsign : ∀ c ∈ l.text, isSign c = false := fun c hc => h c (Layout.mem_of_mem_text hl hc)
    refine Layout.isBare_of_read (fun hat => ?_) ?_ hurl
    · have := hsign '@' (by simp [Layout.text, hat])
      cases this
    · cases hrest : l.rest with
      | nil => rfl
      | cons c cs =>
        have hc := Layout.isSign_of_mem_rest hl c (by rw [hrest]; rfl)
        rw [hsign c (by simp [Layout.text, hrest])] at hc
        cases hc

/-! ## paths as text -/

/-- Segments in front of others stand in front of them as text, each with a separator behind it. -/
theorem Path.join_append (front : List (List Char)) {segments : List (List Char)}
    (h : segments ≠ []) :
    Text.join '/' (front ++ segments) = front.flatMap (· ++ ['/']) ++ Text.join '/' segments := by
  induction front with
  | nil => rfl
  | cons s front ih =>
    obtain ⟨t, ts, hts⟩ := List.exists_cons_of_ne_nil (List.append_ne_nil_of_right_ne_nil front h)
    rw [List.cons_append, hts, Text.join, ← hts, ih]
    simp

/-- A path with more in front of it shows more. -/
theorem Path.text_append_eq_iff {front segments : List (List Char)} (h : segments ≠ []) :
    Path.text (front ++ segments) = Path.text segments ↔ front = [] := by
  constructor
  · intro htext
    rw [Path.text, Path.text, List.cons.injEq, Path.join_append front h] at htext
    have hnil : front.flatMap (· ++ ['/']) = [] := by simpa using htext
    cases front with
    | nil => rfl
    | cons s front => simp at hnil
  · rintro rfl
    rfl

end Url

/-! ## channels -/

namespace Channel

variable {host : String} {index : UInt32}

/-- The url of a bare address holds no signs. -/
theorem isSign_of_mem_urlText (hcheck : Host.check host = .ok ()) :
    ∀ c ∈ (urlText host index).toList, isSign c = false := by
  intro c hc
  rw [toList_urlText, List.mem_append, List.mem_append, List.mem_cons] at hc
  obtain hc | hc | rfl | hc := hc
  · have hscheme : ∀ x ∈ "http://".toList, isSign x = false := by simp [isSign, endsPath]
    exact hscheme c hc
  · obtain ⟨hpath, hat, -, -⟩ := Host.not_mem_of_isBare ((Host.check_eq_ok_iff.mp hcheck).2 c hc)
    simp [isSign, hpath, hat]
  · decide
  · have hat : c ≠ '@' := by
      obtain hc | hc := mem_pathText hc
      · rintro rfl
        simp at hc
      · exact Decimal.ne_of_mem_ofNat hc rfl
    simp [isSign, endsPath_of_mem_pathText hc, hat]

/-- The path of a channel as text. -/
theorem text_path (index : UInt32) :
    String.ofList (Path.text (path index)) = "/power/" ++ Decimal.text index.toNat := by
  rw [← String.toList_inj]
  simp [Path.text, path, Text.join, Decimal.text]

/-- If the url of a bare address has the path of a channel as text, then it has its segments. -/
theorem path_of_text_eq (hcheck : Host.check host = .ok ()) {url : Url}
    (hurl : Url.parse (urlText host index).toList = .ok url)
    (htext : Path.text url.path = Path.text (path index)) : url.path = path index := by
  have hbare := (Host.check_eq_ok_iff.mp hcheck).2
  by_cases hauthority : Host.authority host = []
  · -- the path is the index alone, which is shorter
    rw [path_of_swallowed hbare hauthority hurl] at htext
    have hlength := congrArg List.length htext
    simp [Path.text, path, Text.join] at hlength
  · rw [parse_urlText hbare hauthority index] at hurl
    cases hm : hostAndPort (Host.authority host) with
    | error fault =>
      rw [hm] at hurl
      cases hurl
    | ok m =>
      rw [hm] at hurl
      cases hurl
      have hfront := (Path.text_append_eq_iff (by simp [path])).mp htext
      exact (congrArg (· ++ path index) hfront).trans (List.nil_append _)

variable {σ : Type} (device : Device σ)

/-- An operation asks first, if it asks at all, for the channel's own url. -/
theorem url_of_head?_requests {c : Channel} {op : Operation} {s : σ} {request : Request}
    (h : request ∈ ((c.perform op).run device s).requests.head?) : request.url = c.target := by
  rw [requests_run, List.head?_map] at h
  by_cases haddressable : c.target.isAddressable
  · obtain ⟨result, htrail, -⟩ := trail_perform device haddressable op s
    rw [htrail.begins] at h
    cases h
    exact url_request c op
  · rw [(run_perform_of_not_isAddressable device haddressable op s).1] at h
    cases h

/-- Whatever host passes for a bare address, and whatever the index: if the url of the channel can be
read at all, it has neither credentials nor a query nor a fragment.  So there is a channel just if the
host passes, the url can be read, and its path is that of the channel; and the url that an operation of
the channel asks for is its scheme, the machine with its port, and this path, and nothing else. -/
theorem exists_open?_iff_path (host : String) (index : UInt32) :
    let url? := Url.parse (urlText host index).toList
    (Host.check host = .ok () → ∀ url, url? = .ok url → url.IsBare) ∧
      ((∃ c, open? host index = .ok c) ↔ Host.check host = .ok () ∧ ∃ url, url? = .ok url ∧
        String.ofList (Path.text url.path) = "/power/" ++ Decimal.text index.toNat) ∧
      ∀ c, open? host index = .ok c →
        ∀ (op : Operation) (s : σ), ∀ request ∈ ((c.perform op).run device s).requests.head?,
          url? = .ok request.url ∧ request.url.IsBare ∧
            request.url.text = "http://" ++ String.ofList request.url.authorityText ++ "/power/" ++
              Decimal.text index.toNat := by
  intro url?
  have hbare : Host.check host = .ok () → ∀ url, url? = .ok url → url.IsBare :=
    fun hcheck url hurl => isBare_of_parse (isSign_of_mem_urlText hcheck) hurl
  refine ⟨hbare, ⟨?_, ?_⟩, fun c hc op s request hrequest => ?_⟩
  · rintro ⟨c, hc⟩
    obtain ⟨hhost, m, -, rfl⟩ := open?_eq_ok_iff.mp hc
    exact ⟨(Host.hasChannels_iff.mp hhost).1, _, (parse_url hc).2, text_path index⟩
  · rintro ⟨hcheck, url, hurl, htext⟩
    rw [← text_path, String.ofList_inj] at htext
    have hplain := hbare hcheck url hurl
    have hresource : isResource url index := by
      simp [isResource, path_of_text_eq hcheck hurl htext, hplain.username, hplain.password,
        hplain.query, hplain.fragment]
    refine ⟨⟨host, index, url⟩, ?_⟩
    have hparse : Url.parse (urlText host index).toList = .ok url := hurl
    simp only [open?, hcheck, hparse, if_pos hresource]
  · obtain ⟨hhost, m, -, rfl⟩ := open?_eq_ok_iff.mp hc
    have hcheck := (Host.hasChannels_iff.mp hhost).1
    have hplain := hbare hcheck _ (parse_url hc).2
    rw [url_of_head?_requests device hrequest]
    refine ⟨(parse_url hc).2, hplain, ?_⟩
    rw [Url.text, hplain.chars_eq]
    simp only [String.ofList_append, String.append_assoc]
    rw [← text_path]
    rfl

/-- A device that never answers. -/
def silentDevice : Device Unit := fun _ s => (.silence, s)

/-- A segment behind the machine leaves the url bare and the host without channels; a machine alone has
them, and its level is asked for at a bare url. -/
theorem exists_open?_iff_path_segment :
    (∃ url, Url.parse (urlText "h\\x" 0).toList = .ok url ∧ url.IsBare ∧
        ¬ ∃ c, open? "h\\x" 0 = .ok c) ∧
      ∃ c, open? "h" 1 = .ok c ∧
        ∃ request ∈ ((c.perform .read).run silentDevice ()).requests.head?, request.url.IsBare := by
  have hcheck : Host.check "h\\x" = .ok () := by decide
  have hmachine : hostAndPort (Host.authority "h\\x") = .ok (.domain ['h'], none) :=
    Url.hostAndPort_of_plain (by decide) (by decide)
  have hurl : Url.parse (urlText "h\\x" 0).toList = .ok (targetAt (.domain ['h'], none) [['x']] 0) := by
    rw [parse_urlText (Host.check_eq_ok_iff.mp hcheck).2 (by decide), hmachine]
    rfl
  obtain ⟨hbare, hopen, -⟩ := exists_open?_iff_path silentDevice "h\\x" 0
  obtain ⟨-, -, hasked⟩ := exists_open?_iff_path silentDevice "h" 1
  refine ⟨⟨_, hurl, hbare hcheck _ hurl, fun hexists => ?_⟩, _, open?_name 1, _, rfl,
    (hasked _ (open?_name 1) .read () _ rfl).2.1⟩
  obtain ⟨-, url, hurl', htext⟩ := hopen.mp hexists
  cases hurl.symm.trans hurl'
  exact absurd htext (by decide)

end Channel

end Greenhouse
