import Greenhouse.Url
import Mathlib.Data.List.TakeWhile

/-!
# Greenhouse.Proofs.Layout

Where the parts of an address stand.

Separators alone tell the parts of an address apart, before any of them is read: the slashes behind
the scheme, the authority, the path and what follows the path.  A layout is an address cut into these
parts, with nothing of them decoded, dropped or put in percent form yet.

* `Layout.text_behind` — every character behind the scheme is in one of the parts.
* `parse_eq_read` — reading an address is reading the parts of its layout.
* `layout?_http` — the layout of an address that has been put together from its parts.
-/

namespace Greenhouse.Url

open Greenhouse.Text

/-- The parts of an address as they stand in its text, the name of the scheme in lower case. -/
structure Layout where
  scheme : List Char
  slashes : List Char
  authority : List Char
  /-- The path with the separator that begins it. -/
  path : List Char
  /-- The query and the fragment with the characters that begin them. -/
  rest : List Char
deriving DecidableEq, Repr

namespace Layout

/-- The layout of an address, given as its scheme and the text behind the colon. -/
def behind (scheme cs : List Char) : Layout :=
  let tail := (cs.dropWhile Path.isSeparator).dropWhile (! endsAuthority ·)
  { scheme
    slashes := cs.takeWhile Path.isSeparator
    authority := (cs.dropWhile Path.isSeparator).takeWhile (! endsAuthority ·)
    path := tail.takeWhile (! endsPath ·)
    rest := tail.dropWhile (! endsPath ·) }

/-- The parts put together again, the scheme left out. -/
def text (l : Layout) : List Char := l.slashes ++ l.authority ++ l.path ++ l.rest

/-- Nothing of a text is lost when its scheme is taken off. -/
theorem text_behind (scheme cs : List Char) : (behind scheme cs).text = cs := by
  simp only [text, behind, List.append_assoc, List.takeWhile_append_dropWhile]

/-- The segments of the path, those that are dots among them. -/
def segments (l : Layout) : List (List Char) := pieces Path.isSeparator (l.path.drop 1)

/-- Reads the parts. -/
def read (l : Layout) : Except Fault Url := do
  let scheme ← if l.scheme = Scheme.http.name then .ok Scheme.http
    else if l.scheme = Scheme.https.name then .ok Scheme.https
    else .error .missingBase
  let (user, hostPort) := splitCredentials l.authority
  let (username, password) := credentials user
  let (host, port) ← hostAndPort hostPort
  let url : Url :=
    ⟨scheme, username, password, host, port.filter (· != scheme.usualPort), [[]], none, none⟩
  return url.withRest (Path.walk [] l.segments).reverse l.rest

end Layout

/-- The layout of a text that has a scheme. -/
def layout? (cs : List Char) : Option Layout :=
  (splitScheme (clean cs)).map fun s => .behind s.1 s.2

/-- A text is read by its layout, if it has one. -/
theorem parse_eq_read (cs : List Char) :
    parse cs = (layout? cs).elim (.error .missingBase) Layout.read := by
  rw [parse, layout?]
  cases splitScheme (clean cs) with
  | none => rfl
  | some s =>
    obtain ⟨name, rest⟩ := s
    dsimp only [Option.map_some, Option.elim_some]
    split
    · next hhttp => subst hhttp; rfl
    · next hhttp =>
      split
      · next hhttps => subst hhttps; rfl
      · next hhttps =>
        have hscheme : (Layout.behind name rest).scheme = name := rfl
        rw [Layout.read, hscheme, if_neg hhttp, if_neg hhttps]
        rfl

/-! ## putting parts together -/

/-- A text without blanks at its ends and without breaks is read as it stands. -/
theorem clean_eq_self {cs : List Char} (hhead : ∀ c ∈ cs.head?, 0x20 < c.toNat)
    (hlast : ∀ c ∈ cs.getLast?, 0x20 < c.toNat)
    (hbreak : ∀ c ∈ cs, c ≠ '\t' ∧ c ≠ '\n' ∧ c ≠ '\r') : clean cs = cs := by
  have hfront : cs.dropWhile (·.toNat ≤ 0x20) = cs := by
    cases cs with
    | nil => rfl
    | cons c cs =>
      have hc := hhead c (by simp)
      rw [List.dropWhile_cons_of_neg (by simp; omega)]
  have hback : (cs.reverse.dropWhile (·.toNat ≤ 0x20)).reverse = cs := by
    rcases hr : cs.reverse with _ | ⟨c, rs⟩
    · simpa using hr
    · have hc := hlast c (by simp [List.getLast?_eq_head?_reverse, hr])
      rw [List.dropWhile_cons_of_neg (by simp; omega), ← hr, List.reverse_reverse]
  rw [clean, hfront, hback]
  exact List.filter_eq_self.mpr fun c hc => by simp [hbreak c hc]

/-- A list is cut where a property ends to hold. -/
theorem span_append {p : α → Bool} {xs ys : List α} (hxs : ∀ x ∈ xs, p x)
    (hys : ∀ y ∈ ys.head?, p y = false) :
    (xs ++ ys).takeWhile p = xs ∧ (xs ++ ys).dropWhile p = ys := by
  rw [List.takeWhile_append_of_pos hxs, List.dropWhile_append_of_pos hxs]
  cases ys with
  | nil => simp
  | cons y ys => simp [hys y (by simp)]

/-- The layout of slashes, an authority and a path, where nothing follows the path. -/
theorem Layout.behind_append {scheme slashes authority path : List Char}
    (hslashes : ∀ c ∈ slashes, Path.isSeparator c) (hne : authority ≠ [])
    (hauthority : ∀ c ∈ authority, endsAuthority c = false)
    (hstart : ∀ c ∈ path.head?, endsAuthority c) (hpath : ∀ c ∈ path, endsPath c = false) :
    behind scheme (slashes ++ (authority ++ path)) = ⟨scheme, slashes, authority, path, []⟩ := by
  have hhead : ∀ c ∈ (authority ++ path).head?, Path.isSeparator c = false := by
    obtain ⟨x, xs, rfl⟩ := List.exists_cons_of_ne_nil hne
    have hx := hauthority x List.mem_cons_self
    simp only [endsAuthority, Bool.or_eq_false_iff] at hx
    simpa using hx.1.1
  obtain ⟨htake, hdrop⟩ := span_append hslashes hhead
  have hin : ∀ c ∈ authority, (! endsAuthority c) = true := fun c hc => by simp [hauthority c hc]
  have hout : ∀ c ∈ path.head?, (! endsAuthority c) = false := fun c hc => by simp [hstart c hc]
  obtain ⟨htake', hdrop'⟩ := span_append hin hout
  have hwhole : path.takeWhile (! endsPath ·) = path :=
    List.takeWhile_eq_self_iff.mpr fun c hc => by simp [hpath c hc]
  have hnone : path.dropWhile (! endsPath ·) = [] :=
    List.dropWhile_eq_nil_iff.mpr fun c hc => by simp [hpath c hc]
  simp only [behind, htake, hdrop, htake', hdrop', hwhole, hnone]

/-- A text that begins as a web address is laid out as one: authority first, then path. -/
theorem layout?_http {slashes authority path : List Char}
    (hclean : clean ("http:".toList ++ (slashes ++ (authority ++ path))) =
      "http:".toList ++ (slashes ++ (authority ++ path)))
    (hslashes : ∀ c ∈ slashes, Path.isSeparator c) (hne : authority ≠ [])
    (hauthority : ∀ c ∈ authority, endsAuthority c = false)
    (hstart : ∀ c ∈ path.head?, endsAuthority c) (hpath : ∀ c ∈ path, endsPath c = false) :
    layout? ("http:".toList ++ (slashes ++ (authority ++ path))) =
      some ⟨Scheme.http.name, slashes, authority, path, []⟩ := by
  rw [layout?, hclean, ← Layout.behind_append hslashes hne hauthority hstart hpath]
  rfl

/-! ## reading plain parts -/

/-- Without an at sign there are no credentials. -/
theorem splitCredentials_of_not_mem {cs : List Char} (h : '@' ∉ cs) :
    splitCredentials cs = (none, cs) := by
  have hall : cs.reverse.takeWhile (· != '@') = cs.reverse := by
    rw [List.takeWhile_eq_self_iff]
    intro c hc
    simp only [bne_iff_ne, ne_eq]
    rintro rfl
    exact h (by simpa using hc)
  simp [splitCredentials, hall]

/-- An authority without credentials, and a path with neither query nor fragment behind it. -/
theorem Layout.read_plain {slashes authority path : List Char} (h : '@' ∉ authority) :
    read ⟨Scheme.http.name, slashes, authority, path, []⟩ = (hostAndPort authority).map fun m =>
      ⟨.http, [], none, m.1, m.2.filter (· != Scheme.http.usualPort),
        (Path.walk [] (pieces Path.isSeparator (path.drop 1))).reverse, none, none⟩ := by
  rw [read, if_pos rfl, splitCredentials_of_not_mem h]
  dsimp only
  cases hostAndPort authority <;> rfl

end Greenhouse.Url
