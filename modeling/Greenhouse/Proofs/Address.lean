import Greenhouse.Channel
import Greenhouse.Proofs.Layout

/-!
# Greenhouse.Proofs.Address

Which hosts have power channels.

The url of a channel is the text of the host with a path behind it, and reading it decides whether the
host was one.  Backslashes count as slashes there: those at the start are skipped, and the first one
behind them ends the authority, so that what is behind it gets into the path.

* `layout?_urlText` — where the url of a channel has its parts.
* `parse_urlText` — what the url of a channel reads as.
* `open?_eq_ok_iff` — a host has a channel of one index if it has those of all, and which hosts have
  them (`Host.hasChannels`).
-/

namespace Greenhouse

open Greenhouse.Text Greenhouse.Url

/-! ## segments in front of a path -/

namespace Url.Path

/-- Goes along segments that others follow, so that none of them is the last one. -/
def descend (done : List (List Char)) : List (List Char) → List (List Char)
  | [] => done
  | s :: rest =>
    descend (if isDoubleDot s then shorten done
      else if isSingleDot s then done else Percent.encode Percent.path s :: done) rest

/-- Segments in front of others are walked first. -/
theorem walk_append (done front : List (List Char)) {rest : List (List Char)} (h : rest ≠ []) :
    walk done (front ++ rest) = walk (descend done front) rest := by
  induction front generalizing done with
  | nil => rfl
  | cons s front ih =>
    have hne : (front ++ rest).isEmpty = false := by simp [h]
    rw [List.cons_append, walk, descend]
    split
    · rw [hne]
      exact ih _
    · split
      · rw [hne]
        exact ih _
      · exact ih _

/-- A segment that holds no percent sign and does not begin with a dot is no dot segment. -/
theorem not_dots_of_head (c : Char) (cs : List Char) (hc : c ≠ '%') (hd : c ≠ '.') :
    isDoubleDot (c :: cs) = false ∧ isSingleDot (c :: cs) = false := by
  have hplain : plainDots (c :: cs) = c :: plainDots cs := by
    rw [plainDots] <;> simp [hc]
  simp [isDoubleDot, isSingleDot, hplain, hd]

end Url.Path

theorem Url.Percent.encode_eq_self {set cs : List Char}
    (h : ∀ c ∈ cs, 0x20 ≤ c.toNat ∧ c.toNat < 0x7F ∧ c ∉ set) : encode set cs = cs := by
  induction cs with
  | nil => rfl
  | cons c cs ih =>
    obtain ⟨hlow, hhigh, hset⟩ := h c (by simp)
    have hplain : (c.toNat < 0x20 || 0x7F ≤ c.toNat || set.contains c) = false := by
      simp [hset]
      omega
    rw [encode, List.flatMap_cons, hplain]
    exact congrArg (c :: ·) (ih fun d hd => h d (by simp [hd]))

/-! ## what a host gives -/

namespace Host

/-- The part of a host that is read as the authority. -/
def authority (host : String) : List Char :=
  (host.toList.dropWhile Path.isSeparator).takeWhile (! Path.isSeparator ·)

/-- The segments that a host puts in front of the path. -/
def strays (host : String) : List (List Char) :=
  match (host.toList.dropWhile Path.isSeparator).dropWhile (! Path.isSeparator ·) with
  | [] => []
  | _ :: cs => pieces Path.isSeparator cs

/-- Whether a host is a bare address that names a machine, with nothing left in front of the path. -/
def hasChannels (host : String) : Bool :=
  (check host).isOk && (hostAndPort (authority host)).isOk &&
    (Path.descend [] (strays host)).isEmpty

/-- What a host leaves behind its authority, with the separator that begins it. -/
def tail (host : String) : List Char :=
  (host.toList.dropWhile Path.isSeparator).dropWhile (! Path.isSeparator ·)

/-- A host is separators, an authority and what is left. -/
theorem toList_eq_append (host : String) :
    host.toList = host.toList.takeWhile Path.isSeparator ++ (authority host ++ tail host) := by
  rw [authority, tail, List.takeWhile_append_dropWhile, List.takeWhile_append_dropWhile]

/-- The authority of a host is a part of it. -/
theorem mem_of_mem_authority {host : String} {c : Char} (h : c ∈ authority host) :
    c ∈ host.toList := by
  rw [toList_eq_append]
  simp [h]

/-- A host without an authority is nothing but separators. -/
theorem isSeparator_of_authority_eq_nil {host : String} (h : authority host = []) :
    ∀ c ∈ host.toList, Path.isSeparator c := by
  rw [← List.dropWhile_eq_nil_iff]
  have hhead := List.head?_dropWhile_not Path.isSeparator host.toList
  unfold authority at h
  cases hrest : host.toList.dropWhile Path.isSeparator with
  | nil => rfl
  | cons x xs =>
    rw [hrest] at h hhead
    simp_all

/-- What follows the authority begins with a separator, the slash behind the host if with no other. -/
theorem isSeparator_of_mem_head? {host : String} {cs : List Char} {c : Char}
    (h : c ∈ (tail host ++ '/' :: cs).head?) : Path.isSeparator c := by
  have hhead := List.head?_dropWhile_not (! Path.isSeparator ·)
    (host.toList.dropWhile Path.isSeparator)
  unfold tail at h
  cases hrest : (host.toList.dropWhile Path.isSeparator).dropWhile (! Path.isSeparator ·) with
  | nil =>
    rw [hrest] at h
    cases h
    rfl
  | cons x xs =>
    rw [hrest] at h hhead
    cases h
    simpa using hhead

/-- The segments of what a host leaves behind its authority stand in front of those of a path. -/
theorem pieces_tail_append (host : String) (cs : List Char) :
    pieces Path.isSeparator ((tail host ++ '/' :: cs).drop 1) =
      strays host ++ pieces Path.isSeparator cs := by
  unfold strays tail
  cases (host.toList.dropWhile Path.isSeparator).dropWhile (! Path.isSeparator ·) with
  | nil => rfl
  | cons x xs => exact pieces_append_sep (by decide) xs cs

/-- A host has channels if it is accepted and its authority can be read, and nothing strays into the
path. -/
theorem hasChannels_iff {host : String} : hasChannels host ↔
    check host = .ok () ∧ (∃ m, hostAndPort (authority host) = .ok m) ∧
      Path.descend [] (strays host) = [] := by
  unfold hasChannels
  cases check host <;> cases hostAndPort (authority host) <;> simp [Except.isOk, Except.toBool]

/-- What a bare address does not hold. -/
theorem not_mem_of_isBare {c : Char} (h : isBare c) :
    endsPath c = false ∧ c ≠ '@' ∧ c ≠ '/' ∧ isBlank c = false := by
  simp only [isBare, delimiters, List.contains_cons, List.contains_nil, Bool.or_false, Bool.not_or,
    Bool.and_eq_true, Bool.not_eq_true', beq_eq_false_iff_ne] at h
  obtain ⟨⟨hslash, hquestion, hsharp, hat⟩, hblank⟩ := h
  exact ⟨by simp [endsPath, hquestion, hsharp], hat, hslash, hblank⟩

/-- The authority of a bare address holds no credentials and ends nowhere in between. -/
theorem authority_spec {host : String} (h : ∀ c ∈ host.toList, isBare c) {c : Char}
    (hc : c ∈ authority host) : endsAuthority c = false ∧ c ≠ '@' := by
  have hsep := List.mem_takeWhile_imp (p := (! Path.isSeparator ·)) hc
  obtain ⟨hpath, hat, -, -⟩ := not_mem_of_isBare (h c (mem_of_mem_authority hc))
  refine ⟨?_, hat⟩
  rw [endsAuthority, Bool.or_assoc]
  exact Bool.or_eq_false_iff.mpr ⟨by simpa using hsep, hpath⟩

end Host

/-! ## the url of a channel -/

namespace Channel

/-- What stands behind the slash that follows the host in the url of a channel. -/
def pathText (index : UInt32) : List Char := "power".toList ++ '/' :: Decimal.ofNat index.toNat

/-- The url of a channel is its host between scheme and path. -/
theorem toList_urlText (host : String) (index : UInt32) :
    (urlText host index).toList = "http://".toList ++ (host.toList ++ '/' :: pathText index) := by
  simp [urlText, pathText, Decimal.text]

/-- The digits of an index are a segment that stays as it is. -/
theorem digit_spec {index : UInt32} {c : Char} (h : c ∈ Decimal.ofNat index.toNat) :
    48 ≤ c.toNat ∧ c.toNat ≤ 57 := by
  have hdigit := Decimal.isDigit_of_mem_ofNat h
  simpa [Char.isDigit, UInt32.le_iff_toNat_le] using hdigit

/-- The path of a channel is made of its name and digits. -/
theorem mem_pathText {index : UInt32} {c : Char} (h : c ∈ pathText index) :
    c ∈ "power/".toList ∨ c ∈ Decimal.ofNat index.toNat := by
  have hletter : ∀ x ∈ "power".toList, x ∈ "power/".toList := by simp
  simp only [pathText, List.mem_append, List.mem_cons] at h
  obtain h | rfl | h := h
  · exact .inl (hletter c h)
  · exact .inl (by simp)
  · exact .inr h

theorem pieces_digits (index : UInt32) :
    pieces Path.isSeparator (Decimal.ofNat index.toNat) = [Decimal.ofNat index.toNat] := by
  refine pieces_of_forall_not fun c hc => ?_
  simp only [Path.isSeparator, Bool.or_eq_false_iff, beq_eq_false_iff_ne]
  exact ⟨Decimal.ne_of_mem_ofNat hc rfl, Decimal.ne_of_mem_ofNat hc rfl⟩

theorem walk_digits (done : List (List Char)) (index : UInt32) :
    Path.walk done [Decimal.ofNat index.toNat] = Decimal.ofNat index.toNat :: done := by
  obtain ⟨c, cs, hcs⟩ := List.exists_cons_of_ne_nil (Decimal.ofNat_ne_nil (n := index.toNat))
  have hc : c ∈ Decimal.ofNat index.toNat := by simp [hcs]
  obtain ⟨hdouble, hsingle⟩ := Path.not_dots_of_head c cs
    (Decimal.ne_of_mem_ofNat hc rfl) (Decimal.ne_of_mem_ofNat hc rfl)
  have hencode :
      Percent.encode Percent.path (Decimal.ofNat index.toNat) = Decimal.ofNat index.toNat := by
    refine Percent.encode_eq_self fun d hd => ?_
    have hd := digit_spec hd
    refine ⟨by omega, by omega, fun hmem => ?_⟩
    have hset : ∀ x ∈ Percent.path, ¬ (48 ≤ x.toNat ∧ x.toNat ≤ 57) := by
      simp [Percent.path, Percent.fragment]
    exact hset d hmem hd
  rw [Path.walk, hcs, hdouble, hsingle, ← hcs, hencode]
  rfl

/-- The path of a channel has two segments. -/
theorem pieces_pathText (index : UInt32) :
    pieces Path.isSeparator (pathText index) = path index := by
  rw [pathText, pieces_append_cons (by simp [Path.isSeparator]) (by decide), pieces_digits]
  rfl

/-- The path of a channel stays as it is, and so does what has been put in front of it. -/
theorem walk_path (done front : List (List Char)) (index : UInt32) :
    (Path.walk done (front ++ path index)).reverse =
      (Path.descend done front).reverse ++ path index := by
  have hpower : Percent.encode Percent.path "power".toList = "power".toList := by decide
  rw [Path.walk_append _ _ (by simp [path]), path, Path.walk, if_neg (by decide), if_neg (by decide),
    walk_digits, hpower, List.reverse_cons, List.reverse_cons, List.append_assoc]
  rfl

/-- The url of a bare address. -/
theorem clean_urlText {host : String} (h : ∀ c ∈ host.toList, Host.isBare c) (index : UInt32) :
    clean (urlText host index).toList = (urlText host index).toList := by
  rw [toList_urlText]
  refine clean_eq_self (fun c hc => ?_) (fun c hc => ?_) (fun c hc => ?_)
  · cases hc
    decide
  · have hdigits : "http://".toList ++ (host.toList ++ '/' :: pathText index) =
        "http://".toList ++ host.toList ++ "/power/".toList ++ Decimal.ofNat index.toNat := by
      simp [pathText]
    have hlast : c ∈ (Decimal.ofNat index.toNat).getLast? := by
      rw [hdigits, List.getLast?_append, List.getLast?_eq_some_getLast Decimal.ofNat_ne_nil,
        Option.some_or] at hc
      rw [List.getLast?_eq_some_getLast Decimal.ofNat_ne_nil]
      exact hc
    have := digit_spec (List.mem_of_getLast? hlast)
    omega
  · have hblank : isBlank c = false → c ≠ '\t' ∧ c ≠ '\n' ∧ c ≠ '\r' := by
      intro hc
      refine ⟨?_, ?_, ?_⟩ <;> (rintro rfl; exact absurd hc (by decide))
    refine hblank ?_
    have hletters : ∀ x ∈ "http://".toList ++ "power/".toList, isBlank x = false := by
      simp [isBlank, blanks, CodeSet.contains, CodeRun.contains]
    simp only [List.mem_append, List.mem_cons] at hc
    obtain hc | hc | rfl | hc := hc
    · exact hletters c (List.mem_append_left _ hc)
    · exact (Host.not_mem_of_isBare (h c hc)).2.2.2
    · decide
    · obtain hc | hc := mem_pathText hc
      · exact hletters c (List.mem_append_right _ hc)
      · exact isBlank_eq_false_of_isDigit (Decimal.isDigit_of_mem_ofNat hc)

theorem endsPath_of_mem_pathText {index : UInt32} {c : Char} (h : c ∈ pathText index) :
    endsPath c = false := by
  obtain hc | hc := mem_pathText h
  · have hpower : ∀ x ∈ "power/".toList, endsPath x = false := by simp [endsPath]
    exact hpower c hc
  · simp only [endsPath, Bool.or_eq_false_iff, beq_eq_false_iff_ne]
    exact ⟨Decimal.ne_of_mem_ofNat hc rfl, Decimal.ne_of_mem_ofNat hc rfl⟩

/-- The url of the channel of an index at a machine. -/
def targetAt (machine : Url.Host × Option Nat) (front : List (List Char)) (index : UInt32) : Url :=
  ⟨.http, [], none, machine.1, machine.2.filter (· != Scheme.http.usualPort), front ++ path index,
    none, none⟩

/-- A channel stands for its resource only if nothing comes in front of the path. -/
theorem isResource_targetAt {machine : Url.Host × Option Nat} {front : List (List Char)}
    {index : UInt32} : isResource (targetAt machine front index) index ↔ front = [] := by
  simp [isResource, targetAt]

theorem isSeparator_of_mem_slashes {c : Char} (h : c ∈ "//".toList) : Path.isSeparator c := by
  have hslash : ∀ x ∈ "//".toList, Path.isSeparator x := by simp [Path.isSeparator]
  exact hslash c h

/-- The layout of the url of a bare address that names something. -/
theorem layout?_urlText {host : String} (h : ∀ c ∈ host.toList, Host.isBare c)
    (hauthority : Host.authority host ≠ []) (index : UInt32) :
    layout? (urlText host index).toList =
      some ⟨Scheme.http.name, "//".toList ++ host.toList.takeWhile Path.isSeparator,
        Host.authority host, Host.tail host ++ '/' :: pathText index, []⟩ := by
  have htext : (urlText host index).toList = "http:".toList ++
      ("//".toList ++ host.toList.takeWhile Path.isSeparator ++
        (Host.authority host ++ (Host.tail host ++ '/' :: pathText index))) := by
    have hhost := congrArg (· ++ '/' :: pathText index) (Host.toList_eq_append host)
    rw [toList_urlText, hhost]
    simp only [List.append_assoc]
    rfl
  have hclean := clean_urlText h index
  rw [htext] at hclean ⊢
  refine layout?_http hclean (fun c hc => ?_) hauthority (fun c hc => ?_) (fun c hc => ?_)
    fun c hc => ?_
  · obtain hc | hc := List.mem_append.mp hc
    · exact isSeparator_of_mem_slashes hc
    · exact List.mem_takeWhile_imp hc
  · exact (Host.authority_spec h hc).1
  · rw [endsAuthority, Host.isSeparator_of_mem_head? hc]
    rfl
  · obtain hc | hc := List.mem_append.mp hc
    · refine (Host.not_mem_of_isBare (h c ?_)).1
      rw [Host.toList_eq_append host]
      simp [hc]
    · obtain rfl | hc := List.mem_cons.mp hc
      · decide
      · exact endsPath_of_mem_pathText hc

/-- What the url of a channel reads as, if the host is a bare address that names something. -/
theorem parse_urlText {host : String} (h : ∀ c ∈ host.toList, Host.isBare c)
    (hauthority : Host.authority host ≠ []) (index : UInt32) :
    Url.parse (urlText host index).toList = (hostAndPort (Host.authority host)).map fun m =>
      targetAt m (Path.descend [] (Host.strays host)).reverse index := by
  have hat : '@' ∉ Host.authority host := fun hc => (Host.authority_spec h hc).2 rfl
  rw [parse_eq_read, layout?_urlText h hauthority, Option.elim_some, Layout.read_plain hat,
    Host.pieces_tail_append, pieces_pathText, walk_path]
  rfl

/-- A host of nothing but separators is swallowed, and the path is read as the authority. -/
theorem path_of_swallowed {host : String} (h : ∀ c ∈ host.toList, Host.isBare c)
    (hauthority : Host.authority host = []) {index : UInt32} {url : Url}
    (hurl : Url.parse (urlText host index).toList = .ok url) :
    url.path = [Decimal.ofNat index.toNat] := by
  have hslashes : ∀ c ∈ "//".toList ++ host.toList ++ ['/'], Path.isSeparator c := by
    simp only [List.mem_append, List.mem_singleton]
    rintro c ((hc | hc) | rfl)
    · exact isSeparator_of_mem_slashes hc
    · exact Host.isSeparator_of_authority_eq_nil hauthority c hc
    · decide
  have hdigits : ∀ c ∈ '/' :: Decimal.ofNat index.toNat, endsPath c = false := fun c hc =>
    endsPath_of_mem_pathText (List.mem_append_right _ hc)
  have htext : (urlText host index).toList = "http:".toList ++
      ("//".toList ++ host.toList ++ ['/'] ++
        ("power".toList ++ '/' :: Decimal.ofNat index.toNat)) := by
    rw [toList_urlText, pathText]
    simp
  have hclean := clean_urlText h index
  rw [htext] at hclean
  rw [parse_eq_read, htext,
    layout?_http hclean hslashes (by decide) (by simp [endsAuthority, Path.isSeparator])
      (by simp [endsAuthority, Path.isSeparator]) hdigits, Option.elim_some, Layout.read_plain (by decide)] at hurl
  cases hm : hostAndPort "power".toList with
  | error fault => rw [hm] at hurl; cases hurl
  | ok m =>
    rw [hm] at hurl
    cases hurl
    rw [List.drop_one, List.tail_cons, pieces_digits, walk_digits]
    rfl

/-- Which hosts have a channel, and what it is: the index does not matter. -/
theorem open?_eq_ok_iff {host : String} {index : UInt32} {c : Channel} :
    open? host index = .ok c ↔ Host.hasChannels host ∧
      ∃ m, hostAndPort (Host.authority host) = .ok m ∧ c = ⟨host, index, targetAt m [] index⟩ := by
  rw [Host.hasChannels_iff, open?]
  cases hcheck : Host.check host with
  | error fault => simp
  | ok _ =>
    have hbare := (Host.check_eq_ok_iff.mp hcheck).2
    dsimp only
    by_cases hauthority : Host.authority host = []
    · have hempty : hostAndPort (Host.authority host) = .error .emptyHost := by rw [hauthority]; rfl
      cases hurl : Url.parse (urlText host index).toList with
      | error fault => simp [hempty]
      | ok url =>
        have hpath := path_of_swallowed hbare hauthority hurl
        have hresource : isResource url index = false := by
          rw [isResource, hpath, path]
          simp
        simp [hempty, hresource]
    · rw [parse_urlText hbare hauthority index]
      cases hm : hostAndPort (Host.authority host) with
      | error fault => simp [Except.map]
      | ok m =>
        simp only [Except.map, isResource_targetAt, List.reverse_eq_nil_iff]
        cases Path.descend [] (Host.strays host) with
        | nil => simp [eq_comm]
        | cons s ss => simp

/-- A channel keeps the host that it was made for. -/
theorem host_of_open? {host : String} {index : UInt32} {c : Channel}
    (hc : open? host index = .ok c) : c.host = host := by
  obtain ⟨-, m, -, rfl⟩ := open?_eq_ok_iff.mp hc
  rfl

end Channel

end Greenhouse
