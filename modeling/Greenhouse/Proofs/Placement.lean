import Greenhouse.Proofs.Names

/-!
# Greenhouse.Proofs.Placement

Where the host of a channel stands in its url.

A bare address may hold backslashes, which count as slashes once it is in a url.  Those at its start
are slashes in front of the authority, and those behind it begin segments of the path; a host still
has channels if these segments are dots that take one another away.

* `layout_of_open` — the parts of a channel's url, and for which hosts the authority is the host.
-/

namespace Greenhouse

open Greenhouse.Text Greenhouse.Url

namespace Host

/-- The only separator that a bare address may hold. -/
theorem isSeparator_iff_of_isBare {c : Char} (h : isBare c) : Path.isSeparator c ↔ c = '\\' := by
  have hslash := (not_mem_of_isBare h).2.2.1
  simp [Path.isSeparator, hslash]

/-- Without backslashes, a bare address is all authority. -/
theorem parts_of_not_mem {host : String} (h : ∀ c ∈ host.toList, isBare c)
    (hback : '\\' ∉ host.toList) :
    host.toList.takeWhile Path.isSeparator = [] ∧ authority host = host.toList ∧ tail host = [] := by
  have hplain : ∀ c ∈ host.toList, (! Path.isSeparator c) = true := by
    intro c hc
    rw [Bool.not_eq_true', ← Bool.not_eq_true, isSeparator_iff_of_isBare (h c hc)]
    rintro rfl
    exact hback hc
  have hdrop : host.toList.dropWhile Path.isSeparator = host.toList := by
    cases hcs : host.toList with
    | nil => rfl
    | cons c cs => rw [List.dropWhile_cons_of_neg (by simpa using hplain c (by simp [hcs]))]
  refine ⟨?_, ?_, ?_⟩
  · have hsplit := @List.takeWhile_append_dropWhile _ Path.isSeparator host.toList
    rw [hdrop] at hsplit
    exact List.self_eq_append_left.mp hsplit.symm
  · rw [authority, hdrop, List.takeWhile_eq_self_iff.mpr hplain]
  · rw [tail, hdrop, List.dropWhile_eq_nil_iff.mpr hplain]

end Host

namespace Channel

variable {host : String} {index : UInt32} {c : Channel}

/-- Whether a layout is that of a channel's url with all of the host in the authority. -/
def IsPlaced (l : Layout) (host : String) (index : UInt32) : Prop :=
  l.slashes = ['/', '/'] ∧ l.authority = host.toList ∧ l.segments = path index

/-- The url of a channel has the slashes of its scheme, the authority of the host and the path of the
channel, and what else the host holds is between them: its backslashes at the start behind the
slashes, and segments that take one another away in front of the path.  The authority reads as a
machine with an optional port.  It is all of the host for the hosts without backslashes, and for no
others. -/
theorem layout_of_open (h : open? host index = .ok c) :
    ∃ l, layout? c.url.toList = some l ∧ l.read = .ok c.target ∧
      l.scheme = Scheme.http.name ∧
      l.slashes = ['/', '/'] ++ host.toList.takeWhile Path.isSeparator ∧
      l.authority = Host.authority host ∧
      l.segments = Host.strays host ++ path index ∧ Path.descend [] (Host.strays host) = [] ∧
      l.rest = [] ∧
      (∃ m, hostAndPort l.authority = .ok m ∧ c.target = targetAt m [] index) ∧
      (IsPlaced l host index ↔ '\\' ∉ host.toList) := by
  obtain ⟨hhost, m, hm, rfl⟩ := open?_eq_ok_iff.mp h
  obtain ⟨hcheck, -, hstrays⟩ := Host.hasChannels_iff.mp hhost
  have hbare := (Host.check_eq_ok_iff.mp hcheck).2
  have hauthority : Host.authority host ≠ [] := by
    intro hnil
    rw [hnil] at hm
    cases hm
  have hlayout := layout?_urlText hbare hauthority index
  have hsegments := Host.pieces_tail_append host (pathText index)
  rw [pieces_pathText] at hsegments
  refine ⟨_, hlayout, ?_, rfl, rfl, rfl, hsegments, hstrays, rfl, ⟨m, hm, rfl⟩, ?_, ?_⟩
  · -- the address has one reading, and the layout is read to it
    have hparse := parse_urlText hbare hauthority index
    rw [parse_eq_read, hlayout, hm, hstrays] at hparse
    exact hparse
  · rintro ⟨-, hall, -⟩ hback
    rw [← hall] at hback
    have hends := (Host.authority_spec hbare hback).1
    cases hends
  · intro hback
    obtain ⟨hseparators, hall, htail⟩ := Host.parts_of_not_mem hbare hback
    refine ⟨congrArg (['/', '/'] ++ ·) hseparators, hall, ?_⟩
    rw [Layout.segments, htail]
    exact pieces_pathText index

/-- A bare address has a channel if its authority is a machine and its segments go away. -/
theorem open?_of_authority {m : Url.Host × Option Nat} (hcheck : Host.check host = .ok ())
    (hm : hostAndPort (Host.authority host) = .ok m)
    (hstrays : Path.descend [] (Host.strays host) = []) :
    open? host index = .ok ⟨host, index, targetAt m [] index⟩ :=
  open?_eq_ok_iff.mpr ⟨Host.hasChannels_iff.mpr ⟨hcheck, ⟨m, hm⟩, hstrays⟩, m, hm, rfl⟩

/-- A name alone is all authority. -/
theorem layout_of_open_name : ∃ c l, open? "h" 1 = .ok c ∧ layout? c.url.toList = some l ∧
    IsPlaced l "h" 1 := by
  have hopen : open? "h" 1 = .ok ⟨"h", 1, targetAt (.domain ['h'], none) [] 1⟩ :=
    open?_of_authority (by decide) (Url.hostAndPort_of_plain (by decide) (by decide)) (by decide)
  obtain ⟨l, hl, -, -, -, -, -, -, -, -, hplaced⟩ := layout_of_open hopen
  exact ⟨_, l, hopen, hl, hplaced.mpr (by decide)⟩

/-- A backslash is one more slash in front of the authority, and behind it another begins a segment
that is taken away again. -/
theorem layout_of_backslashes :
    (∃ c, open? "\\h" 0 = .ok c ∧ layout? c.url.toList = some ⟨Scheme.http.name, "//\\".toList,
      "h".toList, "/power/0".toList, []⟩) ∧
    ∃ c, open? "h\\.." 0 = .ok c ∧ layout? c.url.toList = some ⟨Scheme.http.name, "//".toList,
      "h".toList, "\\../power/0".toList, []⟩ := by
  have hm : ∀ host, Host.authority host = "h".toList →
      hostAndPort (Host.authority host) = .ok (.domain ['h'], none) := by
    intro host hhost
    rw [hhost]
    exact Url.hostAndPort_of_plain (by decide) (by decide)
  exact ⟨⟨_, open?_of_authority (by decide) (hm _ (by decide)) (by decide), by decide⟩,
    ⟨_, open?_of_authority (by decide) (hm _ (by decide)) (by decide), by decide⟩⟩

end Channel

end Greenhouse
