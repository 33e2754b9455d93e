import Greenhouse.Proofs.Bareness
import Greenhouse.Proofs.Keys
import Greenhouse.Proofs.Machines
import Greenhouse.Proofs.Placement
import Greenhouse.Proofs.Registers

/-!
# Greenhouse.Proofs.Endpoints

Which hosts are the same device.

The form tells hosts apart as texts, while requests go to the machine and the port that a host is read
as.  One endpoint can be written in many ways: in capital letters, with the usual port, with the bytes
of an address in another base.  So hosts that are configured together differ, but their devices need
not.  The urls of channels are like that: as they are given they are all different, and in their one
form they may be the same, but never for two indices.

* `Channel.text_target_eq_iff` — channels have the same url just if they have the same index and their
  hosts the same endpoint.
* `Channel.urls_coincide_iff` — when the urls of two channels coincide as they are given, and which
  never do in their one form.
* `Chronicle.endpoints_of_run` — the entries that the form holds, and the urls of their lights.
* `endpoints_coincide` — one device that is configured twice.
-/

namespace Greenhouse

open Greenhouse.Text Greenhouse.Url

/-! ## endpoints -/

/-- The machine that a host is read as, and the port, which is the usual one if the host names none. -/
def Host.endpoint? (host : String) : Option (Url.Host × Nat) :=
  (hostAndPort (authority host)).toOption.map fun m => (m.1, m.2.getD Scheme.http.usualPort)

namespace Channel

/-- The url of a channel: scheme, machine, port and path. -/
theorem chars_targetAt (m : Url.Host × Option Nat) (index : UInt32) :
    (targetAt m [] index).chars = "http://".toList ++
      (m.1.text ++ portText (m.2.filter (· != Scheme.http.usualPort))) ++
        Path.text (path index) := by
  simp [Url.chars, targetAt, Url.credentialsText, Url.authorityText, portText, Scheme.name]

/-- Leaving out the usual port makes no two ports the same. -/
theorem filter_usualPort_eq_iff {port port' : Option Nat} :
    port.filter (· != Scheme.http.usualPort) = port'.filter (· != Scheme.http.usualPort) ↔
      port.getD Scheme.http.usualPort = port'.getD Scheme.http.usualPort := by
  -- a port that is left out, or none at all, is the usual one
  have hread : ∀ port : Option Nat, port.getD Scheme.http.usualPort =
      (port.filter (· != Scheme.http.usualPort)).getD Scheme.http.usualPort := by
    intro port
    cases port with
    | none => rfl
    | some n => by_cases h : n = Scheme.http.usualPort <;> simp [Option.filter, h]
  have hwrite : ∀ port : Option Nat, port.filter (· != Scheme.http.usualPort) =
      (some (port.getD Scheme.http.usualPort)).filter (· != Scheme.http.usualPort) := by
    intro port
    cases port <;> simp [Option.filter]
  exact ⟨fun h => by rw [hread port, h, ← hread], fun h => by rw [hwrite port, h, ← hwrite]⟩

variable {host host' : String} {index index' : UInt32} {c c' : Channel}

/-- Channels have the same url just if they have the same index and their hosts the same endpoint. -/
theorem text_target_eq_iff (h : open? host index = .ok c) (h' : open? host' index' = .ok c') :
    c.target.text = c'.target.text ↔
      index = index' ∧ Host.endpoint? host = Host.endpoint? host' := by
  obtain ⟨-, m, hm, hc⟩ := open?_eq_ok_iff.mp h
  obtain ⟨-, m', hm', hc'⟩ := open?_eq_ok_iff.mp h'
  have hendpoint : Host.endpoint? host = Host.endpoint? host' ↔
      m.1 = m'.1 ∧ m.2.getD Scheme.http.usualPort = m'.2.getD Scheme.http.usualPort := by
    simp [Host.endpoint?, hm, hm', Except.toOption]
  rw [hendpoint, ← filter_usualPort_eq_iff]
  constructor
  · intro htext
    obtain rfl := index_eq_of_text_eq h h' htext
    have hchars := congrArg String.toList htext
    rw [hc, hc'] at hchars
    simp only [Url.text, String.toList_ofList, chars_targetAt] at hchars
    exact ⟨rfl, text_append_injective (proper_of_hostAndPort hm) (proper_of_hostAndPort hm')
      (List.append_cancel_left (List.append_cancel_right hchars))⟩
  · rintro ⟨rfl, hmachine, hport⟩
    rw [hc, hc']
    simp only [targetAt, hmachine, hport]

/-- Different hosts have different urls as they are given. -/
theorem urlText_injective (h : urlText host index = urlText host' index) : host = host' := by
  have hlist := congrArg String.toList h
  rw [toList_urlText, toList_urlText] at hlist
  exact String.toList_inj.mp (List.append_cancel_right (List.append_cancel_left hlist))

/-- The url of a channel as it is given tells the host and the index, whatever the host holds. -/
theorem urlText_eq_iff :
    urlText host index = urlText host' index' ↔ host = host' ∧ index = index' := by
  constructor
  · intro h
    have hlist := congrArg String.toList h
    simp only [toList_urlText, pathText, ← List.append_assoc, ← List.cons_append] at hlist
    obtain rfl := index_eq_of_append_eq hlist
    exact ⟨urlText_injective h, rfl⟩
  · rintro ⟨rfl, rfl⟩
    rfl

/-- When the urls of two channels coincide.  As they are given, they do for one and the same host and
index only.  In their one form, which is what they read as, those of different indices never do,
whatever the hosts are; so no operation on the one channel begins with a request to the url that an
operation on the other begins with. -/
theorem urls_coincide_iff {σ : Type} (device : Device σ) (h : open? host index = .ok c)
    (h' : open? host' index' = .ok c') :
    (c.url = c'.url ↔ host = host' ∧ index = index') ∧
      Url.parse c.url.toList = .ok c.target ∧ Url.parse c'.url.toList = .ok c'.target ∧
      (index ≠ index' → c.target.text ≠ c'.target.text ∧
        ∀ (op op' : Operation) (s s' : σ),
          ∀ request ∈ ((c.perform op).run device s).requests.head?,
          ∀ request' ∈ ((c'.perform op').run device s').requests.head?,
            request.url.text ≠ request'.url.text) := by
  obtain ⟨hurl, hparse⟩ := parse_url h
  obtain ⟨hurl', hparse'⟩ := parse_url h'
  refine ⟨?_, hparse, hparse', fun hindex => ?_⟩
  · rw [hurl, hurl']
    exact urlText_eq_iff
  · have htext : c.target.text ≠ c'.target.text := fun heq => hindex (index_eq_of_text_eq h h' heq)
    refine ⟨htext, fun op op' s s' request hrequest request' hrequest' => ?_⟩
    rw [url_of_head?_requests device hrequest, url_of_head?_requests device hrequest']
    exact htext

/-- A backslash with a dot behind it goes away, so that channels of two hosts have the same url in its
one form, though not as it is given.  If one of them has index 10 in place of 1, the requests go to
different urls, of which one is the beginning of the other. -/
theorem urls_coincide_iff_dot :
    ∃ c c₁ c₁₀, open? "h" 1 = .ok c ∧ open? "h\\." 1 = .ok c₁ ∧ open? "h\\." 10 = .ok c₁₀ ∧
      c.url ≠ c₁.url ∧ c.target.text = c₁.target.text ∧
      ∃ request ∈ ((c.perform .read).run silentDevice ()).requests.head?,
        ∃ request' ∈ ((c₁₀.perform .read).run silentDevice ()).requests.head?,
          request.url.text ≠ request'.url.text := by
  have hmachine : hostAndPort (Host.authority "h\\.") = .ok (.domain ['h'], none) :=
    Url.hostAndPort_of_plain (by decide) (by decide)
  have hdot : ∀ index, open? "h\\." index =
      .ok ⟨"h\\.", index, targetAt (.domain ['h'], none) [] index⟩ :=
    fun index => open?_of_authority (by decide) hmachine (by decide)
  obtain ⟨hgiven, -⟩ := urls_coincide_iff silentDevice (open?_name 1) (hdot 1)
  obtain ⟨-, -, -, hform⟩ := urls_coincide_iff silentDevice (open?_name 1) (hdot 10)
  refine ⟨_, _, _, open?_name 1, hdot 1, hdot 10, fun heq => ?_, rfl, _, rfl, _, rfl,
    (hform (by decide)).2 .read .read () () _ rfl _ rfl⟩
  exact absurd (hgiven.mp heq).1 (by decide)

end Channel

/-! ## what the form holds -/

namespace Chronicle

variable {σ : Type} (device : Device σ)

/-- The hosts of the entries that the form holds are configured, and no two of them are the same. -/
structure Listed (ch : Chronicle σ) : Prop where
  configured : ∀ e ∈ ch.held,
    e.uniqueId = e.data.host ∧ ch.house.enrolment.isConfigured e.data.host
  apart : ch.held.Pairwise fun e e' => e.data.host ≠ e'.data.host

variable {device}

/-- A submission keeps the hosts of the entries configured and apart. -/
theorem Listed.submit {ch : Chronicle σ} (h : Listed ch) (id : EntryId) (input : Option UserInput) :
    Listed (ch.proceed device (.submit id input)) := by
  have hheld := held_proceed device ch (.submit id input)
  have henrolment := enrolment_proceed device ch (.submit id input)
  dsimp only at hheld henrolment
  obtain ⟨host, hnew, hstep⟩ | ⟨hnone, hsame⟩ := Enrolment.step_cases ch.house.enrolment id input
  · rw [hstep] at hheld henrolment
    refine ⟨fun e he => ?_, ?_⟩
    · rw [henrolment, Enrolment.isConfigured_iff]
      rw [hheld] at he
      obtain rfl | he := List.mem_cons.mp he
      · exact ⟨rfl, List.mem_cons_self⟩
      · obtain ⟨hid, hconfigured⟩ := h.configured e he
        exact ⟨hid, List.mem_cons_of_mem _ (Enrolment.isConfigured_iff.mp hconfigured)⟩
    · rw [hheld]
      refine List.pairwise_cons.mpr ⟨fun e he heq => hnew ?_, h.apart⟩
      have heq : host = e.data.host := heq
      rw [heq]
      exact (h.configured e he).2
  · have hheld : (ch.proceed device (.submit id input)).held = ch.held := by
      rw [hheld]
      split
      · next e he => exact absurd he (hnone e)
      · rfl
    exact ⟨by rw [hheld, henrolment, hsame]; exact h.configured, by rw [hheld]; exact h.apart⟩

/-- A removal keeps the hosts of the other entries configured and apart. -/
theorem Listed.forget {ch : Chronicle σ} (h : Listed ch) (entry : Entry) :
    Listed (ch.proceed device (.forget entry)) := by
  refine ⟨fun e he => ?_, ?_⟩
  · rw [held_proceed] at he
    rw [enrolment_proceed, Enrolment.isConfigured_forget]
    obtain ⟨he, hne⟩ := List.mem_filter.mp he
    obtain ⟨hid, hconfigured⟩ := h.configured e he
    exact ⟨hid, hconfigured, by rw [← hid]; simpa using hne⟩
  · rw [held_proceed]
    exact h.apart.filter _

/-- Every command keeps the hosts of the entries configured and apart. -/
theorem listed_proceed {ch : Chronicle σ} (h : Listed ch) (c : Command) :
    Listed (ch.proceed device c) := by
  cases c with
  | submit id input => exact h.submit id input
  | forget entry => exact h.forget entry
  | _ =>
    refine ⟨?_, ?_⟩
    · rw [held_proceed, enrolment_proceed]
      exact h.configured
    · rw [held_proceed]
      exact h.apart

variable (device)

/-- After any commands the hosts of the entries are configured and apart. -/
theorem listed_ofCommands (s : σ) (commands : List Command) :
    Listed (ofCommands device s commands) :=
  ofCommands_invariant device (P := Listed) ⟨fun e he => (by cases he), .nil⟩
    (fun _ c h => listed_proceed h c) commands

/-- Any two entries that the form has made and not forgotten since, in any run, have different hosts.
If both can be set up, their lights send requests to the same url just if the hosts have the same
endpoint; so they never do if both hosts are written as the urls have them. -/
theorem endpoints_of_run (s : σ) (commands : List Command) :
    (ofCommands device s commands).held.Pairwise fun e e' =>
      e.data.host ≠ e'.data.host ∧
      ∀ r r' provided provided' f f', Registry.fittings? r provided e = .ok f →
          Registry.fittings? r' provided' e' = .ok f' →
        let light := f.light.channel
        let light' := f'.light.channel
        (light.target.text = light'.target.text ↔
          Host.endpoint? e.data.host = Host.endpoint? e'.data.host) ∧
        (light.url = light.target.text → light'.url = light'.target.text →
          light.target.text ≠ light'.target.text) := by
  refine (listed_ofCommands device s commands).apart.imp fun {e e'} hhosts =>
    ⟨hhosts, fun r r' provided provided' f f' hf hf' => ?_⟩
  obtain ⟨-, -, light, _, hlight, -, rfl⟩ := Registry.fittings?_eq_ok_iff.mp hf
  obtain ⟨-, -, light', _, hlight', -, rfl⟩ := Registry.fittings?_eq_ok_iff.mp hf'
  have hiff := Channel.text_target_eq_iff hlight hlight'
  refine ⟨hiff.trans (and_iff_right rfl), fun hown hown' heq => hhosts ?_⟩
  have hurl : light.url = light'.url := hown.trans (heq.trans hown'.symm)
  rw [(Channel.parse_url hlight).1, (Channel.parse_url hlight').1] at hurl
  exact Channel.urlText_injective hurl

/-- What a plain name gives that is an authority by itself. -/
theorem exists_fittings_of_plain {r : Registry} (entry : Entry) (hfree : r.find? entry.id = none)
    (h : Domain.isPlain entry.data.host.toList)
    (hauthority : Host.authority entry.data.host = entry.data.host.toList)
    (hne : entry.data.host.toList ≠ []) {m : Url.Host}
    (hm : Url.Host.ofAscii (entry.data.host.toList.map Char.toLower) = .ok m) :
    ∃ f, r.fittings? (.ok ()) entry = .ok f ∧ f.light.channel.target = Channel.targetAt (m, none) [] 0 ∧
      Host.endpoint? entry.data.host = some (m, 80) := by
  have hmachine : hostAndPort (Host.authority entry.data.host) = .ok (m, none) := by
    rw [hauthority, hostAndPort_of_plain h hne, hm]
    rfl
  obtain ⟨f, hf⟩ := Registry.exists_fittings?_iff.mpr
    ⟨hfree, rfl, Host.hasChannels_of_plain h hne hm⟩
  obtain ⟨-, -, light, _, hlight, -, rfl⟩ := Registry.fittings?_eq_ok_iff.mp hf
  obtain ⟨-, m', hm', rfl⟩ := Channel.open?_eq_ok_iff.mp hlight
  rw [hmachine] at hm'
  cases hm'
  refine ⟨_, hf, rfl, ?_⟩
  rw [Host.endpoint?, hmachine]
  rfl

/-- The commands that have the form make entries of two hosts. -/
def submitBoth (x y : String) : List Command := [.submit ⟨0⟩ (some ⟨x⟩), .submit ⟨1⟩ (some ⟨y⟩)]

/-- Two names are two endpoints, and two urls. -/
theorem endpoints_of_run_two_names :
    let ch := ofCommands muteDevice () (submitBoth "h" "g")
    ∃ e ∈ ch.held, ∃ e' ∈ ch.held, ∃ f f', ch.house.registry.fittings? (.ok ()) e = .ok f ∧
      ch.house.registry.fittings? (.ok ()) e' = .ok f' ∧
      f.light.channel.target.text ≠ f'.light.channel.target.text := by
  intro ch
  have hheld : ch.held = [Enrolment.newEntry ⟨1⟩ "g", Enrolment.newEntry ⟨0⟩ "h"] := rfl
  obtain ⟨f, hf, -, hg⟩ := exists_fittings_of_plain (Enrolment.newEntry ⟨1⟩ "g")
    (m := .domain ['g']) (rfl : ch.house.registry.find? ⟨1⟩ = none) (by decide) (by decide)
    (by decide) (by decide)
  obtain ⟨f', hf', -, hh⟩ := exists_fittings_of_plain (Enrolment.newEntry ⟨0⟩ "h")
    (m := .domain ['h']) (rfl : ch.house.registry.find? ⟨0⟩ = none) (by decide) (by decide)
    (by decide) (by decide)
  have hpairwise := endpoints_of_run muteDevice () (submitBoth "h" "g")
  obtain ⟨-, hurls⟩ := List.rel_of_pairwise_cons (hheld ▸ hpairwise) (List.mem_singleton_self _)
  refine ⟨_, by rw [hheld]; simp, _, by rw [hheld]; simp, f, f', hf, hf', fun htext => ?_⟩
  have hsame := (hurls _ _ _ _ f f' hf hf').1.mp htext
  rw [hg, hh] at hsame
  cases hsame

end Chronicle

/-- One name in small letters and in a capital one: two entries, and one url. -/
theorem endpoints_coincide :
    let ch := Chronicle.ofCommands muteDevice () (Chronicle.submitBoth "h" "H")
    ∃ e ∈ ch.held, ∃ e' ∈ ch.held, e.data.host ≠ e'.data.host ∧
      ∃ f f', ch.house.registry.fittings? (.ok ()) e = .ok f ∧
        ch.house.registry.fittings? (.ok ()) e' = .ok f' ∧
        f.light.channel.target.text = "http://h/power/0" ∧
        f'.light.channel.target.text = "http://h/power/0" := by
  intro ch
  have hheld : ch.held = [Enrolment.newEntry ⟨1⟩ "H", Enrolment.newEntry ⟨0⟩ "h"] := rfl
  have htext : (Channel.targetAt (.domain ['h'], none) [] 0).text = "http://h/power/0" := by decide
  obtain ⟨f, hf, hlight, -⟩ := Chronicle.exists_fittings_of_plain (Enrolment.newEntry ⟨0⟩ "h")
    (m := .domain ['h']) (rfl : ch.house.registry.find? ⟨0⟩ = none) (by decide) (by decide)
    (by decide) (by decide)
  obtain ⟨f', hf', hlight', -⟩ := Chronicle.exists_fittings_of_plain (Enrolment.newEntry ⟨1⟩ "H")
    (m := .domain ['h']) (rfl : ch.house.registry.find? ⟨1⟩ = none) (by decide) (by decide)
    (by decide) (by decide)
  refine ⟨_, by rw [hheld]; simp, _, by rw [hheld]; simp, ?_, f, f', hf, hf', ?_, ?_⟩
  · decide
  · rw [hlight, htext]
  · rw [hlight', htext]

end Greenhouse
