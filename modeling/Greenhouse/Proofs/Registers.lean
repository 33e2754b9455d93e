import Greenhouse.Proofs.Statuses

/-!
# Greenhouse.Proofs.Registers

Channels of a device that keeps one integer for each address.

Such a device stores what is set, brought within its bound if it has one, and reports what it has
stored, with white space around it (`Keeps`).  Seen through channels it is a bank of registers, one
for each url in its one form: `store` is what an operation does to the registers, and `answers` is
what operations one after the other are answered with.

* `perform_of_keeps` — an operation does to the registers what `store` does, and gives what they hold.
* `run_performAll` — so do operations one after the other.
* `levels_of_operations` — every operation gives the level last set at its url, and indices are kept
  apart.
-/

namespace Greenhouse

open Greenhouse.Text Greenhouse.Exchange

/-! ## devices that keep integers -/

/-- A bounded level is not too low for a power. -/
theorem Power.lower_within (p : Power) (bound : Nat) :
    -0x8000000000000000 ≤ max 0 (min p.toInt bound) := by
  omega

/-- A bounded level is not too high for a power. -/
theorem Power.upper_within (p : Power) (bound : Nat) :
    max 0 (min p.toInt bound) < 0x8000000000000000 := by
  have hupper := p.upper
  omega

/-- A level brought into 0 up to a bound, if there is a bound. -/
def Power.within (bound : Option Nat) (p : Power) : Power :=
  match bound with
  | none => p
  | some n => ⟨max 0 (min p.toInt n), p.lower_within n, p.upper_within n⟩

/-- A device that keeps one integer for each address, of which `level` tells.  Its replies have status
200 and report the integer that they leave behind. -/
structure Keeps {σ : Type} (device : Device σ) (bound : Option Nat)
    (level : σ → String → Int) : Prop where
  reports : ∀ request s, ∃ response front back, (device request s).1 = .answer response ∧
    response.status = 200 ∧ response.complete ∧ (∀ c ∈ front, isBlank c) ∧
    (∀ c ∈ back, isBlank c) ∧ response.body =
      Utf8.encode (front ++ Decimal.ofInt (level (device request s).2 request.url.text) ++ back)
  gets : ∀ request s, request.method = .get → level (device request s).2 = level s
  puts : ∀ request s, ∀ v : Power, request.method = .put →
    Decimal.int? request.body.toList = some v.toInt →
    level (device request s).2 =
      Function.update (level s) request.url.text (v.within bound).toInt

namespace Channel

open Dialogue

/-! ## registers -/

/-- What an operation does to the registers. -/
def store (bound : Option Nat) (registers : String → Power) : Channel × Operation → String → Power
  | (c, .write v) => Function.update registers c.target.text (v.within bound)
  | (_, .read) => registers

/-- What operations are answered with, one after the other: what their registers hold then. -/
def answers (bound : Option Nat) : (String → Power) → List (Channel × Operation) → List Power
  | _, [] => []
  | registers, x :: xs =>
    store bound registers x x.1.target.text :: answers bound (store bound registers x) xs

/-- Carries out operations of channels, one after the other. -/
def performAll : List (Channel × Operation) → Dialogue (List (Except Error Power))
  | [] => .done []
  | (c, op) :: xs => do
    let result ← c.perform op
    let results ← performAll xs
    return result :: results

/-- The level that an operation sets at a url, if it does. -/
def setAt? (url : String) : Channel × Operation → Option Power
  | (c, .write v) => if c.target.text = url then some v else none
  | (_, .read) => none

/-- The level that some operations have last set at a url, within the bound of the device; 0 if none
has set any. -/
def lastSet (bound : Option Nat) (url : String) (xs : List (Channel × Operation)) : Power :=
  ((xs.reverse.findSome? (setAt? url)).map (Power.within bound)).getD .off

variable {bound : Option Nat} {registers : String → Power}

/-- Every operation is answered. -/
theorem length_answers (xs : List (Channel × Operation)) :
    (answers bound registers xs).length = xs.length := by
  induction xs generalizing registers with
  | nil => rfl
  | cons x xs ih => rw [answers, List.length_cons, ih, List.length_cons]

/-- Operations are answered one after the other, on the registers that the former ones left. -/
theorem answers_append (xs ys : List (Channel × Operation)) :
    answers bound registers (xs ++ ys) =
      answers bound registers xs ++ answers bound (xs.foldl (store bound) registers) ys := by
  induction xs generalizing registers with
  | nil => rfl
  | cons x xs ih => rw [List.cons_append, answers, ih, answers]; rfl

/-- A register holds what is set there, within the bound, and else what it held. -/
theorem store_apply (registers : String → Power) (x : Channel × Operation) (url : String) :
    store bound registers x url = ((setAt? url x).map (Power.within bound)).getD (registers url) := by
  obtain ⟨c, op⟩ := x
  cases op with
  | read => rfl
  | write v =>
    by_cases h : c.target.text = url
    · subst h
      simp [store, setAt?]
    · simp [store, setAt?, h, Function.update_of_ne (Ne.symm h)]

/-- The registers hold what was last set. -/
theorem foldl_store (xs : List (Channel × Operation)) (url : String) :
    xs.foldl (store bound) (fun _ => .off) url = lastSet bound url xs := by
  induction xs using List.reverseRecOn with
  | nil => rfl
  | append_singleton xs x ih =>
    rw [List.foldl_concat, store_apply, ih, lastSet, lastSet, List.reverse_concat,
      List.findSome?_cons]
    cases setAt? url x <;> rfl

/-! ## one operation -/

variable {σ : Type} {device : Device σ} {level : σ → String → Int}

theorem toList_text (v : Power) : v.text.toList = Decimal.ofInt v.toInt := String.toList_ofList

/-- The body of a level that is set reads as that level. -/
theorem int?_text (v : Power) : Decimal.int? v.text.toList = some v.toInt := by
  rw [toList_text, Decimal.int?_ofInt]

/-- A device that keeps integers gives a reply that leads nowhere. -/
theorem onward?_of_keeps (hdevice : Keeps device bound level) (request : Request) (s : σ) :
    onward? request (device request s).1 = none := by
  obtain ⟨response, _, _, hreply, hstatus, -⟩ := hdevice.reports request s
  have hcourse : course request response = .final := by
    rw [course, hstatus]
    rfl
  rw [hreply, onward?, hcourse]

/-- What an operation does to the integers of a device. -/
theorem level_of_request (hdevice : Keeps device bound level) {s : σ}
    (hs : ∀ url, level s url = (registers url).toInt) (c : Channel) (op : Operation) (url : String) :
    level (device (c.request op) s).2 url = (store bound registers (c, op) url).toInt := by
  cases op with
  | read =>
    rw [hdevice.gets (c.request .read) s rfl, hs]
    rfl
  | write v =>
    rw [hdevice.puts (c.request (.write v)) s v rfl (int?_text v), store, url_request]
    by_cases h : url = c.target.text
    · subst h
      simp
    · simp [Function.update_of_ne h, hs]

/-- An operation gives what its register then holds, and does to the device what it does to the
registers. -/
theorem perform_of_keeps (hdevice : Keeps device bound level) {s : σ}
    (hs : ∀ url, level s url = (registers url).toInt) {c : Channel} (hc : c.target.isAddressable)
    (op : Operation) :
    ((c.perform op).run device s).value = .ok (store bound registers (c, op) c.target.text) ∧
      ∀ url, level ((c.perform op).run device s).state url =
        (store bound registers (c, op) url).toInt := by
  -- the reply leads nowhere, so it is the only one
  have hone := exchanges_of_onward?_eq_none device hc (onward?_of_keeps hdevice (c.request op) s)
  obtain ⟨response, front, back, hreply, hstatus, hcomplete, hfront, hback, hbody⟩ :=
    hdevice.reports (c.request op) s
  have hcourse : course (c.request op) response = .final := by
    rw [course, hstatus]
    rfl
  have hfails : ¬ Fails (c.request op) response := by
    simp [Fails, hcourse, hstatus, hcomplete]
  have hlast : ((c.perform op).exchanges device s).getLast? =
      some (c.request op, .answer response) := by
    rw [hone, hreply]
    rfl
  have hvalue := (value_of_last device hlast).2 hfails
  rw [url_request, level_of_request hdevice hs] at hbody
  have hread := Power.read?_text_padded (store bound registers (c, op) c.target.text) hfront hback
  rw [toList_text] at hread
  constructor
  · rw [hvalue, readLevel, hbody, Utf8.decodeLossy_encode, hread]
  · intro url
    rw [state_run, hone]
    exact level_of_request hdevice hs c op url

/-! ## operations one after the other -/

/-- A device that keeps its registers answers all operations as the registers do. -/
theorem run_performAll (hdevice : Keeps device bound level) {s : σ}
    (hs : ∀ url, level s url = (registers url).toInt) {xs : List (Channel × Operation)}
    (hxs : ∀ x ∈ xs, x.1.target.isAddressable) :
    ((performAll xs).run device s).value = (answers bound registers xs).map .ok ∧
      ∀ url, level ((performAll xs).run device s).state url =
        (xs.foldl (store bound) registers url).toInt := by
  induction xs generalizing s registers with
  | nil => exact ⟨rfl, hs⟩
  | cons x xs ih =>
    obtain ⟨c, op⟩ := x
    obtain ⟨hvalue, hlevel⟩ := perform_of_keeps hdevice hs (hxs (c, op) (by simp)) op
    obtain ⟨hvalues, hlevels⟩ := ih hlevel fun x hx => hxs x (by simp [hx])
    have hrun : (performAll ((c, op) :: xs)).run device s =
        let t := (c.perform op).run device s
        let u := (performAll xs).run device t.state
        ⟨t.value :: u.value, t.requests ++ u.requests, t.notes ++ u.notes, u.state⟩ := by
      simp [performAll, run_bind]
    rw [hrun]
    exact ⟨by simp only [hvalue, hvalues, answers, List.map_cons], hlevels⟩

/-! ## indices -/

/-- What ends with a slash and the digits of an index gives away the index. -/
theorem index_eq_of_append_eq {front front' : List Char} {index index' : UInt32}
    (h : front ++ '/' :: Decimal.ofNat index.toNat = front' ++ '/' :: Decimal.ofNat index'.toNat) :
    index = index' := by
  -- no digit is a slash, so the digits are the last segment
  have hlast : ∀ (front : List Char) (index : UInt32),
      (pieces (· == '/') (front ++ '/' :: Decimal.ofNat index.toNat)).getLast? =
        some (Decimal.ofNat index.toNat) := by
    intro front index
    have hdigits : ∀ c ∈ Decimal.ofNat index.toNat, (c == '/') = false :=
      fun c hc => beq_false_of_ne (Decimal.ne_of_mem_ofNat hc rfl)
    rw [pieces_append_sep (by decide), pieces_of_forall_not hdigits, List.getLast?_append]
    rfl
  have hsame := hlast front index
  rw [h, hlast, Option.some.injEq] at hsame
  exact UInt32.toNat_inj.mp (Decimal.ofNat_injective hsame).symm

/-- The url of a channel in its one form ends with a slash and the index. -/
theorem exists_toList_text_eq_append {host : String} {index : UInt32} {c : Channel}
    (h : open? host index = .ok c) :
    ∃ front, c.target.text.toList = front ++ '/' :: Decimal.ofNat index.toNat := by
  obtain ⟨-, m, -, rfl⟩ := open?_eq_ok_iff.mp h
  refine ⟨(targetAt m [] index).scheme.name ++ [':', '/', '/'] ++
    (targetAt m [] index).authorityText ++ "/power".toList, ?_⟩
  simp [Url.text, Url.chars, Url.credentialsText, targetAt, path, Url.Path.text, Text.join]

/-- A channel has the index that was asked for. -/
theorem index_of_open {host : String} {index : UInt32} {c : Channel}
    (h : open? host index = .ok c) : c.index = index := by
  obtain ⟨-, m, -, rfl⟩ := open?_eq_ok_iff.mp h
  rfl

/-- Channels with the same url have the same index. -/
theorem index_eq_of_text_eq {host host' : String} {index index' : UInt32} {c c' : Channel}
    (h : open? host index = .ok c) (h' : open? host' index' = .ok c')
    (htext : c.target.text = c'.target.text) : index = index' := by
  obtain ⟨front, hfront⟩ := exists_toList_text_eq_append h
  obtain ⟨front', hfront'⟩ := exists_toList_text_eq_append h'
  rw [htext, hfront'] at hfront
  exact (index_eq_of_append_eq hfront).symm

/-- Operations whose urls lie apart from those of all others are answered as if there were no
others. -/
theorem answers_filter {p : Channel × Operation → Bool} {registers' : String → Power}
    {xs : List (Channel × Operation)}
    (hapart : ∀ x ∈ xs, ∀ y ∈ xs, p x → p y = false → x.1.target.text ≠ y.1.target.text)
    (hagree : ∀ x ∈ xs, p x → registers x.1.target.text = registers' x.1.target.text) :
    ((xs.zip (answers bound registers xs)).filter (p ·.1)).map Prod.snd =
      answers bound registers' (xs.filter p) := by
  induction xs generalizing registers registers' with
  | nil => rfl
  | cons x xs ih =>
    have hapart' : ∀ y ∈ xs, ∀ z ∈ xs, p y → p z = false → y.1.target.text ≠ z.1.target.text :=
      fun y hy z hz => hapart y (by simp [hy]) z (by simp [hz])
    rw [answers, List.zip_cons_cons]
    cases hx : p x with
    | true =>
      have hself := hagree x (by simp) hx
      have hnext : ∀ y ∈ xs, p y → store bound registers x y.1.target.text =
          store bound registers' x y.1.target.text := by
        intro y hy hpy
        rw [store_apply, store_apply, hagree y (by simp [hy]) hpy]
      rw [List.filter_cons_of_pos (by exact hx), List.map_cons, ih hapart' hnext,
        List.filter_cons_of_pos hx, answers, store_apply, store_apply, hself]
    | false =>
      have hnext : ∀ y ∈ xs, p y → store bound registers x y.1.target.text =
          registers' y.1.target.text := by
        intro y hy hpy
        have hne := hapart y (by simp [hy]) x (by simp) hpy hx
        rw [store_apply, ← hagree y (by simp [hy]) hpy]
        obtain ⟨c, op⟩ := x
        cases op with
        | read => rfl
        | write v => rw [setAt?, if_neg (Ne.symm hne)]; rfl
      rw [List.filter_cons_of_neg (by simp [hx]), ih hapart' hnext,
        List.filter_cons_of_neg (by simp [hx])]

/-- What an operation is answered with, by what was done before it. -/
theorem getElem?_answers (before : List (Channel × Operation)) (c : Channel) (op : Operation)
    (rest : List (Channel × Operation)) :
    (answers bound (fun _ => .off) (before ++ (c, op) :: rest))[before.length]? =
      some (match op with
        | .write v => v.within bound
        | .read => lastSet bound c.target.text before) := by
  have hlength : (answers bound (fun _ => .off) before).length ≤ before.length :=
    (length_answers before).le
  rw [answers_append, List.getElem?_append_right hlength, length_answers, Nat.sub_self, answers,
    List.getElem?_cons_zero, Option.some.injEq]
  cases op with
  | read => exact foldl_store before _
  | write v => exact Function.update_self ..

/-- Operations of any channels that requests can be made on, one after the other, with a device that
keeps one integer for each address, 0 at first.  Setting a level gives it as it is stored; reading
gives the level last set on a channel with the same url in its one form, or 0 if none was; and that is
what the device then holds.  Channels of different indices never have the same url, and the operations
on the channels of one index are answered as if there were no others. -/
theorem levels_of_operations (hdevice : Keeps device bound level) {s : σ}
    (hs : ∀ url, level s url = 0) (xs : List (Channel × Operation))
    (hxs : ∀ x ∈ xs, (∃ host index, open? host index = .ok x.1) ∧ x.1.target.isAddressable) :
    let t := (performAll xs).run device s
    t.value.length = xs.length ∧
    (∀ before c op rest, xs = before ++ (c, op) :: rest →
      t.value[before.length]? = some (.ok (match op with
        | .write v => v.within bound
        | .read => lastSet bound c.target.text before))) ∧
    (∀ url, level t.state url = (lastSet bound url xs).toInt) ∧
    (∀ x ∈ xs, ∀ y ∈ xs, x.1.index ≠ y.1.index → x.1.target.text ≠ y.1.target.text) ∧
    ∀ index, ((xs.zip t.value).filter (·.1.1.index = index)).map Prod.snd =
      ((performAll (xs.filter (·.1.index = index))).run device s).value := by
  intro t
  have hoff : ∀ url, level s url = ((fun _ => Power.off : String → Power) url).toInt := hs
  obtain ⟨hvalue, hlevel⟩ := run_performAll hdevice hoff fun x hx => (hxs x hx).2
  have hapart : ∀ x ∈ xs, ∀ y ∈ xs, x.1.index ≠ y.1.index →
      x.1.target.text ≠ y.1.target.text := by
    intro x hx y hy hne htext
    obtain ⟨⟨host, index, hopen⟩, -⟩ := hxs x hx
    obtain ⟨⟨host', index', hopen'⟩, -⟩ := hxs y hy
    refine hne ?_
    rw [index_of_open hopen, index_of_open hopen']
    exact index_eq_of_text_eq hopen hopen' htext
  refine ⟨?_, fun before c op rest hsplit => ?_, fun url => ?_, hapart, fun index => ?_⟩
  · rw [hvalue, List.length_map, length_answers]
  · rw [hvalue, hsplit, List.getElem?_map, getElem?_answers]
    rfl
  · rw [hlevel, foldl_store]
  · have hsome : ∀ x ∈ xs.filter (·.1.index = index), x.1.target.isAddressable :=
      fun x hx => (hxs x (List.mem_of_mem_filter hx)).2
    have hother : ∀ x ∈ xs, ∀ y ∈ xs, decide (x.1.index = index) →
        decide (y.1.index = index) = false → x.1.target.text ≠ y.1.target.text := by
      intro x hx y hy hpx hpy
      exact hapart x hx y hy fun heq => of_decide_eq_false hpy (heq ▸ of_decide_eq_true hpx)
    have hfilter : ((xs.zip (answers bound (fun _ => .off) xs)).filter (·.1.1.index = index)).map
        Prod.snd = answers bound (fun _ => .off) (xs.filter (·.1.index = index)) :=
      answers_filter hother fun _ _ _ => rfl
    rw [hvalue, (run_performAll hdevice hoff hsome).1, ← hfilter, List.zip_map_right,
      List.filter_map, List.map_map, List.map_map]
    rfl

/-- A device that puts a space in front of what it reports, and a line break behind. -/
def paddedDevice (bound : Option Nat) : Device (String → Int) := fun request levels =>
  let levels := match request.method, (Decimal.int? request.body.toList).bind Power.ofInt? with
    | .put, some v => Function.update levels request.url.text (v.within bound).toInt
    | _, _ => levels
  (.answer ⟨200, "OK", none,
    Utf8.encode ([' '] ++ Decimal.ofInt (levels request.url.text) ++ ['\r', '\n']), true⟩, levels)

/-- A device that pads its replies keeps its registers. -/
theorem keeps_paddedDevice (bound : Option Nat) : Keeps (paddedDevice bound) bound id where
  reports request s := ⟨_, [' '], ['\r', '\n'], rfl, rfl, rfl, List.all_eq_true.mp rfl,
    List.all_eq_true.mp rfl, rfl⟩
  gets request s h := by simp [paddedDevice, h]
  puts request s v h hv := by simp [paddedDevice, h, hv]

/-- A device that knows levels up to 255, with two channels: what is set on one is within the bound,
and it stays when the other is set. -/
theorem levels_of_operations_two_channels :
    ∃ light pump, open? "h" 0 = .ok light ∧ open? "h" 1 = .ok pump ∧
      ((performAll [(light, .write ⟨300, by decide, by decide⟩),
          (pump, .write ⟨7, by decide, by decide⟩), (light, .read)]).run
        (paddedDevice (some 255)) fun _ => 0).value[2]? = some (.ok .full) := by
  have hlight := open?_name 0
  have hpump := open?_name 1
  refine ⟨_, _, hlight, hpump, ?_⟩
  obtain ⟨-, hvalue, -⟩ := levels_of_operations (s := fun _ => 0) (keeps_paddedDevice (some 255))
    (fun _ => rfl) [(_, .write ⟨300, by decide, by decide⟩),
      (_, .write ⟨7, by decide, by decide⟩), (_, .read)]
    (List.forall_mem_cons.mpr ⟨⟨⟨_, _, hlight⟩, by decide⟩,
      List.forall_mem_cons.mpr ⟨⟨⟨_, _, hpump⟩, by decide⟩,
        List.forall_mem_singleton.mpr ⟨⟨_, _, hlight⟩, by decide⟩⟩⟩)
  exact (hvalue [_, _] _ .read [] rfl).trans rfl

end Channel

end Greenhouse
