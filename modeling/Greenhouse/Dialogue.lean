import Greenhouse.Exchange.Message
import Greenhouse.Note

/-!
# Greenhouse.Dialogue

Work that talks to devices, as a value.

A dialogue is what an operation is going to do: note something, ask a device and go on with its
reply, or be done.  It says nothing about how requests travel, so that one and the same dialogue can
be held with a network, and with a device given as a function (`Dialogue.run`).

* `run_bind` — the second of two dialogues starts where the first has left the device, and their
  requests and notes follow each other.
* `abreast` — two dialogues side by side; once one is over, the other goes on alone
  (`abreast_done`).
-/

namespace Greenhouse

/-- Work that talks to devices. -/
inductive Dialogue (α : Type) where
  | done (value : α)
  | note (note : Note) (rest : Dialogue α)
  | ask (request : Request) (next : Reply → Dialogue α)

namespace Dialogue

/-- Goes on with another dialogue once this one is done. -/
def bind (f : α → Dialogue β) : Dialogue α → Dialogue β
  | done a => f a
  | note n rest => note n (rest.bind f)
  | ask request next => ask request fun reply => (next reply).bind f

instance : Monad Dialogue where
  pure := done
  bind d f := d.bind f

/-- Notes something. -/
def tell (n : Note) : Dialogue Unit := note n (done ())

/-- Notes several things. -/
def tellAll : List Note → Dialogue Unit
  | [] => done ()
  | n :: ns => note n (tellAll ns)

/-- A dialogue together with what it notes on the way. -/
def listen : Dialogue α → Dialogue (α × List Note)
  | done a => done (a, [])
  | note n rest => note n do
    let (a, ns) ← rest.listen
    return (a, n :: ns)
  | ask request next => ask request fun reply => (next reply).listen

/-- The result of a dialogue that has nothing to ask. -/
def value? : Dialogue α → Option α
  | done a => some a
  | note _ rest => rest.value?
  | ask .. => none

/-- Whether a dialogue has anything to ask before it is done. -/
def asks (d : Dialogue α) : Bool := d.value?.isNone

/-! ## two dialogues side by side -/

/-- Asks something while another dialogue is held beside it: that one asks its next question before
either goes on, which `next` does. -/
def askBeside (request : Request) (next : Reply → Dialogue β → Dialogue γ) : Dialogue β → Dialogue γ
  | done b => ask request fun reply => next reply (done b)
  | note n rest => note n (rest.askBeside request next)
  | ask request' next' =>
    ask request fun reply => ask request' fun reply' => next reply (next' reply')

/-- Holds two dialogues side by side.  They take turns in asking, the first one first, and replies
come in the order of the questions. -/
def abreast : Dialogue α → Dialogue β → Dialogue (α × β)
  | done a => fun e => e.bind fun b => done (a, b)
  | note n rest => fun e => note n (rest.abreast e)
  | ask request next => askBeside request fun reply => (next reply).abreast

/-- Beside a dialogue that is over, the other one goes on as it would alone. -/
theorem abreast_done (d : Dialogue α) (b : β) :
    d.abreast (done b) = d.bind fun a => done (a, b) := by
  induction d with
  | done a => rfl
  | note n rest ih => simp only [abreast, bind, ih]
  | ask request next ih => simp only [abreast, askBeside, bind, ih]

/-! ## holding a dialogue with a device -/

/-- How a dialogue went: its result, what was asked and noted on the way, and the state in which it
left the device. -/
structure Transcript (σ α : Type) where
  value : α
  requests : List Request
  notes : List Note
  state : σ

/-- Holds a dialogue with a device. -/
def run (device : Device σ) : Dialogue α → σ → Transcript σ α
  | done a, s => ⟨a, [], [], s⟩
  | note n rest, s =>
    let t := rest.run device s
    { t with notes := n :: t.notes }
  | ask request next, s =>
    let t := (next (device request s).1).run device (device request s).2
    { t with requests := request :: t.requests }

variable {σ α β : Type} {device : Device σ} {s : σ}

/-- A dialogue that is over asks for nothing and notes nothing. -/
@[simp] theorem run_done (a : α) : (done a).run device s = ⟨a, [], [], s⟩ := rfl

/-- A dialogue that only gives a result asks for nothing and notes nothing. -/
@[simp] theorem run_pure (a : α) : (pure a : Dialogue α).run device s = ⟨a, [], [], s⟩ := rfl

/-- A note is all that telling it leaves. -/
@[simp] theorem run_tell (n : Note) : (tell n).run device s = ⟨(), [], [n], s⟩ := rfl

/-- Several things are noted in their order. -/
@[simp] theorem run_tellAll (ns : List Note) : (tellAll ns).run device s = ⟨(), [], ns, s⟩ := by
  induction ns with
  | nil => rfl
  | cons n ns ih => simp only [tellAll, run, ih]

/-- A dialogue that follows another one starts where that one has left the device. -/
theorem run_bind (d : Dialogue α) (f : α → Dialogue β) (s : σ) :
    (d >>= f).run device s =
      let t := d.run device s
      let u := (f t.value).run device t.state
      ⟨u.value, t.requests ++ u.requests, t.notes ++ u.notes, u.state⟩ := by
  show (d.bind f).run device s = _
  induction d generalizing s with
  | done a => simp [bind]
  | note n rest ih => simp [bind, run, ih]
  | ask request next ih => simp [bind, run, ih]

/-- Listening to a dialogue gives what it notes, and changes nothing. -/
@[simp] theorem run_listen (d : Dialogue α) (s : σ) :
    d.listen.run device s =
      let t := d.run device s
      ⟨(t.value, t.notes), t.requests, t.notes, t.state⟩ := by
  induction d generalizing s with
  | done a => rfl
  | note n rest ih => simp [listen, run, run_bind, ih]
  | ask request next ih => simp only [listen, run, ih]

end Dialogue

end Greenhouse
