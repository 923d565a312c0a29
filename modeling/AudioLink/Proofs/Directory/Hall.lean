/-
**The hall.**

Clients come in at any time, each with a message for a device; workers take turns, alarms go off, and
a reaper goes round now and then, retiring the workers whose link is idle.  All of them do one
operation at a time, in whatever order it happens: the hall is the directory together with everyone
who is at work on it.

A message does not say who sent it, and two clients may send the same.  Therefore the hall keeps
books that nobody at work looks at: clients are numbered in the order in which they came, and beside
each inbox stand the numbers of the clients whose messages are in it.  A number is written down when
a message is put into an inbox, struck out when the message is handled, and passed to the reaper
when the message is handed back to it.

Main definitions:

* `AudioLink.Client`, `AudioLink.Hall`, `AudioLink.Move` — a client, the hall, and what may happen
  in it;
* `AudioLink.Hall.step`, `AudioLink.Hall.run` — one thing happens, or many in turn;
* `AudioLink.Hall.waitingFor`, `AudioLink.Hall.line` — the clients whose messages wait for a worker,
  and all whose messages were put into an inbox, the foremost first;
* `AudioLink.Hall.Wants`, `AudioLink.Hall.Bears` — what a client has to say to whom, and that a
  message in the hands of a worker is that of a client;
* `AudioLink.Hall.AtRest` — nothing is under way.
-/

import AudioLink.Directory.Clients
import AudioLink.Directory.Clock
import AudioLink.Proofs.Directory.Keeping

set_option relaxedAutoImplicit false
set_option autoImplicit false

namespace AudioLink

/-- A client: which message it has for which device, and what it has still to do about it. -/
structure Client (σ ρ τ : Type) where
  peer : Address
  message : Message ρ
  plan : Plan σ ρ τ (Except Fault Unit)

/-- The directory and everyone who is at work on it. -/
structure Hall (σ ρ τ : Type) where
  directory : Directory σ ρ τ
  /-- The clients so far, in the order in which they came. -/
  clients : List (Client σ ρ τ)
  /-- What the reaper has still to do. -/
  reaper : Plan σ ρ τ Nat
  /-- The clients that have put their message into an inbox. -/
  handed : List Nat
  /-- The messages in the inboxes: the worker and the client, the oldest first. -/
  waiting : List (Nat × Nat)
  /-- The messages that were handed back to the reaper, by their clients. -/
  held : List Nat
  /-- The messages that were handled, in order: the worker and the client. -/
  served : List (Nat × Nat)

/-- What may happen in the hall.  The surroundings may be different every time. -/
inductive Move (ρ : Type) where
  /-- A client comes in with a message. -/
  | arrive (peer : Address) (message : Message ρ)
  /-- A client does its next operation. -/
  | proceed (client : Nat)
  /-- The reaper sets out, unless it is on its round. -/
  | reap
  /-- The reaper does its next operation. -/
  | goOn
  | turn (surroundings : Surroundings) (worker : Nat)
  | wake (surroundings : Surroundings) (worker : Nat)
  | pass (duration : Duration)

namespace Plan

variable {σ ρ τ α : Type}

/-- The worker into whose inbox the next operation puts a message. -/
def puts? (d : Directory σ ρ τ) : Plan σ ρ τ α → Option Nat
  | send worker (.message m) _ =>
      if (d.offer worker (.message m)).1 = .taken then some worker else none
  | _ => none

end Plan

namespace Hall

variable {σ ρ τ : Type}

/-- Nobody has come in yet. -/
def start (room : Nat) (newSession : Nat → σ) : Hall σ ρ τ :=
  ⟨.start room newSession, [], .finished 0, [], [], [], []⟩

/-- The clients that are written down for a worker. -/
def ofWorker (i : Nat) (book : List (Nat × Nat)) : List Nat :=
  (book.filter (·.1 == i)).map (·.2)

/-- The clients whose messages wait for a worker. -/
def waitingFor (h : Hall σ ρ τ) (i : Nat) : List Nat := ofWorker i h.waiting

/-- All clients whose messages were put into an inbox: those whose messages were handled, those
whose messages wait, and those whose messages the reaper holds. -/
def line (h : Hall σ ρ τ) : List Nat :=
  h.served.map (·.2) ++ h.waiting.map (·.2) ++ h.held

/-- A client has a message for a device. -/
def Wants (h : Hall σ ρ τ) (k : Nat) (letter : Address × Message ρ) : Prop :=
  ∃ client, h.clients[k]? = some client ∧ (client.peer, client.message) = letter

/-- A message is that of a client, and the worker is one of the device it is for. -/
def Bears (h : Hall σ ρ τ) (i k : Nat) (message : Message ρ) : Prop :=
  ∃ peer, h.Wants k (peer, message) ∧ h.directory.Knows peer i

/-- What a client was told at last. -/
def result? (h : Hall σ ρ τ) (k : Nat) : Option (Except Fault Unit) :=
  (h.clients[k]?).bind fun client => client.plan.result?

/-- Nothing is under way: the inboxes are empty, and every client and the reaper have finished. -/
structure AtRest (h : Hall σ ρ τ) : Prop where
  inboxes : ∀ i, h.directory.inbox i = []
  clients : ∀ client ∈ h.clients, client.plan.result?.isSome = true
  reaper : h.reaper.result?.isSome = true

/-! ### What happens -/

/-- A client comes in with a message. -/
def arrive (peer : Address) (message : Message ρ) (h : Hall σ ρ τ) : Hall σ ρ τ :=
  { h with clients := h.clients ++ [⟨peer, message, .ofMessage peer message⟩] }

/-- A client does its next operation, unless it has to wait. -/
def proceed (k : Nat) (h : Hall σ ρ τ) : Hall σ ρ τ :=
  match h.clients[k]? with
  | none => h
  | some client =>
      match client.plan.advance h.directory with
      | none => h
      | some (plan, d) =>
          let h' := { h with directory := d, clients := h.clients.set k { client with plan := plan } }
          match client.plan.puts? h.directory with
          | none => h'
          | some i => { h' with handed := h.handed ++ [k], waiting := h.waiting ++ [(i, k)] }

/-- The reaper sets out, unless it is on its round. -/
def reap (h : Hall σ ρ τ) : Hall σ ρ τ :=
  if h.reaper.result?.isSome then { h with reaper := .reap } else h

/-- The reaper does its next operation, unless it has to wait.  The messages that it holds are put
into inboxes in their order. -/
def goOn (h : Hall σ ρ τ) : Hall σ ρ τ :=
  match h.reaper.advance h.directory with
  | none => h
  | some (plan, d) =>
      let h' := { h with directory := d, reaper := plan }
      match h.reaper.puts? h.directory, h.held with
      | some i, k :: held => { h' with waiting := h.waiting ++ [(i, k)], held := held }
      | _, _ => h'

variable [ProfileSession σ ρ τ] [DecidableEq τ] [Outlined ρ]

/-- A worker takes a turn.  A message is handled; or the worker has stopped, and what waited for it
is handed back. -/
def turn (s : Surroundings) (i : Nat) (h : Hall σ ρ τ) : Hall σ ρ τ :=
  let h' := { h with directory := h.directory.turn s i }
  match h.directory.inbox i with
  | [] => h
  | .message _ :: _ =>
      { h' with
        waiting := h.waiting.eraseP (·.1 == i)
        served := h.served ++ (h.waiting.find? (·.1 == i)).toList }
  | _ :: _ =>
      if h'.directory.isClosed i then
        { h' with
          waiting := h.waiting.filter (·.1 != i)
          held := h.held ++ h.waitingFor i }
      else h'

/-- A worker is woken if an alarm of its link is due. -/
def wake (s : Surroundings) (i : Nat) (h : Hall σ ρ τ) : Hall σ ρ τ :=
  { h with directory := h.directory.wake s i }

/-- Time passes. -/
def pass (duration : Duration) (h : Hall σ ρ τ) : Hall σ ρ τ :=
  { h with directory := { h.directory with now := h.directory.now + duration } }

/-- One thing happens. -/
def step (h : Hall σ ρ τ) : Move ρ → Hall σ ρ τ
  | .arrive peer message => h.arrive peer message
  | .proceed client => h.proceed client
  | .reap => h.reap
  | .goOn => h.goOn
  | .turn s worker => h.turn s worker
  | .wake s worker => h.wake s worker
  | .pass duration => h.pass duration

/-- One thing happens after another. -/
def run (h : Hall σ ρ τ) (moves : List (Move ρ)) : Hall σ ρ τ := moves.foldl step h

/-- What everything that happens keeps holds throughout. -/
theorem run_induction {P : Hall σ ρ τ → Prop} (kept : ∀ h move, P h → P (h.step move))
    {h : Hall σ ρ τ} (begun : P h) (moves : List (Move ρ)) : P (h.run moves) := by
  induction moves generalizing h with
  | nil => exact begun
  | cons move moves ih => exact ih (kept h move begun)

theorem run_append (h : Hall σ ρ τ) (before after : List (Move ρ)) :
    h.run (before ++ after) = (h.run before).run after :=
  List.foldl_append

end Hall

end AudioLink
