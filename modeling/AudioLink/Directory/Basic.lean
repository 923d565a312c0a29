/-
**The directory of workers.**

The directory knows the worker of each device it deals with.  Everything done to it is done at
once and by itself: looking a worker up, entering a new one, taking an entry away, putting an item
into an inbox, and a turn of one worker.  What takes longer is made of these.

* `AudioLink.Directory` — the entries, the workers, the clock, and what has happened so far;
* `AudioLink.Directory.enlist`, `AudioLink.Directory.forget`, `AudioLink.Directory.offer`,
  `AudioLink.Directory.ask` — what clients do;
* `AudioLink.Directory.turn`, `AudioLink.Directory.settle` — what workers do, one item or all of
  them.
-/
import AudioLink.Directory.Worker

set_option relaxedAutoImplicit false
set_option autoImplicit false

namespace AudioLink

/-- What surrounds the workers: how the transport answers the link to each device, and what the
user has said. -/
structure Surroundings where
  transport : Address → Transport
  preferences : Preferences

/-- The workers of one profile.  A worker is known by its number; it keeps it after it has
stopped. -/
structure Directory (σ ρ τ : Type) where
  /-- The room in each inbox. -/
  room : Nat
  /-- The profile that a worker starts with, by the number of the worker. -/
  newSession : Nat → σ
  now : Instant
  workers : List (Worker σ ρ τ)
  /-- The worker of each device, in the order of the addresses. -/
  entries : List (Address × Nat)
  /-- How many tickets were given out. -/
  tickets : Nat
  /-- The replies so far, by their tickets. -/
  replies : List (Nat × Reply σ ρ τ)
  /-- What has left the links so far, in order. -/
  log : List (Address × Effect)
  /-- The messages handled so far, in order, with the number of the worker. -/
  handled : List (Nat × Message ρ)

/-- What becomes of an item offered to an inbox. -/
inductive Offer where
  | taken
  /-- There is no room at present. -/
  | full
  /-- The worker takes no more items. -/
  | closed
  deriving DecidableEq, Repr

namespace Directory

variable {σ ρ τ : Type}

/-- No workers yet. -/
def start (room : Nat) (newSession : Nat → σ) : Directory σ ρ τ :=
  ⟨max 1 room, newSession, 0, [], [], 0, [], [], []⟩

/-! ### Entries -/

/-- The worker of a device. -/
def find? (d : Directory σ ρ τ) (peer : Address) : Option Nat :=
  (d.entries.find? (·.1 == peer)).map (·.2)

/-- How many devices have a worker. -/
def size (d : Directory σ ρ τ) : Nat := d.entries.length

/-- What a worker published last. -/
def published? (d : Directory σ ρ τ) (i : Nat) : Option Snapshot :=
  (d.workers[i]?).map (·.published)

/-- The entries whose worker published a state. -/
def entriesIn (d : Directory σ ρ τ) (state : LinkState) : List (Address × Nat) :=
  d.entries.filter fun entry => (d.published? entry.2).any (·.link == state)

/-- An entry in its place among others for other devices. -/
def placeEntry (entry : Address × Nat) : List (Address × Nat) → List (Address × Nat)
  | [] => [entry]
  | other :: rest => if entry.1 < other.1 then entry :: other :: rest
      else other :: placeEntry entry rest

/-- The worker of a device; a new one if there is none yet. -/
def enlist (d : Directory σ ρ τ) (peer : Address) : Nat × Directory σ ρ τ :=
  match d.find? peer with
  | some i => (i, d)
  | none =>
      let i := d.workers.length
      (i, { d with
        workers := d.workers ++ [.start (.start peer (d.newSession i))]
        entries := placeEntry (peer, i) d.entries })

/-- An entry is taken away, unless the device has another worker by now. -/
def forget (d : Directory σ ρ τ) (peer : Address) (i : Nat) : Directory σ ρ τ :=
  { d with entries := d.entries.filter (· != (peer, i)) }

/-- What a client that holds on to a worker shows of it. -/
structure Badge where
  peer : Address
  profile : Profile
  shown : Snapshot

instance : Outlined Badge where
  outline b := .record "PeerHandle"
    [.field "peer" (Outlined.outline b.peer), .field "profile" (Outlined.outline b.profile),
      .field "snapshot" (Outlined.outline b.shown)]

/-! ### Inboxes -/

/-- One worker is changed. -/
def setWorker (d : Directory σ ρ τ) (i : Nat) (w : Worker σ ρ τ) : Directory σ ρ τ :=
  { d with workers := d.workers.set i w }

/-- An item is put into an inbox if it is taken. -/
def offer (d : Directory σ ρ τ) (i : Nat) (item : Item ρ) : Offer × Directory σ ρ τ :=
  match d.workers[i]? with
  | none => (.closed, d)
  | some w =>
      if w.closed then (.closed, d)
      else if d.room ≤ w.inbox.length then (.full, d)
      else (.taken, d.setWorker i { w with inbox := w.inbox ++ [item] })

/-- The ticket for the next question. -/
def nextTicket (d : Directory σ ρ τ) : Nat := d.tickets

/-- A question is put into an inbox if it is taken, with the next ticket. -/
def ask (d : Directory σ ρ τ) (i : Nat) (question : Question) : Offer × Directory σ ρ τ :=
  { d with tickets := d.tickets + 1 }.offer i (.question question d.nextTicket)

/-- The reply for a ticket, once there is one. -/
def reply? (d : Directory σ ρ τ) (ticket : Nat) : Option (Reply σ ρ τ) :=
  (d.replies.find? (·.1 == ticket)).map (·.2)

/-! ### Turns of workers -/

/-- What has left the link to one device so far. -/
def logOf (d : Directory σ ρ τ) (peer : Address) : List Effect :=
  (d.log.filter (·.1 == peer)).map (·.2)

/-- What is fixed while one item is handled.  The transport answers in view of all that has left
the link to the device. -/
def scene (s : Surroundings) (d : Directory σ ρ τ) (peer : Address) : Scene :=
  ⟨d.now, fun recent => s.transport peer (d.logOf peer ++ recent), s.preferences⟩

/-- What came of a worker's turn is entered. -/
def enter (d : Directory σ ρ τ) (i : Nat) (turn : Turn σ ρ τ) : Directory σ ρ τ :=
  { d.setWorker i turn.worker with
    replies := d.replies ++ turn.replies
    log := d.log ++ turn.effects.map fun effect => (turn.worker.link.peer, effect)
    handled := d.handled ++ turn.handled.map fun message => (i, message) }

@[simp] theorem workers_setWorker (d : Directory σ ρ τ) (i : Nat) (w : Worker σ ρ τ) :
    (d.setWorker i w).workers = d.workers.set i w := rfl

@[simp] theorem workers_enter (d : Directory σ ρ τ) (i : Nat) (turn : Turn σ ρ τ) :
    (d.enter i turn).workers = d.workers.set i turn.worker := rfl

/-- What waits for a worker. -/
def inbox (d : Directory σ ρ τ) (i : Nat) : List (Item ρ) :=
  ((d.workers[i]?).map (·.inbox)).getD []

theorem inbox_eq {d : Directory σ ρ τ} {i : Nat} {w : Worker σ ρ τ}
    (h : d.workers[i]? = some w) : d.inbox i = w.inbox := by
  simp [inbox, h]

theorem inbox_enter {d : Directory σ ρ τ} {i : Nat} {w : Worker σ ρ τ}
    (h : d.workers[i]? = some w) (turn : Turn σ ρ τ) :
    (d.enter i turn).inbox i = turn.worker.inbox := by
  obtain ⟨within, -⟩ := List.getElem?_eq_some_iff.1 h
  simp [inbox, within]

variable [ProfileSession σ ρ τ] [DecidableEq τ] [Outlined ρ]

/-- A worker handles the first item of its inbox, if there is one. -/
def turn (s : Surroundings) (d : Directory σ ρ τ) (i : Nat) : Directory σ ρ τ :=
  match d.workers[i]? with
  | none => d
  | some w =>
      match w.inbox with
      | [] => d
      | item :: rest => d.enter i (w.handle (d.scene s w.link.peer) item rest)

/-- A worker is woken if an alarm of its link is due. -/
def wake (s : Surroundings) (d : Directory σ ρ τ) (i : Nat) : Directory σ ρ τ :=
  match d.workers[i]? with
  | none => d
  | some w =>
      if w.nextDeadline.any (· ≤ d.now) then d.enter i (w.wake (d.scene s w.link.peer)) else d

/-- A worker takes some turns. -/
def turns (s : Surroundings) (i : Nat) : Nat → Directory σ ρ τ → Directory σ ρ τ
  | 0, d => d
  | n + 1, d => turns s i n (d.turn s i)

/-- A worker works off its inbox, and serves the alarms that are due then. -/
def serve (s : Surroundings) (d : Directory σ ρ τ) (i : Nat) : Directory σ ρ τ :=
  (turns s i (d.inbox i).length d).wake s i

/-- All workers work off their inboxes. -/
def settle (s : Surroundings) (d : Directory σ ρ τ) : Directory σ ρ τ :=
  (List.range d.workers.length).foldl (serve s) d

/-! ### What a turn does to the directory -/

/-- A turn takes an item out of the inbox. -/
theorem length_inbox_turn (s : Surroundings) (d : Directory σ ρ τ) (i : Nat) :
    ((d.turn s i).inbox i).length ≤ (d.inbox i).length - 1 := by
  unfold turn
  split
  · next h => simp [inbox, h]
  · next w h =>
      split
      · next empty => simp [inbox_eq h, empty]
      · next item rest full =>
          have := w.length_inbox_handle (d.scene s w.link.peer) item rest
          simpa [inbox_enter h, inbox_eq h, full] using this

/-- Enough turns empty the inbox. -/
theorem inbox_turns (s : Surroundings) (i : Nat) : ∀ (n : Nat) {d : Directory σ ρ τ},
    (d.inbox i).length ≤ n → (turns s i n d).inbox i = []
  | 0, d, h => by simpa [turns] using h
  | n + 1, d, h => inbox_turns s i n (Nat.le_trans (length_inbox_turn s d i) (by omega))

end Directory

end AudioLink
