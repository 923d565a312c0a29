/-
**Workers.**

Each link is run by a worker of its own, which takes one item at a time from a bounded inbox and
publishes the state of its link after each.  A worker may be asked about its link, and may be asked
to retire; it agrees only while nothing is going on, and hands back the messages that are queued
behind the question.

* `AudioLink.Item`, `AudioLink.Reply` — what is put into an inbox, and what a worker replies;
* `AudioLink.Worker` — a worker;
* `AudioLink.Worker.handle` — the next item;
* `AudioLink.Worker.wake` — the alarms of the link;
* `AudioLink.Worker.length_inbox_handle` — a worker never finds more in its inbox by itself.
-/
import AudioLink.Link.Run

set_option relaxedAutoImplicit false
set_option autoImplicit false

namespace AudioLink

/-- What a worker may be asked. -/
inductive Question where
  /-- How its link is. -/
  | state
  /-- Whether it retires. -/
  | retirement
  deriving DecidableEq, Repr

/-- What is put into an inbox.  A question carries the number of a ticket for its reply. -/
inductive Item (ρ : Type) where
  | message (message : Message ρ)
  | question (question : Question) (ticket : Nat)
  | stop

/-- The reply to a question. -/
inductive Reply (σ ρ τ : Type) where
  /-- The link as the worker found it. -/
  | seen (link : Link σ ρ τ)
  /-- The worker does not retire. -/
  | busy
  /-- The worker has retired; these messages came too late for it. -/
  | retired (leftovers : List (Message ρ))
  /-- The worker stopped before it came to the question. -/
  | gone

/-- A worker with its link. -/
structure Worker (σ ρ τ : Type) where
  link : Link σ ρ τ
  /-- What waits for the worker, the oldest first. -/
  inbox : List (Item ρ)
  /-- What was published last. -/
  published : Snapshot
  /-- The worker takes no more items. -/
  closed : Bool

/-- What comes of handling one item, or of an alarm. -/
structure Turn (σ ρ τ : Type) where
  worker : Worker σ ρ τ
  effects : List Effect
  handled : List (Message ρ)
  replies : List (Nat × Reply σ ρ τ)

namespace Item

variable {σ ρ τ : Type}

/-- The message of an item that is one. -/
def message? : Item ρ → Option (Message ρ)
  | message m => some m
  | question .. | stop => none

/-- The reply to an item that finds its worker retired.  A question about the link is still
answered. -/
def replyOfRetired (link : Link σ ρ τ) : Item ρ → Option (Nat × Reply σ ρ τ)
  | question .state ticket => some (ticket, .seen link)
  | question .retirement ticket => some (ticket, .busy)
  | message _ | stop => none

/-- The reply to an item that finds its worker stopped. -/
def replyOfStopped : Item ρ → Option (Nat × Reply σ ρ τ)
  | question _ ticket => some (ticket, .gone)
  | message _ | stop => none

end Item

namespace Worker

variable {σ ρ τ : Type}

/-- A worker with a new link. -/
def start (link : Link σ ρ τ) : Worker σ ρ τ := ⟨link, [], link.snapshot, false⟩

/-- The state of the link is published. -/
def publish (w : Worker σ ρ τ) : Worker σ ρ τ := { w with published := w.link.snapshot }

/-- The worker takes no more items. -/
def close (w : Worker σ ρ τ) : Worker σ ρ τ := { w with inbox := [], closed := true }

/-- When the worker has to be woken next. -/
def nextDeadline (w : Worker σ ρ τ) : Option Instant :=
  if w.closed then none else w.link.alarms.nextDeadline

variable [ProfileSession σ ρ τ] [DecidableEq τ] [Outlined ρ]

/-- The first item of the inbox is handled; `rest` is what stands behind it. -/
def handle (scene : Scene) (item : Item ρ) (rest : List (Item ρ)) (w : Worker σ ρ τ) :
    Turn σ ρ τ :=
  match item with
  | .message m =>
      let (link, effects) := w.link.process scene m
      ⟨publish { w with link := link, inbox := rest }, effects, [m], []⟩
  | .question .state ticket =>
      ⟨publish { w with inbox := rest }, [], [], [(ticket, .seen w.link)]⟩
  | .question .retirement ticket =>
      if w.link.isIdle then
        ⟨w.close, [], [], (ticket, .retired (rest.filterMap Item.message?)) ::
          rest.filterMap (Item.replyOfRetired w.link)⟩
      else ⟨publish { w with inbox := rest }, [], [], [(ticket, .busy)]⟩
  | .stop => ⟨w.close, [], [], rest.filterMap Item.replyOfStopped⟩

/-- The alarms that are due are served. -/
def wake (scene : Scene) (w : Worker σ ρ τ) : Turn σ ρ τ :=
  let (link, effects) := w.link.fireDue scene
  ⟨publish { w with link := link }, effects, [], []⟩

/-- What stood behind the item stays in the inbox, or nothing does. -/
theorem inbox_handle (scene : Scene) (item : Item ρ) (rest : List (Item ρ)) (w : Worker σ ρ τ) :
    (w.handle scene item rest).worker.inbox = rest ∨
      (w.handle scene item rest).worker.inbox = [] := by
  unfold handle
  split
  · exact .inl rfl
  · exact .inl rfl
  · split
    · exact .inr rfl
    · exact .inl rfl
  · exact .inr rfl

/-- A worker never finds more in its inbox by itself. -/
theorem length_inbox_handle (scene : Scene) (item : Item ρ) (rest : List (Item ρ))
    (w : Worker σ ρ τ) : (w.handle scene item rest).worker.inbox.length ≤ rest.length := by
  rcases inbox_handle scene item rest w with h | h <;> simp [h]

end Worker

end AudioLink
