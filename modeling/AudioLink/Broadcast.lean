/-
**Broadcasting.**

Announcements are made without waiting for anybody.  The last of them are kept in a bounded room;
every listener reads at a pace of its own, and one that is too slow loses the oldest and is told
how many it lost.

* `AudioLink.Broadcast` — what is kept, and where each listener is;
* `AudioLink.Broadcast.publish`, `AudioLink.Broadcast.subscribe`, `AudioLink.Broadcast.leave`,
  `AudioLink.Broadcast.receive` — what happens to it;
* `AudioLink.Broadcast.length_kept` — no more is kept than there is room for.
-/

set_option relaxedAutoImplicit false
set_option autoImplicit false

namespace AudioLink

/-- The items published last, the oldest first, and the listeners by their numbers.  A listener
is known by how many of all items are behind it; one that left is `none`. -/
structure Broadcast (α : Type) where
  room : Nat
  published : Nat
  kept : List α
  listeners : List (Option Nat)
  deriving Repr

/-- What a listener reads. -/
inductive Received (α : Type) where
  | item (a : α)
  /-- Nothing new was published. -/
  | nothing
  /-- This many items were lost. -/
  | lagged (count : Nat)
  deriving DecidableEq, Repr

namespace Broadcast

variable {α : Type}

/-- Nothing was published.  The room is the next power of two, and never empty. -/
def start (room : Nat) : Broadcast α := ⟨(max 1 room).nextPowerOfTwo, 0, [], []⟩

/-- The usual room. -/
def standardRoom : Nat := 1000

/-- How many listeners there are. -/
def listening (b : Broadcast α) : Nat := b.listeners.countP Option.isSome

/-- How many items are kept no longer. -/
def lost (b : Broadcast α) : Nat := b.published - b.kept.length

/-- The last `room` items of a list. -/
def latest (room : Nat) (items : List α) : List α := items.drop (items.length - room)

/-- An item is published. -/
def publish (b : Broadcast α) (a : α) : Broadcast α :=
  { b with published := b.published + 1, kept := latest b.room (b.kept ++ [a]) }

/-- A new listener will hear what is published from now on.  The result is its number. -/
def subscribe (b : Broadcast α) : Nat × Broadcast α :=
  (b.listeners.length, { b with listeners := b.listeners ++ [some b.published] })

/-- A listener leaves. -/
def leave (b : Broadcast α) (listener : Nat) : Broadcast α :=
  { b with listeners := b.listeners.set listener none }

/-- A listener moves on. -/
def move (b : Broadcast α) (listener behind : Nat) : Broadcast α :=
  { b with listeners := b.listeners.set listener (some behind) }

/-- A listener reads.  Losses are told once; then reading goes on with the oldest item kept. -/
def receive (b : Broadcast α) (listener : Nat) : Option (Received α × Broadcast α) := do
  let behind ← (← b.listeners[listener]?)
  if behind < b.lost then some (.lagged (b.lost - behind), b.move listener b.lost)
  else
    match b.kept[behind - b.lost]? with
    | some a => some (.item a, b.move listener (behind + 1))
    | none => some (.nothing, b)

theorem length_latest (room : Nat) (items : List α) :
    (latest room items).length = min room items.length := by
  simp only [latest, List.length_drop]
  omega

/-- No more is kept than there is room for. -/
theorem length_kept {b : Broadcast α} (a : α) :
    (b.publish a).kept.length ≤ b.room := by
  simp only [publish, length_latest]
  omega

end Broadcast

end AudioLink
