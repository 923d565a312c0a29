/-
**The clock of the directory.**

Time passes in jumps from one alarm to the next: at each, every worker is woken whose alarm is due
then.

* `AudioLink.Directory.advanceTo` — time passes up to an instant, or until something is the case;
* `AudioLink.Directory.sleep` — time passes;
* `AudioLink.Directory.waitFor` — waiting for a worker to publish a state, but not for ever.
-/
import AudioLink.Directory.Basic

set_option relaxedAutoImplicit false
set_option autoImplicit false

namespace AudioLink.Directory

variable {σ ρ τ : Type}

/-- The next instant after the present at which some worker has to be woken. -/
def nextAlarm (d : Directory σ ρ τ) : Option Instant :=
  ((d.workers.filterMap Worker.nextDeadline).filter (d.now < ·)).min?

theorem now_lt_nextAlarm {d : Directory σ ρ τ} {next : Instant} (h : d.nextAlarm = some next) :
    d.now < next := by
  have := List.min?_mem h
  simpa using (List.mem_filter.1 this).2

variable [ProfileSession σ ρ τ] [DecidableEq τ] [Outlined ρ]

@[simp] theorem now_turn (s : Surroundings) (d : Directory σ ρ τ) (i : Nat) :
    (d.turn s i).now = d.now := by
  unfold turn
  split
  · rfl
  · split <;> rfl

@[simp] theorem now_turns (s : Surroundings) (i : Nat) : ∀ (n : Nat) (d : Directory σ ρ τ),
    (turns s i n d).now = d.now
  | 0, _ => rfl
  | n + 1, d => by rw [turns, now_turns s i n, now_turn]

@[simp] theorem now_wake (s : Surroundings) (d : Directory σ ρ τ) (i : Nat) :
    (d.wake s i).now = d.now := by
  unfold wake
  split
  · rfl
  · split <;> rfl

@[simp] theorem now_serve (s : Surroundings) (d : Directory σ ρ τ) (i : Nat) :
    (d.serve s i).now = d.now := by
  simp [serve]

/-- Work takes no time. -/
@[simp] theorem now_settle (s : Surroundings) (d : Directory σ ρ τ) :
    (d.settle s).now = d.now := by
  unfold settle
  generalize List.range d.workers.length = order
  induction order generalizing d with
  | nil => rfl
  | cons i order ih => rw [List.foldl_cons, ih, now_serve]

/-- Time passes from alarm to alarm, up to `target` or until `stop` holds.  At `target` itself
nobody has been woken yet. -/
def advanceTo (s : Surroundings) (target : Instant) (stop : Directory σ ρ τ → Bool)
    (d : Directory σ ρ τ) : Directory σ ρ τ :=
  if stop d then d
  else
    match _ : d.nextAlarm with
    | none => { d with now := max d.now target }
    | some next =>
        if next < target then advanceTo s target stop (settle s { d with now := next })
        else { d with now := max d.now target }
termination_by target - d.now
decreasing_by
  next found within =>
    have later := now_lt_nextAlarm found
    simp only [now_settle]
    exact Nat.sub_lt_sub_left (Nat.lt_trans later within) later

/-- Time passes, and whoever has to be woken at the end of it is woken. -/
def sleep (s : Surroundings) (duration : Duration) (d : Directory σ ρ τ) : Directory σ ρ τ :=
  (d.advanceTo s (d.now + duration) fun _ => false).settle s

/-- Whether a worker published a state. -/
def hasReached (i : Nat) (state : LinkState) (d : Directory σ ρ τ) : Bool :=
  (d.published? i).any (·.link == state)

/-- Whether a worker takes no more items, or is not known at all. -/
def isClosed (d : Directory σ ρ τ) (i : Nat) : Bool := (d.workers[i]?).all (·.closed)

/-- What becomes of waiting for a state. -/
inductive Awaited where
  | reached (snapshot : Snapshot)
  | notReached
  /-- The worker has stopped in another state. -/
  | stopped
  deriving DecidableEq, Repr

/-- Waiting for a worker to publish a state, for a bounded time; what happens at the very end of it
comes too late.  A worker that has stopped will publish nothing more, but what it published last
still counts. -/
def waitFor (s : Surroundings) (i : Nat) (state : LinkState) (patience : Duration)
    (d : Directory σ ρ τ) : Awaited × Directory σ ρ τ :=
  let found (d : Directory σ ρ τ) := (d.published? i).filter (·.link == state)
  match found d with
  | some snapshot => (.reached snapshot, d)
  | none =>
      if d.isClosed i then (.stopped, d)
      else
        let after := d.advanceTo s (d.now + patience) (hasReached i state)
        ((found after).elim .notReached .reached, after)

end AudioLink.Directory
