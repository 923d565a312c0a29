/-
**Plans.**

What a client wants of the directory may take several operations with waiting in between: for room
in an inbox, or for a reply.  A plan says what the client does next, given what it has learned so
far.  Each operation is done at once; between two of them anything may happen.

* `AudioLink.Plan` — what a client has still to do;
* `AudioLink.Plan.advance` — the next operation, unless the client has to wait;
* `AudioLink.Plan.poll` — all operations up to the next wait;
* `AudioLink.Plan.run` — the whole plan, with something else happening at each wait;
* `AudioLink.Plan.runAlone`, `AudioLink.Plan.runBoth` — one plan or two while all workers work.
-/
import AudioLink.Directory.Basic

set_option relaxedAutoImplicit false
set_option autoImplicit false

namespace AudioLink

/-- What a client has still to do. -/
inductive Plan (σ ρ τ α : Type) where
  | finished (result : α)
  /-- Look for the worker of a device. -/
  | find (peer : Address) (next : Option Nat → Plan σ ρ τ α)
  /-- Look for the workers that published a state. -/
  | findIn (state : LinkState) (next : List (Address × Nat) → Plan σ ρ τ α)
  /-- Take away all entries. -/
  | clear (next : List (Address × Nat) → Plan σ ρ τ α)
  /-- Get the worker of a device, a new one if need be. -/
  | enlist (peer : Address) (next : Nat → Plan σ ρ τ α)
  /-- Take away the entry of a worker. -/
  | forget (peer : Address) (worker : Nat) (next : Plan σ ρ τ α)
  /-- Put an item into an inbox; wait while it is full.  It is not taken if the worker is closed. -/
  | send (worker : Nat) (item : Item ρ) (next : Bool → Plan σ ρ τ α)
  /-- Put a question into an inbox and wait for the reply. -/
  | ask (worker : Nat) (question : Question) (next : Reply σ ρ τ → Plan σ ρ τ α)
  /-- Wait for the reply to a question that was put. -/
  | await (ticket : Nat) (next : Reply σ ρ τ → Plan σ ρ τ α)

namespace Plan

variable {σ ρ τ α β : Type}

/-- The result of a plan that is finished. -/
def result? : Plan σ ρ τ α → Option α
  | finished a => some a
  | _ => none

/-- One plan and then another. -/
def bind : Plan σ ρ τ α → (α → Plan σ ρ τ β) → Plan σ ρ τ β
  | finished a, f => f a
  | find peer next, f => find peer fun found => bind (next found) f
  | findIn state next, f => findIn state fun found => bind (next found) f
  | clear next, f => clear fun found => bind (next found) f
  | enlist peer next, f => enlist peer fun worker => bind (next worker) f
  | forget peer worker next, f => forget peer worker (bind next f)
  | send worker item next, f => send worker item fun taken => bind (next taken) f
  | ask worker question next, f => ask worker question fun reply => bind (next reply) f
  | await ticket next, f => await ticket fun reply => bind (next reply) f

instance : Monad (Plan σ ρ τ) where
  pure := finished
  bind := bind

/-! ### One operation -/

/-- The next operation, and what is to be done after it; none if the client has to wait, or has
finished. -/
def advance (d : Directory σ ρ τ) : Plan σ ρ τ α → Option (Plan σ ρ τ α × Directory σ ρ τ)
  | finished _ => none
  | find peer next => some (next (d.find? peer), d)
  | findIn state next => some (next (d.entriesIn state), d)
  | clear next => some (next d.entries, { d with entries := [] })
  | enlist peer next => some (next (d.enlist peer).1, (d.enlist peer).2)
  | forget peer worker next => some (next, d.forget peer worker)
  | send worker item next =>
      match d.offer worker item with
      | (.taken, d) => some (next true, d)
      | (.closed, d) => some (next false, d)
      | (.full, _) => none
  | ask worker question next =>
      match d.ask worker question with
      | (.taken, after) => some (await d.nextTicket next, after)
      | (.closed, after) => some (next .gone, after)
      | (.full, _) => none
  | await ticket next => (d.reply? ticket).map fun reply => (next reply, d)

/-- One plan may come next in another. -/
def Next (q p : Plan σ ρ τ α) : Prop := ∃ d d', advance d p = some (q, d')

/-- A plan has only finitely many operations, whatever the client learns. -/
theorem wellFounded_next : WellFounded (Next (σ := σ) (ρ := ρ) (τ := τ) (α := α)) := by
  constructor
  intro p
  induction p with
  | finished a => exact ⟨_, fun q ⟨d, d', h⟩ => by simp [advance] at h⟩
  | find peer next ih =>
      refine ⟨_, fun q ⟨d, d', h⟩ => ?_⟩
      simp only [advance, Option.some.injEq, Prod.mk.injEq] at h
      exact h.1 ▸ ih _
  | findIn state next ih =>
      refine ⟨_, fun q ⟨d, d', h⟩ => ?_⟩
      simp only [advance, Option.some.injEq, Prod.mk.injEq] at h
      exact h.1 ▸ ih _
  | clear next ih =>
      refine ⟨_, fun q ⟨d, d', h⟩ => ?_⟩
      simp only [advance, Option.some.injEq, Prod.mk.injEq] at h
      exact h.1 ▸ ih _
  | enlist peer next ih =>
      refine ⟨_, fun q ⟨d, d', h⟩ => ?_⟩
      simp only [advance, Option.some.injEq, Prod.mk.injEq] at h
      exact h.1 ▸ ih _
  | forget peer worker next ih =>
      refine ⟨_, fun q ⟨d, d', h⟩ => ?_⟩
      simp only [advance, Option.some.injEq, Prod.mk.injEq] at h
      exact h.1 ▸ ih
  | send worker item next ih =>
      refine ⟨_, fun q ⟨d, d', h⟩ => ?_⟩
      simp only [advance] at h
      split at h <;> cases h <;> exact ih _
  | await ticket next ih =>
      refine ⟨_, fun q ⟨d, d', h⟩ => ?_⟩
      simp only [advance, Option.map_eq_some_iff, Prod.mk.injEq] at h
      obtain ⟨reply, -, e, -⟩ := h
      exact e ▸ ih _
  | ask worker question next ih =>
      refine ⟨_, fun q ⟨d, d', h⟩ => ?_⟩
      simp only [advance] at h
      split at h
      · cases h
        refine ⟨_, fun q ⟨d, d', h⟩ => ?_⟩
        simp only [advance, Option.map_eq_some_iff, Prod.mk.injEq] at h
        obtain ⟨reply, -, e, -⟩ := h
        exact e ▸ ih _
      · cases h; exact ih _
      · cases h

/-! ### Many operations -/

/-- Everything up to the next wait. -/
def poll (p : Plan σ ρ τ α) (d : Directory σ ρ τ) : Plan σ ρ τ α × Directory σ ρ τ :=
  match _ : p.advance d with
  | none => (p, d)
  | some (q, d) => poll q d
termination_by wellFounded_next.wrap p
decreasing_by
  next h => exact ⟨_, _, h⟩

/-- The whole plan.  Whenever the client has to wait, a `pause` happens, which may change the
directory and a state `ε` of its own.  What is returned is finished, unless a pause was not
enough. -/
def run {ε : Type} (pause : ε × Directory σ ρ τ → ε × Directory σ ρ τ) (p : Plan σ ρ τ α)
    (e : ε) (d : Directory σ ρ τ) : Plan σ ρ τ α × ε × Directory σ ρ τ :=
  match _ : p.advance d with
  | some (q, d) => run pause q e d
  | none =>
      if p.result?.isSome then (p, e, d)
      else
        let paused := pause (e, d)
        match _ : p.advance paused.2 with
        | some (q, after) => run pause q paused.1 after
        | none => (p, paused)
termination_by wellFounded_next.wrap p
decreasing_by
  · next h => exact ⟨_, _, h⟩
  · next h => exact ⟨_, _, h⟩

variable [ProfileSession σ ρ τ] [DecidableEq τ] [Outlined ρ]

/-- A plan is carried out while all workers work. -/
def runAlone (s : Surroundings) (p : Plan σ ρ τ α) (d : Directory σ ρ τ) :
    Option α × Directory σ ρ τ :=
  let (p, _, d) := run (fun (u, d) => (u, d.settle s)) p () d
  (p.result?, d)

/-- Two plans are carried out at the same time, while all workers work.  Each goes on until it has
to wait, the first one before the second. -/
def runBoth (s : Surroundings) (first : Plan σ ρ τ α) (second : Plan σ ρ τ β)
    (d : Directory σ ρ τ) : Option (α × β) × Directory σ ρ τ :=
  let pause := fun (state : Plan σ ρ τ β × Directory σ ρ τ) =>
    let (other, d) := state.1.poll state.2
    (other, d.settle s)
  let (first, second, d) := run pause first second d
  let (b, d) := second.runAlone s d
  (first.result?.bind fun a => b.map fun b => (a, b), d)

end Plan

end AudioLink
