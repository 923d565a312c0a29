/-
**Lives that can be computed.**

Working off a queue ends, but not for a reason that can be read off the queue; so the loop does not
compute by itself.  With a bound on the number of errands it does.  Whatever the bounded run comes
to, the link comes to.

Main definitions:

* `AudioLink.Link.drainFor`, `AudioLink.Link.serveDueFor`, `AudioLink.Link.respondFor`,
  `AudioLink.Link.liveFor`, `AudioLink.Link.keepFor` — a queue, the alarms that are due, an impulse,
  a life and the record of a life, with a bound on the number of errands after each.

Main results:

* `AudioLink.Link.drain_eq_of_drainFor` — a bounded run of the queue is a run of the queue;
* `AudioLink.Link.live_eq_of_liveFor` — **a life that was computed is the life of the link**;
* `AudioLink.Link.keep_eq_of_keepFor` — and a record that was computed is the record of the life.
-/

import AudioLink.Proofs.Link.Life

set_option relaxedAutoImplicit false
set_option autoImplicit false

namespace AudioLink

namespace Link

variable {σ ρ τ : Type} [ProfileSession σ ρ τ] [DecidableEq τ] [Outlined ρ]

/-- Working off a queue that comes to its end after at most `bound` errands. -/
def drainFor (scene : Scene) : (bound : Nat) → Progress σ ρ τ → Option (Progress σ ρ τ)
  | 0, progress => if progress.link.queue.isEmpty then some progress else none
  | bound + 1, progress =>
      match progress.link.queue with
      | [] => some progress
      | errand :: rest =>
          drainFor scene bound ((handle errand).run scene |>.run
            ⟨{ progress.link with queue := rest }, progress.log⟩).2

/-- Serving the alarms that are due, with at most `bound` errands for each. -/
def serveDueFor (scene : Scene) (bound : Nat) :
    (rounds : Nat) → Progress σ ρ τ → Option (Progress σ ρ τ)
  | 0, progress => some progress
  | rounds + 1, progress =>
      match progress.link.alarms.popDue scene.now with
      | none => some progress
      | some (kind, others) =>
          let link := progress.link
          (drainFor scene bound ⟨{ link with
            alarms := others, queue := link.queue ++ [.alarm kind] }, progress.log⟩).bind
            (serveDueFor scene bound rounds)

/-- What a link makes of an impulse that takes at most `bound` errands. -/
def respondFor (bound : Nat) (link : Link σ ρ τ) : Impulse ρ → Option (Progress σ ρ τ)
  | .hand scene message =>
      drainFor scene bound ⟨{ link with queue := link.queue ++ [.message message] }, []⟩
  | .wake scene => serveDueFor scene bound (link.dueRounds scene.now) ⟨link, []⟩

/-- A life in which no impulse takes more than `bound` errands. -/
def liveFor (bound : Nat) (link : Link σ ρ τ) : List (Impulse ρ) → Option (Link σ ρ τ × List Effect)
  | [] => some (link, [])
  | impulse :: rest =>
      (respondFor bound link impulse).bind fun moment =>
        (liveFor bound moment.link rest).map fun later => (later.1, moment.log ++ later.2)

/-- A bounded run of the queue is a run of the queue. -/
theorem drain_eq_of_drainFor {scene : Scene} {bound : Nat} {progress last : Progress σ ρ τ}
    (h : drainFor scene bound progress = some last) : drain scene progress = last := by
  induction bound generalizing progress with
  | zero =>
      rw [drainFor] at h
      split at h
      · next hqueue =>
          rw [drain_of_queue_nil (List.isEmpty_iff.1 hqueue)]
          exact Option.some.inj h
      · cases h
  | succ bound ih =>
      rw [drainFor] at h
      cases hqueue : progress.link.queue with
      | nil =>
          rw [hqueue] at h
          rw [drain_of_queue_nil hqueue]
          exact Option.some.inj h
      | cons errand rest =>
          rw [hqueue] at h
          rw [drain_of_queue_cons hqueue]
          exact ih h

theorem serveDue_eq_of_serveDueFor {scene : Scene} {bound rounds : Nat}
    {progress last : Progress σ ρ τ} (h : serveDueFor scene bound rounds progress = some last) :
    serveDue scene rounds progress = last := by
  induction rounds generalizing progress with
  | zero => exact Option.some.inj h
  | succ rounds ih =>
      rw [serveDueFor] at h
      rw [serveDue]
      cases hpop : progress.link.alarms.popDue scene.now with
      | none =>
          rw [hpop] at h
          exact Option.some.inj h
      | some popped =>
          obtain ⟨kind, others⟩ := popped
          rw [hpop] at h
          obtain ⟨drained, hdrained, hlast⟩ := Option.bind_eq_some_iff.1 h
          simp only [drain_eq_of_drainFor hdrained]
          exact ih hlast

theorem respond_eq_of_respondFor {bound : Nat} {link : Link σ ρ τ} {impulse : Impulse ρ}
    {moment : Progress σ ρ τ} (h : respondFor bound link impulse = some moment) :
    link.respond impulse = (moment.link, moment.log) := by
  cases impulse with
  | hand scene message =>
      rw [respond, process]
      rw [drain_eq_of_drainFor h]
  | wake scene =>
      rw [respond, fireDue]
      rw [serveDue_eq_of_serveDueFor h]

theorem respond_eq_get (bound : Nat) {link : Link σ ρ τ} {impulse : Impulse ρ}
    (h : (respondFor bound link impulse).isSome = true) :
    link.respond impulse =
      (((respondFor bound link impulse).get h).link, ((respondFor bound link impulse).get h).log) :=
  respond_eq_of_respondFor (Option.some_get h).symm

/-- **A life that was computed is the life of the link.** -/
theorem live_eq_of_liveFor {bound : Nat} {link : Link σ ρ τ} {impulses : List (Impulse ρ)}
    {life : Link σ ρ τ × List Effect} (h : liveFor bound link impulses = some life) :
    link.live impulses = life := by
  induction impulses generalizing link life with
  | nil => exact Option.some.inj h
  | cons impulse rest ih =>
      obtain ⟨moment, hmoment, hrest⟩ := Option.bind_eq_some_iff.1 h
      obtain ⟨later, hlater, rfl⟩ := Option.map_eq_some_iff.1 hrest
      rw [live, respond_eq_of_respondFor hmoment]
      simp only [ih hlater]

theorem live_eq_get (bound : Nat) {link : Link σ ρ τ} {impulses : List (Impulse ρ)}
    (h : (liveFor bound link impulses).isSome = true) :
    link.live impulses = (liveFor bound link impulses).get h :=
  live_eq_of_liveFor (Option.some_get h).symm

/-! ### Records -/

section Records

variable {α : Type} {note : Link σ ρ τ → Impulse ρ → List Effect → α → α} {link : Link σ ρ τ}
  {impulses : List (Impulse ρ)} {kept last : α}

/-- The record of a life in which no impulse takes more than `bound` errands. -/
def keepFor (note : Link σ ρ τ → Impulse ρ → List Effect → α → α) (bound : Nat)
    (link : Link σ ρ τ) : List (Impulse ρ) → α → Option α
  | [], kept => some kept
  | impulse :: rest, kept =>
      (respondFor bound link impulse).bind fun moment =>
        keepFor note bound moment.link rest (note link impulse moment.log kept)

/-- A record that was computed is the record of the life. -/
theorem keep_eq_of_keepFor {bound : Nat} (h : keepFor note bound link impulses kept = some last) :
    link.keep note impulses kept = last := by
  induction impulses generalizing link kept with
  | nil => exact Option.some.inj h
  | cons impulse rest ih =>
      obtain ⟨moment, hmoment, hrest⟩ := Option.bind_eq_some_iff.1 h
      rw [keep, respond_eq_of_respondFor hmoment]
      exact ih hrest

theorem keep_eq_get (bound : Nat)
    (h : (keepFor note bound link impulses kept).isSome = true) :
    link.keep note impulses kept = (keepFor note bound link impulses kept).get h :=
  keep_eq_of_keepFor (Option.some_get h).symm

end Records

end Link

end AudioLink
