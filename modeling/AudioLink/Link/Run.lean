/-
**Running a link.**

A link is run by handing it one message, or by waking it for the alarms that are due.  Either way
the queue is worked off before anything else happens.

* `AudioLink.Link.drain` — working off the queue;
* `AudioLink.Link.process` — one message and everything that comes of it;
* `AudioLink.Link.fireDue` — the alarms that are due, the earliest first, and everything that
  comes of each;
* `AudioLink.Link.queue_drain` — afterwards the queue is empty.
-/
import AudioLink.Link.Workload

set_option relaxedAutoImplicit false
set_option autoImplicit false

namespace AudioLink

namespace Link

variable {σ ρ τ : Type} [ProfileSession σ ρ τ] [DecidableEq τ] [Outlined ρ]

/-- The first errand of the queue is taken out and handled, until there is none. -/
def drain (scene : Scene) (progress : Progress σ ρ τ) : Progress σ ρ τ :=
  match _ : progress.link.queue with
  | [] => progress
  | errand :: rest =>
      drain scene ((handle errand).run scene |>.run
        ⟨{ progress.link with queue := rest }, progress.log⟩).2
termination_by wellFounded_relieved.wrap progress.link
decreasing_by
  exact relieved_handle (by assumption) scene progress.log

/-- A link is handed a message.  The result is the link afterwards and what has left it. -/
def process (scene : Scene) (message : Message ρ) (link : Link σ ρ τ) :
    Link σ ρ τ × List Effect :=
  let progress := drain scene ⟨{ link with queue := link.queue ++ [.message message] }, []⟩
  (progress.link, progress.log)

/-- Up to `rounds` times the next alarm that is due is served. -/
def serveDue (scene : Scene) : (rounds : Nat) → Progress σ ρ τ → Progress σ ρ τ
  | 0, progress => progress
  | rounds + 1, progress =>
      match progress.link.alarms.popDue scene.now with
      | none => progress
      | some (kind, others) =>
          let link := progress.link
          serveDue scene rounds (drain scene
            ⟨{ link with alarms := others, queue := link.queue ++ [.alarm kind] }, progress.log⟩)

/-- How often an alarm can be served at one instant: serving an alarm takes it away, and may arm
another that is due at once only by connecting anew, which uses up a deferred request. -/
def dueRounds (link : Link σ ρ τ) (now : Instant) : Nat :=
  (link.alarms.dueAt now).length + link.deferred.length

/-- A link is woken for the alarms that are due. -/
def fireDue (scene : Scene) (link : Link σ ρ τ) : Link σ ρ τ × List Effect :=
  let progress := serveDue scene (link.dueRounds scene.now) ⟨link, []⟩
  (progress.link, progress.log)

/-! ### After a run -/

theorem drain_of_queue_nil {scene : Scene} {progress : Progress σ ρ τ}
    (h : progress.link.queue = []) : drain scene progress = progress := by
  rw [drain]
  split
  · rfl
  · simp_all

theorem drain_of_queue_cons {scene : Scene} {progress : Progress σ ρ τ} {errand : Errand ρ τ}
    {rest : List (Errand ρ τ)} (h : progress.link.queue = errand :: rest) :
    drain scene progress = drain scene ((handle errand).run scene |>.run
      ⟨{ progress.link with queue := rest }, progress.log⟩).2 := by
  rw [drain]
  split
  · simp_all
  · next errand' rest' h' =>
      obtain ⟨rfl, rfl⟩ := List.cons.inj (h.symm.trans h')
      rfl

/-- What every errand keeps, working off the queue keeps. -/
theorem drain_induction {P : Progress σ ρ τ → Prop} {scene : Scene}
    (step : ∀ progress errand rest, P progress → progress.link.queue = errand :: rest →
      P ((handle errand).run scene |>.run ⟨{ progress.link with queue := rest }, progress.log⟩).2)
    (progress : Progress σ ρ τ) (h : P progress) : P (drain scene progress) := by
  fun_induction drain scene progress with
  | case1 progress _ => exact h
  | case2 progress errand rest hq ih => exact ih (step progress errand rest h hq)

/-- Working off the queue leaves it empty. -/
theorem queue_drain (scene : Scene) (progress : Progress σ ρ τ) :
    (drain scene progress).link.queue = [] := by
  fun_induction drain scene progress with
  | case1 progress h => exact h
  | case2 progress errand rest h ih => exact ih

theorem queue_process (scene : Scene) (message : Message ρ) (link : Link σ ρ τ) :
    (process scene message link).1.queue = [] :=
  queue_drain ..

theorem queue_serveDue (scene : Scene) : ∀ (rounds : Nat) {progress : Progress σ ρ τ},
    progress.link.queue = [] → (serveDue scene rounds progress).link.queue = []
  | 0, _, h => h
  | rounds + 1, progress, h => by
      unfold serveDue
      split
      · exact h
      · exact queue_serveDue scene rounds (queue_drain ..)

/-- Waking a link whose queue is empty leaves it empty. -/
theorem queue_fireDue (scene : Scene) {link : Link σ ρ τ} (h : link.queue = []) :
    (fireDue scene link).1.queue = [] :=
  queue_serveDue scene _ h

end Link

end AudioLink
