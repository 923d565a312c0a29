/-
**From state to state.**

To move to another state a link leaves the one it is in, announces the change, and enters the other.
On its way it changes its audio, and arms or strikes out the alarm that bounds a transient state.
Such a change is about neither the profile nor anything that is still to be done.  A property that
it does not spoil is only at risk when the audio is announced and the profile takes notice of it.

Main definitions:

* `AudioLink.Link.Slight` — such a change;
* `AudioLink.Link.Turning` — a property that is not spoilt by such changes, nor when the audio is
  announced and noticed.

Main results:

* `AudioLink.Link.yields_transition_of_eq`, `AudioLink.Link.yields_transition_of_ne` — what moving
  to a state does;
* `AudioLink.Link.Turning.upholds_setAudio`, `AudioLink.Link.Turning.upholds_leave`,
  `AudioLink.Link.Turning.upholds_enter` — it is upheld when the audio changes, on leaving any state
  but that of a connected link, and on entering a transient one;
* `AudioLink.Link.yields_transition_state` — after moving to a state, the link is in it.
-/

import AudioLink.Proofs.Yields

set_option relaxedAutoImplicit false
set_option autoImplicit false

namespace AudioLink

namespace Link

variable {σ ρ τ : Type} [DecidableEq τ]

/-! ### Moving to another state -/

section Moving

variable [ProfileSession σ ρ τ] {scene : Scene} {progress : Progress σ ρ τ} {next : LinkState}
  {post : Unit → Progress σ ρ τ → Prop}

/-- A link that is in a state already does nothing to move there. -/
theorem yields_transition_of_eq (hsame : progress.link.state = next) :
    (transition next : Step σ ρ τ Unit).Yields scene progress post ↔ post () progress := by
  rw [transition, Step.yields_bind, Step.yields_link, if_neg (not_not_intro hsame)]
  rfl

/-- To move to another state is to leave the one the link is in, to announce the change, and to
enter the other. -/
theorem yields_transition_of_ne (hne : progress.link.state ≠ next) :
    (transition next : Step σ ρ τ Unit).Yields scene progress post ↔
      (leave progress.link.state : Step σ ρ τ Unit).Yields scene progress fun _ left =>
        (do
          enter next
          if next.isStable then replayDeferred
          : Step σ ρ τ Unit).Yields scene ⟨{ left.link with state := next },
            left.log ++ [.notice (.linkChanged progress.link.state next)]⟩ post := by
  rw [transition, Step.yields_bind, Step.yields_link, if_pos hne]
  rfl

/-- A link that is given up is taken to be disconnected. -/
theorem yields_linkDown {post : Verdict → Progress σ ρ τ → Prop} :
    (onEvent .linkDown : Step σ ρ τ Verdict).Yields scene progress post ↔
      (transition .disconnected : Step σ ρ τ Unit).Yields scene progress fun _ after =>
        post (.ok ()) after := by
  rw [Event.linkDown, onEvent, Step.yields_bind, onLinkChanged, Step.yields_bind, Step.yields_link]
  cases hstate : progress.link.state with
  | disconnected =>
      rw [yields_transition_of_eq hstate]
      rfl
  | connecting | connected | disconnecting => rfl

end Moving

/-! ### Slight changes -/

/-- A change that is about neither the state of the link nor the profile and its alarms, nor about
anything that is still to be done. -/
structure Slight (f : Link σ ρ τ → Link σ ρ τ) : Prop where
  state : ∀ link, (f link).state = link.state
  session : ∀ link, (f link).session = link.session
  deferred : ∀ link, (f link).deferred = link.deferred
  queue : ∀ link, (f link).queue = link.queue
  alarms : ∀ link kind,
    (f link).alarms.isArmed (.session kind) = link.alarms.isArmed (.session kind)

namespace Slight

theorem hear (audio : AudioState) (wideband : Bool) :
    Slight fun link : Link σ ρ τ => { link with audio := audio, wideband := wideband } :=
  ⟨fun _ => rfl, fun _ => rfl, fun _ => rfl, fun _ => rfl, fun _ _ => rfl⟩

/-- An alarm of the link itself is struck out. -/
theorem cancel {kind : AlarmKind τ} (hown : kind.isSession = false) :
    Slight fun link : Link σ ρ τ => { link with alarms := link.alarms.cancel kind } := by
  refine ⟨fun _ => rfl, fun _ => rfl, fun _ => rfl, fun _ => rfl, fun link other => ?_⟩
  have hne : AlarmKind.session other ≠ kind := by
    rintro rfl
    cases hown
  rw [Alarms.isArmed_cancel, bne_iff_ne.2 hne, Bool.true_and]

/-- An alarm of the link itself is armed. -/
theorem schedule {kind : AlarmKind τ} (hown : kind.isSession = false)
    (deadline : Link σ ρ τ → Instant) :
    Slight fun link : Link σ ρ τ =>
      { link with alarms := link.alarms.schedule kind (deadline link) } := by
  refine ⟨fun _ => rfl, fun _ => rfl, fun _ => rfl, fun _ => rfl, fun link other => ?_⟩
  have hne : AlarmKind.session other ≠ kind := by
    rintro rfl
    cases hown
  rw [Alarms.isArmed_schedule, beq_eq_false_iff_ne.2 hne, Bool.false_or]

end Slight

/-! ### Properties that slight changes do not spoil -/

variable [ProfileSession σ ρ τ]

/-- No slight change spoils `I`, nor is it spoilt when the audio is announced and the profile takes
notice of it. -/
structure Turning (I : Progress σ ρ τ → Prop) : Prop where
  slight : ∀ f, Slight f → Step.Upholds I (Step.change f)
  audioChanged : ∀ previous current wideband,
    Step.Upholds I (Step.announce (.audioChanged previous current wideband))
  onAudioChanged : ∀ previous current wideband,
    Step.Upholds I (Step.consult (ProfileSession.onAudioChanged previous current wideband))

namespace Turning

variable {I : Progress σ ρ τ → Prop} (h : Turning I)

include h

theorem upholds_setAudio (audio : AudioState) (wideband : Bool) :
    Step.Upholds I (setAudio audio wideband : Step σ ρ τ Unit) := by
  refine .bind .link fun link => .bind (h.slight _ (.hear audio _)) fun _ => ?_
  exact .bind (h.audioChanged _ _ _) fun _ => h.onAudioChanged _ _ _

theorem upholds_silence : Step.Upholds I (silence : Step σ ρ τ Unit) :=
  .bind .link fun _ => .ite (fun _ => h.upholds_setAudio _ _) fun _ => .pure _

/-- On leaving any state but that of a connected link, at most an alarm of the link is struck
out. -/
theorem upholds_leave {state : LinkState} (hne : state ≠ .connected) :
    Step.Upholds I (leave state : Step σ ρ τ Unit) := by
  cases state with
  | disconnected => exact .pure _
  | connecting => exact h.slight _ (.cancel rfl)
  | connected => exact absurd rfl hne
  | disconnecting => exact h.slight _ (.cancel rfl)

/-- On entering a transient state, the alarm that bounds it is armed. -/
theorem upholds_enter {state : LinkState} (htransient : state.isStable = false) :
    Step.Upholds I (enter state : Step σ ρ τ Unit) := by
  cases state with
  | disconnected => cases htransient
  | connecting => exact .bind .read fun _ => h.slight _ (.schedule rfl _)
  | connected => cases htransient
  | disconnecting => exact .bind .read fun _ => h.slight _ (.schedule rfl _)

end Turning

/-! ### The state of a link -/

/-- Neither a slight change nor the profile touches the state of a link. -/
theorem turning_state (state : LinkState) :
    Turning fun progress : Progress σ ρ τ => progress.link.state = state where
  slight _ hf := fun _ _ h => (hf.state _).trans h
  audioChanged _ _ _ := fun _ _ h => h
  onAudioChanged _ _ _ := fun _ _ h => h

/-- On leaving a state the link is still in it. -/
theorem upholds_leave_state (state left : LinkState) :
    Step.Upholds (fun progress : Progress σ ρ τ => progress.link.state = state)
      (leave left : Step σ ρ τ Unit) := by
  have hturning := turning_state (σ := σ) (ρ := ρ) (τ := τ) state
  by_cases hconnected : left = .connected
  · subst hconnected
    exact .bind hturning.upholds_silence fun _ => fun _ _ h => h
  · exact hturning.upholds_leave hconnected

/-- After moving to another state, the link is in that state. -/
theorem yields_transition_state {scene : Scene} {progress : Progress σ ρ τ} {next : LinkState} :
    (transition next : Step σ ρ τ Unit).Yields scene progress fun _ after =>
      after.link.state = next := by
  by_cases hsame : progress.link.state = next
  · exact (yields_transition_of_eq hsame).2 hsame
  · rw [yields_transition_of_ne hsame]
    refine Step.yields_of_forall fun _ left => ?_
    have hturning := turning_state (σ := σ) (ρ := ρ) (τ := τ) next
    have hentered : Step.Upholds (fun progress : Progress σ ρ τ => progress.link.state = next)
        (enter next) := by
      cases next with
      | disconnected => exact fun _ _ h => h
      | connecting => exact hturning.upholds_enter rfl
      | connected =>
          refine .bind (fun _ _ h => h) fun _ => .bind hturning.upholds_silence fun _ => ?_
          exact fun _ _ h => h
      | disconnecting => exact hturning.upholds_enter rfl
    refine Step.Upholds.bind hentered (fun _ => ?_) scene _ rfl
    exact .ite (fun _ => fun _ _ h => h) fun _ => .pure _

end Link

end AudioLink
