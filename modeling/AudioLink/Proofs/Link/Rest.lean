/-
**A link at rest.**

Between two impulses the parts of a link agree with each other: there is audio only on a connected
link, the bounds on connecting and on disconnecting are armed exactly while the link is doing so,
and nothing waits in a stable state.  In the middle of an impulse they do not: an alarm that has
gone off is no longer armed, and until the link has been given up it is still on its way.  What
holds all the time is weaker, and says that in this case the next errand gives the link up.

Main definitions:

* `AudioLink.Link.AtRest` — the parts of a link agree;
* `AudioLink.Link.Consistent`, `AudioLink.Link.Bounded` — what the parts of a link forbid each
  other, and with it that a transient state is bounded by an alarm;
* `AudioLink.Link.Sound` — what holds between two errands;
* `AudioLink.Careful`, `AudioLink.Sparing` — a profile that leaves the alarms of the link alone, and
  one that is content with its own.

Main results:

* `AudioLink.Link.yields_transition_bounded` — moving to another state restores the bounds;
* `AudioLink.Link.yields_handle_sound` — every errand leaves the link sound;
* `AudioLink.Link.atRest_live` — **a link with a careful profile is at rest after every impulse**.
-/

import AudioLink.Proofs.Alarms
import AudioLink.Proofs.Link.Changes
import AudioLink.Proofs.Link.Life
import AudioLink.Proofs.Link.Moves

set_option relaxedAutoImplicit false
set_option autoImplicit false

namespace AudioLink

/-- On whatever occasion it is consulted, the profile leaves the alarms of the link alone. -/
def Careful (σ : Type) {ρ τ : Type} [ProfileSession σ ρ τ] [DecidableEq τ] : Prop :=
  ∀ before : Alarms (AlarmKind τ), ProfileUpholds σ fun desk => before.Spares desk.alarms

/-- On whatever occasion it is consulted, the profile arms and strikes out no alarms but its own, so
that it spoils nothing about the alarms that this does not spoil. -/
def Sparing (σ : Type) {ρ τ : Type} [ProfileSession σ ρ τ] [DecidableEq τ] : Prop :=
  ∀ K : Alarms (AlarmKind τ) → Prop,
    (∀ alarms kind deadline, K alarms → K (alarms.schedule (.session kind) deadline)) →
    (∀ alarms kind, K alarms → K (alarms.cancel (.session kind))) →
    ProfileUpholds σ fun desk => K desk.alarms

/-- A profile that is content with its own alarms leaves those of the link alone. -/
theorem Sparing.careful {σ ρ τ : Type} [ProfileSession σ ρ τ] [DecidableEq τ] (h : Sparing σ) :
    Careful σ :=
  fun before => h before.Spares (fun _ kind deadline hspared => hspared.schedule kind deadline)
    fun _ kind hspared => hspared.cancel kind

namespace Link

variable {σ ρ τ : Type} [DecidableEq τ]

/-! ### What the parts of a link have to do with each other -/

/-- What the parts of a link forbid each other. -/
structure Consistent (link : Link σ ρ τ) : Prop where
  audio : link.audio ≠ .off → link.state = .connected
  wideband : link.wideband = true → link.audio = .on
  connect : link.alarms.isArmed .connect = true → link.state = .connecting
  disconnect : link.alarms.isArmed .disconnect = true → link.state = .disconnecting
  single : link.alarms.Single
  deferred : ∀ message ∈ link.deferred, message = .connect
  stable : link.state.isStable = true → link.deferred = []

/-- What the parts of a link forbid each other, and that a transient state is bounded by an
alarm. -/
structure Bounded (link : Link σ ρ τ) : Prop extends Consistent link where
  connecting : link.state = .connecting → link.alarms.isArmed .connect = true
  disconnecting : link.state = .disconnecting → link.alarms.isArmed .disconnect = true

/-- The next errand is an alarm that has gone off, or gives the link up on account of one. -/
inductive Expires (kind : AlarmKind τ) : List (Errand ρ τ) → Prop
  | alarm (rest : List (Errand ρ τ)) : Expires kind (.alarm kind :: rest)
  | linkDown (rest : List (Errand ρ τ)) : Expires kind (.message (.event .linkDown) :: rest)

omit [DecidableEq τ] in
/-- An alarm that goes off is about no other. -/
theorem not_expires_alarm {kind other : AlarmKind τ} (hne : kind ≠ other)
    (rest : List (Errand ρ τ)) : ¬Expires kind (.alarm other :: rest) := by
  intro hexpires
  cases hexpires
  exact hne rfl

/-- What holds between two errands: a transient state is bounded by an alarm, or the alarm has gone
off and the next errand is about it. -/
structure Sound (link : Link σ ρ τ) : Prop extends Consistent link where
  connecting : link.state = .connecting →
    link.alarms.isArmed .connect = true ∨ Expires .connect link.queue
  disconnecting : link.state = .disconnecting →
    link.alarms.isArmed .disconnect = true ∨ Expires .disconnect link.queue

/-- The parts of a link agree with each other. -/
structure AtRest (link : Link σ ρ τ) : Prop where
  audio : link.audio ≠ .off → link.state = .connected
  wideband : link.wideband = true → link.audio = .on
  connect : link.alarms.isArmed .connect = true ↔ link.state = .connecting
  disconnect : link.alarms.isArmed .disconnect = true ↔ link.state = .disconnecting
  single : link.alarms.Single
  deferred : ∀ message ∈ link.deferred, message = .connect
  transient : link.deferred ≠ [] → link.state = .connecting ∨ link.state = .disconnecting
  queue : link.queue = []

/-- Nothing of this depends on what is in the queue. -/
theorem Consistent.requeue {link : Link σ ρ τ} (h : Consistent link)
    (queue : List (Errand ρ τ)) : Consistent { link with queue := queue } :=
  ⟨h.audio, h.wideband, h.connect, h.disconnect, h.single, h.deferred, h.stable⟩

theorem Bounded.requeue {link : Link σ ρ τ} (h : Bounded link) (queue : List (Errand ρ τ)) :
    Bounded { link with queue := queue } :=
  { h.toConsistent.requeue queue with
    connecting := h.connecting
    disconnecting := h.disconnecting }

theorem Bounded.sound {link : Link σ ρ τ} (h : Bounded link) : Sound link :=
  { h with
    connecting := fun hstate => .inl (h.connecting hstate)
    disconnecting := fun hstate => .inl (h.disconnecting hstate) }

/-- When the next errand is not about the alarm of the present state, that alarm is armed, whatever
else is in the queue. -/
theorem Sound.bounded {link : Link σ ρ τ} (h : Sound link)
    (hconnect : link.state = .connecting → ¬Expires .connect link.queue)
    (hdisconnect : link.state = .disconnecting → ¬Expires .disconnect link.queue)
    (rest : List (Errand ρ τ)) : Bounded { link with queue := rest } :=
  { h.requeue rest with
    connecting := fun hstate => (h.connecting hstate).resolve_right (hconnect hstate)
    disconnecting := fun hstate => (h.disconnecting hstate).resolve_right (hdisconnect hstate) }

/-- With nothing in the queue, every transient state is bounded. -/
theorem Sound.bounded_of_queue_nil {link : Link σ ρ τ} (h : Sound link)
    (hqueue : link.queue = []) : Bounded link := by
  have hnone (kind : AlarmKind τ) : ¬Expires kind link.queue := by
    rw [hqueue]
    nofun
  exact
    { h with
      connecting := fun hstate => (h.connecting hstate).resolve_right (hnone _)
      disconnecting := fun hstate => (h.disconnecting hstate).resolve_right (hnone _) }

theorem Bounded.atRest {link : Link σ ρ τ} (h : Bounded link) (hqueue : link.queue = []) :
    AtRest link := by
  refine ⟨h.audio, h.wideband, ⟨h.connect, h.connecting⟩, ⟨h.disconnect, h.disconnecting⟩,
    h.single, h.deferred, ?_, hqueue⟩
  intro hwaiting
  cases hstate : link.state with
  | disconnected => exact absurd (h.stable (by rw [hstate]; rfl)) hwaiting
  | connecting => exact .inl rfl
  | connected => exact absurd (h.stable (by rw [hstate]; rfl)) hwaiting
  | disconnecting => exact .inr rfl

/-- What waits between two impulses waits in a transient state. -/
theorem AtRest.isStable_eq_false {link : Link σ ρ τ} (h : AtRest link)
    (hwaiting : link.deferred ≠ []) : link.state.isStable = false := by
  rcases h.transient hwaiting with hstate | hstate
  · rw [hstate]
    rfl
  · rw [hstate]
    rfl

theorem AtRest.bounded {link : Link σ ρ τ} (h : AtRest link) : Bounded link where
  audio := h.audio
  wideband := h.wideband
  connect := h.connect.1
  disconnect := h.disconnect.1
  single := h.single
  deferred := h.deferred
  stable hstable := by
    cases hwaiting : link.deferred with
    | nil => rfl
    | cons message rest =>
        have htransient := h.isStable_eq_false (by rw [hwaiting]; nofun)
        cases hstable.symm.trans htransient
  connecting := h.connect.2
  disconnecting := h.disconnect.2

/-- Whatever is in the queue, a link that is given up next is sound. -/
theorem Consistent.sound_giveUp {link : Link σ ρ τ} (h : Consistent link)
    (rest : List (Errand ρ τ)) :
    Sound { link with queue := .message (.event .linkDown) :: rest } :=
  { h.requeue _ with
    connecting := fun _ => .inr (.linkDown rest)
    disconnecting := fun _ => .inr (.linkDown rest) }

/-- An alarm that goes off between two errands is the next errand. -/
theorem Bounded.sound_of_popDue {link : Link σ ρ τ} (h : Bounded link) {now : Instant}
    {kind : AlarmKind τ} {others : Alarms (AlarmKind τ)}
    (hpop : link.alarms.popDue now = some (kind, others)) :
    Sound { link with alarms := others, queue := [.alarm kind] } := by
  have hkept (other : AlarmKind τ) (harmed : link.alarms.isArmed other = true) :
      others.isArmed other = true ∨ Expires other [Errand.alarm (ρ := ρ) kind] := by
    by_cases hkind : other = kind
    · exact .inr (hkind ▸ .alarm [])
    · exact .inl ((Alarms.isArmed_of_popDue hpop hkind).trans harmed)
  exact
    { audio := h.audio
      wideband := h.wideband
      connect := fun harmed => h.connect (Alarms.isArmed_le_of_popDue hpop harmed)
      disconnect := fun harmed => h.disconnect (Alarms.isArmed_le_of_popDue hpop harmed)
      single := Alarms.single_of_popDue h.single hpop
      deferred := h.deferred
      stable := h.stable
      connecting := fun hstate => hkept _ (h.connecting hstate)
      disconnecting := fun hstate => hkept _ (h.disconnecting hstate) }

theorem bounded_start (peer : Address) (session : σ) :
    Bounded (start peer session : Link σ ρ τ) where
  audio h := absurd rfl h
  wideband h := nomatch h
  connect h := nomatch h
  disconnect h := nomatch h
  single := Alarms.single_empty
  deferred := nofun
  stable _ := rfl
  connecting h := nomatch h
  disconnecting h := nomatch h

/-! ### What the profile leaves alone -/

/-- Between two moments nothing was touched but the profile, its alarms and the queue. -/
structure Alike (link next : Link σ ρ τ) : Prop where
  state : next.state = link.state
  audio : next.audio = link.audio
  wideband : next.wideband = link.wideband
  deferred : next.deferred = link.deferred
  alarms : link.alarms.Spares next.alarms

theorem Consistent.of_alike {link next : Link σ ρ τ} (h : Consistent link)
    (hnext : Alike link next) : Consistent next where
  audio := by
    rw [hnext.audio, hnext.state]
    exact h.audio
  wideband := by
    rw [hnext.wideband, hnext.audio]
    exact h.wideband
  connect := by
    rw [hnext.alarms.isArmed _ rfl, hnext.state]
    exact h.connect
  disconnect := by
    rw [hnext.alarms.isArmed _ rfl, hnext.state]
    exact h.disconnect
  single := hnext.alarms.single h.single
  deferred := by
    rw [hnext.deferred]
    exact h.deferred
  stable := by
    rw [hnext.state, hnext.deferred]
    exact h.stable

theorem Bounded.of_alike {link next : Link σ ρ τ} (h : Bounded link) (hnext : Alike link next) :
    Bounded next where
  toConsistent := h.toConsistent.of_alike hnext
  connecting := by
    rw [hnext.alarms.isArmed _ rfl, hnext.state]
    exact h.connecting
  disconnecting := by
    rw [hnext.alarms.isArmed _ rfl, hnext.state]
    exact h.disconnecting

theorem Consistent.off {link : Link σ ρ τ} (h : Consistent link) (hne : link.state ≠ .connected) :
    link.audio = .off := by
  cases haudio : link.audio with
  | off => rfl
  | connecting => exact absurd (h.audio (by rw [haudio]; nofun)) hne
  | on => exact absurd (h.audio (by rw [haudio]; nofun)) hne

theorem Consistent.narrow {link : Link σ ρ τ} (h : Consistent link) (hoff : link.audio = .off) :
    link.wideband = false := by
  cases hwide : link.wideband with
  | false => rfl
  | true =>
      have hon := h.wideband hwide
      rw [hoff] at hon
      cases hon

theorem Consistent.unarmed_connect {link : Link σ ρ τ} (h : Consistent link)
    (hne : link.state ≠ .connecting) : link.alarms.isArmed .connect = false :=
  Bool.eq_false_iff.2 fun harmed => hne (h.connect harmed)

theorem Consistent.unarmed_disconnect {link : Link σ ρ τ} (h : Consistent link)
    (hne : link.state ≠ .disconnecting) : link.alarms.isArmed .disconnect = false :=
  Bool.eq_false_iff.2 fun harmed => hne (h.disconnect harmed)

/-- Neither audio nor a bound is left over from an earlier state. -/
structure Cleared (link : Link σ ρ τ) : Prop where
  off : link.audio = .off
  narrow : link.wideband = false
  connect : link.alarms.isArmed .connect = false
  disconnect : link.alarms.isArmed .disconnect = false
  single : link.alarms.Single
  deferred : ∀ message ∈ link.deferred, message = .connect

theorem Cleared.of_alike {link next : Link σ ρ τ} (h : Cleared link) (hnext : Alike link next) :
    Cleared next where
  off := hnext.audio.trans h.off
  narrow := hnext.wideband.trans h.narrow
  connect := (hnext.alarms.isArmed _ rfl).trans h.connect
  disconnect := (hnext.alarms.isArmed _ rfl).trans h.disconnect
  single := hnext.alarms.single h.single
  deferred := by
    rw [hnext.deferred]
    exact h.deferred

/-- In a stable state nothing needs to be bounded, once what was deferred has been taken up. -/
theorem Cleared.bounded {link : Link σ ρ τ} (h : Cleared link)
    (hstable : link.state.isStable = true) (queue : List (Errand ρ τ)) :
    Bounded { link with queue := queue, deferred := [] } where
  audio hon := absurd h.off hon
  wideband hwide := nomatch h.narrow.symm.trans hwide
  connect harmed := nomatch h.connect.symm.trans harmed
  disconnect harmed := nomatch h.disconnect.symm.trans harmed
  single := h.single
  deferred := nofun
  stable _ := rfl
  connecting hstate := nomatch (congrArg LinkState.isStable hstate).symm.trans hstable
  disconnecting hstate := nomatch (congrArg LinkState.isStable hstate).symm.trans hstable

section Steps

variable [ProfileSession σ ρ τ] {scene : Scene} {progress : Progress σ ρ τ}

omit [ProfileSession σ ρ τ] in
theorem yields_consult_alike {α : Type} {work : Work σ τ α}
    (hwork : ∀ before : Alarms (AlarmKind τ),
      Work.Upholds (fun desk => before.Spares desk.alarms) work) :
    (Step.consult work : Step σ ρ τ α).Yields scene progress fun _ after =>
      Alike progress.link after.link := by
  rw [Step.yields_consult]
  refine Work.yields_mono (hwork progress.link.alarms _ _ (.refl _)) ?_
  intro _ desk halarms
  exact ⟨rfl, rfl, rfl, rfl, halarms⟩

variable (hcareful : Careful σ)

include hcareful

theorem yields_setAudio_alike (audio : AudioState) (wideband : Bool) :
    (setAudio audio wideband : Step σ ρ τ Unit).Yields scene progress fun _ after =>
      Alike { progress.link with audio := audio, wideband := audio == .on && wideband }
        after.link := by
  rw [setAudio, Step.yields_bind, Step.yields_link, Step.yields_bind, Step.yields_change,
    Step.yields_bind, Step.yields_announce]
  refine yields_consult_alike ?_
  intro before
  exact (hcareful before).onAudioChanged _ _ _

theorem yields_silence_alike (h : Consistent progress.link) :
    (silence : Step σ ρ τ Unit).Yields scene progress fun _ after =>
      Alike { progress.link with audio := .off, wideband := false } after.link := by
  rw [silence, Step.yields_bind, Step.yields_link, Step.yields_ite]
  split
  · exact yields_setAudio_alike hcareful .off false
  · next hoff =>
      have hoff := Decidable.not_not.1 hoff
      exact ⟨rfl, hoff, h.narrow hoff, rfl, .refl _⟩

/-! ### Moving to another state -/

/-- On leaving a state everything that belongs to it is cleared. -/
theorem yields_leave_cleared (h : Consistent progress.link) :
    (leave progress.link.state : Step σ ρ τ Unit).Yields scene progress fun _ after =>
      Cleared after.link := by
  -- there is no audio outside a connection, and no bound is armed but that of the state itself
  cases hstate : progress.link.state with
  | disconnected =>
      have hoff := h.off (by rw [hstate]; decide)
      refine ⟨hoff, h.narrow hoff, ?_, ?_, h.single, h.deferred⟩
      · exact h.unarmed_connect (by rw [hstate]; decide)
      · exact h.unarmed_disconnect (by rw [hstate]; decide)
  | connecting =>
      have hoff := h.off (by rw [hstate]; decide)
      have hother := h.unarmed_disconnect (by rw [hstate]; decide)
      rw [leave, Step.yields_change]
      refine ⟨hoff, h.narrow hoff, ?_, ?_, Alarms.single_cancel h.single _, h.deferred⟩
      · simp
      · simp [hother]
  | disconnecting =>
      have hoff := h.off (by rw [hstate]; decide)
      have hother := h.unarmed_connect (by rw [hstate]; decide)
      rw [leave, Step.yields_change]
      refine ⟨hoff, h.narrow hoff, ?_, ?_, Alarms.single_cancel h.single _, h.deferred⟩
      · simp [hother]
      · simp
  | connected =>
      have hconnect := h.unarmed_connect (by rw [hstate]; decide)
      have hdisconnect := h.unarmed_disconnect (by rw [hstate]; decide)
      rw [leave, Step.yields_bind]
      refine Step.yields_mono (yields_silence_alike hcareful h) ?_
      intro _ after hafter
      rw [Step.yields_change]
      refine ⟨hafter.audio, hafter.wideband, ?_, ?_, ?_, ?_⟩
      · simp [hafter.alarms.isArmed .connect rfl, hconnect]
      · simp [hafter.alarms.isArmed .disconnect rfl, hdisconnect]
      · exact Alarms.single_cancelWhere (hafter.alarms.single h.single) _
      · intro message hmessage
        rw [show after.link.deferred = progress.link.deferred from hafter.deferred] at hmessage
        exact h.deferred message hmessage

omit hcareful in
/-- An alarm bounds the attempt to connect. -/
theorem yields_enter_connecting (h : Cleared progress.link)
    (hstate : progress.link.state = .connecting) :
    (enter .connecting : Step σ ρ τ Unit).Yields scene progress fun _ after =>
      Bounded after.link := by
  rw [enter, bound, Step.yields_bind, Step.yields_read, Step.yields_change]
  exact
    { audio := fun hon => absurd h.off hon
      wideband := fun hwide => nomatch h.narrow.symm.trans hwide
      connect := fun _ => hstate
      disconnect := fun harmed => by simp [h.disconnect] at harmed
      single := Alarms.single_schedule h.single _ _
      deferred := h.deferred
      stable := fun hstable => nomatch (congrArg LinkState.isStable hstate).symm.trans hstable
      connecting := fun _ => by simp
      disconnecting := fun hother => nomatch hstate.symm.trans hother }

omit hcareful in
/-- An alarm bounds the end of the connection. -/
theorem yields_enter_disconnecting (h : Cleared progress.link)
    (hstate : progress.link.state = .disconnecting) :
    (enter .disconnecting : Step σ ρ τ Unit).Yields scene progress fun _ after =>
      Bounded after.link := by
  rw [enter, bound, Step.yields_bind, Step.yields_read, Step.yields_change]
  exact
    { audio := fun hon => absurd h.off hon
      wideband := fun hwide => nomatch h.narrow.symm.trans hwide
      connect := fun harmed => by simp [h.connect] at harmed
      disconnect := fun _ => hstate
      single := Alarms.single_schedule h.single _ _
      deferred := h.deferred
      stable := fun hstable => nomatch (congrArg LinkState.isStable hstate).symm.trans hstable
      connecting := fun hother => nomatch hstate.symm.trans hother
      disconnecting := fun _ => by simp }

/-- On entering a stable state nothing is armed, and there is no audio. -/
theorem yields_enter_stable {next : LinkState} (hstable : next.isStable = true)
    (h : Cleared progress.link) (hstate : progress.link.state = next) :
    (enter next : Step σ ρ τ Unit).Yields scene progress fun _ after =>
      Cleared after.link ∧ after.link.state = next := by
  cases next with
  | connecting => cases hstable
  | disconnecting => cases hstable
  | disconnected =>
      rw [enter]
      refine Step.yields_mono (yields_consult_alike fun before => ?_) ?_
      · exact (hcareful before).onDisconnected
      · intro _ after hafter
        exact ⟨h.of_alike hafter, hafter.state.trans hstate⟩
  | connected =>
      rw [enter, Step.yields_bind, Step.yields_change, Step.yields_bind, silence, Step.yields_bind,
        Step.yields_link, if_neg (not_not_intro h.off), Step.yields_pure]
      refine Step.yields_mono (yields_consult_alike fun before => ?_) ?_
      · exact (hcareful before).onConnected
      · intro _ after hafter
        have hkept : Cleared { progress.link with
            deferred := progress.link.deferred.filter (!·.isConnect) } :=
          { h with deferred := fun message hmessage =>
              h.deferred message (List.mem_filter.1 hmessage).1 }
        exact ⟨hkept.of_alike hafter, hafter.state.trans hstate⟩

/-- **Moving to another state restores the bounds.** -/
theorem yields_transition_bounded {next : LinkState} (h : Consistent progress.link)
    (hne : progress.link.state ≠ next) :
    (transition next : Step σ ρ τ Unit).Yields scene progress fun _ after =>
      Bounded after.link := by
  rw [yields_transition_of_ne hne]
  refine Step.yields_mono (yields_leave_cleared hcareful h) ?_
  intro _ left hleft
  -- what was cleared is still clear in the next state
  have hleft : Cleared { left.link with state := next } := { hleft with }
  rw [Step.yields_bind]
  cases hstable : next.isStable with
  | true =>
      refine Step.yields_mono (yields_enter_stable hcareful hstable hleft rfl) ?_
      rintro _ after ⟨hafter, hstate⟩
      rw [if_pos rfl, replayDeferred, Step.yields_change]
      exact hafter.bounded (hstate ▸ hstable) _
  | false =>
      cases next with
      | disconnected => cases hstable
      | connected => cases hstable
      | connecting => exact yields_enter_connecting hleft rfl
      | disconnecting => exact yields_enter_disconnecting hleft rfl

/-! ### Messages -/

/-- A link with bounds, in the middle of a step. -/
def HasBounds (progress : Progress σ ρ τ) : Prop := Bounded progress.link

omit [ProfileSession σ ρ τ] hcareful in
theorem upholds_consult_bounded {α : Type} {work : Work σ τ α}
    (hwork : ∀ before : Alarms (AlarmKind τ),
      Work.Upholds (fun desk => before.Spares desk.alarms) work) :
    Step.Upholds HasBounds (Step.consult work : Step σ ρ τ α) := by
  intro scene progress h
  refine Step.yields_mono (yields_consult_alike hwork) ?_
  intro _ after hafter
  exact Bounded.of_alike h hafter

theorem upholds_transition_bounded (next : LinkState) :
    Step.Upholds HasBounds (transition next : Step σ ρ τ Unit) := by
  intro scene progress h
  by_cases hne : progress.link.state = next
  · rw [yields_transition_of_eq hne]
    exact h
  · exact yields_transition_bounded hcareful h.toConsistent hne

/-- No move of a link spoils the bounds. -/
theorem moves_bounded : Moves (HasBounds : Progress σ ρ τ → Prop) where
  ask _ _ := fun _ _ h => h
  transition := upholds_transition_bounded hcareful
  setAudio audio wideband scene progress hstate h := by
    have hheard : Bounded { progress.link with
        audio := audio, wideband := audio == .on && wideband } :=
      { h with
        audio := fun _ => hstate
        wideband := fun hwide => eq_of_beq (Bool.and_eq_true_iff.1 hwide).1 }
    refine Step.yields_mono (yields_setAudio_alike hcareful audio wideband) ?_
    intro _ after hafter
    exact hheard.of_alike hafter
  defer progress hstate h :=
    { h with
      deferred := fun message hmessage => (List.mem_append.1 hmessage).elim
        (h.deferred message) List.mem_singleton.1
      stable := fun hstable => nomatch hstate.symm.trans hstable }
  introduce _ _ h := Bounded.of_alike h ⟨rfl, rfl, rfl, rfl, .refl _⟩

theorem upholds_onMessage_bounded [Outlined ρ] (message : Message ρ) :
    Step.Upholds HasBounds (onMessage message : Step σ ρ τ Verdict) :=
  (moves_bounded hcareful).upholds_onMessage
    (fun request _ => upholds_consult_bounded fun before => (hcareful before).onRequest request)
    fun event _ => upholds_consult_bounded fun before => (hcareful before).onEvent event

/-- A link that is given up is bounded afterwards, even if it was not. -/
theorem yields_linkDown_bounded (h : Consistent progress.link) :
    (onEvent .linkDown : Step σ ρ τ Verdict).Yields scene progress fun _ after =>
      HasBounds after := by
  rw [yields_linkDown]
  by_cases hdown : progress.link.state = .disconnected
  · rw [yields_transition_of_eq hdown]
    exact
      { h with
        connecting := fun hother => nomatch hdown.symm.trans hother
        disconnecting := fun hother => nomatch hdown.symm.trans hother }
  · exact yields_transition_bounded hcareful h hdown

/-! ### Errands -/

/-- An alarm that goes off in the state it was armed for gives the link up; any other leaves the
bounds as they are. -/
theorem yields_onAlarm_sound {kind : AlarmKind τ} {rest : List (Errand ρ τ)}
    (h : Sound progress.link) (hqueue : progress.link.queue = .alarm kind :: rest) :
    (onAlarm kind : Step σ ρ τ Verdict).Yields scene
      ⟨{ progress.link with queue := rest }, progress.log⟩ fun _ after => Sound after.link := by
  rw [onAlarm, Step.yields_bind, Step.yields_link]
  cases kind with
  | connect =>
      by_cases hstate : progress.link.state = .connecting
      · rw [hstate]
        exact h.toConsistent.sound_giveUp rest
      · -- the alarm was armed for a state that the link has left
        rw [if_neg hstate]
        refine (h.bounded (fun hsame => absurd hsame hstate) (fun _ => ?_) rest).sound
        rw [hqueue]
        exact not_expires_alarm (by simp) rest
  | disconnect =>
      by_cases hstate : progress.link.state = .disconnecting
      · rw [hstate]
        exact h.toConsistent.sound_giveUp rest
      · rw [if_neg hstate]
        refine (h.bounded (fun _ => ?_) (fun hsame => absurd hsame hstate) rest).sound
        rw [hqueue]
        exact not_expires_alarm (by simp) rest
  | session kind =>
      have hbounded : Bounded { progress.link with queue := rest } := by
        refine h.bounded (fun _ => ?_) (fun _ => ?_) rest
        · rw [hqueue]
          exact not_expires_alarm (by simp) rest
        · rw [hqueue]
          exact not_expires_alarm (by simp) rest
      have hconsulted := upholds_consult_bounded (ρ := ρ)
        (fun before => (hcareful before).onAlarm kind) scene ⟨_, progress.log⟩ hbounded
      show (if progress.link.state = .connected then _ else _ : Step σ ρ τ Verdict).Yields scene _ _
      rw [Step.yields_ite]
      split
      · exact Step.yields_mono hconsulted fun _ _ h => Bounded.sound h
      · exact hbounded.sound

/-- Every errand leaves the link sound. -/
theorem yields_handle_sound [Outlined ρ] {errand : Errand ρ τ} {rest : List (Errand ρ τ)}
    (h : Sound progress.link) (hqueue : progress.link.queue = errand :: rest) :
    (handle errand : Step σ ρ τ Unit).Yields scene
      ⟨{ progress.link with queue := rest }, progress.log⟩ fun _ after => Sound after.link := by
  refine yields_handle (P := fun after => Sound after.link) ?_ fun _ _ h => h
  cases errand with
  | alarm kind => exact yields_onAlarm_sound hcareful h hqueue
  | message message =>
      -- only a link that is given up may be found in a transient state without a bound
      by_cases hdown : message = .event .linkDown
      · subst hdown
        refine Step.yields_mono (yields_linkDown_bounded hcareful ?_) ?_
        · exact h.requeue rest
        · intro _ after hafter
          exact Bounded.sound hafter
      · have hnone (kind : AlarmKind τ) : ¬Expires kind progress.link.queue := by
          rw [hqueue]
          intro hexpires
          cases hexpires
          exact hdown rfl
        have hbounded := h.bounded (fun _ => hnone _) (fun _ => hnone _) rest
        refine Step.yields_mono (upholds_onMessage_bounded hcareful message scene _ hbounded) ?_
        intro _ after hafter
        exact Bounded.sound hafter

/-! ### Impulses -/

/-- An impulse leaves the link sound. -/
theorem sound_respond [Outlined ρ] {link : Link σ ρ τ} (hqueue : link.queue = []) (h : Sound link)
    (impulse : Impulse ρ) : Sound (link.respond impulse).1 := by
  cases impulse with
  | hand scene message =>
      have hbounded := h.bounded_of_queue_nil hqueue
      refine respond_hand (P := fun after => Sound after.link) hqueue ?_ ?_
      · refine yields_handle (P := fun after => Sound after.link) ?_ fun _ _ h => h
        refine Step.yields_mono (upholds_onMessage_bounded hcareful message scene _ hbounded) ?_
        intro _ after hafter
        exact Bounded.sound hafter
      · intro progress errand rest hsound hcons
        exact yields_handle_sound hcareful hsound hcons
  | wake scene =>
      refine respond_wake (P := fun after => Sound after.link) hqueue h ?_ ?_
      · intro progress kind others hsound hempty hpop
        exact (hsound.bounded_of_queue_nil hempty).sound_of_popDue hpop
      · intro progress errand rest hsound hcons
        exact yields_handle_sound hcareful hsound hcons

/-- **A link with a careful profile is at rest after every impulse.** -/
theorem atRest_live [Outlined ρ] {link : Link σ ρ τ} (hqueue : link.queue = [])
    (h : Bounded link) (impulses : List (Impulse ρ)) : AtRest (link.live impulses).1 := by
  have hlived := live_induction (P := fun link _ => link.queue = [] ∧ Sound link)
    ⟨hqueue, h.sound⟩ ?_ impulses
  · exact (hlived.2.bounded_of_queue_nil hlived.1).atRest hlived.1
  · rintro link log impulse ⟨hqueue, hsound⟩
    exact ⟨queue_respond hqueue impulse, sound_respond hcareful hqueue hsound impulse⟩

end Steps

end Link

end AudioLink
