/-
**What holds at one instant.**

An impulse comes at one instant, and everything that a link does about it is done at that instant.
Some properties can only be kept by someone who keeps to it: that no alarm is armed to go off at
once, or that nothing is asked before its time.  Work that is done at another instant could spoil
them.  The rules for such properties are those for any others, as long as the instant is carried
along.

Of what handsfree does at its desk, two things only have to do with the instant: asking for the list
of calls, and the end of a list.  The rest upholds at one instant what it upholds at all.

Main definitions:

* `AudioLink.Work.UpholdsAt`, `AudioLink.Step.UpholdsAt` — at one instant a property is kept;
* `AudioLink.ProfileUpholdsAt` — a profile keeps it on every occasion;
* `AudioLink.Link.HoldsAt` — nothing that a link does at one instant spoils a property;
* `AudioLink.Handsfree.ActsAt` — no act of handsfree does.

Main results:

* `AudioLink.Link.HoldsAt.upholdsAt_handle`, `AudioLink.Link.HoldsAt.of_moment` — **every errand
  upholds what nothing spoils at its instant**, and so it holds at every moment of an impulse;
* `AudioLink.Handsfree.ActsAt.upholdsAt_onRequest`, `AudioLink.Handsfree.ActsAt.upholdsAt_onEvent`,
  `AudioLink.Handsfree.ActsAt.profile` — so does handsfree on every occasion.
-/

import AudioLink.Proofs.Handsfree.Acts
import AudioLink.Proofs.Link.Lasting

set_option relaxedAutoImplicit false
set_option autoImplicit false

namespace AudioLink

variable {σ ρ τ α β : Type} {now : Instant}

/-! ### Work and steps -/

/-- Whatever else the profile sees, at this instant the work does not spoil `I`. -/
def Work.UpholdsAt (now : Instant) (I : Desk σ τ → Prop) (work : Work σ τ α) : Prop :=
  ∀ view desk, view.now = now → I desk → work.Yields view desk fun _ desk => I desk

theorem Work.Upholds.upholdsAt {I : Desk σ τ → Prop} {work : Work σ τ α}
    (h : Work.Upholds I work) : Work.UpholdsAt now I work :=
  fun view desk _ => h view desk

/-- Whatever else is fixed, at this instant the step does not spoil `I`. -/
def Step.UpholdsAt (now : Instant) (I : Progress σ ρ τ → Prop) (step : Step σ ρ τ α) : Prop :=
  ∀ scene progress, scene.now = now → I progress →
    step.Yields scene progress fun _ progress => I progress

theorem Step.Upholds.upholdsAt {I : Progress σ ρ τ → Prop} {step : Step σ ρ τ α}
    (h : Step.Upholds I step) : Step.UpholdsAt now I step :=
  fun scene progress _ => h scene progress

namespace Step.UpholdsAt

variable {I : Progress σ ρ τ → Prop}

theorem bind {step : Step σ ρ τ α} {rest : α → Step σ ρ τ β} (hstep : UpholdsAt now I step)
    (hrest : ∀ a, UpholdsAt now I (rest a)) : UpholdsAt now I (step >>= rest) :=
  fun scene progress hnow h => hrest _ scene _ hnow (hstep scene progress hnow h)

theorem ite {c : Prop} [Decidable c] {yes no : Step σ ρ τ α} (hyes : UpholdsAt now I yes)
    (hno : UpholdsAt now I no) : UpholdsAt now I (if c then yes else no) := by
  split
  · exact hyes
  · exact hno

/-- What the work of the profile does not spoil at its desk, its being consulted does not spoil
either. -/
theorem consult {J : Desk σ τ → Prop} {work : Work σ τ α} (hwork : Work.UpholdsAt now J work)
    (enter : ∀ progress, I progress → J (Step.desk progress))
    (leave : ∀ (progress : Progress σ ρ τ) desk, J desk →
      I ⟨Step.settle progress.link desk, desk.log⟩) :
    UpholdsAt now I (Step.consult work : Step σ ρ τ α) := by
  intro scene progress hnow h
  rw [Step.yields_consult]
  refine Work.yields_mono (hwork _ _ hnow (enter progress h)) ?_
  exact fun _ desk hdesk => leave progress desk hdesk

end Step.UpholdsAt

/-- On whatever occasion the profile is consulted at this instant, it does not spoil `I`. -/
structure ProfileUpholdsAt (σ : Type) {ρ τ : Type} [ProfileSession σ ρ τ] (now : Instant)
    (I : Desk σ τ → Prop) : Prop where
  onConnected : Work.UpholdsAt now I ProfileSession.onConnected
  onDisconnected : Work.UpholdsAt now I ProfileSession.onDisconnected
  onAudioChanged : ∀ previous current wideband,
    Work.UpholdsAt now I (ProfileSession.onAudioChanged previous current wideband)
  onEvent : ∀ event, Work.UpholdsAt now I (ProfileSession.onEvent event)
  onRequest : ∀ request, Work.UpholdsAt now I (ProfileSession.onRequest request)
  onAlarm : ∀ kind, Work.UpholdsAt now I (ProfileSession.onAlarm kind)

/-- A profile that keeps a property keeps it at every instant. -/
theorem ProfileUpholds.upholdsAt [ProfileSession σ ρ τ] {I : Desk σ τ → Prop}
    (h : ProfileUpholds σ I) : ProfileUpholdsAt σ now I where
  onConnected := h.onConnected.upholdsAt
  onDisconnected := h.onDisconnected.upholdsAt
  onAudioChanged previous current wideband := (h.onAudioChanged previous current wideband).upholdsAt
  onEvent event := (h.onEvent event).upholdsAt
  onRequest request := (h.onRequest request).upholdsAt
  onAlarm kind := (h.onAlarm kind).upholdsAt

/-! ### Links -/

namespace Link

variable [ProfileSession σ ρ τ] [DecidableEq τ]

/-- Nothing that a link does at this instant spoils `I`. -/
structure HoldsAt (now : Instant) (I : Progress σ ρ τ → Prop) : Prop where
  ask : ∀ request, IsOwn request → Step.Upholds I (Step.ask request)
  introduce : ∀ progress capabilities, I progress →
    I { progress with link := { progress.link with
      session := (ProfileSession.onLinkUp capabilities progress.link.session).2 } }
  transition : ∀ next, Step.UpholdsAt now I (transition next)
  setAudio : ∀ audio wideband, Step.UpholdsAt now I (setAudio audio wideband)
  defer : ∀ progress, I progress → I { progress with
    link := { progress.link with deferred := progress.link.deferred ++ [.connect] } }
  giveUp : Step.Upholds I giveUp
  failed : ∀ progress fault, I progress →
    I { progress with log := progress.log ++ [.notice (.requestFailed fault)] }
  onRequest : ∀ request, Step.UpholdsAt now I (Step.consult (ProfileSession.onRequest request))
  onEvent : ∀ event, Step.UpholdsAt now I (Step.consult (ProfileSession.onEvent event))
  onAlarm : ∀ kind, Step.UpholdsAt now I (Step.consult (ProfileSession.onAlarm kind))

/-- **Every errand upholds what nothing spoils at its instant.** -/
theorem HoldsAt.upholdsAt_handle [Outlined ρ] {I : Progress σ ρ τ → Prop} (h : HoldsAt now I)
    (errand : Errand ρ τ) : Step.UpholdsAt now I (handle errand : Step σ ρ τ Unit) := by
  intro scene progress hnow hI
  refine yields_handle ?_ h.failed
  cases errand with
  | message message =>
      have hconduct : Conduct scene message I I I :=
        { introduce := fun progress capabilities _ => h.introduce progress capabilities
          ask := fun request progress occasion hI => h.ask request occasion.isOwn scene progress hI
          unasked := fun _ hI => hI
          rise := fun next progress _ _ hI => h.transition next scene progress hnow hI
          transition := fun next progress _ hI => h.transition next scene progress hnow hI
          setAudio := fun audio wideband progress _ _ hI =>
            h.setAudio audio wideband scene progress hnow hI
          defer := fun progress _ _ hI => h.defer progress hI
          stay := fun _ hI => hI
          request := fun request progress _ _ hI => h.onRequest request scene progress hnow hI
          event := fun event progress _ _ hI => h.onEvent event scene progress hnow hI }
      exact hconduct.yields_onMessage hI
  | alarm kind =>
      refine yields_onAlarm hI (fun _ _ => ?_) (fun _ _ => h.giveUp scene progress hI) ?_
      · have hexpired : Step.Upholds I (do refuse; Link.giveUp : Step σ ρ τ Unit) :=
          .bind (.bind (h.ask _ .disconnect) fun _ => .pure _) fun _ => h.giveUp
        exact hexpired scene progress hI
      · exact fun own _ _ => h.onAlarm own scene progress hnow hI

/-- **What nothing spoils at the instant of an impulse holds at every moment of it**, if it is no
matter of the alarms and of the queue. -/
theorem HoldsAt.of_moment [Outlined ρ] {I : Progress σ ρ τ → Prop} {link : Link σ ρ τ}
    {impulse : Impulse ρ} {progress : Progress σ ρ τ} (h : HoldsAt impulse.scene.now I)
    (aside : ∀ (progress : Progress σ ρ τ) alarms queue, I progress →
      I { progress with link := { progress.link with alarms := alarms, queue := queue } })
    (begun : I ⟨link, []⟩) (hmoment : Moment link impulse progress) : I progress := by
  induction hmoment with
  | handed scene message => exact aside ⟨link, []⟩ link.alarms _ begun
  | woken scene => exact begun
  | alarm _ _ _ ih => exact aside _ _ _ (ih h)
  | @errand impulse progress errand rest _ _ ih =>
      have hI := aside progress progress.link.alarms rest (ih h)
      exact h.upholdsAt_handle errand impulse.scene _ rfl hI

end Link

/-! ### Handsfree -/

namespace Handsfree

/-- No act of the profile spoils `I` at this instant. -/
structure ActsAt (now : Instant) (I : Desk Handsfree AlarmKind → Prop) : Prop
    extends Routine I where
  queryCalls : Work.UpholdsAt now I queryCalls
  finishQuery : Work.UpholdsAt now I finishQuery
  enter : Enters I
  order : ∀ number, Work.Upholds I (Handsfree.issue (.dial number))
  strike : Work.Upholds I (Work.update fun s => { s with ledger := s.ledger.resolve.2 })

namespace ActsAt

variable {I : Desk Handsfree AlarmKind → Prop} (h : ActsAt now I)

include h

theorem upholdsAt_dial (number : String) : Work.UpholdsAt now I (dial number) := by
  intro view desk hnow hI
  rw [yields_dial]
  split
  · exact hI
  · split
    · exact hI
    · next call survey hdial =>
        have hentered : I (entered desk call survey) :=
          h.enter desk number view.now call survey hdial hI
        refine Work.yields_mono (h.order number view _ hentered) ?_
        intro verdict after hafter
        cases verdict with
        | ok _ => exact h.queryCalls view after hnow hafter
        | error fault => exact h.abandonDial view after hafter

/-- Two requests lead to the question for the list of calls; all others are routine. -/
theorem upholdsAt_onRequest (request : Request) : Work.UpholdsAt now I (onRequest request) := by
  by_cases hdial : ∃ number, request = .dial number
  · obtain ⟨number, rfl⟩ := hdial
    exact h.upholdsAt_dial number
  · by_cases hquery : request = .queryCalls
    · subst hquery
      exact h.queryCalls
    · refine (h.toRoutine.upholds_onRequest request ?_ ?_).upholdsAt
      · exact fun number heq => absurd ⟨number, heq⟩ hdial
      · exact fun heq => absurd heq hquery

theorem upholdsAt_onCommandResult (outcome : Outcome) (code : Option Nat) :
    Work.UpholdsAt now I (onCommandResult outcome code) := by
  intro view desk hnow hI
  have hstruck : I (struck desk) := h.strike view desk hI
  rw [yields_onCommandResult]
  cases desk.session.ledger.front? with
  | none => exact hstruck
  | some order =>
      by_cases hquery : order = .queryCalls
      · subst hquery
        exact h.finishQuery view _ hnow hstruck
      · exact h.toRoutine.upholds_onAnswer order outcome code (fun heq => absurd heq hquery) view _
          hstruck

/-- An indicator leads to the question, and an answer may end a list; all else is routine. -/
theorem upholdsAt_onEvent (event : Event) : Work.UpholdsAt now I (onEvent event) := by
  by_cases hindicator : ∃ kind value, event = .callIndicator kind value
  · obtain ⟨kind, value, rfl⟩ := hindicator
    exact h.queryCalls
  · by_cases hanswer : ∃ outcome code, event = .commandResult outcome code
    · obtain ⟨outcome, code, rfl⟩ := hanswer
      exact h.upholdsAt_onCommandResult outcome code
    · refine (h.toRoutine.upholds_onEvent event ?_ ?_).upholdsAt
      · exact fun kind value heq => absurd ⟨kind, value, heq⟩ hindicator
      · exact fun outcome code heq => absurd ⟨outcome, code, heq⟩ hanswer

theorem upholdsAt_onAlarm (kind : AlarmKind) :
    Work.UpholdsAt now I (ProfileSession.onAlarm (σ := Handsfree) kind) :=
  match kind with
  | .poll => h.queryCalls

/-- **What no act and not the end of the link spoils is upheld on every occasion.** -/
theorem profile (hdisconnected : Work.UpholdsAt now I onDisconnected) :
    ProfileUpholdsAt Handsfree now I where
  onConnected := h.toRoutine.upholds_onConnected.upholdsAt
  onDisconnected := hdisconnected
  onAudioChanged previous current wideband :=
    (h.toRoutine.upholds_onAudio previous current wideband).upholdsAt
  onEvent := h.upholdsAt_onEvent
  onRequest := h.upholdsAt_onRequest
  onAlarm := h.upholdsAt_onAlarm

end ActsAt

end Handsfree

end AudioLink
