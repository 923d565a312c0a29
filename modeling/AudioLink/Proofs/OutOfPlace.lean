/-
**Events that are out of place.**

The transport reports things that the link can make nothing of: the audio of a device that is not
connected, anything but the link itself while it is disconnected, a codec on the link to a gateway,
a call on a link that only streams.  Whether an event is of that kind is not found out in one place.
The link looks at its state, the audio at its own, and the profile is asked last; and each of them
could have noted something before it refuses.  None of them does: such an event is as if it had
never been reported.

Main definitions:

* `AudioLink.Profile.takes`, `AudioLink.Event.isOutOfPlace` — the events that a profile has to do
  with, and those that are out of place;
* `AudioLink.Verdict.isUnexpected`, `AudioLink.Work.Heeds` — a verdict that an event was out of
  place, and work that never comes to it;
* `AudioLink.Discerning` — a profile that refuses what it has nothing to do with, before anything
  else is done about it, and nothing but that.

Main results:

* `AudioLink.Link.yields_onErrand_outOfPlace` — an event that is out of place is refused, and
  nothing is done about it;
* `AudioLink.Link.isUnexpected_onErrand_iff` — the refused events are those that are out of place;
* `AudioLink.links_undisturbed` — **an event that is out of place leaves no trace** on a link of
  either profile.
-/

import AudioLink.Proofs.Handsfree.Indicators
import AudioLink.Proofs.Link.Rounds
import AudioLink.Proofs.Profiles
import AudioLink.Proofs.Verdicts

set_option relaxedAutoImplicit false
set_option autoImplicit false

namespace AudioLink

/-! ### What is out of place -/

/-- The events that a profile has to do with: streaming follows its codec and the answers to its
commands, a gateway may report anything but a codec. -/
def Profile.takes : Profile → Event → Bool
  | .stream, .codecChanged _ | .stream, .commandResult _ _ => true
  | .stream, _ => false
  | .handsfree, .codecChanged _ => false
  | .handsfree, event => event.isForProfile

/-- Whether a link that is in this state and used for this profile can make nothing of an event. -/
def Event.isOutOfPlace (profile : Profile) (state : LinkState) : Event → Bool
  | linkChanged _ _ => false
  | audioChanged _ => state != .connected
  | event => state == .disconnected || !profile.takes event

/-- What is about neither the link nor its audio is out of place without a link, or if the profile
has nothing to do with it. -/
theorem Event.isOutOfPlace_eq {event : Event} (h : event.isForProfile = true) (profile : Profile)
    (state : LinkState) :
    event.isOutOfPlace profile state = (state == .disconnected || !profile.takes event) := by
  cases event with
  | linkChanged _ _ => cases h
  | audioChanged _ => cases h
  | _ => rfl

/-- Whether a verdict says that an event was out of place. -/
def Verdict.isUnexpected : Verdict → Bool
  | .ok _ => false
  | .error fault => fault.isUnexpected

/-! ### Work that heeds what is reported -/

/-- The work never ends with the verdict that an event was out of place. -/
def Work.Heeds {σ τ : Type} (work : Work σ τ Verdict) : Prop :=
  ∀ view desk, work.Yields view desk fun verdict _ => Verdict.isUnexpected verdict = false

theorem Verdict.isUnexpected_eq (verdict : Verdict) :
    verdict.isUnexpected = verdict.isFault Fault.isUnexpected := by
  cases verdict with
  | ok _ => rfl
  | error fault => rfl

/-- Work heeds what is reported if it spares the fault that this was out of place. -/
theorem Work.Spares.heeds {σ τ : Type} {work : Work σ τ Verdict}
    (h : work.Spares Fault.isUnexpected) : work.Heeds := fun view desk =>
  Work.yields_mono (h view desk) fun verdict _ => (Verdict.isUnexpected_eq verdict).trans

theorem Fault.isUnexpected_common (fault : Fault) (h : fault.isCommon = true) :
    fault.isUnexpected = false := by
  cases fault with
  | unexpected _ _ => cases h
  | _ => rfl

/-- A profile refuses what it has nothing to do with, before anything else is done about it, and
nothing but that. -/
structure Discerning (σ : Type) {ρ τ : Type} [ProfileSession σ ρ τ] : Prop where
  refuses : ∀ event, (ProfileSession.profile σ).takes event = false → ∀ view (desk : Desk σ τ),
    (ProfileSession.onEvent event).Yields view desk fun verdict after =>
      verdict = .error (.unexpected view.link event.title) ∧ after = desk
  heeds : ∀ event, (ProfileSession.profile σ).takes event = true →
    Work.Heeds (ProfileSession.onEvent event : Work σ τ Verdict)

/-! ### Links -/

namespace Link

variable {σ ρ τ : Type} [ProfileSession σ ρ τ] [DecidableEq τ]

/-- Whether an event is out of place for a link as it is. -/
def misplaces (link : Link σ ρ τ) (event : Event) : Bool :=
  event.isOutOfPlace (ProfileSession.profile σ) link.state

omit [ProfileSession σ ρ τ] [DecidableEq τ] in
/-- A desk at which nothing was done leaves the link as it was. -/
theorem settle_desk (progress : Progress σ ρ τ) :
    Step.settle progress.link (Step.desk progress) = progress.link := by
  rw [Step.settle, Step.desk, List.replicate_zero, List.append_nil]

section Errands

variable [Outlined ρ] {scene : Scene} {progress : Progress σ ρ τ} {event : Event}

/-- **An event that is out of place is refused, and nothing is done about it.** -/
theorem yields_onErrand_outOfPlace (h : Discerning σ)
    (misplaced : progress.link.misplaces event = true) :
    (onErrand (.message (.event event)) : Step σ ρ τ Verdict).Yields scene progress
      fun verdict after =>
        verdict = .error (.unexpected progress.link.state event.title) ∧ after = progress := by
  rw [misplaces] at misplaced
  cases hforeign : event.isForProfile with
  | true =>
      by_cases hdown : progress.link.state = .disconnected
      · rw [yields_onErrand_event_unheard hdown hforeign, hdown]
        exact ⟨rfl, rfl⟩
      · have hforgone : (ProfileSession.profile σ).takes event = false := by
          rw [Event.isOutOfPlace_eq hforeign, beq_eq_false_iff_ne.2 hdown, Bool.false_or,
            Bool.not_eq_true'] at misplaced
          exact misplaced
        rw [yields_onErrand_event hdown hforeign, Step.yields_consult]
        refine Work.yields_mono (h.refuses event hforgone _ _) ?_
        rintro verdict after ⟨rfl, rfl⟩
        exact ⟨rfl, congrArg (Progress.mk · progress.log) (settle_desk progress)⟩
  | false =>
      cases event with
      | linkChanged report capabilities => cases misplaced
      | audioChanged report =>
          have hstate : progress.link.state ≠ .connected := bne_iff_ne.1 misplaced
          show (onAudioReport report : Step σ ρ τ Verdict).Yields scene progress _
          rw [onAudioReport, Step.yields_bind, Step.yields_link, if_pos hstate]
          exact ⟨rfl, rfl⟩
      | _ => cases hforeign

/-- **The events that are refused are those that are out of place.** -/
theorem isUnexpected_onErrand_iff (h : Discerning σ) :
    (onErrand (.message (.event event)) : Step σ ρ τ Verdict).Yields scene progress
      fun verdict _ => (verdict.isUnexpected = true ↔ progress.link.misplaces event = true) := by
  cases hmisplaced : progress.link.misplaces event with
  | true =>
      refine Step.yields_mono (yields_onErrand_outOfPlace h hmisplaced) ?_
      rintro _ _ ⟨rfl, -⟩
      exact ⟨fun _ => rfl, fun _ => rfl⟩
  | false =>
      rw [misplaces] at hmisplaced
      cases hforeign : event.isForProfile with
      | true =>
          -- what is for the profile is heard, and the profile takes it
          rw [Event.isOutOfPlace_eq hforeign, Bool.or_eq_false_iff,
            Bool.not_eq_false'] at hmisplaced
          obtain ⟨hup, htaken⟩ := hmisplaced
          rw [yields_onErrand_event (beq_eq_false_iff_ne.1 hup) hforeign, Step.yields_consult]
          refine Work.yields_mono (h.heeds event htaken _ _) ?_
          intro verdict _ hheeded
          rw [hheeded]
      | false =>
          cases event with
          | linkChanged report capabilities =>
              show (onLinkChanged report capabilities >>= fun _ => return .ok () :
                Step σ ρ τ Verdict).Yields scene progress _
              rw [Step.yields_bind]
              exact Step.yields_of_forall fun _ _ => Iff.rfl
          | audioChanged report =>
              -- the link refuses a report about the audio only while it is not connected
              have hstate : progress.link.state = .connected := by
                simpa [Event.isOutOfPlace] using hmisplaced
              show (onAudioReport report : Step σ ρ τ Verdict).Yields scene progress _
              rw [onAudioReport, Step.yields_bind, Step.yields_link, if_neg (not_not.2 hstate),
                Step.yields_ite]
              split
              · rw [Step.yields_bind]
                exact Step.yields_of_forall fun _ _ => Iff.rfl
              · exact Iff.rfl
          | _ => cases hforeign

/-- A link that is handed an event that is out of place is afterwards what it was, and nothing has
left it. -/
theorem respond_outOfPlace (h : Discerning σ) {link : Link σ ρ τ} (queue : link.queue = [])
    (misplaced : link.misplaces event = true) :
    link.respond (.hand scene (.event event)) = (link, []) := by
  refine respond_hand_eq queue queue ?_
  rw [handle, Step.yields_bind]
  refine Step.yields_mono (yields_onErrand_outOfPlace h misplaced) ?_
  rintro _ _ ⟨rfl, rfl⟩
  rfl

end Errands

end Link

/-! ### Both profiles -/

namespace Stream

/-- Streaming refuses all but its codec and the answers to its commands. -/
theorem discerning : Discerning Stream where
  refuses event hforgone view desk := by
    cases event with
    | codecChanged _ => cases hforgone
    | commandResult _ _ => cases hforgone
    | _ => exact ⟨rfl, rfl⟩
  heeds event htaken := by
    cases event with
    | codecChanged status => exact Work.Spares.heeds (.after fun _ => .ok)
    | commandResult outcome code => exact Work.Spares.heeds (.after fun _ => .ok)
    | _ => cases htaken

end Stream

namespace Handsfree

theorem spares_onAcceptResult (action : CallControl) (mode : AcceptMode) (retried : Bool)
    (outcome : Outcome) (code : Option Nat) :
    (onAcceptResult action mode retried outcome code).Spares Fault.isUnexpected := by
  refine .ite .ok (.after fun s => ?_)
  cases retryFor s action retried with
  | some alternative => exact spares_issue Fault.isUnexpected_common _
  | none => exact .after fun _ => .ite (.error rfl) .ok

/-- Handsfree refuses a codec, and nothing else that is for the profile. -/
theorem discerning : Discerning Handsfree where
  refuses event hforgone view desk := by
    cases event with
    | codecChanged _ => exact ⟨rfl, rfl⟩
    | linkChanged _ _ => exact ⟨rfl, rfl⟩
    | audioChanged _ => exact ⟨rfl, rfl⟩
    | _ => cases hforgone
  heeds event htaken := by
    have hforeign : event.isForProfile = true := by
      cases event with
      | codecChanged _ => cases htaken
      | _ => exact htaken
    refine Work.Spares.heeds (spares_onEvent Fault.isUnexpected_common hforeign ?_ ?_)
    · rintro status rfl
      cases htaken
    · refine fun outcome code _ => spares_onCommandResult fun order => ?_
      refine spares_onAnswer Fault.isUnexpected_common order outcome code ?_
      exact fun action mode retried _ => spares_onAcceptResult action mode retried outcome code

end Handsfree

/-- **An event that is out of place leaves no trace.**  Whatever was done to a link of either
profile, when it is handed such an event it is afterwards what it was, down to its alarms, what
waits, and everything that the profile keeps; the transport is asked for nothing and nothing is
announced. -/
theorem links_undisturbed (peer : Address) (scene : Scene) (event : Event) :
    (∀ (settings : StreamSettings) (impulses : List (Impulse Stream.Request)),
      let link := ((Link.start peer (Stream.start settings)).live impulses).1
      event.isOutOfPlace .stream link.state = true →
        link.respond (.hand scene (.event event)) = (link, [])) ∧
    (∀ (settings : HandsfreeSettings) (issuer : Nat) (impulses : List (Impulse Handsfree.Request)),
      let link := ((Link.start peer (Handsfree.start settings issuer)).live impulses).1
      event.isOutOfPlace .handsfree link.state = true →
        link.respond (.hand scene (.event event)) = (link, [])) :=
  ⟨fun _ impulses misplaced =>
      Link.respond_outOfPlace Stream.discerning (Link.queue_live rfl impulses) misplaced,
    fun _ _ impulses misplaced =>
      Link.respond_outOfPlace Handsfree.discerning (Link.queue_live rfl impulses) misplaced⟩

/-- A device that is being connected reports audio that it cannot have yet, and one that only
streams reports a call. -/
theorem links_undisturbed_early :
    let opening : Scene := Handsfree.obliging 0
    let gateway := (Handsfree.fresh.live [.hand opening .connect]).1
    let player := ((Link.start Handsfree.fresh.peer (Stream.start Settings.standard.stream)).live
      [.hand opening .connect]).1
    gateway.state = .connecting ∧ player.state = .connecting ∧
      gateway.respond (.hand opening (.event (.audioChanged .connected))) = (gateway, []) ∧
      player.respond (.hand opening (.event (.callIndicator .call 1))) = (player, []) := by
  intro opening gateway player
  have hgateway : gateway.state = .connecting := by
    show (Link.live _ _).1.state = _
    rw [Link.live_eq_get 1 rfl]
    rfl
  have hplayer : player.state = .connecting := by
    show (Link.live _ _).1.state = _
    rw [Link.live_eq_get 1 rfl]
    rfl
  have hearly : gateway.state ≠ .connected := by
    rw [hgateway]
    decide
  refine ⟨hgateway, hplayer, ?_, ?_⟩
  · exact (links_undisturbed _ opening (.audioChanged .connected)).2 _ _ _ (bne_iff_ne.2 hearly)
  · exact (links_undisturbed _ opening (.callIndicator .call 1)).1 _ _ (Bool.or_true _)

end AudioLink
