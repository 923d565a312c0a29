/-
**What a link forgets.**

While there is a link a profile learns all sorts of things: which commands wait for an answer, which
calls there are, what the device says of itself.  None of it may outlast the link.  There is one
place where all of it is forgotten, and that is when the link comes to be disconnected; afterwards
the profile is not consulted until there is a link again, so that nothing new can be learnt.  Only
what the device is able to do may be heard in between, and is not forgotten either.

Main definitions:

* `AudioLink.Forgets` — a profile that keeps nothing when the link drops out;
* `AudioLink.Stream.Blank`, `AudioLink.Handsfree.Blank` — there is nothing that either profile would
  have to forget;
* `AudioLink.Link.Clean` — throughout its life, a link keeps nothing and sends nothing while it is
  disconnected.

Main results:

* `AudioLink.Link.yields_transition_blank` — whoever comes to be disconnected keeps nothing;
* `AudioLink.Link.upholds_handle_blank` — a link that is disconnected keeps nothing, whatever the
  errand;
* `AudioLink.Link.clean_start` — **a link that begins with nothing is clean**, if its profile
  forgets and is reserved.
-/

import AudioLink.Proofs.Profiles

set_option relaxedAutoImplicit false
set_option autoImplicit false

namespace AudioLink

/-- The profile keeps nothing when the link drops out, and learns nothing that would have to be
forgotten from what the device is able to do. -/
structure Forgets {σ ρ τ : Type} [ProfileSession σ ρ τ] (Blank : σ → Prop) : Prop where
  onDisconnected : ∀ view (desk : Desk σ τ), (ProfileSession.onDisconnected : Work σ τ Unit).Yields
    view desk fun _ after => Blank after.session
  onLinkUp : ∀ capabilities s, Blank s → Blank (ProfileSession.onLinkUp capabilities s).2

namespace Link

variable {σ ρ τ : Type}

/-- A link that is disconnected keeps nothing. -/
def BlankWhenDown (Blank : σ → Prop) (link : Link σ ρ τ) : Prop :=
  link.state = .disconnected → Blank link.session

/-! ### Errands -/

section Errands

variable [ProfileSession σ ρ τ] [DecidableEq τ] {Blank : σ → Prop} {scene : Scene}
  {progress : Progress σ ρ τ}

omit [ProfileSession σ ρ τ] [DecidableEq τ] in
/-- As long as there is a link, a profile may learn what it likes. -/
theorem yields_consult_blank {α : Type} {work : Work σ τ α}
    (hup : progress.link.state ≠ .disconnected) :
    (Step.consult work : Step σ ρ τ α).Yields scene progress fun _ after =>
      BlankWhenDown Blank after.link := by
  intro hdown
  exact absurd hdown hup

variable (hforgets : Forgets (ρ := ρ) (τ := τ) Blank)

include hforgets

/-- **Whoever comes to be disconnected keeps nothing.** -/
theorem yields_transition_blank {next : LinkState} (h : BlankWhenDown Blank progress.link) :
    (transition next : Step σ ρ τ Unit).Yields scene progress fun _ after =>
      BlankWhenDown Blank after.link := by
  by_cases hsame : progress.link.state = next
  · rw [yields_transition_of_eq hsame]
    exact h
  · by_cases hdown : next = .disconnected
    · subst hdown
      rw [yields_transition_of_ne hsame]
      refine Step.yields_of_forall fun _ left => ?_
      rw [Step.yields_bind, enter, Step.yields_consult]
      refine Work.yields_mono (hforgets.onDisconnected _ _) ?_
      intro _ desk hblank _
      exact hblank
    · refine Step.yields_mono yields_transition_state ?_
      intro _ after hstate hout
      exact absurd (hstate.symm.trans hout) hdown

theorem conduct_blank [Outlined ρ] (message : Message ρ) :
    Conduct scene message (fun progress : Progress σ ρ τ => BlankWhenDown Blank progress.link)
      (fun progress => BlankWhenDown Blank progress.link)
      fun progress => BlankWhenDown Blank progress.link where
  introduce _ capabilities _ h := fun hdown => hforgets.onLinkUp capabilities _ (h hdown)
  ask _ _ _ h := h
  unasked _ h := h
  rise _ _ _ _ h := yields_transition_blank hforgets h
  transition _ _ _ h := yields_transition_blank hforgets h
  setAudio audio wideband progress hstate _ _ := by
    have hkept := turning_state (σ := σ) (ρ := ρ) (τ := τ) .connected
    refine Step.yields_mono (hkept.upholds_setAudio audio wideband scene progress hstate) ?_
    intro _ after hconnected hdown
    cases hconnected.symm.trans hdown
  defer _ _ _ h := h
  stay _ h := h
  request _ _ _ hstate _ := yields_consult_blank (by rw [hstate]; nofun)
  event _ _ _ hup _ := yields_consult_blank hup

/-- A link that is disconnected keeps nothing, whatever the errand. -/
theorem upholds_handle_blank [Outlined ρ] (errand : Errand ρ τ) :
    Step.Upholds (fun progress => BlankWhenDown Blank progress.link)
      (handle errand : Step σ ρ τ Unit) := by
  intro scene progress h
  refine yields_handle (P := fun after => BlankWhenDown Blank after.link) ?_ fun _ _ h => h
  cases errand with
  | message message => exact (conduct_blank hforgets message).yields_onMessage h
  | alarm kind =>
      exact yields_onAlarm (P := fun after => BlankWhenDown Blank after.link) h (fun _ _ => h)
        (fun _ _ => h) fun _ _ hstate => yields_consult_blank (by rw [hstate]; nofun)

theorem steady_blank [Outlined ρ] :
    Steady fun (link : Link σ ρ τ) _ => BlankWhenDown Blank link where
  aside _ _ _ _ h := h
  handle _ errand := upholds_handle_blank hforgets errand

end Errands

/-! ### Lives -/

/-- Throughout the life that begins here, nothing is kept and nothing is sent while the link is
disconnected. -/
structure Clean [ProfileSession σ ρ τ] [DecidableEq τ] [Outlined ρ] (Blank : σ → Prop)
    (start : Link σ ρ τ) : Prop where
  /-- Nothing is kept, at any moment between two errands. -/
  blank : ∀ before impulse moment, Moment (start.live before).1 impulse moment →
    moment.link.state = .disconnected → Blank moment.link.session
  /-- No command has left the link when the last that was announced of it was that it is
  disconnected. -/
  silent : ∀ impulses earlier command accepted later,
    (start.live impulses).2 = earlier ++ .call (.command command) accepted :: later →
    (Told.after earlier).link ≠ .disconnected
  /-- At any moment between two errands, what was announced last of the link is the state it is
  in. -/
  told : ∀ before impulse moment, Moment (start.live before).1 impulse moment →
    (Told.after ((start.live before).2 ++ moment.log)).link = moment.link.state

/-- **A link that begins with nothing is clean.** -/
theorem clean_start [ProfileSession σ ρ τ] [DecidableEq τ] [Outlined ρ] {Blank : σ → Prop}
    (hreserved : Reserved σ) (hforgets : Forgets (ρ := ρ) (τ := τ) Blank) (peer : Address)
    {session : σ} (hblank : Blank session) : Clean Blank (start peer session : Link σ ρ τ) where
  blank _ _ _ hmoment := (steady_blank hforgets).moment rfl (fun _ => hblank) hmoment
  silent impulses earlier command accepted later hsplit := by
    have hchronicle := chronicle_live (ρ := ρ) hreserved peer session impulses
    exact hchronicle.fits earlier (.call (.command command) accepted) later hsplit
  told before impulse moment hmoment := by
    have hstart : Chronicle [] (start peer session : Link σ ρ τ).standing := .nil
    exact congrArg Told.link ((steady_chronicle hreserved).moment rfl hstart hmoment).after

end Link

/-! ### Both profiles -/

namespace Stream

/-- There is nothing that streaming would have to forget. -/
structure Blank (s : Stream) : Prop where
  pending : s.ledger.pending = []
  status : s.status = none
  playing : s.playing = false

theorem blank_start (settings : StreamSettings) : (start settings).Blank := ⟨rfl, rfl, rfl⟩

/-- Streaming keeps no command, no codec and no stream when the link drops out. -/
theorem forgets : Forgets Blank where
  onDisconnected _ _ := ⟨rfl, rfl, rfl⟩
  onLinkUp _ _ h := h

end Stream

namespace Handsfree

/-- There is nothing that handsfree would have to forget. -/
structure Blank (s : Handsfree) : Prop where
  pending : s.ledger.pending = []
  roster : s.roster.calls = []
  burst : s.survey.burst.calls = []
  nextQueryAt : s.nextQueryAt = none
  operatorName : s.operatorName = none
  subscriberNumber : s.subscriberNumber = none
  networkService : s.networkService = false
  voiceRecognition : s.voiceRecognition = false
  inBandRing : s.inBandRing = false
  routed : s.routed = false
  speakerEcho : s.speakerEcho = false
  microphoneEcho : s.microphoneEcho = false

theorem blank_start (settings : HandsfreeSettings) (issuer : Nat) :
    (start settings issuer).Blank := by
  constructor <;> rfl

/-- With the pending orders and the calls cleared, what is left is forgotten. -/
theorem blank_forget {s : Handsfree} (hpending : s.ledger.pending = [])
    (hroster : s.roster.calls = []) (hburst : s.survey.burst.calls = []) : s.forget.Blank where
  pending := hpending
  roster := hroster
  burst := hburst
  nextQueryAt := rfl
  operatorName := rfl
  subscriberNumber := rfl
  networkService := rfl
  voiceRecognition := rfl
  inBandRing := rfl
  routed := rfl
  speakerEcho := rfl
  microphoneEcho := rfl

/-- Handsfree keeps no order, no call and nothing that the gateway said when the link drops out. -/
theorem forgets : Forgets Blank where
  onDisconnected _ _ := yields_onDisconnected.2 (blank_forget rfl rfl rfl)
  onLinkUp _ _ h :=
    ⟨h.pending, h.roster, h.burst, h.nextQueryAt, h.operatorName, h.subscriberNumber,
      h.networkService, h.voiceRecognition, h.inBandRing, h.routed, h.speakerEcho, h.microphoneEcho⟩

end Handsfree

end AudioLink
