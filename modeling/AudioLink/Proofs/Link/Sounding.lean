/-
**The audio of a link and its profile.**

Only a connected link has audio.  So whatever else a link does, the profile hears of a change of the
audio while the link is connected, and the audio is off by the time when it hears that the link is
connected or gone.  A property that ties the profile to the audio and to what was announced is
therefore at risk in few places only, and they are gone through once, here.

Main definitions:

* `AudioLink.Link.Sounds` — a property of the profile, of the audio and of what has left the link,
  said of a link in the middle of a step;
* `AudioLink.Link.Sounding` — such a property that the profile keeps to where it is at risk on the
  link's own account.

Main results:

* `AudioLink.Link.Sounding.yields_setAudio`, `AudioLink.Link.Sounding.yields_leave`,
  `AudioLink.Link.Sounding.yields_enter` — it is kept to when the audio changes, and on leaving and
  entering a state, between which the audio is off;
* `AudioLink.Link.Sounding.upholds_transition` — **it is kept to when the link moves to another
  state**;
* `AudioLink.Link.Sounding.upholds_handle` — **no errand spoils it**, if the profile does not with
  what is for it;
* `AudioLink.Link.respond_sounds` — what handling a message does not spoil, nor an alarm, nor the
  errands of the link itself, an impulse does not spoil.
-/

import AudioLink.Proofs.Link.Errands

set_option relaxedAutoImplicit false
set_option autoImplicit false

namespace AudioLink

namespace Link

variable {σ ρ τ : Type}

/-- A property of the profile, of the audio and of what has left the link, said of a link in the
middle of a step.  The audio is not off only while the link is connected. -/
structure Sounds (I : σ → AudioState → List Effect → Prop) (progress : Progress σ ρ τ) : Prop where
  sound : I progress.link.session progress.link.audio progress.log
  up : progress.link.audio ≠ .off → progress.link.state = .connected

/-- What leaves the link when its audio changes. -/
def audioNotice (previous current : AudioState) (wideband : Bool) : Effect :=
  .notice (.audioChanged previous current (if current = .on then some wideband else none))

/-- A property of the profile, of the audio and of what has left the link that is not spoilt on the
link's own account: by what it asks and what it announces, and by what the profile does when it hears
of that. -/
structure Sounding [ProfileSession σ ρ τ] (I : σ → AudioState → List Effect → Prop) : Prop where
  asked : ∀ s audio log request accepted, IsOwn request → I s audio log →
    I s audio (log ++ [.call request accepted])
  failed : ∀ s audio log fault, I s audio log → I s audio (log ++ [.notice (.requestFailed fault)])
  /-- The audio is off by then. -/
  linkChanged : ∀ s log previous current, I s .off log →
    I s .off (log ++ [.notice (.linkChanged previous current)])
  onLinkUp : ∀ s audio log capabilities, I s audio log →
    I (ProfileSession.onLinkUp capabilities s).2 audio log
  onAudioChanged : ∀ previous current wideband view (desk : Desk σ τ),
    I desk.session previous desk.log →
      (ProfileSession.onAudioChanged previous current wideband : Work σ τ Unit).Yields view
        { desk with log := desk.log ++ [audioNotice previous current wideband] }
        fun _ after => I after.session current after.log
  onConnected : Work.Upholds (fun desk : Desk σ τ => I desk.session .off desk.log)
    ProfileSession.onConnected
  onDisconnected : Work.Upholds (fun desk : Desk σ τ => I desk.session .off desk.log)
    ProfileSession.onDisconnected

section Steps

variable {I : σ → AudioState → List Effect → Prop} {scene : Scene} {progress : Progress σ ρ τ}

/-- Without audio, the link may be in any state. -/
theorem Sounds.of_off (hoff : progress.link.audio = .off)
    (h : I progress.link.session .off progress.log) : Sounds I progress :=
  ⟨by rw [hoff]; exact h, fun hon => absurd hoff hon⟩

theorem Sounds.off (h : Sounds I progress) (hoff : progress.link.audio = .off) :
    I progress.link.session .off progress.log :=
  hoff ▸ h.sound

/-- A link that is not connected has no audio. -/
theorem Sounds.audio_eq_off (h : Sounds I progress) (hdown : progress.link.state ≠ .connected) :
    progress.link.audio = .off :=
  Decidable.not_not.1 fun hon => hdown (h.up hon)

/-- What the profile does at its desk without regard to the audio. -/
theorem upholds_consult_sounds {α : Type} {work : Work σ τ α}
    (hwork : ∀ audio, Work.Upholds (fun desk => I desk.session audio desk.log) work) :
    Step.Upholds (Sounds I) (Step.consult work : Step σ ρ τ α) := by
  intro scene progress h
  rw [Step.yields_consult]
  refine Work.yields_mono (hwork _ _ (Step.desk progress) h.sound) ?_
  intro _ desk hdesk
  exact ⟨hdesk, h.up⟩

/-- What the profile does at its desk while the audio is off. -/
theorem yields_consult_off {α : Type} {work : Work σ τ α}
    (hwork : Work.Upholds (fun desk => I desk.session .off desk.log) work)
    (h : Sounds I progress) (hoff : progress.link.audio = .off) :
    (Step.consult work : Step σ ρ τ α).Yields scene progress fun _ after => Sounds I after := by
  rw [Step.yields_consult]
  refine Work.yields_mono (hwork _ (Step.desk progress) (h.off hoff)) ?_
  intro _ desk hdesk
  exact .of_off hoff hdesk

end Steps

namespace Sounding

variable {I : σ → AudioState → List Effect → Prop} [ProfileSession σ ρ τ]
  (h : Sounding (ρ := ρ) (τ := τ) I) {scene : Scene} {progress : Progress σ ρ τ}

include h

/-! ### Moving to another state -/

/-- The profile of a connected link hears of every change of the audio. -/
theorem yields_setAudio {audio : AudioState} {wideband : Bool}
    (hconnected : progress.link.state = .connected) (hprogress : Sounds I progress) :
    (setAudio audio wideband : Step σ ρ τ Unit).Yields scene progress fun _ after =>
      Sounds I after ∧ after.link.audio = audio := by
  rw [setAudio, Step.yields_bind, Step.yields_link, Step.yields_bind, Step.yields_change,
    Step.yields_bind, Step.yields_announce, Step.yields_consult]
  refine Work.yields_mono (h.onAudioChanged _ _ _ _ (Step.desk progress) hprogress.sound) ?_
  intro _ desk hdesk
  exact ⟨⟨hdesk, fun _ => hconnected⟩, rfl⟩

theorem yields_silence (hprogress : Sounds I progress) :
    (silence : Step σ ρ τ Unit).Yields scene progress fun _ after =>
      Sounds I after ∧ after.link.audio = .off := by
  rw [silence, Step.yields_bind, Step.yields_link, Step.yields_ite]
  split
  · next hon => exact h.yields_setAudio (hprogress.up hon) hprogress
  · next hoff => exact ⟨hprogress, Decidable.not_not.1 hoff⟩

variable [DecidableEq τ]

/-- On leaving a state the audio is switched off. -/
theorem yields_leave (hprogress : Sounds I progress) :
    (leave progress.link.state : Step σ ρ τ Unit).Yields scene progress fun _ after =>
      Sounds I after ∧ after.link.audio = .off := by
  cases hstate : progress.link.state with
  | connected =>
      rw [leave, Step.yields_bind]
      refine Step.yields_mono (h.yields_silence hprogress) ?_
      rintro _ after ⟨hafter, hoff⟩
      exact ⟨.of_off hoff (hafter.off hoff), hoff⟩
  | disconnected | connecting | disconnecting =>
      have hoff : progress.link.audio = .off := hprogress.audio_eq_off (by rw [hstate]; nofun)
      exact ⟨.of_off hoff (hprogress.off hoff), hoff⟩

/-- On entering a state the audio stays off. -/
theorem yields_enter {next : LinkState} (hprogress : Sounds I progress)
    (hoff : progress.link.audio = .off) :
    (enter next : Step σ ρ τ Unit).Yields scene progress fun _ after => Sounds I after := by
  cases next with
  | connecting | disconnecting => exact .of_off hoff (hprogress.off hoff)
  | connected =>
      rw [enter, Step.yields_bind, Step.yields_change, Step.yields_bind]
      refine Step.yields_mono (h.yields_silence (.of_off hoff (hprogress.off hoff))) ?_
      rintro _ silenced ⟨hsilenced, hoff⟩
      exact yields_consult_off h.onConnected hsilenced hoff
  | disconnected => exact yields_consult_off h.onDisconnected hprogress hoff

/-- **Moving to another state does not spoil it.** -/
theorem upholds_transition (next : LinkState) :
    Step.Upholds (Sounds I) (transition next : Step σ ρ τ Unit) := by
  intro scene progress hprogress
  by_cases hsame : progress.link.state = next
  · rw [yields_transition_of_eq hsame]
    exact hprogress
  · rw [yields_transition_of_ne hsame]
    refine Step.yields_mono (h.yields_leave hprogress) ?_
    rintro _ left ⟨hleft, hoff⟩
    have hturned : Sounds I (ρ := ρ) (τ := τ) ⟨{ left.link with state := next },
        left.log ++ [.notice (.linkChanged progress.link.state next)]⟩ :=
      .of_off hoff (h.linkChanged _ _ _ _ (hleft.off hoff))
    rw [Step.yields_bind]
    refine Step.yields_mono (h.yields_enter hturned hoff) ?_
    intro _ entered hentered
    rw [Step.yields_ite]
    split
    · exact ⟨hentered.sound, hentered.up⟩
    · exact hentered

/-! ### Errands -/

theorem moves : Moves (ρ := ρ) (τ := τ) (Sounds I) where
  ask _ own := fun _ _ hprogress => ⟨h.asked _ _ _ _ _ own hprogress.sound, hprogress.up⟩
  transition := h.upholds_transition
  setAudio _ _ _ _ hconnected hprogress :=
    Step.yields_mono (h.yields_setAudio hconnected hprogress) fun _ _ hafter => hafter.1
  defer _ _ hprogress := ⟨hprogress.sound, hprogress.up⟩
  introduce _ capabilities hprogress :=
    ⟨h.onLinkUp _ _ _ capabilities hprogress.sound, hprogress.up⟩

/-- **No errand spoils it**, if the profile does not with what is for it. -/
theorem upholds_handle [Outlined ρ] (errand : Errand ρ τ)
    (hrequest : ∀ request, errand = .message (.request request) → ∀ audio,
      Work.Upholds (fun desk : Desk σ τ => I desk.session audio desk.log)
        (ProfileSession.onRequest request))
    (hevent : ∀ event, errand = .message (.event event) → ∀ audio,
      Work.Upholds (fun desk : Desk σ τ => I desk.session audio desk.log)
        (ProfileSession.onEvent event))
    (halarm : ∀ (kind : τ) (audio : AudioState),
      Work.Upholds (fun desk : Desk σ τ => I desk.session audio desk.log)
        (ProfileSession.onAlarm (ρ := ρ) kind)) :
    Step.Upholds (Sounds I) (handle errand : Step σ ρ τ Unit) := by
  intro scene progress hprogress
  refine yields_handle ?_ fun _ fault hafter => ⟨h.failed _ _ _ fault hafter.sound, hafter.up⟩
  cases errand with
  | message message =>
      refine h.moves.upholds_onMessage (fun request htold => ?_) (fun event htold => ?_) scene _
        hprogress
      · exact upholds_consult_sounds (hrequest request (congrArg Errand.message htold))
      · exact upholds_consult_sounds (hevent event (congrArg Errand.message htold))
  | alarm kind =>
      have hgiveUp : Step.Upholds (Sounds I) (giveUp : Step σ ρ τ Unit) :=
        fun _ _ hprogress => ⟨hprogress.sound, hprogress.up⟩
      exact upholds_onAlarm h.moves.upholds_refuse hgiveUp
        (fun own => upholds_consult_sounds (halarm own)) kind scene _ hprogress

end Sounding

/-! ### Impulses -/

/-- What handling a message does not spoil, nor an alarm, nor the errands of the link itself, an
impulse does not spoil. -/
theorem respond_sounds {I : σ → AudioState → List Effect → Prop} [ProfileSession σ ρ τ]
    [DecidableEq τ] [Outlined ρ] {link : Link σ ρ τ} (hlink : Between link) (impulse : Impulse ρ)
    (hsounds : Sounds I ⟨link, []⟩)
    (first : ∀ scene message, impulse = .hand scene message →
      (handle (.message message) : Step σ ρ τ Unit).Yields scene ⟨link, []⟩ fun _ after =>
        Sounds I after)
    (own : ∀ errand : Errand ρ τ, Incidental errand → Step.Upholds (Sounds I) (handle errand))
    (alarm : ∀ kind, Step.Upholds (Sounds I) (handle (.alarm kind) : Step σ ρ τ Unit)) :
    Sounds I ⟨(link.respond impulse).1, (link.respond impulse).2⟩ := by
  cases impulse with
  | hand scene message =>
      refine respond_hand_own hlink (first scene message rfl) ?_
      intro progress errand rest h _ hown
      exact own errand hown scene _ ⟨h.sound, h.up⟩
  | wake scene =>
      refine respond_wake_own hlink hsounds ?_ ?_
      · intro progress kind others h _ _
        exact alarm kind scene _ ⟨h.sound, h.up⟩
      · intro progress errand rest h _ hown
        exact own errand hown scene _ ⟨h.sound, h.up⟩

end Link

end AudioLink
