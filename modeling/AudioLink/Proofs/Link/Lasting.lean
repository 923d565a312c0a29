/-
**Properties that last.**

Much of what can be said of a link is about its profile and about what has left the link, and not
about the state of the link itself.  Such a property is at risk only where the profile is
consulted.  When the profile upholds it on each of these occasions, and the link does not spoil it
by what it says on its own account, then no errand spoils it, and it holds throughout a life.

Some properties are spoilt for a moment when the link comes to be disconnected: this is announced
before the profile hears of it and gives up all that it had to do with the link.  They are kept all
the same when the profile makes up for it at once.

What is about the log alone needs even less of the profile: it lets out commands and reports, and
none of what a link asks and announces itself.

Main definitions:

* `AudioLink.Link.Calm`, `AudioLink.Link.Unmoved`, `AudioLink.Link.Mending`,
  `AudioLink.Link.Lasting` — a property of the profile and of what has left the link that is not
  spoilt on leaving and entering a state, or by any move of the link, or by any errand but an answer,
  or by no errand at all;
* `AudioLink.Link.AtLink` — such a property, said of a link in the middle of a step;
* `AudioLink.Discreet` — a profile that lets out nothing but what is its own;
* `AudioLink.Persists` — a property of the log that is never taken back;
* `AudioLink.Throughout` — a property of everything in the log and what had left before it.

Main results:

* `AudioLink.Link.Unmoved.moves`, `AudioLink.Link.Unmoved.upholds_handle` — no move of a link spoils
  an unmoved property, so that only the profile can;
* `AudioLink.Link.Lasting.upholds_handle` — handling an errand upholds a lasting property;
* `AudioLink.Link.Lasting.live` — **a lasting property holds throughout a life**;
* `AudioLink.Discreet.lasting` — what is never taken back is lasting.
-/

import AudioLink.Proofs.Link.Changes
import AudioLink.Proofs.Link.Life
import AudioLink.Proofs.Link.Moves

set_option relaxedAutoImplicit false
set_option autoImplicit false

namespace AudioLink

variable {σ ρ τ : Type}

namespace Link

/-- A property of the profile and of what has left the link, said of a link in the middle of a
step. -/
def AtLink (J : σ → List Effect → Prop) (progress : Progress σ ρ τ) : Prop :=
  J progress.link.session progress.log

/-- A property of the profile and of what has left the link that is not spoilt when the audio
changes or the link comes to be connected. -/
structure Calm [ProfileSession σ ρ τ] (J : σ → List Effect → Prop) : Prop where
  audioChanged : ∀ s log previous current wideband, J s log →
    J s (log ++ [.notice (.audioChanged previous current wideband)])
  onAudioChanged : ∀ previous current wideband, Work.Upholds
    (fun desk : Desk σ τ => J desk.session desk.log)
    (ProfileSession.onAudioChanged previous current wideband)
  onConnected : Work.Upholds (fun desk : Desk σ τ => J desk.session desk.log)
    ProfileSession.onConnected

/-- A property of the profile and of what has left the link that nothing spoils that the link does on
its own account.  When the link comes to be disconnected, the announcement may spoil it, but then the
profile makes up for that. -/
structure Unmoved [ProfileSession σ ρ τ] (J : σ → List Effect → Prop) : Prop
    extends Calm (ρ := ρ) (τ := τ) J where
  asked : ∀ s log request accepted, IsOwn request → J s log →
    J s (log ++ [.call request accepted])
  linkChanged : ∀ s log previous current, current ≠ .disconnected → J s log →
    J s (log ++ [.notice (.linkChanged previous current)])
  onLinkUp : ∀ s log capabilities, J s log →
    J (ProfileSession.onLinkUp capabilities s).2 log
  onDisconnected : ∀ previous view (desk : Desk σ τ), J desk.session desk.log →
    (ProfileSession.onDisconnected : Work σ τ Unit).Yields view
      { desk with log := desk.log ++ [.notice (.linkChanged previous .disconnected)] }
      fun _ after => J after.session after.log

/-- A property of the profile and of what has left the link that no errand spoils, the answer to an
order apart.  When the link comes to be disconnected, the announcement may spoil it, but then the
profile makes up for that. -/
structure Mending [ProfileSession σ ρ τ] (J : σ → List Effect → Prop) : Prop
    extends Calm (ρ := ρ) (τ := τ) J where
  asked : ∀ s log request accepted, IsOwn request → J s log →
    J s (log ++ [.call request accepted])
  linkChanged : ∀ s log previous current, current ≠ .disconnected → J s log →
    J s (log ++ [.notice (.linkChanged previous current)])
  failed : ∀ s log fault, J s log → J s (log ++ [.notice (.requestFailed fault)])
  onLinkUp : ∀ s log capabilities, J s log →
    J (ProfileSession.onLinkUp capabilities s).2 log
  onDisconnected : ∀ previous view (desk : Desk σ τ), J desk.session desk.log →
    (ProfileSession.onDisconnected : Work σ τ Unit).Yields view
      { desk with log := desk.log ++ [.notice (.linkChanged previous .disconnected)] }
      fun _ after => J after.session after.log
  onEvent : ∀ event, (∀ outcome code, event ≠ .commandResult outcome code) →
    Work.Upholds (fun desk : Desk σ τ => J desk.session desk.log) (ProfileSession.onEvent event)
  onRequest : ∀ request,
    Work.Upholds (fun desk : Desk σ τ => J desk.session desk.log) (ProfileSession.onRequest request)
  onAlarm : ∀ kind,
    Work.Upholds (fun desk : Desk σ τ => J desk.session desk.log) (ProfileSession.onAlarm kind)

/-- A property of the profile and of what has left the link that no errand spoils: it is only put
at risk when the profile is consulted, and there it holds out. -/
structure Lasting [ProfileSession σ ρ τ] (J : σ → List Effect → Prop) : Prop where
  /-- The link asks something of the transport. -/
  asked : ∀ s log request accepted, IsOwn request → J s log →
    J s (log ++ [.call request accepted])
  linkChanged : ∀ s log previous current, J s log →
    J s (log ++ [.notice (.linkChanged previous current)])
  audioChanged : ∀ s log previous current wideband, J s log →
    J s (log ++ [.notice (.audioChanged previous current wideband)])
  failed : ∀ s log fault, J s log → J s (log ++ [.notice (.requestFailed fault)])
  onLinkUp : ∀ s log capabilities, J s log →
    J (ProfileSession.onLinkUp capabilities s).2 log
  consulted : ProfileUpholds σ fun desk => J desk.session desk.log

section Changes

variable {J : σ → List Effect → Prop}

theorem upholds_change {f : Link σ ρ τ → Link σ ρ τ}
    (hf : ∀ link, (f link).session = link.session) : Step.Upholds (AtLink J) (Step.change f) := by
  intro scene progress h
  show J (f progress.link).session progress.log
  rw [hf]
  exact h

theorem upholds_consult {α : Type} {work : Work σ τ α}
    (hwork : Work.Upholds (fun desk => J desk.session desk.log) work) :
    Step.Upholds (AtLink J) (Step.consult work : Step σ ρ τ α) :=
  fun scene progress h => hwork (Step.view scene progress.link) (Step.desk progress) h

end Changes

namespace Calm

variable {J : σ → List Effect → Prop} [ProfileSession σ ρ τ] [DecidableEq τ]
  (h : Calm (ρ := ρ) (τ := τ) J)

include h

theorem turning : Turning (ρ := ρ) (τ := τ) (AtLink J) where
  slight _ hf := upholds_change hf.session
  audioChanged _ _ _ := fun _ _ hJ => h.audioChanged _ _ _ _ _ hJ
  onAudioChanged _ _ _ := upholds_consult (h.onAudioChanged _ _ _)

theorem upholds_leave (state : LinkState) :
    Step.Upholds (AtLink J) (Link.leave state : Step σ ρ τ Unit) := by
  by_cases hconnected : state = .connected
  · subst hconnected
    exact .bind h.turning.upholds_silence fun _ => upholds_change fun _ => rfl
  · exact h.turning.upholds_leave hconnected

/-- Entering a state spoils nothing, unless it is that of a link that is disconnected. -/
theorem upholds_enter (state : LinkState) (hup : state ≠ .disconnected) :
    Step.Upholds (AtLink J) (Link.enter state : Step σ ρ τ Unit) := by
  cases state with
  | disconnected => exact absurd rfl hup
  | connecting => exact h.turning.upholds_enter rfl
  | connected =>
      refine .bind (upholds_change fun _ => rfl) fun _ => ?_
      exact .bind h.turning.upholds_silence fun _ => upholds_consult h.onConnected
  | disconnecting => exact h.turning.upholds_enter rfl

/-- Moving to another state spoils nothing, if announcing it does not, unless the link comes to be
disconnected; and then announcing it and what the profile does on account of it taken together do
not. -/
theorem upholds_transition (next : LinkState)
    (hannounced : next ≠ .disconnected → ∀ s log previous, J s log →
      J s (log ++ [.notice (.linkChanged previous next)]))
    (hdisconnected : next = .disconnected → ∀ previous view (desk : Desk σ τ),
      J desk.session desk.log → (ProfileSession.onDisconnected : Work σ τ Unit).Yields view
        { desk with log := desk.log ++ [.notice (.linkChanged previous .disconnected)] }
        fun _ after => J after.session after.log) :
    Step.Upholds (AtLink J) (Link.transition next : Step σ ρ τ Unit) := by
  refine .bind .link fun link => .ite (fun _ => ?_) fun _ => .pure _
  refine .bind (h.upholds_leave _) fun _ => .bind (upholds_change fun _ => rfl) fun _ => ?_
  by_cases hdown : next = .disconnected
  · -- the announcement alone may spoil it; what follows makes up for that
    subst hdown
    intro scene progress hJ
    rw [Step.yields_bind, Step.yields_announce, Step.yields_bind, Link.enter, Step.yields_consult]
    exact Work.yields_mono (hdisconnected rfl _ _ (Step.desk progress) hJ) fun _ _ hafter => hafter
  · refine .bind (fun _ _ hJ => hannounced hdown _ _ _ hJ) fun _ => ?_
    refine .bind (h.upholds_enter _ hdown) fun _ => ?_
    exact .ite (fun _ => upholds_change fun _ => rfl) fun _ => .pure _

end Calm

namespace Unmoved

variable {J : σ → List Effect → Prop} [ProfileSession σ ρ τ] [DecidableEq τ]
  (h : Unmoved (ρ := ρ) (τ := τ) J)

include h

theorem upholds_transition (next : LinkState) :
    Step.Upholds (AtLink J) (Link.transition next : Step σ ρ τ Unit) :=
  h.toCalm.upholds_transition next (fun hup _ _ _ hJ => h.linkChanged _ _ _ _ hup hJ) fun _ =>
    h.onDisconnected

/-- No move of a link spoils an unmoved property. -/
theorem moves : Moves (ρ := ρ) (τ := τ) (AtLink J) where
  ask _ own := fun _ _ hJ => h.asked _ _ _ _ own hJ
  transition := h.upholds_transition
  setAudio audio wideband scene progress _ hJ :=
    h.turning.upholds_setAudio audio wideband scene progress hJ
  defer _ _ hJ := hJ
  introduce _ capabilities hJ := h.onLinkUp _ _ capabilities hJ

/-- An errand spoils an unmoved property only if telling a fault does, or the profile with what is
for it. -/
theorem upholds_handle [Outlined ρ] {errand : Errand ρ τ}
    (hfailed : ∀ s log fault, J s log → J s (log ++ [.notice (.requestFailed fault)]))
    (hrequest : ∀ request, errand = .message (.request request) →
      Work.Upholds (fun desk : Desk σ τ => J desk.session desk.log)
        (ProfileSession.onRequest request))
    (hevent : ∀ event, errand = .message (.event event) →
      Work.Upholds (fun desk : Desk σ τ => J desk.session desk.log) (ProfileSession.onEvent event))
    (halarm : ∀ kind, Work.Upholds (fun desk : Desk σ τ => J desk.session desk.log)
      (ProfileSession.onAlarm kind)) :
    Step.Upholds (AtLink J) (Link.handle errand : Step σ ρ τ Unit) := by
  intro scene progress hJ
  refine yields_handle ?_ fun _ fault hJ => hfailed _ _ fault hJ
  cases errand with
  | message message =>
      refine h.moves.upholds_onMessage (fun request told => ?_) (fun event told => ?_) scene _ hJ
      · exact upholds_consult (hrequest request (congrArg Errand.message told))
      · exact upholds_consult (hevent event (congrArg Errand.message told))
  | alarm kind =>
      exact Link.upholds_onAlarm h.moves.upholds_refuse (upholds_change fun _ => rfl)
        (fun kind => upholds_consult (halarm kind)) kind scene progress hJ

end Unmoved

namespace Mending

variable {J : σ → List Effect → Prop} [ProfileSession σ ρ τ] [DecidableEq τ]
  (h : Mending (ρ := ρ) (τ := τ) J)

include h

omit [DecidableEq τ] in
theorem unmoved : Unmoved (ρ := ρ) (τ := τ) J where
  toCalm := h.toCalm
  asked := h.asked
  linkChanged := h.linkChanged
  onLinkUp := h.onLinkUp
  onDisconnected := h.onDisconnected

theorem upholds_transition (next : LinkState) :
    Step.Upholds (AtLink J) (Link.transition next : Step σ ρ τ Unit) :=
  h.unmoved.upholds_transition next

/-- An errand spoils a mending property only if it is an answer, and then only if the profile does
when it hears of it. -/
theorem upholds_handle [Outlined ρ] (errand : Errand ρ τ)
    (hanswer : ∀ outcome code, errand = .message (.event (.commandResult outcome code)) →
      Work.Upholds (fun desk : Desk σ τ => J desk.session desk.log)
        (ProfileSession.onEvent (.commandResult outcome code))) :
    Step.Upholds (AtLink J) (Link.handle errand : Step σ ρ τ Unit) := by
  refine h.unmoved.upholds_handle h.failed (fun request _ => h.onRequest request) ?_ h.onAlarm
  intro event told
  by_cases hother : ∃ outcome code, event = .commandResult outcome code
  · obtain ⟨outcome, code, rfl⟩ := hother
    exact hanswer outcome code told
  · exact h.onEvent event fun outcome code heq => hother ⟨outcome, code, heq⟩

end Mending

namespace Lasting

variable {J : σ → List Effect → Prop}

section Steps

variable [ProfileSession σ ρ τ] (h : Lasting (ρ := ρ) (τ := τ) J)

include h

theorem calm : Calm (ρ := ρ) (τ := τ) J where
  audioChanged := h.audioChanged
  onAudioChanged := h.consulted.onAudioChanged
  onConnected := h.consulted.onConnected

/-- What no errand spoils is not spoilt when the link comes to be disconnected either. -/
theorem mending : Mending (ρ := ρ) (τ := τ) J where
  toCalm := h.calm
  asked := h.asked
  linkChanged s log previous current _ hJ := h.linkChanged s log previous current hJ
  failed := h.failed
  onLinkUp := h.onLinkUp
  onDisconnected _ view _ hJ := h.consulted.onDisconnected view _ (h.linkChanged _ _ _ _ hJ)
  onEvent event _ := h.consulted.onEvent event
  onRequest := h.consulted.onRequest
  onAlarm := h.consulted.onAlarm

variable [DecidableEq τ]

theorem upholds_enter (state : LinkState) :
    Step.Upholds (AtLink J) (Link.enter state : Step σ ρ τ Unit) := by
  by_cases hdown : state = .disconnected
  · subst hdown
    exact upholds_consult h.consulted.onDisconnected
  · exact h.calm.upholds_enter state hdown

theorem upholds_transition (next : LinkState) :
    Step.Upholds (AtLink J) (Link.transition next : Step σ ρ τ Unit) :=
  h.mending.upholds_transition next

theorem upholds_handle [Outlined ρ] (errand : Errand ρ τ) :
    Step.Upholds (AtLink J) (Link.handle errand : Step σ ρ τ Unit) :=
  h.mending.upholds_handle errand fun outcome code _ =>
    h.consulted.onEvent (.commandResult outcome code)

end Steps

/-- **A lasting property holds throughout a life.**  It may speak of the whole life, if it is
lasting whatever has left the link before. -/
theorem live [ProfileSession σ ρ τ] [DecidableEq τ] [Outlined ρ] {link : Link σ ρ τ}
    (hqueue : link.queue = [])
    (h : ∀ past, Lasting (ρ := ρ) (τ := τ) fun s log => J s (past ++ log))
    (hJ : J link.session []) (impulses : List (Impulse ρ)) :
    J (link.live impulses).1.session (link.live impulses).2 := by
  have hsteady : Steady fun (link : Link σ ρ τ) log => J link.session log :=
    { aside := fun _ _ _ _ hJ => hJ
      handle := fun past errand => (h past).upholds_handle errand }
  exact hsteady.live hqueue hJ impulses

end Lasting

end Link

/-! ### Profiles that let out nothing but what is their own -/

/-- What a profile lets out: commands that are not the link's own, and reports. -/
inductive Effect.IsProfile : Effect → Prop
  | command (command : Command) (accepted : Bool) (h : ¬Link.IsOwn (.command command)) :
      IsProfile (.call (.command command) accepted)
  | report (report : Report) : IsProfile (.notice (.report report))

/-- On whatever occasion it is consulted, the profile lets out nothing but what is its own, so that
it spoils nothing about the log that this does not spoil. -/
def Discreet (σ : Type) {ρ τ : Type} [ProfileSession σ ρ τ] : Prop :=
  ∀ J : List Effect → Prop, (∀ log effect, effect.IsProfile → J log → J (log ++ [effect])) →
    ProfileUpholds σ fun desk => J desk.log

/-- What a profile keeps of what has left a link is not spoilt when the audio changes or the link
comes to be connected, if announcing the audio does not spoil it. -/
theorem ProfileUpholds.calm [ProfileSession σ ρ τ] {J : List Effect → Prop}
    (h : ProfileUpholds σ fun desk => J desk.log)
    (haudio : ∀ log previous current wideband, J log →
      J (log ++ [.notice (.audioChanged previous current wideband)])) :
    Link.Calm (ρ := ρ) (τ := τ) fun (_ : σ) log => J log where
  audioChanged _ log previous current wideband hJ := haudio log previous current wideband hJ
  onAudioChanged := h.onAudioChanged
  onConnected := h.onConnected

/-- A property of what has left a link that nothing that leaves it later can spoil. -/
def Persists (J : List Effect → Prop) : Prop := ∀ log more, J log → J (log ++ more)

/-- That something of a certain kind has left a link is never taken back. -/
theorem persists_any (p : Effect → Bool) : Persists fun log => log.any p = true := by
  intro log more h
  rw [List.any_append, h, Bool.true_or]

theorem any_snoc_iff {p : Effect → Bool} {log : List Effect} {effect : Effect} :
    (log ++ [effect]).any p = true ↔ log.any p = true ∨ p effect = true := by
  rw [List.any_append, Bool.or_eq_true, List.any_cons, List.any_nil, Bool.or_false]

/-- Whatever has left a link satisfied `P` when it left, in view of what had left before. -/
def Throughout (P : List Effect → Effect → Prop) (log : List Effect) : Prop :=
  ∀ earlier effect later, log = earlier ++ effect :: later → P earlier effect

theorem throughout_nil (P : List Effect → Effect → Prop) : Throughout P [] := by
  intro earlier effect later hsplit
  cases List.append_eq_nil_iff.1 hsplit.symm with
  | intro _ hnil => cases hnil

/-- What leaves a link next has to satisfy `P` in view of all that has left it. -/
theorem throughout_snoc {P : List Effect → Effect → Prop} {log : List Effect} {effect : Effect} :
    Throughout P (log ++ [effect]) ↔ Throughout P log ∧ P log effect := by
  constructor
  · intro h
    refine ⟨fun earlier other later hsplit => ?_, h log effect [] rfl⟩
    refine h earlier other (later ++ [effect]) ?_
    rw [hsplit, List.append_assoc, List.cons_append]
  · rintro ⟨h, hlast⟩ earlier other later hsplit
    rcases List.eq_nil_or_concat later with rfl | ⟨rest, last, rfl⟩
    · obtain ⟨rfl, hother⟩ := List.append_inj' hsplit rfl
      cases hother
      exact hlast
    · rw [List.concat_eq_append, ← List.cons_append, ← List.append_assoc] at hsplit
      exact h earlier other rest (List.append_inj' hsplit rfl).1

/-- What has left a link is never taken back. -/
theorem Discreet.lasting [ProfileSession σ ρ τ] (hdiscreet : Discreet σ) {J : List Effect → Prop}
    (hJ : Persists J) : Link.Lasting (ρ := ρ) (τ := τ) fun (_ : σ) log => J log where
  asked _ _ _ _ _ h := hJ _ _ h
  linkChanged _ _ _ _ h := hJ _ _ h
  audioChanged _ _ _ _ _ h := hJ _ _ h
  failed _ _ _ h := hJ _ _ h
  onLinkUp _ _ _ h := h
  consulted := hdiscreet J fun _ _ _ h => hJ _ _ h

end AudioLink
