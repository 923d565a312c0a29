/-
**What a listener is told of a link.**

Whoever hears everything that a link announces can follow it: the first change begins with a link
that is disconnected and has no audio, every later one begins where the last one has ended, and
nothing is announced that changes nothing.  So the listener always knows how the link stands.  The
state of the link and the announcement of it change together; nothing else leaves the link between
the two.

He may also look at the commands, and finds that none is sent while the link is disconnected.  This
takes a profile that sends nothing when the link drops out.

Main definitions:

* `AudioLink.Told`, `AudioLink.Told.after` — what a listener knows after all that has left a link;
* `AudioLink.Told.Fits` — what leaves the link next goes on from there;
* `AudioLink.Chronicle` — everything fitted when it left the link, and this is what is known now;
* `AudioLink.Link.standing` — how a link stands, as a listener may know it;
* `AudioLink.Reserved` — a profile that lets out only what is its own, and no command when the link
  drops out.

Main results:

* `AudioLink.Link.yields_transition_follows` — moving to another state is announced as it happens;
* `AudioLink.Link.upholds_handle_follows` — so is whatever an errand does;
* `AudioLink.Link.chronicle_live` — **with a reserved profile, a listener is told of everything, in
  order, and of nothing else**.
-/

import AudioLink.Proofs.Link.Lasting

set_option relaxedAutoImplicit false
set_option autoImplicit false

namespace AudioLink

/-! ### Listeners -/

/-- What a listener knows of a link. -/
structure Told where
  link : LinkState
  audio : AudioState
  /-- Whether speech is wideband, as long as the audio is on. -/
  wideband : Option Bool
  deriving DecidableEq, Repr

namespace Told

/-- What is known when nothing was announced. -/
def start : Told := ⟨.disconnected, .off, none⟩

/-- Something leaves the link; only the announcement of a change is about how the link stands. -/
def hear (told : Told) : Effect → Told
  | .notice (.linkChanged _ current) => { told with link := current }
  | .notice (.audioChanged _ current wideband) =>
      { told with audio := current, wideband := wideband }
  | .notice (.requestFailed _) | .notice (.report _) | .call _ _ => told

/-- What is known after all that has left a link. -/
def after (log : List Effect) : Told := log.foldl hear start

@[simp] theorem after_snoc (log : List Effect) (effect : Effect) :
    after (log ++ [effect]) = (after log).hear effect := by
  rw [after, List.foldl_append]
  rfl

/-- What leaves the link next goes on from what is known.  A change begins where the last one has
ended, and changes something.  Of the audio only a connected link speaks; that it is on may be said
again if speech is of another kind now.  A command needs a link. -/
def Fits (told : Told) : Effect → Prop
  | .notice (.linkChanged previous current) => previous = told.link ∧ previous ≠ current
  | .notice (.audioChanged previous current wideband) =>
      previous = told.audio ∧ told.link = .connected ∧ (wideband.isSome = true ↔ current = .on) ∧
        (previous = current → current = .on ∧ wideband ≠ told.wideband)
  | .call (.command _) _ => told.link ≠ .disconnected
  | .notice (.requestFailed _) | .notice (.report _) | .call .connect _ | .call .disconnect _ =>
      True

end Told

/-- Whatever has left a link fitted what was known before, and this is what is known now. -/
structure Chronicle (log : List Effect) (told : Told) : Prop where
  fits : Throughout (fun earlier effect => (Told.after earlier).Fits effect) log
  after : Told.after log = told

namespace Chronicle

variable {log : List Effect} {told : Told}

theorem nil : Chronicle [] .start := ⟨throughout_nil _, rfl⟩

/-- What fits goes on with the chronicle. -/
theorem snoc (h : Chronicle log told) {effect : Effect} (hfits : told.Fits effect) :
    Chronicle (log ++ [effect]) (told.hear effect) := by
  refine ⟨throughout_snoc.2 ⟨h.fits, ?_⟩, ?_⟩
  · rw [h.after]
    exact hfits
  · rw [Told.after_snoc, h.after]

theorem report (h : Chronicle log told) (report : Report) :
    Chronicle (log ++ [.notice (.report report)]) told := by
  have hfits : told.Fits (.notice (.report report)) := trivial
  exact h.snoc hfits

/-- While there is a link, what a profile lets out changes nothing about how it stands. -/
theorem profile (h : Chronicle log told) (hup : told.link ≠ .disconnected) {effect : Effect}
    (hprofile : effect.IsProfile) : Chronicle (log ++ [effect]) told := by
  cases hprofile with
  | command command accepted _ =>
      have hfits : told.Fits (.call (.command command) accepted) := hup
      exact h.snoc hfits
  | report report => exact h.report report

end Chronicle

/-! ### Reserved profiles -/

/-- A profile that lets out nothing but what is its own, and sends no more commands when the link
drops out. -/
structure Reserved (σ : Type) {ρ τ : Type} [ProfileSession σ ρ τ] : Prop where
  discreet : Discreet σ
  onDisconnected : ∀ J : List Effect → Prop,
    (∀ log report, J log → J (log ++ [.notice (.report report)])) →
    Work.Upholds (fun desk : Desk σ τ => J desk.log) ProfileSession.onDisconnected

namespace Link

variable {σ ρ τ : Type}

/-- How a link stands, as a listener may know it. -/
def standing (link : Link σ ρ τ) : Told where
  link := link.state
  audio := link.audio
  wideband := if link.audio = .on then some link.wideband else none

/-- A listener who knows what has left the link in the past, and what leaves it now, has followed it
and knows how it stands. -/
def Follows (past : List Effect) (progress : Progress σ ρ τ) : Prop :=
  Chronicle (past ++ progress.log) progress.link.standing

/-! ### Moves -/

section Moves

variable {past : List Effect} {scene : Scene} {progress : Progress σ ρ τ}

/-- What leaves the link next. -/
theorem Follows.snoc (h : Follows past progress) {effect : Effect} {link : Link σ ρ τ}
    (hfits : progress.link.standing.Fits effect)
    (hstanding : link.standing = progress.link.standing.hear effect) :
    Follows past ⟨link, progress.log ++ [effect]⟩ := by
  show Chronicle (past ++ (progress.log ++ [effect])) link.standing
  rw [← List.append_assoc, hstanding]
  exact Chronicle.snoc h hfits

/-- What is not about how the link stands leaves the listener where he is. -/
theorem follows_change {f : Link σ ρ τ → Link σ ρ τ}
    (hf : ∀ link, (f link).standing = link.standing) :
    Step.Upholds (Follows past) (Step.change f) := by
  intro scene progress h
  show Chronicle (past ++ progress.log) (f progress.link).standing
  rw [hf]
  exact h

/-- A link asks for commands to be sent only while it is connected. -/
theorem yields_ask_follows {message : Message ρ} {request : Outgoing}
    (occasion : Asks message progress.link request) (h : Follows past progress) :
    (Step.ask request : Step σ ρ τ Bool).Yields scene progress fun _ after =>
      Follows past after := by
  cases occasion with
  | connect | disconnect => exact h.snoc trivial rfl
  | connectAudio _ hstate | disconnectAudio _ hstate =>
      refine h.snoc ?_ rfl
      show progress.link.state ≠ .disconnected
      rw [hstate]
      nofun

/-- As long as there is a link, it stands as it stood, whatever the profile does at its desk. -/
theorem yields_consult_follows {α : Type} {work : Work σ τ α}
    (hwork : ∀ told : Told, told.link ≠ .disconnected →
      Work.Upholds (fun desk => Chronicle (past ++ desk.log) told) work)
    (hup : progress.link.state ≠ .disconnected) (h : Follows past progress) :
    (Step.consult work : Step σ ρ τ α).Yields scene progress fun _ after => Follows past after := by
  rw [Step.yields_consult]
  exact hwork progress.link.standing hup _ (Step.desk progress) h

variable [ProfileSession σ ρ τ] (hreserved : Reserved σ)

include hreserved

/-- While there is a link, the work of a reserved profile is not about how it stands. -/
theorem profile_follows (told : Told) (hup : told.link ≠ .disconnected) :
    ProfileUpholds σ fun desk => Chronicle (past ++ desk.log) told := by
  refine hreserved.discreet (fun log => Chronicle (past ++ log) told) ?_
  intro log effect hprofile h
  rw [← List.append_assoc]
  exact h.profile hup hprofile

/-- Nor is its work when the link drops out. -/
theorem upholds_onDisconnected_follows :
    Step.Upholds (Follows past : Progress σ ρ τ → Prop)
      (Step.consult ProfileSession.onDisconnected) := by
  intro scene progress h
  rw [Step.yields_consult]
  refine hreserved.onDisconnected (fun log => Chronicle (past ++ log) progress.link.standing) ?_ _
    (Step.desk progress) h
  intro log report h
  rw [← List.append_assoc]
  exact h.report report

/-- A connected link announces its audio, if that is altered. -/
theorem yields_setAudio_follows {audio : AudioState} {wideband : Bool}
    (hstate : progress.link.state = .connected) (halters : progress.link.Alters audio wideband)
    (h : Follows past progress) :
    (setAudio audio wideband : Step σ ρ τ Unit).Yields scene progress fun _ after =>
      Follows past after := by
  have hfits : progress.link.standing.Fits (.notice (.audioChanged progress.link.audio audio
      (if audio = .on then some (audio == .on && wideband) else none))) := by
    refine ⟨rfl, hstate, ?_, fun hsame => ?_⟩
    · by_cases hon : audio = .on
      · simp [hon]
      · simp [hon]
    · obtain ⟨hon, hwide⟩ := halters hsame.symm
      have hprevious : progress.link.audio = .on := hsame.trans hon
      simp [standing, hon, hprevious, hwide]
  rw [setAudio, Step.yields_bind, Step.yields_link, Step.yields_bind, Step.yields_change,
    Step.yields_bind, Step.yields_announce]
  refine yields_consult_follows ?_ ?_ (h.snoc hfits rfl)
  · exact fun told hup => (profile_follows hreserved told hup).onAudioChanged _ _ _
  · show progress.link.state ≠ .disconnected
    rw [hstate]
    nofun

/-- A connected link that silences its audio announces it, if there is any. -/
theorem yields_silence_follows (hstate : progress.link.state = .connected)
    (h : Follows past progress) :
    (silence : Step σ ρ τ Unit).Yields scene progress fun _ after => Follows past after := by
  rw [silence, Step.yields_bind, Step.yields_link, Step.yields_ite]
  split
  · next hon => exact yields_setAudio_follows hreserved hstate (fun hoff => absurd hoff.symm hon) h
  · exact h

variable [DecidableEq τ]

/-- On leaving a state nothing is announced but the end of the audio. -/
theorem yields_leave_follows (h : Follows past progress) :
    (leave progress.link.state : Step σ ρ τ Unit).Yields scene progress fun _ after =>
      Follows past after := by
  cases hstate : progress.link.state with
  | disconnected => exact h
  | connecting => exact follows_change (fun _ => rfl) scene progress h
  | disconnecting => exact follows_change (fun _ => rfl) scene progress h
  | connected =>
      rw [leave, Step.yields_bind]
      refine Step.yields_mono (yields_silence_follows hreserved hstate h) ?_
      intro _ after hafter
      exact follows_change (fun _ => rfl) scene after hafter

theorem yields_enter_follows {next : LinkState} (hstate : progress.link.state = next)
    (h : Follows past progress) :
    (enter next : Step σ ρ τ Unit).Yields scene progress fun _ after => Follows past after := by
  have hbound (kind : AlarmKind τ) : Step.Upholds (Follows past) (bound kind : Step σ ρ τ Unit) :=
    .bind .read fun _ => follows_change fun _ => rfl
  cases next with
  | disconnected => exact upholds_onDisconnected_follows hreserved scene progress h
  | connecting => exact hbound .connect scene progress h
  | disconnecting => exact hbound .disconnect scene progress h
  | connected =>
      rw [enter, Step.yields_bind, Step.yields_change, Step.yields_bind]
      have hsilent : (silence : Step σ ρ τ Unit).Yields scene
          { progress with link := { progress.link with
            deferred := progress.link.deferred.filter (!·.isConnect) } }
          fun _ after => Follows past after ∧ after.link.state = .connected :=
        Step.yields_and.2 ⟨yields_silence_follows hreserved hstate h,
          (turning_state .connected).upholds_silence scene _ hstate⟩
      refine Step.yields_mono hsilent ?_
      rintro _ after ⟨hafter, hconnected⟩
      refine yields_consult_follows ?_ (by rw [hconnected]; decide) hafter
      exact fun told hup => (profile_follows hreserved told hup).onConnected

/-- **Moving to another state is announced as it happens.** -/
theorem yields_transition_follows {next : LinkState} (h : Follows past progress) :
    (transition next : Step σ ρ τ Unit).Yields scene progress fun _ after =>
      Follows past after := by
  by_cases hsame : progress.link.state = next
  · rw [yields_transition_of_eq hsame]
    exact h
  · rw [yields_transition_of_ne hsame]
    have hleft : (leave progress.link.state : Step σ ρ τ Unit).Yields scene progress
        fun _ left => Follows past left ∧ left.link.state = progress.link.state :=
      Step.yields_and.2 ⟨yields_leave_follows hreserved h,
        upholds_leave_state progress.link.state progress.link.state scene progress rfl⟩
    refine Step.yields_mono hleft ?_
    rintro _ left ⟨hleft, hstate⟩
    -- the state and its announcement change together
    have hturned : Follows past ⟨{ left.link with state := next },
        left.log ++ [.notice (.linkChanged progress.link.state next)]⟩ :=
      hleft.snoc ⟨hstate.symm, hsame⟩ rfl
    rw [Step.yields_bind]
    refine Step.yields_mono (yields_enter_follows hreserved rfl hturned) ?_
    intro _ entered hentered
    rw [Step.yields_ite]
    split
    · exact follows_change (fun _ => rfl) scene entered hentered
    · exact hentered

/-! ### Errands -/

/-- Whatever a message brings about is announced. -/
theorem conduct_follows [Outlined ρ] (message : Message ρ) :
    Conduct scene message (Follows past : Progress σ ρ τ → Prop) (Follows past) (Follows past) where
  introduce _ _ _ h := h
  ask _ _ occasion h := yields_ask_follows occasion h
  unasked _ h := h
  rise _ _ _ _ h := yields_transition_follows hreserved h
  transition _ _ _ h := yields_transition_follows hreserved h
  setAudio _ _ _ hstate halters h := yields_setAudio_follows hreserved hstate halters h
  defer _ _ _ h := h
  stay _ h := h
  request request _ _ hstate h := by
    refine yields_consult_follows ?_ (by rw [hstate]; nofun) h
    exact fun told hup => (profile_follows hreserved told hup).onRequest request
  event event _ _ hup h := by
    refine yields_consult_follows ?_ hup h
    exact fun told hup => (profile_follows hreserved told hup).onEvent event

/-- **Whatever an errand does is announced as it happens.** -/
theorem upholds_handle_follows [Outlined ρ] (errand : Errand ρ τ) :
    Step.Upholds (Follows past) (handle errand : Step σ ρ τ Unit) := by
  intro scene progress h
  refine yields_handle ?_ fun _ _ h => h.snoc trivial rfl
  cases errand with
  | message message => exact (conduct_follows hreserved message).yields_onMessage h
  | alarm kind =>
      refine yields_onAlarm h (fun _ _ => h.snoc trivial rfl) (fun _ _ => h) fun own _ hstate => ?_
      refine yields_consult_follows ?_ (by rw [hstate]; nofun) h
      exact fun told hup => (profile_follows hreserved told hup).onAlarm own

theorem steady_chronicle [Outlined ρ] :
    Steady fun (link : Link σ ρ τ) log => Chronicle log link.standing where
  aside _ _ _ _ h := h
  handle _ errand := upholds_handle_follows hreserved errand

/-- **A listener is told of everything, in order, and of nothing else.** -/
theorem chronicle_live [Outlined ρ] (peer : Address) (session : σ) (impulses : List (Impulse ρ)) :
    Chronicle ((start peer session : Link σ ρ τ).live impulses).2
      ((start peer session : Link σ ρ τ).live impulses).1.standing := by
  have hstart : Chronicle [] (start peer session : Link σ ρ τ).standing := .nil
  exact (steady_chronicle hreserved).live rfl hstart impulses

end Moves

end Link

end AudioLink
