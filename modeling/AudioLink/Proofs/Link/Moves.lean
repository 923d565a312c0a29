/-
**What a link does about a message.**

Whatever message a link is handed, what it does is put together from a few moves: it asks something
of the transport, changes its state, takes notice of its audio, lets a request to connect wait, or
shows the profile what the device is able to do; and it hands on to the profile what is for the
profile.  Each of these it does on certain occasions only.  They are gone through once, here,
message by message; every property is then a matter of the moves.

Main definitions:

* `AudioLink.Event.isForProfile`, `AudioLink.Message.reportsUp` — whether an event is for the
  profile, and whether a message reports that the link is up or comes up;
* `AudioLink.Link.IsOwn`, `AudioLink.Link.Asks` — a request that a link makes on its own account,
  and when it makes it;
* `AudioLink.Link.Reports` — what a message reports of a link that is up;
* `AudioLink.Link.Alters` — the audio would become something else than it is;
* `AudioLink.Link.Conduct` — what the moves that a message may bring about lead to, each on its
  occasions;
* `AudioLink.Link.PassiveMoves`, `AudioLink.Link.Moves` — the same with no regard to occasions, for
  messages that are not a request to connect and for all messages.

Main results:

* `AudioLink.Link.Conduct.yields_onMessage` — **where a message leads**;
* `AudioLink.Link.PassiveMoves.leads_onMessage` — where every message but a request to connect
  leads;
* `AudioLink.Link.Moves.upholds_onMessage` — every message upholds what no move spoils, if the
  profile does.
-/

import AudioLink.Proofs.Yields

set_option relaxedAutoImplicit false
set_option autoImplicit false

namespace AudioLink

/-- Whether an event is about neither the link nor its audio, and so for the profile. -/
def Event.isForProfile : Event → Bool
  | linkChanged _ _ | audioChanged _ => false
  | _ => true

/-- A link that is up, or about to be. -/
def LinkState.isUp : LinkState → Bool
  | connecting | connected => true
  | disconnected | disconnecting => false

/-- Whether a message reports that the link is up, or about to be. -/
def Message.reportsUp {ρ : Type} : Message ρ → Bool
  | event (.linkChanged report _) => report.isUp
  | _ => false

namespace Link

variable {σ ρ τ : Type}

/-! ### Occasions -/

/-- Requests that a link makes on its own account and not for its profile. -/
inductive IsOwn : Outgoing → Prop
  | connect : IsOwn .connect
  | disconnect : IsOwn .disconnect
  | connectAudio : IsOwn (.command .connectAudio)
  | disconnectAudio : IsOwn (.command .disconnectAudio)

/-- When a link asks something of the transport on its own account. -/
inductive Asks (message : Message ρ) (link : Link σ ρ τ) : Outgoing → Prop
  | connect (told : message = .connect) (state : link.state = .disconnected) :
      Asks message link .connect
  | disconnect : Asks message link .disconnect
  | connectAudio (told : message = .connectAudio) (state : link.state = .connected) :
      Asks message link (.command .connectAudio)
  | disconnectAudio (told : message = .disconnectAudio) (state : link.state = .connected) :
      Asks message link (.command .disconnectAudio)

/-- The audio would become something else than it is: another state, or speech of another kind. -/
def Alters (link : Link σ ρ τ) (audio : AudioState) (wideband : Bool) : Prop :=
  audio = link.audio → audio = .on ∧ wideband ≠ link.wideband

theorem Asks.isOwn {message : Message ρ} {link : Link σ ρ τ} {request : Outgoing}
    (h : Asks message link request) : IsOwn request := by
  cases h with
  | connect => exact .connect
  | disconnect => exact .disconnect
  | connectAudio => exact .connectAudio
  | disconnectAudio => exact .disconnectAudio

/-- Only when it is told to does a link ask to connect. -/
theorem Asks.ne_connect {message : Message ρ} {link : Link σ ρ τ} {request : Outgoing}
    (h : Asks message link request) (hne : message ≠ .connect) : request ≠ .connect := by
  rintro rfl
  cases h with
  | connect told => exact hne told

/-- What is news about the audio alters it. -/
theorem alters_of_isNews {link : Link σ ρ τ} {report : AudioReport}
    (h : isNews link report = true) : link.Alters report.audio report.wideband := by
  intro hsame
  rw [isNews, Bool.or_eq_true, Bool.and_eq_true] at h
  obtain ⟨hon, hwide⟩ := h.resolve_left (by simp [hsame])
  exact ⟨eq_of_beq hon, bne_iff_ne.1 hwide⟩

/-! ### Moves -/

variable [ProfileSession σ ρ τ] [DecidableEq τ]

/-- A message reports that the link is in the state `next`, where it is up or about to be; a device
that is connected was shown to the profile. -/
structure Reports (message : Message ρ) (link : Link σ ρ τ) (next : LinkState) : Prop where
  up : next.isUp = true
  told : ∃ capabilities, message = .event (.linkChanged next capabilities) ∧
    (next = .connected → ∃ s, link.session = (ProfileSession.onLinkUp capabilities s).2)

omit [DecidableEq τ] in
theorem Reports.reportsUp {message : Message ρ} {link : Link σ ρ τ} {next : LinkState}
    (h : Reports message link next) : message.reportsUp = true := by
  obtain ⟨capabilities, rfl, -⟩ := h.told
  exact h.up

/-- What a link does about a message leads from `Q` to `P`, each thing on the occasions on which it
is done.  The link shows the profile what the device is able to do, asks something of the transport,
which leads from `Q` to `R`, and then makes one move at most, or none. -/
structure Conduct [Outlined ρ] (scene : Scene) (message : Message ρ)
    (Q R P : Progress σ ρ τ → Prop) : Prop where
  /-- Once it is connected, the device has said what it is able to do. -/
  introduce : ∀ progress capabilities, progress.link.state ≠ .connected → Q progress →
    Q { progress with link := { progress.link with
      session := (ProfileSession.onLinkUp capabilities progress.link.session).2 } }
  ask : ∀ request progress, Asks message progress.link request → Q progress →
    (Step.ask request : Step σ ρ τ Bool).Yields scene progress fun _ after => R after
  /-- Often nothing is asked. -/
  unasked : ∀ progress, Q progress → R progress
  /-- On a report the link moves up at once, if it is up already or the device is let in. -/
  rise : ∀ next progress, Reports message progress.link next →
    progress.link.state.isUp = true ∨ scene.preferences.admits progress.link.peer = true →
    Q progress → (transition next).Yields scene progress fun _ after => P after
  /-- Otherwise it moves up only when it was told to connect and the transport has agreed. -/
  transition : ∀ next progress,
    (next.isUp = true → message = .connect ∧ next = .connecting ∧
      ∃ before, progress.log = before ++ [.call .connect true]) →
    R progress → (transition next).Yields scene progress fun _ after => P after
  /-- Only a connected link takes notice of its audio, and only of what is news. -/
  setAudio : ∀ audio wideband progress, progress.link.state = .connected →
    progress.link.Alters audio wideband → R progress →
    (setAudio audio wideband).Yields scene progress fun _ after => P after
  /-- Only in a transient state does a request to connect wait. -/
  defer : ∀ progress, message = .connect → progress.link.state.isStable = false → R progress →
    P { progress with
      link := { progress.link with deferred := progress.link.deferred ++ [.connect] } }
  stay : ∀ progress, R progress → P progress
  request : ∀ request progress, message = .request request → progress.link.state = .connected →
    R progress → (Step.consult (ProfileSession.onRequest request)).Yields scene progress
      fun _ after => P after
  event : ∀ event progress, message = .event event → progress.link.state ≠ .disconnected →
    R progress → (Step.consult (ProfileSession.onEvent event)).Yields scene progress
      fun _ after => P after

/-- What a link does on its own account about anything but a request to connect leads from `Q` to
`P`.  It asks the transport, shows the profile what the device is able to do, and then makes one
move at most, or none. -/
structure PassiveMoves (Q P : Progress σ ρ τ → Prop) : Prop where
  ask : ∀ request, IsOwn request → request ≠ .connect → Step.Leads Q Q (Step.ask request)
  introduce : ∀ progress capabilities, Q progress → Q { progress with link := { progress.link with
    session := (ProfileSession.onLinkUp capabilities progress.link.session).2 } }
  transition : ∀ next, Step.Leads Q P (transition next)
  /-- Only a connected link takes notice of its audio. -/
  setAudio : ∀ audio wideband scene progress, progress.link.state = .connected → Q progress →
    (setAudio audio wideband).Yields scene progress fun _ after => P after
  stay : ∀ progress, Q progress → P progress

/-- No move of a link spoils `I`. -/
structure Moves (I : Progress σ ρ τ → Prop) : Prop where
  ask : ∀ request, IsOwn request → Step.Upholds I (Step.ask request)
  transition : ∀ next, Step.Upholds I (transition next)
  /-- Only a connected link takes notice of its audio. -/
  setAudio : ∀ audio wideband scene progress, progress.link.state = .connected → I progress →
    (setAudio audio wideband).Yields scene progress fun _ after => I after
  /-- Only in a transient state does a request to connect wait. -/
  defer : ∀ progress, progress.link.state.isStable = false → I progress →
    I { progress with
      link := { progress.link with deferred := progress.link.deferred ++ [.connect] } }
  introduce : ∀ progress capabilities, I progress →
    I { progress with link := { progress.link with
      session := (ProfileSession.onLinkUp capabilities progress.link.session).2 } }

/-- As long as there is a link at all, an event that is for the profile is shown to it. -/
theorem yields_onErrand_event [Outlined ρ] {scene : Scene} {progress : Progress σ ρ τ}
    {event : Event} {post : Verdict → Progress σ ρ τ → Prop}
    (hup : progress.link.state ≠ .disconnected)
    (hforeign : event.isForProfile = true) :
    (onErrand (.message (.event event)) : Step σ ρ τ Verdict).Yields scene progress post ↔
      (Step.consult (ProfileSession.onEvent event)).Yields scene progress post := by
  cases event with
  | linkChanged _ _ => cases hforeign
  | audioChanged _ => cases hforeign
  | _ =>
      show (if progress.link.state = .disconnected then _ else _ :
        Step σ ρ τ Verdict).Yields scene progress post ↔ _
      rw [if_neg hup]

/-- A link that is disconnected takes no notice of an event that is for the profile. -/
theorem yields_onErrand_event_unheard [Outlined ρ] {scene : Scene} {progress : Progress σ ρ τ}
    {event : Event} {post : Verdict → Progress σ ρ τ → Prop}
    (hdown : progress.link.state = .disconnected)
    (hforeign : event.isForProfile = true) :
    (onErrand (.message (.event event)) : Step σ ρ τ Verdict).Yields scene progress post ↔
      post (.error (.unexpected .disconnected event.title)) progress := by
  cases event with
  | linkChanged _ _ => cases hforeign
  | audioChanged _ => cases hforeign
  | _ =>
      show (if progress.link.state = .disconnected then
          return .error (.unexpected progress.link.state _)
        else _ : Step σ ρ τ Verdict).Yields scene progress post ↔ _
      rw [if_pos hdown, hdown]
      rfl

/-- As long as the link is connected, a request is shown to the profile. -/
theorem yields_onErrand_request [Outlined ρ] {scene : Scene}
    {progress : Progress σ ρ τ} {request : ρ} {post : Verdict → Progress σ ρ τ → Prop}
    (hconnected : progress.link.state = .connected) :
    (onErrand (.message (.request request)) : Step σ ρ τ Verdict).Yields scene progress post ↔
      (Step.consult (ProfileSession.onRequest request)).Yields scene progress post := by
  show (if progress.link.state = .connected then _ else _ :
    Step σ ρ τ Verdict).Yields scene progress post ↔ _
  rw [if_pos hconnected]

/-- A link that is not connected turns a request down. -/
theorem yields_onErrand_request_unheard [Outlined ρ] {scene : Scene} {progress : Progress σ ρ τ}
    {request : ρ} {post : Verdict → Progress σ ρ τ → Prop}
    (hdown : progress.link.state ≠ .connected) :
    (onErrand (.message (.request request)) : Step σ ρ τ Verdict).Yields scene progress post ↔
      post (.error (.invalidState (describe request ++ " needs a connected peer, state is " ++
        Named.name progress.link.state))) progress := by
  show (if progress.link.state = .connected then _ else return .error (.invalidState _) :
    Step σ ρ τ Verdict).Yields scene progress post ↔ _
  rw [if_neg hdown]
  rfl

omit [ProfileSession σ ρ τ] [DecidableEq τ] in
/-- To drop the audio means at most to ask the transport. -/
theorem leads_onDisconnectAudio {Q P : Progress σ ρ τ → Prop}
    (hask : Step.Leads Q Q (Step.ask (.command .disconnectAudio)))
    (stay : ∀ progress, Q progress → P progress) :
    Step.Leads Q P (onDisconnectAudio : Step σ ρ τ Verdict) := by
  refine .bind .link fun link => .ite (fun _ => .pure _ stay) fun _ => ?_
  refine .ite (fun _ => .pure _ stay) fun _ => .bind hask fun _ => ?_
  exact .ite (fun _ => .pure _ stay) fun _ => .pure _ stay

omit [DecidableEq τ] in
/-- What an alarm does, in the state that it was armed for. -/
theorem yields_onAlarm {scene : Scene} {progress : Progress σ ρ τ} {kind : AlarmKind τ}
    {P : Progress σ ρ τ → Prop} (stay : P progress)
    (hconnect : kind = .connect → progress.link.state = .connecting →
      (do refuse; giveUp : Step σ ρ τ Unit).Yields scene progress fun _ after => P after)
    (hdisconnect : kind = .disconnect → progress.link.state = .disconnecting →
      (giveUp : Step σ ρ τ Unit).Yields scene progress fun _ after => P after)
    (hsession : ∀ own, kind = .session own → progress.link.state = .connected →
      (Step.consult (ProfileSession.onAlarm own)).Yields scene progress fun _ after => P after) :
    (onAlarm kind : Step σ ρ τ Verdict).Yields scene progress fun _ after => P after := by
  rw [onAlarm, Step.yields_bind, Step.yields_link]
  cases kind with
  | connect =>
      rw [Step.yields_ite]
      split
      · next hstate => exact hconnect rfl hstate
      · exact stay
  | disconnect =>
      rw [Step.yields_ite]
      split
      · next hstate => exact hdisconnect rfl hstate
      · exact stay
  | session own =>
      show (if progress.link.state = .connected then _ else _ : Step σ ρ τ Verdict).Yields scene
        progress _
      rw [Step.yields_ite]
      split
      · next hstate => exact hsession own rfl hstate
      · exact stay

omit [DecidableEq τ] in
/-- An alarm upholds what sending the device away, giving the link up and the work of the profile
uphold. -/
theorem upholds_onAlarm {I : Progress σ ρ τ → Prop}
    (hrefuse : Step.Upholds I (refuse : Step σ ρ τ Unit))
    (hgiveUp : Step.Upholds I (giveUp : Step σ ρ τ Unit))
    (hsession : ∀ kind, Step.Upholds I (Step.consult (ProfileSession.onAlarm kind)))
    (kind : AlarmKind τ) : Step.Upholds I (onAlarm kind : Step σ ρ τ Verdict) := by
  intro scene progress hI
  have hexpired : Step.Upholds I (do refuse; giveUp : Step σ ρ τ Unit) :=
    .bind hrefuse fun _ => hgiveUp
  exact yields_onAlarm hI (fun _ _ => hexpired scene progress hI)
    (fun _ _ => hgiveUp scene progress hI) fun own _ _ => hsession own scene progress hI

namespace Conduct

variable [Outlined ρ] {scene : Scene} {message : Message ρ} {Q R P : Progress σ ρ τ → Prop}
  (h : Conduct scene message Q R P) {progress : Progress σ ρ τ}

include h

theorem idle (hQ : Q progress) : P progress := h.stay progress (h.unasked progress hQ)

/-- To ask the transport leaves the link as it is. -/
theorem yields_ask {request : Outgoing} {post : Bool → Progress σ ρ τ → Prop}
    (occasion : Asks message progress.link request) (hQ : Q progress)
    (hpost : ∀ accepted, R ⟨progress.link, progress.log ++ [.call request accepted]⟩ →
      post accepted ⟨progress.link, progress.log ++ [.call request accepted]⟩) :
    (Step.ask request : Step σ ρ τ Bool).Yields scene progress post := by
  have hasked := h.ask request progress occasion hQ
  rw [Step.yields_ask] at hasked ⊢
  exact hpost _ hasked

/-! ### Requests of the user -/

theorem yields_onConnect (told : message = .connect) (hQ : Q progress) :
    (onConnect : Step σ ρ τ Verdict).Yields scene progress fun _ after => P after := by
  rw [onConnect, Step.yields_bind, Step.yields_link]
  cases hstate : progress.link.state with
  | disconnected =>
      show (Step.ask .connect >>= _ : Step σ ρ τ Verdict).Yields scene progress _
      rw [Step.yields_bind]
      refine h.yields_ask (.connect told hstate) hQ fun accepted hR => ?_
      rw [Step.yields_ite]
      split
      · next haccepted =>
          subst haccepted
          exact h.transition .connecting _ (fun _ => ⟨told, rfl, progress.log, rfl⟩) hR
      · exact h.stay _ hR
  | connecting | disconnecting =>
      exact h.defer progress told (by rw [hstate]; rfl) (h.unasked progress hQ)
  | connected => exact h.idle hQ

theorem yields_onDisconnect (hQ : Q progress) :
    (onDisconnect : Step σ ρ τ Verdict).Yields scene progress fun _ after => P after := by
  rw [onDisconnect, Step.yields_bind, Step.yields_link, Step.yields_ite]
  split
  · exact h.idle hQ
  · rw [Step.yields_bind]
    refine h.yields_ask .disconnect hQ fun accepted hR => ?_
    rw [Step.yields_ite]
    split
    · exact h.transition .disconnecting _ nofun hR
    · exact h.transition .disconnected _ nofun hR

theorem yields_onConnectAudio (told : message = .connectAudio) (hQ : Q progress) :
    (onConnectAudio : Step σ ρ τ Verdict).Yields scene progress fun _ after => P after := by
  rw [onConnectAudio, Step.yields_bind, Step.yields_link, Step.yields_ite]
  split
  · exact h.idle hQ
  · next hstate =>
      have hstate := Decidable.not_not.1 hstate
      rw [Step.yields_ite]
      split
      · exact h.idle hQ
      · next hoff =>
          rw [Step.yields_bind]
          refine h.yields_ask (.connectAudio told hstate) hQ fun accepted hR => ?_
          rw [Step.yields_ite]
          split
          · refine h.setAudio .connecting false _ hstate (fun hsame => ?_) hR
            exact absurd (hsame ▸ nofun) hoff
          · exact h.stay _ hR

theorem yields_onDisconnectAudio (told : message = .disconnectAudio) (hQ : Q progress) :
    (onDisconnectAudio : Step σ ρ τ Verdict).Yields scene progress fun _ after => P after := by
  rw [onDisconnectAudio, Step.yields_bind, Step.yields_link, Step.yields_ite]
  split
  · exact h.idle hQ
  · next hstate =>
      rw [Step.yields_ite]
      split
      · exact h.idle hQ
      · rw [Step.yields_bind]
        refine h.yields_ask (.disconnectAudio told (Decidable.not_not.1 hstate)) hQ ?_
        intro accepted hR
        rw [Step.yields_ite]
        split
        · exact h.stay _ hR
        · exact h.stay _ hR

/-- A request is for the profile. -/
theorem yields_onRequest {request : ρ} (told : message = .request request) (hQ : Q progress) :
    (onRequest request : Step σ ρ τ Verdict).Yields scene progress fun _ after => P after := by
  rw [onRequest, Step.yields_bind, Step.yields_link, Step.yields_ite]
  split
  · next hstate => exact h.request request progress told hstate (h.unasked progress hQ)
  · exact h.idle hQ

/-! ### Reports of the transport -/

theorem yields_refuse (hQ : Q progress) :
    (refuse : Step σ ρ τ Unit).Yields scene progress fun _ after => P after := by
  rw [refuse, Step.yields_bind]
  exact h.yields_ask .disconnect hQ fun _ hR => h.stay _ hR

/-- The profile hears of the capabilities before anything else is done about the link. -/
theorem yields_linkUp {capabilities : Capabilities}
    (told : message = .event (.linkChanged .connected capabilities))
    (hlet : progress.link.state.isUp = true ∨ scene.preferences.admits progress.link.peer = true)
    (hnew : progress.link.state ≠ .connected) (hQ : Q progress) :
    (linkUp capabilities : Step σ ρ τ Unit).Yields scene progress fun _ after => P after := by
  have hnoted := h.introduce progress capabilities hnew hQ
  rw [linkUp, Step.yields_bind, Step.yields_link, Step.yields_bind, Step.yields_change,
    Step.yields_ite]
  split
  · exact h.rise .connected _ ⟨rfl, capabilities, told, fun _ => ⟨_, rfl⟩⟩ hlet hnoted
  · rw [Step.yields_bind]
    refine h.yields_ask .disconnect hnoted fun accepted hR => ?_
    rw [Step.yields_ite]
    split
    · exact h.transition .disconnecting _ nofun hR
    · exact h.transition .disconnected _ nofun hR

theorem yields_ifAdmitted {next : Step σ ρ τ Unit}
    (hnext : scene.preferences.admits progress.link.peer = true →
      next.Yields scene progress fun _ after => P after) (hQ : Q progress) :
    (ifAdmitted next).Yields scene progress fun _ after => P after := by
  rw [ifAdmitted, Step.yields_bind, Step.yields_read, Step.yields_bind, Step.yields_link,
    Step.yields_ite]
  split
  · next hadmits => exact hnext hadmits
  · exact h.yields_refuse hQ

theorem yields_onLinkChanged {report : LinkState} {capabilities : Capabilities}
    (told : message = .event (.linkChanged report capabilities)) (hQ : Q progress) :
    (onLinkChanged report capabilities : Step σ ρ τ Unit).Yields scene progress
      fun _ after => P after := by
  -- what this side has not asked for needs to be admitted; what it has asked for is taken as it is
  have hcoming (hreport : report = .connecting) :
      (ifAdmitted (Link.transition .connecting) : Step σ ρ τ Unit).Yields scene progress
        fun _ after => P after := by
    refine h.yields_ifAdmitted (fun hadmits => ?_) hQ
    exact h.rise .connecting progress ⟨rfl, capabilities, hreport ▸ told, nofun⟩ (.inr hadmits) hQ
  have harrived (hreport : report = .connected) (hnew : progress.link.state ≠ .connected) :
      (ifAdmitted (linkUp capabilities) : Step σ ρ τ Unit).Yields scene progress
        fun _ after => P after := by
    refine h.yields_ifAdmitted (fun hadmits => ?_) hQ
    exact h.yields_linkUp (hreport ▸ told) (.inr hadmits) hnew hQ
  have hdown (next : LinkState) (hnext : next.isUp = false) :
      (Link.transition next : Step σ ρ τ Unit).Yields scene progress fun _ after => P after :=
    h.transition next progress (fun hup => nomatch hnext.symm.trans hup) (h.unasked progress hQ)
  rw [onLinkChanged, Step.yields_bind, Step.yields_link]
  cases hstate : progress.link.state with
  | disconnected =>
      cases report with
      | disconnected | disconnecting => exact h.idle hQ
      | connecting => exact hcoming rfl
      | connected => exact harrived rfl (by rw [hstate]; nofun)
  | connecting =>
      cases report with
      | disconnected => exact hdown .disconnected rfl
      | connecting => exact h.idle hQ
      | connected =>
          exact h.yields_linkUp told (.inl (hstate ▸ rfl)) (by rw [hstate]; nofun) hQ
      | disconnecting => exact hdown .disconnecting rfl
  | connected =>
      cases report with
      | disconnected => exact hdown .disconnected rfl
      | connecting | connected => exact h.idle hQ
      | disconnecting => exact hdown .disconnecting rfl
  | disconnecting =>
      cases report with
      | disconnected => exact hdown .disconnected rfl
      | connecting => exact hcoming rfl
      | connected => exact harrived rfl (by rw [hstate]; nofun)
      | disconnecting => exact h.idle hQ

theorem yields_onAudioReport (report : AudioReport) (hQ : Q progress) :
    (onAudioReport report : Step σ ρ τ Verdict).Yields scene progress fun _ after => P after := by
  rw [onAudioReport, Step.yields_bind, Step.yields_link, Step.yields_ite]
  split
  · exact h.idle hQ
  · next hstate =>
      rw [Step.yields_ite]
      split
      · next hnews =>
          rw [Step.yields_bind]
          exact h.setAudio _ _ progress (Decidable.not_not.1 hstate) (alters_of_isNews hnews)
            (h.unasked progress hQ)
      · exact h.idle hQ

/-- What is about neither link nor audio is for the profile. -/
theorem yields_onEvent {event : Event} (told : message = .event event) (hQ : Q progress) :
    (onEvent event : Step σ ρ τ Verdict).Yields scene progress fun _ after => P after := by
  by_cases hforeign : event.isForProfile = true
  · show (onErrand (.message (.event event)) : Step σ ρ τ Verdict).Yields scene progress _
    by_cases hdown : progress.link.state = .disconnected
    · rw [yields_onErrand_event_unheard hdown hforeign]
      exact h.idle hQ
    · rw [yields_onErrand_event hdown hforeign]
      exact h.event event progress told hdown (h.unasked progress hQ)
  · cases event with
    | linkChanged report capabilities => exact h.yields_onLinkChanged told hQ
    | audioChanged report => exact h.yields_onAudioReport report hQ
    | _ => exact absurd rfl hforeign

/-- **A message leads from `Q` to `P`**, if each move does that it may bring about. -/
theorem yields_onMessage (hQ : Q progress) :
    (onMessage message : Step σ ρ τ Verdict).Yields scene progress fun _ after => P after := by
  cases message with
  | connect => exact h.yields_onConnect rfl hQ
  | disconnect => exact h.yields_onDisconnect hQ
  | connectAudio => exact h.yields_onConnectAudio rfl hQ
  | disconnectAudio => exact h.yields_onDisconnectAudio rfl hQ
  | event event => exact h.yields_onEvent rfl hQ
  | request request => exact h.yields_onRequest rfl hQ

end Conduct

/-! ### With no regard to occasions -/

namespace PassiveMoves

variable {Q P : Progress σ ρ τ → Prop} (h : PassiveMoves Q P)

include h

theorem leads_refuse : Step.Leads Q P (refuse : Step σ ρ τ Unit) :=
  .bind (h.ask _ .disconnect nofun) fun _ => .pure _ h.stay

/-- **Every message but a request to connect leads from `Q` to `P`**, if the profile does with what
is for it. -/
theorem leads_onMessage [Outlined ρ] {message : Message ρ} (hne : message ≠ .connect)
    (hrequest : ∀ request, message = .request request →
      Step.Leads Q P (Step.consult (ProfileSession.onRequest request)))
    (hevent : ∀ event, message = .event event →
      Step.Leads Q P (Step.consult (ProfileSession.onEvent event))) :
    Step.Leads Q P (onMessage message : Step σ ρ τ Verdict) := by
  intro scene progress hQ
  have hconduct : Conduct scene message Q Q P :=
    { introduce := fun progress capabilities _ => h.introduce progress capabilities
      ask := fun request progress occasion hQ =>
        h.ask request occasion.isOwn (occasion.ne_connect hne) scene progress hQ
      unasked := fun _ hQ => hQ
      rise := fun next progress _ _ hQ => h.transition next scene progress hQ
      transition := fun next progress _ hQ => h.transition next scene progress hQ
      setAudio := fun audio wideband progress hstate _ hQ =>
        h.setAudio audio wideband scene progress hstate hQ
      defer := fun _ told _ _ => absurd told hne
      stay := h.stay
      request := fun request progress told _ hQ => hrequest request told scene progress hQ
      event := fun event progress told _ hQ => hevent event told scene progress hQ }
  exact hconduct.yields_onMessage hQ

end PassiveMoves

namespace Moves

variable {I : Progress σ ρ τ → Prop} (h : Moves I)

include h

/-- What no move spoils is still there after each of them. -/
theorem passive : PassiveMoves I I where
  ask request own _ := h.ask request own
  introduce := h.introduce
  transition := h.transition
  setAudio := h.setAudio
  stay _ := id

theorem upholds_refuse : Step.Upholds I (refuse : Step σ ρ τ Unit) :=
  h.passive.leads_refuse

/-- **Every message upholds what no move spoils**, if the profile does with what is for it. -/
theorem upholds_onMessage [Outlined ρ] {message : Message ρ}
    (hrequest : ∀ request, message = .request request →
      Step.Upholds I (Step.consult (ProfileSession.onRequest request)))
    (hevent : ∀ event, message = .event event →
      Step.Upholds I (Step.consult (ProfileSession.onEvent event))) :
    Step.Upholds I (onMessage message : Step σ ρ τ Verdict) := by
  intro scene progress hI
  have hconduct : Conduct scene message I I I :=
    { introduce := fun progress capabilities _ => h.introduce progress capabilities
      ask := fun request progress occasion hI => h.ask request occasion.isOwn scene progress hI
      unasked := fun _ hI => hI
      rise := fun next progress _ _ hI => h.transition next scene progress hI
      transition := fun next progress _ hI => h.transition next scene progress hI
      setAudio := fun audio wideband progress hstate _ hI =>
        h.setAudio audio wideband scene progress hstate hI
      defer := fun progress _ hstate hI => h.defer progress hstate hI
      stay := fun _ hI => hI
      request := fun request progress told _ hI => hrequest request told scene progress hI
      event := fun event progress told _ hI => hevent event told scene progress hI }
  exact hconduct.yields_onMessage hI

end Moves

end Link

end AudioLink
