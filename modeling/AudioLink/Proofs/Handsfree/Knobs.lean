/-
**What both sides may set.**

Voice recognition is switched by the user and by the gateway, and so are the two volumes set.  About
these knobs the profile keeps what they are, as far as it needs to know: whether voice recognition is
on, which orders to switch it wait for an answer, and for either volume whether it was the gateway
that has set it last.  Nearly all that the profile does leaves them alone.  So whatever can be read
off them is at risk on a few occasions only: when the user turns a knob, when the gateway does, and
when an order to switch voice recognition is answered.  When the link drops out, all of them are let
go.

Main definitions:

* `AudioLink.Handsfree.Knobs`, `AudioLink.Handsfree.knobs` — what the profile keeps of them;
* `AudioLink.Handsfree.Request.turns`, `AudioLink.Event.turns` — the requests and the events that are
  about them;
* `AudioLink.Handsfree.Knobs.Answered` — what an answer does about them;
* `AudioLink.Handsfree.Minds` — work that leaves alone what is read off them.

Main results:

* `AudioLink.Handsfree.minds_onRequest`, `AudioLink.Handsfree.minds_onEvent` — most requests and most
  events leave them alone;
* `AudioLink.Handsfree.yields_onCommandResult_knobs` — **what an answer does about them**;
* `AudioLink.Handsfree.read_respond` — **what is read off them is only at risk when they are turned,
  and when the link drops out**.
-/

import AudioLink.Proofs.Link.Turns
import AudioLink.Proofs.Link.Errands
import AudioLink.Proofs.Profiles

set_option relaxedAutoImplicit false
set_option autoImplicit false

namespace AudioLink

/-- The events that turn a knob, or may be the answer to an order that does. -/
def Event.turns : Event → Bool
  | volumeChanged _ _ | voiceRecognition _ | commandResult _ _ => true
  | _ => false

theorem Event.isForProfile_of_turns (event : Event) (h : event.turns = true) :
    event.isForProfile = true := by
  cases event with
  | linkChanged _ _ | audioChanged _ => cases h
  | _ => rfl

namespace Handsfree

/-- The requests that turn a knob. -/
def Request.turns : Request → Bool
  | startVoiceRecognition | stopVoiceRecognition | setSpeakerVolume _ | setMicrophoneVolume _ => true
  | _ => false

/-- What an order does about voice recognition, if it is about that. -/
def Order.voice? : Order → Option Bool
  | startVoiceRecognition => some true
  | stopVoiceRecognition => some false
  | _ => none

/-- What a profile keeps of the knobs that both sides may turn. -/
structure Knobs where
  /-- Whether voice recognition is on. -/
  voice : Bool
  /-- The pending orders to switch it on or off, the oldest first. -/
  orders : List Bool
  /-- Whether the next volume of the speaker counts as an echo. -/
  speaker : Bool
  /-- The same for the microphone. -/
  microphone : Bool
  deriving DecidableEq, Repr

/-- Nothing is kept of any knob. -/
def Knobs.free : Knobs := ⟨false, [], false, false⟩

/-- The knobs of a profile. -/
def knobs (s : Handsfree) : Knobs where
  voice := s.voiceRecognition
  orders := s.ledger.actions.filterMap Order.voice?
  speaker := s.speakerEcho
  microphone := s.microphoneEcho

/-- What an answer does about the knobs: nothing, unless it is about the oldest order to switch voice
recognition.  If that has succeeded, voice recognition is as it was ordered. -/
inductive Knobs.Answered (ok : Bool) (k : Knobs) : Knobs → Prop
  | other : Answered ok k k
  | voice {active : Bool} {rest : List Bool} (oldest : k.orders = active :: rest) :
      Answered ok k { k with voice := if ok then active else k.voice, orders := rest }

/-- The work leaves alone what `read` reads off the knobs. -/
def Minds {α β : Type} (read : Knobs → β) (work : Work Handsfree AlarmKind α) : Prop :=
  ∀ value, Work.Upholds (fun desk => read (knobs desk.session) = value) work

section Work

variable {β : Type} {read : Knobs → β}

/-- Orders that wait for an answer are kept in their order. -/
theorem knobs_issue (s : Handsfree) (order : Order) (now : Instant) (accepted : Bool) :
    knobs { s with ledger := (s.ledger.issue order now accepted).2 } =
      { knobs s with orders := (knobs s).orders ++ if accepted then order.voice?.toList else [] } := by
  rw [knobs, Ledger.actions_issue]
  cases accepted with
  | true =>
      rw [if_pos rfl, if_pos rfl, List.filterMap_append]
      cases order <;> rfl
  | false => rw [if_neg Bool.false_ne_true, if_neg Bool.false_ne_true, List.append_nil]; rfl

theorem minds_update {f : Handsfree → Handsfree} (hf : ∀ s, knobs (f s) = knobs s) :
    Minds read (Work.update f) := by
  intro value view desk h
  show read (knobs (f desk.session)) = value
  rw [hf]
  exact h

theorem minds_announce (report : Report) : Minds read (Work.announce report) := fun _ _ _ h => h

/-- An order that is not about voice recognition leaves the knobs alone. -/
theorem minds_issue {order : Order} (hother : order.voice? = none) : Minds read (issue order) := by
  intro value view desk h
  rw [yields_issue]
  show read (knobs { desk.session with ledger := (desk.session.ledger.issue order view.now _).2 }) = _
  rw [knobs_issue, hother, Option.toList_none, ite_self, List.append_nil]
  exact h

theorem minds_queryCalls : Minds read queryCalls := fun value =>
  upholds_queryCalls (fun _ _ h => h) fun view desk h =>
    minds_issue rfl value view (asking desk view.now) h

theorem minds_abandonDial : Minds read abandonDial := by
  intro value view desk h
  rw [yields_abandonDial]
  exact h

theorem minds_dial (number : String) : Minds read (dial number) := fun value =>
  upholds_dial (fun _ _ _ _ _ _ h => h) (fun _ => minds_issue rfl value) (minds_queryCalls value)
    (minds_abandonDial value) number

theorem minds_surface (outcome : Outcome) (code : Option Nat) :
    Minds read (surface outcome code) :=
  minds_announce _

/-! ### Occasions -/

/-- **A request that turns no knob leaves the knobs alone.** -/
theorem minds_onRequest {request : Request} (hother : request.turns = false) :
    Minds read (onRequest request) := by
  intro value
  by_cases hcontrol : request.isControl = true
  · refine upholds_onRequest_control (fun order horder => minds_issue ?_ value) hcontrol
    cases order with
    | startVoiceRecognition | stopVoiceRecognition => cases horder
    | _ => rfl
  · cases request with
    | dial number => exact minds_dial number value
    | sendTone code => exact .ite (fun _ => minds_issue rfl value) fun _ => .pure _
    | allowAudioRoute allowed => exact fun _ _ h => yields_onRequest_allow.2 h
    | queryCalls => exact minds_queryCalls value
    | queryOperator => exact minds_issue rfl value
    | accept _ | reject | hold | terminate _ => exact absurd rfl hcontrol
    | privateMode _ | transfer => exact absurd rfl hcontrol
    | startVoiceRecognition | stopVoiceRecognition => cases hother
    | setSpeakerVolume _ | setMicrophoneVolume _ => cases hother

theorem minds_onNetworkIndicator (kind : NetworkIndicator) (level : Nat) :
    Minds read (onNetworkIndicator kind level) := by
  intro value
  cases kind with
  | serviceAvailable =>
      refine .bind (minds_update (fun _ => rfl) value) fun _ => .bind (minds_announce _ value) ?_
      intro _
      refine .ite (fun _ => minds_issue rfl value) fun _ => .bind .session fun s => ?_
      refine .ite (fun _ => .bind (minds_update (fun _ => rfl) value) fun _ => ?_) fun _ => .pure _
      exact .bind (minds_announce _ value) fun _ => .pure _
  | roaming | signalStrength | batteryLevel => exact .bind (minds_announce _ value) fun _ => .pure _

/-- **An event that turns no knob leaves the knobs alone**, and so does one that is not for the
profile at all. -/
theorem minds_onEvent {event : Event} (hother : event.turns = false) :
    Minds read (onEvent event) := by
  intro value
  have hnoted {f : Handsfree → Handsfree} (info : GatewayInfo) (hf : ∀ s, knobs (f s) = knobs s) :
      Work.Upholds (fun desk => read (knobs desk.session) = value) (do
        Work.update f
        announceInfo info
        return .ok () : Work Handsfree AlarmKind Verdict) :=
    .bind (minds_update hf value) fun _ => .bind (minds_announce _ value) fun _ => .pure _
  cases event with
  | callIndicator kind level => exact minds_queryCalls value
  | callListed report =>
      exact .bind .now fun now => .bind (minds_update (fun _ => rfl) value) fun _ => .pure _
  | networkIndicator kind level => exact minds_onNetworkIndicator kind level value
  | operatorName name => exact hnoted _ fun _ => rfl
  | subscriberNumber number => exact hnoted _ fun _ => rfl
  | inBandRing enabled => exact hnoted _ fun _ => rfl
  | codecChanged status => exact .bind .read fun _ => .pure _
  | linkChanged report capabilities => exact .bind .read fun _ => .pure _
  | audioChanged report => exact .bind .read fun _ => .pure _
  | volumeChanged _ _ | voiceRecognition _ | commandResult _ _ => cases hother

theorem minds_onConnected : Minds read onConnected := by
  intro value
  have hissued {order : Order} (hother : order.voice? = none) :
      Work.Upholds (fun desk => read (knobs desk.session) = value) (issueQuietly order) :=
    upholds_issueQuietly (minds_issue hother value)
  refine .bind .session fun s => .ite (fun _ => ?_) fun _ => hissued rfl
  exact .bind (hissued rfl) fun _ => hissued rfl

theorem minds_onAudio (previous current : AudioState) (wideband : Bool) :
    Minds read (onAudio previous current wideband) := fun value =>
  upholds_onAudio (fun _ => minds_update (fun _ => rfl) value) (fun _ => minds_announce _ value)
    (fun _ _ h => h) previous current wideband

/-- With the link all knobs are let go. -/
theorem yields_onDisconnected_knobs {view : View} {desk : Desk Handsfree AlarmKind} :
    onDisconnected.Yields view desk fun _ after => knobs after.session = .free :=
  yields_onDisconnected.2 rfl

/-! ### Answers -/

/-- The end of a list of calls leaves the knobs alone. -/
theorem minds_finishQuery : Minds read finishQuery := by
  intro value view desk h
  rw [yields_finishQuery]
  split
  · exact upholds_issueQuietly (minds_issue rfl value) view (surveyed desk view.now) h
  · exact h

/-- The answer to an order that is not about voice recognition leaves the knobs alone. -/
theorem minds_onAnswer {order : Order} (hother : order.voice? = none) (outcome : Outcome)
    (code : Option Nat) : Minds read (onAnswer order outcome code) := by
  intro value
  have hsurfaced : Work.Upholds (fun desk => read (knobs desk.session) = value) (do
      surfaceFailure outcome code
      return .ok () : Work Handsfree AlarmKind Verdict) := by
    refine .bind ?_ fun _ => .pure _
    exact .ite (fun _ => .pure _) fun _ => minds_surface outcome code value
  cases order with
  | accept action mode retried =>
      refine .ite (fun _ => .pure _) fun _ => .bind .session fun s => ?_
      cases retryFor s action retried with
      | some alternative => exact minds_issue rfl value
      | none =>
          refine .bind (minds_surface outcome code value) fun _ => ?_
          exact .ite (fun _ => .pure _) fun _ => .pure _
  | dial number =>
      refine .bind (.ite (fun _ => .pure _) fun _ => ?_) fun _ => .pure _
      exact .bind (minds_abandonDial value) fun _ => minds_surface outcome code value
  | reject action | hold action | terminate action => exact hsurfaced
  | privateMode number => exact hsurfaced
  | transfer => exact hsurfaced
  | sendTone key => exact hsurfaced
  | disableNoiseReduction | querySubscriber | queryOperator => exact .pure _
  | setVolume channel level => exact .pure _
  | queryCalls => exact minds_finishQuery value
  | startVoiceRecognition | stopVoiceRecognition => cases hother

/-- The answer to an order to switch voice recognition switches it, unless it is a failure. -/
theorem yields_onAnswer_voice {order : Order} {active : Bool} (hvoice : order.voice? = some active)
    {outcome : Outcome} {code : Option Nat} {view : View} {desk : Desk Handsfree AlarmKind} :
    (onAnswer order outcome code).Yields view desk fun _ after =>
      knobs after.session = { knobs desk.session with
        voice := if outcome.isOk then active else desk.session.voiceRecognition } := by
  have hresult : (onVoiceResult active outcome code).Yields view desk fun _ after =>
      knobs after.session = { knobs desk.session with
        voice := if outcome.isOk then active else desk.session.voiceRecognition } := by
    rw [onVoiceResult, Work.yields_ite]
    split
    · rw [Work.yields_bind, Work.yields_session, Work.yields_ite]
      split
      · rfl
      · next hsame => rw [← Decidable.not_not.1 hsame]; rfl
    · rfl
  cases order with
  | startVoiceRecognition | stopVoiceRecognition =>
      cases hvoice
      exact hresult
  | _ => cases hvoice

/-- An order that is answered waits no longer. -/
theorem knobs_struck (desk : Desk Handsfree AlarmKind) :
    knobs (struck desk).session = { knobs desk.session with
      orders := desk.session.ledger.actions.tail.filterMap Order.voice? } := by
  rw [knobs]
  show Knobs.mk _ (desk.session.ledger.resolve.2.actions.filterMap Order.voice?) _ _ = _
  rw [Ledger.actions_resolve]
  rfl

/-- The answer to the oldest order. -/
theorem yields_onAnswer_knobs {order : Order} {rest : List Order} {outcome : Outcome}
    {code : Option Nat} {view : View} {desk : Desk Handsfree AlarmKind}
    (hactions : desk.session.ledger.actions = order :: rest) :
    (onAnswer order outcome code).Yields view (struck desk) fun _ after =>
      Knobs.Answered outcome.isOk (knobs desk.session) (knobs after.session) := by
  have hstruck := knobs_struck desk
  rw [hactions, List.tail_cons] at hstruck
  cases hvoice : order.voice? with
  | none =>
      have hsame : knobs (struck desk).session = knobs desk.session := by
        rw [hstruck, knobs, hactions, List.filterMap_cons_none hvoice]
      have hminds : Minds id (onAnswer order outcome code) := minds_onAnswer hvoice outcome code
      refine Work.yields_mono (hminds _ view (struck desk) hsame) ?_
      intro _ after hafter
      show Knobs.Answered _ _ (id (knobs after.session))
      rw [hafter]
      exact .other
  | some active =>
      have horders : (knobs desk.session).orders = active :: rest.filterMap Order.voice? := by
        rw [knobs, hactions, List.filterMap_cons_some hvoice]
      refine Work.yields_mono (yields_onAnswer_voice hvoice) ?_
      intro _ after hafter
      rw [hafter, hstruck]
      exact .voice horders

/-- **What an answer does about the knobs.** -/
theorem yields_onCommandResult_knobs {outcome : Outcome} {code : Option Nat} {view : View}
    {desk : Desk Handsfree AlarmKind} :
    (onCommandResult outcome code).Yields view desk fun _ after =>
      Knobs.Answered outcome.isOk (knobs desk.session) (knobs after.session) := by
  rw [yields_onCommandResult, Ledger.front?]
  cases hactions : desk.session.ledger.actions with
  | nil =>
      have hsame : knobs (struck desk).session = knobs desk.session := by
        rw [knobs_struck, knobs, hactions]
        rfl
      show Knobs.Answered _ _ (knobs (struck desk).session)
      rw [hsame]
      exact .other
  | cons order rest => exact yields_onAnswer_knobs hactions

end Work

/-! ### Impulses -/

section Impulses

variable {β : Type} {read : Knobs → β} {value : β}

/-- What is read off the knobs is `value`, unless the link has dropped out. -/
def Reads (read : Knobs → β) (value : β) (s : Handsfree) (log : List Effect) : Prop :=
  read (knobs s) = if Link.DropsOut log then read .free else value

theorem Reads.snoc {s : Handsfree} {log : List Effect} (h : Reads read value s log)
    {effect : Effect} (hother : Link.dropsOut effect = false) :
    Reads read value s (log ++ [effect]) := by
  have hsame : Link.DropsOut (log ++ [effect]) ↔ Link.DropsOut log := by
    rw [Link.dropsOut_snoc, hother, or_iff_left Bool.false_ne_true]
  simp only [Reads, hsame]
  exact h

/-- Work that leaves the knobs alone, and does not announce that the link has dropped out, changes
nothing about what is read. -/
theorem upholds_reads {α : Type} {work : Work Handsfree AlarmKind α} (hminds : Minds read work)
    (hquiet : Link.Quiet work) :
    Work.Upholds (fun desk => Reads read value desk.session desk.log) work := by
  intro view desk h
  have hread : work.Yields view desk fun _ after =>
      read (knobs after.session) = read (knobs desk.session) := hminds _ view desk rfl
  have hlog := hquiet desk.log view desk ⟨Iff.rfl, Iff.rfl⟩
  refine Work.yields_mono (Work.yields_and.2 ⟨hread, hlog⟩) ?_
  rintro _ after ⟨hread, -, hdrops⟩
  simp only [Reads, hread, hdrops]
  exact h

/-- The link does nothing about the knobs but to let them go. -/
theorem unmoved_reads :
    Link.Unmoved (ρ := Request) (τ := AlarmKind) (Reads read value) where
  audioChanged _ _ _ _ _ h := h.snoc rfl
  onAudioChanged previous current wideband :=
    upholds_reads (minds_onAudio previous current wideband) fun log =>
      (Link.quiet_of_discreet discreet log).onAudioChanged previous current wideband
  onConnected :=
    upholds_reads minds_onConnected fun log => (Link.quiet_of_discreet discreet log).onConnected
  asked _ _ _ _ _ h := h.snoc rfl
  linkChanged s log previous current hup h := by
    refine h.snoc ?_
    cases current with
    | disconnected => exact absurd rfl hup
    | _ => rfl
  onLinkUp _ _ _ h := h
  onDisconnected previous view desk _ := by
    have hdropped : Link.DropsOut (desk.log ++ [.notice (.linkChanged previous .disconnected)]) :=
      Link.dropsOut_snoc.2 (.inr rfl)
    have hlog : (onDisconnected : Work Handsfree AlarmKind Unit).Yields view
        { desk with log := desk.log ++ [.notice (.linkChanged previous .disconnected)] }
        fun _ after => Link.DropsOut after.log :=
      yields_onDisconnected.2 (Link.persists_dropsOut _ _ hdropped)
    refine Work.yields_mono (Work.yields_and.2 ⟨yields_onDisconnected_knobs, hlog⟩) ?_
    rintro _ after ⟨hfree, hafter⟩
    rw [Reads, hfree, if_pos hafter]

/-- What is read off the knobs is only at risk when the profile hears that they are turned, and when
the link drops out. -/
theorem read_respond_of_minds {link : Link Handsfree Request AlarmKind} (hlink : Link.Between link)
    {impulse : Impulse Request}
    (hrequest : ∀ scene request, impulse = .hand scene (.request request) →
      Minds read (onRequest request))
    (hevent : ∀ scene event, impulse = .hand scene (.event event) → Minds read (onEvent event)) :
    read (knobs (link.respond impulse).1.session) =
      if Link.DropsOut (link.respond impulse).2 then read .free
      else read (knobs link.session) := by
  have hquiet (log : List Effect) := Link.quiet_of_discreet discreet log
  refine Link.Unmoved.respond unmoved_reads (fun _ _ _ h => h.snoc rfl) (fun kind => ?_) ?_ hlink
    impulse (fun scene request told => ?_) (fun scene event told => ?_) rfl
  · cases kind with
    | poll => exact upholds_reads minds_queryCalls fun log => (hquiet log).onAlarm .poll
  · exact upholds_reads (minds_onEvent rfl) fun log => (hquiet log).onEvent .linkDown
  · exact upholds_reads (hrequest scene request told) fun log => (hquiet log).onRequest request
  · exact upholds_reads (hevent scene event told) fun log => (hquiet log).onEvent event

/-- **What is read off the knobs is only at risk when they are turned**, and when the link drops out.
A request is heard only while the link is connected, and an event only while there is a link at
all. -/
theorem read_respond {link : Link Handsfree Request AlarmKind} (hlink : Link.Between link)
    {impulse : Impulse Request}
    (hrequest : ∀ scene request, impulse = .hand scene (.request request) →
      link.state = .connected → Minds read (onRequest request))
    (hevent : ∀ scene event, impulse = .hand scene (.event event) →
      link.state ≠ .disconnected → Minds read (onEvent event)) :
    read (knobs (link.respond impulse).1.session) =
      if Link.DropsOut (link.respond impulse).2 then read .free
      else read (knobs link.session) := by
  cases impulse with
  | wake scene =>
      exact read_respond_of_minds hlink (fun _ _ told => nomatch told) fun _ _ told => nomatch told
  | hand scene message =>
      cases message with
      | request request =>
          by_cases hconnected : link.state = .connected
          · exact read_respond_of_minds hlink (fun other asked told =>
              hrequest other asked told hconnected) fun _ _ told => nomatch told
          · rw [Link.respond_request_unheard hlink.queue hconnected]
            exact (if_neg Bool.false_ne_true).symm
      | event event =>
          by_cases hturns : event.turns = true
          · by_cases hdown : link.state = .disconnected
            · rw [Link.respond_event_unheard hlink.queue hdown (event.isForProfile_of_turns hturns)]
              exact (if_neg Bool.false_ne_true).symm
            · exact read_respond_of_minds hlink (fun _ _ told => nomatch told)
                fun other heard told => hevent other heard told hdown
          · refine read_respond_of_minds hlink (fun _ _ told => nomatch told)
              fun other heard told => ?_
            cases told
            exact minds_onEvent (Bool.eq_false_iff.2 hturns)
      | connect | disconnect | connectAudio | disconnectAudio =>
          exact read_respond_of_minds hlink (fun _ _ told => nomatch told)
            fun _ _ told => nomatch told

end Impulses

end Handsfree

end AudioLink
