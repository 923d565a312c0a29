/-
**Devices that will not do.**

When the link comes up the device says what it is able to do, and the profile says whether it will
do.  One that will not is turned down: the transport is asked once to disconnect, and the link is
never connected to it.  If the transport agrees, the link is on its way down, and an alarm bounds
this as usual; where the link was on its way down before, the alarm is the one that was armed then.
If the transport refuses, the link counts as disconnected.  Then the requests to connect that have
waited are taken up, so that it may be on its way up again by the end of the impulse.

With settings that ask for it, handsfree takes only gateways that list their calls.

Main definitions:

* `AudioLink.Link.Selective` — a profile that takes only devices that are fit;
* `AudioLink.Link.Choosy` — a link that is connected only to such a device;
* `AudioLink.Link.Arrives` — the link was told to connect, or the device may come in;
* `AudioLink.Link.SentHome` — a device was turned down and the transport has refused, and the
  requests to connect are being taken up;
* `AudioLink.Link.TurnedDown` — what becomes of a link whose device is turned down.

Main results:

* `AudioLink.Link.Selective.steady` — **a link is connected only to devices that are fit**;
* `AudioLink.Link.turnedDown_respond` — **what a link does about a device that will not do**;
* `AudioLink.Handsfree.gateways_listing` — **a gateway that does not list its calls is never
  connected**, if the settings ask for that.
-/

import AudioLink.Proofs.Handsfree.Untouched
import AudioLink.Proofs.Link.Deadlines
import AudioLink.Proofs.Link.Replay
import AudioLink.Proofs.Links

set_option relaxedAutoImplicit false
set_option autoImplicit false

namespace AudioLink

namespace Link

variable {σ ρ τ : Type} {scene : Scene} {progress : Progress σ ρ τ}

/-! ### Who is taken -/

/-- A profile that takes only devices that are fit, as long as it is strict. -/
structure Selective [ProfileSession σ ρ τ] (Strict Fit : σ → Prop) : Prop where
  strict : ProfileUpholds σ fun desk => Strict desk.session
  fit : ProfileUpholds σ fun desk => Fit desk.session
  onLinkUp : ∀ capabilities s, Strict s → Strict (ProfileSession.onLinkUp capabilities s).2
  suitable : ∀ capabilities s, Strict s →
    (ProfileSession.onLinkUp capabilities s).1 = true →
      Fit (ProfileSession.onLinkUp capabilities s).2

/-- The profile of the link is strict, and the link is connected only to a device that is fit. -/
structure Choosy (Strict Fit : σ → Prop) (link : Link σ ρ τ) : Prop where
  strict : Strict link.session
  fit : link.state = .connected → Fit link.session

section Taking

variable [ProfileSession σ ρ τ] [DecidableEq τ] {Strict Fit : σ → Prop}

/-- A report that the link is up is heeded unless the link is connected already, and a device that
is not let in is sent away. -/
theorem yields_onEvent_up {P : Progress σ ρ τ → Prop} {capabilities : Capabilities}
    (stay : P progress)
    (away : (refuse : Step σ ρ τ Unit).Yields scene progress fun _ after => P after)
    (up : progress.link.state ≠ .connected →
      (linkUp capabilities : Step σ ρ τ Unit).Yields scene progress fun _ after => P after) :
    (onEvent (.linkChanged .connected capabilities) : Step σ ρ τ Verdict).Yields scene progress
      fun _ after => P after := by
  have hadmitted (hne : progress.link.state ≠ .connected) :
      (ifAdmitted (linkUp capabilities) : Step σ ρ τ Unit).Yields scene progress
        fun _ after => P after := by
    rw [ifAdmitted, Step.yields_bind, Step.yields_read, Step.yields_bind, Step.yields_link,
      Step.yields_ite]
    split
    · exact up hne
    · exact away
  show (onLinkChanged .connected capabilities >>= _ : Step σ ρ τ Verdict).Yields scene progress _
  rw [Step.yields_bind, onLinkChanged, Step.yields_bind, Step.yields_link]
  cases hstate : progress.link.state with
  | disconnected | disconnecting => exact hadmitted (by rw [hstate]; decide)
  | connecting => exact up (by rw [hstate]; decide)
  | connected => exact stay

/-- What the profile keeps on every occasion is kept when the link moves to another state. -/
theorem upholds_transition_session (J : σ → Prop)
    (hJ : ProfileUpholds σ fun desk => J desk.session) (next : LinkState) :
    Step.Upholds (AtLink fun s _ => J s) (transition next : Step σ ρ τ Unit) := by
  have hcalm : Calm (ρ := ρ) (τ := τ) fun s (_ : List Effect) => J s :=
    ⟨fun _ _ _ _ _ h => h, hJ.onAudioChanged, hJ.onConnected⟩
  refine hcalm.upholds_transition next (fun _ _ _ _ h => h) fun _ _ view desk h => ?_
  exact hJ.onDisconnected view _ h

omit [ProfileSession σ ρ τ] [DecidableEq τ] in
/-- Whatever the profile does, the link stays choosy. -/
theorem upholds_consult_choosy {α : Type} {work : Work σ τ α}
    (hstrict : Work.Upholds (fun desk => Strict desk.session) work)
    (hfit : Work.Upholds (fun desk => Fit desk.session) work) :
    Step.Upholds (fun progress => Choosy Strict Fit progress.link)
      (Step.consult work : Step σ ρ τ α) := by
  intro scene progress hlink
  exact ⟨hstrict _ (Step.desk progress) hlink.strict,
    fun hup => hfit _ (Step.desk progress) (hlink.fit hup)⟩

namespace Selective

variable (h : Selective Strict Fit)

include h

/-- A link that moves to any state but that of a connected link stays choosy. -/
theorem yields_transition {next : LinkState} (hdown : next ≠ .connected)
    (hlink : Strict progress.link.session) :
    (transition next : Step σ ρ τ Unit).Yields scene progress fun _ after =>
      Choosy Strict Fit after.link := by
  refine Step.yields_mono (Step.yields_and.2
    ⟨upholds_transition_session Strict h.strict next scene progress hlink, yields_transition_state⟩) ?_
  rintro _ after ⟨hstrict, hstate⟩
  exact ⟨hstrict, fun hup => absurd (hstate.symm.trans hup) hdown⟩

/-- **When the link comes up, it is connected only if the device is fit.** -/
theorem yields_linkUp (capabilities : Capabilities) (hlink : Choosy Strict Fit progress.link) :
    (linkUp capabilities : Step σ ρ τ Unit).Yields scene progress fun _ after =>
      Choosy Strict Fit after.link := by
  have hstrict := h.onLinkUp capabilities _ hlink.strict
  rw [linkUp, Step.yields_bind, Step.yields_link, Step.yields_bind, Step.yields_change,
    Step.yields_ite]
  split
  · next hsuitable =>
      have hfit := h.suitable capabilities _ hlink.strict hsuitable
      refine Step.yields_mono (upholds_transition_session (fun s => Strict s ∧ Fit s)
        (h.strict.and h.fit) .connected scene _ ⟨hstrict, hfit⟩) ?_
      rintro _ after ⟨hstrict, hfit⟩
      exact ⟨hstrict, fun _ => hfit⟩
  · rw [Step.yields_bind, Step.yields_ask, Step.yields_ite]
    split
    · exact h.yields_transition (by decide) hstrict
    · exact h.yields_transition (by decide) hstrict

theorem turning : Turning (ρ := ρ) (τ := τ) fun progress => Choosy Strict Fit progress.link where
  slight f hf := fun scene progress hlink => by
    show Choosy Strict Fit (f progress.link)
    refine ⟨?_, fun hup => ?_⟩
    · rw [hf.session]
      exact hlink.strict
    · rw [hf.session]
      exact hlink.fit ((hf.state _).symm.trans hup)
  audioChanged _ _ _ := fun _ _ hlink => hlink
  onAudioChanged _ _ _ :=
    upholds_consult_choosy (h.strict.onAudioChanged _ _ _) (h.fit.onAudioChanged _ _ _)

/-- Any other message does not connect the link. -/
theorem conduct [Outlined ρ] {message : Message ρ}
    (hother : ∀ capabilities, message ≠ .event (.linkChanged .connected capabilities)) :
    Conduct scene message (fun progress : Progress σ ρ τ => Choosy Strict Fit progress.link)
      (fun progress => Choosy Strict Fit progress.link)
      fun progress => Choosy Strict Fit progress.link where
  introduce _ capabilities hdown hlink :=
    ⟨h.onLinkUp capabilities _ hlink.strict, fun hup => absurd hup hdown⟩
  ask _ _ _ hlink := hlink
  unasked _ hlink := hlink
  rise next _ hreports _ hlink := by
    obtain ⟨capabilities, rfl, -⟩ := hreports.told
    exact h.yields_transition (fun heq => hother capabilities (heq ▸ rfl)) hlink.strict
  transition next _ hup hlink := by
    refine h.yields_transition ?_ hlink.strict
    rintro rfl
    cases (hup rfl).2.1
  setAudio audio wideband progress _ _ hlink :=
    h.turning.upholds_setAudio audio wideband scene progress hlink
  defer _ _ _ hlink := ⟨hlink.strict, hlink.fit⟩
  stay _ hlink := hlink
  request request progress _ _ hlink :=
    upholds_consult_choosy (h.strict.onRequest request) (h.fit.onRequest request) scene progress hlink
  event event progress _ _ hlink :=
    upholds_consult_choosy (h.strict.onEvent event) (h.fit.onEvent event) scene progress hlink

/-- **No errand makes a link connected to a device that is not fit.** -/
theorem steady [Outlined ρ] : Steady fun (link : Link σ ρ τ) _ => Choosy Strict Fit link where
  aside _ _ _ _ hlink := ⟨hlink.strict, hlink.fit⟩
  handle past errand := by
    intro scene progress hlink
    refine yields_handle (P := fun after => Choosy Strict Fit after.link) ?_ fun _ _ hlink => hlink
    cases errand with
    | message message =>
        by_cases hup : ∃ capabilities, message = .event (.linkChanged .connected capabilities)
        · obtain ⟨capabilities, rfl⟩ := hup
          exact yields_onEvent_up (P := fun after => Choosy Strict Fit after.link) hlink hlink
            fun _ => h.yields_linkUp capabilities hlink
        · exact (h.conduct fun capabilities heq => hup ⟨capabilities, heq⟩).yields_onMessage hlink
    | alarm kind =>
        exact upholds_onAlarm (I := fun after => Choosy Strict Fit after.link)
          (fun _ _ hlink => hlink) (fun _ _ hlink => ⟨hlink.strict, hlink.fit⟩)
          (fun own => upholds_consult_choosy (h.strict.onAlarm own) (h.fit.onAlarm own)) kind scene
          progress hlink

end Selective

end Taking

/-! ### Who is turned down -/

/-- The link was told to connect, or the device may come in. -/
inductive Arrives (scene : Scene) (link : Link σ ρ τ) : Prop
  | awaited (connecting : link.state = .connecting)
  | admitted (down : link.state = .disconnected ∨ link.state = .disconnecting)
      (admits : scene.preferences.admits link.peer = true)

/-- What becomes of a link whose device is turned down: the link afterwards, and what has left
it. -/
inductive TurnedDown [DecidableEq τ] (scene : Scene) (patience : Duration) (link : Link σ ρ τ)
    (after : Link σ ρ τ × List Effect) : Prop
  /-- The transport agrees, and an alarm bounds how long it takes. -/
  | disconnecting (accepted : scene.transport [] .disconnect = true)
      (calls : after.2.filterMap Effect.call? = [(.disconnect, true)])
      (state : after.1.state = .disconnecting)
      (deadline : ∃ deadline, after.1.alarms.deadlineOf .disconnect = some deadline ∧
        if link.state = .disconnecting then link.alarms.deadlineOf .disconnect = some deadline
        else deadline = scene.now + patience)
  /-- The transport refuses.  The link is disconnected at once, and then the requests that have
  waited are taken up until the transport agrees to one of them. -/
  | disconnected (refused : scene.transport [] .disconnect = false)
      (again : List Bool) (few : again.length ≤ link.deferred.length)
      (calls : after.2.filterMap Effect.call? =
        (.disconnect, false) :: again.map (Prod.mk .connect))
      (dropped : link.state ≠ .disconnected →
        [.call .disconnect false, .notice (.linkChanged link.state .disconnected)] <+: after.2)
      (state : after.1.state = if true ∈ again then .connecting else .disconnected)

theorem Arrives.ne_connected {link : Link σ ρ τ} (h : Arrives scene link) :
    link.state ≠ .connected := by
  cases h with
  | awaited connecting =>
      rw [connecting]
      decide
  | admitted down _ =>
      rcases down with hstate | hstate
      · rw [hstate]
        decide
      · rw [hstate]
        decide

section TurningDown

variable [ProfileSession σ ρ τ] [DecidableEq τ] {post : Verdict → Progress σ ρ τ → Prop}
  {capabilities : Capabilities}

/-- The report that the link is up is heeded. -/
theorem Arrives.yields_onErrand [Outlined ρ] (h : Arrives scene progress.link) :
    (onErrand (.message (.event (.linkChanged .connected capabilities))) :
      Step σ ρ τ Verdict).Yields scene progress post ↔
        (linkUp capabilities : Step σ ρ τ Unit).Yields scene progress fun _ after =>
          post (.ok ()) after := by
  show (onLinkChanged .connected capabilities >>= _ : Step σ ρ τ Verdict).Yields scene progress _ ↔
    _
  rw [Step.yields_bind, onLinkChanged, Step.yields_bind, Step.yields_link]
  cases h with
  | awaited connecting =>
      rw [connecting]
      rfl
  | admitted down admits =>
      have hadmitted {post : Unit → Progress σ ρ τ → Prop} :
          (ifAdmitted (linkUp capabilities) : Step σ ρ τ Unit).Yields scene progress post ↔
            (linkUp capabilities : Step σ ρ τ Unit).Yields scene progress post := by
        rw [ifAdmitted, Step.yields_bind, Step.yields_read, Step.yields_bind, Step.yields_link,
          if_pos admits]
      rcases down with hstate | hstate
      · rw [hstate]
        exact hadmitted
      · rw [hstate]
        exact hadmitted

/-- A device that will not do is turned down: the transport is asked to disconnect. -/
theorem yields_linkUp_unsuitable {post : Unit → Progress σ ρ τ → Prop}
    (hunsuitable :
      (ProfileSession.onLinkUp capabilities progress.link.session).1 = false) :
    (linkUp capabilities : Step σ ρ τ Unit).Yields scene progress post ↔
      let accepted := scene.transport progress.log .disconnect
      (transition (if accepted then .disconnecting else .disconnected) :
        Step σ ρ τ Unit).Yields scene
          ⟨{ progress.link with
              session := (ProfileSession.onLinkUp capabilities progress.link.session).2 },
            progress.log ++ [.call .disconnect accepted]⟩ post := by
  rw [linkUp, Step.yields_bind, Step.yields_link, Step.yields_bind, Step.yields_change,
    hunsuitable, if_neg Bool.false_ne_true, Step.yields_bind, Step.yields_ask, Step.yields_ite]
  cases scene.transport progress.log .disconnect with
  | true => rfl
  | false => rfl

/-- A link that is not connected leaves its state without a word. -/
theorem yields_leave_unconnected {post : Progress σ ρ τ → Prop}
    (hdown : progress.link.state ≠ .connected)
    (left : ∀ alarms, post { progress with link := { progress.link with alarms := alarms } }) :
    (leave progress.link.state : Step σ ρ τ Unit).Yields scene progress fun _ after =>
      post after := by
  cases hstate : progress.link.state with
  | disconnected => exact left progress.link.alarms
  | connecting | disconnecting => exact left _
  | connected => exact absurd hstate hdown

/-- A link that is not connected moves to a transient state without a word but that it does. -/
theorem yields_transition_transient {next : LinkState} (htransient : next.isStable = false)
    (hdown : progress.link.state ≠ .connected) (hne : progress.link.state ≠ next) :
    (transition next : Step σ ρ τ Unit).Yields scene progress fun _ after =>
      after.link.state = next ∧ after.link.queue = progress.link.queue ∧
        after.log = progress.log ++ [.notice (.linkChanged progress.link.state next)] := by
  rw [yields_transition_of_ne hne]
  refine yields_leave_unconnected hdown fun alarms => ?_
  cases next with
  | disconnected | connected => cases htransient
  | connecting | disconnecting => exact ⟨rfl, rfl, rfl⟩

variable [Outlined ρ] {link : Link σ ρ τ} {patience : Duration} {since : Instant}

/-- The transport agrees to turn the device down. -/
theorem respond_turned_down (hqueue : link.queue = []) (harrives : Arrives scene link)
    (hunsuitable : (ProfileSession.onLinkUp capabilities link.session).1 = false)
    (haccepted : scene.transport [] .disconnect = true) :
    let after := link.respond (.hand scene (.event (.linkChanged .connected capabilities)))
    after.1.state = .disconnecting ∧
      after.2 = .call .disconnect true ::
        if link.state = .disconnecting then [] else
          [.notice (.linkChanged link.state .disconnecting)] := by
  refine (respond_hand (P := fun after => (after.link.state = .disconnecting ∧
    after.log = .call .disconnect true ::
      if link.state = .disconnecting then [] else
        [.notice (.linkChanged link.state .disconnecting)]) ∧ after.link.queue = []) hqueue ?_ ?_).1
  · rw [yields_handle_iff, Arrives.yields_onErrand harrives]
    refine (yields_linkUp_unsuitable hunsuitable).2 ?_
    show (transition (if scene.transport [] .disconnect then .disconnecting else .disconnected) :
      Step σ ρ τ Unit).Yields scene _ _
    rw [haccepted, if_pos rfl]
    by_cases hsame : link.state = .disconnecting
    · rw [yields_transition_of_eq hsame, if_pos hsame]
      exact ⟨⟨hsame, rfl⟩, hqueue⟩
    · rw [if_neg hsame]
      refine Step.yields_mono (yields_transition_transient rfl harrives.ne_connected hsame) ?_
      rintro _ after ⟨hstate, hidle, hlog⟩
      refine ⟨⟨hstate, ?_⟩, hidle.trans hqueue⟩
      rw [hlog]
      rfl
  · rintro progress errand rest ⟨-, hidle⟩ hcons
    cases hidle.symm.trans hcons

/-- Turning the device down takes no longer than the patience of the profile, and no longer than
was left where the link was on its way down before. -/
theorem turnedDown_accepted (hpatient : Patient σ) (hlink : OnTime patience since link)
    (harrives : Arrives scene link)
    (hunsuitable : (ProfileSession.onLinkUp capabilities link.session).1 = false)
    (haccepted : scene.transport [] .disconnect = true) :
    TurnedDown scene patience link
      (link.respond (.hand scene (.event (.linkChanged .connected capabilities)))) := by
  obtain ⟨hstate, hlog⟩ := respond_turned_down hlink.atRest.queue harrives hunsuitable haccepted
  have hdeadline := (hlink.respond hpatient
    (.hand scene (.event (.linkChanged .connected capabilities)))).disconnecting hstate
  rw [hlog] at hdeadline
  refine .disconnecting haccepted ?_ hstate ⟨_, hdeadline, ?_⟩
  · rw [hlog]
    split
    · rfl
    · rfl
  · by_cases hsame : link.state = .disconnecting
    · rw [if_pos hsame, if_pos hsame]
      exact hlink.disconnecting hsame
    · rw [if_neg hsame, if_neg hsame]
      rfl

end TurningDown

/-! ### Taking up what has waited -/

/-- The device was turned down and the transport has refused, so that the link is disconnected and
the `waiting` requests are taken up.  The transport has answered to some of them with `again`. -/
inductive SentHome (waiting : Nat) (before : LinkState) (progress : Progress σ ρ τ) : Prop
  | trying (left : Nat) (again : List Bool)
      (queue : ∃ count, progress.link.queue =
        List.replicate left (.message .connect) ++ drops count)
      (few : left + again.length ≤ waiting)
      (calls : progress.log.filterMap Effect.call? =
        (.disconnect, false) :: again.map (Prod.mk .connect))
      (dropped :
        [.call .disconnect false, .notice (.linkChanged before .disconnected)] <+: progress.log)
      (state : progress.link.state = if true ∈ again then .connecting else .disconnected)

section SendingHome

variable {waiting : Nat} {before : LinkState}

/-- What is announced asks nothing of the transport. -/
theorem calls_notice (log : List Effect) (notice : Notice) :
    (log ++ [Effect.notice notice]).filterMap Effect.call? = log.filterMap Effect.call? := by
  rw [List.filterMap_append]
  exact List.append_nil _

/-- Something is announced. -/
theorem SentHome.notice (h : SentHome waiting before progress) (notice : Notice) :
    SentHome waiting before { progress with log := progress.log ++ [.notice notice] } := by
  cases h with
  | trying left again queue few calls dropped state =>
      refine .trying left again queue few ((calls_notice _ _).trans calls) ?_ state
      exact dropped.trans (List.prefix_append ..)

/-- The transport answers to the next request, and this is announced. -/
theorem calls_answer {log : List Effect} {again : List Bool}
    (calls : log.filterMap Effect.call? = (.disconnect, false) :: again.map (Prod.mk .connect))
    (accepted : Bool) (notice : Notice) :
    (log ++ [Effect.call .connect accepted, Effect.notice notice]).filterMap Effect.call? =
      (.disconnect, false) :: (again ++ [accepted]).map (Prod.mk .connect) := by
  rw [List.filterMap_append, calls, List.map_append]
  rfl

variable [ProfileSession σ ρ τ] [DecidableEq τ] [Outlined ρ]

/-- As long as the transport has agreed to none, it is asked once more. -/
theorem yields_connect_sentHome {left count : Nat} {again : List Bool}
    (queue : progress.link.queue = List.replicate left (.message .connect) ++ drops count)
    (few : left + 1 + again.length ≤ waiting)
    (calls : progress.log.filterMap Effect.call? =
      (.disconnect, false) :: again.map (Prod.mk .connect))
    (dropped :
      [.call .disconnect false, .notice (.linkChanged before .disconnected)] <+: progress.log)
    (state : progress.link.state = .disconnected) (hnone : true ∉ again) :
    (handle (.message .connect) : Step σ ρ τ Unit).Yields scene progress fun _ after =>
      SentHome waiting before after := by
  have hmore (accepted : Bool) : left + (again ++ [accepted]).length ≤ waiting := by
    rw [List.length_append, List.length_singleton]
    omega
  refine yields_connect_disconnected state ?_ ?_
  · let agreed : Progress σ ρ τ := ⟨progress.link, progress.log ++ [.call .connect true]⟩
    have hstate : agreed.link.state = .disconnected := state
    have hmoved : (transition .connecting : Step σ ρ τ Unit).Yields scene agreed _ :=
      yields_transition_transient rfl (by rw [hstate]; decide) (by rw [hstate]; decide)
    refine Step.yields_mono hmoved ?_
    rintro _ after ⟨hconnecting, hqueue, hlog⟩
    rw [List.append_assoc] at hlog
    refine .trying left (again ++ [true]) ⟨count, hqueue.trans queue⟩ (hmore true) ?_ ?_ ?_
    · rw [hlog]
      exact calls_answer calls true _
    · rw [hlog]
      exact dropped.trans (List.prefix_append ..)
    · rw [hconnecting, if_pos (List.mem_append_right _ (List.mem_singleton_self true))]
  · refine .trying left (again ++ [false]) ⟨count, queue⟩ (hmore false)
      (calls_answer calls false _) (dropped.trans (List.prefix_append ..)) ?_
    have hstill : true ∉ again ++ [false] := fun hmem =>
      (List.mem_append.1 hmem).elim hnone fun hlast => nomatch List.mem_singleton.1 hlast
    rw [if_neg hstill]
    exact state

/-- **The requests that have waited are taken up one by one**, until the transport agrees; those
that are left wait once more. -/
theorem SentHome.yields_handle (h : SentHome waiting before progress) {errand : Errand ρ τ}
    {rest : List (Errand ρ τ)} (hcons : progress.link.queue = errand :: rest) :
    (handle errand : Step σ ρ τ Unit).Yields scene
      ⟨{ progress.link with queue := rest }, progress.log⟩ fun _ after =>
        SentHome waiting before after := by
  cases h with
  | trying left again queue few calls dropped state =>
      obtain ⟨count, hqueue⟩ := queue
      cases left with
      | zero =>
          obtain ⟨rfl, others, rfl⟩ := of_drops_eq_cons (hqueue.symm.trans hcons)
          have hdown : progress.link.state ≠ .connected := by
            rw [state]
            split
            · decide
            · decide
          refine Link.yields_handle ?_ fun _ _ h => h.notice _
          show (onDisconnectAudio : Step σ ρ τ Verdict).Yields scene _ _
          rw [onDisconnectAudio, Step.yields_bind, Step.yields_link, if_pos hdown]
          exact .trying 0 again ⟨others, rfl⟩ few calls dropped state
      | succ left =>
          obtain ⟨rfl, rfl⟩ := List.cons.inj (hqueue.symm.trans hcons)
          by_cases hagreed : true ∈ again
          · rw [if_pos hagreed] at state
            refine yields_connect_transient (by rw [state]; rfl) ?_
            refine .trying left again ⟨count, rfl⟩ (by omega) calls dropped ?_
            rw [if_pos hagreed]
            exact state
          · rw [if_neg hagreed] at state
            exact yields_connect_sentHome rfl few calls dropped state hagreed

omit [Outlined ρ] in
/-- When the transport refuses to turn the device down while the link is on its way, it comes to be
disconnected, and nothing is asked in doing so. -/
theorem yields_transition_silently (hreserved : Reserved σ)
    (hstate : progress.link.state ≠ .disconnected) (hdown : progress.link.state ≠ .connected) :
    (transition .disconnected : Step σ ρ τ Unit).Yields scene progress fun _ after =>
      after.log.filterMap Effect.call? = progress.log.filterMap Effect.call? ∧
        progress.log ++ [.notice (.linkChanged progress.link.state .disconnected)] <+:
          after.log := by
  have hreported (log : List Effect) (report : Report)
      (h : log.filterMap Effect.call? = progress.log.filterMap Effect.call? ∧
        progress.log ++ [.notice (.linkChanged progress.link.state .disconnected)] <+: log) :
      (log ++ [Effect.notice (.report report)]).filterMap Effect.call? =
          progress.log.filterMap Effect.call? ∧
        progress.log ++ [.notice (.linkChanged progress.link.state .disconnected)] <+:
          log ++ [Effect.notice (.report report)] :=
    ⟨(calls_notice _ _).trans h.1, h.2.trans (List.prefix_append ..)⟩
  rw [yields_transition_of_ne hstate]
  refine yields_leave_unconnected hdown fun alarms => ?_
  rw [Step.yields_bind, enter, Step.yields_consult]
  exact hreserved.onDisconnected _ hreported _ (Step.desk _)
    ⟨calls_notice _ _, List.prefix_refl _⟩

omit [Outlined ρ] in
/-- When the transport refuses to turn the device down while the link is on its way, the requests
that have waited are taken up. -/
theorem yields_transition_sentHome (hreserved : Reserved σ)
    (hstate : progress.link.state ≠ .disconnected) (hdown : progress.link.state ≠ .connected)
    (hqueue : progress.link.queue = [])
    (hwaiting : ∀ message ∈ progress.link.deferred, message = .connect)
    (hlog : progress.log = [.call .disconnect false]) :
    (transition .disconnected : Step σ ρ τ Unit).Yields scene progress fun _ after =>
      SentHome progress.link.deferred.length progress.link.state after := by
  refine Step.yields_mono (Step.yields_and.2
    ⟨yields_transition_moved hreserved.discreet hstate hwaiting,
      yields_transition_silently hreserved hstate hdown⟩) ?_
  rintro _ after ⟨hmoved, hcalls, hdropped⟩
  obtain ⟨count, hmore⟩ := hmoved.queue
  rw [hlog] at hcalls hdropped
  refine .trying progress.link.deferred.length [] ⟨count, ?_⟩ (Nat.le_refl _) hcalls hdropped
    hmoved.state
  have hreplayed : progress.link.deferred.map Errand.message =
      List.replicate progress.link.deferred.length (Errand.message (τ := τ) .connect) := by
    rw [List.eq_replicate_of_mem hwaiting, List.map_replicate, List.length_replicate]
  rw [hmore, if_pos rfl, hqueue, hreplayed]
  rfl

section Refused

variable {link : Link σ ρ τ} {capabilities : Capabilities} {patience : Duration}

/-- What handling the report leads to when the transport refuses to turn the device down. -/
theorem yields_handle_refused {P : Progress σ ρ τ → Prop} (harrives : Arrives scene link)
    (hunsuitable : (ProfileSession.onLinkUp capabilities link.session).1 = false)
    (hrefused : scene.transport [] .disconnect = false)
    (moved : (transition .disconnected : Step σ ρ τ Unit).Yields scene
      ⟨{ link with session := (ProfileSession.onLinkUp capabilities link.session).2 },
        [.call .disconnect false]⟩ fun _ after => P after) :
    (handle (.message (.event (.linkChanged .connected capabilities))) :
      Step σ ρ τ Unit).Yields scene ⟨link, []⟩ fun _ after => P after := by
  rw [yields_handle_iff, Arrives.yields_onErrand harrives]
  refine (yields_linkUp_unsuitable hunsuitable).2 ?_
  show (transition (if scene.transport [] .disconnect then .disconnecting else .disconnected) :
    Step σ ρ τ Unit).Yields scene ⟨_, [.call .disconnect (scene.transport [] .disconnect)]⟩ _
  rw [hrefused, if_neg Bool.false_ne_true]
  refine Step.yields_mono moved ?_
  intro _ after hafter
  rw [Verdict.told, List.append_nil]
  exact hafter

/-- The transport refuses to turn the device down, and the link is disconnected. -/
theorem turnedDown_refused (hreserved : Reserved σ) (hlink : Between link)
    (harrives : Arrives scene link)
    (hunsuitable : (ProfileSession.onLinkUp capabilities link.session).1 = false)
    (hrefused : scene.transport [] .disconnect = false) :
    TurnedDown scene patience link
      (link.respond (.hand scene (.event (.linkChanged .connected capabilities)))) := by
  have hidle := queue_respond hlink.queue
    (.hand scene (.event (.linkChanged .connected capabilities)))
  by_cases hstate : link.state = .disconnected
  · have hdone : link.respond (.hand scene (.event (.linkChanged .connected capabilities))) =
        ({ link with session := (ProfileSession.onLinkUp capabilities link.session).2 },
          [.call .disconnect false]) := by
      refine respond_hand_eq hlink.queue hlink.queue ?_
      refine yields_handle_refused (P := fun after => after = ⟨_, _⟩) harrives hunsuitable hrefused ?_
      rw [yields_transition_of_eq hstate]
    rw [hdone]
    exact .disconnected hrefused [] (Nat.zero_le _) rfl (fun hne => absurd hstate hne) hstate
  · have hsent : SentHome link.deferred.length link.state
        ⟨(link.respond (.hand scene (.event (.linkChanged .connected capabilities)))).1,
          (link.respond (.hand scene (.event (.linkChanged .connected capabilities)))).2⟩ := by
      refine respond_hand hlink.queue ?_ fun _ _ _ h hcons => h.yields_handle hcons
      refine yields_handle_refused harrives hunsuitable hrefused ?_
      exact yields_transition_sentHome hreserved hstate harrives.ne_connected hlink.queue
        hlink.deferred rfl
    cases hsent with
    | trying left again queue few calls dropped state =>
        exact .disconnected hrefused again (by omega) calls (fun _ => dropped) state

end Refused

/-- **What a link does about a device that will not do.**  It asks the transport once to disconnect,
and nothing else, the requests to connect that have waited apart. -/
theorem turnedDown_respond {link : Link σ ρ τ} {capabilities : Capabilities} {patience : Duration}
    {since : Instant} (hreserved : Reserved σ) (hpatient : Patient σ)
    (hlink : OnTime patience since link) (harrives : Arrives scene link)
    (hunsuitable : (ProfileSession.onLinkUp capabilities link.session).1 = false) :
    TurnedDown scene patience link
      (link.respond (.hand scene (.event (.linkChanged .connected capabilities)))) := by
  cases hanswer : scene.transport [] .disconnect with
  | true => exact turnedDown_accepted hpatient hlink harrives hunsuitable hanswer
  | false =>
      exact turnedDown_refused hreserved ⟨hlink.atRest.queue, hlink.atRest.deferred⟩ harrives
        hunsuitable hanswer

end SendingHome

end Link

/-! ### Gateways -/

namespace Handsfree

/-- The gateway lists its calls when asked. -/
def Listing (s : Handsfree) : Prop :=
  s.capabilities.hasFeature Capabilities.enhancedCallStatus = true

/-- When the settings ask for it, handsfree takes only gateways that list their calls. -/
theorem selective :
    Link.Selective (ρ := Request) (τ := AlarmKind)
      (fun s : Handsfree => s.settings.requireCallStatus = true) Listing where
  strict := by
    simpa only [and_true] using profile_said (K := fun _ => True) (fun _ _ _ _ => trivial)
      fun settings _ => settings.requireCallStatus = true
  fit := by
    simpa only [Listing, and_true] using profile_said (K := fun _ => True) (fun _ _ _ _ => trivial)
      fun _ capabilities => capabilities.hasFeature Capabilities.enhancedCallStatus = true
  onLinkUp _ _ hstrict := hstrict
  suitable capabilities s hstrict hsuitable := by
    have hchosen : (!s.settings.requireCallStatus ||
        capabilities.hasFeature Capabilities.enhancedCallStatus) = true := hsuitable
    rw [hstrict] at hchosen
    exact hchosen

/-- **A gateway that does not list its calls is never connected**, if the settings ask for that: at
no moment is the link connected unless the gateway has said that it lists its calls, and one that
says that it does not is turned down. -/
theorem gateways_listing (settings : HandsfreeSettings)
    (hrequired : settings.requireCallStatus = true) (issuer : Nat) (peer : Address)
    (past : List (Impulse Request)) :
    let link := ((Link.start peer (start settings issuer)).live past).1
    (link.state = .connected → Listing link.session) ∧
    (∀ impulse progress, Link.Moment link impulse progress →
      progress.link.state = .connected → Listing progress.link.session) ∧
    ∀ scene capabilities, capabilities.hasFeature Capabilities.enhancedCallStatus = false →
      Link.Arrives scene link → Link.TurnedDown scene settings.connectTimeout link
        (link.respond (.hand scene (.event (.linkChanged .connected capabilities)))) := by
  intro link
  have hstart : Link.Choosy (fun s : Handsfree => s.settings.requireCallStatus = true) Listing
      (Link.start peer (start settings issuer) : Link Handsfree Request AlarmKind) :=
    ⟨hrequired, nofun⟩
  have hlive := selective.steady.live rfl hstart past
  refine ⟨hlive.fit, fun impulse progress hmoment => ?_, fun scene capabilities hlacking => ?_⟩
  · exact (selective.steady.moment rfl hstart hmoment).fit
  · intro harrives
    have hunsuitable : (onLinkUp capabilities link.session).1 = false := by
      rw [onLinkUp, hlacking, hlive.strict]
      rfl
    exact Link.turnedDown_respond reserved patient
      (Link.onTime_live patient peer (start settings issuer) past) harrives hunsuitable

/-- The user asks twice to connect, and the gateway that comes does not list its calls. -/
def demanding : List (Impulse Request) := [.hand (obliging 0) .connect, .hand (obliging 1) .connect]

/-- With the default settings it is turned down. -/
theorem gateways_listing_demanding :
    let link := (fresh.live demanding).1
    Settings.standard.handsfree.requireCallStatus = true ∧
      link.state = .connecting ∧ link.deferred = [.connect] ∧
      Link.TurnedDown (obliging 2) Settings.standard.handsfree.connectTimeout link
        (link.respond (.hand (obliging 2) (.event (.linkChanged .connected ⟨0, 0⟩)))) := by
  intro link
  have hlink : link = ((Link.liveFor 2 fresh demanding).get rfl).1 :=
    congrArg Prod.fst (Link.live_eq_get 2 rfl)
  have hstate : link.state = .connecting := by
    rw [hlink]
    rfl
  refine ⟨rfl, hstate, ?_, ?_⟩
  · rw [hlink]
    rfl
  · exact (gateways_listing Settings.standard.handsfree rfl 0 fresh.peer demanding).2.2
      (obliging 2) ⟨0, 0⟩ rfl (.awaited hstate)

end Handsfree

end AudioLink
